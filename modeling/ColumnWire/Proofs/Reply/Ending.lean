import ColumnWire.Proofs.Block.Storage
import ColumnWire.Proofs.Reply.Failure
import ColumnWire.Proofs.Stream.Rounds

/-!
# Decoding ends

Reading a reply is a loop over packets, in which there are loops over the records of an exception
and over the columns of a block, in those loops over the cells of a column, and in all of them loops
over frames and digits. Each of them is `Loop.Sound`: on every stream, and whatever it announces,
each ends, and brings the reader forward in every round after which it goes on.
-/
namespace ColumnWire

variable {σ : Type} [Source σ]

/-! ## Cells and columns -/

namespace Builder

/-- The cells of a column that has them one after another. -/
def cellLoop {α : Type} (item : Decoder σ α) :
    Loop σ (Nat × Reader σ × Array α) (EStateM.Result Error (Reader σ × Array α) Unit) :=
  countLoop item Array.push (pushes item)

theorem sound_cellLoop {α : Type} {item : Decoder σ α} (h : Consumes id item 1) :
    (cellLoop item).Sound := sound_countLoop h rfl (pushes_succ item)

end Builder

namespace Block

/-- The columns of a block. -/
def columnLoop (rows : Nat) :
    Loop σ (Nat × Reader σ × Block) (EStateM.Result Error (Reader σ × Block) Unit) :=
  Builder.countLoop (readColumn rows) (fun b c => { b with columns := b.columns.push c })
    (readColumns rows)

/-- Reading columns ends, however many are announced, and however many rows they have. -/
theorem sound_columnLoop (rows : Nat) : (columnLoop (σ := σ) rows).Sound :=
  Builder.sound_countLoop ((consumes_readColumn rows).weaken (Nat.le_add_right 1 rows)) rfl
    fun _ => rfl

end Block

/-! ## Records -/

namespace ServerException

/-- Records are read up to the end of a chain, while there is room for them. -/
def recordLoop (limit : Nat) :
    Loop σ (Nat × List ExceptionRecord × Reader σ)
      (EStateM.Result Error (Reader σ) ServerException) where
  round := fun (room, outer, rd) =>
    match room with
    | 0 => .ended (.error (.exceptionTooDeep limit) rd)
    | room + 1 =>
      match readRecord rd with
      | .error e rd' => .ended (.error e rd')
      | .ok (r, more) rd' =>
        if more then .again (room, r :: outer, rd')
        else .ended (.ok (outer.foldl under ⟨r, []⟩) rd')
  run := fun (room, outer, rd) => readFrom limit room outer rd
  reader := fun (_, _, rd) => rd
  Holds := fun (_, _, rd) => rd.Outside
  bound := fun (room, _, rd) => min room (Source.size rd.source)

theorem readFrom_eq (limit room : Nat) (outer : List ExceptionRecord) (rd : Reader σ) :
    readFrom limit room outer rd =
      ((recordLoop limit).round (room, outer, rd)).followedBy (recordLoop limit).run := by
  cases room with
  | zero => rfl
  | succ room =>
    show EStateM.bind _ _ _ = _
    simp only [recordLoop, EStateM.bind]
    rcases readRecord rd with ⟨⟨r, more⟩, rd'⟩ | ⟨e, rd'⟩
    · cases more <;> rfl
    · rfl

theorem consumes_readRecord : Consumes id (readRecord (σ := σ)) 1 := by
  refine (Decoder.consumes_int32.weaken (by decide)).bindLeft fun _ => ?_
  refine (Decoder.consumes_text.weaken (Nat.zero_le _)).bindLeft fun _ => ?_
  refine (Decoder.consumes_text.weaken (Nat.zero_le _)).bindLeft fun _ => ?_
  refine (Decoder.consumes_text.weaken (Nat.zero_le _)).bindLeft fun _ => ?_
  exact (Decoder.consumes_bool.weaken (Nat.zero_le _)).bindLeft fun _ => .ofPure _

/-- Reading an exception ends, however many records there are. -/
theorem sound_recordLoop (limit : Nat) : (recordLoop (σ := σ) limit).Sound := by
  refine Loop.sound_of_step (fun (room, outer, rd) => readFrom_eq limit room outer rd) ?_
  rintro ⟨room, outer, rd⟩ s' hout hround
  cases room with
  | zero => cases hround
  | succ room =>
    simp only [recordLoop] at hround hout ⊢
    rcases hrecord : readRecord rd with ⟨⟨r, more⟩, rd'⟩ | ⟨e, rd'⟩
    · rw [hrecord] at hround
      cases more with
      | false => cases hround
      | true =>
        cases hround
        obtain ⟨bs, hbs, hsome⟩ := consumes_readRecord.of_ok hrecord
        obtain ⟨hsize, hout', -⟩ := hbs.size_add_le hout
        simp only [id] at hsize
        exact ⟨hout', hbs.advanced hsome, by simp only; omega⟩
    · rw [hrecord] at hround
      cases hround

end ServerException

/-! ## Packets -/

namespace Policy

variable {α : Type}

/-- Packets are read until the policy is done. -/
def packetLoop (p : Policy α) (limit : Nat) :
    Loop σ (Reader σ × Tray) (EStateM.Result Error (Reader σ × Tray) α) where
  round := fun s =>
    match p.packet limit s with
    | .error e s' => .ended (.error e s')
    | .ok (some a) s' => .ended (.ok a s')
    | .ok none s' => .again s'
  run := p.run limit
  reader := Prod.fst
  Holds := fun s => s.1.Outside
  bound := fun s => Source.size s.1.source

theorem run_eq (p : Policy α) (limit : Nat) (s : Reader σ × Tray) :
    p.run limit s = ((p.packetLoop limit).round s).followedBy (p.packetLoop limit).run := by
  simp only [packetLoop]
  rcases hpacket : p.packet limit s with ⟨_ | a, s'⟩ | ⟨e, s'⟩
  · exact run_of_goOn hpacket
  · exact run_of_done hpacket
  · exact run_of_error hpacket

/-- **Reading a reply ends**, for every policy and whatever the stream holds. -/
theorem sound_packetLoop (p : Policy α) (limit : Nat) : (p.packetLoop (σ := σ) limit).Sound := by
  refine Loop.sound_of_step (run_eq p limit) ?_
  intro s s' hout hround
  simp only [packetLoop] at hround hout ⊢
  rcases hpacket : p.packet limit s with ⟨_ | a, s₁⟩ | ⟨e, s₁⟩
  · rw [hpacket] at hround
    cases hround
    have hout' := (outside_packet limit).of_ok hout hpacket
    have hspent := (p.spends_packet limit).of_ok hpacket
    have hregion : s.1.region = none := hout
    have hregion' : s'.1.region = none := hout'
    simp only [Builder.left, Reader.left, hregion, hregion'] at hspent
    exact ⟨hout', .inl (by omega), by omega⟩
  · rw [hpacket] at hround
    cases hround
  · rw [hpacket] at hround
    cases hround

end Policy

/-- **Decoding ends on every stream, and stores no more than was sent.** All loops of reading a
reply are sound. And when a block is read in place of an empty one, which may fail, it holds at most
as many columns and cells as payload was used up; without compression, that is as bytes came off the
source. -/
theorem decoding_ends (σ : Type) [Source σ] :
    (∀ {α : Type} (p : Policy α) (limit : Nat), (p.packetLoop (σ := σ) limit).Sound) ∧
      (∀ limit : Nat, (ServerException.recordLoop (σ := σ) limit).Sound) ∧
      (∀ rows : Nat, (Block.columnLoop (σ := σ) rows).Sound) ∧
      (Builder.cellLoop (Decoder.text (σ := σ))).Sound ∧
      (∀ {name : String} {width : Nat}, ColumnType.parse? name = some (.fixedString width) →
        (Builder.cellLoop (Decoder.bytes (σ := σ) width)).Sound) ∧
      (Decoder.frameLoop (σ := σ)).Sound ∧ (Decoder.digitLoop (σ := σ)).Sound ∧
      (∀ {rd rd' : Reader σ} {b : Block}, (Block.readInto (rd, .empty) = .ok () (rd', b) ∨
          ∃ e, Block.readInto (rd, .empty) = .error e (rd', b)) →
        Block.PaidFor rd b rd' ∧ (rd.Outside → rd.compression = false →
          Source.size rd'.source + b.stored ≤ Source.size rd.source)) := by
  refine ⟨fun p limit => p.sound_packetLoop limit, ServerException.sound_recordLoop,
    Block.sound_columnLoop, Builder.sound_cellLoop Decoder.consumes_text, fun hname => ?_,
    Decoder.sound_frameLoop, Decoder.sound_digitLoop, fun {rd rd' b} h => ?_⟩
  · have hwidth := ColumnType.width_pos hname
    exact Builder.sound_cellLoop ((Decoder.consumes_bytes _).weaken hwidth)
  · have hpaid : Block.PaidFor rd b rd' := by
      rcases h with h | ⟨e, h⟩
      · exact (Block.stored_readInto rd).1 h
      · exact (Block.stored_readInto rd).2 h
    exact ⟨hpaid, hpaid.size_add_le⟩

/-- The most columns and rows there may be are announced, and nothing else is sent. -/
example :
    Block.readInto ((⟨⟨[0, 1, 0, 2, 255, 255, 255, 255, 0, 128, 128, 4, 128, 128, 128, 128, 4],
      .closed⟩, none, false, none⟩ : Reader Cursor), .empty) =
      .error (.io .closed) (⟨⟨[], .closed⟩, none, false, none⟩, { rows := 1073741824 }) := by cbv

end ColumnWire
