import ColumnWire.Proofs.Block.Validity
import ColumnWire.Proofs.Stream.Consumption
import Mathlib.Algebra.GroupWithZero.Nat

/-!
# What a block stores was sent

A stream may announce more columns and rows than it has. Every cell of every type takes at least one
byte, and so does a column, so reading a block uses up at least as much payload as it stores:
`stored_readInto` says this of a block that could be read and of one that could not, of which the
columns remain that were whole.
-/
namespace ColumnWire

open Reader (Consumed)

variable {σ : Type} [Source σ]

namespace Builder

variable {α β γ : Type} {n : Nat}

theorem consumes_reading {d : Decoder σ α} (h : Consumes id d n) :
    Consumes Prod.fst (reading (β := β) d) n where
  of_ok hd := by
    obtain ⟨rd, hread, rfl⟩ := reading_eq_ok hd
    exact h.of_ok hread
  of_error hd := by
    obtain ⟨rd, hread, rfl⟩ := reading_eq_error hd
    exact h.of_error hread

theorem consumes_put (b : β) : Consumes Prod.fst (put (σ := σ) b) 0 where
  of_ok h := by
    cases h
    exact ⟨[], .nothing, Nat.le_refl _⟩
  of_error h := nomatch h

theorem consumes_update (f : β → β) : Consumes Prod.fst (update (σ := σ) f) 0 where
  of_ok h := by
    cases h
    exact ⟨[], .nothing, Nat.le_refl _⟩
  of_error h := nomatch h

theorem consumes_within {wrap : γ → β} {start : γ} {part : Builder σ γ α}
    (h : Consumes Prod.fst part n) : Consumes Prod.fst (within wrap start part) n where
  of_ok hd := by
    obtain ⟨c, hpart, -⟩ := within_eq_ok hd
    exact h.of_ok hpart
  of_error hd := by
    obtain ⟨c, hpart, -⟩ := within_eq_error hd
    exact h.of_error hpart

theorem consumes_fresh {start : β} {whole : Builder σ β Unit} (h : Consumes Prod.fst whole n) :
    Consumes id (fresh start whole) n where
  of_ok hd := h.of_ok (fresh_eq_ok hd)
  of_error hd := by
    obtain ⟨b, hwhole⟩ := fresh_eq_error hd
    exact h.of_error hwhole

theorem consumes_pushes {item : Decoder σ α} (h : Consumes id item n) (count : Nat) :
    Consumes Prod.fst (pushes item count) (n * count) := by
  induction count with
  | zero => exact .ofPure ()
  | succ count ih =>
    have hrest (a : α) : Consumes Prod.fst (update (·.push a) >>= fun _ => pushes item count)
        (0 + n * count) := (consumes_update _).bind fun _ => ih
    rw [pushes_succ, Nat.mul_succ, Nat.add_comm]
    refine (consumes_reading h).bind fun a => (hrest a).weaken ?_
    exact Nat.le_of_eq (Nat.zero_add _).symm

end Builder

/-- A width in the name of a type is not zero. -/
theorem ColumnType.width_pos {name : String} {width : Nat}
    (h : parse? name = some (.fixedString width)) : 0 < width := by
  have hread : width? name.toList = some width := by
    unfold parse? at h
    split at h
    · cases h
    · split at h
      · cases h
      split at h
      · cases h
      split at h
      · cases h
      · simpa using h
  unfold width? at hread
  simp only at hread
  split at hread
  · split at hread
    · split at hread
      · split at hread
        · cases hread
        · next hzero =>
          cases hread
          exact Nat.pos_of_ne_zero hzero
      · cases hread
    · cases hread
  · cases hread

namespace ColumnData

theorem consumes_read {name : String} {type : ColumnType} (h : ColumnType.parse? name = some type)
    (rows : Nat) : Consumes id (read (σ := σ) type rows) rows := by
  refine Builder.consumes_fresh ?_
  cases type with
  | scalar kind =>
    refine Consumes.bindLeft (Builder.consumes_reading ?_) fun _ => Builder.consumes_put _
    refine Consumes.weaken ?_ (Nat.le_mul_of_pos_left rows kind.size_pos)
    exact .ofIte (.ofThrow _) (Decoder.consumes_bytes _)
  | string =>
    refine Consumes.weaken ?_ (Nat.le_of_eq (Nat.one_mul rows).symm)
    exact Builder.consumes_within (Builder.consumes_pushes Decoder.consumes_text rows)
  | fixedString width =>
    refine Consumes.weaken ?_ (Nat.le_mul_of_pos_left rows (ColumnType.width_pos h))
    exact Builder.consumes_within (Builder.consumes_pushes (Decoder.consumes_bytes width) rows)

end ColumnData

namespace Reader

/-- A call used up one payload in front of a region and another one inside, if it got there. -/
def UsedUp (rd : Reader σ) (front inside : Bytes) (rd' : Reader σ) : Prop :=
  Consumed rd front rd' ∧ inside = [] ∨ ∃ rd₁ rd₂, Consumed rd front rd₁ ∧
    Consumed rd₁.beginCompressed inside rd₂ ∧ rd' = rd₂.endCompressed

/-- Without compression both came off the source. -/
theorem UsedUp.size_add_le {rd rd' : Reader σ} {front inside : Bytes}
    (h : rd.UsedUp front inside rd') (hout : rd.Outside) (hplain : rd.compression = false) :
    Source.size rd'.source + (front.length + inside.length) ≤ Source.size rd.source := by
  rcases h with ⟨h, rfl⟩ | ⟨rd₁, rd₂, hfront, hinside, rfl⟩
  · exact (h.size_add_le hout).1
  · obtain ⟨hsize, hout₁, hplain₁⟩ := hfront.size_add_le hout
    rw [hplain] at hplain₁
    have hbegin : rd₁.beginCompressed = rd₁ := by simp [beginCompressed, hplain₁]
    rw [hbegin] at hinside
    obtain ⟨hsize', -⟩ := hinside.size_add_le hout₁
    have hend : rd₂.endCompressed.source = rd₂.source := rfl
    rw [hend]
    omega

end Reader

namespace Block

/-! ## Columns and their cells -/

/-- What a block stores: its columns, and all their cells. -/
def stored (b : Block) : Nat := b.columns.size + (b.columns.toList.map (·.data.size)).sum

@[simp] theorem stored_of_rows (rows : Nat) : stored { rows } = 0 := rfl

@[simp] theorem stored_empty : stored .empty = 0 := rfl

theorem stored_push (b : Block) (c : Column) :
    stored { b with columns := b.columns.push c } = b.stored + (1 + c.data.size) := by
  simp only [stored, Array.size_push, Array.toList_push, List.map_append, List.map_singleton,
    List.sum_append, List.sum_singleton]
  omega

/-- A column costs a byte for its name and one for its type, besides its cells. -/
theorem consumes_readColumn (rows : Nat) : Consumes id (readColumn (σ := σ) rows) (1 + rows) := by
  refine Decoder.consumes_text.bind fun _ => ?_
  refine .ofIte (.ofThrow _) ?_
  refine Consumes.weaken (Decoder.consumes_text.bind (n := rows) fun typeName => ?_) (by omega)
  refine .ofIte (.ofThrow _) ?_
  cases htype : ColumnType.parse? typeName with
  | none => exact .ofThrow _
  | some type => exact (ColumnData.consumes_read htype rows).bindLeft fun _ => .ofPure _

theorem consumes_limitedCount (limit : Nat) (fault : Nat → Nat → WireFault) :
    Consumes id (limitedCount (σ := σ) limit fault) 1 :=
  Decoder.consumes_varint.bindLeft fun _ => .ofIte (.ofPure _) (.ofThrow _)

theorem consumes_expectField (expected : UInt64) : Consumes id (expectField (σ := σ) expected) 1 :=
  Decoder.consumes_varint.bindLeft fun _ => .ofIte (.ofPure _) (.ofThrow _)

theorem consumes_skipInfo : Consumes id (skipInfo (σ := σ)) 1 := by
  refine (consumes_expectField _).bindLeft fun _ => ?_
  refine (Decoder.consumes_bool.weaken (Nat.zero_le _)).bindLeft fun _ => ?_
  refine ((consumes_expectField _).weaken (Nat.zero_le _)).bindLeft fun _ => ?_
  refine (Decoder.consumes_int32.weaken (Nat.zero_le _)).bindLeft fun _ => ?_
  exact (consumes_expectField _).weaken (Nat.zero_le _)

/-- What comes to be stored is paid for with payload, also on failure. -/
structure Pays {α : Type} (x : Builder σ Block α) : Prop where
  of_ok : ∀ {s s' : Reader σ × Block} {a : α}, x s = .ok a s' →
    ∃ bs, Consumed s.1 bs s'.1 ∧ s'.2.stored ≤ s.2.stored + bs.length
  of_error : ∀ {s s' : Reader σ × Block} {e : Error}, x s = .error e s' →
    ∃ bs, Consumed s.1 bs s'.1 ∧ s'.2.stored ≤ s.2.stored + bs.length

theorem Pays.bind {α β : Type} {x : Builder σ Block α} {f : α → Builder σ Block β} (hx : Pays x)
    (hf : ∀ a, Pays (f a)) : Pays (x >>= f) where
  of_ok h := by
    obtain ⟨a, s₁, h₁, h₂⟩ := bind_eq_ok.mp h
    obtain ⟨first, hfirst, hstored⟩ := hx.of_ok h₁
    obtain ⟨second, hsecond, hstored'⟩ := (hf a).of_ok h₂
    refine ⟨first ++ second, hfirst.append hsecond, ?_⟩
    rw [List.length_append]
    omega
  of_error h := by
    rcases bind_eq_error.mp h with h | ⟨a, s₁, h₁, h₂⟩
    · exact hx.of_error h
    · obtain ⟨first, hfirst, hstored⟩ := hx.of_ok h₁
      obtain ⟨second, hsecond, hstored'⟩ := (hf a).of_error h₂
      refine ⟨first ++ second, hfirst.append hsecond, ?_⟩
      rw [List.length_append]
      omega

theorem pays_pure {α : Type} (a : α) : Pays (pure a : Builder σ Block α) where
  of_ok h := by
    obtain ⟨-, rfl⟩ := pure_eq_ok.mp h
    exact ⟨[], .nothing, Nat.le_refl _⟩
  of_error h := absurd h pure_ne_error

/-- Reading alone stores nothing. -/
theorem pays_reading {α : Type} {d : Decoder σ α} {n : Nat} (h : Consumes id d n) :
    Pays (Builder.reading d) where
  of_ok hd := by
    obtain ⟨rd, hread, rfl⟩ := Builder.reading_eq_ok hd
    obtain ⟨bs, hbs, -⟩ := h.of_ok hread
    exact ⟨bs, hbs, Nat.le_add_right _ _⟩
  of_error hd := by
    obtain ⟨rd, hread, rfl⟩ := Builder.reading_eq_error hd
    obtain ⟨bs, hbs⟩ := h.of_error hread
    exact ⟨bs, hbs, Nat.le_add_right _ _⟩

theorem pays_put {b : Block} (hb : b.stored = 0) : Pays (Builder.put (σ := σ) b) where
  of_ok h := by
    cases h
    exact ⟨[], .nothing, by simp [hb]⟩
  of_error h := nomatch h

/-- A column that is read pays for itself and its cells, and only then it is added. -/
theorem pays_addColumn (rows : Nat) :
    Pays (Builder.reading (σ := σ) (readColumn rows) >>= fun c =>
      Builder.update fun b => { b with columns := b.columns.push c }) where
  of_ok h := by
    obtain ⟨c, s₁, hread, hupdate⟩ := bind_eq_ok.mp h
    obtain ⟨rd, hcolumn, rfl⟩ := Builder.reading_eq_ok hread
    cases hupdate
    obtain ⟨bs, hbs, hlength⟩ := (consumes_readColumn rows).of_ok hcolumn
    refine ⟨bs, hbs, ?_⟩
    rw [stored_push, (yields_readColumn rows hcolumn).size_eq]
    omega
  of_error h := by
    rcases bind_eq_error.mp h with hread | ⟨c, s₁, -, hupdate⟩
    · exact (pays_reading (consumes_readColumn rows)).of_error hread
    · cases hupdate

theorem pays_readColumns (rows count : Nat) : Pays (readColumns (σ := σ) rows count) := by
  induction count with
  | zero => exact pays_pure ()
  | succ count ih =>
    have hassoc : readColumns (σ := σ) rows (count + 1) =
        (Builder.reading (readColumn rows) >>= fun c =>
          Builder.update fun b => { b with columns := b.columns.push c }) >>= fun _ =>
            readColumns rows count := by
      rw [bind_assoc]
      rfl
    rw [hassoc]
    exact (pays_addColumn rows).bind fun _ => ih

theorem pays_readBody : Pays (readBody (σ := σ)) :=
  (pays_reading (consumes_limitedCount _ _)).bind fun columns =>
    (pays_reading (consumes_limitedCount _ _)).bind fun rows =>
      (pays_put (stored_of_rows rows)).bind fun _ => pays_readColumns rows columns

/-- What a block stores was paid for inside the region, by a call that reads it. -/
def PaidFor (rd : Reader σ) (b : Block) (rd' : Reader σ) : Prop :=
  ∃ front inside, rd.UsedUp front inside rd' ∧ b.stored ≤ inside.length

/-- Without compression it was paid for with bytes of the source. -/
theorem PaidFor.size_add_le {rd rd' : Reader σ} {b : Block} (h : PaidFor rd b rd')
    (hout : rd.Outside) (hplain : rd.compression = false) :
    Source.size rd'.source + b.stored ≤ Source.size rd.source := by
  obtain ⟨front, inside, hused, hstored⟩ := h
  have hsize := hused.size_add_le hout hplain
  omega

theorem pays_body : Pays (Builder.reading (skipInfo (σ := σ)) >>= fun _ => readBody) :=
  (pays_reading consumes_skipInfo).bind fun _ => pays_readBody

/-- **No more is stored than was sent.** However many columns and rows are announced, and whether
the block can be read or not, one that was empty holds at most as many columns and cells afterwards
as payload was used up. -/
theorem stored_readInto (rd : Reader σ) :
    (∀ {rd' : Reader σ} {b : Block}, readInto (rd, .empty) = .ok () (rd', b) → PaidFor rd b rd') ∧
    ∀ {e : Error} {rd' : Reader σ} {b : Block}, readInto (rd, .empty) = .error e (rd', b) →
      PaidFor rd b rd' := by
  have hinside {front bs : Bytes} {rd₁ rd₂ : Reader σ} {b : Block} (hfront : Consumed rd front rd₁)
      (hbs : Consumed rd₁.beginCompressed bs rd₂) (hstored : b.stored ≤ stored .empty + bs.length) :
      PaidFor rd b rd₂.endCompressed := by
    rw [stored_empty, Nat.zero_add] at hstored
    exact ⟨front, bs, .inr ⟨rd₁, rd₂, hfront, hbs, rfl⟩, hstored⟩
  constructor
  · intro rd' b h
    obtain ⟨name, s₁, hname, h⟩ := bind_eq_ok.mp h
    obtain ⟨rd₁, htext, rfl⟩ := Builder.reading_eq_ok hname
    obtain ⟨front, hfront, -⟩ := Decoder.consumes_text.of_ok htext
    obtain ⟨rd₂, done, hbody, hs'⟩ := Builder.compressed_eq_ok h
    cases hs'
    obtain ⟨bs, hbs, hstored⟩ := pays_body.of_ok hbody
    exact hinside hfront hbs hstored
  · intro e rd' b h
    rcases bind_eq_error.mp h with h | ⟨name, s₁, hname, h⟩
    · obtain ⟨rd₁, htext, hs'⟩ := Builder.reading_eq_error h
      cases hs'
      obtain ⟨bs, hbs⟩ := Decoder.consumes_text.of_error htext
      exact ⟨bs, [], .inl ⟨hbs, rfl⟩, Nat.zero_le _⟩
    · obtain ⟨rd₁, htext, rfl⟩ := Builder.reading_eq_ok hname
      obtain ⟨front, hfront, -⟩ := Decoder.consumes_text.of_ok htext
      obtain ⟨rd₂, done, hbody, hs'⟩ := Builder.compressed_eq_error h
      cases hs'
      obtain ⟨bs, hbs, hstored⟩ := pays_body.of_error hbody
      exact hinside hfront hbs hstored

end Block

end ColumnWire
