import ColumnWire.Block
import ColumnWire.Proofs.Column.Cells

/-!
# Blocks that can come about

A block starts empty and changes only by pushing columns, by being reset, and by reading,
which may fail half-way. Each of these keeps it a table (`Reachable.valid`): its columns are
named and typed, their cells are of that type, and all of them have as many rows as the block.
-/
namespace ColumnWire

/-- A column that a block of so many rows may hold. -/
structure Column.Valid (rows : Nat) (c : Column) : Prop where
  name_ne : c.name ≠ ""
  typeName_ne : c.typeName ≠ ""
  fits : c.data.fits c.typeName = true
  narrow : c.data.tooWide? = none
  size_eq : c.data.size = rows

namespace Block

/-- All columns fit into the block. -/
def Valid (b : Block) : Prop := ∀ c ∈ b.columns, c.Valid b.rows

/-- The blocks that can come about. -/
inductive Reachable : Block → Prop
  | empty : Reachable .empty
  | push {b b' : Block} {c : Column} (h : Reachable b) (hpush : b.push c = .ok b') : Reachable b'
  /-- Whatever was in the block is dropped. -/
  | reset {b : Block} (h : Reachable b) : Reachable .empty
  | read {σ : Type} [Source σ] {b b' : Block} {rd rd' : Reader σ} (h : Reachable b)
      (hread : readInto (rd, b) = .ok () (rd', b')) : Reachable b'
  | readFailed {σ : Type} [Source σ] {b b' : Block} {rd rd' : Reader σ} {e : Error}
      (h : Reachable b) (hread : readInto (rd, b) = .error e (rd', b')) : Reachable b'

theorem valid_empty : Valid .empty := by simp [Valid, empty]

/-! ## Pushing -/

/-- What `push` has checked when it adds a column. -/
theorem push_eq_ok {b b' : Block} {c : Column} (h : b.push c = .ok b') :
    c.Valid b'.rows ∧ b' = ⟨b.rowsWith c.data.size, b.columns.push c⟩ := by
  unfold push at h
  split at h
  · cases h
  · next hfault =>
    cases h
    refine ⟨?_, rfl⟩
    unfold fault? at hfault
    split at hfault
    · cases hfault
    · next hname =>
      split at hfault
      · cases hfault
      · next htype =>
        split at hfault
        · cases hfault
        · next hfits =>
          split at hfault
          · cases hfault
          · next hnarrow =>
            split at hfault
            · next hrows => exact ⟨hname, htype, by simpa using hfits, hnarrow, hrows⟩
            · cases hfault

/-- The columns from before keep their number of rows. -/
theorem Valid.push {b b' : Block} {c : Column} (hb : b.Valid) (h : b.push c = .ok b') : b'.Valid := by
  obtain ⟨hc, rfl⟩ := push_eq_ok h
  intro d hd
  rcases Array.mem_push.mp hd with hd | rfl
  · have hsome : b.columns.isEmpty = false := by
      rw [Array.isEmpty_eq_false_iff]
      rintro hnone
      simp [hnone] at hd
    have hrows : b.rowsWith c.data.size = b.rows := by simp [rowsWith, hsome]
    simp only [hrows]
    exact hb d hd
  · exact hc

/-! ## Reading -/

variable {σ : Type} [Source σ]

/-- A column that has been read fits into a block of as many rows. -/
theorem yields_readColumn (rows : Nat) : Yields (Column.Valid rows) (readColumn (σ := σ) rows) := by
  intro rd rd' c h
  obtain ⟨name, rd₁, -, h⟩ := bind_eq_ok.mp h
  split at h
  · exact absurd h throw_ne_ok
  · next hname =>
    obtain ⟨typeName, rd₂, -, h⟩ := bind_eq_ok.mp h
    split at h
    · exact absurd h throw_ne_ok
    · next htypeName =>
      cases htype : ColumnType.parse? typeName with
      | none =>
        rw [htype] at h
        exact absurd h throw_ne_ok
      | some type =>
        rw [htype] at h
        obtain ⟨data, rd₃, hdata, h⟩ := bind_eq_ok.mp h
        obtain ⟨rfl, -⟩ := pure_eq_ok.mp h
        have hshaped := ColumnData.yields_read type rows hdata
        refine ⟨hname, htypeName, ?_, hshaped.narrow, hshaped.size_eq⟩
        rw [ColumnData.fits, hshaped.type_eq, htype, decide_eq_true_iff]

/-- Every column that is read goes behind columns of as many rows. -/
theorem maintains_readColumns (rows count : Nat) :
    Maintains (fun s => s.2.rows = rows ∧ s.2.Valid) (readColumns (σ := σ) rows count) := by
  induction count with
  | zero => exact .ofPure ()
  | succ count ih =>
    refine (Builder.maintains_reading (fun b : Block => b.rows = rows ∧ b.Valid) _).bindYields
      (Builder.yields_reading (yields_readColumn rows)) fun c hc => ?_
    refine (Builder.maintains_update (P := fun b : Block => b.rows = rows ∧ b.Valid) ?_).bind
      fun _ => ih
    rintro b ⟨rfl, hb⟩
    refine ⟨rfl, fun d hd => ?_⟩
    rcases Array.mem_push.mp hd with hd | rfl
    · exact hb d hd
    · exact hc

/-- Until both counts are known the block stays as it was; then it starts anew. -/
theorem maintains_readBody : Maintains (fun s => s.2.Valid) (readBody (σ := σ)) := by
  refine (Builder.maintains_reading Valid _).bind fun columns => ?_
  refine (Builder.maintains_reading Valid _).bind fun rows => ?_
  exact Builder.maintains_put_bind (Q := fun b => b.rows = rows ∧ b.Valid) ⟨rfl, by simp [Valid]⟩
    (maintains_readColumns rows columns) fun b hb => hb.2

theorem maintains_readInto : Maintains (fun s => s.2.Valid) (readInto (σ := σ)) :=
  (Builder.maintains_reading Valid _).bind fun _ => Builder.maintains_compressed
    ((Builder.maintains_reading Valid _).bind fun _ => maintains_readBody)

/-! ## Every history -/

/-- **However a block came about, it is a table.** -/
theorem Reachable.valid {b : Block} (h : Reachable b) : b.Valid := by
  induction h with
  | empty => exact valid_empty
  | push _ hpush ih => exact ih.push hpush
  | reset _ _ => exact valid_empty
  | read _ hread ih => exact maintains_readInto.of_ok (s := (_, _)) ih hread
  | readFailed _ hread ih => exact maintains_readInto.of_error (s := (_, _)) ih hread

end Block

end ColumnWire
