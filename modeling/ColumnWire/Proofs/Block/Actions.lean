import ColumnWire.Proofs.Block.Validity

/-!
# Blocks that are worked on

A block is changed in place: columns are added to it, it is reset, and packets are read into it.
`append` is the adding of a column check by check, in the order in which the block is touched: the
first column settles the number of rows before it is in the block. It comes to the same as `push`
(`append_eq`), so a column that is refused has left no trace. `table_after` says what holds of a
block after any actions, those that failed among them.
-/
namespace ColumnWire

/-- Something that is done with a block. -/
inductive BlockAction where
  /-- Add a column. -/
  | push (c : Column)
  /-- Drop all columns. -/
  | reset
  /-- Read a data packet into it, from any stream. -/
  | read (σ : Type) [Source σ] (rd : Reader σ)

namespace ColumnData

/-- No value is too wide if none is longer than the width of the column. -/
theorem tooWide?_fixedStrings_eq_none {width : Nat} {cells : Array Bytes} :
    tooWide? (.fixedStrings width cells) = none ↔ ∀ v ∈ cells, v.length ≤ width := by
  rw [tooWide?, Option.map_eq_none_iff, Array.find?_eq_none]
  simp

end ColumnData

namespace Block

/-- Add a column at the end. -/
def append (c : Column) : EStateM Error Block Unit := do
  if c.name = "" then throw (.invalidBlock .emptyName)
  if c.typeName = "" then throw (.invalidBlock (.emptyType c.name))
  if !c.data.fits c.typeName then throw (.invalidBlock (.wrongType c.name c.typeName))
  if let some (value, width) := c.data.tooWide? then
    throw (.invalidBlock (.tooWide c.name value.length width))
  let b ← get
  if b.columns.isEmpty then set { b with rows := c.data.size }
  else if c.data.size ≠ b.rows then
    throw (.invalidBlock (.wrongRows c.name c.data.size b.rows))
  modify fun b => { b with columns := b.columns.push c }

/-- Do something with a block. -/
def act : BlockAction → EStateM Error Block Unit
  | .push c => append c
  | .reset => set empty
  | @BlockAction.read σ _ rd => fun b =>
    match readInto (σ := σ) (rd, b) with
    | .ok () (_, b) => .ok () b
    | .error e (_, b) => .error e b

/-- The block after something was done with it, whether that failed or not. -/
def next (b : Block) (action : BlockAction) : Block :=
  match act action b with
  | .ok () b' | .error _ b' => b'

/-- The block after one action after another. -/
def after (b : Block) (actions : List BlockAction) : Block := actions.foldl next b

/-! ## Adding a column -/

/-- What is done with the state is done with the state at hand. -/
theorem get_bind_apply {ε σ β : Type} (f : σ → EStateM ε σ β) (s : σ) : (get >>= f) s = f s s := rfl

/-- **A column is added as a whole or not at all.** -/
theorem append_eq (c : Column) (b : Block) : append c b = match b.push c with
    | .ok b' => .ok () b'
    | .error e => .error e b := by
  unfold push fault? append
  by_cases hname : c.name = ""
  · simp [hname]
    rfl
  by_cases htype : c.typeName = ""
  · simp [hname, htype]
    rfl
  by_cases hfits : c.data.fits c.typeName
  · cases hwide : c.data.tooWide? with
    | some wide =>
      simp [hname, htype, hfits]
      rfl
    | none =>
      -- Only the last check looks at the block.
      simp only [hname, htype, hfits, if_false, Bool.not_true, Bool.false_eq_true, get_bind_apply]
      by_cases hfirst : b.columns.isEmpty
      · simp only [rowsWith, hfirst, if_true]
        rfl
      · by_cases hrows : c.data.size = b.rows
        · simp [rowsWith, hfirst, hrows]
          rfl
        · simp [rowsWith, hfirst, hrows]
          rfl
  · simp [hname, htype, hfits]
    rfl

/-! ## Every history -/

theorem Valid.next {b : Block} (hb : b.Valid) (action : BlockAction) : (b.next action).Valid := by
  unfold Block.next
  cases action with
  | push c =>
    rw [act, append_eq]
    cases hpush : b.push c with
    | ok b' => exact hb.push hpush
    | error e => exact hb
  | reset => exact valid_empty
  | read σ rd =>
    cases hread : readInto (rd, b) with
    | ok u s =>
      simp only [act, hread]
      exact maintains_readInto.of_ok (s := (rd, b)) hb hread
    | error e s =>
      simp only [act, hread]
      exact maintains_readInto.of_error (s := (rd, b)) hb hread

theorem Valid.after {b : Block} (hb : b.Valid) (actions : List BlockAction) :
    (b.after actions).Valid := by
  induction actions generalizing b with
  | nil => exact hb
  | cons action actions ih => exact ih (hb.next action)

/-- **Whatever is done with a block, it stays a table**, and a column that is then added comes
behind the others or leaves no trace. -/
theorem table_after (actions : List BlockAction) :
    let b := empty.after actions
    (∀ c ∈ b.columns, c.name ≠ "" ∧ c.typeName ≠ "" ∧ c.data.fits c.typeName = true ∧
      c.data.size = b.rows ∧
      ∀ width cells, c.data = .fixedStrings width cells → ∀ v ∈ cells, v.length ≤ width) ∧
    ∀ c, match append c b with
      | .ok () b' => b'.columns = b.columns.push c ∧ (b.columns ≠ #[] → b'.rows = b.rows)
      | .error _ b' => b' = b := by
  intro b
  refine ⟨fun c hc => ?_, fun c => ?_⟩
  · have hvalid : c.Valid b.rows := valid_empty.after actions c hc
    refine ⟨hvalid.name_ne, hvalid.typeName_ne, hvalid.fits, hvalid.size_eq, ?_⟩
    rintro width cells hdata
    have hnarrow := hvalid.narrow
    rw [hdata] at hnarrow
    exact ColumnData.tooWide?_fixedStrings_eq_none.mp hnarrow
  · rw [append_eq]
    cases hpush : b.push c with
    | error e => rfl
    | ok b' =>
      obtain ⟨-, rfl⟩ := push_eq_ok hpush
      exact ⟨rfl, fun hsome => by simp [rowsWith, hsome]⟩

end Block

end ColumnWire
