import Mathlib
import ColumnWire.Proofs.Reply.Answer

/-!
# Counting on one tray

A tray outlives its reply, and may serve the next one. The count on it is taken by a reply that
comes to the end of the stream, and by no other: a reply that fails leaves what it has counted, and
the next one counts on from there. `Tallied` says what replies one tray has served, and
`outcome_eq` what each of them comes to: the rows of its own blocks, and of those that were left on
the tray (`unreported`). `counted_late` is a history in which some were left.
-/
namespace ColumnWire

open Sight

variable {σ : Type} [Source σ] {limit : Nat} {blocks blocks' : List Block} {rd rd₁ rd₂ : Reader σ}
  {t : Tray}

/-! ## The blocks of an answer -/

/-- These blocks stand at a position of an answer before it is over or fails. -/
def Arrive (limit : Nat) (blocks : List Block) (rd : Reader σ) : Prop :=
  ∃ rd₁, Delivers limit blocks rd rd₁ ∧ (look limit rd₁).rest? = none

theorem Delivers.blocks_unique (h : Delivers limit blocks rd rd₁)
    (hstuck : (look limit rd₁).rest? = none) (h' : Delivers limit blocks' rd rd₂)
    (hstuck' : (look limit rd₂).rest? = none) : blocks = blocks' := by
  induction h generalizing blocks' with
  | nil =>
    cases h' with
    | nil => rfl
    | passed hlook | block hlook =>
      rw [hlook] at hstuck
      cases hstuck
  | passed hlook hrest ih =>
    cases h' with
    | nil =>
      rw [hlook] at hstuck'
      cases hstuck'
    | passed hlook' hrest' =>
      rw [hlook] at hlook'
      cases hlook'
      exact ih hstuck hrest'
    | block hlook' =>
      rw [hlook] at hlook'
      cases hlook'
  | @block b _ _ _ _ hlook hrest ih =>
    cases h' with
    | nil =>
      rw [hlook] at hstuck'
      cases hstuck'
    | passed hlook' =>
      rw [hlook] at hlook'
      cases hlook'
    | block hlook' hrest' =>
      rw [hlook] at hlook'
      cases hlook'
      rw [ih hstuck hrest']

theorem Arrive.unique (h : Arrive limit blocks rd) (h' : Arrive limit blocks' rd) :
    blocks = blocks' := by
  obtain ⟨rd₁, hdelivers, hstuck⟩ := h
  obtain ⟨rd₂, hdelivers', hstuck'⟩ := h'
  exact hdelivers.blocks_unique hstuck hdelivers' hstuck'

/-- Whatever the stream, some blocks arrive, though there may be none. -/
theorem exists_arrive (limit : Nat) (rd : Reader σ) : ∃ blocks, Arrive limit blocks rd := by
  cases hlook : look limit rd with
  | passed rd' =>
    obtain ⟨blocks, rd₁, hdelivers, hstuck⟩ := exists_arrive limit rd'
    exact ⟨blocks, rd₁, .passed hlook hdelivers, hstuck⟩
  | block b rd' =>
    obtain ⟨blocks, rd₁, hdelivers, hstuck⟩ := exists_arrive limit rd'
    exact ⟨b :: blocks, rd₁, .block hlook hdelivers, hstuck⟩
  | ended rd' | exception e rd' | refused code rd' | broken e rd' =>
    exact ⟨[], rd, .nil, by rw [hlook]; rfl⟩
termination_by rd.left
decreasing_by all_goals exact left_rest? (congrArg rest? hlook)

/-! ## What is counted -/

/-- The rows of all blocks, if there is a block. -/
def rowsOf : List Block → Option Nat
  | [] => none
  | blocks => some (blocks.map (·.rows)).sum

/-- One more block is counted. -/
def countOn (counted : Option Nat) (b : Block) : Option Nat := some (counted.getD 0 + b.rows)

theorem getD_rowsOf (blocks : List Block) : (rowsOf blocks).getD 0 = (blocks.map (·.rows)).sum := by
  cases blocks <;> rfl

theorem rowsOf_eq_none_iff : rowsOf blocks = none ↔ blocks = [] := by
  cases blocks <;> simp [rowsOf]

theorem countOn_rowsOf (blocks : List Block) (b : Block) :
    countOn (rowsOf blocks) b = rowsOf (blocks ++ [b]) := by
  rw [countOn, getD_rowsOf]
  cases blocks <;> simp [rowsOf, Nat.add_assoc]

theorem foldl_countOn (before blocks : List Block) :
    blocks.foldl countOn (rowsOf before) = rowsOf (before ++ blocks) := by
  induction blocks generalizing before with
  | nil => rw [List.foldl_nil, List.append_nil]
  | cons b blocks ih =>
    rw [List.foldl_cons, countOn_rowsOf, ih, List.append_assoc, List.singleton_append]

/-- Blocks in front make no difference just when they have no rows, and there are none where no
others follow. -/
theorem rowsOf_append_eq_iff (before blocks : List Block) :
    rowsOf (before ++ blocks) = rowsOf blocks ↔
      (before.map (·.rows)).sum = 0 ∧ (blocks = [] → before = []) := by
  cases blocks with
  | nil =>
    rw [List.append_nil, rowsOf, rowsOf_eq_none_iff]
    constructor
    · rintro rfl
      exact ⟨rfl, fun _ => rfl⟩
    · exact fun h => h.2 rfl
  | cons b blocks =>
    have hsome :
        rowsOf (before ++ b :: blocks) = some ((before ++ b :: blocks).map (·.rows)).sum := by
      cases before <;> rfl
    have hown : rowsOf (b :: blocks) = some ((b :: blocks).map (·.rows)).sum := rfl
    rw [hsome, hown, List.map_append, List.sum_append]
    simp

namespace Policy

/-! ## One reply -/

/-- The count on the tray is not changed where the computation fails. -/
structure LeavesCount {β : Type} (x : Builder σ Tray β) : Prop where
  of_error : ∀ {s s' : Reader σ × Tray} {e : Error}, x s = .error e s' → s'.2.counted = s.2.counted

omit [Source σ] in
theorem leavesCount_throw {β : Type} (e : Error) : LeavesCount (throw e : Builder σ Tray β) where
  of_error h := by
    obtain ⟨-, rfl⟩ := throw_eq_error.mp h
    rfl

omit [Source σ] in
theorem leavesCount_bind {β γ : Type} {x : Builder σ Tray γ} {f : γ → Builder σ Tray β}
    (hx : Keeps (fun s => s.2.counted) x) (hf : ∀ a, LeavesCount (f a)) :
    LeavesCount (x >>= f) where
  of_error h := by
    rcases bind_eq_error.mp h with h | ⟨a, s₁, h₁, h₂⟩
    · exact hx.of_error h
    · exact ((hf a).of_error h₂).trans (hx.of_ok h₁)

omit [Source σ] in
theorem leavesCount_judge (kind : ServerPacket) : LeavesCount (rowCount.judge (σ := σ) kind) where
  of_error h := by cases kind <;> cases h <;> rfl

omit [Source σ] in
theorem keeps_reading {γ : Type} {d : Decoder σ γ} :
    Keeps (fun s : Reader σ × Tray => s.2.counted) (Builder.reading d) where
  of_ok h := by
    obtain ⟨rd, -, rfl⟩ := Builder.reading_eq_ok h
    rfl
  of_error h := by
    obtain ⟨rd, -, rfl⟩ := Builder.reading_eq_error h
    rfl

/-- A block is read beside the count. -/
theorem keeps_readBlock : Keeps (fun s : Reader σ × Tray => s.2.counted) readBlock where
  of_ok h := by
    obtain ⟨b, -, htray⟩ := readBlock_eq_ok h
    rw [htray]
  of_error h := by
    obtain ⟨b, -, htray⟩ := readBlock_eq_error h
    rw [htray]

theorem leavesCount_body (limit : Nat) (kind : ServerPacket) :
    LeavesCount (rowCount.body (σ := σ) limit kind) := by
  cases kind with
  | hello => exact leavesCount_throw _
  | exception => exact leavesCount_bind keeps_reading fun _ => leavesCount_throw _
  | data => exact leavesCount_bind keeps_readBlock fun _ => leavesCount_judge _
  | progress | profileInfo | tableColumns =>
    exact leavesCount_bind keeps_reading fun _ => leavesCount_judge _
  | endOfStream => exact leavesCount_judge .endOfStream
  | pong => exact leavesCount_judge .pong

theorem leavesCount_packet (limit : Nat) : LeavesCount (rowCount.packet (σ := σ) limit) := by
  refine leavesCount_bind keeps_reading fun code => ?_
  cases ServerPacket.ofCode? code with
  | none => exact leavesCount_throw _
  | some kind => exact leavesCount_body limit kind

/-- The blocks of an answer are counted, one after another. -/
theorem run_delivers (h : Delivers limit blocks rd rd₁) (t : Tray) :
    ∃ b, rowCount.run limit (rd, t) =
      rowCount.run limit (rd₁, ⟨b, blocks.foldl countOn t.counted⟩) := by
  induction h generalizing t with
  | nil => exact ⟨t.block, rfl⟩
  | @passed _ rd _ _ hlook _ ih =>
    have hpacket := packet_eq forAnswers_rowCount limit rd t
    rw [hlook] at hpacket
    rw [run_of_goOn hpacket]
    exact ih t
  | @block b _ rd _ _ hlook _ ih =>
    have hpacket := packet_eq forAnswers_rowCount limit rd t
    rw [hlook] at hpacket
    rw [run_of_goOn hpacket]
    exact ih _

/-- **What a reply comes to on a tray**: at the end of the stream it takes the count, with its own
blocks in it, and where it fails it leaves that count on the tray. -/
theorem run_arrive {before : List Block} (h : Arrive limit blocks rd)
    (hcounted : t.counted = rowsOf before) :
    (∃ rd' b, rowCount.run limit (rd, t) = .ok (rowsOf (before ++ blocks)) (rd', ⟨b, none⟩)) ∨
      ∃ e rd' t', rowCount.run limit (rd, t) = .error e (rd', t') ∧
        t'.counted = rowsOf (before ++ blocks) := by
  obtain ⟨rd₁, hdelivers, hstuck⟩ := h
  obtain ⟨b, hrun⟩ := run_delivers hdelivers t
  rw [hcounted, foldl_countOn] at hrun
  rw [hrun]
  generalize hcount : rowsOf (before ++ blocks) = n
  have hpacket := packet_eq forAnswers_rowCount limit rd₁ ⟨b, n⟩
  rcases cases_failure rowCount.context (look limit rd₁) with
    ⟨rd', hlook⟩ | ⟨b', rd', hlook⟩ | ⟨rd', hlook⟩ | ⟨e, rd', hfail⟩
  · rw [hlook] at hstuck
    cases hstuck
  · rw [hlook] at hstuck
    cases hstuck
  · rw [hlook] at hpacket
    exact .inl ⟨rd', b, run_of_done hpacket⟩
  · right
    obtain ⟨t', hpacket⟩ := hpacket.of_failure hfail
    exact ⟨e, rd', t', run_of_error hpacket, (leavesCount_packet limit).of_error hpacket⟩

theorem run_arrive_eq_ok {before : List Block} {n : Option Nat} {rd' : Reader σ} {t' : Tray}
    (h : Arrive limit blocks rd) (hcounted : t.counted = rowsOf before)
    (hrun : rowCount.run limit (rd, t) = .ok n (rd', t')) :
    n = rowsOf (before ++ blocks) ∧ t'.counted = none := by
  rcases run_arrive h hcounted with ⟨rd₁, b, hrun'⟩ | ⟨e, rd₁, t₁, hrun', -⟩
  · rw [hrun] at hrun'
    cases hrun'
    exact ⟨rfl, rfl⟩
  · rw [hrun] at hrun'
    cases hrun'

theorem run_arrive_eq_error {before : List Block} {e : Error} {rd' : Reader σ} {t' : Tray}
    (h : Arrive limit blocks rd) (hcounted : t.counted = rowsOf before)
    (hrun : rowCount.run limit (rd, t) = .error e (rd', t')) :
    t'.counted = rowsOf (before ++ blocks) := by
  rcases run_arrive h hcounted with ⟨rd₁, b, hrun'⟩ | ⟨e₁, rd₁, t₁, hrun', hleft⟩
  · rw [hrun] at hrun'
    cases hrun'
  · rw [hrun] at hrun'
    cases hrun'
    exact hleft

end Policy

/-! ## One reply after another -/

/-- A reply that a tray has served: the blocks that arrived, and what it came to. -/
structure Tally where
  blocks : List Block
  outcome : Except Error (Option Nat)

/-- One tray has served these replies, the last one first, each from wherever it was read. -/
inductive Tallied (σ : Type) [Source σ] : List Tally → Tray → Prop
  | fresh : Tallied σ [] {}
  | done {past : List Tally} {t t' : Tray} {limit : Nat} {blocks : List Block} {n : Option Nat}
      {rd rd' : Reader σ} (hpast : Tallied σ past t) (harrive : Arrive limit blocks rd)
      (hrun : Policy.rowCount.run limit (rd, t) = .ok n (rd', t')) :
      Tallied σ (⟨blocks, .ok n⟩ :: past) t'
  | failed {past : List Tally} {t t' : Tray} {limit : Nat} {blocks : List Block} {e : Error}
      {rd rd' : Reader σ} (hpast : Tallied σ past t) (harrive : Arrive limit blocks rd)
      (hrun : Policy.rowCount.run limit (rd, t) = .error e (rd', t')) :
      Tallied σ (⟨blocks, .error e⟩ :: past) t'

/-- The blocks of the replies that have failed since one was last done. -/
def unreported : List Tally → List Block
  | [] => []
  | ⟨_, .ok _⟩ :: _ => []
  | ⟨blocks, .error _⟩ :: past => unreported past ++ blocks

/-- Nothing is left over where the reply before was done, or there was none. -/
theorem unreported_of_done {past : List Tally} (h : ∀ y ∈ past.head?, ∃ m, y.outcome = .ok m) :
    unreported past = [] := by
  cases past with
  | nil => rfl
  | cons y past =>
    obtain ⟨m, hm⟩ := h y rfl
    obtain ⟨blocks, outcome⟩ := y
    subst hm
    rfl

namespace Tallied

variable {past later : List Tally} {x : Tally}

/-- Any stream can come next. -/
theorem next (h : Tallied σ past t) (limit : Nat) (rd : Reader σ) :
    ∃ x t', Arrive limit x.blocks rd ∧ Tallied σ (x :: past) t' := by
  obtain ⟨blocks, harrive⟩ := exists_arrive limit rd
  cases hrun : Policy.rowCount.run limit (rd, t) with
  | ok n s => exact ⟨⟨blocks, .ok n⟩, s.2, harrive, .done h harrive hrun⟩
  | error e s => exact ⟨⟨blocks, .error e⟩, s.2, harrive, .failed h harrive hrun⟩

/-- On the tray is the count of what no reply has reported. -/
theorem counted_eq (h : Tallied σ past t) : t.counted = rowsOf (unreported past) := by
  induction h with
  | fresh => rfl
  | done _ harrive hrun ih => exact (Policy.run_arrive_eq_ok harrive ih hrun).2
  | failed _ harrive hrun ih => exact Policy.run_arrive_eq_error harrive ih hrun

/-- What came before some replies has been served too. -/
theorem of_append (h : Tallied σ (later ++ past) t) : ∃ t', Tallied σ past t' := by
  induction later generalizing t with
  | nil => exact ⟨t, h⟩
  | cons y later ih =>
    cases h with
    | done hpast | failed hpast => exact ih hpast

theorem outcome_eq_head {n : Option Nat} (h : Tallied σ (x :: past) t) (hok : x.outcome = .ok n) :
    n = rowsOf (unreported past ++ x.blocks) := by
  cases h with
  | done hpast harrive hrun =>
    cases hok
    exact (Policy.run_arrive_eq_ok harrive hpast.counted_eq hrun).1
  | failed => cases hok

/-- **What a reply reports**: the rows of its own blocks, and of those of the replies that have
failed since one was last done. It is its own rows just when those blocks have no rows, and there
are none if it has no block itself; so it is behind a reply that was done, and on a new tray. -/
theorem outcome_eq {n : Option Nat} (h : Tallied σ (later ++ x :: past) t)
    (hok : x.outcome = .ok n) :
    n = rowsOf (unreported past ++ x.blocks) ∧
      (n = rowsOf x.blocks ↔
        ((unreported past).map (·.rows)).sum = 0 ∧ (x.blocks = [] → unreported past = [])) ∧
      ((∀ y ∈ past.head?, ∃ m, y.outcome = .ok m) → n = rowsOf x.blocks) := by
  obtain ⟨t', hserved⟩ := h.of_append
  have hn := hserved.outcome_eq_head hok
  refine ⟨hn, ?_, fun hdone => ?_⟩
  · rw [hn]
    exact rowsOf_append_eq_iff _ _
  · rw [hn, unreported_of_done hdone, List.nil_append]

/-- In front of these bytes, the last of the stream. -/
def holding (bytes : Bytes) : Reader Cursor where
  source := ⟨bytes, .closed⟩

/-- A block of two rows. -/
def two : Block := ⟨2, #[⟨"n", "UInt8", .scalars .uint8 #[1, 2]⟩]⟩

/-- The block, a packet that has no place in an answer, and the end of the stream. -/
def cut : Reader Cursor :=
  holding [1, 0, 1, 0, 2, 255, 255, 255, 255, 0, 1, 2, 1, 110, 5, 85, 73, 110, 116, 56, 1, 2, 4, 5]

/-- Of two replies off this stream the first one fails behind the block, and the second one comes to
the end. -/
theorem tallied_cut : Tallied Cursor
    [⟨[], .ok (some 2)⟩, ⟨[two], .error (.unexpectedPacket "read_data_blocks" 4)⟩] ⟨two, none⟩ := by
  have hfirst : Arrive 64 [two] cut := by
    have hlook : look 64 cut = .block two (holding [4, 5]) := by cbv
    have hstuck : look 64 (holding [4, 5]) = .refused 4 (holding [5]) := by cbv
    exact ⟨holding [4, 5], .block hlook .nil, by rw [hstuck]; rfl⟩
  have hsecond : Arrive 64 [] (holding [5]) := by
    have hstuck : look 64 (holding [5]) = .ended (holding []) := by cbv
    exact ⟨holding [5], .nil, by rw [hstuck]; rfl⟩
  have hfails : Policy.rowCount.run 64 (cut, {}) =
      .error (.unexpectedPacket "read_data_blocks" 4) (holding [5], ⟨two, some 2⟩) := by
    have hblock : Policy.rowCount.packet 64 (cut, {}) =
        .ok none (holding [4, 5], ⟨two, some 2⟩) := by cbv
    rw [Policy.run_of_goOn hblock]
    exact Policy.run_of_error (by cbv)
  have hends : Policy.rowCount.run 64 (holding [5], ⟨two, some 2⟩) =
      .ok (some 2) (holding [], ⟨two, none⟩) :=
    Policy.run_of_done (by cbv)
  exact .done (.failed .fresh hfirst hfails) hsecond hends

/-- What the first of these replies has counted is reported by the second one. -/
theorem outcome_eq_cut :
    some 2 = rowsOf ([two] ++ []) ∧
      (some 2 = rowsOf [] ↔
        ([two].map (·.rows)).sum = 0 ∧ (([] : List Block) = [] → [two] = [])) := by
  have hserved : Tallied Cursor
      ([] ++ ⟨[], .ok (some 2)⟩ :: [⟨[two], .error (.unexpectedPacket "read_data_blocks" 4)⟩])
      ⟨two, none⟩ := tallied_cut
  have h := outcome_eq hserved rfl
  exact ⟨h.1, h.2.1⟩

/-- **A reply without a block may report rows**: those of a reply that failed before it. -/
theorem counted_late :
    Tallied Cursor [⟨[], .ok (some 2)⟩, ⟨[two], .error (.unexpectedPacket "read_data_blocks" 4)⟩]
        ⟨two, none⟩ ∧
      some 2 ≠ rowsOf [] :=
  ⟨tallied_cut, by decide⟩

end Tallied

end ColumnWire
