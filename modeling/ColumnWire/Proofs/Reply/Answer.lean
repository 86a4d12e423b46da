import ColumnWire.Proofs.Reply.Sight

/-!
# Along an answer

The answer to a query is a sequence of blocks, with packets between them that tell nothing about
the result, up to the end of the stream or an exception. `Delivers` says which blocks stand between
two positions of a stream, and `Answered` that a whole answer does. From one position there is only
one way on (`Delivers.chain`), so an answer that has got stuck, or is not over, is none.
-/
namespace ColumnWire

open Sight

variable {σ : Type} [Source σ]

/-- From one position of an answer to another stand these blocks, and nothing else about the
result. -/
inductive Delivers (limit : Nat) : List Block → Reader σ → Reader σ → Prop
  | nil {rd : Reader σ} : Delivers limit [] rd rd
  | passed {blocks : List Block} {rd rd₁ rd' : Reader σ} (hlook : look limit rd = .passed rd₁)
      (hrest : Delivers limit blocks rd₁ rd') : Delivers limit blocks rd rd'
  | block {b : Block} {blocks : List Block} {rd rd₁ rd' : Reader σ}
      (hlook : look limit rd = .block b rd₁) (hrest : Delivers limit blocks rd₁ rd') :
      Delivers limit (b :: blocks) rd rd'

/-- From one position to the other stands a whole answer: it ends with the end of the stream, or
with an exception that can be read. -/
def Answered (limit : Nat) (rd rd' : Reader σ) : Prop :=
  ∃ blocks rd₁, Delivers limit blocks rd rd₁ ∧ (look limit rd₁).end? = some rd'

variable {limit : Nat} {blocks blocks' : List Block} {rd rd₁ rd₂ rd' : Reader σ}

namespace Delivers

theorem append (h : Delivers limit blocks rd rd₁) (h' : Delivers limit blocks' rd₁ rd') :
    Delivers limit (blocks ++ blocks') rd rd' := by
  induction h with
  | nil => exact h'
  | passed hlook _ ih => exact .passed hlook (ih h')
  | block hlook _ ih => exact .block hlook (ih h')

/-- Nothing is delivered where the answer does not go on. -/
theorem eq_of_stuck (h : Delivers limit blocks rd rd') (hstuck : (look limit rd).rest? = none) :
    rd' = rd := by
  cases h with
  | nil => rfl
  | passed hlook | block hlook =>
    rw [hlook] at hstuck
    cases hstuck

theorem left_le (h : Delivers limit blocks rd rd') : rd'.left ≤ rd.left := by
  induction h with
  | nil => exact Nat.le_refl _
  | passed hlook _ ih =>
    have hless := left_rest? (congrArg rest? hlook)
    omega
  | block hlook _ ih =>
    have hless := left_rest? (congrArg rest? hlook)
    omega

/-- **There is one way on.** Of two positions that an answer gets to, it gets from one to the
other. -/
theorem chain (h : Delivers limit blocks rd rd₁) (h' : Delivers limit blocks' rd rd₂) :
    (∃ between, Delivers limit between rd₁ rd₂) ∨ ∃ between, Delivers limit between rd₂ rd₁ := by
  induction h generalizing blocks' with
  | nil => exact .inl ⟨_, h'⟩
  | passed hlook hrest ih =>
    cases h' with
    | nil => exact .inr ⟨_, .passed hlook hrest⟩
    | passed hlook' hrest' =>
      rw [hlook] at hlook'
      cases hlook'
      exact ih hrest'
    | block hlook' =>
      rw [hlook] at hlook'
      cases hlook'
  | block hlook hrest ih =>
    cases h' with
    | nil => exact .inr ⟨_, .block hlook hrest⟩
    | passed hlook' =>
      rw [hlook] at hlook'
      cases hlook'
    | block hlook' hrest' =>
      rw [hlook] at hlook'
      cases hlook'
      exact ih hrest'

/-- An answer that gets to a place where it does not go on is over there or nowhere. -/
theorem end?_of_answered (h : Delivers limit blocks rd rd₁) (hstuck : (look limit rd₁).rest? = none)
    (hanswered : Answered limit rd rd') : (look limit rd₁).end? = some rd' := by
  obtain ⟨blocks', rd₂, h', hend⟩ := hanswered
  have hstuck' := rest?_of_end? hend
  rcases h.chain h' with ⟨between, hbetween⟩ | ⟨between, hbetween⟩
  · rw [hbetween.eq_of_stuck hstuck] at hend
    exact hend
  · rw [hbetween.eq_of_stuck hstuck']
    exact hend

/-- An answer that is not over is none. -/
theorem not_answered (h : Delivers limit blocks rd rd') : ¬ Answered limit rd rd' := by
  rintro ⟨blocks', rd₂, h', hend⟩
  have hstuck' := rest?_of_end? hend
  have hless := left_end? hend
  rcases h.chain h' with ⟨between, hbetween⟩ | ⟨between, hbetween⟩
  · have hle := hbetween.left_le
    omega
  · rw [hbetween.eq_of_stuck hstuck'] at hless
    omega

/-- Where an answer fails, its failure spoils the connection unless it is over there. -/
theorem failure {context : String} {e : Error} (h : Delivers limit blocks rd rd₁)
    (hfail : (look limit rd₁).failure? context = some (e, rd')) :
    e.spoilsConnection = true ∧ ¬ Answered limit rd rd' ∨
      e.spoilsConnection = false ∧ Answered limit rd rd' := by
  rcases spoils_failure hfail with ⟨hspoils, hend⟩ | ⟨hspoils, hend⟩
  · refine .inl ⟨hspoils, ?_⟩
    intro hanswered
    rw [h.end?_of_answered (rest?_of_failure? hfail) hanswered] at hend
    cases hend
  · exact .inr ⟨hspoils, blocks, rd₁, h, hend⟩

/-- What has been delivered does not matter to whether the answer ends well. -/
theorem answered_iff (h : Delivers limit blocks rd rd₁) :
    Answered limit rd rd' ↔ Answered limit rd₁ rd' := by
  constructor
  · rintro ⟨blocks', rd₂, h', hend⟩
    rcases h.chain h' with ⟨between, hbetween⟩ | ⟨between, hbetween⟩
    · exact ⟨between, rd₂, hbetween, hend⟩
    · rw [hbetween.eq_of_stuck (rest?_of_end? hend)]
      exact ⟨[], rd₂, .nil, hend⟩
  · rintro ⟨blocks', rd₂, h', hend⟩
    exact ⟨blocks ++ blocks', rd₂, h.append h', hend⟩

end Delivers

namespace Connection

/-! ## Reading along an answer -/

/-- A pull takes the next block, or else it comes to where the answer does not go on. -/
theorem reply_nextBlock (limit : Nat) (conn : Connection σ) (t : Tray) :
    ∃ rd₁, Delivers limit [] conn.reader rd₁ ∧
      ((∃ b rd, look limit rd₁ = .block b rd ∧ conn.reply Policy.nextBlock limit t =
          (.ok true, { t with block := b }, { conn with reader := rd })) ∨
        (∃ rd, look limit rd₁ = .ended rd ∧ conn.reply Policy.nextBlock limit t =
          (.ok false, t, { conn with reader := rd })) ∨
        ∃ e rd t', (look limit rd₁).failure? Policy.nextBlock.context = some (e, rd) ∧
          conn.reply Policy.nextBlock limit t = (.error e, t', { conn with reader := rd })) := by
  rcases cases_failure Policy.nextBlock.context (look limit conn.reader) with
    ⟨rd, hlook⟩ | ⟨b, rd, hlook⟩ | ⟨rd, hlook⟩ | ⟨e, rd, hfail⟩
  · obtain ⟨rd₁, hdelivers, hreply⟩ := reply_nextBlock limit { conn with reader := rd } t
    rw [reply_passed Policy.forAnswers_nextBlock hlook]
    exact ⟨rd₁, .passed hlook hdelivers, hreply⟩
  · exact ⟨conn.reader, .nil, .inl ⟨b, rd, hlook, reply_nextBlock_block hlook t⟩⟩
  · exact ⟨conn.reader, .nil, .inr (.inl ⟨rd, hlook, reply_nextBlock_ended hlook t⟩)⟩
  · obtain ⟨t', hreply⟩ := reply_of_failure Policy.forAnswers_nextBlock hfail t
    exact ⟨conn.reader, .nil, .inr (.inr ⟨e, rd, t', hfail, hreply⟩)⟩
termination_by conn.reader.left
decreasing_by exact left_rest? (congrArg rest? hlook)

/-- Draining comes to where the answer does not go on. -/
theorem reply_drain (limit : Nat) (conn : Connection σ) (t : Tray) :
    ∃ blocks rd₁ t', Delivers limit blocks conn.reader rd₁ ∧
      ((∃ rd, look limit rd₁ = .ended rd ∧ conn.reply Policy.drain limit t =
          (.ok (), t', { conn with reader := rd })) ∨
        ∃ e rd, (look limit rd₁).failure? Policy.drain.context = some (e, rd) ∧
          conn.reply Policy.drain limit t = (.error e, t', { conn with reader := rd })) := by
  have hpacket := Policy.packet_eq Policy.forAnswers_drain limit conn.reader t
  rcases cases_failure Policy.drain.context (look limit conn.reader) with
    ⟨rd, hlook⟩ | ⟨b, rd, hlook⟩ | ⟨rd, hlook⟩ | ⟨e, rd, hfail⟩
  · obtain ⟨blocks, rd₁, t', hdelivers, hreply⟩ := reply_drain limit { conn with reader := rd } t
    rw [reply_passed Policy.forAnswers_drain hlook]
    exact ⟨blocks, rd₁, t', .passed hlook hdelivers, hreply⟩
  · obtain ⟨blocks, rd₁, t', hdelivers, hreply⟩ :=
      reply_drain limit { conn with reader := rd } { t with block := b }
    rw [hlook] at hpacket
    rw [reply_of_goOn hpacket]
    exact ⟨b :: blocks, rd₁, t', .block hlook hdelivers, hreply⟩
  · rw [hlook] at hpacket
    exact ⟨[], conn.reader, t, .nil, .inl ⟨rd, hlook, reply_of_done hpacket⟩⟩
  · obtain ⟨t', hreply⟩ := reply_of_failure Policy.forAnswers_drain hfail t
    exact ⟨[], conn.reader, t', .nil, .inr ⟨e, rd, hfail, hreply⟩⟩
termination_by conn.reader.left
decreasing_by all_goals exact left_rest? (congrArg rest? hlook)

end Connection

end ColumnWire
