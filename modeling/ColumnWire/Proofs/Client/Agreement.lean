import ColumnWire.Proofs.Client.Streams
import ColumnWire.Proofs.Reply.Sight
import Mathlib.Algebra.GroupWithZero.Nat

/-!
# Counting rows and pulling blocks

`exec` counts the rows of an answer in one reply that reuses its block. `queryBlocks` pulls block
after block, each in a reply of its own. Both go by what stands next in the answer (`Sight.look`),
so they read the same bytes: `counts_pulled` follows them along an answer, packet by packet, and
`exec_agrees` compares the two requests from the same client on.
-/
namespace ColumnWire

/-- The failure, without the name of what was being read. -/
def Error.withoutContext : Error → Error
  | .unexpectedPacket _ code => .unexpectedPacket "" code
  | e => e

/-- What was being read does not matter to the connection. -/
theorem Error.spoilsConnection_withoutContext (e : Error) :
    e.withoutContext.spoilsConnection = e.spoilsConnection := by
  cases e <;> rfl

/-- Where one reply fails any other fails too, and in the same way. -/
theorem Sight.failure?_context {σ : Type} {sight : Sight σ} {e : Error} {rd : Reader σ}
    {context : String} (h : sight.failure? context = some (e, rd)) (context' : String) :
    ∃ e', sight.failure? context' = some (e', rd) ∧ e.withoutContext = e'.withoutContext := by
  cases sight with
  | exception e' rd' | broken e' rd' | refused code rd' =>
    cases h
    exact ⟨_, rfl, rfl⟩
  | _ => cases h

variable {σ : Type} [Source σ] {c : Client σ} {conn : Connection σ} {rd : Reader σ}

namespace RowStream

/-! ## Pulling at one position -/

theorem pullAll_of_none {s s' : RowStream σ × Client σ} (h : next s = (none, s'))
    (pulled : List Block) : pullAll pulled s = (pulled.reverse, s') := by
  rw [pullAll]
  split
  · next hnext =>
    rw [h] at hnext
    cases hnext
    rfl
  · next hnext =>
    rw [h] at hnext
    cases hnext

theorem pullAll_of_some {s s' : RowStream σ × Client σ} {b : Block} (h : next s = (some b, s'))
    (pulled : List Block) : pullAll pulled s = pullAll (b :: pulled) s' := by
  rw [pullAll]
  split
  · next hnext =>
    rw [h] at hnext
    cases hnext
  · next hnext =>
    rw [h] at hnext
    cases hnext
    rfl

/-- Only what is pulled next matters. -/
theorem pullAll_congr {s s' : RowStream σ × Client σ} (h : next s = next s') (pulled : List Block) :
    pullAll pulled s = pullAll pulled s' := by
  rcases hnext : next s' with ⟨_ | b, s₁⟩
  · rw [pullAll_of_none hnext, pullAll_of_none (h.trans hnext)]
  · rw [pullAll_of_some hnext, pullAll_of_some (h.trans hnext)]

theorem pullAll_passed (h : Sight.look c.exceptionLimit conn.reader = .passed rd)
    (pulled : List Block) :
    pullAll pulled (⟨some conn, none⟩, c) =
      pullAll pulled (⟨some { conn with reader := rd }, none⟩, c) := by
  refine pullAll_congr ?_ pulled
  simp only [next, nextInto, Connection.reply_passed Policy.forAnswers_nextBlock h]

theorem pullAll_block {b : Block} (h : Sight.look c.exceptionLimit conn.reader = .block b rd)
    (pulled : List Block) :
    pullAll pulled (⟨some conn, none⟩, c) =
      pullAll (b :: pulled) (⟨some { conn with reader := rd }, none⟩, c) := by
  refine pullAll_of_some ?_ pulled
  simp only [next, nextInto, Connection.reply_nextBlock_block h]

theorem pullAll_ended (h : Sight.look c.exceptionLimit conn.reader = .ended rd)
    (pulled : List Block) :
    pullAll pulled (⟨some conn, none⟩, c) =
      (pulled.reverse, ⟨none, none⟩, c.release none { conn with reader := rd }) := by
  refine pullAll_of_none ?_ pulled
  simp only [next, nextInto, Connection.reply_nextBlock_ended h]

theorem pullAll_failure {e : Error}
    (h : (Sight.look c.exceptionLimit conn.reader).failure? Policy.nextBlock.context = some (e, rd))
    (pulled : List Block) :
    pullAll pulled (⟨some conn, none⟩, c) =
      (pulled.reverse, ⟨none, some e⟩, c.release (some e) { conn with reader := rd }) := by
  obtain ⟨t, hreply⟩ := Connection.reply_of_failure Policy.forAnswers_nextBlock h {}
  refine pullAll_of_none ?_ pulled
  simp only [next, nextInto]
  rw [hreply]

/-! ## A whole answer -/

/-- **Counting rows and pulling blocks come to the same**, from any position of an answer: what is
counted is the rows of what is pulled, and both stop at the same byte. -/
theorem counts_pulled (c : Client σ) (conn : Connection σ) (t : Tray) (pulled : List Block)
    (hcounted : (pulled.map (·.rows)).sum = t.counted.getD 0) :
    match conn.reply Policy.rowCount c.exceptionLimit t with
    | (.ok n, _, back) => ∃ blocks, (blocks.map (·.rows)).sum = n.getD 0 ∧
        pullAll pulled (⟨some conn, none⟩, c) = (blocks, ⟨none, none⟩, c.release none back)
    | (.error e, _, back) => ∃ blocks e', e.withoutContext = e'.withoutContext ∧
        pullAll pulled (⟨some conn, none⟩, c) = (blocks, ⟨none, some e'⟩, c.release (some e') back)
    := by
  rcases Sight.cases_failure Policy.rowCount.context (Sight.look c.exceptionLimit conn.reader) with
    ⟨rd, hlook⟩ | ⟨b, rd, hlook⟩ | ⟨rd, hlook⟩ | ⟨e, rd, hfail⟩
  · rw [Connection.reply_passed Policy.forAnswers_rowCount hlook, pullAll_passed hlook]
    exact counts_pulled c { conn with reader := rd } t pulled hcounted
  · rw [Connection.reply_rowCount_block hlook, pullAll_block hlook]
    refine counts_pulled c { conn with reader := rd } _ (b :: pulled) ?_
    simp [hcounted, Nat.add_comm]
  · rw [Connection.reply_rowCount_ended hlook, pullAll_ended hlook]
    exact ⟨pulled.reverse, by simp [hcounted], rfl⟩
  · obtain ⟨t', hreply⟩ := Connection.reply_of_failure Policy.forAnswers_rowCount hfail t
    obtain ⟨e', hfail', hsame⟩ := Sight.failure?_context hfail Policy.nextBlock.context
    rw [hreply, pullAll_failure hfail']
    exact ⟨pulled.reverse, e', hsame, rfl⟩
termination_by conn.reader.left
decreasing_by all_goals exact Sight.left_rest? (by rw [hlook]; rfl)

end RowStream

namespace Client

/-- Blocks without rows do not count. -/
theorem sum_rows_filter (blocks : List Block) :
    ((blocks.filter (0 < ·.rows)).map (·.rows)).sum = (blocks.map (·.rows)).sum := by
  induction blocks with
  | nil => rfl
  | cons b blocks ih =>
    by_cases hrows : 0 < b.rows
    · simp [hrows, ih]
    · simp [ih, Nat.eq_zero_of_not_pos hrows]

/-- Two outcomes agree if one is the number of rows that the other holds, or both are one failure,
and if the client is the same after both: then the connection is idle after both or has departed
after both, and has been read up to the same byte. -/
def Agree :
    EStateM.Result Error (Client σ) Nat → EStateM.Result Error (Client σ) (List Block) → Prop
  | .ok n c₁, .ok blocks c₂ => (blocks.map (·.rows)).sum = n ∧ c₁ = c₂
  | .error e c₁, .error e' c₂ => e.withoutContext = e'.withoutContext ∧ c₁ = c₂
  | _, _ => False

omit [Source σ] in
/-- What both do first does not matter. -/
theorem agree_bind {α : Type} {f : α → Session σ Nat} {g : α → Session σ (List Block)}
    (h : ∀ a c, Agree (f a c) (g a c)) (x : Session σ α) (c : Client σ) :
    Agree ((x >>= f) c) ((x >>= g) c) := by
  cases hx : x c with
  | ok a c₁ =>
    rw [bind_of_eq_ok hx, bind_of_eq_ok hx]
    exact h a c₁
  | error e c₁ =>
    rw [bind_eq_error.mpr (.inl hx), bind_eq_error.mpr (.inl hx)]
    exact ⟨rfl, rfl⟩

omit [Source σ] in
/-- Failures that differ in their context at most treat a connection alike. -/
theorem release_congr {e e' : Error} (h : e.withoutContext = e'.withoutContext)
    (conn : Connection σ) (c : Client σ) : c.release (some e) conn = c.release (some e') conn := by
  have hspoils : e.spoilsConnection = e'.spoilsConnection := by
    rw [← e.spoilsConnection_withoutContext, h, e'.spoilsConnection_withoutContext]
  rw [release_some, release_some, hspoils]

/-- The requests agree on a connection whose server has been greeted. -/
theorem agree_converse (sql : String) (conn : Connection σ) (c : Client σ) :
    Agree (converse (execOn sql) conn c) ((openRows sql conn >>= collect) c) := by
  cases hsend : c.sendQuery sql conn with
  | error e conn₁ =>
    have hexec : execOn sql c conn = .error e conn₁ := bind_eq_error.mpr (.inl hsend)
    have hopen : openRows sql conn c = .error e (c.release (some e) conn₁) := by
      simp only [openRows, hsend]
    rw [bind_eq_error.mpr (.inl hopen)]
    simp only [converse, hexec]
    exact ⟨rfl, rfl⟩
  | ok u conn₁ =>
    have hopen : openRows sql conn c = .ok ⟨some conn₁, none⟩ c := by simp only [openRows, hsend]
    have hpulled := RowStream.counts_pulled c conn₁ {} [] rfl
    rw [bind_of_eq_ok hopen]
    rcases hreply : conn₁.reply Policy.rowCount c.exceptionLimit {} with ⟨e | n, t, back⟩
    · have hanswer : Connection.answer Policy.rowCount c.exceptionLimit conn₁ = .error e back := by
        simp only [Connection.answer, hreply]
      have hexec : execOn sql c conn = .error e back :=
        bind_eq_error.mpr (.inr ⟨u, conn₁, hsend, bind_eq_error.mpr (.inl hanswer)⟩)
      rw [hreply] at hpulled
      obtain ⟨blocks, e', hsame, hall⟩ := hpulled
      simp only [converse, hexec, collect, hall]
      exact ⟨hsame, release_congr hsame back c⟩
    · have hanswer : Connection.answer Policy.rowCount c.exceptionLimit conn₁ = .ok n back := by
        simp only [Connection.answer, hreply]
      have hexec : execOn sql c conn = .ok (n.getD 0) back :=
        bind_eq_ok.mpr ⟨u, conn₁, hsend, bind_eq_ok.mpr ⟨n, back, hanswer, rfl⟩⟩
      rw [hreply] at hpulled
      obtain ⟨blocks, hsum, hall⟩ := hpulled
      simp only [converse, hexec, collect, hall]
      exact ⟨(sum_rows_filter blocks).trans hsum, rfl⟩

/-- **Counting and pulling agree**, whatever the server answers. -/
theorem exec_agrees (sql : String) (c : Client σ) : Agree (exec sql c) (queryBlocks sql c) := by
  refine agree_bind (fun conn c => ?_) acquire c
  unfold exchangeOn queryBlocksOn queryOn
  rw [bind_assoc]
  exact agree_bind (agree_converse sql) (welcome conn) c

end Client

end ColumnWire
