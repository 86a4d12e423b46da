import ColumnWire.Proofs.Client.Streams
import ColumnWire.Proofs.Reply.Answer

/-!
# The life of a stream

A stream is called again and again until it is dropped. Between two calls others may work with the
pool, so each call finds the pool and the clock as it finds them (`Visit`), and leaves a report.
Of all calls one is the turn: the stream gives its connection up in it. The calls before are pulls
that hand out the blocks of the answer one by one, and the calls after do nothing at all.
The connection goes back to the idle ones if the answer was read to its end, and is closed otherwise
(`given_up_once`).
-/
namespace ColumnWire

/-- A call on a stream. -/
inductive StreamCall where
  | next
  | nextInto (block : Block)
  | close
  | drop

/-- What a call answers. -/
inductive StreamAnswer where
  | next (block : Option Block)
  | nextInto (found : Bool) (block : Block)
  | close (result : Except Error Unit)
  | drop

namespace StreamCall

variable {σ : Type} [Source σ]

/-- Call a stream. -/
def run (call : StreamCall) : Pulling σ StreamAnswer := fun s =>
  match call with
  | .next => match RowStream.next s with | (block, s) => (.next block, s)
  | .nextInto block =>
    match RowStream.nextInto block s with | ((found, block), s) => (.nextInto found block, s)
  | .close => match RowStream.close s with | (result, s) => (.close result, s)
  | .drop => match RowStream.drop s with | ((), s) => (.drop, s)

/-- Whether the call asks for a block. -/
def pulls : StreamCall → Bool
  | .next | .nextInto _ => true
  | .close | .drop => false

/-- What is answered for nothing: no block, the block that was given, and success. -/
def idle : StreamCall → StreamAnswer
  | .next => .next none
  | .nextInto block => .nextInto false block
  | .close => .close (.ok ())
  | .drop => .drop

end StreamCall

/-- The block that an answer hands out. -/
def StreamAnswer.block? : StreamAnswer → Option Block
  | .next block => block
  | .nextInto found block => if found then some block else none
  | .close _ | .drop => none

/-- A call, and the pool and the time as it finds them. -/
structure Visit (σ : Type) where
  call : StreamCall
  pool : Pool σ
  now : Duration

/-- What comes of a call. -/
structure VisitReport (σ : Type) extends Visit σ where
  answer : StreamAnswer
  /-- The stream after it. -/
  rows : RowStream σ
  /-- The pool after it. -/
  left : Pool σ

variable {σ : Type} [Source σ]

/-- Call a stream of a client. -/
def Visit.report (home : Client σ) (rows : RowStream σ) (v : Visit σ) : VisitReport σ :=
  match v.call.run (rows, { home with pool := v.pool, now := v.now }) with
  | (answer, rows, c) => { v with answer, rows, left := c.pool }

/-- Call a stream again and again. -/
def RowStream.reports (home : Client σ) (rows : RowStream σ) : List (Visit σ) → List (VisitReport σ)
  | [] => []
  | v :: visits => v.report home rows :: reports home (v.report home rows).rows visits

/-! ## What a life is -/

/-- The connection goes back to the idle ones if it stands behind a whole answer, and the pool is
not closed. Otherwise it is closed. -/
structure Returned (limit : Nat) (rd : Reader σ) (back : Connection σ) (now : Duration)
    (pool left : Pool σ) : Prop where
  kept : Answered limit rd back.reader → pool.closed = false →
    left = (pool.push { back with lastUsed := now }).giveSlot
  discarded : ¬ Answered limit rd back.reader ∨ pool.closed = true → left = pool.remove back

/-- The answer does not go on at `rd`: it ends at `rd'`, or it fails there as `failure` tells. -/
def StopsAt (limit : Nat) (context : String) (rd rd' : Reader σ) (failure : Option Error) : Prop :=
  match failure with
  | none => Sight.look limit rd = .ended rd'
  | some e => (Sight.look limit rd).failure? context = some (e, rd')

/-- A pull on `held` that hands out nothing: it has met no block, and the failure of the stream is
how the answer failed there, if it did. -/
structure PulledOut (limit : Nat) (held back : Connection σ) (failure : Option Error) : Prop where
  back_eq : back = { held with reader := back.reader }
  stopped : ∃ rd, Delivers limit [] held.reader rd ∧
    StopsAt limit Policy.nextBlock.context rd back.reader failure

theorem PulledOut.id_eq {limit : Nat} {held back : Connection σ} {failure : Option Error}
    (h : PulledOut limit held back failure) : back.id = held.id := by
  rw [h.back_eq]

/-- The server is asked to stop on `held`, and what is left of the answer is read to where it does
not go on. Nothing is read if the server cannot be asked. -/
inductive CancelledOut (limit : Nat) (held back : Connection σ) : Prop
  | unsent {e : Error} (hsay : Connection.say Request.cancel held = .error e back)
  | drained {conn : Connection σ} {blocks : List Block} {rd : Reader σ} (failure : Option Error)
      (hsay : Connection.say Request.cancel held = .ok () conn)
      (back_eq : back = { conn with reader := back.reader })
      (hdelivers : Delivers limit blocks conn.reader rd)
      (hstops : StopsAt limit Policy.drain.context rd back.reader failure)

/-- A stream that was opened at `rd` gives up its connection: it was `held` before, and `back` is
what has become of it. -/
structure Turn (limit : Nat) (rd : Reader σ) (held back : Connection σ) (r : VisitReport σ) :
    Prop where
  empty : r.answer.block? = none
  closed : r.rows.connection = none
  id_eq : back.id = held.id
  returned : Returned limit rd back r.now r.pool r.left
  pulled : r.call.pulls = true → PulledOut limit held back r.rows.failure
  unfailed : r.call.pulls = false → r.rows.failure = none
  cancelled : r.call = .close → CancelledOut limit held back
  dropped : r.call = .drop → back = held

/-- The stream was opened on `conn`, and was called until it gave its connection up and beyond. -/
structure StreamLife (limit : Nat) (conn held back : Connection σ)
    (before : List (VisitReport σ)) (turn : VisitReport σ) (after : List (VisitReport σ)) :
    Prop where
  opened : ∀ r ∈ before, r.call.pulls = true ∧ r.answer.block?.isSome = true ∧
    r.rows.connection.isSome = true ∧ r.rows.failure = none ∧ r.left = r.pool
  held_eq : held = { conn with reader := held.reader }
  delivered : Delivers limit (before.filterMap (·.answer.block?)) conn.reader held.reader
  turned : Turn limit conn.reader held back turn
  silent : ∀ r ∈ after, r.answer = r.call.idle ∧ r.rows = turn.rows ∧ r.left = r.pool

namespace Returned

variable {limit : Nat} {rd rd₁ : Reader σ} {back : Connection σ} {now : Duration}
  {pool left : Pool σ}

/-- A connection behind a whole answer is released without a failure. -/
theorem release (h : Answered limit rd back.reader) (now : Duration) (pool : Pool σ) :
    Returned limit rd back now pool (pool.release now none back) where
  kept _ hopen := by simp [Pool.release, hopen]
  discarded hor := by
    have hclosed : pool.closed = true := hor.resolve_left (not_not_intro h)
    simp [Pool.release, hclosed]

theorem remove (h : ¬ Answered limit rd back.reader) (now : Duration) (pool : Pool σ) :
    Returned limit rd back now pool (pool.remove back) where
  kept hanswered := absurd hanswered h
  discarded _ := rfl

theorem congr (h : Answered limit rd back.reader ↔ Answered limit rd₁ back.reader)
    (hreturned : Returned limit rd₁ back now pool left) : Returned limit rd back now pool left where
  kept hanswered := hreturned.kept (h.mp hanswered)
  discarded hor := hreturned.discarded (hor.imp_left fun hnot hanswered => hnot (h.mpr hanswered))

omit [Source σ] in
theorem pool_release_some (e : Error) (now : Duration) (pool : Pool σ) :
    pool.release now (some e) back =
      if e.spoilsConnection then pool.remove back else pool.release now none back := by
  by_cases hspoils : e.spoilsConnection = true
  · simp [Pool.release, hspoils]
  · simp [Pool.release, hspoils]

/-- A failure spoils the connection unless the answer is over. -/
theorem failure {e : Error} (h : e.spoilsConnection = true ∧ ¬ Answered limit rd back.reader ∨
      e.spoilsConnection = false ∧ Answered limit rd back.reader) (now : Duration) (pool : Pool σ) :
    Returned limit rd back now pool (pool.release now (some e) back) := by
  rw [pool_release_some]
  rcases h with ⟨hspoils, hnot⟩ | ⟨hspoils, hanswered⟩
  · rw [if_pos hspoils]
    exact remove hnot now pool
  · rw [if_neg (by simp [hspoils])]
    exact release hanswered now pool

end Returned

/-! ## One call -/

namespace RowStream

variable {c : Client σ} {conn : Connection σ}

/-- A pull on an open stream hands out the next block of the answer, or the stream gives up. -/
theorem nextInto_cases (c : Client σ) (conn : Connection σ) (block : Block) :
    (∃ b rd, Delivers c.exceptionLimit [b] conn.reader rd ∧
      nextInto block (⟨some conn, none⟩, c) =
        ((true, b), ⟨some { conn with reader := rd }, none⟩, c)) ∨
    ∃ b failure back left, PulledOut c.exceptionLimit conn back failure ∧
      Returned c.exceptionLimit conn.reader back c.now c.pool left ∧
      nextInto block (⟨some conn, none⟩, c) =
        ((false, b), ⟨none, failure⟩, { c with pool := left }) := by
  obtain ⟨rd₁, hdelivers, ⟨b, rd, hlook, hreply⟩ | ⟨rd, hlook, hreply⟩ |
    ⟨e, rd, t', hfail, hreply⟩⟩ := conn.reply_nextBlock c.exceptionLimit { block }
  · refine .inl ⟨b, rd, hdelivers.append (.block hlook .nil), ?_⟩
    simp only [nextInto, hreply]
  · have hanswered : Answered c.exceptionLimit conn.reader rd :=
      ⟨[], rd₁, hdelivers, by rw [hlook]; rfl⟩
    refine .inr ⟨block, none, { conn with reader := rd }, _, ⟨rfl, rd₁, hdelivers, hlook⟩,
      .release hanswered c.now c.pool, ?_⟩
    simp only [nextInto, hreply, Client.release]
  · refine .inr ⟨t'.block, some e, { conn with reader := rd }, _, ⟨rfl, rd₁, hdelivers, hfail⟩,
      .failure (hdelivers.failure hfail) c.now c.pool, ?_⟩
    simp only [nextInto, hreply, Client.release]

end RowStream

namespace Connection

omit [Source σ] in
/-- Saying something does not read. -/
theorem keeps_say (bs : Bytes) : Keeps (fun c : Connection σ => (c.id, c.reader)) (say bs) := by
  have hflush : Keeps (fun c : Connection σ => (c.id, c.reader)) flush := by
    constructor
    · intro c c' u h
      unfold flush at h
      split at h <;> cases h
      rfl
    · intro c c' e h
      unfold flush at h
      split at h <;> cases h
      rfl
  refine Keeps.bind ?_ fun _ => hflush
  exact ⟨fun h => by cases h; rfl, fun h => nomatch h⟩

end Connection

theorem CancelledOut.id_eq {limit : Nat} {held back : Connection σ}
    (h : CancelledOut limit held back) : back.id = held.id := by
  cases h with
  | unsent hsay =>
    have hkept := (Connection.keeps_say Request.cancel).of_error hsay
    exact (Prod.mk.inj hkept).1
  | drained _ hsay hback =>
    have hkept := (Connection.keeps_say Request.cancel).of_ok hsay
    rw [hback]
    exact (Prod.mk.inj hkept).1

namespace RowStream

variable {c : Client σ} {conn : Connection σ}

/-- **A cancellation reads to the end of the answer, or it fails in a way that spoils the
connection.** An exception is an end as well as a failure. -/
theorem cancel_cases (limit : Nat) (conn : Connection σ) :
    ∃ back, CancelledOut limit conn back ∧
      (cancel limit conn = .ok () back ∧ Answered limit conn.reader back.reader ∨
        ∃ e, cancel limit conn = .error e back ∧
          (e.spoilsConnection = true ∧ ¬ Answered limit conn.reader back.reader ∨
            e.spoilsConnection = false ∧ Answered limit conn.reader back.reader)) := by
  have hcancel : cancel (σ := σ) limit =
      (do Connection.say Request.cancel; Connection.answer Policy.drain limit) :=
    Client.write_flush _ _
  rw [hcancel]
  cases hsay : Connection.say Request.cancel conn with
  | error e conn₁ =>
    -- The request could not be handed over, so nothing has been read.
    have hkept := (Connection.keeps_say Request.cancel).of_error hsay
    simp only [Prod.mk.injEq] at hkept
    have hnot : ¬ Answered limit conn.reader conn₁.reader := by
      rw [hkept.2]
      exact Delivers.nil.not_answered
    have hspoils := (Connection.say_eq_error hsay).1
    exact ⟨conn₁, .unsent hsay, .inr ⟨e, bind_eq_error.mpr (.inl hsay), .inl ⟨hspoils, hnot⟩⟩⟩
  | ok u conn₁ =>
    have hkept := (Connection.keeps_say Request.cancel).of_ok hsay
    simp only [Prod.mk.injEq] at hkept
    rw [bind_of_eq_ok hsay, ← hkept.2]
    obtain ⟨blocks, rd₁, t, hdelivers, ⟨rd, hlook, hreply⟩ | ⟨e, rd, hfail, hreply⟩⟩ :=
      conn₁.reply_drain limit {}
    · have hout : CancelledOut limit conn { conn₁ with reader := rd } :=
        .drained none hsay rfl hdelivers hlook
      have hend : (Sight.look limit rd₁).end? = some rd := by rw [hlook]; rfl
      refine ⟨_, hout, .inl ⟨?_, blocks, rd₁, hdelivers, hend⟩⟩
      simp only [Connection.answer, hreply]
    · have hout : CancelledOut limit conn { conn₁ with reader := rd } :=
        .drained (some e) hsay rfl hdelivers hfail
      refine ⟨_, hout, .inr ⟨e, ?_, hdelivers.failure hfail⟩⟩
      simp only [Connection.answer, hreply]

/-- Closing an open stream gives its connection up, and is no failure of the stream. -/
theorem close_cases (c : Client σ) (conn : Connection σ) :
    ∃ back left result, CancelledOut c.exceptionLimit conn back ∧
      Returned c.exceptionLimit conn.reader back c.now c.pool left ∧
      close (⟨some conn, none⟩, c) = (result, ⟨none, none⟩, { c with pool := left }) := by
  obtain ⟨back, hout, ⟨hcancel, hanswered⟩ | ⟨e, hcancel, hends⟩⟩ :=
    cancel_cases c.exceptionLimit conn
  · refine ⟨back, _, .ok (), hout, .release hanswered c.now c.pool, ?_⟩
    simp only [close, hcancel, Client.release]
  · have hreturned := Returned.failure hends c.now c.pool
    rw [Returned.pool_release_some] at hreturned
    by_cases hspoils : e.spoilsConnection = true
    · rw [if_pos hspoils] at hreturned
      refine ⟨back, _, .error e, hout, hreturned, ?_⟩
      simp only [close, hcancel, if_pos hspoils, Client.remove]
    · rw [if_neg hspoils] at hreturned
      refine ⟨back, _, .ok (), hout, hreturned, ?_⟩
      simp only [close, hcancel, if_neg hspoils, Client.release]

end RowStream

/-! ## Every call -/

namespace Visit

/-- A stream that has given its connection up does nothing any more. -/
theorem report_closed (home : Client σ) (failure : Option Error) (v : Visit σ) :
    v.report home ⟨none, failure⟩ =
      { v with answer := v.call.idle, rows := ⟨none, failure⟩, left := v.pool } := by
  obtain ⟨call, pool, now⟩ := v
  cases call <;> rfl

/-- **A call on an open stream hands out the next block of the answer, or it is the turn.** -/
theorem report_open (home : Client σ) (conn : Connection σ) (v : Visit σ) :
    (∃ b rd answer, Delivers home.exceptionLimit [b] conn.reader rd ∧ v.call.pulls = true ∧
      answer.block? = some b ∧ v.report home ⟨some conn, none⟩ =
        { v with answer, rows := ⟨some { conn with reader := rd }, none⟩, left := v.pool }) ∨
    ∃ back, Turn home.exceptionLimit conn.reader conn back (v.report home ⟨some conn, none⟩) := by
  obtain ⟨call, pool, now⟩ := v
  cases call with
  | next =>
    rcases RowStream.nextInto_cases { home with pool, now } conn .empty with
      ⟨b, rd, hdelivers, hnext⟩ | ⟨b, failure, back, left, hpulled, hreturned, hnext⟩
    · refine .inl ⟨b, rd, .next (some b), hdelivers, rfl, rfl, ?_⟩
      simp only [report, StreamCall.run, RowStream.next, hnext]
    · refine .inr ⟨back, ?_⟩
      simp only [report, StreamCall.run, RowStream.next, hnext]
      exact ⟨rfl, rfl, hpulled.id_eq, hreturned, fun _ => hpulled, nofun, nofun, nofun⟩
  | nextInto block =>
    rcases RowStream.nextInto_cases { home with pool, now } conn block with
      ⟨b, rd, hdelivers, hnext⟩ | ⟨b, failure, back, left, hpulled, hreturned, hnext⟩
    · refine .inl ⟨b, rd, .nextInto true b, hdelivers, rfl, rfl, ?_⟩
      simp only [report, StreamCall.run, hnext]
    · refine .inr ⟨back, ?_⟩
      simp only [report, StreamCall.run, hnext]
      exact ⟨rfl, rfl, hpulled.id_eq, hreturned, fun _ => hpulled, nofun, nofun, nofun⟩
  | close =>
    obtain ⟨back, left, result, hout, hreturned, hclose⟩ :=
      RowStream.close_cases { home with pool, now } conn
    refine .inr ⟨back, ?_⟩
    simp only [report, StreamCall.run, hclose]
    exact ⟨rfl, rfl, hout.id_eq, hreturned, nofun, fun _ => rfl, fun _ => hout, nofun⟩
  | drop =>
    have hremoved : Returned home.exceptionLimit conn.reader conn now pool (pool.remove conn) :=
      .remove Delivers.nil.not_answered now pool
    exact .inr ⟨conn, rfl, rfl, rfl, hremoved, nofun, fun _ => rfl, nofun, fun _ => rfl⟩

end Visit

/-! ## A whole life -/

/-- Once the connection is given up the rest of the calls leave everything as it is. -/
theorem reports_closed (home : Client σ) (failure : Option Error) (visits : List (Visit σ)) :
    ∀ r ∈ RowStream.reports home ⟨none, failure⟩ visits,
      r.answer = r.call.idle ∧ r.rows = ⟨none, failure⟩ ∧ r.left = r.pool := by
  induction visits with
  | nil => simp [RowStream.reports]
  | cons v visits ih =>
    rw [RowStream.reports, Visit.report_closed]
    intro r hr
    rcases List.mem_cons.mp hr with rfl | hr
    · exact ⟨rfl, rfl, rfl⟩
    · exact ih r hr

namespace StreamLife

variable {limit : Nat} {conn held back : Connection σ} {before after : List (VisitReport σ)}
  {r turn : VisitReport σ}

/-- The first call is the turn. -/
theorem first (home : Client σ) (h : Turn limit conn.reader conn back turn)
    (visits : List (Visit σ)) :
    StreamLife limit conn conn back [] turn (RowStream.reports home turn.rows visits) where
  opened := by simp
  held_eq := rfl
  delivered := .nil
  turned := h
  silent := by
    obtain ⟨v, answer, ⟨connection, failure⟩, left⟩ := turn
    cases h.closed
    exact reports_closed home failure visits

/-- A block has been handed out, and the rest of the life is to come. -/
theorem cons {b : Block} {rd : Reader σ} (hpulls : r.call.pulls = true)
    (hblock : r.answer.block? = some b) (hrows : r.rows = ⟨some { conn with reader := rd }, none⟩)
    (hleft : r.left = r.pool) (hdelivers : Delivers limit [b] conn.reader rd)
    (h : StreamLife limit { conn with reader := rd } held back before turn after) :
    StreamLife limit conn held back (r :: before) turn after where
  opened := by
    intro r' hr'
    rcases List.mem_cons.mp hr' with rfl | hr'
    · exact ⟨hpulls, by rw [hblock]; rfl, by rw [hrows]; rfl, by rw [hrows], hleft⟩
    · exact h.opened r' hr'
  held_eq := h.held_eq
  delivered := by
    simp only [List.filterMap_cons, hblock]
    exact hdelivers.append h.delivered
  turned := { h.turned with returned := h.turned.returned.congr hdelivers.answered_iff }
  silent := h.silent

end StreamLife

/-- **A stream gives its connection up once**: to the idle ones if the answer was read to its end,
and for good otherwise. Before that it hands out the blocks of the answer, and after that it does
nothing. -/
theorem given_up_once (home : Client σ) (conn : Connection σ) (visits : List (Visit σ))
    (pool : Pool σ) (now : Duration) :
    ∃ before turn after held back,
      RowStream.reports home ⟨some conn, none⟩ (visits ++ [⟨.drop, pool, now⟩]) =
        before ++ turn :: after ∧
      StreamLife home.exceptionLimit conn held back before turn after := by
  induction visits generalizing conn with
  | nil =>
    rcases Visit.report_open home conn ⟨.drop, pool, now⟩ with
      ⟨b, rd, answer, -, hpulls, -⟩ | ⟨back, hturn⟩
    · cases hpulls
    · exact ⟨[], _, _, conn, back, rfl, .first home hturn []⟩
  | cons v visits ih =>
    rw [List.cons_append, RowStream.reports]
    rcases Visit.report_open home conn v with
      ⟨b, rd, answer, hdelivers, hpulls, hblock, hreport⟩ | ⟨back, hturn⟩
    · obtain ⟨before, turn, after, held, back, hreports, hlife⟩ := ih { conn with reader := rd }
      rw [hreport, hreports]
      exact ⟨_ :: before, turn, after, held, back, rfl,
        .cons hpulls hblock rfl rfl hdelivers hlife⟩
    · exact ⟨[], _, _, conn, back, rfl, .first home hturn _⟩

end ColumnWire
