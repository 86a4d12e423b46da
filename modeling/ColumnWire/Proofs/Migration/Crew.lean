import ColumnWire.Proofs.Log
import ColumnWire.Proofs.Migration.History

/-!
# Migrators that take turns

Any number of migrators work on one database at the same time, and their calls come in any order;
any call may also fail without effect. Whoever gets the lock is the owner until giving it back is
tried, and everybody else can do no more than fail to get it. What the owner still has to do goes
on as if nobody else was there, because nobody else changes the table.
-/
namespace ColumnWire

open Plan MarkRow

variable {σ : Type}

/-- What a migrator ends with. -/
abbrev GroupResult := Except MigrateError MigrationGroup

namespace Crew

/-- A call that was made: by whom, and whether it succeeded. -/
structure Entry where
  worker : Nat
  call : Call
  succeeded : Bool
deriving DecidableEq

/-- What may happen next. -/
inductive Action where
  /-- A member of the team sets out to do something. -/
  | start (member : Nat) (o : Order)
  /-- A worker looks at the clock. -/
  | clock (worker : Nat) (second : Int)
  /-- The next call of a worker is answered, or fails. -/
  | call (worker : Nat) (failure : Option Error)
  /-- A step that is under way and not made of statements makes a call of its own. -/
  | aside (worker : Nat) (call : Call) (failure : Option Error)

end Crew

/-- Several migrators at work: what each has still to do, and the calls that were made so far. -/
structure Crew (σ : Type) where
  state : σ
  workers : List (Plan GroupResult) := []
  log : List Crew.Entry := []

namespace Crew

/-- One thing happens. What cannot happen changes nothing. `own` says which calls a step may make. -/
def step (team : List Migrator) (db : Database σ) (own : String → Call → Bool) (c : Crew σ) :
    Action → Crew σ
  | .start member o =>
    match team[member]? with
    | some m => { c with workers := c.workers ++ [(m.carryOut o).run] }
    | none => c
  | .clock worker second =>
    match c.workers[worker]? with
    | some (.clock next) => { c with workers := c.workers.set worker (next second) }
    | _ => c
  | .call worker failure =>
    match c.workers[worker]? with
    | some (.ask call next) =>
      let db := db.failing fun _ => failure
      let (rest, state) := (Plan.ask call next).step db c.state
      { state, workers := c.workers.set worker rest,
        log := c.log ++ [⟨worker, call, (db.answer call c.state).1.isOk⟩] }
    | _ => c
  | .aside worker call failure =>
    match c.workers[worker]? with
    | some (.ask (.custom label) _) =>
      if own label call then
        let (answer, state) := (db.failing fun _ => failure).answer call c.state
        { c with state, log := c.log ++ [⟨worker, call, answer.isOk⟩] }
      else c
    | _ => c

def run (team : List Migrator) (db : Database σ) (own : String → Call → Bool)
    (actions : List Action) (c : Crew σ) : Crew σ :=
  actions.foldl (step team db own) c

/-! ## Who has the lock -/

variable {home m : Migrator} {log : List Entry} {e : Entry} {i : Nat}

/-- A worker has taken the lock and not tried to give it back since. -/
def Has (home : Migrator) (log : List Entry) (i : Nat) : Prop :=
  ∃ before after, log = before ++ ⟨i, .exec home.lockSql, true⟩ :: after ∧
    ∀ e ∈ after, e.worker = i → e.call ≠ .exec home.unlockSql

/-- What may be found in a log behind other entries. While somebody has the lock, others only try to
get it and fail; and all else is done by who has it. -/
def Admissible (home : Migrator) (log : List Entry) (e : Entry) : Prop :=
  (∀ i, Has home log i → e.worker ≠ i → e.call = .exec home.lockSql ∧ e.succeeded = false) ∧
    (e.call ≠ .exec home.lockSql → Has home log e.worker)

/-- All entries are admissible behind those before them. -/
def Orderly (home : Migrator) (log : List Entry) : Prop :=
  ∀ before e after, log = before ++ e :: after → Admissible home before e

theorem Orderly.concat (h : Orderly home log) (he : Admissible home log e) :
    Orderly home (log ++ [e]) := by
  intro before x after hlog
  rcases split_concat hlog with ⟨rfl, rfl, -⟩ | ⟨after', -, hold⟩
  · exact he
  · exact h before x after' hold

theorem has_concat : Has home (log ++ [e]) i ↔
    e = ⟨i, .exec home.lockSql, true⟩ ∨
      (Has home log i ∧ (e.worker = i → e.call ≠ .exec home.unlockSql)) :=
  last_concat

/-- A call that has nothing to do with the lock does not change who has it. -/
theorem has_concat_of_ne (hlock : e.call ≠ .exec home.lockSql) (hunlock : e.call ≠ .exec home.unlockSql) :
    Has home (log ++ [e]) i ↔ Has home log i := by
  rw [has_concat]
  constructor
  · rintro (rfl | ⟨h, -⟩)
    · exact absurd rfl hlock
    · exact h
  · exact fun h => .inr ⟨h, fun _ => hunlock⟩

/-- Nor does failing to get it. -/
theorem has_concat_refused (hlock : e.call = .exec home.lockSql) (hfailed : e.succeeded = false) :
    Has home (log ++ [e]) i ↔ Has home log i := by
  rw [has_concat, hlock]
  constructor
  · rintro (rfl | ⟨h, -⟩)
    · cases hfailed
    · exact h
  · exact fun h => .inr ⟨h, fun _ heq => home.unlockSql_ne_lockSql (Call.exec.inj heq).symm⟩

/-! ## What a worker has still to do -/

variable {team : List Migrator} {db : Database σ} {own : String → Call → Bool}
  {marks : σ → List MarkRow} {locked : σ → Bool} {I : List MarkRow → Prop}
  {p : Plan GroupResult} {rows : List MarkRow}

/-- A database that a team shares: all use one lock and one table, and the calls that their steps make
have nothing to do with either. -/
structure Shared (home : Migrator) (team : List Migrator) (db : Database σ)
    (own : String → Call → Bool) (marks : σ → List MarkRow) (locked : σ → Bool) : Prop where
  oneLock : ∀ m ∈ team, m.locksTable = home.locksTable
  keeps : ∀ m ∈ team, m.Keeps db marks
  locks : ∀ m ∈ team, m.Locks db locked
  apart : ∀ label call, own label call = true →
    call ≠ .exec home.lockSql ∧ call ≠ .exec home.unlockSql ∧
      ∀ s, marks (db.answer call s).2 = marks s ∧ locked (db.answer call s).2 = locked s

theorem Shared.failing (h : Shared home team db own marks locked) (failure : Call → Option Error) :
    Shared home team (db.failing failure) own marks locked where
  oneLock := h.oneLock
  keeps m hm := (h.keeps m hm).failing failure
  locks m hm := (h.locks m hm).failing failure
  apart label call hown := by
    obtain ⟨hlock, hunlock, hsame⟩ := h.apart label call hown
    refine ⟨hlock, hunlock, fun s => ?_⟩
    rcases db.failing_answer failure call s with ⟨e, hfailed⟩ | hanswer
    · rw [hfailed]
      exact ⟨rfl, rfl⟩
    · rw [hanswer]
      exact hsame s

theorem Shared.lockSql_eq (h : Shared home team db own marks locked) (hm : m ∈ team) :
    m.lockSql = home.lockSql ∧ m.unlockSql = home.unlockSql := by
  delta Migrator.lockSql Migrator.unlockSql
  rw [h.oneLock m hm]
  exact ⟨rfl, rfl⟩

/-- Ask for the lock, and go on if it is got. -/
def enter (m : Migrator) (o : Order) : Plan GroupResult :=
  .ask (.exec m.lockSql) fun answer =>
    match answer with
    | .ok _ => (m.work o).run.bind m.release
    | .error e => .done (.error (.alreadyLocked e))

/-- A worker without the lock has come to an end or is about to ask for the lock. -/
def Rests (team : List Migrator) (p : Plan GroupResult) : Prop :=
  (∃ r, p = .done r) ∨ ∃ m ∈ team, m.registry.migrations ≠ [] ∧ ∃ o, p = enter m o

/-- A worker with the lock does deeds, under which the table stays as it should be, and will give the
lock back. -/
def Works (team : List Migrator) (I : List MarkRow → Prop) (p : Plan GroupResult) (rows : List MarkRow) :
    Prop :=
  ∃ m ∈ team, ∃ q : Plan GroupResult, p = q.bind m.release ∧
    Meets m.recording (fun call rows => m.Deed call ∧ I rows) (fun _ => I) q rows

/-- Whoever has got the lock keeps the table as it should be. -/
def KeptBy (team : List Migrator) (I : List MarkRow → Prop) : Prop :=
  ∀ m ∈ team, m.registry.migrations ≠ [] → ∀ o rows, I rows →
    Meets m.recording (fun call rows => m.Deed call ∧ I rows) (fun _ => I) (m.work o).run rows

/-- Who rests is not about to look at the clock. -/
theorem not_rests_clock {next : Int → Plan GroupResult} : ¬Rests team (.clock next) := by
  rintro (⟨r, hr⟩ | ⟨m, hm, hne, o, hp⟩)
  · cases hr
  · cases hp

/-- Nor in the middle of a step. -/
theorem not_rests_custom {label : String} {next : Except Error Unit → Plan GroupResult} :
    ¬Rests team (.ask (.custom label) next) := by
  rintro (⟨r, hr⟩ | ⟨m, hm, hne, o, hp⟩)
  · cases hr
  · cases hp

theorem rests_carryOut (hm : m ∈ team) (o : Order) : Rests team (m.carryOut o).run := by
  rw [Migrator.carryOut_eq]
  by_cases hne : m.registry.migrations = []
  · rw [Migrator.locked_of_empty hne]
    exact .inl ⟨_, rfl⟩
  · rw [Migrator.locked_of_ne hne]
    exact .inr ⟨m, hm, hne, o, rfl⟩

theorem Works.enter (hI : KeptBy team I) (hm : m ∈ team) (hne : m.registry.migrations ≠ [])
    (o : Order) (hrows : I rows) : Works team I ((m.work o).run.bind m.release) rows :=
  ⟨m, hm, _, rfl, hI m hm hne o rows hrows⟩

theorem Works.kept (h : Works team I p rows) : I rows := by
  obtain ⟨m, -, q, -, hq⟩ := h
  exact hq.now (fun _ _ hallowed => hallowed.2) fun _ _ hgoal => hgoal

/-- A look at the clock is part of the work. -/
theorem Works.clock {next : Int → Plan GroupResult} (h : Works team I (.clock next) rows) (second : Int) :
    Works team I (next second) rows := by
  obtain ⟨m, hm, q, hp, hq⟩ := h
  cases q with
  | done r => cases hp
  | ask call next' => cases hp
  | clock next' =>
    cases hp
    exact ⟨m, hm, next' second, rfl, hq second⟩

/-- The next call of a worker with the lock gives it back, or it is a deed and the work goes on. -/
theorem Works.ask {call : Call} {next : Except Error call.Answer → Plan GroupResult}
    (h : Works team I (.ask call next) rows) :
    ∃ m ∈ team,
      (call = .exec m.unlockSql ∧ ∀ answer, Rests team (next answer)) ∨
      (m.Deed call ∧ ∀ answer rows', m.recording call answer rows rows' →
        Works team I (next answer) rows') := by
  obtain ⟨m, hm, q, hp, hq⟩ := h
  -- `q` is what is left of the work; the lock is given back when nothing is.
  cases q with
  | done r =>
    cases hp
    exact ⟨m, hm, .inl ⟨rfl, fun _ => .inl ⟨r, rfl⟩⟩⟩
  | ask call' next' =>
    cases hp
    exact ⟨m, hm, .inr ⟨hq.1.1, fun answer rows' hrows => ⟨m, hm, _, rfl, hq.2 answer rows' hrows⟩⟩⟩
  | clock next' => cases hp

theorem Shared.deed_apart (h : Shared home team db own marks locked) (hm : m ∈ team) {call : Call}
    (hdeed : m.Deed call) : call ≠ .exec home.lockSql ∧ call ≠ .exec home.unlockSql := by
  rcases hdeed with rfl | ⟨b, rfl⟩ | hstep
  · exact ⟨fun heq => (nomatch heq), fun heq => (nomatch heq)⟩
  · exact ⟨fun heq => (nomatch heq), fun heq => (nomatch heq)⟩
  · rw [← (h.lockSql_eq hm).1, ← (h.lockSql_eq hm).2]
    exact (h.locks m hm).apart call hstep

/-! ## Everybody at every moment -/

variable {c : Crew σ} {owner : Option Nat} {worker : Nat}

/-- How things are while the owner, if there is one, has the lock. -/
structure Sound (home : Migrator) (team : List Migrator) (marks : σ → List MarkRow)
    (locked : σ → Bool) (I : List MarkRow → Prop) (owner : Option Nat) (c : Crew σ) : Prop where
  rests : ∀ i p, c.workers[i]? = some p → owner ≠ some i → Rests team p
  works : ∀ i, owner = some i →
    locked c.state = true ∧ ∃ p, c.workers[i]? = some p ∧ Works team I p (marks c.state)
  kept : I (marks c.state)
  has : ∀ i, Has home c.log i ↔ owner = some i
  orderly : Orderly home c.log

theorem sound_begin (s : σ) (h : I (marks s)) : Sound home team marks locked I none { state := s } where
  rests i p hp := by simp at hp
  works i h := nomatch h
  kept := h
  has i := ⟨fun ⟨before, after, hlog, _⟩ => by simp at hlog, fun h => nomatch h⟩
  orderly before e after hlog := by simp at hlog

/-- Somebody joins. -/
theorem Sound.join (h : Sound home team marks locked I owner c) (hp : Rests team p) :
    Sound home team marks locked I owner { c with workers := c.workers ++ [p] } where
  rests i q hq hi := by
    rw [List.getElem?_append] at hq
    split at hq
    · exact h.rests i q hq hi
    · rw [List.mem_singleton.mp (List.mem_of_getElem? hq)]
      exact hp
  works i hi := by
    obtain ⟨hlocked, q, hq, hworks⟩ := h.works i hi
    have hlt := (List.getElem?_eq_some_iff.mp hq).1
    exact ⟨hlocked, q, (List.getElem?_append_left hlt).trans hq, hworks⟩
  kept := h.kept
  has := h.has
  orderly := h.orderly

/-- Who does not rest has the lock. -/
theorem Sound.owner_of_not_rests (h : Sound home team marks locked I owner c)
    (hworker : c.workers[worker]? = some p) (hp : ¬Rests team p) :
    owner = some worker ∧ worker < c.workers.length ∧ locked c.state = true ∧
      Works team I p (marks c.state) := by
  have howner : owner = some worker := Classical.byContradiction fun hne => hp (h.rests worker p hworker hne)
  obtain ⟨hheld, q, hq, hworks⟩ := h.works worker howner
  obtain rfl := Option.some.inj (hworker.symm.trans hq)
  exact ⟨howner, (List.getElem?_eq_some_iff.mp hworker).1, hheld, hworks⟩

/-- One worker goes on. Nobody else gets or loses the lock by that, and if somebody else has it the
worker does not change anything. -/
theorem Sound.update {state : σ} {owner' : Option Nat} (h : Sound home team marks locked I owner c)
    (hothers : ∀ i, i ≠ worker → (owner' = some i ↔ owner = some i))
    (hquiet : ∀ i, i ≠ worker → owner = some i →
      marks state = marks c.state ∧ locked state = locked c.state)
    (hrests : owner' ≠ some worker → Rests team p)
    (hworks : owner' = some worker →
      worker < c.workers.length ∧ locked state = true ∧ Works team I p (marks state))
    (hkept : I (marks state)) (hhas : ∀ i, Has home log i ↔ owner' = some i)
    (horderly : Orderly home log) :
    Sound home team marks locked I owner' { state, workers := c.workers.set worker p, log } where
  rests i q hq hi := by
    rw [List.getElem?_set] at hq
    split at hq
    · next hworker =>
      subst hworker
      obtain rfl := Option.some.inj (Option.ite_none_right_eq_some.mp hq).2
      exact hrests hi
    · next hworker =>
      exact h.rests i q hq fun howner => hi ((hothers i (Ne.symm hworker)).mpr howner)
  works i hi := by
    by_cases hworker : i = worker
    · subst hworker
      obtain ⟨hlt, hheld, hp⟩ := hworks hi
      exact ⟨hheld, p, List.getElem?_set_self hlt, hp⟩
    · have howner := (hothers i hworker).mp hi
      obtain ⟨hmarks, hlocked⟩ := hquiet i hworker howner
      obtain ⟨hheld, q, hq, hp⟩ := h.works i howner
      exact ⟨hlocked.trans hheld, q, (List.getElem?_set_ne (Ne.symm hworker)).trans hq, hmarks ▸ hp⟩
  kept := hkept
  has := hhas
  orderly := horderly

theorem Sound.admissible (h : Sound home team marks locked I owner c) (howner : owner = some e.worker) :
    Admissible home c.log e := by
  refine ⟨fun i hi hne => ?_, fun _ => (h.has _).mpr howner⟩
  exact absurd (Option.some.inj (howner.symm.trans ((h.has i).mp hi))) hne

/-- The owner does what has nothing to do with the lock. -/
theorem Sound.does {state : σ} (h : Sound home team marks locked I owner c)
    (howner : owner = some worker) (hworker : e.worker = worker)
    (hlock : e.call ≠ .exec home.lockSql) (hunlock : e.call ≠ .exec home.unlockSql)
    (hlocked : locked state = locked c.state) (hp : Works team I p (marks state)) :
    Sound home team marks locked I owner
      { state, workers := c.workers.set worker p, log := c.log ++ [e] } := by
  obtain ⟨hheld, q, hq, -⟩ := h.works worker howner
  refine h.update (fun _ _ => Iff.rfl) ?_ (fun hne => absurd howner hne) ?_ hp.kept ?_
    (h.orderly.concat (h.admissible (hworker ▸ howner)))
  · intro i hne hi
    exact absurd (Option.some.inj (hi.symm.trans howner)) hne
  · exact fun _ => ⟨(List.getElem?_eq_some_iff.mp hq).1, hlocked.trans hheld, hp⟩
  · exact fun i => (has_concat_of_ne hlock hunlock).trans (h.has i)

/-- The owner tries to give the lock back, and is not the owner any more. -/
theorem Sound.gives {state : σ} (h : Sound home team marks locked I owner c)
    (howner : owner = some worker) (hworker : e.worker = worker)
    (hunlock : e.call = .exec home.unlockSql) (hmarks : marks state = marks c.state)
    (hp : Rests team p) :
    Sound home team marks locked I none
      { state, workers := c.workers.set worker p, log := c.log ++ [e] } := by
  have honly : ∀ i, owner = some i → i = worker := fun i hi => Option.some.inj (hi.symm.trans howner)
  refine h.update ?_ ?_ (fun _ => hp) (fun hi => nomatch hi) (hmarks ▸ h.kept) ?_
    (h.orderly.concat (h.admissible (hworker ▸ howner)))
  · exact fun i hne => ⟨fun hi => (nomatch hi), fun hi => absurd (honly i hi) hne⟩
  · exact fun i hne hi => absurd (honly i hi) hne
  · intro i
    rw [has_concat, hunlock]
    refine ⟨?_, fun hi => nomatch hi⟩
    rintro (rfl | ⟨hi, hnot⟩)
    · exact absurd (Call.exec.inj hunlock).symm home.unlockSql_ne_lockSql
    · exact absurd rfl (hnot (hworker.trans (honly i ((h.has i).mp hi)).symm))

/-- Somebody fails to get the lock. -/
theorem Sound.refused {state : σ} (h : Sound home team marks locked I owner c)
    (howner : owner ≠ some worker) (hlock : e.call = .exec home.lockSql) (hfailed : e.succeeded = false)
    (hmarks : marks state = marks c.state) (hlocked : locked state = locked c.state)
    (hp : Rests team p) :
    Sound home team marks locked I owner
      { state, workers := c.workers.set worker p, log := c.log ++ [e] } := by
  refine h.update (fun _ _ => Iff.rfl) (fun _ _ _ => ⟨hmarks, hlocked⟩) (fun _ => hp)
    (fun hi => absurd hi howner) (hmarks ▸ h.kept)
    (fun i => (has_concat_refused hlock hfailed).trans (h.has i)) (h.orderly.concat ?_)
  exact ⟨fun _ _ _ => ⟨hlock, hfailed⟩, fun hne => absurd hlock hne⟩

/-- Somebody gets the lock, so nobody had it. -/
theorem Sound.takes {state : σ} (h : Sound home team marks locked I owner c)
    (hlt : worker < c.workers.length) (he : e = ⟨worker, .exec home.lockSql, true⟩)
    (hfree : locked c.state = false) (hmarks : marks state = marks c.state)
    (hlocked : locked state = true) (hp : Works team I p (marks state)) :
    Sound home team marks locked I (some worker)
      { state, workers := c.workers.set worker p, log := c.log ++ [e] } := by
  -- If there was an owner, the lock would be there and adding it again would have failed.
  have hnone : owner = none := by
    cases owner with
    | none => rfl
    | some i => exact absurd ((h.works i rfl).1.symm.trans hfree) (by decide)
  subst hnone he
  refine h.update ?_ (fun _ _ hi => nomatch hi) (fun hne => absurd rfl hne)
    (fun _ => ⟨hlt, hlocked, hp⟩) (hmarks ▸ h.kept) ?_ (h.orderly.concat ?_)
  · exact fun i hne => ⟨fun hi => absurd (Option.some.inj hi).symm hne, fun hi => nomatch hi⟩
  · intro i
    rw [has_concat, h.has i]
    refine ⟨?_, fun hi => .inl (Option.some.inj hi ▸ rfl)⟩
    rintro (hi | ⟨hi, -⟩)
    · exact congrArg (fun e => some e.worker) hi
    · cases hi
  · exact ⟨fun i hi => (nomatch (h.has i).mp hi), fun hne => absurd rfl hne⟩

/-- The next call of a worker is answered. -/
theorem Sound.call (h : Sound home team marks locked I owner c)
    (hshared : Shared home team db own marks locked) (hI : KeptBy team I) {call : Call}
    {next : Except Error call.Answer → Plan GroupResult} (hworker : c.workers[worker]? = some (.ask call next)) :
    ∃ owner', Sound home team marks locked I owner'
      { state := (db.answer call c.state).2,
        workers := c.workers.set worker (next (db.answer call c.state).1),
        log := c.log ++ [⟨worker, call, (db.answer call c.state).1.isOk⟩] } := by
  by_cases howner : owner = some worker
  · obtain ⟨hheld, p, hp, hworks⟩ := h.works worker howner
    obtain rfl := Option.some.inj (hworker.symm.trans hp)
    obtain ⟨m, hm, ⟨rfl, hrests⟩ | ⟨hdeed, hgoes⟩⟩ := hworks.ask
    · have hmarks := (hshared.keeps m hm).locking m.unlockSql (by simp) c.state
      exact ⟨none, h.gives howner rfl (congrArg Call.exec (hshared.lockSql_eq hm).2) hmarks (hrests _)⟩
    · obtain ⟨hlock, hunlock⟩ := hshared.deed_apart hm hdeed
      exact ⟨owner, h.does howner rfl hlock hunlock ((hshared.locks m hm).deeds call hdeed c.state)
        (hgoes _ _ ((hshared.keeps m hm).recording hdeed c.state))⟩
  · obtain ⟨r, hr⟩ | ⟨m, hm, hne, o, hp⟩ := h.rests worker _ hworker howner
    · cases hr
    · cases hp
      have hmarks := (hshared.keeps m hm).locking m.lockSql (by simp) c.state
      have hlock := congrArg Call.exec (hshared.lockSql_eq hm).1
      cases hanswer : (db.answer (.exec m.lockSql) c.state).1 with
      | error e =>
        exact ⟨owner, h.refused howner hlock rfl hmarks ((hshared.locks m hm).failed _ _ e hanswer)
          (.inl ⟨_, rfl⟩)⟩
      | ok a =>
        obtain ⟨hfree, htaken⟩ := (hshared.locks m hm).taken c.state hanswer
        refine ⟨some worker, h.takes (List.getElem?_eq_some_iff.mp hworker).1 ?_ hfree hmarks htaken
          (.enter hI hm hne o (hmarks ▸ h.kept))⟩
        rw [(hshared.lockSql_eq hm).1]
        rfl

/-- A step that is under way makes a call of its own. -/
theorem Sound.aside (h : Sound home team marks locked I owner c)
    (hshared : Shared home team db own marks locked) {label : String} {call : Call}
    {next : Except Error Unit → Plan GroupResult} (hworker : c.workers[worker]? = some (.ask (.custom label) next))
    (hown : own label call = true) :
    Sound home team marks locked I owner
      { c with
        state := (db.answer call c.state).2
        log := c.log ++ [⟨worker, call, (db.answer call c.state).1.isOk⟩] } := by
  obtain ⟨howner, hlt, -, hworks⟩ := h.owner_of_not_rests hworker not_rests_custom
  obtain ⟨hlock, hunlock, hsame⟩ := hshared.apart label call hown
  obtain ⟨hmarks, hlocked⟩ := hsame c.state
  have hdone : Sound home team marks locked I owner
      { state := (db.answer call c.state).2
        workers := c.workers.set worker (.ask (.custom label) next)
        log := c.log ++ [⟨worker, call, (db.answer call c.state).1.isOk⟩] } :=
    h.does howner rfl hlock hunlock hlocked (hmarks ▸ hworks)
  rw [← (List.getElem?_eq_some_iff.mp hworker).2, List.set_getElem_self hlt] at hdone
  exact hdone

/-- A worker looks at the clock. -/
theorem Sound.clock {next : Int → Plan GroupResult} (h : Sound home team marks locked I owner c)
    (hworker : c.workers[worker]? = some (.clock next)) (second : Int) :
    Sound home team marks locked I owner
      { c with workers := c.workers.set worker (next second) } := by
  obtain ⟨howner, hlt, hheld, hworks⟩ := h.owner_of_not_rests hworker not_rests_clock
  exact h.update (fun _ _ => Iff.rfl) (fun _ _ _ => ⟨rfl, rfl⟩) (fun hne => absurd howner hne)
    (fun _ => ⟨hlt, hheld, hworks.clock second⟩) h.kept h.has h.orderly

/-- **One step** of the team, whatever it is. -/
theorem Sound.step (h : Sound home team marks locked I owner c)
    (hshared : Shared home team db own marks locked) (hI : KeptBy team I) (action : Action) :
    ∃ owner', Sound home team marks locked I owner' (step team db own c action) := by
  cases action with
  | start member o =>
    simp only [Crew.step]
    split
    · next m hm => exact ⟨owner, h.join (rests_carryOut (List.mem_of_getElem? hm) o)⟩
    · exact ⟨owner, h⟩
  | clock worker second =>
    simp only [Crew.step]
    split
    · next next hworker => exact ⟨owner, h.clock hworker second⟩
    · exact ⟨owner, h⟩
  | call worker failure =>
    simp only [Crew.step]
    split
    · next call next hworker => exact h.call (hshared.failing fun _ => failure) hI hworker
    · exact ⟨owner, h⟩
  | aside worker call failure =>
    simp only [Crew.step]
    split
    · next label next hworker =>
      split
      · next hown =>
        exact ⟨owner, h.aside (hshared.failing fun _ => failure) hworker hown⟩
      · exact ⟨owner, h⟩
    · exact ⟨owner, h⟩

theorem Sound.run (h : Sound home team marks locked I owner c)
    (hshared : Shared home team db own marks locked) (hI : KeptBy team I) (actions : List Action) :
    ∃ owner', Sound home team marks locked I owner' (run team db own actions c) := by
  induction actions generalizing c owner with
  | nil => exact ⟨owner, h⟩
  | cons action actions ih =>
    obtain ⟨owner', h'⟩ := h.step hshared hI action
    exact ih h'

/-- Nothing is asked of the table. -/
theorem keptBy_true (team : List Migrator) : KeptBy team fun _ => True := by
  intro m _ _ o rows _
  exact ((m.deeds_work o m.recording rows).allow fun _ _ hdeed => ⟨hdeed, trivial⟩).mono
    fun _ _ _ => trivial

/-- Migrators of one registry keep the table well. -/
theorem keptBy_wellKept (hteam : ∀ m ∈ team, m.registry = home.registry)
    (hr : home.registry.Distinct) : KeptBy team home.TableKept := by
  intro m hm _ o rows hrows
  have hregistry := hteam m hm
  rw [Migrator.TableKept, ← hregistry] at hrows ⊢
  exact Migrator.kept_work o (hregistry ▸ hr) hrows

/-- **Mutual exclusion.** Any number of migrators apply and undo migrations at the same time on a
database that they share, in whatever order their calls come and whatever calls fail. While one
has the lock, from getting it until trying to give it back, the only calls of others are attempts
to get the lock that fail; all calls but these attempts, giving the lock back included, are made
by one who has it; and while somebody has the lock it is there. So, if all of them know the same
migrations with different names and the table is empty in the beginning, no name ever has more
than one live row. -/
theorem mutual_exclusion (home : Migrator) (team : List Migrator) (db : Database σ)
    (own : String → Call → Bool) (marks : σ → List MarkRow) (locked : σ → Bool)
    (hshared : Shared home team db own marks locked) (s : σ) (actions : List Action) :
    let c := run team db own actions { state := s }
    (∀ before e after, c.log = before ++ e :: after →
      (∀ i, Has home before i → e.worker ≠ i → e.call = .exec home.lockSql ∧ e.succeeded = false) ∧
        (e.call ≠ .exec home.lockSql → Has home before e.worker)) ∧
      (∀ i, Has home c.log i → locked c.state = true) ∧
      ((∀ m ∈ team, m.registry = home.registry) → home.registry.Distinct → marks s = [] →
        ∀ name, (ofName name (live (marks c.state))).length ≤ 1) := by
  have hfirst : Sound home team marks locked (fun _ => True) none { state := s } :=
    sound_begin s trivial
  obtain ⟨owner, h⟩ := hfirst.run hshared (keptBy_true team) actions
  refine ⟨h.orderly, fun i hi => (h.works i ((h.has i).mp hi)).1, fun hteam hr hempty => ?_⟩
  have hbegin : Sound home team marks locked home.TableKept none { state := s } :=
    sound_begin s (hempty ▸ .empty _ _)
  obtain ⟨owner', h'⟩ := hbegin.run hshared (keptBy_wellKept hteam hr) actions
  exact h'.kept.single

/-- A database in memory can be shared; here a step may look at what it fills. -/
theorem shared_brittle :
    Shared .brittle [.brittle] Migrator.brittle.memory
      (fun label call => label = "fill" && call = .query "SELECT * FROM orders") Memory.marks
      Memory.locked where
  oneLock m hm := congrArg Migrator.locksTable (List.mem_singleton.mp hm)
  keeps m hm := by
    obtain rfl := List.mem_singleton.mp hm
    exact Migrator.memory_keeps _
  locks m hm := by
    obtain rfl := List.mem_singleton.mp hm
    refine Migrator.memory_locks _ ?_
    rw [show Migrator.brittle.registry.calls = _ from Registry.brittle_calls]
    decide
  apart label call hown := by
    simp only [Bool.and_eq_true, decide_eq_true_eq] at hown
    obtain ⟨-, rfl⟩ := hown
    exact ⟨fun heq => (nomatch heq), fun heq => (nomatch heq), fun s => ⟨rfl, rfl⟩⟩

/-- Two at a time, in memory: one gets the lock and asks for the status, and the other is refused. -/
theorem mutual_exclusion_brittle :
    let m := Migrator.brittle
    let db := m.memory
    let own := fun label call => label = "fill" && call = .query "SELECT * FROM orders"
    let c := run [m] db own [.start 0 ⟨false, false⟩, .start 0 ⟨true, false⟩, .call 0 none, .call 1 none,
      .call 0 none] { state := {} }
    Shared m [m] db own Memory.marks Memory.locked ∧
      c.log = [⟨0, .exec m.lockSql, true⟩, ⟨1, .exec m.lockSql, false⟩, ⟨0, .query m.statusSql, true⟩] ∧
      (∀ before e after, c.log = before ++ e :: after →
        (∀ i, Has m before i → e.worker ≠ i → e.call = .exec m.lockSql ∧ e.succeeded = false) ∧
          (e.call ≠ .exec m.lockSql → Has m before e.worker)) ∧
      (∀ i, Has m c.log i → c.state.locked = true) ∧
      ∀ name, (ofName name (live c.state.marks)).length ≤ 1 := by
  intro m db own c
  obtain ⟨horderly, hheld, hlive⟩ := mutual_exclusion m [m] db own _ _ shared_brittle {}
    [.start 0 ⟨false, false⟩, .start 0 ⟨true, false⟩, .call 0 none, .call 1 none, .call 0 none]
  refine ⟨shared_brittle, by decide, horderly, hheld, hlive ?_ Registry.brittle_distinct rfl⟩
  intro m' hm'
  rw [List.mem_singleton.mp hm']

end Crew

end ColumnWire
