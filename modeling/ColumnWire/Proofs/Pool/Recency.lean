import ColumnWire.Client

/-!
# Idle connections by the time of their return

A pool looks for a connection from the top of its stack, and closes what it finds expired until it finds
one that is not. Nothing in it says that this is right: a connection further down might have been used
later. The stack is in order because every connection that comes back goes on top with the time of its
return, and the clock does not go back (`PoolHistory.InOrder`). So the first one is the last one that
came back, and when it has expired all have (`PoolHistory.last_returned_first`).
-/
namespace ColumnWire

variable {σ : Type}

namespace Connection

/-- Idle for no longer than a limit, if there is one. -/
def Usable (limit : Option Duration) (now : Duration) (c : Connection σ) : Prop :=
  ∀ l ∈ limit, now.nanos ≤ c.lastUsed.nanos + l.nanos

theorem isExpired_eq_false_iff {limit : Option Duration} {now : Duration} {c : Connection σ} :
    c.isExpired limit now = false ↔ c.Usable limit now := by
  cases limit with
  | none => simp [isExpired, Usable]
  | some l =>
    simp only [isExpired, Usable, Option.mem_some_iff, forall_eq', decide_eq_false_iff_not]
    omega

theorem isExpired_eq_true_iff {limit : Option Duration} {now : Duration} {c : Connection σ} :
    c.isExpired limit now = true ↔ ¬c.Usable limit now := by
  rw [← isExpired_eq_false_iff, Bool.not_eq_false]

/-- What has expired had so even if it had been used earlier. -/
theorem Usable.mono {limit : Option Duration} {now : Duration} {older newer : Connection σ}
    (h : older.Usable limit now) (hle : older.lastUsed.nanos ≤ newer.lastUsed.nanos) :
    newer.Usable limit now :=
  fun l hl => Nat.le_trans (h l hl) (Nat.add_le_add_right hle _)

end Connection

/-! ## One call -/

/-- The connections on top that have expired are closed, and the one below them is chosen, if there is
one. -/
theorem Pool.choose_cases (isExpired : Connection σ → Bool) (p : Pool σ) :
    (∃ expired conn rest, p.idle = expired ++ conn :: rest ∧ (∀ d ∈ expired, isExpired d = true) ∧
      isExpired conn = false ∧
      p.choose isExpired = (some conn, { p with idle := rest, departed := expired.reverse ++ p.departed })) ∨
    ((∀ d ∈ p.idle, isExpired d = true) ∧
      p.choose isExpired = (none, { p with idle := [], departed := p.idle.reverse ++ p.departed })) := by
  fun_induction Pool.choose isExpired p with
  | case1 p hpop =>
    have hidle := Pool.pop_eq_none hpop
    refine .inr ⟨hidle ▸ List.forall_mem_nil _, ?_⟩
    rw [hidle, List.reverse_nil, List.nil_append, ← hidle]
  | case2 p c q hpop hc ih =>
    obtain ⟨idle, hidle, rfl⟩ := Pool.pop_eq_some hpop
    rcases ih with ⟨expired, conn, rest, hrest, hexpired, hconn, hchoose⟩ | ⟨hall, hchoose⟩
    · refine .inl ⟨c :: expired, conn, rest, ?_, List.forall_mem_cons.mpr ⟨hc, hexpired⟩, hconn, ?_⟩
      · rw [hidle, List.cons_append, ← hrest]
        rfl
      · rw [hchoose, List.reverse_cons, List.append_assoc]
        rfl
    · refine .inr ⟨hidle ▸ List.forall_mem_cons.mpr ⟨hc, hall⟩, ?_⟩
      rw [hchoose, hidle, List.reverse_cons, List.append_assoc]
      rfl
  | case3 p c q hpop hc =>
    obtain ⟨idle, hidle, rfl⟩ := Pool.pop_eq_some hpop
    exact .inl ⟨[], c, idle, hidle, List.forall_mem_nil _, Bool.eq_false_iff.mpr hc, rfl⟩

/-- A connection is taken back on top of the stack, or it is closed. -/
theorem Pool.release_cases (now : Duration) (failure : Option Error) (c : Connection σ) (p : Pool σ) :
    p.release now failure c = p.remove c ∨
      p.release now failure c = (p.push { c with lastUsed := now }).giveSlot := by
  unfold Pool.release
  split
  · exact .inl rfl
  · split
    · exact .inl rfl
    · exact .inr rfl

namespace Client

theorem acquire_closed {c : Client σ} (hclosed : c.pool.closed = true) :
    acquire c = .error .poolClosed c := by
  rw [acquire, if_pos hclosed]

theorem acquire_busy {c : Client σ} (hopen : c.pool.closed = false) (hslots : c.pool.slotsClosed = false)
    (hbusy : c.pool.free = 0) : acquire c = .error .poolTimeout c := by
  have hslot : c.pool.takeSlot = .busy := by simp [Pool.takeSlot, hslots, hbusy]
  rw [acquire, hopen, if_neg Bool.false_ne_true, hslot]

/-- **A slot is free.** The first connection that has not expired is taken off the stack, and those above
it are closed; or there is none, all are closed, and a new one is dialled. -/
theorem acquire_free {c : Client σ} (hopen : c.pool.closed = false) (hslots : c.pool.slotsClosed = false)
    (hfree : 0 < c.pool.free) :
    (∃ expired conn rest, c.pool.idle = expired ++ conn :: rest ∧
      (∀ d ∈ expired, ¬d.Usable c.config.idleLimit c.now) ∧ conn.Usable c.config.idleLimit c.now ∧
      acquire c = .ok conn { c with pool := { c.pool with
        free := c.pool.free - 1, idle := rest, departed := expired.reverse ++ c.pool.departed } }) ∨
    ((∀ d ∈ c.pool.idle, ¬d.Usable c.config.idleLimit c.now) ∧
      acquire c = dial { c with pool := { c.pool with
        free := c.pool.free - 1, idle := [], departed := c.pool.idle.reverse ++ c.pool.departed } }) := by
  have hslot : c.pool.takeSlot = .granted { c.pool with free := c.pool.free - 1 } := by
    rw [Pool.takeSlot, if_neg (Bool.eq_false_iff.mp hslots), if_neg (Nat.ne_of_gt hfree)]
  rw [acquire, hopen, if_neg Bool.false_ne_true, hslot]
  simp only [pick]
  rcases Pool.choose_cases (Connection.isExpired c.config.idleLimit c.now)
      { c.pool with free := c.pool.free - 1 } with
    ⟨expired, conn, rest, hidle, hexpired, hconn, hchoose⟩ | ⟨hall, hchoose⟩
  · refine .inl ⟨expired, conn, rest, hidle, fun d hd => ?_, ?_, by rw [hchoose]⟩
    · exact Connection.isExpired_eq_true_iff.mp (hexpired d hd)
    · exact Connection.isExpired_eq_false_iff.mp hconn
  · exact .inr ⟨fun d hd => Connection.isExpired_eq_true_iff.mp (hall d hd), by rw [hchoose]⟩

end Client

/-! ## Histories -/

/-- A call on a pool, or time that goes by between calls. -/
inductive PoolCall (σ : Type) where
  | acquire
  /-- Give back one of the connections that are held. It has been used, and may have met a failure. -/
  | release (holder : Nat) (used : Connection σ) (failure : Option Error)
  /-- Close one of the connections that are held. -/
  | remove (holder : Nat)
  | close
  | wait (span : Duration)

/-- Where the calls on the pool of a client have got to. -/
structure PoolHistory (σ : Type) where
  client : Client σ
  /-- The connections that are held. -/
  held : List (Connection σ) := []
  /-- The connections that were given back, with the time of their return, the last one first. -/
  returned : List (Connection σ) := []

namespace PoolHistory

/-- A pool that has not been called. -/
def start (config : Config) (hostname : String) (network : Network σ) : PoolHistory σ where
  client := { config, hostname, network, pool := .ofSize config.poolSize.toNat }

/-- Carry out a call, in one step. One for a connection that nobody holds changes nothing. -/
def step (s : PoolHistory σ) : PoolCall σ → PoolHistory σ
  | .acquire =>
    match s.client.acquire with
    | .ok conn client => { s with client, held := s.held ++ [conn] }
    | .error _ client => { s with client }
  | .release holder used failure =>
    match s.held[holder]? with
    | none => s
    | some conn =>
      let used := { used with id := conn.id }
      { client := s.client.release failure used, held := s.held.eraseIdx holder,
        returned := { used with lastUsed := s.client.now } :: s.returned }
  | .remove holder =>
    match s.held[holder]? with
    | none => s
    | some conn => { s with client := s.client.remove conn, held := s.held.eraseIdx holder }
  | .close => { s with client := s.client.close }
  | .wait span => { s with client := s.client.wait span }

/-- Carry out calls one after another. -/
def after (s : PoolHistory σ) (calls : List (PoolCall σ)) : PoolHistory σ := calls.foldl step s

/-- All connections there are or have been: held ones, idle ones and closed ones. -/
def connections (s : PoolHistory σ) : List (Connection σ) :=
  s.held ++ (s.client.pool.idle ++ s.client.pool.departed)

/-- Idle connections lie in the order of their return, which is an order in time; and no connection has
the next number. -/
structure InOrder (config : Config) (network : Network σ) (s : PoolHistory σ) : Prop where
  config_eq : s.client.config = config
  network_eq : s.client.network = network
  slots_eq : s.client.pool.slotsClosed = s.client.pool.closed
  stacked : s.client.pool.idle.Sublist s.returned
  ordered : s.returned.Pairwise fun newer older => older.lastUsed.nanos ≤ newer.lastUsed.nanos
  past : ∀ conn ∈ s.returned, conn.lastUsed.nanos ≤ s.client.now.nanos
  numbered : ∀ conn ∈ s.connections, conn.id < s.client.pool.nextId

namespace InOrder

variable {config : Config} {network : Network σ} {s : PoolHistory σ}

theorem start (hostname : String) : InOrder config network (.start config hostname network) where
  config_eq := rfl
  network_eq := rfl
  slots_eq := rfl
  stacked := List.Sublist.refl _
  ordered := .nil
  past := List.forall_mem_nil _
  numbered := List.forall_mem_nil _

/-- The pool changes, and nothing comes back to it. -/
theorem withPool (h : InOrder config network s) {p : Pool σ} {held : List (Connection σ)}
    (hslots : p.slotsClosed = p.closed) (hidle : p.idle.Sublist s.client.pool.idle)
    (hnumbered : ∀ conn ∈ held ++ (p.idle ++ p.departed), conn.id < p.nextId) :
    InOrder config network { s with client := { s.client with pool := p }, held } where
  config_eq := h.config_eq
  network_eq := h.network_eq
  slots_eq := hslots
  stacked := hidle.trans h.stacked
  ordered := h.ordered
  past := h.past
  numbered := hnumbered

/-- All idle connections are closed, and a new one is dialled. -/
theorem dial (h : InOrder config network s) {free : Nat} :
    InOrder config network (match Client.dial { s.client with pool := { s.client.pool with
        free, idle := [], departed := s.client.pool.idle.reverse ++ s.client.pool.departed } } with
      | .ok conn client => { s with client, held := s.held ++ [conn] }
      | .error _ client => { s with client }) := by
  have hold : ∀ d ∈ s.held ++ ([] ++ (s.client.pool.idle.reverse ++ s.client.pool.departed)),
      d.id < s.client.pool.nextId + 1 := by
    intro d hd
    refine Nat.lt_succ_of_lt (h.numbered d ?_)
    simpa [connections] using hd
  simp only [Client.dial, Pool.number]
  cases s.client.network s.client.pool.nextId with
  | connected peer =>
    refine h.withPool h.slots_eq (List.nil_sublist _) fun d hd => ?_
    rw [List.append_assoc, List.singleton_append] at hd
    rcases List.mem_cons.mp (List.perm_middle.mem_iff.mp hd) with rfl | hd
    · exact Nat.lt_succ_self _
    · exact hold d hd
  | failed fault => exact h.withPool h.slots_eq (List.nil_sublist _) hold
  | silent => exact h.withPool h.slots_eq (List.nil_sublist _) hold

theorem acquire (h : InOrder config network s) : InOrder config network (s.step .acquire) := by
  simp only [step]
  cases hclosed : s.client.pool.closed with
  | true =>
    rw [Client.acquire_closed hclosed]
    exact h
  | false =>
    have hslots := h.slots_eq.trans hclosed
    rcases Nat.eq_zero_or_pos s.client.pool.free with hbusy | hfree
    · rw [Client.acquire_busy hclosed hslots hbusy]
      exact h
    · rcases Client.acquire_free hclosed hslots hfree with
        ⟨expired, conn, rest, hidle, -, -, hacquire⟩ | ⟨-, hacquire⟩
      · rw [hacquire]
        refine h.withPool h.slots_eq ?_ fun d hd => h.numbered d ?_
        · rw [hidle]
          exact (List.sublist_cons_self conn rest).trans (List.sublist_append_right expired _)
        · simp only [connections, hidle, List.mem_append, List.mem_cons, List.mem_reverse,
            List.not_mem_nil, or_false] at hd ⊢
          grind
      · rw [hacquire]
        exact h.dial

/-- One of the held connections, or a new one with its number, is all that is added to the others. -/
theorem numbered_erase (h : InOrder config network s) {holder : Nat} {conn : Connection σ}
    (back : Connection σ) (hget : s.held[holder]? = some conn) (hid : back.id = conn.id)
    {others : List (Connection σ)}
    (hperm : others.Perm (back :: (s.client.pool.idle ++ s.client.pool.departed))) :
    ∀ d ∈ s.held.eraseIdx holder ++ others, d.id < s.client.pool.nextId := by
  intro d hd
  rcases List.mem_append.mp hd with hheld | hother
  · exact h.numbered d (List.mem_append_left _ (List.mem_of_mem_eraseIdx hheld))
  · rcases List.mem_cons.mp (hperm.mem_iff.mp hother) with rfl | hother
    · rw [hid]
      exact h.numbered conn (List.mem_append_left _ (List.mem_of_getElem? hget))
    · exact h.numbered d (List.mem_append_right _ hother)

/-- **What comes back is on top of the stack and the last to be back**, or it is closed. -/
theorem release (h : InOrder config network s) (holder : Nat) (used : Connection σ)
    (failure : Option Error) : InOrder config network (s.step (.release holder used failure)) := by
  simp only [step]
  cases hget : s.held[holder]? with
  | none => exact h
  | some conn =>
    simp only [Client.release]
    rcases Pool.release_cases s.client.now failure { used with id := conn.id } s.client.pool with
      hclosed | hkept
    · rw [hclosed]
      refine ⟨h.config_eq, h.network_eq, h.slots_eq, h.stacked.cons _,
        List.pairwise_cons.mpr ⟨h.past, h.ordered⟩, List.forall_mem_cons.mpr ⟨Nat.le_refl _, h.past⟩, ?_⟩
      exact h.numbered_erase { used with id := conn.id } hget rfl List.perm_middle
    · rw [hkept]
      refine ⟨h.config_eq, h.network_eq, h.slots_eq, h.stacked.cons_cons _,
        List.pairwise_cons.mpr ⟨h.past, h.ordered⟩, List.forall_mem_cons.mpr ⟨Nat.le_refl _, h.past⟩, ?_⟩
      exact h.numbered_erase { used with id := conn.id, lastUsed := s.client.now } hget rfl (.refl _)

theorem step (h : InOrder config network s) (call : PoolCall σ) : InOrder config network (s.step call) := by
  cases call with
  | acquire => exact h.acquire
  | release holder used failure => exact h.release holder used failure
  | remove holder =>
    simp only [PoolHistory.step]
    cases hget : s.held[holder]? with
    | none => exact h
    | some conn =>
      exact h.withPool h.slots_eq (List.Sublist.refl _) (h.numbered_erase conn hget rfl List.perm_middle)
  | close =>
    refine h.withPool rfl (List.nil_sublist _) fun d hd => h.numbered d ?_
    simpa [Client.close, Pool.close, Pool.raiseFlag, Pool.closeSlots, Pool.clearIdle, connections] using hd
  | wait span =>
    exact ⟨h.config_eq, h.network_eq, h.slots_eq, h.stacked, h.ordered,
      fun d hd => Nat.le_trans (h.past d hd) (Nat.le_add_right _ _), h.numbered⟩

theorem after (h : InOrder config network s) (calls : List (PoolCall σ)) :
    InOrder config network (s.after calls) := by
  induction calls generalizing s with
  | nil => exact h
  | cons call calls ih => exact ih (h.step call)

/-- Below a connection on the stack are those that came back before. -/
theorem idle_ordered (h : InOrder config network s) :
    s.client.pool.idle.Pairwise fun newer older => older.lastUsed.nanos ≤ newer.lastUsed.nanos :=
  h.ordered.sublist h.stacked

end InOrder

/-- **Idle connections are used again from the last one that came back, and only expired ones are
closed.** Whatever was called on a pool: the idle connections lie in the order of their return, the last
one used on top. Whoever asks for a connection, with a slot to be had, is given the one on top if that
may still be used, and none is closed. Otherwise none may be used any more; all are closed, and a new
one is dialled, with a number that no connection has or had. If nobody can be reached, the stack is
empty and as many slots are free as before. -/
theorem last_returned_first (config : Config) (hostname : String) (network : Network σ)
    (calls : List (PoolCall σ)) :
    let s := (start config hostname network).after calls
    let c := s.client
    let p := c.pool
    let emptied : Pool σ :=
      { p with idle := [], departed := p.idle.reverse ++ p.departed, nextId := p.nextId + 1 }
    p.idle.Sublist s.returned ∧
      (p.idle.Pairwise fun newer older => older.lastUsed.nanos ≤ newer.lastUsed.nanos) ∧
      (∀ conn ∈ p.idle, conn.lastUsed.nanos ≤ c.now.nanos) ∧
      (p.closed = true → c.acquire = .error .poolClosed c) ∧
      (p.closed = false → p.free = 0 → c.acquire = .error .poolTimeout c) ∧
      (p.closed = false → 0 < p.free →
        (∃ conn rest, p.idle = conn :: rest ∧ conn.Usable config.idleLimit c.now ∧
          c.acquire = .ok conn { c with pool := { p with free := p.free - 1, idle := rest } }) ∨
        ((∀ conn ∈ p.idle, ¬conn.Usable config.idleLimit c.now) ∧
          (∀ conn ∈ s.held ++ (p.idle ++ p.departed), conn.id ≠ p.nextId) ∧
          c.acquire = match network p.nextId with
            | .connected peer => .ok (.fresh config p.nextId peer c.now)
                { c with pool := { emptied with free := p.free - 1 } }
            | .failed fault => .error (.connect config.address fault) { c with pool := emptied }
            | .silent => .error (.timeout (config.dialLimit.getD ⟨0⟩)) { c with pool := emptied })) := by
  intro s c p emptied
  have h : InOrder config network s := (InOrder.start hostname).after calls
  have hordered := h.idle_ordered
  have hconfig : c.config = config := h.config_eq
  have hnetwork : c.network = network := h.network_eq
  refine ⟨h.stacked, hordered, fun conn hconn => h.past conn (h.stacked.subset hconn),
    Client.acquire_closed, fun hopen => Client.acquire_busy hopen (h.slots_eq.trans hopen),
    fun hopen hfree => ?_⟩
  rcases Client.acquire_free hopen (h.slots_eq.trans hopen) hfree with
    ⟨expired, conn, rest, hidle, hexpired, husable, hacquire⟩ | ⟨hall, hacquire⟩
  · cases expired with
    | nil => exact .inl ⟨conn, rest, hidle, hconfig ▸ husable, hacquire⟩
    | cons top expired =>
      -- The one on top came back last, so it may be used if any may.
      have htop : conn.lastUsed.nanos ≤ top.lastUsed.nanos := by
        rw [hidle] at hordered
        exact (List.pairwise_cons.mp hordered).1 conn (by simp)
      exact absurd (husable.mono htop) (hexpired top List.mem_cons_self)
  · refine .inr ⟨hconfig ▸ hall, fun conn hconn => Nat.ne_of_lt (h.numbered conn hconn), ?_⟩
    have hslot : c.pool.free - 1 + 1 = c.pool.free := Nat.sub_add_cancel hfree
    rw [hacquire]
    simp only [Client.dial, Pool.number, Pool.giveSlot, hconfig, hnetwork, hslot]
    rfl

/-- Two connections can be had, and no third one. -/
def scarce : Network Cursor
  | 1 | 2 => .connected { source := ⟨[], .closed⟩ }
  | _ => .failed .closed

/-- There are two slots, and an idle connection is used again for ten milliseconds. -/
def hasty : Config := { poolSize := 2, idleMillis := 10 }

/-- Two connections come back, six milliseconds apart. -/
def twoReturn : List (PoolCall Cursor) :=
  let used : Connection Cursor := { id := 0, reader := { source := ⟨[], .closed⟩ } }
  [.acquire, .acquire, .release 0 used none, .wait (.ofMillis 6), .release 0 used none,
    .wait (.ofMillis 5)]

/-- The second one is given out although the first one has expired by then, and stays. Ten milliseconds
later both have expired, and nobody can be reached. -/
theorem last_returned_first_two :
    let s := (start hasty "" scarce).after twoReturn
    let later := (start hasty "" scarce).after (twoReturn ++ [.wait (.ofMillis 10)])
    (s.client.pool.closed = false ∧ s.client.pool.free = 2 ∧
      ∃ conn c, s.client.acquire = .ok conn c ∧ conn.id = 2 ∧ c.pool.idle.map (·.id) = [1]) ∧
    (later.client.pool.closed = false ∧ later.client.pool.free = 2 ∧
      ∃ e c, later.client.acquire = .error e c ∧ c.pool.idle = [] ∧ c.pool.free = 2) := by
  intro s later
  have hlimit : hasty.idleLimit = some ⟨10000000⟩ := by decide
  have hidle : s.client.pool.idle.map (fun c => (c.id, c.lastUsed.nanos)) = [(2, 6000000), (1, 0)] := by
    decide +kernel
  have hnow : s.client.now.nanos = 11000000 := by decide +kernel
  have hopen : s.client.pool.closed = false := by decide +kernel
  have hfree : s.client.pool.free = 2 := by decide +kernel
  have hlater : later.client = s.client.wait (.ofMillis 10) := rfl
  have hlaterNow : later.client.now.nanos = 21000000 := by rw [hlater, Client.wait, hnow]; rfl
  refine ⟨⟨hopen, hfree, ?_⟩, hopen, hfree, ?_⟩
  · rcases (last_returned_first hasty "" scarce twoReturn).2.2.2.2.2 hopen (hfree ▸ Nat.zero_lt_two) with
      ⟨conn, rest, hstack, -, hacquire⟩ | ⟨hall, -, -⟩
    · rw [show s.client.pool.idle = conn :: rest from hstack] at hidle
      simp only [List.map_cons, List.cons.injEq, Prod.mk.injEq] at hidle
      have hrest := congrArg (List.map Prod.fst) hidle.2
      rw [List.map_map] at hrest
      exact ⟨conn, _, hacquire, hidle.1.1, hrest⟩
    · obtain ⟨conn, hconn, hread⟩ := List.mem_map.mp (hidle ▸ List.mem_cons_self)
      refine absurd (fun l hl => ?_) (hall conn hconn)
      cases Option.some.inj (hlimit.symm.trans hl)
      have hused : conn.lastUsed.nanos = 6000000 := congrArg Prod.snd hread
      show s.client.now.nanos ≤ _
      rw [hnow, hused]
      decide
  · rcases (last_returned_first hasty "" scarce (twoReturn ++ [.wait (.ofMillis 10)])).2.2.2.2.2 hopen
      (hfree ▸ Nat.zero_lt_two) with ⟨conn, rest, hstack, husable, -⟩ | ⟨-, -, hacquire⟩
    · rw [show s.client.pool.idle = conn :: rest from hstack] at hidle
      have hused : conn.lastUsed.nanos = 6000000 := congrArg Prod.snd (List.cons.inj hidle).1
      have hle : later.client.now.nanos ≤ _ := husable _ hlimit
      rw [hlaterNow, hused] at hle
      exact absurd hle (by decide)
    · have hnext : later.client.pool.nextId = 3 := by decide +kernel
      have hscarce : scarce later.client.pool.nextId = .failed .closed := by rw [hnext]; rfl
      rw [show scarce ((start hasty "" scarce).after
        (twoReturn ++ [.wait (.ofMillis 10)])).client.pool.nextId = _ from hscarce] at hacquire
      exact ⟨_, _, hacquire, rfl, hfree⟩

end PoolHistory

end ColumnWire
