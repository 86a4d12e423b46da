import ColumnWire.Proofs.Client.Reuse

/-!
# No slot is lost

Every connection that an open stream or a begun request holds has taken a slot of the pool, and
every other slot is free (`Pool.Lends`). A request takes a slot with its connection and gives both
back on each of its ways out, or it leaves them to the stream that it has opened; a stream gives
them back when it closes. So the account is right after every history, whatever fails
(`ClientSystem.slots_conserved`).
-/
namespace ColumnWire

variable {σ α : Type}

namespace Pool

variable {size taken : Nat} {p p' : Pool σ}

/-- The pool is open and has so many slots, so many of them are taken, and the idle connections fit
into the others. -/
structure Lends (size taken : Nat) (p : Pool σ) : Prop where
  size_eq : p.size = size
  opened : p.closed = false
  slotsOpened : p.slotsClosed = false
  slots : p.free + taken = size
  places : p.idle.length + taken ≤ size

namespace Lends

theorem ofSize (size : Nat) : Lends size 0 (.ofSize size : Pool σ) := ⟨rfl, rfl, rfl, rfl, Nat.zero_le _⟩

/-- What is in use is what is taken. -/
theorem stats_eq (h : p.Lends size taken) : p.stats = ⟨size, p.idle.length, taken⟩ := by
  have hslots := h.slots
  have hinUse : size - p.free = taken := by omega
  simp only [stats, h.opened, h.size_eq, hinUse, Bool.false_eq_true, if_false]

theorem remove (h : p.Lends size (taken + 1)) (conn : Connection σ) :
    (p.remove conn).Lends size taken := by
  have hslots := h.slots
  have hplaces := h.places
  refine ⟨h.size_eq, h.opened, h.slotsOpened, ?_, ?_⟩
  · simp only [Pool.remove, Pool.depart, Pool.giveSlot]
    omega
  · simp only [Pool.remove, Pool.depart, Pool.giveSlot]
    omega

theorem release (h : p.Lends size (taken + 1)) (now : Duration) (failure : Option Error)
    (conn : Connection σ) : (p.release now failure conn).Lends size taken := by
  unfold Pool.release
  by_cases hspoils : failure.any Error.spoilsConnection = true
  · rw [if_pos hspoils]
    exact h.remove conn
  · rw [if_neg hspoils, h.opened, if_neg Bool.false_ne_true]
    have hslots := h.slots
    have hplaces := h.places
    refine ⟨h.size_eq, h.opened, h.slotsOpened, ?_, ?_⟩
    · simp only [Pool.push, Pool.giveSlot]
      omega
    · simp only [Pool.push, Pool.giveSlot, List.length_cons]
      omega

/-! ## Slots on the way to a connection -/

/-- Somebody who has a slot takes a connection, if there is a place for it. -/
theorem take (h : p.giveSlot.Lends size taken) (hplace : p.idle.length < size - taken) :
    p.Lends size (taken + 1) := by
  have hslots := h.slots
  simp only [Pool.giveSlot] at hslots
  exact ⟨h.size_eq, h.opened, h.slotsOpened, by omega, by omega⟩

/-- **There is a slot for another one as long as not all are taken.** -/
theorem takeSlot (h : p.Lends size taken) :
    taken < size ∧ (∃ p', p.takeSlot = .granted p' ∧ p'.giveSlot.Lends size taken) ∨
      taken = size ∧ p.takeSlot = .busy := by
  have hslots := h.slots
  unfold Pool.takeSlot
  rw [h.slotsOpened, if_neg Bool.false_ne_true]
  by_cases hfree : p.free = 0
  · rw [if_pos hfree]
    exact .inr ⟨by omega, rfl⟩
  · rw [if_neg hfree]
    refine .inl ⟨by omega, _, rfl, h.size_eq, h.opened, rfl, ?_, h.places⟩
    simp only [Pool.giveSlot]
    omega

theorem pop {conn : Connection σ} (h : p.giveSlot.Lends size taken) (hpop : p.pop = some (conn, p')) :
    p'.Lends size (taken + 1) ∧ p'.giveSlot.Lends size taken := by
  obtain ⟨idle, hidle, rfl⟩ := Pool.pop_eq_some hpop
  have hplaces := h.places
  simp only [Pool.giveSlot, hidle, List.length_cons] at hplaces
  have hgive : ({ p with idle } : Pool σ).giveSlot.Lends size taken :=
    ⟨h.size_eq, h.opened, h.slotsOpened, h.slots, by simp only [Pool.giveSlot]; omega⟩
  exact ⟨hgive.take (by simp only; omega), hgive⟩

/-- Either a connection is chosen, which takes the slot, or none is left to be chosen. -/
theorem choose (h : p.giveSlot.Lends size taken) (isExpired : Connection σ → Bool) :
    match p.choose isExpired with
    | (none, p') => p'.giveSlot.Lends size taken ∧ p'.idle = []
    | (some _, p') => p'.Lends size (taken + 1) := by
  fun_induction Pool.choose isExpired p with
  | case1 p hpop =>
    exact ⟨h, Pool.pop_eq_none hpop⟩
  | case2 p conn p' hpop hexpired ih =>
    have hgive := (h.pop hpop).2
    exact ih ⟨hgive.size_eq, hgive.opened, hgive.slotsOpened, hgive.slots, hgive.places⟩
  | case3 p conn p' hpop hexpired => exact (h.pop hpop).1

end Lends

/-- Choosing a connection numbers none. -/
theorem nextId_choose (isExpired : Connection σ → Bool) (p : Pool σ) :
    (p.choose isExpired).2.nextId = p.nextId := by
  have hpop : ∀ {p p' : Pool σ} {conn}, p.pop = some (conn, p') → p'.nextId = p.nextId := by
    intro p p' conn hpop
    obtain ⟨idle, -, rfl⟩ := Pool.pop_eq_some hpop
    rfl
  fun_induction Pool.choose isExpired p with
  | case1 p hnone => rfl
  | case2 p conn p' hsome hexpired ih =>
    have hsame : p'.nextId = p.nextId := hpop hsome
    exact ih.trans hsame
  | case3 p conn p' hsome hexpired => exact hpop hsome

end Pool

/-! ## Sessions -/

namespace Client

variable {size taken : Nat} {c c' : Client σ} {conn conn' : Connection σ}

theorem lends_dial (h : c.pool.giveSlot.Lends size taken) (hidle : c.pool.idle = []) :
    match dial c with
    | .ok _ c' => c'.pool.Lends size (taken + 1)
    | .error _ c' => c'.pool.Lends size taken := by
  have hslots := h.slots
  have hnumber : c.pool.number.2.giveSlot.Lends size taken :=
    ⟨h.size_eq, h.opened, h.slotsOpened, h.slots, h.places⟩
  unfold dial
  cases hpeer : c.network c.pool.number.1 with
  | connected peer =>
    simp only [hpeer]
    refine hnumber.take ?_
    simp only [Pool.giveSlot] at hslots
    simp only [Pool.number, hidle, List.length_nil]
    omega
  | failed fault =>
    simp only [hpeer]
    exact hnumber
  | silent =>
    simp only [hpeer]
    exact hnumber

/-- **Whoever checks out a connection takes a slot**, and whoever fails to does not. -/
theorem lends_acquire (h : c.pool.Lends size taken) :
    match acquire c with
    | .ok _ c' => c'.pool.Lends size (taken + 1)
    | .error _ c' => c'.pool.Lends size taken := by
  unfold acquire
  rw [h.opened, if_neg Bool.false_ne_true]
  rcases h.takeSlot with ⟨-, p, hslot, hgive⟩ | ⟨-, hslot⟩
  · simp only [hslot, pick]
    have hchoose := hgive.choose (Connection.isExpired c.config.idleLimit c.now)
    rcases hchosen : p.choose (Connection.isExpired c.config.idleLimit c.now) with ⟨_ | chosen, p'⟩
    · rw [hchosen] at hchoose
      exact lends_dial (c := { c with pool := p' }) hchoose.1 hchoose.2
    · rw [hchosen] at hchoose
      exact hchoose
  · simp only [hslot]
    exact h

/-- **A connection can be had as long as a slot is free** and the server can be reached. -/
theorem acquire_of_free (h : c.pool.Lends size taken) (hfree : taken < size)
    (hnetwork : ∀ n, c.pool.nextId ≤ n → ∃ peer, c.network n = .connected peer) :
    ∃ conn c', acquire c = .ok conn c' ∧ c'.network = c.network ∧
      c.pool.nextId ≤ c'.pool.nextId := by
  unfold acquire
  rw [h.opened, if_neg Bool.false_ne_true]
  rcases h.takeSlot with ⟨-, p, hslot, -⟩ | ⟨hfull, -⟩
  · have hsame : p.nextId = c.pool.nextId := by
      unfold Pool.takeSlot at hslot
      split at hslot
      · cases hslot
      · split at hslot <;> cases hslot
        rfl
    have hchoose := Pool.nextId_choose (Connection.isExpired c.config.idleLimit c.now) p
    simp only [hslot, pick]
    rcases hchosen : p.choose (Connection.isExpired c.config.idleLimit c.now) with ⟨_ | chosen, p'⟩
    · rw [hchosen, hsame] at hchoose
      obtain ⟨peer, hpeer⟩ := hnetwork p'.number.1 (Nat.le_of_eq hchoose.symm)
      simp only [dial, hpeer]
      exact ⟨_, _, rfl, rfl, Nat.le_succ_of_le (Nat.le_of_eq hchoose.symm)⟩
    · rw [hchosen, hsame] at hchoose
      exact ⟨_, _, rfl, rfl, Nat.le_of_eq hchoose.symm⟩
  · omega

variable [Source σ]

/-- A greeting that fails gives the slot back. -/
theorem lends_welcome (h : c.pool.Lends size (taken + 1)) (conn : Connection σ) :
    match welcome conn c with
    | .ok _ c' => c'.pool.Lends size (taken + 1)
    | .error _ c' => c'.pool.Lends size taken := by
  unfold welcome
  cases conn.server with
  | some server => exact h
  | none =>
    simp only
    cases conn.greet c.config with
    | ok server conn => exact h
    | error e conn => exact h.remove conn

omit [Source σ] in
theorem lends_converse (h : c.pool.Lends size (taken + 1)) (talk : Client σ → Dialogue σ α)
    (conn : Connection σ) : ((converse talk conn).after c).pool.Lends size taken := by
  unfold Session.after converse
  cases talk c conn with
  | ok a conn => exact h.release c.now none conn
  | error e conn => exact h.release c.now (some e) conn

/-- **A request gives its slot back, however it ends.** -/
theorem lends_exchangeOn (h : c.pool.Lends size (taken + 1)) (talk : Client σ → Dialogue σ α)
    (conn : Connection σ) : ((exchangeOn talk conn).after c).pool.Lends size taken := by
  rw [exchangeOn, Session.after_bind]
  have hwelcome := lends_welcome h conn
  cases hresult : welcome conn c with
  | ok conn₁ c₁ =>
    rw [hresult] at hwelcome
    exact lends_converse hwelcome talk conn₁
  | error e c₁ =>
    rw [hresult] at hwelcome
    exact hwelcome

/-- A query leaves its slot to the stream that it opens. -/
theorem lends_queryOn (h : c.pool.Lends size (taken + 1)) (sql : String) (conn : Connection σ) :
    match queryOn sql conn c with
    | .ok rows c' => rows.isClosed = false ∧ c'.pool.Lends size (taken + 1)
    | .error _ c' => c'.pool.Lends size taken := by
  have hwelcome := lends_welcome h conn
  cases hresult : welcome conn c with
  | error e c₁ =>
    have hquery : queryOn sql conn c = .error e c₁ := bind_eq_error.mpr (.inl hresult)
    rw [hresult] at hwelcome
    rw [hquery]
    exact hwelcome
  | ok conn₁ c₁ =>
    have hquery : queryOn sql conn c = openRows sql conn₁ c₁ := bind_of_eq_ok hresult
    rw [hresult] at hwelcome
    rw [hquery, openRows]
    cases c₁.sendQuery sql conn₁ with
    | ok u conn' => exact ⟨rfl, hwelcome⟩
    | error e conn' => exact hwelcome.release c₁.now (some e) conn'

end Client

/-! ## Streams -/

namespace RowStream

variable [Source σ] {size taken : Nat} {s s' : RowStream σ × Client σ}

/-- The pool lends one connection more while the stream is open. -/
def Lends (size taken : Nat) (s : RowStream σ × Client σ) : Prop :=
  s.2.pool.Lends size (s.1.connection.toList.length + taken)

namespace Lends

omit [Source σ] in
theorem ofClosed {rows : RowStream σ} {c : Client σ} (hrows : rows.connection = none)
    (h : c.pool.Lends size taken) : Lends size taken (rows, c) := by
  unfold Lends
  rw [hrows, Option.toList_none, List.length_nil, Nat.zero_add]
  exact h

omit [Source σ] in
theorem ofOpen {rows : RowStream σ} {c : Client σ} (hrows : rows.isClosed = false)
    (h : c.pool.Lends size (taken + 1)) : Lends size taken (rows, c) := by
  obtain ⟨_ | conn, failure⟩ := rows
  · cases hrows
  · rw [Nat.add_comm] at h
    exact h

omit [Source σ] in
theorem closed (h : Lends size taken s) (hrows : s.1.connection = none) :
    s.2.pool.Lends size taken := by
  unfold Lends at h
  rwa [hrows, Option.toList_none, List.length_nil, Nat.zero_add] at h

omit [Source σ] in
theorem opened {conn : Connection σ} (h : Lends size taken s) (hrows : s.1.connection = some conn) :
    s.2.pool.Lends size (taken + 1) := by
  unfold Lends at h
  rwa [hrows, Option.toList_some, List.length_singleton, Nat.add_comm] at h

/-- **A pull keeps the slot with the stream, or gives it back and closes the stream.** -/
theorem nextInto (h : Lends size taken s) (block : Block) :
    Lends size taken (RowStream.nextInto block s).2 := by
  obtain ⟨⟨_ | conn, failure⟩, c⟩ := s
  · exact h
  · have hopen := h.opened rfl
    simp only [RowStream.nextInto]
    rcases conn.reply Policy.nextBlock c.exceptionLimit { block } with ⟨e | _ | _, tray, conn'⟩
    · exact ofClosed rfl (hopen.release c.now (some e) conn')
    · exact ofClosed rfl (hopen.release c.now none conn')
    · exact ofOpen rfl hopen

theorem next (h : Lends size taken s) : Lends size taken (RowStream.next s).2 := by
  rw [snd_next]
  exact h.nextInto .empty

theorem pullAll (h : Lends size taken s) (pulled : List Block) :
    Lends size taken (RowStream.pullAll pulled s).2 := by
  fun_induction RowStream.pullAll pulled s with
  | case1 pulled s s' hnext =>
    have hlends := h.next
    rwa [hnext] at hlends
  | case2 pulled s block s' hnext ih =>
    have hlends := h.next
    rw [hnext] at hlends
    exact ih hlends

theorem close (h : Lends size taken s) : Lends size taken (RowStream.close s).2 := by
  obtain ⟨⟨_ | conn, failure⟩, c⟩ := s
  · exact h
  · have hopen := h.opened rfl
    unfold RowStream.close
    cases hcancel : cancel c.exceptionLimit conn with
    | ok u conn' =>
      simp only [hcancel]
      exact ofClosed rfl (hopen.release c.now none conn')
    | error e conn' =>
      simp only [hcancel]
      by_cases hspoils : e.spoilsConnection = true
      · rw [if_pos hspoils]
        exact ofClosed rfl (hopen.remove conn')
      · rw [if_neg hspoils]
        exact ofClosed rfl (hopen.release c.now none conn')

omit [Source σ] in
theorem drop (h : Lends size taken s) : Lends size taken (RowStream.drop s).2 := by
  obtain ⟨⟨_ | conn, failure⟩, c⟩ := s
  · exact h
  · exact ofClosed rfl ((h.opened rfl).remove conn)

end Lends

end RowStream

/-- A query whose answer is pulled at once gives its slot back. -/
theorem Client.lends_queryBlocksOn [Source σ] {size taken : Nat} {c : Client σ}
    (h : c.pool.Lends size (taken + 1)) (sql : String) (conn : Connection σ) :
    ((Client.queryBlocksOn sql conn).after c).pool.Lends size taken := by
  have hquery := Client.lends_queryOn h sql conn
  rw [Client.queryBlocksOn, Session.after_bind]
  cases hresult : Client.queryOn sql conn c with
  | error e c₁ =>
    rw [hresult] at hquery
    exact hquery
  | ok rows c₁ =>
    rw [hresult] at hquery
    have hpulled := (RowStream.Lends.ofOpen hquery.1 hquery.2).pullAll []
    simp only [Client.after_collect]
    exact hpulled.closed (RowStream.closed_pullAll [] (rows, c₁))

/-! ## Histories -/

namespace ClientSystem

variable [Source σ] {size : Nat} {s : ClientSystem σ}

/-- The pool lends what streams and requests hold. -/
def Lends (size : Nat) (s : ClientSystem σ) : Prop := s.client.pool.Lends size s.held.length

namespace Lends

/-- A query leaves its slot to a new stream, or gives it back. -/
theorem openStream (h : s.client.pool.Lends size (s.held.length + 1)) (sql : String)
    (conn : Connection σ) : Lends size (s.openStream (Client.queryOn sql conn)) := by
  have hquery := Client.lends_queryOn h sql conn
  unfold Lends ClientSystem.openStream
  cases hresult : Client.queryOn sql conn s.client with
  | error e c =>
    rw [hresult] at hquery
    exact hquery
  | ok rows c =>
    rw [hresult] at hquery
    obtain ⟨hopen, hlends⟩ := hquery
    cases hrows : rows.connection with
    | none =>
      rw [RowStream.isClosed, hrows] at hopen
      cases hopen
    | some conn' =>
      have hheld : (opened (s.streams ++ [rows]) ++ s.begun.map (·.connection)).length =
          s.held.length + 1 := by
        simp only [held, opened_append, hrows, List.length_append, Option.toList_some,
          List.length_singleton]
        omega
      rw [← hheld] at hlends
      exact hlends

/-- What is asked on a connection that is held besides the others. -/
theorem perform (h : s.client.pool.Lends size (s.held.length + 1)) (conn : Connection σ)
    (request : ClientRequest) : Lends size (s.perform conn request) := by
  cases request with
  | serverInfo => exact Client.lends_exchangeOn h Client.serverInfoOn conn
  | ping => exact Client.lends_exchangeOn h Client.pingOn conn
  | exec sql => exact Client.lends_exchangeOn h (Client.execOn sql) conn
  | insert sql block => exact Client.lends_exchangeOn h (Client.insertOn sql block) conn
  | queryBlocks sql => exact Client.lends_queryBlocksOn h sql conn
  | query sql => exact openStream h sql conn

theorem ask (h : Lends size s) (request : ClientRequest) : Lends size (s.ask request) := by
  have hacquire := Client.lends_acquire h
  rw [ask_eq]
  cases hresult : Client.acquire s.client with
  | ok conn c =>
    rw [hresult] at hacquire
    exact perform (s := { s with client := c }) hacquire conn request
  | error e c =>
    rw [hresult] at hacquire
    exact hacquire

omit [Source σ] in
theorem begin (h : Lends size s) (request : ClientRequest) : Lends size (s.begin request) := by
  have hacquire := Client.lends_acquire h
  unfold ClientSystem.begin
  cases hresult : Client.acquire s.client with
  | ok conn c =>
    rw [hresult] at hacquire
    have hheld : ({ s with client := c, begun := s.begun ++ [⟨request, conn⟩] } : ClientSystem σ).held.length =
        s.held.length + 1 := by
      simp only [held, List.length_append, List.length_map, List.length_singleton]
      omega
    unfold Lends
    rw [hheld]
    exact hacquire
  | error e c =>
    rw [hresult] at hacquire
    exact hacquire

omit [Source σ] in
/-- A request that has begun is taken out of the list; its slot is still taken. -/
theorem take {i : Nat} {b : Begun σ} (h : Lends size s) (hget : s.begun[i]? = some b) :
    s.client.pool.Lends size
      (({ s with begun := s.begun.eraseIdx i } : ClientSystem σ).held.length + 1) := by
  have hlength := (begun_perm hget).length_eq
  have hheld : ({ s with begun := s.begun.eraseIdx i } : ClientSystem σ).held.length + 1 =
      s.held.length := by
    simp only [held, List.length_append, List.length_map, List.length_cons] at hlength ⊢
    omega
  rw [hheld]
  exact h

theorem finish (h : Lends size s) (i : Nat) : Lends size (s.finish i) := by
  unfold ClientSystem.finish
  cases hget : s.begun[i]? with
  | none => exact h
  | some b => exact perform (s := { s with begun := s.begun.eraseIdx i }) (h.take hget) _ _

omit [Source σ] in
theorem abandon (h : Lends size s) (i : Nat) : Lends size (s.abandon i) := by
  unfold ClientSystem.abandon
  cases hget : s.begun[i]? with
  | none => exact h
  | some b => exact (h.take hget).remove b.connection

omit [Source σ] in
theorem withStream (h : Lends size s) (i : Nat)
    {act : RowStream σ × Client σ → RowStream σ × Client σ}
    (hact : ∀ {taken s}, RowStream.Lends size taken s → RowStream.Lends size taken (act s)) :
    Lends size (s.withStream i act) := by
  unfold ClientSystem.withStream
  cases hget : s.streams[i]? with
  | none => exact h
  | some rows =>
    obtain ⟨others, hbefore, hafter⟩ := opened_set hget (act (rows, s.client)).1
    have hheld : ∀ {streams : List (RowStream σ)} {r : RowStream σ},
        (opened streams).Perm (r.connection.toList ++ others) →
        (opened streams ++ s.begun.map (·.connection)).length =
          r.connection.toList.length + (others.length + s.begun.length) := by
      intro streams r hperm
      rw [List.length_append, hperm.length_eq, List.length_append, List.length_map, Nat.add_assoc]
    have hrows : RowStream.Lends size (others.length + s.begun.length) (rows, s.client) := by
      unfold RowStream.Lends
      rw [← hheld hbefore]
      exact h
    have hlends := hact hrows
    unfold RowStream.Lends at hlends
    rw [← hheld hafter] at hlends
    exact hlends

/-- **Every action but closing the pool keeps the account.** -/
theorem step (h : Lends size s) {action : ClientAction} (hopen : action ≠ .close) :
    Lends size (s.step action) := by
  cases action with
  | ask request => exact h.ask request
  | begin request => exact h.begin request
  | finish i => exact h.finish i
  | abandon i => exact h.abandon i
  | next i => exact h.withStream i fun h => h.next
  | nextInto i block => exact h.withStream i fun h => h.nextInto block
  | stop i => exact h.withStream i fun h => h.close
  | drop i => exact h.withStream i fun h => h.drop
  | wait span => exact h
  | close => exact absurd rfl hopen

theorem run (h : Lends size s) {history : List ClientAction} (hopen : .close ∉ history) :
    Lends size (s.run history) := by
  induction history generalizing s with
  | nil => exact h
  | cons action history ih =>
    have hfirst : action ≠ .close := fun hclose => hopen (hclose ▸ List.mem_cons_self)
    exact ih (h.step hfirst) fun hrest => hopen (List.mem_cons_of_mem _ hrest)

/-! ## Connections for everybody -/

omit [Source σ] in
/-- A request gets its connection as long as a slot is free and the server can be reached. -/
theorem begin_of_free (h : Lends size s) (hfree : s.held.length < size)
    (hnetwork : ∀ n, s.client.pool.nextId ≤ n → ∃ peer, s.client.network n = .connected peer)
    (request : ClientRequest) :
    (s.begin request).begun.map (·.request) = s.begun.map (·.request) ++ [request] ∧
      (s.begin request).held.length = s.held.length + 1 ∧
      (s.begin request).client.network = s.client.network ∧
      s.client.pool.nextId ≤ (s.begin request).client.pool.nextId := by
  obtain ⟨conn, c, hacquire, hsame, hlater⟩ := Client.acquire_of_free h hfree hnetwork
  simp only [ClientSystem.begin, hacquire]
  refine ⟨List.map_append, ?_, hsame, hlater⟩
  simp only [held, List.length_append, List.length_map, List.length_singleton]
  omega

/-- Requests that begin one after another all get connections, as long as there are slots. -/
theorem begun_run (h : Lends size s) (requests : List ClientRequest)
    (hfree : s.held.length + requests.length ≤ size)
    (hnetwork : ∀ n, s.client.pool.nextId ≤ n → ∃ peer, s.client.network n = .connected peer) :
    (s.run (requests.map .begin)).begun.map (·.request) = s.begun.map (·.request) ++ requests := by
  induction requests generalizing s with
  | nil => exact (List.append_nil _).symm
  | cons request requests ih =>
    rw [List.length_cons] at hfree
    obtain ⟨hbegun, hheld, hsame, hlater⟩ := h.begin_of_free (by omega) hnetwork request
    have hnetwork' : ∀ n, (s.begin request).client.pool.nextId ≤ n →
        ∃ peer, (s.begin request).client.network n = .connected peer := by
      rw [hsame]
      exact fun n hn => hnetwork n (Nat.le_trans hlater hn)
    have hrest := ih (h.begin request) (by omega) hnetwork'
    rw [hbegun, List.append_assoc] at hrest
    exact hrest

end Lends

/-! ## Every history -/

omit [Source σ] in
/-- What is held is what streams that are open and requests that have begun hold. -/
theorem length_held (s : ClientSystem σ) :
    s.held.length = s.streams.countP (!·.isClosed) + s.begun.length := by
  have hopened : (opened s.streams).length = s.streams.countP (!·.isClosed) := by
    rw [opened, List.length_filterMap_eq_countP]
    congr 1
    funext rows
    rw [RowStream.isClosed, Option.not_isNone]
  rw [held, List.length_append, List.length_map, hopened]

/-- A request that is carried out as a whole leaves those alone that have begun. -/
theorem begun_ask (s : ClientSystem σ) (request : ClientRequest) : (s.ask request).begun = s.begun := by
  cases request with
  | query sql =>
    simp only [ClientSystem.ask, ClientSystem.openStream]
    cases Client.query sql s.client <;> rfl
  | serverInfo | ping | exec | insert | queryBlocks => rfl

omit [Source σ] in
theorem begun_withStream (s : ClientSystem σ) (i : Nat)
    (act : RowStream σ × Client σ → RowStream σ × Client σ) : (s.withStream i act).begun = s.begun := by
  unfold ClientSystem.withStream
  cases s.streams[i]? <;> rfl

/-- Nothing has begun as long as every request is carried out as a whole. -/
theorem begun_run_eq_nil (hs : s.begun = []) {history : List ClientAction}
    (hwhole : ∀ request, .begin request ∉ history) : (s.run history).begun = [] := by
  induction history generalizing s with
  | nil => exact hs
  | cons action history ih =>
    refine ih ?_ fun request hmem => hwhole request (List.mem_cons_of_mem _ hmem)
    cases action with
    | begin request => exact absurd List.mem_cons_self (hwhole request)
    | finish i => simp only [step, ClientSystem.finish, hs, List.getElem?_nil]
    | abandon i => simp only [step, ClientSystem.abandon, hs, List.getElem?_nil]
    | ask request => exact (s.begun_ask request).trans hs
    | next i | nextInto i | stop i | drop i => exact (s.begun_withStream i _).trans hs
    | wait span => exact hs
    | close => exact hs

/-- **No slot is lost.** After every history of a pool that is not closed, whatever has failed, the
slots in use are those of the streams that are open and of the requests that have begun, and the
idle connections fit into the others. So as many requests as there are slots left can have
connections at once, as soon as the server can be reached. -/
theorem slots_conserved (config : Config) (hostname : String) (network : Network σ) (size : Nat)
    (history : List ClientAction) (hopen : .close ∉ history) :
    let s := (start config hostname network size).run history
    let stats := s.client.pool.stats
    stats.size = size ∧
      stats.inUse = s.streams.countP (!·.isClosed) + s.begun.length ∧
      ((∀ request, .begin request ∉ history) → stats.inUse = s.streams.countP (!·.isClosed)) ∧
      stats.idle + stats.inUse ≤ size ∧
      ∀ requests : List ClientRequest, stats.inUse + requests.length ≤ size →
        (∀ n, s.client.pool.nextId ≤ n → ∃ peer, network n = .connected peer) →
        (s.run (requests.map .begin)).begun.map (·.request) = s.begun.map (·.request) ++ requests := by
  intro s stats
  have hstart : Lends size (start config hostname network size) := Pool.Lends.ofSize size
  have hlends : Lends size s := hstart.run hopen
  have hstats : stats = ⟨size, s.client.pool.idle.length, s.held.length⟩ := hlends.stats_eq
  obtain ⟨ledger, hsound⟩ := sound_run_start config hostname network size history
  have hnetwork : s.client.network = network := hsound.client.network_eq
  rw [hstats]
  refine ⟨rfl, length_held s, fun hwhole => ?_, hlends.places, fun requests hfree hreached => ?_⟩
  · have hbegun : s.begun = [] := begun_run_eq_nil rfl hwhole
    rw [length_held, hbegun, List.length_nil, Nat.add_zero]
  · rw [← hnetwork] at hreached
    exact hlends.begun_run requests hfree hreached

/-- Nobody can be reached at first, then somebody who talks nonsense, and from then on a server. -/
def unlucky : Network Cursor
  | 0 | 1 => .failed .closed
  | 2 => .connected { source := ⟨[9], .closed⟩ }
  | _ => .connected { source := ⟨[0, 1, 65, 1, 2, 3, 4], .closed⟩ }

/-- A dial fails, a greeting fails and a query opens a stream: only the stream has a slot, and the
other one can be had. -/
theorem slots_conserved_unlucky :
    let history : List ClientAction := [.ask .ping, .ask .ping, .ask (.query "")]
    let s := (start {} "" unlucky 2).run history
    .close ∉ history ∧ (∀ request, .begin request ∉ history) ∧ s.client.pool.stats.inUse = 1 ∧
      (∀ n, s.client.pool.nextId ≤ n → ∃ peer, unlucky n = .connected peer) ∧
      (s.run [.begin .ping]).begun.map (·.request) = [.ping] := by
  intro history s
  have hopen : .close ∉ history := by simp [history]
  have hwhole : ∀ request, .begin request ∉ history := by simp [history]
  obtain ⟨-, -, hinUse, -, hmore⟩ := slots_conserved {} "" unlucky 2 history hopen
  have hone : s.client.pool.stats.inUse = 1 := (hinUse hwhole).trans (by decide +kernel)
  have hnext : s.client.pool.nextId = 4 := by decide +kernel
  have hreached : ∀ n, s.client.pool.nextId ≤ n → ∃ peer, unlucky n = .connected peer := by
    rw [hnext]
    intro n hn
    obtain ⟨k, rfl⟩ := Nat.exists_eq_add_of_le hn
    exact ⟨_, by rw [Nat.add_comm]; rfl⟩
  have hbegun := hmore [.ping] (hone ▸ Nat.le_refl 2) hreached
  have hnone : s.begun = [] := begun_run_eq_nil rfl hwhole
  rw [hnone] at hbegun
  exact ⟨hopen, hwhole, hone, hreached, hbegun⟩

end ClientSystem

end ColumnWire
