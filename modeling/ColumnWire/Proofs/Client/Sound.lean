import ColumnWire.Proofs.Client.History
import ColumnWire.Proofs.Pool.Sound

/-!
# Sessions on a sound pool

A connection that is checked out is settled or new (`Ready`). A session greets it if it is new,
talks, and gives it back. Whatever comes of it, the pool of the client is sound again for a
ledger that extends the old one by the requests of the session and by nothing else.
-/
namespace ColumnWire

open Event Connection Phase

variable {σ α : Type}

namespace Client

variable [Source σ] {home c c' : Client σ} {ledger : Ledger} {held : List Nat}
  {conn : Connection σ} {p : Pool σ} {e : Error}

variable (home) in
/-- The pool is sound, and the client is still the one that it was at home. -/
structure Sound (ledger : Ledger) (held : List Nat) (c : Client σ) : Prop where
  config_eq : c.config = home.config
  hostname_eq : c.hostname = home.hostname
  network_eq : c.network = home.network
  pool : c.pool.Sound home.config home.network ledger held

variable (home) in
/-- What a session asks besides its own requests. -/
def helloes : List Bytes := requests (greeting home.config)

variable (home) in
/-- A connection that is checked out is settled, or nothing has happened on it. -/
def Ready (events : List Event) (conn : Connection σ) : Prop :=
  Settled home.config home.network events conn ∨
    events = [] ∧ ∃ peer now, home.network conn.id = .connected peer ∧
      conn = .fresh home.config conn.id peer now

theorem Ready.life {events : List Event} (h : Ready home events conn) :
    Life home.config home.network events conn := by
  rcases h with hsettled | ⟨rfl, peer, now, hpeer, hfresh⟩
  · exact hsettled.life
  · rw [hfresh]
    exact .dialled hpeer

namespace Sound

theorem withPool {ledger' : Ledger} {held' : List Nat} (h : Sound home ledger held c)
    (hpool : p.Sound home.config home.network ledger' held') :
    Sound home ledger' held' { c with pool := p } :=
  ⟨h.config_eq, h.hostname_eq, h.network_eq, hpool⟩

theorem wait (h : Sound home ledger held c) (span : Duration) :
    Sound home ledger held (c.wait span) :=
  ⟨h.config_eq, h.hostname_eq, h.network_eq, h.pool⟩

/-- The order in which connections are held does not matter. -/
theorem permute {held' : List Nat} (h : Sound home ledger held c) (hperm : held'.Perm held) :
    Sound home ledger held' c :=
  h.withPool (h.pool.rearrange (hperm.append_right _) rfl h.pool.idle h.pool.departed)

/-! ## Checking out -/

variable (home ledger held) in
/-- What has come of a wish for a connection: it is held and ready, or nothing has changed. -/
def CheckedOut : EStateM.Result Error (Client σ) (Connection σ) → Prop
  | .ok conn c => Sound home ledger (conn.id :: held) c ∧ Ready home (ledger conn.id) conn
  | .error _ c => Sound home ledger held c

theorem dial (h : Sound home ledger held c) : CheckedOut home ledger held (Client.dial c) := by
  have hunused : (c.pool.number.2.giveSlot).Sound home.config home.network ledger held :=
    (h.pool.number.forget h.pool.unknown_nextId).giveSlot
  unfold Client.dial
  cases hpeer : c.network c.pool.number.1 with
  | connected peer =>
    simp only [hpeer]
    refine ⟨h.withPool h.pool.number, .inr ⟨h.pool.unknown_nextId, peer, c.now, ?_, ?_⟩⟩
    · rw [← h.network_eq]
      exact hpeer
    · rw [← h.config_eq]
      rfl
  | failed fault =>
    simp only [hpeer]
    exact h.withPool hunused
  | silent =>
    simp only [hpeer]
    exact h.withPool hunused

theorem pick (h : Sound home ledger held c) : CheckedOut home ledger held (Client.pick c) := by
  have hchoose := h.pool.choose (Connection.isExpired c.config.idleLimit c.now)
  unfold Client.pick
  rcases hchosen : c.pool.choose (Connection.isExpired c.config.idleLimit c.now) with ⟨_ | chosen, p⟩
  · simp only [hchosen] at hchoose ⊢
    exact (h.withPool hchoose).dial
  · simp only [hchosen] at hchoose ⊢
    exact ⟨h.withPool hchoose.1, .inl hchoose.2⟩

/-- **Whoever checks out a connection gets a ready one**, which nobody else holds. -/
theorem acquire (h : Sound home ledger held c) : CheckedOut home ledger held (Client.acquire c) := by
  unfold Client.acquire
  by_cases hclosed : c.pool.closed = true
  · rw [if_pos hclosed]
    exact h
  · rw [if_neg hclosed]
    cases hslot : c.pool.takeSlot with
    | closed => exact h
    | busy => exact h
    | granted p => exact (h.withPool (h.pool.takeSlot hslot)).pick

/-! ## Giving back -/

/-- Something happens on a connection that is held, and then it is given back. -/
theorem release {conn' : Connection σ} {new : List Event} {failure : Option Error}
    (h : Sound home ledger (conn.id :: held) c) (hid : conn'.id = conn.id)
    (hpast : Past home.config home.network (ledger conn.id ++ new) conn')
    (hsettled : failure.any Error.spoilsConnection = false →
      Settled home.config home.network (ledger conn.id ++ new) conn') :
    Sound home (ledger.add conn.id new) held (c.release failure conn') := by
  have hadd := h.pool.add new
  rw [← hid] at hadd hpast hsettled ⊢
  rw [← Ledger.add_self] at hpast hsettled
  exact h.withPool (hadd.release hpast hsettled)

/-- An open connection comes back at rest. -/
theorem release_rested {phase : Phase} {conn' : Connection σ} {new : List Event}
    (h : Sound home ledger (conn.id :: held) c)
    (hopen : Open home.config home.network phase (ledger conn.id) conn)
    (hlife : Life home.config home.network (ledger conn.id ++ new) conn') (hid : conn'.id = conn.id)
    (hserver : conn'.server = conn.server) (hmoves : Moves phase new .resting) :
    Sound home (ledger.add conn.id new) held (c.release none conn') :=
  h.release hid hlife.past fun _ => hopen.go hlife hid hserver hmoves

/-- A connection comes back with a failure that spoils it, or at rest. -/
theorem release_error {phase : Phase} {conn' : Connection σ} {new : List Event}
    (h : Sound home ledger (conn.id :: held) c)
    (hopen : Open home.config home.network phase (ledger conn.id) conn) (hid : conn'.id = conn.id)
    (hpast : Past home.config home.network (ledger conn.id ++ new) conn')
    (hend : e.spoilsConnection = true ∨
      Life home.config home.network (ledger conn.id ++ new) conn' ∧
        conn'.server = conn.server ∧ Moves phase new .resting) :
    Sound home (ledger.add conn.id new) held (c.release (some e) conn') := by
  refine h.release hid hpast fun hkept => ?_
  rcases hend with hspoils | ⟨hlife, hserver, hmoves⟩
  · rw [Option.any_some, hspoils] at hkept
    cases hkept
  · exact hopen.go hlife hid hserver hmoves

/-- Something happens on a connection that is held, and then it is closed. -/
theorem remove {conn' : Connection σ} {new : List Event}
    (h : Sound home ledger (conn.id :: held) c) (hid : conn'.id = conn.id)
    (hpast : Past home.config home.network (ledger conn.id ++ new) conn') :
    Sound home (ledger.add conn.id new) held (c.remove conn') := by
  have hadd := h.pool.add new
  rw [← hid] at hadd hpast ⊢
  rw [← Ledger.add_self] at hpast
  exact h.withPool (hadd.remove hpast)

/-- Nobody else holds a connection that is held. -/
theorem not_mem_held {n : Nat} (h : Sound home ledger (n :: held) c) : n ∉ held := by
  intro hmem
  exact (List.nodup_cons.mp h.pool.distinct).1 (List.mem_append_left _ hmem)

/-! ## Greeting -/

theorem welcome_ok {conn' : Connection σ} (h : Sound home ledger (conn.id :: held) c)
    (hready : Ready home (ledger conn.id) conn) (hwelcome : welcome conn c = .ok conn' c') :
    ∃ ledger', Sound home ledger' (conn'.id :: held) c' ∧
      Settled home.config home.network (ledger' conn'.id) conn' ∧
      Ledger.Extends home.helloes held ledger ledger' := by
  rcases hready with hsettled | ⟨hnothing, peer, now, hpeer, hfresh⟩
  · obtain ⟨server, hserver⟩ := Option.isSome_iff_exists.mp hsettled.greeted.isSome
    simp only [welcome, hserver] at hwelcome
    obtain ⟨rfl, rfl⟩ := pure_eq_ok.mp hwelcome
    exact ⟨ledger, h, hsettled, .refl _ _ _⟩
  · have hserver : conn.server = none := by
      rw [hfresh]
      rfl
    simp only [welcome, hserver] at hwelcome
    cases hgreet : conn.greet c.config with
    | error e conn₁ => simp [hgreet] at hwelcome
    | ok server conn₁ =>
      simp only [hgreet] at hwelcome
      cases hwelcome
      rw [h.config_eq, hfresh] at hgreet
      obtain ⟨hsettled, hid⟩ := settled_greet hpeer hgreet
      refine ⟨ledger.add conn.id (greeting home.config), ?_, ?_, .add (.refl _) h.not_mem_held⟩
      · rw [hid]
        exact h.withPool (h.pool.add _)
      · rw [hid, Ledger.add_self, hnothing, List.nil_append]
        exact hsettled

/-- **A connection whose greeting fails is closed**, whatever the failure is. -/
theorem welcome_error (h : Sound home ledger (conn.id :: held) c)
    (hready : Ready home (ledger conn.id) conn) (hwelcome : welcome conn c = .error e c') :
    ∃ ledger', Sound home ledger' held c' ∧ Ledger.Extends home.helloes held ledger ledger' := by
  have hlife := hready.life
  cases hserver : conn.server with
  | some server =>
    simp only [welcome, hserver] at hwelcome
    exact absurd hwelcome pure_ne_error
  | none =>
    simp only [welcome, hserver] at hwelcome
    cases hgreet : conn.greet c.config with
    | ok server conn' => simp [hgreet] at hwelcome
    | error e' conn' =>
      simp only [hgreet] at hwelcome
      cases hwelcome
      rw [h.config_eq] at hgreet
      obtain ⟨new, hasked, hpast, hid⟩ := hlife.greet_error hgreet
      exact ⟨_, h.remove hid hpast, .add hasked h.not_mem_held⟩

/-! ## Requests -/

/-- A talk that fails gives its connection back with the failure. -/
theorem release_talk_error {phase : Phase} {d : Dialogue σ α} {conn' : Connection σ}
    {asked : List Bytes} {q : α → Phase} (h : Sound home ledger (conn.id :: held) c)
    (hopen : Open home.config home.network phase (ledger conn.id) conn)
    (htalk : Talk home.config home.network asked phase q d) (hd : d conn = .error e conn') :
    ∃ ledger', Sound home ledger' held (c.release (some e) conn') ∧
      Ledger.Extends asked held ledger ledger' := by
  obtain ⟨new, hasked, hpast, hid, hend⟩ := htalk.of_error hopen.life hd
  exact ⟨_, h.release_error hopen hid hpast hend, .add hasked h.not_mem_held⟩

theorem converse {talk : Client σ → Dialogue σ α} {asked : List Bytes}
    (h : Sound home ledger (conn.id :: held) c)
    (hsettled : Settled home.config home.network (ledger conn.id) conn)
    (htalk : Talk home.config home.network asked .resting (fun _ => .resting) (talk c)) :
    ∃ ledger', Sound home ledger' held ((Client.converse talk conn).after c) ∧
      Ledger.Extends asked held ledger ledger' := by
  unfold Session.after Client.converse
  cases hd : talk c conn with
  | ok a conn' =>
    obtain ⟨new, hasked, hlife, hmoves, hid, hserver⟩ := htalk.of_ok hsettled.life hd
    exact ⟨_, h.release_rested hsettled hlife hid hserver hmoves, .add (hasked ▸ .refl _) h.not_mem_held⟩
  | error e conn' => exact h.release_talk_error hsettled htalk hd

/-- **A request of the client leaves its pool sound.** -/
theorem exchangeOn {talk : Client σ → Dialogue σ α} {asked : List Bytes}
    (h : Sound home ledger (conn.id :: held) c) (hready : Ready home (ledger conn.id) conn)
    (htalk : ∀ {ledger held c}, Sound home ledger held c →
      Talk home.config home.network asked .resting (fun _ => .resting) (talk c)) :
    ∃ ledger', Sound home ledger' held ((Client.exchangeOn talk conn).after c) ∧
      Ledger.Extends (home.helloes ++ asked) held ledger ledger' := by
  rw [Client.exchangeOn, Session.after_bind]
  cases hwelcome : welcome conn c with
  | error e c₁ =>
    obtain ⟨ledger₁, hsound, hext⟩ := h.welcome_error hready hwelcome
    exact ⟨ledger₁, hsound, hext.weaken (List.sublist_append_left _ _)⟩
  | ok conn₁ c₁ =>
    obtain ⟨ledger₁, hsound, hsettled, hext⟩ := h.welcome_ok hready hwelcome
    obtain ⟨ledger₂, hsound₂, hext₂⟩ := hsound.converse hsettled (htalk hsound)
    exact ⟨ledger₂, hsound₂, hext.trans hext₂⟩

/-! ## What clients ask -/

theorem statement_eq (h : Sound home ledger held c) (sql : String) :
    c.statement sql = home.statement sql := by
  rw [statement, statement, h.config_eq, h.hostname_eq]

theorem rowData_eq (h : Sound home ledger held c) (block : Block) :
    c.rowData block = home.rowData block := by
  rw [rowData, rowData, h.config_eq]

theorem talk_serverInfoOn (c : Client σ) :
    Talk home.config home.network [] .resting (fun _ => .resting) c.serverInfoOn :=
  Talk.look fun conn => conn.server.getD {}

theorem talk_pingOn (h : Sound home ledger held c) :
    Talk home.config home.network [Request.ping] .resting (fun _ => .resting) c.pingOn := by
  have htalk := Client.talk_pingOn home.network c
  rwa [h.config_eq] at htalk

theorem talk_execOn (h : Sound home ledger held c) (sql : String) :
    Talk home.config home.network [home.statement sql] .resting (fun _ => .resting)
      (c.execOn sql) := by
  have htalk := Client.talk_execOn home.network sql c
  rwa [h.config_eq, h.statement_eq] at htalk

theorem talk_insertOn (h : Sound home ledger held c) (sql : String) (block : Block) :
    Talk home.config home.network [home.statement sql, home.rowData block] .resting
      (fun _ => .resting) (c.insertOn sql block) := by
  have htalk := Client.talk_insertOn home.network sql block c
  rwa [h.config_eq, h.statement_eq, h.rowData_eq] at htalk

end Sound

end Client

end ColumnWire
