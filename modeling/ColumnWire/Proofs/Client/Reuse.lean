import ColumnWire.Proofs.Client.Streams
import ColumnWire.Proofs.Connection.Record

/-!
# Connections are reused safely

After every history of a client and its streams, against any server and any failures of the
transport, the idle connections are `Reusable`: greeted, with nothing in the writer, outside of
regions, and with a whole answer heard since the last request was handed over, as it was with all
requests before. What an action sends on a connection are requests of this action alone, each in one
piece, so nothing of an older request can come with it.
-/
namespace ColumnWire

open Event Connection Phase

variable {σ : Type} [Source σ]

/-- What a request sends; it may have to greet a server first. -/
def ClientRequest.messages (home : Client σ) : ClientRequest → List Bytes
  | .serverInfo => home.helloes
  | .ping => home.helloes ++ [Request.ping]
  | .exec sql | .query sql | .queryBlocks sql => home.helloes ++ [home.statement sql]
  | .insert sql block => home.helloes ++ [home.statement sql, home.rowData block]

/-- What an action sends. -/
def ClientAction.messages (home : Client σ) (s : ClientSystem σ) : ClientAction → List Bytes
  | .ask request => request.messages home
  | .finish i =>
    match s.begun[i]? with
    | none => []
    | some b => b.request.messages home
  | .stop _ => [Request.cancel]
  | .begin _ | .abandon _ | .next _ | .nextInto _ _ | .drop _ | .wait _ | .close => []

/-- A connection that may be used again. -/
structure Reusable (config : Config) (network : Network σ) (c : Connection σ) : Prop where
  /-- Its handshake has succeeded, and it knows its server. -/
  greeted : Greeted config network c
  /-- Nothing is left to be written. -/
  written : c.writer.bytes = []
  /-- The reader is not inside a region. -/
  outside : c.reader.region = none
  /-- Since the last request was handed over a whole answer was heard, up to its end. -/
  answered : c.Answered config
  /-- So it was with every request before. There is one record of what has happened on the connection: the
  greeting, and behind it nothing new was asked until the answer to what was asked before had been
  heard. -/
  exchanges : ∃ exchanges, Moves .resting exchanges .resting ∧
    ∀ events, Life config network events c ↔ events = greeting config ++ exchanges

theorem Settled.reusable {config : Config} {network : Network σ} {events : List Event}
    {c : Connection σ} (h : Settled config network events c) : Reusable config network c where
  greeted := h.greeted
  written := h.life.writer_empty
  outside := h.life.outside
  answered := h.answered
  exchanges := by
    obtain ⟨exchanges, rfl, hcourse⟩ := h.course
    refine ⟨exchanges, hcourse, fun events => ⟨fun hlife => hlife.unique h.life, ?_⟩⟩
    rintro rfl
    exact h.life

/-- A connection on which nothing was heard since the last request may not be used again. -/
theorem not_reusable {config : Config} {network : Network σ} {c : Connection σ}
    (h : c.marks.getLast? = some c.reader) : ¬Reusable config network c :=
  fun hc => Connection.not_answered h hc.answered

namespace ClientSystem

variable {home : Client σ} {ledger : Ledger} {s s' : ClientSystem σ} {asked : List Bytes}

variable (home ledger) in
/-- Streams that are open hold open connections, and requests that have begun hold ready ones. -/
structure Holds (s : ClientSystem σ) : Prop where
  opened : ∀ conn ∈ opened s.streams, Open home.config home.network .waiting (ledger conn.id) conn
  begun : ∀ b ∈ s.begun, Client.Ready home (ledger b.connection.id) b.connection

variable (home ledger) in
/-- The pool of the client is sound, and so is what streams and requests hold. -/
structure Sound (s : ClientSystem σ) : Prop extends Holds home ledger s where
  client : home.Sound ledger (s.held.map (·.id)) s.client

/-- What is held stays as it is, whatever happens on other connections. -/
theorem Holds.extend {ledger' : Ledger} (h : Holds home ledger s)
    (hext : Ledger.Extends asked (s.held.map (·.id)) ledger ledger') : Holds home ledger' s where
  opened conn hconn := by
    rw [hext.eq_of_mem (List.mem_map_of_mem (List.mem_append_left _ hconn))]
    exact h.opened conn hconn
  begun b hb := by
    have hheld : b.connection ∈ s.held := List.mem_append_right _ (List.mem_map_of_mem hb)
    rw [hext.eq_of_mem (List.mem_map_of_mem hheld)]
    exact h.begun b hb

namespace Sound

/-! ## Requests -/

/-- A session of the client leaves alone what is held. -/
theorem session {c : Client σ} (h : Holds home ledger s)
    (hsession : ∃ ledger', home.Sound ledger' (s.held.map (·.id)) c ∧
      Ledger.Extends asked (s.held.map (·.id)) ledger ledger') :
    ∃ ledger', Sound home ledger' { s with client := c } ∧
      Ledger.Extends asked [] ledger ledger' := by
  obtain ⟨ledger', hclient, hext⟩ := hsession
  have hholds := h.extend hext
  exact ⟨ledger', ⟨⟨hholds.opened, hholds.begun⟩, hclient⟩, hext.others (List.nil_subset _)⟩

/-- A query whose answer is a new stream. -/
theorem openStream {conn : Connection σ} (h : Holds home ledger s)
    (hclient : home.Sound ledger (conn.id :: s.held.map (·.id)) s.client)
    (hready : Client.Ready home (ledger conn.id) conn) (sql : String) :
    ∃ ledger', Sound home ledger' (s.openStream (Client.queryOn sql conn)) ∧
      Ledger.Extends (home.helloes ++ [home.statement sql]) [] ledger ledger' := by
  unfold ClientSystem.openStream
  cases hquery : Client.queryOn sql conn s.client with
  | error e c => exact session h (hclient.queryOn_error hready hquery)
  | ok rows c =>
    obtain ⟨ledger', hrows, hext⟩ := hclient.queryOn_ok hready hquery
    have hholds := h.extend hext
    refine ⟨ledger', ⟨⟨?_, hholds.begun⟩, ?_⟩, hext.others (List.nil_subset _)⟩
    · intro conn' hconn'
      rw [opened_append] at hconn'
      rcases List.mem_append.mp hconn' with hother | hnew
      · exact hholds.opened conn' hother
      · exact hrows.opened conn' (Option.mem_toList.mp hnew)
    · refine hrows.client.permute ?_
      rw [RowStream.ids, ← List.map_append]
      refine List.Perm.map _ ?_
      rw [held, held, opened_append, List.append_assoc]
      exact List.perm_append_comm_assoc _ _ _

/-- **Whatever is asked on a connection that is checked out** leaves the system sound. -/
theorem perform {conn : Connection σ} (h : Holds home ledger s)
    (hclient : home.Sound ledger (conn.id :: s.held.map (·.id)) s.client)
    (hready : Client.Ready home (ledger conn.id) conn) (request : ClientRequest) :
    ∃ ledger', Sound home ledger' (s.perform conn request) ∧
      Ledger.Extends (request.messages home) [] ledger ledger' := by
  cases request with
  | serverInfo =>
    have hlook := hclient.exchangeOn hready fun {_ _ c} _ => Client.Sound.talk_serverInfoOn c
    rw [List.append_nil] at hlook
    exact session h hlook
  | ping => exact session h (hclient.exchangeOn hready fun h => h.talk_pingOn)
  | exec sql => exact session h (hclient.exchangeOn hready fun h => h.talk_execOn sql)
  | insert sql block =>
    exact session h (hclient.exchangeOn hready fun h => h.talk_insertOn sql block)
  | queryBlocks sql => exact session h (hclient.queryBlocksOn hready sql)
  | query sql => exact openStream h hclient hready sql

theorem ask (h : Sound home ledger s) (request : ClientRequest) :
    ∃ ledger', Sound home ledger' (s.ask request) ∧
      Ledger.Extends (request.messages home) [] ledger ledger' := by
  rw [ask_eq]
  have hacquire := h.client.acquire
  cases hresult : Client.acquire s.client with
  | ok conn c =>
    rw [hresult] at hacquire
    exact perform (s := { s with client := c }) ⟨h.opened, h.begun⟩ hacquire.1 hacquire.2 request
  | error e c =>
    rw [hresult] at hacquire
    exact session h.toHolds ⟨ledger, hacquire, .refl _ _ _⟩

theorem begin (h : Sound home ledger s) (request : ClientRequest) :
    ∃ ledger', Sound home ledger' (s.begin request) ∧ Ledger.Extends [] [] ledger ledger' := by
  unfold ClientSystem.begin
  have hacquire := h.client.acquire
  cases hresult : Client.acquire s.client with
  | ok conn c =>
    rw [hresult] at hacquire
    obtain ⟨hclient, hready⟩ := hacquire
    refine ⟨ledger, ⟨⟨h.opened, ?_⟩, hclient.permute ?_⟩, .refl _ _ _⟩
    · intro b hb
      rcases List.mem_append.mp hb with hother | hnew
      · exact h.begun b hother
      · rw [List.mem_singleton.mp hnew]
        exact hready
    · have hheld : opened s.streams ++
          (s.begun ++ [(⟨request, conn⟩ : Begun σ)]).map (·.connection) = s.held ++ [conn] := by
        rw [List.map_append, ← List.append_assoc]
        rfl
      rw [held, hheld, List.map_append]
      exact List.perm_append_comm
  | error e c =>
    rw [hresult] at hacquire
    exact session h.toHolds ⟨ledger, hacquire, .refl _ _ _⟩

/-- A request that has begun is taken out of the list; its connection is still held. -/
theorem take {i : Nat} {b : Begun σ} (h : Sound home ledger s) (hget : s.begun[i]? = some b) :
    Holds home ledger { s with begun := s.begun.eraseIdx i } ∧
      home.Sound ledger (b.connection.id ::
        ({ s with begun := s.begun.eraseIdx i } : ClientSystem σ).held.map (·.id)) s.client ∧
      Client.Ready home (ledger b.connection.id) b.connection := by
  have hperm := begun_perm hget
  refine ⟨⟨h.opened, fun b' hb' => h.begun b' (List.mem_of_mem_eraseIdx hb')⟩,
    h.client.permute ?_, h.begun b (List.mem_of_getElem? hget)⟩
  have hheld := ((hperm.map (·.connection)).append_left (opened s.streams)).map (·.id)
  refine List.Perm.trans ?_ hheld.symm
  rw [held, List.map_append, List.map_append, List.map_cons, List.map_cons]
  exact List.perm_middle.symm

theorem finish (h : Sound home ledger s) (i : Nat) :
    ∃ ledger', Sound home ledger' (s.finish i) ∧
      Ledger.Extends ((ClientAction.finish i).messages home s) [] ledger ledger' := by
  cases hget : s.begun[i]? with
  | none =>
    simp only [ClientSystem.finish, hget]
    exact ⟨ledger, h, .refl _ _ _⟩
  | some b =>
    simp only [ClientSystem.finish, ClientAction.messages, hget]
    obtain ⟨hholds, hclient, hready⟩ := h.take hget
    exact perform hholds hclient hready b.request

theorem abandon (h : Sound home ledger s) (i : Nat) :
    ∃ ledger', Sound home ledger' (s.abandon i) ∧ Ledger.Extends [] [] ledger ledger' := by
  unfold ClientSystem.abandon
  cases hget : s.begun[i]? with
  | none => exact ⟨ledger, h, .refl _ _ _⟩
  | some b =>
    obtain ⟨hholds, hclient, hready⟩ := h.take hget
    have hpast : Past home.config home.network (ledger b.connection.id ++ []) b.connection := by
      rw [List.append_nil]
      exact hready.life.past
    exact session hholds ⟨_, hclient.remove rfl hpast, .add (List.nil_sublist _) hclient.not_mem_held⟩

/-! ## Streams -/

theorem withStream (h : Sound home ledger s) (i : Nat)
    {act : RowStream σ × Client σ → RowStream σ × Client σ}
    (hact : ∀ {ledger held s}, RowStream.Sound home ledger held s →
      ∃ ledger', RowStream.Sound home ledger' held (act s) ∧
        Ledger.Extends asked held ledger ledger') :
    ∃ ledger', Sound home ledger' (s.withStream i act) ∧ Ledger.Extends asked [] ledger ledger' := by
  unfold ClientSystem.withStream
  cases hget : s.streams[i]? with
  | none => exact ⟨ledger, h, .refl _ _ _⟩
  | some rows =>
    obtain ⟨others, hbefore, hafter⟩ := opened_set hget (act (rows, s.client)).1
    have hstream : ∀ (streams : List (RowStream σ)) (r : RowStream σ),
        (opened streams).Perm (r.connection.toList ++ others) →
        ((opened streams ++ s.begun.map (·.connection)).map (·.id)).Perm
          (r.ids ++ (others ++ s.begun.map (·.connection)).map (·.id)) := by
      intro streams r hperm
      rw [RowStream.ids, ← List.map_append, ← List.append_assoc]
      exact (hperm.append_right _).map _
    have hrows : RowStream.Sound home ledger ((others ++ s.begun.map (·.connection)).map (·.id))
        (rows, s.client) := by
      refine ⟨h.client.permute (hstream _ _ hbefore).symm, fun conn hconn => h.opened conn ?_⟩
      exact hbefore.mem_iff.mpr (List.mem_append_left _ (Option.mem_toList.mpr hconn))
    obtain ⟨ledger', hrows', hext⟩ := hact hrows
    have hothers : ∀ conn ∈ others ++ s.begun.map (·.connection),
        ledger' conn.id = ledger conn.id :=
      fun conn hconn => hext.eq_of_mem (List.mem_map_of_mem hconn)
    refine ⟨ledger', ⟨⟨?_, ?_⟩, hrows'.client.permute (hstream _ _ hafter)⟩,
      hext.others (List.nil_subset _)⟩
    · intro conn hconn
      rcases List.mem_append.mp (hafter.mem_iff.mp hconn) with hthis | hother
      · exact hrows'.opened conn (Option.mem_toList.mp hthis)
      · rw [hothers conn (List.mem_append_left _ hother)]
        exact h.opened conn (hbefore.mem_iff.mpr (List.mem_append_right _ hother))
    · intro b hb
      rw [hothers _ (List.mem_append_right _ (List.mem_map_of_mem hb))]
      exact h.begun b hb

/-! ## Steps -/

/-- **Every action keeps the system sound**, and the ledger gains messages of the action alone. -/
theorem step (h : Sound home ledger s) (action : ClientAction) :
    ∃ ledger', Sound home ledger' (s.step action) ∧
      Ledger.Extends (action.messages home s) [] ledger ledger' := by
  cases action with
  | ask request => exact h.ask request
  | begin request => exact h.begin request
  | finish i => exact h.finish i
  | abandon i => exact h.abandon i
  | next i => exact h.withStream i fun h => h.next
  | nextInto i block => exact h.withStream i fun h => h.nextInto block
  | stop i => exact h.withStream i fun h => h.close
  | drop i => exact h.withStream i fun h => h.drop
  | wait span => exact session h.toHolds ⟨ledger, h.client.wait span, .refl _ _ _⟩
  | close =>
    exact session h.toHolds ⟨ledger, h.client.withPool h.client.pool.close, .refl _ _ _⟩

/-- A history keeps the system sound. -/
theorem run (h : ∃ ledger, Sound home ledger s) (history : List ClientAction) :
    ∃ ledger, Sound home ledger (s.run history) := by
  refine run_induction (P := fun s => ∃ ledger, Sound home ledger s) ?_ h history
  rintro s action ⟨ledger, h⟩
  obtain ⟨ledger', h', -⟩ := h.step action
  exact ⟨ledger', h'⟩

/-! ## Connections -/

/-- What a connection has sent is what the ledger tells. -/
theorem sent_eq (h : Sound home ledger s) {conn : Connection σ} (hconn : conn ∈ s.connections) :
    conn.sent = requests (ledger conn.id) := by
  rcases List.mem_append.mp hconn with hheld | hpool
  · rcases List.mem_append.mp hheld with hstream | hbegun
    · exact (h.opened conn hstream).life.sent_eq
    · obtain ⟨b, hb, rfl⟩ := List.mem_map.mp hbegun
      exact (h.begun b hb).life.sent_eq
  · rcases List.mem_append.mp hpool with hidle | hdeparted
    · exact (h.client.pool.idle conn hidle).life.sent_eq
    · exact (h.client.pool.departed conn hdeparted).sent_eq

omit [Source σ] in
theorem ids_eq (s : ClientSystem σ) : s.connections.map (·.id) =
    s.client.pool.ids (s.held.map (·.id)) := by
  rw [connections, Pool.ids, List.map_append, List.map_append]

/-- What an action has sent on a connection are its own requests. -/
theorem sent_step (h : Sound home ledger s) (action : ClientAction) {conn : Connection σ}
    (hconn : conn ∈ (s.step action).connections) : ∃ own, own.Sublist (action.messages home s) ∧
      ((∃ before ∈ s.connections, before.id = conn.id ∧ conn.sent = before.sent ++ own) ∨
        (∀ before ∈ s.connections, before.id ≠ conn.id) ∧ conn.sent = own) := by
  obtain ⟨ledger', h', hext⟩ := h.step action
  obtain ⟨new, hnew, hasked, -⟩ := hext conn.id
  refine ⟨requests new, hasked, ?_⟩
  have hsent : conn.sent = requests (ledger conn.id) ++ requests new := by
    rw [h'.sent_eq hconn, hnew, requests_append]
  by_cases hold : ∃ before ∈ s.connections, before.id = conn.id
  · obtain ⟨before, hbefore, hid⟩ := hold
    refine .inl ⟨before, hbefore, hid, ?_⟩
    rw [hsent, h.sent_eq hbefore, hid]
  · have hempty : ledger conn.id = [] := by
      by_cases hempty : ledger conn.id = []
      · exact hempty
      · have hmem := h.client.pool.known _ hempty
        rw [← ids_eq, List.mem_map] at hmem
        exact absurd hmem hold
    refine .inr ⟨fun before hbefore hid => hold ⟨before, hbefore, hid⟩, ?_⟩
    rw [hsent, hempty, requests_nil, List.nil_append]

end Sound

/-! ## Every history -/

variable (config : Config) (hostname : String) (network : Network σ) (size : Nat)

/-- A client that has done nothing yet. -/
def start : ClientSystem σ where
  client := { config, hostname, network, pool := .ofSize size }

theorem sound_run_start (history : List ClientAction) : ∃ ledger,
    Sound (start config hostname network size).client ledger
      ((start config hostname network size).run history) := by
  have hholds : Holds (start config hostname network size).client (fun _ => [])
      (start config hostname network size) := ⟨List.forall_mem_nil _, List.forall_mem_nil _⟩
  exact Sound.run ⟨fun _ => [], ⟨hholds, ⟨rfl, rfl, rfl, .ofSize size⟩⟩⟩ history

/-- **Connections are reused safely.** After every history, whatever the server says and however the
transport fails, the idle connections are reusable, and no two connections have the same number.
Whatever happens next, what is sent on a connection behind what it has sent before are requests
of that action, each as a whole. -/
theorem reuse_safe (history : List ClientAction) (action : ClientAction) :
    let home := start config hostname network size
    let s := home.run history
    (∀ conn ∈ s.client.pool.idle, Reusable config network conn) ∧
      (s.connections.map (·.id)).Nodup ∧
      ∀ conn ∈ (s.step action).connections, ∃ own, own.Sublist (action.messages home.client s) ∧
        ((∃ before ∈ s.connections, before.id = conn.id ∧ conn.sent = before.sent ++ own) ∨
          (∀ before ∈ s.connections, before.id ≠ conn.id) ∧ conn.sent = own) := by
  intro home s
  obtain ⟨ledger, hsound⟩ := sound_run_start config hostname network size history
  refine ⟨?_, ?_, ?_⟩
  · intro conn hconn
    exact (hsound.client.pool.idle conn hconn).reusable
  · rw [Sound.ids_eq]
    exact hsound.client.pool.distinct
  · intro conn hconn
    exact hsound.sent_step action hconn

/-- A ping gets its connection first and uses it last: in between another connection is greeted, and
in the end both are idle and have sent what was asked on them. -/
example :
    let peer : Peer Cursor := { source := ⟨[0, 1, 65, 1, 2, 3, 4], .closed⟩ }
    let home : ClientSystem Cursor := start {} "" (fun _ => .connected peer) 2
    let s := home.run [.begin .ping, .ask .serverInfo, .finish 0]
    s.client.pool.idle.map (·.sent) = [home.client.helloes ++ [Request.ping], home.client.helloes] := by
  cbv

end ClientSystem

end ColumnWire
