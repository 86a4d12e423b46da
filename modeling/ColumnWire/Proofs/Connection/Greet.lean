import ColumnWire.Proofs.Connection.Talk

/-!
# Greeted connections

The exchange of hellos comes first on every connection. A connection is `Open` if it has a life
that begins with a greeting that has succeeded and goes on with requests and their answers; it is
`Settled` if besides nothing is waited for. Only settled connections may be used again, and what was
heard on them since the last request is a whole answer (`Settled.answered`).
-/
namespace ColumnWire

open Event Connection Phase

variable {σ : Type} [Source σ] {config : Config} {network : Network σ}

/-- What happens in a greeting that succeeds. -/
def Event.greeting (config : Config) : List Event :=
  [.said (Request.hello config.database config.user config.password), .heard .hello]

variable (config network) in
/-- The greeting of the connection succeeds, whenever it is made anew, and its server is who it has
then said it is. -/
def Greeted (c : Connection σ) : Prop :=
  ∃ peer, network c.id = .connected peer ∧ ∀ now, ∃ server c',
    greet config (.fresh config c.id peer now) = .ok server c' ∧ c.server = some server

variable (config network) in
/-- The events have happened on the connection, it has been greeted first, and since then the
conversation has come to the phase. -/
structure Open (phase : Phase) (events : List Event) (c : Connection σ) : Prop where
  life : Life config network events c
  greeted : Greeted config network c
  course : ∃ exchanges, events = greeting config ++ exchanges ∧ Moves .resting exchanges phase

variable (config network) in
/-- The connection may be used again: nothing is left of what was said and heard. -/
abbrev Settled (events : List Event) (c : Connection σ) : Prop :=
  Open config network .resting events c

namespace Greeted

theorem isSome {c : Connection σ} (h : Greeted config network c) : c.server.isSome = true := by
  obtain ⟨peer, -, hgreet⟩ := h
  obtain ⟨server, c', -, hserver⟩ := hgreet ⟨0⟩
  rw [hserver, Option.isSome_some]

theorem congr {c c' : Connection σ} (h : Greeted config network c) (hid : c'.id = c.id)
    (hserver : c'.server = c.server) : Greeted config network c' := by
  unfold Greeted
  rw [hid, hserver]
  exact h

end Greeted

namespace Connection

variable {c c' : Connection σ}

omit [Source σ] in
theorem decode_eq_ok {α : Type} {d : Decoder σ α} {a : α} (h : decode d c = .ok a c') :
    ∃ rd, d c.reader = .ok a rd ∧ c' = { c with reader := rd } := by
  unfold decode at h
  cases hd : d c.reader with
  | ok b rd =>
    simp only [hd] at h
    cases h
    exact ⟨rd, rfl, rfl⟩
  | error e rd => simp [hd] at h

omit [Source σ] in
theorem decode_eq_error {α : Type} {d : Decoder σ α} {e : Error} (h : decode d c = .error e c') :
    ∃ rd, c' = { c with reader := rd } := by
  unfold decode at h
  cases hd : d c.reader with
  | ok b rd => simp [hd] at h
  | error e' rd =>
    simp only [hd] at h
    cases h
    exact ⟨rd, rfl⟩

/-- A hello is answered by a hello. -/
theorem readHello_eq_ok {limit : Nat} {rd rd' : Reader σ} {server : ServerInfo}
    (h : readHello limit rd = .ok server rd') :
    ∃ rd₁, Decoder.varint rd = .ok ServerPacket.hello.code rd₁ ∧
      ServerInfo.read rd₁ = .ok server rd' := by
  obtain ⟨code, rd₁, hcode, hbody⟩ := bind_eq_ok.mp h
  cases hkind : ServerPacket.ofCode? code with
  | none =>
    rw [hkind] at hbody
    exact absurd hbody throw_ne_ok
  | some kind =>
    rw [hkind] at hbody
    rw [ServerPacket.code_of_ofCode? hkind] at hcode
    cases kind with
    | hello => exact ⟨rd₁, hcode, hbody⟩
    | exception =>
      obtain ⟨e, rd₂, -, hthrow⟩ := bind_eq_ok.mp hbody
      exact absurd hthrow throw_ne_ok
    | data | progress | pong | endOfStream | profileInfo | tableColumns =>
      exact absurd hbody throw_ne_ok

theorem greet_eq : greet (σ := σ) config = (do
    say (Request.hello config.database config.user config.password)
    let server ← decode (readHello config.exceptionDepth.toNat)
    modify fun c => { c with server := some server }
    return server) := Client.write_flush _ _

/-- A greeting does not ask what time it is. -/
theorem greet_lastUsed {server : ServerInfo} (now : Duration) (h : greet config c = .ok server c') :
    greet config { c with lastUsed := now } = .ok server { c' with lastUsed := now } := by
  rw [greet_eq] at h ⊢
  obtain ⟨u, c₁, hsay, h⟩ := bind_eq_ok.mp h
  obtain ⟨server', c₂, hdecode, h⟩ := bind_eq_ok.mp h
  obtain ⟨rd, hhello, rfl⟩ := decode_eq_ok hdecode
  cases h
  have hsay' : say (Request.hello config.database config.user config.password)
      { c with lastUsed := now } = .ok () { c₁ with lastUsed := now } := by
    obtain ⟨u, c₂, hwrite, hflush⟩ := bind_eq_ok.mp hsay
    cases hwrite
    refine bind_eq_ok.mpr ⟨(), _, rfl, ?_⟩
    unfold flush at hflush ⊢
    dsimp only at hflush ⊢
    split at hflush
    · cases hflush
      rfl
    · cases hflush
  refine bind_eq_ok.mpr ⟨(), _, hsay', ?_⟩
  refine bind_eq_ok.mpr ⟨server, { c₁ with reader := rd, lastUsed := now }, ?_, rfl⟩
  rw [decode]
  simp only [hhello]

end Connection

namespace Life

variable {events : List Event} {c c' : Connection σ}

/-- **A greeting that succeeds** says a hello and hears one. -/
theorem greet_ok {server : ServerInfo} (h : Life config network events c)
    (hgreet : greet config c = .ok server c') :
    Life config network (events ++ greeting config) c' ∧ c'.id = c.id ∧ c'.server = some server := by
  rw [greet_eq] at hgreet
  obtain ⟨u, c₁, hsay, hgreet⟩ := bind_eq_ok.mp hgreet
  obtain ⟨server', c₂, hdecode, hgreet⟩ := bind_eq_ok.mp hgreet
  obtain ⟨u', c₃, hmodify, hpure⟩ := bind_eq_ok.mp hgreet
  obtain ⟨rd, hhello, rfl⟩ := decode_eq_ok hdecode
  obtain ⟨rd₁, hcode, hread⟩ := readHello_eq_ok hhello
  cases hmodify
  obtain ⟨rfl, rfl⟩ := pure_eq_ok.mp hpure
  obtain ⟨-, -, -, -, hid, -⟩ := say_eq_ok h.writer_empty hsay
  have hlife := (h.said hsay).greeted hcode hread
  rw [List.append_assoc] at hlife
  exact ⟨hlife, hid, rfl⟩

/-- A greeting that fails has said a hello at most, and nothing is known about what was heard. -/
theorem greet_error {e : Error} (h : Life config network events c)
    (hgreet : greet config c = .error e c') :
    ∃ new, (requests new).Sublist (requests (greeting config)) ∧
      Past config network (events ++ new) c' ∧ c'.id = c.id := by
  rw [greet_eq] at hgreet
  rcases bind_eq_error.mp hgreet with hsay | ⟨u, c₁, hsay, hrest⟩
  · obtain ⟨-, hsent, hid⟩ := say_eq_error hsay
    refine ⟨[], List.nil_sublist _, ?_, hid⟩
    rw [List.append_nil]
    exact ⟨c, h, hsent⟩
  · obtain ⟨-, -, -, -, hid, -⟩ := say_eq_ok h.writer_empty hsay
    rcases bind_eq_error.mp hrest with hdecode | ⟨server, c₂, -, hrest⟩
    · obtain ⟨rd, rfl⟩ := decode_eq_error hdecode
      exact ⟨[.said _], List.Sublist.refl _, ⟨c₁, h.said hsay, rfl⟩, hid⟩
    · rcases bind_eq_error.mp hrest with hmodify | ⟨u', c₃, -, hpure⟩
      · cases hmodify
      · exact absurd hpure pure_ne_error

end Life

/-- A new connection that has been greeted is settled. -/
theorem settled_greet {c : Connection σ} {id : Nat} {peer : Peer σ} {now : Duration}
    {server : ServerInfo} (hpeer : network id = .connected peer)
    (hgreet : greet config (.fresh config id peer now) = .ok server c) :
    Settled config network (greeting config) c ∧ c.id = id := by
  obtain ⟨hlife, hid, hserver⟩ := (Life.dialled hpeer).greet_ok hgreet
  subst hid
  have hgreeted : Greeted config network c :=
    ⟨peer, hpeer, fun later => ⟨server, _, greet_lastUsed later hgreet, hserver⟩⟩
  exact ⟨⟨hlife, hgreeted, [], (List.append_nil _).symm, .nil⟩, rfl⟩

/-! ## After a talk -/

/-- The conversation goes on. -/
theorem Open.go {p q : Phase} {events new : List Event} {c c' : Connection σ}
    (h : Open config network p events c) (hlife : Life config network (events ++ new) c')
    (hid : c'.id = c.id) (hserver : c'.server = c.server) (hmoves : Moves p new q) :
    Open config network q (events ++ new) c' := by
  obtain ⟨exchanges, rfl, hcourse⟩ := h.course
  exact ⟨hlife, h.greeted.congr hid hserver, exchanges ++ new, List.append_assoc .., hcourse.append hmoves⟩

/-! ## What was heard last -/

/-- What was heard since the last request was handed over is a whole answer, with nothing behind its end;
or that request was the hello, nothing else was sent, and it is the hello of the server. -/
def Connection.Answered (config : Config) (c : Connection σ) : Prop :=
  ∃ mark kinds kind, c.marks.getLast? = some mark ∧
    HearsAll config.exceptionDepth.toNat (kinds ++ [kind]) mark c.reader ∧
    ((∀ k ∈ kinds, k ∈ part) ∧ kind ∈ ending ∨
      kinds = [] ∧ kind = .hello ∧ c.sent = [Request.hello config.database config.user config.password])

/-- **A settled connection has heard the whole answer** to what was said last. -/
theorem Settled.answered {events : List Event} {c : Connection σ}
    (h : Settled config network events c) : c.Answered config := by
  obtain ⟨exchanges, rfl, hcourse⟩ := h.course
  by_cases hne : exchanges = []
  · obtain rfl := hne
    have hsent := h.life.sent_eq
    have hsplit : greeting config ++ [] = [] ++
        .said (Request.hello config.database config.user config.password) ::
          [ServerPacket.hello].map .heard := rfl
    obtain ⟨mark, hmark, hheard⟩ := h.life.heard_last hsplit
    exact ⟨mark, [], .hello, hmark, hheard, .inr ⟨rfl, rfl, hsent⟩⟩
  · obtain ⟨before, request, kinds, last, rfl, hparts, ⟨habsurd, -⟩ | ⟨-, kind, hkind, rfl⟩⟩ :=
      hcourse.since hne
    · cases habsurd
    · have hsplit := (List.append_assoc (greeting config) before
        (.said request :: (kinds ++ [kind]).map .heard)).symm
      obtain ⟨mark, hmark, hheard⟩ := h.life.heard_last hsplit
      exact ⟨mark, kinds, kind, hmark, hheard, .inl ⟨hparts, hkind⟩⟩

/-- Where nothing was heard since the last request, it has not been answered. -/
theorem Connection.not_answered {c : Connection σ} (h : c.marks.getLast? = some c.reader) :
    ¬c.Answered config := by
  rintro ⟨mark, kinds, kind, hmark, hheard, -⟩
  obtain rfl := Option.some.inj (h.symm.trans hmark)
  have hleft := hheard.left
  rw [List.length_append, List.length_singleton] at hleft
  omega

end ColumnWire
