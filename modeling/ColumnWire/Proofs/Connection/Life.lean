import ColumnWire.Client
import ColumnWire.Proofs.Log
import ColumnWire.Proofs.Reply.Hears
import Mathlib.Data.List.Induction

/-!
# The life of a connection

On a connection whole requests are said and whole packets are heard. `Life` keeps the record:
a connection with a life has nothing in its writer, its reader is outside of regions, and
what it has sent is what was said, request by request. The marks of a connection tell where its
reader stood at each request, so what was heard since then is known as well (`Life.heard_since`),
and a request cannot be moved before or behind a packet in the record. A failure may end the life;
then at least nothing more is sent (`Past`).

`Phase.Moves` tells which records make sense: nobody asks twice without having heard the end of
the first answer.
-/
namespace ColumnWire

/-- Something that happens on a connection. -/
inductive Event where
  /-- A whole request was handed over. -/
  | said (request : Bytes)
  /-- A whole packet was read. -/
  | heard (kind : ServerPacket)
deriving Repr, DecidableEq

namespace Event

/-- The request that was said. -/
def request? : Event → Option Bytes
  | .said request => some request
  | .heard _ => none

/-- The kind of the packet that was heard. -/
def kind? : Event → Option ServerPacket
  | .said _ => none
  | .heard kind => some kind

/-- What was said, in order. -/
def requests (events : List Event) : List Bytes := events.filterMap request?

/-- What was heard, in order. -/
def kinds (events : List Event) : List ServerPacket := events.filterMap kind?

@[simp] theorem requests_nil : requests [] = [] := rfl

@[simp] theorem requests_append (first second : List Event) :
    requests (first ++ second) = requests first ++ requests second := List.filterMap_append

@[simp] theorem requests_said (bs : Bytes) : requests [.said bs] = [bs] := rfl

@[simp] theorem requests_heard (kinds : List ServerPacket) : requests (kinds.map .heard) = [] := by
  simp [requests, List.filterMap_map, Function.comp_def, request?]

@[simp] theorem kinds_append (first second : List Event) :
    kinds (first ++ second) = kinds first ++ kinds second := List.filterMap_append

@[simp] theorem kinds_heard (ks : List ServerPacket) : kinds (ks.map .heard) = ks := by
  simp [kinds, List.filterMap_map, Function.comp_def, kind?]

/-- The packets that end an answer: behind them the server says nothing more. -/
def ending : List ServerPacket := [.exception, .pong, .endOfStream]

/-- The packets that an answer may have in front of its end. -/
def part : List ServerPacket := [.data, .progress, .profileInfo, .tableColumns]

end Event

/-! ## Phases -/

/-- How far a conversation has got, once the server has been greeted. -/
inductive Phase where
  /-- All that was asked has been answered. -/
  | resting
  /-- Something was asked, and the end of the answer has not been heard. -/
  | waiting
deriving Repr, DecidableEq

namespace Phase

open Event

/-- What may happen in a phase, and the phase behind it. A query or a ping is only said when all before
has been answered; data and a cancellation belong to what has been asked already. -/
inductive Step : Phase → Event → Phase → Prop
  | ask (packet : ClientPacket) {request : Bytes} (hpacket : packet ∈ [.query, .ping])
      (hopens : packet.encode <+: request) : Step .resting (.said request) .waiting
  | add (packet : ClientPacket) {request : Bytes} (hpacket : packet ∈ [.data, .cancel])
      (hopens : packet.encode <+: request) : Step .waiting (.said request) .waiting
  | goOn {kind : ServerPacket} (hkind : kind ∈ part) : Step .waiting (.heard kind) .waiting
  | finish {kind : ServerPacket} (hkind : kind ∈ ending) : Step .waiting (.heard kind) .resting

/-- What may happen from one phase to another. -/
inductive Moves : Phase → List Event → Phase → Prop
  | nil {p : Phase} : Moves p [] p
  | cons {p q r : Phase} {event : Event} {events : List Event} (hstep : Step p event q)
      (hrest : Moves q events r) : Moves p (event :: events) r

namespace Moves

variable {p q r : Phase} {event : Event} {events events' : List Event} {ks : List ServerPacket}

theorem single (h : Step p event q) : Moves p [event] q := .cons h .nil

theorem append (h : Moves p events q) (h' : Moves q events' r) : Moves p (events ++ events') r := by
  induction h with
  | nil => exact h'
  | cons hstep _ ih => exact .cons hstep (ih h')

/-- Packets in front of the end of an answer. -/
theorem parts (h : ∀ k ∈ ks, k ∈ part) : Moves .waiting (ks.map .heard) .waiting := by
  induction ks with
  | nil => exact .nil
  | cons k ks ih =>
    obtain ⟨hk, hks⟩ := List.forall_mem_cons.mp h
    exact .cons (.goOn hk) (ih hks)

/-- What happens last. -/
theorem of_concat (h : Moves p (events ++ [event]) r) : ∃ q, Moves p events q ∧ Step q event r := by
  induction events generalizing p with
  | nil =>
    cases h with
    | cons hstep hrest =>
      cases hrest
      exact ⟨p, .nil, hstep⟩
  | cons first events ih =>
    cases h with
    | cons hstep hrest =>
      obtain ⟨q, hmoves, hlast⟩ := ih hrest
      exact ⟨q, .cons hstep hmoves, hlast⟩

/-- **What was heard since the last request** are parts of an answer, and behind them its end if
nothing is waited for any more. -/
theorem since (h : Moves .resting events r) (hne : events ≠ []) :
    ∃ before request, ∃ ks last : List ServerPacket,
      events = before ++ .said request :: (ks ++ last).map .heard ∧ (∀ k ∈ ks, k ∈ part) ∧
      (r = .waiting ∧ last = [] ∨ r = .resting ∧ ∃ kind ∈ ending, last = [kind]) := by
  induction events using List.reverseRecOn generalizing r with
  | nil => exact absurd rfl hne
  | append_singleton events event ih =>
    obtain ⟨q, hmoves, hstep⟩ := h.of_concat
    -- Behind a request nothing has been heard; behind a packet more has been heard than before.
    have hwaiting : q = .waiting → ∃ before request, ∃ ks : List ServerPacket,
        events = before ++ .said request :: ks.map .heard ∧ ∀ k ∈ ks, k ∈ part := by
      rintro rfl
      have hevents : events ≠ [] := by
        rintro rfl
        cases hmoves
      obtain ⟨before, request, ks, last, hsplit, hparts, ⟨-, rfl⟩ | ⟨habsurd, -⟩⟩ := ih hmoves hevents
      · exact ⟨before, request, ks, by rw [hsplit, List.append_nil], hparts⟩
      · cases habsurd
    cases hstep with
    | ask packet hpacket hopens =>
      exact ⟨events, _, [], [], rfl, List.forall_mem_nil _, .inl ⟨rfl, rfl⟩⟩
    | add packet hpacket hopens =>
      exact ⟨events, _, [], [], rfl, List.forall_mem_nil _, .inl ⟨rfl, rfl⟩⟩
    | @goOn kind hkind =>
      obtain ⟨before, request, ks, hsplit, hparts⟩ := hwaiting rfl
      refine ⟨before, request, ks ++ [kind], [], ?_, ?_, .inl ⟨rfl, rfl⟩⟩
      · simp [hsplit]
      · exact List.forall_mem_append.mpr ⟨hparts, List.forall_mem_singleton.mpr hkind⟩
    | @finish kind hkind =>
      obtain ⟨before, request, ks, hsplit, hparts⟩ := hwaiting rfl
      refine ⟨before, request, ks, [kind], ?_, hparts, .inr ⟨rfl, kind, hkind, rfl⟩⟩
      simp [hsplit]

end Moves

end Phase

namespace Connection

open Event

variable {σ α β : Type}

/-- Write a request and hand it over. -/
def say (bs : Bytes) : Dialogue σ Unit := do
  write bs
  flush

/-- Whatever is in the writer is sent as one piece, or not at all. -/
theorem flush_cases (c : Connection σ) :
    (∃ c', flush c = .ok () c' ∧ c'.writer.bytes = [] ∧ c'.sent = c.sent ++ [c.writer.bytes] ∧
      c'.marks = c.marks ++ [c.reader] ∧ c'.reader = c.reader ∧ c'.id = c.id ∧ c'.server = c.server) ∨
    ∃ e c', flush c = .error e c' ∧ e.spoilsConnection = true ∧ c'.sent = c.sent ∧ c'.id = c.id := by
  unfold flush Writer.flush
  cases hbytes : c.writer.bytes with
  | nil => exact .inl ⟨_, rfl, hbytes, rfl, rfl, rfl, rfl, rfl⟩
  | cons b bs =>
    cases c.sinks.headD .ready with
    | ready => exact .inl ⟨_, rfl, rfl, rfl, rfl, rfl, rfl, rfl⟩
    | silent => exact .inr ⟨_, _, rfl, rfl, rfl, rfl⟩
    | broken fault => exact .inr ⟨_, _, rfl, rfl, rfl, rfl⟩

/-- A request that is said over an empty writer is what is sent. -/
theorem say_eq_ok {bs : Bytes} {c c' : Connection σ} (hempty : c.writer.bytes = [])
    (h : say bs c = .ok () c') : c'.writer.bytes = [] ∧ c'.sent = c.sent ++ [bs] ∧
      c'.marks = c.marks ++ [c.reader] ∧ c'.reader = c.reader ∧ c'.id = c.id ∧ c'.server = c.server := by
  obtain ⟨u, c₁, hwrite, hflush⟩ := bind_eq_ok.mp h
  cases hwrite
  rcases flush_cases { c with writer := c.writer.append bs } with
    ⟨c₂, hok, hwriter, hsent, hrest⟩ | ⟨e, c₂, herror, -⟩
  · rw [hok] at hflush
    cases hflush
    refine ⟨hwriter, ?_, hrest⟩
    rw [hsent, Writer.append, hempty, List.nil_append]
  · rw [herror] at hflush
    cases hflush

/-- A request that cannot be handed over is not sent at all. -/
theorem say_eq_error {bs : Bytes} {c c' : Connection σ} {e : Error} (h : say bs c = .error e c') :
    e.spoilsConnection = true ∧ c'.sent = c.sent ∧ c'.id = c.id := by
  rcases bind_eq_error.mp h with hwrite | ⟨u, c₁, hwrite, hflush⟩
  · cases hwrite
  · cases hwrite
    rcases flush_cases { c with writer := c.writer.append bs } with
      ⟨c₂, hok, -⟩ | ⟨e', c₂, herror, hspoils, hsent, hid⟩
    · rw [hok] at hflush
      cases hflush
    · rw [herror] at hflush
      cases hflush
      exact ⟨hspoils, hsent, hid⟩

end Connection

section Lives

open Event Connection

variable {σ : Type} [Source σ] {config : Config} {network : Network σ}

/-! ## Lives -/

variable (config network) in
/-- The connection was made anew, and since then the events have happened on it and nothing else. -/
inductive Life : List Event → Connection σ → Prop
  | dialled {id : Nat} {peer : Peer σ} {now : Duration} (hpeer : network id = .connected peer) :
      Life [] (.fresh config id peer now)
  | said {events : List Event} {c c' : Connection σ} {bs : Bytes} (h : Life events c)
      (hsay : say bs c = .ok () c') : Life (events ++ [.said bs]) c'
  | heard {events : List Event} {c : Connection σ} {kind : ServerPacket} {rd : Reader σ}
      (h : Life events c) (hheard : Hears config.exceptionDepth.toNat kind c.reader rd) :
      Life (events ++ [.heard kind]) { c with reader := rd }
  /-- The server has said who it is. -/
  | greeted {events : List Event} {c : Connection σ} {server : ServerInfo} {rd₁ rd : Reader σ}
      (h : Life events c) (hcode : Decoder.varint c.reader = .ok ServerPacket.hello.code rd₁)
      (hread : ServerInfo.read rd₁ = .ok server rd) :
      Life (events ++ [.heard .hello]) { c with reader := rd, server := some server }
  | rested {events : List Event} {c : Connection σ} {now : Duration} (h : Life events c) :
      Life events { c with lastUsed := now }

namespace Life

variable {events : List Event} {c : Connection σ}

theorem writer_empty (h : Life config network events c) : c.writer.bytes = [] := by
  induction h with
  | dialled hpeer => rfl
  | said h hsay ih => exact (say_eq_ok ih hsay).1
  | heard _ _ ih | greeted _ _ _ ih | rested _ ih => exact ih

theorem outside (h : Life config network events c) : c.reader.Outside := by
  induction h with
  | dialled hpeer => rfl
  | said h hsay ih =>
    obtain ⟨-, -, -, hreader, -⟩ := say_eq_ok h.writer_empty hsay
    exact hreader ▸ ih
  | heard h hheard ih => exact hheard.outside ih
  | @greeted events c server rd₁ rd h hcode hread ih =>
    have hheard : Hears config.exceptionDepth.toNat .hello c.reader rd := ⟨rd₁, hcode, server, hread⟩
    exact hheard.outside ih
  | rested _ ih => exact ih

/-- **What was sent is what was said**, request by request. -/
theorem sent_eq (h : Life config network events c) : c.sent = requests events := by
  induction h with
  | dialled hpeer => rfl
  | said h hsay ih =>
    obtain ⟨-, hsent, -⟩ := say_eq_ok h.writer_empty hsay
    rw [hsent, ih, requests_append, requests_said]
  | @heard events c kind rd h hheard ih =>
    have hnone : requests [.heard kind] = [] := requests_heard [kind]
    rw [requests_append, hnone, List.append_nil]
    exact ih
  | @greeted events c server rd₁ rd h hcode hread ih =>
    have hnone : requests [.heard .hello] = [] := requests_heard [.hello]
    rw [requests_append, hnone, List.append_nil]
    exact ih
  | rested _ ih => exact ih

/-- There is a mark for every request. -/
theorem length_marks (h : Life config network events c) : c.marks.length = (requests events).length := by
  rw [← h.sent_eq]
  induction h with
  | dialled hpeer => rfl
  | said h hsay ih =>
    obtain ⟨-, hsent, hmarks, -⟩ := say_eq_ok h.writer_empty hsay
    rw [hsent, hmarks, List.length_append, List.length_append, ih]
    rfl
  | heard _ _ ih | greeted _ _ _ ih | rested _ ih => exact ih

/-- What has been heard since a request goes on with the next packet. -/
theorem since_concat {limit : Nat} {kind : ServerPacket} {before after : List Event} {request : Bytes}
    {marks : List (Reader σ)} {rd rd' : Reader σ} (hheard : Hears limit kind rd rd')
    (hsplit : events ++ [.heard kind] = before ++ .said request :: after)
    (ih : ∀ {after}, events = before ++ .said request :: after →
      ∃ mark, marks[(requests before).length]? = some mark ∧ HearsAll limit (kinds after) mark rd) :
    ∃ mark, marks[(requests before).length]? = some mark ∧ HearsAll limit (kinds after) mark rd' := by
  rcases split_concat hsplit with ⟨-, habsurd, -⟩ | ⟨after', rfl, hevents⟩
  · cases habsurd
  · obtain ⟨mark, hmark, hall⟩ := ih hevents
    refine ⟨mark, hmark, ?_⟩
    rw [kinds_append]
    exact hall.append (.single hheard)

/-- **What has been heard since a request** stands behind the place where the reader stood when the
request was handed over, packet by packet, up to where it stands now. -/
theorem heard_since (h : Life config network events c) {before after : List Event} {request : Bytes}
    (hsplit : events = before ++ .said request :: after) :
    ∃ mark, c.marks[(requests before).length]? = some mark ∧
      HearsAll config.exceptionDepth.toNat (kinds after) mark c.reader := by
  induction h generalizing after with
  | dialled hpeer => simp at hsplit
  | @said events c c' bs h hsay ih =>
    obtain ⟨-, -, hmarks, hreader, -⟩ := say_eq_ok h.writer_empty hsay
    rw [hmarks, hreader]
    rcases split_concat hsplit with ⟨rfl, -, rfl⟩ | ⟨after', rfl, hevents⟩
    · refine ⟨c.reader, ?_, .nil⟩
      rw [← h.length_marks, List.getElem?_concat_length]
    · obtain ⟨mark, hmark, hall⟩ := ih hevents
      have hlt := (List.getElem?_eq_some_iff.mp hmark).1
      refine ⟨mark, (List.getElem?_append_left hlt).trans hmark, ?_⟩
      rw [kinds_append]
      exact hall.append .nil
  | heard h hheard ih => exact since_concat hheard hsplit ih
  | @greeted events c server rd₁ rd h hcode hread ih =>
    have hheard : Hears config.exceptionDepth.toNat .hello c.reader rd := ⟨rd₁, hcode, server, hread⟩
    exact since_concat hheard hsplit ih
  | rested _ ih => exact ih hsplit

/-- So it is with the last request. -/
theorem heard_last (h : Life config network events c) {before : List Event} {request : Bytes}
    {ks : List ServerPacket} (hsplit : events = before ++ .said request :: ks.map .heard) :
    ∃ mark, c.marks.getLast? = some mark ∧
      HearsAll config.exceptionDepth.toNat ks mark c.reader := by
  obtain ⟨mark, hmark, hall⟩ := h.heard_since hsplit
  have hlength := h.length_marks
  rw [hsplit, requests_append, ← List.singleton_append, requests_append, requests_said, requests_heard,
    List.append_nil, List.length_append, List.length_singleton] at hlength
  refine ⟨mark, ?_, ?_⟩
  · rw [List.getLast?_eq_getElem?, hlength, Nat.add_sub_cancel]
    exact hmark
  · rwa [kinds_heard] at hall

theorem hearAll (h : Life config network events c) {ks : List ServerPacket} {rd : Reader σ}
    (hheard : HearsAll config.exceptionDepth.toNat ks c.reader rd) :
    Life config network (events ++ ks.map .heard) { c with reader := rd } := by
  induction ks generalizing events c with
  | nil =>
    cases hheard
    rw [List.map_nil, List.append_nil]
    exact h
  | cons kind ks ih =>
    cases hheard with
    | cons hfirst hrest =>
      have hlife := ih (h.heard hfirst) hrest
      rwa [List.append_assoc, List.singleton_append, ← List.map_cons] at hlife

end Life

variable (config network) in
/-- The connection went through the events; since then it may have broken, but has sent nothing. -/
def Past (events : List Event) (c : Connection σ) : Prop :=
  ∃ alive, Life config network events alive ∧ c.sent = alive.sent

theorem Life.past {events : List Event} {c : Connection σ} (h : Life config network events c) :
    Past config network events c := ⟨c, h, rfl⟩

theorem Past.sent_eq {events : List Event} {c : Connection σ} (h : Past config network events c) :
    c.sent = requests events := by
  obtain ⟨alive, hlife, hsent⟩ := h
  rw [hsent, hlife.sent_eq]

end Lives

end ColumnWire
