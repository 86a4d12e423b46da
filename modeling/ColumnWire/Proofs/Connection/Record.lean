import ColumnWire.Proofs.Connection.Life

/-!
# The record of a connection is its only one

A connection tells what was said and heard on it, and in which order (`Life.unique`): it lists its
requests, its marks tell where the reader stood at each of them, and from one mark to the next the
bytes tell which packets were heard. So nothing that is said of some record of a connection is said
of a record in another order.
-/
namespace ColumnWire

open Event Connection

variable {σ : Type} [Source σ]

/-- From one position to the other the events can be played, with a mark for each request. -/
inductive Played (limit : Nat) :
    (start : Reader σ) → (marks : List (Reader σ)) → List Event → (stop : Reader σ) → Prop
  | nil {rd : Reader σ} : Played limit rd [] [] rd
  | said {rd stop : Reader σ} {marks : List (Reader σ)} {request : Bytes} {events : List Event}
      (hrest : Played limit rd marks events stop) :
      Played limit rd (rd :: marks) (.said request :: events) stop
  | heard {rd rd₁ stop : Reader σ} {marks : List (Reader σ)} {kind : ServerPacket} {events : List Event}
      (hfirst : Hears limit kind rd rd₁) (hrest : Played limit rd₁ marks events stop) :
      Played limit rd marks (.heard kind :: events) stop

namespace Played

variable {limit : Nat} {start stop stop' : Reader σ} {marks : List (Reader σ)}
  {events events' : List Event} {request : Bytes} {kind : ServerPacket}

theorem concat_said (h : Played limit start marks events stop) :
    Played limit start (marks ++ [stop]) (events ++ [.said request]) stop := by
  induction h with
  | nil => exact .said .nil
  | said _ ih => exact .said ih
  | heard hfirst _ ih => exact .heard hfirst ih

theorem concat_heard (h : Played limit start marks events stop) (hheard : Hears limit kind stop stop') :
    Played limit start marks (events ++ [.heard kind]) stop' := by
  induction h with
  | nil => exact .heard hheard .nil
  | said _ ih => exact .said (ih hheard)
  | heard hfirst _ ih => exact .heard hfirst (ih hheard)

/-- No mark lies before the start, and neither does the end. -/
theorem left_le (h : Played limit start marks events stop) :
    ∀ rd ∈ marks ++ [stop], rd.left ≤ start.left := by
  induction h with
  | nil => exact List.forall_mem_singleton.mpr (Nat.le_refl _)
  | said _ ih => exact List.forall_mem_cons.mpr ⟨Nat.le_refl _, ih⟩
  | heard hfirst _ ih => exact fun rd hrd => Nat.le_trans (ih rd hrd) (Nat.le_of_lt hfirst.left)

/-- Behind a packet the place in front of it is neither a mark nor the end. -/
theorem not_mem_heard {rd : Reader σ} (hfirst : Hears limit kind start rd)
    (hrest : Played limit rd marks events stop) : start ∉ marks ++ [stop] := by
  intro hmem
  have hle := hrest.left_le start hmem
  have hlt := hfirst.left
  omega

/-- Marks, requests and the two ends settle what was played. -/
theorem unique (h : Played limit start marks events stop) (h' : Played limit start marks events' stop)
    (hrequests : requests events = requests events') : events = events' := by
  induction h generalizing events' with
  | nil =>
    cases h' with
    | nil => rfl
    | heard hfirst hrest => exact absurd List.mem_cons_self (not_mem_heard hfirst hrest)
  | said hrest ih =>
    cases h' with
    | said hrest' =>
      obtain ⟨hrequest, hlater⟩ := List.cons.inj hrequests
      rw [ih hrest' hlater, hrequest]
    | heard hfirst' hrest' => exact absurd List.mem_cons_self (not_mem_heard hfirst' hrest')
  | heard hfirst hrest ih =>
    cases h' with
    | nil => exact absurd List.mem_cons_self (not_mem_heard hfirst hrest)
    | said hrest' => exact absurd List.mem_cons_self (not_mem_heard hfirst hrest)
    | heard hfirst' hrest' =>
      obtain ⟨rfl, rfl⟩ := hfirst.unique hfirst'
      rw [ih hrest' hrequests]

end Played

namespace Life

variable {config : Config} {network : Network σ} {events events' : List Event} {c : Connection σ}

/-- A life can be played from the place where the connection was made. -/
theorem played (h : Life config network events c) : ∃ peer, network c.id = .connected peer ∧
    Played config.exceptionDepth.toNat (Connection.fresh config c.id peer ⟨0⟩).reader c.marks events
      c.reader := by
  induction h with
  | @dialled id peer now hpeer => exact ⟨peer, hpeer, .nil⟩
  | said h hsay ih =>
    obtain ⟨peer, hpeer, hplayed⟩ := ih
    obtain ⟨-, -, hmarks, hreader, hid, -⟩ := say_eq_ok h.writer_empty hsay
    rw [hmarks, hreader, hid]
    exact ⟨peer, hpeer, hplayed.concat_said⟩
  | heard h hheard ih =>
    obtain ⟨peer, hpeer, hplayed⟩ := ih
    exact ⟨peer, hpeer, hplayed.concat_heard hheard⟩
  | @greeted events c server rd₁ rd h hcode hread ih =>
    obtain ⟨peer, hpeer, hplayed⟩ := ih
    exact ⟨peer, hpeer, hplayed.concat_heard ⟨rd₁, hcode, server, hread⟩⟩
  | rested _ ih => exact ih

/-- **A connection has one record**: what was said and heard on it, and in which order, is settled. -/
theorem unique (h : Life config network events c) (h' : Life config network events' c) :
    events = events' := by
  obtain ⟨peer, hpeer, hplayed⟩ := h.played
  obtain ⟨peer', hpeer', hplayed'⟩ := h'.played
  obtain rfl := Dial.connected.inj (hpeer.symm.trans hpeer')
  exact hplayed.unique hplayed' (h.sent_eq.symm.trans h'.sent_eq)

end Life

end ColumnWire
