import ColumnWire.Reply

/-!
# Replies packet by packet

A reply is its first packet and, if the policy goes on after it, the reply that follows.
-/
namespace ColumnWire.Policy

variable {σ α : Type} [Source σ] {p : Policy α} {limit : Nat} {s s' : Reader σ × Tray}

theorem run_of_goOn (h : p.packet limit s = .ok none s') : p.run limit s = p.run limit s' := by
  rw [run]
  split
  · next hpacket => rw [h] at hpacket; cases hpacket
  · next hpacket => rw [h] at hpacket; cases hpacket
  · next hpacket => rw [h] at hpacket; cases hpacket; rfl

theorem run_of_done {value : α} (h : p.packet limit s = .ok (some value) s') :
    p.run limit s = .ok value s' := by
  rw [run]
  split
  · next hpacket => rw [h] at hpacket; cases hpacket
  · next hpacket => rw [h] at hpacket; cases hpacket; rfl
  · next hpacket => rw [h] at hpacket; cases hpacket

theorem run_of_error {e : Error} (h : p.packet limit s = .error e s') :
    p.run limit s = .error e s' := by
  rw [run]
  split
  · next hpacket => rw [h] at hpacket; cases hpacket; rfl
  · next hpacket => rw [h] at hpacket; cases hpacket
  · next hpacket => rw [h] at hpacket; cases hpacket

end ColumnWire.Policy
