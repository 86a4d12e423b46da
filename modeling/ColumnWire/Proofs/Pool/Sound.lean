import ColumnWire.Proofs.Connection.Greet

/-!
# Pools whose idle connections are settled

A ledger tells for each number of a connection what has happened on it. A pool is `Sound` for a
ledger if its idle connections are settled there, those it has closed are past, and no number
stands for two connections; the numbers of connections that somebody holds are a list beside
the pool. Every change of a pool is a rearrangement of these numbers (`Sound.rearrange`), and
only what somebody holds can gain new events (`Sound.add`).
-/
namespace ColumnWire

open Event Connection

/-- What has happened on each connection, by its number. -/
abbrev Ledger := Nat → List Event

namespace Ledger

variable {asked asked₁ asked₂ : List Bytes} {held : List Nat} {ledger ledger₁ ledger₂ : Ledger}
  {n : Nat}

/-- More has happened on one connection. -/
def add (n : Nat) (new : List Event) (ledger : Ledger) : Ledger := fun m =>
  if m = n then ledger m ++ new else ledger m

@[simp] theorem add_self (n : Nat) (new : List Event) (ledger : Ledger) :
    ledger.add n new n = ledger n ++ new := if_pos rfl

theorem add_of_ne {m : Nat} (h : m ≠ n) (new : List Event) (ledger : Ledger) :
    ledger.add n new m = ledger m := if_neg h

/-- The second ledger tells more than the first: on no connection was more said than what was asked
for, and nothing has happened on those that others hold. -/
def Extends (asked : List Bytes) (held : List Nat) (ledger ledger' : Ledger) : Prop :=
  ∀ n, ∃ new, ledger' n = ledger n ++ new ∧ (requests new).Sublist asked ∧ (n ∈ held → new = [])

namespace Extends

protected theorem refl (asked : List Bytes) (held : List Nat) (ledger : Ledger) :
    Extends asked held ledger ledger :=
  fun _ => ⟨[], (List.append_nil _).symm, List.nil_sublist _, fun _ => rfl⟩

protected theorem trans (h₁ : Extends asked₁ held ledger ledger₁)
    (h₂ : Extends asked₂ held ledger₁ ledger₂) : Extends (asked₁ ++ asked₂) held ledger ledger₂ := by
  intro n
  obtain ⟨first, hfirst, hasked₁, hheld₁⟩ := h₁ n
  obtain ⟨second, hsecond, hasked₂, hheld₂⟩ := h₂ n
  refine ⟨first ++ second, ?_, ?_, ?_⟩
  · rw [hsecond, hfirst, List.append_assoc]
  · rw [requests_append]
    exact hasked₁.append hasked₂
  · intro hn
    rw [hheld₁ hn, hheld₂ hn, List.append_nil]

theorem weaken (h : Extends asked₁ held ledger ledger₁) (hasked : asked₁.Sublist asked₂) :
    Extends asked₂ held ledger ledger₁ := by
  intro n
  obtain ⟨new, hnew, hsub, hheld⟩ := h n
  exact ⟨new, hnew, hsub.trans hasked, hheld⟩

/-- What nobody holds may have changed as well. -/
theorem others {held' : List Nat} (h : Extends asked held ledger ledger₁) (hheld : held' ⊆ held) :
    Extends asked held' ledger ledger₁ := by
  intro n
  obtain ⟨new, hnew, hasked, hkept⟩ := h n
  exact ⟨new, hnew, hasked, fun hn => hkept (hheld hn)⟩

theorem add {new : List Event} (hnew : (requests new).Sublist asked) (hn : n ∉ held) :
    Extends asked held ledger (ledger.add n new) := by
  intro m
  by_cases hm : m = n
  · subst hm
    exact ⟨new, add_self m new ledger, hnew, fun hheld => absurd hheld hn⟩
  · refine ⟨[], ?_, List.nil_sublist _, fun _ => rfl⟩
    rw [add_of_ne hm, List.append_nil]

/-- What others hold is as it was. -/
theorem eq_of_mem (h : Extends asked held ledger ledger₁) (hn : n ∈ held) : ledger₁ n = ledger n := by
  obtain ⟨new, hnew, -, hheld⟩ := h n
  rw [hnew, hheld hn, List.append_nil]

end Extends

end Ledger

namespace Pool

variable {σ : Type} [Source σ] {config : Config} {network : Network σ} {ledger : Ledger}
  {held held' : List Nat} {p p' : Pool σ} {c : Connection σ}

omit [Source σ] in
/-- The numbers of all connections: those that are held, and those that the pool has or had. -/
def ids (held : List Nat) (p : Pool σ) : List Nat :=
  held ++ (p.idle.map (·.id) ++ p.departed.map (·.id))

variable (config network) in
/-- Idle connections are settled, closed ones are past, and each has a number of its own. -/
structure Sound (ledger : Ledger) (held : List Nat) (p : Pool σ) : Prop where
  idle : ∀ c ∈ p.idle, Settled config network (ledger c.id) c
  departed : ∀ c ∈ p.departed, Past config network (ledger c.id) c
  distinct : (p.ids held).Nodup
  numbered : ∀ n ∈ p.ids held, n < p.nextId
  known : ∀ n, ledger n ≠ [] → n ∈ p.ids held

namespace Sound

theorem ofSize (size : Nat) : Sound config network (fun _ => []) [] (.ofSize size) where
  idle := List.forall_mem_nil _
  departed := List.forall_mem_nil _
  distinct := List.nodup_nil
  numbered := List.forall_mem_nil _
  known _ h := absurd rfl h

/-- Connections change hands, and nothing happens on them. -/
theorem rearrange (h : Sound config network ledger held p) (hperm : (p'.ids held').Perm (p.ids held))
    (hnext : p'.nextId = p.nextId) (hidle : ∀ c ∈ p'.idle, Settled config network (ledger c.id) c)
    (hdeparted : ∀ c ∈ p'.departed, Past config network (ledger c.id) c) :
    Sound config network ledger held' p' where
  idle := hidle
  departed := hdeparted
  distinct := hperm.nodup_iff.mpr h.distinct
  numbered n hn := by
    rw [hnext]
    exact h.numbered n (hperm.mem_iff.mp hn)
  known n hn := hperm.mem_iff.mpr (h.known n hn)

/-- Something happens on a connection that is held. -/
theorem add {n : Nat} (h : Sound config network ledger (n :: held) p) (new : List Event) :
    Sound config network (ledger.add n new) (n :: held) p := by
  have hother : ∀ m ∈ held ++ (p.idle.map (·.id) ++ p.departed.map (·.id)), m ≠ n := by
    intro m hm heq
    exact (List.nodup_cons.mp h.distinct).1 (heq ▸ hm)
  refine ⟨?_, ?_, h.distinct, h.numbered, ?_⟩
  · intro c hc
    rw [Ledger.add_of_ne (hother _ (by simp [List.mem_map_of_mem hc]))]
    exact h.idle c hc
  · intro c hc
    rw [Ledger.add_of_ne (hother _ (by simp [List.mem_map_of_mem hc]))]
    exact h.departed c hc
  · intro m hm
    by_cases heq : m = n
    · exact heq ▸ List.mem_cons_self
    · rw [Ledger.add_of_ne heq] at hm
      exact h.known m hm

/-- Nothing is known of a number that has not been given out. -/
theorem unknown_nextId (h : Sound config network ledger held p) : ledger p.nextId = [] := by
  by_cases hempty : ledger p.nextId = []
  · exact hempty
  · exact absurd (h.numbered _ (h.known _ hempty)) (Nat.lt_irrefl _)

/-! ## Indivisible changes -/

theorem number (h : Sound config network ledger held p) :
    Sound config network ledger (p.number.1 :: held) p.number.2 where
  idle := h.idle
  departed := h.departed
  distinct := List.nodup_cons.mpr ⟨fun hmem => Nat.lt_irrefl _ (h.numbered _ hmem), h.distinct⟩
  numbered n hn := by
    rcases List.mem_cons.mp hn with rfl | hn
    · exact Nat.lt_succ_self _
    · exact Nat.lt_succ_of_lt (h.numbered n hn)
  known n hn := List.mem_cons_of_mem _ (h.known n hn)

/-- A number on which nothing has happened may be forgotten. -/
theorem forget {n : Nat} (h : Sound config network ledger (n :: held) p) (hn : ledger n = []) :
    Sound config network ledger held p where
  idle := h.idle
  departed := h.departed
  distinct := (List.nodup_cons.mp h.distinct).2
  numbered m hm := h.numbered m (List.mem_cons_of_mem _ hm)
  known m hm := by
    rcases List.mem_cons.mp (h.known m hm) with rfl | hmem
    · exact absurd hn hm
    · exact hmem

theorem giveSlot (h : Sound config network ledger held p) :
    Sound config network ledger held p.giveSlot :=
  h.rearrange (.refl _) rfl h.idle h.departed

theorem takeSlot (h : Sound config network ledger held p) (hslot : p.takeSlot = .granted p') :
    Sound config network ledger held p' := by
  unfold Pool.takeSlot at hslot
  split at hslot
  · cases hslot
  · split at hslot
    · cases hslot
    · cases hslot
      exact h.rearrange (.refl _) rfl h.idle h.departed

theorem pop (h : Sound config network ledger held p) (hpop : p.pop = some (c, p')) :
    Sound config network ledger (c.id :: held) p' ∧ Settled config network (ledger c.id) c := by
  obtain ⟨idle, hidle, rfl⟩ := Pool.pop_eq_some hpop
  have hsettled := h.idle
  rw [hidle] at hsettled
  refine ⟨h.rearrange ?_ rfl ?_ h.departed, hsettled c List.mem_cons_self⟩
  · rw [ids, ids, hidle, List.map_cons, List.cons_append]
    exact List.perm_middle.symm
  · intro c' hc'
    exact hsettled c' (List.mem_cons_of_mem _ hc')

theorem push (h : Sound config network ledger (c.id :: held) p)
    (hsettled : Settled config network (ledger c.id) c) :
    Sound config network ledger held (p.push c) := by
  refine h.rearrange List.perm_middle rfl ?_ h.departed
  intro c' hc'
  rcases List.mem_cons.mp hc' with rfl | hc'
  · exact hsettled
  · exact h.idle c' hc'

theorem depart (h : Sound config network ledger (c.id :: held) p)
    (hpast : Past config network (ledger c.id) c) :
    Sound config network ledger held (p.depart c) := by
  refine h.rearrange ?_ rfl h.idle ?_
  · show (held ++ (p.idle.map (·.id) ++ c.id :: p.departed.map (·.id))).Perm
      (c.id :: (held ++ (p.idle.map (·.id) ++ p.departed.map (·.id))))
    rw [← List.append_assoc, ← List.append_assoc]
    exact List.perm_middle
  · intro c' hc'
    rcases List.mem_cons.mp hc' with rfl | hc'
    · exact hpast
    · exact h.departed c' hc'

theorem close (h : Sound config network ledger held p) :
    Sound config network ledger held p.close := by
  refine h.rearrange ?_ rfl (List.forall_mem_nil _) ?_
  · simp [ids, Pool.close, raiseFlag, closeSlots, clearIdle]
  · intro c hc
    rcases List.mem_append.mp hc with hidle | hdeparted
    · exact (h.idle c hidle).life.past
    · exact h.departed c hdeparted

/-! ## Changes in order -/

/-- The connection that is chosen is settled; those that have expired have departed. -/
theorem choose (h : Sound config network ledger held p) (isExpired : Connection σ → Bool) :
    match p.choose isExpired with
    | (none, p') => Sound config network ledger held p'
    | (some c, p') =>
      Sound config network ledger (c.id :: held) p' ∧ Settled config network (ledger c.id) c := by
  fun_induction Pool.choose isExpired p with
  | case1 p hpop => exact h
  | case2 p c p' hpop hexpired ih =>
    obtain ⟨hsound, hsettled⟩ := h.pop hpop
    exact ih (hsound.depart hsettled.life.past)
  | case3 p c p' hpop hexpired => exact h.pop hpop

theorem remove (h : Sound config network ledger (c.id :: held) p)
    (hpast : Past config network (ledger c.id) c) :
    Sound config network ledger held (p.remove c) := (h.depart hpast).giveSlot

/-- **What comes back is settled, or it is not kept.** -/
theorem release {now : Duration} {failure : Option Error}
    (h : Sound config network ledger (c.id :: held) p)
    (hpast : Past config network (ledger c.id) c)
    (hsettled : failure.any Error.spoilsConnection = false → Settled config network (ledger c.id) c) :
    Sound config network ledger held (p.release now failure c) := by
  unfold Pool.release
  by_cases hspoils : failure.any Error.spoilsConnection = true
  · rw [if_pos hspoils]
    exact h.remove hpast
  · rw [if_neg hspoils]
    by_cases hclosed : p.closed = true
    · rw [if_pos hclosed]
      exact h.remove hpast
    · rw [if_neg hclosed]
      have hrested := hsettled (Bool.eq_false_iff.mpr hspoils)
      have hlater : Settled config network (ledger c.id) { c with lastUsed := now } :=
        ⟨hrested.life.rested, hrested.greeted.congr rfl rfl, hrested.course⟩
      exact (push (c := { c with lastUsed := now }) h hlater).giveSlot

end Sound

end Pool

end ColumnWire
