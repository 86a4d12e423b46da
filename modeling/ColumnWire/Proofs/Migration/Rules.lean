import ColumnWire.Migration.Migrator
import ColumnWire.Proofs.Migration.Meets

/-!
# Rules for the parts of a migrator

One rule for each part of a migrator's plans, for any state that is watched: what has to be known
of the calls that the part makes, and what follows for the part. The loops over migrations carry
an invariant that speaks of the migrations still to come.
-/
namespace ColumnWire

open Plan

variable {α β τ ε : Type} {effect : Effect τ} {allowed : Call → τ → Prop} {t : τ}

/-- The calls that a step makes if none of them fails. -/
def Step.calls : Option Step → List Call
  | none => []
  | some (.sql text) => (Statement.split text).map .exec
  | some (.custom label) => [.custom label]

theorem Registry.sorted_perm (r : Registry) : r.sorted.Perm r.migrations := List.mergeSort_perm _ _

namespace Migrator

variable {ok ok' : α → τ → Prop} {failed : MigrateError → τ → Prop} {m : Migrator} {u : Migration}

/-! ## Calls -/

theorem meets_require {c : Call} {ok : c.Answer → τ → Prop} (hallowed : allowed c t)
    (hok : ∀ a t', effect c (.ok a) t t' → ok a t')
    (hfailed : ∀ e t', effect c (.error e) t t' → failed (.database e) t') :
    MeetsEither effect allowed ok failed (require c) t := by
  refine ⟨hallowed, ?_⟩
  intro answer t' heffect
  cases answer with
  | ok a => exact hok a t' heffect
  | error e => exact hfailed e t' heffect

theorem meets_outcome {x : ExceptT Error Plan α} {after : Except Error α → τ → Prop}
    (h : Meets effect allowed after x.run t) :
    MeetsEither effect allowed after failed (outcome x) t :=
  Meets.bind h fun _ _ hr => hr

/-- Statements are run in order up to the first that fails; `K` tells how things are after the calls
made so far. -/
theorem meets_execAll {K : List Call → τ → Prop} {statements : List String}
    (hcall : ∀ made call t, made ++ [call] <+: statements.map .exec → K made t →
      allowed call t ∧ ∀ answer t', effect call answer t t' → K (made ++ [call]) t')
    (h : K [] t) :
    Meets effect allowed (fun _ t' => ∃ made, made <+: statements.map .exec ∧ K made t')
      (execAll statements).run t := by
  induction statements generalizing K t with
  | nil => exact ⟨[], List.nil_prefix, h⟩
  | cons sql statements ih =>
    have hfirst : [Call.exec sql] <+: (sql :: statements).map .exec := ⟨statements.map .exec, rfl⟩
    obtain ⟨hallowed, hnext⟩ := hcall [] (.exec sql) t hfirst h
    refine ⟨hallowed, ?_⟩
    intro answer t' heffect
    have hmade := hnext answer t' heffect
    cases answer with
    | error e => exact ⟨_, hfirst, hmade⟩
    | ok a =>
      -- What is made from here on comes behind the first call.
      have hrest := ih (K := fun made => K (.exec sql :: made))
        (fun made call t hwithin => hcall (.exec sql :: made) call t
          ((List.prefix_cons_inj _).mpr hwithin)) hmade
      refine hrest.mono ?_
      rintro r t'' ⟨made, hwithin, hK⟩
      exact ⟨.exec sql :: made, (List.prefix_cons_inj _).mpr hwithin, hK⟩

/-- A step makes its calls in order up to the first that fails. -/
theorem meets_runStep {K : List Call → τ → Prop} {step : Option Step}
    (hcall : ∀ made call t, made ++ [call] <+: Step.calls step → K made t →
      allowed call t ∧ ∀ answer t', effect call answer t t' → K (made ++ [call]) t')
    (h : K [] t) :
    Meets effect allowed (fun _ t' => ∃ made, made <+: Step.calls step ∧ K made t')
      (runStep step).run t := by
  match step with
  | none => exact ⟨[], List.nil_prefix, h⟩
  | some (.sql text) => exact meets_execAll hcall h
  | some (.custom label) =>
    obtain ⟨hallowed, hnext⟩ := hcall [] (.custom label) t List.prefix_rfl h
    exact ⟨hallowed, fun answer t' heffect => ⟨_, List.prefix_rfl, hnext answer t' heffect⟩⟩

/-! ## Marks -/

theorem meets_insertMark {ok : Unit → τ → Prop} {second sign : Int}
    (hin : 0 ≤ second → second < 4294967296 →
      let call := Call.insert m.insertSql (markBlock u second.toNat sign)
      allowed call t ∧ (∀ t', effect call (.ok ()) t t' → ok () t') ∧
        ∀ e t', effect call (.error e) t t' → failed (.database e) t')
    (hout : failed (.layout (.momentOutOfRange second)) t) :
    MeetsEither effect allowed ok failed (m.insertMark u second sign) t := by
  unfold insertMark
  split
  · next hrange =>
    obtain ⟨hallowed, hok, hfailed⟩ := hin hrange.1 hrange.2
    exact meets_require hallowed (fun _ => hok) hfailed
  · exact .throw hout

/-- A migration is marked as applied at the moment that the clock tells. -/
theorem meets_markApplied {ok : Migration → τ → Prop}
    (hin : ∀ second : Int, 0 ≤ second → second < 4294967296 →
      let call := Call.insert m.insertSql (markBlock { u with appliedAt := some second } second.toNat 1)
      allowed call t ∧
        (∀ t', effect call (.ok ()) t t' → ok { u with appliedAt := some second } t') ∧
        ∀ e t', effect call (.error e) t t' → failed (.database e) t')
    (hout : ∀ second, failed (.layout (.momentOutOfRange second)) t) :
    MeetsEither effect allowed ok failed (m.markApplied u) t := by
  refine MeetsEither.now fun second => ?_
  have hinsert : MeetsEither effect allowed (fun _ => ok { u with appliedAt := some second }) failed
      (m.insertMark { u with appliedAt := some second } second 1) t :=
    meets_insertMark (hin second) (hout second)
  exact hinsert.bind fun _ _ hok => .pure hok

/-- A migration is marked as undone with the moment that it has, or else that the clock tells. -/
theorem meets_markUnapplied {ok : Unit → τ → Prop}
    (hin : ∀ second : Int, (∀ known, u.appliedAt = some known → second = known) →
      0 ≤ second → second < 4294967296 →
      let call := Call.insert m.insertSql (markBlock u second.toNat (-1))
      allowed call t ∧ (∀ t', effect call (.ok ()) t t' → ok () t') ∧
        ∀ e t', effect call (.error e) t t' → failed (.database e) t')
    (hout : ∀ second, failed (.layout (.momentOutOfRange second)) t) :
    MeetsEither effect allowed ok failed (m.markUnapplied u) t := by
  unfold markUnapplied
  cases hat : u.appliedAt with
  | some second =>
    exact meets_insertMark (hin second fun known hknown => by simpa [hat] using hknown) (hout second)
  | none =>
    refine MeetsEither.now fun second => ?_
    exact meets_insertMark (hin second fun known hknown => by simp [hat] at hknown) (hout second)

/-- The step of a migration and then its mark. `S` holds between the two. -/
theorem meets_perform {S : τ → Prop} {name : String} {step : Option Step} {mark : Attempt α}
    (hstep : Meets effect allowed (fun _ => S) (runStep step).run t)
    (hmark : ∀ t', S t' → MeetsEither effect allowed ok failed mark t')
    (hskipped : ∀ e t', S t' → failed (.step name e) t')
    (hfailed : ∀ a e t', ok a t' → failed (.step name e) t') :
    MeetsEither effect allowed ok failed (m.perform name step mark) t := by
  refine MeetsEither.bind (meets_outcome hstep) ?_
  intro r t' hS
  cases r with
  | ok a => exact hmark t' hS
  | error e =>
    simp only
    split
    · exact .throw (hskipped e t' hS)
    · exact (hmark t' hS).bind fun a t'' hok => .throw (hfailed a e t'' hok)

/-! ## Migrations in order -/

/-- `K` tells how things are when so many migrations are still to be applied. -/
theorem meets_applyAll {K : List Migration → τ → Prop} {nop : Bool} {group : Int64}
    {us : List Migration}
    (hperform : ∀ u us t, K (u :: us) t → MeetsEither effect allowed (fun _ => K us) failed
      (m.perform u.name (if nop then none else u.up) (m.markApplied { u with group })) t)
    (h : K us t) :
    MeetsEither effect allowed (fun _ => K []) failed (m.applyAll nop group us) t := by
  induction us generalizing t with
  | nil => exact .pure h
  | cons u us ih =>
    refine (hperform u us t h).bind ?_
    intro a t' ht'
    exact (ih ht').bind fun _ _ hdone => .pure hdone

/-- `K` tells how things are when so many migrations are still to be undone. -/
theorem meets_undoAll {K : List Migration → τ → Prop} {nop : Bool} {us : List Migration}
    (hperform : ∀ u us t, K (u :: us) t → MeetsEither effect allowed (fun _ => K us) failed
      (m.perform u.name (if nop then none else u.down) (m.markUnapplied u)) t)
    (h : K us t) :
    MeetsEither effect allowed (fun _ => K []) failed (m.undoAll nop us) t := by
  induction us generalizing t with
  | nil => exact .pure h
  | cons u us ih => exact (hperform u us t h).bind fun _ _ ht' => ih ht'

/-! ## What is recorded -/

@[simp] theorem name_withRecord (records : List Migration) (u : Migration) :
    (withRecord records u).name = u.name := by
  unfold withRecord
  split <;> rfl

@[simp] theorem up_withRecord (records : List Migration) (u : Migration) :
    (withRecord records u).up = u.up := by
  unfold withRecord
  split <;> rfl

@[simp] theorem down_withRecord (records : List Migration) (u : Migration) :
    (withRecord records u).down = u.down := by
  unfold withRecord
  split <;> rfl

/-- The records are asked for once, and either they cannot be had or the status is theirs. -/
theorem meets_status {ok : List Migration × Int64 → τ → Prop}
    (hallowed : allowed (.query m.statusSql) t)
    (hok : ∀ blocks records t', effect (.query m.statusSql) (.ok blocks) t t' →
      readAll blocks = .ok records →
      ok (m.registry.sorted.map (withRecord records), Migrations.lastGroupId records) t')
    (hlayout : ∀ blocks fault t', effect (.query m.statusSql) (.ok blocks) t t' →
      readAll blocks = .error fault → failed (.layout fault) t')
    (hfailed : ∀ e t', effect (.query m.statusSql) (.error e) t t' → failed (.database e) t') :
    MeetsEither effect allowed ok failed m.status t := by
  have hquery : MeetsEither effect allowed
      (fun blocks t' => effect (.query m.statusSql) (.ok blocks) t t') failed
      (require (.query m.statusSql)) t :=
    meets_require hallowed (fun _ _ heffect => heffect) hfailed
  have hrecords : MeetsEither effect allowed
      (fun records => ok (m.registry.sorted.map (withRecord records), Migrations.lastGroupId records))
      failed m.records t := by
    refine hquery.bind ?_
    intro blocks t' heffect
    cases hread : readAll blocks with
    | ok records => exact .pure (hok blocks records t' heffect hread)
    | error fault => exact .throw (hlayout blocks fault t' heffect hread)
  exact hrecords.bind fun _ _ hdone => .pure hdone

end Migrator

end ColumnWire
