import ColumnWire.Migration.Registry

/-!
# Migrations that are discovered

What is discovered in a directory follows from the files that are in it, not from the order in which
they are listed: `Registry.Discovered` says what is found, and there is one such list. If a file that
is asked for cannot be read, nothing is added at all. `Registry.discover_exact` has both.
-/
namespace ColumnWire

namespace Registry

/-! ## Names of files -/

namespace Direction

/-- The file with one direction of a migration. -/
def file (d : Direction) (name : String) : String := name ++ String.ofList d.ending

/-- What is known of one direction of a migration. -/
def step (d : Direction) (m : Migration) : Option Step :=
  match d with
  | .up => m.up
  | .down => m.down

end Direction

variable {name other file : String} {d d' : Direction} {step : Step} {m : Migration}

theorem stem?_eq_some {ending cs stem : List Char} : stem? ending cs = some stem ↔ cs = stem ++ ending := by
  unfold stem?
  constructor
  · intro h
    split at h
    · next hends =>
      obtain ⟨front, rfl⟩ := List.isSuffixOf_iff_suffix.mp hends
      simp only [List.length_append, Nat.add_sub_cancel, List.take_left, Option.some.injEq] at h
      rw [h]
    · cases h
  · rintro rfl
    have hends : ending.isSuffixOf (stem ++ ending) = true :=
      List.isSuffixOf_iff_suffix.mpr (List.suffix_append _ _)
    simp [hends]

theorem toList_file (d : Direction) (name : String) : (d.file name).toList = name.toList ++ d.ending := by
  simp [Direction.file]

/-- No name has both ends. -/
theorem ends_once {front back : List Char} :
    front ++ Direction.up.ending ≠ back ++ Direction.down.ending := by
  intro h
  have hup : Direction.up.ending <:+ back ++ Direction.down.ending := h ▸ List.suffix_append _ _
  have hdown : Direction.down.ending <:+ back ++ Direction.down.ending := List.suffix_append _ _
  have hends := List.suffix_of_suffix_length_le hup hdown (by decide)
  revert hends
  decide

/-- **A name is taken apart in one way**, and only if it is that of a file with a direction. -/
theorem classify?_eq_some : classify? file = some (name, d) ↔ file = d.file name := by
  have hsame (d : Direction) : stem? d.ending file.toList = some name.toList ↔ file = d.file name := by
    rw [stem?_eq_some, ← toList_file, String.toList_inj]
  unfold classify?
  cases hup : stem? Direction.up.ending file.toList with
  | some stem =>
    have hfile := stem?_eq_some.mp hup
    simp only [Option.some.injEq, Prod.mk.injEq]
    cases d with
    | up => rw [← hsame, hup]; simp [← String.toList_inj]
    | down =>
      refine iff_of_false (by simp) fun h => ?_
      rw [h, toList_file] at hfile
      exact ends_once hfile.symm
  | none =>
    cases d with
    | up =>
      rw [← hsame, hup]
      cases stem? Direction.down.ending file.toList <;> simp
    | down =>
      rw [← hsame]
      cases stem? Direction.down.ending file.toList <;> simp [← String.toList_inj]

/-! ## What is found -/

/-- There is a file with this direction of a migration, and `content` is the text of it or the reason
why it cannot be read. -/
def Has (entries : List DirectoryEntry) (name : String) (d : Direction)
    (content : Except FileFault String) : Prop :=
  ∃ bytes, ⟨d.file name, .file bytes⟩ ∈ entries ∧ FileFault.text bytes = content

/-- What is asked for can be read. -/
def Readable (entries : List DirectoryEntry) : Prop :=
  ∀ name d fault, ¬ Has entries name d (.error fault)

/-- Migrations are those of a directory: one for each name that has a file, in ascending order, with the
texts of its files and nothing else. -/
structure Discovered (entries : List DirectoryEntry) (found : List Migration) : Prop where
  ascending : (found.map (·.name)).Pairwise (· < ·)
  names : ∀ name, name ∈ found.map (·.name) ↔ ∃ d content, Has entries name d content
  steps : ∀ m ∈ found, ∀ d step,
    d.step m = some step ↔ ∃ text, step = .sql text ∧ Has entries m.name d (.ok text)
  unapplied : ∀ m ∈ found, m.group = 0 ∧ m.appliedAt = none

variable {entries done order : List DirectoryEntry} {entry : DirectoryEntry} {found found' : List Migration}
  {content : Except FileFault String} {text : String}

theorem Has.of_perm (h : Has entries name d content) (hperm : entries.Perm order) :
    Has order name d content := by
  obtain ⟨bytes, hmem, htext⟩ := h
  exact ⟨bytes, hperm.mem_iff.mp hmem, htext⟩

theorem has_perm (hperm : entries.Perm order) : Has entries name d content ↔ Has order name d content :=
  ⟨fun h => h.of_perm hperm, fun h => h.of_perm hperm.symm⟩

theorem Discovered.of_perm (h : Discovered entries found) (hperm : entries.Perm order) :
    Discovered order found where
  ascending := h.ascending
  names name := by simpa only [has_perm hperm] using h.names name
  steps m hm d step := by simpa only [has_perm hperm] using h.steps m hm d step
  unapplied := h.unapplied

theorem eq_of_step {m m' : Migration} (hname : m.name = m'.name) (hgroup : m.group = m'.group)
    (hat : m.appliedAt = m'.appliedAt) (hstep : ∀ d : Direction, d.step m = d.step m') : m = m' := by
  cases m
  cases m'
  obtain rfl := hname
  obtain rfl := hgroup
  obtain rfl := hat
  have hup := hstep .up
  have hdown := hstep .down
  simp only [Direction.step] at hup hdown
  rw [hup, hdown]

theorem Discovered.mem_of_mem (h : Discovered entries found) (h' : Discovered entries found')
    (hm : m ∈ found) : m ∈ found' := by
  have hname : m.name ∈ found'.map (·.name) :=
    (h'.names _).mpr ((h.names _).mp (List.mem_map_of_mem hm))
  obtain ⟨m', hm', hsame⟩ := List.mem_map.mp hname
  obtain ⟨hgroup, hat⟩ := h.unapplied m hm
  obtain ⟨hgroup', hat'⟩ := h'.unapplied m' hm'
  have heq : m = m' := by
    refine eq_of_step hsame.symm (hgroup.trans hgroup'.symm) (hat.trans hat'.symm) fun d => ?_
    ext step
    rw [h.steps m hm, h'.steps m' hm', hsame]
  rwa [heq]

/-- **There is one such list.** -/
theorem Discovered.unique (h : Discovered entries found) (h' : Discovered entries found') :
    found = found' := by
  have hless := List.pairwise_map.mp h.ascending
  have hless' := List.pairwise_map.mp h'.ascending
  have hnodup {ms : List Migration} (hms : ms.Pairwise fun a b => a.name < b.name) : ms.Nodup := by
    refine hms.imp ?_
    rintro a _ hless rfl
    exact String.lt_irrefl _ hless
  have hperm : found.Perm found' := by
    rw [List.perm_ext_iff_of_nodup (hnodup hless) (hnodup hless')]
    exact fun m => ⟨h.mem_of_mem h', h'.mem_of_mem h⟩
  refine hperm.eq_of_pairwise (fun a b _ _ hab hba => ?_) hless hless'
  exact absurd hba (String.lt_asymm hab)

/-! ## One more file -/

@[simp] theorem name_withStep (m : Migration) (d : Direction) (step : Step) :
    (withStep m d step).name = m.name := by
  cases d <;> rfl

theorem step_withStep (m : Migration) (d d' : Direction) (step : Step) :
    d'.step (withStep m d step) = if d' = d then some step else d'.step m := by
  cases d <;> cases d' <;> rfl

theorem unapplied_withStep (d : Direction) (step : Step) (h : m.group = 0 ∧ m.appliedAt = none) :
    (withStep m d step).group = 0 ∧ (withStep m d step).appliedAt = none := by
  cases d <;> exact h

/-- **Where a step goes.** All migrations stay but the one of its name; if there is none, a new one stands
between those with smaller and those with greater names. -/
theorem insertStep_split (name : String) (d : Direction) (step : Step)
    (hascending : (found.map (·.name)).Pairwise (· < ·)) :
    ∃ front old back, insertStep name d step found = front ++ withStep old d step :: back ∧
      old.name = name ∧ (found = front ++ old :: back ∨ found = front ++ back ∧ old = { name }) ∧
      (∀ m ∈ front, m.name < name) ∧ ∀ m ∈ back, name < m.name := by
  induction found with
  | nil => exact ⟨[], { name }, [], rfl, rfl, .inr ⟨rfl, rfl⟩, by simp, by simp⟩
  | cons first rest ih =>
    rw [List.map_cons, List.pairwise_cons] at hascending
    obtain ⟨hfirst, hrest⟩ := hascending
    have hbehind : ∀ m ∈ rest, first.name < m.name := fun m hm => hfirst _ (List.mem_map_of_mem hm)
    unfold insertStep
    by_cases hsame : first.name = name
    · rw [if_pos hsame]
      exact ⟨[], first, rest, rfl, hsame, .inl rfl, by simp, hsame ▸ hbehind⟩
    · rw [if_neg hsame]
      by_cases hless : name < first.name
      · rw [if_pos hless]
        refine ⟨[], { name }, first :: rest, rfl, rfl, .inr ⟨rfl, rfl⟩, by simp, ?_⟩
        intro m hm
        rcases List.mem_cons.mp hm with rfl | hm
        · exact hless
        · exact String.lt_trans hless (hbehind m hm)
      · rw [if_neg hless]
        have hgreater : first.name < name :=
          String.not_le.mp fun hle => hsame (String.le_antisymm (String.not_lt.mp hless) hle)
        obtain ⟨front, old, back, hinsert, hname, hfound, hfront, hback⟩ := ih hrest
        refine ⟨first :: front, old, back, by rw [hinsert]; rfl, hname, ?_, ?_, hback⟩
        · rcases hfound with rfl | ⟨rfl, hold⟩
          · exact .inl rfl
          · exact .inr ⟨rfl, hold⟩
        · intro m hm
          rcases List.mem_cons.mp hm with rfl | hm
          · exact hgreater
          · exact hfront m hm

/-- **What an insertion changes.** One migration has the step afterwards: the one of the name as it was, or a
new one. All others stay, and the order with them. -/
theorem insertStep_spec (name : String) (d : Direction) (step : Step)
    (hascending : (found.map (·.name)).Pairwise (· < ·)) :
    ∃ old : Migration, old.name = name ∧
      (old ∈ found ∨ name ∉ found.map (·.name) ∧ old = { name }) ∧
      ((insertStep name d step found).map (·.name)).Pairwise (· < ·) ∧
      ∀ m, m ∈ insertStep name d step found ↔ m = withStep old d step ∨ m ∈ found ∧ m.name ≠ name := by
  obtain ⟨front, old, back, hinsert, hname, hfound, hfront, hback⟩ := insertStep_split name d step hascending
  have hsub : (front ++ back).Sublist found := by
    rcases hfound with rfl | ⟨rfl, -⟩
    · exact (List.sublist_cons_self _ _).append_left _
    · exact .refl _
  have hother : ∀ m ∈ front ++ back, m.name ≠ name := by
    intro m hm hsame
    rcases List.mem_append.mp hm with hm | hm
    · exact String.lt_irrefl _ (hsame ▸ hfront m hm)
    · exact String.lt_irrefl _ (hsame ▸ hback m hm)
  have hkept (m : Migration) : m ∈ found ∧ m.name ≠ name ↔ m ∈ front ++ back := by
    refine ⟨fun ⟨hm, hne⟩ => ?_, fun hm => ⟨hsub.subset hm, hother m hm⟩⟩
    rcases hfound with rfl | ⟨rfl, -⟩
    · rcases List.mem_append.mp hm with hm | hm
      · exact List.mem_append_left _ hm
      · rcases List.mem_cons.mp hm with rfl | hm
        · exact absurd hname hne
        · exact List.mem_append_right _ hm
    · exact hm
  refine ⟨old, hname, ?_, ?_, fun m => ?_⟩
  · rcases hfound with rfl | ⟨rfl, hold⟩
    · exact .inl (by simp)
    · refine .inr ⟨fun hmem => ?_, hold⟩
      obtain ⟨m, hm, hsame⟩ := List.mem_map.mp hmem
      exact hother m hm hsame
  · have hrest := hascending.sublist (hsub.map _)
    rw [hinsert]
    simp only [List.map_append, List.map_cons, name_withStep, hname, List.pairwise_append,
      List.pairwise_cons, List.forall_mem_cons, List.forall_mem_map] at hrest ⊢
    exact ⟨hrest.1, ⟨hback, hrest.2.1⟩, fun m hm => ⟨hfront m hm, hrest.2.2 m hm⟩⟩
  · rw [hinsert, hkept, List.mem_append, List.mem_cons, List.mem_append, or_left_comm]

theorem mem_names_insertStep {k : String} (hascending : (found.map (·.name)).Pairwise (· < ·)) :
    k ∈ (insertStep name d step found).map (·.name) ↔ k = name ∨ k ∈ found.map (·.name) := by
  obtain ⟨old, hname, -, -, hmem⟩ := insertStep_spec name d step hascending
  have hstep : (withStep old d step).name = name := (name_withStep _ _ _).trans hname
  simp only [List.mem_map, hmem]
  constructor
  · rintro ⟨m, rfl | ⟨hm, -⟩, rfl⟩
    · exact .inl hstep
    · exact .inr ⟨m, hm, rfl⟩
  · rintro (rfl | ⟨m, hm, rfl⟩)
    · exact ⟨_, .inl rfl, hstep⟩
    · by_cases hsame : m.name = name
      · exact ⟨_, .inl rfl, hstep.trans hsame.symm⟩
      · exact ⟨m, .inr ⟨hm, hsame⟩, rfl⟩

theorem file_inj : d.file name = d'.file other ↔ d = d' ∧ name = other := by
  rw [← classify?_eq_some, classify?_eq_some.mpr rfl, Option.some.injEq, Prod.mk.injEq, and_comm]

/-- What there is once a directory has one more file. -/
theorem has_concat_file {bytes : Except FileFault Bytes} :
    Has (done ++ [⟨d.file name, .file bytes⟩]) other d' content ↔
      Has done other d' content ∨ (other = name ∧ d' = d) ∧ FileFault.text bytes = content := by
  unfold Has
  simp only [List.mem_append, List.mem_singleton, DirectoryEntry.mk.injEq, FileKind.file.injEq, file_inj]
  constructor
  · rintro ⟨bytes', hold | ⟨⟨rfl, rfl⟩, rfl⟩, htext⟩
    · exact .inl ⟨bytes', hold, htext⟩
    · exact .inr ⟨⟨rfl, rfl⟩, htext⟩
  · rintro (⟨bytes', hold, htext⟩ | ⟨⟨rfl, rfl⟩, htext⟩)
    · exact ⟨bytes', .inl hold, htext⟩
    · exact ⟨bytes, .inr ⟨⟨rfl, rfl⟩, rfl⟩, htext⟩

/-- Whatever is no file with a direction does not matter. -/
theorem has_concat_other (hother : ∀ name d bytes, entry ≠ ⟨Direction.file d name, .file bytes⟩) :
    Has (done ++ [entry]) name d content ↔ Has done name d content := by
  unfold Has
  simp only [List.mem_append, List.mem_singleton]
  constructor
  · rintro ⟨bytes, hold | hnew, htext⟩
    · exact ⟨bytes, hold, htext⟩
    · exact absurd hnew.symm (hother _ _ _)
  · rintro ⟨bytes, hold, htext⟩
    exact ⟨bytes, .inl hold, htext⟩

theorem Discovered.of_has (h : Discovered done found)
    (hsame : ∀ name d content, Has entries name d content ↔ Has done name d content) :
    Discovered entries found where
  ascending := h.ascending
  names name := by simpa only [hsame] using h.names name
  steps m hm d step := by simpa only [hsame] using h.steps m hm d step
  unapplied := h.unapplied

/-- What is known of a name before its next file is read: what the files so far say, and nothing if there
are none. -/
theorem Discovered.old (h : Discovered done found) {old : Migration} (hname : old.name = name)
    (hold : old ∈ found ∨ name ∉ found.map (·.name) ∧ old = { name }) :
    (∀ d step, d.step old = some step ↔ ∃ text, step = .sql text ∧ Has done name d (.ok text)) ∧
      old.group = 0 ∧ old.appliedAt = none := by
  rcases hold with hmem | ⟨hnew, rfl⟩
  · exact ⟨hname ▸ h.steps old hmem, h.unapplied old hmem⟩
  · refine ⟨fun d step => iff_of_false (by cases d <;> simp [Direction.step]) ?_, rfl, rfl⟩
    rintro ⟨text, -, hhas⟩
    exact hnew ((h.names name).mpr ⟨d, _, hhas⟩)

/-- **A file that can be read adds its direction.** -/
theorem Discovered.insert {bytes : Except FileFault Bytes} (h : Discovered done found)
    (hread : FileFault.text bytes = .ok text) (hnew : ∀ content, ¬ Has done name d content) :
    Discovered (done ++ [⟨d.file name, .file bytes⟩]) (insertStep name d (.sql text) found) := by
  obtain ⟨old, hname, hbase, hascending, hmem⟩ := insertStep_spec name d (.sql text) h.ascending
  obtain ⟨hsteps, hunapplied⟩ := h.old hname hbase
  refine ⟨hascending, fun k => ?_, fun m hm d' step => ?_, fun m hm => ?_⟩
  · rw [mem_names_insertStep h.ascending, h.names]
    simp only [has_concat_file]
    constructor
    · rintro (rfl | ⟨d', content, hhas⟩)
      · exact ⟨d, _, .inr ⟨⟨rfl, rfl⟩, rfl⟩⟩
      · exact ⟨d', content, .inl hhas⟩
    · rintro ⟨d', content, hhas | ⟨⟨rfl, rfl⟩, -⟩⟩
      · exact .inr ⟨d', content, hhas⟩
      · exact .inl rfl
  · simp only [has_concat_file]
    rcases (hmem m).mp hm with rfl | ⟨hold, hne⟩
    · rw [name_withStep, hname, step_withStep]
      by_cases hd : d' = d
      · subst hd
        simp only [hnew, hread, and_self, true_and, false_or, if_true, Except.ok.injEq, Option.some.injEq]
        exact ⟨fun h => ⟨text, h.symm, rfl⟩, fun ⟨_, h, htext⟩ => htext ▸ h.symm⟩
      · simp only [hd, and_false, false_and, or_false, if_false, hsteps]
    · simp only [hne, false_and, or_false, h.steps m hold]
  · rcases (hmem m).mp hm with rfl | ⟨hold, -⟩
    · exact unapplied_withStep d _ hunapplied
    · exact h.unapplied m hold

/-! ## A whole directory -/

theorem discovered_nil : Discovered [] [] where
  ascending := .nil
  names _ := iff_of_false List.not_mem_nil fun ⟨_, _, _, hmem, _⟩ => List.not_mem_nil hmem
  steps _ hm := absurd hm List.not_mem_nil
  unapplied _ hm := absurd hm List.not_mem_nil

theorem scan_file (d : Direction) (name : String) (bytes : Except FileFault Bytes)
    (entries : List DirectoryEntry) (found : List Migration) :
    scan (⟨d.file name, .file bytes⟩ :: entries) found =
      match FileFault.text bytes with
      | .error fault => .error fault
      | .ok text => scan entries (insertStep name d (.sql text) found) := by
  cases htext : FileFault.text bytes <;>
    simp only [scan, classify?_eq_some.mpr (rfl : d.file name = d.file name), htext]

theorem scan_other (hother : ∀ name d bytes, entry ≠ ⟨Direction.file d name, .file bytes⟩) :
    scan (entry :: entries) found = scan entries found := by
  obtain ⟨file, kind⟩ := entry
  rw [scan]
  split
  · next bytes name d hkind hclassify =>
    refine absurd ?_ (hother name d bytes)
    rw [← classify?_eq_some.mp hclassify, ← hkind]
  · rfl

/-- **All entries are read**, unless one that is asked for cannot be read, which is then reported. -/
theorem scan_spec (hnames : ((done ++ entries).map (·.name)).Nodup) (h : Discovered done found)
    (hdone : Readable done) :
    match scan entries found with
    | .ok found' => Readable (done ++ entries) ∧ Discovered (done ++ entries) found'
    | .error fault => ∃ name d, Has (done ++ entries) name d (.error fault) := by
  induction entries generalizing done found with
  | nil =>
    rw [List.append_nil]
    exact ⟨hdone, h⟩
  | cons entry entries ih =>
    have hnames' := hnames
    rw [List.append_cons] at hnames' ⊢
    by_cases hfile : ∃ name d bytes, entry = ⟨Direction.file d name, .file bytes⟩
    · obtain ⟨name, d, bytes, rfl⟩ := hfile
      rw [scan_file]
      cases hread : FileFault.text bytes with
      | error fault =>
        refine ⟨name, d, bytes, ?_, hread⟩
        simp
      | ok text =>
        have hnew (content : Except FileFault String) : ¬ Has done name d content := by
          rintro ⟨bytes', hmem, -⟩
          rw [List.map_append, List.map_cons] at hnames
          exact (List.nodup_append.mp hnames).2.2 _ (List.mem_map_of_mem hmem) _ List.mem_cons_self rfl
        refine ih hnames' (h.insert hread hnew) fun name' d' fault hhas => ?_
        rcases has_concat_file.mp hhas with hold | ⟨-, hnow⟩
        · exact hdone name' d' fault hold
        · rw [hread] at hnow
          cases hnow
    · have hother : ∀ name d bytes, entry ≠ ⟨Direction.file d name, .file bytes⟩ :=
        fun name d bytes hentry => hfile ⟨name, d, bytes, hentry⟩
      rw [scan_other hother]
      refine ih hnames' (h.of_has fun _ _ _ => has_concat_other hother) fun name d fault hhas => ?_
      exact hdone name d fault ((has_concat_other hother).mp hhas)

theorem scan_all (hnames : (entries.map (·.name)).Nodup) :
    match scan entries [] with
    | .ok found => Readable entries ∧ Discovered entries found
    | .error fault => ∃ name d, Has entries name d (.error fault) := by
  have hnone : Readable [] := fun _ _ _ ⟨_, hmem, _⟩ => List.not_mem_nil hmem
  have hall : (([] ++ entries).map DirectoryEntry.name).Nodup := hnames
  exact scan_spec hall discovered_nil hnone

/-- Whatever is discovered is what the directory has. -/
theorem discovered_of_scan (hnames : (entries.map (·.name)).Nodup)
    (hscan : (scan entries []).toOption = some found) : Readable entries ∧ Discovered entries found := by
  have hall := scan_all hnames
  cases hresult : scan entries [] with
  | error fault =>
    rw [hresult] at hscan
    cases hscan
  | ok found' =>
    rw [hresult] at hscan hall
    cases hscan
    exact hall

/-- What is discovered comes behind what is known. -/
theorem discover_eq (r : Registry) (path : String) (entries : List DirectoryEntry) :
    r.discover path (.ok entries) = (scan entries []).map fun found =>
      { directory := some (r.directory.getD path), migrations := r.migrations ++ found } :=
  rfl

/-! ## In place -/

/-- Add the migrations of a directory to a registry that is changed in place, a part at a time. -/
def discoverInPlace (path : String) (entries : Except FileFault (List DirectoryEntry)) :
    ExceptT FileFault (StateM Registry) Unit := do
  let found ← liftExcept (scan (← liftExcept entries) [])
  modify fun r => { r with migrations := r.migrations ++ found }
  modify fun r => if r.directory.isNone then { r with directory := some path } else r

/-- Nothing can fail any more once the registry is changed. -/
theorem run_discoverInPlace (r : Registry) (path : String)
    (entries : Except FileFault (List DirectoryEntry)) :
    (discoverInPlace path entries).run.run r =
      match r.discover path entries with
      | .ok r' => (.ok (), r')
      | .error fault => (.error fault, r) := by
  obtain ⟨directory, migrations⟩ := r
  cases entries with
  | error fault => rfl
  | ok entries =>
    have hinPlace : discoverInPlace path (.ok entries) = (do
        let found ← liftExcept (scan entries [])
        modify fun r => { r with migrations := r.migrations ++ found }
        modify fun r => if r.directory.isNone then { r with directory := some path } else r) := rfl
    rw [discover_eq, hinPlace]
    cases scan entries [] with
    | error fault => rfl
    | ok found => cases directory <;> rfl

/-- **What is discovered does not depend on the order of the entries, and counts as a whole.** The files of
a directory have different names. If all files with a direction of a migration can be read, what is known
before stays in front, and behind it come the migrations of the directory in ascending order, one for each
name and with the texts of its files; in whatever order the entries are listed, this is the same list. New
migrations are written there unless another place is known. If some of these files cannot be read, one of
them is reported in any order, and the registry is as it was before. -/
theorem discover_exact (r : Registry) (path : String) (entries : List DirectoryEntry)
    (hnames : (entries.map (·.name)).Nodup) :
    (Readable entries → ∃ found, Discovered entries found ∧ ∀ order, order.Perm entries →
      let r' : Registry :=
        { directory := some (r.directory.getD path), migrations := r.migrations ++ found }
      r.discover path (.ok order) = .ok r' ∧
        (discoverInPlace path (.ok order)).run.run r = (.ok (), r')) ∧
    (∀ name d fault, Has entries name d (.error fault) → ∀ order, order.Perm entries →
      ∃ name' d' fault', Has entries name' d' (.error fault') ∧
        r.discover path (.ok order) = .error fault' ∧
        (discoverInPlace path (.ok order)).run.run r = (.error fault', r)) := by
  have hspec (order : List DirectoryEntry) (hperm : order.Perm entries) :=
    scan_all ((hperm.map DirectoryEntry.name).nodup_iff.mpr hnames)
  constructor
  · intro hreadable
    have hfirst := hspec entries (.refl _)
    cases hscan : scan entries [] with
    | error fault =>
      simp only [hscan] at hfirst
      obtain ⟨name, d, hhas⟩ := hfirst
      exact absurd hhas (hreadable name d fault)
    | ok found =>
      simp only [hscan] at hfirst
      refine ⟨found, hfirst.2, fun order hperm => ?_⟩
      have horder := hspec order hperm
      cases hscan' : scan order [] with
      | error fault =>
        simp only [hscan'] at horder
        obtain ⟨name, d, hhas⟩ := horder
        exact absurd (hhas.of_perm hperm) (hreadable name d fault)
      | ok found' =>
        simp only [hscan'] at horder
        obtain rfl := (horder.2.of_perm hperm).unique hfirst.2
        rw [run_discoverInPlace, discover_eq, hscan']
        exact ⟨rfl, rfl⟩
  · intro name d fault hhas order hperm
    have horder := hspec order hperm
    cases hscan : scan order [] with
    | error fault' =>
      simp only [hscan] at horder
      obtain ⟨name', d', hhas'⟩ := horder
      rw [run_discoverInPlace, discover_eq, hscan]
      exact ⟨name', d', fault', hhas'.of_perm hperm, rfl, rfl⟩
    | ok found =>
      simp only [hscan] at horder
      exact absurd (hhas.of_perm hperm.symm) (horder.1 name d fault)

/-- Up and down of one migration stand far apart, and neither notes nor a directory are files with a
direction. With one file more that is no text, nothing is discovered. -/
theorem discover_exact_apart :
    let entries : List DirectoryEntry := [
      ⟨"2_users.down.sql", .file (.ok (Utf8.encode "DROP TABLE users"))⟩,
      ⟨"README.md", .file (.error .notText)⟩, ⟨"1_init.up.sql", .file (.ok (Utf8.encode "SELECT 1"))⟩,
      ⟨"3_later.up.sql", .directory⟩, ⟨"2_users.up.sql", .file (.ok (Utf8.encode "CREATE TABLE users"))⟩]
    let found : List Migration := [{ name := "1_init", up := some (.sql "SELECT 1") },
      { name := "2_users", up := some (.sql "CREATE TABLE users"),
        down := some (.sql "DROP TABLE users") }]
    let broken := entries ++ [⟨"4_broken.down.sql", .file (.ok [0xFF])⟩]
    let r : Registry := { migrations := [{ name := "9_added" }] }
    (entries.map (·.name)).Nodup ∧ Readable entries ∧ (∀ order, order.Perm entries →
      r.discover "migrations" (.ok order) =
        .ok { directory := some "migrations", migrations := r.migrations ++ found }) ∧
    (broken.map (·.name)).Nodup ∧ Has broken "4_broken" .down (.error .notText) ∧
      ∀ order, order.Perm broken → ∃ fault,
        (discoverInPlace "migrations" (.ok order)).run.run r = (.error fault, r) := by
  intro entries found broken r
  have hnames : (entries.map (·.name)).Nodup := by decide
  have hscan : (scan entries []).toOption = some found := by decide +kernel
  obtain ⟨hreadable, hfound⟩ := discovered_of_scan hnames hscan
  obtain ⟨found', hfound', hall⟩ := (discover_exact r "migrations" entries hnames).1 hreadable
  obtain rfl := hfound'.unique hfound
  have hnames' : (broken.map (·.name)).Nodup := by decide
  have hbad : Utf8.decode? [0xFF] = none := by decide +kernel
  have hbroken : Has broken "4_broken" .down (.error .notText) := by
    refine ⟨.ok [0xFF], List.mem_append_right _ (List.mem_singleton.mpr rfl), ?_⟩
    rw [FileFault.text, hbad]
  refine ⟨hnames, hreadable, fun order hperm => (hall order hperm).1, hnames', hbroken,
    fun order hperm => ?_⟩
  obtain ⟨_, _, fault, -, -, hrun⟩ :=
    (discover_exact r "migrations" broken hnames').2 _ _ _ hbroken order hperm
  exact ⟨fault, hrun⟩

end Registry

end ColumnWire
