import ColumnWire.Proofs.Migration.Rules
import ColumnWire.Proofs.Migration.Table
import Mathlib.Algebra.Group.Nat.Defs

/-!
# What a migrator reads off the table

The rows of a table are exchanged in blocks: `Block.Shows` for the live rows that are asked for,
`Block.Carries` for rows with their signs. If the table is well kept, a migrator knows from the
blocks exactly which of its migrations are live, in which group and since when, and the number
of the last group.
-/
namespace ColumnWire

/-- The columns of a block show these rows, without their signs. -/
structure Block.Shows (b : Block) (rows : List MarkRow) : Prop where
  names : (b.byName? "name").bind (·.data.strings?) = some (rows.map (·.name)).toArray
  groups : (b.byName? "group_id").bind (·.data.scalars? .int64) =
    some (rows.map (·.group.toBitVec.toNat)).toArray
  moments : (b.byName? "migrated_at").bind (·.data.scalars? .dateTime) =
    some (rows.map (·.second.toNat)).toArray

/-- The columns of a block are these rows. -/
structure Block.Carries (b : Block) (rows : List MarkRow) : Prop extends b.Shows rows where
  signs : (b.byName? "sign").bind (·.data.scalars? .int8) =
    some (rows.map (·.sign.toBitVec.toNat)).toArray

/-- A row as a record. -/
def MarkRow.record (row : MarkRow) : Migration where
  name := row.name
  group := row.group
  appliedAt := some row.second.toNat

/-- The row that a mark adds. -/
def Migration.markRow (u : Migration) (second : UInt32) (sign : Int8) : MarkRow where
  name := u.name
  group := u.group
  second := second
  sign := sign

namespace Migrator

open MarkRow

variable {names : List String} {marks : List MarkRow} {row : MarkRow} {records : List Migration}
  {u : Migration}

theorem scalars?_map {α : Type} (kind : Scalar) (cell : α → BitVec (8 * kind.size)) (rows : List α) :
    (ColumnData.scalars kind (rows.map cell).toArray).scalars? kind =
      some (rows.map fun row => (cell row).toNat).toArray := by
  rw [ColumnData.scalars?, if_pos rfl, List.map_toArray, List.map_map]
  rfl

theorem carries_markBlock (u : Migration) (second : Nat) (sign : Int) :
    (markBlock u second sign).Carries [u.markRow (.ofNat second) (.ofInt sign)] := by
  let row := u.markRow (.ofNat second) (.ofInt sign)
  exact ⟨⟨rfl, scalars?_map .int64 (fun row : MarkRow => row.group.toBitVec) [row],
    scalars?_map .dateTime (fun row : MarkRow => row.second.toBitVec) [row]⟩,
    scalars?_map .int8 (fun row : MarkRow => row.sign.toBitVec) [row]⟩

theorem cells_eq {α : Type} {b : Block} {name type : String} {ofType : ColumnData → Option α} {cs : α}
    (h : (b.byName? name).bind (fun c => ofType c.data) = some cs) :
    cells b name type ofType = .ok cs := by
  unfold cells
  cases hname : b.byName? name with
  | none => simp [hname] at h
  | some c =>
    rw [hname, Option.bind_some] at h
    simp only [h]

theorem readRecords_eq {b : Block} {rows : List MarkRow} (h : b.Shows rows) :
    readRecords b = .ok (rows.map record) := by
  unfold readRecords
  rw [cells_eq h.names, cells_eq h.groups, cells_eq h.moments]
  show Except.ok _ = Except.ok _
  congr 1
  simp [List.zip_map', record]

/-- The records of blocks are those of the rows that they show. -/
theorem readAll_eq {blocks : List Block} {parts : List (List MarkRow)}
    (h : List.Forall₂ Block.Shows blocks parts) :
    readAll blocks = .ok (parts.flatten.map record) := by
  induction h with
  | nil => rfl
  | cons hfirst _ ih =>
    rw [readAll, readRecords_eq hfirst, ih, List.flatten_cons, List.map_append]
    rfl

end Migrator

/-! ## The number of the last group -/

namespace Migrations

variable {us : List Migration} {n : Int}

theorem toInt_greater (a b : Int64) : (greater a b).toInt = max a.toInt b.toInt := by
  unfold greater
  split
  · next hlt =>
    have := Int64.lt_iff_toInt_lt.mp hlt
    omega
  · next hle =>
    have := mt Int64.lt_iff_toInt_lt.mpr hle
    omega

theorem foldl_greater_spec (us : List Migration) (id : Int64) :
    let top := us.foldl (fun id u => greater id u.group) id
    id.toInt ≤ top.toInt ∧ (∀ u ∈ us, u.group.toInt ≤ top.toInt) ∧
      (top = id ∨ ∃ u ∈ us, u.group = top) := by
  induction us generalizing id with
  | nil => exact ⟨Int.le_refl _, List.forall_mem_nil _, .inl rfl⟩
  | cons u us ih =>
    obtain ⟨hle, hall, hmem⟩ := ih (greater id u.group)
    have hgreater := toInt_greater id u.group
    simp only [List.foldl_cons]
    refine ⟨by omega, fun v hv => ?_, ?_⟩
    · rcases List.mem_cons.mp hv with rfl | hv
      · omega
      · exact hall v hv
    · rcases hmem with htop | ⟨v, hv, htop⟩
      · rw [htop]
        unfold greater
        split
        · exact .inr ⟨u, List.mem_cons_self, rfl⟩
        · exact .inl rfl
      · exact .inr ⟨v, List.mem_cons_of_mem _ hv, htop⟩

/-- No group has a higher number than the last one, and some migration is in the last one. -/
theorem lastGroupId_spec (hne : us ≠ []) :
    (∀ u ∈ us, u.group.toInt ≤ (lastGroupId us).toInt) ∧ ∃ u ∈ us, u.group = lastGroupId us := by
  obtain ⟨u, us, rfl⟩ := List.exists_cons_of_ne_nil hne
  obtain ⟨hle, hall, hmem⟩ := foldl_greater_spec us u.group
  refine ⟨fun v hv => ?_, ?_⟩
  · rcases List.mem_cons.mp hv with rfl | hv
    · exact hle
    · exact hall v hv
  · rcases hmem with htop | ⟨v, hv, htop⟩
    · exact ⟨u, List.mem_cons_self, htop.symm⟩
    · exact ⟨v, List.mem_cons_of_mem _ hv, htop⟩

/-- The last group has the highest number there is. -/
theorem lastGroupId_eq (hle : ∀ u ∈ us, u.group.toInt ≤ n) (hmem : ∃ u ∈ us, u.group.toInt = n) :
    (lastGroupId us).toInt = n := by
  obtain ⟨u, hu, hn⟩ := hmem
  obtain ⟨hall, v, hv, hlast⟩ := lastGroupId_spec (List.ne_nil_of_mem hu)
  have hu' := hall u hu
  have hv' := hle v hv
  rw [hlast] at hv'
  omega

end Migrations

/-! ## Migrations with their records -/

/-- The names of the known migrations. -/
def Registry.names (r : Registry) : List String := r.migrations.map (·.name)

/-- Each name is registered once. There are fewer migrations than numbers for groups, as there always are
in memory. -/
structure Registry.Distinct (r : Registry) : Prop where
  distinct : r.names.Nodup
  countable : r.migrations.length < 2 ^ 63 - 1

/-- The names that are registered as not applied. No others are ever applied. -/
def Registry.openNames (r : Registry) : List String :=
  (Migrations.unapplied r.migrations).map (·.name)

/-- The names that are registered in the last group, before anything is known of the table. Usually there
are none, for a migration is registered without a group. -/
def Registry.claimed (r : Registry) : List String :=
  (Migrations.lastGroup r.migrations).members.map (·.name)

theorem Registry.claimed_eq_nil {r : Registry} (h : ∀ u ∈ r.migrations, u.group = 0) :
    r.claimed = [] := by
  by_cases hne : r.migrations = []
  · rw [claimed, hne]
    rfl
  · obtain ⟨u, hu, hid⟩ := (Migrations.lastGroupId_spec hne).2
    rw [claimed, Migrations.lastGroup, if_pos (hid.symm.trans (h u hu))]
    rfl

namespace Migrator

open MarkRow

variable {r : Registry} {names strays : List String} {marks : List MarkRow} {row : MarkRow}
  {records : List Migration} {u v : Migration} {n : Nat}

theorem mem_records (hrecords : records.Perm ((live marks).map record)) :
    v ∈ records ↔ ∃ row ∈ live marks, row.record = v := by
  rw [hrecords.mem_iff, List.mem_map]

/-- A migration with live rows has the group and the moment of one of them. -/
theorem withRecord_recorded (hrecords : records.Perm ((live marks).map record))
    (hlive : ∃ row ∈ live marks, row.name = u.name) : ∃ row ∈ live marks, row.name = u.name ∧
      withRecord records u = { u with group := row.group, appliedAt := some row.second.toNat } := by
  obtain ⟨row, hrow, hname⟩ := hlive
  obtain ⟨v, hv⟩ : ∃ v, records.reverse.find? (·.name = u.name) = some v := by
    rw [← Option.isSome_iff_exists, List.find?_isSome]
    exact ⟨row.record, List.mem_reverse.mpr ((mem_records hrecords).mpr ⟨row, hrow, rfl⟩),
      decide_eq_true hname⟩
  obtain ⟨next, hnext, rfl⟩ := (mem_records hrecords).mp (List.mem_reverse.mp (List.mem_of_find?_eq_some hv))
  have hfound := List.find?_some hv
  refine ⟨next, hnext, of_decide_eq_true hfound, ?_⟩
  rw [withRecord, hv]
  rfl

/-- A migration with a live row has the group and the moment of the row. -/
theorem withRecord_live (h : WellKept names strays marks)
    (hrecords : records.Perm ((live marks).map record)) (hrow : row ∈ live marks)
    (hname : row.name = u.name) :
    withRecord records u = { u with group := row.group, appliedAt := some row.second.toNat } := by
  obtain ⟨next, hnext, hsame, hrecord⟩ := withRecord_recorded hrecords ⟨row, hrow, hname⟩
  rw [hrecord, h.eq_of_name hrow hnext (hsame.trans hname.symm)]

/-- A migration without a live row stays as it is. -/
theorem withRecord_new (hrecords : records.Perm ((live marks).map record))
    (hnew : ∀ row ∈ live marks, row.name ≠ u.name) : withRecord records u = u := by
  have hfind : records.reverse.find? (·.name = u.name) = none := by
    rw [List.find?_eq_none]
    intro v hv
    obtain ⟨row, hrow, rfl⟩ := (mem_records hrecords).mp (List.mem_reverse.mp hv)
    exact mt of_decide_eq_true (hnew row hrow)
  rw [withRecord, hfind]

/-- What is recorded does not change names. -/
theorem nodup_known (hr : r.Distinct) (records : List Migration) :
    ((r.sorted.map (withRecord records)).map (·.name)).Nodup := by
  have hnames : (r.sorted.map (withRecord records)).map (·.name) = r.sorted.map (·.name) := by simp
  rw [hnames]
  exact (r.sorted_perm.map _).nodup_iff.mpr hr.distinct

theorem isApplied_iff (u : Migration) : u.isApplied = true ↔ 1 ≤ u.group.toInt := by
  have hzero : (0 : Int64).toInt = 0 := by decide
  rw [Migration.isApplied, decide_eq_true_iff, Int64.lt_iff_toInt_lt]
  omega

/-- What a migrator knows about its migrations: what is recorded, or else what they are registered with. -/
theorem mem_known (h : WellKept names strays marks)
    (hrecords : records.Perm ((live marks).map record))
    (hu : u ∈ r.sorted.map (withRecord records)) :
    (u ∈ r.migrations ∧ ∀ row ∈ live marks, row.name ≠ u.name) ∨
      ∃ row ∈ live marks, row.name = u.name ∧ row.group = u.group ∧
        u.appliedAt = some row.second.toNat := by
  obtain ⟨v, hv, rfl⟩ := List.mem_map.mp hu
  by_cases hlive : ∃ row ∈ live marks, row.name = v.name
  · obtain ⟨row, hrow, hname⟩ := hlive
    rw [withRecord_live h hrecords hrow hname]
    exact .inr ⟨row, hrow, hname, rfl, rfl⟩
  · have hnew : ∀ row ∈ live marks, row.name ≠ v.name := fun row hrow hname => hlive ⟨row, hrow, hname⟩
    rw [withRecord_new hrecords hnew]
    exact .inl ⟨r.sorted_perm.mem_iff.mp hv, hnew⟩

/-- The number of the last group on record. -/
theorem lastGroupId_records (hn : Numbered n marks)
    (hrecords : records.Perm ((live marks).map record)) :
    (Migrations.lastGroupId records).toInt = n := by
  by_cases hpos : 1 ≤ n
  · refine Migrations.lastGroupId_eq ?_ ?_
    · intro u hu
      obtain ⟨row, hrow, rfl⟩ := (mem_records hrecords).mp hu
      exact ((hn _).mp ⟨row, hrow, rfl⟩).2
    · obtain ⟨row, hrow, hgroup⟩ := (hn n).mpr ⟨by omega, Int.le_refl _⟩
      exact ⟨row.record, (mem_records hrecords).mpr ⟨row, hrow, rfl⟩, hgroup⟩
  · have hlive : live marks = [] := by
      refine List.eq_nil_iff_forall_not_mem.mpr fun row hrow => ?_
      have := (hn _).mp ⟨row, hrow, rfl⟩
      omega
    rw [hlive] at hrecords
    rw [hrecords.eq_nil]
    show (0 : Int64).toInt = n
    have : (0 : Int64).toInt = 0 := by decide
    omega

/-- The last group that a migrator knows of its migrations is no older than any live row of theirs. -/
theorem group_le_known (h : WellKept r.openNames strays marks)
    (hrecords : records.Perm ((live marks).map record)) (hrow : row ∈ live marks) :
    row.group.toInt ≤ (Migrations.lastGroupId (r.sorted.map (withRecord records))).toInt := by
  obtain ⟨v, hv, hname⟩ := List.mem_map.mp (h.known row hrow)
  have hmem : withRecord records v ∈ r.sorted.map (withRecord records) :=
    List.mem_map_of_mem (r.sorted_perm.mem_iff.mpr (List.mem_of_mem_filter hv))
  have hle := (Migrations.lastGroupId_spec (List.ne_nil_of_mem hmem)).1 _ hmem
  rwa [withRecord_live h hrecords hrow hname.symm] at hle

/-- If it is the group that a migration is registered with, then no migration is registered with a later
one. -/
theorem lastGroupId_registered (hr : r.Distinct) (h : WellKept r.openNames strays marks)
    (hn : Numbered n marks) (hrecords : records.Perm ((live marks).map record)) (hu : u ∈ r.migrations)
    (hid : Migrations.lastGroupId (r.sorted.map (withRecord records)) = u.group) :
    Migrations.lastGroupId r.migrations = u.group := by
  refine Int64.toInt_inj.mp (Migrations.lastGroupId_eq (fun v hv => ?_) ⟨u, hu, rfl⟩)
  by_cases hlive : ∃ row ∈ live marks, row.name = v.name
  · obtain ⟨row, hrow, hname⟩ := hlive
    have hpos := ((hn _).mp ⟨row, hrow, rfl⟩).1
    have hle := group_le_known h hrecords hrow
    -- A name that is live is registered as not applied.
    obtain ⟨w, hw, hwname⟩ := List.mem_map.mp (h.known row hrow)
    obtain ⟨hwmem, hunapplied⟩ := List.mem_filter.mp hw
    obtain rfl := List.inj_on_of_nodup_map hr.distinct hwmem hv (hwname.trans hname)
    have hgroup := (isApplied_iff w).not.mp (by simpa using hunapplied)
    rw [hid] at hle
    omega
  · have hmem : withRecord records v ∈ r.sorted.map (withRecord records) :=
      List.mem_map_of_mem (r.sorted_perm.mem_iff.mpr hv)
    have hle := (Migrations.lastGroupId_spec (List.ne_nil_of_mem hmem)).1 _ hmem
    rwa [withRecord_new hrecords fun row hrow hname => hlive ⟨row, hrow, hname⟩, hid] at hle

/-- A member of the last group that a migrator knows is live in the newest group, or it has that number
only because it is registered with it. -/
theorem mem_lastGroup_known (hr : r.Distinct) (h : WellKept r.openNames r.claimed marks)
    (hn : Numbered n marks) (hrecords : records.Perm ((live marks).map record))
    (hu : u ∈ (Migrations.lastGroup (r.sorted.map (withRecord records))).members) :
    (u.name ∈ r.claimed ∧ ∀ row ∈ live marks, row.name ≠ u.name) ∨
      ∃ row ∈ live marks, row.name = u.name ∧ row.group = u.group ∧ row.group.toInt = n ∧
        u.appliedAt = some row.second.toNat := by
  unfold Migrations.lastGroup at hu
  simp only at hu
  split at hu
  · cases hu
  next hnonzero =>
  obtain ⟨hmem, hgroup⟩ := List.mem_filter.mp hu
  have hid := (of_decide_eq_true hgroup).symm
  rcases mem_known h hrecords hmem with ⟨hregistered, hnew⟩ | ⟨row, hrow, hname, hrowGroup, hat⟩
  · have hlast := lastGroupId_registered hr h hn hrecords hregistered hid
    refine .inl ⟨List.mem_map_of_mem ?_, hnew⟩
    rw [hid] at hnonzero
    rw [Migrations.lastGroup, hlast, if_neg hnonzero]
    exact List.mem_filter.mpr ⟨hregistered, decide_eq_true rfl⟩
  · refine .inr ⟨row, hrow, hname, hrowGroup, ?_, hat⟩
    obtain ⟨hpos, hle⟩ := (hn _).mp ⟨row, hrow, rfl⟩
    obtain ⟨top, htop, hn'⟩ := (hn n).mpr ⟨by omega, Int.le_refl _⟩
    have hknown := group_le_known (r := r) h hrecords htop
    rw [hid, ← hrowGroup] at hknown
    omega

end Migrator

/-! ## The newest group -/

namespace MarkRow

variable {marks : List MarkRow} {row : MarkRow} {records : List Migration}

/-- The highest group of a live row; zero if there is none. -/
def newest (marks : List MarkRow) : Int := ((live marks).map (·.group.toInt)).foldr max 0

theorem le_foldr_max {a : Int} {as : List Int} (h : a ∈ as) : a ≤ as.foldr max 0 := by
  induction as with
  | nil => cases h
  | cons b as ih =>
    rw [List.foldr_cons]
    rcases List.mem_cons.mp h with rfl | h
    · omega
    · have := ih h
      omega

theorem foldr_max_mem (as : List Int) : as.foldr max 0 = 0 ∨ as.foldr max 0 ∈ as := by
  induction as with
  | nil => exact .inl rfl
  | cons b as ih =>
    rw [List.foldr_cons]
    rcases Int.le_total b (as.foldr max 0) with hle | hle
    · rw [Int.max_eq_right hle]
      exact ih.imp_right (List.mem_cons_of_mem _)
    · rw [Int.max_eq_left hle]
      exact .inr List.mem_cons_self

theorem newest_nonneg (marks : List MarkRow) : 0 ≤ newest marks := by
  unfold newest
  induction (live marks).map (·.group.toInt) with
  | nil => exact Int.le_refl _
  | cons a as ih =>
    rw [List.foldr_cons]
    omega

theorem newest_mem (marks : List MarkRow) :
    newest marks = 0 ∨ ∃ row ∈ live marks, row.group.toInt = newest marks :=
  (foldr_max_mem _).imp_right List.mem_map.mp

theorem le_newest (h : row ∈ live marks) : row.group.toInt ≤ newest marks :=
  le_foldr_max (List.mem_map_of_mem h)

/-- The number of the last group on record is that of the newest one. -/
theorem toInt_lastGroupId (hgroups : ∀ row ∈ live marks, 1 ≤ row.group.toInt)
    (hrecords : records.Perm ((live marks).map record)) :
    (Migrations.lastGroupId records).toInt = newest marks := by
  by_cases hlive : live marks = []
  · rw [hlive] at hrecords
    rw [hrecords.eq_nil, newest, hlive]
    decide
  · obtain ⟨row, hrow⟩ := List.exists_mem_of_ne_nil _ hlive
    have hpos := hgroups row hrow
    have hle := le_newest hrow
    refine Migrations.lastGroupId_eq (fun u hu => ?_) ?_
    · obtain ⟨next, hnext, rfl⟩ := (Migrator.mem_records hrecords).mp hu
      exact le_newest hnext
    · rcases newest_mem marks with hzero | ⟨next, hnext, hgroup⟩
      · omega
      · exact ⟨next.record, (Migrator.mem_records hrecords).mpr ⟨next, hnext, rfl⟩, hgroup⟩

end MarkRow

end ColumnWire
