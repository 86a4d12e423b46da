import ColumnWire.Block.Lines
import ColumnWire.Proofs.Block.Validity
import ColumnWire.Proofs.Decimal.Text
import ColumnWire.Proofs.Json.Printed
import ColumnWire.Proofs.Migration.Lines

/-!
# Rows as lines of JSON

A row is printed as an object with a field for each column. Every value that a cell can have is read back
from its text (`ColumnData.proper_value?`), and the fields are those of the columns in the order of their
names (`Block.perm_fields`). No control character is printed but the break behind each line, so whatever
stands in names and cells, the lines are the rows (`Block.json_lines_faithful`).
-/
namespace ColumnWire

namespace ColumnData

/-! ## Values are read back -/

theorem proper_ofReal {text : Option String}
    (h : ∀ t ∈ text, Json.number? t.toList = some (.real t, [])) : (ofReal text).Proper := by
  cases text with
  | none => exact .null
  | some t => exact .real (h t rfl)

/-- Integers of at most 64 bits fit, without a sign or with one. -/
theorem fits_toNat {w : Nat} (hw : w ≤ 64) (v : BitVec w) : Json.fits v.toNat = true := by
  have hlt : v.toNat < 2 ^ 64 := Nat.lt_of_lt_of_le v.isLt (Nat.pow_le_pow_right (by decide) hw)
  simp only [Json.fits, Bool.and_eq_true, decide_eq_true_eq]
  omega

theorem fits_toInt {w : Nat} (hw : w ≤ 64) (v : BitVec w) : Json.fits v.toInt = true := by
  have hlow := v.le_two_mul_toInt
  have hhigh := v.two_mul_toInt_lt
  have hpow : (2 : Int) ^ w ≤ 2 ^ 64 := by exact_mod_cast Nat.pow_le_pow_right (by decide) hw
  simp only [Json.fits, Bool.and_eq_true, decide_eq_true_eq]
  omega

theorem proper_scalarValue (kind : Scalar) (v : BitVec (8 * kind.size)) : (scalarValue kind v).Proper := by
  cases kind with
  | uint8 | uint16 | uint32 | uint64 => exact .integer (fits_toNat (by decide) v)
  | int8 | int16 | int32 | int64 => exact .integer (fits_toInt (by decide) v)
  | float32 => exact proper_ofReal fun _ ht => Ieee.number?_text32 ht
  | float64 => exact proper_ofReal fun _ ht => Ieee.number?_text64 ht
  | date | dateTime => exact .string _

/-- **The value of a cell is read back from its text**, whatever is in the cell. -/
theorem proper_value? {data : ColumnData} {row : Nat} {v : Json} (h : data.value? row = some v) : v.Proper := by
  cases data with
  | scalars kind cells =>
    obtain ⟨bits, -, rfl⟩ := Option.map_eq_some_iff.mp h
    exact proper_scalarValue kind bits
  | strings cells =>
    obtain ⟨text, -, rfl⟩ := Option.map_eq_some_iff.mp h
    exact .string text
  | fixedStrings width cells =>
    obtain ⟨bs, -, rfl⟩ := Option.map_eq_some_iff.mp h
    exact .string _

end ColumnData

namespace Block

variable {name : String} {value : Json} {fields : List (String × Json)}

/-! ## Fields in the order of their names -/

theorem perm_setField (hnew : ∀ field ∈ fields, field.1 ≠ name) :
    (setField name value fields).Perm ((name, value) :: fields) := by
  induction fields with
  | nil => exact .refl _
  | cons field fields ih =>
    obtain ⟨hne, hrest⟩ := List.forall_mem_cons.mp hnew
    rw [setField, if_neg hne]
    split
    · exact .refl _
    · exact ((ih hrest).cons field).trans (.swap ..)

theorem ascending_setField (hasc : fields.Pairwise fun f g => f.1 < g.1)
    (hnew : ∀ field ∈ fields, field.1 ≠ name) :
    (setField name value fields).Pairwise fun f g => f.1 < g.1 := by
  induction fields with
  | nil => exact List.pairwise_singleton _ _
  | cons field fields ih =>
    obtain ⟨hne, hnew⟩ := List.forall_mem_cons.mp hnew
    obtain ⟨hfirst, hasc'⟩ := List.pairwise_cons.mp hasc
    rw [setField, if_neg hne]
    split
    · next hless =>
      refine List.pairwise_cons.mpr ⟨List.forall_mem_cons.mpr ⟨hless, fun g hg => ?_⟩, hasc⟩
      exact String.lt_trans hless (hfirst g hg)
    · next hnot =>
      have hless : field.1 < name :=
        String.not_le.mp fun hle => hne (String.le_antisymm (String.not_lt.mp hnot) hle)
      refine List.pairwise_cons.mpr ⟨fun g hg => ?_, ih hasc' hnew⟩
      rcases List.mem_cons.mp ((perm_setField hnew).mem_iff.mp hg) with rfl | hg
      · exact hless
      · exact hfirst g hg

/-- A field is found by its name. -/
theorem field?_of_mem (hasc : fields.Pairwise fun f g => f.1 < g.1) (hmem : (name, value) ∈ fields) :
    Json.field? name fields = some value := by
  induction fields with
  | nil => cases hmem
  | cons field fields ih =>
    obtain ⟨hfirst, hasc⟩ := List.pairwise_cons.mp hasc
    rcases List.mem_cons.mp hmem with rfl | hmem
    · simp [Json.field?]
    · have hne : field.1 ≠ name := fun heq => String.lt_irrefl _ (heq ▸ hfirst _ hmem)
      have hrest := ih hasc hmem
      simpa [Json.field?, hne] using hrest

/-- The fields that are set for columns of different names: those from before, and one for each column. -/
theorem foldl_setField (value : Column → Json) (cs : List Column)
    (hasc : fields.Pairwise fun f g => f.1 < g.1) (hnames : (cs.map (·.name)).Nodup)
    (hnew : ∀ c ∈ cs, ∀ field ∈ fields, field.1 ≠ c.name) :
    (cs.foldl (fun fields c => setField c.name (value c) fields) fields).Pairwise (fun f g => f.1 < g.1) ∧
      (cs.foldl (fun fields c => setField c.name (value c) fields) fields).Perm
        (fields ++ cs.map fun c => (c.name, value c)) := by
  induction cs generalizing fields with
  | nil => exact ⟨hasc, by rw [List.map_nil, List.append_nil]; exact .refl _⟩
  | cons c cs ih =>
    obtain ⟨hfirst, hnew⟩ := List.forall_mem_cons.mp hnew
    obtain ⟨hother, hnames⟩ := List.nodup_cons.mp hnames
    have hset : (setField c.name (value c) fields).Perm ((c.name, value c) :: fields) := perm_setField hfirst
    obtain ⟨hasc', hperm⟩ := ih (ascending_setField hasc hfirst) hnames fun d hd field hfield => by
      rcases List.mem_cons.mp (hset.mem_iff.mp hfield) with rfl | hfield
      · exact fun heq => hother (List.mem_map.mpr ⟨d, hd, heq.symm⟩)
      · exact hnew d hd field hfield
    refine ⟨hasc', hperm.trans ?_⟩
    rw [List.map_cons]
    exact (hset.append_right _).trans List.perm_middle.symm

variable {b : Block} {row : Nat}

theorem ascending_fields (hnames : (b.columns.toList.map (·.name)).Nodup) (row : Nat) :
    (b.fields row).Pairwise fun f g => f.1 < g.1 :=
  (foldl_setField _ _ .nil hnames fun _ _ => List.forall_mem_nil _).1

/-- **The fields of a row are those of its columns.** -/
theorem perm_fields (hnames : (b.columns.toList.map (·.name)).Nodup) (row : Nat) :
    (b.fields row).Perm (b.columns.toList.map fun c => (c.name, (c.data.value? row).getD .null)) :=
  (foldl_setField _ _ .nil hnames fun _ _ => List.forall_mem_nil _).2

/-- A column of a table has a value in every row. -/
theorem Valid.exists_value (hb : b.Valid) (hrow : row < b.rows) {c : Column} (hc : c ∈ b.columns) :
    ∃ v, c.data.value? row = some v := by
  refine Option.ne_none_iff_exists'.mp fun hnone => ?_
  have hsize := (c.data.value?_eq_none_iff row).mp hnone
  have hrows := (hb c hc).size_eq
  omega

theorem proper_fields (hnames : (b.columns.toList.map (·.name)).Nodup) (row : Nat) :
    (Json.object (b.fields row)).Proper := by
  refine .object fun field hfield => ?_
  obtain ⟨c, -, rfl⟩ := List.mem_map.mp ((perm_fields hnames row).mem_iff.mp hfield)
  cases hvalue : c.data.value? row with
  | none => exact .null
  | some v => exact ColumnData.proper_value? hvalue

/-! ## Lines as they are printed -/

/-- Lines with a break behind each. -/
def printed (lines : List String) : List Char := lines.flatMap fun line => line.toList ++ ['\n']

/-- What is printed has the lines that were printed, if there is no break in them. -/
theorem lines_printed {lines : List String} (h : ∀ line ∈ lines, '\n' ∉ line.toList) :
    Statement.lines (printed lines) = lines.map fun line => line.toList ++ ['\n'] := by
  induction lines with
  | nil => rfl
  | cons line lines ih =>
    obtain ⟨hline, hlines⟩ := List.forall_mem_cons.mp h
    have hcons : printed (line :: lines) = line.toList ++ '\n' :: printed lines := by
      rw [printed, List.flatMap_cons, List.append_assoc, List.singleton_append, printed]
    rw [hcons, Statement.lines_append hline, ih hlines, List.map_cons]

/-- **JSON output is faithful.** Print the rows of a table whose columns have different names. There are as
many lines as rows, whatever stands in names and cells. Each line holds no control character and is the
text of one object, which is read back from it: its names are those of the columns, in ascending order,
and under the name of a column stands the value that the column has in that row. -/
theorem json_lines_faithful (b : Block) (hb : b.Valid) (hnames : (b.columns.toList.map (·.name)).Nodup) :
    (b.lines true).length = b.rows ∧
      Statement.lines (printed (b.lines true)) = (b.lines true).map (fun line => line.toList ++ ['\n']) ∧
      ∀ row < b.rows, ∃ line fields, (b.lines true)[row]? = some line ∧
        Json.Printable line.toList ∧ line = (Json.object fields).render ∧
        Json.parse? line = some (.object fields) ∧
        (fields.map (·.1)).Perm (b.columns.toList.map (·.name)) ∧ (fields.map (·.1)).Pairwise (· < ·) ∧
        ∀ c ∈ b.columns, ∃ v, c.data.value? row = some v ∧ Json.field? c.name fields = some v := by
  have hproper := proper_fields hnames
  refine ⟨by simp [lines], lines_printed fun line hline => ?_, fun row hrow => ?_⟩
  · obtain ⟨row, -, rfl⟩ := List.mem_map.mp hline
    exact (hproper row).printable.one_line
  · refine ⟨b.jsonLine row, b.fields row, by simp [lines, hrow], (hproper row).printable, rfl,
      Json.parse?_render (hproper row), ?_, List.pairwise_map.mpr (ascending_fields hnames row),
      fun c hc => ?_⟩
    · have hperm := (perm_fields hnames row).map Prod.fst
      rwa [List.map_map] at hperm
    · obtain ⟨v, hv⟩ := hb.exists_value hrow hc
      refine ⟨v, hv, field?_of_mem (ascending_fields hnames row) ((perm_fields hnames row).mem_iff.mpr ?_)⟩
      exact List.mem_map.mpr ⟨c, Array.mem_toList_iff.mpr hc, by rw [hv, Option.getD_some]⟩

/-- A text and a name with line breaks, a quote, a real number, and one that is no number. -/
theorem json_lines_faithful_breaks :
    let b : Block := ⟨2, #[⟨"b\n", "String", .strings #["x\ny", "\""]⟩,
      ⟨"a", "Float64", .scalars .float64 #[0x3FF8000000000000#64, 0x7FF8000000000000#64]⟩]⟩
    b.Valid ∧ (b.columns.toList.map (·.name)).Nodup ∧
      b.lines true = ["\x7b\"a\":1.5,\"b\\n\":\"x\\ny\"\x7d", "\x7b\"a\":null,\"b\\n\":\"\\\"\"\x7d"] ∧
      ∃ fields, Json.parse? "\x7b\"a\":1.5,\"b\\n\":\"x\\ny\"\x7d" = some (.object fields) ∧
        Json.field? "b\n" fields = some (.string "x\ny") := by
  intro b
  have hb : b.Valid := by
    intro c hc
    simp only [b, List.mem_toArray, List.mem_cons, List.not_mem_nil, or_false] at hc
    rcases hc with rfl | rfl
    · exact ⟨by decide, by decide, by decide +kernel, rfl, rfl⟩
    · exact ⟨by decide, by decide, by decide +kernel, rfl, rfl⟩
  have hnames : (b.columns.toList.map (·.name)).Nodup := by decide
  have hlines : b.lines true =
      ["\x7b\"a\":1.5,\"b\\n\":\"x\\ny\"\x7d", "\x7b\"a\":null,\"b\\n\":\"\\\"\"\x7d"] := by
    decide +kernel
  obtain ⟨line, fields, hline, -, -, hread, -, -, hvalues⟩ :=
    (json_lines_faithful b hb hnames).2.2 0 (by decide)
  obtain ⟨v, hv, hfield⟩ := hvalues _ (Array.mem_of_getElem? (i := 0) rfl)
  rw [hlines] at hline
  cases hline
  cases hv
  exact ⟨hb, hnames, hlines, fields, hread, hfield⟩

end Block

end ColumnWire
