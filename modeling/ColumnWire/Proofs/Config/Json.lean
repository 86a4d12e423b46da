import ColumnWire.Config.Json
import ColumnWire.Proofs.Json.Text
import ColumnWire.Proofs.Settings.Built

/-!
# Configurations that are written down as JSON

A setting is written as its value alone, and the kind of a number is told from the number when it is read.
So a number without a sign comes back with one if it fits (`Setting.signed`), which is the same on the
wire; all else is read back as it was (`Config.ofText?_render`).
-/
namespace ColumnWire

open Json

namespace Setting

/-- A setting as it comes back: a number that fits has a sign. -/
def signed : Setting → Setting
  | .uint v => if v.toNat < 0x8000000000000000 then .int (.ofNat v.toNat) else .uint v
  | .text v => .text v
  | .int v => .int v
  | .bool v => .bool v

/-- **The kind of a setting is told from its value.** -/
theorem ofJson?_toJson (v : Setting) : ofJson? v.toJson = some v.signed := by
  cases v with
  | text v => rfl
  | bool v => rfl
  | int v =>
    have hlow := v.le_toInt
    have hhigh := v.toInt_lt
    rw [toJson, ofJson?, if_pos (by omega), Int64.ofInt_toInt]
    rfl
  | uint v =>
    have hlimit := v.toNat_lt
    rw [toJson, ofJson?, signed]
    by_cases hfits : v.toNat < 0x8000000000000000
    · rw [if_pos hfits, if_pos (by omega), Int64.ofInt_eq_ofNat]
    · rw [if_neg hfits, if_neg (by omega), if_pos (by omega), Int.toNat_natCast, UInt64.ofNat_toNat]

@[simp] theorem encode_signed (v : Setting) : v.signed.encode = v.encode := by
  cases v with
  | uint v =>
    rw [signed]
    split
    · show Encode.varint (UInt64.ofNat v.toNat) = Encode.varint v
      rw [UInt64.ofNat_toNat]
    · rfl
  | _ => rfl

@[simp] theorem signed_signed (v : Setting) : v.signed.signed = v.signed := by
  cases v with
  | uint v =>
    by_cases hfits : v.toNat < 0x8000000000000000
    · simp only [signed, if_pos hfits]
    · simp only [signed, if_neg hfits]
  | _ => rfl

theorem proper_toJson (v : Setting) : Proper v.toJson := by
  cases v with
  | text v => exact .string v
  | bool v => exact .bool v
  | int v =>
    refine .integer ?_
    have hlow := v.le_toInt
    have hhigh := v.toInt_lt
    simp only [fits, Bool.and_eq_true, decide_eq_true_eq]
    omega
  | uint v =>
    refine .integer ?_
    have hlimit := v.toNat_lt
    simp only [fits, Bool.and_eq_true, decide_eq_true_eq]
    omega

end Setting

namespace Settings

variable {entries : List (String × Setting)}

/-- Settings as they come back. -/
def signed (s : Settings) : Settings := ⟨s.entries.map fun (name, value) => (name, value.signed)⟩

/-- **The fields of an object are the settings in their order**, if their names are different. -/
theorem ofFields?_map (front : List (String × Setting))
    (hdistinct : ((front ++ entries).map (·.1)).Nodup) :
    ofFields? (entries.map fun (name, value) => (name, value.toJson)) ⟨front⟩ =
      some ⟨front ++ entries.map fun (name, value) => (name, value.signed)⟩ := by
  induction entries generalizing front with
  | nil => rw [List.map_nil, List.map_nil, List.append_nil]; rfl
  | cons entry entries ih =>
    obtain ⟨name, value⟩ := entry
    have hmore : ((front ++ [(name, value.signed)] ++ entries).map (·.1)).Nodup := by
      simpa using hdistinct
    rw [List.map_cons, ofFields?, Setting.ofJson?_toJson]
    show ofFields? _ ⟨setIn name value.signed front⟩ = _
    rw [setIn_new (not_mem_front hdistinct), ih _ hmore, List.append_assoc, List.singleton_append, List.map_cons]

theorem ofJson?_toJson {s : Settings} (h : s.names.Nodup) : ofJson? s.toJson = some s.signed :=
  ofFields?_map [] h

@[simp] theorem names_signed (s : Settings) : s.signed.names = s.names := by
  simp [names, signed, Function.comp_def]

@[simp] theorem encode_signed (s : Settings) : s.signed.encode = s.encode := by
  simp [encode, signed, List.flatMap_map]

@[simp] theorem signed_signed (s : Settings) : s.signed.signed = s.signed := by
  simp [signed, Function.comp_def]

theorem proper_toJson (s : Settings) : Proper s.toJson := by
  refine .object fun field hfield => ?_
  obtain ⟨entry, -, rfl⟩ := List.mem_map.mp hfield
  exact entry.2.proper_toJson

end Settings

namespace Config

variable {c : Config}

/-- A configuration as it comes back. -/
def signed (c : Config) : Config := { c with settings := c.settings.signed }

/-- The configuration that a text in JSON describes. -/
def ofText? (text : String) : Option Config := (Json.parse? text).bind ofJson?

theorem word?_integer (n : UInt64) : word? (.integer n.toNat) = some n := by
  have hlimit := n.toNat_lt
  rw [word?, if_pos (by omega), Int.toNat_natCast, UInt64.ofNat_toNat]

theorem optionalText?_elim (hostname : Option String) :
    optionalText? (hostname.elim .null .string) = some hostname := by
  cases hostname <;> rfl

theorem ofJson?_toJson (h : c.settings.names.Nodup) : ofJson? c.toJson = some c.signed := by
  have hnames : (fieldNames.zip c.fieldValues).map (·.1) = fieldNames := rfl
  have hdistinct : (fieldNames.filter fieldNames.contains).Nodup := by decide
  rw [toJson, ofJson?, hnames, if_pos hdistinct]
  simp only [fieldNames, fieldValues, List.zip_cons_cons, List.zip_nil_right, withFields?, withField?, text?, bool?,
    word?_integer, optionalText?_elim, Settings.ofJson?_toJson h, Option.map_some, Option.bind_eq_bind,
    Option.bind_some]
  rfl

theorem proper_toJson (c : Config) : Proper c.toJson := by
  have hword (n : UInt64) : Proper (.integer n.toNat) := (Setting.uint n).proper_toJson
  have hall : ∀ v ∈ c.fieldValues, Proper v := by
    simp only [fieldValues, List.forall_mem_cons]
    refine ⟨.string _, .string _, .string _, .string _, .bool _, hword _, hword _, hword _, hword _, hword _,
      hword _, hword _, ?_, c.settings.proper_toJson, List.forall_mem_nil _⟩
    cases c.hostname with
    | none => exact .null
    | some name => exact .string name
  exact .object fun field hfield => hall _ (List.of_mem_zip hfield).2

theorem ofText?_toJson (h : c.settings.names.Nodup) : ofText? c.toJson.render = some c.signed := by
  rw [ofText?, parse?_render c.proper_toJson, Option.bind_some, ofJson?_toJson h]

theorem validate_signed (c : Config) : c.signed.validate = c.validate := by
  unfold validate fault?
  rfl

/-- **A configuration survives JSON.** Whatever its parts are, and whatever settings it was given and has
lost again, the text that describes it is read, and what is read is the configuration itself, but for
numbers without a sign that fit with one. The names of the settings keep their order and the settings are the
same bytes on the wire; it is accepted as before; and once it was read, it is read back as it is. -/
theorem ofText?_render (c : Config) (h : c.settings.Built) :
    ofText? c.toJson.render = some c.signed ∧ c.signed.settings.names = c.settings.names ∧
      c.signed.settings.encode = c.settings.encode ∧ c.signed.validate = c.validate ∧
      ofText? c.signed.toJson.render = some c.signed := by
  have hagain : c.signed.signed = c.signed := by
    rw [signed, signed, Settings.signed_signed]
  refine ⟨ofText?_toJson h.distinct, Settings.names_signed _, Settings.encode_signed _, validate_signed c, ?_⟩
  have hdistinct : c.signed.settings.names.Nodup := by
    rw [signed, Settings.names_signed]
    exact h.distinct
  rw [ofText?_toJson hdistinct, hagain]

/-- Texts that look like numbers stay texts, and of two numbers without a sign the one that fits has one
afterwards. -/
theorem ofText?_render_kinds :
    let settings := ((((((({} : Settings).set "gone" (.bool true)).set "limit" (.uint 5)).set
      "hash" (.uint 9223372036854775808)).set "digits" (.text "5")).set "offset" (.int (-3))).set
      "\"quoted\"\n" (.bool false)).erase "gone"
    let c : Config := { address := "host:1", password := "a\\b\u0001", hostname := some "é", settings }
    c.settings.Built ∧
      ofText? c.toJson.render = some { c with settings := ⟨[("limit", .int 5),
        ("hash", .uint 9223372036854775808), ("digits", .text "5"), ("offset", .int (-3)),
        ("\"quoted\"\n", .bool false)]⟩ } := by
  intro settings c
  have hbuilt : c.settings.Built :=
    (((((Settings.Built.empty.set _ _).set _ _).set _ _).set _ _).set _ _).set _ _ |>.erase _
  refine ⟨hbuilt, (ofText?_render c hbuilt).1.trans ?_⟩
  decide

end Config

end ColumnWire
