import ColumnWire.Bytes.Encode

/-!
# Settings

Settings travel with every query: names, each with a value of one of four kinds, in the
order in which they were first set. On the wire a value carries no mark of its kind.
-/
namespace ColumnWire

/-- The value of a setting. -/
inductive Setting where
  | text (value : String)
  | int (value : Int64)
  | uint (value : UInt64)
  | bool (value : Bool)
deriving Repr, DecidableEq, Inhabited

namespace Setting

/-- A value in words. -/
def display : Setting → String
  | .text v => v
  | .int v => toString v.toInt
  | .uint v => toString v.toNat
  | .bool v => if v then "true" else "false"

/-- A value on the wire. Negative numbers wrap around. -/
def encode : Setting → Bytes
  | .text v => Encode.text v
  | .int v => Encode.varint v.toUInt64
  | .uint v => Encode.varint v
  | .bool v => Encode.bool v

end Setting

/-- Names with values, in order. -/
structure Settings where
  entries : List (String × Setting) := []
deriving Repr, DecidableEq, Inhabited

namespace Settings

/-- The value of a name. -/
def get? (s : Settings) (name : String) : Option Setting :=
  (s.entries.find? fun entry => entry.1 = name).map (·.2)

/-- The entries with a value in place of that of the first entry of a name, or at the end. -/
def setIn (name : String) (value : Setting) : List (String × Setting) → List (String × Setting)
  | [] => [(name, value)]
  | entry :: entries =>
    if entry.1 = name then (name, value) :: entries else entry :: setIn name value entries

/-- Give a name a value. A name that has one keeps its place. -/
def set (s : Settings) (name : String) (value : Setting) : Settings := ⟨setIn name value s.entries⟩

/-- Take a name out. -/
def erase (s : Settings) (name : String) : Settings :=
  ⟨s.entries.eraseP fun entry => entry.1 = name⟩

/-- Take a name out, and give the value that it had. -/
def remove (s : Settings) (name : String) : Option Setting × Settings :=
  match s.entries.findIdx? fun entry => entry.1 = name with
  | some i => (s.entries[i]?.map (·.2), ⟨s.entries.eraseIdx i⟩)
  | none => (none, s)

theorem remove_eq (s : Settings) (name : String) : s.remove name = (s.get? name, s.erase name) := by
  rw [get?, erase, remove, List.find?_eq_bind_findIdx?_getElem?, List.eraseP_eq_eraseIdx]
  cases s.entries.findIdx? fun entry => entry.1 = name with
  | some i => rfl
  | none => rfl

/-- Set all given names in order. -/
def ofList (entries : List (String × Setting)) : Settings :=
  entries.foldl (fun s (name, value) => s.set name value) {}

/-- Names and values up to an empty name. -/
def encode (s : Settings) : Bytes :=
  (s.entries.flatMap fun (name, value) => Encode.text name ++ value.encode) ++ Encode.text ""

end Settings

end ColumnWire
