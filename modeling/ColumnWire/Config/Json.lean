import ColumnWire.Config
import ColumnWire.Json

/-!
# Configurations as JSON

A configuration is an object with one field for each part, or an array of the parts in
order. Parts that are left out have their defaults; fields of other names are passed
over. A setting is written as its value alone, so numbers that fit come back signed.
-/
namespace ColumnWire

namespace Setting

def toJson : Setting → Json
  | .text v => .string v
  | .int v => .integer v.toInt
  | .uint v => .integer v.toNat
  | .bool v => .bool v

/-- The setting of a value, if it can be sent. -/
def ofJson? : Json → Option Setting
  | .string v => some (.text v)
  | .bool v => some (.bool v)
  | .integer v =>
    if -9223372036854775808 ≤ v ∧ v ≤ 9223372036854775807 then some (.int (Int64.ofInt v))
    else if 0 ≤ v ∧ v ≤ 18446744073709551615 then some (.uint (UInt64.ofNat v.toNat))
    else none
  | _ => none

end Setting

namespace Settings

def toJson (s : Settings) : Json := .object (s.entries.map fun (name, value) => (name, value.toJson))

/-- The settings of the fields of an object. Of two fields with one name the last one counts. -/
def ofFields? : List (String × Json) → Settings → Option Settings
  | [], s => some s
  | (name, value) :: fields, s => do
    let value ← Setting.ofJson? value
    ofFields? fields (s.set name value)

/-- The settings of an object. -/
def ofJson? : Json → Option Settings
  | .object fields => ofFields? fields {}
  | _ => none

end Settings

namespace Config

/-- The names of the parts, in order. -/
def fieldNames : List String :=
  ["addr", "database", "user", "password", "compression", "dial_timeout_ms", "read_timeout_ms",
    "write_timeout_ms", "pool_size", "pool_timeout_ms", "idle_timeout_ms", "max_exception_depth",
    "client_hostname", "settings"]

/-- The values of the parts, in order. -/
def fieldValues (c : Config) : List Json :=
  let word := fun (n : UInt64) => Json.integer n.toNat
  [.string c.address, .string c.database, .string c.user, .string c.password, .bool c.compression,
    word c.dialMillis, word c.readMillis, word c.writeMillis, word c.poolSize, word c.poolMillis,
    word c.idleMillis, word c.exceptionDepth, c.hostname.elim .null .string, c.settings.toJson]

def toJson (c : Config) : Json := .object (fieldNames.zip c.fieldValues)

def text? : Json → Option String
  | .string v => some v
  | _ => none

def bool? : Json → Option Bool
  | .bool v => some v
  | _ => none

/-- A number of 64 bits without sign. -/
def word? : Json → Option UInt64
  | .integer v => if 0 ≤ v ∧ v ≤ 18446744073709551615 then some (UInt64.ofNat v.toNat) else none
  | _ => none

/-- A text, or null for none. -/
def optionalText? : Json → Option (Option String)
  | .null => some none
  | .string v => some (some v)
  | _ => none

/-- The configuration with one part replaced, if the value can be that part. -/
def withField? (c : Config) (name : String) (v : Json) : Option Config :=
  match name with
  | "addr" => (text? v).map fun v => { c with address := v }
  | "database" => (text? v).map fun v => { c with database := v }
  | "user" => (text? v).map fun v => { c with user := v }
  | "password" => (text? v).map fun v => { c with password := v }
  | "compression" => (bool? v).map fun v => { c with compression := v }
  | "dial_timeout_ms" => (word? v).map fun v => { c with dialMillis := v }
  | "read_timeout_ms" => (word? v).map fun v => { c with readMillis := v }
  | "write_timeout_ms" => (word? v).map fun v => { c with writeMillis := v }
  | "pool_size" => (word? v).map fun v => { c with poolSize := v }
  | "pool_timeout_ms" => (word? v).map fun v => { c with poolMillis := v }
  | "idle_timeout_ms" => (word? v).map fun v => { c with idleMillis := v }
  | "max_exception_depth" => (word? v).map fun v => { c with exceptionDepth := v }
  | "client_hostname" => (optionalText? v).map fun v => { c with hostname := v }
  | "settings" => (Settings.ofJson? v).map fun v => { c with settings := v }
  | _ => some c

/-- Replace the parts that the given fields name. -/
def withFields? : List (String × Json) → Config → Option Config
  | [], c => some c
  | (name, v) :: fields, c => do
    let c ← c.withField? name v
    withFields? fields c

/-- The configuration that a value describes. No part may be named twice. -/
def ofJson? : Json → Option Config
  | .object fields =>
    if ((fields.map (·.1)).filter fieldNames.contains).Nodup then withFields? fields {} else none
  | .array items => if items.length ≤ fieldNames.length then withFields? (fieldNames.zip items) {} else none
  | _ => none

end Config

end ColumnWire
