import ColumnWire.Json

/-!
# Tables under construction

A document fills its tables bit by bit. What brought a table about decides what may
still be added: a header may open a table that only other headers have named so far,
and keys with points may only add to tables that such keys have made.
-/
namespace ColumnWire.Toml

/-- What brought a table about. -/
inductive Mark where
  /-- It was named on the way to another table. -/
  | passing
  /-- A key with points. -/
  | dotted
  /-- Its own header. -/
  | header
deriving DecidableEq

/-- What stands under a key. -/
inductive Node where
  | value (v : Json)
  | table (mark : Mark) (entries : List (String × Node))
  /-- A list of tables, of which the last can still be filled. -/
  | tables (earlier : List Json) (last : List (String × Node))

/-- The keys of a table with what stands under them, in order. -/
abbrev Entries := List (String × Node)

mutual

/-- The finished value. -/
def Node.close : Node → Json
  | .value v => v
  | .table _ entries => .object (closeAll entries)
  | .tables earlier last => .array (earlier ++ [.object (closeAll last)])

/-- The finished values of all keys. -/
def closeAll : List (String × Node) → List (String × Json)
  | [] => []
  | (key, node) :: entries => (key, node.close) :: closeAll entries

end

namespace Entries

def find? (entries : Entries) (key : String) : Option Node :=
  (List.find? (fun entry => entry.1 = key) entries).map (·.2)

/-- Replace what stands under a key, or add the key at the end. -/
def put (key : String) (node : Node) : Entries → Entries
  | [] => [(key, node)]
  | entry :: entries => if entry.1 = key then (key, node) :: entries else entry :: put key node entries

/-- Add a value under a key with points. Only a table that is `ready` takes a plain key, and none
takes a key twice. -/
def add (ready : Bool) (value : Json) : (path : List String) → Entries → Option Entries
  | [], _ => none
  | [key], entries => if ready && (entries.find? key).isNone then some (entries.put key (.value value)) else none
  | key :: path, entries =>
    match entries.find? key with
    | none => (add true value path []).map fun sub => entries.put key (.table .dotted sub)
    | some (.value _) => none
    | some (.tables earlier last) =>
      (add false value path last).map fun last => entries.put key (.tables earlier last)
    | some (.table mark sub) =>
      if mark = .header then none
      else (add (mark = .dotted) value path sub).map fun sub => entries.put key (.table mark sub)

/-- Change the entries that stand at the end of a path. Tables on the way are made if missing. -/
def under (change : Entries → Option Entries) : (path : List String) → Entries → Option Entries
  | [], entries => change entries
  | key :: path, entries =>
    match entries.find? key with
    | none => (under change path []).map fun sub => entries.put key (.table .passing sub)
    | some (.value _) => none
    | some (.tables earlier last) =>
      (under change path last).map fun last => entries.put key (.tables earlier last)
    | some (.table mark sub) => (under change path sub).map fun sub => entries.put key (.table mark sub)

/-- Open a table for the header that ends in a key. -/
def openTable (key : String) (entries : Entries) : Option Entries :=
  match entries.find? key with
  | none => some (entries.put key (.table .header []))
  | some (.table .passing sub) => some (entries.put key (.table .header sub))
  | _ => none

/-- Open the next table of a list for the header that ends in a key. -/
def openNext (key : String) (entries : Entries) : Option Entries :=
  match entries.find? key with
  | none => some (entries.put key (.tables [] []))
  | some (.tables earlier last) =>
    some (entries.put key (.tables (earlier ++ [.object (closeAll last)]) []))
  | _ => none

end Entries

end ColumnWire.Toml
