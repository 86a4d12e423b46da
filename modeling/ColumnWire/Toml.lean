import ColumnWire.Toml.Value

/-!
# Documents of tables

A document is a sequence of lines: keys with values, and headers that say to which
table the keys below them belong. The whole is one object.
-/
namespace ColumnWire.Toml

/-- What has been read: all tables, and the path of the one that keys are added to. -/
structure Document where
  root : Entries := []
  current : List String := []

namespace Document

/-- Add a key with its value to the current table. -/
def add (d : Document) (path : List String) (value : Json) : Option Document :=
  (d.root.under (·.add true value path) d.current).map fun root => { d with root }

/-- Make the table of a header the current one. -/
def open? (d : Document) (change : String → Entries → Option Entries) (path : List String) :
    Option Document :=
  match path.getLast? with
  | none => none
  | some key => (d.root.under (change key) path.dropLast).map fun root => { root, current := path }

end Document

/-- Read a line that holds a key and a value. -/
def keyLine? (d : Document) (cs : List Char) : Option (Document × List Char) := do
  let (path, rest) ← key? cs
  match rest with
  | '=' :: rest =>
    let (value, rest) ← value? (2 * rest.length + 2) 0 (skipBlank rest)
    return (← d.add path value, ← lineEnd? rest)
  | _ => none

/-- Read a header, behind the brackets that start it. -/
def headerLine? (d : Document) (change : String → Entries → Option Entries) (stop cs : List Char) :
    Option (Document × List Char) := do
  let (path, rest) ← key? cs
  if stop.isPrefixOf rest then return (← d.open? change path, ← lineEnd? (rest.drop stop.length))
  else none

/-- Read lines up to the end of the document. -/
def linesFrom : (fuel : Nat) → Document → List Char → Option Document
  | 0, _, _ => none
  | fuel + 1, d, cs =>
    match skipBlank cs with
    | [] => some d
    | '#' :: rest => (lineEnd? ('#' :: rest)).bind (linesFrom fuel d)
    | '[' :: '[' :: rest =>
      (headerLine? d (fun key entries => entries.openNext key) [']', ']'] rest).bind fun (d, rest) => linesFrom fuel d rest
    | '[' :: rest =>
      (headerLine? d (fun key entries => entries.openTable key) [']'] rest).bind fun (d, rest) => linesFrom fuel d rest
    | cs =>
      match newline? cs with
      | some rest => linesFrom fuel d rest
      | none => (keyLine? d cs).bind fun (d, rest) => linesFrom fuel d rest

/-- The object that a document describes, if it is well formed. A mark of the byte order in front
is passed over. -/
def parse? (text : String) : Option Json :=
  let cs := match text.toList with
    | '\uFEFF' :: cs => cs
    | cs => cs
  (linesFrom (cs.length + 2) {} cs).map fun d => .object (closeAll d.root)

end ColumnWire.Toml
