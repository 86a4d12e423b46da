import ColumnWire.Text.Composed
import ColumnWire.Text.Direction
import ColumnWire.Text.Joining
import ColumnWire.Text.Punycode
import ColumnWire.Url.DomainName.Table

/-!
# Names of the web

A name is a sequence of labels with points between them. It may be written in any script
and style; before it is looked up it is brought into one form, in plain letters. Labels
that cannot be brought into that form, or could be taken for others, are refused.
-/
namespace ColumnWire.DomainName

/-- A label of a name. -/
abbrev Label := List Char

/-! ## One form -/

/-- What becomes of a character, if it may occur. -/
def image? (c : Char) : Option (List Char) :=
  if c.isLower || c.isDigit || c = '-' || c = '.' then some [c]
  else if CodeTable.covers excludedRanges c then none
  else if CodeTable.covers ignoredRanges c then some []
  else
    let inRow : List Nat → Bool
      | first :: last :: _ => first ≤ c.toNat && c.toNat ≤ last
      | _ => false
    let shift := (shifted.find? inRow).bind fun
      | [first, _, image] => some [image + (c.toNat - first)]
      | _ => none
    let alternate := (alternating.find? inRow).bind fun row =>
      if (c.toNat - row.headD 0) % 2 = 0 then some [c.toNat + 1] else none
    match shift, alternate, CodeTable.entry? spelled c with
    | some ns, _, _ | none, some ns, _ | none, none, some ns => some (CodeTable.text ns)
    | none, none, none => some [c]

/-- Whether a character stays what it is. -/
def isPlain (c : Char) : Bool := image? c = some [c]

/-- A name in its one form, if all its characters may occur. -/
def prepared? (cs : List Char) : Option (List Char) :=
  (cs.mapM image?).map fun images => Composed.form images.flatten

/-- Whether a character is one of the first 128. -/
def isAscii (c : Char) : Bool := c.toNat < 128

/-! ## Labels -/

/-- The start of a label that is written in plain letters. -/
def mark : List Char := ['x', 'n', '-', '-']

/-- The longest label in plain letters that is read, without its start. -/
def longestRead : Nat := 2000

/-- The longest label that is written in plain letters. -/
def longestWritten : Nat := 1000

/-- The label that is meant by one in plain letters. It has to hold something that plain letters
cannot show, in the form that it would have been brought into. -/
def unmarked? (cs : Label) : Option Label :=
  if cs.all isAscii ∧ cs ≠ [] ∧ cs.getLast? ≠ some '-' ∧ cs.length ≤ longestRead then
    (Punycode.decode? cs).filter fun label => label.all isPlain && Composed.form label = label
  else none

/-- The label that is meant by a label. -/
def meant? (cs : Label) : Option Label := if mark.isPrefixOf cs then unmarked? (cs.drop 4) else some cs

/-- Whether a label can be used where no character is forbidden. -/
def isSound (label : Label) : Bool :=
  !(label.head?.map Mark.isMark).getD false && Joining.fits label &&
    (label.all isAscii || label.length ≤ longestWritten)

/-- A label in plain letters. -/
def Label.written (label : Label) : List Char :=
  if label.all isAscii then label else mark ++ Punycode.encode label

/-! ## Names -/

/-- The labels of a name, if it can be used where some characters are forbidden. -/
def labels? (forbidden : Char → Bool) (name : List Char) : Option (List Label) := do
  let labels ← ((← prepared? name).splitOnP (· = '.')).mapM meant?
  if labels.all (fun label => isSound label && !label.any forbidden) ∧
      (labels.any Direction.turns → labels.all Direction.fits) then
    return labels
  else none

/-- A name in plain letters. -/
def written (labels : List Label) : List Char := ['.'].intercalate (labels.map Label.written)

end ColumnWire.DomainName
