import ColumnWire.Text.Composed.Table
import ColumnWire.Text.Mark

/-!
# Composed text

The same letter with the same marks can be written as one character or as several. In
composed form all that can be one character is one, and marks stand in their usual order,
so that texts that look alike are alike.
-/
namespace ColumnWire.Composed

/-! ## Korean syllables

A syllable is made of a lead, a vowel and perhaps a trail; the code points follow from those of
the parts. -/

def firstLead : Nat := 0x1100
def firstVowel : Nat := 0x1161
/-- One before the first trail, for no trail. -/
def noTrail : Nat := 0x11A7
def firstSyllable : Nat := 0xAC00
def leads : Nat := 19
def vowels : Nat := 21
/-- The trails, and none. -/
def trails : Nat := 28

/-- The code points of the parts of a syllable. -/
def syllableParts? (n : Nat) : Option (List Nat) :=
  if n < firstSyllable ∨ firstSyllable + leads * vowels * trails ≤ n then none
  else
    let i := n - firstSyllable
    let trail := if i % trails = 0 then [] else [noTrail + i % trails]
    some ([firstLead + i / (vowels * trails), firstVowel + i / trails % vowels] ++ trail)

/-- The syllable of a lead and a vowel, or of a syllable without a trail and a trail. -/
def syllable? (a b : Nat) : Option Nat :=
  if firstLead ≤ a ∧ a < firstLead + leads ∧ firstVowel ≤ b ∧ b < firstVowel + vowels then
    some (firstSyllable + ((a - firstLead) * vowels + (b - firstVowel)) * trails)
  else if firstSyllable ≤ a ∧ a < firstSyllable + leads * vowels * trails ∧ (a - firstSyllable) % trails = 0 ∧
      noTrail < b ∧ b < noTrail + trails then
    some (a + (b - noTrail))
  else none

/-! ## Taking apart -/

/-- A character taken apart. -/
def parts (c : Char) : List Char :=
  if c.toNat < 0xC0 then [c]
  else
    match syllableParts? c.toNat, CodeTable.entry? joined c, CodeTable.entry? replaced c with
    | some ns, _, _ | none, some ns, _ | none, none, some ns => CodeTable.text ns
    | none, none, none => [c]

/-- Add a character to a text whose last character comes first. A mark moves before those of
higher classes. -/
def place (c : Char) : List Char → List Char
  | [] => [c]
  | d :: ds =>
    if Mark.place c ≠ 0 ∧ Mark.place c < Mark.place d then d :: place c ds else c :: d :: ds

/-- A text taken apart, with its marks in their usual order. -/
def apart (cs : List Char) : List Char :=
  ((cs.flatMap parts).foldl (fun done c => place c done) []).reverse

/-! ## Putting together -/

/-- The character that stands for two others. -/
def pair? (a b : Char) : Option Char :=
  match syllable? a.toNat b.toNat with
  | some n => some (Char.ofNat n)
  | none =>
    let ns := (parts a ++ [b]).map Char.toNat
    ((joined.find? fun row => row.drop 1 = ns).bind List.head?).map Char.ofNat

/-- A text that is put together from its start. -/
structure Partial where
  /-- What is done, with the last character first. -/
  done : List Char := []
  /-- The character that takes up what follows. -/
  base : Option Char := none
  /-- The marks after it that it has not taken up, the last one first. -/
  marks : List Char := []

namespace Partial

/-- All characters, the last one first. -/
def all (p : Partial) : List Char := p.marks ++ p.base.toList ++ p.done

/-- Whether the base is still next to a character, past marks of lower classes only. -/
def reaches (p : Partial) (c : Char) : Bool :=
  match p.marks with
  | [] => true
  | mark :: _ => Mark.place mark < Mark.place c

/-- Add a character. -/
def add (p : Partial) (c : Char) : Partial :=
  match if p.reaches c then p.base.bind (pair? · c) else none with
  | some whole => { p with base := some whole }
  | none =>
    if Mark.place c = 0 then { done := p.all, base := some c }
    else { p with marks := c :: p.marks }

end Partial

/-- The composed form of a text. -/
def form (cs : List Char) : List Char :=
  if cs.all (·.toNat < 0xC0) then cs else ((apart cs).foldl Partial.add {}).all.reverse

end ColumnWire.Composed
