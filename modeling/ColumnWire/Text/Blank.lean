/-!
# Blanks and trimming

The blanks are the characters with the `White_Space` property. Texts are trimmed
as lists of characters: `trim_eq_self` says when nothing is taken off.
-/
namespace ColumnWire.Blank

/-- Whether a character is a blank. -/
def isBlank (c : Char) : Bool :=
  let n := c.toNat
  (9 ≤ n && n ≤ 13) || n = 0x20 || n = 0x85 || n = 0xA0 || n = 0x1680 || (0x2000 ≤ n && n ≤ 0x200A) ||
    n = 0x2028 || n = 0x2029 || n = 0x202F || n = 0x205F || n = 0x3000

/-- Take the blanks off the end. -/
def trimEnd (cs : List Char) : List Char := (cs.reverse.dropWhile isBlank).reverse

/-- Take the blanks off both ends. -/
def trim (cs : List Char) : List Char := trimEnd (cs.dropWhile isBlank)

/-- Take the blanks off both ends of a text. -/
def trimText (s : String) : String := String.ofList (trim s.toList)

@[simp] theorem trim_nil : trim [] = [] := rfl

/-- A text that neither starts nor ends with a blank keeps all its characters. -/
theorem trim_eq_self {cs : List Char} (hfirst : ∀ c ∈ cs.head?, isBlank c = false)
    (hlast : ∀ c ∈ cs.getLast?, isBlank c = false) : trim cs = cs := by
  have hstart : cs.dropWhile isBlank = cs := by
    cases cs with
    | nil => rfl
    | cons c cs => simp [hfirst c rfl]
  rw [trim, hstart, trimEnd]
  cases h : cs.reverse with
  | nil => simp_all
  | cons c rest =>
    have hc : isBlank c = false := hlast c (by rw [← List.head?_reverse, h]; rfl)
    rw [List.dropWhile_cons, hc, if_neg (by simp), ← h, List.reverse_reverse]

end ColumnWire.Blank
