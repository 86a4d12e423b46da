import ColumnWire.Proofs.Json.Text

/-!
# JSON stands on one line

No control character occurs in the text of a value (`Proper.printable`): those in texts are escaped, and
numbers are spelled with digits, signs, a point and the letter of an exponent. So whatever a value
holds, its text is one line.
-/
namespace ColumnWire.Json

variable {c : Char} {cs ds left : List Char} {value : Json} {text : String}

/-- There is no control character. -/
def Printable (cs : List Char) : Prop := ∀ c ∈ cs, 0x20 ≤ c.toNat

instance : Decidable (Printable cs) := List.decidableBAll (fun c : Char => 0x20 ≤ c.toNat) cs

theorem Printable.nil : Printable [] := List.forall_mem_nil _

theorem Printable.append (hcs : Printable cs) (hds : Printable ds) : Printable (cs ++ ds) :=
  List.forall_mem_append.mpr ⟨hcs, hds⟩

theorem Printable.cons (hc : 0x20 ≤ c.toNat) (hcs : Printable cs) : Printable (c :: cs) :=
  List.forall_mem_cons.mpr ⟨hc, hcs⟩

/-- A text without control characters is one line. -/
theorem Printable.one_line (h : Printable cs) : '\n' ∉ cs := fun hmem => absurd (h _ hmem) (by decide)

theorem Printable.joined {texts : List (List Char)} (h : ∀ text ∈ texts, Printable text) :
    Printable (joined texts) := by
  induction texts with
  | nil => exact .nil
  | cons text texts ih =>
    have htext := h text List.mem_cons_self
    cases texts with
    | nil => rwa [Json.joined, List.intercalate_singleton]
    | cons next texts =>
      rw [joined_cons_cons]
      exact htext.append (.cons (by decide) (ih fun t ht => h t (List.mem_cons_of_mem _ ht)))

/-! ## Texts in quotes -/

theorem printable_escape (c : Char) : Printable (escape c).toList := by
  rcases escape_cases c with ⟨letter, hescape, hletter⟩ | ⟨-, hescape⟩ | ⟨-, -, hhigh, hescape⟩
  · have hprintable : 0x20 ≤ letter.toNat := by
      unfold unescape? at hletter
      split at hletter <;> first | decide | cases hletter
    rw [hescape]
    exact .cons (by decide) (.cons hprintable .nil)
  · have hdigit : ∀ n < 16, 0x20 ≤ (Nat.digitChar n).toNat := by decide
    have hdigits (n : Nat) : Printable (fourDigits n).toList := by
      rw [fourDigits, String.toList_ofList]
      refine List.forall_mem_map.mpr fun n hn => hdigit n ?_
      simp only [List.mem_cons, List.not_mem_nil, or_false] at hn
      omega
    rw [hescape]
    exact .cons (by decide) (.cons (by decide) (hdigits _))
  · rw [hescape]
    exact .cons hhigh .nil

theorem printable_quote (s : String) : Printable (quote s).toList := by
  have hescapes : Printable (s.toList.flatMap fun c => (escape c).toList) := by
    intro c hc
    obtain ⟨source, -, hmem⟩ := List.mem_flatMap.mp hc
    exact printable_escape source c hmem
  rw [toList_quote]
  exact .cons (by decide) (hescapes.append (.cons (by decide) .nil))

/-! ## Numbers -/

theorem printable_digits (h : ∀ c ∈ cs, c.isDigit = true) : Printable cs := by
  intro c hc
  have hdigit := h c hc
  simp only [Char.isDigit, Bool.and_eq_true, decide_eq_true_eq] at hdigit
  exact Nat.le_trans (by decide) (UInt32.le_iff_toNat_le.mp hdigit.1)

theorem printable_of_digits? (h : digits? cs = some (ds, left)) : Printable ds := by
  simp only [digits?, List.span_eq_takeWhile_dropWhile] at h
  split at h
  · cases h
  · cases h
    exact printable_digits fun c hc => List.mem_takeWhile_imp hc

theorem printable_of_wholePart? (h : wholePart? cs = some (ds, left)) : Printable ds := by
  unfold wholePart? at h
  split at h
  · split at h
    · cases h
    · cases h
      exact .cons (by decide) .nil
  · exact printable_of_digits? h

theorem printable_of_fraction? (h : fraction? cs = some (ds, left)) : Printable ds := by
  unfold fraction? at h
  split at h
  · obtain ⟨⟨digits, _⟩, hdigits, hread⟩ := Option.bind_eq_some_iff.mp h
    cases hread
    exact .cons (by decide) (printable_of_digits? hdigits)
  · cases h
    exact .nil

theorem printable_signOf (cs : List Char) : Printable (signOf cs).1 := by
  unfold signOf
  split
  · exact .cons (by decide) .nil
  · exact .cons (by decide) .nil
  · exact .nil

theorem printable_of_exponent? (h : exponent? cs = some (ds, left)) : Printable ds := by
  cases cs with
  | nil =>
    cases h
    exact .nil
  | cons c cs =>
    rw [exponent?_cons] at h
    split at h
    · next hletter =>
      obtain ⟨⟨digits, _⟩, hdigits, hread⟩ := Option.bind_eq_some_iff.mp h
      cases hread
      have hc : 0x20 ≤ c.toNat := by rcases hletter with rfl | rfl <;> decide
      exact .cons hc ((printable_signOf cs).append (printable_of_digits? hdigits))
    · cases h
      exact .nil

/-- **A real number that is read as its text is printable.** -/
theorem printable_of_number? (h : number? cs = some (.real text, left)) : Printable text.toList := by
  have hfrom {negative : Bool} {cs : List Char}
      (h : numberFrom? negative cs = some (.real text, left)) : Printable text.toList := by
    obtain ⟨⟨whole, _⟩, hwhole, h⟩ := Option.bind_eq_some_iff.mp h
    obtain ⟨⟨fraction, _⟩, hfraction, h⟩ := Option.bind_eq_some_iff.mp h
    obtain ⟨⟨exponent, _⟩, hexponent, h⟩ := Option.bind_eq_some_iff.mp h
    have hnumeral : numeral negative whole fraction exponent = .real text :=
      (Prod.mk.inj (Option.some.inj h)).1
    have hsign : Printable (if negative then ['-'] else []) := by cases negative <;> decide
    simp only [numeral] at hnumeral
    generalize (if negative = true then -(Digits.value whole : Int) else Digits.value whole) = n at hnumeral
    split at hnumeral
    · cases hnumeral
    · cases hnumeral
      rw [String.toList_ofList]
      exact ((hsign.append (printable_of_wholePart? hwhole)).append
        (printable_of_fraction? hfraction)).append (printable_of_exponent? hexponent)
  cases cs with
  | nil => cases h
  | cons c cs =>
    rw [number?_cons] at h
    split at h
    · exact hfrom h
    · exact hfrom h

theorem printable_toString (n : Int) : Printable (toString n).toList := by
  have hsign : Printable (if 0 ≤ n then [] else ['-']) := by
    split
    · exact .nil
    · exact .cons (by decide) .nil
  rw [toList_toString]
  exact hsign.append (printable_digits (isDigit_toDigits _))

/-! ## Values -/

/-- **The text of a value is one line.** -/
theorem Proper.printable (h : Proper value) : Printable value.render.toList := by
  induction h with
  | null => decide
  | bool b => cases b <;> decide
  | @integer n h => exact printable_toString n
  | real h => exact printable_of_number? h
  | string text => exact printable_quote text
  | array h ih =>
    rw [toList_renderArray]
    refine .cons (by decide) (.append (.joined ?_) (.cons (by decide) .nil))
    exact List.forall_mem_map.mpr ih
  | object h ih =>
    rw [toList_renderObject]
    refine .cons (by decide) (.append (.joined ?_) (.cons (by decide) .nil))
    refine List.forall_mem_map.mpr fun field hfield => ?_
    exact (printable_quote field.1).append (.cons (by decide) (ih field hfield))

end ColumnWire.Json
