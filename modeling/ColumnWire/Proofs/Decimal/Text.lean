import ColumnWire.Decimal.Ieee
import ColumnWire.Proofs.Json.Text

/-!
# Real numbers are spelled as JSON wants them

The text of a bit pattern is a number of JSON that is kept as it is written (`Ieee.number?_text64`): digits
with no zero in front of others, and behind them a fraction, an exponent, or both. The digits are those of
a number that is not zero, because no search among decimals finds zero (`Decimal.shortest_pos`).
-/
namespace ColumnWire

namespace Json

variable {c : Char} {cs rest : List Char}

/-- One digit or more. -/
structure DigitRun (cs : List Char) : Prop where
  ne_nil : cs ≠ []
  digits : ∀ c ∈ cs, c.isDigit = true

/-- Digits that start with a zero only if that is all. -/
structure Whole (cs : List Char) : Prop extends DigitRun cs where
  leading : cs.head? = some '0' → cs = ['0']

theorem Whole.of_cons (hdigit : c.isDigit = true) (hzero : c ≠ '0') (hcs : ∀ d ∈ cs, d.isDigit = true) :
    Whole (c :: cs) where
  ne_nil := List.cons_ne_nil c cs
  digits := List.forall_mem_cons.mpr ⟨hdigit, hcs⟩
  leading h := absurd (Option.some.inj h) hzero

theorem DigitRun.zero : DigitRun ['0'] := ⟨List.cons_ne_nil _ _, List.forall_mem_singleton.mpr rfl⟩

theorem Whole.zero : Whole ['0'] := ⟨.zero, fun _ => rfl⟩

theorem DigitRun.digits? (h : DigitRun cs) (hrest : ∀ c ∈ rest.head?, c.isDigit = false) :
    digits? (cs ++ rest) = some (cs, rest) := by
  rw [Json.digits?, span_eq h.digits hrest]
  exact if_neg h.ne_nil

theorem Whole.wholePart? (h : Whole cs) (hrest : ∀ c ∈ rest.head?, c.isDigit = false) :
    wholePart? (cs ++ rest) = some (cs, rest) := by
  cases hcs : cs with
  | nil => exact absurd hcs h.ne_nil
  | cons c tail =>
    by_cases hzero : c = '0'
    · have hall : cs = ['0'] := h.leading (by rw [hcs, hzero]; rfl)
      rw [← hcs, hall, List.singleton_append, Json.wholePart?, if_neg]
      cases hhead : rest.head? with
      | none => simp
      | some d => simp [hrest d hhead]
    · rw [List.cons_append, wholePart?_other hzero, ← List.cons_append, ← hcs]
      exact h.toDigitRun.digits? hrest

/-- A point and digits, or nothing. -/
inductive FractionText : List Char → Prop
  | absent : FractionText []
  | present {ds : List Char} (h : DigitRun ds) : FractionText ('.' :: ds)

/-- An exponent, or nothing. -/
inductive ExponentText : List Char → Prop
  | absent : ExponentText []
  | present {sign ds : List Char} (hsign : sign ∈ [[], ['+'], ['-']]) (h : DigitRun ds) :
    ExponentText ('e' :: (sign ++ ds))

/-- A real number without its sign. -/
inductive RealText : List Char → Prop
  | intro {whole fraction exponent : List Char} (hwhole : Whole whole) (hfraction : FractionText fraction)
    (hexponent : ExponentText exponent) (hreal : fraction ≠ [] ∨ exponent ≠ []) :
    RealText (whole ++ (fraction ++ exponent))

/-- A number with a point and no exponent. -/
theorem RealText.fixed {whole fraction : List Char} (hwhole : Whole whole) (hfraction : DigitRun fraction) :
    RealText (whole ++ '.' :: fraction) := by
  have h := RealText.intro hwhole (.present hfraction) .absent (.inl (List.cons_ne_nil _ _))
  rwa [List.append_nil] at h

theorem ExponentText.exponent? (h : ExponentText cs) : exponent? cs = some (cs, []) := by
  cases h with
  | absent => rfl
  | @present sign ds hsign hdigits =>
    have hread : digits? ds = some (ds, []) := by
      have hall : Json.digits? (ds ++ []) = some (ds, []) := hdigits.digits? fun _ hc => nomatch hc
      rwa [List.append_nil] at hall
    have hsigned : signOf (sign ++ ds) = (sign, ds) := by
      simp only [List.mem_cons, List.not_mem_nil, or_false] at hsign
      rcases hsign with rfl | rfl | rfl
      · cases hds : ds with
        | nil => exact absurd hds hdigits.ne_nil
        | cons d ds' =>
          have hdigit := hdigits.digits d (hds ▸ List.mem_cons_self)
          rw [List.nil_append, signOf] <;> (rintro _ ⟨⟩; cases hdigit)
      · rfl
      · rfl
    rw [exponent?_cons, if_pos (.inl rfl), hsigned]
    show (Json.digits? ds).bind _ = _
    rw [hread]
    rfl

/-- What follows the whole part does not start with a digit. -/
theorem ExponentText.head_not_digit (h : ExponentText cs) : ∀ c ∈ cs.head?, c.isDigit = false := by
  cases h with
  | absent => exact fun _ hc => nomatch hc
  | present => rintro _ ⟨⟩; rfl

theorem FractionText.fraction? (h : FractionText cs) (hrest : ExponentText rest) :
    fraction? (cs ++ rest) = some (cs, rest) := by
  cases h with
  | absent => cases hrest <;> rfl
  | present hdigits =>
    rw [List.cons_append, Json.fraction?, hdigits.digits? hrest.head_not_digit]
    rfl

/-- **A real number is read as its text**, with a sign or without. -/
theorem RealText.number? (h : RealText cs) (negative : Bool) :
    number? ((if negative then ['-'] else []) ++ cs) =
      some (.real (String.ofList ((if negative then ['-'] else []) ++ cs)), []) := by
  obtain @⟨whole, fraction, exponent, hwhole, hfraction, hexponent, hreal⟩ := h
  have hhead : ∀ c ∈ (fraction ++ exponent).head?, c.isDigit = false := by
    cases hfraction with
    | absent => exact hexponent.head_not_digit
    | present => rintro _ ⟨⟩; rfl
  have hnumeral : numeral negative whole fraction exponent =
      .real (String.ofList ((if negative then ['-'] else []) ++ (whole ++ (fraction ++ exponent)))) := by
    rw [numeral, if_neg fun hinteger => hreal.elim (· hinteger.1) (· hinteger.2.1), List.append_assoc,
      List.append_assoc]
  have hfrom : numberFrom? negative (whole ++ (fraction ++ exponent)) =
      some (numeral negative whole fraction exponent, []) := by
    rw [numberFrom?, hwhole.wholePart? hhead]
    simp only [Option.bind_eq_bind, Option.bind_some]
    rw [hfraction.fraction? hexponent]
    simp only [Option.bind_some]
    rw [hexponent.exponent?]
    rfl
  cases negative with
  | true => exact hfrom.trans (by rw [hnumeral])
  | false =>
    obtain ⟨c, tail, rfl⟩ := List.exists_cons_of_ne_nil hwhole.ne_nil
    have hminus : c ≠ '-' := by
      rintro rfl
      exact absurd (hwhole.digits '-' List.mem_cons_self) (by decide)
    refine Eq.trans ?_ (hfrom.trans (by rw [hnumeral]))
    exact (number?_cons c _).trans (if_neg hminus)

end Json

namespace Decimal

/-! ## No search finds zero -/

/-- Zero is passed over, and whatever is above a point of a grid is not zero. -/
theorem chosen_pos {below : Nat} {k : Int} {d : Digits} {inside preferAbove insideAbove : Bool}
    (h : (if inside && 0 < below then
        if preferAbove && insideAbove then some ⟨below + 1, k⟩ else some ⟨below, k⟩
      else if insideAbove then some ⟨below + 1, k⟩ else none) = some d) : 0 < d.digits := by
  split at h
  · next hbelow =>
    have hpos : 0 < below := by simpa using (Bool.and_eq_true_iff.mp hbelow).2
    split at h <;> cases h
    · exact Nat.succ_pos below
    · exact hpos
  · split at h <;> cases h
    exact Nat.succ_pos below

theorem Binary.onGrid_pos {b : Binary} {k : Int} {d : Digits} (h : b.onGrid k = some d) : 0 < d.digits := by
  unfold onGrid at h
  split at h
  split at h
  · exact chosen_pos h
  · exact chosen_pos h

theorem Digits.trim_pos {d : Digits} (fuel : Nat) (h : 0 < d.digits) : 0 < (d.trim fuel).digits := by
  induction fuel generalizing d with
  | zero => exact h
  | succ fuel ih =>
    rw [Digits.trim]
    split
    · exact ih (by simp only; omega)
    · exact h

/-- **The shortest decimal of a number that is not zero is not zero.** -/
theorem shortest_pos {b : Binary} (h : 0 < b.mantissa) : 0 < (shortest b).digits := by
  have hgetD {found : Option Digits} (hfound : ∀ d, found = some d → 0 < d.digits) :
      0 < (found.getD ⟨b.mantissa, b.exponent⟩).digits := by
    cases found with
    | none => exact h
    | some d => exact hfound d rfl
  unfold shortest
  split
  refine Digits.trim_pos 20 (hgetD fun d hd => ?_)
  obtain ⟨n, -, hgrid⟩ := List.exists_of_findSome?_eq_some hd
  exact Binary.onGrid_pos hgrid

end Decimal

namespace Ieee

open Json

theorem isDigit_replicate_zero (n : Nat) : ∀ c ∈ List.replicate n '0', c.isDigit = true := by
  intro c hc
  rw [List.eq_of_mem_replicate hc]
  rfl

/-- An exponent carries its sign, whichever it is. -/
theorem exponentText_signed (point : Int) : ExponentText
    ('e' :: ((if 0 < point then "+" else "").toList ++ (toString (point - 1)).toList)) := by
  rw [toList_toString, ← List.append_assoc]
  refine .present ?_ ⟨Nat.toDigits_ne_nil, isDigit_toDigits _⟩
  by_cases hpoint : 0 < point
  · rw [if_pos hpoint, if_pos (by omega)]
    decide
  · rw [if_neg hpoint, if_neg (by omega)]
    decide

/-- **A decimal is spelled as a real number**, in each of its notations. -/
theorem realText_decimalText {d : Decimal.Digits} (h : 0 < d.digits) : RealText (decimalText d).toList := by
  obtain ⟨c, cs, hds⟩ := List.exists_cons_of_ne_nil (Nat.toDigits_ne_nil (b := 10) (n := d.digits))
  have hall : ∀ x ∈ c :: cs, x.isDigit = true := hds ▸ isDigit_toDigits d.digits
  obtain ⟨hc, hcs⟩ := List.forall_mem_cons.mp hall
  have hzero : c ≠ '0' := by
    have hhead := head?_toDigits h
    rw [hds] at hhead
    exact fun hc => hhead (congrArg some hc)
  have hwhole {more : List Char} (hmore : ∀ x ∈ more, x.isDigit = true) : Whole (c :: more) :=
    .of_cons hc hzero hmore
  unfold decimalText
  simp only [hds]
  split
  · -- digits, zeros, and a zero behind the point
    have hzeros := List.forall_mem_append.mpr ⟨hcs, isDigit_replicate_zero d.exponent.toNat⟩
    have hpoint : ".0".toList = '.' :: ['0'] := rfl
    rw [String.toList_append, String.toList_ofList, hpoint]
    exact .fixed (hwhole hzeros) .zero
  next hinteger =>
  split
  · -- the point between two digits
    next hpoint =>
    simp only [List.length_cons] at hinteger hpoint ⊢
    obtain ⟨k, hk⟩ : ∃ k, (d.exponent + (cs.length + 1 : Nat)).toNat = k + 1 :=
      Nat.exists_eq_succ_of_ne_zero (by omega)
    have hbehind : DigitRun (cs.drop k) :=
      ⟨List.drop_eq_nil_iff.not.mpr (by omega), fun x hx => hcs x (List.mem_of_mem_drop hx)⟩
    rw [hk, List.take_succ_cons, List.drop_succ_cons]
    simp only [String.toList_append, String.toList_ofList, List.append_assoc]
    exact .fixed (hwhole fun x hx => hcs x (List.mem_of_mem_take hx)) hbehind
  split
  · -- zeros in front of the digits
    have hzeros := List.forall_mem_append.mpr
      ⟨isDigit_replicate_zero (-(d.exponent + ((c :: cs).length : Int))).toNat, hall⟩
    simp only [String.toList_append, String.toList_ofList]
    exact .fixed .zero ⟨by simp, hzeros⟩
  · -- one digit in front of the point, and an exponent
    have hfraction : FractionText (if cs = [] then "" else "." ++ String.ofList cs).toList := by
      split
      · exact .absent
      · next hne =>
        simp only [String.toList_append, String.toList_ofList]
        exact .present ⟨hne, hcs⟩
    have hreal := RealText.intro (hwhole (List.forall_mem_nil _)) hfraction
      (exponentText_signed (d.exponent + ((c :: cs).length : Int))) (.inr (List.cons_ne_nil _ _))
    simp only [String.toList_append, String.toList_ofList, List.append_assoc, List.take_succ_cons,
      List.take_zero, List.drop_succ_cons, List.drop_zero] at hreal ⊢
    exact hreal

/-- What both widths have in common: a sign, and zero or the shortest decimal. -/
theorem number?_signed (negative : Bool) {b : Decimal.Binary} {d : Decimal.Digits}
    (hd : 0 < b.mantissa → 0 < d.digits) {text : String}
    (h : (if negative then "-" else "") ++ (if b.mantissa = 0 then "0.0" else decimalText d) = text) :
    number? text.toList = some (.real text, []) := by
  have hreal : RealText (if b.mantissa = 0 then "0.0" else decimalText d).toList := by
    split
    · exact .fixed .zero .zero
    · next hne => exact realText_decimalText (hd (Nat.pos_of_ne_zero hne))
  have htext : text.toList = (if negative then ['-'] else []) ++
      (if b.mantissa = 0 then "0.0" else decimalText d).toList := by
    rw [← h, String.toList_append]
    cases negative <;> rfl
  have hread := hreal.number? negative
  rwa [← htext, String.ofList_toList] at hread

/-- **A number of 64 bits is spelled as a real number of JSON.** -/
theorem number?_text64 {bits : Nat} {text : String} (h : text64? bits = some text) :
    number? text.toList = some (.real text, []) := by
  unfold text64? text? at h
  split at h
  · exact number?_signed _ Decimal.shortest_pos (Option.some.inj h)
  · cases h

/-- So is one of 32 bits. -/
theorem number?_text32 {bits : Nat} {text : String} (h : text32? bits = some text) :
    number? text.toList = some (.real text, []) := by
  unfold text32? at h
  split at h
  · refine number?_signed _ (fun hpos => Decimal.shortest_pos ?_) (Option.some.inj h)
    exact Nat.mul_pos (Nat.two_pow_pos _) hpos
  · cases h

end Ieee

end ColumnWire
