import ColumnWire.Json.Reader
import ColumnWire.Proofs.Text.Span

/-!
# JSON is read back

A value whose numbers are spelled as numbers (`Json.Proper`) is what its text is read as
(`Json.parse?_render`). One character of a text in quotes, one number and one value are each read back
in front of whatever may follow it, and two units of fuel for each character are enough.
-/
namespace ColumnWire.Json

variable {c : Char} {cs ds rest left : List Char} {done : List Piece} {fuel : Nat} {text : String}
  {value : Json}

/-! ## Texts in quotes -/

theorem hex?_digitChar : ∀ n < 16, Digits.hex? (Nat.digitChar n) = some n := by decide

theorem unit?_fourDigits {n : Nat} (h : n < 65536) (rest : List Char) :
    unit? ((fourDigits n).toList ++ rest) = some (n, rest) := by
  simp only [fourDigits, List.map_cons, List.map_nil, String.toList_ofList, List.cons_append,
    List.nil_append, unit?, hex?_digitChar _ (Nat.mod_lt _ (by decide : 16 > 0))]
  show some (((n / 4096 % 16 * 16 + n / 256 % 16) * 16 + n / 16 % 16) * 16 + n % 16, rest) = some (n, rest)
  congr 2
  omega

/-- How a character may stand between quotes: by a letter, by its number, or as itself. -/
theorem escape_cases (c : Char) :
    (∃ letter, (escape c).toList = ['\\', letter] ∧ unescape? letter = some c) ∨
      (c.toNat < 0x20 ∧ (escape c).toList = '\\' :: 'u' :: (fourDigits c.toNat).toList) ∨
      (c ≠ '"' ∧ c ≠ '\\' ∧ 0x20 ≤ c.toNat ∧ (escape c).toList = [c]) := by
  by_cases hletter : c ∈ ['"', '\\', '\x08', '\x0c', '\n', '\r', '\t']
  · refine .inl ?_
    simp only [List.mem_cons, List.not_mem_nil, or_false] at hletter
    rcases hletter with rfl | rfl | rfl | rfl | rfl | rfl | rfl <;> exact ⟨_, rfl, rfl⟩
  · simp only [List.mem_cons, List.not_mem_nil, or_false, not_or] at hletter
    obtain ⟨hquote, hbackslash, hb, hf, hn, hr, ht⟩ := hletter
    refine .inr ?_
    simp only [escape, if_neg hquote, if_neg hbackslash, if_neg hb, if_neg hf, if_neg hn, if_neg hr, if_neg ht]
    by_cases hlow : c.toNat < 0x20
    · rw [if_pos hlow]
      exact .inl ⟨hlow, by rw [String.toList_append]; rfl⟩
    · rw [if_neg hlow]
      exact .inr ⟨hquote, hbackslash, by omega, String.toList_singleton c⟩

/-- **One character is read back.** -/
theorem piecesFrom_escape (c : Char) (fuel : Nat) (done : List Piece) (rest : List Char) :
    piecesFrom (fuel + 1) done ((escape c).toList ++ rest) = piecesFrom fuel (.char c :: done) rest := by
  rcases escape_cases c with ⟨letter, hescape, hletter⟩ | ⟨hlow, hescape⟩ | ⟨hquote, hbackslash, hhigh, hescape⟩
  · have hu : letter ≠ 'u' := by
      rintro rfl
      cases hletter
    rw [hescape, List.cons_append, List.cons_append, List.nil_append, piecesFrom, hletter]
    · rfl
    · exact hu
  · have hchar : ofUnit c.toNat = .char c := by
      rw [ofUnit, if_neg (by omega), if_neg (by omega), Char.ofNat_toNat]
    rw [hescape, List.cons_append, List.cons_append, piecesFrom, unit?_fourDigits (by omega)]
    show piecesFrom fuel (ofUnit c.toNat :: done) rest = _
    rw [hchar]
  · rw [hescape, List.singleton_append, piecesFrom]
    · rw [if_neg (by omega)]
    · exact hquote
    all_goals
      intros
      contradiction

theorem piecesFrom_escapes (cs : List Char) (done : List Piece) (rest : List Char)
    (hfuel : cs.length < fuel) :
    piecesFrom fuel done (cs.flatMap (fun c => (escape c).toList) ++ '"' :: rest) =
      some (cs.reverse.map Piece.char ++ done, rest) := by
  induction cs generalizing fuel done with
  | nil =>
    cases fuel with
    | zero => cases hfuel
    | succ fuel => rfl
  | cons c cs ih =>
    cases fuel with
    | zero => cases hfuel
    | succ fuel =>
      rw [List.flatMap_cons, List.append_assoc, piecesFrom_escape, ih _ (Nat.lt_of_succ_lt_succ hfuel)]
      simp

theorem joinPieces_chars (cs text : List Char) :
    joinPieces (cs.map Piece.char) text = some (cs.reverse ++ text) := by
  induction cs generalizing text with
  | nil => rfl
  | cons c cs ih =>
    rw [List.map_cons, joinPieces, ih, List.reverse_cons, List.append_assoc, List.singleton_append]

theorem toList_quote (s : String) :
    (quote s).toList = '"' :: (s.toList.flatMap (fun c => (escape c).toList) ++ ['"']) := by
  rw [quote, String.toList_append, String.toList_append, String.toList_join, List.flatMap_map]
  rfl

/-- Every character is written with at least one. -/
theorem length_escapes (cs : List Char) :
    cs.length ≤ (cs.flatMap fun c => (escape c).toList).length := by
  induction cs with
  | nil => exact Nat.le_refl _
  | cons c cs ih =>
    have hone : 1 ≤ (escape c).toList.length := by
      rcases escape_cases c with ⟨letter, hescape, -⟩ | ⟨-, hescape⟩ | ⟨-, -, -, hescape⟩ <;> simp [hescape]
    rw [List.flatMap_cons, List.length_append, List.length_cons]
    omega

/-- **A text in quotes is read back.** -/
theorem quoted?_quote (s : String) (rest : List Char) :
    ∃ cs, (quote s).toList = '"' :: cs ∧ quoted? (cs ++ rest) = some (some s, rest) := by
  refine ⟨_, toList_quote s, ?_⟩
  have hlength : s.toList.length <
      (s.toList.flatMap (fun c => (escape c).toList) ++ '"' :: rest).length + 1 := by
    rw [List.length_append]
    exact Nat.lt_succ_of_le (Nat.le_trans (length_escapes s.toList) (Nat.le_add_right _ _))
  rw [List.append_assoc, List.singleton_append, quoted?, piecesFrom_escapes s.toList [] rest hlength,
    List.append_nil]
  show some ((joinPieces (s.toList.reverse.map Piece.char) []).map String.ofList, rest) = _
  rw [joinPieces_chars, List.append_nil, List.reverse_reverse, Option.map_some, String.ofList_toList]

/-! ## Numbers -/

/-- What may follow a value: nothing, or what goes on with an array or an object or ends it. -/
def Ends (rest : List Char) : Prop := ∀ c ∈ rest.head?, c = ',' ∨ c = ']' ∨ c = '\x7d'

theorem Ends.nil : Ends [] := fun _ h => nomatch h

theorem Ends.not_digit (h : Ends rest) : ∀ c ∈ rest.head?, c.isDigit = false := by
  intro c hc
  rcases h c hc with rfl | rfl | rfl <;> rfl

theorem digits?_append (hends : Ends rest) (h : digits? cs = some (ds, left)) :
    digits? (cs ++ rest) = some (ds, left ++ rest) := by
  unfold digits? at h ⊢
  rw [span_append hends.not_digit]
  simp only at h ⊢
  split at h
  · cases h
  · next hne =>
    cases h
    rw [if_neg hne]

theorem wholePart?_other (hzero : c ≠ '0') (cs : List Char) : wholePart? (c :: cs) = digits? (c :: cs) := by
  rw [wholePart?]
  rintro _ ⟨⟩
  exact hzero rfl

theorem wholePart?_append (hends : Ends rest) (h : wholePart? cs = some (ds, left)) :
    wholePart? (cs ++ rest) = some (ds, left ++ rest) := by
  match cs with
  | [] => cases h
  | c :: cs =>
    by_cases hzero : c = '0'
    · subst hzero
      simp only [wholePart?, List.cons_append] at h ⊢
      split at h
      · cases h
      · next hnone =>
        obtain ⟨rfl, rfl⟩ := Prod.mk.inj (Option.some.inj h)
        rw [if_neg]
        cases cs with
        | nil =>
          cases hhead : rest.head? with
          | none => simp [hhead]
          | some c => simp [hhead, hends.not_digit c hhead]
        | cons c cs => exact hnone
    · rw [wholePart?_other hzero] at h
      rw [List.cons_append, wholePart?_other hzero]
      exact digits?_append hends h

theorem fraction?_append (hends : Ends rest) (h : fraction? cs = some (ds, left)) :
    fraction? (cs ++ rest) = some (ds, left ++ rest) := by
  have hother (cs : List Char) (hpoint : ∀ c ∈ cs.head?, c ≠ '.') : fraction? cs = some ([], cs) := by
    rw [fraction?]
    rintro cs rfl
    exact hpoint '.' rfl rfl
  match cs with
  | [] =>
    cases h
    refine hother rest fun c hc => ?_
    rcases hends c hc with rfl | rfl | rfl <;> decide
  | c :: cs =>
    by_cases hpoint : c = '.'
    · subst hpoint
      obtain ⟨⟨ds, left⟩, hdigits, hread⟩ := Option.bind_eq_some_iff.mp h
      cases hread
      rw [List.cons_append, fraction?, digits?_append hends hdigits]
      rfl
    · have hhead : ∀ c' ∈ (c :: cs).head?, c' ≠ '.' := by simpa using hpoint
      rw [hother _ hhead] at h
      cases h
      exact hother _ hhead

/-- The sign that may stand behind the letter of an exponent, and what follows. -/
def signOf : List Char → List Char × List Char
  | '+' :: rest => (['+'], rest)
  | '-' :: rest => (['-'], rest)
  | rest => ([], rest)

theorem signOf_append (hne : cs ≠ []) (rest : List Char) :
    signOf (cs ++ rest) = ((signOf cs).1, (signOf cs).2 ++ rest) := by
  match cs with
  | [] => exact absurd rfl hne
  | c :: cs =>
    by_cases hplus : c = '+'
    · subst hplus
      rfl
    by_cases hminus : c = '-'
    · subst hminus
      rfl
    have hnone (cs : List Char) : signOf (c :: cs) = ([], c :: cs) := by
      rw [signOf] <;> rintro _ ⟨⟩
      · exact hplus rfl
      · exact hminus rfl
    rw [List.cons_append, hnone, hnone, List.cons_append]

theorem exponent?_cons (c : Char) (cs : List Char) :
    exponent? (c :: cs) = if c = 'e' ∨ c = 'E' then
        (digits? (signOf cs).2).bind fun r => some (c :: ((signOf cs).1 ++ r.1), r.2)
      else some ([], c :: cs) :=
  rfl

theorem exponent?_append (hends : Ends rest) (h : exponent? cs = some (ds, left)) :
    exponent? (cs ++ rest) = some (ds, left ++ rest) := by
  match cs with
  | [] =>
    cases h
    match rest with
    | [] => rfl
    | c :: rest =>
      have hletter : ¬(c = 'e' ∨ c = 'E') := by rcases hends c rfl with rfl | rfl | rfl <;> decide
      rw [List.nil_append, exponent?_cons, if_neg hletter]
  | c :: cs =>
    rw [exponent?_cons] at h
    rw [List.cons_append, exponent?_cons]
    by_cases hletter : c = 'e' ∨ c = 'E'
    · rw [if_pos hletter] at h
      obtain ⟨⟨ds, left⟩, hdigits, hread⟩ := Option.bind_eq_some_iff.mp h
      cases hread
      have hne : cs ≠ [] := by
        rintro rfl
        cases hdigits
      rw [if_pos hletter, signOf_append hne, digits?_append hends hdigits]
      rfl
    · rw [if_neg hletter] at h
      cases h
      rw [if_neg hletter]
      rfl

/-- A number of four parts. -/
def numeral (negative : Bool) (whole fraction exponent : List Char) : Json :=
  let n : Int := if negative then -(Digits.value whole : Int) else Digits.value whole
  if fraction = [] ∧ exponent = [] ∧ fits n ∧ ¬(negative ∧ n = 0) then .integer n
  else .real (String.ofList ((if negative then ['-'] else []) ++ whole ++ fraction ++ exponent))

/-- Read a number behind its sign. -/
def numberFrom? (negative : Bool) (cs : List Char) : Option (Json × List Char) := do
  let (whole, cs) ← wholePart? cs
  let (fraction, cs) ← fraction? cs
  let (exponent, cs) ← exponent? cs
  return (numeral negative whole fraction exponent, cs)

theorem number?_cons (c : Char) (cs : List Char) :
    number? (c :: cs) = if c = '-' then numberFrom? true cs else numberFrom? false (c :: cs) := by
  by_cases hminus : c = '-'
  · subst hminus
    rfl
  · rw [if_neg hminus, number?]
    · rfl
    · rintro _ ⟨⟩
      exact hminus rfl

theorem numberFrom?_append {negative : Bool} (hends : Ends rest)
    (h : numberFrom? negative cs = some (value, left)) :
    numberFrom? negative (cs ++ rest) = some (value, left ++ rest) := by
  obtain ⟨⟨whole, _⟩, hwhole, h⟩ := Option.bind_eq_some_iff.mp h
  obtain ⟨⟨fraction, _⟩, hfraction, h⟩ := Option.bind_eq_some_iff.mp h
  obtain ⟨⟨exponent, _⟩, hexponent, h⟩ := Option.bind_eq_some_iff.mp h
  cases h
  rw [numberFrom?, wholePart?_append hends hwhole]
  simp only [Option.bind_eq_bind, Option.bind_some]
  rw [fraction?_append hends hfraction]
  simp only [Option.bind_some]
  rw [exponent?_append hends hexponent]
  rfl

/-- **What follows a number does not change it.** -/
theorem number?_append (hends : Ends rest) (h : number? cs = some (value, left)) :
    number? (cs ++ rest) = some (value, left ++ rest) := by
  match cs with
  | [] => cases h
  | c :: cs =>
    rw [number?_cons] at h
    rw [List.cons_append, number?_cons]
    by_cases hminus : c = '-'
    · rw [if_pos hminus] at h ⊢
      exact numberFrom?_append hends h
    · rw [if_neg hminus] at h ⊢
      exact numberFrom?_append hends h

/-! ## Integers -/

theorem value_toDigits (n : Nat) : Digits.value (Nat.toDigits 10 n) = n := by
  have hfold : Digits.value (Nat.toDigits 10 n) = Nat.ofDigitChars 10 (Nat.toDigits 10 n) 0 :=
    Nat.ofDigitChars_eq_foldl.symm
  rw [hfold, Nat.ofDigitChars_ten_toDigits]

theorem isDigit_toDigits (n : Nat) : ∀ c ∈ Nat.toDigits 10 n, c.isDigit = true :=
  fun _ hc => Nat.isDigit_of_mem_toDigits (by decide) (by decide) hc

/-- A zero in front stands alone. -/
theorem head?_toDigits {n : Nat} (h : 0 < n) : (Nat.toDigits 10 n).head? ≠ some '0' := by
  induction n using Nat.strongRecOn with
  | ind n ih =>
    by_cases hsmall : n < 10
    · rw [Nat.toDigits_of_lt_base hsmall]
      have hdigit : ∀ n < 10, 0 < n → Nat.digitChar n ≠ '0' := by decide
      simpa using hdigit n hsmall h
    · have hrest := ih (n / 10) (by omega) (by omega)
      rw [Nat.toDigits_of_base_le (by decide) (by omega)]
      cases hdigits : Nat.toDigits 10 (n / 10) with
      | nil => exact absurd hdigits Nat.toDigits_ne_nil
      | cons c cs =>
        rw [hdigits] at hrest
        exact hrest

theorem numberFrom?_toDigits (negative : Bool) (n : Nat) :
    numberFrom? negative (Nat.toDigits 10 n) = some (numeral negative (Nat.toDigits 10 n) [] [], []) := by
  have hwhole : wholePart? (Nat.toDigits 10 n) = some (Nat.toDigits 10 n, []) := by
    rcases Nat.eq_zero_or_pos n with rfl | hpos
    · rfl
    · have hdigits : digits? (Nat.toDigits 10 n) = some (Nat.toDigits 10 n, []) := by
        rw [digits?, span_all (isDigit_toDigits n)]
        exact if_neg Nat.toDigits_ne_nil
      have hhead := head?_toDigits hpos
      cases hcs : Nat.toDigits 10 n with
      | nil => exact absurd hcs Nat.toDigits_ne_nil
      | cons c cs =>
        rw [hcs] at hhead hdigits
        rw [wholePart?_other (fun hzero => hhead (congrArg some hzero)), hdigits]
  rw [numberFrom?, hwhole]
  rfl

theorem numeral_integer {negative : Bool} {n : Int}
    (hvalue : (if negative then -(Digits.value ds : Int) else Digits.value ds) = n) (hfits : fits n = true)
    (hzero : ¬(negative = true ∧ n = 0)) : numeral negative ds [] [] = .integer n := by
  simp only [numeral, hvalue]
  exact if_pos ⟨trivial, trivial, hfits, hzero⟩

/-- The text of an integer: its digits, behind a sign if it is below zero. -/
theorem toList_toString (n : Int) :
    (toString n).toList = (if 0 ≤ n then [] else ['-']) ++ Nat.toDigits 10 n.natAbs := by
  have hrepr : toString n = if 0 ≤ n then toString n.toNat else "-" ++ toString (-n).toNat := Int.repr_eq_if
  rw [hrepr]
  split
  · have habs : n.toNat = n.natAbs := by omega
    rw [Nat.toString_eq_ofList_toDigits, String.toList_ofList, habs, List.nil_append]
  · have hminus : "-".toList = ['-'] := rfl
    have habs : (-n).toNat = n.natAbs := by omega
    rw [String.toList_append, hminus, Nat.toString_eq_ofList_toDigits, String.toList_ofList, habs]

/-- **The digits of an integer are read back.** -/
theorem number?_toString {n : Int} (h : fits n = true) :
    number? (toString n).toList = some (.integer n, []) := by
  rw [toList_toString]
  by_cases hsign : 0 ≤ n
  · have hnumeral : numeral false (Nat.toDigits 10 n.natAbs) [] [] = .integer n :=
      numeral_integer (by rw [value_toDigits]; exact Int.natAbs_of_nonneg hsign) h fun hzero => nomatch hzero.1
    rw [if_pos hsign, List.nil_append]
    cases hcs : Nat.toDigits 10 n.natAbs with
    | nil => exact absurd hcs Nat.toDigits_ne_nil
    | cons c cs =>
      have hminus : c ≠ '-' := by
        rintro rfl
        cases isDigit_toDigits n.natAbs '-' (hcs ▸ List.mem_cons_self)
      rw [number?_cons, if_neg hminus, ← hcs, numberFrom?_toDigits, hnumeral]
  · have hnumeral : numeral true (Nat.toDigits 10 n.natAbs) [] [] = .integer n := by
      refine numeral_integer ?_ h fun hzero => hsign (Int.le_of_eq hzero.2.symm)
      rw [value_toDigits, if_pos rfl]
      omega
    rw [if_neg hsign, List.singleton_append, number?_cons, if_pos rfl, numberFrom?_toDigits, hnumeral]

/-! ## Values -/

/-- Values that are read back: no half of a surrogate pair, and numbers that are what their text spells. -/
inductive Proper : Json → Prop
  | null : Proper .null
  | bool (b : Bool) : Proper (.bool b)
  | integer {n : Int} (h : fits n = true) : Proper (.integer n)
  | real {text : String} (h : number? text.toList = some (.real text, [])) : Proper (.real text)
  | string (text : String) : Proper (.string text)
  | array {items : List Json} (h : ∀ item ∈ items, Proper item) : Proper (.array items)
  | object {fields : List (String × Json)} (h : ∀ field ∈ fields, Proper field.2) : Proper (.object fields)

/-- A value is read back in front of whatever may follow it. -/
def Reads (v : Json) : Prop :=
  ∀ fuel rest, 2 * (render v).toList.length ≤ fuel → Ends rest →
    value? fuel ((render v).toList ++ rest) = some (v, rest)

theorem number?_head (h : number? cs = some (value, left)) :
    ∃ c rest, cs = c :: rest ∧ (c = '-' ∨ c.isDigit = true) := by
  match cs with
  | [] => cases h
  | c :: cs =>
    refine ⟨c, cs, rfl, ?_⟩
    by_cases hminus : c = '-'
    · exact .inl hminus
    · rw [number?_cons, if_neg hminus] at h
      obtain ⟨⟨ds, _⟩, hwhole, -⟩ := Option.bind_eq_some_iff.mp h
      by_cases hzero : c = '0'
      · exact .inr (hzero ▸ rfl)
      · rw [wholePart?_other hzero, digits?, List.span_eq_takeWhile_dropWhile, List.takeWhile_cons] at hwhole
        by_cases hdigit : c.isDigit = true
        · exact .inr hdigit
        · simp [hdigit] at hwhole

theorem value?_null (fuel : Nat) (rest : List Char) :
    value? (fuel + 1) (['n', 'u', 'l', 'l'] ++ rest) = some (.null, rest) := by
  rw [value?]
  rfl

theorem value?_bool (b : Bool) (fuel : Nat) (rest : List Char) :
    value? (fuel + 1) ((render (.bool b)).toList ++ rest) = some (.bool b, rest) := by
  cases b <;> (rw [value?]; rfl)

theorem value?_string (fuel : Nat) (cs : List Char) : value? (fuel + 1) ('"' :: cs) =
    (quoted? cs).map fun r => (r.1.elim .unpaired .string, r.2) := by
  rw [value?]
  show (quoted? cs).bind _ = _
  cases quoted? cs <;> rfl

theorem skipSpace_cons (h : isSpace c = false) (cs : List Char) : skipSpace (c :: cs) = c :: cs := by
  simp [skipSpace, h]

/-- An array whose first item starts with a character. -/
theorem value?_items (hspace : isSpace c = false) (hclose : c ≠ ']') (fuel : Nat) (cs : List Char) :
    value? (fuel + 1) ('[' :: c :: cs) = itemsFrom fuel [] (c :: cs) := by
  rw [value?, skipSpace_cons rfl]
  simp only [skipSpace_cons hspace]
  split
  · next heq => exact absurd (List.cons.inj heq).1 hclose
  · rfl

/-- An object whose first name starts with a quote. -/
theorem value?_fields (fuel : Nat) (cs : List Char) :
    value? (fuel + 1) ('\x7b' :: '"' :: cs) = fieldsFrom fuel [] ('"' :: cs) := by
  rw [value?]
  rfl

/-- What starts a number is no blank. -/
theorem isSpace_number (hfirst : c = '-' ∨ c.isDigit = true) : isSpace c = false := by
  rcases hfirst with rfl | hdigit
  · rfl
  · cases hspace : isSpace c with
    | false => rfl
    | true =>
      simp only [isSpace, Bool.or_eq_true, decide_eq_true_eq] at hspace
      rcases hspace with ((rfl | rfl) | rfl) | rfl <;> cases hdigit

theorem value?_number (hfirst : c = '-' ∨ c.isDigit = true) (fuel : Nat) (cs : List Char) :
    value? (fuel + 1) (c :: cs) = number? (c :: cs) := by
  rw [value?, skipSpace_cons (isSpace_number hfirst)]
  split <;> simp_all

/-- What starts a value is no blank and does not end an array. -/
theorem render_head {v : Json} (h : Proper v) :
    ∃ c cs, (render v).toList = c :: cs ∧ isSpace c = false ∧ c ≠ ']' := by
  have hnumber {v : Json} (h : number? (render v).toList = some (v, [])) :
      ∃ c cs, (render v).toList = c :: cs ∧ isSpace c = false ∧ c ≠ ']' := by
    obtain ⟨c, cs, hcs, hfirst⟩ := number?_head h
    refine ⟨c, cs, hcs, isSpace_number hfirst, ?_⟩
    rintro rfl
    rcases hfirst with hminus | hdigit
    · cases hminus
    · cases hdigit
  cases h with
  | null => exact ⟨'n', _, rfl, rfl, by decide⟩
  | bool b => cases b <;> exact ⟨_, _, rfl, rfl, by decide⟩
  | integer h => exact hnumber (number?_toString h)
  | real h => exact hnumber h
  | string text => exact ⟨'"', _, toList_quote text, rfl, by decide⟩
  | array h => exact ⟨'[', _, by rw [render, String.toList_append, String.toList_append]; rfl, rfl, by decide⟩
  | object h => exact ⟨'\x7b', _, by rw [render, String.toList_append, String.toList_append]; rfl, rfl, by decide⟩

/-! ## Arrays and objects -/

/-- Texts with commas between them. -/
def joined (texts : List (List Char)) : List Char := [','].intercalate texts

theorem toList_renderArray (items : List Json) :
    (render (.array items)).toList = '[' :: (joined (items.map fun item => (render item).toList) ++ [']']) := by
  rw [render, String.toList_append, String.toList_append, String.toList_intercalate, renderItems_eq_map,
    List.map_map]
  rfl

/-- The text of a field. -/
def fieldText (field : String × Json) : List Char := (quote field.1).toList ++ ':' :: (render field.2).toList

theorem toList_renderObject (fields : List (String × Json)) :
    (render (.object fields)).toList = '\x7b' :: (joined (fields.map fieldText) ++ ['\x7d']) := by
  have htext : ∀ field : String × Json, (quote field.1 ++ ":" ++ render field.2).toList = fieldText field := by
    intro field
    rw [String.toList_append, String.toList_append, List.append_assoc]
    rfl
  rw [render, String.toList_append, String.toList_append, String.toList_intercalate, renderFields_eq_map,
    List.map_map]
  simp only [Function.comp_def, htext]
  rfl

theorem joined_cons_cons (text next : List Char) (texts : List (List Char)) :
    joined (text :: next :: texts) = text ++ ',' :: joined (next :: texts) := by
  rw [joined, List.intercalate_cons_cons, List.append_assoc, List.singleton_append, joined]

theorem Ends.cons (rest : List Char) (h : c = ',' ∨ c = ']' ∨ c = '\x7d') : Ends (c :: rest) := by
  rintro _ ⟨⟩
  exact h

theorem joined_head {first : List Char} (hfirst : first = c :: cs) (texts : List (List Char)) :
    ∃ more, joined (first :: texts) = c :: more := by
  cases texts with
  | nil => exact ⟨cs, by rw [joined, List.intercalate_singleton, hfirst]⟩
  | cons next texts => exact ⟨_, by rw [joined_cons_cons, hfirst, List.cons_append]⟩

/-- **Items are read one after another.** -/
theorem itemsFrom_render {items : List Json} (hne : items ≠ []) (hreads : ∀ item ∈ items, Reads item)
    (fuel : Nat) (done : List Json) (rest : List Char)
    (hfuel : 2 * (joined (items.map fun item => (render item).toList)).length < fuel) :
    itemsFrom fuel done (joined (items.map fun item => (render item).toList) ++ ']' :: rest) =
      some (.array (done.reverse ++ items), rest) := by
  induction items generalizing fuel done with
  | nil => exact absurd rfl hne
  | cons item items ih =>
    cases fuel with
    | zero => cases hfuel
    | succ fuel =>
      have hitem := hreads item List.mem_cons_self
      cases items with
      | nil =>
        simp only [List.map_cons, List.map_nil, joined, List.intercalate_singleton] at hfuel ⊢
        rw [itemsFrom, hitem fuel _ (by omega) (.cons rest (.inr (.inl rfl)))]
        simp [skipSpace_cons, isSpace]
      | cons next items =>
        have hrest := ih (List.cons_ne_nil _ _)
          (fun item hmem => hreads item (List.mem_cons_of_mem _ hmem)) fuel (item :: done)
        simp only [List.map_cons, joined_cons_cons, List.length_append, List.length_cons] at hfuel hrest ⊢
        rw [List.append_assoc, List.cons_append, itemsFrom, hitem fuel _ (by omega) (.cons _ (.inl rfl))]
        simp only [skipSpace_cons (rfl : isSpace ',' = false)]
        rw [hrest (by omega), List.reverse_cons, List.append_assoc, List.singleton_append]

/-- A field with another one behind it. -/
theorem fieldsFrom_comma {v : Json} {cs rest : List Char} (name : String) (done : List (Option String × Json))
    (hvalue : value? fuel cs = some (v, ',' :: rest)) :
    fieldsFrom (fuel + 1) done ((quote name).toList ++ ':' :: cs) =
      fieldsFrom fuel ((some name, v) :: done) rest := by
  obtain ⟨quoted, hquote, hread⟩ := quoted?_quote name (':' :: cs)
  rw [hquote, List.cons_append, fieldsFrom]
  simp only [skipSpace_cons (rfl : isSpace '"' = false), skipSpace_cons (rfl : isSpace ':' = false), hread,
    hvalue, skipSpace_cons (rfl : isSpace ',' = false)]

/-- The last field. -/
theorem fieldsFrom_close {v : Json} {cs rest : List Char} (name : String) (done : List (Option String × Json))
    (hvalue : value? fuel cs = some (v, '\x7d' :: rest)) :
    fieldsFrom (fuel + 1) done ((quote name).toList ++ ':' :: cs) =
      some (ofFields ((some name, v) :: done).reverse, rest) := by
  obtain ⟨quoted, hquote, hread⟩ := quoted?_quote name (':' :: cs)
  rw [hquote, List.cons_append, fieldsFrom]
  simp only [skipSpace_cons (rfl : isSpace '"' = false), skipSpace_cons (rfl : isSpace ':' = false), hread,
    hvalue, skipSpace_cons (rfl : isSpace '\x7d' = false)]

/-- **Fields are read one after another.** -/
theorem fieldsFrom_render {fields : List (String × Json)} (hne : fields ≠ [])
    (hreads : ∀ field ∈ fields, Reads field.2) (fuel : Nat) (done : List (Option String × Json))
    (rest : List Char)
    (hfuel : 2 * (joined (fields.map fieldText)).length < fuel) :
    fieldsFrom fuel done (joined (fields.map fieldText) ++ '\x7d' :: rest) =
      some (ofFields (done.reverse ++ fields.map fun field => (some field.1, field.2)), rest) := by
  induction fields generalizing fuel done with
  | nil => exact absurd rfl hne
  | cons field fields ih =>
    cases fuel with
    | zero => cases hfuel
    | succ fuel =>
      have hfield := hreads field List.mem_cons_self
      have hlength : (fieldText field).length =
          (quote field.1).toList.length + (render field.2).toList.length + 1 := by
        rw [fieldText, List.length_append, List.length_cons, Nat.add_assoc]
      cases fields with
      | nil =>
        simp only [List.map_cons, List.map_nil, joined, List.intercalate_singleton] at hfuel ⊢
        rw [fieldText, List.append_assoc, List.cons_append,
          fieldsFrom_close _ _ (hfield fuel _ (by omega) (.cons rest (.inr (.inr rfl)))), List.reverse_cons]
      | cons next fields =>
        have hrest := ih (List.cons_ne_nil _ _)
          (fun field hmem => hreads field (List.mem_cons_of_mem _ hmem)) fuel ((some field.1, field.2) :: done)
        simp only [List.map_cons, joined_cons_cons, List.length_append, List.length_cons] at hfuel hrest ⊢
        rw [List.append_assoc, List.cons_append, fieldText, List.append_assoc, List.cons_append,
          fieldsFrom_comma _ _ (hfield fuel _ (by omega) (.cons _ (.inl rfl))), hrest (by omega),
          List.reverse_cons, List.append_assoc, List.singleton_append]

theorem ofFields_some (fields : List (String × Json)) :
    ofFields (fields.map fun field => (some field.1, field.2)) = .object fields := by
  have hall : fields.mapM (fun field => some (field.1, field.2)) = some fields := by
    induction fields with
    | nil => rfl
    | cons field fields ih => simp [ih]
  rw [ofFields, List.mapM_map]
  simp only [Function.comp_def, Option.map_some, hall]

/-- No value is read without fuel, but no text is empty either. -/
theorem Reads.of_succ {v : Json} (h : Proper v)
    (hreads : ∀ fuel rest, 2 * (render v).toList.length ≤ fuel + 1 → Ends rest →
      value? (fuel + 1) ((render v).toList ++ rest) = some (v, rest)) : Reads v := by
  intro fuel rest hfuel hends
  obtain ⟨c, cs, hhead, -, -⟩ := render_head h
  cases fuel with
  | zero =>
    rw [hhead] at hfuel
    cases hfuel
  | succ fuel => exact hreads fuel rest hfuel hends

theorem Reads.number {v : Json} (h : Proper v) (hnumber : number? (render v).toList = some (v, [])) :
    Reads v := by
  refine .of_succ h fun fuel rest _ hends => ?_
  obtain ⟨c, cs, hhead, hfirst⟩ := number?_head hnumber
  rw [hhead] at hnumber ⊢
  rw [List.cons_append, value?_number hfirst]
  exact number?_append hends hnumber

/-- **Every value is read back in front of whatever may follow it.** -/
theorem Proper.reads {v : Json} (h : Proper v) : Reads v := by
  induction h with
  | null => exact .of_succ .null fun fuel rest _ _ => value?_null fuel rest
  | bool b => exact .of_succ (.bool b) fun fuel rest _ _ => value?_bool b fuel rest
  | integer h => exact .number (.integer h) (number?_toString h)
  | real h => exact .number (.real h) h
  | string text =>
    refine .of_succ (.string text) fun fuel rest _ _ => ?_
    obtain ⟨quoted, hquote, hread⟩ := quoted?_quote text rest
    rw [render, hquote, List.cons_append, value?_string, hread]
    rfl
  | @array items h ih =>
    refine .of_succ (.array h) fun fuel rest hfuel _ => ?_
    match items with
    | [] =>
      rw [toList_renderArray, List.cons_append, value?]
      rfl
    | item :: items =>
      have hitems := itemsFrom_render (List.cons_ne_nil item items) ih fuel [] rest
      rw [toList_renderArray] at hfuel ⊢
      obtain ⟨c, cs, hhead, hspace, hclose⟩ := render_head (h item List.mem_cons_self)
      obtain ⟨more, hmore⟩ := joined_head hhead (items.map fun item => (render item).toList)
      simp only [List.map_cons, hmore, List.length_cons, List.length_append, List.cons_append,
        List.append_assoc, List.nil_append] at hfuel hitems ⊢
      rw [value?_items hspace hclose, hitems (by omega)]
      rfl
  | @object fields h ih =>
    refine .of_succ (.object h) fun fuel rest hfuel _ => ?_
    match fields with
    | [] =>
      rw [toList_renderObject, List.cons_append, value?]
      rfl
    | field :: fields =>
      have hfields := fieldsFrom_render (List.cons_ne_nil field fields) ih fuel [] rest
      rw [toList_renderObject] at hfuel ⊢
      rw [List.reverse_nil, List.nil_append, ofFields_some] at hfields
      obtain ⟨cs, hhead⟩ : ∃ cs, fieldText field = '"' :: cs :=
        ⟨_, by rw [fieldText, toList_quote, List.cons_append]⟩
      obtain ⟨more, hmore⟩ := joined_head hhead (fields.map fieldText)
      simp only [List.map_cons, hmore, List.length_cons, List.length_append, List.cons_append,
        List.append_assoc, List.nil_append] at hfuel hfields ⊢
      rw [value?_fields, hfields (by omega)]

/-- **A value is read back from its text.** -/
theorem parse?_render {v : Json} (h : Proper v) : parse? (render v) = some v := by
  rw [parse?]
  have hread := h.reads (2 * (render v).toList.length + 2) [] (by omega) .nil
  rw [List.append_nil] at hread
  rw [hread]
  rfl

end ColumnWire.Json
