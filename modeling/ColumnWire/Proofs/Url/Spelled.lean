import ColumnWire.Proofs.Text.Span
import ColumnWire.Url

/-!
# Texts that are spelled out

A text is spelled out if only letters, digits and four marks stand for themselves in it and every other
byte is a percent sign with two digits (`Percent.spelled`). Such a text may stand in each part of an
address: no character of it ends a part, and none has to be spelled again (`Percent.encode_spelled`).
Decoding gives the text back (`Percent.decodeComponent_spelled`), so it is a step in a path only if
the text itself is one.
-/
namespace ColumnWire

namespace Percent

/-- All characters but letters, digits and four marks. -/
def reserved : CharSet := fun c => !(c.isAlphanum || "-_.~".toList.contains c)

/-- A text that is spelled out. -/
def spelled (s : String) : String := String.ofList (encode reserved s.toList)

/-- What texts consist of that are spelled out. -/
def isPlain (c : Char) : Bool := !reserved c || c = '%'

variable {c d : Char} {s : String} {done rest : Bytes}

/-! ## Characters -/

theorem plain_hexDigit : ∀ n < 16, isPlain (hexDigit n) = true := by decide

theorem mem_spell {b : UInt8} (h : d ∈ spell b) : isPlain d = true := by
  have hlimit := b.toNat_lt
  simp only [spell, List.mem_cons, List.not_mem_nil, or_false] at h
  rcases h with rfl | rfl | rfl
  · rfl
  · exact plain_hexDigit _ (by omega)
  · exact plain_hexDigit _ (by omega)

theorem plain_of_mem (h : d ∈ (spelled s).toList) : isPlain d = true := by
  rw [spelled, String.toList_ofList] at h
  obtain ⟨c, -, hd⟩ := List.mem_flatMap.mp h
  unfold encodeChar at hd
  by_cases hreserved : reserved c = true
  · rw [if_pos hreserved] at hd
    obtain ⟨b, -, hb⟩ := List.mem_flatMap.mp hd
    exact mem_spell hb
  · rw [if_neg hreserved] at hd
    obtain rfl := List.mem_singleton.mp hd
    simp [isPlain, hreserved]

/-- A character that ends some part of an address is not among them. -/
theorem ne_of_plain (h : isPlain c = true) (hd : isPlain d = false) : c ≠ d := by
  rintro rfl
  rw [h] at hd
  cases hd

theorem range_of_plain (h : isPlain c = true) : 0x20 < c.toNat ∧ c.toNat < 0x7F := by
  have hbetween (low high : Char) (hlow : c.val ≥ low.val) (hhigh : c.val ≤ high.val)
      (hbounds : 0x20 < low.toNat ∧ high.toNat < 0x7F) : 0x20 < c.toNat ∧ c.toNat < 0x7F :=
    ⟨Nat.lt_of_lt_of_le hbounds.1 hlow, Nat.lt_of_le_of_lt hhigh hbounds.2⟩
  simp only [isPlain, reserved, Bool.not_not, Bool.or_eq_true, List.contains_iff_mem,
    decide_eq_true_eq] at h
  rcases h with (halnum | hmark) | rfl
  · rcases (Bool.or_eq_true _ _).mp halnum with halpha | hdigit
    · rcases (Bool.or_eq_true _ _).mp halpha with hupper | hlower
      · obtain ⟨hlow, hhigh⟩ := of_decide_eq_true hupper
        exact hbetween 'A' 'Z' hlow hhigh (by decide)
      · obtain ⟨hlow, hhigh⟩ := (Bool.and_eq_true _ _).mp hlower
        exact hbetween 'a' 'z' (of_decide_eq_true hlow) (of_decide_eq_true hhigh) (by decide)
    · obtain ⟨hlow, hhigh⟩ := (Bool.and_eq_true _ _).mp hdigit
      exact hbetween '0' '9' (of_decide_eq_true hlow) (of_decide_eq_true hhigh) (by decide)
  · have hall : "-_.~".toList.all (fun c => 0x20 < c.toNat ∧ c.toNat < 0x7F) = true := by decide
    exact of_decide_eq_true (List.all_eq_true.mp hall c hmark)
  · decide

theorem encode_eq_self {set : CharSet} {cs : List Char} (h : ∀ c ∈ cs, set c = false) :
    encode set cs = cs := by
  induction cs with
  | nil => rfl
  | cons c cs ih =>
    rw [List.forall_mem_cons] at h
    have hcons : encode set (c :: cs) = encodeChar set c ++ encode set cs := List.flatMap_cons
    rw [hcons, ih h.2, encodeChar, h.1]
    rfl

theorem contains_plain {marks : List Char} (hmarks : marks.all (fun d => !isPlain d) = true)
    (h : isPlain c = true) : marks.contains c = false := by
  rw [Bool.eq_false_iff, ne_eq, List.contains_iff_mem]
  intro hmem
  have hmark := List.all_eq_true.mp hmarks c hmem
  rw [h] at hmark
  cases hmark

theorem path_plain (h : isPlain c = true) : path c = false := by
  obtain ⟨hlow, hhigh⟩ := range_of_plain h
  have hcontrols : controls c = false := by
    rw [controls, decide_eq_false (by omega), decide_eq_false (by omega)]
    rfl
  rw [path, hcontrols, contains_plain (by decide) h]
  rfl

theorem credentials_plain (h : isPlain c = true) : credentials c = false := by
  rw [credentials, path_plain h, contains_plain (by decide) h]
  rfl

/-- **What is spelled out is not spelled again.** -/
theorem encode_spelled {set : CharSet} (hset : ∀ c, isPlain c = true → set c = false) (s : String) :
    encode set (spelled s).toList = (spelled s).toList :=
  encode_eq_self fun c hc => hset c (plain_of_mem hc)

/-! ## Bytes -/

theorem encode_ofList (cs : List Char) :
    Utf8.encode (String.ofList cs) = cs.flatMap String.utf8EncodeChar := by
  simp [Utf8.encode, List.utf8Encode]

theorem encode_toString (c : Char) : Utf8.encode c.toString = String.utf8EncodeChar c := by
  simp [Utf8.encode, List.utf8Encode]

/-- A plain character is one byte. -/
theorem utf8EncodeChar_plain (h : isPlain c = true) : String.utf8EncodeChar c = [c.val.toUInt8] := by
  have hrange := (range_of_plain h).2
  have hsize : c.val ≤ 0x7F := UInt32.le_iff_toNat_le.mpr (Nat.le_of_lt hrange)
  refine String.utf8EncodeChar_eq_singleton ?_
  rw [Char.utf8Size]
  exact if_pos hsize

/-- Plain characters that are different are different bytes. -/
theorem byte_ne (h : isPlain c = true) (hd : d.toNat < 0x7F) (hne : c ≠ d) : c.val.toUInt8 ≠ d.val.toUInt8 := by
  intro hbyte
  have hrange := (range_of_plain h).2
  have hmod : c.toNat % 256 = d.toNat % 256 := by
    have hnat := congrArg UInt8.toNat hbyte
    rwa [UInt32.toNat_toUInt8, UInt32.toNat_toUInt8] at hnat
  exact hne (Char.toNat_inj.mp (by omega))

/-! ## Reading back -/

theorem hexValue?_hexDigit : ∀ n < 16, hexValue? (hexDigit n).val.toUInt8 = some (UInt8.ofNat n) := by
  decide

theorem decodeOnto_plain {b : UInt8} (h : b ≠ 0x25) : decodeOnto done (b :: rest) = decodeOnto (b :: done) rest := by
  rw [decodeOnto]
  rintro _ _ _ hb
  exact absurd hb h

/-- **A byte that is spelled is read back.** -/
theorem decodeOnto_spell (b : UInt8) (done rest : Bytes) :
    decodeOnto done ((spell b).flatMap String.utf8EncodeChar ++ rest) = decodeOnto (b :: done) rest := by
  have hlimit := b.toNat_lt
  have hbytes : (spell b).flatMap String.utf8EncodeChar =
      [0x25, (hexDigit (b.toNat / 16)).val.toUInt8, (hexDigit (b.toNat % 16)).val.toUInt8] := by
    simp only [spell, List.flatMap_cons, List.flatMap_nil, utf8EncodeChar_plain (rfl : isPlain '%' = true),
      utf8EncodeChar_plain (plain_hexDigit _ (by omega : b.toNat / 16 < 16)),
      utf8EncodeChar_plain (plain_hexDigit _ (by omega : b.toNat % 16 < 16))]
    rfl
  have hvalue : 16 * UInt8.ofNat (b.toNat / 16) + UInt8.ofNat (b.toNat % 16) = b := by
    refine UInt8.toNat_inj.mp ?_
    simp only [UInt8.toNat_add, UInt8.toNat_mul, UInt8.toNat_ofNat', UInt8.reduceToNat]
    omega
  rw [hbytes, List.cons_append, List.cons_append, List.cons_append, decodeOnto,
    hexValue?_hexDigit _ (by omega), hexValue?_hexDigit _ (by omega)]
  simp only [hvalue, List.nil_append]

theorem decodeOnto_spells (bs done rest : Bytes) :
    decodeOnto done ((bs.flatMap spell).flatMap String.utf8EncodeChar ++ rest) =
      decodeOnto (bs.reverse ++ done) rest := by
  induction bs generalizing done with
  | nil => rfl
  | cons b bs ih =>
    rw [List.flatMap_cons, List.flatMap_append, List.append_assoc, decodeOnto_spell, ih, List.reverse_cons,
      List.append_assoc, List.singleton_append]

theorem decodeOnto_encodeChar (c : Char) (done rest : Bytes) :
    decodeOnto done ((encodeChar reserved c).flatMap String.utf8EncodeChar ++ rest) =
      decodeOnto ((String.utf8EncodeChar c).reverse ++ done) rest := by
  unfold encodeChar
  by_cases hreserved : reserved c = true
  · rw [if_pos hreserved, encode_toString, decodeOnto_spells]
  · have hplain : isPlain c = true := by simp [isPlain, hreserved]
    have hpercent : c ≠ '%' := by
      rintro rfl
      exact hreserved rfl
    rw [if_neg hreserved, List.flatMap_singleton, utf8EncodeChar_plain hplain, List.singleton_append,
      decodeOnto_plain (byte_ne (d := '%') hplain (by decide) hpercent)]
    rfl

theorem decodeOnto_encode (cs : List Char) (done rest : Bytes) :
    decodeOnto done ((encode reserved cs).flatMap String.utf8EncodeChar ++ rest) =
      decodeOnto ((cs.flatMap String.utf8EncodeChar).reverse ++ done) rest := by
  induction cs generalizing done with
  | nil => rfl
  | cons c cs ih =>
    have hcons : encode reserved (c :: cs) = encodeChar reserved c ++ encode reserved cs := List.flatMap_cons
    rw [hcons, List.flatMap_append, List.append_assoc, decodeOnto_encodeChar, ih, List.flatMap_cons,
      List.reverse_append, List.append_assoc]

/-- **A text is read back from a query.** -/
theorem decodeComponent_spelled (s : String) : decodeComponent (spelled s).toList = s := by
  have hbytes : Utf8.encode (spelled s) = (encode reserved s.toList).flatMap String.utf8EncodeChar := by
    rw [spelled, encode_ofList]
  -- No plus sign is left that could be taken for a blank.
  have hplus : ∀ b ∈ Utf8.encode (spelled s), b ≠ 0x2B := by
    intro b hb
    rw [hbytes] at hb
    obtain ⟨c, hc, hb⟩ := List.mem_flatMap.mp hb
    have hplain : isPlain c = true := plain_of_mem (s := s) (by rwa [spelled, String.toList_ofList])
    rw [utf8EncodeChar_plain hplain] at hb
    rw [List.mem_singleton.mp hb]
    exact byte_ne (d := '+') hplain (by decide) (ne_of_plain hplain (by decide))
  have hsame : (Utf8.encode (spelled s)).map (fun b => if b = 0x2B then 0x20 else b) = Utf8.encode (spelled s) :=
    (List.map_congr_left fun b hb => if_neg (hplus b hb)).trans (List.map_id _)
  have hdecode : decode (Utf8.encode (spelled s)) = Utf8.encode s := by
    have hall := decodeOnto_encode s.toList [] []
    rw [List.append_nil, List.append_nil, decodeOnto, List.reverse_reverse] at hall
    rw [decode, hbytes, hall, ← encode_ofList, String.ofList_toList]
  rw [decodeComponent, String.ofList_toList, hsame, hdecode, Utf8.decode_encode]

theorem spelled_ne_nil (h : s ≠ "") : (spelled s).toList ≠ [] := by
  intro hempty
  have hsame : spelled s = spelled "" := String.toList_inj.mp hempty
  have hread := decodeComponent_spelled s
  rw [hsame, decodeComponent_spelled] at hread
  exact h hread.symm

/-- Every character that is spelled out makes a text longer. -/
theorem length_encode (set : CharSet) (cs : List Char) :
    cs.length + cs.countP set ≤ (encode set cs).length := by
  induction cs with
  | nil => exact Nat.le_refl _
  | cons c cs ih =>
    have hcons : encode set (c :: cs) = encodeChar set c ++ encode set cs := List.flatMap_cons
    rw [hcons, List.length_append, List.length_cons, List.countP_cons]
    by_cases hset : set c = true
    · obtain ⟨b, bs, hbytes⟩ := List.exists_cons_of_ne_nil (String.utf8EncodeChar_ne_nil (c := c))
      have hthree : 3 ≤ (encodeChar set c).length := by
        rw [encodeChar, if_pos hset, encode_toString, hbytes, List.flatMap_cons, List.length_append]
        exact Nat.le_add_right _ _
      rw [if_pos hset]
      omega
    · have hone : (encodeChar set c).length = 1 := by
        rw [encodeChar, if_neg hset]
        rfl
      rw [if_neg hset]
      omega

/-- **Only texts without reserved characters are spelled as they are.** -/
theorem spelled_eq_self : spelled s = s ↔ ∀ c ∈ s.toList, reserved c = false := by
  rw [← String.toList_inj, spelled, String.toList_ofList]
  constructor
  · intro hsame c hc
    have hlength := length_encode reserved s.toList
    rw [hsame] at hlength
    have hnone : s.toList.countP reserved = 0 := by omega
    exact Bool.eq_false_iff.mpr (List.countP_eq_zero.mp hnone c hc)
  · exact encode_eq_self

/-! ## Queries -/

/-- The character that ends a part stands behind the text of the part. -/
theorem span_spelled (hd : isPlain d = false) (s : String) (rest : List Char) :
    ((spelled s).toList ++ d :: rest).span (· ≠ d) = ((spelled s).toList, d :: rest) := by
  refine span_eq (fun c hc => decide_eq_true (ne_of_plain (plain_of_mem hc) hd)) fun c hc => ?_
  cases hc
  exact decide_eq_false (absurd rfl)

/-- A name and a value, spelled out. -/
def queryPart (param : String × String) : List Char :=
  (spelled param.1).toList ++ '=' :: (spelled param.2).toList

/-- Names and values between ampersands, spelled out. -/
def query (params : List (String × String)) : List Char := ['&'].intercalate (params.map queryPart)

theorem mem_queryPart {param : String × String} (h : c ∈ queryPart param) : isPlain c = true ∨ c = '=' := by
  rcases List.mem_append.mp h with hname | hrest
  · exact .inl (plain_of_mem hname)
  · rcases List.mem_cons.mp hrest with hequals | hvalue
    · exact .inr hequals
    · exact .inl (plain_of_mem hvalue)

theorem mem_query {params : List (String × String)} (h : c ∈ query params) :
    isPlain c = true ∨ c = '=' ∨ c = '&' := by
  have hpart {param : String × String} (h : c ∈ queryPart param) : isPlain c = true ∨ c = '=' ∨ c = '&' :=
    (mem_queryPart h).imp_right .inl
  induction params with
  | nil => cases h
  | cons param params ih =>
    cases params with
    | nil =>
      rw [query, List.map_singleton, List.intercalate_singleton] at h
      exact hpart h
    | cons next params =>
      rw [query, List.map_cons, List.map_cons, List.intercalate_cons_cons] at h
      rcases List.mem_append.mp h with hfront | hrest
      · rcases List.mem_append.mp hfront with hparam | hmark
        · exact hpart hparam
        · exact .inr (.inr (List.mem_singleton.mp hmark))
      · exact ih hrest

/-- **A query is taken apart as it was put together.** -/
theorem pairs_query (params : List (String × String)) : pairs (query params) = params := by
  cases params with
  | nil => rfl
  | cons param params =>
    have hsplit : (query (param :: params)).splitOnP (· = '&') = (param :: params).map queryPart := by
      refine List.splitOn_intercalate '&' (fun part hmem => ?_) (List.cons_ne_nil _ _)
      obtain ⟨param, -, rfl⟩ := List.mem_map.mp hmem
      intro hmark
      rcases mem_queryPart hmark with hplain | hequals
      · exact ne_of_plain hplain (by decide) rfl
      · cases hequals
    have hnone : ((param :: params).map queryPart).filter (· ≠ []) = (param :: params).map queryPart := by
      refine List.filter_eq_self.mpr fun part hmem => decide_eq_true ?_
      obtain ⟨param, -, rfl⟩ := List.mem_map.mp hmem
      exact List.append_ne_nil_of_right_ne_nil _ (List.cons_ne_nil _ _)
    have hread (param : String × String) : decodeComponent ((queryPart param).span (· ≠ '=')).1 = param.1 ∧
        decodeComponent (((queryPart param).span (· ≠ '=')).2.drop 1) = param.2 := by
      rw [queryPart, span_spelled (by decide)]
      simp only [List.drop_succ_cons, List.drop_zero, decodeComponent_spelled, and_self]
    rw [pairs, hsplit, hnone, List.map_map]
    refine (List.map_congr_left fun param _ => ?_).trans (List.map_id _)
    simp only [Function.comp_apply, (hread param).1, (hread param).2, id_eq]

end Percent

/-! ## Steps in a path -/

namespace Url

variable {segment : List Char}

/-- All texts with a given lower case, and some others. -/
def variants : List Char → List (List Char)
  | [] => [[]]
  | c :: cs => (variants cs).flatMap fun rest => [c :: rest, c.toUpper :: rest]

theorem toUpper_toLower (c : Char) : c = c.toLower ∨ c = c.toLower.toUpper := by
  by_cases hupper : c.val ≥ 'A'.val ∧ c.val ≤ 'Z'.val
  · have hall : ∀ n < 91, 65 ≤ n → Char.ofNat n = (Char.ofNat n).toLower.toUpper := by decide
    have hone := hall c.toNat (Nat.lt_succ_of_le (UInt32.le_iff_toNat_le.mp hupper.2))
      (UInt32.le_iff_toNat_le.mp hupper.1)
    rw [Char.ofNat_toNat] at hone
    exact .inr hone
  · have hsame : c.toLower = c := dif_neg hupper
    exact .inl hsame.symm

theorem mem_variants (segment : List Char) : segment ∈ variants (segment.map Char.toLower) := by
  induction segment with
  | nil => exact List.mem_singleton.mpr rfl
  | cons c cs ih =>
    refine List.mem_flatMap.mpr ⟨cs, ih, ?_⟩
    rcases toUpper_toLower c with hlower | hupper
    · rw [← hlower]
      exact List.mem_cons_self
    · rw [← hupper]
      exact List.mem_cons_of_mem _ (List.mem_singleton.mpr rfl)

/-- **What is a step in a path is decoded to one.** -/
theorem decodeComponent_dot (h : isDot segment = true) : Percent.decodeComponent segment = "." := by
  have hall : ∀ lower ∈ [".", "%2e"], ∀ segment ∈ variants lower.toList,
      Percent.decodeComponent segment = "." := by decide +kernel
  rw [isDot, List.contains_iff_mem] at h
  have hmem := mem_variants segment
  rw [← String.toList_ofList (l := segment.map Char.toLower)] at hmem
  exact hall _ h segment hmem

theorem decodeComponent_doubleDot (h : isDoubleDot segment = true) :
    Percent.decodeComponent segment = ".." := by
  have hall : ∀ lower ∈ ["..", "%2e.", ".%2e", "%2e%2e"], ∀ segment ∈ variants lower.toList,
      Percent.decodeComponent segment = ".." := by decide +kernel
  rw [isDoubleDot, List.contains_iff_mem] at h
  have hmem := mem_variants segment
  rw [← String.toList_ofList (l := segment.map Char.toLower)] at hmem
  exact hall _ h segment hmem

end Url

end ColumnWire
