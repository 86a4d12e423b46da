import ColumnWire.Frame.Lz4

/-!
# Expanding what was compressed

A block that `compress` writes expands to the content it was made from, whatever the
matcher proposes: `expand_compress`. The block takes at most about twice the bytes of
its content, which keeps the frames of small chunks within their limits.
-/
namespace ColumnWire.Lz4

/-! ## Reading back one sequence -/

theorem readLength_replicate (q sum : Nat) (bs : Bytes) :
    readLength sum (List.replicate q 255 ++ bs) = readLength (sum + 255 * q) bs := by
  induction q generalizing sum with
  | zero => rfl
  | succ q ih =>
    rw [List.replicate_succ, List.cons_append, readLength, if_pos rfl, ih]
    congr 1
    omega

theorem readLength_writeLength (sum n : Nat) (rest : Bytes) :
    readLength sum (writeLength n ++ rest) = some (sum + n, rest) := by
  have hbyte : (UInt8.ofNat (n % 255)).toNat = n % 255 := by
    rw [UInt8.toNat_ofNat']
    omega
  have hne : UInt8.ofNat (n % 255) ≠ 255 := by
    intro h
    have := congrArg UInt8.toNat h
    rw [hbyte] at this
    simp at this
    omega
  rw [writeLength, List.append_assoc, readLength_replicate, List.singleton_append, readLength,
    if_neg hne, hbyte]
  congr 2
  omega

theorem readNibble_writeNibble (n : Nat) (rest : Bytes) :
    readNibble (min n 15) (writeNibble n ++ rest) = some (n, rest) := by
  by_cases h : n < 15
  · have hmin : min n 15 = n := by omega
    simp [readNibble, writeNibble, h, hmin, Nat.ne_of_lt h]
  · have hmin : min n 15 = 15 := by omega
    rw [readNibble, writeNibble, hmin, if_pos rfl, if_neg h, readLength_writeLength]
    congr 2
    omega

/-- Without a match, the literals run to the end of the block. -/
theorem readSequence_literals (literals : Bytes) :
    readSequence (writeSequence ⟨literals, none⟩) = some (⟨literals, none⟩, []) := by
  have htoken : (UInt8.ofNat (min literals.length 15 * 16)).toNat / 16 = min literals.length 15 := by
    rw [UInt8.toNat_ofNat']
    omega
  simp only [writeSequence, readSequence, htoken, readNibble_writeNibble]
  simp

theorem readMatch_write (m : Match) (rest : Bytes) (hd : m.distance ≤ maxDistance)
    (hl : minMatch ≤ m.length) :
    readMatch (min (m.length - minMatch) 15)
      (LittleEndian.encode 2 m.distance ++ (writeNibble (m.length - minMatch) ++ rest)) =
      some (m, rest) := by
  have hdist : (UInt8.ofNat m.distance).toNat + 256 * (UInt8.ofNat (m.distance / 256)).toNat =
      m.distance := by
    simp only [UInt8.toNat_ofNat', maxDistance] at *
    omega
  have hlen : m.length - minMatch + minMatch = m.length := by omega
  simp only [LittleEndian.encode, List.cons_append, List.nil_append, readMatch,
    readNibble_writeNibble, Option.map_some, hdist, hlen]

theorem readSequence_match (literals : Bytes) (m : Match) (rest : Bytes)
    (hd : m.distance ≤ maxDistance) (hl : minMatch ≤ m.length) :
    readSequence (writeSequence ⟨literals, some m⟩ ++ rest) = some (⟨literals, some m⟩, rest) := by
  have hlow : min (m.length - minMatch) 15 < 16 := by omega
  have hhigh : min literals.length 15 < 16 := by omega
  have htoken : (UInt8.ofNat (min literals.length 15 * 16 + min (m.length - minMatch) 15)).toNat =
      min literals.length 15 * 16 + min (m.length - minMatch) 15 := by
    rw [UInt8.toNat_ofNat']
    omega
  have hdiv : (min literals.length 15 * 16 + min (m.length - minMatch) 15) / 16 =
      min literals.length 15 := by omega
  have hmod : (min literals.length 15 * 16 + min (m.length - minMatch) 15) % 16 =
      min (m.length - minMatch) 15 := by omega
  simp only [writeSequence, List.cons_append, List.append_assoc, readSequence, htoken, hdiv, hmod,
    readNibble_writeNibble, List.splitAt_eq, List.take_left', List.drop_left']
  have hread := readMatch_write m rest hd hl
  simp only [LittleEndian.encode, List.cons_append, List.nil_append] at hread ⊢
  simp [hread]

/-! ## Copies -/

theorem agreement_getElem? {data : Array UInt8} {p q n i : Nat} (h : i < agreement data p q n) :
    data[p + i]? = data[q + i]? := by
  induction n generalizing p q i with
  | zero => simp [agreement] at h
  | succ n ih =>
    rw [agreement] at h
    split at h
    · next heq =>
      cases i with
      | zero => exact heq
      | succ i =>
        have := ih (p := p + 1) (q := q + 1) (i := i) (by omega)
        rwa [Nat.add_assoc, Nat.add_assoc, Nat.add_comm 1 i] at this
    · omega

/-- A match that was found repeats what stands at its position, within the end of the data. -/
theorem findMatch_repeats {m : Matcher} {data : Array UInt8} {p : Nat} {f : Match}
    (hp : p ≤ data.size) (h : findMatch m data p = some f) :
    f.distance ≠ 0 ∧ f.distance ≤ p ∧ f.distance ≤ maxDistance ∧ minMatch ≤ f.length ∧
      p + f.length ≤ data.size ∧
      ∀ i < f.length, data[p - f.distance + i]? = data[p + i]? := by
  have hbound := findMatch_length h
  obtain ⟨c, -, hc⟩ := Option.bind_eq_some_iff.mp h
  obtain ⟨rfl, hfits⟩ := Option.guard_eq_some_iff.mp hc
  simp only [Match.fits, Bool.and_eq_true, decide_eq_true_eq] at hfits hbound ⊢
  refine ⟨by omega, by omega, hfits.1.2, hfits.2, by omega, ?_⟩
  intro i hi
  have hstart : p - (p - c) = c := by omega
  rw [hstart]
  exact agreement_getElem? hi

/-- Copying extends a prefix of the data as far as the data repeats itself. -/
theorem copyBack_extract (data : Array UInt8) (distance n p : Nat) (hd : distance ≠ 0)
    (hp : distance ≤ p) (hn : p + n ≤ data.size)
    (hrep : ∀ i < n, data[p - distance + i]? = data[p + i]?) :
    copyBack distance n (data.extract 0 p) = data.extract 0 (p + n) := by
  induction n generalizing p with
  | zero => rfl
  | succ n ih =>
    have hsize : (data.extract 0 p).size = p := by
      rw [Array.size_extract]
      omega
    have hend : p < data.size := by omega
    have hbyte : (data.extract 0 p).getD (p - distance) 0 = data[p] := by
      have hfirst := hrep 0 (by omega)
      have hlt : p - distance < (data.extract 0 p).size := by omega
      rw [Array.getD_eq_getD_getElem?, Array.getElem?_eq_getElem hlt, Array.getElem_extract]
      simp only [Nat.add_zero, Nat.zero_add] at hfirst ⊢
      rw [Array.getElem?_eq_getElem (by omega), Array.getElem?_eq_getElem (by omega)] at hfirst
      exact Option.some.inj hfirst
    have hpush : (data.extract 0 p).push data[p] = data.extract 0 (p + 1) := by
      rw [Array.push_extract_getElem (by omega), Nat.min_eq_left (Nat.zero_le _)]
    rw [copyBack, hsize, hbyte, hpush, ih (p + 1) (by omega) (by omega)]
    · congr 1
      omega
    · intro i hi
      have := hrep (i + 1) (by omega)
      rw [show p + 1 - distance + i = p - distance + (i + 1) by omega,
        show p + 1 + i = p + (i + 1) by omega]
      exact this

/-! ## Lengths of what is written -/

theorem length_writeNibble_le (n : Nat) : (writeNibble n).length ≤ n := by
  by_cases h : n < 15
  · simp [writeNibble, h]
  · simp only [writeNibble, if_neg h, writeLength, List.length_append, List.length_replicate,
      List.length_singleton]
    omega

theorem length_literals_le (literals : Bytes) :
    (writeSequence ⟨literals, none⟩).length ≤ 2 * literals.length + 1 := by
  have := length_writeNibble_le literals.length
  simp only [writeSequence, List.length_cons, List.length_append]
  omega

theorem length_writeSequence_le (literals : Bytes) (m : Match) (hl : minMatch ≤ m.length) :
    (writeSequence ⟨literals, some m⟩).length ≤ 2 * (literals.length + m.length) := by
  have := length_writeNibble_le literals.length
  have := length_writeNibble_le (m.length - minMatch)
  simp only [writeSequence, List.length_cons, List.length_append, LittleEndian.length_encode,
    minMatch] at *
  omega

/-! ## The block as a whole -/

theorem extract_append_slice (data : Array UInt8) {anchor p : Nat} (h : anchor ≤ p) :
    data.extract 0 anchor ++ slice data anchor p = data.extract 0 p := by
  apply Array.toList_inj.mp
  rw [slice, Array.toList_appendList, ← Array.toList_append, Array.extract_append_extract]
  simp [h]

theorem length_slice (data : Array UInt8) {anchor p : Nat} (hp : p ≤ data.size) :
    (slice data anchor p).length = p - anchor := by
  simp only [slice, Array.length_toList, Array.size_extract]
  omega

/-- The invariant of the compressor: what it writes from `anchor` on, read behind the data before
`anchor`, completes the data. -/
theorem compressFrom_spec (data : Array UInt8) (bound : Nat) (hbound : data.size ≤ bound)
    (m : Matcher) (anchor p : Nat) (out : Array UInt8) (ha : anchor ≤ p) (hp : p ≤ data.size) :
    ∃ block : Bytes, (compressFrom data m anchor p out).toList = out.toList ++ block ∧
      expandFrom bound block (data.extract 0 anchor) = some data ∧
      block.length ≤ 2 * (data.size - anchor) + 1 := by
  fun_induction compressFrom data m anchor p out with
  | case1 m anchor p out hroom f hf ih =>
    obtain ⟨hd0, hdp, hdmax, hmin, hend, hrep⟩ := findMatch_repeats hp hf
    obtain ⟨block, hout, hexp, hlen⟩ := ih (Nat.le_refl _) hend
    have hslice : (slice data anchor p).length = p - anchor := length_slice data hp
    have hwrite := length_writeSequence_le (slice data anchor p) f hmin
    refine ⟨writeSequence ⟨slice data anchor p, some f⟩ ++ block, ?_, ?_, ?_⟩
    · rw [hout]
      simp
    · have hsize : (data.extract 0 anchor).size = anchor := by
        rw [Array.size_extract]
        omega
      have hprefix : (data.extract 0 p).size = p := by
        rw [Array.size_extract]
        omega
      rw [expandFrom, readSequence_match _ f _ hdmax hmin]
      simp only [hsize, hslice, extract_append_slice data ha, hprefix,
        copyBack_extract data f.distance f.length p hd0 hdp hend hrep, hexp]
      rw [if_neg (by omega), if_neg (by omega)]
    · rw [List.length_append]
      omega
  | case2 m anchor p out hroom hf ih =>
    have hroom' : p + 1 ≤ data.size := by
      simp only [matchMargin] at hroom
      omega
    exact ih (by omega) hroom'
  | case3 m anchor p out hroom =>
    have hslice : (slice data anchor data.size).length = data.size - anchor :=
      length_slice data (Nat.le_refl _)
    have hwrite := length_literals_le (slice data anchor data.size)
    refine ⟨writeSequence ⟨slice data anchor data.size, none⟩, by simp, ?_, by omega⟩
    have hsize : (data.extract 0 anchor).size = anchor := by
      rw [Array.size_extract]
      omega
    rw [expandFrom, readSequence_literals]
    simp only [hsize, hslice, extract_append_slice data (Nat.le_trans ha hp), Array.extract_size]
    rw [if_neg (by omega)]

/-- **Expanding gives back what was compressed**, within any bound that the content keeps. -/
theorem expand_compress (bs : Bytes) {bound : Nat} (h : bs.length ≤ bound) :
    expand bound (compress bs) = some bs := by
  obtain ⟨block, hout, hexp, -⟩ := compressFrom_spec bs.toArray bound (by simpa using h)
    Matcher.empty 0 0 #[] (Nat.le_refl 0) (Nat.zero_le _)
  have hblock : compress bs = block := by simpa [compress] using hout
  have hstart : bs.toArray.extract 0 0 = #[] := by simp
  rw [hstart] at hexp
  simp [expand, hblock, hexp]

/-- A block is not much longer than what it holds. -/
theorem length_compress_le (bs : Bytes) : (compress bs).length ≤ 2 * bs.length + 1 := by
  obtain ⟨block, hout, -, hlen⟩ := compressFrom_spec bs.toArray bs.length (by simp)
    Matcher.empty 0 0 #[] (Nat.le_refl 0) (Nat.zero_le _)
  have hblock : compress bs = block := by simpa [compress] using hout
  simpa [hblock] using hlen

end ColumnWire.Lz4
