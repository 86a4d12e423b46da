import ColumnWire.Bytes

/-!
# LZ4 blocks

A block is a run of sequences. A sequence has literal bytes and, unless it is the
last one, a match: a distance back into the output and a number of bytes to repeat
from there. `expand` reads a block within a bound on its output. `compress` writes
one; which matches it takes is left to `Matcher.candidate`, and every candidate is
compared byte by byte before it is used.
-/
namespace ColumnWire.Lz4

/-- The shortest match that can be written. -/
def minMatch : Nat := 4

/-- The farthest that a match can reach back. -/
def maxDistance : Nat := 65535

/-! ## Reading -/

/-- Add up bytes until one is not 255. -/
def readLength (sum : Nat) : Bytes → Option (Nat × Bytes)
  | [] => none
  | b :: bs => if b = 255 then readLength (sum + 255) bs else some (sum + b.toNat, bs)

/-- A length from its four bits in the token: fifteen means that more follows. -/
def readNibble (nibble : Nat) (bs : Bytes) : Option (Nat × Bytes) :=
  if nibble = 15 then readLength 15 bs else some (nibble, bs)

theorem readLength_le {sum n : Nat} {bs rest : Bytes} (h : readLength sum bs = some (n, rest)) :
    rest.length ≤ bs.length := by
  induction bs generalizing sum with
  | nil => simp [readLength] at h
  | cons b bs ih =>
    simp only [readLength] at h
    split at h
    · exact Nat.le_succ_of_le (ih h)
    · simp only [Option.some.injEq, Prod.mk.injEq] at h
      simp [← h.2]

theorem readNibble_le {nibble n : Nat} {bs rest : Bytes}
    (h : readNibble nibble bs = some (n, rest)) : rest.length ≤ bs.length := by
  unfold readNibble at h
  split at h
  · exact readLength_le h
  · simp_all

/-- Repeat `n` bytes, each from `distance` back. -/
def copyBack (distance : Nat) : (n : Nat) → (out : Array UInt8) → Array UInt8
  | 0, out => out
  | n + 1, out => copyBack distance n (out.push (out.getD (out.size - distance) 0))

/-- A match as it stands in a block. -/
structure Match where
  distance : Nat
  length : Nat
deriving Repr, DecidableEq

/-- One sequence of a block. -/
structure Sequence where
  literals : Bytes
  copy : Option Match
deriving Repr, DecidableEq

/-- Read the part of a sequence after its literals. -/
def readMatch (nibble : Nat) : Bytes → Option (Match × Bytes)
  | lo :: hi :: bs =>
    (readNibble nibble bs).map fun (n, rest) => (⟨lo.toNat + 256 * hi.toNat, n + minMatch⟩, rest)
  | _ => none

/-- Read one sequence. It has no match exactly if the block ends after the literals. -/
def readSequence : Bytes → Option (Sequence × Bytes)
  | [] => none
  | token :: bs =>
    match readNibble (token.toNat / 16) bs with
    | none => none
    | some (n, bs) =>
      let (literals, rest) := bs.splitAt n
      if literals.length ≠ n then none
      else if rest = [] then some (⟨literals, none⟩, [])
      else (readMatch (token.toNat % 16) rest).map fun (m, rest) => (⟨literals, some m⟩, rest)

theorem readMatch_le {nibble : Nat} {bs rest : Bytes} {m : Match}
    (h : readMatch nibble bs = some (m, rest)) : rest.length ≤ bs.length := by
  match bs with
  | [] | [_] => simp [readMatch] at h
  | lo :: hi :: bs =>
    simp only [readMatch, Option.map_eq_some_iff] at h
    obtain ⟨⟨n, rest'⟩, hn, he⟩ := h
    have := readNibble_le hn
    simp only [Prod.mk.injEq] at he
    simp only [List.length_cons, ← he.2]
    omega

theorem readSequence_lt {bs rest : Bytes} {s : Sequence}
    (h : readSequence bs = some (s, rest)) : rest.length < bs.length := by
  match bs with
  | [] => simp [readSequence] at h
  | token :: bs =>
    simp only [readSequence, List.splitAt_eq] at h
    split at h
    · simp at h
    · next n bs' hn =>
      have hle := readNibble_le hn
      split at h
      · simp at h
      · split at h
        · simp only [Option.some.injEq, Prod.mk.injEq] at h
          simp [← h.2]
        · simp only [Option.map_eq_some_iff] at h
          obtain ⟨⟨m, rest'⟩, hm, he⟩ := h
          have := readMatch_le hm
          simp only [Prod.mk.injEq] at he
          simp only [List.length_drop] at this
          simp only [List.length_cons, ← he.2]
          omega

/-- Expand a block onto `out`, which must not grow past `bound` bytes. A match must lie
inside the output, and the block must end after literals. -/
def expandFrom (bound : Nat) (bs : Bytes) (out : Array UInt8) : Option (Array UInt8) :=
  match _h : readSequence bs with
  | none => none
  | some (s, rest) =>
    if out.size + s.literals.length > bound then none
    else
      let out := out ++ s.literals
      match s.copy with
      | none => some out
      | some m =>
        if m.distance = 0 ∨ m.distance > out.size ∨ out.size + m.length > bound then none
        else expandFrom bound rest (copyBack m.distance m.length out)
termination_by bs.length
decreasing_by exact readSequence_lt _h

/-- The content of a block, if it is well formed and holds at most `bound` bytes. -/
def expand (bound : Nat) (bs : Bytes) : Option Bytes := (expandFrom bound bs #[]).map Array.toList

/-! ## Writing -/

/-- The bytes that spell a length beyond the fifteen of the token. -/
def writeLength (n : Nat) : Bytes :=
  List.replicate (n / 255) 255 ++ [UInt8.ofNat (n % 255)]

/-- The bytes after the token for a length that the token has four bits for. -/
def writeNibble (n : Nat) : Bytes := if n < 15 then [] else writeLength (n - 15)

/-- The written form of a sequence. -/
def writeSequence (s : Sequence) : Bytes :=
  let n := s.literals.length
  match s.copy with
  | none => UInt8.ofNat (min n 15 * 16) :: (writeNibble n ++ s.literals)
  | some m =>
    UInt8.ofNat (min n 15 * 16 + min (m.length - minMatch) 15) ::
      (writeNibble n ++ s.literals ++ LittleEndian.encode 2 m.distance ++
        writeNibble (m.length - minMatch))

/-- The number of bytes, at most `n`, that agree from `p` and from `q` on. -/
def agreement (data : Array UInt8) (p q : Nat) : (n : Nat) → Nat
  | 0 => 0
  | n + 1 => if data[p]? = data[q]? then agreement data (p + 1) (q + 1) n + 1 else 0

/-- Where each short run of bytes was last seen, under a hash of the run. -/
structure Matcher where
  seen : Array Nat

namespace Matcher

/-- Number of places in the table, a power of two. -/
def places : Nat := 4096

def empty : Matcher := ⟨Array.replicate places 0⟩

/-- The place of the four bytes at a position. -/
def place (data : Array UInt8) (p : Nat) : Nat :=
  let word := (data.getD p 0).toUInt32 ||| (data.getD (p + 1) 0).toUInt32 <<< 8 |||
    (data.getD (p + 2) 0).toUInt32 <<< 16 ||| (data.getD (p + 3) 0).toUInt32 <<< 24
  ((2654435761 * word) >>> 20).toNat

/-- The last position, if any, whose bytes fell into the same place. Positions are kept
one higher than they are, so that zero means none. -/
def candidate (m : Matcher) (data : Array UInt8) (p : Nat) : Option Nat :=
  match m.seen.getD (place data p) 0 with
  | 0 => none
  | c + 1 => some c

/-- Remember a position. -/
def note (m : Matcher) (data : Array UInt8) (p : Nat) : Matcher :=
  ⟨m.seen.setIfInBounds (place data p) (p + 1)⟩

end Matcher

/-- The last bytes of a block that are always literals. -/
def tailLiterals : Nat := 5

/-- No match starts closer than this to the end of a block. -/
def matchMargin : Nat := 12

/-- Whether a match may be written. -/
def Match.fits (m : Match) : Bool :=
  1 ≤ m.distance && m.distance ≤ maxDistance && minMatch ≤ m.length

/-- The match at `p`, if the matcher has a candidate and it is long enough and near enough. -/
def findMatch (m : Matcher) (data : Array UInt8) (p : Nat) : Option Match :=
  (m.candidate data p).bind fun c =>
    Option.guard Match.fits ⟨p - c, agreement data c p (data.size - tailLiterals - p)⟩

theorem agreement_le (data : Array UInt8) (p q n : Nat) : agreement data p q n ≤ n := by
  induction n generalizing p q with
  | zero => simp [agreement]
  | succ n ih =>
    simp only [agreement]
    split
    · exact Nat.succ_le_succ (ih ..)
    · omega

theorem findMatch_length {m : Matcher} {data : Array UInt8} {p : Nat} {f : Match}
    (h : findMatch m data p = some f) : minMatch ≤ f.length ∧ f.length ≤ data.size - p := by
  obtain ⟨c, -, hc⟩ := Option.bind_eq_some_iff.mp h
  obtain ⟨rfl, hfits⟩ := Option.guard_eq_some_iff.mp hc
  simp only [Match.fits, Bool.and_eq_true, decide_eq_true_eq] at hfits
  have := agreement_le data c p (data.size - tailLiterals - p)
  exact ⟨hfits.2, Nat.le_trans this (by omega)⟩

/-- The bytes of `data` from `p` up to `q`. -/
def slice (data : Array UInt8) (p q : Nat) : Bytes := (data.extract p q).toList

/-- Write what follows position `p`, where the bytes from `anchor` on are not written yet. -/
def compressFrom (data : Array UInt8) (m : Matcher) (anchor p : Nat) (out : Array UInt8) :
    Array UInt8 :=
  if _hp : p + matchMargin ≤ data.size then
    match _h : findMatch m data p with
    | some f =>
      compressFrom data (m.note data p) (p + f.length) (p + f.length)
        (out ++ writeSequence ⟨slice data anchor p, some f⟩)
    | none => compressFrom data (m.note data p) anchor (p + 1) out
  else out ++ writeSequence ⟨slice data anchor data.size, none⟩
termination_by data.size - p
decreasing_by
  · have := findMatch_length _h
    simp only [minMatch, matchMargin] at this _hp
    omega
  · simp only [matchMargin] at _hp
    omega

/-- A block whose content is `bs`. -/
def compress (bs : Bytes) : Bytes := (compressFrom bs.toArray Matcher.empty 0 0 #[]).toList

end ColumnWire.Lz4
