/-!
# CityHash, 128 bits

The 128-bit hash of CityHash 1.0.2; the first of its two words counts as the high half.
Frames carry it as a checksum, so every constant and every rotation is fixed by the
wire format.
-/
namespace ColumnWire.CityHash

/-- A 128-bit value as its two halves. -/
structure Wide where
  high : UInt64
  low : UInt64
deriving Repr, DecidableEq, Inhabited

def k0 : UInt64 := 0xc3a5c85c97cb3127
def k1 : UInt64 := 0xb492b66fbe98f273
def k2 : UInt64 := 0x9ae16a3b2f90404f
def k3 : UInt64 := 0xc949d7c7509e6557

/-- The byte at a position, zero outside. -/
def byteAt (s : ByteArray) (i : Nat) : UInt64 := if h : i < s.size then s[i].toUInt64 else 0

/-- The little-endian 32-bit word at a position. -/
def fetch32 (s : ByteArray) (i : Nat) : UInt64 :=
  byteAt s i ||| byteAt s (i + 1) <<< 8 ||| byteAt s (i + 2) <<< 16 ||| byteAt s (i + 3) <<< 24

/-- The little-endian 64-bit word at a position. -/
def fetch64 (s : ByteArray) (i : Nat) : UInt64 := fetch32 s i ||| fetch32 s (i + 4) <<< 32

/-- Rotate right by an amount between 1 and 63. -/
def rotate (v : UInt64) (amount : UInt64) : UInt64 := v >>> amount ||| v <<< (64 - amount)

/-- Rotate right by an amount below 64. -/
def rotateAny (v : UInt64) (amount : UInt64) : UInt64 := if amount = 0 then v else rotate v amount

def shiftMix (v : UInt64) : UInt64 := v ^^^ v >>> 47

/-- Mix two words into one. -/
def mix (u v : UInt64) : UInt64 :=
  let factor : UInt64 := 0x9ddfea08eb382d69
  let a := shiftMix ((u ^^^ v) * factor)
  let b := shiftMix ((v ^^^ a) * factor)
  b * factor

/-- Hash `len ≤ 16` bytes from `p`. -/
def short (s : ByteArray) (p len : Nat) : UInt64 :=
  let n := UInt64.ofNat len
  if 8 < len then
    let a := fetch64 s p
    let b := fetch64 s (p + len - 8)
    mix a (rotateAny (b + n) n) ^^^ b
  else if 4 ≤ len then
    mix (n + fetch32 s p <<< 3) (fetch32 s (p + len - 4))
  else if 0 < len then
    let y := byteAt s p + byteAt s (p + len / 2) <<< 8
    let z := n + byteAt s (p + len - 1) <<< 2
    shiftMix (y * k2 ^^^ z * k3) * k2
  else k2

/-- Fold 32 bytes from `p` into two words. -/
def weak32 (s : ByteArray) (p : Nat) (a b : UInt64) : Wide :=
  let w := fetch64 s p
  let z := fetch64 s (p + 24)
  let a := a + w
  let b := rotate (b + a + z) 21
  let c := a
  let a := a + fetch64 s (p + 8) + fetch64 s (p + 16)
  let b := b + rotate a 44
  ⟨a + z, b + c⟩

/-- The four words that the medium-length hash carries along. -/
structure Murmur where
  a : UInt64
  b : UInt64
  c : UInt64
  d : UInt64

/-- Hash `rounds` runs of 16 bytes from `p`. -/
def Murmur.absorb (s : ByteArray) : (rounds p : Nat) → Murmur → Murmur
  | 0, _, m => m
  | rounds + 1, p, m =>
    let a := (m.a ^^^ shiftMix (fetch64 s p * k1) * k1) * k1
    let b := m.b ^^^ a
    let c := (m.c ^^^ shiftMix (fetch64 s (p + 8) * k1) * k1) * k1
    absorb s rounds (p + 16) ⟨a, b, c, m.d ^^^ c⟩

/-- Hash `len < 128` bytes from `p`. -/
def medium (s : ByteArray) (p len : Nat) (seed : Wide) : Wide :=
  let n := UInt64.ofNat len
  let m : Murmur :=
    if len ≤ 16 then
      let a := shiftMix (seed.high * k1) * k1
      let c := seed.low * k1 + short s p len
      ⟨a, seed.low, c, shiftMix (a + if 8 ≤ len then fetch64 s p else c)⟩
    else
      let c := mix (fetch64 s (p + len - 8) + k1) seed.high
      let d := mix (seed.low + n) (c + fetch64 s (p + len - 16))
      Murmur.absorb s ((len - 1) / 16) p ⟨seed.high + d, seed.low, c, d⟩
  let a := mix m.a m.c
  let b := mix m.d m.b
  ⟨a ^^^ b, mix b a⟩

/-- The seven words that the long hash carries along. -/
structure Long where
  v : Wide
  w : Wide
  x : UInt64
  y : UInt64
  z : UInt64

/-- Hash 64 bytes from `p`. -/
def Long.absorb (s : ByteArray) (p : Nat) (t : Long) : Long :=
  let x := rotate (t.x + t.y + t.v.high + fetch64 s (p + 16)) 37 * k1 ^^^ t.w.low
  let y := rotate (t.y + t.v.low + fetch64 s (p + 48)) 42 * k1 ^^^ t.v.high
  let z := rotate (t.z ^^^ t.w.high) 33
  let v := weak32 s p (t.v.low * k1) (x + t.w.high)
  let w := weak32 s (p + 32) (z + t.w.low) y
  ⟨v, w, z, y, x⟩

/-- Hash `pairs` runs of 128 bytes from `p`. -/
def Long.absorbPairs (s : ByteArray) : (pairs p : Nat) → Long → Long
  | 0, _, t => t
  | pairs + 1, p, t => absorbPairs s pairs (p + 128) ((t.absorb s p).absorb s (p + 64))

/-- Hash `runs` runs of 32 bytes that end where `stop` bytes are left behind them. -/
def Long.absorbTail (s : ByteArray) (stop : Nat) : (runs done : Nat) → Long → Long
  | 0, _, t => t
  | runs + 1, done, t =>
    let done := done + 32
    let p := stop - done
    let y := rotate (t.y - t.x) 42 * k0 + t.v.low
    let wh := t.w.high + fetch64 s (p + 16)
    let x := rotate t.x 49 * k0 + wh
    let wh := wh + t.v.high
    absorbTail s stop runs done ⟨weak32 s p t.v.high t.v.low, ⟨wh, t.w.low⟩, x, y, t.z⟩

/-- Hash `len ≥ 128` bytes from `p`. -/
def long (s : ByteArray) (p len : Nat) (seed : Wide) : Wide :=
  let z := UInt64.ofNat len * k1
  let vh := rotate (seed.low ^^^ k1) 49 * k1 + fetch64 s p
  let vl := rotate vh 42 * k1 + fetch64 s (p + 8)
  let wh := rotate (seed.low + z) 35 * k1 + seed.high
  let wl := rotate (seed.high + fetch64 s (p + 88)) 53 * k1
  let t := Long.absorbPairs s (len / 128) p ⟨⟨vh, vl⟩, ⟨wh, wl⟩, seed.high, seed.low, z⟩
  let y := t.y + rotate t.w.high 37 * k0 + t.z
  let x := t.x + rotate (t.v.high + t.z) 49 * k0
  let t := Long.absorbTail s (p + len) ((len % 128 + 31) / 32) 0 ⟨t.v, t.w, x, y, t.z⟩
  let x := mix t.x t.v.high
  let y := mix t.y t.w.high
  ⟨mix (x + t.v.low) t.w.low + y, mix (x + t.w.low) (y + t.v.low)⟩

/-- Hash `len` bytes from `p` under a seed. -/
def seeded (s : ByteArray) (p len : Nat) (seed : Wide) : Wide :=
  if len < 128 then medium s p len seed else long s p len seed

/-- The hash of all bytes. -/
def hash (s : ByteArray) : Wide :=
  let n := UInt64.ofNat s.size
  if 16 ≤ s.size then seeded s 16 (s.size - 16) ⟨fetch64 s 0 ^^^ k3, fetch64 s 8⟩
  else if 8 ≤ s.size then seeded s 0 0 ⟨fetch64 s 0 ^^^ n * k0, fetch64 s (s.size - 8) ^^^ k1⟩
  else seeded s 0 s.size ⟨k0, k1⟩

end ColumnWire.CityHash
