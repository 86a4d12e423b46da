/-!
# Byte strings and little-endian numbers

A byte string is a list. Fixed-width numbers are written least significant byte
first; `decode_encode` says that reading undoes writing, up to the width.
-/
namespace ColumnWire

/-- A run of bytes, the first one to arrive at the head. -/
abbrev Bytes := List UInt8

/-- Cut a byte string into parts of `n` bytes, the last one perhaps shorter, behind the parts
`done`, of which the last one comes first. -/
def Bytes.chunksOnto (n : Nat) (done : List Bytes) : Bytes → List Bytes
  | [] => done.reverse
  | b :: bs => chunksOnto n ((b :: bs).take n :: done) (bs.drop (n - 1))
termination_by bs => bs.length
decreasing_by
  simp only [List.length_drop, List.length_cons]
  omega

/-- Cut a byte string into parts of `n` bytes, the last one perhaps shorter. -/
def Bytes.chunks (n : Nat) (bs : Bytes) : List Bytes := chunksOnto n [] bs

theorem Bytes.chunksOnto_eq (n : Nat) (done : List Bytes) (bs : Bytes) :
    chunksOnto n done bs = done.reverse ++ chunks n bs := by
  induction h : bs.length using Nat.strongRecOn generalizing done bs with
  | ind k ih =>
    cases bs with
    | nil => simp [chunks, chunksOnto]
    | cons b bs =>
      have hlt : (bs.drop (n - 1)).length < k := by simp at h ⊢; omega
      rw [chunks, chunksOnto, chunksOnto, ih _ hlt _ _ rfl, ih _ hlt [_] _ rfl]
      simp

theorem Bytes.chunks_nil (n : Nat) : chunks n [] = [] := by simp [chunks, chunksOnto]

theorem Bytes.chunks_cons (n : Nat) (b : UInt8) (bs : Bytes) :
    chunks n (b :: bs) = (b :: bs).take n :: chunks n (bs.drop (n - 1)) := by
  rw [chunks, chunksOnto, chunksOnto_eq]
  rfl

/-- What holds of nothing, and of a byte string if it does behind its first part, holds of all. -/
theorem Bytes.chunks_induction {P : Bytes → Prop} (n : Nat) (nil : P [])
    (cons : ∀ b bs, P (bs.drop (n - 1)) → P (b :: bs)) (bs : Bytes) : P bs := by
  induction h : bs.length using Nat.strongRecOn generalizing bs with
  | ind k ih =>
    cases bs with
    | nil => exact nil
    | cons b bs =>
      have hshorter : (bs.drop (n - 1)).length < k := by
        simp at h ⊢
        omega
      exact cons b bs (ih _ hshorter _ rfl)

theorem Bytes.flatten_chunks {n : Nat} (hn : 0 < n) (bs : Bytes) : (chunks n bs).flatten = bs := by
  obtain ⟨n, rfl⟩ : ∃ k, n = k + 1 := ⟨n - 1, by omega⟩
  induction bs using chunks_induction (n + 1) with
  | nil => rw [chunks_nil, List.flatten_nil]
  | cons b bs ih =>
    rw [chunks_cons, List.flatten_cons, ih]
    simp

theorem Bytes.length_chunks {n : Nat} (hn : 0 < n) (bs : Bytes) :
    (chunks n bs).length = (bs.length + n - 1) / n := by
  induction bs using chunks_induction n with
  | nil =>
    rw [chunks_nil]
    exact (Nat.div_eq_of_lt (by simp; omega)).symm
  | cons b bs ih =>
    rw [chunks_cons, List.length_cons, ih, List.length_drop, List.length_cons]
    by_cases hshort : bs.length < n
    · have hnone : (bs.length - (n - 1) + n - 1) / n = 0 := Nat.div_eq_of_lt (by omega)
      have hsplit : bs.length + 1 + n - 1 = bs.length + n := by omega
      rw [hnone, hsplit, Nat.add_div_right _ hn, Nat.div_eq_of_lt hshort]
    · have hsplit : bs.length + 1 + n - 1 = bs.length - (n - 1) + n - 1 + n := by omega
      rw [hsplit, Nat.add_div_right _ hn]

namespace LittleEndian

/-- The low `n` bytes of a number, least significant first. -/
def encode : (n : Nat) → (v : Nat) → Bytes
  | 0, _ => []
  | n + 1, v => UInt8.ofNat v :: encode n (v / 256)

/-- The number that bytes spell, least significant first. -/
def decode : Bytes → Nat
  | [] => 0
  | b :: bs => b.toNat + 256 * decode bs

@[simp] theorem length_encode (n v : Nat) : (encode n v).length = n := by
  induction n generalizing v with
  | zero => rfl
  | succ n ih => simp [encode, ih]

theorem decode_encode (n v : Nat) : decode (encode n v) = v % Nat.pow 256 n := by
  induction n generalizing v with
  | zero => exact (Nat.mod_one v).symm
  | succ n ih =>
    have hpow : Nat.pow 256 (n + 1) = 256 * Nat.pow 256 n := Nat.mul_comm _ _
    rw [hpow, Nat.mod_mul, encode, decode, ih, UInt8.toNat_ofNat']

theorem encode_decode (bs : Bytes) : encode bs.length (decode bs) = bs := by
  induction bs with
  | nil => rfl
  | cons b bs ih =>
    have hb := b.toNat_lt
    have hd : (b.toNat + 256 * decode bs) / 256 = decode bs := by omega
    simp only [List.length_cons, encode, decode, hd, ih, List.cons.injEq, and_true]
    apply UInt8.toNat_inj.mp
    simp only [UInt8.toNat_ofNat']
    omega

end LittleEndian

end ColumnWire
