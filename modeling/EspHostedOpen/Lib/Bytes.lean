import Mathlib

/-!
# Little-endian byte strings and slices

The byte-level vocabulary of packed C structures: `leBytes w n` is the `w`-byte little-endian image
of a natural, `leNat` reads one back, `slice off n bs` is the `n` bytes of `bs` at `off`, and a
`Packed` layout gives member offsets. The round trips (`leNat_leBytes`, `leBytes_leNat`) and the
slice lemmas (`slice_append_left`, `slice_append_right`) are all a struct overlay needs.
-/

namespace ByteCodec

/-! ## Little-endian naturals -/

/-- The `w` low bytes of `n`, least significant first. -/
def leBytes : Nat → Nat → List UInt8
  | 0, _ => []
  | w + 1, n => UInt8.ofNat n :: leBytes w (n / 256)

/-- The natural whose little-endian bytes are given. -/
def leNat : List UInt8 → Nat
  | [] => 0
  | b :: bs => b.toNat + 256 * leNat bs

@[simp] theorem leNat_nil : leNat [] = 0 := rfl

@[simp] theorem leNat_cons (b : UInt8) (bs : List UInt8) :
    leNat (b :: bs) = b.toNat + 256 * leNat bs := rfl

@[simp] theorem length_leBytes (w n : Nat) : (leBytes w n).length = w := by
  induction w generalizing n with
  | zero => rfl
  | succ w ih => simp only [leBytes, List.length_cons, ih]

theorem leNat_leBytes (w n : Nat) : leNat (leBytes w n) = n % 256 ^ w := by
  induction w generalizing n with
  | zero => simp only [leBytes, leNat_nil, Nat.pow_zero, Nat.mod_one]
  | succ w ih =>
    have hsplit : n % 256 ^ (w + 1) = n % 256 + 256 * (n / 256 % 256 ^ w) := by
      rw [Nat.pow_succ', Nat.mod_mul]
    rw [hsplit, leBytes, leNat_cons, ih, UInt8.toNat_ofNat']

theorem leNat_leBytes_of_lt {w n : Nat} (h : n < 256 ^ w) : leNat (leBytes w n) = n := by
  rw [leNat_leBytes, Nat.mod_eq_of_lt h]

theorem leNat_lt (bs : List UInt8) : leNat bs < 256 ^ bs.length := by
  induction bs with
  | nil => simp
  | cons b bs ih =>
    have hb : b.toNat < 256 := b.toNat_lt
    rw [leNat_cons, List.length_cons, Nat.pow_succ]
    omega

theorem leBytes_leNat (bs : List UInt8) : leBytes bs.length (leNat bs) = bs := by
  induction bs with
  | nil => rfl
  | cons b bs ih =>
    have hb : b.toNat < 256 := b.toNat_lt
    rw [List.length_cons, leBytes, leNat_cons]
    congr 1
    · apply UInt8.toNat_inj.1
      rw [UInt8.toNat_ofNat', Nat.add_mul_mod_self_left, Nat.mod_eq_of_lt hb]
    · rw [Nat.add_mul_div_left _ _ (by decide), Nat.div_eq_of_lt hb, Nat.zero_add, ih]

/-! ## Slices -/

/-- The `n` bytes of `bs` that start at offset `off` (fewer where `bs` ends earlier). -/
def slice (off n : Nat) (bs : List UInt8) : List UInt8 := (bs.drop off).take n

theorem length_slice {off n : Nat} {bs : List UInt8} (h : off + n ≤ bs.length) :
    (slice off n bs).length = n := by
  simp only [slice, List.length_take, List.length_drop]
  omega

/-- A slice that starts past the first part lies in the second one. -/
theorem slice_append_right {a : List UInt8} {off : Nat} (n : Nat) (b : List UInt8)
    (h : a.length ≤ off) : slice off n (a ++ b) = slice (off - a.length) n b := by
  rw [slice, slice, List.drop_append, List.drop_eq_nil_of_le h, List.nil_append]

/-- A slice that ends within the first part does not see the second one. -/
theorem slice_append_left {a : List UInt8} {off n : Nat} (b : List UInt8)
    (h : off + n ≤ a.length) : slice off n (a ++ b) = slice off n a := by
  rw [slice, slice, List.drop_append_of_le_length (by omega),
    List.take_append_of_le_length (by simp only [List.length_drop]; omega)]

theorem slice_all {n : Nat} {bs : List UInt8} (h : bs.length = n) : slice 0 n bs = bs := by
  rw [slice, List.drop_zero, ← h, List.take_length]

/-- The prefix of an append that has the first part's length is the first part. -/
theorem slice_prefix {a : List UInt8} {n : Nat} (b : List UInt8) (h : a.length = n) :
    slice 0 n (a ++ b) = a := by
  rw [slice_append_left b (by omega), slice_all h]

/-- Slices of one length, one behind the other. -/
theorem flatten_slices (c n : Nat) (bs : List UInt8) :
    ((List.range n).map fun k => slice (c * k) c bs).flatten = bs.take (c * n) := by
  induction n with
  | zero => rfl
  | succ n ih =>
    rw [List.range_succ, List.map_append, List.flatten_append, ih, Nat.mul_succ, List.take_add]
    simp [slice]

/-! ## Packed structures -/

/-- A packed structure: the widths of its members in declaration order. -/
abbrev Packed := List Nat

namespace Packed

def sizeof (t : Packed) : Nat := t.sum

/-- Offset of the `k`-th member. -/
def offset (t : Packed) (k : Nat) : Nat := (t.take k).sum

end Packed

end ByteCodec
