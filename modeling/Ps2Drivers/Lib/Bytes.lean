import Mathlib.Data.List.Basic
import Mathlib.Tactic.Ring
import Mathlib.Tactic.NormNum

/-!
# Byte strings, windows and little-endian words

Byte strings are lists of `UInt8`.  The file holds the arithmetic every binary format needs: the
value of a little-endian word, the window `[off, off + n)` of a byte string, rounding up to a
block, and the two mask operations on 32-bit words that C code uses for alignment.
-/

namespace Binary

abbrev Bytes := List UInt8

/-! ## 1. Little-endian words -/

/-- The value of a byte string read least significant byte first. -/
def leNat : Bytes → Nat
  | [] => 0
  | b :: bs => b.toNat + 256 * leNat bs

/-- The `n` low-order bytes of `v`, least significant first. -/
def leBytes : Nat → Nat → Bytes
  | 0, _ => []
  | n + 1, v => UInt8.ofNat v :: leBytes n (v / 256)

@[simp] theorem leBytes_length (n v : Nat) : (leBytes n v).length = n := by
  induction n generalizing v with
  | zero => rfl
  | succ n ih => rw [leBytes, List.length_cons, ih]

theorem leNat_lt (bs : Bytes) : leNat bs < 256 ^ bs.length := by
  induction bs with
  | nil => simp [leNat]
  | cons b bs ih =>
    have hb := b.toNat_lt
    rw [leNat, List.length_cons, pow_succ]
    omega

theorem leNat_leBytes (n v : Nat) (hv : v < 256 ^ n) : leNat (leBytes n v) = v := by
  induction n generalizing v with
  | zero =>
    have hz : v = 0 := by simpa using hv
    simp [leBytes, leNat, hz]
  | succ n ih =>
    have hdiv : v / 256 < 256 ^ n := by
      rw [pow_succ] at hv
      exact Nat.div_lt_of_lt_mul (by rwa [Nat.mul_comm])
    rw [leBytes, leNat, ih _ hdiv, UInt8.toNat_ofNat']
    omega

/-- Little-endian words of one width are determined by their bytes. -/
theorem leBytes_inj {n v w : Nat} (hv : v < 256 ^ n) (hw : w < 256 ^ n)
    (h : leBytes n v = leBytes n w) : v = w := by
  rw [← leNat_leBytes n v hv, h, leNat_leBytes n w hw]

/-! ## 2. Windows of a byte string -/

/-- The bytes of `bs` at `[off, off + n)`, as many of them as `bs` has. -/
def slice (bs : Bytes) (off n : Nat) : Bytes := (bs.drop off).take n

theorem slice_length_eq (bs : Bytes) (off n : Nat) :
    (slice bs off n).length = min n (bs.length - off) := by
  rw [slice, List.length_take, List.length_drop]

/-- A window inside the byte string has its full length. -/
theorem slice_length {bs : Bytes} {off n : Nat} (h : off + n ≤ bs.length) :
    (slice bs off n).length = n := by
  rw [slice_length_eq]
  omega

/-- The window that starts where the left part ends. -/
theorem slice_append_right (a b c : Bytes) {off n : Nat} (ho : off = a.length)
    (hn : n = b.length) : slice (a ++ b ++ c) off n = b := by
  subst ho hn
  rw [slice, List.append_assoc, List.drop_left, List.take_left]

/-- A window of a window. -/
theorem slice_slice {bs : Bytes} {off n i k : Nat} (h : i + k ≤ n) :
    slice (slice bs off n) i k = slice bs (off + i) k := by
  rw [slice, slice, slice, List.drop_take, List.take_take, List.drop_drop,
    Nat.min_eq_left (by omega)]

/-- A byte string is what stands before the window, the window, and what stands behind it. -/
theorem slice_split (bs : Bytes) (off n : Nat) :
    bs = bs.take off ++ slice bs off n ++ bs.drop (off + n) := by
  rw [slice, List.append_assoc, ← List.drop_drop, List.take_append_drop, List.take_append_drop]

theorem slice_zero (bs : Bytes) (n : Nat) : slice bs 0 n = bs.take n := rfl

/-- Two byte strings that start alike agree on every window inside that start. -/
theorem slice_congr {a b : Bytes} {n i k : Nat} (h : a.take n = b.take n) (hi : i + k ≤ n) :
    slice a i k = slice b i k := by
  have hwindow (c : Bytes) : slice (c.take n) i k = slice c i k := by
    rw [← slice_zero, slice_slice hi, Nat.zero_add]
  rw [← hwindow a, h, hwindow b]

/-! ## 3. Rounding up to a block -/

/-- The least multiple of `a` that is at least `n`. -/
def roundUp (a n : Nat) : Nat := (n + a - 1) / a * a

theorem roundUp_dvd (a n : Nat) : roundUp a n % a = 0 := Nat.mul_mod_left _ _

theorem le_roundUp {a : Nat} (n : Nat) (ha : 0 < a) : n ≤ roundUp a n := by
  have h := Nat.div_add_mod (n + a - 1) a
  have hm := Nat.mod_lt (n + a - 1) ha
  rw [roundUp, Nat.mul_comm]
  omega

theorem roundUp_lt {a : Nat} (n : Nat) (ha : 0 < a) : roundUp a n < n + a := by
  have h := Nat.div_mul_le_self (n + a - 1) a
  rw [roundUp]
  omega

/-- A sum with a multiple of the block rounds up block by block. -/
theorem roundUp_add {a n : Nat} (m : Nat) (ha : 0 < a) (h : n % a = 0) :
    roundUp a (n + m) = n + roundUp a m := by
  obtain ⟨k, rfl⟩ := Nat.dvd_of_mod_eq_zero h
  rw [roundUp, roundUp, Nat.add_assoc, Nat.add_sub_assoc (by omega), Nat.add_comm,
    Nat.add_mul_div_left _ _ ha, Nat.add_mul, Nat.add_comm, Nat.mul_comm k]

/-! ## 4. Masks on 32-bit words -/

/-- Masking with a block of low ones is the remainder by that power of two. -/
theorem toNat_and_lowMask (v : UInt32) {k : Nat} (hk : k < 32) :
    (v &&& UInt32.ofNat (2 ^ k - 1)).toNat = v.toNat % 2 ^ k := by
  have hlt : 2 ^ k - 1 < 2 ^ 32 := by
    have := Nat.pow_lt_pow_right (a := 2) (by decide) hk
    omega
  rw [UInt32.toNat_and, UInt32.toNat_ofNat_of_lt' hlt, Nat.and_two_pow_sub_one_eq_mod]

/-- Clearing a block of low bits rounds down to a multiple of that power of two. -/
theorem toNat_and_not_lowMask (v : UInt32) {k : Nat} (hk : k < 32) :
    (v &&& ~~~ UInt32.ofNat (2 ^ k - 1)).toNat = v.toNat / 2 ^ k * 2 ^ k := by
  have hlt : 2 ^ k - 1 < 2 ^ 32 := by
    have := Nat.pow_lt_pow_right (a := 2) (by decide) hk
    omega
  rw [UInt32.toNat_and, UInt32.toNat_not, UInt32.toNat_ofNat_of_lt' hlt]
  apply Nat.eq_of_testBit_eq
  intro i
  have hnot : (UInt32.size - 1 - (2 ^ k - 1)).testBit i = (decide (i < 32) && !decide (i < k)) := by
    rw [show UInt32.size - 1 - (2 ^ k - 1) = 2 ^ 32 - (2 ^ k - 1 + 1) by
      simp only [UInt32.size]; omega, Nat.testBit_two_pow_sub_succ hlt, Nat.testBit_two_pow_sub_one]
  rw [Nat.testBit_and, hnot, Nat.mul_comm, Nat.testBit_two_pow_mul, Nat.testBit_div_two_pow]
  have hv : 32 ≤ i → v.toNat.testBit i = false := fun hi =>
    Nat.testBit_lt_two_pow (Nat.lt_of_lt_of_le v.toNat_lt (Nat.pow_le_pow_right (by decide) hi))
  by_cases hi : i < 32
  · by_cases hik : i < k
    · simp [hi, hik]
    · have hki : k ≤ i := Nat.le_of_not_lt hik
      simp [hi, hki, Nat.sub_add_cancel hki]
  · rw [hv (by omega)]
    simp [show k ≤ i by omega, hv (by omega)]

theorem uint32_and_or (a b c : UInt32) : a &&& (b ||| c) = (a &&& b) ||| (a &&& c) :=
  UInt32.toBitVec_inj.mp BitVec.and_or_distrib_left

/-- Adding two 32-bit words whose sum fits does not wrap. -/
theorem toNat_add_of_lt {a b : UInt32} (h : a.toNat + b.toNat < 2 ^ 32) :
    (a + b).toNat = a.toNat + b.toNat := by
  rw [UInt32.toNat_add, Nat.mod_eq_of_lt h]

end Binary
