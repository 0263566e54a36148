import Mathlib.Data.Nat.Digits.Lemmas
import Mathlib.Tactic.Common

/-!
# Numbers as bytes

* `le bs`       the number with these bytes, the least significant one first;
* `toLE w n`    the lowest `w` bytes of a number.
-/

namespace Lib.LittleEndian

abbrev Bytes := List UInt8

def le (bs : Bytes) : Nat := Nat.ofDigits 256 (bs.map UInt8.toNat)

def toLE : Nat → Nat → Bytes
  | 0, _ => []
  | w + 1, n => UInt8.ofNat n :: toLE w (n / 256)

@[simp] theorem le_nil : le [] = 0 := rfl

theorem le_cons (b : UInt8) (bs : Bytes) : le (b :: bs) = b.toNat + 256 * le bs := rfl

@[simp] theorem length_toLE (w n : Nat) : (toLE w n).length = w := by
  induction w generalizing n with
  | zero => rfl
  | succ w ih =>
    show (toLE w (n / 256)).length + 1 = w + 1
    rw [ih]

theorem le_append (xs ys : Bytes) : le (xs ++ ys) = le xs + 256 ^ xs.length * le ys := by
  unfold le
  rw [List.map_append, Nat.ofDigits_append, List.length_map]

theorem digits_lt (bs : Bytes) : ∀ d ∈ bs.map UInt8.toNat, d < 256 := by
  intro d hd
  obtain ⟨b, -, rfl⟩ := List.mem_map.mp hd
  exact b.toNat_lt

theorem le_lt (bs : Bytes) : le bs < 256 ^ bs.length := by
  have h := Nat.ofDigits_lt_base_pow_length (by norm_num) (digits_lt bs)
  rw [List.length_map] at h
  exact h

theorem le_drop (n : Nat) (bs : Bytes) : le (bs.drop n) = le bs / 256 ^ n := by
  unfold le
  rw [Nat.ofDigits_div_pow_eq_ofDigits_drop n (by norm_num) _ (digits_lt bs), List.map_drop]

theorem le_take (n : Nat) (bs : Bytes) : le (bs.take n) = le bs % 256 ^ n := by
  unfold le
  rw [Nat.ofDigits_mod_pow_eq_ofDigits_take n (by norm_num) _ (digits_lt bs), List.map_take]

theorem le_toLE (w n : Nat) : le (toLE w n) = n % 256 ^ w := by
  induction w generalizing n with
  | zero =>
    rw [pow_zero, Nat.mod_one]
    rfl
  | succ w ih =>
    show le (UInt8.ofNat n :: toLE w (n / 256)) = _
    have hmod : n % (256 * 256 ^ w) = n % 256 + 256 * (n / 256 % 256 ^ w) := Nat.mod_mul
    have hbyte : (UInt8.ofNat n).toNat = n % 256 := UInt8.toNat_ofNat'
    rw [le_cons, ih, hbyte, pow_succ', hmod]

theorem le_toLE_of_lt {w n : Nat} (h : n < 256 ^ w) : le (toLE w n) = n := by
  rw [le_toLE, Nat.mod_eq_of_lt h]

/-- bytes are the bytes of their number -/
theorem toLE_le (bs : Bytes) : toLE bs.length (le bs) = bs := by
  induction bs with
  | nil => rfl
  | cons b bs ih =>
    have hb : b.toNat < 256 := b.toNat_lt
    rw [le_cons]
    show UInt8.ofNat (b.toNat + 256 * le bs) :: toLE bs.length ((b.toNat + 256 * le bs) / 256) = _
    have hdiv : (b.toNat + 256 * le bs) / 256 = le bs := by omega
    have hmod : UInt8.ofNat (b.toNat + 256 * le bs) = b := by
      apply UInt8.toNat_inj.mp
      rw [UInt8.toNat_ofNat']
      omega
    rw [hdiv, hmod, ih]

end Lib.LittleEndian
