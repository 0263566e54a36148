import Clues.Lib.LittleEndian

/-!
# Fields of an image

* `Image`              bytes by offset;
* `field r off n`      the bytes of a field;
* `put r off bs`       the image with these bytes written to an offset.
-/

namespace Lib.Fields

open Lib.LittleEndian

abbrev Image := Nat → UInt8

def field (r : Image) (off n : Nat) : Bytes := (List.range n).map fun i => r (off + i)

def put (r : Image) (off : Nat) (bs : Bytes) : Image := fun i =>
  if off ≤ i ∧ i < off + bs.length then bs.getD (i - off) 0 else r i

@[simp] theorem length_field (r : Image) (off n : Nat) : (field r off n).length = n := by
  rw [field, List.length_map, List.length_range]

theorem getElem_field (r : Image) {off n i : Nat} (hi : i < (field r off n).length) :
    (field r off n)[i] = r (off + i) := by
  simp [field]

theorem field_add (r : Image) (off m n : Nat) :
    field r off (m + n) = field r off m ++ field r (off + m) n := by
  unfold field
  rw [List.range_add, List.map_append, List.map_map]
  congr 1
  refine List.map_congr_left fun i _ => ?_
  show r (off + (m + i)) = r (off + m + i)
  rw [Nat.add_assoc]

theorem field_put_self (r : Image) (off : Nat) (bs : Bytes) :
    field (put r off bs) off bs.length = bs := by
  apply List.ext_getElem
  · rw [length_field]
  · intro i hi hb
    rw [getElem_field, put, if_pos (by omega), Nat.add_sub_cancel_left]
    exact (List.getElem_eq_getD 0).symm

theorem field_put_of_disjoint (r : Image) {off off' n : Nat} {bs : Bytes}
    (h : off' + n ≤ off ∨ off + bs.length ≤ off') :
    field (put r off bs) off' n = field r off' n := by
  unfold field
  refine List.map_congr_left fun i hi => ?_
  have hi' : i < n := List.mem_range.mp hi
  unfold put
  rw [if_neg (by omega)]

/-- bytes that are written one part after the other -/
theorem put_append (r : Image) (off : Nat) (xs ys : Bytes) :
    put r off (xs ++ ys) = put (put r off xs) (off + xs.length) ys := by
  funext i
  unfold put
  rw [List.length_append]
  by_cases hx : off ≤ i ∧ i < off + xs.length
  · rw [if_pos (by omega), if_neg (by omega), if_pos hx]
    rw [List.getD_eq_getElem?_getD, List.getElem?_append_left (by omega),
      ← List.getD_eq_getElem?_getD]
  · by_cases hy : off + xs.length ≤ i ∧ i < off + xs.length + ys.length
    · rw [if_pos (by omega), if_pos hy, List.getD_eq_getElem?_getD,
        List.getElem?_append_right (by omega), ← List.getD_eq_getElem?_getD]
      congr 1
      omega
    · rw [if_neg (by omega), if_neg hy, if_neg hx]

end Lib.Fields
