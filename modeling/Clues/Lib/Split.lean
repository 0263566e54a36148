import Mathlib.Algebra.BigOperators.Group.List.Basic
import Mathlib.Algebra.GroupWithZero.Nat
import Mathlib.Data.List.Zip

/-!
# Splitting an amount

`split n rooms` hands out the amount `n` in order, to each part as much as it has room for.

* `sum_split`    all of the amount that there is room for is handed out;
* `split_le`     no part gets more than it has room for;
* `split_full`   a part gets something only if the parts before it are full.
-/

namespace Lib

def split : Nat → List Nat → List Nat
  | _, [] => []
  | n, room :: rooms => min n room :: split (n - min n room) rooms

theorem split_zero (rooms : List Nat) : split 0 rooms = List.replicate rooms.length 0 := by
  induction rooms with
  | nil => rfl
  | cons room rooms ih =>
    rw [split, Nat.zero_min, Nat.sub_self, ih]
    rfl

theorem sum_split (n : Nat) (rooms : List Nat) : (split n rooms).sum = min n rooms.sum := by
  induction rooms generalizing n with
  | nil => simp [split]
  | cons room rooms ih =>
    simp only [split, List.sum_cons, ih]
    omega

theorem split_le (n : Nat) (rooms : List Nat) :
    ∀ part ∈ rooms.zip (split n rooms), part.2 ≤ part.1 := by
  induction rooms generalizing n with
  | nil => simp [split]
  | cons room rooms ih =>
    intro part hp
    rw [split, List.zip_cons_cons] at hp
    rcases List.mem_cons.mp hp with rfl | hp
    · show min n room ≤ room
      omega
    · exact ih _ part hp

theorem split_full (n : Nat) (rooms : List Nat) :
    (rooms.zip (split n rooms)).Pairwise fun a b => b.2 ≠ 0 → a.2 = a.1 := by
  induction rooms generalizing n with
  | nil => simp [split]
  | cons room rooms ih =>
    rw [split, List.zip_cons_cons]
    refine List.pairwise_cons.mpr ⟨?_, ih _⟩
    intro b hb hne
    show min n room = room
    by_contra hroom
    -- nothing is left for the parts behind one that is not full
    have hleft : n - min n room = 0 := by omega
    rw [hleft, split_zero] at hb
    exact hne (List.eq_of_mem_replicate (List.of_mem_zip hb).2)

end Lib
