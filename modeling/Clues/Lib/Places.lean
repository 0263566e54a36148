import Clues.Lib.Fields

/-!
# Records in an image

A layout gives each field a place.

* `Place`              an offset and a width;
* `store`              the fields are written to their places, one after the other;
* `load_store`         with places that are apart each field is read back, up to its width.
-/

namespace Lib.Places

open Lib.LittleEndian Lib.Fields

structure Place where
  offset : Nat
  width : Nat
  deriving DecidableEq, Repr

def Place.Apart (p q : Place) : Prop :=
  p.offset + p.width ≤ q.offset ∨ q.offset + q.width ≤ p.offset

instance (p q : Place) : Decidable (p.Apart q) :=
  inferInstanceAs (Decidable (p.offset + p.width ≤ q.offset ∨ q.offset + q.width ≤ p.offset))

def load (r : Image) (p : Place) : Nat := le (field r p.offset p.width)

section
variable {κ : Type} {l : List (κ × Place)} {v : κ → Nat} {p q : Place}

def store (l : List (κ × Place)) (v : κ → Nat) (r : Image) : Image :=
  l.foldl (fun r e => put r e.2.offset (toLE e.2.width (v e.1))) r

theorem load_put_self (r : Image) (p : Place) (n : Nat) :
    load (put r p.offset (toLE p.width n)) p = n % 256 ^ p.width := by
  have hfield := field_put_self r p.offset (toLE p.width n)
  rw [length_toLE] at hfield
  unfold load
  rw [hfield, le_toLE]

theorem load_put_of_apart (h : p.Apart q) (r : Image) (n : Nat) :
    load (put r p.offset (toLE p.width n)) q = load r q := by
  have hfar : q.offset + q.width ≤ p.offset ∨
      p.offset + (toLE p.width n).length ≤ q.offset := by
    rw [length_toLE]
    exact h.symm
  unfold load
  rw [field_put_of_disjoint r hfar]

/-- what lies apart from all fields stays -/
theorem load_store_of_apart (h : ∀ e ∈ l, e.2.Apart q) (r : Image) :
    load (store l v r) q = load r q := by
  induction l generalizing r with
  | nil => rfl
  | cons e l ih =>
    obtain ⟨he, hl⟩ := List.forall_mem_cons.mp h
    exact (ih hl _).trans (load_put_of_apart he r _)

theorem load_store (h : l.Pairwise fun e e' => e'.2.Apart e.2) {k : κ} (hk : (k, p) ∈ l)
    (r : Image) : load (store l v r) p = v k % 256 ^ p.width := by
  induction l generalizing r with
  | nil => exact absurd hk List.not_mem_nil
  | cons e l ih =>
    obtain ⟨hapart, hl⟩ := List.pairwise_cons.mp h
    rcases List.mem_cons.mp hk with rfl | hk
    · exact (load_store_of_apart hapart _).trans (load_put_self r p (v k))
    · exact ih hl hk _

end

end Lib.Places
