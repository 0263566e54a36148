import Clues.Lib.Reorder
import Mathlib.Logic.Function.Basic

/-!
# Cells that are filled one after the other

The content of a cell may depend on the contents of others.

* `Fill ι α ε`      fills a cell; it sees the cells that it looks at only, and it may fail;
* `Fill.Apart`      neither looks at the cell of the other;
* `runAll`          cells are filled until one of them fails;
* `runAll_eq_of_keepsOrder`   in another order, where two that are not apart stay in order, the
                              cells have the same contents, unless one of them fails.
-/

set_option linter.unusedSectionVars false

namespace Lib.Cells

open Lib.Reorder

structure Fill (ι α ε : Type) where
  cell : ι
  looksAt : List ι
  content : (ι → Option α) → Except ε α

section
variable {ι α ε : Type} [DecidableEq ι]

/-- the other cells are hidden -/
def seen (is : List ι) (s : ι → α) : ι → Option α := fun i => if i ∈ is then some (s i) else none

theorem seen_update {is : List ι} {j : ι} (h : j ∉ is) (a : α) (s : ι → α) :
    seen is (Function.update s j a) = seen is s := by
  funext i
  unfold seen
  by_cases hi : i ∈ is
  · have hne : i ≠ j := fun he => h (he ▸ hi)
    rw [if_pos hi, if_pos hi, Function.update_of_ne hne]
  · rw [if_neg hi, if_neg hi]

namespace Fill

def run (f : Fill ι α ε) (s : ι → α) : Except ε (ι → α) :=
  (f.content (seen (f.cell :: f.looksAt) s)).map (Function.update s f.cell)

/-- the cells are different, and neither looks at the cell of the other -/
def Apart (f g : Fill ι α ε) : Prop :=
  f.cell ≠ g.cell ∧ f.cell ∉ g.looksAt ∧ g.cell ∉ f.looksAt

variable {f g : Fill ι α ε}

theorem Apart.symm (h : f.Apart g) : g.Apart f := ⟨h.1.symm, h.2.2, h.2.1⟩

theorem run_error {s : ι → α} {e : ε} (h : f.content (seen (f.cell :: f.looksAt) s) = .error e) :
    f.run s = .error e := by
  rw [run, h]
  rfl

theorem run_ok {s : ι → α} {a : α} (h : f.content (seen (f.cell :: f.looksAt) s) = .ok a) :
    f.run s = .ok (Function.update s f.cell a) := by
  rw [run, h]
  rfl

/-- what was filled before apart from it is not seen -/
theorem Apart.run_update (h : f.Apart g) (a : α) (s : ι → α) :
    g.run (Function.update s f.cell a)
      = (g.content (seen (g.cell :: g.looksAt) s)).map fun b =>
          Function.update (Function.update s f.cell a) g.cell b := by
  have hnot : f.cell ∉ g.cell :: g.looksAt := fun hm => (List.mem_cons.mp hm).elim h.1 h.2.1
  unfold run
  rw [seen_update hnot]

/-- an error may be that of the one or of the other -/
theorem Apart.comm (h : f.Apart g) (s : ι → α) :
    (f.run s >>= g.run).toOption = (g.run s >>= f.run).toOption := by
  have hf := h.run_update
  have hg := h.symm.run_update
  cases hcf : f.content (seen (f.cell :: f.looksAt) s) with
  | error e =>
    rw [run_error hcf]
    cases hcg : g.content (seen (g.cell :: g.looksAt) s) with
    | error e' =>
      rw [run_error hcg]
      rfl
    | ok b =>
      rw [run_ok hcg]
      show none = (f.run (Function.update s g.cell b)).toOption
      rw [hg, hcf]
      rfl
  | ok a =>
    rw [run_ok hcf]
    show (g.run (Function.update s f.cell a)).toOption = _
    rw [hf]
    cases hcg : g.content (seen (g.cell :: g.looksAt) s) with
    | error e' =>
      rw [run_error hcg]
      rfl
    | ok b =>
      rw [run_ok hcg]
      show _ = (f.run (Function.update s g.cell b)).toOption
      rw [hg, hcf]
      exact congrArg some (Function.update_comm h.1.symm b a s).symm

end Fill

def runAll (fs : List (Fill ι α ε)) (s : ι → α) : Except ε (ι → α) :=
  fs.foldlM (fun s f => f.run s) s

/-- nothing is filled behind an error -/
def next (o : Option (ι → α)) (f : Fill ι α ε) : Option (ι → α) :=
  o.bind fun s => (f.run s).toOption

theorem toOption_runAll (fs : List (Fill ι α ε)) (s : ι → α) :
    (runAll fs s).toOption = fs.foldl next (some s) := by
  have hnone : ∀ fs : List (Fill ι α ε), fs.foldl next none = none := by
    intro fs
    induction fs with
    | nil => rfl
    | cons f fs ih => exact ih
  induction fs generalizing s with
  | nil => rfl
  | cons f fs ih =>
    unfold runAll
    rw [List.foldlM_cons, List.foldl_cons]
    show _ = fs.foldl next (f.run s).toOption
    cases f.run s with
    | error e => exact (hnone fs).symm
    | ok t => exact ih t

theorem next_comm {f g : Fill ι α ε} (h : f.Apart g) (o : Option (ι → α)) :
    next (next o g) f = next (next o f) g := by
  cases o with
  | none => rfl
  | some s =>
    have hbind : ∀ f g : Fill ι α ε, next (next (some s) f) g = (f.run s >>= g.run).toOption := by
      intro f g
      show (f.run s).toOption.bind _ = _
      cases f.run s <;> rfl
    rw [hbind, hbind, h.comm]

variable {κ : Type} {fill : κ → Fill ι α ε} {xs ys : List κ}

theorem runAll_eq_of_keepsOrder
    (h : KeepsOrder (fun a b => ¬ (fill a).Apart (fill b)) xs ys) (s : ι → α) :
    (runAll (ys.map fill) s).toOption = (runAll (xs.map fill) s).toOption := by
  rw [toOption_runAll, toOption_runAll, List.foldl_map, List.foldl_map]
  exact foldl_eq_of_keepsOrder (I := fun _ => True) (f := fun o a => next o (fill a))
    (fun _ _ _ => trivial) (fun a b hab o _ => next_comm (not_not.mp hab) o) h trivial

end

end Lib.Cells
