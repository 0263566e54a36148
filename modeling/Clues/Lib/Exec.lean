import Mathlib.Logic.Basic
import Mathlib.Order.Defs.PartialOrder
import Mathlib.Tactic.Common

/-!
# Stateful computations with exceptions

`Exec σ ε α` runs from a state to a result or an exception, and keeps the state that was
reached in both cases (an exception rolls nothing back).

* `Triple P x Q E`   from a state with `P`, `x` returns with `Q` or throws with `E`;
* `Keeps I x`        `x` preserves `I`, whether it returns or throws;
* `Along B R x`      from a state with `B`, the states before and after `x` are related by `R`;
* `Leads R x`        `x` returns, and the states before and after it are related by `R`.

Every rule is stated for one way to build a computation (`pure`, `bind`, `throw`, `tryCatch`,
`modify`, a branch, a loop over a list), so a proof about a program follows its text.
-/

namespace Lib

/-- a computation over the state `σ` that may throw an `ε` -/
def Exec (σ ε α : Type) : Type := σ → Except ε α × σ

namespace Exec

variable {σ ε α β : Type}

/-! ## the monad -/

protected def pure (a : α) : Exec σ ε α := fun s => (.ok a, s)

protected def bind (x : Exec σ ε α) (f : α → Exec σ ε β) : Exec σ ε β := fun s =>
  match x s with
  | (.ok a, s') => f a s'
  | (.error e, s') => (.error e, s')

instance : Monad (Exec σ ε) where
  pure := Exec.pure
  bind := Exec.bind

def raise (e : ε) : Exec σ ε α := fun s => (.error e, s)

/-- run the handler on the state in which the exception was thrown -/
def handle (x : Exec σ ε α) (h : ε → Exec σ ε α) : Exec σ ε α := fun s =>
  match x s with
  | (.ok a, s') => (.ok a, s')
  | (.error e, s') => h e s'

def read : Exec σ ε σ := fun s => (.ok s, s)

def update (f : σ → σ) : Exec σ ε Unit := fun s => (.ok (), f s)

/-- run the computation if the condition holds -/
def when (c : Prop) [Decidable c] (x : Exec σ ε Unit) : Exec σ ε Unit := if c then x else pure ()

/-- lift a result that does not touch the state -/
def lift (r : Except ε α) : Exec σ ε α := fun s => (r, s)

/-- run the body on every element, in order -/
def each (xs : List α) (body : α → Exec σ ε Unit) : Exec σ ε Unit :=
  match xs with
  | [] => pure ()
  | x :: xs => do body x; each xs body

/-! ## running -/

@[simp] theorem run_pure (a : α) (s : σ) : (pure a : Exec σ ε α) s = (.ok a, s) := rfl

theorem run_bind (x : Exec σ ε α) (f : α → Exec σ ε β) (s : σ) :
    (x >>= f) s = match x s with
      | (.ok a, s') => f a s'
      | (.error e, s') => (.error e, s') := rfl

@[simp] theorem run_raise (e : ε) (s : σ) : (raise e : Exec σ ε α) s = (.error e, s) := rfl
@[simp] theorem run_read (s : σ) : (read : Exec σ ε σ) s = (.ok s, s) := rfl
@[simp] theorem run_update (f : σ → σ) (s : σ) : (update f : Exec σ ε Unit) s = (.ok (), f s) := rfl
@[simp] theorem run_lift (r : Except ε α) (s : σ) : (lift r : Exec σ ε α) s = (r, s) := rfl

theorem assoc_bind {γ : Type} (x : Exec σ ε α) (f : α → Exec σ ε β) (g : β → Exec σ ε γ) :
    (x >>= f) >>= g = x >>= fun a => f a >>= g := by
  funext s
  rw [run_bind, run_bind, run_bind]
  cases x s with
  | mk r s' => cases r <;> rfl

theorem run_bind_ok {x : Exec σ ε α} {f : α → Exec σ ε β} {s s' : σ} {a : α}
    (h : x s = (.ok a, s')) : (x >>= f) s = f a s' := by rw [run_bind, h]

theorem run_bind_error {x : Exec σ ε α} {f : α → Exec σ ε β} {s s' : σ} {e : ε}
    (h : x s = (.error e, s')) : (x >>= f) s = (.error e, s') := by rw [run_bind, h]

/-- both parts of a computation that returned have returned -/
theorem of_bind_ok {x : Exec σ ε α} {f : α → Exec σ ε β} {s s' : σ} {b : β}
    (h : (x >>= f) s = (.ok b, s')) : ∃ a t, x s = (.ok a, t) ∧ f a t = (.ok b, s') := by
  rw [run_bind] at h
  cases hr : x s with
  | mk r t =>
    rw [hr] at h
    cases r with
    | ok a => exact ⟨a, t, rfl, h⟩
    | error e => cases h

/-- what holds of the final state of the first part, and is kept by the second, holds at the end -/
theorem final_bind {P : σ → Prop} {x : Exec σ ε α} {f : α → Exec σ ε β} {s : σ} (hx : P (x s).2)
    (hf : ∀ a t, x s = (.ok a, t) → P t → P (f a t).2) : P ((x >>= f) s).2 := by
  rw [run_bind]
  cases hr : x s with
  | mk r t =>
    rw [hr] at hx
    cases r with
    | ok a => exact hf a t hr hx
    | error e => exact hx

@[simp] theorem run_read_bind (f : σ → Exec σ ε β) (s : σ) : (read >>= f) s = f s s := rfl
@[simp] theorem run_update_bind (g : σ → σ) (f : Unit → Exec σ ε β) (s : σ) :
    (update g >>= f) s = f () (g s) := rfl
@[simp] theorem run_raise_bind (e : ε) (f : α → Exec σ ε β) (s : σ) :
    ((raise e : Exec σ ε α) >>= f) s = (.error e, s) := rfl
@[simp] theorem run_pure_bind (a : α) (f : α → Exec σ ε β) (s : σ) :
    ((pure a : Exec σ ε α) >>= f) s = f a s := rfl

theorem when_pos {c : Prop} [Decidable c] {x : Exec σ ε Unit} (h : c) : when c x = x := if_pos h

theorem when_neg {c : Prop} [Decidable c] {x : Exec σ ε Unit} (h : ¬ c) : when c x = pure () :=
  if_neg h

/-! ## triples -/

/-- from a state with `P`, `x` returns with `Q` or throws with `E` -/
def Triple (P : σ → Prop) (x : Exec σ ε α) (Q : α → σ → Prop) (E : ε → σ → Prop) : Prop :=
  ∀ s, P s → match x s with
    | (.ok a, s') => Q a s'
    | (.error e, s') => E e s'

section
variable {P P' : σ → Prop} {Q Q' : α → σ → Prop} {E E' : ε → σ → Prop} {R : β → σ → Prop}

/-- what holds at the end, whether `x` returns or throws -/
theorem Triple.final {I : σ → Prop} {x : Exec σ ε α}
    (h : Triple P x (fun _ s => I s) fun _ s => I s) {s : σ} (hs : P s) : I (x s).2 := by
  have := h s hs
  cases hx : x s with
  | mk r s' =>
    rw [hx] at this
    cases r with
    | ok a => exact this
    | error e => exact this

/-- what does not throw returns -/
theorem Triple.returns {x : Exec σ ε α} (h : Triple P x Q fun _ _ => False) {s : σ} (hs : P s) :
    ∃ a s', x s = (.ok a, s') ∧ Q a s' := by
  have := h s hs
  cases hx : x s with
  | mk r s' =>
    rw [hx] at this
    cases r with
    | ok a => exact ⟨a, s', rfl, this⟩
    | error e => exact this.elim

theorem Triple.of_returns {x : Exec σ ε α} (h : ∀ s, P s → ∃ a s', x s = (.ok a, s') ∧ Q a s') :
    Triple P x Q E := by
  intro s hs
  obtain ⟨a, s', hx, hq⟩ := h s hs
  rw [hx]
  exact hq

theorem Triple.weaken {x : Exec σ ε α} (h : Triple P x Q E) (hP : ∀ s, P' s → P s)
    (hQ : ∀ a s, Q a s → Q' a s) (hE : ∀ e s, E e s → E' e s) : Triple P' x Q' E' := by
  intro s hs
  have := h s (hP s hs)
  cases hx : x s with
  | mk r s' =>
    rw [hx] at this
    cases r with
    | ok a => exact hQ a s' this
    | error e => exact hE e s' this

/-- a fact that does not depend on the state -/
theorem Triple.assume {φ : Prop} {x : Exec σ ε α} (h : φ → Triple P x Q E) :
    Triple (fun s => P s ∧ φ) x Q E := fun s hs => h hs.2 s hs.1

theorem Triple.choose {ι : Type} {P : ι → σ → Prop} {x : Exec σ ε α}
    (h : ∀ i, Triple (P i) x Q E) : Triple (fun s => ∃ i, P i s) x Q E := fun s ⟨i, hs⟩ => h i s hs

theorem Triple.pure {a : α} (h : ∀ s, P s → Q a s) :
    Triple P (Pure.pure a : Exec σ ε α) Q E := fun s hs => h s hs

theorem Triple.raise {e : ε} (h : ∀ s, P s → E e s) :
    Triple P (Exec.raise e : Exec σ ε α) Q E := fun s hs => h s hs

theorem Triple.bind {x : Exec σ ε α} {f : α → Exec σ ε β} (hx : Triple P x Q E)
    (hf : ∀ a, Triple (Q a) (f a) R E) : Triple P (x >>= f) R E := by
  intro s hs
  have h := hx s hs
  rw [run_bind]
  cases hr : x s with
  | mk r s' =>
    rw [hr] at h
    cases r with
    | ok a => exact hf a s' h
    | error e => exact h

theorem Triple.ite {c : Prop} [Decidable c] {x y : Exec σ ε α} (hx : c → Triple P x Q E)
    (hy : ¬ c → Triple P y Q E) : Triple P (if c then x else y) Q E := by
  by_cases h : c
  · rw [if_pos h]; exact hx h
  · rw [if_neg h]; exact hy h

theorem Triple.when {c : Prop} [Decidable c] {x : Exec σ ε Unit} {Q : Unit → σ → Prop}
    (hx : c → Triple P x Q E) (hy : ¬ c → ∀ s, P s → Q () s) : Triple P (Exec.when c x) Q E :=
  Triple.ite hx fun h => Triple.pure (hy h)

theorem Triple.read_bind {f : σ → Exec σ ε β} (h : ∀ s₀, Triple (fun s => s = s₀ ∧ P s) (f s₀) R E) :
    Triple P (Exec.read >>= f) R E := fun s hs => h s s ⟨rfl, hs⟩

theorem Triple.update {f : σ → σ} {Q : Unit → σ → Prop} (h : ∀ s, P s → Q () (f s)) :
    Triple P (Exec.update f : Exec σ ε Unit) Q E := fun s hs => h s hs

end

/-! ## invariants -/

/-- `x` preserves `I`, whether it returns or throws -/
def Keeps (I : σ → Prop) (x : Exec σ ε α) : Prop := ∀ s, I s → I (x s).2

section
variable {I : σ → Prop}

theorem Keeps.pure (a : α) : Keeps I (Pure.pure a : Exec σ ε α) := fun _ hs => hs
theorem Keeps.raise (e : ε) : Keeps I (Exec.raise e : Exec σ ε α) := fun _ hs => hs
theorem Keeps.lift (r : Except ε α) : Keeps I (Exec.lift r : Exec σ ε α) := fun _ hs => hs
theorem Keeps.update {f : σ → σ} (h : ∀ s, I s → I (f s)) :
    Keeps I (Exec.update f : Exec σ ε Unit) := h

theorem Keeps.bind {x : Exec σ ε α} {f : α → Exec σ ε β} (hx : Keeps I x)
    (hf : ∀ a, Keeps I (f a)) : Keeps I (x >>= f) := by
  intro s hs
  have h := hx s hs
  rw [run_bind]
  cases hr : x s with
  | mk r s' =>
    rw [hr] at h
    cases r with
    | ok a => exact hf a s' h
    | error e => exact h

/-- the state that was read may be used about the rest of the computation -/
theorem Keeps.read_bind {f : σ → Exec σ ε β} (h : ∀ s, I s → I (f s s).2) :
    Keeps I (Exec.read >>= f) := h

theorem Keeps.handle {x : Exec σ ε α} {g : ε → Exec σ ε α} (hx : Keeps I x)
    (hg : ∀ e, Keeps I (g e)) : Keeps I (Exec.handle x g) := by
  intro s hs
  have h := hx s hs
  unfold Exec.handle
  cases hr : x s with
  | mk r s' =>
    rw [hr] at h
    cases r with
    | ok a => exact h
    | error e => exact hg e s' h

theorem Keeps.ite {c : Prop} [Decidable c] {x y : Exec σ ε α} (hx : c → Keeps I x)
    (hy : ¬ c → Keeps I y) : Keeps I (if c then x else y) := by
  by_cases h : c
  · rw [if_pos h]; exact hx h
  · rw [if_neg h]; exact hy h

theorem Keeps.when {c : Prop} [Decidable c] {x : Exec σ ε Unit} (hx : c → Keeps I x) :
    Keeps I (Exec.when c x) := Keeps.ite hx fun _ => Keeps.pure ()

theorem Keeps.each {xs : List α} {body : α → Exec σ ε Unit} (h : ∀ x ∈ xs, Keeps I (body x)) :
    Keeps I (Exec.each xs body) := by
  induction xs with
  | nil => exact Keeps.pure ()
  | cons x xs ih =>
    exact Keeps.bind (h x List.mem_cons_self) fun _ =>
      ih fun y hy => h y (List.mem_cons_of_mem _ hy)

/-- an invariant as a triple; after an exception less may be needed -/
theorem Keeps.triple {J : σ → Prop} {x : Exec σ ε α} (hx : Keeps I x) (hJ : ∀ s, I s → J s) :
    Triple I x (fun _ => I) fun _ => J := by
  intro s hs
  have h := hx s hs
  cases hr : x s with
  | mk r s' =>
    rw [hr] at h
    cases r with
    | ok a => exact h
    | error e => exact hJ s' h

end

/-! ## relations between the states before and after -/

/-- a relation that can be followed through a computation, from states with `B` on -/
structure Walk (B : σ → Prop) (R : σ → σ → Prop) : Prop where
  refl : ∀ s, R s s
  trans : ∀ {s t u}, R s t → R t u → R s u
  keeps : ∀ {s t}, B s → R s t → B t

/-- from a state with `B`, the states before and after `x` are related by `R` -/
def Along (B : σ → Prop) (R : σ → σ → Prop) (x : Exec σ ε α) : Prop := ∀ s, B s → R s (x s).2

section
variable {B : σ → Prop} {R : σ → σ → Prop}

theorem Along.pure (hR : Walk B R) (a : α) : Along B R (Pure.pure a : Exec σ ε α) :=
  fun s _ => hR.refl s
theorem Along.raise (hR : Walk B R) (e : ε) : Along B R (Exec.raise e : Exec σ ε α) :=
  fun s _ => hR.refl s
theorem Along.lift (hR : Walk B R) (r : Except ε α) : Along B R (Exec.lift r : Exec σ ε α) :=
  fun s _ => hR.refl s
theorem Along.bind (hR : Walk B R) {x : Exec σ ε α} {f : α → Exec σ ε β} (hx : Along B R x)
    (hf : ∀ a, Along B R (f a)) : Along B R (x >>= f) := by
  intro s hs
  have h := hx s hs
  rw [run_bind]
  cases hr : x s with
  | mk r s' =>
    rw [hr] at h
    cases r with
    | ok a => exact hR.trans h (hf a s' (hR.keeps hs h))
    | error e => exact h

/-- what the first computation established may be used about the second one -/
theorem Along.bind_of (hR : Walk B R) {x : Exec σ ε α} {f : α → Exec σ ε β} {s : σ} (hs : B s)
    (hx : R s (x s).2) (hf : ∀ a s', x s = (.ok a, s') → B s' → R s' (f a s').2) :
    R s ((x >>= f) s).2 := by
  rw [run_bind]
  cases hr : x s with
  | mk r s' =>
    rw [hr] at hx
    cases r with
    | ok a => exact hR.trans hx (hf a s' hr (hR.keeps hs hx))
    | error e => exact hx

/-- the state that was read may be used about the rest of the computation -/
theorem Along.read_bind {f : σ → Exec σ ε β} (h : ∀ s, B s → R s (f s s).2) :
    Along B R (Exec.read >>= f) := h

theorem Along.handle_of (hR : Walk B R) {x : Exec σ ε α} {g : ε → Exec σ ε α} {s : σ} (hs : B s)
    (hx : R s (x s).2) (hg : ∀ e, Along B R (g e)) : R s (Exec.handle x g s).2 := by
  unfold Exec.handle
  cases hr : x s with
  | mk r s' =>
    rw [hr] at hx
    cases r with
    | ok a => exact hx
    | error e => exact hR.trans hx (hg e s' (hR.keeps hs hx))

theorem Along.handle (hR : Walk B R) {x : Exec σ ε α} {g : ε → Exec σ ε α} (hx : Along B R x)
    (hg : ∀ e, Along B R (g e)) : Along B R (Exec.handle x g) :=
  fun s hs => Along.handle_of hR hs (hx s hs) hg

theorem Along.ite {c : Prop} [Decidable c] {x y : Exec σ ε α} (hx : c → Along B R x)
    (hy : ¬ c → Along B R y) : Along B R (if c then x else y) := by
  by_cases h : c
  · rw [if_pos h]; exact hx h
  · rw [if_neg h]; exact hy h

theorem Along.when (hR : Walk B R) {c : Prop} [Decidable c] {x : Exec σ ε Unit}
    (hx : c → Along B R x) : Along B R (Exec.when c x) := Along.ite hx fun _ => Along.pure hR ()

theorem Along.each (hR : Walk B R) {xs : List α} {body : α → Exec σ ε Unit}
    (h : ∀ x ∈ xs, Along B R (body x)) : Along B R (Exec.each xs body) := by
  induction xs with
  | nil => exact Along.pure hR ()
  | cons x xs ih =>
    exact Along.bind hR (h x List.mem_cons_self) fun _ =>
      ih fun y hy => h y (List.mem_cons_of_mem _ hy)

end

/-! ## computations that return -/

/-- the computation returns, and the states before and after are related by `R` -/
def Leads (R : σ → σ → Prop) (x : Exec σ ε α) : Prop := ∀ s, ∃ a s', x s = (.ok a, s') ∧ R s s'

section
variable {R : σ → σ → Prop}

theorem Leads.pure (hR : Walk (fun _ => True) R) (a : α) : Leads R (Pure.pure a : Exec σ ε α) :=
  fun s => ⟨a, s, rfl, hR.refl s⟩

theorem Leads.update {f : σ → σ} (h : ∀ s, R s (f s)) :
    Leads R (Exec.update f : Exec σ ε Unit) := fun s => ⟨(), f s, rfl, h s⟩

theorem Leads.bind (hR : Walk (fun _ => True) R) {x : Exec σ ε α} {f : α → Exec σ ε β}
    (hx : Leads R x) (hf : ∀ a, Leads R (f a)) : Leads R (x >>= f) := by
  intro s
  obtain ⟨a, t, hxs, ht⟩ := hx s
  obtain ⟨b, s', hfs, hs'⟩ := hf a t
  exact ⟨b, s', by rw [run_bind_ok hxs, hfs], hR.trans ht hs'⟩

theorem Leads.read_bind {f : σ → Exec σ ε β} (hf : ∀ s, Leads R (f s)) :
    Leads R (Exec.read >>= f) := fun s => hf s s

theorem Leads.ite {c : Prop} [Decidable c] {x y : Exec σ ε α} (hx : Leads R x) (hy : Leads R y) :
    Leads R (if c then x else y) := by
  by_cases h : c
  · rw [if_pos h]; exact hx
  · rw [if_neg h]; exact hy

theorem Leads.when (hR : Walk (fun _ => True) R) {c : Prop} [Decidable c] {x : Exec σ ε Unit}
    (hx : Leads R x) : Leads R (Exec.when c x) := Leads.ite hx (Leads.pure hR ())

/-- what a state is reached from stays related to what is reached then -/
theorem Leads.triple (hR : Walk (fun _ => True) R) {x : Exec σ ε α} (h : Leads R x) (s : σ) :
    Triple (R s) x (fun _ => R s) fun _ _ => False := by
  apply Triple.of_returns
  intro t ht
  obtain ⟨a, u, hx, hu⟩ := h t
  exact ⟨a, u, hx, hR.trans ht hu⟩

end

end Exec

end Lib
