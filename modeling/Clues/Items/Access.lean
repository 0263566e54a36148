import Clues.Lib.Buffer
import Clues.Types

/-!
# Accesses to a buffer of the tracer

An access outside of a buffer is undefined behaviour; `OnlyBounds` says of a computation that it
fails in no other way, `Defined` that it does nothing undefined.
-/

namespace Clues

open Lib.LittleEndian Lib.Buffer

section
variable {α β : Type}

/-- an access to the buffer -/
def inBuffer : Option α → Except Exc α
  | some x => .ok x
  | none => .error (.undefined .bounds)

@[simp] theorem inBuffer_some (a : α) : inBuffer (some a) = .ok a := rfl

/-- the parentheses keep `simp` from using this as a definitional equality, which would be checked
by evaluating the next action -/
theorem ok_bind (a : α) (f : α → Except Exc β) : ((.ok a : Except Exc α) >>= f) = f a := (rfl)

theorem bind_eq_ok {x : Except Exc α} {f : α → Except Exc β} {b : β} :
    (x >>= f) = .ok b ↔ ∃ a, x = .ok a ∧ f a = .ok b := by
  cases x with
  | error e =>
    constructor
    · intro h
      cases h
    · intro h
      obtain ⟨a, ha, -⟩ := h
      cases ha
  | ok a =>
    constructor
    · intro h
      exact ⟨a, rfl, h⟩
    · intro h
      obtain ⟨a', ha, hf⟩ := h
      cases ha
      exact hf

/-- the only failure of the functions below -/
def OnlyBounds (x : Except Exc α) : Prop := ∀ e, x = .error e → e = .undefined .bounds

theorem OnlyBounds.bind {x : Except Exc α} {f : α → Except Exc β} (hx : OnlyBounds x)
    (hf : ∀ a, OnlyBounds (f a)) : OnlyBounds (x >>= f) := by
  intro e h
  cases hxa : x with
  | error e' =>
    rw [hxa] at h
    cases h
    exact hx _ hxa
  | ok a =>
    rw [hxa] at h
    exact hf a e h

theorem OnlyBounds.ok (a : α) : OnlyBounds (.ok a) := by
  intro e h
  cases h

theorem onlyBounds_inBuffer (x : Option α) : OnlyBounds (inBuffer x) := by
  intro e h
  cases x with
  | none =>
    cases h
    rfl
  | some a => cases h

theorem inBuffer_eq_ok {x : Option α} {a : α} : inBuffer x = .ok a ↔ x = some a := by
  cases x with
  | none =>
    constructor <;> intro h <;> cases h
  | some b =>
    constructor <;> intro h <;> cases h <;> rfl

/-- nothing undefined happens; there may be an exception -/
def Defined (x : Except Exc α) : Prop := ∀ why, x ≠ .error (.undefined why)

theorem defined_ok (a : α) : Defined (.ok a) := by
  intro why h
  cases h

theorem defined_pure (a : α) : Defined (pure a) := defined_ok a

theorem not_defined (why : Undefined) : ¬ Defined (.error (.undefined why) : Except Exc α) := by
  intro h
  exact h why rfl

theorem defined_of_ok {x : Except Exc α} {a : α} (h : x = .ok a) : Defined x := by
  rw [h]
  exact defined_ok a

theorem defined_bind {x : Except Exc α} {f : α → Except Exc β} :
    Defined (x >>= f) ↔ Defined x ∧ ∀ a, x = .ok a → Defined (f a) := by
  cases x with
  | error e =>
    constructor
    · intro h
      refine ⟨fun why he => h why ?_, fun a ha => by cases ha⟩
      rw [Except.error.inj he]
      rfl
    · intro h why he
      exact h.1 why (congrArg Except.error (Except.error.inj he))
  | ok a =>
    constructor
    · intro h
      refine ⟨defined_ok a, ?_⟩
      intro b hb
      cases hb
      exact h
    · intro h
      exact h.2 a rfl

theorem defined_bind_of {x : Except Exc α} {f : α → Except Exc β} (hf : ∀ a, Defined (f a)) :
    Defined (x >>= f) ↔ Defined x := by
  rw [defined_bind]
  exact and_iff_left fun a _ => hf a

theorem defined_map {x : Except Exc α} {f : α → β} : Defined (x.map f) ↔ Defined x := by
  cases x with
  | error e =>
    constructor
    · intro h why he
      exact h why (congrArg Except.error (Except.error.inj he))
    · intro h why he
      exact h why (congrArg Except.error (Except.error.inj he))
  | ok a => exact iff_of_true (defined_ok _) (defined_ok a)

theorem leAt_some_le {buf : Bytes} {pos n v : Nat} (h : leAt buf pos n = some v) : pos + n ≤ buf.length := by
  by_contra hlt
  rw [leAt_of_lt (by omega)] at h
  cases h

end

end Clues
