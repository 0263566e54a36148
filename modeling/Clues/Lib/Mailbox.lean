import Mathlib.Data.List.Count
import Mathlib.Logic.Relation

/-!
# Messages that are handled at once, parked or dropped

Messages arrive one by one.  Each has a key, and is handled at once, or parked under its key until
it is released, or dropped.

* `Step key G`   what can happen to a message; one is only handled at once if `G` holds;
* `Sound`        every message that was handled, or is parked, arrived, and counts once;
* `Orderly k`    the messages of the key `k` are handled in the order in which they arrive.
-/

namespace Lib

structure Mailbox (κ μ : Type) where
  arrived : List μ
  handled : List μ
  parked : κ → Option μ

namespace Mailbox

variable {κ μ : Type} [DecidableEq κ] {key : μ → κ} {G : Mailbox κ μ → μ → Prop}

def empty : Mailbox κ μ := ⟨[], [], fun _ => none⟩

/-- nothing is parked under the key any more -/
def clear (s : Mailbox κ μ) (k : κ) : Mailbox κ μ :=
  { s with parked := Function.update s.parked k none }

inductive Step (key : μ → κ) (G : Mailbox κ μ → μ → Prop) : Mailbox κ μ → Mailbox κ μ → Prop
  | handle {s : Mailbox κ μ} (m : μ) : G s m →
      Step key G s { s with arrived := s.arrived ++ [m], handled := s.handled ++ [m] }
  | drop (s : Mailbox κ μ) (m : μ) : Step key G s { s with arrived := s.arrived ++ [m] }
  | park {s : Mailbox κ μ} (m : μ) : s.parked (key m) = none → Step key G s
      { s with arrived := s.arrived ++ [m], parked := Function.update s.parked (key m) (some m) }
  | release {s : Mailbox κ μ} (k : κ) (m : μ) : s.parked k = some m →
      Step key G s (({ s with handled := s.handled ++ [m] } : Mailbox κ μ).clear k)
  | discard (s : Mailbox κ μ) (k : κ) : Step key G s (s.clear k)

abbrev Steps (key : μ → κ) (G : Mailbox κ μ → μ → Prop) : Mailbox κ μ → Mailbox κ μ → Prop :=
  Relation.ReflTransGen (Step key G)

/-- a message is parked under its key -/
def Keyed (key : μ → κ) (s : Mailbox κ μ) : Prop := ∀ k m, s.parked k = some m → key m = k

theorem Keyed.clear {s : Mailbox κ μ} (h : Keyed key s) (k : κ) : Keyed key (s.clear k) := by
  intro k' m hm
  by_cases hk : k' = k
  · subst hk
    rw [show (s.clear k').parked k' = none from Function.update_self ..] at hm
    cases hm
  · rw [show (s.clear k).parked k' = s.parked k' from Function.update_of_ne hk ..] at hm
    exact h k' m hm

theorem Step.keyed {s s' : Mailbox κ μ} (hs : Step key G s s') (h : Keyed key s) :
    Keyed key s' := by
  cases hs with
  | handle | drop => exact h
  | park m hp =>
    intro k' m' hm
    change Function.update s.parked (key m) (some m) k' = some m' at hm
    by_cases hk : k' = key m
    · subst hk
      rw [Function.update_self] at hm
      rw [Option.some.inj hm]
    · rw [Function.update_of_ne hk] at hm
      exact h k' m' hm
  | release k => exact Keyed.clear (s := { s with handled := _ }) h k
  | discard k => exact h.clear k

/-! ## nothing is invented or handled twice -/

section
variable [DecidableEq μ]

/-- the message is handled later -/
def pending (key : μ → κ) (s : Mailbox κ μ) (m : μ) : Nat :=
  if s.parked (key m) = some m then 1 else 0

def Sound (key : μ → κ) (s : Mailbox κ μ) : Prop :=
  ∀ m, s.handled.count m + pending key s m ≤ s.arrived.count m

theorem pending_clear (s : Mailbox κ μ) (k : κ) (m : μ) :
    pending key (s.clear k) m = if key m = k then 0 else pending key s m := by
  unfold pending
  by_cases hk : key m = k
  · rw [if_pos hk, hk, show (s.clear k).parked k = none from Function.update_self .., if_neg nofun]
  · rw [if_neg hk, show (s.clear k).parked (key m) = s.parked (key m) from
      Function.update_of_ne hk ..]

theorem Sound.step {s s' : Mailbox κ μ} (h : Sound key s) (hk : Keyed key s)
    (hs : Step key G s s') : Sound key s' := by
  intro m
  have hm := h m
  cases hs with
  | handle m' hG =>
    show (s.handled ++ [m']).count m + pending key s m ≤ (s.arrived ++ [m']).count m
    rw [List.count_append, List.count_append]
    omega
  | drop m' =>
    show s.handled.count m + pending key s m ≤ (s.arrived ++ [m']).count m
    rw [List.count_append]
    omega
  | park m' hp =>
    show s.handled.count m + (if Function.update s.parked (key m') (some m') (key m) = some m then 1
      else 0) ≤ (s.arrived ++ [m']).count m
    rw [List.count_append]
    by_cases hmm : m' = m
    · subst hmm
      rw [Function.update_self, if_pos rfl, List.count_singleton_self]
      omega
    · by_cases hkey : key m = key m'
      · rw [hkey, Function.update_self, if_neg fun he => hmm (Option.some.inj he)]
        omega
      · rw [Function.update_of_ne hkey]
        have hm' : s.handled.count m + (if s.parked (key m) = some m then 1 else 0)
          ≤ s.arrived.count m := hm
        omega
  | release k m' hp =>
    have hkm : key m' = k := hk k m' hp
    show (s.handled ++ [m']).count m + pending key (s.clear k) m ≤ s.arrived.count m
    rw [pending_clear, List.count_append]
    by_cases hmm : m' = m
    · subst hmm
      have hpend : pending key s m' = 1 := by
        unfold pending
        rw [hkm, if_pos hp]
      rw [if_pos hkm, List.count_singleton_self]
      omega
    · rw [List.count_singleton, if_neg (by simpa using hmm)]
      split_ifs <;> omega
  | discard k =>
    show s.handled.count m + pending key (s.clear k) m ≤ s.arrived.count m
    rw [pending_clear]
    split_ifs <;> omega

/-- no run invents a message, or handles one twice -/
theorem sound_of_steps {s : Mailbox κ μ} (hs : Steps key G empty s) : Sound key s := by
  have h : Sound key s ∧ Keyed key s := by
    induction hs with
    | refl => exact ⟨fun _ => by simp [empty, pending], fun _ _ => nofun⟩
    | tail _ hs ih => exact ⟨ih.1.step ih.2 hs, hs.keyed ih.2⟩
  exact h.1

end

/-! ## order -/

/-- a message is handled at once only if none of its key is parked -/
def InTurn (key : μ → κ) (s : Mailbox κ μ) (m : μ) : Prop := s.parked (key m) = none

/-- the messages of a key -/
def ofKey (key : μ → κ) (k : κ) (ms : List μ) : List μ := ms.filter fun m => key m = k

theorem ofKey_snoc (k : κ) (ms : List μ) (m : μ) :
    ofKey key k (ms ++ [m]) = ofKey key k ms ++ if key m = k then [m] else [] := by
  unfold ofKey
  rw [List.filter_append]
  by_cases h : key m = k
  · simp [h]
  · simp [h]

/-- the messages of the key that were handled, and the one that is parked, are in order -/
def Orderly (key : μ → κ) (k : κ) (s : Mailbox κ μ) : Prop :=
  (ofKey key k s.handled ++ (s.parked k).toList).Sublist (ofKey key k s.arrived)

theorem Orderly.step {k : κ} {s s' : Mailbox κ μ} (h : Orderly key k s) (hk : Keyed key s)
    (hs : Step key (InTurn key) s s') : Orderly key k s' := by
  unfold Orderly at h ⊢
  cases hs with
  | handle m hG =>
    show (ofKey key k (s.handled ++ [m]) ++ (s.parked k).toList).Sublist
      (ofKey key k (s.arrived ++ [m]))
    rw [ofKey_snoc, ofKey_snoc]
    by_cases hm : key m = k
    · have hp : s.parked k = none := hm ▸ hG
      rw [hp, Option.toList_none, List.append_nil] at h
      rw [if_pos hm, hp, Option.toList_none, List.append_nil]
      exact h.append (List.Sublist.refl _)
    · rw [if_neg hm, List.append_nil, List.append_nil]
      exact h
  | drop m =>
    show (ofKey key k s.handled ++ (s.parked k).toList).Sublist (ofKey key k (s.arrived ++ [m]))
    rw [ofKey_snoc]
    exact h.trans (List.sublist_append_left _ _)
  | park m hp =>
    show (ofKey key k s.handled ++ (Function.update s.parked (key m) (some m) k).toList).Sublist
      (ofKey key k (s.arrived ++ [m]))
    rw [ofKey_snoc]
    by_cases hm : key m = k
    · subst hm
      rw [hp, Option.toList_none, List.append_nil] at h
      rw [Function.update_self, if_pos rfl]
      exact h.append (List.Sublist.refl _)
    · rw [Function.update_of_ne (Ne.symm hm), if_neg hm, List.append_nil]
      exact h
  | release k' m hp =>
    have hkm : key m = k' := hk k' m hp
    show (ofKey key k (s.handled ++ [m]) ++ (Function.update s.parked k' none k).toList).Sublist
      (ofKey key k s.arrived)
    rw [ofKey_snoc]
    by_cases hm : k' = k
    · subst hm
      rw [hp] at h
      rw [Function.update_self, if_pos hkm, Option.toList_none, List.append_nil]
      exact h
    · rw [Function.update_of_ne (Ne.symm hm), if_neg (hkm ▸ hm), List.append_nil]
      exact h
  | discard k' =>
    show (ofKey key k s.handled ++ (Function.update s.parked k' none k).toList).Sublist _
    by_cases hm : k' = k
    · subst hm
      rw [Function.update_self, Option.toList_none, List.append_nil]
      exact (List.sublist_append_left _ _).trans h
    · rw [Function.update_of_ne (Ne.symm hm)]
      exact h

/-- messages of one key are handled in order, if none overtakes a parked one -/
theorem orderly_of_steps {s : Mailbox κ μ} (hs : Steps key (InTurn key) empty s) (k : κ) :
    Orderly key k s := by
  have h : Orderly key k s ∧ Keyed key s := by
    induction hs with
    | refl => exact ⟨List.Sublist.refl _, fun _ _ => nofun⟩
    | tail _ hs ih => exact ⟨ih.1.step ih.2 hs, hs.keyed ih.2⟩
  exact h.1

end Mailbox

end Lib
