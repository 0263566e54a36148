import Mathlib.Tactic.Common

/-!
# Texts with escapes

A list of symbols is written as the codes of its symbols, one behind the other.

* `encode`                     the text of a list;
* `Legible`                    no other list has the same text;
* `Escaping`                   plain symbols have a code of one letter, and escapes are written in
                               such letters;
* `Escaping.legible_iff`       a list is legible iff its text does not show an escape anywhere;
* `encode_injective`           with codes of one length every list is legible.
-/

namespace Lib.Escapes

variable {α β : Type} {code : β → List α} {plain : β → Prop} {xs ys : List β}

def encode (code : β → List α) (xs : List β) : List α := xs.flatMap code

@[simp] theorem encode_cons (x : β) (xs : List β) :
    encode code (x :: xs) = code x ++ encode code xs := rfl

@[simp] theorem encode_append (xs ys : List β) :
    encode code (xs ++ ys) = encode code xs ++ encode code ys := List.flatMap_append

/-- the list is told by its text -/
def Legible (code : β → List α) (xs : List β) : Prop :=
  ∀ ys, encode code ys = encode code xs → ys = xs

/-- the code of a symbol is somewhere in the text -/
theorem code_infix {x : β} (h : x ∈ xs) : code x <:+: encode code xs := by
  obtain ⟨s, t, rfl⟩ := List.append_of_mem h
  refine ⟨encode code s, encode code t, ?_⟩
  rw [encode_append, encode_cons, List.append_assoc]

theorem encode_injective {n : Nat} (hn : 0 < n) (hlen : ∀ x, (code x).length = n)
    (hinj : Function.Injective code) : Function.Injective (encode code) := by
  intro xs ys h
  have hne : ∀ y (ys : List β), encode code (y :: ys) ≠ [] := by
    intro y ys hnil
    have hy := hlen y
    rw [(List.append_eq_nil_iff.mp hnil).1] at hy
    exact absurd hy (Nat.ne_of_lt hn)
  induction xs generalizing ys with
  | nil =>
    cases ys with
    | nil => rfl
    | cons y ys => exact absurd h.symm (hne y ys)
  | cons x xs ih =>
    cases ys with
    | nil => exact absurd h (hne x xs)
    | cons y ys =>
      obtain ⟨hhead, htail⟩ := List.append_inj h ((hlen x).trans (hlen y).symm)
      rw [hinj hhead, ih htail]

/-- escapes are longer than the codes of plain symbols, and each letter of a code is the code of a
plain symbol -/
structure Escaping (code : β → List α) (plain : β → Prop) : Prop where
  injective : Function.Injective code
  single : ∀ x, plain x → (code x).length = 1
  long : ∀ x, ¬ plain x → 1 < (code x).length
  letters : ∀ x, ∀ a ∈ code x, ∃ y, plain y ∧ code y = [a]

namespace Escaping

/-- plain symbols can be written for all letters of a text -/
theorem exists_plain {t : List α} (h : ∀ a ∈ t, ∃ y, plain y ∧ code y = [a]) :
    ∃ ps, (∀ p ∈ ps, plain p) ∧ encode code ps = t := by
  induction t with
  | nil => exact ⟨[], nofun, rfl⟩
  | cons a t ih =>
    obtain ⟨y, hy, ha⟩ := h a List.mem_cons_self
    obtain ⟨ps, hps, rfl⟩ := ih fun b hb => h b (List.mem_cons_of_mem a hb)
    refine ⟨y :: ps, List.forall_mem_cons.mpr ⟨hy, hps⟩, ?_⟩
    rw [encode_cons, ha]
    rfl

theorem length_encode (h : Escaping code plain) (hxs : ∀ x ∈ xs, plain x) :
    (encode code xs).length = xs.length := by
  induction xs with
  | nil => rfl
  | cons x xs ih =>
    obtain ⟨hx, hxs'⟩ := List.forall_mem_cons.mp hxs
    rw [encode_cons, List.length_append, h.single x hx, ih hxs', List.length_cons, Nat.add_comm]

/-- lists of plain symbols are told by their texts -/
theorem eq_of_plain (h : Escaping code plain) (hxs : ∀ x ∈ xs, plain x) (hys : ∀ y ∈ ys, plain y)
    (he : encode code xs = encode code ys) : xs = ys := by
  induction xs generalizing ys with
  | nil =>
    have hlen := congrArg List.length he
    rw [h.length_encode hys] at hlen
    exact (List.length_eq_zero_iff.mp hlen.symm).symm
  | cons x xs ih =>
    obtain ⟨hx, hxs'⟩ := List.forall_mem_cons.mp hxs
    cases ys with
    | nil =>
      have hlen := congrArg List.length he
      rw [h.length_encode hxs] at hlen
      exact absurd hlen (Nat.succ_ne_zero _)
    | cons y ys =>
      obtain ⟨hy, hys'⟩ := List.forall_mem_cons.mp hys
      obtain ⟨hhead, htail⟩ := List.append_inj he ((h.single x hx).trans (h.single y hy).symm)
      rw [h.injective hhead, ih hxs' hys' htail]

theorem letters_encode (h : Escaping code plain) (xs : List β) :
    ∀ a ∈ encode code xs, ∃ y, plain y ∧ code y = [a] := by
  intro a ha
  obtain ⟨x, _, hax⟩ := List.mem_flatMap.mp ha
  exact h.letters x a hax

/-- plain symbols may stand for an escape that is in the text -/
theorem not_legible (h : Escaping code plain) {e : β} (he : ¬ plain e)
    (hin : code e <:+: encode code xs) : ¬ Legible code xs := by
  intro hxs
  obtain ⟨s, t, hst⟩ := hin
  have hletters := h.letters_encode xs
  rw [← hst] at hletters
  obtain ⟨ps, _, rfl⟩ := exists_plain (t := s) fun a ha =>
    hletters a (List.mem_append_left t (List.mem_append_left (code e) ha))
  obtain ⟨qs, _, rfl⟩ := exists_plain (t := t) fun a ha =>
    hletters a (List.mem_append_right _ ha)
  obtain ⟨rs, hrs, hcode⟩ := exists_plain (h.letters e)
  have hone : ps ++ e :: qs = xs := hxs _ (by rw [← hst]; simp)
  have htwo : ps ++ (rs ++ qs) = xs := hxs _ (by rw [← hst]; simp [hcode])
  have heq : e :: qs = rs ++ qs := List.append_cancel_left (hone.trans htwo.symm)
  have hlen : rs.length = 1 := by
    have hcount := congrArg List.length heq
    rw [List.length_cons, List.length_append] at hcount
    omega
  rw [← h.length_encode hrs, hcode] at hlen
  exact absurd hlen (Nat.ne_of_gt (h.long e he))

theorem legible_iff (h : Escaping code plain) (xs : List β) :
    Legible code xs ↔ ∀ e, ¬ plain e → ¬ code e <:+: encode code xs := by
  constructor
  · intro hxs e he hin
    exact h.not_legible he hin hxs
  · intro hno ys he
    have hplain : ∀ zs, encode code zs = encode code xs → ∀ z ∈ zs, plain z := by
      intro zs hzs z hz
      by_contra hnot
      exact hno z hnot (hzs ▸ code_infix hz)
    exact h.eq_of_plain (hplain ys he) (hplain xs rfl) he

end Escaping

end Lib.Escapes
