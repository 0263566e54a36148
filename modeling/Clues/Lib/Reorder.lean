import Mathlib.Data.List.Perm.Basic
import Mathlib.Data.List.Nodup
import Mathlib.Data.Set.Basic

/-!
# Actions in another order

Actions change a state one after the other.  Those that are independent of each other commute.

* `KeepsOrder dep xs ys`   the same actions, where dependent ones are in the same order;
* `foldl_eq_of_keepsOrder`   both orders lead to the same state;
* `Local I get F f`   in states with `I`, what `f` changes in a store, and what it looks at, are
                      entries of keys in `F`;
* `Local.commute`     functions for disjoint keys commute.
-/

namespace Lib.Reorder

/-! ## orders of actions -/

section
variable {ι σ : Type} {dep : ι → ι → Prop}

/-- the same actions, each once, and dependent ones are in the same order -/
structure KeepsOrder (dep : ι → ι → Prop) (xs ys : List ι) : Prop where
  perm : xs.Perm ys
  nodup : xs.Nodup
  order : ∀ a b, dep a b → [a, b].Sublist xs → [a, b].Sublist ys

instance [DecidableEq ι] [DecidableRel dep] (xs ys : List ι) : Decidable (KeepsOrder dep xs ys) :=
  decidable_of_iff (xs.Perm ys ∧ xs.Nodup ∧
      ∀ a ∈ xs, ∀ b ∈ xs, dep a b → [a, b].Sublist xs → [a, b].Sublist ys)
    ⟨fun ⟨h1, h2, h3⟩ => ⟨h1, h2, fun a b hd hs => h3 a (hs.subset (by simp)) b
        (hs.subset (by simp)) hd hs⟩,
      fun h => ⟨h.perm, h.nodup, fun a _ b _ => h.order a b⟩⟩

/-- an action that comes before another one in a list without duplicates does not come after it -/
theorem not_sublist_of_before {a b : ι} {p q : List ι} (hn : (p ++ a :: q).Nodup) (hb : b ∈ p) :
    ¬ [a, b].Sublist (p ++ a :: q) := by
  have hdis := (List.nodup_append.mp hn).2.2
  intro h
  obtain ⟨l₁, l₂, heq, h₁, h₂⟩ := List.sublist_append_iff.mp h
  cases l₁ with
  | nil =>
    have hb' : b ∈ a :: q := h₂.subset (by rw [← show [a, b] = l₂ from heq]; simp)
    exact hdis b hb b hb' rfl
  | cons c l₁ =>
    have hc : c = a := (List.cons.inj heq).1.symm
    have ha : a ∈ p := h₁.subset (by rw [hc]; exact List.mem_cons_self)
    exact hdis a ha a List.mem_cons_self rfl

/-- the first action comes behind actions only that are independent of it -/
theorem KeepsOrder.independent {a : ι} {xs p q : List ι}
    (h : KeepsOrder dep (a :: xs) (p ++ a :: q)) : ∀ b ∈ p, ¬ dep a b := by
  have hn : (p ++ a :: q).Nodup := h.perm.nodup_iff.mp h.nodup
  intro b hb hd
  have hne : b ≠ a := fun he =>
    (List.nodup_append.mp hn).2.2 b hb a List.mem_cons_self he
  have hbx : b ∈ xs :=
    (List.mem_cons.mp (h.perm.mem_iff.mpr (List.mem_append_left _ hb))).resolve_left hne
  have hsub : [a, b].Sublist (a :: xs) := (List.singleton_sublist.mpr hbx).cons_cons a
  exact not_sublist_of_before hn hb (h.order a b hd hsub)

theorem KeepsOrder.tail {a : ι} {xs p q : List ι} (h : KeepsOrder dep (a :: xs) (p ++ a :: q)) :
    KeepsOrder dep xs (p ++ q) := by
  classical
  have hn : (p ++ a :: q).Nodup := h.perm.nodup_iff.mp h.nodup
  have hax : a ∉ xs := (List.nodup_cons.mp h.nodup).1
  refine ⟨?_, (List.nodup_cons.mp h.nodup).2, fun b c hd hs => ?_⟩
  · exact (h.perm.trans List.perm_middle).cons_inv
  · have hb : b ≠ a := fun he => hax (he ▸ hs.subset (by simp))
    have hc : c ≠ a := fun he => hax (he ▸ hs.subset (by simp))
    have hsub := (h.order b c hd (hs.cons a)).filter fun x => decide (x ≠ a)
    have hfilter : ∀ l : List ι, a ∉ l → l.filter (fun x => decide (x ≠ a)) = l := fun l hl =>
      List.filter_eq_self.mpr fun x hx => decide_eq_true fun he => hl (he ▸ hx)
    have hap : a ∉ p := fun ha => (List.nodup_append.mp hn).2.2 a ha a List.mem_cons_self rfl
    have haq : a ∉ q := (List.nodup_cons.mp (List.nodup_append.mp hn).2.1).1
    rw [hfilter [b, c] (by simp [Ne.symm hb, Ne.symm hc]), List.filter_append,
      List.filter_cons_of_neg (by simp), hfilter p hap, hfilter q haq] at hsub
    exact hsub

variable {I : σ → Prop} {f : σ → ι → σ}

/-- an action passes the ones before it that it commutes with -/
theorem foldl_pass (hI : ∀ s a, I s → I (f s a)) {a : ι} {p : List ι}
    (hc : ∀ b ∈ p, ∀ s, I s → f (f s b) a = f (f s a) b) (q : List ι) {s : σ} (hs : I s) :
    (p ++ a :: q).foldl f s = (a :: (p ++ q)).foldl f s := by
  induction p generalizing s with
  | nil => rfl
  | cons b p ih =>
    show (p ++ a :: q).foldl f (f s b) = (p ++ q).foldl f (f (f s a) b)
    rw [ih (fun c hm => hc c (List.mem_cons_of_mem _ hm)) (hI s b hs),
      ← hc b List.mem_cons_self s hs]
    rfl

/-- independent actions commute, so their order does not matter -/
theorem foldl_eq_of_keepsOrder (hI : ∀ s a, I s → I (f s a))
    (hc : ∀ a b, ¬ dep a b → ∀ s, I s → f (f s b) a = f (f s a) b) {xs ys : List ι}
    (h : KeepsOrder dep xs ys) {s : σ} (hs : I s) : ys.foldl f s = xs.foldl f s := by
  induction xs generalizing ys s with
  | nil => rw [List.perm_nil.mp h.perm.symm]
  | cons a xs ih =>
    obtain ⟨p, q, rfl⟩ := List.append_of_mem (h.perm.mem_iff.mp List.mem_cons_self)
    rw [foldl_pass hI (fun b hb => hc a b (h.independent b hb)) q hs]
    exact ih h.tail (hI s a hs)

end

/-! ## functions on a store -/

section
variable {σ κ α : Type} {I : σ → Prop} {get : σ → κ → α} {F G : Set κ} {f g : σ → σ}

/-- in states with `I`, `f` changes entries of keys in `F` only, in a way that depends on entries of
keys in `F` only -/
structure Local (I : σ → Prop) (get : σ → κ → α) (F : Set κ) (f : σ → σ) : Prop where
  keeps : ∀ s, I s → I (f s)
  frame : ∀ s, I s → ∀ k, k ∉ F → get (f s) k = get s k
  reads : ∀ s t, I s → I t → (∀ k ∈ F, get s k = get t k) → ∀ k ∈ F, get (f s) k = get (f t) k

theorem Local.id : Local I get F fun s => s :=
  ⟨fun _ h => h, fun _ _ _ _ => rfl, fun _ _ _ _ h => h⟩

theorem Local.comp (hg : Local I get F g) (hf : Local I get F f) : Local I get F fun s => g (f s) :=
  ⟨fun s hs => hg.keeps _ (hf.keeps s hs),
    fun s hs k hk => (hg.frame _ (hf.keeps s hs) k hk).trans (hf.frame s hs k hk),
    fun s t hs ht h => hg.reads _ _ (hf.keeps s hs) (hf.keeps t ht) (hf.reads s t hs ht h)⟩

/-- a function that looks at an entry first -/
theorem Local.look {k : κ} (hk : k ∈ F)
    (hf : ∀ s, I s → ∃ g, Local I get F g ∧ ∀ t, get t k = get s k → f t = g t) :
    Local I get F f := by
  refine ⟨fun s hs => ?_, fun s hs q hq => ?_, fun s t hs ht heq => ?_⟩
  · obtain ⟨g, hg, hfg⟩ := hf s hs
    exact hfg s rfl ▸ hg.keeps s hs
  · obtain ⟨g, hg, hfg⟩ := hf s hs
    exact hfg s rfl ▸ hg.frame s hs q hq
  · obtain ⟨g, hg, hfg⟩ := hf s hs
    rw [hfg s rfl, hfg t (heq k hk).symm]
    exact hg.reads s t hs ht heq

theorem Local.foldl {β : Type} {step : σ → β → σ} {xs : List β}
    (h : ∀ x ∈ xs, Local I get F fun s => step s x) : Local I get F fun s => xs.foldl step s := by
  induction xs with
  | nil => exact Local.id
  | cons x xs ih =>
    exact (ih fun y hy => h y (List.mem_cons_of_mem _ hy)).comp (h x List.mem_cons_self)

/-- functions for disjoint keys commute -/
theorem Local.commute (hf : Local I get F f) (hg : Local I get G g) (hFG : ∀ k ∈ F, k ∉ G)
    (hext : ∀ s t, (∀ k, get s k = get t k) → s = t) {s : σ} (hs : I s) : g (f s) = f (g s) := by
  have hnot : ∀ {k}, k ∈ F → k ∉ G := fun hF => hFG _ hF
  apply hext
  intro k
  by_cases hF : k ∈ F
  · rw [hg.frame _ (hf.keeps s hs) k (hnot hF)]
    exact hf.reads s (g s) hs (hg.keeps s hs)
      (fun q hq => (hg.frame s hs q (hnot hq)).symm) k hF
  · rw [hf.frame _ (hg.keeps s hs) k hF]
    by_cases hG : k ∈ G
    · refine hg.reads (f s) s (hf.keeps s hs) hs (fun q hq => ?_) k hG
      exact hf.frame s hs q fun hF' => hnot hF' hq
    · rw [hg.frame _ (hf.keeps s hs) k hG, hg.frame s hs k hG, hf.frame s hs k hF]

end

end Lib.Reorder
