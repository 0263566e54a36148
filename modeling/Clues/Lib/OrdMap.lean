import Mathlib.Order.Basic
import Mathlib.Data.List.Basic
import Mathlib.Data.List.Sort

/-!
# Ordered maps

`OrdMap κ α` is a list of entries with strictly increasing keys, the value a `std::map` holds.

* `find?`     the value at a key;
* `insert`    adds an entry unless the key is taken (`std::map::insert`, `emplace`);
* `set`       adds an entry or replaces the value at the key (`operator[] =`);
* `erase`     removes the entry at a key;
* `restrict`  removes the entries at all keys outside a set;
* `keys`      the keys in increasing order.

Every operation has one lookup lemma; two maps with the same lookups are equal
(`OrdMap.ext_find`).
-/

namespace Lib

/-- a finite map with its entries in increasing key order -/
structure OrdMap (κ : Type*) (α : Type*) [LinearOrder κ] where
  entries : List (κ × α)
  sorted : entries.Pairwise (fun a b => a.1 < b.1)

namespace OrdMap

variable {κ α β : Type*} [LinearOrder κ]

instance [DecidableEq α] : DecidableEq (OrdMap κ α) := fun a b =>
  decidable_of_iff (a.entries = b.entries)
    ⟨fun h => by cases a; cases b; cases h; rfl, fun h => congrArg entries h⟩

/-! ## entry lists -/

/-- the value of the first entry with the key -/
def lookup (k : κ) : List (κ × α) → Option α
  | [] => none
  | (k', a) :: es => if k = k' then some a else lookup k es

/-- put an entry before the first larger key; a taken key goes through `f` -/
def insertWith (f : α → α) (k : κ) (a : α) : List (κ × α) → List (κ × α)
  | [] => [(k, a)]
  | (k', a') :: es =>
    if k < k' then (k, a) :: (k', a') :: es
    else if k = k' then (k', f a') :: es
    else (k', a') :: insertWith f k a es

/-- the entries with another key -/
def eraseKey (k : κ) : List (κ × α) → List (κ × α)
  | [] => []
  | (k', a) :: es => if k = k' then eraseKey k es else (k', a) :: eraseKey k es

theorem lookup_eq_none_of_lt (k : κ) (es : List (κ × α)) (h : ∀ e ∈ es, k < e.1) :
    lookup k es = none := by
  induction es with
  | nil => rfl
  | cons e es ih =>
    have hne : k ≠ e.1 := ne_of_lt (h e List.mem_cons_self)
    show (if k = e.1 then some e.2 else lookup k es) = none
    rw [if_neg hne]
    exact ih fun e' he' => h e' (List.mem_cons_of_mem _ he')

theorem mem_insertWith_key {f : α → α} {k : κ} {a : α} {es : List (κ × α)} {e : κ × α}
    (he : e ∈ insertWith f k a es) : e.1 = k ∨ ∃ e' ∈ es, e'.1 = e.1 := by
  induction es with
  | nil =>
    rw [insertWith, List.mem_singleton] at he
    exact Or.inl (by rw [he])
  | cons x es ih =>
    obtain ⟨k', a'⟩ := x
    rw [insertWith] at he
    split_ifs at he with h1 h2
    · rcases List.mem_cons.mp he with rfl | he
      · exact Or.inl rfl
      · exact Or.inr ⟨e, he, rfl⟩
    · rcases List.mem_cons.mp he with rfl | he
      · exact Or.inl h2.symm
      · exact Or.inr ⟨e, List.mem_cons_of_mem _ he, rfl⟩
    · rcases List.mem_cons.mp he with rfl | he
      · exact Or.inr ⟨_, List.mem_cons_self, rfl⟩
      · rcases ih he with h | ⟨e', he', h⟩
        · exact Or.inl h
        · exact Or.inr ⟨e', List.mem_cons_of_mem _ he', h⟩

theorem insertWith_sorted (f : α → α) (k : κ) (a : α) {es : List (κ × α)}
    (h : es.Pairwise (fun a b => a.1 < b.1)) :
    (insertWith f k a es).Pairwise (fun a b => a.1 < b.1) := by
  induction es with
  | nil => simp [insertWith]
  | cons x es ih =>
    obtain ⟨k', a'⟩ := x
    obtain ⟨hx, hes⟩ := List.pairwise_cons.mp h
    rw [insertWith]
    split_ifs with h1 h2
    · refine List.pairwise_cons.mpr ⟨fun e he => ?_, h⟩
      rcases List.mem_cons.mp he with rfl | he
      · exact h1
      · exact h1.trans (hx e he)
    · exact List.pairwise_cons.mpr ⟨hx, hes⟩
    · refine List.pairwise_cons.mpr ⟨fun e he => ?_, ih hes⟩
      rcases mem_insertWith_key he with he | ⟨e', he', hk⟩
      · rw [he]; exact lt_of_le_of_ne (not_lt.mp h1) (Ne.symm h2)
      · rw [← hk]; exact hx e' he'

theorem eraseKey_sublist (k : κ) (es : List (κ × α)) : (eraseKey k es).Sublist es := by
  induction es with
  | nil => exact List.Sublist.refl _
  | cons x es ih =>
    obtain ⟨k', a⟩ := x
    rw [eraseKey]
    split_ifs
    · exact ih.cons _
    · exact ih.cons_cons _

theorem lookup_insertWith (f : α → α) (k q : κ) (a : α) (es : List (κ × α))
    (h : es.Pairwise (fun a b => a.1 < b.1)) :
    lookup q (insertWith f k a es)
      = if q = k then some ((lookup k es).elim a f) else lookup q es := by
  induction es with
  | nil => rfl
  | cons x es ih =>
    obtain ⟨k', a'⟩ := x
    obtain ⟨hx, hes⟩ := List.pairwise_cons.mp h
    rw [insertWith]
    split_ifs with h1 h2 h3 h4 h5
    · have hk : lookup k ((k', a') :: es) = none :=
        lookup_eq_none_of_lt k _ fun e he => by
          rcases List.mem_cons.mp he with rfl | he
          · exact h1
          · exact h1.trans (hx e he)
      rw [hk, h2]
      exact if_pos rfl
    · exact if_neg h2
    · subst h3; rw [h4]; simp [lookup]
    · subst h3; simp only [lookup, if_neg h4]
    · subst h5
      have hne : ¬ q = k' := h3
      simp only [lookup, if_neg hne, ih hes, if_pos]
    · by_cases hq : q = k'
      · simp only [lookup, if_pos hq]
      · simp only [lookup, if_neg hq, ih hes, if_neg h5]

theorem lookup_eraseKey (k q : κ) (es : List (κ × α)) :
    lookup q (eraseKey k es) = if q = k then none else lookup q es := by
  induction es with
  | nil => simp [eraseKey, lookup]
  | cons x es ih =>
    obtain ⟨k', a⟩ := x
    rw [eraseKey]
    by_cases hk : k = k'
    · rw [if_pos hk, ih]
      by_cases hq : q = k
      · rw [if_pos hq, if_pos hq]
      · rw [if_neg hq, if_neg hq]
        exact (if_neg (fun h => hq (h.trans hk.symm))).symm
    · rw [if_neg hk]
      by_cases hq : q = k'
      · have hqk : ¬ q = k := fun h => hk (h.symm.trans hq)
        simp only [lookup, if_pos hq, if_neg hqk]
      · simp only [lookup, if_neg hq, ih]

theorem lookup_filter (p : κ → Prop) [DecidablePred p] (q : κ) (es : List (κ × α)) :
    lookup q (es.filter fun e => p e.1) = if p q then lookup q es else none := by
  induction es with
  | nil => exact (ite_self none).symm
  | cons x es ih =>
    obtain ⟨k, a⟩ := x
    rw [List.filter_cons]
    by_cases hk : p k
    · rw [if_pos (decide_eq_true hk)]
      by_cases hq : q = k
      · subst hq
        simp only [lookup, if_pos hk, if_true]
      · simp only [lookup, if_neg hq, ih]
    · rw [if_neg (by rw [decide_eq_false hk]; exact Bool.false_ne_true), ih]
      by_cases hq : q = k
      · subst hq
        rw [if_neg hk, if_neg hk]
      · simp only [lookup, if_neg hq]

/-! ## the map operations -/

def empty : OrdMap κ α := ⟨[], List.Pairwise.nil⟩

instance : Inhabited (OrdMap κ α) := ⟨empty⟩

def isEmpty (m : OrdMap κ α) : Bool := m.entries.isEmpty

def find? (m : OrdMap κ α) (k : κ) : Option α := lookup k m.entries

/-- a taken key keeps its value -/
def insert (m : OrdMap κ α) (k : κ) (a : α) : OrdMap κ α :=
  ⟨insertWith id k a m.entries, insertWith_sorted _ _ _ m.sorted⟩

/-- a taken key gets the new value -/
def set (m : OrdMap κ α) (k : κ) (a : α) : OrdMap κ α :=
  ⟨insertWith (fun _ => a) k a m.entries, insertWith_sorted _ _ _ m.sorted⟩

def erase (m : OrdMap κ α) (k : κ) : OrdMap κ α :=
  ⟨eraseKey k m.entries, m.sorted.sublist (eraseKey_sublist k m.entries)⟩

def restrict (p : κ → Prop) [DecidablePred p] (m : OrdMap κ α) : OrdMap κ α :=
  ⟨m.entries.filter (fun e => p e.1), m.sorted.filter _⟩

def keys (m : OrdMap κ α) : List κ := m.entries.map Prod.fst

@[simp] theorem find?_empty (k : κ) : (empty : OrdMap κ α).find? k = none := rfl

theorem find?_insert (m : OrdMap κ α) (k q : κ) (a : α) :
    (m.insert k a).find? q = if q = k then some ((m.find? k).getD a) else m.find? q := by
  show lookup q (insertWith id k a m.entries) = _
  rw [lookup_insertWith id k q a m.entries m.sorted]
  congr 2
  show (lookup k m.entries).elim a id = (lookup k m.entries).getD a
  cases lookup k m.entries <;> rfl

theorem find?_set (m : OrdMap κ α) (k q : κ) (a : α) :
    (m.set k a).find? q = if q = k then some a else m.find? q := by
  show lookup q (insertWith (fun _ => a) k a m.entries) = _
  rw [lookup_insertWith _ k q a m.entries m.sorted]
  congr 2
  cases lookup k m.entries <;> rfl

theorem find?_erase (m : OrdMap κ α) (k q : κ) :
    (m.erase k).find? q = if q = k then none else m.find? q := lookup_eraseKey k q m.entries

theorem find?_restrict (p : κ → Prop) [DecidablePred p] (m : OrdMap κ α) (q : κ) :
    (m.restrict p).find? q = if p q then m.find? q else none := lookup_filter p q m.entries

theorem find?_insert_of_ne (m : OrdMap κ α) {k q : κ} (a : α) (h : q ≠ k) :
    (m.insert k a).find? q = m.find? q := by rw [find?_insert, if_neg h]

theorem find?_set_of_ne (m : OrdMap κ α) {k q : κ} (a : α) (h : q ≠ k) :
    (m.set k a).find? q = m.find? q := by rw [find?_set, if_neg h]

theorem find?_erase_of_ne (m : OrdMap κ α) {k q : κ} (h : q ≠ k) :
    (m.erase k).find? q = m.find? q := by rw [find?_erase, if_neg h]

@[simp] theorem find?_set_self (m : OrdMap κ α) (k : κ) (a : α) : (m.set k a).find? k = some a := by
  rw [find?_set, if_pos rfl]

@[simp] theorem find?_erase_self (m : OrdMap κ α) (k : κ) : (m.erase k).find? k = none := by
  rw [find?_erase, if_pos rfl]

/-! ## entries and lookups -/

theorem lookup_eq_some_iff {es : List (κ × α)} (h : es.Pairwise (fun a b => a.1 < b.1)) (k : κ)
    (a : α) : lookup k es = some a ↔ (k, a) ∈ es := by
  induction es with
  | nil => simp [lookup]
  | cons x es ih =>
    obtain ⟨k', a'⟩ := x
    obtain ⟨hx, hes⟩ := List.pairwise_cons.mp h
    rw [lookup]
    by_cases hk : k = k'
    · subst hk
      rw [if_pos rfl, List.mem_cons]
      constructor
      · intro he; exact Or.inl (by rw [Option.some.inj he])
      · rintro (he | he)
        · rw [(Prod.mk.inj he).2]
        · exact absurd (hx _ he) (lt_irrefl _)
    · rw [if_neg hk, ih hes, List.mem_cons]
      constructor
      · exact Or.inr
      · rintro (he | he)
        · exact absurd (Prod.mk.inj he).1 hk
        · exact he

theorem mem_entries_iff (m : OrdMap κ α) (k : κ) (a : α) :
    (k, a) ∈ m.entries ↔ m.find? k = some a := (lookup_eq_some_iff m.sorted k a).symm

theorem mem_keys_iff (m : OrdMap κ α) (k : κ) : k ∈ m.keys ↔ ∃ a, m.find? k = some a := by
  unfold keys
  rw [List.mem_map]
  constructor
  · rintro ⟨⟨k', a⟩, he, rfl⟩
    exact ⟨a, (mem_entries_iff m _ _).mp he⟩
  · rintro ⟨a, ha⟩
    exact ⟨(k, a), (mem_entries_iff m _ _).mpr ha, rfl⟩

theorem keys_sorted (m : OrdMap κ α) : m.keys.Pairwise (· < ·) := by
  unfold keys
  exact List.pairwise_map.mpr m.sorted

theorem keys_nodup (m : OrdMap κ α) : m.keys.Nodup :=
  m.keys_sorted.imp fun h => ne_of_lt h

/-- maps with the same lookups are the same map -/
theorem ext_find {m n : OrdMap κ α} (h : ∀ k, m.find? k = n.find? k) : m = n := by
  have hmem : ∀ e, e ∈ m.entries ↔ e ∈ n.entries := by
    intro e
    rw [mem_entries_iff m e.1 e.2, mem_entries_iff n e.1 e.2, h]
  have hnd : ∀ l : OrdMap κ α, l.entries.Nodup := fun l =>
    l.sorted.imp fun {a b} hab he => absurd (congrArg Prod.fst he) (ne_of_lt hab)
  have hperm : m.entries.Perm n.entries := (List.perm_ext_iff_of_nodup (hnd m) (hnd n)).mpr hmem
  have hanti : ∀ a b : κ × α, a ∈ m.entries → b ∈ n.entries → a.1 < b.1 → b.1 < a.1 → a = b :=
    fun a b _ _ h1 h2 => absurd (h1.trans h2) (lt_irrefl _)
  have heq : m.entries = n.entries := hperm.eq_of_pairwise hanti m.sorted n.sorted
  cases m; cases n
  cases heq
  rfl

end OrdMap

end Lib
