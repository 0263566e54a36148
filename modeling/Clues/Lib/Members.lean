import Mathlib.Data.List.Nodup

/-!
# Objects whose members come and go

An object has members that are created and destroyed while it is used, and keeps references to
some of them: a list of slots, and one more reference.

* `Shape ι κ δ`     the members that exist, the references, and a datum of the object;
* `Shape.Sound`     the slots lead to members that exist, each to its own;
* `Obj ι κ δ ω`     an object, with the values of its members;
* `Obj.fill`        values are stored in the members that the slots lead to;
* `Obj.Similar`     objects that look the same to those who follow the references.
-/

set_option linter.unusedSectionVars false

namespace Lib.Members

/-! ## shapes -/

/-- the members that slots lead to -/
def members {ι : Type} (slots : List (Option ι)) : List ι := slots.filterMap id

section
variable {ι : Type} {slots : List (Option ι)}

theorem mem_members {i : ι} : i ∈ members slots ↔ some i ∈ slots := by
  simp [members]

/-- a member has one slot -/
theorem slot_unique (hnd : (members slots).Nodup) {i : ι} {n m : Nat}
    (hn : slots[n]? = some (some i)) (hm : slots[m]? = some (some i)) : n = m := by
  induction slots generalizing n m with
  | nil => simp at hn
  | cons slot slots ih =>
    have htail : (members slots).Nodup := by
      cases slot with
      | none => exact hnd
      | some j => exact (List.nodup_cons.mp hnd).2
    have hhead : slot = some i → some i ∉ slots := by
      rintro rfl hmem
      exact (List.nodup_cons.mp hnd).1 (mem_members.mpr hmem)
    cases n with
    | zero =>
      cases m with
      | zero => rfl
      | succ m =>
        have hm' : slots[m]? = some (some i) := hm
        exact absurd (List.mem_of_getElem? hm') (hhead (Option.some.inj hn))
    | succ n =>
      cases m with
      | zero =>
        have hn' : slots[n]? = some (some i) := hn
        exact absurd (List.mem_of_getElem? hn') (hhead (Option.some.inj hm))
      | succ m => exact congrArg (· + 1) (ih htail hn hm)

end

@[ext]
structure Shape (ι κ δ : Type) where
  /-- the members that exist, and their kinds -/
  live : ι → Option κ
  /-- a slot without a member is a placeholder -/
  slots : List (Option ι)
  out : Option ι
  datum : δ

namespace Shape

section
variable {ι κ δ : Type} [DecidableEq ι]

def emplace (i : ι) (k : κ) (s : Shape ι κ δ) : Shape ι κ δ :=
  { s with live := fun j => if j = i then some k else s.live j }

def reset (is : List ι) (s : Shape ι κ δ) : Shape ι κ δ :=
  { s with live := fun j => if j ∈ is then none else s.live j }

def drop (n : Nat) (s : Shape ι κ δ) : Shape ι κ δ := { s with slots := s.slots.take n }

def add (is : List (Option ι)) (s : Shape ι κ δ) : Shape ι κ δ :=
  { s with slots := s.slots ++ is }

def setSlots (is : List (Option ι)) (s : Shape ι κ δ) : Shape ι κ δ := { s with slots := is }

def setOut (i : ι) (s : Shape ι κ δ) : Shape ι κ δ := { s with out := some i }

def items (s : Shape ι κ δ) : List ι := members s.slots

/-- no slot dangles, no two of them lead to the same member, and there are at most `n` -/
structure Sound (n : Nat) (s : Shape ι κ δ) : Prop where
  slots : ∀ i ∈ s.items, (s.live i).isSome = true
  nodup : s.items.Nodup
  length : s.slots.length ≤ n

instance (n : Nat) (s : Shape ι κ δ) : Decidable (s.Sound n) :=
  decidable_of_iff ((∀ i ∈ s.items, (s.live i).isSome = true) ∧ s.items.Nodup ∧
    s.slots.length ≤ n)
    ⟨fun ⟨h1, h2, h3⟩ => ⟨h1, h2, h3⟩, fun h => ⟨h.slots, h.nodup, h.length⟩⟩

/-- the first `n` slots and the fixed members are as in `l` -/
structure Keeps (n : Nat) (fixed : List ι) (l s : Shape ι κ δ) : Prop where
  slots : s.slots.take n = l.slots.take n
  live : ∀ i ∈ fixed, s.live i = l.live i
  datum : s.datum = l.datum

instance [DecidableEq κ] [DecidableEq δ] (n : Nat) (fixed : List ι) (l s : Shape ι κ δ) :
    Decidable (Keeps n fixed l s) :=
  decidable_of_iff (s.slots.take n = l.slots.take n ∧
    (∀ i ∈ fixed, s.live i = l.live i) ∧ s.datum = l.datum)
    ⟨fun ⟨h1, h2, h3⟩ => ⟨h1, h2, h3⟩, fun h => ⟨h.slots, h.live, h.datum⟩⟩

end

end Shape

/-! ## objects -/

structure Obj (ι κ δ ω : Type) where
  shape : Shape ι κ δ
  value : ι → ω

/-- what may happen while members are used -/
inductive Fault (ε : Type) where
  /-- a reference that leads nowhere was followed -/
  | undefined
  | error (e : ε)
  deriving DecidableEq, Repr

namespace Obj

section
variable {ι κ δ ω ε : Type} [DecidableEq ι]

def set (i : ι) (v : ω) (o : Obj ι κ δ ω) : Obj ι κ δ ω :=
  { o with value := fun j => if j = i then v else o.value j }

/-- each slot is given the value at its place; this may fail when the value was stored -/
def fill (fails : ι → Option ε) :
    List (Option ι) → List ω → Obj ι κ δ ω → Except (Fault ε) Unit × Obj ι κ δ ω
  | [], _, o => (.ok (), o)
  | _ :: _, [], o => (.error .undefined, o)
  | none :: slots, _ :: vs, o => fill fails slots vs o
  | some i :: slots, v :: vs, o =>
    if (o.shape.live i).isSome then
      match fails i with
      | some e => (.error (.error e), o.set i v)
      | none => fill fails slots vs (o.set i v)
    else (.error .undefined, o)

/-- members are used one after the other, and each use may fail -/
def use (fails : ι → Option ε) (s : Shape ι κ δ) : List ι → Except (Fault ε) Unit
  | [] => .ok ()
  | i :: is =>
    if (s.live i).isSome then
      match fails i with
      | some e => .error (.error e)
      | none => use fails s is
    else .error .undefined

/-- the first failure of members that are used one after the other -/
def outcome (fails : ι → Option ε) (is : List ι) : Except (Fault ε) Unit :=
  match is.findSome? fails with
  | some e => .error (.error e)
  | none => .ok ()

/-- the same members and references, and the same values behind the slots -/
structure Similar (o o' : Obj ι κ δ ω) : Prop where
  shape : o.shape = o'.shape
  value : ∀ i ∈ o.shape.items, o.value i = o'.value i

variable {fails : ι → Option ε} {slots : List (Option ι)} {vs : List ω} {o o' : Obj ι κ δ ω}

theorem outcome_defined (is : List ι) : outcome fails is ≠ .error .undefined := by
  unfold outcome
  cases is.findSome? fails with
  | some e => exact nofun
  | none => exact nofun

theorem outcome_ok {is : List ι} (h : ∀ i ∈ is, fails i = none) : outcome fails is = .ok () := by
  unfold outcome
  rw [List.findSome?_eq_none_iff.mpr h]

theorem set_value_self (i : ι) (v : ω) (o : Obj ι κ δ ω) : (o.set i v).value i = v := if_pos rfl

theorem set_value_ne {i j : ι} (h : j ≠ i) (v : ω) (o : Obj ι κ δ ω) :
    (o.set i v).value j = o.value j := if_neg h

theorem fill_shape : (fill fails slots vs o).2.shape = o.shape := by
  induction slots generalizing vs o with
  | nil => rfl
  | cons slot slots ih =>
    cases vs with
    | nil => rfl
    | cons v vs =>
      cases slot with
      | none => exact ih
      | some i =>
        unfold fill
        split_ifs
        · cases fails i with
          | some e => rfl
          | none => exact ih
        · rfl

/-- what was stored before does not matter -/
theorem fill_congr (h : o.shape = o'.shape) :
    (fill fails slots vs o).1 = (fill fails slots vs o').1 := by
  induction slots generalizing vs o o' with
  | nil => rfl
  | cons slot slots ih =>
    cases vs with
    | nil => rfl
    | cons v vs =>
      cases slot with
      | none => exact ih h
      | some i =>
        unfold fill
        rw [h]
        split_ifs
        · cases fails i with
          | some e => rfl
          | none => exact ih h
        · rfl

/-- members that exist fail only by themselves, the first one of them -/
theorem fill_eq (hlive : ∀ i ∈ members slots, (o.shape.live i).isSome = true)
    (hlen : slots.length ≤ vs.length) : (fill fails slots vs o).1 = outcome fails (members slots) := by
  induction slots generalizing vs o with
  | nil => rfl
  | cons slot slots ih =>
    cases vs with
    | nil => exact absurd hlen (by simp)
    | cons v vs =>
      have hlen' : slots.length ≤ vs.length := Nat.le_of_succ_le_succ hlen
      cases slot with
      | none => exact ih hlive hlen'
      | some i =>
        have hrest := ih (o := o.set i v) (fun j hj => hlive j (List.mem_cons_of_mem i hj)) hlen'
        unfold fill
        rw [if_pos (hlive i List.mem_cons_self)]
        show _ = outcome fails (i :: members slots)
        unfold outcome at hrest ⊢
        rw [List.findSome?_cons]
        cases fails i with
        | some e => rfl
        | none => exact hrest

theorem fill_defined (hlive : ∀ i ∈ members slots, (o.shape.live i).isSome = true)
    (hlen : slots.length ≤ vs.length) : (fill fails slots vs o).1 ≠ .error .undefined := by
  rw [fill_eq hlive hlen]
  exact outcome_defined _

theorem fill_frame {i : ι} (hi : i ∉ members slots) :
    (fill fails slots vs o).2.value i = o.value i := by
  induction slots generalizing vs o with
  | nil => rfl
  | cons slot slots ih =>
    cases vs with
    | nil => rfl
    | cons v vs =>
      cases slot with
      | none => exact ih hi
      | some j =>
        have hne : i ≠ j := fun h => hi (h ▸ List.mem_cons_self)
        have hrest : i ∉ members slots := fun h => hi (List.mem_cons_of_mem j h)
        unfold fill
        split_ifs
        · cases fails j with
          | some e => exact set_value_ne hne v o
          | none => exact (ih hrest).trans (set_value_ne hne v o)
        · rfl

/-- each slot leads to the value at its place -/
theorem fill_value (hok : (fill fails slots vs o).1 = .ok ())
    (hnd : (members slots).Nodup) {n : Nat} {i : ι} (hn : slots[n]? = some (some i)) :
    vs[n]? = some ((fill fails slots vs o).2.value i) := by
  induction slots generalizing vs o n with
  | nil => simp at hn
  | cons slot slots ih =>
    cases vs with
    | nil => cases hok
    | cons v vs =>
      cases slot with
      | none =>
        cases n with
        | zero => simp at hn
        | succ n => exact ih hok hnd hn
      | some j =>
        obtain ⟨hj, hnd'⟩ := List.nodup_cons.mp hnd
        unfold fill at hok ⊢
        split_ifs at hok ⊢
        cases hf : fails j with
        | some e =>
          rw [hf] at hok
          cases hok
        | none =>
          rw [hf] at hok
          cases n with
          | zero =>
            obtain rfl : j = i := by simpa using hn
            simp only [fill_frame hj, set_value_self]
            rfl
          | succ n => exact ih hok hnd' hn

/-- afterwards objects of the same shape look the same -/
theorem fill_similar (h : o.shape = o'.shape) (hslots : o.shape.slots = slots)
    (hnd : (members slots).Nodup) (hok : (fill fails slots vs o).1 = .ok ()) :
    Similar (fill fails slots vs o).2 (fill fails slots vs o').2 := by
  refine ⟨by rw [fill_shape, fill_shape, h], fun i hi => ?_⟩
  rw [fill_shape] at hi
  obtain ⟨n, hn⟩ := List.getElem?_of_mem (mem_members.mp hi)
  rw [hslots] at hn
  have h1 := fill_value hok hnd hn
  have h2 := fill_value ((fill_congr h).symm.trans hok) hnd hn
  exact Option.some.inj (h1.symm.trans h2)

/-- a member that is given the value it has keeps it -/
theorem fill_keeps {P : ι → Prop}
    (h : ∀ (n : Nat) (i : ι), slots[n]? = some (some i) → P i → vs[n]? = some (o.value i))
    {i : ι} (hi : P i) : (fill fails slots vs o).2.value i = o.value i := by
  induction slots generalizing vs o with
  | nil => rfl
  | cons slot slots ih =>
    cases vs with
    | nil => rfl
    | cons v vs =>
      cases slot with
      | none => exact ih fun n j hn hj => h (n + 1) j hn hj
      | some j =>
        have hset : ∀ q, P q → (o.set j v).value q = o.value q := by
          intro q hq
          by_cases hqj : q = j
          · subst hqj
            rw [set_value_self]
            exact Option.some.inj (h 0 q rfl hq)
          · exact set_value_ne hqj v o
        unfold fill
        split_ifs
        · cases fails j with
          | some e => exact hset i hi
          | none =>
            rw [ih (o := o.set j v) fun n q hn hq => (h (n + 1) q hn hq).trans
              (congrArg some (hset q hq).symm)]
            exact hset i hi
        · rfl

theorem fill_ok (hlive : ∀ i ∈ members slots, (o.shape.live i).isSome = true)
    (hlen : slots.length ≤ vs.length) (hf : ∀ i ∈ members slots, fails i = none) :
    (fill fails slots vs o).1 = .ok () := by
  rw [fill_eq hlive hlen, outcome_ok hf]

theorem use_eq {s : Shape ι κ δ} {is : List ι} (h : ∀ i ∈ is, (s.live i).isSome = true) :
    use fails s is = outcome fails is := by
  induction is with
  | nil => rfl
  | cons i is ih =>
    have hrest := ih fun j hj => h j (List.mem_cons_of_mem i hj)
    unfold use
    rw [if_pos (h i List.mem_cons_self)]
    unfold outcome at hrest ⊢
    rw [List.findSome?_cons]
    cases fails i with
    | some e => rfl
    | none => exact hrest

theorem use_defined {s : Shape ι κ δ} {is : List ι}
    (h : ∀ i ∈ is, (s.live i).isSome = true) : use fails s is ≠ .error .undefined := by
  rw [use_eq h]
  exact outcome_defined is

theorem use_ok {s : Shape ι κ δ} {is : List ι} (h : ∀ i ∈ is, (s.live i).isSome = true)
    (hf : ∀ i ∈ is, fails i = none) : use fails s is = .ok () := by
  rw [use_eq h, outcome_ok hf]

end

end Obj

end Lib.Members
