import Clues.Lib.LittleEndian

/-!
# Records in a buffer

* `slice`, `byteAt`, `leAt`   what lies at a position of a buffer, if it lies within the buffer;
* `scan`     a loop over the records that lie one behind the other: the length of each of them is
             part of the record;
* `Framed`   the records that are visited lie within the buffer and are not empty;
             `scan_ok_iff`: this is when the loop ends.
-/

namespace Lib.Buffer

open LittleEndian

/-! ## what lies at a position -/

def slice (buf : Bytes) (pos n : Nat) : Option Bytes :=
  if pos + n ≤ buf.length then some ((buf.drop pos).take n) else none

def byteAt (buf : Bytes) (pos : Nat) : Option UInt8 := buf[pos]?

def leAt (buf : Bytes) (pos n : Nat) : Option Nat := (slice buf pos n).map le

theorem slice_of_le {buf : Bytes} {pos n : Nat} (h : pos + n ≤ buf.length) :
    slice buf pos n = some ((buf.drop pos).take n) :=
  if_pos h

theorem slice_of_lt {buf : Bytes} {pos n : Nat} (h : buf.length < pos + n) :
    slice buf pos n = none :=
  if_neg (Nat.not_le.mpr h)

theorem slice_of_eq {buf front bs back : Bytes} {pos : Nat} (h : buf = front ++ (bs ++ back))
    (hpos : front.length = pos) : slice buf pos bs.length = some bs := by
  subst h hpos
  rw [slice_of_le (by simp only [List.length_append]; omega), List.drop_left, List.take_left]

theorem byteAt_of_lt {buf : Bytes} {pos : Nat} (h : pos < buf.length) :
    byteAt buf pos = some buf[pos] :=
  List.getElem?_eq_getElem h

theorem byteAt_of_le {buf : Bytes} {pos : Nat} (h : buf.length ≤ pos) : byteAt buf pos = none :=
  List.getElem?_eq_none h

theorem byteAt_of_eq {buf front back : Bytes} {b : UInt8} {pos : Nat}
    (h : buf = front ++ b :: back) (hpos : front.length = pos) : byteAt buf pos = some b := by
  subst h hpos
  unfold byteAt
  simp

theorem leAt_of_le {buf : Bytes} {pos n : Nat} (h : pos + n ≤ buf.length) :
    leAt buf pos n = some (le ((buf.drop pos).take n)) := by
  unfold leAt
  rw [slice_of_le h]
  rfl

theorem leAt_of_lt {buf : Bytes} {pos n : Nat} (h : buf.length < pos + n) :
    leAt buf pos n = none := by
  unfold leAt
  rw [slice_of_lt h]
  rfl

/-- a number that was written is read -/
theorem leAt_of_eq {buf front back : Bytes} {pos w n : Nat}
    (h : buf = front ++ (toLE w n ++ back)) (hpos : front.length = pos) (hn : n < 256 ^ w) :
    leAt buf pos w = some n := by
  have hs := slice_of_eq h hpos
  rw [length_toLE] at hs
  unfold leAt
  rw [hs, Option.map_some, le_toLE_of_lt hn]

/-! ## records -/

section
variable {ε α β : Type} {running : ε} {item : Nat → Except ε (α × Nat)} {more : Nat → Bool}
variable {fuel pos len : Nat} {x : α} {xs : List α} {e : ε}

/-- the records from a position on, as long as there are more; `running`: the fuel is used up -/
def scan (running : ε) (item : Nat → Except ε (α × Nat)) (more : Nat → Bool) :
    Nat → Nat → Except ε (List α)
  | 0, _ => .error running
  | fuel + 1, pos =>
    if more pos then
      match item pos with
      | .error e => .error e
      | .ok (x, len) => (scan running item more fuel (pos + len)).map (x :: ·)
    else .ok []

theorem scan_stop (h : more pos = false) : scan running item more (fuel + 1) pos = .ok [] := by
  rw [scan, if_neg (by rw [h]; decide)]

theorem scan_next (h : more pos = true) (hi : item pos = .ok (x, len)) :
    scan running item more (fuel + 1) pos
      = (scan running item more fuel (pos + len)).map (x :: ·) := by
  rw [scan, if_pos h, hi]

theorem scan_error (h : more pos = true) (hi : item pos = .error e) :
    scan running item more (fuel + 1) pos = .error e := by
  rw [scan, if_pos h, hi]

theorem scan_map (f : α → β) :
    scan running (fun pos => (item pos).map fun r => (f r.1, r.2)) more fuel pos
      = (scan running item more fuel pos).map (List.map f) := by
  induction fuel generalizing pos with
  | zero => rfl
  | succ fuel ih =>
    cases hm : more pos with
    | false =>
      rw [scan_stop hm, scan_stop hm]
      rfl
    | true =>
      cases hi : item pos with
      | error e =>
        have hi' : ((item pos).map fun r => (f r.1, r.2)) = .error e := by
          rw [hi]
          rfl
        rw [scan_error hm hi, scan_error hm hi']
        rfl
      | ok r =>
        obtain ⟨x, len⟩ := r
        have hi' : ((item pos).map fun r => (f r.1, r.2)) = .ok (f x, len) := by
          rw [hi]
          rfl
        rw [scan_next hm hi, scan_next hm hi', ih]
        cases scan running item more fuel (pos + len) <;> rfl

/-- more fuel changes nothing -/
theorem scan_mono {fuel' : Nat} (h : scan running item more fuel pos = .ok xs)
    (hle : fuel ≤ fuel') : scan running item more fuel' pos = .ok xs := by
  induction fuel generalizing pos xs fuel' with
  | zero => cases h
  | succ fuel ih =>
    obtain ⟨k, rfl⟩ : ∃ k, fuel' = k + 1 := ⟨fuel' - 1, by omega⟩
    cases hm : more pos with
    | false =>
      rw [scan_stop hm] at h ⊢
      exact h
    | true =>
      cases hi : item pos with
      | error e =>
        rw [scan_error hm hi] at h
        cases h
      | ok r =>
        obtain ⟨x, len⟩ := r
        rw [scan_next hm hi] at h ⊢
        cases hr : scan running item more fuel (pos + len) with
        | error e =>
          rw [hr] at h
          cases h
        | ok ys =>
          rw [ih hr (by omega), ← hr]
          exact h

/-- each record that is visited can be read and has a length -/
inductive Framed (item : Nat → Except ε (α × Nat)) (more : Nat → Bool) : Nat → Prop
  | stop {pos : Nat} (h : more pos = false) : Framed item more pos
  | next {pos len : Nat} {x : α} (h : more pos = true) (hi : item pos = .ok (x, len))
      (hlen : 0 < len) (hrest : Framed item more (pos + len)) : Framed item more pos

/-- a record without length is visited for ever -/
theorem scan_stuck (h : more pos = true) (hi : item pos = .ok (x, 0)) :
    scan running item more fuel pos = .error running := by
  induction fuel with
  | zero => rfl
  | succ fuel ih =>
    rw [scan_next h hi, Nat.add_zero, ih]
    rfl

theorem framed_of_scan (h : scan running item more fuel pos = .ok xs) :
    Framed item more pos := by
  induction fuel generalizing pos xs with
  | zero => cases h
  | succ fuel ih =>
    cases hm : more pos with
    | false => exact .stop hm
    | true =>
      cases hi : item pos with
      | error e =>
        rw [scan_error hm hi] at h
        cases h
      | ok r =>
        obtain ⟨x, len⟩ := r
        rcases Nat.eq_zero_or_pos len with rfl | hlen
        · rw [scan_stuck hm hi] at h
          cases h
        · apply Framed.next hm hi hlen
          rw [scan_next hm hi] at h
          cases hr : scan running item more fuel (pos + len) with
          | error e =>
            rw [hr] at h
            cases h
          | ok ys => exact ih hr

theorem scan_of_framed (running : ε) (h : Framed item more pos) :
    ∃ fuel xs, scan running item more fuel pos = .ok xs := by
  induction h with
  | stop h => exact ⟨1, [], scan_stop h⟩
  | @next pos len x h hi _ _ ih =>
    obtain ⟨fuel, xs, hrest⟩ := ih
    refine ⟨fuel + 1, x :: xs, ?_⟩
    rw [scan_next h hi, hrest]
    rfl

theorem scan_cases (hitem : ∀ pos e', item pos = .error e' → e' = e) (fuel pos : Nat) :
    (∃ xs, scan running item more fuel pos = .ok xs) ∨
      scan running item more fuel pos = .error running ∨
      scan running item more fuel pos = .error e := by
  induction fuel generalizing pos with
  | zero => exact Or.inr (Or.inl rfl)
  | succ fuel ih =>
    cases hm : more pos with
    | false => exact Or.inl ⟨[], scan_stop hm⟩
    | true =>
      cases hi : item pos with
      | error e' =>
        rw [scan_error hm hi, hitem pos e' hi]
        exact Or.inr (Or.inr rfl)
      | ok r =>
        obtain ⟨x, len⟩ := r
        rw [scan_next hm hi]
        rcases ih (pos + len) with ⟨xs, hr⟩ | hr | hr
        · rw [hr]
          exact Or.inl ⟨x :: xs, rfl⟩
        · rw [hr]
          exact Or.inr (Or.inl rfl)
        · rw [hr]
          exact Or.inr (Or.inr rfl)

theorem scan_cases_of_framed (running : ε) (h : Framed item more pos) (fuel : Nat) :
    (∃ xs, scan running item more fuel pos = .ok xs) ∨
      scan running item more fuel pos = .error running := by
  induction h generalizing fuel with
  | stop h =>
    cases fuel with
    | zero => exact Or.inr rfl
    | succ fuel => exact Or.inl ⟨[], scan_stop h⟩
  | @next pos len x h hi _ _ ih =>
    cases fuel with
    | zero => exact Or.inr rfl
    | succ fuel =>
      rw [scan_next h hi]
      rcases ih fuel with ⟨xs, hr⟩ | hr
      · rw [hr]
        exact Or.inl ⟨x :: xs, rfl⟩
      · rw [hr]
        exact Or.inr rfl

/-- the loop ends, and no record that cannot be read is visited -/
theorem scan_safe_iff (running : ε) (hitem : ∀ pos e', item pos = .error e' → e' = e) (hne : e ≠ running) :
    ((∃ fuel, scan running item more fuel pos ≠ .error running) ∧
        ∀ fuel, scan running item more fuel pos ≠ .error e)
      ↔ Framed item more pos := by
  constructor
  · intro h
    obtain ⟨⟨fuel, hends⟩, hreads⟩ := h
    rcases scan_cases hitem fuel pos with ⟨xs, hr⟩ | hr | hr
    · exact framed_of_scan hr
    · exact absurd hr hends
    · exact absurd hr (hreads fuel)
  · intro h
    constructor
    · obtain ⟨fuel, xs, hr⟩ := scan_of_framed running h
      refine ⟨fuel, ?_⟩
      rw [hr]
      intro h'
      cases h'
    · intro fuel hr
      rcases scan_cases_of_framed running h fuel with ⟨xs, h'⟩ | h'
      · rw [hr] at h'
        cases h'
      · rw [hr] at h'
        exact hne (Except.error.inj h')

/-- records that were written one behind the other are found, if each of them is -/
theorem scan_records {bytes : β → Bytes} {f : β → α} {rs : List β} {buf front : Bytes}
    (h : buf = front ++ rs.flatMap bytes) (hmore : ∀ pos, more pos = decide (pos < buf.length))
    (hitem : ∀ before r after, buf = before ++ (bytes r ++ after) →
      0 < (bytes r).length ∧ item before.length = .ok (f r, (bytes r).length)) :
    scan running item more (rs.length + 1) front.length = .ok (rs.map f) := by
  induction rs generalizing front with
  | nil =>
    apply scan_stop
    rw [hmore, h]
    simp
  | cons r rs ih =>
    have hsplit : buf = front ++ (bytes r ++ rs.flatMap bytes) := by
      rw [h, List.flatMap_cons]
    have hnext : buf = (front ++ bytes r) ++ rs.flatMap bytes := by
      rw [hsplit, List.append_assoc]
    obtain ⟨hpos, hr⟩ := hitem front r (rs.flatMap bytes) hsplit
    have hm : more front.length = true := by
      rw [hmore, hsplit]
      simp only [List.length_append, decide_eq_true_eq]
      omega
    rw [List.length_cons, scan_next hm hr, ← List.length_append, ih hnext]
    rfl

end

end Lib.Buffer
