import Clues.Tracee.Structs

/-!
# What a failed read leaves behind

`Tracee::readStruct()` and `Tracee::readStructs()` write each word into the destination as it is
read.

* `fillDataInto`      `Tracee::fillData()` with what has been written when a word cannot be read;
* `readStructInto`    `Tracee::readStruct()` with the destination afterwards;
* `Structs`           a `std::vector` of structs, the destination of `readStructsInto`;
* `Unchanged`         what is read before the failure is what the destination holds:
                      `readStructInto_failed_iff`, `readStructsInto_failed_iff`.
-/

namespace Clues

/-- `Tracee::fillData()`: the state of the filler also if it fails -/
def fillDataInto {σ : Type} (m : Memory) (filler : List UInt8 → σ → Bool × σ) :
    Nat → UInt64 → σ → σ × Except Exc Unit
  | 0, _, s => (s, .error .outOfFuel)
  | fuel + 1, a, s =>
    match getData m a with
    | .error e => (s, .error e)
    | .ok word =>
      match filler word s with
      | (true, s) => fillDataInto m filler fuel (a + 8) s
      | (false, s) => (s, .ok ())

/-- `Tracee::readStruct()`: the struct `out` afterwards, and the result -/
def readStructInto (m : Memory) (a : UInt64) (out : List UInt8) (maxBytes : Nat) :
    List UInt8 × Except Exc Bool :=
  if a = 0 then (out, .ok false)
  else
    match fillDataInto m fillObject (maxBytes + 1) a (.ok { rest := out, left := maxBytes }) with
    | (.error e, _) => (out, .error e)
    | (.ok s, .ok ()) => (s.front ++ s.rest, .ok true)
    | (.ok s, .error (.api e)) =>
      (s.front ++ s.rest, if e = Errno.ioError then .ok false else .error (.api e))
    | (.ok s, .error e) => (s.front ++ s.rest, .error e)

/-- the loop of `Tracee::readStructs()` -/
def readStructsLoop (m : Memory) (size : Nat) :
    UInt64 → List (List UInt8) → List (List UInt8) × Except Exc Bool
  | _, [] => ([], .ok true)
  | a, out :: vec =>
    match readStructInto m a out size with
    | (out, .ok true) =>
      let rest := readStructsLoop m size (a + UInt64.ofNat size) vec
      (out :: rest.1, rest.2)
    | (out, result) => (out :: vec, result)

/-! ## the conditions -/

/-- the pointer is null, or a word of the struct cannot be read -/
def Unreadable (m : Memory) (a : UInt64) (n : Nat) : Prop :=
  a = 0 ∨ bytesAt m a (fetched n) = none

/-- the pointer is null, or the words before one that cannot be read are in the destination -/
def Unchanged (m : Memory) (a : UInt64) (out : List UInt8) (n : Nat) : Prop :=
  a = 0 ∨ ∃ j, wordSize * j < fetched n ∧
    bytesAt m a (wordSize * j) = some (out.take (wordSize * j)) ∧
    bytesAt m (a + UInt64.ofNat (wordSize * j)) wordSize = none

/-- one of the structs cannot be read -/
def StructsUnreadable (m : Memory) (size : Nat) : UInt64 → List (List UInt8) → Prop
  | _, [] => False
  | a, _ :: vec => Unreadable m a size ∨ StructsUnreadable m size (a + UInt64.ofNat size) vec

/-- the structs before one that cannot be read are in the vector, and what can be read of that one
is in its element -/
def StructsUnchanged (m : Memory) (size : Nat) : UInt64 → List (List UInt8) → Prop
  | _, [] => False
  | a, out :: vec => Unchanged m a out size ∨
    ¬ Unreadable m a size ∧ bytesAt m a size = some out ∧
      StructsUnchanged m size (a + UInt64.ofNat size) vec

section
variable {m : Memory} {a : UInt64}

theorem fillData_eq_into {σ : Type} (f : List UInt8 → σ → Bool × σ) (fuel : Nat) (s : σ) :
    fillData m f fuel a s =
      match fillDataInto m f fuel a s with
      | (s, .ok ()) => .ok s
      | (_, .error e) => .error e := by
  induction fuel generalizing a s with
  | zero => rfl
  | succ fuel ih =>
    unfold fillData fillDataInto
    cases getData m a with
    | error e => rfl
    | ok word =>
      dsimp only
      rcases f word s with ⟨more, s'⟩
      cases more with
      | true => exact ih s'
      | false => rfl

/-! ## one word -/

theorem fillObject_last {word : List UInt8} {s : Object} (hleft : s.left ≤ wordSize)
    (hroom : s.left ≤ s.rest.length) :
    fillObject word (.ok s)
      = (false, .ok ⟨s.front ++ word.take s.left, s.rest.drop s.left, 0⟩) := by
  have hmin : min wordSize s.left = s.left := Nat.min_eq_right hleft
  unfold fillObject
  simp only [hmin, if_pos hroom, Nat.sub_self]
  rfl

theorem fillObject_length {word : List UInt8} {s s' : Object} {more : Bool}
    (hw : word.length = wordSize) (h : fillObject word (.ok s) = (more, .ok s')) :
    s'.front.length + s'.rest.length = s.front.length + s.rest.length := by
  unfold fillObject at h
  dsimp only at h
  split at h
  · rename_i hroom
    cases h
    simp only [List.length_append, List.length_take, List.length_drop, hw]
    omega
  · cases h

theorem fillObject_error {word : List UInt8} {s : Object} {more : Bool} {e : Exc}
    (h : fillObject word (.ok s) = (more, .error e)) : more = false := by
  unfold fillObject at h
  dsimp only at h
  split at h
  · cases h
  · cases h
    rfl

/-- nothing more is read when the object is full -/
theorem fillDataInto_full (fuel : Nat) {s : Object} {e : Exc} {r : Except Exc Unit}
    (h : fillDataInto m fillObject fuel a (.ok s) = (.error e, r)) : r = .ok () := by
  induction fuel generalizing a s with
  | zero => cases h
  | succ fuel ih =>
    unfold fillDataInto getData at h
    cases hw : bytesAt m a wordSize with
    | none =>
      rw [hw] at h
      cases h
    | some word =>
      simp only [hw] at h
      rcases hf : fillObject word (.ok s) with ⟨more, x⟩
      rw [hf] at h
      cases x with
      | error e =>
        obtain rfl := fillObject_error hf
        cases h
        rfl
      | ok s1 =>
        cases more with
        | false => cases h
        | true => exact ih h

/-! ## the words before a failure -/

theorem fetched_step {n : Nat} (h : wordSize < n) :
    fetched n = wordSize + fetched (n - wordSize) := by
  have hpos : 0 < n - wordSize := by omega
  rw [← fetched_add hpos]
  congr 1
  omega

theorem word_succ (a : UInt64) (j : Nat) :
    a + UInt64.ofNat (wordSize * (j + 1)) = a + 8 + UInt64.ofNat (wordSize * j) := by
  have h8 : (8 : UInt64) = UInt64.ofNat wordSize := rfl
  rw [h8, ofNat_add_assoc, Nat.mul_succ, Nat.add_comm wordSize]

/-- word `j` cannot be read, and `s'` is the object `s` with the words before it -/
def StopsAt (m : Memory) (a : UInt64) (s s' : Object) : Prop :=
  ∃ j bs, wordSize * j < fetched s.left ∧ wordSize * j ≤ s.rest.length ∧
    bytesAt m a (wordSize * j) = some bs ∧
    bytesAt m (a + UInt64.ofNat (wordSize * j)) wordSize = none ∧
    s' = ⟨s.front ++ bs, s.rest.drop (wordSize * j), s.left - wordSize * j⟩

section
variable {s s' : Object} {word : List UInt8}

theorem word_zero (a : UInt64) : a + UInt64.ofNat (wordSize * 0) = a := UInt64.add_zero a

theorem stopsAt_here (hw : bytesAt m a wordSize = none) : StopsAt m a s s' ↔ s' = s := by
  have hsame : (⟨s.front ++ [], s.rest.drop (wordSize * 0), s.left - wordSize * 0⟩ : Object) = s := by
    rw [List.append_nil]
    rfl
  constructor
  · rintro ⟨j, bs, -, -, hbs, -, rfl⟩
    cases j with
    | zero =>
      cases hbs
      exact hsame
    | succ j =>
      rw [Nat.mul_succ, Nat.add_comm, bytesAt_none_add _ hw] at hbs
      cases hbs
  · rintro rfl
    refine ⟨0, [], ?_, Nat.zero_le _, rfl, ?_, hsame.symm⟩
    · exact lt_of_lt_of_le (by decide) (le_max_left wordSize _)
    · rwa [word_zero]

/-- the first word can be read, and it is the last one or does not fit -/
theorem not_stopsAt (s' : Object) (hw : bytesAt m a wordSize = some word)
    (h : s.left ≤ wordSize ∨ s.rest.length < wordSize) : ¬ StopsAt m a s s' := by
  rintro ⟨j, bs, hj, hle, -, hnone, -⟩
  cases j with
  | zero =>
    rw [word_zero, hw] at hnone
    cases hnone
  | succ j =>
    rw [Nat.mul_succ] at hj hle
    rcases h with h | h
    · rw [fetched_of_le h] at hj
      omega
    · omega

theorem stopsAt_next (hw : bytesAt m a wordSize = some word) (hleft : wordSize < s.left)
    (hroom : wordSize ≤ s.rest.length) :
    StopsAt m a s s' ↔ StopsAt m (a + 8)
      ⟨s.front ++ word, s.rest.drop wordSize, s.left - wordSize⟩ s' := by
  have hbytes : ∀ j, bytesAt m a (wordSize * (j + 1))
      = (bytesAt m (a + 8) (wordSize * j)).map (word ++ ·) := by
    intro j
    rw [Nat.mul_succ, Nat.add_comm, bytesAt_add, hw]
    rfl
  have hobject : ∀ j bs, (⟨s.front ++ (word ++ bs), s.rest.drop (wordSize * (j + 1)),
      s.left - wordSize * (j + 1)⟩ : Object)
        = ⟨s.front ++ word ++ bs, (s.rest.drop wordSize).drop (wordSize * j),
          s.left - wordSize - wordSize * j⟩ := by
    intro j bs
    rw [List.append_assoc, List.drop_drop, Nat.mul_succ, Nat.add_comm wordSize, Nat.sub_sub,
      Nat.add_comm wordSize]
  have hlen : (s.rest.drop wordSize).length = s.rest.length - wordSize := List.length_drop
  constructor
  · rintro ⟨j, bs, hj, hle, hbs, hnone, rfl⟩
    cases j with
    | zero =>
      rw [word_zero, hw] at hnone
      cases hnone
    | succ j =>
      rw [hbytes] at hbs
      obtain ⟨rest, hrest, rfl⟩ := Option.map_eq_some_iff.mp hbs
      rw [fetched_step hleft, Nat.mul_succ] at hj
      rw [Nat.mul_succ] at hle
      rw [word_succ] at hnone
      refine ⟨j, rest, ?_, ?_, hrest, hnone, hobject j rest⟩
      · show wordSize * j < fetched (s.left - wordSize)
        omega
      · show wordSize * j ≤ (s.rest.drop wordSize).length
        omega
  · rintro ⟨j, rest, hj, hle, hrest, hnone, rfl⟩
    change wordSize * j < fetched (s.left - wordSize) at hj
    change wordSize * j ≤ (s.rest.drop wordSize).length at hle
    refine ⟨j + 1, word ++ rest, ?_, ?_, ?_, ?_, (hobject j rest).symm⟩
    · rw [fetched_step hleft, Nat.mul_succ]
      omega
    · rw [Nat.mul_succ]
      omega
    · rw [hbytes, hrest]
      rfl
    · rw [word_succ]
      exact hnone

/-- a read fails where a word cannot be read, with the words before it in the object -/
theorem fillDataInto_failed_iff (fuel : Nat) {e : Exc} (hfuel : s.left < fuel) :
    fillDataInto m fillObject fuel a (.ok s) = (.ok s', .error e)
      ↔ e = .api Errno.ioError ∧ StopsAt m a s s' := by
  induction fuel generalizing a s with
  | zero => exact absurd hfuel (Nat.not_lt_zero _)
  | succ fuel ih =>
    unfold fillDataInto getData
    cases hw : bytesAt m a wordSize with
    | none =>
      rw [stopsAt_here hw]
      constructor
      · intro h
        cases h
        exact ⟨rfl, rfl⟩
      · rintro ⟨rfl, rfl⟩
        rfl
    | some word =>
      by_cases hlast : s.left ≤ wordSize
      · have hno := not_stopsAt s' hw (Or.inl hlast)
        by_cases hroom : s.left ≤ s.rest.length
        · simp only [fillObject_last hlast hroom]
          exact iff_of_false (fun h => by cases h) fun h => hno h.2
        · have hfull : s.rest.length < min wordSize s.left := by omega
          simp only [fillObject_full hfull]
          exact iff_of_false (fun h => by cases h) fun h => hno h.2
      · have hlt := Nat.lt_of_not_le hlast
        by_cases hroom : wordSize ≤ s.rest.length
        · have hfuel' : s.left - wordSize < fuel := by
            unfold wordSize at *
            omega
          have htake := List.take_of_length_le (bytesAt_length hw).le
          simp only [fillObject_room hlt hroom]
          rw [htake, stopsAt_next hw hlt hroom]
          exact ih hfuel'
        · have hfull : s.rest.length < min wordSize s.left := by omega
          have hno := not_stopsAt s' hw (Or.inr (Nat.lt_of_not_le hroom))
          simp only [fillObject_full hfull]
          exact iff_of_false (fun h => by cases h) fun h => hno h.2

/-- a read succeeds if the words can be read, with the bytes in the object -/
theorem fillDataInto_ok_iff (fuel : Nat) (hfuel : s.left < fuel) (hroom : s.left ≤ s.rest.length) :
    fillDataInto m fillObject fuel a (.ok s) = (.ok s', .ok ()) ↔
      (bytesAt m a (fetched s.left)).isSome ∧
        ∃ bs, bytesAt m a s.left = some bs ∧ s' = ⟨s.front ++ bs, s.rest.drop s.left, 0⟩ := by
  induction fuel generalizing a s with
  | zero => exact absurd hfuel (Nat.not_lt_zero _)
  | succ fuel ih =>
    unfold fillDataInto getData
    cases hw : bytesAt m a wordSize with
    | none =>
      obtain ⟨k, hk⟩ := Nat.exists_eq_add_of_le (le_max_left wordSize (words s.left))
      have hnone : bytesAt m a (fetched s.left) = none := by
        unfold fetched
        rw [hk, bytesAt_none_add k hw]
      rw [hnone]
      exact iff_of_false (fun h => by cases h) fun h => by cases h.1
    | some word =>
      by_cases hlast : s.left ≤ wordSize
      · obtain ⟨k, hk⟩ := Nat.exists_eq_add_of_le hlast
        have hbytes : bytesAt m a s.left = some (word.take s.left) := by
          rw [hk] at hw
          exact (bytesAt_split hw).1
        simp only [fillObject_last hlast hroom]
        rw [fetched_of_le hlast, hw, hbytes]
        constructor
        · intro h
          cases h
          exact ⟨rfl, _, rfl, rfl⟩
        · rintro ⟨-, bs, hbs, rfl⟩
          cases hbs
          rfl
      · have hlt := Nat.lt_of_not_le hlast
        obtain ⟨k, hk⟩ := Nat.exists_eq_add_of_le hlt.le
        have hfuel' : s.left - wordSize < fuel := by
          unfold wordSize at *
          omega
        have hroom' : wordSize ≤ s.rest.length := by omega
        have hdrop : s.left - wordSize ≤ (s.rest.drop wordSize).length := by
          rw [List.length_drop]
          omega
        have hbytes : bytesAt m a s.left
            = (bytesAt m (a + 8) (s.left - wordSize)).map (word ++ ·) := by
          rw [hk, Nat.add_sub_cancel_left, bytesAt_add, hw]
          rfl
        have htake := List.take_of_length_le (bytesAt_length hw).le
        have hnext : a + UInt64.ofNat wordSize = a + 8 := rfl
        simp only [fillObject_room hlt hroom']
        rw [htake, fetched_step hlt, bytesAt_isSome_add _ hw, hnext, hbytes,
          ih (s := ⟨s.front ++ word, s.rest.drop wordSize, s.left - wordSize⟩) hfuel' hdrop]
        refine and_congr_right fun _ => ?_
        have hobject : ∀ rest, (⟨s.front ++ word ++ rest,
            (s.rest.drop wordSize).drop (s.left - wordSize), 0⟩ : Object)
              = ⟨s.front ++ (word ++ rest), s.rest.drop s.left, 0⟩ := by
          intro rest
          rw [List.append_assoc, List.drop_drop, Nat.add_sub_cancel' hlt.le]
        constructor
        · rintro ⟨rest, hrest, rfl⟩
          change bytesAt m (a + 8) (s.left - wordSize) = some rest at hrest
          refine ⟨word ++ rest, ?_, hobject rest⟩
          rw [hrest]
          rfl
        · rintro ⟨bs, hbs, rfl⟩
          obtain ⟨rest, hrest, rfl⟩ := Option.map_eq_some_iff.mp hbs
          exact ⟨rest, hrest, (hobject rest).symm⟩

end

/-! ## a struct -/

section
variable {out dest : List UInt8} {n : Nat}

theorem readStructInto_false_iff (ha : a ≠ 0) :
    readStructInto m a out n = (dest, .ok false) ↔
      ∃ s, StopsAt m a { rest := out, left := n } s ∧ s.front ++ s.rest = dest := by
  have hfail : ∀ s e, fillDataInto m fillObject (n + 1) a (.ok { rest := out, left := n })
      = (.ok s, .error e) ↔ e = .api Errno.ioError ∧ StopsAt m a { rest := out, left := n } s :=
    fun s e => fillDataInto_failed_iff (n + 1) (Nat.lt_succ_self n)
  unfold readStructInto
  rw [if_neg ha]
  rcases hd : fillDataInto m fillObject (n + 1) a (.ok { rest := out, left := n }) with ⟨x, r⟩
  rw [hd] at hfail
  cases x with
  | error e =>
    refine iff_of_false (fun h => by cases h) ?_
    rintro ⟨s, hs, -⟩
    cases (hfail s _).mpr ⟨rfl, hs⟩
  | ok s =>
    cases r with
    | ok u =>
      refine iff_of_false (fun h => by cases h) ?_
      rintro ⟨s', hs, -⟩
      cases (hfail s' _).mpr ⟨rfl, hs⟩
    | error e =>
      obtain ⟨rfl, hs⟩ := (hfail s e).mp rfl
      constructor
      · intro h
        exact ⟨s, hs, congrArg Prod.fst h⟩
      · rintro ⟨s', hs', rfl⟩
        cases (hfail s' _).mpr ⟨rfl, hs'⟩
        rfl

theorem readStructInto_failed_iff :
    readStructInto m a out n = (out, .ok false) ↔ Unchanged m a out n := by
  unfold Unchanged
  by_cases ha : a = 0
  · subst ha
    exact iff_of_true rfl (Or.inl rfl)
  rw [readStructInto_false_iff ha]
  constructor
  · rintro ⟨_, ⟨j, bs, hj, hle, hbs, hnone, rfl⟩, hout⟩
    refine Or.inr ⟨j, hj, ?_, hnone⟩
    change ([] ++ bs) ++ out.drop (wordSize * j) = out at hout
    rw [hbs, ← hout, List.nil_append, List.take_left' (bytesAt_length hbs)]
  · rintro (h | ⟨j, hj, hbs, hnone⟩)
    · exact absurd h ha
    · have hle : wordSize * j ≤ out.length := by
        have hlen := bytesAt_length hbs
        rw [List.length_take] at hlen
        omega
      exact ⟨_, ⟨j, _, hj, hle, hbs, hnone, rfl⟩, List.take_append_drop _ _⟩

theorem readStructInto_true_iff (dest : List UInt8) (hn : n ≤ out.length) :
    readStructInto m a out n = (dest, .ok true) ↔
      ¬ Unreadable m a n ∧ ∃ bs, bytesAt m a n = some bs ∧ dest = bs ++ out.drop n := by
  have hread : ∀ s, fillDataInto m fillObject (n + 1) a (.ok { rest := out, left := n })
      = (.ok s, .ok ()) ↔ (bytesAt m a (fetched n)).isSome ∧
        ∃ bs, bytesAt m a n = some bs ∧ s = ⟨[] ++ bs, out.drop n, 0⟩ :=
    fun s => fillDataInto_ok_iff (n + 1) (Nat.lt_succ_self n) hn
  unfold readStructInto Unreadable
  by_cases ha : a = 0
  · rw [if_pos ha]
    exact iff_of_false (fun h => by cases h) fun h => h.1 (Or.inl ha)
  rw [if_neg ha, or_iff_right ha, ← ne_eq, Option.ne_none_iff_isSome]
  rcases hd : fillDataInto m fillObject (n + 1) a (.ok { rest := out, left := n }) with ⟨x, r⟩
  rw [hd] at hread
  have hno : ∀ {y : List UInt8 × Except Exc Bool}, (∀ s, (x, r) ≠ (.ok s, .ok ())) →
      y.2 ≠ .ok true → (y = (dest, .ok true) ↔ (bytesAt m a (fetched n)).isSome ∧
        ∃ bs, bytesAt m a n = some bs ∧ dest = bs ++ out.drop n) := by
    intro y hx hy
    refine iff_of_false (fun h => hy (congrArg Prod.snd h)) ?_
    rintro ⟨hsome, bs, hbs, -⟩
    exact hx _ ((hread _).mpr ⟨hsome, bs, hbs, rfl⟩)
  cases x with
  | error e => exact hno (fun s h => by cases h) (fun h => by cases h)
  | ok s =>
    cases r with
    | error e =>
      obtain ⟨rfl, -⟩ := (fillDataInto_failed_iff (n + 1) (Nat.lt_succ_self n)).mp hd
      exact hno (fun s h => by cases h) (fun h => by cases h)
    | ok u =>
      obtain ⟨hsome, bs, hbs, rfl⟩ := (hread s).mp rfl
      constructor
      · intro h
        exact ⟨hsome, bs, hbs, (congrArg Prod.fst h).symm⟩
      · rintro ⟨-, bs', hbs', rfl⟩
        rw [hbs] at hbs'
        cases hbs'
        rfl

/-- the result is that of the function without the destination -/
theorem readStruct_eq : Memory.readStruct m a out n =
    match readStructInto m a out n with
    | (dest, .ok true) => .ok (some dest)
    | (_, .ok false) => .ok none
    | (_, .error e) => .error e := by
  unfold Memory.readStruct readStructInto
  split_ifs with ha
  · rfl
  dsimp only
  rw [fillData_eq_into]
  rcases hd : fillDataInto m fillObject (n + 1) a (.ok { rest := out, left := n }) with ⟨x, r⟩
  cases r with
  | ok u => cases x <;> rfl
  | error e =>
    cases x with
    | error e' => cases fillDataInto_full (n + 1) hd
    | ok s =>
      cases e with
      | api e =>
        by_cases he : e = Errno.ioError <;> simp only [he] <;> rfl
      | _ => rfl

/-- with room for the bytes there are two results -/
theorem fillDataInto_room (fuel : Nat) {s : Object} (hfuel : s.left < fuel)
    (hroom : s.left ≤ s.rest.length) : ∃ s' r,
      fillDataInto m fillObject fuel a (.ok s) = (.ok s', r) ∧
        (r = .ok () ∨ r = .error (.api Errno.ioError)) := by
  induction fuel generalizing a s with
  | zero => exact absurd hfuel (Nat.not_lt_zero _)
  | succ fuel ih =>
    unfold fillDataInto getData
    cases hw : bytesAt m a wordSize with
    | none => exact ⟨s, _, rfl, Or.inr rfl⟩
    | some word =>
      by_cases hlast : s.left ≤ wordSize
      · simp only [fillObject_last hlast hroom]
        exact ⟨_, _, rfl, Or.inl rfl⟩
      · have hlt := Nat.lt_of_not_le hlast
        have hroom' : wordSize ≤ s.rest.length := by omega
        have hdrop : s.left - wordSize ≤ (s.rest.drop wordSize).length := by
          rw [List.length_drop]
          omega
        have hfuel' : s.left - wordSize < fuel := by
          unfold wordSize at *
          omega
        simp only [fillObject_room hlt hroom']
        exact ih (s := ⟨s.front ++ word.take wordSize, s.rest.drop wordSize, s.left - wordSize⟩)
          hfuel' hdrop

/-- there is a result for each struct that is large enough -/
theorem readStructInto_result (hn : n ≤ out.length) :
    ∃ b, (readStructInto m a out n).2 = .ok b := by
  unfold readStructInto
  split_ifs with ha
  · exact ⟨false, rfl⟩
  obtain ⟨s, r, hd, rfl | rfl⟩ := fillDataInto_room (m := m) (a := a) (n + 1)
    (s := { rest := out, left := n }) (Nat.lt_succ_self n) hn
  · rw [hd]
    exact ⟨true, rfl⟩
  · rw [hd]
    exact ⟨false, rfl⟩

theorem readStructInto_unreadable (hn : n ≤ out.length) (h : Unreadable m a n) :
    (readStructInto m a out n).2 = .ok false := by
  have htrue := fun dest => readStructInto_true_iff (m := m) (a := a) dest hn
  obtain ⟨b, hb⟩ := readStructInto_result (m := m) (a := a) hn
  cases b with
  | false => exact hb
  | true => exact absurd h ((htrue (readStructInto m a out n).1).mp (Prod.ext rfl hb)).1

/-- the struct keeps its size -/
theorem fillDataInto_length (fuel : Nat) {s s' : Object} {r : Except Exc Unit}
    (h : fillDataInto m fillObject fuel a (.ok s) = (.ok s', r)) :
    s'.front.length + s'.rest.length = s.front.length + s.rest.length := by
  induction fuel generalizing a s with
  | zero =>
    cases h
    rfl
  | succ fuel ih =>
    unfold fillDataInto getData at h
    cases hw : bytesAt m a wordSize with
    | none =>
      rw [hw] at h
      cases h
      rfl
    | some word =>
      simp only [hw] at h
      rcases hf : fillObject word (.ok s) with ⟨more, x⟩
      rw [hf] at h
      cases x with
      | error e =>
        obtain rfl := fillObject_error hf
        cases h
      | ok s1 =>
        have hlen := fillObject_length (bytesAt_length hw) hf
        cases more with
        | false =>
          cases h
          exact hlen
        | true => exact (ih h).trans hlen

theorem readStructInto_length : (readStructInto m a out n).1.length = out.length := by
  unfold readStructInto
  split_ifs with ha
  · rfl
  rcases hd : fillDataInto m fillObject (n + 1) a (.ok { rest := out, left := n }) with ⟨x, r⟩
  cases x with
  | error e => rfl
  | ok s =>
    have hlen : (s.front ++ s.rest).length = out.length := by
      rw [List.length_append, fillDataInto_length (n + 1) hd]
      exact Nat.zero_add _
    cases r with
    | ok u => exact hlen
    | error e => cases e <;> exact hlen

end

/-! ## a vector of structs -/

/-- a `std::vector` of structs -/
@[ext]
structure Structs (size : Nat) where
  elements : List (List UInt8)
  sized : ∀ e ∈ elements, e.length = size

theorem readStructsLoop_sized {size : Nat} {vec : List (List UInt8)}
    (h : ∀ e ∈ vec, e.length = size) : ∀ e ∈ (readStructsLoop m size a vec).1, e.length = size := by
  induction vec generalizing a with
  | nil => exact h
  | cons out vec ih =>
    have hout : (readStructInto m a out size).1.length = size :=
      readStructInto_length.trans (h out List.mem_cons_self)
    have hvec := fun e he => h e (List.mem_cons_of_mem out he)
    unfold readStructsLoop
    rcases hr : readStructInto m a out size with ⟨dest, r⟩
    rw [hr] at hout
    intro e he
    split at he
    · rename_i heq
      cases heq
      rcases List.mem_cons.mp he with rfl | he
      · exact hout
      · exact ih hvec e he
    · rename_i heq
      cases heq
      rcases List.mem_cons.mp he with rfl | he
      · exact hout
      · exact hvec e he

theorem readStructsLoop_length {size : Nat} (vec : List (List UInt8)) :
    (readStructsLoop m size a vec).1.length = vec.length := by
  induction vec generalizing a with
  | nil => rfl
  | cons out vec ih =>
    unfold readStructsLoop
    split
    · exact congrArg Nat.succ ih
    · rfl

/-- there is a result for each vector -/
theorem readStructsLoop_result {size : Nat} {vec : List (List UInt8)}
    (h : ∀ e ∈ vec, e.length = size) : ∃ b, (readStructsLoop m size a vec).2 = .ok b := by
  induction vec generalizing a with
  | nil => exact ⟨true, rfl⟩
  | cons out vec ih =>
    obtain ⟨b, hb⟩ := readStructInto_result (m := m) (a := a) (h out List.mem_cons_self).ge
    unfold readStructsLoop
    split
    · exact ih fun e he => h e (List.mem_cons_of_mem out he)
    · rename_i heq
      rw [heq] at hb
      exact ⟨b, hb⟩

/-- `Tracee::readStructs()`: the vector afterwards, and the result -/
def readStructsInto {size : Nat} (m : Memory) (a : UInt64) (vec : Structs size) :
    Structs size × Except Exc Bool :=
  (⟨(readStructsLoop m size a vec.elements).1, readStructsLoop_sized vec.sized⟩,
    (readStructsLoop m size a vec.elements).2)

theorem readStructsLoop_failed_iff {size : Nat} {vec : List (List UInt8)}
    (h : ∀ e ∈ vec, e.length = size) :
    readStructsLoop m size a vec = (vec, .ok false) ↔ StructsUnchanged m size a vec := by
  induction vec generalizing a with
  | nil => exact iff_of_false (fun h => by cases h) id
  | cons out vec ih =>
    have hlen := h out List.mem_cons_self
    have hvec := ih (a := a + UInt64.ofNat size) fun e he => h e (List.mem_cons_of_mem out he)
    have htrue := fun dest => readStructInto_true_iff (m := m) (a := a) dest hlen.ge
    have hdrop : ∀ bs : List UInt8, bs ++ out.drop size = bs := by
      intro bs
      rw [List.drop_of_length_le hlen.le, List.append_nil]
    unfold readStructsLoop StructsUnchanged
    rw [← readStructInto_failed_iff, ← hvec]
    rcases hr : readStructInto m a out size with ⟨dest, r⟩
    rw [hr] at htrue
    have hno : r ≠ .ok true → ((dest :: vec, r) = (out :: vec, .ok false) ↔
        (dest, r) = (out, .ok false) ∨ ¬ Unreadable m a size ∧ bytesAt m a size = some out ∧
          readStructsLoop m size (a + UInt64.ofNat size) vec = (vec, .ok false)) := by
      intro hr
      rw [or_iff_left]
      · simp only [Prod.mk.injEq, List.cons.injEq, and_true]
      · rintro ⟨hread, hbytes, -⟩
        have hd := (htrue out).mpr ⟨hread, out, hbytes, (hdrop out).symm⟩
        exact hr (congrArg Prod.snd hd)
    cases r with
    | error e => exact hno fun h => by cases h
    | ok b =>
      cases b with
      | false => exact hno fun h => by cases h
      | true =>
        obtain ⟨hread, bs, hbs, hdest⟩ := (htrue dest).mp rfl
        rw [hdrop] at hdest
        subst hdest
        rw [or_iff_right (by intro h; cases h), and_iff_right hread, hbs]
        simp only [Prod.ext_iff, List.cons.injEq, Option.some.injEq]
        exact and_assoc

theorem readStructsLoop_unreadable {size : Nat} {vec : List (List UInt8)}
    (h : ∀ e ∈ vec, e.length = size) (hno : StructsUnreadable m size a vec) :
    (readStructsLoop m size a vec).2 = .ok false := by
  induction vec generalizing a with
  | nil => exact hno.elim
  | cons out vec ih =>
    have hlen := h out List.mem_cons_self
    have hfirst := readStructInto_unreadable (m := m) (a := a) hlen.ge
    have htrue := fun dest => readStructInto_true_iff (m := m) (a := a) dest hlen.ge
    unfold readStructsLoop
    rcases hr : readStructInto m a out size with ⟨dest, r⟩
    rw [hr] at hfirst htrue
    split
    · rename_i heq
      cases heq
      rcases hno with hno | hno
      · exact absurd hno ((htrue dest).mp rfl).1
      · exact ih (fun e he => h e (List.mem_cons_of_mem out he)) hno
    · rename_i hne heq
      cases heq
      by_cases hu : Unreadable m a size
      · exact hfirst hu
      · exfalso
        obtain ⟨bs, hbs⟩ : ∃ bs, bytesAt m a size = some bs := by
          unfold Unreadable at hu
          obtain ⟨-, hsome⟩ := not_or.mp hu
          obtain ⟨k, hk⟩ := Nat.exists_eq_add_of_le (show size ≤ fetched size by
            unfold fetched words wordSize
            omega)
          apply Option.ne_none_iff_exists'.mp
          intro hnone
          exact hsome (by rw [hk, bytesAt_none_add k hnone])
        have hall := (readStructInto_true_iff (m := m) (a := a) _ hlen.ge).mpr ⟨hu, bs, hbs, rfl⟩
        rw [hr] at hall
        cases hall
        exact hne rfl

theorem readStructsInto_failed_iff {size : Nat} (vec : Structs size) :
    readStructsInto m a vec = (vec, .ok false) ↔ StructsUnchanged m size a vec.elements := by
  rw [← readStructsLoop_failed_iff vec.sized]
  obtain ⟨elements, sized⟩ := vec
  unfold readStructsInto
  simp only [Prod.ext_iff, Structs.mk.injEq]

end

end Clues
