import Clues.Tracee.Memory

/-!
# Reading a struct from the memory of a tracee

`Memory.readStructIntoOptional` reads so many bytes into a struct of the tracer that is zero
before.

* `Object`       the struct while `BlobFiller` writes it; nothing lies behind it;
* `structAt`     the first bytes of the struct of the tracee, the others zero;
* `StructFits`   when the one is the other: `Memory.readStructIntoOptional_iff`.
-/

namespace Clues

/-- an object that is written from its start: the bytes up to `m_buffer`, the others, `m_left` -/
structure Object where
  front : List UInt8 := []
  rest : List UInt8
  left : Nat

/-- `BlobFiller` with an object: writing behind it is undefined -/
def fillObject (word : List UInt8) : Except Exc Object → Bool × Except Exc Object
  | .error e => (false, .error e)
  | .ok s =>
    let toCopy := min wordSize s.left
    if toCopy ≤ s.rest.length then
      let s : Object :=
        { front := s.front ++ word.take toCopy
          rest := s.rest.drop toCopy
          left := s.left - toCopy }
      (s.left ≠ 0, .ok s)
    else (false, .error (.undefined .bounds))

/-- `Tracee::readStruct()`: `out` afterwards; `none` is the result `false` -/
def Memory.readStruct (m : Memory) (a : UInt64) (out : List UInt8) (maxBytes : Nat) :
    Except Exc (Option (List UInt8)) :=
  if a = 0 then .ok none
  else
    let object := { rest := out, left := maxBytes }
    match fillData m fillObject (maxBytes + 1) a (.ok object) with
    | .ok (.ok s) => .ok (some (s.front ++ s.rest))
    | .ok (.error e) => .error e
    | .error (.api e) => if e = Errno.ioError then .ok none else .error (.api e)
    | .error e => .error e

/-- `Tracee::readStructIntoOptional()` for a struct of `size` bytes: the new value of the
optional -/
def Memory.readStructIntoOptional (m : Memory) (a : UInt64) (size maxBytes : Nat) :
    Except Exc (Option (List UInt8)) :=
  Memory.readStruct m a (List.replicate size 0) maxBytes

/-- the first bytes of a struct, and zeroes for the others -/
def padTo (size : Nat) (bs : List UInt8) : List UInt8 :=
  bs ++ List.replicate (size - bs.length) 0

/-- what is asked for; `none`: the bytes cannot be read -/
def structAt (m : Memory) (a : UInt64) (size maxBytes : Nat) : Option (List UInt8) :=
  if a = 0 then none else (bytesAt m a (min maxBytes size)).map (padTo size)

/-- no more bytes than the struct has are read, in words that can be read; or the struct of the
tracee cannot be read -/
def StructFits (m : Memory) (a : UInt64) (size maxBytes : Nat) : Prop :=
  a = 0 ∨ if maxBytes ≤ size then BlobFits m a maxBytes else bytesAt m a size = none

section
variable {m : Memory}

/-- two fillers that go on and stop together -/
theorem fillData_related {σ τ : Type} {f : List UInt8 → σ → Bool × σ}
    {g : List UInt8 → τ → Bool × τ} {R : σ → τ → Prop}
    (hstep : ∀ word s t, word.length = wordSize → R s t →
      (f word s).1 = (g word t).1 ∧ R (f word s).2 (g word t).2)
    (fuel : Nat) (a : UInt64) {s : σ} {t : τ} (h : R s t) :
    (∃ s' t', fillData m f fuel a s = .ok s' ∧ fillData m g fuel a t = .ok t' ∧ R s' t') ∨
      ∃ e, fillData m f fuel a s = .error e ∧ fillData m g fuel a t = .error e := by
  induction fuel generalizing a s t with
  | zero => exact Or.inr ⟨_, rfl, rfl⟩
  | succ fuel ih =>
    unfold fillData getData
    cases hw : bytesAt m a wordSize with
    | none => exact Or.inr ⟨_, rfl, rfl⟩
    | some word =>
      obtain ⟨hmore, hR⟩ := hstep word s t (bytesAt_length hw) h
      rcases hf : f word s with ⟨bf, s'⟩
      rcases hg : g word t with ⟨bg, t'⟩
      rw [hf, hg] at hmore hR
      obtain rfl : bf = bg := hmore
      cases bf with
      | true =>
        simp only [hf, hg]
        exact ih _ hR
      | false =>
        simp only [hf, hg]
        exact Or.inl ⟨s', t', rfl, rfl, hR⟩

/-- reading bytes fails in no other way -/
theorem fillData_blob_error {fuel : Nat} {a : UInt64} {s : Blob} {e : Exc} (h : s.left < fuel)
    (he : fillData m fillBlob fuel a s = .error e) : e = .api Errno.ioError := by
  induction fuel generalizing a s with
  | zero => exact absurd h (Nat.not_lt_zero _)
  | succ fuel ih =>
    unfold fillData getData at he
    cases hw : bytesAt m a wordSize with
    | none =>
      rw [hw] at he
      cases he
      rfl
    | some word =>
      simp only [hw] at he
      by_cases h8 : s.left ≤ wordSize
      · rw [fillBlob_last h8] at he
        cases he
      · rw [fillBlob_next (bytesAt_length hw) (Nat.lt_of_not_le h8)] at he
        apply ih _ he
        show s.left - wordSize < fuel
        unfold wordSize at *
        omega

theorem readBlob_error {a : UInt64} {n : Nat} {e : Exc} (h : readBlob m a n = .error e) :
    e = .api Errno.ioError := by
  unfold readBlob at h
  cases hd : fillData m fillBlob (n + 1) a { left := n } with
  | ok s =>
    rw [hd] at h
    cases h
  | error e' =>
    rw [hd] at h
    cases h
    exact fillData_blob_error (Nat.lt_succ_self n) hd

/-! ## a struct with room for the bytes -/

/-- the object holds the bytes that were read, and has room for those that are left -/
def Holds (size : Nat) (x : Except Exc Object) (b : Blob) : Prop :=
  b.out.length + b.left ≤ size ∧
    x = .ok { front := b.out, rest := List.replicate (size - b.out.length) 0, left := b.left }

theorem fillObject_holds {size : Nat} {word : List UInt8} {x : Except Exc Object} {b : Blob}
    (hw : word.length = wordSize) (h : Holds size x b) :
    (fillObject word x).1 = (fillBlob word b).1 ∧
      Holds size (fillObject word x).2 (fillBlob word b).2 := by
  obtain ⟨hroom, rfl⟩ := h
  have hlen : (word.take (min wordSize b.left)).length = min wordSize b.left := by
    rw [List.length_take, hw]
    omega
  have hle : min wordSize b.left ≤ (List.replicate (size - b.out.length) (0 : UInt8)).length := by
    rw [List.length_replicate]
    omega
  have hobject : fillObject word
      (.ok { front := b.out, rest := List.replicate (size - b.out.length) 0, left := b.left })
        = ((fillBlob word b).1, .ok
          { front := b.out ++ word.take (min wordSize b.left)
            rest := (List.replicate (size - b.out.length) 0).drop (min wordSize b.left)
            left := b.left - min wordSize b.left }) := by
    exact if_pos hle
  rw [hobject]
  unfold fillBlob
  refine ⟨rfl, ?_, ?_⟩
  · show (b.out ++ word.take (min wordSize b.left)).length + (b.left - min wordSize b.left) ≤ size
    rw [List.length_append, hlen]
    omega
  · rw [List.drop_replicate, List.length_append, hlen, Nat.sub_sub]

theorem Memory.readStructIntoOptional_of_le {a : UInt64} {size n : Nat} (ha : a ≠ 0)
    (hn : n ≤ size) :
    Memory.readStructIntoOptional m a size n
      = .ok ((readBlob m a n).toOption.map (padTo size)) := by
  have hstart : Holds size (.ok { rest := List.replicate size 0, left := n }) { left := n } := by
    refine ⟨?_, rfl⟩
    show 0 + n ≤ size
    omega
  unfold Memory.readStructIntoOptional Memory.readStruct
  rw [if_neg ha]
  rcases fillData_related (m := m) (fun word s t hw => fillObject_holds hw) (n + 1) a
    hstart with ⟨x, b, hx, hb, hroom, rfl⟩ | ⟨e, hx, hb⟩
  · have hread : readBlob m a n = .ok b.out := by
      unfold readBlob
      rw [hb]
    rw [hread]
    simp only [hx]
    rfl
  · have hread : readBlob m a n = .error e := by
      unfold readBlob
      rw [hb]
    obtain rfl := readBlob_error hread
    rw [hread]
    simp only [hx]
    rfl

/-! ## more bytes than the struct has -/

theorem fillObject_room {word : List UInt8} {s : Object} (hleft : wordSize < s.left)
    (hroom : wordSize ≤ s.rest.length) :
    fillObject word (.ok s) = (true,
      .ok ⟨s.front ++ word.take wordSize, s.rest.drop wordSize, s.left - wordSize⟩) := by
  have hmin : min wordSize s.left = wordSize := Nat.min_eq_left hleft.le
  have hne : s.left - wordSize ≠ 0 := by omega
  unfold fillObject
  simp only [hmin, if_pos hroom, decide_eq_true hne]

theorem fillObject_full {word : List UInt8} {s : Object}
    (hroom : s.rest.length < min wordSize s.left) :
    fillObject word (.ok s) = (false, .error (.undefined .bounds)) :=
  if_neg (Nat.not_le.mpr hroom)

/-- the whole struct of the tracee is read, or not all of it can be read; then the next word, or
the end of what can be read -/
theorem fillData_object {k : Nat} (fuel : Nat) (a : UInt64) {s : Object}
    (hk : s.rest.length = wordSize * k) (hleft : s.rest.length < s.left) (hfuel : s.left < fuel) :
    (bytesAt m a s.rest.length = none →
      fillData m fillObject fuel a (.ok s) = .error (.api Errno.ioError)) ∧
    ∀ s', fillData m fillObject fuel a (.ok s) ≠ .ok (.ok s') := by
  induction fuel generalizing k a s with
  | zero => exact absurd hfuel (Nat.not_lt_zero _)
  | succ fuel ih =>
    unfold fillData getData
    cases hw : bytesAt m a wordSize with
    | none =>
      refine ⟨fun _ => rfl, ?_⟩
      intro s' hs
      cases hs
    | some word =>
      cases k with
      | zero =>
        have hnil : s.rest = [] := List.eq_nil_of_length_eq_zero hk
        have hmin : 0 < min wordSize s.left := lt_min (by decide) (by omega)
        simp only [fillObject_full (hnil ▸ hmin : s.rest.length < min wordSize s.left)]
        constructor
        · intro hnone
          rw [hnil] at hnone
          cases hnone
        · intro s' hs
          cases hs
      | succ k =>
        have h8 : wordSize ≤ s.rest.length := by
          rw [hk]
          unfold wordSize
          omega
        have hsplit : s.rest.length = wordSize + (s.rest.drop wordSize).length := by
          rw [List.length_drop]
          omega
        have hdrop : (s.rest.drop wordSize).length = wordSize * k := by
          rw [Nat.mul_succ] at hk
          omega
        have hnext : a + UInt64.ofNat wordSize = a + 8 := rfl
        have hpos : 0 < wordSize := by decide
        have hlt : (s.rest.drop wordSize).length < s.left - wordSize := by omega
        simp only [fillObject_room (h8.trans_lt hleft) h8]
        obtain ⟨h1, h2⟩ := ih (a + 8)
          (s := ⟨s.front ++ word.take wordSize, s.rest.drop wordSize, s.left - wordSize⟩)
          (by rw [hdrop]) hlt (show s.left - wordSize < fuel by omega)
        refine ⟨?_, h2⟩
        intro hnone
        apply h1
        rw [hsplit] at hnone
        have hsome := bytesAt_isSome_add (s.rest.drop wordSize).length hw
        rw [hnone, hnext] at hsome
        exact Option.not_isSome_iff_eq_none.mp (by rw [← hsome]; simp)

theorem Memory.readStructIntoOptional_of_lt {a : UInt64} {size n k : Nat} (ha : a ≠ 0)
    (hk : size = wordSize * k) (hn : size < n) :
    Memory.readStructIntoOptional m a size n = .ok ((bytesAt m a size).map (padTo size))
      ↔ bytesAt m a size = none := by
  obtain ⟨hio, hno⟩ := fillData_object (m := m) (n + 1) a
    (s := { rest := List.replicate size 0, left := n })
    (by rw [List.length_replicate]; exact hk) (by rw [List.length_replicate]; exact hn)
    (Nat.lt_succ_self n)
  rw [List.length_replicate] at hio
  unfold Memory.readStructIntoOptional Memory.readStruct
  rw [if_neg ha]
  constructor
  · intro h
    cases hb : bytesAt m a size with
    | none => rfl
    | some bs =>
      rw [hb] at h
      exfalso
      cases hd : fillData m fillObject (n + 1) a
          (.ok { rest := List.replicate size 0, left := n }) with
      | ok x =>
        cases x with
        | ok s => exact hno s hd
        | error e =>
          simp only [hd] at h
          cases h
      | error e =>
        simp only [hd] at h
        cases e with
        | api e =>
          change (if e = Errno.ioError then _ else _ : Except Exc _) = _ at h
          split at h <;> cases h
        | _ => cases h
  · intro hb
    simp only [hio hb, hb]
    rfl

/-! ## what is read is what was asked for -/

theorem Memory.readStructIntoOptional_iff {a : UInt64} {size k : Nat} (hk : size = wordSize * k)
    (n : Nat) :
    Memory.readStructIntoOptional m a size n = .ok (structAt m a size n)
      ↔ StructFits m a size n := by
  unfold structAt StructFits
  by_cases ha : a = 0
  · simp [Memory.readStructIntoOptional, Memory.readStruct, ha]
  · rw [if_neg ha]
    by_cases hn : n ≤ size
    · rw [Memory.readStructIntoOptional_of_le ha hn, Nat.min_eq_left hn, if_pos hn,
        ← readBlob_iff]
      constructor
      · intro h
        right
        cases hr : (readBlob m a n).toOption with
        | none =>
          rw [hr] at h
          cases hb : bytesAt m a n with
          | none => rfl
          | some bs =>
            rw [hb] at h
            cases h
        | some out =>
          have hb := readBlob_eq (m := m) a n
          rw [hr] at hb
          split at hb
          · exact hb
          · cases hb
      · intro h
        rcases h with h | h
        · exact absurd h ha
        · rw [h]
    · have hlt := Nat.lt_of_not_le hn
      rw [Nat.min_eq_right hlt.le, if_neg hn, Memory.readStructIntoOptional_of_lt ha hk hlt]
      simp [ha]

end

end Clues
