import Clues.Types
import Mathlib.Tactic.SplitIfs

/-!
# Reading the memory of a tracee

Memory can only be read in whole machine words.  `fillData` hands the words that follow an address
to a filler until the filler has enough.

* `Memory`      the bytes of a tracee that can be read;
* `fillItems`   `ContainerFiller`: the elements of a word, for three sizes of elements;
* `fillBlob`    `BlobFiller`: the bytes of a word;
* `extent`      the elements a caller asks for, read one by one, and how many bytes they take;
* `VectorFits`, `BlobFits`   when reading in words gives what was asked for.
-/

namespace Clues

/-- the byte at each address; `none`: it cannot be read -/
abbrev Memory := UInt64 → Option UInt8

def bytesAt (m : Memory) (a : UInt64) : Nat → Option (List UInt8)
  | 0 => some []
  | n + 1 => do
    let b ← m a
    let bs ← bytesAt m (a + 1) n
    pure (b :: bs)

/-! ## reading words -/

/-- `sizeof(long)` -/
def wordSize : Nat := 8

/-- `Tracee::getData()`: the bytes of the word, in the order of their addresses -/
def getData (m : Memory) (a : UInt64) : Except Exc (List UInt8) :=
  match bytesAt m a wordSize with
  | some word => .ok word
  | none => .error (.api Errno.ioError)

/-- `Tracee::fillData()`; the filler says whether it needs another word -/
def fillData {σ : Type} (m : Memory) (filler : List UInt8 → σ → Bool × σ) :
    Nat → UInt64 → σ → Except Exc σ
  | 0, _, _ => .error .outOfFuel
  | fuel + 1, a, s =>
    match getData m a with
    | .error e => .error e
    | .ok word =>
      match filler word s with
      | (true, s) => fillData m filler fuel (a + 8) s
      | (false, s) => .ok s

/-- the element types of the containers: `char`, `int` and `uint32_t`, `uintptr_t` -/
inductive Elem where
  | char | int | word
  deriving DecidableEq, Repr

def Elem.size : Elem → Nat
  | .char => 1
  | .int => 4
  | .word => 8

/-- elements in a word: `sizeof(word) / ITEM_SIZE` -/
def Elem.perWord (e : Elem) : Nat := wordSize / e.size

theorem Elem.perWord_mul_size (e : Elem) : e.perWord * e.size = wordSize := by
  cases e <;> rfl

def isZero (item : List UInt8) : Bool := item.all (· == 0)

/-- `ContainerFiller`: the container and `m_filled`, which is a `size_t` -/
structure Filled where
  out : List (List UInt8) := []
  filled : UInt64 := 0

/-- the loop over the elements of a word -/
def fillItems (e : Elem) (max : UInt64) (stopAtZero : Bool) :
    Nat → List UInt8 → Filled → Bool × Filled
  | 0, _, s => (true, s)
  | n + 1, word, s =>
    let item := word.take e.size
    if stopAtZero && isZero item then (false, s)
    else
      let s := { out := s.out ++ [item], filled := s.filled + 1 }
      if s.filled = max then (false, s) else fillItems e max stopAtZero n (word.drop e.size) s

/-- a `size_t` counter is back at its start after so many steps -/
def sizeRange : Nat := UInt64.size

def readVector (m : Memory) (e : Elem) (a : UInt64) (max : UInt64) (stopAtZero : Bool) :
    Except Exc (List (List UInt8)) :=
  match fillData m (fillItems e max stopAtZero e.perWord) sizeRange a {} with
  | .ok s => .ok s.out
  | .error err => .error err

def readString (m : Memory) (a : UInt64) (max : UInt64) : Except Exc (List (List UInt8)) :=
  readVector m .char a max true

/-- `BlobFiller`: the buffer and `m_left` -/
structure Blob where
  out : List UInt8 := []
  left : Nat

def fillBlob (word : List UInt8) (s : Blob) : Bool × Blob :=
  let toCopy := min wordSize s.left
  let s := { out := s.out ++ word.take toCopy, left := s.left - toCopy }
  (s.left ≠ 0, s)

def readBlob (m : Memory) (a : UInt64) (bytes : Nat) : Except Exc (List UInt8) :=
  match fillData m fillBlob (bytes + 1) a { left := bytes } with
  | .ok s => .ok s.out
  | .error err => .error err

/-! ## what is asked for -/

/-- elements, and the number of bytes that they and their terminator take -/
structure Extent where
  elements : List (List UInt8)
  bytes : Nat

/-- at most `max` elements from an address, up to the first zero element if one ends them; `none`:
a byte of them or of the zero element cannot be read -/
def extent (m : Memory) (e : Elem) (stopAtZero : Bool) : Nat → UInt64 → Option Extent
  | 0, _ => some ⟨[], 0⟩
  | max + 1, a => do
    let item ← bytesAt m a e.size
    if stopAtZero && isZero item then pure ⟨[], e.size⟩
    else
      let rest ← extent m e stopAtZero max (a + UInt64.ofNat e.size)
      pure ⟨item :: rest.elements, e.size + rest.bytes⟩

def reference (m : Memory) (e : Elem) (a : UInt64) (max : UInt64) (stopAtZero : Bool) :
    Option (List (List UInt8)) :=
  (extent m e stopAtZero max.toNat a).map Extent.elements

/-- the bytes of so many words -/
def words (n : Nat) : Nat := wordSize * ((n + 7) / wordSize)

/-! ## bytes -/

variable {m : Memory}

theorem ofNat_add_assoc (a : UInt64) (n k : Nat) :
    a + UInt64.ofNat n + UInt64.ofNat k = a + UInt64.ofNat (n + k) := by
  rw [UInt64.add_assoc, UInt64.ofNat_add]

theorem bytesAt_add (a : UInt64) (n k : Nat) :
    bytesAt m a (n + k) = (bytesAt m a n).bind fun bs =>
      (bytesAt m (a + UInt64.ofNat n) k).map (bs ++ ·) := by
  induction n generalizing a with
  | zero =>
    have h0 : a + UInt64.ofNat 0 = a := UInt64.add_zero a
    rw [Nat.zero_add, h0]
    simp [bytesAt]
  | succ n ih =>
    have h1 : a + 1 + UInt64.ofNat n = a + UInt64.ofNat (n + 1) := by
      rw [Nat.add_comm n 1]
      exact ofNat_add_assoc a 1 n
    rw [Nat.add_right_comm, bytesAt, bytesAt, ih, h1]
    cases m a with
    | none => rfl
    | some b =>
      cases bytesAt m (a + 1) n with
      | none => rfl
      | some bs => cases bytesAt m (a + UInt64.ofNat (n + 1)) k <;> rfl

theorem bytesAt_length {a : UInt64} {n : Nat} {bs : List UInt8} (h : bytesAt m a n = some bs) :
    bs.length = n := by
  induction n generalizing a bs with
  | zero =>
    cases h
    rfl
  | succ n ih =>
    rw [bytesAt] at h
    cases hb : m a with
    | none => rw [hb] at h; cases h
    | some b =>
      cases hr : bytesAt m (a + 1) n with
      | none => rw [hb, hr] at h; cases h
      | some rest =>
        rw [hb, hr] at h
        cases h
        rw [List.length_cons, ih hr]

/-- the first bytes of more bytes -/
theorem bytesAt_split {a : UInt64} {n k : Nat} {bs : List UInt8}
    (h : bytesAt m a (n + k) = some bs) : bytesAt m a n = some (bs.take n) ∧
      bytesAt m (a + UInt64.ofNat n) k = some (bs.drop n) := by
  rw [bytesAt_add] at h
  cases hn : bytesAt m a n with
  | none => rw [hn] at h; cases h
  | some xs =>
    have hlen := bytesAt_length hn
    rw [hn] at h
    cases hk : bytesAt m (a + UInt64.ofNat n) k with
    | none => rw [hk] at h; cases h
    | some ys =>
      rw [hk] at h
      cases h
      rw [List.take_left' hlen, List.drop_left' hlen]
      exact ⟨rfl, rfl⟩

theorem bytesAt_none_add {a : UInt64} {n : Nat} (k : Nat) (h : bytesAt m a n = none) :
    bytesAt m a (n + k) = none := by
  rw [bytesAt_add, h]
  rfl

theorem bytesAt_isSome_add {a : UInt64} {n : Nat} (k : Nat) {bs : List UInt8}
    (h : bytesAt m a n = some bs) :
    (bytesAt m a (n + k)).isSome = (bytesAt m (a + UInt64.ofNat n) k).isSome := by
  rw [bytesAt_add, h]
  cases bytesAt m (a + UInt64.ofNat n) k <;> rfl

/-! ## words -/

theorem words_of_le {n : Nat} (h0 : 0 < n) (h8 : n ≤ wordSize) : words n = wordSize := by
  unfold words wordSize at *
  omega

theorem words_add (n : Nat) : words (wordSize + n) = wordSize + words n := by
  unfold words wordSize
  omega

theorem le_words {n : Nat} (h : 0 < n) : ∃ k, words n = wordSize + k := by
  refine ⟨words n - wordSize, ?_⟩
  unfold words wordSize
  omega

/-! ## elements -/

/-- the counter reaches `max` after `k` more elements -/
structure Room (max filled : UInt64) (k : Nat) : Prop where
  pos : 0 < k
  le : k ≤ sizeRange
  eq : filled + UInt64.ofNat k = max

theorem Room.last_iff {max filled : UInt64} {k : Nat} (h : Room max filled k) :
    filled + 1 = max ↔ k = 1 := by
  constructor
  · intro h1
    have he : UInt64.ofNat k = 1 := by
      have h2 : filled + UInt64.ofNat k = filled + 1 := h.eq.trans h1.symm
      exact (UInt64.add_right_inj filled).mp h2
    have hk : k % 2 ^ 64 = 1 := by
      have := congrArg UInt64.toNat he
      rwa [UInt64.toNat_ofNat'] at this
    have hle : k ≤ 2 ^ 64 := h.le
    have hpos := h.pos
    omega
  · rintro rfl
    exact h.eq

theorem Room.next {max filled : UInt64} {k : Nat} (h : Room max filled (k + 1)) (hk : k ≠ 0) :
    Room max (filled + 1) k := by
  refine ⟨Nat.pos_of_ne_zero hk, Nat.le_of_succ_le h.le, ?_⟩
  rw [← h.eq, Nat.add_comm k 1]
  exact ofNat_add_assoc filled 1 k

theorem extent_pos {e : Elem} {stop : Bool} {k : Nat} {a : UInt64} {x : Extent} (hk : 0 < k)
    (h : extent m e stop k a = some x) : 0 < x.bytes := by
  have hs : 0 < e.size := by cases e <;> decide
  cases k with
  | zero => omega
  | succ k =>
    rw [extent] at h
    cases hb : bytesAt m a e.size with
    | none => rw [hb] at h; cases h
    | some item =>
      rw [hb] at h
      change (if stop && isZero item then _ else _ : Option Extent) = some x at h
      split_ifs at h
      · cases h
        exact hs
      · cases hr : extent m e stop k (a + UInt64.ofNat e.size) with
        | none => rw [hr] at h; cases h
        | some rest =>
          rw [hr] at h
          cases h
          exact Nat.add_pos_left hs _

theorem extent_zero {e : Elem} {z : Bool} {k : Nat} {a : UInt64} {item : List UInt8}
    (hitem : bytesAt m a e.size = some item) (hz : (z && isZero item) = true) :
    extent m e z (k + 1) a = some ⟨[], e.size⟩ := by
  rw [extent, hitem]
  exact if_pos hz

theorem extent_succ {e : Elem} {z : Bool} {k : Nat} {a : UInt64} {item : List UInt8}
    (hitem : bytesAt m a e.size = some item) (hz : ¬ (z && isZero item) = true) :
    extent m e z (k + 1) a = (extent m e z k (a + UInt64.ofNat e.size)).map fun rest =>
      ⟨item :: rest.elements, e.size + rest.bytes⟩ := by
  rw [extent, hitem]
  show (if (z && isZero item) = true then _ else _ : Option Extent) = _
  rw [if_neg hz]
  cases extent m e z k (a + UInt64.ofNat e.size) <;> rfl

/-- where the elements end; a limit of 0 is only met when the counter is back at 0 -/
def limit (max : UInt64) : Nat := if max = 0 then sizeRange else max.toNat

theorem room_limit (max : UInt64) : Room max 0 (limit max) := by
  unfold limit
  split_ifs with h
  · refine ⟨by decide, le_rfl, ?_⟩
    rw [h]
    rfl
  · refine ⟨?_, ?_, ?_⟩
    · have hne : max.toNat ≠ 0 := fun h0 => h (UInt64.toNat_inj.mp h0)
      omega
    · exact max.toNat_lt.le
    · rw [UInt64.zero_add]
      exact UInt64.ofNat_toNat

/-- what the loop over the `n` elements that are left of a word does: it finds the end of the
elements, or takes all of them -/
theorem fillItems_spec {e : Elem} {max : UInt64} {z : Bool} {n k : Nat} {b : UInt64}
    {word : List UInt8} {s : Filled} (hw : bytesAt m b (n * e.size) = some word)
    (hl : Room max s.filled k) :
    (∃ x s', fillItems e max z n word s = (false, s') ∧ extent m e z k b = some x ∧
      x.bytes ≤ n * e.size ∧ s'.out = s.out ++ x.elements) ∨
    (∃ xs s', fillItems e max z n word s = (true, s') ∧ n < k ∧ Room max s'.filled (k - n) ∧
      s'.out = s.out ++ xs ∧
      extent m e z k b = (extent m e z (k - n) (b + UInt64.ofNat (n * e.size))).map fun x =>
        ⟨xs ++ x.elements, n * e.size + x.bytes⟩) := by
  induction n generalizing k b word s with
  | zero =>
    refine Or.inr ⟨[], s, rfl, hl.pos, hl, by simp, ?_⟩
    have h0 : b + UInt64.ofNat (0 * e.size) = b := by
      rw [Nat.zero_mul]
      exact UInt64.add_zero b
    rw [h0, Nat.sub_zero]
    simp
  | succ n ih =>
    have hsize : (n + 1) * e.size = e.size + n * e.size := by
      rw [Nat.succ_mul, Nat.add_comm]
    rw [hsize] at hw
    obtain ⟨hitem, hrest⟩ := bytesAt_split hw
    obtain ⟨k, rfl⟩ : ∃ k', k = k' + 1 := ⟨k - 1, by have := hl.pos; omega⟩
    unfold fillItems
    by_cases hz : (z && isZero (word.take e.size)) = true
    · left
      refine ⟨⟨[], e.size⟩, s, if_pos hz, extent_zero hitem hz, ?_, by simp⟩
      rw [hsize]
      exact Nat.le_add_right _ _
    · rw [if_neg hz, extent_succ hitem hz]
      by_cases hlast : s.filled + 1 = max
      · left
        obtain rfl : k = 0 := Nat.succ.inj (hl.last_iff.mp hlast)
        refine ⟨⟨[word.take e.size], e.size⟩, _, if_pos hlast, rfl, ?_, rfl⟩
        rw [hsize]
        exact Nat.le_add_right _ _
      · have hk : k ≠ 0 := fun h0 => hlast (hl.last_iff.mpr (by rw [h0]))
        rw [if_neg hlast]
        obtain ⟨x, s', hf, hx, hle, hout⟩ | ⟨xs, s', hf, hlt, hl', hout, hx⟩ :=
          ih (s := ⟨s.out ++ [word.take e.size], s.filled + 1⟩) hrest (hl.next hk)
        · left
          refine ⟨⟨word.take e.size :: x.elements, e.size + x.bytes⟩, s', hf, ?_, ?_, ?_⟩
          · rw [hx]
            rfl
          · rw [hsize]
            exact Nat.add_le_add_left hle _
          · rw [hout, List.append_assoc]
            rfl
        · right
          refine ⟨word.take e.size :: xs, s', hf, Nat.succ_lt_succ hlt, ?_, ?_, ?_⟩
          · rwa [Nat.succ_sub_succ]
          · rw [hout, List.append_assoc]
            rfl
          · rw [hx, Nat.succ_sub_succ, hsize, ofNat_add_assoc]
            cases extent m e z (k - n) (b + UInt64.ofNat (e.size + n * e.size)) with
            | none => rfl
            | some x => simp [Nat.add_assoc]

/-- reading in words reads the elements, if the words that hold them can be read -/
theorem fillData_items {e : Elem} {max : UInt64} {z : Bool} {fuel k : Nat} {a : UInt64}
    {s : Filled} (hl : Room max s.filled k) (hk : k ≤ fuel) :
    (fillData m (fillItems e max z e.perWord) fuel a s).toOption.map Filled.out
      = (extent m e z k a).bind fun x =>
        if (bytesAt m a (words x.bytes)).isSome then some (s.out ++ x.elements) else none := by
  induction fuel generalizing k a s with
  | zero => exact absurd hl.pos (by omega)
  | succ fuel ih =>
    unfold fillData getData
    cases hw : bytesAt m a wordSize with
    | none =>
      cases hx : extent m e z k a with
      | none => rfl
      | some x =>
        obtain ⟨j, hj⟩ := le_words (extent_pos hl.pos hx)
        have hno : bytesAt m a (words x.bytes) = none := by
          rw [hj]
          exact bytesAt_none_add j hw
        rw [Option.bind_some, hno]
        rfl
    | some word =>
      have hw' : bytesAt m a (e.perWord * e.size) = some word := by
        rw [e.perWord_mul_size]
        exact hw
      obtain ⟨x, s', hf, hx, hle, hout⟩ | ⟨xs, s', hf, hlt, hl', hout, hx⟩ :=
        fillItems_spec (z := z) hw' hl
      · rw [e.perWord_mul_size] at hle
        simp only [hf]
        rw [hx, Option.bind_some, words_of_le (extent_pos hl.pos hx) hle, hw]
        show some s'.out = some _
        rw [hout]
      · have hpos : 0 < e.perWord := by cases e <;> decide
        simp only [hf]
        rw [ih hl' (by omega), hx, e.perWord_mul_size]
        have h8 : a + UInt64.ofNat wordSize = a + 8 := rfl
        rw [h8]
        cases extent m e z (k - e.perWord) (a + 8) with
        | none => rfl
        | some x =>
          show _ = if (bytesAt m a (words (wordSize + x.bytes))).isSome then _ else _
          rw [words_add, bytesAt_isSome_add _ hw, h8, Option.bind_some, hout, List.append_assoc]

theorem readVector_eq (e : Elem) (a max : UInt64) (z : Bool) :
    (readVector m e a max z).toOption = (extent m e z (limit max) a).bind fun x =>
      if (bytesAt m a (words x.bytes)).isSome then some x.elements else none := by
  have h : (fillData m (fillItems e max z e.perWord) sizeRange a {}).toOption.map Filled.out
      = (extent m e z (limit max) a).bind fun x =>
        if (bytesAt m a (words x.bytes)).isSome then some ([] ++ x.elements) else none :=
    fillData_items (room_limit max) (room_limit max).le
  have hout : (readVector m e a max z).toOption
      = (fillData m (fillItems e max z e.perWord) sizeRange a {}).toOption.map Filled.out := by
    unfold readVector
    cases fillData m (fillItems e max z e.perWord) sizeRange a {} <;> rfl
  rw [hout, h]
  rfl

/-! ## bytes of a buffer -/

theorem fillBlob_last {word : List UInt8} {s : Blob} (h : s.left ≤ wordSize) :
    fillBlob word s = (false, ⟨s.out ++ word.take s.left, 0⟩) := by
  have hleft : s.left - s.left = 0 := Nat.sub_self _
  unfold fillBlob
  rw [Nat.min_eq_right h]
  show (decide (s.left - s.left ≠ 0), (⟨_, s.left - s.left⟩ : Blob)) = _
  rw [hleft]
  rfl

theorem fillBlob_next {word : List UInt8} {s : Blob} (hw : word.length = wordSize)
    (h : wordSize < s.left) : fillBlob word s = (true, ⟨s.out ++ word, s.left - wordSize⟩) := by
  have hne : s.left - wordSize ≠ 0 := by omega
  have htake : word.take wordSize = word := List.take_of_length_le (le_of_eq hw)
  unfold fillBlob
  rw [Nat.min_eq_left h.le]
  show (decide (s.left - wordSize ≠ 0), (⟨s.out ++ word.take wordSize, _⟩ : Blob)) = _
  rw [htake, decide_eq_true hne]

/-- the bytes that are fetched for a buffer: at least one word -/
def fetched (n : Nat) : Nat := max wordSize (words n)

theorem fetched_of_le {n : Nat} (h : n ≤ wordSize) : fetched n = wordSize := by
  unfold fetched words wordSize at *
  omega

theorem fetched_add {n : Nat} (h : 0 < n) : fetched (wordSize + n) = wordSize + fetched n := by
  unfold fetched words wordSize
  omega

/-- reading in words reads the bytes, if the words that hold them can be read -/
theorem fillData_blob {fuel : Nat} {a : UInt64} {s : Blob} (h : s.left < fuel) :
    (fillData m fillBlob fuel a s).toOption.map Blob.out
      = if (bytesAt m a (fetched s.left)).isSome then (bytesAt m a s.left).map (s.out ++ ·)
        else none := by
  induction fuel generalizing a s with
  | zero => exact absurd h (Nat.not_lt_zero _)
  | succ fuel ih =>
    unfold fillData getData
    cases hw : bytesAt m a wordSize with
    | none =>
      have hle : wordSize ≤ fetched s.left := le_max_left _ _
      obtain ⟨j, hj⟩ := Nat.exists_eq_add_of_le hle
      rw [hj, bytesAt_none_add j hw]
      rfl
    | some word =>
      by_cases h8 : s.left ≤ wordSize
      · obtain ⟨j, hj⟩ := Nat.exists_eq_add_of_le h8
        have htake : bytesAt m a s.left = some (word.take s.left) := by
          rw [hj] at hw
          exact (bytesAt_split hw).1
        simp only [fillBlob_last h8]
        rw [fetched_of_le h8, hw, htake]
        rfl
      · obtain ⟨j, hj⟩ := Nat.exists_eq_add_of_le (Nat.le_of_not_le h8)
        have hj0 : 0 < j := by omega
        have hfuel : j < fuel := by
          unfold wordSize at hj
          omega
        have hnext : a + UInt64.ofNat wordSize = a + 8 := rfl
        simp only [fillBlob_next (bytesAt_length hw) (Nat.lt_of_not_le h8)]
        rw [hj, Nat.add_sub_cancel_left, ih hfuel, fetched_add hj0,
          bytesAt_isSome_add _ hw, bytesAt_add, hw, hnext, Option.bind_some, Option.map_map]
        simp [Function.comp_def]

theorem readBlob_eq (a : UInt64) (n : Nat) :
    (readBlob m a n).toOption
      = if (bytesAt m a (fetched n)).isSome then bytesAt m a n else none := by
  have h := fillData_blob (m := m) (a := a) (s := { left := n }) (Nat.lt_succ_self n)
  have hout : (readBlob m a n).toOption
      = (fillData m fillBlob (n + 1) a { left := n }).toOption.map Blob.out := by
    unfold readBlob
    cases fillData m fillBlob (n + 1) a { left := n } <;> rfl
  rw [hout, h]
  simp

/-! ## when what is read is what was asked for -/

/-- the words that hold the elements and their terminator can be read; with a limit of 0, which is
not met before any element, the first element has to end them -/
def VectorFits (m : Memory) (e : Elem) (a max : UInt64) (stopAtZero : Bool) : Prop :=
  if max = 0 then
    stopAtZero = true ∧ (bytesAt m a wordSize).isSome ∧ (bytesAt m a e.size).any isZero
  else ∀ x, extent m e stopAtZero max.toNat a = some x → (bytesAt m a (words x.bytes)).isSome

/-- the words that hold the bytes can be read, if the bytes can -/
def BlobFits (m : Memory) (a : UInt64) (n : Nat) : Prop :=
  (bytesAt m a n).isSome → (bytesAt m a (fetched n)).isSome

/-- nothing is read with a limit of 0, if the first element ends the elements -/
theorem readVector_zero_iff (e : Elem) (a : UInt64) (z : Bool) :
    (readVector m e a 0 z).toOption = some [] ↔ VectorFits m e a 0 z := by
  have hsucc : limit 0 = (sizeRange - 1) + 1 := rfl
  have hsize : 0 < e.size ∧ e.size ≤ wordSize := by cases e <;> decide
  rw [readVector_eq, hsucc]
  unfold VectorFits
  rw [if_pos rfl]
  cases hb : bytesAt m a e.size with
  | none =>
    have hx : extent m e z (sizeRange - 1 + 1) a = none := by
      rw [extent, hb]
      rfl
    rw [hx]
    simp
  | some item =>
    by_cases hz : (z && isZero item) = true
    · obtain ⟨hz1, hz2⟩ := Bool.and_eq_true_iff.mp hz
      rw [extent_zero hb hz, Option.bind_some, words_of_le hsize.1 hsize.2]
      simp [hz1, hz2, Option.isSome_iff_ne_none]
    · have hne : ¬ (z = true ∧ (some item).any isZero = true) := fun ⟨h1, h2⟩ =>
        hz (Bool.and_eq_true_iff.mpr ⟨h1, h2⟩)
      rw [extent_succ hb hz]
      constructor
      · intro h
        cases hr : extent m e z (sizeRange - 1) (a + UInt64.ofNat e.size) with
        | none =>
          rw [hr] at h
          cases h
        | some rest =>
          rw [hr, Option.map_some, Option.bind_some] at h
          split_ifs at h
          cases h
      · rintro ⟨h1, -, h2⟩
        exact absurd ⟨h1, h2⟩ hne

theorem readVector_iff (e : Elem) (a max : UInt64) (z : Bool) :
    (readVector m e a max z).toOption = reference m e a max z ↔ VectorFits m e a max z := by
  by_cases hmax : max = 0
  · subst hmax
    exact readVector_zero_iff e a z
  · rw [readVector_eq]
    unfold reference VectorFits limit
    rw [if_neg hmax, if_neg hmax]
    cases extent m e z max.toNat a with
    | none => simp
    | some x =>
      rw [Option.bind_some, Option.map_some]
      constructor
      · intro h y hy
        cases hy
        split_ifs at h with hx
        exact hx
      · intro h
        rw [if_pos (h x rfl)]

theorem readBlob_iff (a : UInt64) (n : Nat) :
    (readBlob m a n).toOption = bytesAt m a n ↔ BlobFits m a n := by
  rw [readBlob_eq]
  unfold BlobFits
  cases bytesAt m a n with
  | none => simp
  | some bs =>
    constructor
    · intro h _
      split_ifs at h with hx
      exact hx
    · intro h
      rw [if_pos (h rfl)]

/-- reading gives exactly what is asked for, and fails only where that cannot be read -/
def ReadsExactly (m : Memory) : Prop :=
  (∀ e a max z, (readVector m e a max z).toOption = reference m e a max z) ∧
  (∀ a max, (readString m a max).toOption = reference m .char a max true) ∧
  ∀ a n, (readBlob m a n).toOption = bytesAt m a n

/-- for each memory and each request: what is read is what is asked for if and only if the words
around it can be read -/
theorem reads_iff_fits (m : Memory) (a : UInt64) :
    (∀ e max z, (readVector m e a max z).toOption = reference m e a max z
      ↔ VectorFits m e a max z) ∧
    (∀ max, (readString m a max).toOption = reference m .char a max true
      ↔ VectorFits m .char a max true) ∧
    ∀ n, (readBlob m a n).toOption = bytesAt m a n ↔ BlobFits m a n :=
  ⟨fun e max z => readVector_iff e a max z, fun max => readVector_iff .char a max true,
    fun n => readBlob_iff a n⟩

/-- a page with a string of one character at its end -/
def lastPage : Memory := fun a =>
  if a < 4094 then some 1 else if a = 4094 then some 97 else if a = 4095 then some 0 else none

/-- the string can be read, but not the word that holds it -/
theorem readsExactly_fails : ¬ ∀ m, ReadsExactly m := by
  intro h
  have hs := (h lastPage).2.1 4094 100
  have href : reference lastPage .char 4094 100 true = some [[97]] := by decide +kernel
  have hread : (readString lastPage 4094 100).toOption = none := by decide +kernel
  rw [hread, href] at hs
  cases hs

end Clues
