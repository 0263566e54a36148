import Clues.Tracee.Structs

/-!
# Buffers that are passed with their size

* `BufferPointer`      the item of `items.cxx`, for a buffer that the tracee passes or gets;
* `fillBuffer`         fetches no more than the tracer wants to prefetch;
* `fetchRemainingData` fetches the rest.

A vector can always be resized: memory exhaustion is not modelled.
-/

namespace Clues

/-- what the functions of an item look at in the tracee and in the system call -/
structure ItemContext where
  mem : Memory
  /-- `Tracee::maxBufferPrefetch()` -/
  maxBufferPrefetch : Nat
  is32BitEmulationABI : Bool
  /-- the call has returned without an error -/
  hasResultValue : Bool

/-- `BufferPointer`; its item type is `PARAM_OUT` or `PARAM_IN` -/
structure BufferPointer (isOut : Bool) where
  ptr : UInt64 := 0
  data : List UInt8 := []

namespace BufferPointer

variable {isOut : Bool}

/-- `availableBytes()`; the other argument is the value of `m_size_par` -/
def availableBytes (c : ItemContext) (sizePar : Word) (_ : BufferPointer isOut) : Nat :=
  if !isOut || c.hasResultValue then sizePar.toNat else 0

def fillBuffer (c : ItemContext) (sizePar : Word) (p : BufferPointer isOut) : BufferPointer isOut :=
  let toFetch := min c.maxBufferPrefetch (p.availableBytes c sizePar)
  if toFetch = 0 then { p with data := [] }
  else
    match readBlob c.mem p.ptr toFetch with
    | .ok data => { p with data := data }
    | .error _ => { p with data := [] }

def processData (c : ItemContext) (sizePar : Word) (p : BufferPointer isOut) : BufferPointer isOut :=
  if isOut || p.ptr == 0 then { p with data := [] } else p.fillBuffer c sizePar

def updateData (c : ItemContext) (sizePar : Word) (p : BufferPointer isOut) : BufferPointer isOut :=
  if !isOut then p
  else if !c.hasResultValue then p
  else p.fillBuffer c sizePar

/-- `fetchRemainingData()`; with more data than there is available the size would wrap around -/
def fetchRemainingData (c : ItemContext) (sizePar : Word) (p : BufferPointer isOut) :
    Except Exc (BufferPointer isOut) :=
  let available := p.availableBytes c sizePar
  if available < p.data.length then .error (.undefined .bounds)
  else
    let toFetch := available - p.data.length
    if toFetch = 0 then .ok p
    else
      match readBlob c.mem (p.ptr + UInt64.ofNat p.data.length) toFetch with
      | .ok rest => .ok { p with data := p.data ++ rest }
      | .error e => .error e

/-! ## what is fetched -/

/-- the words that hold so many bytes can be read -/
def Readable (m : Memory) (a : UInt64) (n : Nat) : Prop := (bytesAt m a (fetched n)).isSome

instance (m : Memory) (a : UInt64) (n : Nat) : Decidable (Readable m a n) :=
  inferInstanceAs (Decidable ((bytesAt m a (fetched n)).isSome = true))

section
variable {c : ItemContext} {sizePar : Word} {p : BufferPointer isOut} {m : Memory} {a : UInt64} {n : Nat}

theorem le_fetched (n : Nat) : n ≤ fetched n := by
  unfold fetched words wordSize
  omega

/-- a blob can be read exactly if its words can -/
theorem readBlob_ok_iff : (∃ bs, readBlob m a n = .ok bs) ↔ Readable m a n := by
  have h := readBlob_eq (m := m) a n
  unfold Readable
  constructor
  · intro hok
    obtain ⟨bs, hbs⟩ := hok
    rw [hbs] at h
    by_contra hno
    rw [if_neg hno] at h
    cases h
  · intro hr
    rw [if_pos hr] at h
    cases hb : readBlob m a n with
    | ok bs => exact ⟨bs, rfl⟩
    | error e =>
      exfalso
      obtain ⟨k, hk⟩ := Nat.exists_eq_add_of_le (le_fetched n)
      rw [hb] at h
      have hnone : bytesAt m a n = none := h.symm
      rw [hk, bytesAt_none_add k hnone] at hr
      cases hr

theorem readBlob_bytes {bs : List UInt8} (h : readBlob m a n = .ok bs) :
    bytesAt m a n = some bs := by
  have hb := readBlob_eq (m := m) a n
  rw [h] at hb
  split at hb
  · exact hb.symm
  · cases hb

theorem readBlob_length {bs : List UInt8} (h : readBlob m a n = .ok bs) : bs.length = n :=
  bytesAt_length (readBlob_bytes h)

/-- the data that is fetched at first: so many bytes, or none -/
theorem fillBuffer_data :
    (p.fillBuffer c sizePar).data =
      if Readable c.mem p.ptr (min c.maxBufferPrefetch (p.availableBytes c sizePar)) then
        (bytesAt c.mem p.ptr (min c.maxBufferPrefetch (p.availableBytes c sizePar))).getD []
      else [] := by
  unfold fillBuffer
  generalize min c.maxBufferPrefetch (p.availableBytes c sizePar) = n
  by_cases h0 : n = 0
  · rw [h0]
    split <;> rfl
  · simp only [if_neg h0]
    cases hb : readBlob c.mem p.ptr n with
    | ok bs =>
      rw [if_pos (readBlob_ok_iff.mp ⟨bs, hb⟩), readBlob_bytes hb]
      rfl
    | error e =>
      have hno : ¬ Readable c.mem p.ptr n := by
        intro hr
        obtain ⟨bs, hbs⟩ := readBlob_ok_iff.mpr hr
        rw [hb] at hbs
        cases hbs
      rw [if_neg hno]

theorem fillBuffer_ptr : (p.fillBuffer c sizePar).ptr = p.ptr := by
  unfold fillBuffer
  dsimp only
  split
  · rfl
  · split <;> rfl

/-- a prefix of the buffer, as far as the limit goes -/
theorem length_fillBuffer :
    (p.fillBuffer c sizePar).data.length =
      if Readable c.mem p.ptr (min c.maxBufferPrefetch (p.availableBytes c sizePar)) then
        min c.maxBufferPrefetch (p.availableBytes c sizePar)
      else 0 := by
  rw [fillBuffer_data]
  split
  · rename_i hr
    obtain ⟨bs, hbs⟩ := readBlob_ok_iff.mpr hr
    rw [readBlob_bytes hbs, Option.getD_some, readBlob_length hbs]
  · rfl

end

end BufferPointer

end Clues
