import Clues.Items.MsgStructs
import Clues.Lib.Split

/-!
# Vectors of buffers that are read into

* `IOVectorBase.processData`   reads the array of `struct iovec` on entry;
* `ReadVector.updateData`      fetches what a call has put into the buffers;
* `filled_eq_split`            the bytes of each buffer: the amount is split over them in order.

As for `BufferPointer`, a vector can always be resized.
-/

namespace Clues

open Lib Lib.LittleEndian

/-- `sizeof(struct iovec)`, and of `struct iovec32` -/
def iovecSize (is32 : Bool) : Nat := if is32 then 8 else 16

namespace IOVectorBase

/-- `IOVectorBase::Buffer` -/
structure Buffer where
  base : UInt64
  len : Nat
  filled : Nat := 0
  data : Bytes := []
  deriving DecidableEq, Repr

/-- a buffer with the `iov_base` and `iov_len` of these bytes -/
def Buffer.ofBytes (is32 : Bool) (bs : Bytes) : Buffer :=
  if is32 then { base := UInt64.ofNat (numberAt bs 0 4), len := numberAt bs 4 4 }
  else { base := UInt64.ofNat (numberAt bs 0 8), len := numberAt bs 8 8 }

/-- each member of each buffer is set again -/
def processData (c : ItemContext) (ptr : UInt64) (vectorCount : Word) : Except Exc (List Buffer) :=
  (readStructs c.mem (iovecSize c.is32BitEmulationABI) vectorCount.toNat ptr).map fun specs =>
    match specs with
    | some specs => specs.map (Buffer.ofBytes c.is32BitEmulationABI)
    | none => []

def fetchBuffer (c : ItemContext) (buffer : Buffer) (leftToFetch : Nat) : Buffer :=
  if buffer.len = 0 then buffer
  else
    let filled := min leftToFetch buffer.len
    match readBlob c.mem buffer.base (min c.maxBufferPrefetch filled) with
    | .ok data => { buffer with filled := filled, data := data }
    | .error _ => { buffer with filled := filled, data := [] }

end IOVectorBase

namespace ReadVector

open IOVectorBase

/-- the loop of `updateData()` -/
def fetchBuffers (c : ItemContext) : Nat → List Buffer → List Buffer
  | _, [] => []
  | leftToFetch, buffer :: buffers =>
    if leftToFetch = 0 then buffer :: buffers
    else
      let buffer := fetchBuffer c buffer leftToFetch
      buffer :: fetchBuffers c (leftToFetch - buffer.filled) buffers

/-- the other argument is the value of `m_obtained_bytes_par` -/
def updateData (c : ItemContext) (obtainedBytes : Word) (buffers : List Buffer) : List Buffer :=
  if !c.hasResultValue then buffers else fetchBuffers c obtainedBytes.toNat buffers

/-! ## one buffer -/

section
variable {c : ItemContext} {is32 : Bool} {left : Nat} {b : Buffer} {buffers : List Buffer}

/-- nothing has been fetched -/
def Fresh (b : Buffer) : Prop := b.filled = 0 ∧ b.data = []

/-- the fetched data are a prefix of what was filled, or that prefix cannot be read -/
def Fetched (c : ItemContext) (b : Buffer) : Prop :=
  bytesAt c.mem b.base (min c.maxBufferPrefetch b.filled) = some b.data ∨
    b.data = [] ∧ ¬ BufferPointer.Readable c.mem b.base (min c.maxBufferPrefetch b.filled)

theorem fresh_ofBytes (bs : Bytes) : Fresh (Buffer.ofBytes is32 bs) := by
  unfold Buffer.ofBytes
  split <;> exact ⟨rfl, rfl⟩

theorem Fresh.fetched (h : Fresh b) : Fetched c b := by
  left
  rw [h.1, h.2, Nat.min_zero]
  rfl

/-- where the buffer is, and how long -/
theorem fetchBuffer_spec (c : ItemContext) (b : Buffer) (left : Nat) :
    (fetchBuffer c b left).base = b.base ∧ (fetchBuffer c b left).len = b.len := by
  unfold fetchBuffer
  split
  · exact ⟨rfl, rfl⟩
  · dsimp only
    split <;> exact ⟨rfl, rfl⟩

theorem fetchBuffer_filled (h : Fresh b) : (fetchBuffer c b left).filled = min left b.len := by
  unfold fetchBuffer
  split
  · rename_i h0
    rw [h0, Nat.min_zero]
    exact h.1
  · dsimp only
    split <;> rfl

theorem fetched_fetchBuffer (h : Fresh b) : Fetched c (fetchBuffer c b left) := by
  unfold fetchBuffer
  split
  · exact h.fetched
  · dsimp only
    split
    · rename_i data hread
      exact Or.inl (BufferPointer.readBlob_bytes hread)
    · rename_i e hread
      right
      refine ⟨rfl, fun hr => ?_⟩
      obtain ⟨bs, hbs⟩ := BufferPointer.readBlob_ok_iff.mpr hr
      change readBlob c.mem b.base _ = .ok bs at hbs
      rw [hread] at hbs
      cases hbs

/-! ## all buffers -/

theorem fetchBuffers_zero : fetchBuffers c 0 buffers = buffers := by
  cases buffers with
  | nil => rfl
  | cons b buffers => rfl

theorem fetchBuffers_cons (h : Fresh b) (hleft : left ≠ 0) :
    fetchBuffers c left (b :: buffers)
      = fetchBuffer c b left :: fetchBuffers c (left - min left b.len) buffers := by
  rw [fetchBuffers, if_neg hleft]
  dsimp only
  rw [fetchBuffer_filled h]

theorem filled_eq_split (left : Nat) (h : ∀ b ∈ buffers, Fresh b) :
    (fetchBuffers c left buffers).map Buffer.filled = split left (buffers.map Buffer.len) := by
  induction buffers generalizing left with
  | nil => rfl
  | cons b buffers ih =>
    have hb := h b List.mem_cons_self
    have hrest := fun b' hb' => h b' (List.mem_cons_of_mem b hb')
    by_cases h0 : left = 0
    · -- the loop ends, and the parts of the split are all 0
      subst h0
      rw [fetchBuffers_zero, split_zero]
      refine List.eq_replicate_iff.mpr ⟨by simp, ?_⟩
      intro n hn
      obtain ⟨b', hb', rfl⟩ := List.mem_map.mp hn
      exact (h b' hb').1
    · rw [fetchBuffers_cons hb h0, List.map_cons, List.map_cons, split,
        fetchBuffer_filled hb, ih _ hrest]

/-- the buffers stay where they are -/
theorem fetchBuffers_spec (left : Nat) (buffers : List Buffer) :
    (fetchBuffers c left buffers).map (fun b => (b.base, b.len))
      = buffers.map (fun b => (b.base, b.len)) := by
  induction buffers generalizing left with
  | nil => rfl
  | cons b buffers ih =>
    rw [fetchBuffers]
    split
    · rfl
    · obtain ⟨hbase, hlen⟩ := fetchBuffer_spec c b left
      rw [List.map_cons, List.map_cons, ih, hbase, hlen]

theorem fetched_fetchBuffers (left : Nat) (h : ∀ b ∈ buffers, Fresh b) :
    ∀ b ∈ fetchBuffers c left buffers, Fetched c b := by
  induction buffers generalizing left with
  | nil =>
    intro b hb
    cases hb
  | cons b buffers ih =>
    have hrest := fun b' hb' => h b' (List.mem_cons_of_mem b hb')
    rw [fetchBuffers]
    intro b' hb'
    split at hb'
    · exact (h b' hb').fetched
    · rcases List.mem_cons.mp hb' with rfl | hb'
      · exact fetched_fetchBuffer (h b List.mem_cons_self)
      · exact ih _ hrest b' hb'

/-! ## a call -/

/-- the bytes of a result are split over the buffers in order -/
structure SplitsGreedily (c : ItemContext) (result : Nat) (buffers : List Buffer) : Prop where
  sum : (buffers.map Buffer.filled).sum = min result (buffers.map Buffer.len).sum
  le : ∀ b ∈ buffers, b.filled ≤ b.len
  full : buffers.Pairwise fun b b' => b'.filled ≠ 0 → b.filled = b.len
  data : ∀ b ∈ buffers, Fetched c b

theorem splitsGreedily_fetchBuffers (result : Nat) (h : ∀ b ∈ buffers, Fresh b) :
    SplitsGreedily c result (fetchBuffers c result buffers) := by
  have hfilled := filled_eq_split (c := c) result h
  have hspec := fetchBuffers_spec (c := c) result buffers
  have hlen : (fetchBuffers c result buffers).map Buffer.len = buffers.map Buffer.len := by
    have := congrArg (List.map Prod.snd) hspec
    rwa [List.map_map, List.map_map] at this
  have hzip : (fetchBuffers c result buffers).map (fun b => (b.len, b.filled))
      = (buffers.map Buffer.len).zip (split result (buffers.map Buffer.len)) := by
    rw [← hfilled, ← hlen, List.zip_map']
  refine ⟨?_, ?_, ?_, fetched_fetchBuffers result h⟩
  · rw [hfilled, hlen, sum_split]
  · intro b hb
    have hp : (b.len, b.filled) ∈ (fetchBuffers c result buffers).map fun b => (b.len, b.filled) :=
      List.mem_map.mpr ⟨b, hb, rfl⟩
    rw [hzip] at hp
    exact split_le _ _ _ hp
  · have hfull := split_full result (buffers.map Buffer.len)
    rw [← hzip] at hfull
    exact List.pairwise_map.mp hfull

theorem iovecSize_whole (is32 : Bool) :
    ∃ k, iovecSize is32 = wordSize * k ∧ 0 < iovecSize is32 := by
  cases is32 with
  | false => exact ⟨2, rfl, by decide⟩
  | true => exact ⟨1, rfl, by decide⟩

end

/-- for each array that can be read on entry, whatever the memory is on exit: the filled bytes are
the split of the result over the elements -/
theorem updateData_splitsGreedily (c c' : ItemContext) (ptr : UInt64)
    (vectorCount obtainedBytes : Word) (specs : List Bytes)
    (hread : structsAt c.mem (iovecSize c.is32BitEmulationABI) vectorCount.toNat ptr = some specs)
    (hresult : c'.hasResultValue = true) :
    ∃ buffers, (processData c ptr vectorCount).map (updateData c' obtainedBytes) = .ok buffers ∧
      buffers.map (fun b => (b.base, b.len)) =
        specs.map (fun bs => ((Buffer.ofBytes c.is32BitEmulationABI bs).base,
          (Buffer.ofBytes c.is32BitEmulationABI bs).len)) ∧
      SplitsGreedily c' obtainedBytes.toNat buffers := by
  obtain ⟨k, hk, hpos⟩ := iovecSize_whole c.is32BitEmulationABI
  have hfresh : ∀ b ∈ specs.map (Buffer.ofBytes c.is32BitEmulationABI), Fresh b := by
    intro b hb
    obtain ⟨bs, -, rfl⟩ := List.mem_map.mp hb
    exact fresh_ofBytes bs
  have hrun : (processData c ptr vectorCount).map (updateData c' obtainedBytes)
      = .ok (fetchBuffers c' obtainedBytes.toNat
        (specs.map (Buffer.ofBytes c.is32BitEmulationABI))) := by
    unfold processData
    rw [readStructs_eq hk hpos, hread]
    show Except.ok (updateData c' obtainedBytes _) = _
    unfold updateData
    rw [hresult]
    rfl
  refine ⟨_, hrun, ?_, splitsGreedily_fetchBuffers obtainedBytes.toNat hfresh⟩
  rw [fetchBuffers_spec, List.map_map]
  rfl

/-- two buffers of 8 bytes at 16 and 24 behind an empty one, described at 64 -/
def threeBuffers : Memory := fun a =>
  if a < 32 then some 7
  else if a = 80 then some 16
  else if a = 88 ∨ a = 104 then some 8
  else if a = 96 then some 24
  else if 64 ≤ a ∧ a < 112 then some 0 else none

def threeContext : ItemContext where
  mem := threeBuffers
  maxBufferPrefetch := 4
  is32BitEmulationABI := false
  hasResultValue := true

/-- a result of 11 bytes: the first of the two is full, and 3 bytes are in the second one -/
theorem updateData_splitsGreedily_three :
    ∃ buffers, (processData threeContext 64 3).map (updateData threeContext 11) = .ok buffers ∧
      buffers.map (fun b => (b.base, b.len)) = [(0, 0), (16, 8), (24, 8)] ∧
      SplitsGreedily threeContext 11 buffers := by
  have hread : structsAt threeContext.mem (iovecSize threeContext.is32BitEmulationABI)
      (3 : Word).toNat 64 = some [List.replicate 16 0, 16 :: List.replicate 7 0 ++ 8 ::
        List.replicate 7 0, 24 :: List.replicate 7 0 ++ 8 :: List.replicate 7 0] := by
    decide +kernel
  obtain ⟨buffers, hrun, hspec, hsplit⟩ :=
    updateData_splitsGreedily threeContext threeContext 64 3 11 _ hread rfl
  exact ⟨buffers, hrun, hspec.trans (by decide +kernel), hsplit⟩

end ReadVector

end Clues
