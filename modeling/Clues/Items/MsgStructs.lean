import Clues.Items.BufferPointer
import Clues.Lib.LittleEndian

/-!
# The structs of message system calls

* `Msghdr`        `struct msghdr`, read from 64-bit or from 32-bit processes;
* `Mmsghdr`       `struct mmsghdr`, an element of the vectors of `sendmmsg()` and `recvmmsg()`;
* `readStructs`   reads an array of structs; `readStructs_eq`: all of them, or nothing.
-/

namespace Clues

open Lib.LittleEndian

/-- `struct msghdr` -/
structure Msghdr where
  name : UInt64
  namelen : UInt32
  iov : UInt64
  iovlen : UInt64
  control : UInt64
  controllen : UInt64
  flags : UInt32
  deriving DecidableEq, Repr

/-- the number in a field -/
def numberAt (bs : Bytes) (offset size : Nat) : Nat := le ((bs.drop offset).take size)

/-- the signed number in a field -/
def signedAt (bs : Bytes) (offset size : Nat) : Int :=
  Int.bmod (numberAt bs offset size) (256 ^ size)

def Msghdr.size : Nat := 56

/-- the fields of the struct of the tracer -/
def Msghdr.ofBytes (bs : Bytes) : Msghdr :=
  { name := UInt64.ofNat (numberAt bs 0 8)
    namelen := UInt32.ofNat (numberAt bs 8 4)
    iov := UInt64.ofNat (numberAt bs 16 8)
    iovlen := UInt64.ofNat (numberAt bs 24 8)
    control := UInt64.ofNat (numberAt bs 32 8)
    controllen := UInt64.ofNat (numberAt bs 40 8)
    flags := UInt32.ofNat (numberAt bs 48 4) }

/-- `struct msghdr32` -/
def msghdr32Size : Nat := 28

/-- `convert_to64()` of the struct with these bytes -/
def Msghdr.ofBytes32 (bs : Bytes) : Msghdr :=
  { name := UInt64.ofNat (numberAt bs 0 4)
    namelen := UInt32.ofNat (numberAt bs 4 4)
    iov := UInt64.ofNat (numberAt bs 8 4)
    iovlen := UInt64.ofNat (numberAt bs 12 4)
    control := UInt64.ofNat (numberAt bs 16 4)
    controllen := UInt64.ofNat (numberAt bs 20 4)
    flags := UInt32.ofNat (numberAt bs 24 4) }

/-- `readStructIntoOptional()` of the header, or `fetchMsgHdr32()` -/
def fetchMsgHdr (c : ItemContext) (ptr : UInt64) : Except Exc (Option Msghdr) :=
  if c.is32BitEmulationABI then
    (Memory.readStructIntoOptional c.mem ptr msghdr32Size msghdr32Size).map
      (Option.map Msghdr.ofBytes32)
  else
    (Memory.readStructIntoOptional c.mem ptr Msghdr.size Msghdr.size).map
      (Option.map Msghdr.ofBytes)

/-- `struct mmsghdr` -/
structure Mmsghdr where
  hdr : Msghdr
  len : UInt32
  deriving DecidableEq, Repr

/-- `sizeof(struct mmsghdr)`, and of `struct mmsghdr32` -/
def mmsghdrSize (is32 : Bool) : Nat := if is32 then 32 else 64

def Mmsghdr.ofBytes (is32 : Bool) (bs : Bytes) : Mmsghdr :=
  if is32 then
    { hdr := Msghdr.ofBytes32 (bs.take msghdr32Size), len := UInt32.ofNat (numberAt bs 28 4) }
  else { hdr := Msghdr.ofBytes (bs.take Msghdr.size), len := UInt32.ofNat (numberAt bs 56 4) }

/-- `Tracee::readStructs()` for so many structs; `none` is the result `false` -/
def readStructs (m : Memory) (size : Nat) : Nat → UInt64 → Except Exc (Option (List Bytes))
  | 0, _ => .ok (some [])
  | n + 1, a => do
    match ← Memory.readStructIntoOptional m a size size with
    | none => .ok none
    | some out =>
      let rest ← readStructs m size n (a + UInt64.ofNat size)
      pure (rest.map (out :: ·))

/-- the bytes of the structs; `none`: a pointer is null, or not all of them can be read -/
def structsAt (m : Memory) (size : Nat) : Nat → UInt64 → Option (List Bytes)
  | 0, _ => some []
  | n + 1, a =>
    if a = 0 then none
    else
      (bytesAt m a size).bind fun out =>
        (structsAt m size n (a + UInt64.ofNat size)).map (out :: ·)

section
variable {m : Memory} {a : UInt64} {size n : Nat}

theorem padTo_self {bs : Bytes} (h : bs.length = size) : padTo size bs = bs := by
  unfold padTo
  rw [h, Nat.sub_self, List.replicate_zero, List.append_nil]

/-- structs of whole words are read exactly -/
theorem readStruct_whole {k : Nat} (hk : size = wordSize * k) (hpos : 0 < size) :
    Memory.readStructIntoOptional m a size size
      = .ok (if a = 0 then none else bytesAt m a size) := by
  have hfetched : fetched size = size := by
    unfold fetched words wordSize at *
    omega
  have hfits : StructFits m a size size := by
    unfold StructFits BlobFits
    rw [if_pos le_rfl, hfetched]
    exact Or.inr fun h => h
  rw [(Memory.readStructIntoOptional_iff hk size).mpr hfits]
  unfold structAt
  rw [Nat.min_self]
  split
  · rfl
  · cases hb : bytesAt m a size with
    | none => rfl
    | some bs =>
      rw [Option.map_some, padTo_self (bytesAt_length hb)]

theorem readStructs_eq {k : Nat} (hk : size = wordSize * k) (hpos : 0 < size) :
    readStructs m size n a = .ok (structsAt m size n a) := by
  induction n generalizing a with
  | zero => rfl
  | succ n ih =>
    rw [readStructs, structsAt, readStruct_whole hk hpos]
    by_cases ha : a = 0
    · rw [if_pos ha, if_pos ha]
      rfl
    · rw [if_neg ha, if_neg ha]
      cases bytesAt m a size with
      | none => rfl
      | some out =>
        show (readStructs m size n (a + UInt64.ofNat size) >>= _) = _
        rw [ih]
        cases structsAt m size n (a + UInt64.ofNat size) <;> rfl

theorem structsAt_length {bs : List Bytes} (h : structsAt m size n a = some bs) :
    bs.length = n := by
  induction n generalizing a bs with
  | zero =>
    cases h
    rfl
  | succ n ih =>
    rw [structsAt] at h
    split at h
    · cases h
    · cases hb : bytesAt m a size with
      | none =>
        rw [hb] at h
        cases h
      | some out =>
        cases hr : structsAt m size n (a + UInt64.ofNat size) with
        | none =>
          rw [hb, hr] at h
          cases h
        | some rest =>
          rw [hb, hr] at h
          cases h
          rw [List.length_cons, ih hr]

/-- the bytes of one of the structs -/
theorem structsAt_getElem {bs : List Bytes} {i : Nat} {b : Bytes}
    (h : structsAt m size n a = some bs) (hi : bs[i]? = some b) :
    bytesAt m (a + UInt64.ofNat (size * i)) size = some b := by
  induction n generalizing a bs i with
  | zero =>
    cases h
    cases hi
  | succ n ih =>
    rw [structsAt] at h
    split at h
    · cases h
    · cases hb : bytesAt m a size with
      | none =>
        rw [hb] at h
        cases h
      | some out =>
        cases hr : structsAt m size n (a + UInt64.ofNat size) with
        | none =>
          rw [hb, hr] at h
          cases h
        | some rest =>
          rw [hb, hr] at h
          cases h
          cases i with
          | zero =>
            cases hi
            have h0 : a + UInt64.ofNat (size * 0) = a := UInt64.add_zero a
            rw [h0]
            exact hb
          | succ i =>
            have hnext := ih hr hi
            rw [ofNat_add_assoc] at hnext
            rw [Nat.mul_succ, Nat.add_comm]
            exact hnext

/-- the bytes of a part of a struct -/
theorem bytesAt_part {bs : Bytes} (offset part rest : Nat)
    (h : bytesAt m a (offset + (part + rest)) = some bs) :
    bytesAt m (a + UInt64.ofNat offset) part = some ((bs.drop offset).take part) :=
  (bytesAt_split (bytesAt_split h).2).1

theorem mmsghdrSize_whole (is32 : Bool) :
    ∃ k, mmsghdrSize is32 = wordSize * k ∧ 0 < mmsghdrSize is32 := by
  cases is32 with
  | false => exact ⟨8, rfl, by decide⟩
  | true => exact ⟨4, rfl, by decide⟩

end

/-- `fetchRawHeaders()`: an array that cannot be allocated is an exception; `none` is the result
`false` -/
def fetchRawHeaders (alloc : Nat → Bool) (c : ItemContext) (ptr : UInt64) (numMsgs : Word) :
    Except Exc (Option (List Mmsghdr)) :=
  let count := numMsgs.toUInt32.toNat
  if alloc (count * mmsghdrSize c.is32BitEmulationABI) then
    (readStructs c.mem (mmsghdrSize c.is32BitEmulationABI) count ptr).map
      (Option.map (List.map (Mmsghdr.ofBytes c.is32BitEmulationABI)))
  else .error (.std .badAlloc)

/-- the array of the tracee -/
def rawHeadersAt (c : ItemContext) (ptr : UInt64) (numMsgs : Word) : Option (List Mmsghdr) :=
  (structsAt c.mem (mmsghdrSize c.is32BitEmulationABI) numMsgs.toUInt32.toNat ptr).map
    (List.map (Mmsghdr.ofBytes c.is32BitEmulationABI))

theorem fetchRawHeaders_eq (alloc : Nat → Bool) (c : ItemContext) (ptr : UInt64) (numMsgs : Word) :
    fetchRawHeaders alloc c ptr numMsgs
      = if alloc (numMsgs.toUInt32.toNat * mmsghdrSize c.is32BitEmulationABI) then
          .ok (rawHeadersAt c ptr numMsgs)
        else .error (.std .badAlloc) := by
  obtain ⟨k, hk, hpos⟩ := mmsghdrSize_whole c.is32BitEmulationABI
  unfold fetchRawHeaders
  dsimp only
  split
  · rw [readStructs_eq hk hpos]
    rfl
  · rfl

theorem rawHeadersAt_length {c : ItemContext} {ptr : UInt64} {numMsgs : Word}
    {raw : List Mmsghdr} (h : rawHeadersAt c ptr numMsgs = some raw) :
    raw.length = numMsgs.toUInt32.toNat := by
  unfold rawHeadersAt at h
  cases hs : structsAt c.mem (mmsghdrSize c.is32BitEmulationABI) numMsgs.toUInt32.toNat ptr with
  | none =>
    rw [hs] at h
    cases h
  | some bs =>
    rw [hs] at h
    cases h
    rw [List.length_map, structsAt_length hs]

/-- the length in an element of the array -/
theorem rawHeadersAt_len {c : ItemContext} {ptr : UInt64} {numMsgs : Word} {raw : List Mmsghdr}
    {i : Nat} {x : Mmsghdr} (h : rawHeadersAt c ptr numMsgs = some raw) (hi : raw[i]? = some x) :
    (bytesAt c.mem (ptr + UInt64.ofNat (mmsghdrSize c.is32BitEmulationABI * i +
      if c.is32BitEmulationABI then msghdr32Size else Msghdr.size)) 4).map
        (fun bs => UInt32.ofNat (le bs)) = some x.len := by
  unfold rawHeadersAt at h
  cases hs : structsAt c.mem (mmsghdrSize c.is32BitEmulationABI) numMsgs.toUInt32.toNat ptr with
  | none =>
    rw [hs] at h
    cases h
  | some bs =>
    rw [hs] at h
    cases h
    rw [List.getElem?_map] at hi
    cases hb : bs[i]? with
    | none =>
      rw [hb] at hi
      cases hi
    | some b =>
      rw [hb] at hi
      cases hi
      have hstruct := structsAt_getElem hs hb
      rw [← ofNat_add_assoc]
      cases habi : c.is32BitEmulationABI with
      | true =>
        rw [habi] at hstruct
        have hpart := bytesAt_part 28 4 0 hstruct
        show (bytesAt c.mem (ptr + UInt64.ofNat (mmsghdrSize true * i) + UInt64.ofNat 28) 4).map _
          = _
        rw [hpart]
        rfl
      | false =>
        rw [habi] at hstruct
        have hpart := bytesAt_part 56 4 4 hstruct
        show (bytesAt c.mem (ptr + UInt64.ofNat (mmsghdrSize false * i) + UInt64.ofNat 56) 4).map _
          = _
        rw [hpart]
        rfl

end Clues
