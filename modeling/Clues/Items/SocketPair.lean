import Clues.Items.BufferPointer
import Clues.Syscalls.Creating

/-!
# The descriptors of socketpair()

* `SocketPair`        the item for the two descriptors, in `items/net.cxx`;
* `SocketPairCall`    a successful call: the kernel has written its descriptors;
* `holdsPair_iff`     when the item holds these and they are what is tracked.
-/

namespace Clues

open Lib Lib.LittleEndian

/-- the item for the array of `socketpair()`; `m_pair` has two elements -/
structure SocketPair where
  ptr : UInt64
  valid : Bool := false
  pair : List FileNum := []

/-- an element of a `std::vector<int>` -/
def intOfBytes (bs : Bytes) : FileNum := FileNum.ofWord (UInt64.ofNat (le bs))

namespace SocketPair

def processData (p : SocketPair) : SocketPair :=
  { p with valid := false, pair := [FileNum.invalid, FileNum.invalid] }

/-- the elements that are not read stay as they are -/
def updateData (c : ItemContext) (p : SocketPair) : Except Exc SocketPair :=
  if !c.hasResultValue then .ok p
  else
    (readVector c.mem .int p.ptr 2 true).map fun fds =>
      { p with valid := true, pair := fds.map intOfBytes ++ p.pair.drop fds.length }

end SocketPair

/-- a successful call: two descriptors that are not negative, in the memory on exit -/
structure SocketPairCall where
  sv : UInt64
  domain : Word
  type : Word
  exit : ItemContext
  map : FDInfoMap
  fd : FileNum
  fd' : FileNum
  nonneg : 0 ≤ fd ∧ 0 ≤ fd'
  range : fd.toNat < 2 ^ 31 ∧ fd'.toNat < 2 ^ 31
  distinct : fd ≠ fd'
  succeeded : exit.hasResultValue = true
  written : bytesAt exit.mem sv 8 = some (toLE 4 fd.toNat ++ toLE 4 fd'.toNat)

namespace SocketPairCall

/-- the item on exit -/
def item (call : SocketPairCall) : Except Exc SocketPair :=
  ({ ptr := call.sv : SocketPair }.processData).updateData call.exit

/-- the map after `updateFDTracking()` -/
def tracked (call : SocketPairCall) (p : SocketPair) : FDInfoMap :=
  SocketPairSystemCall.updateFDTracking p.pair call.domain call.type call.map

def info (call : SocketPairCall) (fd : FileNum) : FDInfo :=
  makeSocketInfo fd call.type (some (FileNum.ofWord call.domain))
    (some (FileNum.ofWord (call.type &&& 0xf)))

/-- the item holds the two descriptors, and these are what is added to the map; an entry that is
there already is kept -/
def HoldsPair (call : SocketPairCall) : Prop :=
  ∃ p, call.item = .ok p ∧ p.valid = true ∧ p.pair = [call.fd, call.fd'] ∧
    ∀ fd, (call.tracked p).find? fd = (call.map.find? fd).or
      (if fd = call.fd ∨ fd = call.fd' then some (call.info fd) else none)

/-! ## elements -/

section
variable {fd : Int}

theorem le_descriptor (hlt : fd.toNat < 2 ^ 31) : le (toLE 4 fd.toNat) = fd.toNat :=
  le_toLE_of_lt (hlt.trans (by norm_num))

theorem intOfBytes_toLE (h0 : 0 ≤ fd) (hlt : fd.toNat < 2 ^ 31) :
    intOfBytes (toLE 4 fd.toNat) = fd := by
  have hnat : (UInt64.ofNat fd.toNat).toNat = fd.toNat := by
    rw [UInt64.toNat_ofNat']
    exact Nat.mod_eq_of_lt (hlt.trans (by norm_num))
  have hbmod : Int.bmod (fd.toNat : Int) (2 ^ 32) = fd.toNat := by
    apply Int.bmod_eq_of_le_mul_two
    · omega
    · omega
  unfold intOfBytes FileNum.ofWord
  rw [le_descriptor hlt, hnat]
  exact hbmod.trans (Int.toNat_of_nonneg h0)

/-- only the descriptor 0 has an element that is zero -/
theorem isZero_toLE (h0 : 0 ≤ fd) (hlt : fd.toNat < 2 ^ 31) :
    isZero (toLE 4 fd.toNat) = true ↔ fd = 0 := by
  constructor
  · intro h
    have hbytes : toLE 4 fd.toNat = List.replicate 4 0 := by
      refine List.eq_replicate_iff.mpr ⟨length_toLE 4 fd.toNat, fun b hb => ?_⟩
      exact beq_iff_eq.mp (List.all_eq_true.mp h b hb)
    have hle : le (toLE 4 fd.toNat) = le (List.replicate 4 0) := congrArg le hbytes
    rw [le_descriptor hlt] at hle
    have hzero : fd.toNat = 0 := hle
    omega
  · rintro rfl
    rfl

end

/-! ## the vector -/

/-- two elements in a word: they end before the first one that is zero -/
theorem extent_pair {m : Memory} {a : UInt64} {xs ys : Bytes} (hx : xs.length = 4)
    (hw : bytesAt m a 8 = some (xs ++ ys)) : extent m .int true 2 a =
      some (if isZero xs then ⟨[], 4⟩ else if isZero ys then ⟨[xs], 8⟩ else ⟨[xs, ys], 8⟩) := by
  obtain ⟨h0, h1⟩ := bytesAt_split (n := 4) (k := 4) hw
  rw [List.take_left' hx] at h0
  rw [List.drop_left' hx] at h1
  have hfst : bytesAt m a Elem.int.size = some xs := h0
  have hsnd : bytesAt m (a + UInt64.ofNat Elem.int.size) Elem.int.size = some ys := h1
  rw [extent, hfst, extent, hsnd]
  cases hzx : isZero xs with
  | true =>
    simp [hzx]
    rfl
  | false =>
    cases hzy : isZero ys with
    | true =>
      simp [hzx, hzy]
      rfl
    | false =>
      simp [hzx, hzy, extent]
      rfl

theorem readVector_pair {m : Memory} {a : UInt64} {xs ys : Bytes} (hx : xs.length = 4)
    (hw : bytesAt m a 8 = some (xs ++ ys)) : readVector m .int a 2 true =
      .ok (if isZero xs then [] else if isZero ys then [xs] else [xs, ys]) := by
  have hread := readVector_eq (m := m) .int a 2 true
  have hlimit : limit 2 = 2 := rfl
  have hword : (bytesAt m a wordSize).isSome = true := by
    rw [show wordSize = 8 from rfl, hw]
    rfl
  -- the elements end in the first word
  have hwords : words (if isZero xs then (⟨[], 4⟩ : Extent)
      else if isZero ys then ⟨[xs], 8⟩ else ⟨[xs, ys], 8⟩).bytes = wordSize := by
    have h4 : words 4 = wordSize := rfl
    have h8 : words 8 = wordSize := words_of_le (by decide) le_rfl
    split_ifs
    · exact h4
    · exact h8
    · exact h8
  rw [hlimit, extent_pair hx hw, Option.bind_some, hwords, if_pos hword] at hread
  cases hr : readVector m .int a 2 true with
  | error e =>
    rw [hr] at hread
    cases hread
  | ok fds =>
    rw [hr] at hread
    rw [Option.some.inj hread]
    split_ifs <;> rfl

/-- the item on exit -/
theorem item_eq (call : SocketPairCall) : call.item = .ok
    { ptr := call.sv, valid := true, pair := socketPair call.fd call.fd' } := by
  obtain ⟨h0, h0'⟩ := call.nonneg
  obtain ⟨hlt, hlt'⟩ := call.range
  have hread := readVector_pair (length_toLE 4 _) call.written
  have hz := isZero_toLE h0 hlt
  have hz' := isZero_toLE h0' hlt'
  unfold item SocketPair.updateData SocketPair.processData
  rw [call.succeeded]
  dsimp only
  rw [hread, Bool.not_true, if_neg Bool.false_ne_true]
  unfold socketPair
  by_cases hfd : call.fd = 0
  · rw [if_pos (hz.mpr hfd), if_pos hfd]
    rfl
  · rw [if_neg (fun h => hfd (hz.mp h)), if_neg hfd]
    by_cases hfd' : call.fd' = 0
    · rw [if_pos (hz'.mpr hfd'), if_pos hfd']
      show Except.ok (⟨call.sv, true, [intOfBytes _] ++ _⟩ : SocketPair) = _
      rw [intOfBytes_toLE h0 hlt]
      rfl
    · rw [if_neg (fun h => hfd' (hz'.mp h)), if_neg hfd']
      show Except.ok (⟨call.sv, true, [intOfBytes _, intOfBytes _] ++ _⟩ : SocketPair) = _
      rw [intOfBytes_toLE h0 hlt, intOfBytes_toLE h0' hlt']
      rfl

/-! ## the map -/

theorem find?_tracked (call : SocketPairCall) {p : SocketPair}
    (hp : p.pair = [call.fd, call.fd']) (fd : FileNum) :
    (call.tracked p).find? fd = (call.map.find? fd).or
      (if fd = call.fd ∨ fd = call.fd' then some (call.info fd) else none) := by
  have hvalid : ∀ q, 0 ≤ q → q ≠ FileNum.invalid := by
    rintro q hq rfl
    exact absurd hq (by decide)
  obtain ⟨h0, h0'⟩ := call.nonneg
  have htrack : call.tracked p = trackFD (call.info call.fd') (trackFD (call.info call.fd) call.map) := by
    unfold tracked SocketPairSystemCall.updateFDTracking
    rw [hp]
    rfl
  rw [htrack, find?_trackFD (hvalid _ h0'), find?_trackFD (hvalid _ h0), Option.or_assoc]
  congr 1
  show (if fd = call.fd then some (call.info call.fd) else none).or
    (if fd = call.fd' then some (call.info call.fd') else none) = _
  by_cases h : fd = call.fd
  · rw [if_pos h, if_pos (Or.inl h), h]
    rfl
  · rw [if_neg h, Option.none_or]
    by_cases h' : fd = call.fd'
    · rw [if_pos h', if_pos (Or.inr h'), h']
    · rw [if_neg h', if_neg (not_or.mpr ⟨h, h'⟩)]

/-- for every pair, memory and map -/
theorem holdsPair_iff (call : SocketPairCall) : call.HoldsPair ↔ call.fd ≠ 0 ∧ call.fd' ≠ 0 := by
  constructor
  · rintro ⟨p, hp, -, hpair, -⟩
    obtain ⟨h0, h0'⟩ := call.nonneg
    have hsocket : socketPair call.fd call.fd' = [call.fd, call.fd'] := by
      rw [call.item_eq] at hp
      rw [← hpair, ← Except.ok.inj hp]
    unfold socketPair at hsocket
    split_ifs at hsocket with hfd hfd'
    · rw [← (List.cons.inj hsocket).1] at h0
      exact absurd h0 (by decide)
    · rw [← (List.cons.inj (List.cons.inj hsocket).2).1] at h0'
      exact absurd h0' (by decide)
    · exact ⟨hfd, hfd'⟩
  · rintro ⟨hfd, hfd'⟩
    have hpair : socketPair call.fd call.fd' = [call.fd, call.fd'] := by
      unfold socketPair
      rw [if_neg hfd, if_neg hfd']
    exact ⟨_, call.item_eq, rfl, hpair, call.find?_tracked hpair⟩

/-- descriptors 0 and 4 -/
def withStdin : SocketPairCall where
  sv := 64
  domain := 1
  type := 1
  exit := { mem := fun a => if a = 68 then some 4 else some 0, maxBufferPrefetch := 0
            is32BitEmulationABI := false, hasResultValue := true }
  map := OrdMap.empty
  fd := 0
  fd' := 4
  nonneg := by decide
  range := by decide
  distinct := by decide
  succeeded := rfl
  written := by decide +kernel

/-- neither of the two is in the item -/
theorem holdsPair_fails : ¬ ∀ call : SocketPairCall, call.HoldsPair := by
  intro h
  obtain ⟨p, hp, -, hpair, -⟩ := h withStdin
  have hsocket : socketPair 0 4 = [0, 4] := by
    rw [withStdin.item_eq] at hp
    exact (congrArg SocketPair.pair (Except.ok.inj hp)).trans hpair
  exact absurd hsocket (by decide)

end SocketPairCall

end Clues
