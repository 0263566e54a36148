import Clues.Types

/-!
# Offsets in two registers

`preadv()`, `pwritev()`, `preadv2()` and `pwritev2()` pass their offset in two registers, the low
half first.

* `CombinedOffsetValue`   the item for such an offset, of `io.cxx`;
* `VectorCall.offset`     the offset that is decoded when the parameters of a call are filled;
* `posFromHilo`           the offset that the kernel uses;
* `HalvesApart`           when the two are equal: `decodes_iff`.
-/

namespace Clues

/-- `CombinedOffsetValue`; `lowerBits` and `val` are the register values of `lowerPar()` and of the
item itself -/
structure CombinedOffsetValue where
  lowerBits : Word := 0
  val : Word := 0
  offset : Int64 := 0

def CombinedOffsetValue.processData (item : CombinedOffsetValue) : CombinedOffsetValue :=
  let upper := item.val.toInt64 <<< 32
  let lower := item.lowerBits.toInt64
  { item with offset := lower ||| upper }

/-- the parameters of the calls with a vector of buffers -/
inductive VectorParam where
  | fd | iov | iovCount | lowerPar | offset | flags

/-- items that are filled after the others; the offset is `LOW_THEN_HIGH` -/
def VectorParam.deferFill : VectorParam → Bool
  | .iov => true
  | _ => false

def VectorParam.fill (word : Word) (item : CombinedOffsetValue) :
    VectorParam → CombinedOffsetValue
  | .lowerPar => { item with lowerBits := word }
  | .offset => { item with val := word }.processData
  | _ => item

/-- `SystemCall::fillParameters()`, as far as it concerns the offset -/
def fillParameters (pars : List VectorParam) (args : Nat → Word) (item : CombinedOffsetValue) :
    CombinedOffsetValue :=
  let numbered := pars.zipIdx
  let fillAll := List.foldl fun item (par, numpar) => VectorParam.fill (args numpar) item par
  fillAll (fillAll item (numbered.filter fun par => !par.1.deferFill))
    (numbered.filter fun par => par.1.deferFill)

inductive VectorCall where
  | preadv | pwritev | preadv2 | pwritev2

/-- `ReadVSystemCall` and `WriteVSystemCall` -/
def vectorPars : List VectorParam := [.fd, .iov, .iovCount]

/-- `PReadVSystemCall` and `PWriteVSystemCall` -/
def positionedPars : List VectorParam := vectorPars ++ [.lowerPar, .offset]

def VectorCall.pars : VectorCall → List VectorParam
  | .preadv | .pwritev => positionedPars
  | .preadv2 | .pwritev2 => positionedPars ++ [.flags]

/-- the decoded offset; the item may have been used before -/
def VectorCall.offset (call : VectorCall) (args : Nat → Word) (item : CombinedOffsetValue) :
    Int64 :=
  (fillParameters call.pars args item).offset

/-! ## the kernel -/

/-- two 32-bit registers, the low one first -/
def halves (high low : Word) : Word := (high.toUInt32.toUInt64 <<< 32) ||| low.toUInt32.toUInt64

/-- the offset of the system call: 64-bit registers hold all of it in the first one -/
def posFromHilo (abi : ABI) (high low : Word) : Int64 :=
  if abi.is32BitEmulation then (halves high low).toInt64 else low.toInt64

def VectorCall.Decodes (call : VectorCall) (abi : ABI) (args : Nat → Word)
    (item : CombinedOffsetValue) : Prop :=
  call.offset args item = posFromHilo abi (args 4) (args 3)

/-- the bits of the one register that overlap those of the other one are set there, too -/
def HalvesApart (abi : ABI) (high low : Word) : Prop :=
  if abi.is32BitEmulation then
    ∀ i < 32, low.toBitVec.getLsbD (32 + i) = true → high.toBitVec.getLsbD i = true
  else ∀ i < 32, high.toBitVec.getLsbD i = true → low.toBitVec.getLsbD (32 + i) = true

/-! ## words -/

section
variable {high low : BitVec 64}

theorem getLsbD_lower_or_upper (high low : BitVec 64) {i : Nat} (hi : i < 64) :
    (low ||| (high <<< 32)).getLsbD i
      = (low.getLsbD i || (decide (32 ≤ i) && high.getLsbD (i - 32))) := by
  rw [BitVec.getLsbD_or, BitVec.getLsbD_shiftLeft]
  by_cases h : i < 32
  · simp [h, Nat.not_le.mpr h]
  · simp [hi, h, Nat.le_of_not_lt h]

/-- nothing of the high word shows, if its bits are set in the low word -/
theorem lower_or_upper_eq_lower_iff :
    low ||| (high <<< 32) = low
      ↔ ∀ i < 32, high.getLsbD i = true → low.getLsbD (32 + i) = true := by
  constructor
  · intro h i hi hbit
    have hi' : 32 + i < 64 := by omega
    have hget := getLsbD_lower_or_upper high low hi'
    rw [h, Nat.add_sub_cancel_left, hbit] at hget
    simpa using hget
  · intro h
    apply BitVec.eq_of_getLsbD_eq
    intro i hi
    rw [getLsbD_lower_or_upper high low hi]
    by_cases h32 : 32 ≤ i
    · obtain ⟨j, rfl⟩ := Nat.exists_eq_add_of_le h32
      have hj := h j (by omega)
      rw [Nat.add_sub_cancel_left]
      cases hb : high.getLsbD j with
      | false => simp
      | true => simp [hj hb]
    · simp [h32]

theorem getLsbD_halves {i : Nat} (hi : i < 64) :
    (((high.setWidth 32).setWidth 64) <<< 32 ||| (low.setWidth 32).setWidth 64).getLsbD i
      = if i < 32 then low.getLsbD i else high.getLsbD (i - 32) := by
  rw [BitVec.getLsbD_or, BitVec.getLsbD_shiftLeft]
  by_cases h : i < 32
  · simp [h, hi, BitVec.getLsbD_setWidth]
  · have hsub : i - 32 < 32 := by omega
    have hsub' : i - 32 < 64 := by omega
    simp [h, hi, hsub, hsub', BitVec.getLsbD_setWidth]

/-- nothing of the upper half of the low word shows, if its bits are set in the high word -/
theorem lower_or_upper_eq_halves_iff :
    low ||| (high <<< 32)
        = (((high.setWidth 32).setWidth 64) <<< 32 ||| (low.setWidth 32).setWidth 64)
      ↔ ∀ i < 32, low.getLsbD (32 + i) = true → high.getLsbD i = true := by
  constructor
  · intro h i hi hbit
    have hi' : 32 + i < 64 := by omega
    have hn : ¬ 32 + i < 32 := by omega
    have hget := getLsbD_lower_or_upper high low hi'
    rw [h, getLsbD_halves hi', if_neg hn, Nat.add_sub_cancel_left, hbit] at hget
    simpa using hget
  · intro h
    apply BitVec.eq_of_getLsbD_eq
    intro i hi
    rw [getLsbD_lower_or_upper high low hi, getLsbD_halves hi]
    by_cases h32 : i < 32
    · simp [h32, Nat.not_le.mpr h32]
    · obtain ⟨j, rfl⟩ := Nat.exists_eq_add_of_le (Nat.le_of_not_lt h32)
      have hj := h j (by omega)
      rw [if_neg h32, Nat.add_sub_cancel_left]
      cases hb : low.getLsbD (32 + j) with
      | false => simp
      | true => simp [hj hb]

end

/-! ## decoding -/

/-- each of the calls decodes the words of its fourth and fifth argument -/
theorem VectorCall.offset_eq (call : VectorCall) (args : Nat → Word) (item : CombinedOffsetValue) :
    call.offset args item = (args 3 ||| (args 4 <<< 32)).toInt64 := by
  cases call <;> rfl

theorem toInt64_inj {a b : Word} : a.toInt64 = b.toInt64 ↔ a.toBitVec = b.toBitVec := by
  constructor
  · intro h
    exact congrArg Int64.toBitVec h
  · intro h
    exact Int64.toBitVec_inj.mp h

/-- for each call, ABI and pair of registers, also where the item held another offset before: the
offset is the one of the kernel if and only if no bit of one register leaks into the other -/
theorem decodes_iff_apart (call : VectorCall) (abi : ABI) (args : Nat → Word)
    (item : CombinedOffsetValue) :
    call.Decodes abi args item ↔ HalvesApart abi (args 4) (args 3) := by
  unfold VectorCall.Decodes posFromHilo HalvesApart
  rw [VectorCall.offset_eq]
  split
  · rw [toInt64_inj]
    exact lower_or_upper_eq_halves_iff
  · rw [toInt64_inj]
    exact lower_or_upper_eq_lower_iff

/-- a 64-bit process whose fifth argument is not 0 -/
theorem decodes_fails :
    ¬ ∀ (call : VectorCall) (abi : ABI) (args : Nat → Word) (item : CombinedOffsetValue),
      call.Decodes abi args item := by
  intro h
  have h1 := h .preadv .x86_64 (fun i => if i = 4 then 1 else 0) {}
  have h2 : ¬ VectorCall.preadv.Decodes .x86_64 (fun i => if i = 4 then 1 else 0) {} := by
    show ¬ (4294967296 : Int64) = 0
    decide
  exact h2 h1

end Clues
