import Clues.Items.MsgStructs
import Clues.Items.Strings

/-!
# Values of socket options

* `PointerToScalar`      the item for a pointer to a number, of `items.hxx`;
* `SetOption`            the classes of `setsockopt()` options with a scalar or a string, with the
                         direction that their items are constructed with;
* `SetSockOptCall`       a call, with its memory at both stops: what is decoded then;
* `decodesEntry_iff`     when that is the value on entry.
-/

namespace Clues

open Lib.LittleEndian

def ItemType.needsUpdate (type : ItemType) : Bool := type ≠ .paramIn

/-- `PointerToScalar`; the value is the bytes of the type -/
structure PointerToScalar where
  ptr : UInt64 := 0
  val : Option Bytes := none

namespace PointerToScalar

def fetchValue (m : Memory) (size : Nat) (p : PointerToScalar) : Except Exc PointerToScalar :=
  if p.ptr = 0 then .ok { p with val := none }
  else (Memory.readStructIntoOptional m p.ptr size size).map fun val => { p with val := val }

def processData (type : ItemType) (m : Memory) (size : Nat) (p : PointerToScalar) :
    Except Exc PointerToScalar :=
  if type = .paramIn ∨ type = .paramInOut then p.fetchValue m size else .ok { p with val := none }

def updateData (type : ItemType) (m : Memory) (size : Nat) (p : PointerToScalar) :
    Except Exc PointerToScalar :=
  if type.needsUpdate then p.fetchValue m size else .ok p

end PointerToScalar

/-- the number that a scalar is read as; `none`: the pointer is null, or its words cannot be read -/
def scalarAt (m : Memory) (a : UInt64) (size : Nat) : Option Bytes :=
  if a = 0 then none
  else if (bytesAt m a (fetched size)).isSome then bytesAt m a size else none

theorem Memory.readStructIntoOptional_eq (m : Memory) (a : UInt64) (size : Nat) :
    Memory.readStructIntoOptional m a size size = .ok (scalarAt m a size) := by
  unfold scalarAt
  by_cases h : a = 0
  · rw [if_pos h]
    exact if_pos h
  rw [if_neg h, Memory.readStructIntoOptional_of_le h le_rfl, readBlob_eq]
  by_cases hw : (bytesAt m a (fetched size)).isSome = true
  · rw [if_pos hw]
    cases hb : bytesAt m a size with
    | none => rfl
    | some bs => rw [Option.map_some, padTo_self (bytesAt_length hb)]
  · rw [if_neg hw]
    rfl

/-- nothing is read behind the last of its words -/
theorem scalarAt_of_words {m : Memory} {a : UInt64} {size : Nat} (h : fetched size = size) :
    scalarAt m a size = if a = 0 then none else bytesAt m a size := by
  unfold scalarAt
  rw [h]
  cases bytesAt m a size <;> rfl

theorem PointerToScalar.fetchValue_eq (m : Memory) (size : Nat) (p : PointerToScalar) :
    p.fetchValue m size = .ok { p with val := scalarAt m p.ptr size } := by
  unfold fetchValue
  by_cases h : p.ptr = 0
  · rw [if_pos h, scalarAt, if_pos h]
  · rw [if_neg h, Memory.readStructIntoOptional_eq]
    rfl

/-! ## setsockopt -/

/-- `SetBoolSockOptSystemCall` and so on, and `SetStringSockOptSystemCall` -/
inductive SetOption where
  | bool | int | fileDesc | interfaceIndex | string
  deriving DecidableEq, Repr

namespace SetOption

/-- the type in the `ItemCfg` of the item -/
def cfgType : SetOption → Option ItemType
  | .bool | .int | .fileDesc | .interfaceIndex => none
  | .string => some .paramOut

/-- the type after the defaults of `PointerToScalar` and `StringBuffer` -/
def itemType (opt : SetOption) : ItemType := opt.cfgType.getD .paramOut

/-- the size of the type, or of an element -/
def size : SetOption → Nat
  | .bool | .int | .fileDesc | .interfaceIndex => 4
  | .string => 1

end SetOption

/-- a call with one of these options -/
structure SetSockOptCall where
  opt : SetOption
  ptr : Word
  optlen : Word
  entry : ItemContext
  exit : ItemContext

namespace SetSockOptCall

/-- the value of `IntValue` -/
def len (call : SetSockOptCall) : Int := Int.bmod call.optlen.toNat (2 ^ 32)

/-- what is decoded when the parameters are filled -/
def entered (call : SetSockOptCall) : Except Exc (Option Bytes) :=
  match call.opt with
  | .string => .ok (({ ptr := call.ptr : StringBuffer }.processData).data.map List.flatten)
  | opt =>
    ({ ptr := call.ptr : PointerToScalar }.processData opt.itemType call.entry.mem opt.size).map
      PointerToScalar.val

/-- what is decoded after the items have been updated -/
def exited (call : SetSockOptCall) : Except Exc (Option Bytes) :=
  match call.opt with
  | .string =>
    .ok ((({ ptr := call.ptr : StringBuffer }.processData).updateData call.exit call.optlen).data.map
      List.flatten)
  | opt => do
    let p ← { ptr := call.ptr : PointerToScalar }.processData opt.itemType call.entry.mem opt.size
    (p.updateData opt.itemType call.exit.mem opt.size).map PointerToScalar.val

/-- the value that is passed: what `optlen` covers of the memory on entry -/
def passed (call : SetSockOptCall) : Option Bytes :=
  if call.ptr = 0 ∨ call.len < call.opt.size then none
  else
    match call.opt with
    | .string => (extent call.entry.mem .char true call.len.toNat call.ptr).map fun x =>
        x.elements.flatten
    | opt => bytesAt call.entry.mem call.ptr opt.size

/-- that value is decoded, on entry already -/
def DecodesEntry (call : SetSockOptCall) : Prop :=
  call.entered = .ok call.passed ∧ call.exited = .ok call.passed

/-- there is nothing to decode on exit -/
def NothingOnExit (call : SetSockOptCall) : Prop :=
  match call.opt with
  | .string => call.exit.hasResultValue = true →
      ¬ StringReadable call.exit.mem call.ptr call.optlen
  | opt => call.ptr = 0 ∨ bytesAt call.exit.mem call.ptr (fetched opt.size) = none

/-- there is no value, neither on entry nor on exit -/
def Fits (call : SetSockOptCall) : Prop := call.passed = none ∧ call.NothingOnExit

/-- nothing is decoded on entry -/
theorem entered_eq (call : SetSockOptCall) : call.entered = .ok none := by
  unfold entered
  cases call.opt <;> rfl

theorem scalarAt_eq_none_iff {m : Memory} {a : UInt64} {size : Nat} :
    scalarAt m a size = none ↔ a = 0 ∨ bytesAt m a (fetched size) = none := by
  unfold scalarAt
  split_ifs with h h'
  · exact iff_of_true rfl (Or.inl h)
  · constructor
    · intro hnone
      obtain ⟨k, hk⟩ := Nat.exists_eq_add_of_le (BufferPointer.le_fetched size)
      exact Or.inr (by rw [hk, bytesAt_none_add k hnone])
    · rintro (h0 | hnone)
      · exact absurd h0 h
      · rw [hnone] at h'
        cases h'
  · exact iff_of_true rfl (Or.inr (Option.not_isSome_iff_eq_none.mp h'))

theorem exited_scalar (call : SetSockOptCall) (h : call.opt ≠ .string) :
    call.exited = .ok (scalarAt call.exit.mem call.ptr call.opt.size) := by
  have hupdate : ∀ size, (PointerToScalar.updateData .paramOut call.exit.mem size
      { ptr := call.ptr, val := none }).map PointerToScalar.val
        = .ok (scalarAt call.exit.mem call.ptr size) := by
    intro size
    show (PointerToScalar.fetchValue call.exit.mem size ⟨call.ptr, none⟩).map _ = _
    rw [PointerToScalar.fetchValue_eq]
    rfl
  unfold exited
  cases hopt : call.opt with
  | string => exact absurd hopt h
  | _ => exact hupdate 4

theorem exited_string (call : SetSockOptCall) (h : call.opt = .string) :
    call.exited = .ok none ↔ call.NothingOnExit := by
  unfold exited NothingOnExit StringBuffer.updateData StringBuffer.processData
  rw [h]
  dsimp only
  cases call.exit.hasResultValue with
  | false =>
    rw [if_neg Bool.false_ne_true]
    exact iff_of_true rfl fun h => nomatch h
  | true =>
    rw [if_pos rfl, forall_prop_of_true rfl]
    unfold StringBuffer.fetch StringReadable
    dsimp only
    rw [readString_eq]
    cases extent call.exit.mem .char true (limit call.optlen) call.ptr with
    | none => simp
    | some x =>
      rw [Option.bind_some]
      split
      · rename_i hw
        refine iff_of_false (fun h => by cases h) fun h => h ⟨x, rfl, hw⟩
      · rename_i hw
        refine iff_of_true rfl ?_
        rintro ⟨y, hy, hw'⟩
        cases hy
        exact hw hw'

/-- for each class of options, every length, both memories and outcomes -/
theorem decodesEntry_iff (call : SetSockOptCall) : call.DecodesEntry ↔ call.Fits := by
  unfold DecodesEntry Fits
  rw [entered_eq]
  have hpassed : (Except.ok none : Except Exc (Option Bytes)) = .ok call.passed
      ↔ call.passed = none := by
    constructor
    · intro h
      exact (Except.ok.inj h).symm
    · intro h
      rw [h]
  rw [hpassed]
  refine and_congr_right fun hnone => ?_
  rw [hnone]
  by_cases hopt : call.opt = .string
  · exact exited_string call hopt
  · rw [exited_scalar call hopt, Except.ok.injEq, scalarAt_eq_none_iff]
    unfold NothingOnExit
    cases h : call.opt with
    | string => exact absurd h hopt
    | _ => exact Iff.rfl

/-- `setsockopt(fd, SOL_SOCKET, SO_REUSEADDR, &one, 4)`, the option at 4096 -/
def reuseAddr : SetSockOptCall where
  opt := .bool
  ptr := 4096
  optlen := 4
  entry :=
    { mem := fun a => if a = 4096 then some 1 else some 0
      maxBufferPrefetch := 0
      is32BitEmulationABI := false
      hasResultValue := false }
  exit :=
    { mem := fun a => if a = 4096 then some 1 else some 0
      maxBufferPrefetch := 0
      is32BitEmulationABI := false
      hasResultValue := true }

/-- on entry there is no value -/
theorem decodesEntry_fails : ¬ ∀ call : SetSockOptCall, call.DecodesEntry := by
  intro h
  have hentry := (h reuseAddr).1
  have hpassed : reuseAddr.passed = some [1, 0, 0, 0] := by decide +kernel
  rw [hpassed, entered_eq] at hentry
  cases hentry

end SetSockOptCall

end Clues
