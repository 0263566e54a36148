import Clues.Items.FilterProg
import Clues.SystemCall

/-!
# Times in nanoseconds

* `TimeContext`          the system call of an item, at one of its stops;
* `TimeSpecParameter`    the item for a `struct timespec`, which has two layouts;
* `RemainingTimeSpec`    the one for the time that is left of an interrupted sleep;
* `SleepCall`            a call that sleeps, with its memory at both stops;
* `showsRemaining_iff_fits`       when the item has the time that is left.
-/

namespace Clues

open Lib.LittleEndian

/-- what the items look at -/
structure TimeContext where
  mem : Memory
  abi : ABI
  /-- `callNr()` -/
  nr : SystemCallNr
  /-- `translatedSysCallNr()`, for `socketcall()` -/
  translated : Option SystemCallNr := none
  /-- `error()` -/
  error : Option ErrnoResult

namespace TimeContext

def hasResultValue (c : TimeContext) : Bool := c.error.isNone

def usesTime32 (c : TimeContext) : Bool := c.abi.is32BitEmulation || c.abi == .i386

end TimeContext

structure TimeSpec where
  sec : Int
  nsec : Int
  deriving DecidableEq, Repr

namespace TimeSpec

def size : Nat := 16

/-- `sizeof(struct timespec32)` -/
def size32 : Nat := 8

def ofBytes (bs : Bytes) : TimeSpec := { sec := signedAt bs 0 8, nsec := signedAt bs 8 8 }

end TimeSpec

/-! ## the items -/

structure TimeSpecParameter where
  ptr : Word := 0
  timespec : Option TimeSpec := none

namespace TimeSpecParameter

def needTime32Conversion (c : TimeContext) : Bool :=
  if !c.usesTime32 then false
  else
    match if c.nr = .socketcall then c.translated else some c.nr with
    | some .clockNanosleep | some .futex | some .nanosleep | some .pselect6 | some .ppoll
    | some .recvmmsg => true
    | _ => false

/-- the fields of the `struct timespec32` of the tracer have no sign -/
def fetch (c : TimeContext) (p : TimeSpecParameter) : Except Exc TimeSpecParameter :=
  if needTime32Conversion c then
    (c.mem.readStructIntoOptional p.ptr TimeSpec.size32 TimeSpec.size32).map fun bs =>
      { p with timespec := bs.map fun bs => ⟨numberAt bs 0 4, numberAt bs 4 4⟩ }
  else
    (c.mem.readStructIntoOptional p.ptr TimeSpec.size TimeSpec.size).map fun bs =>
      { p with timespec := bs.map TimeSpec.ofBytes }

def processData (type : ItemType) (c : TimeContext) (p : TimeSpecParameter) :
    Except Exc TimeSpecParameter :=
  if type = .paramOut then .ok { p with timespec := none } else p.fetch c

def updateData (c : TimeContext) (p : TimeSpecParameter) : Except Exc TimeSpecParameter :=
  if c.hasResultValue then p.fetch c else .ok p

end TimeSpecParameter

/-- `RemainingTimeSpec::updateData()` -/
def RemainingTimeSpec.updateData (c : TimeContext) (p : TimeSpecParameter) :
    Except Exc TimeSpecParameter :=
  if c.hasResultValue then .ok p
  else
    match c.error with
    | none => .error (.undefined .null)
    | some error =>
      if !error.hasErrorCode || error.code ≠ Errno.interrupted then .ok p
      else TimeSpecParameter.updateData c p

/-! ## a call -/

/-- `nanosleep()` or `clock_nanosleep()`, with the memory at its entry and at its exit -/
structure SleepCall where
  nr : SystemCallNr
  sleeps : nr = .nanosleep ∨ nr = .clockNanosleep ∨ nr = .clockNanosleepTime64
  abi : ABI
  /-- the parameter for the remaining time -/
  rem : Word
  entry : Memory
  exit : Memory
  result : ExitInfo

namespace SleepCall

/-- until the exit there is a synthesized error -/
def entryContext (call : SleepCall) : TimeContext :=
  { mem := call.entry, abi := call.abi, nr := call.nr, error := some ⟨Errno.noData⟩ }

def exitContext (call : SleepCall) : TimeContext :=
  { mem := call.exit, abi := call.abi, nr := call.nr, error := call.result.error }

/-- the item after the exit; it may have been used before -/
def item (call : SleepCall) (p : TimeSpecParameter) : Except Exc TimeSpecParameter := do
  let p ← { p with ptr := call.rem }.processData .paramOut call.entryContext
  RemainingTimeSpec.updateData call.exitContext p

/-- the time in the memory of the tracee: 32-bit processes use numbers of 32 bits for the older
system calls -/
def remaining (call : SleepCall) : Option TimeSpec :=
  if call.rem = 0 then none
  else if call.abi = .i386 ∧ call.nr ≠ .clockNanosleepTime64 then
    (bytesAt call.exit call.rem 8).map fun bs => { sec := signedAt bs 0 4, nsec := signedAt bs 4 4 }
  else
    (bytesAt call.exit call.rem 16).map fun bs => { sec := signedAt bs 0 8, nsec := signedAt bs 8 8 }

/-- the item has the time that is left of an interrupted call, and nothing otherwise -/
def Shows (call : SleepCall) (p : TimeSpecParameter) : Prop :=
  ∃ p', call.item p = .ok p' ∧
    p'.timespec = if call.result.isEINTR then call.remaining else none

/-- the call was not interrupted, or there is no time in its memory -/
def Fits (call : SleepCall) : Prop := call.result.isEINTR = true → call.remaining = none

/-- the base class looks for a result value, which an interrupted call does not have -/
theorem updateData_remaining (c : TimeContext) (p : TimeSpecParameter) :
    RemainingTimeSpec.updateData c p = .ok p := by
  unfold RemainingTimeSpec.updateData
  cases herror : c.error with
  | none =>
    have hresult : c.hasResultValue = true := by
      unfold TimeContext.hasResultValue
      rw [herror]
      rfl
    rw [if_pos hresult]
  | some error =>
    have hresult : ¬ c.hasResultValue = true := by
      unfold TimeContext.hasResultValue
      rw [herror]
      exact Bool.false_ne_true
    rw [if_neg hresult]
    show ite _ _ _ = _
    split_ifs with hcode
    · rfl
    · exact if_neg hresult

theorem item_eq (call : SleepCall) (p : TimeSpecParameter) :
    call.item p = .ok { ptr := call.rem } := by
  unfold item TimeSpecParameter.processData
  rw [if_pos rfl, ok_bind]
  exact updateData_remaining _ _

/-- for every call, any memory and any earlier state of the item -/
theorem showsRemaining_iff_fits (call : SleepCall) (p : TimeSpecParameter) :
    call.Shows p ↔ call.Fits := by
  unfold Shows Fits
  rw [item_eq]
  constructor
  · rintro ⟨p', hp, htime⟩ hintr
    cases hp
    rw [if_pos hintr] at htime
    exact htime.symm
  · intro h
    refine ⟨_, rfl, ?_⟩
    split_ifs with hintr
    · exact (h hintr).symm
    · rfl

/-- a second is left of an interrupted `nanosleep()` -/
def interrupted : SleepCall where
  nr := .nanosleep
  sleeps := Or.inl rfl
  abi := .x86_64
  rem := 4096
  entry := fun _ => some 0
  exit := fun a => some (if a = 4096 then 1 else 0)
  result := .errVal Errno.interrupted

theorem showsRemaining_fails : ¬ ∀ (call : SleepCall) (p : TimeSpecParameter), call.Shows p := by
  intro h
  obtain ⟨p, hp, htime⟩ := h interrupted {}
  rw [item_eq] at hp
  cases hp
  have hsome : none = interrupted.remaining := htime
  revert hsome
  decide +kernel

end SleepCall

end Clues
