import Clues.World

/-!
# System call objects

* `createdNr`      the number of the object that `create_syscall()` makes for a system call;
* `SystemCall I`   the base class `SystemCall`; its specialisations keep items `I` (parameters and
                   return value) and override the virtual functions in `CallItems I`;
* `Lawful`         what the event handling relies on, whatever the items are.
-/

namespace Clues

/-! ## numbers -/

/-- `BreakSystemCall` is made for `BRK` and carries the number `BREAK` -/
def createdNr (nr : SystemCallNr) : SystemCallNr := if nr = .brk then .break else nr

/-- system calls with one specialisation for each operation, which are not cached -/
def isMultiSys : SystemCallNr → Bool
  | .prctl | .socketcall | .getsockopt | .setsockopt => true
  | _ => false

def isSigreturn (nr : SystemCallNr) : Bool := nr = .rtSigreturn || nr = .sigreturn

theorem isSigreturn_createdNr (nr : SystemCallNr) : isSigreturn (createdNr nr) = isSigreturn nr := by
  unfold createdNr
  split_ifs with h
  · rw [h]
    rfl
  · rfl

/-! ## outcomes -/

/-- the error of a system call, `none` if it returned a value -/
def ExitInfo.error : ExitInfo → Option ErrnoResult
  | .retVal _ => none
  | .errVal errno => some ⟨errno⟩

/-- the kernel aborted the system call because of a signal -/
def ExitInfo.interrupted (x : ExitInfo) : Bool := x.error.any ErrnoResult.hasKernelErrorCode

/-- the system call failed with a visible `EINTR` -/
def ExitInfo.isEINTR (x : ExitInfo) : Bool :=
  x.error.any fun e => e.hasErrorCode && e.code == Errno.interrupted

/-! ## the base class -/

/-- the virtual functions of the specialisations; data of `SystemCall` they read is passed on -/
class CallItems (I : Type) where
  /-- the constructor that `create_syscall()` selects -/
  create : DecodeEnv → SystemCallInfo → Except Exc I
  /-- `prepareNewSystemCall()`, `fillParameters()` and `check2ndPass()` -/
  fill : DecodeEnv → ABI → EntryInfo → I → Except Exc Unit × I
  /-- the return value, `updateData()`, `postSystemCall()` and `updateFDTracking()` -/
  update : DecodeEnv → ABI → ExitInfo → I → ProcState → Except Exc Unit × I × ProcState
  sharesFiles : I → Except Exc Bool
  clonedThread : I → Except Exc Bool

structure SystemCall (I : Type) where
  nr : SystemCallNr
  abi : ABI := .unknown
  error : Option ErrnoResult := none
  items : I

section
variable {I : Type} [CallItems I]

/-- until the exit the object reports a synthesized error -/
def SystemCall.setEntryInfo (de : DecodeEnv) (info : SystemCallInfo) (sc : SystemCall I) :
    Except Exc Unit × SystemCall I :=
  let sc := { sc with abi := info.abi, error := some ⟨Errno.noData⟩ }
  match info.stop with
  | .entry e =>
      let r := CallItems.fill de info.abi e sc.items
      (r.1, { sc with items := r.2 })
  | _ => (.error (.undefined .null), sc)

def SystemCall.setExitInfo (de : DecodeEnv) (info : SystemCallInfo) (sc : SystemCall I)
    (ps : ProcState) : Except Exc Unit × SystemCall I × ProcState :=
  match info.stop with
  | .exit x =>
      let r := CallItems.update de sc.abi x sc.items ps
      (r.1, { sc with error := x.error, items := r.2.1 }, r.2.2)
  | _ => (.error (.undefined .null), sc, ps)

instance : SyscallOps (SystemCall I) where
  createSyscall de info := do
    let items ← CallItems.create de info
    pure ({ nr := createdNr info.sysNr, items := items }, !isMultiSys info.sysNr)
  setEntryInfo := SystemCall.setEntryInfo
  setExitInfo := SystemCall.setExitInfo
  callNr := SystemCall.nr
  abi := SystemCall.abi
  error := SystemCall.error
  sharesFiles sc := CallItems.sharesFiles sc.items
  clonedThread sc := CallItems.clonedThread sc.items

/-- system calls without parameters -/
instance : CallItems Unit where
  create _ _ := .ok ()
  fill _ _ _ items := (.ok (), items)
  update _ _ _ items ps := (.ok (), items, ps)
  sharesFiles _ := .ok false
  clonedThread _ := .ok false

end

theorem createSyscall_eq_ok {I : Type} [CallItems I] {de : DecodeEnv} {info : SystemCallInfo}
    {r : SystemCall I × Bool} (h : SyscallOps.createSyscall de info = .ok r) :
    ∃ items, r = ({ nr := createdNr info.sysNr, items := items }, !isMultiSys info.sysNr) := by
  have h' : (CallItems.create de info : Except Exc I).bind (fun items =>
      .ok (({ nr := createdNr info.sysNr, items := items } : SystemCall I),
        !isMultiSys info.sysNr)) = .ok r := h
  cases hc : (CallItems.create de info : Except Exc I) with
  | error e =>
    rw [hc] at h'
    cases h'
  | ok items =>
    rw [hc] at h'
    exact ⟨items, (Except.ok.inj h').symm⟩

/-! ## laws -/

/-- the number of an object is the one it was made with, and after the exit it reports the error
of the system call -/
structure Lawful (SC : Type) [SyscallOps SC] : Prop where
  created : ∀ {de : DecodeEnv} {info : SystemCallInfo} {r : SC × Bool},
    SyscallOps.createSyscall de info = .ok r → SyscallOps.callNr r.1 = createdNr info.sysNr
  entry : ∀ (de : DecodeEnv) (info : SystemCallInfo) (sc : SC),
    SyscallOps.callNr (SyscallOps.setEntryInfo de info sc).2 = SyscallOps.callNr sc
  exit : ∀ (de : DecodeEnv) (info : SystemCallInfo) (sc : SC) (ps : ProcState),
    SyscallOps.callNr (SyscallOps.setExitInfo de info sc ps).2.1 = SyscallOps.callNr sc
  error : ∀ (de : DecodeEnv) {info : SystemCallInfo} (sc : SC) (ps : ProcState) {x : ExitInfo},
    info.stop = .exit x → SyscallOps.error (SyscallOps.setExitInfo de info sc ps).2.1 = x.error

theorem lawful_systemCall {I : Type} [CallItems I] : Lawful (SystemCall I) where
  created := by
    intro de info r h
    obtain ⟨items, rfl⟩ := createSyscall_eq_ok h
    rfl
  entry := by
    intro de info sc
    show (SystemCall.setEntryInfo de info sc).2.nr = sc.nr
    unfold SystemCall.setEntryInfo
    cases info.stop <;> rfl
  exit := by
    intro de info sc ps
    show (SystemCall.setExitInfo de info sc ps).2.1.nr = sc.nr
    unfold SystemCall.setExitInfo
    cases info.stop <;> rfl
  error := by
    intro de info sc ps x h
    show (SystemCall.setExitInfo de info sc ps).2.1.error = x.error
    unfold SystemCall.setExitInfo
    rw [h]

end Clues
