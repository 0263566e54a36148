import Clues.Lib.OrdMap

/-!
# Types shared by the tracer

* process ids, signals and error numbers are integers, as in the system call interface;
* `ChildState`   what one `wait()` call reports about a child or tracee;
* `FDInfo`       what the tracer knows about one file descriptor of a tracee;
* `SystemCallInfo`   what `PTRACE_GET_SYSCALL_INFO` reports, with the ABI and the
                     generic system call number that are derived from it at entry;
* `Exc`          what a function of the tracer can throw.

The tracer is an x86-64 process: its default ABI is `ABI.x86_64`, and i386 tracees are the
32-bit emulation case.
-/

namespace Clues

open Lib

/-! ## ids, signals, errors -/

abbrev ProcessID := Int

def ProcessID.invalid : ProcessID := -1

abbrev FileNum := Int

def FileNum.invalid : FileNum := -1

abbrev Signal := Nat

namespace Signal

def trap : Signal := 5
def kill : Signal := 9
def cont : Signal := 18
def stop : Signal := 19
def termStop : Signal := 20
def termInput : Signal := 21
def termOutput : Signal := 22

end Signal

/-- signals that put a process into group-stop (`Tracee::STOPPING_SIGNALS`) -/
def stoppingSignals : List Signal :=
  [Signal.stop, Signal.termStop, Signal.termInput, Signal.termOutput]

abbrev Errno := Nat

namespace Errno

/-- `ESRCH`, `cosmos::Errno::SEARCH` -/
def search : Errno := 3
/-- `EINTR`, `cosmos::Errno::INTERRUPTED` -/
def interrupted : Errno := 4
/-- `EIO`, `cosmos::Errno::IO_ERROR` -/
def ioError : Errno := 5
/-- `ECHILD`, `cosmos::Errno::NO_CHILD` -/
def noChild : Errno := 10
/-- `EFAULT` -/
def fault : Errno := 14
/-- `ENODATA`, `cosmos::Errno::NO_DATA` -/
def noData : Errno := 61

end Errno

/-- an error result of a system call: the range 512 to 516 is only visible to tracers
(`ErrnoResult`, `KernelErrno`) -/
structure ErrnoResult where
  code : Errno
  deriving DecidableEq, Repr

def ErrnoResult.hasKernelErrorCode (e : ErrnoResult) : Bool := 512 ≤ e.code && e.code ≤ 516

def ErrnoResult.hasErrorCode (e : ErrnoResult) : Bool := !e.hasKernelErrorCode

/-- behaviour the language leaves undefined -/
inductive Undefined where
  /-- an object or iterator that is no longer in `m_tracees` is used -/
  | dangling
  /-- a null pointer or an empty optional is dereferenced -/
  | null
  /-- memory outside of an object is read -/
  | bounds
  deriving DecidableEq, Repr

/-- exceptions of the standard library -/
inductive StdError where
  | lengthError
  | badAlloc
  | badArrayNewLength
  | badVariantAccess
  | badCast
  deriving DecidableEq, Repr

inductive Exc where
  /-- `cosmos::ApiError` -/
  | api (errno : Errno)
  /-- `cosmos::RuntimeError` -/
  | runtime (msg : String)
  /-- another `std::exception` -/
  | std (err : StdError)
  /-- not an exception: execution left the defined behaviour here, and nothing catches it -/
  | undefined (why : Undefined)
  /-- not an exception: the bound on nested or repeated event handling was too small -/
  | outOfFuel
  deriving DecidableEq, Repr

/-- caught by a handler for `std::exception` or `...` -/
def Exc.isException : Exc → Bool
  | .api _ | .runtime _ | .std _ => true
  | .undefined _ | .outOfFuel => false

/-- caught by a handler for `cosmos::CosmosError` -/
def Exc.isCosmosError : Exc → Bool
  | .api _ | .runtime _ => true
  | _ => false

/-! ## what wait() reports -/

/-- the kinds of `PTRACE_EVENT` stops -/
inductive PtraceEvent where
  | fork | vfork | clone | exec | vforkDone | exit | seccomp | stop
  deriving DecidableEq, Repr

/-- how a trapped tracee stopped, as encoded in the reported signal -/
inductive Trap where
  /-- `SIGTRAP | 0x80`: a system call stop -/
  | sysTrap
  /-- a `PTRACE_EVENT` stop and the signal that goes with it -/
  | event (signal : Signal) (event : PtraceEvent)
  /-- any other signal: a signal delivery stop -/
  | signal (signal : Signal)
  deriving DecidableEq, Repr

/-- `cosmos::WaitStatus`: a normal exit with a status, or the signal that ended the task -/
inductive WaitStatus where
  | exited (status : Nat)
  | signaled (signal : Signal)
  deriving DecidableEq, Repr

inductive ChildEvent where
  | exited (status : Nat)
  | killed (signal : Signal)
  | dumped (signal : Signal)
  | trapped (trap : Trap)
  | signaled (signal : Signal)
  | other
  deriving DecidableEq, Repr

structure ChildState where
  pid : ProcessID
  event : ChildEvent
  deriving DecidableEq, Repr

/-- the task is gone: `exited() || killed() || dumped()` -/
def ChildState.isEnd (d : ChildState) : Bool :=
  match d.event with
  | .exited _ | .killed _ | .dumped _ => true
  | _ => false

def ChildState.isTrapped (d : ChildState) : Bool :=
  match d.event with
  | .trapped _ => true
  | _ => false

/-! ## file descriptors -/

/-- `FDInfo::Type` -/
inductive FDType where
  | invalid | fsPath | eventFd | timerFd | signalFd | socket | epoll | pipe | inotify | pidFd
  | bpfMap | bpfProg | perfEvent | unknown
  deriving DecidableEq, Repr

inductive OpenMode where
  | readOnly | writeOnly | readWrite | other
  deriving DecidableEq, Repr

/-- `cosmos::OpenFlags`: the raw open flags without the access mode -/
abbrev OpenFlags := Nat

structure FDInfo where
  type : FDType := .invalid
  fd : FileNum := FileNum.invalid
  path : String := ""
  mode : Option OpenMode := none
  flags : Option OpenFlags := none
  inode : Option Nat := none
  sockDomain : Option Int := none
  sockType : Option Int := none
  deriving DecidableEq, Repr

abbrev FDInfoMap := OrdMap FileNum FDInfo

/-! ## system call information -/

inductive ABI where
  | unknown | x86_64 | i386 | x32 | aarch64
  deriving DecidableEq, Repr

/-- `get_default_abi()` of the x86-64 build -/
def ABI.default : ABI := .x86_64

/-- `is_32bit_emulation_abi()` -/
def ABI.is32BitEmulation (abi : ABI) : Bool := ABI.default == .x86_64 && abi == .i386

/-- `cosmos::ptrace::Arch` -/
inductive Arch where
  | i386 | x86_64 | aarch64 | other
  deriving DecidableEq, Repr

abbrev Word := UInt64

/-- the direction of a parameter -/
inductive ItemType where
  | paramIn | paramOut | paramInOut
  deriving DecidableEq, Repr

/-- the numbers of arguments -/
instance instNeZeroSix : @NeZero Nat Zero.ofOfNat0 6 := ⟨Nat.succ_ne_zero 5⟩

/-- the register content of one system call at entry -/
structure EntryInfo where
  nr : UInt64
  args : Fin 6 → Word

/-- the outcome of a system call: a value or an error code -/
inductive ExitInfo where
  | retVal (val : Word)
  | errVal (errno : Errno)
  deriving DecidableEq, Repr

/-- the kinds of `PTRACE_GET_SYSCALL_INFO` reports -/
inductive SyscallStop where
  | none
  | entry (info : EntryInfo)
  | exit (info : ExitInfo)
  | seccomp

def SyscallStop.isEntry : SyscallStop → Bool
  | .entry _ => true
  | _ => false

def SyscallStop.isExit : SyscallStop → Bool
  | .exit _ => true
  | _ => false

end Clues
