import Clues.Lib.Exec
import Clues.SysNrs
import Clues.Types

/-!
# The state of the tracer and its environment

* `Tracee`    one tracee object with all data the event handling reads;
* `World`     the engine, the objects it refers to, and the log of what was observed and done;
* `Env`       everything outside of the tracer: the kernel's answers, `/proc`, the consumer.
              Every answer may depend on the whole log, so one `Env` covers answers that change
              over time;
* `SyscallOps`   what the event handling needs of system call objects.

`Step` is the monad of all functions of the tracer: a state, and exceptions that keep the state
that was reached.  Tracee objects, process data and system call objects are shared, so they live
in heaps and are referred to by number.
-/

namespace Clues

open Lib

/-! ## tracees -/

inductive TraceeKind where
  | child | foreign | autoAttached
  deriving DecidableEq, Repr

/-- `Tracee::State` -/
inductive State where
  | unknown | running | syscallEnterStop | syscallExitStop | signalDeliveryStop | groupStop
  | eventStop | dead | detached
  deriving DecidableEq, Repr

/-- `Tracee::Flags` -/
structure Flags where
  waitForAttachStop : Bool := false
  detachAtNextStop : Bool := false
  injectedSigstop : Bool := false
  injectedSigcont : Bool := false
  syscallEntered : Bool := false
  waitForExited : Bool := false
  attachThreadsPending : Bool := false
  seenSigreturn : Bool := false
  deriving DecidableEq, Repr

/-- `cosmos::Tracee::RestartMode` -/
inductive RestartMode where
  | cont | syscall | listen
  deriving DecidableEq, Repr

abbrev TraceeId := Nat
abbrev ProcId := Nat
abbrev CallId := Nat

/-- the registers of one ABI, as far as they describe a system call -/
structure RegisterSet where
  abi : ABI
  info : EntryInfo

/-- `SystemCallInfo`: generic number and ABI are only known after `updateSysNr` -/
structure SystemCallInfo where
  stop : SyscallStop := .none
  arch : Arch := .other
  isX32 : Bool := false
  sysNr : SystemCallNr := .unknown
  abi : ABI := .unknown

structure Tracee where
  kind : TraceeKind := .foreign
  state : State := .unknown
  prevState : State := .unknown
  flags : Flags := {}
  /-- the PID of the `cosmos::Tracee` member -/
  ptrace : ProcessID := ProcessID.invalid
  followChildren : Bool := false
  syscallInfo : Option SystemCallInfo := none
  syscallDb : SystemCallNr → Option CallId := fun _ => none
  currentSyscall : Option CallId := none
  interruptedSyscall : Option CallId := none
  restartMode : RestartMode := .cont
  injectSig : Option Signal := none
  exitData : Option ChildState := none
  initialAttacher : Option ProcessID := none
  syscallCtr : Nat := 0
  initialRegset : RegisterSet := ⟨.i386, 0, fun _ => 0⟩
  stopSignal : Option Signal := none
  processData : ProcId := 0
  maxBufferPrefetch : Nat := 128
  /-- the task the pidfd was opened for -/
  pidfd : Option ProcessID := none
  /-- `ChildTracee::m_child` -/
  childPid : ProcessID := ProcessID.invalid
  childRunning : Bool := false
  /-- the client keeps a `TraceePtr` -/
  held : Bool := false

instance : Inhabited Tracee := ⟨{}⟩

def Tracee.pid (t : Tracee) : ProcessID := t.ptrace

def Tracee.alive (t : Tracee) : Bool := t.pid ≠ ProcessID.invalid

def Tracee.isChildProcess (t : Tracee) : Bool := t.kind = .child

/-- data shared between the tracees of one thread group -/
structure ProcessData where
  executable : String := ""
  cmdline : List String := []
  fdInfoMap : FDInfoMap := OrdMap.empty

instance : Inhabited ProcessData := ⟨{}⟩

/-! ## the log -/

inductive Request where
  | seize (pid : ProcessID) (followChildren : Bool)
  | interrupt (pid : ProcessID)
  | detach (pid : ProcessID)
  | restart (pid : ProcessID) (mode : RestartMode) (signal : Option Signal)
  | getSyscallInfo (pid : ProcessID)
  | getSigInfo (pid : ProcessID)
  | getPIDEventMsg (pid : ProcessID)
  | getExitEventMsg (pid : ProcessID)
  | getRegisterSet (pid : ProcessID) (abi : ABI)
  /-- reading parameters of a system call from registers and memory -/
  | peekData (pid : ProcessID)
  | kill (pid : ProcessID) (signal : Signal)
  | waitChild (pid : ProcessID)
  deriving DecidableEq, Repr

/-- `EventConsumer::StatusFlags` -/
structure StatusFlags where
  interrupted : Bool := false
  resumed : Bool := false
  lostToMtExit : Bool := false
  abiChanged : Bool := false
  clonedThread : Bool := false
  deriving DecidableEq, Repr

/-- the functions of `EventConsumer` -/
inductive Callback where
  | syscallEntry (tracee : TraceeId) (call : CallId) (flags : StatusFlags)
  | syscallExit (tracee : TraceeId) (call : CallId) (flags : StatusFlags)
  | attached (tracee : TraceeId)
  | signaled (tracee : TraceeId) (signal : Signal)
  | stopped (tracee : TraceeId)
  | resumed (tracee : TraceeId)
  | exited (tracee : TraceeId) (status : WaitStatus) (flags : StatusFlags)
  | disappeared (tracee : TraceeId) (data : ChildState)
  | newExecutionContext (tracee : TraceeId) (oldExe : String) (oldCmdline : List String)
      (oldPid : Option ProcessID)
  | newChildProcess (parent child : TraceeId) (event : PtraceEvent) (flags : StatusFlags)
  | vforkComplete (parent : TraceeId) (child : Option TraceeId)
  deriving DecidableEq, Repr

/-- the tracee a callback is about (the parent for the two child callbacks) -/
def Callback.tracee : Callback → TraceeId
  | .syscallEntry t _ _ | .syscallExit t _ _ | .attached t | .signaled t _ | .stopped t
  | .resumed t | .exited t _ _ | .disappeared t _ | .newExecutionContext t _ _ _
  | .newChildProcess t _ _ _ | .vforkComplete t _ => t

/-- what is observed and done, in order -/
inductive Entry where
  /-- `wait()` returned -/
  | wait (data : ChildState)
  /-- a wait event is handed to `Tracee::processEvent()` of an object -/
  | deliver (tracee : TraceeId) (data : ChildState)
  /-- a request for a tracee, with its error if it failed -/
  | request (tracee : TraceeId) (request : Request) (error : Option Errno)
  /-- a request for a task that is no tracee of the engine -/
  | inquiry (request : Request) (error : Option Errno)
  /-- the kernel reported a system call entry or exit stop for the tracee -/
  | syscallEntered (tracee : TraceeId) (nr : SystemCallNr)
  | syscallExited (tracee : TraceeId)
  /-- the kernel reported that thread `former` goes on as the process of the tracee after
  `execve()`; `old` is the object that was registered for the thread, if it is another one -/
  | execed (tracee : TraceeId) (former : ProcessID) (old : Option TraceeId)
  /-- the client called for the tracee to be detached -/
  | letGo (tracee : TraceeId)
  | callback (c : Callback)
  /-- the consumer returned from a callback -/
  | returned
  /-- a tracee object was put into `m_tracees`, or taken out -/
  | tracked (pid : ProcessID) (tracee : TraceeId)
  | untracked (pid : ProcessID) (tracee : TraceeId)
  /-- the entry of a tracee got another key -/
  | rekeyed (oldPid newPid : ProcessID)
  | detached (tracee : TraceeId)
  | destroyed (tracee : TraceeId)
  deriving DecidableEq, Repr

abbrev Log := List Entry

/-! ## the environment -/

/-- what a consumer may do inside of a callback -/
inductive ConsumerCall where
  | stop (signal : Option Signal)
  /-- `Tracee::detach()` on the tracee registered for the PID -/
  | detach (pid : ProcessID)
  deriving DecidableEq, Repr

structure ConsumerAct where
  call : ConsumerCall
  /-- the consumer catches what the call throws -/
  catches : Bool := false
  deriving DecidableEq, Repr

/-- memory of a tracee: the machine word at an address, or the error of the read -/
abbrev Mem := UInt64 → Except Errno UInt64

structure Env where
  /-- the error of a request, if it fails -/
  request : Log → Request → Option Errno := fun _ _ => none
  syscallInfo : Log → ProcessID → Arch × Bool × SyscallStop := fun _ _ => (.x86_64, false, .none)
  sigInfo : Log → ProcessID → Signal := fun _ _ => 0
  pidEventMsg : Log → ProcessID → ProcessID := fun _ pid => pid
  exitEventMsg : Log → ProcessID → WaitStatus := fun _ _ => .exited 0
  /-- `none`: the register set is incomplete -/
  registerSet : Log → ProcessID → ABI → Option EntryInfo := fun _ _ _ => some ⟨0, fun _ => 0⟩
  mem : Log → ProcessID → Mem := fun _ _ _ => .ok 0
  /-- `/proc/<pid>/exe`, `/proc/<pid>/cmdline`, `/proc/<pid>/fd`, `/proc/<pid>/task` -/
  exe : Log → ProcessID → Except Errno String := fun _ _ => .ok ""
  cmdline : Log → ProcessID → Option (List String) := fun _ _ => none
  fdInfos : Log → ProcessID → Except Exc (List FDInfo) := fun _ _ => .ok []
  openFds : Log → ProcessID → Except Errno (List FileNum) := fun _ _ => .ok []
  tasks : Log → ProcessID → Except Exc (List ProcessID) := fun _ _ => .ok []
  /-- socket domain and type of a descriptor that is duplicated from the task -/
  snatchSocket : Log → ProcessID → FileNum → Except Errno (Option Int × Option Int) :=
    fun _ _ _ => .ok (none, none)
  /-- an executable exists for the command -/
  which : Log → String → Bool := fun _ _ => true
  /-- the process that is forked for a command line -/
  createChild : Log → List String → Except Exc ProcessID := fun _ _ => .ok 1
  /-- the generated tables from ABI-specific to generic system call numbers -/
  toGeneric : ABI → UInt64 → SystemCallNr := fun _ _ => .unknown
  /-- whether an allocation of so many bytes succeeds -/
  alloc : Nat → Bool := fun _ => true
  /-- the compiler has the last argument of a call evaluated first: the language leaves this open -/
  lastArgFirst : Bool := true
  /-- the calls the consumer makes from the callback that the log ends with -/
  consumer : Log → List ConsumerAct := fun _ => []

/-- what a system call object sees of the tracer and the tracee while it is filled -/
structure DecodeEnv where
  pid : ProcessID
  state : State
  maxBufferPrefetch : Nat
  /-- `FormatFlag::FD_INFO` -/
  fdInfo : Bool
  mem : Mem
  fdInfos : Except Exc (List FDInfo)
  snatchSocket : ProcessID → FileNum → Except Errno (Option Int × Option Int)
  alloc : Nat → Bool

/-- the tracee data that processing a system call may change -/
structure ProcState where
  fdInfoMap : FDInfoMap
  pidfd : Option ProcessID

/-- the system call objects of type `SC`, as the event handling uses them -/
class SyscallOps (SC : Type) where
  /-- the object and whether it may be cached -/
  createSyscall : DecodeEnv → SystemCallInfo → Except Exc (SC × Bool)
  setEntryInfo : DecodeEnv → SystemCallInfo → SC → Except Exc Unit × SC
  setExitInfo : DecodeEnv → SystemCallInfo → SC → ProcState → Except Exc Unit × SC × ProcState
  callNr : SC → SystemCallNr
  abi : SC → ABI
  error : SC → Option ErrnoResult
  /-- `shares_file_descriptors_with_parent()` -/
  sharesFiles : SC → Except Exc Bool
  /-- the test for `CLONE_THREAD` in `Tracee::hasClonedThread()` -/
  clonedThread : SC → Except Exc Bool

/-- a system call object and the number it was requested for -/
structure CallObj (SC : Type) where
  requested : SystemCallNr
  obj : SC

/-! ## the world -/

structure World (SC : Type) where
  /-- `m_tracees`: a pointer may be null -/
  tracees : OrdMap ProcessID (Option TraceeId) := OrdMap.empty
  unknownEvents : OrdMap ProcessID ChildState := OrdMap.empty
  newlyAttachedPid : ProcessID := ProcessID.invalid
  formatFdInfo : Bool := false
  objs : TraceeId → Tracee := fun _ => {}
  nextObj : TraceeId := 0
  procs : ProcId → ProcessData := fun _ => {}
  nextProc : ProcId := 0
  calls : CallId → Option (CallObj SC) := fun _ => none
  nextCall : CallId := 0
  log : Log := []

abbrev Step (SC : Type) (α : Type) := Exec (World SC) Exc α

section
variable {SC : Type}

def World.setObj (w : World SC) (id : TraceeId) (t : Tracee) : World SC :=
  { w with objs := Function.update w.objs id t }

def World.setProc (w : World SC) (p : ProcId) (d : ProcessData) : World SC :=
  { w with procs := Function.update w.procs p d }

def World.say (w : World SC) (e : Entry) : World SC := { w with log := w.log ++ [e] }

@[simp] theorem World.setObj_self (w : World SC) (id : TraceeId) (t : Tracee) :
    (w.setObj id t).objs id = t := Function.update_self ..

theorem World.setObj_of_ne (w : World SC) {id id' : TraceeId} (t : Tracee) (h : id' ≠ id) :
    (w.setObj id t).objs id' = w.objs id' := Function.update_of_ne h ..

@[simp] theorem World.setObj_tracees (w : World SC) (id : TraceeId) (t : Tracee) :
    (w.setObj id t).tracees = w.tracees := rfl
@[simp] theorem World.setObj_log (w : World SC) (id : TraceeId) (t : Tracee) :
    (w.setObj id t).log = w.log := rfl
@[simp] theorem World.setObj_setObj (w : World SC) (id : TraceeId) (t t' : Tracee) :
    (w.setObj id t).setObj id t' = w.setObj id t' := by
  unfold World.setObj
  rw [Function.update_idem]

@[simp] theorem World.say_tracees (w : World SC) (e : Entry) : (w.say e).tracees = w.tracees := rfl
@[simp] theorem World.say_objs (w : World SC) (e : Entry) : (w.say e).objs = w.objs := rfl
@[simp] theorem World.say_log (w : World SC) (e : Entry) : (w.say e).log = w.log ++ [e] := rfl

/-! ## primitive steps -/

namespace Step

open Exec

def say (e : Entry) : Step SC Unit := update fun w => w.say e

def getTracee (id : TraceeId) : Step SC Tracee := do
  let w ← read
  pure (w.objs id)

def modifyTracee (id : TraceeId) (f : Tracee → Tracee) : Step SC Unit :=
  update fun w => w.setObj id (f (w.objs id))

def setFlags (id : TraceeId) (f : Flags → Flags) : Step SC Unit :=
  modifyTracee id fun t => { t with flags := f t.flags }

/-- issue a request for a tracee; its failure is a `cosmos::ApiError` -/
def request (env : Env) (id : TraceeId) (r : Request) : Step SC Unit := do
  let w ← read
  let error := env.request w.log r
  say (.request id r error)
  match error with
  | none => pure ()
  | some e => raise (.api e)

/-- issue a request that reads something -/
def query {α : Type} (env : Env) (id : TraceeId) (r : Request) (answer : Log → α) :
    Step SC α := do
  let w ← read
  request env id r
  pure (answer w.log)

/-- a request that reads something about a task that is no tracee of the engine -/
def inquire {α : Type} (env : Env) (r : Request) (answer : Log → α) : Step SC α := do
  let w ← read
  let error := env.request w.log r
  say (.inquiry r error)
  match error with
  | none => pure (answer w.log)
  | some e => raise (.api e)

/-- `catch (const cosmos::ApiError &)` -/
def catchApi {α : Type} (x : Step SC α) (h : Errno → Step SC α) : Step SC α :=
  handle x fun e =>
    match e with
    | .api errno => h errno
    | e => raise e

/-- `catch (const std::exception &)`, `catch (...)` -/
def catchAll {α : Type} (x : Step SC α) (h : Step SC α) : Step SC α :=
  handle x fun e => if e.isException then h else raise e

/-- `catch (const cosmos::CosmosError &)` -/
def catchCosmos {α : Type} (x : Step SC α) (h : Step SC α) : Step SC α :=
  handle x fun e => if e.isCosmosError then h else raise e

@[simp] theorem run_say (e : Entry) (w : World SC) :
    (say e : Step SC Unit) w = (.ok (), w.say e) := rfl

@[simp] theorem run_getTracee (id : TraceeId) (w : World SC) :
    (getTracee id : Step SC Tracee) w = (.ok (w.objs id), w) := rfl

@[simp] theorem run_modifyTracee (id : TraceeId) (f : Tracee → Tracee) (w : World SC) :
    (modifyTracee id f : Step SC Unit) w = (.ok (), w.setObj id (f (w.objs id))) := rfl

@[simp] theorem run_setFlags (id : TraceeId) (f : Flags → Flags) (w : World SC) :
    (setFlags id f : Step SC Unit) w
      = (.ok (), w.setObj id { w.objs id with flags := f (w.objs id).flags }) := rfl

/-- the outcome of a request -/
def outcome : Option Errno → Except Exc Unit
  | none => .ok ()
  | some e => .error (.api e)

theorem run_request (env : Env) (id : TraceeId) (r : Request) (w : World SC) :
    (request env id r : Step SC Unit) w
      = (outcome (env.request w.log r), w.say (.request id r (env.request w.log r))) := by
  show (match env.request w.log r with
    | none => pure ()
    | some e => raise (.api e) : Step SC Unit) (w.say (.request id r (env.request w.log r))) = _
  cases env.request w.log r <;> rfl

theorem run_query_ok {α : Type} {env : Env} {r : Request} {w : World SC} (id : TraceeId)
    (answer : Log → α) (h : env.request w.log r = none) :
    query env id r answer w = (.ok (answer w.log), w.say (.request id r none)) := by
  unfold query
  rw [run_read_bind, run_bind, run_request, h]
  rfl

theorem run_query_error {α : Type} {env : Env} {r : Request} {w : World SC} {e : Errno}
    (id : TraceeId) (answer : Log → α) (h : env.request w.log r = some e) :
    query env id r answer w = (.error (.api e), w.say (.request id r (some e))) := by
  unfold query
  rw [run_read_bind, run_bind, run_request, h]
  rfl

theorem query_ok {α : Type} {env : Env} {id : TraceeId} {r : Request} {answer : Log → α}
    {w w' : World SC} {x : α} (h : query env id r answer w = (.ok x, w')) :
    env.request w.log r = none ∧ x = answer w.log ∧ w' = w.say (.request id r none) := by
  unfold query at h
  rw [run_read_bind, run_bind, run_request] at h
  cases hr : env.request w.log r with
  | none =>
    rw [hr] at h
    obtain ⟨hx, hw⟩ := Prod.mk.inj h
    exact ⟨rfl, (Except.ok.inj hx).symm, hw.symm⟩
  | some e =>
    rw [hr] at h
    cases h

theorem inquire_ok {α : Type} {env : Env} {r : Request} {answer : Log → α} {w w' : World SC}
    {x : α} (h : inquire env r answer w = (.ok x, w')) :
    env.request w.log r = none ∧ x = answer w.log ∧ w' = w.say (.inquiry r none) := by
  have h' : (match env.request w.log r with
    | none => pure (answer w.log)
    | some e => raise (.api e) : Step SC α) (w.say (.inquiry r (env.request w.log r)))
      = (.ok x, w') := h
  cases hr : env.request w.log r with
  | none =>
    rw [hr] at h'
    obtain ⟨hx, hw⟩ := Prod.mk.inj h'
    exact ⟨rfl, (Except.ok.inj hx).symm, hw.symm⟩
  | some e =>
    rw [hr] at h'
    cases h'

end Step

end

end Clues
