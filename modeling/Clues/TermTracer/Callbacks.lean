import Clues.World

/-!
# The terminal tracer

`TermTracer` prints the system calls of all tracees to one stream and keeps track of the lines that
are not finished.

* `Config`       the command line options the callbacks depend on;
* `TraceeView`   what the callbacks read of a tracee;
* `TermTracer`   the data, and `printed`: what was written to the stream;
* `Consumer`     the callbacks of `EventConsumer` with the data they are given;
* `TermTracer.handle`   one callback.
-/

namespace Clues

open Lib Lib.Exec

/-! ## options -/

inductive FollowExecContext where
  | yes | no | ask | checkPath | checkGlob
  deriving DecidableEq, Repr

inductive FollowChildMode where
  | yes | no | ask | threads
  deriving DecidableEq, Repr

structure Config where
  /-- `m_syscall_filter`: no filter if it is empty -/
  syscallFilter : List SystemCallNr := []
  followExec : FollowExecContext := .yes
  followChildren : FollowChildMode := .no
  execContextArg : String := ""
  /-- `fnmatch()` -/
  fnmatch : String → String → Bool := fun _ _ => false

/-! ## data of the engine -/

structure TraceeView where
  pid : ProcessID
  prevState : State := .unknown
  syscallCtr : Nat := 0
  isInitiallyAttachedThread : Bool := false
  executable : String := ""

/-- a pointer to a `SystemCall`, whose `callNr()` never changes -/
structure Sys where
  id : CallId
  nr : SystemCallNr
  deriving DecidableEq, Repr

/-! ## the stream -/

/-- lines that are no system calls -/
inductive Note where
  | abiChanged (abi : ABI)
  | signal (signal : Signal)
  | additionallyAttached
  | autoAttached (parent : ProcessID) (event : PtraceEvent)
  | unknownAttached
  | lostToMtExit
  | exitedWith (status : Nat)
  | failedToExecute
  | killedBy (signal : Signal)
  | currentlyStopped
  | disappeared
  | nowKnownAs (oldPid : ProcessID)
  | noLongerRunning
  | nowRunning
  | detachingAfterExec
  | followQuestion
  deriving DecidableEq, Repr

inductive Output where
  /-- a system call up to its first output parameter -/
  | entry (pid : ProcessID) (sc : Sys)
  /-- the rest of it and its result -/
  | exit (pid : ProcessID) (sc : Sys)
  /-- `) = 0 (success)` of an `execve()` -/
  | success (pid : ProcessID)
  /-- `) = ?` -/
  | aborted (pid : ProcessID)
  /-- `<resuming ...>` -/
  | resuming (pid : ProcessID) (sc : Sys)
  /-- `<resuming previously interrupted ...>` -/
  | restarting (pid : ProcessID) (sc : Sys)
  /-- `<...unfinished>` -/
  | unfinished
  /-- the PID in front of a line -/
  | tag (pid : ProcessID)
  | onlyRemaining (pid : ProcessID)
  | note (pid : ProcessID) (n : Note)
  deriving DecidableEq, Repr

/-! ## the tracer -/

structure TermTracer where
  activeSyscall : Option (ProcessID × Sys) := none
  unfinishedSyscalls : OrdMap ProcessID Sys := OrdMap.empty
  newTracees : OrdMap ProcessID (ProcessID × PtraceEvent) := OrdMap.empty
  /-- a `size_t` -/
  numTracees : UInt64 := 0
  seenInitialExec : Bool := false
  droppedToLastTracee : Bool := false
  mainTraceePid : ProcessID := ProcessID.invalid
  mainStatus : Option WaitStatus := none
  lastAbi : ABI := .unknown
  printed : List Output := []
  /-- the tracees that `Tracee::detach()` was called for -/
  detached : List ProcessID := []

namespace TermTracer

/-- a failed assertion, which goes unnoticed without assertions, is undefined behaviour -/
abbrev Act (α : Type) := Exec TermTracer Undefined α

variable (cfg : Config)

def isEnabled (sc : Option Sys) : Bool :=
  match sc with
  | none => false
  | some sc => cfg.syscallFilter.isEmpty || cfg.syscallFilter.contains sc.nr

def activeSyscallOf (s : TermTracer) (pid : ProcessID) : Option Sys :=
  match s.activeSyscall with
  | some (p, sc) => if p = pid then some sc else none
  | none => none

def hasActiveSyscall (s : TermTracer) (pid : ProcessID) : Bool := (s.activeSyscallOf pid).isSome

/-- `currentSyscall()` and `findSyscall()` -/
def currentSyscall (s : TermTracer) (pid : ProcessID) : Option Sys :=
  match s.activeSyscallOf pid with
  | some sc => some sc
  | none => s.unfinishedSyscalls.find? pid

def print (o : Output) : Act Unit := update fun s => { s with printed := s.printed ++ [o] }

/-- a filtered system call is not told to be unfinished -/
def storeUnfinishedSyscallCtx : Act Bool := do
  let s ← read
  match s.activeSyscall with
  | none => pure false
  | some (pid, syscall) => do
      update fun s => { s with
        unfinishedSyscalls := s.unfinishedSyscalls.set pid syscall
        activeSyscall := none }
      pure (isEnabled cfg (some syscall))

def startNewLine (pid : ProcessID) : Act Unit := do
  let stored ← storeUnfinishedSyscallCtx cfg
  when stored (print .unfinished)
  let s ← read
  if 1 < s.numTracees then print (.tag pid)
  else when s.droppedToLastTracee do
    update fun s => { s with droppedToLastTracee := false }
    print (.onlyRemaining pid)

/-- `traceStream()` and what is written to it: a new line -/
def line (pid : ProcessID) (n : Note) : Act Unit := do
  startNewLine cfg pid
  print (.note pid n)

/-- the assertion fails if there is no entry -/
def checkResumedSyscall (pid : ProcessID) : Act Unit := do
  let s ← read
  if s.hasActiveSyscall pid then pure ()
  else
    match s.unfinishedSyscalls.find? pid with
    | none => raise .null
    | some sc => do
        update fun s => { s with unfinishedSyscalls := s.unfinishedSyscalls.erase pid }
        startNewLine cfg pid
        print (.resuming pid sc)

def cleanupTracee (pid : ProcessID) : Act Unit := do
  update fun s =>
    if s.hasActiveSyscall pid then { s with activeSyscall := none }
    else { s with unfinishedSyscalls := s.unfinishedSyscalls.erase pid }
  update fun s => { s with
    newTracees := s.newTracees.erase pid
    numTracees := s.numTracees - 1
    droppedToLastTracee := s.droppedToLastTracee || s.numTracees - 1 == 1 }

/-- the entries of a thread that goes on under another PID -/
def updateTracee (pid oldPid : ProcessID) : Act Unit := do
  update fun s =>
    if s.hasActiveSyscall oldPid then
      { s with activeSyscall := s.activeSyscall.map fun a => (pid, a.2) }
    else
      match s.unfinishedSyscalls.find? oldPid with
      | some sc =>
        { s with unfinishedSyscalls := (s.unfinishedSyscalls.set pid sc).erase oldPid }
      | none => s
  update fun s => { s with
    newTracees :=
      let newTracees := s.newTracees.erase pid
      match newTracees.find? oldPid with
      | some e => (newTracees.set pid e).erase oldPid
      | none => newTracees }

def abortSyscall (pid : ProcessID) : Act Unit := do
  let s ← read
  let enabled := isEnabled cfg (s.currentSyscall pid)
  if s.hasActiveSyscall pid then update fun s => { s with activeSyscall := none }
  else when enabled (checkResumedSyscall cfg pid)
  when enabled (print (.aborted pid))

def isDefaultABI (abi : ABI) : Bool := abi == ABI.default

def checkABI (pid : ProcessID) (abi : ABI) : Act Unit := do
  let s ← read
  let report :=
    if s.lastAbi = .unknown then !isDefaultABI abi else abi != s.lastAbi
  when report (line cfg pid (.abiChanged abi))

/-! ## callbacks -/

def syscallEntry (t : TraceeView) (sc : Sys) (abi : ABI) (flags : StatusFlags) : Act Unit := do
  if !isEnabled cfg (some sc) then pure ()
  else do
    checkABI cfg t.pid abi
    update fun s => { s with lastAbi := abi }
    startNewLine cfg t.pid
    when flags.resumed (print (.restarting t.pid sc))
    print (.entry t.pid sc)
    update fun s => { s with activeSyscall := some (t.pid, sc) }

def isExecSyscall (sc : Sys) : Bool := sc.nr = .execve || sc.nr = .execveat

/-- `hasResult`: the call did not fail -/
def syscallExit (t : TraceeView) (sc : Sys) (hasResult : Bool) : Act Unit := do
  if isExecSyscall sc && hasResult then pure ()
  else if !isEnabled cfg (some sc) then pure ()
  else do
    checkResumedSyscall cfg t.pid
    let s ← read
    when (s.activeSyscall.isSome && !s.hasActiveSyscall t.pid) (startNewLine cfg t.pid)
    print (.exit t.pid sc)
    update fun s => { s with activeSyscall := none }

def signaled (t : TraceeView) (signal : Signal) : Act Unit := line cfg t.pid (.signal signal)

def attached (t : TraceeView) : Act Unit := do
  let s ← read
  update fun s => { s with numTracees := s.numTracees + 1 }
  if s.numTracees = 0 then pure ()
  else if t.isInitiallyAttachedThread then line cfg t.pid .additionallyAttached
  else
    match s.newTracees.find? t.pid with
    | some (parent, event) => do
        line cfg t.pid (.autoAttached parent event)
        update fun s => { s with newTracees := s.newTracees.erase t.pid }
    | none => line cfg t.pid .unknownAttached

/-- the end of `exited()` and `disappeared()` -/
def finish (t : TraceeView) (status : WaitStatus) : Act Unit := do
  update fun s => if t.pid = s.mainTraceePid then { s with mainStatus := some status } else s
  cleanupTracee t.pid

def exited (t : TraceeView) (status : WaitStatus) (flags : StatusFlags) : Act Unit := do
  when (t.prevState = .syscallEnterStop) (abortSyscall cfg t.pid)
  when flags.lostToMtExit (line cfg t.pid .lostToMtExit)
  match status with
  | .exited n => do
      line cfg t.pid (.exitedWith n)
      let s ← read
      when (!s.seenInitialExec) (line cfg t.pid .failedToExecute)
  | .signaled signal => line cfg t.pid (.killedBy signal)
  finish t status

def stopped (t : TraceeView) : Act Unit :=
  when (t.syscallCtr = 0) (line cfg t.pid .currentlyStopped)

def disappeared (t : TraceeView) (status : WaitStatus) : Act Unit := do
  abortSyscall cfg t.pid
  line cfg t.pid .disappeared
  match status with
  | .exited n => line cfg t.pid (.exitedWith n)
  | .signaled signal => line cfg t.pid (.killedBy signal)
  finish t status

/-- `answer`: what the user says when asked -/
def followExecutionContext (t : TraceeView) (answer : Bool) : Bool :=
  match cfg.followExec with
  | .yes => true
  | .no => false
  | .ask => answer
  | .checkPath => cfg.execContextArg == t.executable
  | .checkGlob => cfg.fnmatch cfg.execContextArg t.executable

def detach (pid : ProcessID) : Act Unit := update fun s => { s with detached := s.detached ++ [pid] }

/-- the first part of `newExecutionContext()`: the call returned successfully -/
def anticipateSuccess (pid : ProcessID) : Act Unit := do
  let s ← read
  when (isEnabled cfg (s.currentSyscall pid)) do
    checkResumedSyscall cfg pid
    print (.success pid)
  update fun s => { s with activeSyscall := none }

/-- the last part: the status messages and the decision to follow -/
def announceContext (t : TraceeView) (answer : Bool) : Act Unit := do
  let s ← read
  when s.seenInitialExec (line cfg t.pid .noLongerRunning)
  line cfg t.pid .nowRunning
  if !s.seenInitialExec then update fun s => { s with seenInitialExec := true }
  else when (!followExecutionContext cfg t answer) do
    line cfg t.pid .detachingAfterExec
    detach t.pid

def newExecutionContext (t : TraceeView) (oldPid : Option ProcessID) (answer : Bool) :
    Act Unit :=
  match oldPid with
  | none => do
      anticipateSuccess cfg t.pid
      announceContext cfg t answer
  | some oldPid => do
      updateTracee t.pid oldPid
      anticipateSuccess cfg t.pid
      line cfg t.pid (.nowKnownAs oldPid)
      announceContext cfg t answer

def newChildProcess (parent child : TraceeView) (event : PtraceEvent) (flags : StatusFlags)
    (answer : Bool) : Act Unit := do
  when (cfg.followChildren = .ask) (line cfg parent.pid .followQuestion)
  let follow :=
    match cfg.followChildren with
    | .yes => true
    | .no => false
    | .ask => answer
    | .threads => flags.clonedThread
  if follow then
    update fun s => { s with newTracees := s.newTracees.insert child.pid (parent.pid, event) }
  else detach child.pid

/-- the callbacks that `TermTracer` overrides, with the data they are given; an execution context
has a former PID only if it differs from the tracee's PID -/
inductive Consumer where
  | syscallEntry (t : TraceeView) (sc : Sys) (abi : ABI) (flags : StatusFlags)
  | syscallExit (t : TraceeView) (sc : Sys) (hasResult : Bool)
  | signaled (t : TraceeView) (signal : Signal)
  | attached (t : TraceeView)
  | stopped (t : TraceeView)
  | exited (t : TraceeView) (status : WaitStatus) (flags : StatusFlags)
  | disappeared (t : TraceeView) (status : WaitStatus)
  | newExecutionContext (t : TraceeView) (oldPid : Option { pid : ProcessID // pid ≠ t.pid })
      (answer : Bool)
  | newChildProcess (parent child : TraceeView) (event : PtraceEvent) (flags : StatusFlags)
      (answer : Bool)

def handle : Consumer → Act Unit
  | .syscallEntry t sc abi flags => syscallEntry cfg t sc abi flags
  | .syscallExit t sc hasResult => syscallExit cfg t sc hasResult
  | .signaled t signal => signaled cfg t signal
  | .attached t => attached cfg t
  | .stopped t => stopped cfg t
  | .exited t status flags => exited cfg t status flags
  | .disappeared t status => disappeared cfg t status
  | .newExecutionContext t oldPid answer =>
      newExecutionContext cfg t (oldPid.map Subtype.val) answer
  | .newChildProcess parent child event flags answer =>
      newChildProcess cfg parent child event flags answer

end TermTracer

end Clues
