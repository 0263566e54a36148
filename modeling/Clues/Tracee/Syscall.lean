import Clues.SystemCall
import Clues.Tracee.Attach

/-!
# System call stops

* `dbGet`, `setEntryInfo`, `setExitInfo`   calls into the system call objects;
* `handleSystemCallEntry`, `handleSystemCallExit`, `handleSystemCall`   of `Tracee.cxx`.

Entry and exit are told apart by the kernel's report; the tracee's flag `syscallEntered` has to
agree with it.
-/

namespace Clues

open Lib Lib.Exec Step

variable {SC : Type} [SyscallOps SC] (env : Env)

/-! ## system call objects -/

def decodeEnv (id : TraceeId) : Step SC DecodeEnv := do
  let w ← read
  let t := w.objs id
  pure
    { pid := t.ptrace
      state := t.state
      maxBufferPrefetch := t.maxBufferPrefetch
      fdInfo := w.formatFdInfo
      mem := env.mem w.log t.ptrace
      fdInfos := env.fdInfos w.log t.ptrace
      snatchSocket := env.snatchSocket w.log
      alloc := env.alloc }

/-- decoding reads registers and memory of the tracee -/
def startDecode (id : TraceeId) : Step SC DecodeEnv := do
  let t ← getTracee id
  say (.request id (.peekData t.ptrace) none)
  decodeEnv env id

def getCall (c : CallId) : Step SC (CallObj SC) := do
  let w ← read
  match w.calls c with
  | some call => pure call
  | none => raise (.undefined .null)

def putCall (c : CallId) (sc : SC) : Step SC Unit :=
  update fun w => { w with
    calls := Function.update w.calls c ((w.calls c).map fun call => { call with obj := sc }) }

def newCall (call : CallObj SC) : Step SC CallId := do
  let w ← read
  update fun w => { w with
    calls := Function.update w.calls w.nextCall (some call)
    nextCall := w.nextCall + 1 }
  pure w.nextCall

/-- dereference `m_current_syscall` -/
def derefCall (c : Option CallId) : Step SC CallId :=
  match c with
  | some c => pure c
  | none => raise (.undefined .null)

/-- `SystemCallDB::get()` -/
def dbGet (id : TraceeId) (info : SystemCallInfo) : Step SC CallId := do
  let t ← getTracee id
  match t.syscallDb info.sysNr with
  | some c => pure c
  | none => do
      let de ← startDecode env id
      let r ← lift (SyscallOps.createSyscall de info)
      let c ← newCall ⟨info.sysNr, r.1⟩
      when r.2
        (modifyTracee id fun t =>
          { t with syscallDb := Function.update t.syscallDb info.sysNr (some c) })
      pure c

def setEntryInfo (id : TraceeId) (c : CallId) (info : SystemCallInfo) : Step SC Unit := do
  let de ← startDecode env id
  let call ← getCall c
  let r := SyscallOps.setEntryInfo de info call.obj
  putCall c r.2
  lift r.1

def setExitInfo (id : TraceeId) (c : CallId) (info : SystemCallInfo) : Step SC Unit := do
  let de ← startDecode env id
  let call ← getCall c
  let w ← read
  let ps : ProcState :=
    { fdInfoMap := (w.procs (w.objs id).processData).fdInfoMap, pidfd := (w.objs id).pidfd }
  let r := SyscallOps.setExitInfo de info call.obj ps
  putCall c r.2.1
  modifyProc id fun d => { d with fdInfoMap := r.2.2.fdInfoMap }
  modifyTracee id fun t => { t with pidfd := r.2.2.pidfd }
  lift r.1

/-! ## numbers and architecture -/

/-- `SystemCallInfo::updateSysNr()` -/
def SystemCallInfo.updateSysNr (info : SystemCallInfo) : Except Exc SystemCallInfo :=
  match info.stop with
  | .entry e =>
      let withAbi := fun abi => { info with abi := abi, sysNr := env.toGeneric abi e.nr }
      match info.arch with
      | .x86_64 => .ok (withAbi (if info.isX32 then .x32 else .x86_64))
      | .i386 => .ok (withAbi .i386)
      | .aarch64 => .ok (withAbi .aarch64)
      | .other => .error (.runtime "unsupported ARCH")
  | _ => .error (.runtime "bad SysCallInfo state")

/-- `Tracee::verifyArch()` of the x86-64 build -/
def verifyArch (info : SystemCallInfo) : Except Exc Unit :=
  match info.arch with
  | .i386 => .ok ()
  | .x86_64 => .ok ()
  | .aarch64 =>
      .error (.runtime "tracing 64-bit binaries with a 32-bit tracer is not supported")
  | .other => .error (.runtime "tracing this architecture/ABI is not currently supported")

/-- `Tracee::getInitialSyscallInfo()` -/
def Tracee.getInitialSyscallInfo (t : Tracee) (abi : ABI) : Option SystemCallInfo :=
  let rs := t.initialRegset
  if abi = rs.abi then
    some
      { stop := .entry rs.info
        arch := match rs.abi with
          | .i386 => .i386
          | .aarch64 => .aarch64
          | _ => .x86_64
        isX32 := rs.abi = .x32
        sysNr := env.toGeneric rs.abi rs.info.nr
        abi := rs.abi }
  else none

/-- whether the interrupted system call was found; every generic number is valid -/
def tryRecoverRestartedSystemCall (id : TraceeId) (info : SystemCallInfo) : Step SC Bool := do
  let t ← getTracee id
  match t.getInitialSyscallInfo env info.abi with
  | none => pure false
  | some orig =>
      if orig.sysNr = .restartSyscall then pure false
      else do
        let c ← dbGet env id orig
        modifyTracee id fun t => { t with currentSyscall := some c }
        pure true

/-! ## entry and exit -/

/-- whether this entry resumes an interrupted system call; `m_current_syscall` becomes the
resumed call if the kernel goes through `restart_syscall()` -/
def checkResumed (id : TraceeId) (info : SystemCallInfo) (call : CallObj SC) : Step SC Bool := do
  let t ← getTracee id
  if info.sysNr = .restartSyscall then
    match t.interruptedSyscall with
    | some i => do
        modifyTracee id fun t => { t with currentSyscall := some i, interruptedSyscall := none }
        pure true
    | none =>
        if t.syscallCtr ≠ 0 then pure false
        else tryRecoverRestartedSystemCall env id info
  else
    match t.interruptedSyscall with
    | some i =>
        if t.flags.seenSigreturn then do
          let interrupted ← getCall i
          setFlags id fun f => { f with seenSigreturn := false }
          modifyTracee id fun t => { t with interruptedSyscall := none }
          pure (SyscallOps.callNr interrupted.obj = SyscallOps.callNr call.obj)
        else pure false
    | none => pure false

def handleSystemCallEntry (it : Iter) (info : SystemCallInfo) : Step SC Unit := do
  let c ← dbGet env it.id info
  modifyTracee it.id fun t => { t with currentSyscall := some c }
  let call ← getCall c
  let lastAbi := SyscallOps.abi call.obj
  let abiChanged := lastAbi ≠ .unknown ∧ lastAbi ≠ info.abi
  lift (verifyArch info)
  let resumed ← checkResumed env it.id info call
  let t ← getTracee it.id
  let c ← derefCall t.currentSyscall
  setEntryInfo env it.id c info
  modifyTracee it.id fun t => { t with syscallCtr := t.syscallCtr + 1 }
  notify env it (.syscallEntry it.id c { resumed := resumed, abiChanged := abiChanged })

/-- the end of a signal handler: its return decides whether the interrupted call goes on -/
def checkSigreturn (id : TraceeId) (call : CallObj SC) : Step SC Unit := do
  let t ← getTracee id
  if t.interruptedSyscall.isSome && isSigreturn (SyscallOps.callNr call.obj) then
    match SyscallOps.error call.obj with
    | some e =>
        if e.hasErrorCode && e.code == Errno.interrupted then
          modifyTracee id fun t => { t with interruptedSyscall := none }
        else setFlags id fun f => { f with seenSigreturn := true }
    | none => setFlags id fun f => { f with seenSigreturn := true }

def handleSystemCallExit (it : Iter) (info : SystemCallInfo) : Step SC Unit := do
  let t ← getTracee it.id
  let c ← derefCall t.currentSyscall
  setExitInfo env it.id c info
  let call ← getCall c
  let interrupted := (SyscallOps.error call.obj).any ErrnoResult.hasKernelErrorCode
  when interrupted (modifyTracee it.id fun t => { t with interruptedSyscall := some c })
  notify env it (.syscallExit it.id c { interrupted := interrupted })
  checkSigreturn it.id call
  modifyTracee it.id fun t => { t with currentSyscall := none }

/-- the kernel's report of a system call stop, as the log keeps it -/
def saySyscallStop (id : TraceeId) (info : SystemCallInfo) : Step SC Unit :=
  match info.stop with
  | .entry _ =>
      match info.updateSysNr env with
      | .ok info => say (.syscallEntered id info.sysNr)
      | .error _ => say (.syscallEntered id .unknown)
  | .exit _ => say (.syscallExited id)
  | _ => pure ()

def handleStateMismatch : Step SC Unit := raise (.runtime "system call state mismatch")

/-- entry or exit, as the flag of the tracee says -/
def handleSyscallStop (it : Iter) (info : SystemCallInfo) : Step SC Unit := do
  let t ← getTracee it.id
  if t.flags.syscallEntered then
    if info.stop.isExit then do
      changeState env it.id .syscallExitStop
      handleSystemCallExit env it info
    else handleStateMismatch
  else
    if info.stop.isEntry then do
      let info ← lift (info.updateSysNr env)
      modifyTracee it.id fun t => { t with syscallInfo := some info }
      changeState env it.id .syscallEnterStop
      handleSystemCallEntry env it info
    else handleStateMismatch

def handleSystemCall (it : Iter) : Step SC Unit := do
  modifyTracee it.id fun t => { t with syscallInfo := some {} }
  let t ← getTracee it.id
  let r ← query env it.id (.getSyscallInfo t.ptrace) fun log => env.syscallInfo log t.ptrace
  let info : SystemCallInfo := { arch := r.1, isX32 := r.2.1, stop := r.2.2 }
  modifyTracee it.id fun t => { t with syscallInfo := some info }
  saySyscallStop env it.id info
  handleSyscallStop env it info
  modifyTracee it.id fun t => { t with syscallInfo := none }

end Clues
