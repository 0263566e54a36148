import Clues.Tracee.State

/-!
# Creating and attaching tracees

* `attach`      `Tracee::attach()`;
* `addForeign`, `addChild`   the two `Engine::addTracee()` functions;
* `handleAttached`, `attachThreads`   what happens at the initial ptrace stop.
-/

namespace Clues

open Lib Lib.Exec Step

variable {SC : Type} (env : Env)

/-! ## process data -/

def modifyProc (id : TraceeId) (f : ProcessData → ProcessData) : Step SC Unit :=
  update fun w => w.setProc (w.objs id).processData (f (w.procs (w.objs id).processData))

def updateExecutable (id : TraceeId) : Step SC Unit := do
  let w ← read
  match env.exe w.log (w.objs id).ptrace with
  | .ok exe => modifyProc id fun d => { d with executable := exe }
  | .error _ => modifyProc id fun d => { d with executable := "" }

def updateCmdLine (id : TraceeId) : Step SC Unit := do
  let w ← read
  modifyProc id fun d => { d with cmdline := (env.cmdline w.log (w.objs id).ptrace).getD [] }

def updateExecInfo (id : TraceeId) : Step SC Unit := do
  updateExecutable env id
  updateCmdLine env id

/-- `clone` of the process data for a tracee with an own descriptor table -/
def unshareProcessData (id : TraceeId) : Step SC Unit :=
  update fun w =>
    let d := w.procs (w.objs id).processData
    { (w.setProc w.nextProc d).setObj id { w.objs id with processData := w.nextProc } with
      nextProc := w.nextProc + 1 }

/-! ## new tracees -/

/-- the constructor: data is shared with `sibling`, if there is one -/
def newTracee (kind : TraceeKind) (sibling : Option TraceeId) : Step SC TraceeId := do
  let w ← read
  update fun w =>
    match sibling with
    | some sib =>
        { w.setObj w.nextObj { kind := kind, processData := (w.objs sib).processData } with
          nextObj := w.nextObj + 1 }
    | none =>
        { (w.setProc w.nextProc {}).setObj w.nextObj
            { kind := kind, processData := w.nextProc } with
          nextObj := w.nextObj + 1, nextProc := w.nextProc + 1 }
  pure w.nextObj

/-- whether the new object shares the data of a process or not -/
theorem newTracee_eq (kind : TraceeKind) (sibling : Option TraceeId) (w : World SC) :
    ∃ proc procs nextProc, newTracee kind sibling w = (.ok w.nextObj,
      { w.setObj w.nextObj { kind := kind, processData := proc } with
        procs := procs, nextObj := w.nextObj + 1, nextProc := nextProc }) := by
  cases sibling with
  | some sib => exact ⟨_, _, _, rfl⟩
  | none => exact ⟨_, _, _, rfl⟩

def setPID (id : TraceeId) (pid : ProcessID) : Step SC Unit :=
  modifyTracee id fun t => { t with ptrace := pid }

/-- a foreign task that cannot be attached counts as dead -/
def trySeize (id : TraceeId) (followChildren : Bool) : Step SC Unit := do
  let t ← getTracee id
  handle (request env id (.seize t.ptrace followChildren)) fun e => do
    when (t.isChildProcess = false) (changeState env id .dead)
    raise e

/-- the rest of `Tracee::attach()`, which leads to the initial ptrace stop -/
def initAttach (id : TraceeId) (attachThreads : Bool) : Step SC Unit := do
  let t ← getTracee id
  updateExecutable env id
  updateCmdLine env id
  request env id (.interrupt t.ptrace)
  setFlags id fun f => { f with waitForAttachStop := true }
  when t.flags.injectedSigstop do
    request env id (.kill t.ptrace Signal.cont)
    setFlags id fun f => { f with injectedSigcont := true }
  when attachThreads (setFlags id fun f => { f with attachThreadsPending := true })

def attach (id : TraceeId) (followChildren attachThreads : Bool) : Step SC Unit := do
  modifyTracee id fun t => { t with followChildren := followChildren }
  trySeize env id followChildren
  initAttach env id attachThreads

/-- put a tracee into `m_tracees` under a key that has no entry -/
def putTracee (pid : ProcessID) (id : TraceeId) : Step SC Unit := do
  update fun w => { w with tracees := w.tracees.set pid (some id) }
  say (.tracked pid id)

/-- `m_tracees[pid] = tracee`: the pointer that was there is dropped -/
def assignTracee (pid : ProcessID) (id : TraceeId) : Step SC Unit := do
  let old ← extractTracee pid
  putTracee pid id
  match old with
  | some old => destroy env old
  | none => pure ()

def addForeign (pid : ProcessID) (followChildren attachThreads : Bool) (sibling : ProcessID)
    (hold : Bool) : Step SC TraceeId := do
  let w ← read
  let id ← newTracee .foreign ((w.tracees.find? sibling).join)
  setPID id pid
  handle (attach env id followChildren attachThreads) fun e => do
    destroy env id
    raise e
  modifyTracee id fun t => { t with held := hold }
  assignTracee env pid id
  pure id

/-- `ChildTracee::create()` -/
def create (id : TraceeId) (cmdline : List String) : Step SC Unit := do
  let w ← read
  if cmdline.isEmpty ∨ env.which w.log (cmdline.headD "") = false then do
    changeState env id .dead
    raise (.runtime "does not exist or is not executable")
  else do
    let child ← lift (env.createChild w.log cmdline)
    modifyTracee id fun t => { t with childPid := child, childRunning := true }
    request env id (.waitChild child)
    setFlags id fun f => { f with injectedSigstop := true }
    setPID id child

def addChild (cmdline : List String) (followChildren hold : Bool) : Step SC TraceeId := do
  let id ← newTracee .child none
  handle
    (do
      create env id cmdline
      attach env id followChildren false)
    fun e => do
      destroy env id
      raise e
  let t ← getTracee id
  modifyTracee id fun t => { t with held := hold }
  assignTracee env t.pid id
  pure id

/-! ## the initial ptrace stop -/

def getRegisters (id : TraceeId) (abi : ABI) : Step SC RegisterSet := do
  let t ← getTracee id
  let r ← query env id (.getRegisterSet t.ptrace abi) fun log => env.registerSet log t.ptrace abi
  match r with
  | some info => pure ⟨abi, info⟩
  | none => raise (.runtime "received incomplete register set")

def x32SyscallBit : UInt64 := 0x40000000

def getInitialRegisters (id : TraceeId) : Step SC Unit :=
  handle
    (do
      let rs ← getRegisters env id ABI.default
      modifyTracee id fun t => { t with initialRegset := rs }
      if rs.info.nr &&& x32SyscallBit ≠ 0 then do
        let rs ← getRegisters env id .x32
        modifyTracee id fun t => { t with initialRegset := rs })
    fun e =>
      match e with
      | .runtime _ => do
          let rs ← getRegisters env id .i386
          modifyTracee id fun t => { t with initialRegset := rs }
      | e => raise e

/-- one entry of `/proc/<pid>/task` in `Tracee::attachThreads()` -/
def attachThread (id : TraceeId) (pid : ProcessID) : Step SC Unit := do
  let t ← getTracee id
  if pid = t.ptrace then pure ()
  else
    catchAll
      (do
        let thread ← addForeign env pid t.followChildren false t.pid false
        modifyTracee thread fun u => { u with initialAttacher := some t.ptrace })
      (pure ())

def attachThreads (it : Iter) : Step SC Unit := do
  let w ← read
  let pids ← lift (env.tasks w.log (w.objs it.id).ptrace)
  each pids (attachThread env it.id)
  checkContained it

/-- take over the descriptors found in `/proc`, unless the table is already known -/
def initFDs (id : TraceeId) : Step SC Unit := do
  let w ← read
  if (w.procs (w.objs id).processData).fdInfoMap.isEmpty then
    catchCosmos
      (do
        let infos ← lift (env.fdInfos w.log (w.objs id).ptrace)
        each infos fun info =>
          modifyProc id fun d => { d with fdInfoMap := d.fdInfoMap.insert info.fd info })
      (pure ())

def handleAttached (it : Iter) : Step SC Unit := do
  setFlags it.id fun f => { f with waitForAttachStop := false }
  let t ← getTracee it.id
  when (t.flags.injectedSigstop = false)
    (modifyTracee it.id fun t => { t with restartMode := .syscall })
  getInitialRegisters env it.id
  initFDs env it.id
  notify env it (.attached it.id)
  let t ← getTracee it.id
  when t.flags.attachThreadsPending do
    catchAll (attachThreads env it) (pure ())
    setFlags it.id fun f => { f with attachThreadsPending := false }

end Clues
