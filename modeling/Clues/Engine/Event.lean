import Clues.Tracee.Syscall

/-!
# Wait events

* `handleAutoAttach`, `handleSubstitution`   the engine's part in new children and `execve()`;
* `handleStopEvent`, `handleExitEvent`, `handleExecEvent`, `handleNewChildEvent`, `handleSignal`,
  `processEvent`   of `Tracee.cxx`;
* `checkCleanupTracee`, `checkUnknownEvents`, `checkUnknownTraceeEvent`, `handleEvent`,
  `handleNoChildren`, `trace`   of `Engine.cxx`.
-/

namespace Clues

open Lib Lib.Exec Step

variable {SC : Type} [SyscallOps SC] (env : Env)

/-! ## cleaning up -/

def checkCleanupTracee (key : ProcessID) : Step SC Unit := do
  let id ← entryTracee key
  let t ← getTracee id
  if t.state = .detached then
    if !t.isChildProcess then eraseTracee env key
  else if t.state = .dead then do
    doDetach env id
    eraseTracee env key

/-! ## new children -/

/-- `m_current_syscall` as far as `Tracee::hasClonedThread()` looks at it -/
def hasClonedThread (id : TraceeId) : Step SC Bool := do
  let t ← getTracee id
  match t.currentSyscall with
  | none => pure false
  | some c => do
      let call ← getCall c
      lift (SyscallOps.clonedThread call.obj)

/-- `AutoAttachedTracee::configure()` -/
def configure (id : TraceeId) (pid : ProcessID) (call : CallObj SC) : Step SC Unit := do
  setPID id pid
  setFlags id fun f => { f with waitForAttachStop := true }
  let shares ← lift (SyscallOps.sharesFiles call.obj)
  if !shares then unshareProcessData id

/-- `m_tracees[pid]`: a missing entry is created with a null pointer -/
def indexTracee (pid : ProcessID) : Step SC (Option TraceeId) := do
  let w ← read
  update fun w => { w with tracees := w.tracees.insert pid none }
  pure ((w.tracees.find? pid).join)

/-- `m_tracees.insert({pid, tracee})`: a taken key keeps its tracee, and the new one goes -/
def insertTracee (pid : ProcessID) (id : TraceeId) : Step SC Unit := do
  let w ← read
  match w.tracees.find? pid with
  | none => putTracee pid id
  | some _ => pure ()

/-- the consumer may have detached from the child -/
def tellNewChild (it : Iter) (pid : ProcessID) (event : PtraceEvent) (child : TraceeId)
    (thread : Bool) : Step SC Unit := do
  notify env it (.newChildProcess it.id child event { clonedThread := thread })
  checkCleanupTracee env pid

/-- the first branch of `Engine::handleAutoAttach()` -/
def addAutoAttached (it : Iter) (pid : ProcessID) (event : PtraceEvent) (call : CallObj SC) :
    Step SC Unit := do
  let parent ← getTracee it.id
  let sibling ← indexTracee parent.pid
  let id ← newTracee .autoAttached sibling
  configure id pid call
  insertTracee pid id
  let thread ← hasClonedThread it.id
  let child ← entryTracee pid
  tellNewChild env it pid event child thread
  -- the local pointer to a tracee that was not inserted goes here
  when (child ≠ id) (destroy env id)

/-- its other branch -/
def completeVfork (it : Iter) (pid : ProcessID) : Step SC Unit := do
  let w ← read
  notify env it (.vforkComplete it.id ((w.tracees.find? pid).join))

def handleAutoAttach (it : Iter) (pid : ProcessID) (event : PtraceEvent) (call : CallObj SC) :
    Step SC Unit := do
  (if event ≠ .vforkDone then addAutoAttached env it pid event call
    else completeVfork env it pid)
  update fun w => { w with newlyAttachedPid := pid }

/-! ## execve -/

/-- the kernel seems to detach implicitly when another thread takes over -/
def detachReplaced (old : TraceeId) : Step SC Unit :=
  catchApi (do let _ ← detach env old; pure ()) fun e =>
    if e ≠ Errno.search then raise (.api e) else pure ()

/-- the tracee of the thread that called `execve()` is taken out of `m_tracees` -/
def handleSubstitution (oldPid : ProcessID) : Step SC (Option TraceeId) := do
  let w ← read
  match w.tracees.find? oldPid with
  | none => pure none
  | some _ => do
      let old ← entryTracee oldPid
      detachReplaced env old
      let _ ← extractTracee oldPid
      pure (some old)

/-- `Tracee::syncState()` -/
def syncState (id other : TraceeId) : Step SC Unit := do
  let o ← getTracee other
  modifyTracee id fun t => { t with
    syscallInfo := o.syscallInfo
    syscallDb := o.syscallDb
    currentSyscall := o.currentSyscall
    interruptedSyscall := o.interruptedSyscall
    syscallCtr := o.syscallCtr }
  modifyTracee other fun o => { o with syscallDb := fun _ => none }
  changeState env other .dead

/-- the loop of `Tracee::syncFDsAfterExec()`: the increment skips the entry behind an erased one -/
def dropClosed (left : List FileNum) : List (FileNum × FDInfo) → List (FileNum × FDInfo)
  | [] => []
  | [e] => if e.1 ∈ left then [e] else []
  | e :: e' :: es =>
    if e.1 ∈ left then e :: dropClosed left (e' :: es) else e' :: dropClosed left es

theorem dropClosed_sublist (left : List FileNum) (es : List (FileNum × FDInfo)) :
    (dropClosed left es).Sublist es := by
  fun_induction dropClosed left es with
  | case1 => exact List.Sublist.refl _
  | case2 e h => exact List.Sublist.refl _
  | case3 e h => exact List.nil_sublist _
  | case4 e e' es h ih => exact ih.cons_cons _
  | case5 e e' es h ih => exact (ih.cons_cons _).cons _

def syncFDsAfterExec (left : List FileNum) (m : FDInfoMap) : FDInfoMap :=
  ⟨dropClosed left m.entries, m.sorted.sublist (dropClosed_sublist left m.entries)⟩

/-- the loop of `Tracee::syncFDsAfterExec()`, unless the descriptors cannot be listed -/
def dropClosedFDs (id : TraceeId) : Step SC Unit := do
  let w ← read
  match env.openFds w.log (w.objs id).ptrace with
  | .ok left => modifyProc id fun d => { d with fdInfoMap := syncFDsAfterExec left d.fdInfoMap }
  | .error _ => pure ()

/-- the event was reported under another PID than that of the thread that called `execve()` -/
def replaceLeader (it : Iter) (mainPid formerPid : ProcessID) : Step SC Unit := do
  match ← handleSubstitution env formerPid with
  | some old => do
      syncState env it.id old
      destroy env old
  | none => setPID it.id mainPid

def handleExecEvent (it : Iter) (mainPid : ProcessID) : Step SC Unit := do
  let w ← read
  let d := w.procs (w.objs it.id).processData
  let formerPid ← query env it.id (.getPIDEventMsg mainPid) fun log => env.pidEventMsg log mainPid
  say (.execed it.id formerPid
    (if formerPid ≠ mainPid then (w.tracees.find? formerPid).join else none))
  when (formerPid ≠ mainPid) (replaceLeader env it mainPid formerPid)
  updateExecInfo env it.id
  dropClosedFDs env it.id
  notify env it (.newExecutionContext it.id d.executable d.cmdline
    (if formerPid ≠ mainPid then some formerPid else none))

/-! ## events of one tracee -/

def handleSignal (it : Iter) (signal : Signal) : Step SC Unit := do
  let t ← getTracee it.id
  if t.flags.injectedSigcont ∧ signal = Signal.cont then
    setFlags it.id fun f => { f with injectedSigcont := false }
  else notify env it (.signaled it.id signal)

def handleStopEvent (it : Iter) (signal : Signal) : Step SC Unit := do
  let t ← getTracee it.id
  if t.flags.waitForAttachStop then handleAttached env it
  else if signal ∈ stoppingSignals then do
    changeState env it.id .groupStop
    modifyTracee it.id fun t => { t with stopSignal := some signal }
    notify env it (.stopped it.id)
  else if signal = Signal.trap then
    modifyTracee it.id fun t => { t with restartMode := .syscall }

/-- `currentSystemCallNr()`, dereferenced -/
def currentNr (id : TraceeId) : Step SC SystemCallNr := do
  let t ← getTracee id
  let c ← derefCall t.currentSyscall
  let call ← getCall c
  pure (SyscallOps.callNr call.obj)

/-- the exit is not the end of an exit call of the tracee -/
def lostToMtExit (id : TraceeId) (status : WaitStatus) : Step SC Bool := do
  let t ← getTracee id
  match status with
  | .exited _ =>
      if t.prevState ≠ .syscallEnterStop then pure true
      else do
        let nr ← currentNr id
        pure (nr ≠ .exitGroup ∧ nr ≠ .exit : Bool)
  | .signaled _ => pure false

def handleExitEvent (it : Iter) : Step SC Unit := do
  let t ← getTracee it.id
  let status ← query env it.id (.getExitEventMsg t.ptrace) fun log => env.exitEventMsg log t.ptrace
  let lost ← lostToMtExit it.id status
  notify env it (.exited it.id status { lostToMtExit := lost })
  setFlags it.id fun f => { f with waitForExited := true }

/-- `m_ptrace.getPIDEventMsg()` -/
def getPIDEventMsg (id : TraceeId) : Step SC ProcessID := do
  let t ← getTracee id
  query env id (.getPIDEventMsg t.ptrace) fun log => env.pidEventMsg log t.ptrace

/-- `*m_current_syscall` -/
def derefCurrent (id : TraceeId) : Step SC (CallObj SC) := do
  let t ← getTracee id
  let c ← derefCall t.currentSyscall
  getCall c

/-- the arguments that `handleNewChildEvent()` passes to the engine -/
def calledFrom (id : TraceeId) : Step SC (ProcessID × CallObj SC) :=
  if env.lastArgFirst then do
    let call ← derefCurrent id
    let pid ← getPIDEventMsg env id
    pure (pid, call)
  else do
    let pid ← getPIDEventMsg env id
    let call ← derefCurrent id
    pure (pid, call)

def handleNewChildEvent (it : Iter) (event : PtraceEvent) : Step SC Unit := do
  let r ← calledFrom env it.id
  handleAutoAttach env it r.1 event r.2

def handlePtraceEvent (it : Iter) (pid : ProcessID) (event : PtraceEvent) (signal : Signal) :
    Step SC Unit :=
  match event with
  | .stop => handleStopEvent env it signal
  | .exit => handleExitEvent env it
  | .exec => handleExecEvent env it pid
  | .clone | .vfork | .vforkDone | .fork => handleNewChildEvent env it event
  | .seccomp => pure ()

/-- a stop for a signal, which is injected again at the restart -/
def handleSignalStop (it : Iter) (signal : Signal) : Step SC Unit := do
  changeState env it.id .signalDeliveryStop
  let t ← getTracee it.id
  let info ← query env it.id (.getSigInfo t.ptrace) fun log => env.sigInfo log t.ptrace
  handleSignal env it info
  modifyTracee it.id fun t => { t with injectSig := some signal }

/-- the restart at the end of `Tracee::processEvent()` -/
def restartTracee (it : Iter) : Step SC Unit := do
  let t ← getTracee it.id
  if t.state = .dead ∨ t.state = .detached then pure ()
  else do
    request env it.id (.restart t.ptrace t.restartMode t.injectSig)
    if t.restartMode ≠ .listen then do
      changeState env it.id .running
      when (t.state = .groupStop) (notify env it (.resumed it.id))

def handleTrap (it : Iter) (pid : ProcessID) (trap : Trap) : Step SC Unit :=
  match trap with
  | .sysTrap => handleSystemCall env it
  | .event signal event => do
      changeState env it.id .eventStop
      handlePtraceEvent env it pid event signal
  | .signal signal => handleSignalStop env it signal

def handleEnd (it : Iter) (data : ChildState) : Step SC Unit := do
  changeState env it.id .dead
  let t ← getTracee it.id
  when (t.flags.waitForExited = false) (notify env it (.disappeared it.id data))
  modifyTracee it.id fun t => { t with exitData := some data }

def processEvent (it : Iter) (data : ChildState) : Step SC Unit := do
  say (.deliver it.id data)
  modifyTracee it.id fun t => { t with injectSig := none }
  if data.isEnd then handleEnd env it data
  else
    match data.event with
    | .trapped trap => do
        let t ← getTracee it.id
        if t.flags.detachAtNextStop then doDetach env it.id
        else do
          handleTrap env it data.pid trap
          restartTracee env it
    | .signaled signal => do
        handleSignalStop env it signal
        restartTracee env it
    | _ => restartTracee env it

/-! ## the engine -/

inductive Decision where
  | retry | drop | store | done
  deriving DecidableEq, Repr

/-- the key of an entry changes, the object's own PID does not yet -/
def tryUpdateTraceePID (oldPid newPid : ProcessID) : Step SC Bool := do
  let w ← read
  match w.tracees.find? oldPid with
  | none => pure false
  | some entry => do
      update fun w => { w with tracees := (w.tracees.erase oldPid).insert newPid entry }
      say (.rekeyed oldPid newPid)
      pure true

/-- a `PTRACE_EVENT_EXEC` or `PTRACE_EVENT_STOP` for a PID that is not in `m_tracees` -/
def checkUnknownTraceeEvent (data : ChildState) : Step SC Decision :=
  match data.event with
  | .trapped (.event _ .exec) => do
      let formerPid ← inquire env (.getPIDEventMsg data.pid) fun log =>
        env.pidEventMsg log data.pid
      if ← tryUpdateTraceePID formerPid data.pid then pure .retry else pure .drop
  | .trapped (.event _ .stop) => pure .store
  | _ => pure .drop

/-- the part of `Engine::handleEvent()` for a known PID, up to `checkUnknownEvents()` -/
def handleKnown (it : Iter) (data : ChildState) : Step SC Unit := do
  catchApi (processEvent env it data) fun _ => checkContained it
  checkContained it
  checkCleanupTracee env it.key

/-- `Engine::handleEvent()`, given what `checkUnknownEvents()` does at its end -/
def handleEventWith (checkUnknownEvents : Step SC Unit) (data : ChildState) :
    Step SC Decision := do
  let w ← read
  match w.tracees.find? data.pid with
  | some _ => do
      let id ← entryTracee data.pid
      handleKnown env ⟨data.pid, id⟩ data
      checkUnknownEvents
      pure .done
  | none => checkUnknownTraceeEvent env data

/-- `Engine::checkUnknownEvents()`, given how a stored event is handled -/
def checkUnknownEventsWith (handleEvent : ChildState → Step SC Unit) : Step SC Unit := do
  let w ← read
  if w.newlyAttachedPid = ProcessID.invalid then pure ()
  else do
    let newPid := w.newlyAttachedPid
    update fun w => { w with newlyAttachedPid := ProcessID.invalid }
    match w.unknownEvents.find? newPid with
    | none => pure ()
    | some data => do
        handleEvent data
        update fun w => { w with unknownEvents := w.unknownEvents.erase newPid }

/-- `fuel` bounds how deep stored events are handled inside of the handling of an event -/
def checkUnknownEventsN : Nat → Step SC Unit
  | 0 => checkUnknownEventsWith fun _ => raise .outOfFuel
  | fuel + 1 => checkUnknownEventsWith fun data => do
      let _ ← handleEventWith env (checkUnknownEventsN fuel) data
      pure ()

def handleEventN (fuel : Nat) (data : ChildState) : Step SC Decision :=
  handleEventWith env (checkUnknownEventsN env fuel) data

/-- stored events are stops, which create no further children: one level is enough -/
def handleEvent (data : ChildState) : Step SC Decision := handleEventN env 1 data

/-- the inner loop of `Engine::trace()`; `fuel` bounds the number of retries -/
def traceEventN (fuel : Nat) (data : ChildState) : Step SC Unit := do
  match ← handleEvent env data with
  | .retry =>
      match fuel with
      | 0 => raise .outOfFuel
      | fuel + 1 => traceEventN fuel data
  | .store => update fun w => { w with unknownEvents := w.unknownEvents.insert data.pid data }
  | .drop => pure ()
  | .done => pure ()

/-- one event in `Engine::trace()`: a retry finds the PID in `m_tracees` -/
def traceEvent (data : ChildState) : Step SC Unit := do
  say (.wait data)
  traceEventN env 1 data

/-- one round of the loop in `Engine::handleNoChildren()`: an erased iterator is incremented -/
def dropTracee (key : ProcessID) : Step SC Unit := do
  let id ← entryTracee key
  let _ ← detach env id
  checkCleanupTracee env key
  let _ ← entryTracee key
  pure ()

/-- `wait()` found no children -/
def handleNoChildren : Step SC Unit := do
  let w ← read
  each w.tracees.keys (dropTracee env)

end Clues
