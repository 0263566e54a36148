import Clues.World

/-!
# Tracee states, detaching, and calls into the consumer

* `changeState`, `handleError`, `doDetach`, `detach`   of `Tracee.cxx`;
* `cleanupChild`, `destroy`   of `ChildTracee.cxx` and the other destructors;
* `eraseTracee`   taking an entry out of `m_tracees`, which drops its pointer;
* `stop`          `Engine::stop()`;
* `callback`      a call into the consumer, which may call `stop` and `detach` itself;
* `notify`        a callback after which the caller goes on with the tracee and the map entry it
                  was called for: this is undefined when they are no longer in `m_tracees`.
-/

namespace Clues

open Lib Lib.Exec Step

variable {SC : Type} (env : Env)

/-! ## states -/

/-- `ChildTracee::cleanupChild()`: collect the child, whose status the engine may have taken -/
def cleanupChild (id : TraceeId) : Step SC Unit := do
  let t ← getTracee id
  if t.childRunning then
    catchApi (request env id (.waitChild t.childPid)) fun e =>
      if e ≠ Errno.noChild then raise (.api e) else pure ()
    modifyTracee id fun t => { t with childRunning := false }

/-- what entering a state does to flags, restart mode and child -/
def enterState (id : TraceeId) (newState : State) : Step SC Unit :=
  match newState with
  | .syscallEnterStop => setFlags id fun f => { f with syscallEntered := true }
  | .syscallExitStop => setFlags id fun f => { f with syscallEntered := false }
  | .groupStop => modifyTracee id fun t =>
      if t.flags.injectedSigstop then
        { t with flags := { t.flags with injectedSigstop := false }, restartMode := .syscall }
      else { t with restartMode := .listen }
  | .detached => setFlags id fun f => { f with detachAtNextStop := false }
  | .dead => do
      let t ← getTracee id
      if t.isChildProcess then cleanupChild env id
  | _ => pure ()

/-- the end of `Tracee::changeState()`: remember the previous state, forget the stop signal -/
def Tracee.moveTo (t : Tracee) (newState : State) : Tracee :=
  let prevState := if t.state ≠ .running then t.state else t.prevState
  { t with
    prevState := prevState
    stopSignal := if prevState = .groupStop ∧ t.state ≠ .groupStop then none else t.stopSignal
    state := newState }

def changeState (id : TraceeId) (newState : State) : Step SC Unit := do
  enterState env id newState
  modifyTracee id fun t => t.moveTo newState

/-! ## detaching -/

def handleError (id : TraceeId) (errno : Errno) : Step SC Unit :=
  if errno = Errno.search then changeState env id .dead
  else do
    modifyTracee id fun t => { t with ptrace := ProcessID.invalid }
    raise (.api errno)

/-- the end of `Tracee::doDetach()` -/
def Tracee.forget (t : Tracee) : Tracee :=
  { t with ptrace := ProcessID.invalid, flags := {}, initialAttacher := none }

def doDetach (id : TraceeId) : Step SC Unit := do
  let t ← getTracee id
  catchApi
    (do
      request env id (.detach t.ptrace)
      say (.detached id)
      changeState env id .detached)
    (handleError env id)
  modifyTracee id Tracee.forget

/-- whether the tracee is detached from now -/
def detach (id : TraceeId) : Step SC Bool := do
  let t ← getTracee id
  if t.ptrace = ProcessID.invalid then pure true
  else if t.state = .dead ∨ t.state = .detached then pure true
  else if t.state ≠ .running ∧ t.state ≠ .unknown then do
    doDetach env id
    pure true
  else do
    setFlags id fun f => { f with detachAtNextStop := true }
    -- interrupt, if not still pending, for being able to detach
    when (t.flags.waitForAttachStop = false)
      (catchApi (request env id (.interrupt t.ptrace)) (handleError env id))
    pure false

/-! ## object lifetime -/

/-- the body of `ChildTracee::~ChildTracee()` -/
def endChild (id : TraceeId) : Step SC Unit := do
  let t ← getTracee id
  when t.childRunning
    (catchAll (request env id (.kill t.childPid Signal.kill)) (pure ()))
  cleanupChild env id

/-- the body of the other destructors -/
def endForeign (id : TraceeId) : Step SC Unit := do
  let _ ← detach env id
  pure ()

/-- the last pointer to the object goes, unless the client keeps one -/
def destroy (id : TraceeId) : Step SC Unit := do
  let t ← getTracee id
  if t.held then pure ()
  else do
    say (.destroyed id)
    if t.isChildProcess then catchCosmos (endChild env id) (pure ())
    else catchCosmos (endForeign env id) (pure ())

/-- take an entry out of `m_tracees` and keep the pointer it held -/
def extractTracee (key : ProcessID) : Step SC (Option TraceeId) := do
  let w ← read
  update fun w => { w with tracees := w.tracees.erase key }
  match w.tracees.find? key with
  | some (some id) => do
      say (.untracked key id)
      pure (some id)
  | _ => pure none

def eraseTracee (key : ProcessID) : Step SC Unit := do
  match ← extractTracee key with
  | some id => destroy env id
  | none => pure ()

/-- the tracee of a map entry; a null pointer must not be dereferenced -/
def entryTracee (key : ProcessID) : Step SC TraceeId := do
  let w ← read
  match w.tracees.find? key with
  | some (some id) => pure id
  | some none => raise (.undefined .null)
  | none => raise (.undefined .dangling)

/-! ## stopping -/

/-- the signal that `Engine::stop()` sends to child processes -/
def sendSignal (id : TraceeId) (signal : Option Signal) : Step SC Unit := do
  let t ← getTracee id
  match signal with
  | some sig => when (t.isChildProcess && t.alive) (request env id (.kill t.pid sig))
  | none => pure ()

/-- the body of the loop in `Engine::stop()`: only the current entry may be erased -/
def stopTracee (signal : Option Signal) (key : ProcessID) : Step SC Unit := do
  let id ← entryTracee key
  sendSignal env id signal
  say (.letGo id)
  let _ ← detach env id
  let t ← getTracee id
  when (t.alive = false) (eraseTracee env key)

def stop (signal : Option Signal) : Step SC Unit := do
  let w ← read
  each w.tracees.keys (stopTracee env signal)

/-! ## the consumer -/

def consumerCall (c : ConsumerCall) : Step SC Unit :=
  match c with
  | .stop signal => stop env signal
  | .detach pid => do
      let w ← read
      match w.tracees.find? pid with
      | some (some id) => do
          say (.letGo id)
          let _ ← detach env id
          pure ()
      | _ => pure ()

def consumerAct (a : ConsumerAct) : Step SC Unit :=
  if a.catches then catchAll (consumerCall env a.call) (pure ()) else consumerCall env a.call

def callback (c : Callback) : Step SC Unit := do
  say (.callback c)
  let w ← read
  each (env.consumer w.log) (consumerAct env)
  say .returned

/-- the map entry an event is handled for -/
structure Iter where
  key : ProcessID
  id : TraceeId
  deriving DecidableEq, Repr

def World.contains (w : World SC) (it : Iter) : Prop := w.tracees.find? it.key = some (some it.id)

instance (w : World SC) (it : Iter) : Decidable (w.contains it) :=
  inferInstanceAs (Decidable (_ = _))

/-- the tracee object and the iterator may be used -/
def checkContained (it : Iter) : Step SC Unit := do
  let w ← read
  if w.contains it then pure () else raise (.undefined .dangling)

def notify (it : Iter) (c : Callback) : Step SC Unit := do
  callback env c
  checkContained it

end Clues
