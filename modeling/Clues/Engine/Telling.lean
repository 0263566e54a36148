import Clues.Engine.Logging
import Clues.Engine.Loop
import Clues.Engine.Stops

/-!
# What handling an event tells

An event is handled in a fixed order: the kernel is asked what it is about, the consumer is called
once, and the tracee is restarted once.

* `Entry.Asks b d`   an inquiry about the event `d` of the tracee `b`;
* `Callback.fits d`  the consumer is told of the event `d`;
* `Notifies b P C`   entries that meet `P`, then one call of the consumer that meets `C`; one
                     lemma for each function that is part of handling an event.
-/

set_option linter.unusedSectionVars false

namespace Clues

open Lib Lib.Exec Lib.History Step

variable {SC : Type} [SyscallOps SC] {env : Env} {b : TraceeId} {d : ChildState} {n : TraceeId}
  {w w' w'' : World SC}

/-! ## what belongs to an event -/

def ChildState.isSysTrap (d : ChildState) : Bool :=
  match d.event with
  | .trapped .sysTrap => true
  | _ => false

def ChildState.ptraceEvent (d : ChildState) : Option PtraceEvent :=
  match d.event with
  | .trapped (.event _ event) => some event
  | _ => none

/-- the signal of a signal-delivery-stop -/
def ChildState.signalStop (d : ChildState) : Option Signal :=
  match d.event with
  | .trapped (.signal signal) | .signaled signal => some signal
  | _ => none

/-- the event that the kernel is asked about -/
def Request.fits (d : ChildState) : Request → Bool
  | .getSyscallInfo _ | .peekData _ => d.isSysTrap
  | .getSigInfo _ => d.signalStop.isSome
  | .getPIDEventMsg _ =>
      d.ptraceEvent.any fun event => event = .exec || event = .vforkDone || event.isNewChild
  | .getExitEventMsg _ => d.ptraceEvent = some .exit
  | .getRegisterSet _ _ => d.ptraceEvent = some .stop
  | _ => false

/-- an inquiry about the event `d` of the tracee, or what the kernel told -/
def Entry.Asks (b : TraceeId) (d : ChildState) : Entry → Prop
  | .request id r _ => id = b ∧ r.fits d = true
  | .syscallEntered id _ | .syscallExited id => id = b ∧ d.isSysTrap = true
  | .execed id _ _ => id = b ∧ d.ptraceEvent = some .exec
  | _ => False

/-- the event that the consumer is told of -/
def Callback.fits (d : ChildState) : Callback → Bool
  | .syscallEntry _ _ _ | .syscallExit _ _ _ => d.isSysTrap
  | .attached _ => d.ptraceEvent = some .stop
  | .stopped _ => d.groupStop.isSome
  | .resumed _ => false
  | .signaled _ _ => d.signalStop.isSome
  | .exited _ _ _ => d.ptraceEvent = some .exit
  | .disappeared _ data => d.isEnd && decide (data = d)
  | .newExecutionContext _ _ _ _ => d.ptraceEvent = some .exec
  | .newChildProcess _ _ event _ => d.ptraceEvent = some event && event.isNewChild
  | .vforkComplete _ _ => d.ptraceEvent = some .vforkDone

/-- the entries before the consumer is called -/
def Plain (b : TraceeId) (d : ChildState) (e : Entry) : Prop := e.isCommon = true ∨ e.Asks b d

instance : Admits (Plain b d) := ⟨fun h => Or.inl h⟩

theorem Plain.ask {r : Request} (h : r.fits d = true) (error : Option Errno) :
    Plain b d (.request b r error) := Or.inr ⟨rfl, h⟩

/-! ## one call of the consumer -/

/-- the consumer is called for `b` -/
def Calls (b : TraceeId) (C : Callback → Prop) (n : TraceeId) (w w' : World SC) : Prop :=
  ∃ c, c.tracee = b ∧ C c ∧ Logs Entry.Common n (w.say (.callback c)) w'

/-- inquiries that meet `P`, and then the consumer is called once at most -/
def Notifies (b : TraceeId) (P : Entry → Prop) (C : Callback → Prop) (n : TraceeId)
    (w w' : World SC) : Prop :=
  Logs P n w w' ∨ ∃ v, Logs P n w v ∧ Calls b C n v w'

section
variable {P : Entry → Prop} {C : Callback → Prop}

theorem Calls.nextObj (h : Calls b C n w w') : w.nextObj ≤ w'.nextObj := by
  obtain ⟨c, -, -, hl⟩ := h
  exact hl.nextObj

theorem Notifies.nextObj (h : Notifies b P C n w w') : w.nextObj ≤ w'.nextObj := by
  obtain h | ⟨v, h, hc⟩ := h
  · exact h.nextObj
  · exact h.nextObj.trans hc.nextObj

theorem Notifies.stored (h : Notifies b P C n w w') : w'.unknownEvents = w.unknownEvents := by
  obtain h | ⟨v, h, c, -, -, hl⟩ := h
  · exact h.stored
  · exact hl.stored.trans h.stored

theorem Notifies.inject (h : Notifies b P C n w w') {id : TraceeId} (hid : id < n) :
    (w'.objs id).injectSig = (w.objs id).injectSig := by
  obtain h | ⟨v, h, c, -, -, hl⟩ := h
  · exact h.inject id hid
  · exact (hl.inject id hid).trans (h.inject id hid)

theorem Notifies.after (h : Logs P n w w') (h' : Notifies b P C n w' w'') :
    Notifies b P C n w w'' := by
  obtain h' | ⟨v, h', hc⟩ := h'
  · exact Or.inl (h.trans h')
  · exact Or.inr ⟨v, h.trans h', hc⟩

theorem Notifies.before [Admits P] (h : Notifies b P C n w w') (h' : Logs Entry.Common n w' w'') :
    Notifies b P C n w w'' := by
  obtain h | ⟨v, h, c, hb, hC, hl⟩ := h
  · exact Or.inl (h.trans (h'.weaken fun _ he => Admits.common he))
  · exact Or.inr ⟨v, h, c, hb, hC, hl.trans h'⟩

abbrev Notifying {α : Type} (b : TraceeId) (P : Entry → Prop) (C : Callback → Prop) (n : TraceeId)
    (x : Step SC α) : Prop := Along (From n : World SC → Prop) (Notifies b P C n) x

namespace Notifying

theorem logging {α : Type} {x : Step SC α} (h : Logging P n x) : Notifying b P C n x :=
  fun w hw => Or.inl (h w hw)

/-- inquiries come first -/
theorem after {α β : Type} {x : Step SC α} {f : α → Step SC β} (hx : Logging P n x)
    (hf : ∀ a, Notifying b P C n (f a)) : Notifying b P C n (x >>= f) := by
  intro w hw
  have h := hx w hw
  rw [run_bind]
  cases hr : x w with
  | mk r v =>
    rw [hr] at h
    cases r with
    | ok a => exact Notifies.after h (hf a v (Logs.walk.keeps hw h))
    | error e => exact Or.inl h

/-- nothing is asked after the call -/
theorem before [Admits P] {α β : Type} {x : Step SC α} {f : α → Step SC β}
    (hx : Notifying b P C n x) (hf : ∀ a, Logging Entry.Common n (f a)) :
    Notifying b P C n (x >>= f) := by
  intro w hw
  have h := hx w hw
  rw [run_bind]
  cases hr : x w with
  | mk r v =>
    rw [hr] at h
    cases r with
    | ok a => exact h.before (hf a v (le_trans hw h.nextObj))
    | error e => exact h

theorem ite {α : Type} {c : Prop} [Decidable c] {x y : Step SC α} (hx : c → Notifying b P C n x)
    (hy : ¬ c → Notifying b P C n y) : Notifying b P C n (if c then x else y) := Along.ite hx hy

theorem when {c : Prop} [Decidable c] {x : Step SC Unit} (hx : Notifying b P C n x) :
    Notifying b P C n (Exec.when c x) := ite (fun _ => hx) fun _ => logging (Logging.pure ())

theorem read {α : Type} {f : World SC → Step SC α} (h : ∀ w, Notifying b P C n (f w)) :
    Notifying b P C n (Exec.read >>= f) := Along.read_bind fun w hw => h w w hw

/-- a callback and what the consumer does in it -/
theorem notify [Admits P] {it : Iter} {c : Callback} (hb : c.tracee = b) (hC : C c) :
    Notifying b P C n (notify env it c : Step SC Unit) := by
  apply before _ fun _ => logging_checkContained it
  intro w hw
  refine Or.inr ⟨w, Logs.refl w, c, hb, hC, ?_⟩
  exact logging_consume (env.consumer (w.say (.callback c)).log) _ hw

end Notifying

end

/-! ## system call stops -/

theorem logging_startDecode (hd : d.isSysTrap = true) :
    Logging (Plain b d) n (startDecode env b : Step SC DecodeEnv) := by
  apply Logging.bind (Logging.getTracee b)
  intro t
  apply Logging.bind
  · exact Logging.say_of (Plain.ask (r := .peekData t.ptrace) hd none)
  · exact fun _ => Logging.read fun w => Logging.pure _

theorem logging_dbGet (hd : d.isSysTrap = true) (info : SystemCallInfo) :
    Logging (Plain b d) n (dbGet env b info : Step SC CallId) := by
  apply Logging.bind (Logging.getTracee b)
  intro t
  cases t.syscallDb info.sysNr with
  | some c => exact Logging.pure c
  | none =>
    apply Logging.bind (logging_startDecode hd)
    intro de
    apply Logging.bind (Logging.lift _)
    intro r
    apply Logging.bind (logging_newCall _)
    intro c
    apply Logging.bind
    · exact Logging.when (Logging.modify fun _ => rfl)
    · exact fun _ => Logging.pure c

theorem logging_setEntryInfo (hd : d.isSysTrap = true) (c : CallId) (info : SystemCallInfo) :
    Logging (Plain b d) n (setEntryInfo env b c info : Step SC Unit) := by
  apply Logging.bind (logging_startDecode hd)
  intro de
  apply Logging.bind (logging_getCall c)
  intro call
  exact Logging.bind (logging_putCall c _) fun _ => Logging.lift _

theorem logging_setExitInfo (hd : d.isSysTrap = true) (c : CallId) (info : SystemCallInfo) :
    Logging (Plain b d) n (setExitInfo env b c info : Step SC Unit) := by
  apply Logging.bind (logging_startDecode hd)
  intro de
  apply Logging.bind (logging_getCall c)
  intro call
  apply Logging.read
  intro w
  apply Logging.bind (logging_putCall c _)
  intro _
  apply Logging.bind (logging_modifyProc b _)
  intro _
  apply Logging.bind
  · exact Logging.modify fun _ => rfl
  · exact fun _ => Logging.lift _

theorem logging_tryRecover (hd : d.isSysTrap = true) (info : SystemCallInfo) :
    Logging (Plain b d) n (tryRecoverRestartedSystemCall env b info : Step SC Bool) := by
  apply Logging.bind (Logging.getTracee b)
  intro t
  cases t.getInitialSyscallInfo env info.abi with
  | none => exact Logging.pure false
  | some orig =>
    apply Logging.ite (Logging.pure false)
    apply Logging.bind (logging_dbGet hd orig)
    intro c
    apply Logging.bind
    · exact Logging.modify fun _ => rfl
    · exact fun _ => Logging.pure true

theorem logging_checkResumed (hd : d.isSysTrap = true) (info : SystemCallInfo) (call : CallObj SC) :
    Logging (Plain b d) n (checkResumed env b info call : Step SC Bool) := by
  apply Logging.bind (Logging.getTracee b)
  intro t
  apply Logging.ite
  · cases t.interruptedSyscall with
    | some i =>
      apply Logging.bind
      · exact Logging.modify fun _ => rfl
      · exact fun _ => Logging.pure true
    | none => exact Logging.ite (Logging.pure false) (logging_tryRecover hd info)
  · cases t.interruptedSyscall with
    | none => exact Logging.pure false
    | some i =>
      apply Logging.ite _ (Logging.pure false)
      apply Logging.bind (logging_getCall i)
      intro interrupted
      apply Logging.bind
      · exact Logging.modify fun _ => rfl
      intro _
      apply Logging.bind
      · exact Logging.modify fun _ => rfl
      · exact fun _ => Logging.pure _

section
variable {it : Iter}

theorem notifying_handleSystemCallEntry (hd : d.isSysTrap = true) (info : SystemCallInfo) :
    Notifying it.id (Plain it.id d) (fun c => c.fits d = true) n
      (handleSystemCallEntry env it info : Step SC Unit) := by
  apply Notifying.after (logging_dbGet hd info)
  intro c
  apply Notifying.after
  · exact Logging.modify fun _ => rfl
  intro _
  apply Notifying.after (logging_getCall c)
  intro call
  apply Notifying.after (Logging.lift _)
  intro _
  apply Notifying.after (logging_checkResumed hd info call)
  intro resumed
  apply Notifying.after (Logging.getTracee it.id)
  intro t
  apply Notifying.after (logging_derefCall _)
  intro c
  apply Notifying.after (logging_setEntryInfo hd c info)
  intro _
  apply Notifying.after
  · exact Logging.modify fun _ => rfl
  · exact fun _ => Notifying.notify rfl hd

theorem notifying_handleSystemCallExit (hd : d.isSysTrap = true) (info : SystemCallInfo) :
    Notifying it.id (Plain it.id d) (fun c => c.fits d = true) n
      (handleSystemCallExit env it info : Step SC Unit) := by
  apply Notifying.after (Logging.getTracee it.id)
  intro t
  apply Notifying.after (logging_derefCall _)
  intro c
  apply Notifying.after (logging_setExitInfo hd c info)
  intro _
  apply Notifying.after (logging_getCall c)
  intro call
  apply Notifying.after
  · exact Logging.when (Logging.modify fun _ => rfl)
  intro _
  apply Notifying.before (Notifying.notify rfl hd)
  intro _
  exact Logging.bind (logging_checkSigreturn it.id call) fun _ => Logging.modify fun _ => rfl

theorem logging_saySyscallStop (hd : d.isSysTrap = true) (info : SystemCallInfo) :
    Logging (Plain b d) n (saySyscallStop env b info : Step SC Unit) := by
  unfold saySyscallStop
  cases info.stop with
  | entry e =>
    dsimp only
    cases info.updateSysNr env with
    | ok info' => exact Logging.say_of (Or.inr ⟨rfl, hd⟩)
    | error e => exact Logging.say_of (Or.inr ⟨rfl, hd⟩)
  | exit i => exact Logging.say_of (Or.inr ⟨rfl, hd⟩)
  | none => exact Logging.pure ()
  | seccomp => exact Logging.pure ()

theorem notifying_handleSystemCall (hd : d.isSysTrap = true) :
    Notifying it.id (Plain it.id d) (fun c => c.fits d = true) n
      (handleSystemCall env it : Step SC Unit) := by
  have hinfo : ∀ {P : Entry → Prop} info,
      Logging P n (modifyTracee it.id fun t => { t with syscallInfo := info } : Step SC Unit) :=
    fun info => Logging.modify fun _ => rfl
  apply Notifying.after (hinfo _)
  intro _
  apply Notifying.after (Logging.getTracee it.id)
  intro t
  apply Notifying.after
  · exact Logging.query it.id _ _ (Plain.ask hd)
  intro r
  apply Notifying.after (hinfo _)
  intro _
  apply Notifying.after (logging_saySyscallStop hd _)
  intro _
  apply Notifying.before _ fun _ => hinfo none
  apply Notifying.after (Logging.getTracee it.id)
  intro t
  apply Notifying.ite
  · intro _
    apply Notifying.ite _ fun _ => Notifying.logging (Logging.raise _)
    exact fun _ => Notifying.after (logging_changeState it.id _) fun _ =>
      notifying_handleSystemCallExit hd _
  · intro _
    apply Notifying.ite _ fun _ => Notifying.logging (Logging.raise _)
    intro _
    apply Notifying.after (Logging.lift _)
    intro info
    apply Notifying.after (hinfo _)
    intro _
    exact Notifying.after (logging_changeState it.id _) fun _ =>
      notifying_handleSystemCallEntry hd info

/-! ## `PTRACE_EVENT` stops -/

theorem logging_getRegisters (hd : d.ptraceEvent = some .stop) (abi : ABI) :
    Logging (Plain b d) n (getRegisters env b abi : Step SC RegisterSet) := by
  apply Logging.bind (Logging.getTracee b)
  intro t
  apply Logging.bind
  · exact Logging.query b _ _ (Plain.ask (decide_eq_true hd))
  intro r
  cases r with
  | none => exact Logging.raise _
  | some info => exact Logging.pure _

theorem logging_getInitialRegisters (hd : d.ptraceEvent = some .stop) :
    Logging (Plain b d) n (getInitialRegisters env b : Step SC Unit) := by
  have hset : ∀ abi, Logging (Plain b d) n (do
      let rs ← getRegisters env b abi
      modifyTracee b fun t => { t with initialRegset := rs } : Step SC Unit) := fun abi =>
    Logging.bind (logging_getRegisters hd abi) fun _ => Logging.modify fun _ => rfl
  apply Logging.handle
  · apply Logging.bind (logging_getRegisters hd _)
    intro rs
    apply Logging.bind
    · exact Logging.modify fun _ => rfl
    · exact fun _ => Logging.ite (hset .x32) (Logging.pure ())
  · intro e
    cases e with
    | runtime _ => exact hset .i386
    | _ => exact Logging.raise _

theorem notifying_handleAttached (hd : d.ptraceEvent = some .stop) :
    Notifying it.id (Plain it.id d) (fun c => c.fits d = true) n
      (handleAttached env it : Step SC Unit) := by
  apply Notifying.after
  · exact Logging.modify fun _ => rfl
  intro _
  apply Notifying.after (Logging.getTracee it.id)
  intro t
  apply Notifying.after
  · exact Logging.when (Logging.modify fun _ => rfl)
  intro _
  apply Notifying.after (logging_getInitialRegisters hd)
  intro _
  apply Notifying.after (logging_initFDs it.id)
  intro _
  apply Notifying.before (Notifying.notify rfl (decide_eq_true hd))
  intro _
  apply Logging.bind (Logging.getTracee it.id)
  intro t
  apply Logging.when
  apply Logging.bind (Logging.catchAll (logging_attachThreads it) (Logging.pure ()))
  exact fun _ => Logging.modify fun _ => rfl

theorem notifying_handleStopEvent {signal : Signal}
    (hd : d.event = .trapped (.event signal .stop)) :
    Notifying it.id (Plain it.id d) (fun c => c.fits d = true) n
      (handleStopEvent env it signal : Step SC Unit) := by
  have hstop : d.ptraceEvent = some .stop := by
    unfold ChildState.ptraceEvent
    rw [hd]
  have hgroup : d.eventStop = some signal := by
    unfold ChildState.eventStop
    rw [hd]
  apply Notifying.after (Logging.getTracee it.id)
  intro t
  apply Notifying.ite
  · exact fun _ => notifying_handleAttached hstop
  intro _
  apply Notifying.ite
  · intro hs
    apply Notifying.after (logging_changeState it.id .groupStop)
    intro _
    apply Notifying.after
    · exact Logging.modify fun _ => rfl
    intro _
    apply Notifying.notify rfl
    show d.groupStop.isSome = true
    rw [ChildState.groupStop_some hgroup, if_pos hs]
    rfl
  · intro _
    exact Notifying.logging (Logging.ite (Logging.modify fun _ => rfl) (Logging.pure ()))

theorem notifying_handleExitEvent (hd : d.ptraceEvent = some .exit) :
    Notifying it.id (Plain it.id d) (fun c => c.fits d = true) n
      (handleExitEvent env it : Step SC Unit) := by
  apply Notifying.after (Logging.getTracee it.id)
  intro t
  apply Notifying.after
  · exact Logging.query it.id _ _ (Plain.ask (decide_eq_true hd))
  intro status
  apply Notifying.after (logging_lostToMtExit it.id status)
  intro lost
  apply Notifying.before (Notifying.notify rfl (decide_eq_true hd))
  exact fun _ => Logging.modify fun _ => rfl

theorem notifying_handleExecEvent (hd : d.ptraceEvent = some .exec) (mainPid : ProcessID) :
    Notifying it.id (Plain it.id d) (fun c => c.fits d = true) n
      (handleExecEvent env it mainPid : Step SC Unit) := by
  have hask : ∀ pid, (Request.getPIDEventMsg pid).fits d = true := by
    intro pid
    show d.ptraceEvent.any _ = true
    rw [hd]
    rfl
  apply Notifying.read
  intro w
  apply Notifying.after
  · exact Logging.query it.id _ _ (Plain.ask (hask mainPid))
  intro formerPid
  apply Notifying.after
  · exact Logging.say_of (Or.inr ⟨rfl, hd⟩)
  intro _
  apply Notifying.after (Logging.when (logging_replaceLeader it mainPid formerPid))
  intro _
  apply Notifying.after (logging_updateExecInfo it.id)
  intro _
  exact Notifying.after (logging_dropClosedFDs it.id) fun _ =>
    Notifying.notify rfl (decide_eq_true hd)

theorem notifying_addAutoAttached {event : PtraceEvent} (hd : d.ptraceEvent = some event)
    (hn : event.isNewChild = true) (pid : ProcessID) (call : CallObj SC) :
    Notifying it.id (Plain it.id d) (fun c => c.fits d = true) n
      (addAutoAttached env it pid event call : Step SC Unit) := by
  apply Notifying.after (Logging.getTracee it.id)
  intro parent
  apply Notifying.after (logging_indexTracee _)
  intro sibling
  apply Notifying.after (logging_newTracee _ _)
  intro id
  apply Notifying.after (logging_configure id pid call)
  intro _
  apply Notifying.after (logging_insertTracee pid id)
  intro _
  apply Notifying.after (logging_hasClonedThread it.id)
  intro thread
  apply Notifying.after (logging_entryTracee pid)
  intro child
  apply Notifying.before
  · apply Notifying.before _ fun _ => logging_checkCleanupTracee pid
    apply Notifying.notify rfl
    show (decide (d.ptraceEvent = some event) && event.isNewChild) = true
    rw [hd, hn, decide_eq_true rfl]
    rfl
  · exact fun _ => Logging.when (logging_destroy id)

theorem notifying_handleNewChildEvent {event : PtraceEvent} (hd : d.ptraceEvent = some event)
    (hn : event.isNewChild = true ∨ event = .vforkDone) :
    Notifying it.id (Plain it.id d) (fun c => c.fits d = true) n
      (handleNewChildEvent env it event : Step SC Unit) := by
  have hask : ∀ pid, (Request.getPIDEventMsg pid).fits d = true := by
    intro pid
    show d.ptraceEvent.any _ = true
    rw [hd]
    obtain hn | rfl := hn
    · show (_ || _ || event.isNewChild) = true
      rw [hn, Bool.or_true]
    · rfl
  have hpid : Logging (Plain it.id d) n (getPIDEventMsg env it.id : Step SC ProcessID) :=
    Logging.bind (Logging.getTracee it.id) fun t => Logging.query it.id _ _ (Plain.ask (hask _))
  have hcall : Logging (Plain it.id d) n (derefCurrent it.id : Step SC (CallObj SC)) :=
    Logging.bind (Logging.getTracee it.id) fun t =>
      Logging.bind (logging_derefCall _) fun c => logging_getCall c
  apply Notifying.after
  · show Logging _ n (calledFrom env it.id : Step SC (ProcessID × CallObj SC))
    unfold calledFrom
    split_ifs
    · exact Logging.bind hcall fun call => Logging.bind hpid fun pid => Logging.pure _
    · exact Logging.bind hpid fun pid => Logging.bind hcall fun call => Logging.pure _
  intro r
  apply Notifying.before
  · apply Notifying.ite
    · intro hv
      exact notifying_addAutoAttached hd (hn.resolve_right hv) r.1 r.2
    · intro hv
      rw [not_not] at hv
      apply Notifying.read
      intro w
      apply Notifying.notify rfl
      show decide (d.ptraceEvent = some .vforkDone) = true
      rw [hd, hv]
      rfl
  · exact fun _ => Logging.update fun _ => rfl

theorem notifying_handlePtraceEvent {signal : Signal} {event : PtraceEvent}
    (hd : d.event = .trapped (.event signal event)) (pid : ProcessID) :
    Notifying it.id (Plain it.id d) (fun c => c.fits d = true) n
      (handlePtraceEvent env it pid event signal : Step SC Unit) := by
  have he : d.ptraceEvent = some event := by
    unfold ChildState.ptraceEvent
    rw [hd]
  cases event with
  | stop => exact notifying_handleStopEvent hd
  | exit => exact notifying_handleExitEvent he
  | exec => exact notifying_handleExecEvent he pid
  | clone => exact notifying_handleNewChildEvent he (Or.inl rfl)
  | vfork => exact notifying_handleNewChildEvent he (Or.inl rfl)
  | vforkDone => exact notifying_handleNewChildEvent he (Or.inr rfl)
  | fork => exact notifying_handleNewChildEvent he (Or.inl rfl)
  | seccomp => exact Notifying.logging (Logging.pure ())

/-! ## the other stops, and the end -/

/-- the part of `handleSignalStop()` before the signal is kept for the restart -/
def reportSignal (env : Env) (it : Iter) : Step SC Unit := do
  changeState env it.id .signalDeliveryStop
  let t ← getTracee it.id
  let info ← query env it.id (.getSigInfo t.ptrace) fun log => env.sigInfo log t.ptrace
  handleSignal env it info

theorem handleSignalStop_eq (it : Iter) (signal : Signal) :
    (handleSignalStop env it signal : Step SC Unit) = (do
      reportSignal env it
      modifyTracee it.id fun t => { t with injectSig := some signal }) := by
  unfold handleSignalStop reportSignal
  rw [assoc_bind]
  congr 1
  funext _
  rw [assoc_bind]
  congr 1
  funext t
  rw [assoc_bind]

theorem notifying_reportSignal (hd : d.signalStop.isSome = true) :
    Notifying it.id (Plain it.id d) (fun c => c.fits d = true) n
      (reportSignal env it : Step SC Unit) := by
  apply Notifying.after (logging_changeState it.id _)
  intro _
  apply Notifying.after (Logging.getTracee it.id)
  intro t
  apply Notifying.after
  · exact Logging.query it.id _ _ (Plain.ask hd)
  intro info
  apply Notifying.after (Logging.getTracee it.id)
  intro t
  apply Notifying.ite
  · exact fun _ => Notifying.logging (Logging.modify fun _ => rfl)
  · exact fun _ => Notifying.notify rfl hd

variable (env) in
theorem notifying_handleEnd (it : Iter) (hd : d.isEnd = true) :
    Notifying it.id (Plain it.id d) (fun c => c.fits d = true) n
      (handleEnd env it d : Step SC Unit) := by
  apply Notifying.after (logging_changeState it.id .dead)
  intro _
  apply Notifying.after (Logging.getTracee it.id)
  intro t
  apply Notifying.before
  · apply Notifying.when
    apply Notifying.notify rfl
    show (d.isEnd && decide (d = d)) = true
    rw [hd, decide_eq_true rfl]
    rfl
  · exact fun _ => Logging.modify fun _ => rfl

end

end Clues
