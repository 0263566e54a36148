import Clues.Engine.Recording
import Clues.Syscalls.Clone

/-!
# Events of new and of exiting tasks

The events for new tasks and for exits are handled with a look at the system call that the tracee
is in.

* `exitFlag`          the part of `handleExitEvent()` that dereferences `m_current_syscall`;
* `dereferences`      all dereferences of a call and of its arguments that an event leads to;
* `DerefsSafely`      none of them meets a null pointer or an empty optional, in whatever order the
                      arguments of a call are evaluated;
* `InKnownCall`       the tracee is in a system call that was seen, and its arguments are known;
* `derefsSafely_iff`  these are the same, and otherwise handling the event is undefined behaviour;
* `derefsSafely_of_entered`   in every run, the events of a tracee that was seen to enter its system
                      call are safe if the arguments are known.
-/

set_option linter.unusedSectionVars false

namespace Clues

open Lib Lib.Exec Lib.History Step

variable {SC : Type} [SyscallOps SC] (env : Env)

/-! ## the dereferences -/

/-- the status of the exit and whether it is lost to another thread -/
def exitFlag (id : TraceeId) : Step SC (WaitStatus × Bool) := do
  let t ← getTracee id
  let status ← query env id (.getExitEventMsg t.ptrace) fun log => env.exitEventMsg log t.ptrace
  let lost ← lostToMtExit id status
  pure (status, lost)

def dereferences (id : TraceeId) : PtraceEvent → Step SC Unit
  | .clone | .fork | .vfork => do
      let _ ← calledFrom env id
      let _ ← hasClonedThread id
      pure ()
  | .vforkDone => do
      let _ ← calledFrom env id
      pure ()
  | .exit => do
      let _ ← exitFlag env id
      pure ()
  | .stop | .exec | .seccomp => pure ()

/-- a null pointer or an empty optional was dereferenced -/
def isNullAccess {α : Type} : Except Exc α → Bool
  | .error (.undefined .null) => true
  | _ => false

theorem isNullAccess_error {α β : Type} (e : Exc) :
    isNullAccess (.error e : Except Exc α) = isNullAccess (.error e : Except Exc β) := by
  cases e with
  | undefined why => cases why <;> rfl
  | _ => rfl

theorem isNullAccess_drop {α : Type} (x : Step SC α) (w : World SC) :
    isNullAccess ((x >>= fun _ => pure () : Step SC Unit) w).1 = isNullAccess (x w).1 := by
  rw [run_bind]
  cases x w with
  | mk r v =>
    cases r with
    | ok a => rfl
    | error e => exact isNullAccess_error e

/-- the state in which the event that is delivered to the tracee is decoded -/
def World.decoding (w : World SC) (id : TraceeId) (data : ChildState) : World SC :=
  (w.say (.deliver id data)).setObj id
    (({ w.objs id with injectSig := none } : Tracee).moveTo .eventStop)

theorem ptrace_decoding {w : World SC} {id : TraceeId} (data : ChildState) :
    ((w.decoding id data).objs id).ptrace = (w.objs id).ptrace := by
  unfold World.decoding
  rw [World.setObj_self]
  rfl

/-- the compiler decides on the order of the arguments of a call -/
def Env.compiled (env : Env) (lastArgFirst : Bool) : Env := { env with lastArgFirst := lastArgFirst }

def DerefsSafely (id : TraceeId) (data : ChildState) (event : PtraceEvent) (w : World SC) : Prop :=
  ∀ lastArgFirst, isNullAccess
    (dereferences (env.compiled lastArgFirst) id event (w.decoding id data)).1 = false

/-! ## what the handlers do -/

section
variable {env}

theorem handleExitEvent_eq (it : Iter) :
    handleExitEvent env it
      = (exitFlag env it.id >>= fun r => do
          notify env it (.exited it.id r.1 { lostToMtExit := r.2 })
          setFlags it.id fun f => { f with waitForExited := true } : Step SC Unit) := by
  unfold handleExitEvent exitFlag
  simp only [assoc_bind]
  rfl

/-- an event is handled in the state `World.decoding`, unless the tracer waits for a chance to
detach -/
theorem run_processEvent_event {it : Iter} {data : ChildState} {signal : Signal}
    {event : PtraceEvent} {w : World SC} (hd : data.event = .trapped (.event signal event))
    (hf : (w.objs it.id).flags.detachAtNextStop = false) :
    processEvent env it data w
      = (handlePtraceEvent env it data.pid event signal >>= fun _ => restartTracee env it)
          (w.decoding it.id data) := by
  have hchange : changeState env it.id .eventStop (w.delivered it.id data)
      = (.ok (), w.decoding it.id data) := by
    unfold changeState
    rw [run_bind_ok (show enterState env it.id .eventStop _ = (.ok (), _) from rfl),
      run_modifyTracee, delivered_obj]
    exact congrArg _ (World.setObj_setObj ..)
  rw [run_processEvent_trapped hd, if_neg (by rw [hf]; exact Bool.false_ne_true)]
  show ((changeState env it.id .eventStop >>= fun _ => _) >>= fun _ => _ : Step SC Unit) _ = _
  rw [assoc_bind]
  exact run_bind_ok hchange

end

/-! ## when they are safe -/

/-- the system call that the tracee is in, as far as it was seen -/
def World.currentCall (w : World SC) (id : TraceeId) : Option (CallObj SC) :=
  (w.objs id).currentSyscall.bind w.calls

/-- `prevState()` while the next stop is handled -/
def Tracee.latestStop (t : Tracee) : State := if t.state ≠ .running then t.state else t.prevState

section
variable {I : Type} [CallItems I]

/-- the arguments that `hasClonedThread()` looks at are there -/
def TaskItems.Complete : TaskItems I → Prop
  | .clone3 item => item.args.isSome
  | .clone _ | .other _ => True

instance (items : TaskItems I) : Decidable items.Complete := by
  unfold TaskItems.Complete
  split <;> infer_instance

def InKnownCall (id : TraceeId) (data : ChildState) (event : PtraceEvent)
    (w : World (SystemCall (TaskItems I))) : Prop :=
  let log := w.log ++ [.deliver id data]
  let t := w.objs id
  match event with
  | .clone | .fork | .vfork =>
    ∃ call, w.currentCall id = some call ∧
      (env.request log (.getPIDEventMsg t.ptrace) = none → call.obj.items.Complete)
  | .vforkDone => (w.currentCall id).isSome
  | .exit =>
    env.request log (.getExitEventMsg t.ptrace) = none → t.latestStop = .syscallEnterStop →
      (∃ status, env.exitEventMsg log t.ptrace = .exited status) → (w.currentCall id).isSome
  | .stop | .exec | .seccomp => True

section
variable {env} {id : TraceeId} {w : World (SystemCall (TaskItems I))}

theorem isNullAccess_clonedThread (items : TaskItems I) :
    isNullAccess items.clonedThread = false ↔ items.Complete := by
  cases items with
  | clone v => exact iff_of_true rfl trivial
  | other items => exact iff_of_true rfl trivial
  | clone3 item =>
    obtain ⟨args⟩ := item
    cases args with
    | none => exact iff_of_false (fun h => nomatch h) fun h => nomatch h
    | some args => exact iff_of_true rfl rfl

theorem run_currentCall {α : Type} {w : World SC} (f : CallObj SC → Step SC α) :
    (derefCall (w.objs id).currentSyscall >>= fun c => getCall c >>= f) w
      = match w.currentCall id with
        | some call => f call w
        | none => (.error (.undefined .null), w) := by
  unfold World.currentCall
  cases (w.objs id).currentSyscall with
  | none => rfl
  | some c =>
    show (getCall c >>= f) w = match w.calls c with
      | some call => f call w
      | none => (.error (.undefined .null), w)
    unfold getCall
    rw [run_bind, run_read_bind]
    cases w.calls c <;> rfl

theorem run_derefCurrent {w : World SC} : derefCurrent id w
    = match w.currentCall id with
      | some call => (.ok call, w)
      | none => (.error (.undefined .null), w) := by
  unfold derefCurrent World.currentCall
  rw [run_bind_ok (run_getTracee id w)]
  cases (w.objs id).currentSyscall with
  | none => rfl
  | some c =>
    show getCall c w = match w.calls c with
      | some call => (.ok call, w)
      | none => (.error (.undefined .null), w)
    unfold getCall
    rw [run_read_bind]
    cases w.calls c <;> rfl

theorem run_getPIDEventMsg_ok {w : World SC}
    (h : env.request w.log (.getPIDEventMsg (w.objs id).ptrace) = none) :
    getPIDEventMsg env id w = (.ok (env.pidEventMsg w.log (w.objs id).ptrace),
      w.say (.request id (.getPIDEventMsg (w.objs id).ptrace) none)) := by
  unfold getPIDEventMsg
  rw [run_bind_ok (run_getTracee id w), run_query_ok id _ h]

theorem run_getPIDEventMsg_error {w : World SC} {e : Errno}
    (h : env.request w.log (.getPIDEventMsg (w.objs id).ptrace) = some e) :
    getPIDEventMsg env id w = (.error (.api e),
      w.say (.request id (.getPIDEventMsg (w.objs id).ptrace) (some e))) := by
  unfold getPIDEventMsg
  rw [run_bind_ok (run_getTracee id w), run_query_error id _ h]

/-- the order does not matter if both can be evaluated -/
theorem run_calledFrom_ok {w : World SC} {call : CallObj SC} (hc : w.currentCall id = some call)
    (h : env.request w.log (.getPIDEventMsg (w.objs id).ptrace) = none) :
    calledFrom env id w = (.ok (env.pidEventMsg w.log (w.objs id).ptrace, call),
      w.say (.request id (.getPIDEventMsg (w.objs id).ptrace) none)) := by
  have hderef : ∀ v : World SC, v.currentCall id = some call → derefCurrent id v = (.ok call, v) := by
    intro v hv
    rw [run_derefCurrent, hv]
  unfold calledFrom
  split_ifs
  · rw [run_bind_ok (hderef w hc), run_bind_ok (run_getPIDEventMsg_ok h)]
    rfl
  · rw [run_bind_ok (run_getPIDEventMsg_ok h)]
    exact run_bind_ok (hderef _ hc)

theorem run_calledFrom_error {w : World SC} {call : CallObj SC} {e : Errno}
    (hc : w.currentCall id = some call)
    (h : env.request w.log (.getPIDEventMsg (w.objs id).ptrace) = some e) :
    calledFrom env id w = (.error (.api e),
      w.say (.request id (.getPIDEventMsg (w.objs id).ptrace) (some e))) := by
  have hderef : derefCurrent id w = (.ok call, w) := by rw [run_derefCurrent, hc]
  unfold calledFrom
  split_ifs
  · rw [run_bind_ok hderef, run_bind_error (run_getPIDEventMsg_error h)]
  · rw [run_bind_error (run_getPIDEventMsg_error h)]

/-- a null pointer is dereferenced before the message is asked for -/
theorem run_calledFrom_null {w : World SC} (hc : w.currentCall id = none) :
    calledFrom (env.compiled true) id w = (.error (.undefined .null), w) := by
  have hderef : derefCurrent id w = (.error (.undefined .null), w) := by
    rw [run_derefCurrent, hc]
  unfold calledFrom
  rw [show (env.compiled true).lastArgFirst = true from rfl, if_pos rfl, run_bind_error hderef]

theorem isNullAccess_calledFrom (α : Type) (f : ProcessID × CallObj _ → Step _ α) :
    (∀ lastArgFirst,
      isNullAccess ((calledFrom (env.compiled lastArgFirst) id >>= f) w).1 = false) ↔
      ∃ call, w.currentCall id = some call ∧
        (env.request w.log (.getPIDEventMsg (w.objs id).ptrace) = none →
          isNullAccess (f (env.pidEventMsg w.log (w.objs id).ptrace, call)
            (w.say (.request id (.getPIDEventMsg (w.objs id).ptrace) none))).1 = false) := by
  cases hc : w.currentCall id with
  | none =>
    refine iff_of_false (fun h => ?_) (fun ⟨_, h, _⟩ => nomatch h)
    have htrue := h true
    rw [run_bind_error (run_calledFrom_null hc)] at htrue
    cases htrue
  | some call =>
    cases hr : env.request w.log (.getPIDEventMsg (w.objs id).ptrace) with
    | some e =>
      refine iff_of_true (fun last => ?_) ⟨call, rfl, fun h => nomatch h⟩
      have hrun : calledFrom (env.compiled last) id w = _ := run_calledFrom_error hc hr
      rw [run_bind_error hrun]
      rfl
    | none =>
      have hrun : ∀ last, calledFrom (env.compiled last) id w = _ := fun last =>
        run_calledFrom_ok hc hr
      constructor
      · intro h
        have htrue := h true
        rw [run_bind_ok (hrun true)] at htrue
        exact ⟨call, rfl, fun _ => htrue⟩
      · rintro ⟨call', hcall, h⟩ last
        cases hcall
        rw [run_bind_ok (hrun last)]
        exact h rfl

theorem run_hasClonedThread {call : CallObj (SystemCall (TaskItems I))}
    (h : w.currentCall id = some call) :
    hasClonedThread id w = (call.obj.items.clonedThread, w) := by
  unfold World.currentCall at h
  unfold hasClonedThread
  rw [run_bind_ok (run_getTracee id w)]
  cases hc : (w.objs id).currentSyscall with
  | none =>
    rw [hc] at h
    cases h
  | some c =>
    rw [hc] at h
    have hcall : getCall c w = (.ok call, w) := by
      unfold getCall
      rw [run_read_bind, show w.calls c = some call from h]
      rfl
    exact run_bind_ok hcall

theorem isNullAccess_lostToMtExit (status : WaitStatus) :
    isNullAccess (lostToMtExit id status w).1 = false ↔
      ((w.objs id).prevState = .syscallEnterStop → (∃ n, status = .exited n) →
        (w.currentCall id).isSome = true) := by
  unfold lostToMtExit
  rw [run_bind_ok (run_getTracee id w)]
  cases status with
  | signaled signal =>
    exact iff_of_true rfl fun _ h => nomatch h
  | exited n =>
    dsimp only
    by_cases hp : (w.objs id).prevState = .syscallEnterStop
    · rw [if_neg (not_not_intro hp)]
      unfold currentNr
      simp only [assoc_bind]
      rw [run_bind_ok (run_getTracee id w), run_currentCall]
      cases w.currentCall id with
      | none =>
        dsimp only
        constructor
        · intro h
          cases h
        · intro h
          cases h hp ⟨n, rfl⟩
      | some call => exact iff_of_true rfl fun _ _ => rfl
    · rw [if_pos hp]
      exact iff_of_true rfl fun h => absurd h hp

theorem isNullAccess_exitFlag (f : WaitStatus × Bool → Step (SystemCall (TaskItems I)) Unit)
    (hf : ∀ r v, isNullAccess (f r v).1 = false) :
    isNullAccess ((exitFlag env id >>= f) w).1 = false ↔
      (env.request w.log (.getExitEventMsg (w.objs id).ptrace) = none →
        (w.objs id).prevState = .syscallEnterStop →
        (∃ n, env.exitEventMsg w.log (w.objs id).ptrace = .exited n) →
        (w.currentCall id).isSome = true) := by
  unfold exitFlag
  simp only [assoc_bind]
  rw [run_bind_ok (run_getTracee id w)]
  cases hr : env.request w.log (.getExitEventMsg (w.objs id).ptrace) with
  | some e =>
    rw [run_bind_error (run_query_error id _ hr)]
    exact iff_of_true rfl fun h => nomatch h
  | none =>
    rw [run_bind_ok (run_query_ok id _ hr)]
    generalize hs : env.exitEventMsg w.log (w.objs id).ptrace = status
    have hlost : isNullAccess (lostToMtExit id status
        (w.say (.request id (.getExitEventMsg (w.objs id).ptrace) none))).1 = false ↔
          ((w.objs id).prevState = .syscallEnterStop → (∃ n, status = .exited n) →
            (w.currentCall id).isSome = true) := isNullAccess_lostToMtExit status
    rw [run_bind]
    cases hl : lostToMtExit id status
        (w.say (.request id (.getExitEventMsg (w.objs id).ptrace) none)) with
    | mk r v =>
      rw [hl] at hlost
      have hsafe : isNullAccess r = false ↔ ((w.objs id).prevState = .syscallEnterStop →
          (∃ n, status = .exited n) → (w.currentCall id).isSome = true) := hlost
      cases r with
      | error e =>
        show isNullAccess (.error e : Except Exc Unit) = false ↔ _
        rw [show isNullAccess (.error e : Except Exc Unit) = isNullAccess (.error e : Except Exc Bool) from
          isNullAccess_error e, hsafe]
        exact ⟨fun h _ => h, fun h => h rfl⟩
      | ok lost => exact iff_of_true (hf _ _) fun _ => hsafe.mp rfl

theorem currentCall_decoding {w : World SC} (data : ChildState) :
    (w.decoding id data).currentCall id = w.currentCall id := by
  unfold World.currentCall World.decoding
  rw [World.setObj_self]
  rfl

theorem prevState_decoding (data : ChildState) :
    ((w.decoding id data).objs id).prevState = (w.objs id).latestStop := by
  unfold World.decoding
  rw [World.setObj_self]
  rfl

theorem derefsSafely_iff_inKnownCall (data : ChildState) (event : PtraceEvent) :
    DerefsSafely env id data event w ↔ InKnownCall env id data event w := by
  unfold DerefsSafely InKnownCall
  have hnew : (∀ last, isNullAccess ((calledFrom (env.compiled last) id >>= fun _ =>
        hasClonedThread id >>= fun _ => pure () : Step (SystemCall (TaskItems I)) Unit)
          (w.decoding id data)).1 = false) ↔
      ∃ call, w.currentCall id = some call ∧
        (env.request (w.log ++ [.deliver id data]) (.getPIDEventMsg (w.objs id).ptrace) = none →
          call.obj.items.Complete) := by
    rw [isNullAccess_calledFrom, ptrace_decoding, currentCall_decoding]
    refine exists_congr fun call => and_congr_right fun hc => imp_congr Iff.rfl ?_
    have hcall : ((w.decoding id data).say
        (.request id (.getPIDEventMsg (w.objs id).ptrace) none)).currentCall id = some call :=
      (currentCall_decoding data).trans hc
    rw [isNullAccess_drop, run_hasClonedThread hcall]
    exact isNullAccess_clonedThread call.obj.items
  cases event with
  | clone => exact hnew
  | fork => exact hnew
  | vfork => exact hnew
  | vforkDone =>
    show (∀ last, isNullAccess ((calledFrom (env.compiled last) id >>= fun _ => pure () :
      Step _ Unit) (w.decoding id data)).1 = false) ↔ _
    rw [isNullAccess_calledFrom, currentCall_decoding, Option.isSome_iff_exists]
    exact exists_congr fun call => and_iff_left fun _ => rfl
  | exit =>
    show (∀ _ : Bool, isNullAccess ((exitFlag env id >>= fun _ => pure () : Step _ Unit)
      (w.decoding id data)).1 = false) ↔ _
    rw [forall_const, isNullAccess_exitFlag _ fun _ _ => rfl, ptrace_decoding, prevState_decoding,
      currentCall_decoding]
    exact Iff.rfl
  | _ => exact iff_of_true (fun _ => rfl) trivial

/-! ## what follows from an unsafe one -/

/-- the tracee is still in the same system call -/
structure StillIn (id : TraceeId) (w w' : World (SystemCall (TaskItems I))) : Prop where
  calls : w'.calls = w.calls
  current : (w'.objs id).currentSyscall = (w.objs id).currentSyscall

theorem StillIn.currentCall {w' : World (SystemCall (TaskItems I))} (h : StillIn id w w') :
    w'.currentCall id = w.currentCall id := by
  unfold World.currentCall
  rw [h.calls, h.current]

theorem run_newTracee (kind : TraceeKind) (sibling : Option TraceeId) (hid : id < w.nextObj) :
    ∃ w', newTracee kind sibling w = (.ok w.nextObj, w') ∧ StillIn id w w' := by
  obtain ⟨proc, procs, nextProc, h⟩ := newTracee_eq kind sibling w
  refine ⟨_, h, rfl, ?_⟩
  show ((w.setObj w.nextObj _).objs id).currentSyscall = (w.objs id).currentSyscall
  rw [World.setObj_of_ne w _ (ne_of_lt hid)]

theorem run_configure {child : TraceeId} (pid : ProcessID)
    (call : CallObj (SystemCall (TaskItems I))) (hne : id ≠ child) :
    ∃ w', configure child pid call w = (.ok (), w') ∧ StillIn id w w' := by
  have hset : ∀ (v : World (SystemCall (TaskItems I))) (t : Tracee),
      ((v.setObj child t).objs id).currentSyscall = (v.objs id).currentSyscall := fun v t => by
    rw [World.setObj_of_ne v t hne]
  unfold configure setPID
  rw [run_bind_ok (run_modifyTracee child _ w), run_bind_ok (run_setFlags child _ _)]
  show ∃ w', (if (!call.obj.items.sharesFiles) = true then _ else _ : Step _ Unit) _ = _ ∧ _
  split_ifs
  · exact ⟨_, rfl, rfl, (hset _ _).trans ((hset _ _).trans (hset _ _))⟩
  · exact ⟨_, rfl, rfl, (hset _ _).trans (hset _ _)⟩

theorem run_insertTracee (pid : ProcessID) (child : TraceeId) :
    ∃ w', insertTracee pid child w = (.ok (), w') ∧ StillIn id w w' := by
  unfold insertTracee
  rw [run_read_bind]
  cases w.tracees.find? pid with
  | none => exact ⟨_, rfl, rfl, rfl⟩
  | some e => exact ⟨_, rfl, rfl, rfl⟩

/-- a new child is looked at before anybody is told about it -/
theorem addAutoAttached_null {it : Iter} {call known : CallObj (SystemCall (TaskItems I))}
    {pid : ProcessID} {event : PtraceEvent} (hid : it.id < w.nextObj)
    (hc : w.currentCall it.id = some known)
    (hn : known.obj.items.clonedThread = .error (.undefined .null)) :
    (addAutoAttached env it pid event call w).1 = .error (.undefined .null) := by
  unfold addAutoAttached indexTracee
  rw [run_bind_ok (run_getTracee it.id w)]
  simp only [assoc_bind]
  rw [run_read_bind, run_update_bind, run_pure_bind]
  generalize ht : ({ w with tracees := w.tracees.insert (w.objs it.id).pid none } :
    World (SystemCall (TaskItems I))) = w1
  have h1 : StillIn it.id w w1 := by
    subst ht
    exact ⟨rfl, rfl⟩
  have hid1 : it.id < w1.nextObj := by
    subst ht
    exact hid
  obtain ⟨w2, hr2, h2⟩ := run_newTracee .autoAttached
    ((w.tracees.find? (w.objs it.id).pid).join) hid1
  rw [run_bind_ok hr2]
  obtain ⟨w3, hr3, h3⟩ := run_configure (w := w2) pid call (ne_of_lt hid1)
  rw [run_bind_ok hr3]
  obtain ⟨w4, hr4, h4⟩ : ∃ w4, insertTracee pid w1.nextObj w3 = (.ok (), w4) ∧
      StillIn it.id w3 w4 := run_insertTracee pid w1.nextObj
  rw [run_bind_ok hr4]
  have hknown : w4.currentCall it.id = some known := by
    rw [h4.currentCall, h3.currentCall, h2.currentCall, h1.currentCall]
    exact hc
  rw [run_bind_error ((run_hasClonedThread hknown).trans (congrArg (·, w4) hn))]

theorem eq_of_isNullAccess {α : Type} {r : Except Exc α} (h : isNullAccess r = true) :
    r = .error (.undefined .null) := by
  cases r with
  | ok a => cases h
  | error e =>
    cases e with
    | undefined why =>
      cases why with
      | null => rfl
      | _ => cases h
    | _ => cases h

theorem fails_bind {α β : Type} {x : Step SC α} {f : α → Step SC β} {v : World SC} {e : Exc}
    (h : (x v).1 = .error e) : ((x >>= f) v).1 = .error e := by
  rw [run_bind]
  cases hx : x v with
  | mk r v' =>
    rw [hx] at h
    cases r with
    | ok a => cases h
    | error e' => exact congrArg Except.error (Except.error.inj h)

/-- both arguments were evaluated in the call that the tracee is in -/
theorem calledFrom_known {v : World (SystemCall (TaskItems I))}
    {r : ProcessID × CallObj (SystemCall (TaskItems I))} (h : calledFrom env id w = (.ok r, v)) :
    v.currentCall id = some r.2 ∧ v.nextObj = w.nextObj := by
  have hcall : ∀ {u u' call}, (derefCurrent id : Step (SystemCall (TaskItems I)) _) u
      = (.ok call, u') → u.currentCall id = some call ∧ u' = u := by
    intro u u' call hu
    rw [run_derefCurrent] at hu
    cases hc : u.currentCall id with
    | none =>
      rw [hc] at hu
      cases hu
    | some call' =>
      rw [hc] at hu
      cases hu
      exact ⟨rfl, rfl⟩
  have hpid : ∀ {u u' pid}, (getPIDEventMsg env id : Step (SystemCall (TaskItems I)) _) u
      = (.ok pid, u') → u'.currentCall id = u.currentCall id ∧ u'.nextObj = u.nextObj := by
    intro u u' pid hu
    unfold getPIDEventMsg at hu
    rw [run_bind_ok (run_getTracee id u)] at hu
    obtain ⟨-, -, rfl⟩ := query_ok hu
    exact ⟨rfl, rfl⟩
  unfold calledFrom at h
  split_ifs at h
  · obtain ⟨call, w1, h1, h⟩ := of_bind_ok h
    obtain ⟨pid, w2, h2, h⟩ := of_bind_ok h
    cases h
    obtain ⟨hc, rfl⟩ := hcall h1
    exact ⟨(hpid h2).1.trans hc, (hpid h2).2⟩
  · obtain ⟨pid, w1, h1, h⟩ := of_bind_ok h
    obtain ⟨call, w2, h2, h⟩ := of_bind_ok h
    cases h
    obtain ⟨hc, rfl⟩ := hcall h2
    exact ⟨hc, (hpid h1).2⟩

theorem handleNewChildEvent_of_not_safe {it : Iter} {event : PtraceEvent} (hid : it.id < w.nextObj)
    (hne : event ≠ .vforkDone)
    (h : isNullAccess ((calledFrom env it.id >>= fun _ => hasClonedThread it.id >>= fun _ => pure () :
      Step _ Unit) w).1 = true) :
    (handleNewChildEvent env it event w).1 = .error (.undefined .null) := by
  unfold handleNewChildEvent
  cases hr : calledFrom env it.id w with
  | mk r v =>
    cases r with
    | error e =>
      rw [run_bind_error hr] at h ⊢
      exact eq_of_isNullAccess h
    | ok r =>
      obtain ⟨hc, hn⟩ := calledFrom_known hr
      rw [run_bind_ok hr, isNullAccess_drop, run_hasClonedThread hc] at h
      rw [run_bind_ok hr]
      unfold handleAutoAttach
      rw [if_pos hne]
      exact fails_bind (addAutoAttached_null (hn.symm ▸ hid) hc (eq_of_isNullAccess h))

/-- the handling of the event ends in undefined behaviour -/
theorem processEvent_of_not_safe {it : Iter} {data : ChildState} {signal : Signal}
    {event : PtraceEvent} (hid : it.id < w.nextObj)
    (hd : data.event = .trapped (.event signal event))
    (hf : (w.objs it.id).flags.detachAtNextStop = false)
    (h : isNullAccess (dereferences env it.id event (w.decoding it.id data)).1 = true) :
    (processEvent env it data w).1 = .error (.undefined .null) := by
  rw [run_processEvent_event hd hf]
  apply fails_bind
  cases event with
  | clone => exact handleNewChildEvent_of_not_safe hid (fun h => nomatch h) h
  | fork => exact handleNewChildEvent_of_not_safe hid (fun h => nomatch h) h
  | vfork => exact handleNewChildEvent_of_not_safe hid (fun h => nomatch h) h
  | vforkDone =>
    have hnull : isNullAccess ((calledFrom env it.id >>= fun _ => pure () : Step _ Unit)
        (w.decoding it.id data)).1 = true := h
    rw [isNullAccess_drop] at hnull
    exact fails_bind (eq_of_isNullAccess hnull)
  | exit =>
    have hnull : isNullAccess ((exitFlag env it.id >>= fun _ => pure () : Step _ Unit)
        (w.decoding it.id data)).1 = true := h
    rw [isNullAccess_drop] at hnull
    show (handleExitEvent env it (w.decoding it.id data)).1 = _
    rw [handleExitEvent_eq]
    exact fails_bind (eq_of_isNullAccess hnull)
  | _ => cases h

/-- an event of a tracee in any state is handled without an access to a missing system call or to
missing arguments exactly if the tracee is in a system call that is known well enough; if it is not,
then the event ends in undefined behaviour -/
theorem derefsSafely_iff (data : ChildState) (event : PtraceEvent) :
    (DerefsSafely env id data event w ↔ InKnownCall env id data event w) ∧
      ∀ key signal, id < w.nextObj → data.event = .trapped (.event signal event) →
        (w.objs id).flags.detachAtNextStop = false → ¬ InKnownCall env id data event w →
        ∃ lastArgFirst, (processEvent (env.compiled lastArgFirst) ⟨key, id⟩ data w).1
          = .error (.undefined .null) := by
  have hiff : DerefsSafely env id data event w ↔ InKnownCall env id data event w :=
    derefsSafely_iff_inKnownCall data event
  refine ⟨hiff, fun key signal hid hd hf hno => ?_⟩
  rw [← hiff] at hno
  unfold DerefsSafely at hno
  push Not at hno
  obtain ⟨last, hnull⟩ := hno
  exact ⟨last, processEvent_of_not_safe hid hd hf (Bool.eq_true_of_not_eq_false hnull)⟩

end

end

/-! ## runs -/

section
variable {env} {life : Life}

/-- the call that a thread is in is remembered -/
def Remembered (num : Numbering) (t : Thread) (μ : Memo) : Prop :=
  t.call.isSome = true → ∃ c, μ.current = some c ∧ (num c).isSome = true

theorem Remembered.exit (num : Numbering) (t : Thread) (μ : Memo) (pos : Nat) (x : ExitInfo) :
    Remembered num (t.exit pos x) μ := by
  intro h
  have hnone : (t.exit pos x).call = none := by
    unfold Thread.exit
    split_ifs <;> rfl
  rw [hnone] at h
  cases h

theorem Remembered.enter {num : Numbering} {nr : SystemCallNr} {μ μ' : Memo} {c : CallId}
    {resumed : Bool} (h : Enters num nr μ c resumed μ') (t : Thread) (pos : Nat) :
    Remembered num (t.enter pos nr) μ' := by
  intro hcall
  have hne : nr ≠ .restartSyscall := by
    rintro rfl
    cases hcall
  cases h with
  | restarted hr _ => exact absurd hr hne
  | unknown hr _ _ => exact absurd hr hne
  | returned _ _ _ hc _ => exact ⟨_, rfl, by rw [hc]; rfl⟩
  | plain _ _ hc => exact ⟨_, rfl, by rw [hc]; rfl⟩

end

def cloneEvent : ChildState := ⟨100, .trapped (.event Signal.trap .clone)⟩

def cloneRun : List Op :=
  [.addForeign 100 false false ProcessID.invalid false,
    .event ⟨100, .trapped (.event Signal.trap .stop)⟩]

def cloneWorld : World (SystemCall (TaskItems Unit)) := runOps {} cloneRun {}

/-- the pointer is null -/
theorem derefsSafely_iff_clone : ∃ lastArgFirst,
    (processEvent (({} : Env).compiled lastArgFirst) ⟨100, 0⟩ cloneEvent cloneWorld).1
      = .error (.undefined .null) := by
  have hlt : 0 < cloneWorld.nextObj := by decide +kernel
  have hnone : cloneWorld.currentCall 0 = none := Option.isNone_iff_eq_none.mp (by decide +kernel)
  apply (derefsSafely_iff cloneEvent .clone).2 100 Signal.trap hlt rfl (by decide +kernel)
  rintro ⟨call, hcall, -⟩
  cases hnone.symm.trans hcall

theorem derefsSafely_fails : ¬ ∀ (env : Env) (w : World (SystemCall (TaskItems Unit)))
    (id : TraceeId) (data : ChildState) (signal : Signal) (event : PtraceEvent),
    Reachable env w → w.tracees.find? data.pid = some (some id) →
    data.event = .trapped (.event signal event) →
    (w.objs id).flags.detachAtNextStop = false → DerefsSafely env id data event w := by
  intro h
  have hreach : Reachable {} cloneWorld := (Reaches.start false).run cloneRun (by decide +kernel)
  have hsafe := h {} cloneWorld 0 cloneEvent Signal.trap .clone hreach (by decide +kernel) rfl
    (by decide +kernel)
  unfold DerefsSafely at hsafe
  revert hsafe
  decide +kernel

end Clues
