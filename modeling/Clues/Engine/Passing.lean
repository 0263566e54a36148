import Clues.Engine.Event

/-!
# What stopping and detaching leaves alone

Detaching from tracees, dropping them and all that a consumer may do in a callback changes the
states of tracees and `m_tracees`.

* `Tracee.lasting`   the other data of a tracee;
* `PassesBy`           the lasting data of all tracees, the process data and the system calls stay,
                     and the consumer is not called;
* `Passing x`        `x` only does this.  One lemma for each function says so.
-/

set_option linter.unusedSectionVars false

namespace Clues

open Lib Lib.Exec Step

variable {SC : Type} [SyscallOps SC] {env : Env}

/-! ## the relation -/

def Tracee.lasting (t : Tracee) : Tracee :=
  { t with
    state := .unknown
    prevState := .unknown
    flags := {}
    ptrace := ProcessID.invalid
    restartMode := .cont
    injectSig := none
    initialAttacher := none
    stopSignal := none
    childRunning := false }

/-- neither an event nor a callback -/
def Entry.isPassing : Entry → Bool
  | .wait _ | .callback _ => false
  | _ => true

structure PassesBy (w w' : World SC) : Prop where
  procs : w'.procs = w.procs
  calls : w'.calls = w.calls
  nextCall : w'.nextCall = w.nextCall
  nextObj : w'.nextObj = w.nextObj
  lasting : ∀ id, (w'.objs id).lasting = (w.objs id).lasting
  log : ∃ es, w'.log = w.log ++ es ∧ ∀ e ∈ es, e.isPassing = true

theorem PassesBy.refl (w : World SC) : PassesBy w w :=
  ⟨rfl, rfl, rfl, rfl, fun _ => rfl, [], by simp, by simp⟩

theorem PassesBy.trans {w w' w'' : World SC} (h : PassesBy w w') (h' : PassesBy w' w'') :
    PassesBy w w'' := by
  refine ⟨h'.procs.trans h.procs, h'.calls.trans h.calls, h'.nextCall.trans h.nextCall,
    h'.nextObj.trans h.nextObj, fun id => (h'.lasting id).trans (h.lasting id), ?_⟩
  obtain ⟨es, he, hes⟩ := h.log
  obtain ⟨es', he', hes'⟩ := h'.log
  refine ⟨es ++ es', by rw [he', he, List.append_assoc], fun e hm => ?_⟩
  rcases List.mem_append.mp hm with hm | hm
  · exact hes e hm
  · exact hes' e hm

theorem PassesBy.walk :
    Walk (fun _ : World SC => True) (PassesBy : World SC → World SC → Prop) :=
  ⟨PassesBy.refl, PassesBy.trans, fun _ _ => trivial⟩

theorem PassesBy.said (w : World SC) {e : Entry} (h : e.isPassing = true) : PassesBy w (w.say e) :=
  ⟨rfl, rfl, rfl, rfl, fun _ => rfl, [e], rfl, fun _ hm => by rwa [List.mem_singleton.mp hm]⟩

theorem PassesBy.setObj (w : World SC) {id : TraceeId} {t : Tracee}
    (h : t.lasting = (w.objs id).lasting) : PassesBy w (w.setObj id t) := by
  refine ⟨rfl, rfl, rfl, rfl, fun i => ?_, [], by simp, by simp⟩
  by_cases hi : i = id
  · subst hi
    rw [World.setObj_self]
    exact h
  · rw [World.setObj_of_ne w t hi]

/-- `m_tracees` and what is stored beside it may change -/
theorem PassesBy.same {w w' : World SC}
    (h : (w'.procs, w'.calls, w'.nextCall, w'.nextObj, w'.objs, w'.log)
      = (w.procs, w.calls, w.nextCall, w.nextObj, w.objs, w.log)) : PassesBy w w' := by
  simp only [Prod.mk.injEq] at h
  obtain ⟨hp, hc, hn, hm, ho, hl⟩ := h
  exact ⟨hp, hc, hn, hm, fun id => by rw [ho], [], by simp [hl], by simp⟩

abbrev Passing {α : Type} (x : Step SC α) : Prop :=
  Along (fun _ : World SC => True) (PassesBy : World SC → World SC → Prop) x

/-! ## primitive steps -/

namespace Passing

theorem pure {α : Type} (a : α) : Passing (Pure.pure a : Step SC α) := Along.pure PassesBy.walk a

theorem raise {α : Type} (e : Exc) : Passing (Exec.raise e : Step SC α) :=
  Along.raise PassesBy.walk e

theorem bind {α β : Type} {x : Step SC α} {f : α → Step SC β} (hx : Passing x)
    (hf : ∀ a, Passing (f a)) : Passing (x >>= f) := Along.bind PassesBy.walk hx hf

theorem when {c : Prop} [Decidable c] {x : Step SC Unit} (hx : c → Passing x) :
    Passing (Exec.when c x) := Along.when PassesBy.walk hx

theorem each {α : Type} {xs : List α} {body : α → Step SC Unit}
    (h : ∀ x ∈ xs, Passing (body x)) : Passing (Exec.each xs body) := Along.each PassesBy.walk h

theorem read {α : Type} {f : World SC → Step SC α} (h : ∀ w, Passing (f w)) :
    Passing (Exec.read >>= f) := Along.read_bind fun w hw => h w w hw

theorem say {e : Entry} (h : e.isPassing = true) : Passing (Step.say e : Step SC Unit) :=
  fun w _ => PassesBy.said w h

theorem getTracee (id : TraceeId) : Passing (Step.getTracee id : Step SC Tracee) :=
  fun w _ => PassesBy.refl w

theorem modify {id : TraceeId} {f : Tracee → Tracee} (h : ∀ t, (f t).lasting = t.lasting) :
    Passing (modifyTracee id f : Step SC Unit) := fun w _ => PassesBy.setObj w (h _)

theorem catchApi {α : Type} {x : Step SC α} {g : Errno → Step SC α} (hx : Passing x)
    (hg : ∀ e, Passing (g e)) : Passing (Step.catchApi x g) := by
  refine Along.handle PassesBy.walk hx fun e => ?_
  cases e with
  | api errno => exact hg errno
  | _ => exact raise _

theorem catchAll {α : Type} {x g : Step SC α} (hx : Passing x) (hg : Passing g) :
    Passing (Step.catchAll x g) :=
  Along.handle PassesBy.walk hx fun _ => Along.ite (fun _ => hg) fun _ => raise _

theorem catchCosmos {α : Type} {x g : Step SC α} (hx : Passing x) (hg : Passing g) :
    Passing (Step.catchCosmos x g) :=
  Along.handle PassesBy.walk hx fun _ => Along.ite (fun _ => hg) fun _ => raise _

theorem request (id : TraceeId) (r : Request) : Passing (Step.request env id r : Step SC Unit) := by
  intro w _
  rw [run_request]
  exact PassesBy.said w rfl

theorem query {α : Type} (id : TraceeId) (r : Request) (answer : Log → α) :
    Passing (Step.query env id r answer : Step SC α) :=
  read fun _ => bind (request id r) fun _ => pure _

end Passing

/-! ## detaching -/

theorem passing_cleanupChild (id : TraceeId) : Passing (cleanupChild env id : Step SC Unit) := by
  refine Passing.bind (Passing.getTracee id) fun t => Along.ite (fun _ => ?_) fun _ =>
    Passing.pure ()
  refine Passing.bind (Passing.catchApi (Passing.request id _) fun e => ?_) fun _ =>
    Passing.modify fun _ => rfl
  exact Along.ite (fun _ => Passing.raise _) fun _ => Passing.pure ()

theorem passing_enterState (id : TraceeId) (s : State) :
    Passing (enterState env id s : Step SC Unit) := by
  cases s with
  | groupStop =>
    apply Passing.modify
    intro t
    split_ifs <;> rfl
  | syscallEnterStop => exact Passing.modify fun _ => rfl
  | syscallExitStop => exact Passing.modify fun _ => rfl
  | detached => exact Passing.modify fun _ => rfl
  | dead =>
    exact Passing.bind (Passing.getTracee id) fun t =>
      Along.ite (fun _ => passing_cleanupChild id) fun _ => Passing.pure ()
  | _ => exact Passing.pure ()

theorem passing_changeState (id : TraceeId) (s : State) :
    Passing (changeState env id s : Step SC Unit) :=
  Passing.bind (passing_enterState id s) fun _ => Passing.modify fun _ => rfl

theorem passing_handleError (id : TraceeId) (errno : Errno) :
    Passing (handleError env id errno : Step SC Unit) :=
  Along.ite (fun _ => passing_changeState id .dead) fun _ =>
    Passing.bind (Passing.modify fun _ => rfl) fun _ => Passing.raise _

theorem passing_doDetach (id : TraceeId) : Passing (doDetach env id : Step SC Unit) := by
  refine Passing.bind (Passing.getTracee id) fun t =>
    Passing.bind (Passing.catchApi ?_ (passing_handleError id)) fun _ => Passing.modify fun _ => rfl
  exact Passing.bind (Passing.request id _) fun _ => Passing.bind (Passing.say rfl) fun _ =>
    passing_changeState id .detached

theorem passing_detach (id : TraceeId) : Passing (detach env id : Step SC Bool) := by
  refine Passing.bind (Passing.getTracee id) fun t => Along.ite (fun _ => Passing.pure _) fun _ =>
    Along.ite (fun _ => Passing.pure _) fun _ => Along.ite (fun _ => ?_) fun _ => ?_
  · exact Passing.bind (passing_doDetach id) fun _ => Passing.pure _
  · refine Passing.bind (Passing.modify fun _ => rfl) fun _ =>
      Passing.bind (Passing.when fun _ => ?_) fun _ => Passing.pure _
    exact Passing.catchApi (Passing.request id _) (passing_handleError id)

theorem passing_destroy (id : TraceeId) : Passing (destroy env id : Step SC Unit) := by
  refine Passing.bind (Passing.getTracee id) fun t => Along.ite (fun _ => Passing.pure ()) fun _ =>
    Passing.bind (Passing.say rfl) fun _ =>
    Along.ite (fun _ => Passing.catchCosmos ?_ (Passing.pure ())) fun _ =>
    Passing.catchCosmos (Passing.bind (passing_detach id) fun _ => Passing.pure ())
      (Passing.pure ())
  refine Passing.bind (Passing.getTracee id) fun t =>
    Passing.bind (Passing.when fun _ => ?_) fun _ => passing_cleanupChild id
  exact Passing.catchAll (Passing.request id _) (Passing.pure ())

/-! ## entries of `m_tracees` -/

theorem passing_extractTracee (key : ProcessID) :
    Passing (extractTracee key : Step SC (Option TraceeId)) := by
  refine Passing.read fun w => Passing.bind (fun v _ => PassesBy.same rfl) fun _ => ?_
  cases w.tracees.find? key with
  | none => exact Passing.pure _
  | some e =>
    cases e with
    | none => exact Passing.pure _
    | some id => exact Passing.bind (Passing.say rfl) fun _ => Passing.pure _

theorem passing_eraseTracee (key : ProcessID) : Passing (eraseTracee env key : Step SC Unit) := by
  refine Passing.bind (passing_extractTracee key) fun r => ?_
  cases r with
  | none => exact Passing.pure ()
  | some id => exact passing_destroy id

theorem passing_entryTracee (key : ProcessID) : Passing (entryTracee key : Step SC TraceeId) := by
  refine Passing.read fun w => ?_
  cases w.tracees.find? key with
  | none => exact Passing.raise _
  | some e =>
    cases e with
    | none => exact Passing.raise _
    | some id => exact Passing.pure id

theorem passing_checkContained (it : Iter) : Passing (checkContained it : Step SC Unit) :=
  Passing.read fun _ => Along.ite (fun _ => Passing.pure ()) fun _ => Passing.raise _

theorem passing_checkCleanupTracee (key : ProcessID) :
    Passing (checkCleanupTracee env key : Step SC Unit) := by
  refine Passing.bind (passing_entryTracee key) fun id =>
    Passing.bind (Passing.getTracee id) fun t => ?_
  refine Along.ite (fun _ => ?_) fun _ => Along.ite (fun _ => ?_) fun _ => Passing.pure ()
  · exact Along.ite (fun _ => passing_eraseTracee key) fun _ => Passing.pure ()
  · exact Passing.bind (passing_doDetach id) fun _ => passing_eraseTracee key

/-! ## the consumer -/

theorem passing_stopTracee (signal : Option Signal) (key : ProcessID) :
    Passing (stopTracee env signal key : Step SC Unit) := by
  refine Passing.bind (passing_entryTracee key) fun id =>
    Passing.bind (Passing.bind (Passing.getTracee id) fun t => ?_) fun _ =>
    Passing.bind (Passing.say rfl) fun _ => Passing.bind (passing_detach id) fun _ =>
    Passing.bind (Passing.getTracee id) fun t => Passing.when fun _ => passing_eraseTracee key
  cases signal with
  | none => exact Passing.pure ()
  | some sig => exact Passing.when fun _ => Passing.request id _

theorem passing_consumerCall (c : ConsumerCall) : Passing (consumerCall env c : Step SC Unit) := by
  cases c with
  | stop signal =>
    exact Passing.read fun w => Passing.each fun key _ => passing_stopTracee signal key
  | detach pid =>
    refine Passing.read fun w => ?_
    cases w.tracees.find? pid with
    | none => exact Passing.pure ()
    | some e =>
      cases e with
      | none => exact Passing.pure ()
      | some id =>
        exact Passing.bind (Passing.say rfl) fun _ => Passing.bind (passing_detach id) fun _ =>
          Passing.pure ()

/-- what the consumer does in a callback, and the caller's use of the tracee behind it -/
theorem passesBy_notify (it : Iter) (c : Callback) (w : World SC) :
    PassesBy (w.say (.callback c)) (notify env it c w).2 := by
  have hreact : Passing (do
      let w ← read
      each (env.consumer w.log) (consumerAct env)
      say .returned
      checkContained it : Step SC Unit) := by
    refine Passing.read fun v => Passing.bind (Passing.each fun act _ => ?_) fun _ =>
      Passing.bind (Passing.say rfl) fun _ => passing_checkContained it
    exact Along.ite (fun _ => Passing.catchAll (passing_consumerCall _) (Passing.pure ())) fun _ =>
      passing_consumerCall _
  have hrun : notify env it c w = (do
      let w ← read
      each (env.consumer w.log) (consumerAct env)
      say .returned
      checkContained it : Step SC Unit) (w.say (.callback c)) := by
    unfold notify callback
    simp only [assoc_bind]
    exact run_bind_ok (run_say _ w)
  rw [hrun]
  exact hreact _ trivial

/-! ## execve -/

theorem passing_detachReplaced (old : TraceeId) :
    Passing (detachReplaced env old : Step SC Unit) :=
  Passing.catchApi (Passing.bind (passing_detach old) fun _ => Passing.pure ()) fun _ =>
    Along.ite (fun _ => Passing.raise _) fun _ => Passing.pure ()

theorem passing_handleSubstitution (pid : ProcessID) :
    Passing (handleSubstitution env pid : Step SC (Option TraceeId)) := by
  refine Passing.read fun w => ?_
  cases w.tracees.find? pid with
  | none => exact Passing.pure none
  | some e =>
    exact Passing.bind (passing_entryTracee pid) fun old =>
      Passing.bind (passing_detachReplaced old) fun _ =>
      Passing.bind (passing_extractTracee pid) fun _ => Passing.pure _

end Clues
