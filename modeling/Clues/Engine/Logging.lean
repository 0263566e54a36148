import Clues.Engine.Besides
import Clues.Lib.History

/-!
# What most functions log

Most functions log only requests that may be made outside of a turn, and what happens to the tracee
objects and to `m_tracees` (`Entry.isCommon`).

* `Logs P n`      what is logged meets `P`; the stored events stay, and so does the signal that is
                  to be injected into an object below `n`;
* `Logging P n x`   the function `x` does no more than that, as far as this is the subject; one
                  lemma for each function that logs common entries only.
-/

set_option linter.unusedSectionVars false

namespace Clues

open Lib Lib.Exec Step

variable {SC : Type} [SyscallOps SC] {env : Env} {P : Entry → Prop} {n : TraceeId}

/-! ## entries -/

/-- it may be made outside of a turn: the tracee need not be stopped for it, or it may still be in an
earlier stop (`PTRACE_DETACH`) -/
def Request.isCommon : Request → Bool
  | .seize _ _ | .interrupt _ | .detach _ | .kill _ _ | .waitChild _ => true
  | _ => false

def Entry.isCommon : Entry → Bool
  | .request _ r _ => r.isCommon
  | .letGo _ | .returned | .tracked _ _ | .untracked _ _ | .detached _ | .destroyed _ => true
  | _ => false

abbrev Entry.Common (e : Entry) : Prop := e.isCommon = true

/-- the common entries are among those that meet `P` -/
class Admits (P : Entry → Prop) : Prop where
  common : ∀ {e : Entry}, e.isCommon = true → P e

instance : Admits Entry.Common := ⟨fun h => h⟩

/-! ## the relation -/

structure Logs (P : Entry → Prop) (n : TraceeId) (w w' : World SC) : Prop where
  nextObj : w.nextObj ≤ w'.nextObj
  stored : w'.unknownEvents = w.unknownEvents
  inject : ∀ id, id < n → (w'.objs id).injectSig = (w.objs id).injectSig
  log : ∃ es, w'.log = w.log ++ es ∧ ∀ e ∈ es, P e

def From (n : TraceeId) (w : World SC) : Prop := n ≤ w.nextObj

theorem Logs.refl (w : World SC) : Logs P n w w :=
  ⟨le_rfl, rfl, fun _ _ => rfl, [], by simp, by simp⟩

theorem Logs.trans {w w' w'' : World SC} (h : Logs P n w w') (h' : Logs P n w' w'') :
    Logs P n w w'' := by
  refine ⟨h.nextObj.trans h'.nextObj, h'.stored.trans h.stored,
    fun id hid => (h'.inject id hid).trans (h.inject id hid), ?_⟩
  obtain ⟨es, he, hes⟩ := h.log
  obtain ⟨es', he', hes'⟩ := h'.log
  refine ⟨es ++ es', by rw [he', he, List.append_assoc], fun e hm => ?_⟩
  rcases List.mem_append.mp hm with hm | hm
  · exact hes e hm
  · exact hes' e hm

theorem Logs.walk : Walk (From n : World SC → Prop) (Logs P n) :=
  ⟨Logs.refl, Logs.trans, fun hB h => le_trans hB h.nextObj⟩

theorem Logs.weaken {Q : Entry → Prop} {w w' : World SC} (h : Logs P n w w')
    (hPQ : ∀ e, P e → Q e) : Logs Q n w w' := by
  obtain ⟨es, he, hes⟩ := h.log
  exact ⟨h.nextObj, h.stored, h.inject, es, he, fun e hm => hPQ e (hes e hm)⟩

theorem Logs.said (w : World SC) {e : Entry} (h : P e) : Logs P n w (w.say e) :=
  ⟨le_rfl, rfl, fun _ _ => rfl, [e], rfl, fun _ hm => by rwa [List.mem_singleton.mp hm]⟩

/-- nothing but the objects, the stored events and the log matters -/
theorem Logs.same {w w' : World SC} (h : (w'.nextObj, w'.objs, w'.unknownEvents, w'.log)
      = (w.nextObj, w.objs, w.unknownEvents, w.log)) : Logs P n w w' := by
  simp only [Prod.mk.injEq] at h
  obtain ⟨hn, ho, hu, hl⟩ := h
  exact ⟨le_of_eq hn.symm, hu, fun id _ => by rw [ho], [], by simp [hl], by simp⟩

theorem Logs.setObj (w : World SC) {id : TraceeId} {t : Tracee}
    (h : id < n → t.injectSig = (w.objs id).injectSig) : Logs P n w (w.setObj id t) := by
  refine ⟨le_rfl, rfl, fun i hi => ?_, [], by simp, by simp⟩
  by_cases hid : i = id
  · subst hid
    rw [World.setObj_self]
    exact h hi
  · rw [World.setObj_of_ne w t hid]

abbrev Logging {α : Type} (P : Entry → Prop) (n : TraceeId) (x : Step SC α) : Prop :=
  Along (From n : World SC → Prop) (Logs P n) x

/-! ## primitive steps -/

namespace Logging

theorem pure {α : Type} (a : α) : Logging P n (Pure.pure a : Step SC α) := Along.pure Logs.walk a

theorem raise {α : Type} (e : Exc) : Logging P n (Exec.raise e : Step SC α) :=
  Along.raise Logs.walk e

theorem lift {α : Type} (r : Except Exc α) : Logging P n (Exec.lift r : Step SC α) :=
  Along.lift Logs.walk r

theorem bind {α β : Type} {x : Step SC α} {f : α → Step SC β} (hx : Logging P n x)
    (hf : ∀ a, Logging P n (f a)) : Logging P n (x >>= f) := Along.bind Logs.walk hx hf

theorem when {c : Prop} [Decidable c] {x : Step SC Unit} (hx : Logging P n x) :
    Logging P n (Exec.when c x) := Along.when Logs.walk fun _ => hx

theorem ite {α : Type} {c : Prop} [Decidable c] {x y : Step SC α} (hx : Logging P n x)
    (hy : Logging P n y) : Logging P n (if c then x else y) :=
  Along.ite (fun _ => hx) fun _ => hy

theorem each {α : Type} {xs : List α} {body : α → Step SC Unit}
    (h : ∀ x, Logging P n (body x)) : Logging P n (Exec.each xs body) :=
  Along.each Logs.walk fun x _ => h x

theorem read {α : Type} {f : World SC → Step SC α} (h : ∀ w, Logging P n (f w)) :
    Logging P n (Exec.read >>= f) := Along.read_bind fun w hw => h w w hw

theorem update {f : World SC → World SC}
    (h : ∀ w, ((f w).nextObj, (f w).objs, (f w).unknownEvents, (f w).log)
      = (w.nextObj, w.objs, w.unknownEvents, w.log)) :
    Logging P n (Exec.update f : Step SC Unit) := fun w _ => Logs.same (h w)

theorem say_of {e : Entry} (h : P e) : Logging P n (Step.say e : Step SC Unit) :=
  fun w _ => Logs.said w h

theorem say [Admits P] {e : Entry} (h : e.isCommon = true) :
    Logging P n (Step.say e : Step SC Unit) := say_of (Admits.common h)

theorem getTracee (id : TraceeId) : Logging P n (Step.getTracee id : Step SC Tracee) :=
  fun w _ => Logs.refl w

theorem modify {id : TraceeId} {f : Tracee → Tracee} (h : ∀ t, (f t).injectSig = t.injectSig) :
    Logging P n (modifyTracee id f : Step SC Unit) := fun w _ => Logs.setObj w fun _ => h _

theorem handle {α : Type} {x : Step SC α} {g : Exc → Step SC α} (hx : Logging P n x)
    (hg : ∀ e, Logging P n (g e)) : Logging P n (Exec.handle x g) := Along.handle Logs.walk hx hg

theorem catchApi {α : Type} {x : Step SC α} {g : Errno → Step SC α} (hx : Logging P n x)
    (hg : ∀ e, Logging P n (g e)) : Logging P n (Step.catchApi x g) := by
  apply handle hx
  intro e
  cases e with
  | api errno => exact hg errno
  | _ => exact raise _

theorem catchAll {α : Type} {x g : Step SC α} (hx : Logging P n x) (hg : Logging P n g) :
    Logging P n (Step.catchAll x g) := handle hx fun _ => ite hg (raise _)

theorem catchCosmos {α : Type} {x g : Step SC α} (hx : Logging P n x) (hg : Logging P n g) :
    Logging P n (Step.catchCosmos x g) := handle hx fun _ => ite hg (raise _)

theorem request_of (id : TraceeId) (r : Request) (h : ∀ e, P (.request id r e)) :
    Logging P n (Step.request env id r : Step SC Unit) := by
  intro w _
  rw [run_request]
  exact Logs.said w (h _)

theorem request [Admits P] (id : TraceeId) (r : Request) (h : r.isCommon = true) :
    Logging P n (Step.request env id r : Step SC Unit) :=
  request_of id r fun _ => Admits.common h

theorem query {α : Type} (id : TraceeId) (r : Request) (answer : Log → α)
    (h : ∀ e, P (.request id r e)) : Logging P n (Step.query env id r answer : Step SC α) :=
  read fun _ => bind (request_of id r h) fun _ => pure _

end Logging

section

variable [Admits P]

/-! ## detaching -/

theorem logging_cleanupChild (id : TraceeId) :
    Logging P n (cleanupChild env id : Step SC Unit) := by
  apply Logging.bind (Logging.getTracee id)
  intro t
  apply Logging.ite _ (Logging.pure ())
  apply Logging.bind
  · apply Logging.catchApi (Logging.request id _ rfl)
    exact fun e => Logging.ite (Logging.raise _) (Logging.pure ())
  · exact fun _ => Logging.modify fun _ => rfl

theorem logging_enterState (id : TraceeId) (s : State) :
    Logging P n (enterState env id s : Step SC Unit) := by
  cases s with
  | groupStop =>
    apply Logging.modify
    intro t
    split_ifs
    · rfl
    · rfl
  | syscallEnterStop => exact Logging.modify fun _ => rfl
  | syscallExitStop => exact Logging.modify fun _ => rfl
  | detached => exact Logging.modify fun _ => rfl
  | dead =>
    apply Logging.bind (Logging.getTracee id)
    intro t
    exact Logging.ite (logging_cleanupChild id) (Logging.pure ())
  | _ => exact Logging.pure ()

theorem logging_changeState (id : TraceeId) (s : State) :
    Logging P n (changeState env id s : Step SC Unit) :=
  Logging.bind (logging_enterState id s) fun _ => Logging.modify fun _ => rfl

theorem logging_handleError (id : TraceeId) (errno : Errno) :
    Logging P n (handleError env id errno : Step SC Unit) :=
  Logging.ite (logging_changeState id .dead)
    (Logging.bind (Logging.modify fun _ => rfl) fun _ => Logging.raise _)

theorem logging_doDetach (id : TraceeId) : Logging P n (doDetach env id : Step SC Unit) := by
  apply Logging.bind (Logging.getTracee id)
  intro t
  apply Logging.bind
  · apply Logging.catchApi _ (logging_handleError id)
    exact Logging.bind (Logging.request id _ rfl) fun _ => Logging.bind (Logging.say rfl) fun _ =>
      logging_changeState id .detached
  · exact fun _ => Logging.modify fun _ => rfl

theorem logging_detach (id : TraceeId) : Logging P n (detach env id : Step SC Bool) := by
  apply Logging.bind (Logging.getTracee id)
  intro t
  apply Logging.ite (Logging.pure _)
  apply Logging.ite (Logging.pure _)
  apply Logging.ite
  · exact Logging.bind (logging_doDetach id) fun _ => Logging.pure _
  · apply Logging.bind
    · exact Logging.modify fun _ => rfl
    intro _
    apply Logging.bind _ fun _ => Logging.pure _
    exact Logging.when (Logging.catchApi (Logging.request id _ rfl) (logging_handleError id))

theorem logging_destroy (id : TraceeId) : Logging P n (destroy env id : Step SC Unit) := by
  apply Logging.bind (Logging.getTracee id)
  intro t
  apply Logging.ite (Logging.pure ())
  apply Logging.bind (Logging.say rfl)
  intro _
  apply Logging.ite
  · apply Logging.catchCosmos _ (Logging.pure ())
    apply Logging.bind (Logging.getTracee id)
    intro t
    apply Logging.bind _ fun _ => logging_cleanupChild id
    exact Logging.when (Logging.catchAll (Logging.request id _ rfl) (Logging.pure ()))
  · apply Logging.catchCosmos _ (Logging.pure ())
    exact Logging.bind (logging_detach id) fun _ => Logging.pure ()

/-! ## entries of `m_tracees` -/

theorem logging_extractTracee (key : ProcessID) :
    Logging P n (extractTracee key : Step SC (Option TraceeId)) := by
  apply Logging.read
  intro w
  apply Logging.bind
  · exact Logging.update fun _ => rfl
  intro _
  cases w.tracees.find? key with
  | none => exact Logging.pure _
  | some e =>
    cases e with
    | none => exact Logging.pure _
    | some id => exact Logging.bind (Logging.say rfl) fun _ => Logging.pure _

theorem logging_eraseTracee (key : ProcessID) :
    Logging P n (eraseTracee env key : Step SC Unit) := by
  apply Logging.bind (logging_extractTracee key)
  intro r
  cases r with
  | none => exact Logging.pure ()
  | some id => exact logging_destroy id

theorem logging_entryTracee (key : ProcessID) :
    Logging P n (entryTracee key : Step SC TraceeId) := by
  apply Logging.read
  intro w
  cases w.tracees.find? key with
  | none => exact Logging.raise _
  | some e =>
    cases e with
    | none => exact Logging.raise _
    | some id => exact Logging.pure id

theorem logging_checkContained (it : Iter) : Logging P n (checkContained it : Step SC Unit) :=
  Logging.read fun _ => Logging.ite (Logging.pure ()) (Logging.raise _)

theorem logging_checkCleanupTracee (key : ProcessID) :
    Logging P n (checkCleanupTracee env key : Step SC Unit) := by
  apply Logging.bind (logging_entryTracee key)
  intro id
  apply Logging.bind (Logging.getTracee id)
  intro t
  apply Logging.ite
  · exact Logging.ite (logging_eraseTracee key) (Logging.pure ())
  · apply Logging.ite _ (Logging.pure ())
    exact Logging.bind (logging_doDetach id) fun _ => logging_eraseTracee key

/-! ## the consumer -/

theorem logging_stopTracee (signal : Option Signal) (key : ProcessID) :
    Logging P n (stopTracee env signal key : Step SC Unit) := by
  apply Logging.bind (logging_entryTracee key)
  intro id
  apply Logging.bind
  · apply Logging.bind (Logging.getTracee id)
    intro t
    cases signal with
    | none => exact Logging.pure ()
    | some sig => exact Logging.when (Logging.request id _ rfl)
  intro _
  apply Logging.bind (Logging.say rfl)
  intro _
  apply Logging.bind (logging_detach id)
  intro _
  apply Logging.bind (Logging.getTracee id)
  intro t
  exact Logging.when (logging_eraseTracee key)

theorem logging_consumerCall (c : ConsumerCall) :
    Logging P n (consumerCall env c : Step SC Unit) := by
  cases c with
  | stop signal => exact Logging.read fun w => Logging.each (logging_stopTracee signal)
  | detach pid =>
    apply Logging.read
    intro w
    cases w.tracees.find? pid with
    | none => exact Logging.pure ()
    | some e =>
      cases e with
      | none => exact Logging.pure ()
      | some id =>
        exact Logging.bind (Logging.say rfl) fun _ =>
          Logging.bind (logging_detach id) fun _ => Logging.pure ()

theorem logging_consumerAct (a : ConsumerAct) : Logging P n (consumerAct env a : Step SC Unit) :=
  Logging.ite (Logging.catchAll (logging_consumerCall _) (Logging.pure ()))
    (logging_consumerCall _)

/-- what a consumer does in a callback, and the end of the callback -/
theorem logging_consume (c : List ConsumerAct) :
    Logging P n (do each c (consumerAct env); Step.say .returned : Step SC Unit) :=
  Logging.bind (Logging.each logging_consumerAct) fun _ => Logging.say rfl

/-! ## adding tracees -/

theorem logging_modifyProc (id : TraceeId) (f : ProcessData → ProcessData) :
    Logging P n (modifyProc id f : Step SC Unit) := Logging.update fun _ => rfl

theorem logging_updateExecutable (id : TraceeId) :
    Logging P n (updateExecutable env id : Step SC Unit) := by
  apply Logging.read
  intro w
  cases env.exe w.log (w.objs id).ptrace with
  | ok exe => exact logging_modifyProc _ _
  | error e => exact logging_modifyProc _ _

theorem logging_updateCmdLine (id : TraceeId) :
    Logging P n (updateCmdLine env id : Step SC Unit) :=
  Logging.read fun _ => logging_modifyProc _ _

theorem logging_newTracee (kind : TraceeKind) (sibling : Option TraceeId) :
    Logging P n (newTracee kind sibling : Step SC TraceeId) := by
  intro w hw
  obtain ⟨proc, procs, nextProc, hnew⟩ := newTracee_eq kind sibling w
  rw [hnew]
  refine ⟨Nat.le_succ _, rfl, fun id hid => ?_, [], by simp, by simp⟩
  have hne : id ≠ w.nextObj := ne_of_lt (lt_of_lt_of_le hid hw)
  exact congrArg Tracee.injectSig (World.setObj_of_ne w _ hne)

theorem logging_attach (id : TraceeId) (followChildren attachThreads : Bool) :
    Logging P n (attach env id followChildren attachThreads : Step SC Unit) := by
  apply Logging.bind
  · exact Logging.modify fun _ => rfl
  intro _
  apply Logging.bind
  · apply Logging.bind (Logging.getTracee id)
    intro t
    apply Logging.handle (Logging.request id _ rfl)
    intro e
    exact Logging.bind (Logging.when (logging_changeState id .dead)) fun _ => Logging.raise e
  intro _
  apply Logging.bind (Logging.getTracee id)
  intro t
  apply Logging.bind (logging_updateExecutable id)
  intro _
  apply Logging.bind (logging_updateCmdLine id)
  intro _
  apply Logging.bind (Logging.request id _ rfl)
  intro _
  apply Logging.bind
  · exact Logging.modify fun _ => rfl
  intro _
  apply Logging.bind
  · apply Logging.when
    exact Logging.bind (Logging.request id _ rfl) fun _ => Logging.modify fun _ => rfl
  · exact fun _ => Logging.when (Logging.modify fun _ => rfl)

theorem logging_putTracee (pid : ProcessID) (id : TraceeId) :
    Logging P n (putTracee pid id : Step SC Unit) := by
  apply Logging.bind
  · exact Logging.update fun _ => rfl
  · exact fun _ => Logging.say rfl

theorem logging_assignTracee (pid : ProcessID) (id : TraceeId) :
    Logging P n (assignTracee env pid id : Step SC Unit) := by
  apply Logging.bind (logging_extractTracee pid)
  intro old
  apply Logging.bind (logging_putTracee pid id)
  intro _
  cases old with
  | none => exact Logging.pure ()
  | some old => exact logging_destroy old

theorem logging_addForeign (pid : ProcessID) (followChildren attachThreads : Bool)
    (sibling : ProcessID) (hold : Bool) :
    Logging P n (addForeign env pid followChildren attachThreads sibling hold :
      Step SC TraceeId) := by
  apply Logging.read
  intro w
  apply Logging.bind (logging_newTracee _ _)
  intro id
  apply Logging.bind
  · exact Logging.modify fun _ => rfl
  intro _
  apply Logging.bind
  · apply Logging.handle (logging_attach id followChildren attachThreads)
    exact fun e => Logging.bind (logging_destroy id) fun _ => Logging.raise e
  intro _
  apply Logging.bind
  · exact Logging.modify fun _ => rfl
  intro _
  exact Logging.bind (logging_assignTracee pid id) fun _ => Logging.pure id

theorem logging_create {id : TraceeId} (cmdline : List String) :
    Logging P n (create env id cmdline : Step SC Unit) := by
  apply Logging.read
  intro w
  apply Logging.ite
  · exact Logging.bind (logging_changeState id .dead) fun _ => Logging.raise _
  · apply Logging.bind (Logging.lift _)
    intro child
    apply Logging.bind
    · exact Logging.modify fun _ => rfl
    intro _
    apply Logging.bind (Logging.request id _ rfl)
    intro _
    apply Logging.bind
    · exact Logging.modify fun _ => rfl
    · exact fun _ => Logging.modify fun _ => rfl

theorem logging_addChild (cmdline : List String) (followChildren hold : Bool) :
    Logging P n (addChild env cmdline followChildren hold : Step SC TraceeId) := by
  apply Logging.bind (logging_newTracee _ _)
  intro id
  apply Logging.bind
  · apply Logging.handle
    · exact Logging.bind (logging_create cmdline) fun _ => logging_attach id _ _
    · exact fun e => Logging.bind (logging_destroy id) fun _ => Logging.raise e
  intro _
  apply Logging.bind (Logging.getTracee id)
  intro t
  apply Logging.bind
  · exact Logging.modify fun _ => rfl
  intro _
  exact Logging.bind (logging_assignTracee t.pid id) fun _ => Logging.pure id

theorem logging_attachThreads (it : Iter) :
    Logging P n (attachThreads env it : Step SC Unit) := by
  apply Logging.read
  intro w
  apply Logging.bind (Logging.lift _)
  intro pids
  apply Logging.bind _ fun _ => logging_checkContained it
  apply Logging.each
  intro pid
  apply Logging.bind (Logging.getTracee it.id)
  intro t
  apply Logging.ite (Logging.pure ())
  apply Logging.catchAll _ (Logging.pure ())
  apply Logging.bind (logging_addForeign _ _ _ _ _)
  exact fun thread => Logging.modify fun _ => rfl

/-! ## system call objects and process data -/

theorem logging_initFDs (id : TraceeId) : Logging P n (initFDs env id : Step SC Unit) := by
  apply Logging.read
  intro w
  apply Logging.ite _ (Logging.pure ())
  apply Logging.catchCosmos _ (Logging.pure ())
  exact Logging.bind (Logging.lift _) fun infos => Logging.each fun _ => logging_modifyProc _ _

theorem logging_getCall (c : CallId) : Logging P n (getCall c : Step SC (CallObj SC)) := by
  apply Logging.read
  intro w
  cases w.calls c with
  | none => exact Logging.raise _
  | some call => exact Logging.pure call

theorem logging_putCall (c : CallId) (sc : SC) : Logging P n (putCall c sc : Step SC Unit) :=
  Logging.update fun _ => rfl

theorem logging_newCall (call : CallObj SC) : Logging P n (newCall call : Step SC CallId) := by
  apply Logging.read
  intro w
  apply Logging.bind
  · exact Logging.update fun _ => rfl
  · exact fun _ => Logging.pure _

theorem logging_derefCall (c : Option CallId) : Logging P n (derefCall c : Step SC CallId) := by
  cases c with
  | none => exact Logging.raise _
  | some c => exact Logging.pure c

theorem logging_checkSigreturn (id : TraceeId) (call : CallObj SC) :
    Logging P n (checkSigreturn id call : Step SC Unit) := by
  have hseen : Logging P n (setFlags id fun f => { f with seenSigreturn := true } : Step SC Unit) :=
    Logging.modify fun _ => rfl
  apply Logging.bind (Logging.getTracee id)
  intro t
  apply Logging.ite _ (Logging.pure ())
  cases SyscallOps.error call.obj with
  | none => exact hseen
  | some e =>
    apply Logging.ite _ hseen
    exact Logging.modify fun _ => rfl

theorem logging_lostToMtExit (id : TraceeId) (status : WaitStatus) :
    Logging P n (lostToMtExit id status : Step SC Bool) := by
  apply Logging.bind (Logging.getTracee id)
  intro t
  cases status with
  | signaled s => exact Logging.pure false
  | exited m =>
    apply Logging.ite (Logging.pure true)
    apply Logging.bind
    · apply Logging.bind (Logging.getTracee id)
      intro t
      apply Logging.bind (logging_derefCall _)
      intro c
      exact Logging.bind (logging_getCall c) fun call => Logging.pure _
    · exact fun nr => Logging.pure _

/-! ## new children -/

theorem logging_configure (id : TraceeId) (pid : ProcessID) (call : CallObj SC) :
    Logging P n (configure id pid call : Step SC Unit) := by
  apply Logging.bind
  · exact Logging.modify fun _ => rfl
  intro _
  apply Logging.bind
  · exact Logging.modify fun _ => rfl
  intro _
  apply Logging.bind (Logging.lift _)
  intro shares
  apply Logging.ite _ (Logging.pure ())
  intro w _
  have h : Logs P n w (w.setObj id { w.objs id with processData := w.nextProc }) :=
    Logs.setObj w fun _ => rfl
  exact ⟨h.nextObj, rfl, h.inject, h.log⟩

theorem logging_indexTracee (pid : ProcessID) :
    Logging P n (indexTracee pid : Step SC (Option TraceeId)) := by
  apply Logging.read
  intro w
  apply Logging.bind
  · exact Logging.update fun _ => rfl
  · exact fun _ => Logging.pure _

theorem logging_insertTracee (pid : ProcessID) (id : TraceeId) :
    Logging P n (insertTracee pid id : Step SC Unit) := by
  apply Logging.read
  intro w
  cases w.tracees.find? pid with
  | none => exact logging_putTracee pid id
  | some e => exact Logging.pure ()

theorem logging_hasClonedThread (id : TraceeId) :
    Logging P n (hasClonedThread id : Step SC Bool) := by
  apply Logging.bind (Logging.getTracee id)
  intro t
  cases t.currentSyscall with
  | none => exact Logging.pure false
  | some c => exact Logging.bind (logging_getCall c) fun call => Logging.lift _

/-! ## `execve()` -/

theorem logging_handleSubstitution (pid : ProcessID) :
    Logging P n (handleSubstitution env pid : Step SC (Option TraceeId)) := by
  apply Logging.read
  intro w
  cases w.tracees.find? pid with
  | none => exact Logging.pure none
  | some e =>
    apply Logging.bind (logging_entryTracee pid)
    intro old
    apply Logging.bind
    · apply Logging.catchApi
      · exact Logging.bind (logging_detach old) fun _ => Logging.pure ()
      · exact fun e => Logging.ite (Logging.raise _) (Logging.pure ())
    intro _
    exact Logging.bind (logging_extractTracee pid) fun _ => Logging.pure _

theorem logging_syncState (id other : TraceeId) :
    Logging P n (syncState env id other : Step SC Unit) := by
  apply Logging.bind (Logging.getTracee other)
  intro o
  apply Logging.bind
  · exact Logging.modify fun _ => rfl
  intro _
  apply Logging.bind
  · exact Logging.modify fun _ => rfl
  · exact fun _ => logging_changeState other .dead

theorem logging_replaceLeader (it : Iter) (mainPid formerPid : ProcessID) :
    Logging P n (replaceLeader env it mainPid formerPid : Step SC Unit) := by
  apply Logging.bind (logging_handleSubstitution formerPid)
  intro old
  cases old with
  | none => exact Logging.modify fun _ => rfl
  | some old => exact Logging.bind (logging_syncState it.id old) fun _ => logging_destroy old

theorem logging_updateExecInfo (id : TraceeId) :
    Logging P n (updateExecInfo env id : Step SC Unit) :=
  Logging.bind (logging_updateExecutable id) fun _ => logging_updateCmdLine id

theorem logging_dropClosedFDs (id : TraceeId) :
    Logging P n (dropClosedFDs env id : Step SC Unit) := by
  apply Logging.read
  intro w
  cases env.openFds w.log (w.objs id).ptrace with
  | ok left => exact logging_modifyProc id _
  | error e => exact Logging.pure ()

/-! ## the client, and no children -/

theorem logging_dropTracee (key : ProcessID) :
    Logging P n (dropTracee env key : Step SC Unit) := by
  apply Logging.bind (logging_entryTracee key)
  intro id
  apply Logging.bind (logging_detach id)
  intro _
  apply Logging.bind (logging_checkCleanupTracee key)
  intro _
  exact Logging.bind (logging_entryTracee key) fun _ => Logging.pure ()

/-- all that happens but for the events -/
theorem logging_exec {op : Op} (h : ∀ data, op ≠ .event data) :
    Logging P n (op.exec env : Step SC Unit) := by
  cases op with
  | addForeign pid followChildren attachThreads sibling hold =>
    exact Logging.bind (logging_addForeign _ _ _ _ _) fun _ => Logging.pure _
  | addChild cmdline followChildren hold =>
    exact Logging.bind (logging_addChild _ _ _) fun _ => Logging.pure _
  | call c => exact logging_consumerCall c
  | event data => exact absurd rfl (h data)
  | noChildren => exact Logging.read fun w => Logging.each logging_dropTracee

end

end Clues
