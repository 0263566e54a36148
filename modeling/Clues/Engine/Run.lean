import Clues.Engine.Event

/-!
# Runs of the engine

* `Op`        what can happen to an engine: calls of the client, one event reported by `wait()`,
              and `wait()` running out of children;
* `Reaches env Ok w`   a run from an empty engine reaches `w`, and every step of it met `Ok`;
* `Reachable`          the same without a condition on the steps.

A run goes on after a step that returned.  The client may also go on after an exception of a
function it called itself; an exception out of `Engine::trace()` ends the run.
-/

namespace Clues

open Lib Lib.Exec Step

variable {SC : Type} [SyscallOps SC]

inductive Op where
  | addForeign (pid : ProcessID) (followChildren attachThreads : Bool) (sibling : ProcessID)
      (hold : Bool)
  | addChild (cmdline : List String) (followChildren hold : Bool)
  | call (c : ConsumerCall)
  | event (data : ChildState)
  | noChildren
  deriving DecidableEq, Repr

/-- a function the client calls, which may throw to the client -/
def Op.isCall : Op → Bool
  | .addForeign .. | .addChild .. | .call _ => true
  | .event _ | .noChildren => false

def Op.exec (env : Env) : Op → Step SC Unit
  | .addForeign pid followChildren attachThreads sibling hold => do
      let _ ← Clues.addForeign env pid followChildren attachThreads sibling hold
      pure ()
  | .addChild cmdline followChildren hold => do
      let _ ← Clues.addChild env cmdline followChildren hold
      pure ()
  | .call c => consumerCall env c
  | .event data => traceEvent env data
  | .noChildren => handleNoChildren env

/-- the run can go on after the outcome of a step -/
def Op.completes (op : Op) : Except Exc Unit → Prop
  | .ok _ => True
  | .error e => op.isCall = true ∧ e.isException = true

instance (op : Op) : (r : Except Exc Unit) → Decidable (op.completes r)
  | .ok _ => inferInstanceAs (Decidable True)
  | .error _ => inferInstanceAs (Decidable (_ ∧ _))

/-- the state after a step -/
def Op.after (env : Env) (op : Op) (w : World SC) : World SC := (op.exec env w).2

/-- a condition on the steps of a run: the state before the step, and the step -/
abbrev StepCond (SC : Type) := World SC → Op → Prop

inductive Reaches (env : Env) (Ok : StepCond SC) : World SC → Prop
  | start (formatFdInfo : Bool) : Reaches env Ok { formatFdInfo := formatFdInfo }
  | step {w : World SC} {op : Op} : Reaches env Ok w → Ok w op →
      op.completes (op.exec env w).1 → Reaches env Ok (op.after env w)

def Reachable (env : Env) (w : World SC) : Prop := Reaches env (fun _ _ => True) w

/-- the run through the given steps -/
def runOps (env : Env) : List Op → World SC → World SC
  | [], w => w
  | op :: ops, w => runOps env ops (op.after env w)

/-- every step completes and meets the condition -/
def RunOk (env : Env) (Ok : StepCond SC) : List Op → World SC → Prop
  | [], _ => True
  | op :: ops, w =>
    Ok w op ∧ op.completes (op.exec env w).1 ∧ RunOk env Ok ops (op.after env w)

/-- the run is evaluated step by step -/
def decideRun (env : Env) (Ok : StepCond SC) [∀ w op, Decidable (Ok w op)] :
    (ops : List Op) → (w : World SC) → Decidable (RunOk env Ok ops w)
  | [], _ => inferInstanceAs (Decidable True)
  | op :: ops, w =>
    have : Decidable (RunOk env Ok ops (op.after env w)) := decideRun env Ok ops _
    inferInstanceAs (Decidable (_ ∧ _ ∧ _))

instance (env : Env) (Ok : StepCond SC) [∀ w op, Decidable (Ok w op)] (ops : List Op)
    (w : World SC) : Decidable (RunOk env Ok ops w) := decideRun env Ok ops w

/-- in runs without system calls there are no system call objects -/
instance : SyscallOps Empty where
  createSyscall _ _ := .error (.runtime "system call")
  setEntryInfo _ _ sc := nomatch sc
  setExitInfo _ _ sc := nomatch sc
  callNr sc := nomatch sc
  abi sc := nomatch sc
  error sc := nomatch sc
  sharesFiles sc := nomatch sc
  clonedThread sc := nomatch sc

theorem Reaches.run {env : Env} {Ok : StepCond SC} (ops : List Op) {w : World SC}
    (hw : Reaches env Ok w) (h : RunOk env Ok ops w) : Reaches env Ok (runOps env ops w) := by
  induction ops generalizing w with
  | nil => exact hw
  | cons op ops ih =>
    obtain ⟨hok, hc, h⟩ := h
    exact ih (Reaches.step hw hok hc) h

theorem Reaches.mono {env : Env} {Ok Ok' : StepCond SC} (h : ∀ w op, Ok w op → Ok' w op)
    {w : World SC} (hw : Reaches env Ok w) : Reaches env Ok' w := by
  induction hw with
  | start b => exact Reaches.start b
  | step _ hok hc ih => exact Reaches.step ih (h _ _ hok) hc

/-- the run rule: an invariant holds at the start and is preserved by every step that completes -/
theorem Reaches.invariant {env : Env} {Ok : StepCond SC} {I : World SC → Prop}
    (h0 : ∀ b, I { formatFdInfo := b })
    (hs : ∀ w op, Reaches env Ok w → I w → Ok w op → op.completes (op.exec env w).1 →
      I (op.after env w))
    {w : World SC} (hw : Reaches env Ok w) : I w := by
  induction hw with
  | start b => exact h0 b
  | step hr hok hc ih => exact hs _ _ hr ih hok hc

/-! ## one event -/

/-- the state in which the stop of an event is handled -/
def World.delivered (w : World SC) (id : TraceeId) (data : ChildState) : World SC :=
  (w.say (.deliver id data)).setObj id { w.objs id with injectSig := none }

omit [SyscallOps SC] in
theorem delivered_obj (w : World SC) (id : TraceeId) (data : ChildState) :
    (w.delivered id data).objs id = { w.objs id with injectSig := none } := World.setObj_self ..

section
variable {env : Env} {it : Iter} {data : ChildState} {w : World SC}

theorem run_processEvent_end (hend : data.isEnd = true) :
    processEvent env it data w = handleEnd env it data (w.delivered it.id data) := by
  unfold processEvent
  rw [run_bind_ok (run_say _ w), run_bind_ok (run_modifyTracee it.id _ _), if_pos hend]
  rfl

theorem run_processEvent_trapped {trap : Trap} (hd : data.event = .trapped trap) :
    processEvent env it data w
      = (if (w.objs it.id).flags.detachAtNextStop then doDetach env it.id
        else handleTrap env it data.pid trap >>= fun _ => restartTracee env it : Step SC Unit)
          (w.delivered it.id data) := by
  have hend : data.isEnd = false := by
    unfold ChildState.isEnd
    rw [hd]
  have hflag : ((w.delivered it.id data).objs it.id).flags = (w.objs it.id).flags := by
    rw [delivered_obj]
  unfold processEvent
  rw [run_bind_ok (run_say _ w), run_bind_ok (run_modifyTracee it.id _ _),
    if_neg (by rw [hend]; exact Bool.false_ne_true), hd]
  show (getTracee it.id >>= fun t => _ : Step SC Unit) _ = _
  rw [run_bind_ok (run_getTracee it.id _), ← hflag]
  rfl

theorem run_processEvent_signaled {signal : Signal} (hd : data.event = .signaled signal) :
    processEvent env it data w
      = (handleSignalStop env it signal >>= fun _ => restartTracee env it : Step SC Unit)
          (w.delivered it.id data) := by
  have hend : data.isEnd = false := by
    unfold ChildState.isEnd
    rw [hd]
  unfold processEvent
  rw [run_bind_ok (run_say _ w), run_bind_ok (run_modifyTracee it.id _ _),
    if_neg (by rw [hend]; exact Bool.false_ne_true), hd]
  rfl

theorem run_processEvent_other (hd : data.event = .other) :
    processEvent env it data w = restartTracee env it (w.delivered it.id data) := by
  have hend : data.isEnd = false := by
    unfold ChildState.isEnd
    rw [hd]
  unfold processEvent
  rw [run_bind_ok (run_say _ w), run_bind_ok (run_modifyTracee it.id _ _),
    if_neg (by rw [hend]; exact Bool.false_ne_true), hd]
  rfl

end

end Clues
