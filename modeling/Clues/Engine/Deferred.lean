import Clues.Engine.Loop
import Mathlib.Data.List.Infix

/-!
# Deferred detaching

A running tracee cannot be detached from: `Tracee::detach()` marks it, and the next trapped event
of the tracee makes the tracer detach from it.

* `Delivery`        in which states an event reaches a tracee while `Engine::trace()` handles one;
* `DetachesFirst`   the first thing done with a delivered event is `PTRACE_DETACH` for its PID;
* `detachesFirst_iff`   this happens exactly if the object has the PID that is stopped.
-/

set_option linter.unusedSectionVars false

namespace Clues

open Lib Lib.Exec Step

variable {SC : Type} [SyscallOps SC] {env : Env}

/-- `Engine::trace()` hands the event to the tracee `id`, in the state `v` -/
inductive Receives (env : Env) (data : ChildState) (w : World SC) : TraceeId → World SC → Prop
  | known {id : TraceeId} : w.tracees.find? data.pid = some (some id) →
      Receives env data w id (w.say (.wait data))
  /-- the event of an unknown leader is handed to the tracee of the former thread -/
  | taken {id : TraceeId} : data.isExec = true → w.tracees.find? data.pid = none →
      env.request (w.say (.wait data)).log (.getPIDEventMsg data.pid) = none →
      w.tracees.find? (env.pidEventMsg (w.say (.wait data)).log data.pid) = some (some id) →
      Receives env data w id ((w.say (.wait data)).rekeyed
        (env.pidEventMsg (w.say (.wait data)).log data.pid) data.pid (some id))

/-- while the event `data` is handled, `d` is delivered to the tracee `id` in the state `v`: it is
the event itself, or a stored event of the child that the event announced -/
inductive Delivery (env : Env) (data : ChildState) (w : World SC) :
    TraceeId → ChildState → World SC → Prop
  | direct {id : TraceeId} {v : World SC} : Receives env data w id v → Delivery env data w id data v
  | stored {id i : TraceeId} {d : ChildState} {v w1 : World SC} : Receives env data w i v →
      handleKnown env ⟨data.pid, i⟩ data v = (.ok (), w1) →
      w1.newlyAttachedPid ≠ ProcessID.invalid →
      w1.unknownEvents.find? w1.newlyAttachedPid = some d →
      w1.tracees.find? d.pid = some (some id) → Delivery env data w id d w1.calm

/-- right after the delivery of the event to the tracee, the tracer detaches from the PID that
reported it: no callback and no restart comes first -/
def DetachesFirst (id : TraceeId) (d : ChildState) (v w' : World SC) : Prop :=
  ∃ error, v.log ++ [.deliver id d, .request id (.detach d.pid) error] <+: w'.log

/-! ## the log of handling an event -/

theorem handleKnown_log {d : ChildState} {id : TraceeId} {v : World SC} (hB : Base v)
    (hk : v.tracees.find? d.pid = some (some id)) :
    v.log <+: (handleKnown env ⟨d.pid, id⟩ d v).2.log := by
  have hl : EventLabels env (fun _ => True) ⟨d.pid, id⟩ d v :=
    eventLabels_all (show v.contains ⟨d.pid, id⟩ from hk) d
  exact (course_handleKnown hB rfl (hB.fresh hk) hl trivial).log_grows

/-- the world after an event for a known PID -/
theorem run_traceEventN_known {fuel : Nat} {data : ChildState} {id : TraceeId} {v : World SC}
    (hk : v.tracees.find? data.pid = some (some id)) :
    (traceEventN env fuel data v).2
      = ((handleKnown env ⟨data.pid, id⟩ data >>= fun _ => checkUnknownEventsN env 1) v).2 := by
  have hev : handleEvent env data v = (do
      handleKnown env ⟨data.pid, id⟩ data
      checkUnknownEventsN env 1
      pure Decision.done) v := run_handleEventN hk
  cases hr : handleKnown env ⟨data.pid, id⟩ data v with
  | mk r v1 =>
    cases r with
    | error e =>
      rw [run_bind_error hr] at hev ⊢
      rw [traceEventN_error hev]
    | ok u =>
      rw [run_bind_ok hr] at hev ⊢
      cases hc : checkUnknownEventsN env 1 v1 with
      | mk r v2 =>
        cases r with
        | error e =>
          rw [run_bind_error hc] at hev
          rw [traceEventN_error hev]
        | ok u =>
          rw [run_bind_ok hc] at hev
          have hev' : handleEvent env data v = (.ok Decision.done, v2) := hev
          rw [traceEventN_done hev']

theorem run_checkUnknownTraceeEvent_exec {data : ChildState} {v : World SC} {e : Option TraceeId}
    (hx : data.isExec = true) (hq : env.request v.log (.getPIDEventMsg data.pid) = none)
    (hf : v.tracees.find? (env.pidEventMsg v.log data.pid) = some e) :
    checkUnknownTraceeEvent env data v
      = (.ok .retry, v.rekeyed (env.pidEventMsg v.log data.pid) data.pid e) := by
  obtain ⟨s, he⟩ := data.isExec_iff.mp hx
  have hinq : inquire env (.getPIDEventMsg data.pid) (fun log => env.pidEventMsg log data.pid) v
      = (.ok (env.pidEventMsg v.log data.pid), v.say (.inquiry (.getPIDEventMsg data.pid) none)) := by
    unfold inquire
    rw [run_read_bind, hq, run_bind_ok (run_say _ v)]
    rfl
  have hupd : tryUpdateTraceePID (env.pidEventMsg v.log data.pid) data.pid
      (v.say (.inquiry (.getPIDEventMsg data.pid) none))
      = (.ok true, v.rekeyed (env.pidEventMsg v.log data.pid) data.pid e) := by
    unfold tryUpdateTraceePID
    rw [run_read_bind, World.say_tracees, hf]
    rfl
  unfold checkUnknownTraceeEvent
  rw [he]
  show (inquire env (.getPIDEventMsg data.pid) _ >>= fun formerPid =>
    tryUpdateTraceePID formerPid data.pid >>= fun b =>
      if b = true then pure Decision.retry else pure Decision.drop : Step SC Decision) v = _
  rw [run_bind_ok hinq, run_bind_ok hupd]
  rfl

theorem Receives.base {data : ChildState} {w v : World SC} {id : TraceeId} (hS : Settled w)
    (h : Receives env data w id v) :
    Base v ∧ StoredStops v ∧ v.tracees.find? data.pid = some (some id) := by
  have hB : Base (w.say (.wait data)) := hS.toBase.say rfl fun _ => nofun
  cases h with
  | known hk => exact ⟨hB, hS.stops, hk⟩
  | taken hx hk hq hf =>
    have hk' : (w.say (.wait data)).tracees.find? data.pid = none := hk
    refine ⟨hB.rekeyed hk hf, hS.stops.of_same rfl, ?_⟩
    rw [rekeyed_find hk' hf, if_pos rfl]

/-- handling an event is handling it for the tracee that receives it -/
theorem Receives.run {data : ChildState} {w v : World SC} {id : TraceeId} (hS : Settled w)
    (h : Receives env data w id v) : (traceEvent env data w).2
      = ((handleKnown env ⟨data.pid, id⟩ data >>= fun _ => checkUnknownEventsN env 1) v).2 := by
  have hk := (h.base hS).2.2
  unfold traceEvent
  rw [run_bind_ok (run_say _ w)]
  cases h with
  | known _ => exact run_traceEventN_known hk
  | taken hx hn hq hf =>
    have hev : handleEvent env data (w.say (.wait data)) = (.ok .retry,
        (w.say (.wait data)).rekeyed (env.pidEventMsg (w.say (.wait data)).log data.pid)
          data.pid (some id)) := by
      have hn' : (w.say (.wait data)).tracees.find? data.pid = none := hn
      unfold handleEvent
      rw [run_handleEventN_none hn']
      exact run_checkUnknownTraceeEvent_exec hx hq hf
    rw [traceEventN, run_bind_ok hev]
    exact run_traceEventN_known hk

/-- handling a stored event is handling it for its tracee -/
theorem run_handleEventN_stop {fuel : Nat} {d : ChildState} {id : TraceeId} {v : World SC}
    (hs : d.isEventStop = true) (hB : Base v) (hk : v.tracees.find? d.pid = some (some id))
    (hn : v.newlyAttachedPid = ProcessID.invalid) :
    (handleEventN env fuel d v).2 = (handleKnown env ⟨d.pid, id⟩ d v).2 := by
  have hnew : (handleKnown env ⟨d.pid, id⟩ d v).2.newlyAttachedPid = v.newlyAttachedPid :=
    handleKnown_newly hs hB hk
  rw [run_handleEventN hk]
  cases hr : handleKnown env ⟨d.pid, id⟩ d v with
  | mk r v1 =>
    rw [hr] at hnew
    cases r with
    | error e => rw [run_bind_error hr]
    | ok u =>
      rw [run_bind_ok hr, run_bind_ok (run_checkUnknownEventsN_idle (Eq.trans hnew hn))]
      rfl

theorem checkUnknownEventsN_log {w : World SC} (hB : Base w) (hS : StoredStops w) :
    w.log <+: (checkUnknownEventsN env 1 w).2.log := by
  by_cases hn : w.newlyAttachedPid = ProcessID.invalid
  · rw [run_checkUnknownEventsN_idle hn]
  rw [run_checkUnknownEventsN hn]
  cases hd : w.unknownEvents.find? w.newlyAttachedPid with
  | none => exact List.prefix_refl _
  | some d =>
    have hstop := (hS _ d hd).2
    have hev : w.log <+: (handleEventN env 0 d w.calm).2.log := by
      cases hk : w.calm.tracees.find? d.pid with
      | none =>
        rw [run_handleEventN_none hk, checkUnknownTraceeEvent_stop hstop]
        exact List.prefix_refl _
      | some e =>
        cases e with
        | none =>
          rw [handleEventN, handleEventWith, run_read_bind, hk]
          show w.log <+: ((entryTracee d.pid >>= fun id => _ : Step SC Decision) w.calm).2.log
          rw [run_bind_error (run_entryTracee_null hk)]
          exact List.prefix_refl _
        | some id =>
          rw [run_handleEventN_stop hstop hB.calm hk rfl]
          exact handleKnown_log hB.calm hk
    show w.log <+: ((handleEventN env 0 d >>= fun _ =>
      update fun v => v.forget w.newlyAttachedPid : Step SC Unit) w.calm).2.log
    rw [run_bind]
    cases hr : handleEventN env 0 d w.calm with
    | mk r w1 =>
      rw [hr] at hev
      cases r <;> exact hev

/-- the log at the end of an event goes on from the log of each delivery -/
theorem Delivery.log {data d : ChildState} {w v : World SC} {id : TraceeId} (hS : Settled w)
    (h : Delivery env data w id d v) :
    (handleKnown env ⟨d.pid, id⟩ d v).2.log <+: (traceEvent env data w).2.log := by
  have hlater : ∀ {i : TraceeId} {u w1 : World SC}, Receives env data w i u →
      handleKnown env ⟨data.pid, i⟩ data u = (.ok (), w1) →
      Base w1 ∧ StoredStops w1 ∧ (traceEvent env data w).2 = (checkUnknownEventsN env 1 w1).2 := by
    intro i u w1 hr hk
    obtain ⟨hB, hst, hfind⟩ := hr.base hS
    have hl : EventLabels env (fun _ => True) ⟨data.pid, i⟩ data u :=
      eventLabels_all (show u.contains ⟨data.pid, i⟩ from hfind) data
    have he : Effs env i (fun _ => True) u (handleKnown env ⟨data.pid, i⟩ data u).2 :=
      (course_handleKnown hB rfl (hB.fresh hfind) hl trivial).effs
    rw [hk] at he
    refine ⟨he.base hB, hst.of_same he.unknownEvents, ?_⟩
    rw [hr.run hS, run_bind_ok hk]
  cases h with
  | direct hr =>
    cases hk : handleKnown env ⟨data.pid, id⟩ data v with
    | mk r w1 =>
      cases r with
      | error e =>
        rw [hr.run hS, run_bind_error hk]
      | ok u =>
        obtain ⟨hB1, hst1, hw⟩ := hlater hr hk
        rw [hw]
        exact checkUnknownEventsN_log hB1 hst1
  | @stored _ i _ w1 hr hk hn hd hf =>
    obtain ⟨hB1, hst1, hw⟩ := hlater hr hk
    have hstop := (hst1 _ d hd).2
    have hf' : w1.calm.tracees.find? d.pid = some (some id) := hf
    rw [hw, run_checkUnknownEventsN hn, hd]
    show _ <+: ((handleEventN env 0 d >>= fun _ =>
      update fun v => v.forget w1.newlyAttachedPid : Step SC Unit) w1.calm).2.log
    rw [run_bind]
    have hev : (handleEventN env 0 d w1.calm).2 = (handleKnown env ⟨d.pid, id⟩ d w1.calm).2 :=
      run_handleEventN_stop hstop hB1.calm hf' rfl
    cases hr : handleEventN env 0 d w1.calm with
    | mk r w2 =>
      rw [hr] at hev
      rw [← hev]
      cases r <;> exact List.prefix_refl _

/-! ## the deferred detach -/

theorem doDetach_log (id : TraceeId) (v : World SC) : ∃ error,
    v.log ++ [.request id (.detach (v.objs id).ptrace) error] <+: (doDetach env id v).2.log := by
  cases h : env.request v.log (.detach (v.objs id).ptrace) with
  | none =>
    rw [run_doDetach_ok h]
    exact ⟨none, List.prefix_append _ [Entry.detached id]⟩
  | some e =>
    refine ⟨some e, ?_⟩
    rw [run_doDetach_error h]
    have herr : Lets env False id (v.say (.request id (.detach (v.objs id).ptrace) (some e)))
        (handleError env id e (v.say (.request id (.detach (v.objs id).ptrace) (some e)))).2 :=
      lets_handleError (searchOrLaw (Or.inl h))
    have hpre := herr.log_grows
    rw [run_bind]
    cases hr : handleError env id e (v.say (.request id (.detach (v.objs id).ptrace) (some e))) with
    | mk r v1 =>
      rw [hr] at hpre
      cases r <;> exact hpre

/-- the log at the end of handling an event goes on from that of `processEvent` -/
theorem processEvent_log {d : ChildState} {id : TraceeId} {v : World SC} (hB : Base v)
    (hk : v.tracees.find? d.pid = some (some id)) :
    (processEvent env ⟨d.pid, id⟩ d v).2.log <+: (handleKnown env ⟨d.pid, id⟩ d v).2.log := by
  have hl : EventLabels env (fun _ => True) ⟨d.pid, id⟩ d v :=
    eventLabels_all (show v.contains ⟨d.pid, id⟩ from hk) d
  have hB1 : Base (processEvent env ⟨d.pid, id⟩ d v).2 :=
    (course_processEvent hB rfl (hB.fresh hk) hl).base hB
  have hcheck : ∀ u : World SC, (checkContained ⟨d.pid, id⟩ u).2 = u := by
    intro u
    unfold checkContained
    rw [run_read_bind]
    split_ifs <;> rfl
  have hrest : ∀ u : World SC, Base u →
      u.log <+: ((checkContained ⟨d.pid, id⟩ >>= fun _ => checkCleanupTracee env d.pid) u).2.log := by
    intro u hu
    have he : Effs env id (fun _ => True) u
        ((checkContained ⟨d.pid, id⟩ >>= fun _ => checkCleanupTracee env d.pid) u).2 :=
      Does.bind (does_checkContained _) (fun _ => fun u' hu' =>
        effs_checkCleanupTracee hu' trivial (Or.inl trivial)) u hu
    exact he.log_grows
  have hend : ∀ x : Except Exc Unit × World SC, x.2 = (processEvent env ⟨d.pid, id⟩ d v).2 →
      catchApi (processEvent env ⟨d.pid, id⟩ d) (fun _ => checkContained ⟨d.pid, id⟩) v = x →
      x.2.log <+: (handleKnown env ⟨d.pid, id⟩ d v).2.log := by
    rintro ⟨r, u⟩ hu hx
    unfold handleKnown
    rw [run_bind, hx]
    cases r with
    | ok x =>
      have hu' : u = (processEvent env ⟨d.pid, id⟩ d v).2 := hu
      exact hrest u (hu' ▸ hB1)
    | error e => exact List.prefix_refl _
  cases hr : processEvent env ⟨d.pid, id⟩ d v with
  | mk r u =>
    rw [hr] at hend
    cases r with
    | ok x => exact hend (.ok x, u) rfl (by unfold catchApi Exec.handle; rw [hr])
    | error e =>
      cases e with
      | api errno =>
        have hc := hend (checkContained ⟨d.pid, id⟩ u) (hcheck u)
          (by unfold catchApi Exec.handle; rw [hr])
        rwa [hcheck] at hc
      | _ => exact hend (.error _, u) rfl (by unfold catchApi Exec.handle; rw [hr]; rfl)

/-- a trapped event of a marked tracee makes the tracer detach from it -/
theorem run_processEvent_flagged {it : Iter} {d : ChildState} {v : World SC}
    (ht : d.isTrapped = true) (hf : (v.objs it.id).flags.detachAtNextStop = true) :
    processEvent env it d v = doDetach env it.id
      ((v.say (.deliver it.id d)).setObj it.id { v.objs it.id with injectSig := none }) := by
  obtain ⟨trap, he⟩ : ∃ trap, d.event = .trapped trap := by
    unfold ChildState.isTrapped at ht
    split at ht
    · exact ⟨_, by assumption⟩
    · cases ht
  rw [run_processEvent_trapped he, if_pos hf]
  rfl

/-- it detaches from the PID of the object -/
theorem handleKnown_flagged {d : ChildState} {id : TraceeId} {v : World SC} (hB : Base v)
    (hk : v.tracees.find? d.pid = some (some id)) (ht : d.isTrapped = true)
    (hf : (v.objs id).flags.detachAtNextStop = true) :
    ∃ error, v.log ++ [.deliver id d, .request id (.detach (v.objs id).ptrace) error]
      <+: (handleKnown env ⟨d.pid, id⟩ d v).2.log := by
  have hobj : ((v.say (.deliver id d)).setObj id { v.objs id with injectSig := none }).objs id
      = { v.objs id with injectSig := none } := World.setObj_self ..
  have hrun : processEvent env ⟨d.pid, id⟩ d v = doDetach env id
      ((v.say (.deliver id d)).setObj id { v.objs id with injectSig := none }) :=
    run_processEvent_flagged ht hf
  obtain ⟨error, hpre⟩ : ∃ error, _ ++ [Entry.request id (.detach _) error]
      <+: (doDetach env id
        ((v.say (.deliver id d)).setObj id { v.objs id with injectSig := none })).2.log :=
    doDetach_log id _
  rw [← hrun, hobj] at hpre
  refine ⟨error, List.IsPrefix.trans ?_ (processEvent_log hB hk)⟩
  simpa using hpre

theorem Delivery.base {data d : ChildState} {w v : World SC} {id : TraceeId} (hS : Settled w)
    (h : Delivery env data w id d v) : Base v ∧ v.tracees.find? d.pid = some (some id) := by
  cases h with
  | direct hr =>
    obtain ⟨hB, -, hk⟩ := hr.base hS
    exact ⟨hB, hk⟩
  | stored hr hk hn hd hf =>
    obtain ⟨hB, -, hfind⟩ := hr.base hS
    have hl : EventLabels env (fun _ => True) _ data _ :=
      eventLabels_all (show World.contains _ ⟨data.pid, _⟩ from hfind) data
    have hB1 := (course_handleKnown hB rfl (hB.fresh hfind) hl trivial).base hB
    rw [hk] at hB1
    exact ⟨hB1.calm, hf⟩

/-- in every run, a marked tracee is detached from at its next trapped event, under the PID that
reported it, exactly if the object has this PID -/
theorem detachesFirst_iff {data d : ChildState} {w v : World SC} {id : TraceeId}
    (hw : Reachable env w) (hd : Delivery env data w id d v) (ht : d.isTrapped = true)
    (hf : (v.objs id).flags.detachAtNextStop = true) :
    DetachesFirst id d v (traceEvent env data w).2 ↔ (v.objs id).ptrace = d.pid := by
  obtain ⟨hB, hk⟩ := hd.base hw.settled
  obtain ⟨error, hpre⟩ := handleKnown_flagged hB hk ht hf
  have hlog := hpre.trans (hd.log hw.settled)
  constructor
  · rintro ⟨error', hpre'⟩
    have hsame := (List.prefix_of_prefix_length_le hlog hpre' (by simp)).eq_of_length (by simp)
    simp only [List.append_cancel_left_eq, List.cons.injEq, Entry.request.injEq,
      Request.detach.injEq, true_and] at hsame
    exact hsame.1.1
  · intro hp
    exact ⟨error, hp ▸ hlog⟩

/-- thread 101 of process 100 is traced, but not the leader; the client detaches from it -/
def lateExecEnv : Env := { pidEventMsg := fun _ _ => 101 }

def lateExecRun : List Op :=
  [.addForeign 101 false false ProcessID.invalid false,
    .event ⟨101, .trapped (.event Signal.trap .stop)⟩, .call (.detach 101)]

def lateExecWorld : World Empty := runOps lateExecEnv lateExecRun {}

/-- `execve()` of the thread, reported under the PID of the leader -/
def lateExec : ChildState := ⟨100, .trapped (.event Signal.trap .exec)⟩

theorem lateExec_reachable : Reachable lateExecEnv lateExecWorld :=
  (Reaches.start false).run lateExecRun (by decide +kernel)

/-- it is the request to detach from a PID -/
def Entry.detaches (pid : ProcessID) : Entry → Bool
  | .request _ (.detach p) _ => p == pid
  | _ => false

/-- the tracer detaches from the PID that thread 101 had before -/
theorem detachesFirst_fails : ¬ ∀ (env : Env) (w v : World Empty) (data d : ChildState)
    (id : TraceeId), Reachable env w → Delivery env data w id d v → d.isTrapped = true →
    (v.objs id).flags.detachAtNextStop = true →
    DetachesFirst id d v (traceEvent env data w).2 := by
  intro h
  have hd : Delivery lateExecEnv lateExec lateExecWorld 0 lateExec _ :=
    .direct (.taken rfl (by decide +kernel) rfl (by decide +kernel))
  obtain ⟨error, hpre⟩ := h _ _ _ _ _ 0 lateExec_reachable hd rfl (by decide +kernel)
  have hmem : Entry.request 0 (.detach 100) error
      ∈ (traceEvent lateExecEnv lateExec lateExecWorld).2.log := hpre.subset (by simp [lateExec])
  have hnone : (traceEvent lateExecEnv lateExec lateExecWorld).2.log.any (Entry.detaches 100)
      = false := by decide +kernel
  exact Bool.false_ne_true (hnone.symm.trans (List.any_eq_true.mpr ⟨_, hmem, rfl⟩))

/-- a stop of thread 101 itself is detached from -/
theorem detachesFirst_stop :
    DetachesFirst 0 ⟨101, .trapped (.event Signal.trap .stop)⟩
        (lateExecWorld.say (.wait ⟨101, .trapped (.event Signal.trap .stop)⟩))
        (traceEvent lateExecEnv ⟨101, .trapped (.event Signal.trap .stop)⟩ lateExecWorld).2
      ↔ ((lateExecWorld.say (.wait ⟨101, .trapped (.event Signal.trap .stop)⟩)).objs 0).ptrace
        = 101 :=
  detachesFirst_iff lateExec_reachable (.direct (.known (by decide +kernel))) rfl
    (by decide +kernel)

end Clues
