import Clues.Engine.Handling

/-!
# What one round of the engine's loop does

* `StoredStops`   stored events are `PTRACE_EVENT_STOP`s, stored under their PID;
* `Replays`       how a stored event is handled after the event that announced its tracee;
* `Handled`       the ways in which `Engine::trace()` can finish with one event;
* `Settled`       what holds between two events of a run.

Stored events announce no children, so handling one never starts another: the bounds on the
nesting and on the retries in the model do not matter.
-/

set_option linter.unusedSectionVars false

namespace Clues

open Lib Lib.Exec Step

variable {SC : Type} [SyscallOps SC] {env : Env}

/-- the event is a `PTRACE_EVENT_STOP` -/
def ChildState.isEventStop (d : ChildState) : Bool :=
  match d.event with
  | .trapped (.event _ .stop) => true
  | _ => false

def StoredStops (w : World SC) : Prop :=
  ∀ pid data, w.unknownEvents.find? pid = some data → data.pid = pid ∧ data.isEventStop = true

theorem ChildState.isEventStop_iff {d : ChildState} (h : d.isEventStop = true) :
    ∃ s, d.event = .trapped (.event s .stop) := by
  unfold ChildState.isEventStop at h
  split at h
  · exact ⟨_, by assumption⟩
  · cases h

/-- the labels of a stop; the initial stop adds threads -/
def stopLabels : Labels
  | .announce | .report | .exec _ | .flag | .call | .die | .orphan => False
  | _ => True

theorem eventLabels_stop {data : ChildState} (h : data.isEventStop = true) (it : Iter)
    (w : World SC) : EventLabels env stopLabels it data w := by
  obtain ⟨s, he⟩ := ChildState.isEventStop_iff h
  refine ⟨⟨trivial, Or.inl trivial⟩, trivial, trivial, trivial, fun hend => ?_, ?_,
    fun s' _ => ⟨⟨trivial, rfl⟩, ⟨trivial, rfl⟩, ⟨trivial, rfl⟩⟩, ?_, ?_, fun s' e he' hn => ?_⟩
  · unfold ChildState.isEnd at hend
    rw [he] at hend
    cases hend
  · rw [he]; exact fun h => nomatch h
  · rw [he]; exact fun _ h => nomatch h
  · rw [he]; exact fun _ h => nomatch h
  · rw [he] at he'
    cases he'
    cases hn

theorem eventLabels_all {it : Iter} {w : World SC} (hk : w.contains it) (data : ChildState) :
    EventLabels env (fun _ => True) it data w := by
  refine ⟨⟨trivial, Or.inl trivial⟩, trivial, trivial, trivial,
    fun _ => ⟨trivial, trivial, Or.inl trivial⟩, fun _ => ⟨trivial, trivial⟩,
    fun _ _ => ⟨⟨trivial, rfl⟩, ⟨trivial, rfl⟩, ⟨trivial, rfl⟩⟩, fun _ _ => trivial,
    fun _ _ => ⟨trivial, trivial, hk⟩, fun _ _ _ _ => ⟨trivial, trivial, trivial, Or.inl trivial⟩⟩

/-- handling a stop of a known tracee leaves `m_newly_attached_pid` alone -/
theorem handleKnown_newly {data : ChildState} (h : data.isEventStop = true) {w : World SC}
    (hB : Base w) {id : TraceeId} (hk : w.tracees.find? data.pid = some (some id)) :
    (handleKnown env ⟨data.pid, id⟩ data w).2.newlyAttachedPid = w.newlyAttachedPid := by
  have hl : EventLabels env stopLabels ⟨data.pid, id⟩ data w := eventLabels_stop h _ w
  have he : Course env id stopLabels w (handleKnown env ⟨data.pid, id⟩ data w).2 :=
    course_handleKnown hB rfl (hB.fresh hk) hl trivial
  exact he.effs.newlyAttachedPid fun h => h

/-! ## stored events -/

theorem run_entryTracee {key : ProcessID} {id : TraceeId} {w : World SC}
    (h : w.tracees.find? key = some (some id)) : entryTracee key w = (.ok id, w) := by
  unfold entryTracee
  rw [run_read_bind, h]
  rfl

theorem run_entryTracee_null {key : ProcessID} {w : World SC}
    (h : w.tracees.find? key = some none) : entryTracee key w = (.error (.undefined .null), w) := by
  unfold entryTracee
  rw [run_read_bind, h]
  rfl

theorem run_handleEventN {fuel : Nat} {data : ChildState} {id : TraceeId} {w : World SC}
    (h : w.tracees.find? data.pid = some (some id)) :
    handleEventN env fuel data w = (do
      handleKnown env ⟨data.pid, id⟩ data
      checkUnknownEventsN env fuel
      pure Decision.done) w := by
  rw [handleEventN, handleEventWith, run_read_bind, h]
  show (entryTracee data.pid >>= fun id => _) w = _
  rw [run_bind_ok (run_entryTracee h)]

theorem run_handleEventN_none {fuel : Nat} {data : ChildState} {w : World SC}
    (h : w.tracees.find? data.pid = none) :
    handleEventN env fuel data w = checkUnknownTraceeEvent env data w := by
  rw [handleEventN, handleEventWith, run_read_bind, h]

theorem run_checkUnknownEventsN_idle {fuel : Nat} {w : World SC}
    (h : w.newlyAttachedPid = ProcessID.invalid) :
    checkUnknownEventsN env fuel w = (.ok (), w) := by
  cases fuel <;> rw [checkUnknownEventsN, checkUnknownEventsWith, run_read_bind, if_pos h] <;> rfl

/-- no event is asked for any more -/
def World.calm (w : World SC) : World SC := { w with newlyAttachedPid := ProcessID.invalid }

def World.forget (w : World SC) (pid : ProcessID) : World SC :=
  { w with unknownEvents := w.unknownEvents.erase pid }

/-- the nesting of stored events is one level deep -/
theorem handleEventN_stop {fuel : Nat} {data : ChildState} (hs : data.isEventStop = true)
    {w : World SC} (hB : Base w) (hn : w.newlyAttachedPid = ProcessID.invalid) :
    handleEventN env fuel data w = handleEventN env 0 data w := by
  cases hk : w.tracees.find? data.pid with
  | none => rw [run_handleEventN_none hk, run_handleEventN_none hk]
  | some e =>
    cases e with
    | none =>
      have he := run_entryTracee_null hk
      rw [handleEventN, handleEventWith, run_read_bind, hk, handleEventN, handleEventWith,
        run_read_bind, hk]
      show (entryTracee data.pid >>= fun id => _) w = (entryTracee data.pid >>= fun id => _) w
      rw [run_bind_error he, run_bind_error he]
    | some id =>
      rw [run_handleEventN hk, run_handleEventN hk, run_bind, run_bind]
      have hnew : (handleKnown env ⟨data.pid, id⟩ data w).2.newlyAttachedPid
          = w.newlyAttachedPid := handleKnown_newly hs hB hk
      cases hr : handleKnown env ⟨data.pid, id⟩ data w with
      | mk r w1 =>
        rw [hr] at hnew
        have hn1 : w1.newlyAttachedPid = ProcessID.invalid := Eq.trans hnew hn
        cases r with
        | error e => rfl
        | ok u =>
          show (checkUnknownEventsN env fuel >>= fun _ => pure Decision.done) w1
            = (checkUnknownEventsN env 0 >>= fun _ => pure Decision.done) w1
          rw [run_bind_ok (run_checkUnknownEventsN_idle hn1),
            run_bind_ok (run_checkUnknownEventsN_idle hn1)]

theorem run_checkUnknownEventsN {fuel : Nat} {w : World SC}
    (hn : w.newlyAttachedPid ≠ ProcessID.invalid) :
    checkUnknownEventsN env (fuel + 1) w =
      match w.unknownEvents.find? w.newlyAttachedPid with
      | none => (.ok (), w.calm)
      | some data => (do
          let _ ← handleEventN env fuel data
          update fun v => v.forget w.newlyAttachedPid) w.calm := by
  rw [checkUnknownEventsN, checkUnknownEventsWith, run_read_bind, if_neg hn, run_update_bind]
  cases w.unknownEvents.find? w.newlyAttachedPid with
  | none => rfl
  | some data =>
    show ((handleEventN env fuel data >>= fun _ => pure ()) >>= fun _ =>
      update fun v => v.forget w.newlyAttachedPid : Step SC Unit) w.calm = _
    rw [run_bind, run_bind]
    show _ = (handleEventN env fuel data >>= fun _ => _) w.calm
    rw [run_bind]
    cases handleEventN env fuel data w.calm with
    | mk r v => cases r <;> rfl

theorem Base.calm {w : World SC} (hB : Base w) : Base w.calm :=
  hB.silent rfl le_rfl rfl

/-- more fuel changes nothing about stored events -/
theorem checkUnknownEventsN_fuel {fuel : Nat} {w : World SC} (hB : Base w) (hS : StoredStops w) :
    checkUnknownEventsN env (fuel + 1) w = checkUnknownEventsN env 1 w := by
  by_cases hn : w.newlyAttachedPid = ProcessID.invalid
  · rw [run_checkUnknownEventsN_idle hn, run_checkUnknownEventsN_idle hn]
  · rw [run_checkUnknownEventsN hn, run_checkUnknownEventsN hn]
    cases hd : w.unknownEvents.find? w.newlyAttachedPid with
    | none => rfl
    | some data =>
      have hs := (hS _ data hd).2
      show (handleEventN env fuel data >>= fun _ => _) w.calm
        = (handleEventN env 0 data >>= fun _ => _) w.calm
      rw [run_bind, run_bind, handleEventN_stop hs hB.calm rfl]

/-- how a stored event is handled after the event that announced its tracee -/
inductive Replays (env : Env) : World SC → World SC → Prop
  | idle {w : World SC} : w.newlyAttachedPid = ProcessID.invalid → Replays env w w
  | nothing {w : World SC} : w.newlyAttachedPid ≠ ProcessID.invalid →
      w.unknownEvents.find? w.newlyAttachedPid = none → Replays env w w.calm
  | known {w w' : World SC} {data : ChildState} {id : TraceeId} :
      w.newlyAttachedPid ≠ ProcessID.invalid →
      w.unknownEvents.find? w.newlyAttachedPid = some data →
      w.tracees.find? data.pid = some (some id) →
      handleKnown env ⟨data.pid, id⟩ data w.calm = (.ok (), w') →
      Replays env w (w'.forget w.newlyAttachedPid)
  | unknown {w : World SC} {data : ChildState} : w.newlyAttachedPid ≠ ProcessID.invalid →
      w.unknownEvents.find? w.newlyAttachedPid = some data →
      w.tracees.find? data.pid = none → Replays env w (w.calm.forget w.newlyAttachedPid)

theorem checkUnknownTraceeEvent_stop {data : ChildState} (hs : data.isEventStop = true)
    (w : World SC) : checkUnknownTraceeEvent env data w = (.ok .store, w) := by
  obtain ⟨s, he⟩ := ChildState.isEventStop_iff hs
  unfold checkUnknownTraceeEvent
  rw [he]
  rfl

theorem replays_of_ok {w w' : World SC} (hB : Base w) (hS : StoredStops w)
    (h : checkUnknownEventsN env 1 w = (.ok (), w')) : Replays env w w' := by
  by_cases hn : w.newlyAttachedPid = ProcessID.invalid
  · rw [run_checkUnknownEventsN_idle hn] at h
    obtain ⟨-, rfl⟩ := Prod.mk.inj h
    exact Replays.idle hn
  · rw [run_checkUnknownEventsN hn] at h
    cases hd : w.unknownEvents.find? w.newlyAttachedPid with
    | none =>
      rw [hd] at h
      obtain ⟨-, rfl⟩ := Prod.mk.inj h
      exact Replays.nothing hn hd
    | some data =>
      have hs := (hS _ data hd).2
      rw [hd] at h
      change (handleEventN env 0 data >>= fun _ => _) w.calm = _ at h
      cases hk : w.tracees.find? data.pid with
      | none =>
        have hk' : w.calm.tracees.find? data.pid = none := hk
        rw [run_bind, run_handleEventN_none hk', checkUnknownTraceeEvent_stop hs] at h
        obtain ⟨-, rfl⟩ := Prod.mk.inj h
        exact Replays.unknown hn hd hk
      | some e =>
        cases e with
        | none =>
          have hk' : w.calm.tracees.find? data.pid = some none := hk
          have he : handleEventN env 0 data w.calm = (.error (.undefined .null), w.calm) := by
            rw [handleEventN, handleEventWith, run_read_bind, hk']
            show (entryTracee data.pid >>= fun id => _) w.calm = _
            rw [run_bind_error (run_entryTracee_null hk')]
          rw [run_bind_error he] at h
          cases h
        | some id =>
          have hk' : w.calm.tracees.find? data.pid = some (some id) := hk
          have hnew : (handleKnown env ⟨data.pid, id⟩ data w.calm).2.newlyAttachedPid
              = w.calm.newlyAttachedPid := handleKnown_newly hs hB.calm hk'
          cases hr : handleKnown env ⟨data.pid, id⟩ data w.calm with
          | mk r w1 =>
            rw [hr] at hnew
            cases r with
            | error e =>
              have hev : handleEventN env 0 data w.calm = (.error e, w1) := by
                rw [run_handleEventN hk', run_bind_error hr]
              rw [run_bind_error hev] at h
              cases h
            | ok u =>
              have hn1 : w1.newlyAttachedPid = ProcessID.invalid := hnew
              have hev : handleEventN env 0 data w.calm = (.ok Decision.done, w1) := by
                rw [run_handleEventN hk', run_bind_ok hr,
                  run_bind_ok (run_checkUnknownEventsN_idle hn1)]
                rfl
              rw [run_bind_ok hev] at h
              obtain ⟨-, rfl⟩ := Prod.mk.inj h
              exact Replays.known hn hd hk hr

/-- the world in which the event of an unknown group leader is handled: the entry of the thread
that called `execve()` got the PID of the leader -/
def World.rekeyed (w : World SC) (former main : ProcessID) (e : Option TraceeId) : World SC :=
  ({ w.say (.inquiry (.getPIDEventMsg main) none) with
    tracees := (w.tracees.erase former).insert main e } : World SC).say (.rekeyed former main)

def ChildState.isExec (d : ChildState) : Bool :=
  match d.event with
  | .trapped (.event _ .exec) => true
  | _ => false

theorem ChildState.isExec_iff (d : ChildState) :
    d.isExec = true ↔ ∃ s, d.event = .trapped (.event s .exec) := by
  constructor
  · intro h
    unfold ChildState.isExec at h
    split at h
    · exact ⟨_, by assumption⟩
    · cases h
  · rintro ⟨s, he⟩
    unfold ChildState.isExec
    rw [he]

/-- the ways in which `Engine::trace()` can finish with an event, from the state after `wait()` -/
inductive Handled (env : Env) (data : ChildState) : World SC → World SC → Prop
  | known {w w1 w' : World SC} {id : TraceeId} : w.tracees.find? data.pid = some (some id) →
      handleKnown env ⟨data.pid, id⟩ data w = (.ok (), w1) → Replays env w1 w' →
      Handled env data w w'
  | taken {w w1 w' : World SC} {former : ProcessID} {id : TraceeId} : data.isExec = true →
      w.tracees.find? data.pid = none → env.request w.log (.getPIDEventMsg data.pid) = none →
      env.pidEventMsg w.log data.pid = former → w.tracees.find? former = some (some id) →
      handleKnown env ⟨data.pid, id⟩ data (w.rekeyed former data.pid (some id)) = (.ok (), w1) →
      Replays env w1 w' → Handled env data w w'
  | stored {w : World SC} : data.isEventStop = true → w.tracees.find? data.pid = none →
      Handled env data w { w with unknownEvents := w.unknownEvents.insert data.pid data }
  | dropped {w w' : World SC} : data.isEventStop = false → w.tracees.find? data.pid = none →
      w' = w ∨ data.isExec = true ∧ w' = w.say (.inquiry (.getPIDEventMsg data.pid) none) →
      Handled env data w w'

theorem handleEvent_known {data : ChildState} {id : TraceeId} {w w' : World SC} {d : Decision}
    (hB : Base w) (hS : StoredStops w) (hk : w.tracees.find? data.pid = some (some id))
    (h : handleEvent env data w = (.ok d, w')) :
    d = .done ∧ ∃ w1, handleKnown env ⟨data.pid, id⟩ data w = (.ok (), w1) ∧ Replays env w1 w' := by
  unfold handleEvent at h
  rw [run_handleEventN hk, run_bind] at h
  have hl : EventLabels env (fun _ => True) ⟨data.pid, id⟩ data w :=
    eventLabels_all (show w.contains ⟨data.pid, id⟩ from hk) data
  have he : Effs env id (fun _ => True) w (handleKnown env ⟨data.pid, id⟩ data w).2 :=
    (course_handleKnown hB rfl (hB.fresh hk) hl trivial).effs
  cases hr : handleKnown env ⟨data.pid, id⟩ data w with
  | mk r w1 =>
    rw [hr] at h he
    cases r with
    | error e => cases h
    | ok u =>
      have hS1 : StoredStops w1 := by
        intro pid d hd
        rw [he.unknownEvents] at hd
        exact hS pid d hd
      change (checkUnknownEventsN env 1 >>= fun _ => pure Decision.done) w1 = _ at h
      rw [run_bind] at h
      cases hc : checkUnknownEventsN env 1 w1 with
      | mk r2 w2 =>
        rw [hc] at h
        cases r2 with
        | error e => cases h
        | ok u =>
          obtain ⟨hd, rfl⟩ := Prod.mk.inj h
          exact ⟨(Except.ok.inj hd).symm, w1, rfl, replays_of_ok (he.base hB) hS1 hc⟩

theorem rekeyed_find {w : World SC} {former main : ProcessID} {e : Option TraceeId}
    (hm : w.tracees.find? main = none) (hf : w.tracees.find? former = some e) (k : ProcessID) :
    (w.rekeyed former main e).tracees.find? k
      = if k = main then some e else if k = former then none else w.tracees.find? k := by
  have hne : main ≠ former := fun h => by
    rw [h, hf] at hm
    cases hm
  show ((w.tracees.erase former).insert main e).find? k = _
  rw [OrdMap.find?_insert, OrdMap.find?_erase_of_ne _ hne, hm, OrdMap.find?_erase]
  rfl

theorem Base.rekeyed {w : World SC} (hB : Base w) {former main : ProcessID} {id : TraceeId}
    (hm : w.tracees.find? main = none) (hf : w.tracees.find? former = some (some id)) :
    Base (w.rekeyed former main (some id)) := by
  have hfind : ∀ {k i}, (w.rekeyed former main (some id)).tracees.find? k = some (some i) →
      k = main ∧ i = id ∨ k ≠ main ∧ k ≠ former ∧ w.tracees.find? k = some (some i) := by
    intro k i h
    rw [rekeyed_find hm hf] at h
    split_ifs at h with h1 h2
    · exact Or.inl ⟨h1, (Option.some.inj (Option.some.inj h)).symm⟩
    · exact Or.inr ⟨h1, h2, h⟩
  have hlog : (w.rekeyed former main (some id)).log
      = w.log ++ [.inquiry (.getPIDEventMsg main) none, .rekeyed former main] := by
    show (w.log ++ [_]) ++ [_] = _
    rw [List.append_assoc]
    rfl
  refine ⟨fun {k i} h => ?_, fun {k k' i} h h' => ?_, fun {k i} h => ?_, fun {i} h => ?_⟩
  · obtain ⟨-, rfl⟩ | ⟨-, -, h⟩ := hfind h
    · exact hB.fresh hf
    · exact hB.fresh h
  · obtain ⟨rfl, rfl⟩ | ⟨h1, h2, hk⟩ := hfind h
    · obtain ⟨rfl, -⟩ | ⟨-, h2', hk'⟩ := hfind h'
      · rfl
      · exact absurd (hB.inj hk' hf) h2'
    · obtain ⟨rfl, rfl⟩ | ⟨-, -, hk'⟩ := hfind h'
      · exact absurd (hB.inj hk hf) h2
      · exact hB.inj hk hk'
  · rw [hlog, Log.registered_append]
    show (Log.registered w.log k && former != k || main == k) = true
    obtain ⟨rfl, -⟩ | ⟨-, h2, hk⟩ := hfind h
    · simp
    · rw [hB.registered hk, Bool.true_and, bne_iff_ne.mpr (Ne.symm h2), Bool.true_or]
  · rw [hlog] at h
    refine hB.unseen ((List.mem_append.mp h).resolve_right fun h => ?_)
    simp at h

theorem handleEvent_null {data : ChildState} {w : World SC}
    (hk : w.tracees.find? data.pid = some none) :
    handleEvent env data w = (.error (.undefined .null), w) := by
  unfold handleEvent
  rw [handleEventN, handleEventWith, run_read_bind, hk]
  show (entryTracee data.pid >>= fun id => _) w = _
  rw [run_bind_error (run_entryTracee_null hk)]

/-! one event, from the decision of `handleEvent()` -/

theorem traceEventN_error {fuel : Nat} {data : ChildState} {w w2 : World SC} {e : Exc}
    (h : handleEvent env data w = (.error e, w2)) :
    traceEventN env fuel data w = (.error e, w2) := by
  cases fuel <;> rw [traceEventN, run_bind_error h]

theorem traceEventN_done {fuel : Nat} {data : ChildState} {w w2 : World SC}
    (h : handleEvent env data w = (.ok .done, w2)) :
    traceEventN env fuel data w = (.ok (), w2) := by
  cases fuel <;> rw [traceEventN, run_bind_ok h] <;> rfl

theorem traceEventN_drop {fuel : Nat} {data : ChildState} {w w2 : World SC}
    (h : handleEvent env data w = (.ok .drop, w2)) :
    traceEventN env fuel data w = (.ok (), w2) := by
  cases fuel <;> rw [traceEventN, run_bind_ok h] <;> rfl

theorem traceEventN_retry {fuel : Nat} {data : ChildState} {w w2 : World SC}
    (h : handleEvent env data w = (.ok .retry, w2)) :
    traceEventN env (fuel + 1) data w = traceEventN env fuel data w2 := by
  rw [traceEventN, run_bind_ok h]

/-- an event for a PID in `m_tracees` -/
theorem traceEventN_known {fuel : Nat} {data : ChildState} {e : Option TraceeId} {w w' : World SC}
    (hB : Base w) (hS : StoredStops w) (hk : w.tracees.find? data.pid = some e)
    (h : traceEventN env fuel data w = (.ok (), w')) :
    ∃ id w1, e = some id ∧ handleKnown env ⟨data.pid, id⟩ data w = (.ok (), w1) ∧
      Replays env w1 w' := by
  cases e with
  | none =>
    rw [traceEventN_error (handleEvent_null hk)] at h
    cases h
  | some id =>
    cases hr : handleEvent env data w with
    | mk r w2 =>
      cases r with
      | error e =>
        rw [traceEventN_error hr] at h
        cases h
      | ok d =>
        obtain ⟨rfl, w1, hw1, hrep⟩ := handleEvent_known hB hS hk hr
        rw [traceEventN_done hr] at h
        obtain ⟨-, rfl⟩ := Prod.mk.inj h
        exact ⟨id, w1, rfl, hw1, hrep⟩

theorem checkUnknownTraceeEvent_other {data : ChildState} (hs : data.isEventStop = false)
    (hx : data.isExec = false) (w : World SC) :
    checkUnknownTraceeEvent env data w = (.ok .drop, w) := by
  unfold ChildState.isEventStop at hs
  unfold ChildState.isExec at hx
  unfold checkUnknownTraceeEvent
  cases he : data.event with
  | trapped trap =>
    rw [he] at hs hx
    cases trap with
    | event s e =>
      cases e with
      | exec => cases hx
      | stop => cases hs
      | _ => rfl
    | _ => rfl
  | _ => rfl

/-- the event of a leader that is not in `m_tracees` -/
theorem checkUnknownTraceeEvent_exec {data : ChildState} (hx : data.isExec = true)
    {w w' : World SC} {d : Decision} (h : checkUnknownTraceeEvent env data w = (.ok d, w')) :
    env.request w.log (.getPIDEventMsg data.pid) = none ∧
      (d = .drop ∧ w' = w.say (.inquiry (.getPIDEventMsg data.pid) none) ∨
        ∃ e, w.tracees.find? (env.pidEventMsg w.log data.pid) = some e ∧ d = .retry ∧
          w' = w.rekeyed (env.pidEventMsg w.log data.pid) data.pid e) := by
  have h' : (inquire env (.getPIDEventMsg data.pid) (fun log => env.pidEventMsg log data.pid) >>=
      fun formerPid => do
        if ← tryUpdateTraceePID formerPid data.pid then pure Decision.retry
        else pure Decision.drop : Step SC Decision) w = (.ok d, w') := by
    obtain ⟨s, he⟩ := data.isExec_iff.mp hx
    unfold checkUnknownTraceeEvent at h
    rw [he] at h
    exact h
  rw [run_bind] at h'
  cases hq : inquire env (.getPIDEventMsg data.pid) (fun log => env.pidEventMsg log data.pid) w with
  | mk r w1 =>
    rw [hq] at h'
    cases r with
    | error e => cases h'
    | ok formerPid =>
      obtain ⟨hr, rfl, rfl⟩ := inquire_ok hq
      refine ⟨hr, ?_⟩
      have h'' : (tryUpdateTraceePID (env.pidEventMsg w.log data.pid) data.pid >>= fun b =>
          if b = true then pure Decision.retry else pure Decision.drop : Step SC Decision)
          (w.say (.inquiry (.getPIDEventMsg data.pid) none)) = (.ok d, w') := h'
      clear h'
      rename' h'' => h'
      unfold tryUpdateTraceePID at h'
      rw [run_bind, run_read_bind] at h'
      cases hf : w.tracees.find? (env.pidEventMsg w.log data.pid) with
      | none =>
        have hf' : (w.say (.inquiry (.getPIDEventMsg data.pid) none)).tracees.find?
            (env.pidEventMsg w.log data.pid) = none := hf
        rw [hf'] at h'
        obtain ⟨hd, rfl⟩ := Prod.mk.inj h'
        exact Or.inl ⟨(Except.ok.inj hd).symm, rfl⟩
      | some e =>
        have hf' : (w.say (.inquiry (.getPIDEventMsg data.pid) none)).tracees.find?
            (env.pidEventMsg w.log data.pid) = some e := hf
        rw [hf'] at h'
        obtain ⟨hd, rfl⟩ := Prod.mk.inj h'
        exact Or.inr ⟨e, rfl, (Except.ok.inj hd).symm, rfl⟩

theorem StoredStops.of_same {w w' : World SC} (hS : StoredStops w)
    (h : w'.unknownEvents = w.unknownEvents) : StoredStops w' := by
  intro pid d hd
  rw [h] at hd
  exact hS pid d hd

theorem StoredStops.erase {w : World SC} (hS : StoredStops w) (pid : ProcessID) :
    StoredStops (w.forget pid) := by
  intro k d hd
  have hd' : (w.unknownEvents.erase pid).find? k = some d := hd
  rw [OrdMap.find?_erase] at hd'
  split_ifs at hd'
  exact hS k d hd'

theorem StoredStops.insert {w : World SC} (hS : StoredStops w) {data : ChildState}
    (hs : data.isEventStop = true) :
    StoredStops { w with unknownEvents := w.unknownEvents.insert data.pid data } := by
  intro k d hd
  have hd' : (w.unknownEvents.insert data.pid data).find? k = some d := hd
  rw [OrdMap.find?_insert] at hd'
  split_ifs at hd' with hpid
  · cases ho : w.unknownEvents.find? data.pid with
    | none =>
      rw [ho] at hd'
      obtain rfl := Option.some.inj hd'
      exact ⟨hpid.symm, hs⟩
    | some d' =>
      rw [ho] at hd'
      obtain rfl := Option.some.inj hd'
      exact hpid ▸ hS _ _ ho
  · exact hS k d hd'

theorem handled_of_ok {data : ChildState} {w w' : World SC} (hB : Base w) (hS : StoredStops w)
    (h : traceEventN env 1 data w = (.ok (), w')) : Handled env data w w' := by
  cases hk : w.tracees.find? data.pid with
  | some e =>
    obtain ⟨id, w1, rfl, hw1, hrep⟩ := traceEventN_known hB hS hk h
    exact Handled.known hk hw1 hrep
  | none =>
    have hev : handleEvent env data w = checkUnknownTraceeEvent env data w :=
      run_handleEventN_none hk
    by_cases hs : data.isEventStop = true
    · rw [traceEventN, run_bind, hev, checkUnknownTraceeEvent_stop hs] at h
      obtain ⟨-, rfl⟩ := Prod.mk.inj h
      exact Handled.stored hs hk
    · rw [Bool.not_eq_true] at hs
      by_cases hx : data.isExec = true
      · cases hc : checkUnknownTraceeEvent env data w with
        | mk r w1 =>
          rw [hc] at hev
          cases r with
          | error e =>
            rw [traceEventN_error hev] at h
            cases h
          | ok d =>
            obtain ⟨hr, ⟨rfl, rfl⟩ | ⟨e, hf, rfl, rfl⟩⟩ := checkUnknownTraceeEvent_exec hx hc
            · rw [traceEventN_drop hev] at h
              obtain ⟨-, rfl⟩ := Prod.mk.inj h
              exact Handled.dropped hs hk (Or.inr ⟨hx, rfl⟩)
            · have hk' : (w.rekeyed (env.pidEventMsg w.log data.pid) data.pid e).tracees.find?
                  data.pid = some e := by rw [rekeyed_find hk hf, if_pos rfl]
              rw [traceEventN_retry hev] at h
              cases e with
              | none =>
                rw [traceEventN_error (handleEvent_null hk')] at h
                cases h
              | some id =>
                obtain ⟨i, w2, hi, hw2, hrep⟩ := traceEventN_known (hB.rekeyed hk hf)
                  (hS.of_same rfl) hk' h
                obtain rfl : id = i := Option.some.inj hi
                exact Handled.taken hx hk hr rfl hf hw2 hrep
      · rw [Bool.not_eq_true] at hx
        rw [checkUnknownTraceeEvent_other hs hx] at hev
        rw [traceEventN_drop hev] at h
        obtain ⟨-, rfl⟩ := Prod.mk.inj h
        exact Handled.dropped hs hk (Or.inl rfl)

/-! ## every run -/

/-- what holds between two events -/
structure Settled (w : World SC) : Prop extends Base w where
  stops : StoredStops w
  idle : w.newlyAttachedPid = ProcessID.invalid

theorem Settled.of_effs {a : TraceeId} {L : Labels} {w w' : World SC} (hS : Settled w)
    (h : Effs env a L w w') (hL : ¬ L .announce) : Settled w' :=
  ⟨h.base hS.toBase, hS.stops.of_same h.unknownEvents, (h.newlyAttachedPid hL).trans hS.idle⟩

/-- the labels of what the client does outside of a callback -/
def clientLabels : Labels
  | .announce => False
  | _ => True

theorem addLabels_client : AddLabels clientLabels := ⟨trivial, trivial, trivial⟩

/-- a function that the client calls; it works for no tracee in particular -/
theorem does_call {L : Labels} (hA : AddLabels L) (hD : L .drop) {op : Op}
    (h : op.isCall = true) (a : TraceeId) : Does env a L (op.exec env : Step SC Unit) := by
  cases op with
  | addForeign pid followChildren attachThreads sibling hold =>
    exact Does.bind (does_addForeign hA _ _ _ _ _) fun _ => Does.pure _
  | addChild cmdline followChildren hold =>
    exact Does.bind (does_addChild hA _ _ _) fun _ => Does.pure _
  | call c => exact does_consumerCall hA.ending (Or.inl hD)
  | event data => cases h
  | noChildren => cases h

/-- when `wait()` finds no children, every tracee is detached from -/
theorem effs_dropTracee {L : Labels} (hE : L .ending) (hD : L .drop) {w : World SC} (hB : Base w)
    {key : ProcessID} {id : TraceeId} (hk : w.tracees.find? key = some (some id)) :
    Effs env id L w (dropTracee env key w).2 := by
  have hp : Walk (Base : World SC → Prop) _ := Effs.walk env id L
  unfold dropTracee
  rw [run_bind_ok (run_entryTracee hk)]
  have hd : Effs env id L w (detach env id w).2 :=
    effs_detach ⟨hB.fresh hk, fun _ => hE, Or.inr (Or.inr (Or.inr rfl))⟩
  refine Along.bind_of hp hB hd fun _ w1 _ hB1 => ?_
  refine Along.bind_of hp hB1 (effs_checkCleanupTracee hB1 hE (Or.inl hD))
    fun _ w2 _ hB2 => ?_
  exact Does.bind (does_entryTracee key) (fun _ => Does.pure _) w2 hB2

theorem settled_noChildren {w : World SC} (hS : Settled w) :
    Settled (handleNoChildren env w).2 := by
  have hkeep : ∀ key, Along (Settled : World SC → Prop) (fun _ w' => Settled w')
      (dropTracee env key : Step SC Unit) := by
    intro key v hv
    cases he : entryTracee key v with
    | mk r v1 =>
      have hv1 : v1 = v := by
        have hst := entryTracee_state key v
        rwa [he] at hst
      cases r with
      | error e =>
        unfold dropTracee
        rw [run_bind_error he, hv1]
        exact hv
      | ok id =>
        have heffs : Effs env id clientLabels v (dropTracee env key v).2 :=
          effs_dropTracee trivial trivial hv.toBase (entryTracee_ok he).1
        exact hv.of_effs heffs fun h => h
  have hall : ∀ (keys : List ProcessID) (v : World SC), Settled v →
      Settled (each keys (dropTracee env) v).2 := by
    intro keys
    induction keys with
    | nil => exact fun v hv => hv
    | cons key keys ih =>
      intro v hv
      show Settled ((dropTracee env key >>= fun _ => each keys (dropTracee env)) v).2
      have hstep := hkeep key v hv
      rw [run_bind]
      cases hr : dropTracee env key v with
      | mk r v1 =>
        rw [hr] at hstep
        cases r with
        | ok u => exact ih v1 hstep
        | error e => exact hstep
  exact hall w.tracees.keys w hS

theorem Settled.replays {w w' : World SC} (hB : Base w) (hS : StoredStops w)
    (h : Replays env w w') : Settled w' := by
  cases h with
  | idle hn => exact ⟨hB, hS, hn⟩
  | nothing hn hd => exact ⟨hB.calm, hS, rfl⟩
  | @known w1 data id hn hd hk hr =>
    have hs := (hS _ _ hd).2
    have hk' : w.calm.tracees.find? data.pid = some (some id) := hk
    have hl : EventLabels env stopLabels ⟨data.pid, id⟩ data w.calm := eventLabels_stop hs _ _
    have he : Course env id stopLabels w.calm (handleKnown env ⟨data.pid, id⟩ data w.calm).2 :=
      course_handleKnown hB.calm rfl (hB.calm.fresh hk') hl trivial
    rw [hr] at he
    have hB1 : Base w1 := he.base hB.calm
    have hS1 : StoredStops w1 := hS.of_same he.effs.unknownEvents
    exact ⟨hB1.silent rfl le_rfl rfl, hS1.erase _, he.effs.newlyAttachedPid fun h => h⟩
  | unknown hn hd hk => exact ⟨hB.calm.silent rfl le_rfl rfl, hS.erase _, rfl⟩

theorem Settled.handled {data : ChildState} {w w' : World SC} (hS : Settled w)
    (h : Handled env data w w') : Settled w' := by
  have hknown : ∀ {v v1 : World SC} {id : TraceeId}, Base v → StoredStops v →
      v.tracees.find? data.pid = some (some id) →
      handleKnown env ⟨data.pid, id⟩ data v = (.ok (), v1) → Replays env v1 w' → Settled w' := by
    intro v v1 id hB hst hk hr hrep
    have hl : EventLabels env (fun _ => True) ⟨data.pid, id⟩ data v :=
      eventLabels_all (show v.contains ⟨data.pid, id⟩ from hk) data
    have he : Effs env id (fun _ => True) v (handleKnown env ⟨data.pid, id⟩ data v).2 :=
      (course_handleKnown hB rfl (hB.fresh hk) hl trivial).effs
    rw [hr] at he
    exact Settled.replays (he.base hB) (hst.of_same he.unknownEvents) hrep
  cases h with
  | known hk hr hrep => exact hknown hS.toBase hS.stops hk hr hrep
  | taken hx hk hq hf hfind hr hrep =>
    refine hknown (hS.toBase.rekeyed hk hfind) (hS.stops.of_same rfl) ?_ hr hrep
    rw [rekeyed_find hk hfind, if_pos rfl]
  | stored hs hk =>
    exact ⟨hS.toBase.silent rfl le_rfl rfl, hS.stops.insert hs, hS.idle⟩
  | dropped _ hk hw =>
    obtain rfl | ⟨-, rfl⟩ := hw
    · exact hS
    · exact ⟨hS.toBase.say rfl fun _ => nofun, hS.stops, hS.idle⟩

/-- an event in a run was handled in one of the known ways -/
theorem handled_of_completes {data : ChildState} {w : World SC} (hS : Settled w)
    (h : (Op.event data).completes ((Op.event data).exec env w).1) :
    Handled env data (w.say (.wait data)) ((Op.event data).after env w) := by
  have hok : (Op.exec env (.event data) w).1 = .ok () := by
    cases hr : ((Op.event data).exec env w).1 with
    | ok u => rfl
    | error e => rw [hr] at h; exact absurd h.1 Bool.noConfusion
  have hB : Base (w.say (.wait data)) := hS.toBase.say rfl fun _ => nofun
  exact handled_of_ok hB hS.stops (Prod.ext hok rfl)

theorem Reaches.settled {Ok : StepCond SC} {w : World SC} (hw : Reaches env Ok w) :
    Settled w := by
  refine hw.invariant (fun b => ?_) fun w op _ hS _ hc => ?_
  · have hnone : ∀ {key : ProcessID} {id : TraceeId}, (OrdMap.empty : OrdMap ProcessID
        (Option TraceeId)).find? key ≠ some (some id) := fun h => nomatch h
    have hB : Base ({ formatFdInfo := b } : World SC) :=
      ⟨fun h => absurd h hnone, fun h => absurd h hnone, fun h => absurd h hnone, nofun⟩
    exact ⟨hB, nofun, rfl⟩
  · by_cases hcall : op.isCall = true
    · have hcalled : Does env 0 clientLabels (op.exec env : Step SC Unit) :=
        does_call addLabels_client trivial hcall 0
      exact hS.of_effs (hcalled w hS.toBase) fun h => h
    · cases op with
      | event data =>
        have hB : Settled (w.say (.wait data)) :=
          ⟨hS.toBase.say rfl fun _ => nofun, hS.stops, hS.idle⟩
        exact hB.handled (handled_of_completes hS hc)
      | noChildren => exact settled_noChildren hS
      | _ => exact absurd rfl hcall

end Clues
