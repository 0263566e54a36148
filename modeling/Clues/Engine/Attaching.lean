import Clues.Engine.Settling

/-!
# A tracee is reported attached once

A tracee is reported attached when the stop it waits for arrives, and only a new object is made to
wait for one.

* `AttachedOnce` the invariant; `attachedOnce_reachable` is what runs keep.
-/

set_option linter.unusedSectionVars false

namespace Clues

open Lib Lib.Exec Lib.History Step

variable {SC : Type} [SyscallOps SC] {env : Env}

/-! ## the invariant -/

/-- a tracee is reported attached only once, and not before it was made to wait for its stop -/
structure AttachedOnce (w : World SC) : Prop where
  pending : ∀ id, (w.objs id).waits = true ∨ w.nextObj ≤ id → .callback (.attached id) ∉ w.log
  once : Always (fun p e => ∀ id, e = .callback (.attached id) → e ∉ p) w.log

theorem not_mem_of_isAttached {log es : Log} {id : TraceeId}
    (hes : ∀ e ∈ es, e.isAttached = false) (h : .callback (.attached id) ∉ log) :
    .callback (.attached id) ∉ log ++ es := by
  intro hm
  rcases List.mem_append.mp hm with hm | hm
  · exact h hm
  · exact Bool.noConfusion (hes _ hm)

theorem AttachedOnce.settles {w w' : World SC} (h : AttachedOnce w)
    (hs : Settles Entry.isAttached False w.nextObj w w') : AttachedOnce w' := by
  obtain ⟨es, he, hes⟩ := hs.log
  constructor
  · intro id hid
    rw [he]
    apply not_mem_of_isAttached hes
    apply h.pending
    by_cases hlt : id < w.nextObj
    · left
      rcases hid with hid | hid
      · exact hs.waits id hlt hid
      · exact absurd hlt (not_lt.mpr (hs.nextObj.trans hid))
    · exact Or.inr (not_lt.mp hlt)
  · rw [he]
    apply h.once.append
    rintro e hm p id rfl
    exact Bool.noConfusion (hes _ hm)

/-- the stop that the tracee waited for has arrived, and this was not reported yet -/
structure Arrived (id : TraceeId) (w : World SC) : Prop where
  inv : AttachedOnce w
  born : id < w.nextObj
  waits : (w.objs id).waits = false
  unreported : .callback (.attached id) ∉ w.log

theorem keeps_attachedOnce {α : Type} {x : Step SC α}
    (hx : ∀ n, Settling Entry.isAttached False n x) :
    Keeps AttachedOnce x := fun w hw => hw.settles (hx w.nextObj w le_rfl)

theorem keeps_arrived {α : Type} {id : TraceeId} {x : Step SC α}
    (hx : ∀ n, Settling Entry.isAttached False n x) :
    Keeps (Arrived id) x := by
  intro w hw
  have hs := hx w.nextObj w le_rfl
  obtain ⟨es, he, hes⟩ := hs.log
  refine ⟨hw.inv.settles hs, hw.born.trans_le hs.nextObj, ?_, ?_⟩
  · rw [Bool.eq_false_iff]
    intro h
    have := hs.waits id hw.born h
    rw [hw.waits] at this
    cases this
  · rw [he]
    exact not_mem_of_isAttached hes hw.unreported

theorem Arrived.reported {id : TraceeId} {w : World SC} (h : Arrived id w) :
    AttachedOnce (w.say (.callback (.attached id))) := by
  constructor
  · intro i hi hm
    rw [World.say_log, List.mem_append, List.mem_singleton] at hm
    rcases hm with hm | hm
    · exact h.inv.pending i hi hm
    · cases hm
      rcases hi with hi | hi
      · have : (w.objs id).waits = true := hi
        rw [h.waits] at this
        cases this
      · exact absurd h.born (not_lt.mpr hi)
  · have hnew : ∀ i, (.callback (.attached id) : Entry) = .callback (.attached i) →
        .callback (.attached id) ∉ w.log := fun _ _ => h.unreported
    exact always_snoc_iff.mpr ⟨h.inv.once, hnew⟩

/-- what is done between the arrival of the stop and its report -/
theorem arrived_triple {α : Type} {id : TraceeId} {x : Step SC α}
    (hx : ∀ n, Settling Entry.isAttached False n x) :
    Triple (Arrived id) x (fun _ => Arrived id) fun _ => AttachedOnce :=
  (keeps_arrived hx).triple fun _ h => h.inv

theorem attachedOnce_triple {α : Type} {x : Step SC α}
    (hx : ∀ n, Settling Entry.isAttached False n x) :
    Triple AttachedOnce x (fun _ => AttachedOnce) fun _ => AttachedOnce :=
  (keeps_attachedOnce hx).triple fun _ h => h

theorem report_triple (it : Iter) :
    Triple (Arrived it.id) (notify env it (.attached it.id) : Step SC Unit)
      (fun _ => AttachedOnce) fun _ => AttachedOnce := by
  unfold notify callback
  apply Triple.bind
  · apply Triple.bind (Q := fun _ => AttachedOnce)
    · exact Triple.update fun w hw => hw.reported
    intro _
    apply attachedOnce_triple
    intro n
    apply Settling.read
    intro w
    exact Settling.bind (Settling.each settling_consumerAct) fun _ => Settling.say rfl
  · exact fun _ => attachedOnce_triple fun n => settling_checkContained it

theorem attachedOnce_handleAttached {it : Iter} {w : World SC} (h : AttachedOnce w)
    (hborn : it.id < w.nextObj) (hwaits : (w.objs it.id).waits = true) :
    AttachedOnce (handleAttached env it w).2 := by
  have hrest : Triple (fun v => v = w) (handleAttached env it : Step SC Unit)
      (fun _ => AttachedOnce) fun _ => AttachedOnce := by
    apply Triple.bind (Q := fun _ => Arrived it.id)
    · apply Triple.update
      rintro v rfl
      refine ⟨?_, hborn, ?_, h.pending it.id (Or.inl hwaits)⟩
      · apply h.settles
        exact Settles.setObj v (fun _ hf => nomatch hf) False.elim
      · rw [World.setObj_self]
        rfl
    intro _
    apply Triple.bind (arrived_triple fun n => Settling.getTracee it.id)
    intro t
    apply Triple.bind (Q := fun _ => Arrived it.id)
    · exact arrived_triple fun n => Settling.when (Settling.modify (fun _ hf => hf) fun _ => rfl)
    intro _
    apply Triple.bind (arrived_triple fun n => settling_getInitialRegisters it.id)
    intro _
    apply Triple.bind (arrived_triple fun n => settling_initFDs it.id)
    intro _
    apply Triple.bind (report_triple it)
    intro _
    apply attachedOnce_triple
    intro n
    apply Settling.bind (Settling.getTracee it.id)
    intro t
    apply Settling.when
    apply Settling.bind (Settling.catchAll (settling_attachThreads it) (Settling.pure ()))
    exact fun _ => Settling.modify (fun _ hf => hf) fun _ => rfl
  exact hrest.final rfl

theorem attachedOnce_handleStopEvent (env : Env) {it : Iter} {w : World SC} (h : AttachedOnce w)
    (hborn : it.id < w.nextObj) (signal : Signal) :
    AttachedOnce (handleStopEvent env it signal w).2 := by
  show AttachedOnce ((if (w.objs it.id).flags.waitForAttachStop then handleAttached env it
    else _ : Step SC Unit) w).2
  by_cases hwaits : (w.objs it.id).flags.waitForAttachStop
  · rw [if_pos hwaits]
    exact attachedOnce_handleAttached h hborn hwaits
  · rw [if_neg hwaits]
    exact keeps_attachedOnce (fun n => settling_laterStop it signal) w h

/-! ## runs -/

/-- the invariant while an event of the tracee is handled -/
def Attended (id : TraceeId) (w : World SC) : Prop := AttachedOnce w ∧ id < w.nextObj

theorem attended_triple {α : Type} {id : TraceeId} {x : Step SC α}
    (hx : ∀ n, Settling Entry.isAttached False n x) :
    Triple (Attended id) x (fun _ => Attended id) fun _ => AttachedOnce := by
  have hkeep : Keeps (Attended id) x := by
    intro w hw
    have hs := hx w.nextObj w le_rfl
    exact ⟨hw.1.settles hs, hw.2.trans_le hs.nextObj⟩
  exact hkeep.triple fun _ h => h.1

theorem attended_last {α : Type} {id : TraceeId} {x : Step SC α}
    (hx : ∀ n, Settling Entry.isAttached False n x) :
    Triple (Attended id) x (fun _ => AttachedOnce) fun _ => AttachedOnce :=
  (attended_triple hx).weaken (fun _ h => h) (fun _ _ h => h.1) fun _ _ h => h

theorem stopEvent_triple (it : Iter) (signal : Signal) :
    Triple (Attended it.id) (handleStopEvent env it signal : Step SC Unit)
      (fun _ => AttachedOnce) fun _ => AttachedOnce := by
  intro w hw
  have h := attachedOnce_handleStopEvent env hw.1 hw.2 signal
  cases hr : handleStopEvent env it signal w with
  | mk r v =>
    rw [hr] at h
    cases r with
    | ok a => exact h
    | error e => exact h

theorem trap_triple (it : Iter) (pid : ProcessID) (trap : Trap) :
    Triple (Attended it.id) (handleTrap env it pid trap : Step SC Unit)
      (fun _ => AttachedOnce) fun _ => AttachedOnce := by
  cases trap with
  | sysTrap => exact attended_last fun n => settling_handleSystemCall (fun _ h => h) it
  | signal signal => exact attended_last fun n => settling_handleSignalStop it signal
  | event signal event =>
    apply Triple.bind (attended_triple fun n => settling_changeState it.id .eventStop)
    intro _
    cases event with
    | stop => exact stopEvent_triple it signal
    | exit => exact attended_last fun n => settling_handleExitEvent it
    | exec => exact attended_last fun n => settling_handleExecEvent (fun _ h => h) it pid
    | seccomp => exact attended_last fun n => Settling.pure ()
    | clone => exact attended_last fun n => settling_handleNewChildEvent it _
    | vfork => exact attended_last fun n => settling_handleNewChildEvent it _
    | vforkDone => exact attended_last fun n => settling_handleNewChildEvent it _
    | fork => exact attended_last fun n => settling_handleNewChildEvent it _

theorem processEvent_triple (it : Iter) (data : ChildState) :
    Triple (Attended it.id) (processEvent env it data : Step SC Unit)
      (fun _ => AttachedOnce) fun _ => AttachedOnce := by
  have hrestart : Triple AttachedOnce (restartTracee env it : Step SC Unit)
      (fun _ => AttachedOnce) fun _ => AttachedOnce :=
    attachedOnce_triple fun n => settling_restartTracee (fun _ h => h) it
  apply Triple.bind (attended_triple fun n => Settling.say rfl)
  intro _
  apply Triple.bind (Q := fun _ => Attended it.id)
  · exact attended_triple fun n => Settling.modify (fun _ h => h) fun _ => rfl
  intro _
  apply Triple.ite
  · exact fun _ => attended_last fun n => settling_handleEnd it data
  intro _
  cases data.event with
  | trapped trap =>
    apply Triple.bind (attended_triple fun n => Settling.getTracee it.id)
    intro t
    apply Triple.ite
    · exact fun _ => attended_last fun n => settling_doDetach it.id
    · exact fun _ => Triple.bind (trap_triple it data.pid trap) fun _ => hrestart
  | signaled signal =>
    apply Triple.bind (attended_last fun n => settling_handleSignalStop it signal)
    exact fun _ => hrestart
  | _ => exact attended_last fun n => settling_restartTracee (fun _ h => h) it

/-- the invariant of runs -/
def Attaching (w : World SC) : Prop := w.Sound ∧ AttachedOnce w

theorem keeps_attaching {α : Type} {x : Step SC α}
    (hx : ∀ n, Settling Entry.isAttached False n x)
    (hb : Besides False False 0 x) : Keeps Attaching x := fun w hw =>
  ⟨(hb w hw.1).sound hw.1, keeps_attachedOnce hx w hw.2⟩

theorem serves_attaching : Serves env (fun _ _ _ => True) (Attaching : World SC → Prop) where
  event := by
    intro w it data hit _ hw
    have hside : Besides True True it.id (processEvent env it data : Step SC Unit) :=
      besides_processEvent (fun _ => trivial) (fun _ => trivial) data
    have hborn : it.id < w.nextObj := hw.1 it.id ⟨it.key, hit⟩
    exact ⟨(hside w hw.1).sound hw.1, (processEvent_triple it data).final ⟨hw.2, hborn⟩⟩
  contained it := keeps_attaching (fun _ => settling_checkContained it) (besides_checkContained it)
  cleanup key := keeps_attaching (fun _ => settling_checkCleanupTracee key)
    (besides_checkCleanupTracee key)
  unknown data := keeps_attaching (fun _ => settling_checkUnknownTraceeEvent data)
    (besides_checkUnknownTraceeEvent data)
  waited data := keeps_attaching (fun _ => Settling.say rfl)
    (besides_say (fun h => nomatch h) fun h => nomatch h)
  newly _ hw := ⟨hw.1, hw.2.settles (Settles.same rfl False.elim)⟩
  forgotten _ hw := ⟨hw.1, hw.2.pending, hw.2.once⟩
  stored _ hw := ⟨hw.1, hw.2.pending, hw.2.once⟩
  replayed _ _ _ _ := trivial
  retried _ _ _ := trivial
  addForeign _ _ _ _ _ := keeps_attaching (fun _ => settling_addForeign _ _ _ _ _)
    (besides_addForeign _ _ _ _ _)
  addChild _ _ _ := keeps_attaching (fun _ => settling_addChild _ _ _) (besides_addChild _ _ _)
  call c := keeps_attaching (fun _ => settling_consumerCall c) (besides_consumerCall c)
  drop key := keeps_attaching (fun _ => settling_dropTracee key) (besides_dropTracee key)

/-- in every run each tracee is reported attached at most once -/
theorem attachedOnce_reachable {w : World SC} (hw : Reachable env w) : AttachedOnce w := by
  have h : Attaching w := by
    apply serves_attaching.reachable _ hw
    intro f
    refine ⟨sound_start f, fun id _ hm => ?_, always_nil⟩
    cases hm
  exact h.2

end Clues
