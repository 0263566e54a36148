import Clues.Engine.Protocol
import Clues.Lib.Mailbox

/-!
# What becomes of the events

The engine is a mailbox of events: an event for a PID in `m_tracees` is handled at once, the first
stop of a PID that is not there yet may be stored, and all other events are dropped.

* `World.mailbox`      the events that were waited for, delivered and stored;
* `mailbox_of_handled`   what `Engine::trace()` does with an event are steps of the mailbox;
* `mailbox_reaches`    a run of the engine is a run of the mailbox;
* `delivered_once`, `delivered_in_order`   what follows for the events.
-/

set_option linter.unusedSectionVars false

namespace Clues

open Lib Lib.Exec Lib.History Step

variable {SC : Type} [SyscallOps SC] {env : Env} {w w' w'' : World SC} {d : ChildState}

/-! ## events in the log -/

def Entry.waited : Entry → Option ChildState
  | .wait d => some d
  | _ => none

def Entry.delivered : Entry → Option ChildState
  | .deliver _ d => some d
  | _ => none

/-- the events that `wait()` reported, in order -/
def waits (log : Log) : List ChildState := log.filterMap Entry.waited

/-- the events that were delivered to a tracee, in order -/
def deliveries (log : Log) : List ChildState := log.filterMap Entry.delivered

theorem waits_append (log es : Log) : waits (log ++ es) = waits log ++ waits es :=
  List.filterMap_append

theorem deliveries_append (log es : Log) :
    deliveries (log ++ es) = deliveries log ++ deliveries es := List.filterMap_append

theorem waits_of_unreported {es : Log} (h : ∀ e ∈ es, e.isReported = false) : waits es = [] := by
  refine List.filterMap_eq_nil_iff.mpr fun e he => ?_
  have := h e he
  cases e with
  | wait => cases this
  | _ => rfl

theorem deliveries_of_unreported {es : Log} (h : ∀ e ∈ es, e.isReported = false) :
    deliveries es = [] := by
  refine List.filterMap_eq_nil_iff.mpr fun e he => ?_
  have := h e he
  cases e with
  | deliver => cases this
  | _ => rfl

abbrev Events := Mailbox ProcessID ChildState

def World.mailbox (w : World SC) : Events :=
  { arrived := waits w.log, handled := deliveries w.log, parked := w.unknownEvents.find? }

/-! ## functions that neither wait nor deliver -/

structure Unreported (w w' : World SC) : Prop where
  stored : w'.unknownEvents = w.unknownEvents
  log : ∃ es, w'.log = w.log ++ es ∧ ∀ e ∈ es, e.isReported = false

theorem Unreported.refl (w : World SC) : Unreported w w := ⟨rfl, [], by simp, by simp⟩

theorem Unreported.trans (h : Unreported w w') (h' : Unreported w' w'') : Unreported w w'' := by
  obtain ⟨es, hl, hes⟩ := h.log
  obtain ⟨es', hl', hes'⟩ := h'.log
  refine ⟨h'.stored.trans h.stored, es ++ es', by rw [hl', hl, List.append_assoc], fun e he => ?_⟩
  rcases List.mem_append.mp he with he | he
  · exact hes e he
  · exact hes' e he

theorem Unreported.walk : Walk (fun _ : World SC => True) Unreported :=
  ⟨Unreported.refl, Unreported.trans, fun _ _ => trivial⟩

theorem Unreported.said (w : World SC) {e : Entry} (h : e.isReported = false) :
    Unreported w (w.say e) := ⟨rfl, [e], rfl, fun _ he => by rwa [List.mem_singleton.mp he]⟩

theorem Unreported.of_logs {P : Entry → Prop} {n : TraceeId} (h : Logs P n w w')
    (hP : ∀ e, P e → e.isReported = false) : Unreported w w' := by
  obtain ⟨es, hl, hes⟩ := h.log
  exact ⟨h.stored, es, hl, fun e he => hP e (hes e he)⟩

theorem Entry.isReported_of_common {e : Entry} (h : e.isCommon = true) : e.isReported = false := by
  cases e with
  | wait | deliver => cases h
  | _ => rfl

theorem Plain.unreported {b : TraceeId} {e : Entry} (h : Plain b d e) : e.isReported = false := by
  obtain h | h := h
  · exact Entry.isReported_of_common h
  · cases e with
    | wait | deliver => exact h.elim
    | _ => rfl

theorem Unreported.of_notifies {P : Entry → Prop} {C : Callback → Prop} {b n : TraceeId}
    (h : Notifies b P C n w w') (hP : ∀ e, P e → e.isReported = false) : Unreported w w' := by
  obtain h | ⟨v, h, c, -, -, hl⟩ := h
  · exact Unreported.of_logs h hP
  · exact (Unreported.of_logs h hP).trans ((Unreported.said v rfl).trans
      (Unreported.of_logs hl fun _ => Entry.isReported_of_common))

/-- the world changes, but neither the log nor the stored events -/
theorem Unreported.of_same (hl : w'.log = w.log) (hu : w'.unknownEvents = w.unknownEvents) :
    Unreported w w' := ⟨hu, [], by rw [hl, List.append_nil], by simp⟩

abbrev Unreporting {α : Type} (x : Step SC α) : Prop :=
  Along (fun _ : World SC => True) Unreported x

theorem unreporting_of_common {α : Type} {x : Step SC α} (h : Logging Entry.Common 0 x) :
    Unreporting x := fun w _ => Unreported.of_logs (h w (Nat.zero_le _)) fun _ =>
      Entry.isReported_of_common

theorem unreporting_of_notifying {α : Type} {b : TraceeId} {C : Callback → Prop} {x : Step SC α}
    (h : Notifying b (Plain b d) C 0 x) : Unreporting x :=
  fun w _ => Unreported.of_notifies (h w (Nat.zero_le _)) fun _ => Plain.unreported

theorem unreporting_restartTracee (it : Iter) :
    Unreporting (restartTracee env it : Step SC Unit) := by
  intro w _
  unfold restartTracee
  rw [run_bind_ok (run_getTracee it.id w)]
  by_cases hgone : (w.objs it.id).state = .dead ∨ (w.objs it.id).state = .detached
  · rw [if_pos hgone]
    exact Unreported.refl w
  rw [if_neg hgone]
  refine Along.bind Unreported.walk (fun v _ => ?_) (fun _ v _ => ?_) w trivial
  · rw [run_request]
    exact Unreported.said v rfl
  · have htell : Notifying it.id Entry.Common (fun c => c = .resumed it.id) 0
        (when ((w.objs it.id).restartMode ≠ .listen) (do
          changeState env it.id .running
          when ((w.objs it.id).state = .groupStop) (notify env it (.resumed it.id))) :
            Step SC Unit) := by
      apply Notifying.when
      apply Notifying.after (logging_changeState it.id .running)
      exact fun _ => Notifying.when (Notifying.notify rfl rfl)
    exact Unreported.of_notifies (htell v (Nat.zero_le _)) fun _ => Entry.isReported_of_common

theorem unreporting_handleSignalStop {it : Iter} {signal : Signal}
    (hd : d.signalStop = some signal) :
    Unreporting (handleSignalStop env it signal : Step SC Unit) := by
  rw [handleSignalStop_eq]
  have hreport : Notifying it.id (Plain it.id d) (fun c => c.fits d = true) 0
      (reportSignal env it : Step SC Unit) := notifying_reportSignal (by rw [hd]; rfl)
  exact Along.bind Unreported.walk (unreporting_of_notifying hreport) fun _ v _ =>
    Unreported.of_same rfl rfl

theorem unreporting_handleTrap {it : Iter} {trap : Trap} (hd : d.event = .trapped trap)
    (pid : ProcessID) : Unreporting (handleTrap env it pid trap : Step SC Unit) := by
  by_cases hs : ∃ signal, trap = .signal signal
  · obtain ⟨signal, rfl⟩ := hs
    apply unreporting_handleSignalStop (d := d)
    unfold ChildState.signalStop
    rw [hd]
  · rw [not_exists] at hs
    exact unreporting_of_notifying (notifying_trap hd hs pid)

variable (env) in
/-- a delivered event is the only one that is delivered while it is handled -/
theorem unreported_processEvent (it : Iter) (d : ChildState) (w : World SC) :
    Unreported (w.say (.deliver it.id d)) (processEvent env it d w).2 := by
  have hdel : Unreported (w.say (.deliver it.id d)) (w.delivered it.id d) :=
    Unreported.of_same rfl rfl
  have hrun : ∀ {x : Step SC Unit}, Unreporting x →
      Unreported (w.say (.deliver it.id d)) (x (w.delivered it.id d)).2 :=
    fun hx => hdel.trans (hx _ trivial)
  have hthen : ∀ {x : Step SC Unit}, Unreporting x →
      Unreporting (x >>= fun _ => restartTracee env it : Step SC Unit) :=
    fun hx => Along.bind Unreported.walk hx fun _ => unreporting_restartTracee it
  cases hend : d.isEnd with
  | true =>
    rw [run_processEvent_end hend]
    exact hrun (unreporting_of_notifying (notifying_handleEnd env it hend))
  | false =>
    cases hd : d.event with
    | trapped trap =>
      rw [run_processEvent_trapped hd]
      by_cases hdet : (w.objs it.id).flags.detachAtNextStop = true
      · rw [if_pos hdet]
        exact hrun (unreporting_of_common (logging_doDetach it.id))
      · rw [if_neg hdet]
        exact hrun (hthen (unreporting_handleTrap hd _))
    | signaled signal =>
      rw [run_processEvent_signaled hd]
      apply hrun (hthen (unreporting_handleSignalStop (d := d) _))
      unfold ChildState.signalStop
      rw [hd]
    | other =>
      rw [run_processEvent_other hd]
      exact hrun (unreporting_restartTracee it)
    | _ =>
      unfold ChildState.isEnd at hend
      rw [hd] at hend
      cases hend

variable (env) in
theorem unreported_handleKnown (it : Iter) (d : ChildState) (w : World SC) :
    Unreported (w.say (.deliver it.id d)) (handleKnown env it d w).2 := by
  have hcheck : Unreporting (checkContained it : Step SC Unit) :=
    unreporting_of_common (logging_checkContained it)
  have hcat : Unreported (w.say (.deliver it.id d))
      (catchApi (processEvent env it d) (fun _ => checkContained it) w).2 := by
    have h := unreported_processEvent env it d w
    unfold catchApi handle
    cases hrun : processEvent env it d w with
    | mk r v =>
      rw [hrun] at h
      cases r with
      | ok u => exact h
      | error e =>
        cases e with
        | api errno => exact h.trans (hcheck v trivial)
        | _ => exact h
  have hrest : Unreporting (do
      checkContained it
      checkCleanupTracee env it.key : Step SC Unit) :=
    Along.bind Unreported.walk hcheck fun _ =>
      unreporting_of_common (logging_checkCleanupTracee it.key)
  exact final_bind (P := Unreported (w.say (.deliver it.id d))) hcat fun _ v _ hv =>
    hv.trans (hrest v trivial)

/-! ## steps of the mailbox -/

theorem Unreported.mailbox (h : Unreported w w') : w'.mailbox = w.mailbox := by
  obtain ⟨es, hl, hes⟩ := h.log
  unfold World.mailbox
  rw [hl, waits_append, deliveries_append, waits_of_unreported hes, deliveries_of_unreported hes,
    h.stored, List.append_nil, List.append_nil]

theorem mailbox_waited (w : World SC) (d : ChildState) :
    (w.say (.wait d)).mailbox = { w.mailbox with arrived := w.mailbox.arrived ++ [d] } := by
  unfold World.mailbox
  rw [World.say_log, waits_append, deliveries_append]
  show _ = ({ arrived := _, handled := _, parked := _ } : Events)
  rw [show deliveries [Entry.wait d] = [] from rfl, List.append_nil]
  rfl

theorem mailbox_handleKnown {it : Iter} {r : Except Exc Unit}
    (h : handleKnown env it d w = (r, w')) :
    w'.mailbox = { w.mailbox with handled := w.mailbox.handled ++ [d] } := by
  have hrep := unreported_handleKnown env it d w
  rw [h] at hrep
  rw [hrep.mailbox]
  unfold World.mailbox
  rw [World.say_log, waits_append, deliveries_append]
  show ({ arrived := _, handled := _, parked := _ } : Events) = _
  rw [show waits [Entry.deliver it.id d] = [] from rfl, List.append_nil]
  rfl

theorem mailbox_forget (w : World SC) (pid : ProcessID) :
    (w.forget pid).mailbox = w.mailbox.clear pid := by
  unfold World.mailbox Mailbox.clear
  congr 1
  funext k
  show (w.unknownEvents.erase pid).find? k = Function.update w.unknownEvents.find? pid none k
  rw [OrdMap.find?_erase]
  by_cases hk : k = pid
  · rw [if_pos hk, hk, Function.update_self]
  · rw [if_neg hk, Function.update_of_ne hk]

variable {G : Events → ChildState → Prop}

abbrev MailSteps (G : Events → ChildState → Prop) : Events → Events → Prop :=
  Mailbox.Steps ChildState.pid G

/-- the stored event of a tracee that was just announced is released -/
theorem mailbox_of_replays (h : Replays env w w') : MailSteps G w.mailbox w'.mailbox := by
  cases h with
  | idle => exact Relation.ReflTransGen.refl
  | nothing => exact Relation.ReflTransGen.refl
  | @known v data id hn hf hk hr =>
    rw [mailbox_forget, mailbox_handleKnown hr]
    exact Relation.ReflTransGen.single (Mailbox.Step.release (s := w.mailbox) _ data hf)
  | unknown =>
    rw [mailbox_forget]
    exact Relation.ReflTransGen.single (Mailbox.Step.discard w.mailbox _)

/-- the stored events stay when the first one of a PID is kept -/
theorem mailbox_stored (w : World SC) (d : ChildState) :
    ({ w with unknownEvents := w.unknownEvents.insert d.pid d } : World SC).mailbox
      = if w.unknownEvents.find? d.pid = none then
          { w.mailbox with parked := Function.update w.mailbox.parked d.pid (some d) }
        else w.mailbox := by
  have hfind : (w.unknownEvents.insert d.pid d).find?
      = if w.unknownEvents.find? d.pid = none then
          Function.update w.unknownEvents.find? d.pid (some d)
        else w.unknownEvents.find? := by
    funext k
    rw [OrdMap.find?_insert]
    cases ho : w.unknownEvents.find? d.pid with
    | none =>
      rw [if_pos rfl]
      by_cases hk : k = d.pid
      · rw [if_pos hk, hk, Function.update_self]
        rfl
      · rw [if_neg hk, Function.update_of_ne hk]
    | some old =>
      rw [if_neg (Option.some_ne_none old)]
      by_cases hk : k = d.pid
      · rw [if_pos hk, hk, ho]
        rfl
      · rw [if_neg hk]
  unfold World.mailbox
  rw [hfind]
  split_ifs
  · rfl
  · rfl

/-- the event is handled at once, and not kept for later -/
def World.Takes (w : World SC) (d : ChildState) : Prop :=
  w.tracees.find? d.pid ≠ none ∨ d.isExec = true

/-- what `Engine::trace()` does with an event -/
theorem mailbox_of_handled (hG : w.Takes d → G w.mailbox d)
    (h : Handled env d (w.say (.wait d)) w') : MailSteps G w.mailbox w'.mailbox := by
  have hknown : ∀ {v v1 : World SC} {id : TraceeId}, w.Takes d →
      v.mailbox = (w.say (.wait d)).mailbox →
      handleKnown env ⟨d.pid, id⟩ d v = (.ok (), v1) → Replays env v1 w' →
      MailSteps G w.mailbox w'.mailbox := by
    intro v v1 id ht hv hr hrep
    have hstep : Mailbox.Step ChildState.pid G w.mailbox v1.mailbox := by
      rw [mailbox_handleKnown hr, hv, mailbox_waited]
      exact Mailbox.Step.handle d (hG ht)
    exact (Relation.ReflTransGen.single hstep).trans (mailbox_of_replays hrep)
  cases h with
  | known hk hr hrep =>
    refine hknown (Or.inl ?_) rfl hr hrep
    rw [show w.tracees.find? d.pid = _ from hk]
    exact nofun
  | @taken w1 _ former id hx hk hq hf hfind hr hrep =>
    have hsaid : Unreported (w.say (.wait d)) ((w.say (.wait d)).rekeyed former d.pid (some id)) :=
      ⟨rfl, [.inquiry (.getPIDEventMsg d.pid) none, .rekeyed former d.pid],
        List.append_assoc .., by simp [Entry.isReported]⟩
    exact hknown (Or.inr hx) hsaid.mailbox hr hrep
  | stored =>
    rw [mailbox_stored, mailbox_waited]
    split_ifs with hp
    · exact Relation.ReflTransGen.single (Mailbox.Step.park d hp)
    · exact Relation.ReflTransGen.single (Mailbox.Step.drop w.mailbox d)
  | dropped _ _ hw =>
    have hsame : w'.mailbox = (w.say (.wait d)).mailbox := by
      obtain rfl | ⟨-, rfl⟩ := hw
      · rfl
      · exact (Unreported.said _ rfl).mailbox
    rw [hsame, mailbox_waited]
    exact Relation.ReflTransGen.single (Mailbox.Step.drop w.mailbox d)

/-! ## runs -/

/-- when an event is handled at once, then with `G` -/
def Heeding (G : Events → ChildState → Prop) : StepCond SC :=
  fun w op => ∀ d, op = .event d → w.Takes d → G w.mailbox d

/-- a run of the engine is a run of the mailbox -/
theorem mailbox_reaches (hw : Reaches env (Heeding G) w) :
    MailSteps G Mailbox.empty w.mailbox := by
  apply hw.invariant (fun b => Relation.ReflTransGen.refl)
  intro v op hv hI hok hc
  by_cases hop : ∃ data, op = .event data
  · obtain ⟨data, rfl⟩ := hop
    exact hI.trans (mailbox_of_handled (hok data rfl) (handled_of_completes hv.settled hc))
  · rw [not_exists] at hop
    have hlog : Logging Entry.Common 0 (op.exec env : Step SC Unit) := logging_exec hop
    have hsame := (unreporting_of_common hlog v trivial).mailbox
    show MailSteps G Mailbox.empty (op.after env v).mailbox
    rw [show (op.after env v).mailbox = v.mailbox from hsame]
    exact hI

/-- an event is delivered to a tracee, or kept for later, at most as often as it was reported -/
theorem delivered_once (hw : Reachable env w) (d : ChildState) :
    (deliveries w.log).count d + (if w.unknownEvents.find? d.pid = some d then 1 else 0)
      ≤ (waits w.log).count d := by
  have hrun : Reaches env (Heeding fun _ _ => True) w :=
    Reaches.mono (fun _ _ _ _ _ _ => trivial) hw
  exact Mailbox.sound_of_steps (mailbox_reaches hrun) d

/-- the task 7 reports a stop although it is not known yet, after the task 100 was stopped -/
def strangerRun : List Op := turnsRun ++ [.event ⟨7, .trapped (.event Signal.trap .stop)⟩]

def strangerWorld : World Empty := runOps {} strangerRun {}

theorem delivered_once_stranger :
    (deliveries strangerWorld.log).count ⟨100, .signaled 10⟩
      + (if strangerWorld.unknownEvents.find? 100 = some ⟨100, .signaled 10⟩ then 1 else 0)
        ≤ (waits strangerWorld.log).count ⟨100, .signaled 10⟩ :=
  delivered_once ((Reaches.start false).run strangerRun (by decide +kernel)) _

/-- an event is handled while an earlier one for its PID is stored -/
def World.Overtakes (w : World SC) (d : ChildState) : Prop :=
  w.Takes d ∧ w.unknownEvents.find? d.pid ≠ none

instance (w : World SC) (d : ChildState) : Decidable (w.Overtakes d) :=
  inferInstanceAs (Decidable ((_ ∨ _) ∧ _))

/-- no event overtakes a stored one -/
def KeepsOrder : StepCond SC := fun w op =>
  match op with
  | .event d => ¬ w.Overtakes d
  | _ => True

instance (w : World SC) : (op : Op) → Decidable (KeepsOrder w op)
  | .event d => inferInstanceAs (Decidable (¬ w.Overtakes d))
  | .addForeign .. | .addChild .. | .call _ | .noChildren => inferInstanceAs (Decidable True)

/-- the events for a PID are delivered in the order in which they were reported, and the stored
one comes next -/
theorem delivered_in_order (hw : Reaches env KeepsOrder w) (pid : ProcessID) :
    ((deliveries w.log).filter (fun d => d.pid = pid) ++ (w.unknownEvents.find? pid).toList).Sublist
      ((waits w.log).filter fun d => d.pid = pid) := by
  have hrun : Reaches env (Heeding (Mailbox.InTurn ChildState.pid)) w := by
    refine Reaches.mono (fun v op h d hd ht => ?_) hw
    subst hd
    exact not_not.mp fun hp => h ⟨ht, hp⟩
  exact Mailbox.orderly_of_steps (mailbox_reaches hrun) pid

theorem delivered_in_order_stranger :
    ((deliveries strangerWorld.log).filter (fun d => d.pid = 7)
      ++ (strangerWorld.unknownEvents.find? 7).toList).Sublist
        ((waits strangerWorld.log).filter fun d => d.pid = 7) :=
  delivered_in_order ((Reaches.start false).run strangerRun (by decide +kernel)) 7

end Clues
