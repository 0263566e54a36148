import Clues.Engine.Telling

/-!
# The turns of tracees

A machine follows the log: a turn begins when an event is delivered to a tracee, and ends when the
next event is waited for.

* `Turn`        what was done so far in a turn;
* `Admitted`    what may come next;
* `Plays s s'`   what was logged is admitted, and leads the machine from `s` to `s'`;
* `protocol_of_reachable`   the log of every run is accepted;
* `calls_in_turn`, `requests_in_turn`   what this means for the callbacks, and for the requests
                that need a stopped tracee, other than `PTRACE_DETACH`.
-/

set_option linter.unusedSectionVars false

namespace Clues

open Lib Lib.Exec Lib.History Step

variable {SC : Type} [SyscallOps SC] {env : Env}

/-! ## the machine -/

structure Turn where
  tracee : TraceeId
  data : ChildState
  /-- the consumer was told of the event -/
  told : Bool := false
  /-- the tracee was restarted, or this failed with an error -/
  restart : Option (Option Errno) := none
  /-- the consumer was told that a group-stop is over -/
  resumed : Bool := false

def Callback.isResumed : Callback → Bool
  | .resumed _ => true
  | _ => false

def Turn.saw (s : Option Turn) : Entry → Option Turn
  | .wait _ => none
  | .deliver b d => some { tracee := b, data := d }
  | .request _ (.restart _ _ _) error => s.map fun t => { t with restart := some error }
  | .callback c =>
      s.map fun t => if c.isResumed then { t with resumed := true } else { t with told := true }
  | _ => s

/-- the turn that the log ends in -/
def turn (log : Log) : Option Turn := replay Turn.saw none log

/-- the event was delivered, and nothing was done about it but inquiries -/
def Turn.Asking (t : Turn) : Prop := t.told = false ∧ t.restart = none

/-- what may come next -/
inductive Admitted : Option Turn → Entry → Prop
  | common {s : Option Turn} {e : Entry} : e.isCommon = true → Admitted s e
  | wait (s : Option Turn) (d : ChildState) : Admitted s (.wait d)
  | deliver (s : Option Turn) (b : TraceeId) (d : ChildState) : Admitted s (.deliver b d)
  /-- the tracee of an event is looked for -/
  | inquiry (r : Request) (error : Option Errno) : Admitted none (.inquiry r error)
  | rekeyed (old new : ProcessID) : Admitted none (.rekeyed old new)
  | asks {t : Turn} {e : Entry} : t.Asking → e.Asks t.tracee t.data → Admitted (some t) e
  | tells {t : Turn} {c : Callback} : t.Asking → c.tracee = t.tracee → c.fits t.data = true →
      Admitted (some t) (.callback c)
  | restart {t : Turn} (pid : ProcessID) (mode : RestartMode) (error : Option Errno) :
      t.restart = none → t.data.isEnd = false →
      Admitted (some t) (.request t.tracee (.restart pid mode t.data.signalStop) error)
  | resumed {t : Turn} : t.restart = some none → t.resumed = false →
      Admitted (some t) (.callback (.resumed t.tracee))

theorem Turn.saw_common (s : Option Turn) {e : Entry} (h : e.isCommon = true) :
    Turn.saw s e = s := by
  cases e with
  | request id r error =>
    cases r with
    | restart => cases h
    | _ => rfl
  | wait | deliver | callback => cases h
  | _ => rfl

theorem Turn.saw_asks (s : Option Turn) {e : Entry} {b : TraceeId} {d : ChildState}
    (h : e.Asks b d) : Turn.saw s e = s := by
  cases e with
  | request id r error =>
    cases r with
    | restart => exact nomatch h.2
    | _ => rfl
  | wait | deliver | callback => exact h.elim
  | _ => rfl

/-! ## what a function adds -/

/-- what was logged is admitted, and leads the machine from `s` to `s'` -/
def Plays (s s' : Option Turn) (w w' : World SC) : Prop :=
  ∃ es, w'.log = w.log ++ es ∧ Accepts Admitted Turn.saw s es ∧ replay Turn.saw s es = s'

variable {s s' s'' : Option Turn} {w w' w'' : World SC} {b n : TraceeId} {d : ChildState}

theorem Plays.refl (s : Option Turn) (w : World SC) : Plays s s w w :=
  ⟨[], (List.append_nil _).symm, trivial, rfl⟩

theorem Plays.trans (h : Plays s s' w w') (h' : Plays s' s'' w' w'') : Plays s s'' w w'' := by
  obtain ⟨es, hl, ha, rfl⟩ := h
  obtain ⟨es', hl', ha', rfl⟩ := h'
  exact ⟨es ++ es', by rw [hl', hl, List.append_assoc], accepts_append_iff.mpr ⟨ha, ha'⟩,
    replay_append es es'⟩

theorem Plays.said (w : World SC) {e : Entry} (h : Admitted s e) :
    Plays s (Turn.saw s e) w (w.say e) := ⟨[e], rfl, ⟨h, trivial⟩, rfl⟩

theorem Plays.of_log {v v' : World SC} (h : Plays s s' w w') (hv : v.log = w.log)
    (hv' : v'.log = w'.log) : Plays s s' v v' := by
  obtain ⟨es, hl, ha⟩ := h
  exact ⟨es, by rw [hv', hl, hv], ha⟩

/-- entries that are admitted and no news for the machine -/
theorem Plays.of_idle {P : Entry → Prop} (h : Logs P n w w')
    (hP : ∀ e, P e → Admitted s e ∧ Turn.saw s e = s) : Plays s s w w' := by
  obtain ⟨es, hl, hes⟩ := h.log
  exact ⟨es, hl, accepts_of_idle fun e he => hP e (hes e he)⟩

theorem Plays.of_common (h : Logs Entry.Common n w w') : Plays s s w w' :=
  Plays.of_idle h fun _ he => ⟨Admitted.common he, Turn.saw_common s he⟩

theorem Plays.of_plain {t : Turn} (ht : t.Asking) (h : Logs (Plain t.tracee t.data) n w w') :
    Plays (some t) (some t) w w' := by
  apply Plays.of_idle h
  rintro e (he | he)
  · exact ⟨Admitted.common he, Turn.saw_common _ he⟩
  · exact ⟨Admitted.asks ht he, Turn.saw_asks _ he⟩

/-- a turn up to the restart -/
theorem Plays.of_notifies {t : Turn} (ht : t.Asking)
    (h : Notifies t.tracee (Plain t.tracee t.data) (fun c => c.fits t.data = true) n w w') :
    ∃ told, Plays (some t) (some { t with told := told }) w w' := by
  obtain h | ⟨v, h, c, hb, hC, hl⟩ := h
  · exact ⟨t.told, Plays.of_plain ht h⟩
  · have hsaw : Turn.saw (some t) (.callback c) = some { t with told := true } := by
      cases c with
      | resumed => cases hC
      | _ => rfl
    refine ⟨true, (Plays.of_plain ht h).trans ?_⟩
    rw [← hsaw]
    exact (Plays.said v (Admitted.tells ht hb hC)).trans (Plays.of_common hl)

/-- what follows a restart that did not fail -/
theorem Plays.of_resume {t : Turn} (ht : t.restart = some none) (hr : t.resumed = false)
    (h : Notifies t.tracee Entry.Common (fun c => c = .resumed t.tracee) n w w') :
    ∃ s', Plays (some t) s' w w' := by
  obtain h | ⟨v, h, c, -, rfl, hl⟩ := h
  · exact ⟨some t, Plays.of_common h⟩
  · exact ⟨_, (Plays.of_common h).trans ((Plays.said v (Admitted.resumed ht hr)).trans
      (Plays.of_common hl))⟩

/-! ## one event -/

variable (env) in
theorem plays_restartTracee {it : Iter} {t : Turn} (hb : t.tracee = it.id) (ht : t.restart = none)
    (hr : t.resumed = false) (hend : t.data.isEnd = false) (w : World SC)
    (hsig : (w.objs it.id).injectSig = t.data.signalStop) :
    ∃ s', Plays (some t) s' w (restartTracee env it w).2 := by
  unfold restartTracee
  rw [run_bind_ok (run_getTracee it.id w)]
  by_cases hgone : (w.objs it.id).state = .dead ∨ (w.objs it.id).state = .detached
  · rw [if_pos hgone]
    exact ⟨some t, Plays.refl _ w⟩
  rw [if_neg hgone, run_bind, run_request, hsig, ← hb]
  generalize env.request w.log (.restart (w.objs t.tracee).ptrace (w.objs t.tracee).restartMode
    t.data.signalStop) = error
  have hadm := Plays.said w
    (Admitted.restart (w.objs t.tracee).ptrace (w.objs t.tracee).restartMode error ht hend)
  cases error with
  | some e => exact ⟨_, hadm⟩
  | none =>
    show ∃ s', Plays (some t) s' w ((when ((w.objs t.tracee).restartMode ≠ .listen) (do
      changeState env t.tracee .running
      when ((w.objs t.tracee).state = .groupStop) (notify env it (.resumed t.tracee))) :
        Step SC Unit) (w.say (.request t.tracee (.restart (w.objs t.tracee).ptrace
          (w.objs t.tracee).restartMode t.data.signalStop) none))).2
    generalize hv : w.say _ = v at hadm ⊢
    have htell : Notifying t.tracee Entry.Common (fun c => c = .resumed t.tracee) v.nextObj
        (when ((w.objs t.tracee).restartMode ≠ .listen) (do
          changeState env t.tracee .running
          when ((w.objs t.tracee).state = .groupStop) (notify env it (.resumed t.tracee))) :
            Step SC Unit) := by
      apply Notifying.when
      apply Notifying.after (logging_changeState t.tracee .running)
      exact fun _ => Notifying.when (Notifying.notify rfl rfl)
    obtain ⟨s', hs'⟩ := Plays.of_resume (t := { t with restart := some none }) rfl hr
      (htell v le_rfl)
    exact ⟨s', hadm.trans hs'⟩

/-- a part of the turn, and then the restart -/
theorem plays_then_restart {it : Iter} {t : Turn} {x : Step SC Unit} (hb : t.tracee = it.id)
    (ht : t.restart = none) (hr : t.resumed = false) (hend : t.data.isEnd = false)
    (hx : ∃ told, Plays (some t) (some { t with told := told }) w (x w).2)
    (hsig : ∀ w', x w = (.ok (), w') → (w'.objs it.id).injectSig = t.data.signalStop) :
    ∃ s', Plays (some t) s' w ((x >>= fun _ => restartTracee env it : Step SC Unit) w).2 := by
  obtain ⟨told, hx⟩ := hx
  rw [run_bind]
  cases hrun : x w with
  | mk r v =>
    rw [hrun] at hx
    cases r with
    | error e => exact ⟨_, hx⟩
    | ok u =>
      obtain ⟨s', hs'⟩ := plays_restartTracee env
        (t := { t with told := told }) hb ht hr hend v (hsig v hrun)
      exact ⟨s', hx.trans hs'⟩

/-- the turn that begins when the event is delivered -/
abbrev Turn.first (b : TraceeId) (d : ChildState) : Turn := { tracee := b, data := d }

theorem Turn.asking_first (b : TraceeId) (d : ChildState) : (Turn.first b d).Asking := ⟨rfl, rfl⟩

theorem delivered_inject (w : World SC) (b : TraceeId) (d : ChildState) :
    ((w.delivered b d).objs b).injectSig = none := by rw [delivered_obj]

/-- a stop for a signal, which is kept for the restart -/
theorem plays_signalStop {it : Iter} {signal : Signal} (hd : d.signalStop = some signal)
    (hend : d.isEnd = false) (w : World SC) :
    ∃ s', Plays (some (Turn.first it.id d)) s' w
      ((handleSignalStop env it signal >>= fun _ => restartTracee env it : Step SC Unit) w).2 := by
  refine plays_then_restart rfl rfl rfl hend ?_ fun w' hw' => ?_
  · have htell : Notifying it.id (Plain it.id d) (fun c => c.fits d = true) w.nextObj
        (reportSignal env it : Step SC Unit) := notifying_reportSignal (by rw [hd]; rfl)
    have hplays := Plays.of_notifies (Turn.asking_first it.id d) (htell w le_rfl)
    rw [handleSignalStop_eq, run_bind]
    cases hrun : reportSignal env it w with
    | mk r v =>
      rw [hrun] at hplays
      cases r with
      | error e => exact hplays
      | ok u => exact hplays.imp fun _ h => h.of_log rfl rfl
  · rw [handleSignalStop_eq] at hw'
    obtain ⟨_, v, -, hv⟩ := of_bind_ok hw'
    obtain ⟨-, rfl⟩ := Prod.mk.inj hv
    rw [World.setObj_self]
    exact hd.symm

/-- a system call stop, or a `PTRACE_EVENT` stop -/
theorem plays_plainStop {it : Iter} {x : Step SC Unit} (hd : d.signalStop = none)
    (hend : d.isEnd = false) (hid : it.id < w.nextObj)
    (hsig : (w.objs it.id).injectSig = none)
    (hx : Notifying it.id (Plain it.id d) (fun c => c.fits d = true) w.nextObj x) :
    ∃ s', Plays (some (Turn.first it.id d)) s' w
      ((x >>= fun _ => restartTracee env it : Step SC Unit) w).2 := by
  have htell := hx w le_rfl
  refine plays_then_restart rfl rfl rfl hend
    (Plays.of_notifies (Turn.asking_first it.id d) htell) fun w' hw' => ?_
  rw [hw'] at htell
  exact (htell.inject hid).trans (hsig.trans hd.symm)

theorem notifying_trap {it : Iter} {trap : Trap} (hd : d.event = .trapped trap)
    (hs : ∀ signal, trap ≠ .signal signal) (pid : ProcessID) :
    Notifying it.id (Plain it.id d) (fun c => c.fits d = true) n
      (handleTrap env it pid trap : Step SC Unit) := by
  cases trap with
  | sysTrap =>
    apply notifying_handleSystemCall
    unfold ChildState.isSysTrap
    rw [hd]
  | event signal event =>
    exact Notifying.after (logging_changeState it.id .eventStop) fun _ =>
      notifying_handlePtraceEvent hd pid
  | signal signal => exact absurd rfl (hs signal)

variable (env) in
/-- the turn of an event, from its delivery on -/
theorem plays_processEvent {it : Iter} (hid : it.id < w.nextObj) (s : Option Turn) :
    ∃ s', Plays s s' w (processEvent env it d w).2 := by
  have hdel : Plays s (some (Turn.first it.id d)) w (w.delivered it.id d) :=
    (Plays.said w (Admitted.deliver s it.id d)).of_log rfl rfl
  have hid' : it.id < (w.delivered it.id d).nextObj := hid
  have hsig := delivered_inject w it.id d
  have hturn : ∀ {x : Step SC Unit},
      (∃ s', Plays (some (Turn.first it.id d)) s' (w.delivered it.id d)
        (x (w.delivered it.id d)).2) → ∃ s', Plays s s' w (x (w.delivered it.id d)).2 :=
    fun ⟨s', h⟩ => ⟨s', hdel.trans h⟩
  cases hend : d.isEnd with
  | true =>
    rw [run_processEvent_end hend]
    obtain ⟨told, h⟩ := Plays.of_notifies (Turn.asking_first it.id d)
      (notifying_handleEnd env it hend (w.delivered it.id d) le_rfl)
    exact hturn ⟨_, h⟩
  | false =>
    cases hd : d.event with
    | trapped trap =>
      rw [run_processEvent_trapped hd]
      apply hturn
      by_cases hdet : (w.objs it.id).flags.detachAtNextStop = true
      · rw [if_pos hdet]
        exact ⟨_, Plays.of_common (logging_doDetach it.id _ le_rfl)⟩
      · rw [if_neg hdet]
        by_cases hs : ∃ signal, trap = .signal signal
        · obtain ⟨signal, rfl⟩ := hs
          apply plays_signalStop _ hend
          unfold ChildState.signalStop
          rw [hd]
        · rw [not_exists] at hs
          apply plays_plainStop _ hend hid' hsig (notifying_trap hd hs _)
          unfold ChildState.signalStop
          rw [hd]
          cases trap with
          | signal signal => exact absurd rfl (hs signal)
          | _ => rfl
    | signaled signal =>
      rw [run_processEvent_signaled hd]
      apply hturn
      apply plays_signalStop _ hend
      unfold ChildState.signalStop
      rw [hd]
    | other =>
      rw [run_processEvent_other hd]
      apply hturn
      apply plays_restartTracee env rfl rfl rfl hend
      rw [hsig]
      unfold ChildState.signalStop
      rw [hd]
    | _ =>
      unfold ChildState.isEnd at hend
      rw [hd] at hend
      cases hend

variable (env) in
theorem plays_handleKnown (it : Iter) (hid : it.id < w.nextObj) (s : Option Turn) :
    ∃ s', Plays s s' w (handleKnown env it d w).2 := by
  obtain ⟨s', h⟩ := plays_processEvent env (d := d) hid s
  refine ⟨s', ?_⟩
  have hcat : Plays s s' w (catchApi (processEvent env it d) (fun _ => checkContained it) w).2 := by
    have hcheck : Logging Entry.Common 0 (checkContained it : Step SC Unit) :=
      logging_checkContained it
    unfold catchApi handle
    cases hrun : processEvent env it d w with
    | mk r v =>
      rw [hrun] at h
      cases r with
      | ok u => exact h
      | error e =>
        cases e with
        | api errno => exact h.trans (Plays.of_common (hcheck v (Nat.zero_le _)))
        | _ => exact h
  have hrest : Logging Entry.Common 0 (do
      checkContained it
      checkCleanupTracee env it.key : Step SC Unit) :=
    Logging.bind (logging_checkContained it) fun _ => logging_checkCleanupTracee it.key
  exact final_bind (P := Plays s s' w) hcat fun _ v _ hv =>
    hv.trans (Plays.of_common (hrest v (Nat.zero_le _)))

/-! ## every run -/

/-- a stored event has a turn of its own -/
theorem plays_replays (hB : Base w) (h : Replays env w w') (s : Option Turn) :
    ∃ s', Plays s s' w w' := by
  cases h with
  | idle => exact ⟨s, Plays.refl s w⟩
  | nothing => exact ⟨s, (Plays.refl s w).of_log rfl rfl⟩
  | @known v data id hn hf hk hr =>
    obtain ⟨s', h⟩ := plays_handleKnown env (d := data) (w := w.calm) ⟨data.pid, id⟩
      (hB.fresh hk) s
    rw [hr] at h
    exact ⟨s', h.of_log rfl rfl⟩
  | unknown => exact ⟨s, (Plays.refl s w).of_log rfl rfl⟩

variable (env) in
theorem base_handleKnown {id : TraceeId} (hB : Base w)
    (hk : w.tracees.find? d.pid = some (some id)) :
    Base (handleKnown env ⟨d.pid, id⟩ d w).2 := by
  have hl : EventLabels env (fun _ => True) ⟨d.pid, id⟩ d w :=
    eventLabels_all (show w.contains ⟨d.pid, id⟩ from hk) d
  exact (course_handleKnown hB rfl (hB.fresh hk) hl trivial).effs.base hB

/-- a known event and the stored one behind it -/
theorem plays_known {id : TraceeId} {w1 : World SC} (hB : Base w)
    (hk : w.tracees.find? d.pid = some (some id))
    (hr : handleKnown env ⟨d.pid, id⟩ d w = (.ok (), w1)) (hrep : Replays env w1 w')
    (s : Option Turn) : ∃ s', Plays s s' w w' := by
  have hB1 := base_handleKnown env hB hk
  obtain ⟨s1, h1⟩ := plays_handleKnown env (d := d) ⟨d.pid, id⟩ (hB.fresh hk) s
  rw [hr] at hB1 h1
  obtain ⟨s2, h2⟩ := plays_replays hB1 hrep s1
  exact ⟨s2, h1.trans h2⟩

/-- an event that was just waited for -/
theorem plays_handled (hS : Settled w) (h : Handled env d w w') : ∃ s', Plays none s' w w' := by
  cases h with
  | known hk hr hrep => exact plays_known hS.toBase hk hr hrep none
  | @taken w1 _ former id hx hk hq hf hfind hr hrep =>
    have hfound : (w.rekeyed former d.pid (some id)).tracees.find? d.pid = some (some id) := by
      rw [rekeyed_find hk hfind, if_pos rfl]
    obtain ⟨s', h'⟩ := plays_known (hS.toBase.rekeyed hk hfind) hfound hr hrep none
    refine ⟨s', Plays.trans ?_ h'⟩
    exact (Plays.said w (Admitted.inquiry _ none)).trans
      ((Plays.said _ (Admitted.rekeyed former d.pid)).of_log rfl rfl)
  | stored => exact ⟨none, (Plays.refl none w).of_log rfl rfl⟩
  | dropped _ _ hw =>
    obtain rfl | ⟨-, rfl⟩ := hw
    · exact ⟨none, Plays.refl none _⟩
    · exact ⟨none, Plays.said w (Admitted.inquiry _ none)⟩

/-- what a step of a run adds -/
theorem plays_step {op : Op} (hS : Settled w) (hc : op.completes (op.exec env w).1)
    (s : Option Turn) : ∃ s', Plays s s' w (op.after env w) := by
  by_cases hop : ∃ data, op = .event data
  · obtain ⟨data, rfl⟩ := hop
    have hS' : Settled (w.say (.wait data)) :=
      ⟨hS.toBase.say rfl fun _ => nofun, hS.stops, hS.idle⟩
    obtain ⟨s', h⟩ := plays_handled hS' (handled_of_completes hS hc)
    exact ⟨s', (Plays.said w (Admitted.wait s data)).trans h⟩
  · rw [not_exists] at hop
    have hlog : Logging Entry.Common 0 (op.exec env : Step SC Unit) := logging_exec hop
    exact ⟨s, Plays.of_common (hlog w (Nat.zero_le _))⟩

/-- all that a run logs was admitted when it came -/
theorem protocol_of_reachable (hw : Reachable env w) :
    Always (fun p e => Admitted (turn p) e) w.log := by
  apply hw.invariant (fun b => always_nil)
  intro v op hv hI _ hc
  obtain ⟨s', es, hl, ha, -⟩ := plays_step hv.settled hc (turn v.log)
  show Always _ (op.after env v).log
  rw [hl]
  exact always_replay_iff.mpr (accepts_append_iff.mpr ⟨always_replay_iff.mp hI, ha⟩)

/-! ## the log of a turn -/

/-- an event is waited for or delivered -/
def Entry.isReported : Entry → Bool
  | .wait _ | .deliver _ _ => true
  | _ => false

def Entry.isRestart : Entry → Bool
  | .request _ (.restart _ _ _) _ => true
  | _ => false

/-- the event was delivered to `b`, and since then there are only the entries `es` -/
def Since (log : Log) (b : TraceeId) (d : ChildState) (es : Log) : Prop :=
  (∃ q, log = q ++ .deliver b d :: es) ∧ ∀ e ∈ es, e.isReported = false

/-- what the machine remembers of the entries of a turn -/
structure Turn.Recalls (t : Turn) (es : Log) : Prop where
  told : t.told = false → ∀ c, .callback c ∈ es → c.isResumed = true
  resumed : t.restart = none ∨ t.resumed = false → ∀ c, .callback c ∈ es → c.isResumed = false
  fresh : t.restart = none → ∀ e ∈ es, e.isRestart = false
  restarted : ∀ error, t.restart = some error →
    ∃ pid mode, .request t.tracee (.restart pid mode t.data.signalStop) error ∈ es

theorem Since.snoc {log es : Log} (h : Since log b d es) {e : Entry} (he : e.isReported = false) :
    Since (log ++ [e]) b d (es ++ [e]) := by
  obtain ⟨⟨q, rfl⟩, hes⟩ := h
  refine ⟨⟨q, by rw [List.append_assoc, List.cons_append]⟩, fun e' he' => ?_⟩
  rcases List.mem_append.mp he' with he' | he'
  · exact hes e' he'
  · rw [List.mem_singleton.mp he']
    exact he

/-- an entry that is neither a restart nor a callback -/
theorem Turn.Recalls.snoc {t : Turn} {es : Log} (h : t.Recalls es) {e : Entry}
    (hr : e.isRestart = false) (hc : ∀ c, e ≠ .callback c) : t.Recalls (es ++ [e]) := by
  have hmem : ∀ {c}, .callback c ∈ es ++ [e] → .callback c ∈ es := fun hm =>
    (List.mem_append.mp hm).resolve_right fun he => hc _ (List.mem_singleton.mp he).symm
  refine ⟨fun ht c hm => h.told ht c (hmem hm), fun hn c hm => h.resumed hn c (hmem hm),
    fun hn e' he' => ?_, fun error hs => ?_⟩
  · rcases List.mem_append.mp he' with he' | he'
    · exact h.fresh hn e' he'
    · rw [List.mem_singleton.mp he']
      exact hr
  · obtain ⟨pid, mode, hm⟩ := h.restarted error hs
    exact ⟨pid, mode, List.mem_append_left _ hm⟩

theorem Turn.Recalls.restart {t : Turn} {es : Log} (h : t.Recalls es) (hn : t.restart = none)
    (pid : ProcessID) (mode : RestartMode) (error : Option Errno) :
    ({ t with restart := some error } : Turn).Recalls
      (es ++ [.request t.tracee (.restart pid mode t.data.signalStop) error]) := by
  have hmem : ∀ {c}, .callback c ∈ es ++ [Entry.request t.tracee
      (.restart pid mode t.data.signalStop) error] → .callback c ∈ es := fun hm =>
    (List.mem_append.mp hm).resolve_right fun he => nomatch List.mem_singleton.mp he
  refine ⟨fun ht c hm => h.told ht c (hmem hm), fun _ c hm => h.resumed (Or.inl hn) c (hmem hm),
    nofun, fun error' hs => ⟨pid, mode, ?_⟩⟩
  rw [← Option.some.inj hs]
  exact List.mem_append_right _ (List.mem_singleton_self _)

theorem Turn.Recalls.call {t : Turn} {es : Log} (h : t.Recalls es) (ht : t.Asking)
    {c : Callback} (hc : c.isResumed = false) :
    ({ t with told := true } : Turn).Recalls (es ++ [.callback c]) := by
  refine ⟨nofun, fun _ c' hm => ?_, fun _ e he => ?_, fun error hs => ?_⟩
  · rcases List.mem_append.mp hm with hm | hm
    · exact h.resumed (Or.inl ht.2) c' hm
    · rw [Entry.callback.inj (List.mem_singleton.mp hm)]
      exact hc
  · rcases List.mem_append.mp he with he | he
    · exact h.fresh ht.2 e he
    · rw [List.mem_singleton.mp he]
      rfl
  · rw [ht.2] at hs
    cases hs

theorem Turn.Recalls.resume {t : Turn} {es : Log} (h : t.Recalls es)
    (ht : t.restart = some none) :
    ({ t with resumed := true } : Turn).Recalls (es ++ [.callback (.resumed t.tracee)]) := by
  refine ⟨fun hn c hm => ?_, fun hn => ?_, fun hn => ?_, fun error hs => ?_⟩
  · rcases List.mem_append.mp hm with hm | hm
    · exact h.told hn c hm
    · rw [Entry.callback.inj (List.mem_singleton.mp hm)]
      rfl
  · rcases hn with hn | hn
    · rw [ht] at hn
      cases hn
    · cases hn
  · rw [ht] at hn
    cases hn
  · obtain ⟨pid, mode, hm⟩ := h.restarted error hs
    exact ⟨pid, mode, List.mem_append_left _ hm⟩

theorem Callback.isResumed_of_fits {c : Callback} (h : c.fits d = true) : c.isResumed = false := by
  cases c with
  | resumed => cases h
  | _ => rfl

/-- one entry of a turn -/
theorem recalls_saw {t t' : Turn} {log es : Log} {e : Entry} (hs : Since log t.tracee t.data es)
    (h : t.Recalls es) (hA : Admitted (some t) e) (ht' : Turn.saw (some t) e = some t')
    (hd : ∀ id data, e ≠ .deliver id data) :
    ∃ es', Since (log ++ [e]) t'.tracee t'.data es' ∧ t'.Recalls es' := by
  have hidle : e.isReported = false → e.isRestart = false → (∀ c, e ≠ .callback c) →
      Turn.saw (some t) e = some t →
      ∃ es', Since (log ++ [e]) t'.tracee t'.data es' ∧ t'.Recalls es' := by
    intro hp hr hc hsaw
    obtain rfl := Option.some.inj (hsaw.symm.trans ht')
    exact ⟨es ++ [e], hs.snoc hp, h.snoc hr hc⟩
  cases hA with
  | common hc =>
    have hsaw := Turn.saw_common (some t) hc
    cases e with
    | request id r error =>
      cases r with
      | restart => cases hc
      | _ => exact hidle rfl rfl (fun _ => nofun) hsaw
    | wait | deliver | callback => cases hc
    | _ => exact hidle rfl rfl (fun _ => nofun) hsaw
  | wait => cases ht'
  | deliver => exact absurd rfl (hd _ _)
  | asks ha hq =>
    have hsaw := Turn.saw_asks (some t) hq
    cases e with
    | request id r error =>
      cases r with
      | restart => exact nomatch hq.2
      | _ => exact hidle rfl rfl (fun _ => nofun) hsaw
    | wait | deliver | callback => exact hq.elim
    | _ => exact hidle rfl rfl (fun _ => nofun) hsaw
  | @tells _ c ha hb hf =>
    have hc := Callback.isResumed_of_fits hf
    have hsaw : Turn.saw (some t) (.callback c) = some { t with told := true } := by
      show some (if c.isResumed = true then _ else _) = _
      rw [hc]
      rfl
    obtain rfl := Option.some.inj (hsaw.symm.trans ht')
    exact ⟨_, hs.snoc rfl, h.call ha hc⟩
  | restart pid mode error hr hend =>
    obtain rfl := Option.some.inj ht'
    exact ⟨_, hs.snoc rfl, h.restart hr pid mode error⟩
  | resumed hr hn =>
    obtain rfl := Option.some.inj ht'
    exact ⟨_, hs.snoc rfl, h.resume hr⟩

/-- the turn that the log ends in, read off the log -/
theorem turn_since {log : Log} (h : Always (fun p e => Admitted (turn p) e) log) {t : Turn}
    (ht : turn log = some t) : ∃ es, Since log t.tracee t.data es ∧ t.Recalls es := by
  induction log using List.reverseRecOn generalizing t with
  | nil => cases ht
  | append_singleton log e ih =>
    obtain ⟨hlog, hA⟩ := always_snoc_iff.mp h
    have hsaw : Turn.saw (turn log) e = some t := by
      rw [← ht]
      exact (replay_snoc log e).symm
    by_cases hd : ∃ b d, e = .deliver b d
    · obtain ⟨b, d, rfl⟩ := hd
      obtain rfl := Option.some.inj hsaw
      exact ⟨[], ⟨⟨log, rfl⟩, by simp⟩, by simp, by simp, by simp, nofun⟩
    · simp only [not_exists] at hd
      cases ht0 : turn log with
      | none =>
        rw [ht0] at hsaw
        cases e with
        | deliver b d => exact absurd rfl (hd b d)
        | request id r error => cases r <;> cases hsaw
        | _ => cases hsaw
      | some t0 =>
        rw [ht0] at hsaw hA
        obtain ⟨es, hs, hr⟩ := ih hlog ht0
        exact recalls_saw hs hr hA hsaw hd

/-! ## callbacks -/

/-- the consumer is called about the tracee whose event is handled: first, and before the tracee is
restarted, for the event, and later for the end of a group-stop that the restart led to -/
def CallInTurn (p : Log) (c : Callback) : Prop :=
  ∃ d es, Since p c.tracee d es ∧
    ((c.fits d = true ∧ (∀ c', .callback c' ∉ es) ∧ ∀ e ∈ es, e.isRestart = false) ∨
      c.isResumed = true ∧ (∀ c', .callback c' ∈ es → c'.isResumed = false) ∧
        ∃ pid mode, .request c.tracee (.restart pid mode d.signalStop) none ∈ es)

theorem callInTurn_of_admitted {p : Log} {c : Callback}
    (h : Always (fun p e => Admitted (turn p) e) p) (hA : Admitted (turn p) (.callback c)) :
    CallInTurn p c := by
  cases hs : turn p with
  | none =>
    rw [hs] at hA
    cases hA with
    | common hc => cases hc
  | some t =>
    obtain ⟨es, hsince, hr⟩ := turn_since h hs
    rw [hs] at hA
    cases hA with
    | common hc => cases hc
    | asks _ hq => exact hq.elim
    | tells ha hb hf =>
      refine ⟨t.data, es, hb ▸ hsince, Or.inl ⟨hf, fun c' hm => ?_, hr.fresh ha.2⟩⟩
      have h1 := hr.told ha.1 c' hm
      rw [hr.resumed (Or.inl ha.2) c' hm] at h1
      cases h1
    | resumed hres hn =>
      exact ⟨t.data, es, hsince, Or.inr ⟨rfl, hr.resumed (Or.inr hn), hr.restarted none hres⟩⟩

theorem calls_in_turn (hw : Reachable env w) :
    Always (fun p e => ∀ c, e = .callback c → CallInTurn p c) w.log := by
  have hp := protocol_of_reachable hw
  rintro p e he c rfl
  exact callInTurn_of_admitted (hp.mono he.start) (hp p _ he)

/-- the task 100 is attached to, stopped by `SIGSTOP`, continued, and gets `SIGUSR1` -/
def turnsRun : List Op :=
  [.addForeign 100 false false (-1) false,
    .event ⟨100, .trapped (.event Signal.trap .stop)⟩,
    .event ⟨100, .trapped (.event Signal.stop .stop)⟩,
    .event ⟨100, .trapped (.event Signal.trap .stop)⟩,
    .event ⟨100, .signaled 10⟩]

def turnsWorld : World Empty := runOps {} turnsRun {}

theorem turns_reachable : Reachable {} turnsWorld :=
  (Reaches.start false).run turnsRun (by decide +kernel)

theorem calls_in_turn_continued :
    Always (fun p e => ∀ c, e = .callback c → CallInTurn p c) turnsWorld.log :=
  calls_in_turn turns_reachable

/-! ## requests for a stopped tracee -/

/-- requests that need a stopped tracee are made for the tracee whose event is handled: inquiries
about the event until the consumer is called, and one restart, which passes the signal on that
the event was about -/
def RequestInTurn (p : Log) (b : TraceeId) (r : Request) : Prop :=
  ∃ d es, Since p b d es ∧ (∀ e ∈ es, e.isRestart = false) ∧
    ((r.fits d = true ∧ ∀ c, .callback c ∉ es) ∨
      d.isEnd = false ∧ ∃ pid mode, r = .restart pid mode d.signalStop)

theorem requestInTurn_of_admitted {p : Log} {b : TraceeId} {r : Request} {error : Option Errno}
    (h : Always (fun p e => Admitted (turn p) e) p)
    (hA : Admitted (turn p) (.request b r error)) (hr : r.isCommon = false) :
    RequestInTurn p b r := by
  cases hs : turn p with
  | none =>
    rw [hs] at hA
    cases hA with
    | common hc => exact absurd hc (by rw [show Entry.isCommon _ = r.isCommon from rfl, hr]; simp)
  | some t =>
    obtain ⟨es, hsince, hrec⟩ := turn_since h hs
    rw [hs] at hA
    cases hA with
    | common hc => exact absurd hc (by rw [show Entry.isCommon _ = r.isCommon from rfl, hr]; simp)
    | asks ha hq =>
      obtain ⟨rfl, hf⟩ := hq
      refine ⟨t.data, es, hsince, hrec.fresh ha.2, Or.inl ⟨hf, fun c hm => ?_⟩⟩
      have h1 := hrec.told ha.1 c hm
      rw [hrec.resumed (Or.inl ha.2) c hm] at h1
      cases h1
    | restart pid mode _ hn hend =>
      exact ⟨t.data, es, hsince, hrec.fresh hn, Or.inr ⟨hend, pid, mode, rfl⟩⟩

/-- the requests that are not common need a stopped tracee; so does `PTRACE_DETACH`, which `detach()`
and `stop()` also make outside of a turn -/
theorem requests_in_turn (hw : Reachable env w) :
    Always (fun p e => ∀ b r error, e = .request b r error → r.isCommon = false →
      RequestInTurn p b r) w.log := by
  have hp := protocol_of_reachable hw
  rintro p e he b r error rfl hr
  exact requestInTurn_of_admitted (hp.mono he.start) (hp p _ he) hr

theorem requests_in_turn_continued :
    Always (fun p e => ∀ b r error, e = .request b r error → r.isCommon = false →
      RequestInTurn p b r) turnsWorld.log := requests_in_turn turns_reachable

end Clues
