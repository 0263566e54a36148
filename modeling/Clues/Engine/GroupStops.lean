import Clues.Engine.Turns

/-!
# Group-stops

What the log of a run shows about the group-stops of a tracee `b`, from its agreement with the
machine (`tallies_of_reachable`):

* `RestartsRightly`    `PTRACE_LISTEN` leaves group-stops, `PTRACE_SYSCALL` all other stops;
* `StopsAlternate`     `stopped()` and `resumed()` alternate, and group-stops that end are told;
* `Tracee.SignalFits`  there is a stop signal in group-stops only, and it is the current one;
* `InjectionMatched`   the stops that the tracer injected are told apart from all others.
-/

namespace Clues

open Lib Lib.Exec Lib.History Step

variable {SC : Type}

/-! ## restart modes -/

/-- the tracer restarted the tracee with `PTRACE_SYSCALL` -/
def Begun (b : TraceeId) (log : Log) : Prop :=
  ∃ pid sig error, Entry.request b (.restart pid .syscall sig) error ∈ log

/-- `PTRACE_LISTEN` leaves group-stops, `PTRACE_SYSCALL` all other stops once it was used -/
def RestartsRightly (b : TraceeId) (log : Log) : Prop :=
  ∀ p pid mode sig error, At log p (.request b (.restart pid mode sig) error) →
    (mode = .listen → ∃ d, lastStop b p = some d ∧ d.groupStop.isSome = true) ∧
    (Begun b p → (∀ d, lastStop b p = some d → d.groupStop = none) → mode = .syscall)

/-- while the tracer listens, the next stop is a group-stop again, or the `PTRACE_EVENT_STOP` for
`SIGTRAP` that ends it -/
def endsListening (b : TraceeId) (kind : TraceeKind) (p : Log) : Entry → Bool
  | .deliver id d => !(decide (id = b) && decide ((phase b kind p).mode = .listen) && d.isStop) ||
      d.groupStop.isSome || decide (d.eventStop = some Signal.trap)
  | _ => true

def ListeningEnds (b : TraceeId) (kind : TraceeKind) : Log → Prop :=
  Always fun p e => endsListening b kind p e = true

section
variable {b : TraceeId} {kind : TraceeKind} {log : Log} {e : Entry}

theorem lastStopSaw_of_ne (h : ∀ d, e ≠ .deliver b d) (r : Option ChildState) :
    lastStopSaw b r e = r := by
  cases e with
  | deliver id d =>
    refine if_neg fun hb => ?_
    obtain ⟨rfl, -⟩ := hb
    exact h d rfl
  | _ => rfl

theorem lastStopSaw_deliver (r : Option ChildState) (d : ChildState) :
    lastStopSaw b r (.deliver b d) = if d.isStop then some d else r := by
  unfold lastStopSaw
  simp

/-- before the initial ptrace stop, no mode was chosen -/
theorem mode_of_unattached (h : (phase b kind log).attached = false) :
    (phase b kind log).mode = .cont := by
  induction log using List.reverseRecOn with
  | nil => rfl
  | append_singleton log e ih =>
    rw [phase_snoc] at h ⊢
    by_cases he : ∃ d, e = .deliver b d
    · obtain ⟨d, rfl⟩ := he
      rw [Phase.saw_deliver] at h ⊢
      cases hev : d.eventStop with
      | none =>
        obtain ⟨ha, -, hm, -⟩ := Phase.report_keeps hev (phase b kind log)
        rw [hm]
        exact ih (ha ▸ h)
      | some signal =>
        exfalso
        rw [Phase.report_of_some hev] at h
        cases ha : (phase b kind log).attached with
        | false => rw [Phase.eventStop_attach ha] at h; cases h
        | true =>
          by_cases hs : signal ∈ stoppingSignals
          · rw [Phase.eventStop_group ha hs] at h
            exact absurd (ha.symm.trans h) fun h => nomatch h
          · rw [Phase.eventStop_other ha hs] at h
            exact absurd (ha.symm.trans h) fun h => nomatch h
    · rw [Phase.saw_of_ne fun d hd => he ⟨d, hd⟩] at h ⊢
      exact ih h

/-- the tracer listens behind a group-stop only -/
theorem groupStop_of_listen (hc : ListeningEnds b kind log)
    (hm : (phase b kind log).mode = .listen) :
    ∃ d, lastStop b log = some d ∧ d.groupStop.isSome = true := by
  induction log using List.reverseRecOn with
  | nil => cases hm
  | append_singleton log e ih =>
    obtain ⟨hc', hce⟩ := always_snoc_iff.mp hc
    rw [phase_snoc] at hm
    rw [lastStop_snoc]
    by_cases he : ∃ d, e = .deliver b d
    swap
    · rw [Phase.saw_of_ne fun d hd => he ⟨d, hd⟩] at hm
      rw [lastStopSaw_of_ne fun d hd => he ⟨d, hd⟩]
      exact ih hc' hm
    obtain ⟨d, rfl⟩ := he
    rw [Phase.saw_deliver] at hm
    rw [lastStopSaw_deliver]
    -- while the tracer listened already, the condition says what was reported
    have hnext : (phase b kind log).mode = .listen → d.isStop = true →
        d.groupStop.isSome = true ∨ d.eventStop = some Signal.trap := fun hl hs => by
      simpa [endsListening, hl, hs] using hce
    cases hev : d.eventStop with
    | none =>
      rw [(Phase.report_keeps hev _).2.2.1] at hm
      by_cases hs : d.isStop = true
      · obtain hg | ht := hnext hm hs
        · rw [ChildState.groupStop_none hev] at hg
          cases hg
        · rw [hev] at ht
          cases ht
      · rw [if_neg hs]
        exact ih hc' hm
    | some signal =>
      have hs := (ChildState.isNews_of_eventStop hev).1
      rw [if_pos hs]
      refine ⟨d, rfl, ?_⟩
      rw [Phase.report_of_some hev] at hm
      cases ha : (phase b kind log).attached with
      | false =>
        rw [Phase.eventStop_attach ha] at hm
        have hcont := mode_of_unattached ha
        simp only [hcont] at hm
        split_ifs at hm
      | true =>
        by_cases hg : signal ∈ stoppingSignals
        · rw [ChildState.groupStop_some hev, if_pos hg]
          rfl
        · rw [Phase.eventStop_other ha hg] at hm
          have hl : signal ≠ Signal.trap ∧ (phase b kind log).mode = .listen := by
            by_cases ht : signal = Signal.trap
            · rw [if_pos ht] at hm
              cases hm
            · exact ⟨ht, by rwa [if_neg ht] at hm⟩
          obtain hgs | ht := hnext hl.2 hs
          · exact hgs
          · exact absurd (Option.some.inj (hev.symm.trans ht)) hl.1

theorem Phase.mode_ne_cont {ph : Phase} (h : ph.mode ≠ .cont) (b : TraceeId) (e : Entry) :
    (ph.saw b e).mode ≠ .cont := by
  by_cases he : ∃ d, e = .deliver b d
  · obtain ⟨d, rfl⟩ := he
    rw [Phase.saw_deliver]
    cases hev : d.eventStop with
    | none =>
      rw [(Phase.report_keeps hev _).2.2.1]
      exact h
    | some signal =>
      rw [Phase.report_of_some hev]
      unfold Phase.eventStop
      split_ifs <;> simp_all
  · rw [Phase.saw_of_ne fun d hd => he ⟨d, hd⟩]
    exact h

/-- once a mode was chosen, there is one -/
theorem mode_ne_cont_of_prefix {p : Log} (hp : p <+: log) (h : (phase b kind p).mode ≠ .cont) :
    (phase b kind log).mode ≠ .cont := by
  obtain ⟨es, rfl⟩ := hp
  induction es using List.reverseRecOn with
  | nil => rwa [List.append_nil]
  | append_singleton es e ih =>
    rw [← List.append_assoc, phase_snoc]
    exact Phase.mode_ne_cont ih b e

theorem mode_of_begun (hl : Legal b kind log) (hs : ¬ Strayed b log) (h : Begun b log) :
    (phase b kind log).mode ≠ .cont := by
  obtain ⟨pid, sig, error, he⟩ := h
  obtain ⟨p, hp⟩ := exists_at_of_mem he
  have hall : Strayed b p ∨ RestartMode.syscall = (phase b kind p).mode := hl p _ hp rfl
  obtain hx | hm := hall
  · exact absurd (hx.mono hp.start) hs
  · refine mode_ne_cont_of_prefix hp.start ?_
    rw [← hm]
    exact fun h => nomatch h

end

/-- restart modes follow the stops, when listening ends as the tracer expects and nothing is
reported for a tracee that the tracer departed from -/
theorem restartsRightly_of_listeningEnds [SyscallOps SC] {env : Env} {w : World SC}
    (hw : Reachable env w) (b : TraceeId) (hs : ¬ Strayed b w.log)
    (hc : ListeningEnds b (w.objs b).kind w.log) : RestartsRightly b w.log := by
  intro p pid mode sig error hp
  have hlegal := (tallies_of_reachable (b := b) hw).2.legal
  have hsp : ¬ Strayed b p := fun h => hs (h.mono hp.start)
  have hall : Strayed b p ∨ mode = (phase b (w.objs b).kind p).mode := hlegal p _ hp rfl
  have hm : mode = (phase b (w.objs b).kind p).mode := hall.resolve_left hsp
  refine ⟨fun hl => groupStop_of_listen (hc.mono hp.start) (hm ▸ hl), fun hb hn => ?_⟩
  cases mode with
  | syscall => rfl
  | cont => exact absurd hm.symm (mode_of_begun (hlegal.mono hp.start) hsp hb)
  | listen =>
    obtain ⟨d, hd, hg⟩ := groupStop_of_listen (hc.mono hp.start) hm.symm
    rw [hn d hd] at hg
    cases hg

/-! ### runs of a foreign task -/

/-- the task 100 is attached to and put into a group-stop -/
def stoppedRun : List Op :=
  [.addForeign 100 false false (-1) false,
    .event ⟨100, .trapped (.event Signal.trap .stop)⟩,
    .event ⟨100, .trapped (.event Signal.stop .stop)⟩]

def stoppedWorld : World Empty := runOps {} stoppedRun {}

theorem stopped_reachable : Reachable {} stoppedWorld :=
  (Reaches.start false).run stoppedRun (by decide +kernel)

/-- it is killed then -/
def exitingRun : List Op := stoppedRun ++ [.event ⟨100, .trapped (.event Signal.trap .exit)⟩]

def exitingWorld : World Empty := runOps {} exitingRun {}

theorem exiting_reachable : Reachable {} exitingWorld :=
  (Reaches.start false).run exitingRun (by decide +kernel)

/-- it is continued -/
def continuedRun : List Op := stoppedRun ++ [.event ⟨100, .trapped (.event Signal.trap .stop)⟩]

def continuedWorld : World Empty := runOps {} continuedRun {}

theorem continued_reachable : Reachable {} continuedWorld :=
  (Reaches.start false).run continuedRun (by decide +kernel)

theorem not_strayed_of_all {b : TraceeId} {log : Log} (h : ∀ e ∈ log, e.departs b = false) :
    ¬ Strayed b log := fun hs => by
  obtain ⟨e, he, hd⟩ := hs.departed
  rw [h e he] at hd
  cases hd

theorem restartsRightly_continued : RestartsRightly 0 continuedWorld.log :=
  restartsRightly_of_listeningEnds continued_reachable 0
    (not_strayed_of_all (by decide +kernel)) (by unfold ListeningEnds; decide +kernel)

/-- the report of the exit is answered with the mode of the group-stop before it -/
theorem restartsRightly_fails : ¬ ∀ (env : Env) (w : World Empty), Reachable env w →
    ∀ b, RestartsRightly b w.log := by
  intro h
  have hp : At exitingWorld.log (exitingWorld.log.take 19)
      (.request 0 (.restart 100 .listen none) none) := by
    unfold At
    decide +kernel
  obtain ⟨d, hd, hg⟩ := (h {} exitingWorld exiting_reachable 0 _ _ _ _ _ hp).1 rfl
  have hlast : lastStop 0 (exitingWorld.log.take 19)
      = some ⟨100, .trapped (.event Signal.trap .exit)⟩ := by decide +kernel
  rw [hlast] at hd
  rw [← Option.some.inj hd] at hg
  exact absurd hg (by decide)

/-! ## stopped() and resumed() -/

/-- the stop shows that a group-stop ended by `SIGCONT` -/
def ChildState.continues (d : ChildState) : Bool :=
  match d.event with
  | .trapped (.event signal .stop) => signal = Signal.trap
  | .trapped (.signal signal) | .signaled signal => signal = Signal.cont
  | _ => false

/-- `stopped()` and `resumed()` alternate, and `resumed()` follows every `SIGCONT` -/
structure StopsAlternate (b : TraceeId) (log : Log) : Prop where
  stopped : ∀ p, At log p (.callback (.stopped b)) → told b p = false
  resumed : ∀ p, At log p (.callback (.resumed b)) → told b p = true
  ended : ∀ p d, At log p (.deliver b d) → told b p = true → d.continues = true →
    ∃ q, p ++ [.deliver b d] <+: q ∧ At log q (.callback (.resumed b))

/-- neither a group-stop nor the end of one is reported while the consumer thinks that the tracee
is stopped -/
def staysStopped (b : TraceeId) (p : Log) : Entry → Bool
  | .deliver id d => !(decide (id = b) && told b p) || !(d.groupStop.isSome || d.continues)
  | _ => true

def StaysStopped (b : TraceeId) : Log → Prop := Always fun p e => staysStopped b p e = true

/-- a group-stop is to be told only while none is told -/
theorem told_of_due {b : TraceeId} {log : Log} (hc : StaysStopped b log) (hd : due b log = true) :
    told b log = false := by
  induction log using List.reverseRecOn with
  | nil => rfl
  | append_singleton log e ih =>
    obtain ⟨hc', hce⟩ := always_snoc_iff.mp hc
    rw [due_snoc] at hd
    rw [told_snoc]
    cases e with
    | deliver id d =>
      show told b log = false
      have hd' : (if id = b ∧ d.isNews = true then d.groupStop.isSome else due b log) = true := hd
      split_ifs at hd' with hid
      · by_contra ht
        simp [staysStopped, hid.1, hd', ht] at hce
      · exact ih hc' hd'
    | callback c =>
      cases c with
      | stopped id =>
        have hd' : due b log = true ∧ id ≠ b := by simpa [dueSaw] using hd
        simp [toldSaw, ih hc' hd'.1, hd'.2]
      | resumed id => simp [toldSaw, ih hc' hd]
      | _ => exact ih hc' hd
    | _ => exact ih hc' hd

/-- the callbacks alternate as long as no group-stop ends that the consumer was told of -/
theorem stopsAlternate_of_staysStopped [SyscallOps SC] {env : Env} {w : World SC}
    (hw : Reachable env w) (b : TraceeId) (hc : StaysStopped b w.log) :
    StopsAlternate b w.log := by
  have hlegal := (tallies_of_reachable (b := b) hw).2.legal
  refine ⟨fun p hp => ?_, fun p hp => hlegal p _ hp rfl, fun p d hp ht hd => ?_⟩
  · exact told_of_due (hc.mono hp.start) (hlegal p _ hp rfl)
  · have hce := hc p _ hp
    simp [staysStopped, ht, hd] at hce

/-! ### runs of a child -/

/-- every signal is a `SIGCONT` -/
def contEnv : Env := { sigInfo := fun _ _ => Signal.cont }

/-- a child is created and attached to, and its injected `SIGSTOP` is reported -/
def injectedRun : List Op :=
  [.addChild ["sleep"] false false,
    .event ⟨1, .trapped (.event Signal.trap .stop)⟩,
    .event ⟨1, .trapped (.event Signal.stop .stop)⟩]

def injectedWorld : World Empty := runOps contEnv injectedRun {}

theorem injected_reachable : Reachable contEnv injectedWorld :=
  (Reaches.start false).run injectedRun (by decide +kernel)

/-- and the injected `SIGCONT`, too -/
def startedRun : List Op :=
  injectedRun ++ [.event ⟨1, .trapped (.event Signal.trap .stop)⟩, .event ⟨1, .signaled Signal.cont⟩]

def startedWorld : World Empty := runOps contEnv startedRun {}

theorem started_reachable : Reachable contEnv startedWorld :=
  (Reaches.start false).run startedRun (by decide +kernel)

theorem stopsAlternate_started : StopsAlternate 0 startedWorld.log :=
  stopsAlternate_of_staysStopped started_reachable 0 (by unfold StaysStopped; decide +kernel)

/-- the consumer is not told that a task goes on -/
theorem stopsAlternate_fails : ¬ ∀ (env : Env) (w : World Empty), Reachable env w →
    ∀ b, StopsAlternate b w.log := by
  intro h
  have hp : At continuedWorld.log (continuedWorld.log.take 15)
      (.deliver 0 ⟨100, .trapped (.event Signal.trap .stop)⟩) := by
    unfold At
    decide +kernel
  obtain ⟨q, -, hq⟩ := (h {} continuedWorld continued_reachable 0).ended _ _ hp
    (by decide +kernel) (by decide)
  have hn : Entry.callback (.resumed 0) ∉ continuedWorld.log := by decide +kernel
  exact hn hq.mem

/-! ## stop signals -/

/-- there is a stop signal in group-stops only, and it is the one of the last stop -/
structure Tracee.SignalFits (b : TraceeId) (t : Tracee) (log : Log) : Prop where
  iff : t.stopSignal.isSome = true ↔ t.state = .groupStop
  current : ∀ signal, t.stopSignal = some signal →
    ∃ d, lastStop b log = some d ∧ d.groupStop = some signal

/-- the signal of the machine is the one of the last stop -/
theorem lastStop_of_signal {b : TraceeId} {kind : TraceeKind} {log : Log} {signal : Signal}
    (h : (phase b kind log).signal = some signal) :
    ∃ d, lastStop b log = some d ∧ d.groupStop = some signal := by
  induction log using List.reverseRecOn with
  | nil => cases h
  | append_singleton log e ih =>
    rw [phase_snoc] at h
    rw [lastStop_snoc]
    by_cases he : ∃ d, e = .deliver b d
    swap
    · rw [Phase.saw_of_ne fun d hd => he ⟨d, hd⟩] at h
      rw [lastStopSaw_of_ne fun d hd => he ⟨d, hd⟩]
      exact ih h
    obtain ⟨d, rfl⟩ := he
    rw [Phase.saw_deliver] at h
    rw [lastStopSaw_deliver]
    cases hev : d.eventStop with
    | none =>
      rw [Phase.report_of_none hev] at h
      by_cases hn : d.isNews = true
      · rw [if_pos hn] at h
        cases h
      · rw [if_neg hn] at h
        have hs : d.isStop = false := by
          unfold ChildState.isNews at hn
          simp only [Bool.or_eq_true, not_or, Bool.not_eq_true] at hn
          exact hn.1
        rw [hs]
        exact ih h
    | some sig =>
      rw [if_pos (ChildState.isNews_of_eventStop hev).1]
      refine ⟨d, rfl, ?_⟩
      rw [Phase.report_of_some hev] at h
      rw [ChildState.groupStop_some hev]
      cases ha : (phase b kind log).attached with
      | false =>
        rw [Phase.eventStop_attach ha] at h
        cases h
      | true =>
        by_cases hs : sig ∈ stoppingSignals
        · rw [Phase.eventStop_group ha hs] at h
          rw [if_pos hs]
          exact h
        · rw [Phase.eventStop_other ha hs] at h
          cases h

/-- the stop signal fits as long as the tracee does not go out of a group-stop -/
theorem signalFits_of_not_left [SyscallOps SC] {env : Env} {w : World SC} (hw : Reachable env w)
    {b : TraceeId} (hb : b < w.nextObj) (hs : ¬ Strayed b w.log)
    (hl : ¬ Left b (w.objs b).kind w.log) : (w.objs b).SignalFits b w.log := by
  obtain hx | hx | hin := (tallies_of_reachable (b := b) hw).2.inStep hb
  · exact absurd hx hs
  · exact absurd hx hl
  · unfold Tracee.InStep at hin
    by_cases hg : (w.objs b).state = .groupStop
    · rw [if_pos hg] at hin
      refine ⟨⟨fun _ => hg, fun _ => ?_⟩, fun signal hsig => ?_⟩
      · rw [hin.2]
        exact hin.1
      · exact lastStop_of_signal (hin.2.symm.trans hsig)
    · rw [if_neg hg] at hin
      refine ⟨⟨fun h => ?_, fun h => absurd h hg⟩, fun signal hsig => ?_⟩
      · rw [hin] at h
        cases h
      · rw [hin] at hsig
        cases hsig

theorem signalFits_stopped : (stoppedWorld.objs 0).SignalFits 0 stoppedWorld.log :=
  signalFits_of_not_left stopped_reachable (by decide +kernel)
    (not_strayed_of_all (by decide +kernel)) (by unfold Left; decide +kernel)

/-- a child that the tracer restarted from its injected group-stop keeps the signal -/
theorem signalFits_fails : ¬ ∀ (env : Env) (w : World Empty), Reachable env w →
    ∀ b, b < w.nextObj → (w.objs b).SignalFits b w.log := by
  intro h
  have hf := h contEnv injectedWorld injected_reachable 0 (by decide +kernel)
  have hsome : (injectedWorld.objs 0).stopSignal.isSome = true := by decide +kernel
  exact absurd (hf.iff.mp hsome) (by decide +kernel)

/-! ## what the tracer injected -/

/-- the report of a group-stop -/
def isGroupStop (b : TraceeId) : Entry → Bool
  | .deliver id d => decide (id = b) && d.groupStop.isSome
  | _ => false

/-- the report of a `PTRACE_EVENT_STOP` -/
def isEventStop (b : TraceeId) : Entry → Bool
  | .deliver id d => decide (id = b) && d.eventStop.isSome
  | _ => false

/-- the report of a group-stop behind the first `PTRACE_EVENT_STOP`, the initial one -/
def isLateGroupStop (b : TraceeId) (p : Log) (e : Entry) : Bool :=
  isGroupStop b e && p.any (isEventStop b)

/-- the kernel names `SIGCONT` as the signal of a stop -/
def isCont (env : Env) (b : TraceeId) (p : Log) : Entry → Bool
  | .request id (.getSigInfo pid) none => decide (id = b) && decide (env.sigInfo p pid = Signal.cont)
  | _ => false

/-- the group-stop at `s` and the `SIGCONT` at `c` in the log, and only they, count as injected,
and the tracee is traced from then on -/
structure InjectionMatched (b : TraceeId) (s c : Nat) (w : World SC) : Prop where
  sigstop : (w.objs b).flags.injectedSigstop = true ↔ w.log.length ≤ s
  sigcont : (w.objs b).flags.injectedSigcont = true ↔ w.log.length ≤ c
  mode : s < w.log.length → (w.objs b).restartMode = .syscall ∨
    (w.objs b).restartMode = .listen ∧
      ∃ p e, At w.log p e ∧ s < p.length ∧ isGroupStop b e = true

section
variable {b : TraceeId} {kind : TraceeKind} {log : Log} {env : Env}

theorem contSeen_iff : ContSeen env b log ↔ Sometime (fun p e => isCont env b p e = true) log := by
  have hiff : ∀ p e, (∃ pid, e = Entry.request b (.getSigInfo pid) none ∧
      env.sigInfo p pid = Signal.cont) ↔ isCont env b p e = true := by
    intro p e
    constructor
    · rintro ⟨pid, rfl, hs⟩
      simp [isCont, hs]
    · intro h
      unfold isCont at h
      split at h
      · simp only [Bool.and_eq_true, decide_eq_true_eq] at h
        obtain ⟨rfl, hs⟩ := h
        exact ⟨_, rfl, hs⟩
      · cases h
  unfold ContSeen
  simp only [hiff]

/-- the first `PTRACE_EVENT_STOP` is the initial stop -/
theorem attached_iff : (phase b kind log).attached = true ↔ log.any (isEventStop b) = true := by
  induction log using List.reverseRecOn with
  | nil => simp [phase, Phase.start]
  | append_singleton log e ih =>
    rw [phase_snoc, List.any_append, Bool.or_eq_true, ← ih]
    by_cases he : ∃ d, e = .deliver b d
    · obtain ⟨d, rfl⟩ := he
      rw [Phase.saw_deliver]
      cases hev : d.eventStop with
      | none =>
        rw [(Phase.report_keeps hev _).1]
        simp [isEventStop, hev]
      | some signal =>
        have hatt : ((phase b kind log).report d).attached = true := by
          rw [Phase.report_of_some hev]
          cases ha : (phase b kind log).attached with
          | false => rw [Phase.eventStop_attach ha]
          | true =>
            by_cases hs : signal ∈ stoppingSignals
            · rw [Phase.eventStop_group ha hs]
              exact ha
            · rw [Phase.eventStop_other ha hs]
              exact ha
        simp [hatt, isEventStop, hev]
    · have hne : isEventStop b e = false := by
        cases e with
        | deliver id d =>
          have hid : id ≠ b := by
            rintro rfl
            exact he ⟨d, rfl⟩
          simp [isEventStop, hid]
        | _ => rfl
      rw [Phase.saw_of_ne fun d hd => he ⟨d, hd⟩]
      simp [hne]

/-- the first group-stop behind it counts as the injected one -/
theorem injected_iff : (phase b .child log).injected = true ↔
    ¬ Sometime (fun p e => isLateGroupStop b p e = true) log := by
  induction log using List.reverseRecOn with
  | nil => exact iff_of_true rfl not_sometime_nil
  | append_singleton log e ih =>
    rw [phase_snoc, sometime_snoc_iff, not_or, ← ih]
    by_cases he : ∃ d, e = .deliver b d
    · obtain ⟨d, rfl⟩ := he
      rw [Phase.saw_deliver]
      have hlate : isLateGroupStop b log (.deliver b d) = true ↔
          d.groupStop.isSome = true ∧ (phase b .child log).attached = true := by
        rw [attached_iff]
        simp [isLateGroupStop, isGroupStop]
      rw [hlate]
      cases hev : d.eventStop with
      | none =>
        rw [(Phase.report_keeps hev _).2.1, ChildState.groupStop_none hev]
        simp
      | some signal =>
        rw [Phase.report_of_some hev, ChildState.groupStop_some hev]
        cases ha : (phase b .child log).attached with
        | false =>
          rw [Phase.eventStop_attach ha]
          simp
        | true =>
          by_cases hs : signal ∈ stoppingSignals
          · rw [Phase.eventStop_group ha hs, if_pos hs]
            simp
          · rw [Phase.eventStop_other ha hs, if_neg hs]
            simp
    · have hne : isLateGroupStop b log e = false := by
        cases e with
        | deliver id d =>
          have hid : id ≠ b := by
            rintro rfl
            exact he ⟨d, rfl⟩
          simp [isLateGroupStop, isGroupStop, hid]
        | _ => rfl
      rw [Phase.saw_of_ne fun d hd => he ⟨d, hd⟩, hne]
      simp

/-- the tracer listens behind a group-stop that did not count as the injected one -/
theorem mode_of_injected (h : (phase b .child log).injected = false) :
    (phase b .child log).mode = .syscall ∨ (phase b .child log).mode = .listen ∧
      Sometime (fun p e => isGroupStop b e = true ∧ (phase b .child p).injected = false) log := by
  induction log using List.reverseRecOn with
  | nil => cases h
  | append_singleton log e ih =>
    have hgrow : ∀ e, Sometime (fun p e => isGroupStop b e = true ∧
        (phase b .child p).injected = false) log → Sometime (fun p e => isGroupStop b e = true ∧
        (phase b .child p).injected = false) (log ++ [e]) := fun e hs =>
      hs.mono (List.prefix_append _ _)
    rw [phase_snoc] at h ⊢
    by_cases he : ∃ d, e = .deliver b d
    swap
    · rw [Phase.saw_of_ne fun d hd => he ⟨d, hd⟩] at h ⊢
      exact (ih h).imp_right fun hm => ⟨hm.1, hgrow e hm.2⟩
    obtain ⟨d, rfl⟩ := he
    rw [Phase.saw_deliver] at h ⊢
    cases hev : d.eventStop with
    | none =>
      obtain ⟨-, hi, hm, -⟩ := Phase.report_keeps hev (phase b .child log)
      rw [hm]
      exact (ih (hi ▸ h)).imp_right fun hm => ⟨hm.1, hgrow _ hm.2⟩
    | some signal =>
      rw [Phase.report_of_some hev] at h ⊢
      cases ha : (phase b .child log).attached with
      | false =>
        rw [Phase.eventStop_attach ha] at h ⊢
        have hi : (phase b .child log).injected = false := h
        rw [hi]
        exact Or.inl rfl
      | true =>
        by_cases hs : signal ∈ stoppingSignals
        · rw [Phase.eventStop_group ha hs]
          cases hi : (phase b .child log).injected with
          | true => exact Or.inl rfl
          | false =>
            refine Or.inr ⟨rfl, sometime_snoc_iff.mpr (Or.inr ⟨?_, hi⟩)⟩
            simp [isGroupStop, ChildState.groupStop_some hev, hs]
        · rw [Phase.eventStop_other ha hs] at h ⊢
          by_cases ht : signal = Signal.trap
          · rw [if_pos ht]
            exact Or.inl rfl
          · rw [if_neg ht]
            exact (ih h).imp_right fun hm => ⟨hm.1, hgrow _ hm.2⟩

end

/-- the injected stops are told apart when they are the first of their kind behind the initial
ptrace stop -/
theorem injectionMatched_of_first [SyscallOps SC] {env : Env} {w : World SC}
    (hw : Reachable env w) {b : TraceeId} (ht : w.Tracked b) (hk : (w.objs b).kind = .child)
    (hd : ¬ Departed w.log b) {s c : Nat}
    (hs : FirstAt (fun p e => isLateGroupStop b p e = true) s w.log)
    (hc : FirstAt (fun p e => isCont env b p e = true) c w.log) : InjectionMatched b s c w := by
  obtain ⟨hsound, htal⟩ := tallies_of_reachable (b := b) hw
  have hmk := (htal.marks ht).resolve_left hd
  have hmode := (htal.mode (hsound b ht)).resolve_left hd
  have hinj : (phase b .child w.log).injected = true ↔ w.log.length ≤ s := by
    rw [injected_iff, hs.sometime_iff, not_lt]
  rw [hk] at hmode
  refine ⟨?_, ?_, fun hlt => ?_⟩
  · rw [hmk.sigstop, hk]
    exact hinj
  · rw [hmk.sigcont, contSeen_iff, hc.sometime_iff, not_lt]
    exact and_iff_right hk
  · have hni : (phase b .child w.log).injected = false := by
      by_contra h
      exact absurd (hinj.mp (by simpa using h)) (not_le.mpr hlt)
    rw [hmode]
    refine (mode_of_injected hni).imp_right fun ⟨hm, p, e, hp, hg, hi⟩ =>
      ⟨hm, p, e, hp, ?_, hg⟩
    -- before the injected group-stop, the flag is set
    have hsp : FirstAt (fun p e => isLateGroupStop b p e = true) s p := hs.mono hp.start
    rw [← hsp.sometime_iff]
    by_contra hns
    rw [injected_iff.mpr hns] at hi
    cases hi

theorem injectionMatched_started : InjectionMatched 0 12 23 startedWorld :=
  injectionMatched_of_first started_reachable ⟨1, by decide +kernel⟩ (by decide +kernel)
    (by unfold Departed; decide +kernel) (by unfold FirstAt; decide +kernel)
    (by unfold FirstAt; decide +kernel)

/-- the injected group-stop is the first stop that is reported, and counts as the initial one -/
def earlyRun : List Op :=
  [.addChild ["sleep"] false false,
    .event ⟨1, .trapped (.event Signal.stop .stop)⟩,
    .event ⟨1, .trapped (.event Signal.trap .stop)⟩,
    .event ⟨1, .signaled Signal.cont⟩]

def earlyWorld : World Empty := runOps contEnv earlyRun {}

theorem early_reachable : Reachable contEnv earlyWorld :=
  (Reaches.start false).run earlyRun (by decide +kernel)

theorem injectionMatched_fails : ¬ ∀ (env : Env) (w : World Empty) (b : TraceeId) (s c : Nat),
    Reachable env w → w.Tracked b → (w.objs b).kind = .child → ¬ Departed w.log b →
    (∀ p e, At w.log p e → p.length = s → isGroupStop b e = true) →
    (∀ p e, At w.log p e → p.length = c → isCont env b p e = true) →
    InjectionMatched b s c w := by
  intro h
  have hs : Always (fun p e => p.length = 6 → isGroupStop 0 e = true) earlyWorld.log := by
    decide +kernel
  have hc : Always (fun p e => p.length = 16 → isCont contEnv 0 p e = true) earlyWorld.log := by
    decide +kernel
  have hm := h contEnv earlyWorld 0 6 16 early_reachable ⟨1, by decide +kernel⟩
    (by decide +kernel) (by unfold Departed; decide +kernel) hs hc
  have hflag : (earlyWorld.objs 0).flags.injectedSigstop = true := by decide +kernel
  exact absurd (hm.sigstop.mp hflag) (by decide +kernel)

end Clues
