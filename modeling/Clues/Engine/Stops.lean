import Clues.Engine.Besides
import Clues.Lib.History

/-!
# The stops of one tracee

What the log says about the stops of a tracee `b` decides what the tracer does at the next one.

* `Phase`      the state of a machine that sees the stops reported for `b`;
* `due`, `told`   whether the consumer is still to be told of a group-stop, and of its end;
* `Allowed`    when a restart of `b`, and the callbacks `stopped()` and `resumed()`, may come;
* `Strayed`, `Left`   the log of a tracee that was reported although the tracer had departed from
               it, or that went out of a group-stop;
* `Tallies`    the object agrees with the log, in every state that is reached
               (`tallies_of_reachable`).
-/

set_option linter.unusedSectionVars false

namespace Clues

open Lib Lib.Exec Lib.History Step

variable {SC : Type}

/-! ## reports -/

/-- a report of a ptrace stop -/
def ChildState.isStop (d : ChildState) : Bool :=
  match d.event with
  | .trapped _ | .signaled _ => true
  | _ => false

/-- the signal of a `PTRACE_EVENT_STOP` -/
def ChildState.eventStop (d : ChildState) : Option Signal :=
  match d.event with
  | .trapped (.event signal .stop) => some signal
  | _ => none

/-- the signal of a group-stop -/
def ChildState.groupStop (d : ChildState) : Option Signal :=
  d.eventStop.filter fun signal => signal ∈ stoppingSignals

/-- the state of the tracee is another one then -/
def ChildState.isNews (d : ChildState) : Bool := d.isStop || d.isEnd

theorem ChildState.isNews_of_eventStop {d : ChildState} {signal : Signal}
    (h : d.eventStop = some signal) : d.isStop = true ∧ d.isEnd = false := by
  obtain ⟨pid, event⟩ := d
  cases event with
  | trapped trap => exact ⟨rfl, rfl⟩
  | _ => cases h

theorem ChildState.groupStop_some {d : ChildState} {signal : Signal}
    (h : d.eventStop = some signal) :
    d.groupStop = if signal ∈ stoppingSignals then some signal else none := by
  unfold ChildState.groupStop
  rw [h]
  simp [Option.filter]

theorem ChildState.groupStop_none {d : ChildState} (h : d.eventStop = none) :
    d.groupStop = none := by
  unfold ChildState.groupStop
  rw [h]
  rfl

/-! ## the machine -/

/-- what the reports about a tracee amount to -/
structure Phase where
  /-- the initial ptrace stop was reported -/
  attached : Bool := false
  /-- the group-stop of the injected `SIGSTOP` is still to come -/
  injected : Bool
  mode : RestartMode := .cont
  /-- the tracee is in a group-stop for this signal -/
  signal : Option Signal := none
  deriving DecidableEq

def Phase.start (kind : TraceeKind) : Phase := { injected := kind = .child }

/-- a `PTRACE_EVENT_STOP`: the initial one, a group-stop, or another one -/
def Phase.eventStop (ph : Phase) (signal : Signal) : Phase :=
  if ph.attached = false then
    { ph with
      attached := true, signal := none, mode := if ph.injected then ph.mode else .syscall }
  else if signal ∈ stoppingSignals then
    { ph with
      injected := false, signal := some signal, mode := if ph.injected then .syscall else .listen }
  else { ph with signal := none, mode := if signal = Signal.trap then .syscall else ph.mode }

/-- any other stop, and the end of the tracee, end a group-stop -/
def Phase.report (ph : Phase) (d : ChildState) : Phase :=
  match d.eventStop with
  | some signal => ph.eventStop signal
  | none => if d.isNews then { ph with signal := none } else ph

def Phase.saw (b : TraceeId) (ph : Phase) : Entry → Phase
  | .deliver id d => if id = b then ph.report d else ph
  | _ => ph

/-- the machine for a tracee, behind the log -/
def phase (b : TraceeId) (kind : TraceeKind) (log : Log) : Phase :=
  replay (Phase.saw b) (Phase.start kind) log

def lastStopSaw (b : TraceeId) (r : Option ChildState) : Entry → Option ChildState
  | .deliver id d => if id = b ∧ d.isStop = true then some d else r
  | _ => r

/-- the last stop that was reported for the tracee -/
def lastStop (b : TraceeId) (log : Log) : Option ChildState := replay (lastStopSaw b) none log

def dueSaw (b : TraceeId) (r : Bool) : Entry → Bool
  | .deliver id d => if id = b ∧ d.isNews = true then d.groupStop.isSome else r
  | .callback (.stopped id) => r && decide (id ≠ b)
  | _ => r

/-- the last report is a group-stop of which the consumer was not told yet -/
def due (b : TraceeId) (log : Log) : Bool := replay (dueSaw b) false log

def toldSaw (b : TraceeId) (r : Bool) : Entry → Bool
  | .callback (.stopped id) => r || decide (id = b)
  | .callback (.resumed id) => r && decide (id ≠ b)
  | _ => r

/-- the consumer was told that the tracee stopped, and not that it goes on -/
def told (b : TraceeId) (log : Log) : Bool := replay (toldSaw b) false log

section
variable {b : TraceeId} {kind : TraceeKind} {log es : Log} {e : Entry}

@[simp] theorem phase_snoc : phase b kind (log ++ [e]) = (phase b kind log).saw b e :=
  replay_snoc ..
@[simp] theorem lastStop_snoc : lastStop b (log ++ [e]) = lastStopSaw b (lastStop b log) e :=
  replay_snoc ..
@[simp] theorem due_snoc : due b (log ++ [e]) = dueSaw b (due b log) e := replay_snoc ..
@[simp] theorem told_snoc : told b (log ++ [e]) = toldSaw b (told b log) e := replay_snoc ..

/-- a report for the tracee is the only entry that the machine reacts to -/
theorem Phase.saw_of_ne (h : ∀ d, e ≠ .deliver b d) (ph : Phase) : ph.saw b e = ph := by
  cases e with
  | deliver id d =>
    refine if_neg ?_
    rintro rfl
    exact h d rfl
  | _ => rfl

@[simp] theorem Phase.saw_deliver (ph : Phase) (d : ChildState) :
    ph.saw b (.deliver b d) = ph.report d := if_pos rfl

theorem not_deliver_of_idle (h : e.isStop b = false) (d : ChildState) : e ≠ .deliver b d := by
  rintro rfl
  simp [Entry.isStop] at h

theorem phase_append_of_idle (h : ∀ e ∈ es, e.isStop b = false) :
    phase b kind (log ++ es) = phase b kind log :=
  replay_append_of_idle fun e he ph => Phase.saw_of_ne (not_deliver_of_idle (h e he)) ph

theorem toldSaw_idle (h : e.isStop b = false) (r : Bool) : toldSaw b r e = r := by
  cases e with
  | callback c =>
    cases c with
    | stopped id =>
      have hb : id ≠ b := of_decide_eq_false h
      simp [toldSaw, hb]
    | resumed id =>
      have hb : id ≠ b := of_decide_eq_false h
      simp [toldSaw, hb]
    | _ => rfl
  | _ => rfl

theorem told_append_of_idle (h : ∀ e ∈ es, e.isStop b = false) :
    told b (log ++ es) = told b log :=
  replay_append_of_idle fun e he r => toldSaw_idle (h e he) r

theorem Phase.report_end {d : ChildState} (h : d.isEnd = true) (ph : Phase) :
    ph.report d = { ph with signal := none } := by
  obtain ⟨pid, event⟩ := d
  cases event with
  | exited | killed | dumped => rfl
  | _ => cases h

theorem Phase.report_of_none {d : ChildState} (h : d.eventStop = none) (ph : Phase) :
    ph.report d = if d.isNews then { ph with signal := none } else ph := by
  unfold Phase.report
  rw [h]

theorem Phase.report_of_some {d : ChildState} {signal : Signal} (h : d.eventStop = some signal)
    (ph : Phase) : ph.report d = ph.eventStop signal := by
  unfold Phase.report
  rw [h]

variable {ph : Phase} {signal : Signal}

theorem Phase.eventStop_attach (h : ph.attached = false) : ph.eventStop signal = { ph with
    attached := true, signal := none, mode := if ph.injected then ph.mode else .syscall } :=
  if_pos h

theorem Phase.eventStop_group (h : ph.attached = true) (hs : signal ∈ stoppingSignals) :
    ph.eventStop signal = { ph with
      injected := false, signal := some signal,
      mode := if ph.injected then .syscall else .listen } := by
  unfold Phase.eventStop
  rw [h, if_neg (fun h => nomatch h), if_pos hs]

theorem Phase.eventStop_other (h : ph.attached = true) (hs : signal ∉ stoppingSignals) :
    ph.eventStop signal = { ph with
      signal := none, mode := if signal = Signal.trap then .syscall else ph.mode } := by
  unfold Phase.eventStop
  rw [h, if_neg (fun h => nomatch h), if_neg hs]

end

/-! ## what is to be shown of a log -/

/-- an event other than its end was reported for the tracee after the tracer had departed -/
def Strayed (b : TraceeId) : Log → Prop :=
  Sometime fun p e => ∃ d, e = .deliver b d ∧ d.isEnd = false ∧ Departed p b

/-- the tracee goes out of a group-stop: another report says so, the tracer departs, or the
group-stop is the injected one, from which the tracer restarts it -/
def leaves (b : TraceeId) (ph : Phase) : Entry → Bool
  | .deliver id d => decide (id = b) &&
      (ph.signal.isSome && (ph.report d).signal.isNone ||
        d.groupStop.isSome && ph.attached && ph.injected)
  | e => ph.signal.isSome && e.departs b

def Left (b : TraceeId) (kind : TraceeKind) : Log → Prop :=
  Sometime fun p e => leaves b (phase b kind p) e = true

/-- the requests and callbacks about a tracee that may follow a log -/
def Allowed (b : TraceeId) (kind : TraceeKind) (p : Log) : Entry → Prop
  | .request id (.restart _ mode _) _ => id = b → Strayed b p ∨ mode = (phase b kind p).mode
  | .callback (.stopped id) => id = b → due b p = true
  | .callback (.resumed id) => id = b → told b p = true
  | _ => True

def Legal (b : TraceeId) (kind : TraceeKind) : Log → Prop := Always (Allowed b kind)

/-- the tracer learned of a `SIGCONT` for the tracee -/
def ContSeen (env : Env) (b : TraceeId) : Log → Prop :=
  Sometime fun p e => ∃ pid, e = .request b (.getSigInfo pid) none ∧ env.sigInfo p pid = Signal.cont

section
variable {b : TraceeId} {kind : TraceeKind} {log log' es : Log} {e : Entry} {env : Env}

theorem allowed_of_idle (h : e.isStop b = false) (p : Log) : Allowed b kind p e := by
  cases e with
  | request id r error =>
    cases r with
    | restart pid mode sig => exact fun hb => absurd hb (of_decide_eq_false h)
    | _ => trivial
  | callback c =>
    cases c with
    | stopped id => exact fun hb => absurd hb (of_decide_eq_false h)
    | resumed id => exact fun hb => absurd hb (of_decide_eq_false h)
    | _ => trivial
  | _ => trivial

theorem Legal.append (h : Legal b kind log) (hes : ∀ e ∈ es, e.isStop b = false) :
    Legal b kind (log ++ es) := Always.append h fun e he p => allowed_of_idle (hes e he) p

theorem Legal.snoc (h : Legal b kind log) (he : Allowed b kind log e) :
    Legal b kind (log ++ [e]) := always_snoc_iff.mpr ⟨h, he⟩

theorem contSeen_append (hes : ∀ e ∈ es, e.isStop b = false) :
    ContSeen env b (log ++ es) ↔ ContSeen env b log := by
  refine sometime_append_iff fun e he p => ?_
  rintro ⟨pid, rfl, -⟩
  have h := hes _ he
  simp [Entry.isStop] at h

theorem Departed.mono (h : Departed log b) (hl : log <+: log') : Departed log' b := by
  obtain ⟨es, rfl⟩ := hl
  exact h.append es

theorem Strayed.departed (h : Strayed b log) : Departed log b := by
  obtain ⟨p, e, hp, d, -, -, hd⟩ := h
  exact hd.mono hp.start

theorem departed_snoc_iff : Departed (log ++ [e]) b ↔ Departed log b ∨ e.departs b = true := by
  unfold Departed
  simp only [List.mem_append, List.mem_singleton, or_and_right, exists_or, exists_eq_left]

theorem Strayed.grow (h : Strayed b log) : Strayed b (log ++ [e]) := h.mono (List.prefix_append _ _)

theorem Left.grow (h : Left b kind log) : Left b kind (log ++ [e]) :=
  h.mono (List.prefix_append _ _)

theorem leaves_of_departs {ph : Phase} (he : e.departs b = true) (hs : ph.signal.isSome = true) :
    leaves b ph e = true := by
  cases e with
  | deliver id d => cases he
  | _ => exact Bool.and_eq_true_iff.mpr ⟨hs, he⟩

theorem leaves_deliver_iff {ph : Phase} {d : ChildState} : leaves b ph (.deliver b d) = true ↔
    ph.signal.isSome = true ∧ (ph.report d).signal = none ∨
      d.groupStop.isSome = true ∧ ph.attached = true ∧ ph.injected = true := by
  simp [leaves, and_assoc]

/-- a tracee from which the tracer departed is in no group-stop, unless it went astray -/
theorem strayed_or_left_of_departed (hd : Departed log b)
    (hs : (phase b kind log).signal.isSome = true) : Strayed b log ∨ Left b kind log := by
  induction log using List.reverseRecOn with
  | nil => cases hs
  | append_singleton log e ih =>
    by_cases he : ∃ d, e = .deliver b d
    · obtain ⟨d, rfl⟩ := he
      obtain hd | hd := departed_snoc_iff.mp hd
      · refine Or.inl (sometime_snoc_iff.mpr (Or.inr ⟨d, rfl, ?_, hd⟩))
        by_contra hend
        rw [phase_snoc, Phase.saw_deliver, Phase.report_end (by simpa using hend)] at hs
        cases hs
      · cases hd
    · rw [phase_snoc, Phase.saw_of_ne fun d hd => he ⟨d, hd⟩] at hs
      obtain hd | hd := departed_snoc_iff.mp hd
      · exact (ih hd hs).imp Strayed.grow Left.grow
      · exact Or.inr (sometime_snoc_iff.mpr (Or.inr (leaves_of_departs hd hs)))

/-- the tracer listens to a tracee in a group-stop, unless the group-stop is the injected one -/
theorem listen_or_left (hs : (phase b kind log).signal.isSome = true) :
    (phase b kind log).mode = .listen ∨ Left b kind log := by
  induction log using List.reverseRecOn with
  | nil => cases hs
  | append_singleton log e ih =>
    rw [phase_snoc] at hs ⊢
    by_cases he : ∃ d, e = .deliver b d
    · obtain ⟨d, rfl⟩ := he
      rw [Phase.saw_deliver] at hs ⊢
      cases hev : d.eventStop with
      | none =>
        rw [Phase.report_of_none hev] at hs ⊢
        split_ifs at hs ⊢ with hn
        · cases hs
        · exact (ih hs).imp_right Left.grow
      | some signal =>
        rw [Phase.report_of_some hev] at hs ⊢
        cases ha : (phase b kind log).attached with
        | false =>
          rw [Phase.eventStop_attach ha] at hs
          cases hs
        | true =>
          by_cases hsig : signal ∈ stoppingSignals
          · rw [Phase.eventStop_group ha hsig]
            cases hinj : (phase b kind log).injected with
            | false => exact Or.inl rfl
            | true =>
              refine Or.inr (sometime_snoc_iff.mpr (Or.inr
                (leaves_deliver_iff.mpr (Or.inr ⟨?_, ha, hinj⟩))))
              rw [ChildState.groupStop_some hev, if_pos hsig]
              rfl
          · rw [Phase.eventStop_other ha hsig] at hs
            cases hs
    · rw [Phase.saw_of_ne fun d hd => he ⟨d, hd⟩] at hs ⊢
      exact (ih hs).imp_right Left.grow

end

/-! ## the object agrees with the log -/

/-- state and stop signal agree with the last report -/
def Tracee.InStep (t : Tracee) (ph : Phase) : Prop :=
  if t.state = .groupStop then ph.signal.isSome = true ∧ t.stopSignal = ph.signal
  else t.stopSignal = none

/-- the flags agree with what was reported -/
structure Marked (env : Env) (b : TraceeId) (t : Tracee) (log : Log) : Prop where
  wait : t.flags.waitForAttachStop = !(phase b t.kind log).attached
  sigstop : t.flags.injectedSigstop = (phase b t.kind log).injected
  sigcont : t.flags.injectedSigcont = true ↔ t.kind = .child ∧ ¬ ContSeen env b log

/-- the object agrees with the log; its restart mode need not under `L` -/
structure Tallies (env : Env) (b : TraceeId) (L : Log → Prop) (w : World SC) : Prop where
  unborn : w.nextObj ≤ b → ∀ e ∈ w.log, e.isStop b = false
  legal : Legal b (w.objs b).kind w.log
  marks : w.Tracked b → Departed w.log b ∨ Marked env b (w.objs b) w.log
  mode : b < w.nextObj → L w.log ∨
    (w.objs b).restartMode = (phase b (w.objs b).kind w.log).mode
  grouped : b < w.nextObj → (w.objs b).state = .groupStop → told b w.log = true
  inStep : b < w.nextObj → Strayed b w.log ∨ Left b (w.objs b).kind w.log ∨
    (w.objs b).InStep (phase b (w.objs b).kind w.log)

/-- it holds of longer logs, too -/
def Lasts (L : Log → Prop) : Prop := ∀ log log' : Log, L log → log <+: log' → L log'

theorem lasts_departed (b : TraceeId) : Lasts fun log => Departed log b := fun _ _ h => h.mono

theorem lasts_strayed (b : TraceeId) : Lasts (Strayed b) := fun _ _ h => h.mono

section
variable [SyscallOps SC] {C : Prop} {b : TraceeId} {env : Env} {L L' : Log → Prop} {w w' : World SC}

theorem Aside.idle (h : Aside False C b w w') :
    ∃ es, w'.log = w.log ++ es ∧ ∀ e ∈ es, e.isStop b = false := by
  obtain ⟨es, he, hes⟩ := h.log
  exact ⟨es, he, fun e hm => Bool.eq_false_iff.mpr fun hs => (hes e hm).1 hs⟩

theorem Aside.kind_eq (h : Aside False C b w w') (hb : b < w.nextObj) :
    (w'.objs b).kind = (w.objs b).kind := by
  obtain hS | hs | ⟨hp, -⟩ := h.stops fun hle => absurd hb (not_lt.mpr hle)
  · exact hS.elim
  · exact congrArg Prod.fst hs
  · exact hp.kind

theorem Aside.phase_eq (h : Aside False C b w w') (hb : b < w.nextObj) :
    phase b (w'.objs b).kind w'.log = phase b (w.objs b).kind w.log := by
  obtain ⟨es, he, hes⟩ := h.idle
  rw [h.kind_eq hb, he, phase_append_of_idle hes]

theorem Aside.told_eq (h : Aside False C b w w') : told b w'.log = told b w.log := by
  obtain ⟨es, he, hes⟩ := h.idle
  rw [he, told_append_of_idle hes]

theorem Aside.contSeen_iff (h : Aside False C b w w') :
    ContSeen env b w'.log ↔ ContSeen env b w.log := by
  obtain ⟨es, he, hes⟩ := h.idle
  rw [he, contSeen_append hes]

/-- of a tracee that was not made yet, the log says nothing -/
theorem phase_unborn {log : Log} (h : ∀ e ∈ log, e.isStop b = false) (kind : TraceeKind) :
    phase b kind log = Phase.start kind := by
  have ha : phase b kind ([] ++ log) = phase b kind [] := phase_append_of_idle h
  exact ha

theorem not_contSeen_unborn {log : Log} (h : ∀ e ∈ log, e.isStop b = false) :
    ¬ ContSeen env b log := by
  have hn : ContSeen env b ([] ++ log) ↔ ContSeen env b [] := contSeen_append h
  exact fun hc => not_sometime_nil (hn.mp hc)

theorem Tallies.idle (h : Tallies env b L w) (ha : Aside False C b w w') (hb : w.nextObj ≤ b) :
    ∀ e ∈ w'.log, e.isStop b = false := by
  obtain ⟨es, he, hes⟩ := ha.idle
  intro e hm
  rw [he] at hm
  rcases List.mem_append.mp hm with hm | hm
  · exact h.unborn hb e hm
  · exact hes e hm

theorem Tallies.legal_aside (h : Tallies env b L w) (ha : Aside False C b w w') :
    Legal b (w'.objs b).kind w'.log := by
  by_cases hb : b < w.nextObj
  · obtain ⟨es, he, hes⟩ := ha.idle
    rw [ha.kind_eq hb, he]
    exact h.legal.append hes
  · have hl : Legal b (w'.objs b).kind ([] ++ w'.log) :=
      Always.append always_nil fun e he p => allowed_of_idle (h.idle ha (not_lt.mp hb) e he) p
    exact hl

theorem Marked.aside {t t' : Tracee} (h : Marked env b t w.log) (ha : Aside False C b w w')
    (hk : t'.kind = t.kind) (hm : t'.marks = t.marks) : Marked env b t' w'.log := by
  obtain ⟨es, he, hes⟩ := ha.idle
  unfold Tracee.marks at hm
  simp only [Prod.mk.injEq] at hm
  obtain ⟨h1, h2, h3⟩ := hm
  have hph : phase b t'.kind w'.log = phase b t.kind w.log := by
    rw [hk, he, phase_append_of_idle hes]
  refine ⟨?_, ?_, ?_⟩
  · rw [h1, hph, h.wait]
  · rw [h2, hph, h.sigstop]
  · rw [h3, hk, ha.contSeen_iff]
    exact h.sigcont

theorem Tracee.Fresh.marked {t : Tracee} (h : t.Fresh) {log : Log}
    (hlog : ∀ e ∈ log, e.isStop b = false) : Marked env b t log := by
  have hm := h.marks
  unfold Tracee.marks Tracee.isChildProcess at hm
  simp only [Prod.mk.injEq] at hm
  obtain ⟨h1, h2, h3⟩ := hm
  refine ⟨?_, ?_, ?_⟩
  · rw [h1, phase_unborn hlog]
    rfl
  · rw [h2, phase_unborn hlog]
    rfl
  · rw [h3, decide_eq_true_eq]
    exact ⟨fun hk => ⟨hk, not_contSeen_unborn hlog⟩, fun hk => hk.1⟩

theorem Tallies.marks_aside (h : Tallies env b L w) (hw : w.Sound) (ha : Aside False C b w w')
    (ht : w'.Tracked b) : Departed w'.log b ∨ Marked env b (w'.objs b) w'.log := by
  obtain ht₀ | ⟨hb, -, hf⟩ := ha.tracked ht
  · have hb : b < w.nextObj := hw b ht₀
    obtain hS | hm | hd := ha.marks (fun hle => absurd hb (not_lt.mpr hle)) ht
    · exact hS.elim
    · exact (h.marks ht₀).imp ha.departed fun hk => hk.aside ha (ha.kind_eq hb) hm
    · exact Or.inl hd
  · obtain hS | hf | hd := hf
    · exact hS.elim
    · exact Or.inr (hf.marked (h.idle ha hb))
    · exact Or.inl hd

theorem Tallies.mode_aside (hL : Lasts L) (h : Tallies env b L w) (ha : Aside False C b w w')
    (hb' : b < w'.nextObj) :
    L w'.log ∨ (w'.objs b).restartMode = (phase b (w'.objs b).kind w'.log).mode := by
  by_cases hb : b < w.nextObj
  · have hm : (w'.objs b).restartMode = (w.objs b).restartMode := by
      obtain hS | hs | ⟨hp, -⟩ := ha.stops fun hle => absurd hb (not_lt.mpr hle)
      · exact hS.elim
      · exact congrArg (fun x => x.2.2.1) hs
      · exact hp.mode
    rw [hm, ha.phase_eq hb]
    exact (h.mode hb).imp_left fun hl => hL _ _ hl ha.log_grows
  · have hn := h.idle ha (not_lt.mp hb)
    rw [phase_unborn hn]
    exact Or.inr ((ha.born (not_lt.mp hb) hb').mode.resolve_left id)

theorem Tallies.grouped_aside (h : Tallies env b L w) (ha : Aside False C b w w')
    (hb' : b < w'.nextObj) (hg : (w'.objs b).state = .groupStop) : told b w'.log = true := by
  by_cases hb : b < w.nextObj
  · rw [ha.told_eq]
    obtain hS | hs | ⟨hp, -⟩ := ha.stops fun hle => absurd hb (not_lt.mpr hle)
    · exact hS.elim
    · have hst : (w'.objs b).state = (w.objs b).state := congrArg (fun x => x.2.1) hs
      exact h.grouped hb (hst ▸ hg)
    · have he := hp.ended
      unfold Tracee.ended at he
      rw [hg] at he
      cases he
  · exact absurd hg ((ha.born (not_lt.mp hb) hb').state.resolve_left id)

/-- a tracee that departs from a group-stop has left it -/
theorem Tracee.InStep.parts {t t' : Tracee} {log log' : Log} {kind : TraceeKind}
    (hin : t.InStep (phase b kind log)) (hp : Parts t t')
    (hph : phase b kind log' = phase b kind log)
    (hd : Departed log' b ∨ t.state = .unknown) :
    Strayed b log' ∨ Left b kind log' ∨ t'.InStep (phase b kind log') := by
  have hne : t'.state ≠ .groupStop := fun hg => by
    have he := hp.ended
    unfold Tracee.ended at he
    rw [hg] at he
    cases he
  have hnone : t.stopSignal = none → t'.InStep (phase b kind log') := fun hn => by
    unfold Tracee.InStep
    rw [if_neg hne]
    obtain hs | hs := hp.signal
    · exact hs.trans hn
    · exact hs
  unfold Tracee.InStep at hin
  split_ifs at hin with hg
  · obtain hd | hu := hd
    · have hex : Strayed b log' ∨ Left b kind log' :=
        strayed_or_left_of_departed hd (by rw [hph]; exact hin.1)
      exact hex.imp_right Or.inl
    · rw [hu] at hg
      cases hg
  · exact Or.inr (Or.inr (hnone hin))

theorem Tallies.inStep_aside (h : Tallies env b L w) (ha : Aside False C b w w')
    (hb' : b < w'.nextObj) : Strayed b w'.log ∨ Left b (w'.objs b).kind w'.log ∨
      (w'.objs b).InStep (phase b (w'.objs b).kind w'.log) := by
  by_cases hb : b < w.nextObj
  · have hph : phase b (w.objs b).kind w'.log = phase b (w.objs b).kind w.log := by
      rw [← ha.kind_eq hb]
      exact (ha.phase_eq hb).trans (by rw [ha.kind_eq hb])
    rw [ha.kind_eq hb]
    obtain hs | hl | hin := h.inStep hb
    · exact Or.inl (hs.mono ha.log_grows)
    · exact Or.inr (Or.inl (hl.mono ha.log_grows))
    · obtain hS | hs | ⟨hp, hd⟩ := ha.stops fun hle => absurd hb (not_lt.mpr hle)
      · exact hS.elim
      · refine Or.inr (Or.inr ?_)
        unfold Tracee.stops at hs
        simp only [Prod.mk.injEq] at hs
        unfold Tracee.InStep at hin ⊢
        rw [hs.2.1, hs.2.2.2, hph]
        exact hin
      · exact hin.parts hp hph (hd.imp_right And.right)
  · have hborn := ha.born (not_lt.mp hb) hb'
    refine Or.inr (Or.inr ?_)
    unfold Tracee.InStep
    rw [if_neg (hborn.state.resolve_left id)]
    exact hborn.signal.resolve_left id

/-- what goes on around a tracee keeps it in agreement with the log -/
theorem Tallies.aside (hL : Lasts L) (h : Tallies env b L w) (hw : w.Sound)
    (ha : Aside False C b w w') : Tallies env b L w' where
  unborn hb := h.idle ha (ha.nextObj.trans hb)
  legal := h.legal_aside ha
  marks := h.marks_aside hw ha
  mode := h.mode_aside hL ha
  grouped := h.grouped_aside ha
  inStep := h.inStep_aside ha

end

end Clues
