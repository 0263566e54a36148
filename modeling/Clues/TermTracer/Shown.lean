import Clues.TermTracer.Counter
import Clues.TermTracer.Lines

/-!
# What the callbacks show

* `Shown`            the calls of the filter that were entered and have not ended, the tracee that
                     the last line is about, and the number of tracees, by the callbacks alone;
* `Shown.Fits`       the callbacks that the tracer can follow;
* `Shown.lines`      the lines of calls to expect of a callback;
* `Session.tell_shown`   the tracer follows what is shown as long as the callbacks fit.
-/

namespace Clues

open Lib Lib.Exec TermTracer

/-! ## the callbacks alone -/

structure Shown where
  /-- the calls of the filter that were entered and have not ended -/
  opened : Opened := fun _ => none
  /-- the tracee whose entry is the last line -/
  last : Option ProcessID := none
  /-- the tracees that were attached and are not gone -/
  tracees : UInt64 := 0

namespace TermTracer.Consumer

variable (cfg : Config)

/-- a new execution context ends the calls of both PIDs -/
def opens (o : Opened) : Consumer → Opened
  | .syscallEntry t sc _ _ =>
      if isEnabled cfg (some sc) then Function.update o t.pid (some sc) else o
  | .syscallExit t sc hasResult =>
      if isEnabled cfg (some sc) ∧ ¬ (isExecSyscall sc && hasResult)
      then Function.update o t.pid none else o
  | .exited t _ _ | .disappeared t _ => Function.update o t.pid none
  | .newExecutionContext t old _ => fun p =>
      if p = t.pid ∨ old.map Subtype.val = some p then none else o p
  | _ => o

/-- the tracee whose entry is the last line then; most callbacks begin another line -/
def ends (σ : Shown) : Consumer → Option ProcessID
  | .syscallEntry t sc _ _ => if isEnabled cfg (some sc) then some t.pid else σ.last
  | .syscallExit _ sc hasResult =>
      if isEnabled cfg (some sc) ∧ ¬ (isExecSyscall sc && hasResult) then none else σ.last
  | .attached _ => if σ.tracees = 0 then σ.last else none
  | .stopped t => if t.syscallCtr = 0 then none else σ.last
  | .newChildProcess _ _ _ _ _ => if cfg.followChildren = .ask then none else σ.last
  | .signaled _ _ | .exited _ _ _ | .disappeared _ _ | .newExecutionContext _ _ _ => none

end TermTracer.Consumer

namespace Shown

variable (cfg : Config)

def after (σ : Shown) (k : Consumer) : Shown where
  opened := k.opens cfg σ.opened
  last := k.ends cfg σ
  tracees := k.count σ.tracees

/-- entries and exits of a PID alternate; with a new execution context the last line is no entry of
another tracee, and of two calls that end with it one is the thread's that goes on, and none is the
last line -/
def Fits (σ : Shown) : Consumer → Prop
  | .syscallEntry t sc _ _ => isEnabled cfg (some sc) → σ.opened t.pid = none
  | .syscallExit t sc hasResult =>
      isEnabled cfg (some sc) → ¬ (isExecSyscall sc && hasResult) → σ.opened t.pid ≠ none
  | .newExecutionContext t none _ => σ.opened t.pid ≠ none ∨ σ.last = none
  | .newExecutionContext t (some old) _ =>
      (σ.opened old ≠ none ∨ σ.opened t.pid = none ∧ σ.last = none) ∧
      (σ.opened t.pid ≠ none → σ.last ≠ some t.pid ∧ σ.last ≠ some old.val)
  | _ => True

/-- the lines of calls: entry, exit, success and end without a result -/
def lines (σ : Shown) : Consumer → List Output
  | .syscallEntry t sc _ _ => if isEnabled cfg (some sc) then [.entry t.pid sc] else []
  | .syscallExit t sc hasResult =>
      if isEnabled cfg (some sc) ∧ ¬ (isExecSyscall sc && hasResult) then [.exit t.pid sc] else []
  | .exited t _ _ =>
      if t.prevState = .syscallEnterStop ∧ σ.opened t.pid ≠ none then [.aborted t.pid] else []
  | .disappeared t _ => if σ.opened t.pid ≠ none then [.aborted t.pid] else []
  | .newExecutionContext t old _ =>
      if σ.opened ((old.map Subtype.val).getD t.pid) ≠ none then [.success t.pid] else []
  | _ => []

end Shown

/-- what is shown is what the tracer knows -/
def Session.shown (s : Session) : Shown where
  opened := s.opened
  last := s.tracer.activeSyscall.map Prod.fst
  tracees := s.tracer.numTracees

/-! ## the tracer behind a callback -/

section
variable {cfg : Config} {s : TermTracer} {pid : ProcessID} {o : Opened}

theorem Recorded.filtered (h : Recorded cfg o s) : Filtered cfg s where
  active pid sc hsc := h.enabled pid sc (by rw [← h.current, currentSyscall_active hsc])
  unfinished pid sc hsc := by
    apply h.enabled pid sc
    rw [← h.current, currentSyscall_unfinished, hsc]
    intro hact
    rw [h.once pid hact] at hsc
    cases hsc

/-- only lines of calls open and close calls -/
theorem openedFrom_eq_lines (o : Opened) (s : TermTracer) :
    s.openedFrom o = (s.printed.filter Output.isCall).foldl Output.replay o := by
  unfold openedFrom
  generalize s.printed = outs
  induction outs generalizing o with
  | nil => rfl
  | cons out outs ih =>
    cases hcall : out.isCall with
    | true => rw [List.filter_cons_of_pos hcall, List.foldl_cons, List.foldl_cons, ih]
    | false =>
      rw [List.filter_cons_of_neg (by simp [hcall]), List.foldl_cons,
        Output.quiet_of_not_call hcall, ih]

/-! ### the last line -/

/-- whatever `x` does -/
theorem triple_any {α : Type} (P : TermTracer → Prop) (x : Act α) :
    Triple P x (fun _ _ => True) fun _ _ => True := by
  intro s _
  cases x s with
  | mk r s' => cases r <;> trivial

/-- if `x` returns, the last line is no entry -/
def Ending {α : Type} (x : Act α) : Prop :=
  Triple (fun _ => True) x (fun _ s => s.activeSyscall = none) fun _ _ => True

/-- if the last line is no entry and `x` returns, it is none either -/
def Idling {α : Type} (x : Act α) : Prop :=
  Triple (fun s => s.activeSyscall = none) x (fun _ s => s.activeSyscall = none) fun _ _ => True

theorem Idling.of_tidy {α : Type} {x : Act α} (h : Tidy x) : Idling x := by
  apply Triple.of_returns
  intro s hs
  obtain ⟨a, t, ht, htidy⟩ := h s
  exact ⟨a, t, ht, htidy.idle hs⟩

theorem Ending.bind {α β : Type} {x : Act α} {f : α → Act β} (hx : Ending x)
    (hf : ∀ a, Idling (f a)) : Ending (x >>= f) := Triple.bind hx hf

theorem Ending.behind {α β : Type} {x : Act α} {f : α → Act β} (hf : ∀ a, Ending (f a)) :
    Ending (x >>= f) := Triple.bind (triple_any _ x) hf

theorem Ending.active {x : Act Unit} {v : TermTracer} (hx : Ending x) (hv : x s = (.ok (), v)) :
    v.activeSyscall = none := by
  have := hx s trivial
  rw [hv] at this
  exact this

theorem ending_line (pid : ProcessID) (n : Note) : Ending (line cfg pid n) := by
  apply Triple.bind (Q := fun _ s => s.activeSyscall = none)
  · apply Triple.of_returns
    intro s _
    obtain ⟨t, ht, -, hidle⟩ := startNewLine_run cfg pid s
    exact ⟨(), t, ht, hidle⟩
  · exact fun _ => Idling.of_tidy (tidy_print fun _ => rfl)

theorem idling_line (pid : ProcessID) (n : Note) : Idling (line cfg pid n) :=
  Idling.of_tidy (tidy_line pid n)

theorem idling_finish (t : TraceeView) (status : WaitStatus) : Idling (finish t status) := by
  apply Triple.bind (Q := fun _ s => s.activeSyscall = none)
  · apply Triple.update
    intro s hs
    by_cases h : t.pid = s.mainTraceePid
    · rw [if_pos h]
      exact hs
    · rw [if_neg h]
      exact hs
  intro _
  apply Triple.bind (Q := fun _ s => s.activeSyscall = none)
  · apply Triple.update
    intro s hs
    rw [if_neg (not_hasActiveSyscall hs)]
    exact hs
  · exact fun _ => Triple.update fun _ hs => hs

theorem ending_exited (t : TraceeView) (status : WaitStatus) (flags : StatusFlags) :
    Ending (exited cfg t status flags) := by
  apply Ending.behind
  intro _
  apply Ending.behind
  intro _
  cases status with
  | exited n =>
    apply Ending.bind (ending_line t.pid _)
    intro _ s
    have hwhen : Idling (when (!s.seenInitialExec) (line cfg t.pid .failedToExecute)) :=
      Triple.when (fun _ => idling_line t.pid _) fun _ _ hs => hs
    exact Triple.bind hwhen (fun _ => idling_finish t _) s
  | signaled signal => exact Ending.bind (ending_line t.pid _) fun _ => idling_finish t _

theorem ending_disappeared (t : TraceeView) (status : WaitStatus) :
    Ending (disappeared cfg t status) := by
  apply Ending.behind
  intro _
  apply Ending.bind (ending_line t.pid _)
  intro _
  cases status with
  | exited n => exact Triple.bind (idling_line t.pid _) fun _ => idling_finish t _
  | signaled signal => exact Triple.bind (idling_line t.pid _) fun _ => idling_finish t _

theorem ending_anticipateSuccess (pid : ProcessID) : Ending (anticipateSuccess cfg pid) := by
  intro s _
  have hrest : Ending (do
      when (isEnabled cfg (s.currentSyscall pid)) do
        checkResumedSyscall cfg pid
        print (.success pid)
      update fun s => { s with activeSyscall := none }) :=
    Ending.behind fun _ => Triple.update fun _ _ => rfl
  exact hrest s trivial

theorem ending_newExecutionContext (t : TraceeView) (old : Option ProcessID) (answer : Bool) :
    Ending (newExecutionContext cfg t old answer) := by
  have hannounce : Idling (announceContext cfg t answer) :=
    Idling.of_tidy (lining_tidies.announceContext cfg t answer)
  cases old with
  | none => exact Ending.bind (ending_anticipateSuccess t.pid) fun _ => hannounce
  | some old =>
    apply Ending.behind
    intro _
    apply Ending.bind (ending_anticipateSuccess t.pid)
    exact fun _ => Triple.bind (idling_line t.pid _) fun _ => hannounce

/-- the exit of a call of the filter -/
theorem ending_exit (t : TraceeView) (sc : Sys) : Ending (do
    checkResumedSyscall cfg t.pid
    let s ← read
    when (s.activeSyscall.isSome && !s.hasActiveSyscall t.pid) (startNewLine cfg t.pid)
    print (.exit t.pid sc)
    update fun s => { s with activeSyscall := none }) := by
  apply Ending.behind
  intro _ s _
  have hrest : Ending (do
      when (s.activeSyscall.isSome && !s.hasActiveSyscall t.pid) (startNewLine cfg t.pid)
      print (.exit t.pid sc)
      update fun s => { s with activeSyscall := none }) :=
    Ending.behind fun _ => Ending.behind fun _ => Triple.update fun _ _ => rfl
  exact hrest s trivial

/-- a callback that returns leaves the last line that is shown -/
theorem handle_last {c : Consumer} {v : TermTracer} (h : handle cfg c s = (.ok (), v))
    {σ : Shown} (hlast : s.activeSyscall.map Prod.fst = σ.last) (hn : s.numTracees = σ.tracees) :
    v.activeSyscall.map Prod.fst = c.ends cfg σ := by
  have hending : ∀ {x : Act Unit}, Ending x → x s = (.ok (), v) →
      v.activeSyscall.map Prod.fst = none := by
    intro x hx hv
    rw [hx.active hv]
    rfl
  have hsame : (.ok (), s) = ((.ok (), v) : Except Undefined Unit × TermTracer) →
      v.activeSyscall.map Prod.fst = σ.last := by
    intro hv
    cases hv
    exact hlast
  cases c with
  | syscallEntry t sc abi flags =>
    show _ = if isEnabled cfg (some sc) then some t.pid else σ.last
    by_cases hen : isEnabled cfg (some sc)
    · obtain ⟨u, -, -, hu⟩ := syscallEntry_run t abi flags hen s
      have hv : _ = ((.ok (), v) : Except Undefined Unit × TermTracer) := hu.symm.trans h
      cases hv
      rw [if_pos hen]
      rfl
    · rw [if_neg hen]
      apply hsame
      rw [← h]
      show _ = syscallEntry cfg t sc abi flags s
      unfold syscallEntry
      rw [if_pos (by simp [hen])]
      rfl
  | syscallExit t sc hasResult =>
    show _ = if isEnabled cfg (some sc) ∧ ¬ (isExecSyscall sc && hasResult) then none else σ.last
    have hrun : syscallExit cfg t sc hasResult s = (.ok (), v) := h
    unfold syscallExit at hrun
    by_cases hexec : isExecSyscall sc && hasResult
    · rw [if_pos hexec] at hrun
      rw [if_neg fun hc => hc.2 hexec]
      exact hsame hrun
    by_cases hen : isEnabled cfg (some sc)
    · rw [if_neg hexec, if_neg (by simp [hen])] at hrun
      rw [if_pos ⟨hen, hexec⟩]
      exact hending (ending_exit t sc) hrun
    · rw [if_neg hexec, if_pos (by simp [hen])] at hrun
      rw [if_neg fun hc => hen hc.1]
      exact hsame hrun
  | signaled t signal => exact hending (ending_line t.pid _) h
  | attached t =>
    show _ = if σ.tracees = 0 then σ.last else none
    have hrun : attached cfg t s = (.ok (), v) := h
    unfold attached at hrun
    rw [run_read_bind, run_update_bind] at hrun
    rw [← hn]
    by_cases hzero : s.numTracees = 0
    · rw [if_pos hzero] at hrun ⊢
      cases hrun
      exact hlast
    · rw [if_neg hzero] at hrun ⊢
      by_cases hthread : t.isInitiallyAttachedThread
      · rw [if_pos hthread] at hrun
        rw [(ending_line t.pid _).active hrun]
        rfl
      rw [if_neg hthread] at hrun
      cases hfind : s.newTracees.find? t.pid with
      | none =>
        rw [hfind] at hrun
        rw [(ending_line t.pid _).active hrun]
        rfl
      | some e =>
        rw [hfind] at hrun
        have hauto : Ending (do
            line cfg t.pid (.autoAttached e.1 e.2)
            update fun s => { s with newTracees := s.newTracees.erase t.pid }) :=
          Ending.bind (ending_line t.pid _) fun _ => Triple.update fun _ hs => hs
        rw [hauto.active hrun]
        rfl
  | stopped t =>
    show _ = if t.syscallCtr = 0 then none else σ.last
    have hrun : when (t.syscallCtr = 0) (line cfg t.pid .currentlyStopped) s = (.ok (), v) := h
    by_cases hctr : t.syscallCtr = 0
    · rw [when_pos hctr] at hrun
      rw [if_pos hctr]
      exact hending (ending_line t.pid _) hrun
    · rw [when_neg hctr] at hrun
      rw [if_neg hctr]
      exact hsame hrun
  | exited t status flags => exact hending (ending_exited t status flags) h
  | disappeared t status => exact hending (ending_disappeared t status) h
  | newExecutionContext t old answer => exact hending (ending_newExecutionContext t _ answer) h
  | newChildProcess parent child event flags answer =>
    show _ = if cfg.followChildren = .ask then none else σ.last
    have hrun : newChildProcess cfg parent child event flags answer s = (.ok (), v) := h
    unfold newChildProcess at hrun
    have hfollow : ∀ (follow : Bool) (u : TermTracer), (if follow then
        update fun s => { s with newTracees := s.newTracees.insert child.pid (parent.pid, event) }
        else TermTracer.detach child.pid : Act Unit) u = (.ok (), v) →
        v.activeSyscall = u.activeSyscall := by
      intro follow u hu
      cases follow with
      | true =>
        cases hu
        rfl
      | false =>
        cases hu
        rfl
    by_cases hask : cfg.followChildren = .ask
    · rw [when_pos hask] at hrun
      rw [if_pos hask]
      obtain ⟨_, u, hu, hv⟩ := of_bind_ok hrun
      rw [hfollow _ u hv, (ending_line parent.pid _).active hu]
      rfl
    · rw [when_neg hask, run_pure_bind] at hrun
      rw [if_neg hask, hfollow _ s hrun]
      exact hlast

end

/-! ## the tracer follows -/

namespace Session

variable {cfg : Config} {s : Session} {c : Consumer}

theorem last_eq_iff (pid : ProcessID) :
    s.shown.last = some pid ↔ s.tracer.hasActiveSyscall pid := by
  rw [hasActiveSyscall_iff]
  show s.tracer.activeSyscall.map Prod.fst = some pid ↔ _
  rw [Option.map_eq_some_iff]
  constructor
  · rintro ⟨⟨p, sc⟩, ha, rfl⟩
    exact ⟨sc, ha⟩
  · rintro ⟨sc, ha⟩
    exact ⟨_, ha, rfl⟩

theorem fits_of_shown (h : s.shown.Fits cfg c) : s.Fits cfg c := by
  cases c with
  | newExecutionContext t old answer =>
    cases old with
    | none =>
      rcases h with h | h
      · exact Or.inl h
      · exact Or.inr (Option.map_eq_none_iff.mp h)
    | some old =>
      obtain ⟨hone, hboth⟩ := h
      refine ⟨?_, fun hpid _ => ?_⟩
      · rcases hone with hold | ⟨-, hlast⟩
        · exact Or.inr (Or.inl hold)
        · exact Or.inr (Or.inr (Option.map_eq_none_iff.mp hlast))
      · obtain ⟨hp, ho⟩ := hboth hpid
        rw [Ne, last_eq_iff] at hp ho
        exact ⟨hp, ho⟩
  | _ => exact h

/-- the call that ends with a new execution context is the one of the thread that goes on -/
theorem moved_iff {t : TraceeView} {old : Option { pid // pid ≠ t.pid }} {answer : Bool}
    (hs : Recorded cfg s.opened s.tracer) (hc : s.shown.Fits cfg (.newExecutionContext t old answer)) :
    (movedRecords t.pid (old.map Subtype.val) s.fresh).currentSyscall t.pid ≠ none ↔
      s.opened ((old.map Subtype.val).getD t.pid) ≠ none := by
  have hu : Recorded cfg s.opened s.fresh := recorded_fresh hs
  have hfits := fits_of_shown hc
  cases old with
  | none =>
    show s.fresh.currentSyscall t.pid ≠ none ↔ s.opened t.pid ≠ none
    rw [hu.current]
  | some old =>
    show (movedRecords t.pid (some old.1) s.fresh).currentSyscall t.pid ≠ none ↔ s.opened old ≠ none
    have hready := ready_moved hu old.2 hfits.1 hfits.2
    constructor
    · intro hcur hold
      -- nothing is moved then, and the tracee has no call of its own
      have hpid : s.opened t.pid = none := by
        rcases hc.1 with h | h
        · exact absurd hold h
        · exact h.1
      obtain ⟨ha, hunf⟩ := movedRecords_none t.pid ((hu.current old).trans hold)
      rw [currentSyscall_congr ha hunf, hu.current] at hcur
      exact hcur hpid
    · intro hold hcur
      rcases hready.own with hen | ⟨-, -, hnone⟩
      · rw [hcur] at hen
        cases hen
      · rw [Opened.move, if_pos rfl] at hnone
        exact hold hnone

/-- the lines of calls are the expected ones -/
theorem outcome_lines (hs : Recorded cfg s.opened s.tracer) (hc : s.shown.Fits cfg c) :
    (s.outcome cfg c).2.printed.filter Output.isCall = s.shown.lines cfg c := by
  have hu : Recorded cfg s.opened s.fresh := recorded_fresh hs
  obtain ⟨os, ho, hl⟩ := (adds_handle hu.filtered c).printed
  have hprinted : (s.outcome cfg c).2.printed = os := ho
  rw [hprinted, hl]
  cases c with
  | syscallExit t sc hasResult =>
    have hopen : isEnabled cfg (some sc) → ¬ (isExecSyscall sc && hasResult) →
        s.fresh.currentSyscall t.pid ≠ none := by
      rw [hu.current]
      exact hc
    refine if_congr ⟨fun h => ⟨h.1, h.2.1⟩, fun h => ⟨h.1, h.2, hopen h.1 h.2⟩⟩ rfl rfl
  | exited t status flags =>
    show (if _ ∧ s.fresh.currentSyscall t.pid ≠ none then _ else _) = _
    rw [hu.current]
    rfl
  | disappeared t status =>
    show (if s.fresh.currentSyscall t.pid ≠ none then _ else _) = _
    rw [hu.current]
    rfl
  | newExecutionContext t old answer => exact if_congr (moved_iff hs hc) rfl rfl
  | _ => rfl

/-- the expected lines open and close what is shown -/
theorem opens_of_lines (s : Session) (c : Consumer) :
    c.leaving ((s.shown.lines cfg c).foldl Output.replay (c.moving s.opened))
      = c.opens cfg s.opened := by
  cases c with
  | syscallEntry t sc abi flags =>
    show (if isEnabled cfg (some sc) then _ else _ : List Output).foldl Output.replay s.opened
      = if isEnabled cfg (some sc) then _ else _
    split_ifs <;> rfl
  | syscallExit t sc hasResult =>
    show (if isEnabled cfg (some sc) ∧ ¬ (isExecSyscall sc && hasResult) then _ else _
        : List Output).foldl Output.replay s.opened
      = if isEnabled cfg (some sc) ∧ ¬ (isExecSyscall sc && hasResult) then _ else _
    split_ifs <;> rfl
  | exited t status flags =>
    show Function.update ((if t.prevState = .syscallEnterStop ∧ s.opened t.pid ≠ none then _ else _
        : List Output).foldl Output.replay s.opened) t.pid none = Function.update s.opened t.pid none
    split_ifs
    · exact Function.update_idem _ _ _
    · rfl
  | disappeared t status =>
    show Function.update ((if s.opened t.pid ≠ none then _ else _
        : List Output).foldl Output.replay s.opened) t.pid none = Function.update s.opened t.pid none
    split_ifs
    · exact Function.update_idem _ _ _
    · rfl
  | newExecutionContext t old answer =>
    have hclose : ∀ {o : Opened} {q : ProcessID}, o t.pid = s.opened q →
        (if s.opened q ≠ none then [Output.success t.pid] else []).foldl Output.replay o
          = Function.update o t.pid none := by
      intro o q hq
      split_ifs with hopen
      · rfl
      · rw [not_ne_iff.mp hopen] at hq
        exact (Function.update_eq_self_iff.mpr hq.symm).symm
    cases old with
    | none =>
      refine (hclose (o := s.opened) rfl).trans (funext fun p => ?_)
      show Function.update s.opened t.pid none p = if p = t.pid ∨ none = some p then none else _
      by_cases hp : p = t.pid
      · rw [if_pos (Or.inl hp), hp, Function.update_self]
      · rw [if_neg (by simp [hp]), Function.update_of_ne hp]
    | some old =>
      refine (hclose (o := s.opened.move t.pid old) (q := old) (if_pos rfl)).trans
        (funext fun p => ?_)
      show Function.update (s.opened.move t.pid old) t.pid none p
        = if p = t.pid ∨ some old.1 = some p then none else _
      by_cases hp : p = t.pid
      · rw [if_pos (Or.inl hp), hp, Function.update_self]
      · rw [Function.update_of_ne hp, Opened.move, if_neg hp]
        by_cases hold : p = old
        · rw [if_pos hold, if_pos (Or.inr (by rw [hold]))]
        · rw [if_neg hold, if_neg]
          rintro (h | h)
          · exact hp h
          · exact hold (Option.some.inj h).symm
  | _ => rfl

theorem tell_shown (hs : Recorded cfg s.opened s.tracer) (hc : s.shown.Fits cfg c) :
    (s.tell cfg c).shown = s.shown.after cfg c ∧
      Recorded cfg (s.tell cfg c).opened (s.tell cfg c).tracer := by
  obtain ⟨v, hv, -⟩ := outcome_fits hs (fits_of_shown hc)
  refine ⟨?_, (tell_fits hs (fits_of_shown hc)).2⟩
  have hopened : (s.tell cfg c).opened = c.opens cfg s.opened := by
    rw [← opens_of_lines, ← outcome_lines hs hc, ← openedFrom_eq_lines]
    rfl
  have hlast : (s.tell cfg c).tracer.activeSyscall.map Prod.fst = c.ends cfg s.shown := by
    rw [tell_of_ok hv]
    exact handle_last hv rfl rfl
  have hn : (s.tell cfg c).tracer.numTracees = c.count s.tracer.numTracees :=
    numTracees_handle cfg c s.fresh
  unfold shown Shown.after
  rw [hopened, hlast, hn]
  rfl

end Session

end Clues
