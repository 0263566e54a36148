import Clues.Engine.Threads

/-!
# What the tracer remembers of the system calls of a thread

* `Memo`      the data of a tracee object that decides how a system call stop is reported;
* `Enters`, `Memo.exit`, `Memo.replaced`   what an entry, an exit and `execve()` do to it;
* `Ledger`    a relation between threads and what is remembered of them, in runs whose log meets a
              condition; `Ledger.reachable` is the run rule.
-/

set_option linter.unusedSectionVars false

namespace Clues

open Lib Lib.Exec Lib.History Step

/-! ## memories -/

structure Memo where
  current : Option CallId := none
  interrupted : Option CallId := none
  ctr : Nat := 0
  seenSigreturn : Bool := false
  syscallEntered : Bool := false

def Tracee.memo (t : Tracee) : Memo :=
  { current := t.currentSyscall
    interrupted := t.interruptedSyscall
    ctr := t.syscallCtr
    seenSigreturn := t.flags.seenSigreturn
    syscallEntered := t.flags.syscallEntered }

theorem memo_of_resumption {t t' : Tracee} (h : t'.resumption = t.resumption) :
    t'.memo = t.memo := by
  unfold Tracee.resumption at h
  simp only [Prod.mk.injEq] at h
  obtain ⟨h1, h2, h3, h4, h5⟩ := h
  unfold Tracee.memo
  rw [h1, h2, h3, h4, h5]

/-- the numbers that system call objects were made for -/
abbrev Numbering := CallId → Option SystemCallNr

def Extends (num num' : Numbering) : Prop := ∀ c n, num c = some n → num' c = some n

theorem Extends.refl (num : Numbering) : Extends num num := fun _ _ h => h

theorem Extends.trans {num num' num'' : Numbering} (h : Extends num num')
    (h' : Extends num' num'') : Extends num num'' := fun c n hc => h' c n (h c n hc)

/-- an entry with the number `nr`: the call that is reported, whether it is reported as resumed,
and what is remembered then -/
inductive Enters (num : Numbering) (nr : SystemCallNr) (μ : Memo) : CallId → Bool → Memo → Prop
  /-- the interrupted call goes on by `restart_syscall()` -/
  | restarted {i : CallId} : nr = .restartSyscall → μ.interrupted = some i →
      Enters num nr μ i true
        { μ with current := some i, interrupted := none, ctr := μ.ctr + 1, syscallEntered := true }
  /-- there is no interrupted call that could go on -/
  | unknown {c : CallId} {resumed : Bool} : nr = .restartSyscall → μ.interrupted = none →
      (μ.ctr ≠ 0 → resumed = false) →
      Enters num nr μ c resumed
        { μ with current := some c, ctr := μ.ctr + 1, syscallEntered := true }
  /-- the first call after a handler returned -/
  | returned {c i : CallId} {n : SystemCallNr} : nr ≠ .restartSyscall → μ.interrupted = some i →
      μ.seenSigreturn = true → num c = some nr → num i = some n →
      Enters num nr μ c (createdNr n = createdNr nr)
        { current := some c, interrupted := none, ctr := μ.ctr + 1, seenSigreturn := false
          syscallEntered := true }
  | plain {c : CallId} : nr ≠ .restartSyscall →
      (μ.interrupted = none ∨ μ.seenSigreturn = false) → num c = some nr →
      Enters num nr μ c false
        { μ with current := some c, ctr := μ.ctr + 1, syscallEntered := true }

theorem Enters.extend {num num' : Numbering} {nr : SystemCallNr} {μ μ' : Memo} {c : CallId}
    {resumed : Bool} (h : Enters num nr μ c resumed μ') (hn : Extends num num') :
    Enters num' nr μ c resumed μ' := by
  cases h with
  | restarted hr hi => exact .restarted hr hi
  | unknown hr hi hc => exact .unknown hr hi hc
  | returned hr hi hs hc hn' => exact .returned hr hi hs (hn _ _ hc) (hn _ _ hn')
  | plain hr hi hc => exact .plain hr hi (hn _ _ hc)

/-- an exit of the call `c` -/
def Memo.interrupt (μ : Memo) (x : ExitInfo) (c : CallId) : Memo :=
  { μ with interrupted := if x.interrupted then some c else μ.interrupted }

/-- the end of a call with the number `n` -/
def Memo.finish (μ : Memo) (x : ExitInfo) (n : SystemCallNr) : Memo :=
  if μ.interrupted.isSome && isSigreturn n then
    if x.isEINTR then { μ with current := none, interrupted := none }
    else { μ with current := none, seenSigreturn := true }
  else { μ with current := none }

def Memo.exit (μ : Memo) (x : ExitInfo) (c : CallId) (n : SystemCallNr) : Memo :=
  (({ μ with syscallEntered := false } : Memo).interrupt x c).finish x n

/-- what is copied from the object of the thread that called `execve()` -/
def Memo.replaced (μ μo : Memo) : Memo :=
  { μ with current := μo.current, interrupted := μo.interrupted, ctr := μo.ctr }

/-- the part of a memory that is taken over -/
def Memo.history (μ : Memo) : Option CallId × Option CallId × Nat :=
  (μ.current, μ.interrupted, μ.ctr)

theorem Memo.replaced_eq {μ μo : Memo} {tr : Tracee} (h : tr.history = μo.history) :
    ({ μ with
      current := tr.currentSyscall
      interrupted := tr.interruptedSyscall
      ctr := tr.syscallCtr } : Memo) = μ.replaced μo := by
  unfold Tracee.history Memo.history at h
  simp only [Prod.mk.injEq] at h
  obtain ⟨h1, h2, h3⟩ := h
  unfold Memo.replaced
  rw [h1, h2, h3]

/-! ## ledgers -/

/-- entries whose reports a ledger is about -/
def Entry.isReport : Entry → Bool
  | .request _ (.getSyscallInfo _) none | .callback (.syscallEntry _ _ _) => true
  | _ => false

/-- entries that neither the threads nor their stages depend on -/
def Entry.isNote : Entry → Bool
  | .request _ (.getSyscallInfo _) (some _) | .syscallEntered _ _ | .syscallExited _ | .callback _ =>
      true
  | _ => false

/-- `Cond` is what the log has to meet, `Fit` relates a thread and what is remembered of it, and
`Good` is what then holds of the reports -/
structure Ledger (env : Env) (life : Life) where
  Cond : Log → Entry → Prop
  Fit : Numbering → Log → TraceeId → Thread → Memo → Prop
  Good : Numbering → Log → Entry → Prop
  /-- a stop is only reported after the tracer has finished with the last one -/
  orderly : ∀ {p : Log} {b : TraceeId} {pid : ProcessID},
    Cond p (.request b (.getSyscallInfo pid) none) → stage p b = .idle ∧ ¬ Departed p b
  fit_extend : ∀ {num num' : Numbering} {log log' : Log} {b : TraceeId} {t : Thread} {μ : Memo},
    Extends num num' → log <+: log' → Fit num log b t μ → Fit num' log' b t μ
  good_extend : ∀ {num num' : Numbering} {p : Log} {e : Entry},
    Extends num num' → Good num p e → Good num' p e
  good_other : ∀ {num : Numbering} {p : Log} {e : Entry}, e.isReport = false → Good num p e
  start : ∀ (num : Numbering) (log : Log) (b : TraceeId), Fit num log b {} {}
  good_stop : ∀ {num : Numbering} {p : Log} {b : TraceeId} {pid : ProcessID} {μ : Memo},
    Cond p (.request b (.getSyscallInfo pid) none) → Fit num p b (truth env life p b) μ →
    Good num p (.request b (.getSyscallInfo pid) none)
  entry : ∀ {num : Numbering} {p log : Log} {b : TraceeId} {pid : ProcessID} {μ μ' : Memo}
      {c : CallId} {flags : StatusFlags},
    Cond p (.request b (.getSyscallInfo pid) none) → Fit num p b (truth env life p b) μ →
    (env.report p pid).stop.isEntry = true →
    Enters num ((env.report p pid).enteredNr env) μ c flags.resumed μ' → p <+: log →
    truth env life log b = ((truth env life p b).lives (life p b)).enter p.length
      ((env.report p pid).enteredNr env) →
    Good num log (.callback (.syscallEntry b c flags)) ∧
      Fit num (log ++ [.callback (.syscallEntry b c flags)]) b
        (((truth env life p b).lives (life p b)).enter p.length
          ((env.report p pid).enteredNr env)) μ'
  exit : ∀ {num : Numbering} {p log : Log} {b : TraceeId} {pid : ProcessID} {μ : Memo}
      {c : CallId} {n : SystemCallNr} {x : ExitInfo},
    Cond p (.request b (.getSyscallInfo pid) none) → Fit num p b (truth env life p b) μ →
    (env.report p pid).stop = .exit x → μ.current = some c → num c = some n → p <+: log →
    truth env life log b = ((truth env life p b).lives (life p b)).exit p.length x →
    Fit num (log ++ [.callback (.syscallExit b c { interrupted := x.interrupted })]) b
      (((truth env life p b).lives (life p b)).exit p.length x) (μ.exit x c n)
  exec : ∀ {num : Numbering} {p : Log} {b : TraceeId} {former : ProcessID}
      {old : Option TraceeId} {μ μo : Memo},
    Cond p (.execed b former old) →
    (stage p b = .idle → ¬ Departed p b → Fit num p b (truth env life p b) μ) →
    Fit num p (old.getD b) (truth env life p (old.getD b)) μo →
    Fit num (p ++ [.execed b former old]) b (truth env life p (old.getD b)).exec (μ.replaced μo)

variable {SC : Type} [SyscallOps SC] {env : Env} {life : Life} (L : Ledger env life)
  {b : TraceeId} {w w' v v' : World SC}

namespace Ledger

/-- what is remembered of the tracee fits, unless a stop of it is still handled -/
def Fits (w : World SC) (b : TraceeId) : Prop :=
  stage w.log b = .idle → ¬ Departed w.log b →
    L.Fit w.requested w.log b (truth env life w.log b) (w.objs b).memo

/-- the invariant of runs -/
structure Holds (w : World SC) : Prop where
  filed : w.Filed
  fresh : ∀ b, w.nextObj ≤ b → truth env life w.log b = {}
  kept : Always L.Cond w.log → Always (L.Good w.requested) w.log ∧ ∀ b, L.Fits w b

variable {L}

theorem extends_of_shelved (h : Shelved w w') (hf : w.Filed) : Extends w.requested w'.requested :=
  fun _ _ hc => h.requested hf hc

theorem always_good {log : Log} {num num' : Numbering} (h : Always (L.Good num) log)
    (hn : Extends num num') : Always (L.Good num') log := fun p e he => L.good_extend hn (h p e he)

theorem isReport_of_calm {e : Entry} (h : ∀ b, e.isCall b = false) : e.isReport = false := by
  cases e with
  | request id r error =>
    have hid : Entry.isCall id (.request id r error) = false := h id
    cases r with
    | getSyscallInfo pid => exact absurd rfl (of_decide_eq_false hid)
    | _ => rfl
  | callback c =>
    cases c with
    | syscallEntry id c flags =>
      have hid : Entry.isCall id (.callback (.syscallEntry id c flags)) = false := h id
      exact absurd rfl (of_decide_eq_false hid)
    | _ => rfl
  | _ => rfl

/-- an object that was not made in between remembers the same -/
theorem memo_of_aside {S : Prop} (h : Aside S False b w w') (hb : w.nextObj ≤ b → w'.nextObj ≤ b)
    (hd : ¬ Departed w'.log b) : (w'.objs b).memo = (w.objs b).memo := by
  obtain hC | hr | ⟨hd', -⟩ := h.resumption hb
  · exact hC.elim
  · exact memo_of_resumption hr
  · exact absurd hd' hd

/-- a new object remembers nothing -/
theorem memo_of_born {S : Prop} (h : Born S False w'.log b (w'.objs b))
    (hd : ¬ Departed w'.log b) : (w'.objs b).memo = {} := by
  obtain hC | hr | hd' := h.resumption
  · exact hC.elim
  · have ht : (w'.objs b).memo = (default : Tracee).memo := memo_of_resumption hr
    exact ht
  · exact absurd hd' hd

/-! ### what goes on around the system calls -/

/-- the entries of a step that does nothing about system calls -/
theorem entries_of_aside {S : TraceeId → Prop} (h : ∀ b, Aside (S b) False b w w') :
    ∃ es, w'.log = w.log ++ es ∧
      ∀ e ∈ es, ∀ b, (e.isStop b = true → S b) ∧ e.isCall b = false := by
  obtain ⟨es, he, -⟩ := (h 0).log
  refine ⟨es, he, fun e hm b => ?_⟩
  obtain ⟨es', he', hes'⟩ := (h b).log
  have hsame : es' = es := List.append_cancel_left (he'.symm.trans he)
  rw [hsame] at hes'
  refine ⟨(hes' e hm).1, ?_⟩
  rw [Bool.eq_false_iff]
  exact (hes' e hm).2

theorem Fits.aside {S : Prop} (h : L.Fits w b) (hf : w.Filed)
    (hfresh : w.nextObj ≤ b → truth env life w.log b = {})
    (hS : S → stage w.log b ≠ .handling) (ha : Aside S False b w w') : L.Fits w' b := by
  intro hs hd
  obtain ⟨es, he, hes⟩ := ha.log
  have hcall : ∀ e ∈ es, e.isCall b = false := by
    intro e hm
    rw [Bool.eq_false_iff]
    exact (hes e hm).2
  have ht : truth env life w'.log b = truth env life w.log b := by
    rw [he]
    exact truth_append hcall
  have hst : stage w'.log b = stage w.log b := by
    rw [he]
    by_cases hS' : S
    · exact stage_append_of_ne hcall (hS hS')
    · apply stage_append
      intro e hm
      refine ⟨?_, hcall e hm⟩
      rw [Bool.eq_false_iff]
      exact fun hstop => hS' ((hes e hm).1 hstop)
  rw [ht]
  by_cases hb : w.nextObj ≤ b ∧ b < w'.nextObj
  · rw [memo_of_born (ha.born hb.1 hb.2) hd, hfresh hb.1]
    exact L.start _ _ _
  · rw [memo_of_aside ha (fun hle => not_lt.mp fun hlt => hb ⟨hle, hlt⟩) hd]
    have hd0 : ¬ Departed w.log b := fun h0 => hd (ha.departed h0)
    exact L.fit_extend (extends_of_shelved ha.shelved hf) ha.log_grows (h (hst ▸ hs) hd0)

theorem Holds.aside {S : TraceeId → Prop} (h : L.Holds w)
    (hS : ∀ b, S b → stage w.log b ≠ .handling) (ha : ∀ b, Aside (S b) False b w w') :
    L.Holds w' := by
  obtain ⟨es, he, hes⟩ := entries_of_aside ha
  have hn : Extends w.requested w'.requested := extends_of_shelved (ha 0).shelved h.filed
  refine ⟨(ha 0).shelved.filed h.filed, fun b hb => ?_, fun hc => ?_⟩
  · rw [he, truth_append fun e hm => (hes e hm b).2]
    exact h.fresh b ((ha b).nextObj.trans hb)
  · obtain ⟨hg, hfit⟩ := h.kept (hc.mono (ha 0).log_grows)
    constructor
    · rw [he]
      apply (always_good hg hn).append
      intro e hm p
      exact L.good_other (isReport_of_calm fun b => (hes e hm b).2)
    · exact fun b => (hfit b).aside h.filed (h.fresh b) (hS b) (ha b)

/-! ### while a stop is handled -/

/-- what holds while an event of `b` is handled, apart from what is remembered of `b` -/
structure Others (L : Ledger env life) (b : TraceeId) (v : World SC) : Prop where
  sound : v.Sound
  born : b < v.nextObj
  filed : v.Filed
  fresh : ∀ b', v.nextObj ≤ b' → truth env life v.log b' = {}
  kept : Always L.Cond v.log → Always (L.Good v.requested) v.log ∧ ∀ b', b' ≠ b → L.Fits v b'

/-- no stop is handled -/
structure Open (L : Ledger env life) (b : TraceeId) (v : World SC) : Prop where
  sound : v.Sound
  born : b < v.nextObj
  holds : L.Holds v
  settled : stage v.log b ≠ .handling

/-- a stop is handled since `o`, and `R` holds of what is remembered so far -/
structure During (L : Ledger env life) (o : Numbering × Log) (b : TraceeId) (t : Thread) (s : Stage)
    (R : Numbering → Log → Memo → Prop) (v : World SC) : Prop extends Others L b v where
  nums : Extends o.1 v.requested
  since : o.2 <+: v.log
  thread : truth env life v.log b = t
  stage : stage v.log b = s
  memo : ¬ Departed v.log b → R v.requested v.log (v.objs b).memo

/-- a stop was handled -/
structure Done (L : Ledger env life) (b : TraceeId) (v : World SC) : Prop extends Others L b v where
  fit : stage v.log b ≠ .lost → ¬ Departed v.log b → Always L.Cond v.log →
    L.Fit v.requested v.log b (truth env life v.log b) (v.objs b).memo

/-- `R` is kept by all that goes on around `b` -/
structure Stable (R : Numbering → Log → Memo → Prop) : Prop where
  keeps : ∀ {num num' log log' μ}, Extends num num' → log <+: log' → R num log μ → R num' log' μ

variable {o : Numbering × Log} {t : Thread} {s : Stage} {R R' : Numbering → Log → Memo → Prop}

theorem Open.aside (h : Open L b v) (ha : ∀ b', Aside (b' = b) False b' v v') : Open L b v' := by
  obtain ⟨es, he, hes⟩ := entries_of_aside ha
  refine ⟨(ha b).sound h.sound, h.born.trans_le (ha b).nextObj, h.holds.aside ?_ ha, ?_⟩
  · rintro b' rfl
    exact h.settled
  · rw [he, stage_append_of_ne (fun e hm => (hes e hm b).2) h.settled]
    exact h.settled

theorem Others.step (h : Others L b v) (ha : ∀ b', b' ≠ b → Aside False False b' v v')
    (hs : v'.Sound) (hn : v.nextObj ≤ v'.nextObj) (hk : Shelved v v') (hl : v.log <+: v'.log)
    (hg : Always L.Cond v'.log → Always (L.Good v.requested) v.log →
      Always (L.Good v'.requested) v'.log) : Others L b v' := by
  refine ⟨hs, h.born.trans_le hn, hk.filed h.filed, fun b' hb => ?_, fun hc => ?_⟩
  · have hne : b' ≠ b := ne_of_gt (h.born.trans_le (hn.trans hb))
    obtain ⟨es, he, hes⟩ := (ha b' hne).log
    have hcall : ∀ e ∈ es, e.isCall b' = false := by
      intro e hm
      rw [Bool.eq_false_iff]
      exact (hes e hm).2
    rw [he, truth_append hcall]
    exact h.fresh b' (hn.trans hb)
  · obtain ⟨hgood, hfit⟩ := h.kept (hc.mono hl)
    refine ⟨hg hc hgood, fun b' hne => ?_⟩
    exact (hfit b' hne).aside h.filed (h.fresh b') False.elim (ha b' hne)

/-- what goes on around all tracees -/
theorem During.quiet (hR : Stable R) (h : During L o b t s R v)
    (ha : ∀ b', Aside False False b' v v') : During L o b t s R v' := by
  obtain ⟨es, he, hes⟩ := entries_of_aside ha
  have hcall : ∀ e ∈ es, e.isCall b = false := fun e hm => (hes e hm b).2
  have hstop : ∀ e ∈ es, e.isStop b = false := by
    intro e hm
    rw [Bool.eq_false_iff]
    exact (hes e hm b).1
  have hn : Extends v.requested v'.requested := extends_of_shelved (ha b).shelved h.filed
  have hside : Others L b v' := by
    apply h.toOthers.step (fun b' _ => ha b') ((ha b).sound h.sound) (ha b).nextObj (ha b).shelved
      (ha b).log_grows
    intro _ hg
    rw [he]
    apply (always_good hg hn).append
    intro e hm p
    exact L.good_other (isReport_of_calm fun b' => (hes e hm b').2)
  refine ⟨hside, h.nums.trans hn, h.since.trans (ha b).log_grows, ?_, ?_, fun hd => ?_⟩
  · rw [he, truth_append hcall]
    exact h.thread
  · rw [he, stage_append fun e hm => ⟨hstop e hm, hcall e hm⟩]
    exact h.stage
  · rw [memo_of_aside (ha b) (fun hle => absurd h.born (not_lt.mpr hle)) hd]
    exact hR.keeps hn (ha b).log_grows (h.memo fun h0 => hd ((ha b).departed h0))

/-- the tracee object itself is changed -/
theorem During.modify {t' : Tracee} (h : During L o b t s R v) (hk : Shelved v (v.setObj b t'))
    (hR : R v.requested v.log (v.objs b).memo → R' v.requested v.log t'.memo) :
    During L o b t s R' (v.setObj b t') := by
  have hother : ∀ b', b' ≠ b → Aside False False b' v (v.setObj b t') := fun b' hne =>
    Aside.changed v (fun h => absurd h hne.symm) (fun h => absurd h hne.symm)
      (fun h => absurd h hne.symm) hk
  refine ⟨h.toOthers.step hother h.sound le_rfl hk List.prefix_rfl
    fun _ hg => hg, h.nums, h.since, h.thread, h.stage, fun hd => ?_⟩
  rw [World.setObj_self]
  exact hR (h.memo hd)

/-- notes change neither the threads nor their stages -/
theorem truth_note {e : Entry} (he : e.isNote = true) (log : Log) :
    truth env life (log ++ [e]) = truth env life log := by
  rw [truth_snoc]
  cases e with
  | request id r error => cases r <;> cases error <;> first | rfl | cases he
  | syscallEntered | syscallExited | callback => rfl
  | _ => cases he

theorem stage_note {e : Entry} (he : e.isNote = true) (log : Log) :
    Clues.stage (log ++ [e]) = Clues.stage log := by
  rw [stage_snoc]
  cases e with
  | request id r error => cases r <;> cases error <;> first | rfl | cases he
  | syscallEntered | syscallExited | callback => rfl
  | _ => cases he

theorem Holds.note {e : Entry} (h : L.Holds v) (he : e.isNote = true) (hr : e.isReport = false) :
    L.Holds (v.say e) := by
  refine ⟨?_, fun b hb => ?_, fun hc => ?_⟩
  · exact (Shelved.of_same rfl rfl fun i _ _ h => ⟨i, h⟩ : Shelved v (v.say e)).filed h.filed
  · show truth env life (v.log ++ [e]) b = {}
    rw [truth_note he]
    exact h.fresh b hb
  · have hp : v.log <+: v.log ++ [e] := List.prefix_append _ _
    obtain ⟨hg, hfit⟩ := h.kept (hc.mono hp)
    refine ⟨always_snoc_iff.mpr ⟨hg, L.good_other hr⟩, fun b hs hd => ?_⟩
    have hs' : Clues.stage v.log b = .idle := by
      rw [← stage_note he v.log]
      exact hs
    show L.Fit v.requested (v.log ++ [e]) b (truth env life (v.log ++ [e]) b) (v.objs b).memo
    rw [truth_note he]
    exact L.fit_extend (Extends.refl _) hp (hfit b hs' fun h0 => hd (h0.append _))

theorem During.say {e : Entry} (h : During L o b t s R v) (he : e.isNote = true)
    (hother : ∀ b', b' ≠ b → e.isStop b' = false ∧ e.isCall b' = false)
    (hg : Always L.Cond (v.log ++ [e]) → Always (L.Good v.requested) v.log →
      L.Good v.requested v.log e)
    (hR : R v.requested v.log (v.objs b).memo → R' v.requested (v.log ++ [e]) (v.objs b).memo) :
    During L o b t s R' (v.say e) := by
  have hside : Others L b (v.say e) := by
    apply h.toOthers.step (fun b' hne => Aside.said v ?_ ?_) h.sound le_rfl
      (Shelved.of_same rfl rfl fun i _ _ h => ⟨i, h⟩) (List.prefix_append _ _)
      (fun hc hgood => always_snoc_iff.mpr ⟨hgood, hg hc hgood⟩)
    · rw [(hother b' hne).1]
      exact fun h => nomatch h
    · rw [(hother b' hne).2]
      exact fun h => nomatch h
  refine ⟨hside, h.nums, h.since.trans (List.prefix_append _ _), (congrFun (truth_note he _) b).trans h.thread,
    (congrFun (stage_note he _) b).trans h.stage, fun hd => ?_⟩
  exact hR (h.memo fun h0 => hd (h0.append _))

theorem During.weaken (h : During L o b t s R v)
    (hR : R v.requested v.log (v.objs b).memo → R' v.requested v.log (v.objs b).memo) :
    During L o b t s R' v :=
  ⟨h.toOthers, h.nums, h.since, h.thread, h.stage, fun hd => hR (h.memo hd)⟩

/-- the handling may stop at any time -/
theorem During.holds (h : During L o b t s R v) (hs : s ≠ .idle) : L.Holds v := by
  refine ⟨h.filed, h.fresh, fun hc => ?_⟩
  obtain ⟨hg, hfit⟩ := h.kept hc
  refine ⟨hg, fun b' => ?_⟩
  by_cases hb : b' = b
  · subst hb
    intro hi
    exact absurd (h.stage.symm.trans hi) hs
  · exact hfit b' hb

theorem Done.holds (h : Done L b v) : L.Holds v := by
  refine ⟨h.filed, h.fresh, fun hc => ?_⟩
  obtain ⟨hg, hfit⟩ := h.kept hc
  refine ⟨hg, fun b' => ?_⟩
  by_cases hb : b' = b
  · subst hb
    intro hi hd
    exact h.fit (fun hl => nomatch hi.symm.trans hl) hd hc
  · exact hfit b' hb

theorem Done.aside (h : Done L b v) (ha : ∀ b', Aside (b' = b) False b' v v') : Done L b v' := by
  obtain ⟨es, he, hes⟩ := entries_of_aside ha
  have hcall : ∀ e ∈ es, e.isCall b = false := fun e hm => (hes e hm b).2
  have hn : Extends v.requested v'.requested := extends_of_shelved (ha b).shelved h.filed
  have hside : Others L b v' := by
    apply h.toOthers.step (fun b' hne => (ha b').mono (fun h => hne h) fun h => h)
      ((ha b).sound h.sound) (ha b).nextObj (ha b).shelved (ha b).log_grows
    intro _ hg
    rw [he]
    apply (always_good hg hn).append
    intro e hm p
    exact L.good_other (isReport_of_calm fun b' => (hes e hm b').2)
  refine ⟨hside, fun hs hd hc => ?_⟩
  have hs0 : stage v.log b ≠ .lost := by
    intro hl
    apply hs
    rw [he, stage_append_of_ne hcall (by rw [hl]; exact fun h => nomatch h)]
    exact hl
  have ht : truth env life v'.log b = truth env life v.log b := by
    rw [he]
    exact truth_append hcall
  rw [ht, memo_of_aside (ha b) (fun hle => absurd h.born (not_lt.mpr hle)) hd]
  exact L.fit_extend hn (ha b).log_grows
    (h.fit hs0 (fun h0 => hd ((ha b).departed h0)) (hc.mono (ha b).log_grows))

end Ledger

end Clues
