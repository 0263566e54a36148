import Clues.Engine.Resumes

/-!
# Nested interruptions

* `ResumesMatched`   the calls that the kernel restarts are reported as resumed, and no others;
* `Nested`           the runs this is about: handlers end by `sigreturn()`, and then what they
                     interrupted is restarted;
* `Flat`             what it takes: no interruption inside of another one.
-/

namespace Clues

open Lib Lib.Exec Lib.History Step

section
variable (env : Env) (life : Life)

/-- the last entry of the thread was reported as resumed; before `execve()` it may have been the
thread of another tracee -/
def Reported (log : Log) (t : Thread) : Prop :=
  ∃ q b c flags, At log q (.callback (.syscallEntry b c flags)) ∧
    (truth env life q b).entered = t.entered ∧ flags.resumed = true

structure ResumesMatched {SC : Type} [SyscallOps SC] (w : World SC) : Prop where
  /-- what is restarted is reported as resumed, with the interruption that it resumes -/
  matched : ∀ p b c flags, At w.log p (.callback (.syscallEntry b c flags)) →
    (flags.resumed = true ↔ (truth env life p b).resumes ≠ none) ∧
      ∀ i, (truth env life p b).resumes = some i → ∃ c', Tells env life p b c' i ∧
        ∃ n, w.callNr c' = some n ∧ w.callNr c = some n
  /-- it is reported before the next stop of the thread -/
  reported : ∀ p b pid, At w.log p (.request b (.getSyscallInfo pid) none) →
    (truth env life p b).resumes ≠ none → Reported env life p (truth env life p b)

/-- handlers end by `sigreturn()`, which no signal interrupts; an interrupted call is restarted as
soon as its handler returned, and in no other way; besides, stops come one after the other -/
def Nested (p : Log) : Entry → Prop
  | .request b (.getSyscallInfo pid) none =>
      (stage p b = .idle ∧ ¬ Departed p b) ∧
      (truth env life p b).Always
        (fun t u => u = .invoke ∧ (t.returned = true → t.pending = none)) (life p b) ∧
      match (env.report p pid).stop with
      | .entry _ => (env.report p pid).enteredNr env ≠ .restartSyscall ∧
          ∀ i ∈ ((truth env life p b).lives (life p b)).pending,
            ((truth env life p b).lives (life p b)).returned = true ∧
              i.nr = some ((env.report p pid).enteredNr env)
      | .exit x => (truth env life p b).call.any isSigreturn = true → x.interrupted = false
      | _ => True
  | .execed b _ old =>
      (truth env life p b).outstanding = [] ∧ (truth env life p (old.getD b)).outstanding = []
  | _ => True

/-- while a handler runs that interrupted a call, no other handler is invoked and no call is
interrupted; besides, the tracer has finished with the last stop of what `execve()` replaces -/
def Flat (p : Log) : Entry → Prop
  | .request b (.getSyscallInfo pid) none =>
      (truth env life p b).Always (fun t _ => t.underway = []) (life p b) ∧
      match (env.report p pid).stop with
      | .exit x => x.interrupted = true →
          ((truth env life p b).lives (life p b)).underway = []
      | _ => True
  | .execed b _ _ => stage p b = .idle ∧ ¬ Departed p b
  | _ => True

instance (p : Log) (e : Entry) : Decidable (Nested env life p e) := by
  refine @decidableAt _ _ (fun b pid => ?_) (fun b old => inferInstance) e
  refine @instDecidableAnd _ _ inferInstance ?_
  split
  all_goals infer_instance

instance (p : Log) (e : Entry) : Decidable (Flat env life p e) := by
  refine @decidableAt _ _ (fun b pid => ?_) (fun b old => inferInstance) e
  refine @instDecidableAnd _ _ inferInstance ?_
  split
  all_goals infer_instance

/-- the interruption that is remembered is the only one -/
structure Matched (num : Numbering) (log : Log) (b : TraceeId) (t : Thread) (μ : Memo) : Prop where
  nothing : μ.interrupted = none → t.outstanding = []
  one : ∀ c, μ.interrupted = some c →
    ∃ i n, t.outstanding = [i] ∧ Tells env life log b c i ∧ num c = some n ∧ i.nr = some n
  seen : μ.seenSigreturn = true ↔ t.returned = true ∧ t.pending ≠ none
  inner : t.handlers.tail.reduceOption = []
  called : ∀ n, t.call = some n → ∃ c, μ.current = some c ∧ num c = some n
  calling : t.call = none → μ.current = none
  apart : t.call ≠ none → t.pending = none
  reported : t.resumes ≠ none → Reported env life log t

def MatchedGood (num : Numbering) (p : Log) : Entry → Prop
  | .request b (.getSyscallInfo _) none =>
      (truth env life p b).resumes ≠ none → Reported env life p (truth env life p b)
  | .callback (.syscallEntry b c flags) =>
      (flags.resumed = true ↔ (truth env life p b).resumes ≠ none) ∧
        ∀ i, (truth env life p b).resumes = some i →
          ∃ c', Tells env life p b c' i ∧ SameNr num c' c
  | _ => True

end

section
variable {env : Env} {life : Life} {num num' : Numbering} {p log : Log} {b : TraceeId}
  {t : Thread} {μ μ' : Memo} {c : CallId} {nr : SystemCallNr} {resumed : Bool}

theorem Reported.mono {log' : Log} (h : Reported env life log t) (hl : log <+: log') :
    Reported env life log' t := by
  obtain ⟨q, b, c, flags, hq, he, hr⟩ := h
  exact ⟨q, b, c, flags, hq.mono hl, he, hr⟩

theorem Matched.extend {log' : Log} (h : Matched env life num log b t μ) (hn : Extends num num')
    (hl : log <+: log') : Matched env life num' log' b t μ where
  nothing := h.nothing
  one c hc := by
    obtain ⟨i, n, hout, ht, hnum, hi⟩ := h.one c hc
    exact ⟨i, n, hout, ht.mono hl, hn _ _ hnum, hi⟩
  seen := h.seen
  inner := h.inner
  called n hc := by
    obtain ⟨c, hc, hnum⟩ := h.called n hc
    exact ⟨c, hc, hn _ _ hnum⟩
  calling := h.calling
  apart := h.apart
  reported hr := (h.reported hr).mono hl

theorem Matched.invoke (h : Matched env life num p b t μ)
    (hr : t.returned = true → t.pending = none) (hu : t.underway = []) :
    Matched env life num p b (t.unseen .invoke) μ := by
  have hsame : (t.unseen .invoke).outstanding = t.outstanding := by
    unfold Thread.outstanding Thread.underway Thread.unseen
    cases t.pending <;> rfl
  refine ⟨?_, ?_, ?_, hu, h.called, h.calling, fun _ => rfl, h.reported⟩
  · rw [hsame]
    exact h.nothing
  · rw [hsame]
    exact h.one
  · constructor
    · intro hs
      obtain ⟨hret, hp⟩ := h.seen.mp hs
      exact absurd (hr hret) hp
    · exact fun hs => nomatch hs.1

theorem Matched.lives {us : List Unseen} (h : Matched env life num p b t μ)
    (hn : t.Always (fun t u => u = .invoke ∧ (t.returned = true → t.pending = none)) us)
    (hf : t.Always (fun t _ => t.underway = []) us) :
    Matched env life num p b (t.lives us) μ := by
  induction us generalizing t with
  | nil => exact h
  | cons u us ih =>
    obtain ⟨⟨rfl, hr⟩, hn⟩ := hn
    obtain ⟨hu, hf⟩ := hf
    exact ih (h.invoke hr hu) hn hf

/-- a call that goes on is the only one that is outstanding -/
theorem Matched.goingOn {i : Interruption} (h : Matched env life num p b t μ)
    (hp : t.pending = some i) : t.underway = [] ∧
      ∃ c n, μ.interrupted = some c ∧ Tells env life p b c i ∧ num c = some n ∧ i.nr = some n := by
  have hout : t.outstanding = i :: t.underway := by
    unfold Thread.outstanding
    rw [hp]
    rfl
  cases hi : μ.interrupted with
  | none =>
    have hnil := h.nothing hi
    rw [hout] at hnil
    cases hnil
  | some c =>
    obtain ⟨j, n, hone, ht, hnum, hj⟩ := h.one c hi
    rw [hout] at hone
    obtain ⟨rfl, hu⟩ := List.cons.inj hone
    exact ⟨hu, c, n, rfl, ht, hnum, hj⟩

/-- what is reported at an entry, and what is remembered then -/
theorem Matched.enters (h : Matched env life num p b t μ) (hr : nr ≠ .restartSyscall)
    (hp : ∀ i ∈ t.pending, t.returned = true ∧ i.nr = some nr)
    (he : Enters num nr μ c resumed μ') :
    (resumed = true ↔ t.pending ≠ none) ∧ (∀ i, t.pending = some i →
        ∃ c', Tells env life p b c' i ∧ SameNr num c' c) ∧
      μ'.interrupted = (if t.pending = none then μ.interrupted else none) ∧
      μ'.seenSigreturn = false := by
  cases hpend : t.pending with
  | none =>
    have hseen : μ.seenSigreturn = false := by
      rw [Bool.eq_false_iff]
      exact fun hs => (h.seen.mp hs).2 hpend
    cases he with
    | restarted hnr => exact absurd hnr hr
    | unknown hnr => exact absurd hnr hr
    | returned hnr hi hs => exact absurd (hs.symm.trans hseen) (by decide)
    | plain hnr hi hc =>
      refine ⟨⟨(fun hf => nomatch hf), fun hf => absurd rfl hf⟩, fun i hi => ?_, rfl, hseen⟩
      cases hi
  | some i =>
    obtain ⟨hret, hnri⟩ := hp i hpend
    obtain ⟨-, d, n, hint, ht, hnum, hin⟩ := h.goingOn hpend
    have hseen : μ.seenSigreturn = true :=
      h.seen.mpr ⟨hret, by rw [hpend]; exact Option.some_ne_none i⟩
    have hnn : n = nr := Option.some.inj (hin.symm.trans hnri)
    subst hnn
    cases he with
    | restarted hnr => exact absurd hnr hr
    | unknown hnr => exact absurd hnr hr
    | @returned d' n' hnr hi hs hc hn =>
      rw [hint] at hi
      obtain rfl := Option.some.inj hi
      rw [hnum] at hn
      obtain rfl := Option.some.inj hn
      refine ⟨⟨fun _ => Option.some_ne_none i, fun _ => decide_eq_true rfl⟩, fun j hj => ?_,
        rfl, rfl⟩
      obtain rfl := Option.some.inj hj
      exact ⟨d, ht, n, n, hnum, hc, rfl⟩
    | plain hnr hi hc =>
      obtain hi | hs := hi
      · rw [hint] at hi
        cases hi
      · rw [hseen] at hs
        cases hs

/-- the pending call is the one that is resumed -/
theorem resumes_enter (hp : ∀ i ∈ t.pending, t.returned = true ∧ i.nr = some nr) (pos : Nat) :
    (t.enter pos nr).resumes = t.pending := by
  show t.pending.filter (fun i => nr = .restartSyscall || i.nr = some nr) = t.pending
  cases hpend : t.pending with
  | none => rfl
  | some i =>
    apply Option.filter_some_pos
    rw [(hp i hpend).2]
    simp

theorem Matched.enter (h : Matched env life num p b t μ) (hr : nr ≠ .restartSyscall)
    (hp : ∀ i ∈ t.pending, t.returned = true ∧ i.nr = some nr)
    (he : Enters num nr μ c resumed μ') {pos : Nat} (hl : p <+: log)
    (hrep : resumed = true → Reported env life log (t.enter pos nr)) :
    Matched env life num log b (t.enter pos nr) μ' := by
  obtain ⟨hiff, -, hint, hseen⟩ := h.enters hr hp he
  obtain ⟨hcur, hnum⟩ := he.current_eq hr
  have hcall : (t.enter pos nr).call = some nr := if_neg hr
  have hrest : (t.enter pos nr).outstanding = t.underway := Thread.outstanding_of_none rfl
  refine ⟨fun hn => ?_, fun c' hc' => ?_, ?_, h.inner, fun n hn => ?_, fun hn => ?_,
    fun _ => rfl, fun hres => ?_⟩
  · rw [hrest]
    cases hpend : t.pending with
    | none =>
      rw [hint, if_pos hpend] at hn
      rw [← Thread.outstanding_of_none hpend]
      exact h.nothing hn
    | some i => exact (h.goingOn hpend).1
  · cases hpend : t.pending with
    | none =>
      rw [hint, if_pos hpend] at hc'
      rw [hrest, ← Thread.outstanding_of_none hpend]
      obtain ⟨i, n, hone, ht, hn⟩ := h.one c' hc'
      exact ⟨i, n, hone, ht.mono hl, hn⟩
    | some i =>
      rw [hint, if_neg (by rw [hpend]; exact Option.some_ne_none i)] at hc'
      cases hc'
  · rw [hseen]
    constructor
    · exact fun hs => nomatch hs
    · exact fun hs => nomatch hs.1
  · rw [hcall] at hn
    obtain rfl := Option.some.inj hn
    exact ⟨c, hcur, hnum⟩
  · rw [hcall] at hn
    cases hn
  · rw [resumes_enter hp] at hres
    exact hrep (hiff.mpr hres)

/-- the call that ends is the one that the thread is in -/
theorem Matched.ending {n : SystemCallNr} (h : Matched env life num p b t μ)
    (hcur : μ.current = some c) (hnum : num c = some n) : t.call = some n := by
  cases ht : t.call with
  | none =>
    rw [h.calling ht] at hcur
    cases hcur
  | some n' =>
    obtain ⟨c', hc', hn'⟩ := h.called n' ht
    rw [hcur] at hc'
    obtain rfl := Option.some.inj hc'
    rw [hnum] at hn'
    exact hn'.symm

/-- an aborted call -/
theorem Matched.abort {x : ExitInfo} {n : SystemCallNr} (h : Matched env life num p b t μ)
    (hcur : μ.current = some c) (hnum : num c = some n) (hx : x.interrupted = true)
    (hs : t.call.any isSigreturn = false) (hu : t.underway = []) (hl : p <+: log)
    (ht : truth env life log b = t.exit p.length x) :
    Matched env life num (log ++ [.callback (.syscallExit b c { interrupted := x.interrupted })]) b
      (t.exit p.length x) (μ.exit x c n) := by
  have hcall : t.call = some n := h.ending hcur hnum
  have hn : isSigreturn n = false := by
    rw [hcall] at hs
    exact hs
  have htell : Tells env life (log ++
      [.callback (.syscallExit b c { interrupted := x.interrupted })]) b c ⟨t.call, p.length⟩ :=
    tells_exit hx ht
  have hgrow := hl.trans (List.prefix_append log
    [.callback (.syscallExit b c { interrupted := x.interrupted })])
  rw [Thread.exit_of_interrupted hx]
  refine ⟨fun hi => ?_, fun c' hc' => ?_, ?_, h.inner, fun n' hn' => ?_, fun _ => Memo.exit_current,
    fun hne => absurd rfl hne, fun hr => (h.reported hr).mono hgrow⟩
  · rw [Memo.exit_interrupted hx] at hi
    cases hi
  · rw [Memo.exit_interrupted hx] at hc'
    obtain rfl := Option.some.inj hc'
    refine ⟨_, n, ?_, htell, hnum, hcall⟩
    show _ :: t.underway = _
    rw [hu]
  · rw [Memo.exit_seen hn]
    constructor
    · intro hseen
      have hnone := h.apart (by rw [hcall]; exact Option.some_ne_none n)
      exact absurd hnone (h.seen.mp hseen).2
    · exact fun hseen => nomatch hseen.1
  · cases hn'

/-- a call that returns, but no handler -/
theorem Matched.return {x : ExitInfo} {n : SystemCallNr} (h : Matched env life num p b t μ)
    (hcur : μ.current = some c) (hnum : num c = some n) (hx : x.interrupted = false)
    (hs : t.call.any isSigreturn = false) (hl : p <+: log) :
    Matched env life num log b (t.exit p.length x) (μ.exit x c n) := by
  have hn : isSigreturn n = false := by
    rw [h.ending hcur hnum] at hs
    exact hs
  have hnone : t.pending = none :=
    h.apart (by rw [h.ending hcur hnum]; exact Option.some_ne_none n)
  rw [Thread.exit_of_plain hx hs]
  refine ⟨fun hi => ?_, fun c' hc' => ?_, ?_, h.inner, fun n' hn' => ?_, fun _ => Memo.exit_current,
    fun _ => hnone, fun hr => (h.reported hr).mono hl⟩
  · rw [Memo.exit_plain hx hn] at hi
    exact h.nothing hi
  · rw [Memo.exit_plain hx hn] at hc'
    obtain ⟨i, n', hone, htell, hrest⟩ := h.one c' hc'
    exact ⟨i, n', hone, htell.mono hl, hrest⟩
  · rw [Memo.exit_seen hn]
    exact h.seen
  · cases hn'

/-- the handlers of a thread with one interruption -/
theorem handlers_of_underway {i : Interruption} (h : t.underway = [i])
    (hi : t.handlers.tail.reduceOption = []) : t.handlers.head?.join = some i := by
  unfold Thread.underway at h
  cases hh : t.handlers with
  | nil =>
    rw [hh] at h
    cases h
  | cons y ys =>
    rw [hh] at h hi
    cases y with
    | none =>
      have hys : ys.reduceOption = [] := hi
      have hnil : ys.reduceOption = [i] := h
      rw [hys] at hnil
      cases hnil
    | some j =>
      have hj : j :: ys.reduceOption = [i] := h
      exact congrArg some (List.cons.inj hj).1

theorem handlers_of_idle (h : t.underway = []) : t.handlers.head?.join = none := by
  unfold Thread.underway at h
  cases hh : t.handlers with
  | nil => rfl
  | cons y ys =>
    rw [hh] at h
    cases y with
    | none => rfl
    | some j => cases h

/-- the innermost handler returns -/
theorem Matched.handled {x : ExitInfo} {n : SystemCallNr} (h : Matched env life num p b t μ)
    (hcur : μ.current = some c) (hnum : num c = some n) (hx : x.interrupted = false)
    (hs : t.call.any isSigreturn = true) (hl : p <+: log) :
    Matched env life num log b (t.exit p.length x) (μ.exit x c n) := by
  have hcall : t.call = some n := h.ending hcur hnum
  have hn : isSigreturn n = true := by
    rw [hcall] at hs
    exact hs
  have hnone : t.pending = none := h.apart (by rw [hcall]; exact Option.some_ne_none n)
  have hunseen : μ.seenSigreturn = false := by
    rw [Bool.eq_false_iff]
    exact fun hseen => (h.seen.mp hseen).2 hnone
  obtain ⟨hint, hseen, hkept, hgiven⟩ := Memo.exit_sigreturn (μ := μ) (c := c) hx hn
  have hinner : t.handlers.tail.tail.reduceOption = [] := by
    have hi := h.inner
    cases hh : t.handlers.tail with
    | nil => rfl
    | cons y ys =>
      rw [hh] at hi
      cases y with
      | none => exact hi
      | some j => cases hi
  rw [Thread.exit_of_sigreturn hx hs]
  cases hi : μ.interrupted with
  | none =>
    -- the handler interrupted nothing
    have hu : t.underway = [] := by
      rw [← Thread.outstanding_of_none hnone]
      exact h.nothing hi
    have hout : (if x.isEINTR then none else t.handlers.head?.join) = none := by
      rw [handlers_of_idle hu, ite_self]
    rw [hout]
    refine ⟨fun _ => ?_, fun c' hc' => ?_, ?_, hinner, (fun n' hn' => nomatch hn'),
      fun _ => Memo.exit_current, fun hne => absurd rfl hne, fun hr => (h.reported hr).mono hl⟩
    · exact h.inner
    · rw [hint, hi, ite_self] at hc'
      cases hc'
    · rw [hkept hi, hunseen]
      constructor
      · exact fun hf => nomatch hf
      · exact fun hf => absurd rfl hf.2
  | some d =>
    obtain ⟨i, m, hone, htell, hm, him⟩ := h.one d hi
    have hu : t.underway = [i] := by
      rw [← Thread.outstanding_of_none hnone]
      exact hone
    have hhead := handlers_of_underway hu h.inner
    cases he : x.isEINTR with
    | true =>
      rw [he, if_pos rfl] at hint
      refine ⟨fun _ => h.inner, fun c' hc' => ?_, ?_, hinner, (fun n' hn' => nomatch hn'),
        fun _ => Memo.exit_current, fun hne => absurd rfl hne, fun hr => (h.reported hr).mono hl⟩
      · rw [hint] at hc'
        cases hc'
      · rw [hgiven he, hunseen]
        constructor
        · exact fun hf => nomatch hf
        · exact fun hf => absurd rfl hf.2
    | false =>
      rw [he, if_neg Bool.false_ne_true, hi] at hint
      rw [hhead]
      refine ⟨fun hf => ?_, fun c' hc' => ?_, ?_, hinner, (fun n' hn' => nomatch hn'),
        fun _ => Memo.exit_current, fun hne => absurd rfl hne, fun hr => (h.reported hr).mono hl⟩
      · rw [hint] at hf
        cases hf
      · rw [hint] at hc'
        obtain rfl := Option.some.inj hc'
        refine ⟨i, m, ?_, htell.mono hl, hm, him⟩
        show i :: t.handlers.tail.reduceOption = [i]
        rw [h.inner]
      · rw [hseen (by rw [hi]; exact Option.some_ne_none d) he]
        exact ⟨fun _ => ⟨rfl, Option.some_ne_none i⟩, fun _ => rfl⟩

theorem Matched.exec {t' : Thread} {μo : Memo} (h : Matched env life num p b t μ)
    {b' : TraceeId} (h' : Matched env life num p b' t' μo) (hnone : t.outstanding = [])
    (hnone' : t'.outstanding = []) (hl : p <+: log) :
    Matched env life num log b t'.exec (μ.replaced μo) := by
  have hpend : t.pending = none := by
    unfold Thread.outstanding at hnone
    cases ht : t.pending with
    | none => rfl
    | some i =>
      rw [ht] at hnone
      cases hnone
  refine ⟨fun _ => rfl, fun c hc => ?_, ?_, rfl, h'.called, h'.calling, fun _ => rfl,
    fun hr => (h'.reported hr).mono hl⟩
  · obtain ⟨i, n, hone, -⟩ := h'.one c hc
    rw [hnone'] at hone
    cases hone
  · constructor
    · intro hs
      exact absurd hpend (h.seen.mp hs).2
    · exact fun hf => nomatch hf.1

/-- one interruption after the other, as it is remembered -/
def matchedLedger (env : Env) (life : Life) : Ledger env life where
  Cond p e := Nested env life p e ∧ Flat env life p e
  Fit := Matched env life
  Good := MatchedGood env life
  orderly h := h.1.1
  fit_extend hn hl h := h.extend hn hl
  good_extend := by
    intro num num' p e hn h
    cases e with
    | callback c =>
      cases c with
      | syscallEntry b c flags =>
        refine ⟨h.1, fun i hi => ?_⟩
        obtain ⟨c', ht, hnum⟩ := h.2 i hi
        exact ⟨c', ht, hnum.extend hn⟩
      | _ => trivial
    | request b r error =>
      cases r with
      | getSyscallInfo pid =>
        cases error with
        | none => exact h
        | some _ => trivial
      | _ => trivial
    | _ => trivial
  good_other := by
    intro num p e he
    cases e with
    | callback c =>
      cases c with
      | syscallEntry b c flags => cases he
      | _ => trivial
    | request b r error =>
      cases r with
      | getSyscallInfo pid =>
        cases error with
        | none => cases he
        | some _ => trivial
      | _ => trivial
    | _ => trivial
  start num log b := by
    refine ⟨fun _ => rfl, ?_, ?_, rfl, ?_, fun _ => rfl, fun _ => rfl, fun hr => absurd rfl hr⟩
    · exact fun c hc => nomatch hc
    · constructor
      · exact fun hf => nomatch hf
      · exact fun hf => nomatch hf.1
    · exact fun n hn => nomatch hn
  good_stop _ hfit hr := hfit.reported hr
  entry := by
    intro num p log b pid μ μ' c flags hc hfit hentry he hl ht
    obtain ⟨⟨-, hn, hr⟩, hf, -⟩ := hc
    have hm := hfit.lives hn hf
    cases hs : (env.report p pid).stop with
    | entry info =>
      rw [hs] at hr
      obtain ⟨hnr, hp⟩ := hr
      obtain ⟨hiff, htell, -, -⟩ := hm.enters hnr hp he
      refine ⟨⟨?_, fun i hi => ?_⟩, ?_⟩
      · rw [ht, resumes_enter hp]
        exact hiff
      · rw [ht, resumes_enter hp] at hi
        obtain ⟨c', hc', hsame⟩ := htell i hi
        exact ⟨c', hc'.mono hl, hsame⟩
      · apply hm.enter hnr hp he (hl.trans (List.prefix_append _ _))
        intro hres
        refine ⟨log, b, c, flags, at_snoc log _, ?_, hres⟩
        rw [ht]
    | _ =>
      rw [hs] at hentry
      cases hentry
  exit := by
    intro num p log b pid μ c n x hc hfit hx hcur hnum hl ht
    obtain ⟨⟨-, hn, hr⟩, hf, hu⟩ := hc
    rw [hx] at hr hu
    have hm := hfit.lives hn hf
    have hgrow := hl.trans (List.prefix_append log
      [.callback (.syscallExit b c { interrupted := x.interrupted })])
    have hcall : ((truth env life p b).lives (life p b)).call = (truth env life p b).call :=
      (Thread.lives_calls _ _).1
    cases hs : ((truth env life p b).lives (life p b)).call.any isSigreturn with
    | true => exact hm.handled hcur hnum (hr (hcall ▸ hs)) hs hgrow
    | false =>
      by_cases hi : x.interrupted = true
      · exact hm.abort hcur hnum hi hs (hu hi) hl ht
      · exact hm.return hcur hnum (Bool.eq_false_of_not_eq_true hi) hs hgrow
  exec := by
    intro num p b former old μ μo hc hfit hfit'
    obtain ⟨⟨hnone, hnone'⟩, hs, hd⟩ := hc
    exact (hfit hs hd).exec hfit' hnone hnone' (List.prefix_append _ _)

theorem ledger_resumesMatched {SC : Type} [SyscallOps SC] {w : World SC} (hl : Lawful SC)
    (hw : Reachable env w) (hn : Always (Nested env life) w.log)
    (hf : Always (Flat env life) w.log) : ResumesMatched env life w := by
  have hholds := (matchedLedger env life).reachable hl hw
  obtain ⟨hgood, -⟩ := hholds.kept fun p e he => ⟨hn p e he, hf p e he⟩
  constructor
  · intro p b c flags hp
    obtain ⟨hiff, htell⟩ := hgood p _ hp
    refine ⟨hiff, fun i hi => ?_⟩
    obtain ⟨c', ht, hnum⟩ := htell i hi
    exact ⟨c', ht, hnum.callNr hholds.filed hl⟩
  · exact fun p b pid hp => hgood p _ hp

variable {I : Type} [CallItems I]

/-- without an interruption inside of another one all restarted calls are reported as resumed -/
theorem resumesMatched_of_flat {w : World (SystemCall I)} (hw : Reachable env w)
    (hn : Always (Nested env life) w.log) (hf : Always (Flat env life) w.log) :
    ResumesMatched env life w := ledger_resumesMatched lawful_systemCall hw hn hf

end

theorem resumesMatched_restart :
    ResumesMatched (scriptEnv restartStops) restartLife (scriptWorld restartStops) :=
  resumesMatched_of_flat restart_reachable (by decide +kernel) (by decide +kernel)

/-! ### an interruption inside of another one -/

/-- a `read()` is interrupted by a handler whose `write()` is interrupted by another one; both are
restarted -/
def nestedStops : List SyscallStop :=
  [entryStop 0, restartStop, entryStop 1, restartStop, entryStop 15, .exit (.retVal 0),
    entryStop 1, .exit (.retVal 0), entryStop 15, .exit (.retVal 0), entryStop 0]

def nestedLife : Life := scriptLife [[], [], [.invoke], [], [.invoke]]

theorem nested_reachable : Reachable (scriptEnv nestedStops) (scriptWorld nestedStops) :=
  (Reaches.start false).run (scriptRun 11) (by decide +kernel)

/-- the `read()` is reported as a new call -/
theorem resumesMatched_fails : ¬ ∀ (env : Env) (life : Life) (w : World (SystemCall Unit)),
    Reachable env w → Always (Nested env life) w.log → ResumesMatched env life w := by
  intro h
  have hn : Always (Nested (scriptEnv nestedStops) nestedLife) (scriptWorld nestedStops).log := by
    decide +kernel
  have hp : At (scriptWorld nestedStops).log ((scriptWorld nestedStops).log.take 97)
      (.callback (.syscallEntry 0 0 {})) := by
    unfold At
    decide +kernel
  have hres := ((h _ _ _ nested_reachable hn).matched _ _ _ _ hp).1.mpr (by decide +kernel)
  cases hres

end Clues
