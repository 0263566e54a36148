import Clues.Engine.Recording

/-!
# Interrupted and resumed system calls

* `Tells`           a `syscallExit()` with `INTERRUPTED` told of an interruption;
* `ResumesTold`     what is reported as resumed was told as interrupted, and is neither resumed nor
                    given up before; `Retains` is what this takes;
* `scriptWorld`     a task that reports given system call stops.
-/

namespace Clues

open Lib Lib.Exec Lib.History Step

/-! ## interruptions that were told -/

section
variable (env : Env) (life : Life)

/-- the consumer was told that the call `c` was interrupted, which is the interruption `i` -/
def Tells (log : Log) (b : TraceeId) (c : CallId) (i : Interruption) : Prop :=
  ∃ q flags, At log q (.callback (.syscallExit b c flags)) ∧ flags.interrupted = true ∧
    (truth env life q b).pending = some i

end

/-- the number that a system call object reports -/
def World.callNr {SC : Type} [SyscallOps SC] (w : World SC) (c : CallId) : Option SystemCallNr :=
  (w.calls c).map fun call => SyscallOps.callNr call.obj

section
variable {SC : Type} [SyscallOps SC] {env : Env} {life : Life} {w : World SC} {log : Log}
  {b : TraceeId} {c : CallId} {i : Interruption}

theorem Tells.mono {log' : Log} (h : Tells env life log b c i) (hl : log <+: log') :
    Tells env life log' b c i := by
  obtain ⟨q, flags, hq, hf, hi⟩ := h
  exact ⟨q, flags, hq.mono hl, hf, hi⟩

theorem callNr_eq (hf : w.Filed) (hl : Lawful SC) (c : CallId) :
    w.callNr c = (w.requested c).map createdNr := by
  unfold World.callNr World.requested
  cases hc : w.calls c with
  | none => rfl
  | some call =>
    show some (SyscallOps.callNr call.obj) = some (createdNr call.requested)
    rw [hf.numbered hl hc]

end

namespace Thread

theorem lives_outstanding {t : Thread} {us : List Unseen}
    (h : t.Always (fun t u => (t.unseen u).outstanding = t.outstanding) us) :
    (t.lives us).outstanding = t.outstanding := by
  induction us generalizing t with
  | nil => rfl
  | cons u us ih =>
    obtain ⟨hu, h⟩ := h
    rw [lives_cons, ih h, hu]

theorem lives_pending {t : Thread} (us : List Unseen) (h : t.pending = none) :
    (t.lives us).pending = none := by
  induction us generalizing t with
  | nil => exact h
  | cons u us ih =>
    rw [lives_cons]
    apply ih
    cases u <;> rfl

/-- without a pending call the handlers have interrupted all that is outstanding -/
theorem outstanding_of_none {t : Thread} (h : t.pending = none) : t.outstanding = t.underway := by
  unfold outstanding
  rw [h]
  rfl

/-- a handler returns to the call that it interrupted -/
theorem underway_head (t : Thread) :
    t.handlers.head?.join.toList ++ t.handlers.tail.reduceOption = t.underway := by
  unfold underway
  cases t.handlers with
  | nil => rfl
  | cons x xs => cases x <;> rfl

theorem exit_of_interrupted {t : Thread} {pos : Nat} {x : ExitInfo} (h : x.interrupted = true) :
    t.exit pos x = { t with call := none, pending := some ⟨t.call, pos⟩, returned := false } :=
  if_pos h

theorem exit_of_sigreturn {t : Thread} {pos : Nat} {x : ExitInfo} (h : x.interrupted = false)
    (hs : t.call.any isSigreturn = true) :
    t.exit pos x = { t with
      call := none
      pending := if x.isEINTR then none else t.handlers.head?.join
      returned := true
      handlers := t.handlers.tail } := by
  unfold exit
  rw [h, if_neg Bool.false_ne_true, if_pos hs]

theorem exit_of_plain {t : Thread} {pos : Nat} {x : ExitInfo} (h : x.interrupted = false)
    (hs : t.call.any isSigreturn = false) : t.exit pos x = { t with call := none } := by
  unfold exit
  rw [h, hs, if_neg Bool.false_ne_true, if_neg Bool.false_ne_true]

end Thread

/-! ### what an exit does to a memory -/

section
variable {μ : Memo} {x : ExitInfo} {c : CallId} {n : SystemCallNr}

theorem Memo.exit_current : (μ.exit x c n).current = none := by
  unfold Memo.exit Memo.finish Memo.interrupt
  split_ifs <;> rfl

theorem Memo.exit_ctr : (μ.exit x c n).ctr = μ.ctr := by
  unfold Memo.exit Memo.finish Memo.interrupt
  split_ifs <;> rfl

theorem isEINTR_of_interrupted (h : x.interrupted = true) : x.isEINTR = false := by
  unfold ExitInfo.interrupted ExitInfo.isEINTR at *
  cases hx : x.error with
  | none => rfl
  | some e =>
    rw [hx] at h
    have hk : e.hasKernelErrorCode = true := h
    show (e.hasErrorCode && _) = false
    unfold ErrnoResult.hasErrorCode
    rw [hk]
    rfl

/-- an aborted call is remembered -/
theorem Memo.exit_interrupted (h : x.interrupted = true) :
    (μ.exit x c n).interrupted = some c := by
  unfold Memo.exit Memo.finish Memo.interrupt
  rw [h, if_pos rfl, isEINTR_of_interrupted h, if_neg Bool.false_ne_true]
  split_ifs <;> rfl

/-- only the call that ends, or the one that was remembered -/
theorem Memo.exit_remembers {c' : CallId} (h : (μ.exit x c n).interrupted = some c') :
    c = c' ∨ μ.interrupted = some c' := by
  cases hx : x.interrupted with
  | true =>
    rw [Memo.exit_interrupted hx] at h
    exact Or.inl (Option.some.inj h)
  | false =>
    right
    unfold Memo.exit Memo.finish Memo.interrupt at h
    rw [hx, if_neg Bool.false_ne_true] at h
    split_ifs at h <;> exact h

/-- the end of a handler -/
theorem Memo.exit_sigreturn (h : x.interrupted = false) (hn : isSigreturn n = true) :
    (μ.exit x c n).interrupted = (if x.isEINTR then none else μ.interrupted) ∧
      (μ.interrupted ≠ none → x.isEINTR = false → (μ.exit x c n).seenSigreturn = true) ∧
      (μ.interrupted = none → (μ.exit x c n).seenSigreturn = μ.seenSigreturn) ∧
      (x.isEINTR = true → (μ.exit x c n).seenSigreturn = μ.seenSigreturn) := by
  unfold Memo.exit Memo.finish Memo.interrupt
  rw [h, hn, if_neg Bool.false_ne_true]
  cases hi : μ.interrupted <;> cases he : x.isEINTR <;> simp

/-- what else an exit may do -/
theorem Memo.exit_plain (h : x.interrupted = false) (hn : isSigreturn n = false) :
    (μ.exit x c n).interrupted = μ.interrupted := by
  unfold Memo.exit Memo.finish Memo.interrupt
  rw [h, hn, if_neg Bool.false_ne_true, Bool.and_false, if_neg Bool.false_ne_true]

theorem Memo.exit_seen (hn : isSigreturn n = false) :
    (μ.exit x c n).seenSigreturn = μ.seenSigreturn := by
  unfold Memo.exit Memo.finish Memo.interrupt
  rw [hn, Bool.and_false, if_neg Bool.false_ne_true]

end

/-! ## what is reported as resumed was interrupted -/

section
variable (env : Env) (life : Life)

/-- every call that is reported as resumed, unless it was running when tracing began, was told as
interrupted, and was neither resumed nor given up until then -/
def ResumesTold {SC : Type} [SyscallOps SC] (w : World SC) : Prop :=
  ∀ p b c flags, At w.log p (.callback (.syscallEntry b c flags)) → flags.resumed = true →
    (truth env life p b).inherited = false →
    ∃ i ∈ (truth env life p b).before, ∃ c', Tells env life p b c' i ∧
      ∃ n, w.callNr c' = some n ∧ w.callNr c = some n

/-- no interruption is given up by a jump out of a handler or by `execve()`, and a call that no
handler was invoked for goes on by `restart_syscall()`; besides, stops come one after the other -/
def Retains (p : Log) : Entry → Prop
  | .request b (.getSyscallInfo pid) none =>
      (stage p b = .idle ∧ ¬ Departed p b) ∧
      (truth env life p b).Always (fun t u => (t.unseen u).outstanding = t.outstanding)
        (life p b) ∧
      ((env.report p pid).stop.isEntry = true →
        ((truth env life p b).lives (life p b)).pending ≠ none →
        ((truth env life p b).lives (life p b)).returned = true ∨
          (env.report p pid).enteredNr env = .restartSyscall)
  | .execed b _ old => (truth env life p (old.getD b)).outstanding = []
  | _ => True

/-- a condition on the stops of threads and on what `execve()` replaces -/
def decidableAt (P : TraceeId → ProcessID → Prop) (Q : TraceeId → Option TraceeId → Prop)
    [∀ b pid, Decidable (P b pid)] [∀ b old, Decidable (Q b old)] (e : Entry) :
    Decidable (match e with
      | .request b (.getSyscallInfo pid) none => P b pid
      | .execed b _ old => Q b old
      | _ => True) := by
  split
  all_goals infer_instance

instance (p : Log) (e : Entry) : Decidable (Retains env life p e) := decidableAt _ _ e

/-- two objects that report the same number -/
def SameNr (num : Numbering) (c c' : CallId) : Prop :=
  ∃ n n', num c = some n ∧ num c' = some n' ∧ createdNr n = createdNr n'

/-- the call that is remembered as interrupted was told, and is outstanding -/
structure Told (num : Numbering) (log : Log) (b : TraceeId) (t : Thread) (μ : Memo) : Prop where
  told : ∀ c, μ.interrupted = some c → ∃ i ∈ t.outstanding, Tells env life log b c i
  known : ∀ c, μ.interrupted = some c → ∃ n, num c = some n
  seen : t.returned = true → t.pending ≠ none → μ.interrupted ≠ none → μ.seenSigreturn = true
  begun : μ.ctr = 0 → t.begun = false
  called : ∀ n, t.call = some n → ∃ c, μ.current = some c ∧ num c = some n
  apart : t.call ≠ none → t.pending = none

def ToldGood (num : Numbering) (p : Log) : Entry → Prop
  | .callback (.syscallEntry b c flags) =>
      flags.resumed = true → (truth env life p b).inherited = false →
        ∃ i ∈ (truth env life p b).before, ∃ c', Tells env life p b c' i ∧ SameNr num c' c
  | _ => True

end

section
variable {env : Env} {life : Life} {num num' : Numbering} {p log : Log} {b : TraceeId}
  {t : Thread} {μ μ' : Memo} {c : CallId} {nr : SystemCallNr} {resumed : Bool}

theorem SameNr.extend {c' : CallId} (h : SameNr num c c') (hn : Extends num num') :
    SameNr num' c c' := by
  obtain ⟨n, n', hc, hc', he⟩ := h
  exact ⟨n, n', hn _ _ hc, hn _ _ hc', he⟩

theorem SameNr.callNr {SC : Type} [SyscallOps SC] {w : World SC} {c' : CallId}
    (h : SameNr w.requested c c') (hf : w.Filed) (hl : Lawful SC) :
    ∃ n, w.callNr c = some n ∧ w.callNr c' = some n := by
  obtain ⟨n, n', hc, hc', he⟩ := h
  refine ⟨createdNr n, ?_, ?_⟩
  · rw [callNr_eq hf hl, hc]
    rfl
  · rw [callNr_eq hf hl, hc', he]
    rfl

theorem Told.extend {log' : Log} (h : Told env life num log b t μ) (hn : Extends num num')
    (hl : log <+: log') : Told env life num' log' b t μ where
  told c hc := by
    obtain ⟨i, hi, ht⟩ := h.told c hc
    exact ⟨i, hi, ht.mono hl⟩
  known c hc := by
    obtain ⟨n, hnum⟩ := h.known c hc
    exact ⟨n, hn _ _ hnum⟩
  seen := h.seen
  begun := h.begun
  called n hc := by
    obtain ⟨c, hc, hnum⟩ := h.called n hc
    exact ⟨c, hc, hn _ _ hnum⟩
  apart := h.apart

/-- a call that is reported as resumed -/
theorem Told.resumes (h : Told env life num p b t μ) (he : Enters num nr μ c resumed μ')
    (hr : resumed = true) (hb : (nr = .restartSyscall && !t.begun) = false) :
    ∃ i ∈ t.outstanding, ∃ c', Tells env life p b c' i ∧ SameNr num c' c := by
  cases he with
  | restarted hnr hi =>
    obtain ⟨i, hmem, ht⟩ := h.told _ hi
    obtain ⟨n, hn⟩ := h.known _ hi
    exact ⟨i, hmem, c, ht, n, n, hn, hn, rfl⟩
  | unknown hnr hi hctr =>
    -- only the first entry may resume a call that was not told
    have hzero : μ.ctr = 0 := by
      by_contra hne
      rw [hctr hne] at hr
      cases hr
    rw [hnr, h.begun hzero] at hb
    cases hb
  | @returned i n hnr hi hs hc hn =>
    obtain ⟨j, hmem, ht⟩ := h.told _ hi
    exact ⟨j, hmem, i, ht, n, nr, hn, hc, of_decide_eq_true hr⟩
  | plain => cases hr

/-- what is still remembered behind an entry -/
theorem Enters.interrupted_eq (he : Enters num nr μ c resumed μ') :
    μ'.interrupted = none ∨
      nr ≠ .restartSyscall ∧ μ.seenSigreturn = false ∧ μ'.interrupted = μ.interrupted := by
  cases he with
  | restarted hnr hi => exact Or.inl rfl
  | unknown hnr hi hctr => exact Or.inl hi
  | returned hnr hi hs hc hn => exact Or.inl rfl
  | plain hnr hi hc =>
    obtain hi | hs := hi
    · exact Or.inl hi
    · exact Or.inr ⟨hnr, hs, rfl⟩

theorem Enters.ctr_eq (he : Enters num nr μ c resumed μ') : μ'.ctr = μ.ctr + 1 := by
  cases he <;> rfl

theorem Enters.current_eq (he : Enters num nr μ c resumed μ') (hr : nr ≠ .restartSyscall) :
    μ'.current = some c ∧ num c = some nr := by
  cases he with
  | restarted hnr => exact absurd hnr hr
  | unknown hnr => exact absurd hnr hr
  | returned hnr hi hs hc hn => exact ⟨rfl, hc⟩
  | plain hnr hi hc => exact ⟨rfl, hc⟩

theorem Told.enter {us : List Unseen} (h : Told env life num p b t μ)
    (ha : t.Always (fun t u => (t.unseen u).outstanding = t.outstanding) us)
    (hr : (t.lives us).pending ≠ none → (t.lives us).returned = true ∨ nr = .restartSyscall)
    (he : Enters num nr μ c resumed μ') (pos : Nat) :
    Told env life num p b ((t.lives us).enter pos nr) μ' where
  told c' hc' := by
    obtain hnone | ⟨hnr, hs, hsame⟩ := he.interrupted_eq
    · rw [hnone] at hc'
      cases hc'
    · rw [hsame] at hc'
      obtain ⟨i, hi, ht⟩ := h.told c' hc'
      refine ⟨i, ?_, ht⟩
      -- the pending call is not the one that is remembered
      have hpend : (t.lives us).pending = none := by
        by_contra hne
        obtain hret | hrestart := hr hne
        · have hus : us = [] := Thread.lives_returned hret
          subst hus
          have hseen := h.seen hret hne (by rw [hc']; exact Option.some_ne_none c')
          rw [hs] at hseen
          cases hseen
        · exact hnr hrestart
      rw [← Thread.lives_outstanding ha, Thread.outstanding_of_none hpend] at hi
      exact hi
  known c' hc' := by
    obtain hnone | ⟨-, -, hsame⟩ := he.interrupted_eq
    · rw [hnone] at hc'
      cases hc'
    · rw [hsame] at hc'
      exact h.known c' hc'
  seen hret := nomatch hret
  begun hz := by
    rw [he.ctr_eq] at hz
    cases hz
  called n hn := by
    have hcall : (if nr = .restartSyscall then none else some nr) = some n := hn
    split_ifs at hcall with hnr
    obtain ⟨hcur, hnum⟩ := he.current_eq hnr
    exact ⟨c, hcur, hcall ▸ hnum⟩
  apart _ := rfl

theorem Thread.exit_call (t : Thread) (pos : Nat) (x : ExitInfo) : (t.exit pos x).call = none := by
  unfold Thread.exit
  split_ifs <;> rfl

theorem Thread.exit_begun (t : Thread) (pos : Nat) (x : ExitInfo) :
    (t.exit pos x).begun = t.begun := by
  unfold Thread.exit
  split_ifs <;> rfl

/-- what is told of an aborted call -/
theorem tells_exit {x : ExitInfo} (hx : x.interrupted = true)
    (ht : truth env life log b = t.exit p.length x) :
    Tells env life (log ++ [.callback (.syscallExit b c { interrupted := x.interrupted })]) b c
      ⟨t.call, p.length⟩ := by
  refine ⟨log, _, at_snoc log _, hx, ?_⟩
  rw [ht, Thread.exit_of_interrupted hx]

/-- the call that ends is the one that the thread is in -/
theorem Told.ending {n n' : SystemCallNr} (h : Told env life num p b t μ)
    (hcur : μ.current = some c) (hnum : num c = some n) (ht : t.call = some n') : n' = n := by
  obtain ⟨c', hc', hn'⟩ := h.called n' ht
  rw [hcur] at hc'
  obtain rfl := Option.some.inj hc'
  rw [hnum] at hn'
  exact (Option.some.inj hn').symm

theorem Told.exit {us : List Unseen} {x : ExitInfo} {n : SystemCallNr}
    (h : Told env life num p b t μ)
    (ha : t.Always (fun t u => (t.unseen u).outstanding = t.outstanding) us)
    (hcur : μ.current = some c) (hnum : num c = some n) (hl : p <+: log)
    (ht : truth env life log b = (t.lives us).exit p.length x) :
    Told env life num (log ++ [.callback (.syscallExit b c { interrupted := x.interrupted })]) b
      ((t.lives us).exit p.length x) (μ.exit x c n) := by
  have hcalled : ((t.lives us).exit p.length x).call = none := Thread.exit_call _ _ _
  -- what was remembered before and is still outstanding
  have hold : ∀ t' : Thread, (∀ i ∈ (t.lives us).outstanding, i ∈ t'.outstanding) → ∀ c',
      μ.interrupted = some c' → ∃ i ∈ t'.outstanding,
        Tells env life (log ++ [.callback (.syscallExit b c { interrupted := x.interrupted })]) b
          c' i := by
    intro t' hsub c' hc'
    obtain ⟨i, hi, htell⟩ := h.told c' hc'
    rw [← Thread.lives_outstanding ha] at hi
    exact ⟨i, hsub i hi, htell.mono (hl.trans (List.prefix_append _ _))⟩
  have hrest : ∀ n', ((t.lives us).exit p.length x).call = some n' → ∃ c',
      (μ.exit x c n).current = some c' ∧ num c' = some n' := by
    intro n' hn'
    rw [hcalled] at hn'
    cases hn'
  have hbegun : (μ.exit x c n).ctr = 0 → ((t.lives us).exit p.length x).begun = false := by
    intro hz
    rw [Thread.exit_begun, (Thread.lives_calls t us).2]
    rw [Memo.exit_ctr] at hz
    exact h.begun hz
  refine ⟨?_, ?_, ?_, hbegun, hrest, fun hne => absurd hcalled hne⟩
  · intro c' hc'
    cases hx : x.interrupted with
    | true =>
      rw [Memo.exit_interrupted hx] at hc'
      obtain rfl := Option.some.inj hc'
      refine ⟨⟨(t.lives us).call, p.length⟩, ?_, hx ▸ tells_exit hx ht⟩
      rw [Thread.exit_of_interrupted hx]
      exact List.mem_append_left _ (List.mem_singleton_self _)
    | false =>
      rw [hx] at hold
      cases hs : (t.lives us).call.any isSigreturn with
      | true =>
        obtain ⟨n', hn', hsig⟩ := (Option.any_eq_true _ _).mp hs
        rw [(Thread.lives_calls t us).1] at hn'
        have hn : isSigreturn n = true := h.ending hcur hnum hn' ▸ hsig
        rw [(Memo.exit_sigreturn hx hn).1] at hc'
        cases he : x.isEINTR with
        | true =>
          rw [he, if_pos rfl] at hc'
          cases hc'
        | false =>
          rw [he, if_neg Bool.false_ne_true] at hc'
          apply hold _ _ c' hc'
          intro i hi
          have hpend : (t.lives us).pending = none :=
            Thread.lives_pending us (h.apart (by rw [hn']; exact Option.some_ne_none n'))
          rw [Thread.outstanding_of_none hpend, ← Thread.underway_head] at hi
          rw [Thread.exit_of_sigreturn hx hs]
          unfold Thread.outstanding Thread.underway
          rw [he, if_neg Bool.false_ne_true]
          exact hi
      | false =>
        rw [Thread.exit_of_plain hx hs]
        apply hold _ (fun i hi => hi) c'
        cases hn : isSigreturn n with
        | true =>
          rw [(Memo.exit_sigreturn hx hn).1] at hc'
          split_ifs at hc'
          exact hc'
        | false =>
          rw [Memo.exit_plain hx hn] at hc'
          exact hc'
  · intro c' hc'
    obtain rfl | hsame := Memo.exit_remembers hc'
    · exact ⟨n, hnum⟩
    · exact h.known c' hsame
  · intro hret hp hi
    cases hx : x.interrupted with
    | true =>
      rw [Thread.exit_of_interrupted hx] at hret
      cases hret
    | false =>
      cases hn : isSigreturn n with
      | true =>
        obtain ⟨hint, hseen, -, -⟩ := Memo.exit_sigreturn (μ := μ) (c := c) hx hn
        rw [hint] at hi
        cases he : x.isEINTR with
        | true =>
          rw [he, if_pos rfl] at hi
          exact absurd rfl hi
        | false =>
          rw [he, if_neg Bool.false_ne_true] at hi
          exact hseen hi he
      | false =>
        have hs : (t.lives us).call.any isSigreturn = false := by
          rw [Bool.eq_false_iff]
          intro hs
          obtain ⟨n', hn', hsig⟩ := (Option.any_eq_true _ _).mp hs
          rw [(Thread.lives_calls t us).1] at hn'
          rw [h.ending hcur hnum hn', hn] at hsig
          cases hsig
        rw [Thread.exit_of_plain hx hs] at hret hp
        have hus : us = [] := Thread.lives_returned hret
        subst hus
        rw [Memo.exit_plain hx hn] at hi
        rw [Memo.exit_seen hn]
        exact h.seen hret hp hi

theorem Told.exec {t' : Thread} {μo : Memo} (h : Told env life num p b t' μo)
    (hnone : t'.outstanding = []) {b' : TraceeId} (log : Log) :
    Told env life num log b' t'.exec (μ.replaced μo) where
  told c hc := by
    obtain ⟨i, hi, -⟩ := h.told c hc
    rw [hnone] at hi
    cases hi
  known := h.known
  seen hret := nomatch hret
  begun := h.begun
  called := h.called
  apart _ := rfl

/-- interrupted calls, as they are remembered -/
def toldLedger (env : Env) (life : Life) : Ledger env life where
  Cond := Retains env life
  Fit := Told env life
  Good := ToldGood env life
  orderly h := h.1
  fit_extend hn hl h := h.extend hn hl
  good_extend := by
    intro num num' p e hn h
    cases e with
    | callback c =>
      cases c with
      | syscallEntry b c flags =>
        intro hr hb
        obtain ⟨i, hi, c', ht, hnum⟩ := h hr hb
        exact ⟨i, hi, c', ht, hnum.extend hn⟩
      | _ => trivial
    | _ => trivial
  good_other := by
    intro num p e he
    cases e with
    | callback c =>
      cases c with
      | syscallEntry b c flags => cases he
      | _ => trivial
    | _ => trivial
  start num log b := by
    refine ⟨?_, ?_, ?_, ?_, ?_, ?_⟩
    · exact fun c hc => nomatch hc
    · exact fun c hc => nomatch hc
    · exact fun hret => nomatch hret
    · exact fun _ => rfl
    · exact fun n hn => nomatch hn
    · exact fun _ => rfl
  good_stop _ _ := trivial
  entry := by
    intro num p log b pid μ μ' c flags hc hfit hentry he hl ht
    obtain ⟨-, ha, hr⟩ := hc
    have hpend := hr hentry
    have hnew := hfit.enter ha hpend he p.length
    refine ⟨fun hres hb => ?_, hnew.extend (Extends.refl num) (hl.trans (List.prefix_append _ _))⟩
    rw [ht] at hb ⊢
    obtain ⟨i, hi, c', htell, hnum⟩ := hfit.resumes he hres (by
      rw [← (Thread.lives_calls _ (life p b)).2]
      exact hb)
    refine ⟨i, ?_, c', htell.mono hl, hnum⟩
    show i ∈ ((truth env life p b).lives (life p b)).outstanding
    rw [Thread.lives_outstanding ha]
    exact hi
  exit := by
    intro num p log b pid μ c n x hc hfit _ hcur hnum hl ht
    exact hfit.exit hc.2.1 hcur hnum hl ht
  exec := by
    intro num p b former old μ μo hc _ hfit
    exact hfit.exec hc _

variable {SC : Type} [SyscallOps SC] {w : World SC}

theorem ledger_resumesTold (hl : Lawful SC) (hw : Reachable env w)
    (h : Always (Retains env life) w.log) : ResumesTold env life w := by
  intro p b c flags hp hr hb
  have hholds := (toldLedger env life).reachable hl hw
  obtain ⟨i, hi, c', ht, hnum⟩ := (hholds.kept h).1 p _ hp hr hb
  exact ⟨i, hi, c', ht, hnum.callNr hholds.filed hl⟩

variable {I : Type} [CallItems I]

/-- in runs that keep the interruptions only what was told as interrupted is resumed -/
theorem resumesTold_of_retains {w : World (SystemCall I)} (hw : Reachable env w)
    (h : Always (Retains env life) w.log) : ResumesTold env life w :=
  ledger_resumesTold lawful_systemCall hw h

end

/-! ### runs of a task that reads -/

/-- the system call stops that were reported -/
def stopsSeen (log : Log) : Nat :=
  log.countP fun e => match e with
    | .request _ (.getSyscallInfo _) none => true
    | _ => false

/-- a kernel that reports the given system call stops, one after the other -/
def scriptEnv (stops : List SyscallStop) : Env where
  syscallInfo log _ := (.x86_64, false, (stops[stopsSeen log]?).getD .none)
  toGeneric _ nr :=
    match nr.toNat with
    | 0 => .read
    | 1 => .write
    | 15 => .rtSigreturn
    | _ => .unknown

/-- what the thread did before each of these stops -/
def scriptLife (unseen : List (List Unseen)) : Life := fun log _ =>
  (unseen[stopsSeen log]?).getD []

/-- the task 100 is attached to, and so many system call stops are reported -/
def scriptRun (stops : Nat) : List Op :=
  [.addForeign 100 false false (-1) false, .event ⟨100, .trapped (.event Signal.trap .stop)⟩] ++
    List.replicate stops (.event ⟨100, .trapped .sysTrap⟩)

def scriptWorld (stops : List SyscallStop) : World (SystemCall Unit) :=
  runOps (scriptEnv stops) (scriptRun stops.length) {}

def entryStop (nr : UInt64) : SyscallStop := .entry ⟨nr, fun _ => 0⟩

/-- `ERESTARTSYS` -/
def restartStop : SyscallStop := .exit (.errVal 512)

/-- a `read()` is interrupted by a handler and restarted when that returns -/
def restartStops : List SyscallStop :=
  [entryStop 0, restartStop, entryStop 15, .exit (.retVal 0), entryStop 0]

def restartLife : Life := scriptLife [[], [], [.invoke]]

theorem restart_reachable : Reachable (scriptEnv restartStops) (scriptWorld restartStops) :=
  (Reaches.start false).run (scriptRun 5) (by decide +kernel)

theorem resumesTold_restart :
    ResumesTold (scriptEnv restartStops) restartLife (scriptWorld restartStops) :=
  resumesTold_of_retains restart_reachable (by decide +kernel)

/-- the handler jumps away, and another one returns before the thread reads again -/
def jumpLife : Life := scriptLife [[], [], [.invoke, .jump 1, .invoke]]

theorem resumesTold_fails : ¬ ∀ (env : Env) (life : Life) (w : World (SystemCall Unit)),
    Reachable env w → ResumesTold env life w := by
  intro h
  have hp : At (scriptWorld restartStops).log ((scriptWorld restartStops).log.take 48)
      (.callback (.syscallEntry 0 0 { resumed := true })) := by
    unfold At
    decide +kernel
  obtain ⟨i, hi, -⟩ := h _ jumpLife _ restart_reachable _ _ _ _ hp rfl (by decide +kernel)
  have hnone : (truth (scriptEnv restartStops) jumpLife
      ((scriptWorld restartStops).log.take 48) 0).before = [] := by decide +kernel
  rw [hnone] at hi
  cases hi

end Clues
