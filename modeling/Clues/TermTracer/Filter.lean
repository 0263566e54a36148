import Clues.Engine.Numbers
import Clues.Engine.Resumes
import Clues.TermTracer.Shown

/-!
# The filter for system calls

* `session`          the tracer after the callbacks in the log of the engine;
* `printedBy`        the lines of system calls that an entry of the log makes it print;
* `wanted`           those that it is to print: entry, exit, success and abort of the calls whose
                     number is in the filter;
* `CallFits`         the tracer can follow the callback, and a call that ends without an exit is the
                     one that was entered last under the PID.

A number is the one that the registers decode to at the entry, or that of the original call where one
goes on. The tracer asks the object, and the object for `brk()` has another number.
-/

namespace Clues

open Lib Lib.Exec Lib.History TermTracer

/-! ## the tracer in a run -/

section
variable (cfg : Config) (v : Views) (main : ProcessID)

/-- the callback that an entry is, if the tracer overrides it -/
def Entry.consumer (p : Log) : Entry → Option Consumer
  | .callback c => c.consumer v p
  | _ => none

/-- its stream is read off before each callback -/
def session (log : Log) : Session :=
  trail (fun p s e => (e.consumer v p).elim s (s.tell cfg))
    { tracer := { mainTraceePid := main } } log

def shown (log : Log) : Shown := trail (fun p σ e => (e.consumer v p).elim σ (σ.after cfg)) {} log

/-- the call that was entered last under a PID and has not ended, whether it is of the filter or
not -/
def lastEntered (log : Log) : Opened := (shown { cfg with syscallFilter := [] } v log).opened

/-- the lines of calls that are printed for one more entry -/
def printedBy (p : Log) (e : Entry) : List Output :=
  (e.consumer v p).elim [] fun k =>
    ((session cfg v main p).outcome cfg k).2.printed.filter Output.isCall

/-- the tracer can follow the callback -/
def CallbackFits (p : Log) (e : Entry) : Prop := ∀ k ∈ e.consumer v p, (shown cfg v p).Fits cfg k

/-- the records are right, and the tracer knows what is shown -/
structure Followed (log : Log) : Prop where
  recorded : Recorded cfg (session cfg v main log).opened (session cfg v main log).tracer
  shown : (session cfg v main log).shown = shown cfg v log

variable {cfg v main} {p log : Log} {e : Entry} {k : Consumer}

theorem followed_snoc (h : Followed cfg v main p) (he : CallbackFits cfg v p e) :
    Followed cfg v main (p ++ [e]) := by
  have hsession : session cfg v main (p ++ [e])
      = (e.consumer v p).elim (session cfg v main p) ((session cfg v main p).tell cfg) :=
    trail_snoc p e
  have hshown : Clues.shown cfg v (p ++ [e])
      = (e.consumer v p).elim (Clues.shown cfg v p) ((Clues.shown cfg v p).after cfg) :=
    trail_snoc p e
  cases hk : e.consumer v p with
  | none =>
    rw [hk] at hsession hshown
    exact ⟨by rw [hsession]; exact h.recorded, by rw [hsession, hshown]; exact h.shown⟩
  | some k =>
    rw [hk] at hsession hshown
    have hfits : (session cfg v main p).shown.Fits cfg k := by
      rw [h.shown]
      exact he k hk
    obtain ⟨htell, hrec⟩ := Session.tell_shown h.recorded hfits
    refine ⟨by rw [hsession]; exact hrec, ?_⟩
    rw [hsession, hshown, ← h.shown]
    exact htell

/-- as long as the callbacks fit, the tracer follows them -/
theorem followed_session (h : Always (CallbackFits cfg v) log) : Followed cfg v main log := by
  induction log using List.reverseRecOn with
  | nil => exact ⟨Session.recorded_start cfg _ rfl rfl, rfl⟩
  | append_singleton log e ih =>
    obtain ⟨hlog, he⟩ := always_snoc_iff.mp h
    exact followed_snoc (ih hlog) he

/-- the lines of calls are the expected ones then -/
theorem printedBy_lines (h : Followed cfg v main p) (he : CallbackFits cfg v p e)
    (hk : e.consumer v p = some k) :
    printedBy cfg v main p e = (Clues.shown cfg v p).lines cfg k := by
  have hfits : (session cfg v main p).shown.Fits cfg k := by
    rw [h.shown]
    exact he k hk
  unfold printedBy
  rw [hk, ← h.shown]
  exact Session.outcome_lines h.recorded hfits

end

/-! ## the lines to print -/

section
variable {SC : Type} [SyscallOps SC] (cfg : Config) (v : Views) (main : ProcessID) (w : World SC)

/-- an object tells the number that it was created with -/
def Views.showing : Views := { v with call := fun _ c => ⟨c, (w.callNr c).getD .unknown⟩ }

def Config.filters (nr : Option SystemCallNr) : Bool := nr.any fun n => cfg.syscallFilter.contains n

def isExecNr (nr : Option SystemCallNr) : Bool := nr = some .execve || nr = some .execveat

/-- the number of a call that is entered; if that was never told, the one that its object was
requested for -/
def World.toldNr (p : Log) (id : TraceeId) (c : CallId) (flags : StatusFlags) :
    Option SystemCallNr := ((numbers p).decoded id c flags).or (w.requested c)

/-- the number of a call that was entered -/
def World.originalNr (p : Log) (c : CallId) : Option SystemCallNr :=
  ((numbers p).original c).or (w.requested c)

/-- the number of the call that a tracee is in -/
def World.withinNr (p : Log) (id : TraceeId) : Option SystemCallNr :=
  ((numbers p).within id).bind (w.originalNr p)

/-- all lines of a call of the filter, and none of another; the exit of an `execve()` that succeeded
was printed with the new execution context -/
def wanted (p : Log) : Entry → List Output
  | .callback (.syscallEntry id c flags) =>
      if cfg.filters (w.toldNr p id c flags)
      then [.entry (v.tracee p id).pid ((v.showing w).call p c)] else []
  | .callback (.syscallExit id c _) =>
      if cfg.filters (w.originalNr p c) ∧ ¬ (isExecNr (w.originalNr p c) && v.hasResult p c)
      then [.exit (v.tracee p id).pid ((v.showing w).call p c)] else []
  | .callback (.newExecutionContext id _ _ _) =>
      if cfg.filters (w.withinNr p id) then [.success (v.tracee p id).pid] else []
  | .callback (.exited id _ _) =>
      if (v.tracee p id).prevState = .syscallEnterStop ∧ cfg.filters (w.withinNr p id)
      then [.aborted (v.tracee p id).pid] else []
  | .callback (.disappeared id _) =>
      if cfg.filters (w.withinNr p id) then [.aborted (v.tracee p id).pid] else []
  | _ => []

/-- the objects tell the numbers that were requested, and all lines of the calls of the filter are
printed -/
structure FiltersRightly : Prop where
  numbers : ∀ c n, w.requested c = some n → w.callNr c = some n
  prints : Always (fun p e => printedBy cfg (v.showing w) main p e = wanted cfg v w p e) w.log

/-- the PID under which the thread was known before -/
def formerPid (p : Log) (id : TraceeId) (oldPid : Option ProcessID) : Option ProcessID :=
  oldPid.filter fun old => old ≠ (v.tracee p id).pid

/-- the tracee is in the call that was entered last under the PID, and no other call of the filter is
open there -/
def InLast (p : Log) (id : TraceeId) (pid : ProcessID) : Prop :=
  (lastEntered cfg (v.showing w) p pid).map Sys.id = (numbers p).within id ∧
    ∀ sc ∈ (shown cfg (v.showing w) p).opened pid, lastEntered cfg (v.showing w) p pid = some sc

/-- a call that ends without an exit was the last one -/
def EndFits (p : Log) : Entry → Prop
  | .callback (.newExecutionContext id _ _ oldPid) =>
      InLast cfg v w p id ((formerPid v p id oldPid).getD (v.tracee p id).pid)
  | .callback (.exited id _ _) =>
      (v.tracee p id).prevState = .syscallEnterStop → InLast cfg v w p id (v.tracee p id).pid
  | .callback (.disappeared id _) => InLast cfg v w p id (v.tracee p id).pid
  | _ => True

def CallFits (p : Log) (e : Entry) : Prop :=
  CallbackFits cfg (v.showing w) p e ∧ EndFits cfg v w p e

end

section
variable {SC : Type} [SyscallOps SC] {cfg : Config} {v : Views} {main : ProcessID} {w : World SC}
  {p : Log} {e : Entry} {c : CallId} {n : SystemCallNr}

theorem isEnabled_eq (hne : cfg.syscallFilter ≠ []) (sc : Sys) :
    isEnabled cfg (some sc) = cfg.filters (some sc.nr) := by
  show (cfg.syscallFilter.isEmpty || cfg.syscallFilter.contains sc.nr) = _
  rw [List.isEmpty_eq_false_iff.mpr hne]
  rfl

theorem isExecSyscall_eq (sc : Sys) : isExecSyscall sc = isExecNr (some sc.nr) := by
  simp [isExecSyscall, isExecNr]

theorem showing_call (h : w.callNr c = some n) : (v.showing w).call p c = ⟨c, n⟩ := by
  show Sys.mk c ((w.callNr c).getD .unknown) = _
  rw [h]
  rfl

omit [SyscallOps SC] in
/-- what was told agrees with what was requested -/
theorem told_or {o : Option SystemCallNr} (hn : w.requested c = some n)
    (h : ∀ m, o = some m → m = n) : o.or (w.requested c) = some n := by
  cases o with
  | none => exact hn
  | some m => rw [h m rfl]; rfl

theorem consumer_former (t : TraceeView) (oldPid : Option ProcessID) :
    (oldPid.bind fun old => if h : old ≠ t.pid then some (⟨old, h⟩ : { pid // pid ≠ t.pid })
      else none).map Subtype.val = oldPid.filter fun old => old ≠ t.pid := by
  cases oldPid with
  | none => rfl
  | some old =>
    by_cases h : old = t.pid
    · simp [Option.filter, h]
    · simp [Option.filter, h]

/-! ### the call that was entered last -/

/-- only an entry opens a call -/
theorem Consumer.opens_or {o : Opened} {pid : ProcessID} {sc : Sys} {k : Consumer}
    (h : k.opens cfg o pid = some sc) :
    o pid = some sc ∨ ∃ t abi flags, k = .syscallEntry t sc abi flags := by
  have hupdate : ∀ q, Function.update o q none pid = some sc → o pid = some sc := by
    intro q h
    rw [Function.update_apply] at h
    split_ifs at h
    exact h
  cases k with
  | syscallEntry t sc' abi flags =>
    unfold Consumer.opens at h
    dsimp only at h
    split_ifs at h
    · rw [Function.update_apply] at h
      split_ifs at h
      · cases h
        exact Or.inr ⟨t, abi, flags, rfl⟩
      · exact Or.inl h
    · exact Or.inl h
  | syscallExit t sc' hasResult =>
    unfold Consumer.opens at h
    dsimp only at h
    split_ifs at h
    · exact Or.inl (hupdate _ h)
    · exact Or.inl h
  | exited t status flags => exact Or.inl (hupdate _ h)
  | disappeared t status => exact Or.inl (hupdate _ h)
  | newExecutionContext t old answer =>
    unfold Consumer.opens at h
    dsimp only at h
    split_ifs at h
    exact Or.inl h
  | _ => exact Or.inl h

/-- the calls of `all` that meet `P` are open in `o` -/
def Covers (P : Sys → Prop) (o all : Opened) : Prop :=
  ∀ pid sc, all pid = some sc → P sc → o pid = some sc

section
variable {P : Sys → Prop} {o all : Opened}

theorem Covers.without (h : Covers P o all) (pid : ProcessID) :
    Covers P o (Function.update all pid none) := by
  intro q sc hq hP
  rw [Function.update_apply] at hq
  split_ifs at hq
  exact h q sc hq hP

theorem Covers.ended (h : Covers P o all) (pid : ProcessID) :
    Covers P (Function.update o pid none) (Function.update all pid none) := by
  intro q sc hq hP
  rw [Function.update_apply] at hq ⊢
  split_ifs at hq ⊢
  exact h q sc hq hP

theorem Covers.entered (h : Covers P o all) (pid : ProcessID) (sc : Sys) :
    Covers P (Function.update o pid (some sc)) (Function.update all pid (some sc)) := by
  intro q sc' hq hP
  rw [Function.update_apply] at hq ⊢
  split_ifs at hq ⊢
  · exact hq
  · exact h q sc' hq hP

theorem Covers.entered_other (h : Covers P o all) (pid : ProcessID) {sc : Sys} (hP : ¬ P sc) :
    Covers P o (Function.update all pid (some sc)) := by
  intro q sc' hq hP'
  rw [Function.update_apply] at hq
  split_ifs at hq
  · cases hq
    exact absurd hP' hP
  · exact h q sc' hq hP'

/-- the calls that were entered last and are of the filter are shown -/
theorem Covers.opens (h : Covers (fun sc => isEnabled cfg (some sc)) o all) (k : Consumer) :
    Covers (fun sc => isEnabled cfg (some sc)) (k.opens cfg o)
      (k.opens { cfg with syscallFilter := [] } all) := by
  have hall : ∀ sc, isEnabled { cfg with syscallFilter := [] } (some sc) = true := fun _ => rfl
  cases k with
  | syscallEntry t sc abi flags =>
    unfold Consumer.opens
    dsimp only
    rw [if_pos (hall sc)]
    split_ifs with hen
    · exact h.entered t.pid sc
    · exact h.entered_other t.pid hen
  | syscallExit t sc hasResult =>
    unfold Consumer.opens
    dsimp only
    by_cases hres : (isExecSyscall sc && hasResult) = true
    · rw [if_neg fun hn => hn.2 hres, if_neg fun hn => hn.2 hres]
      exact h
    · rw [if_pos (⟨hall sc, hres⟩ : _ ∧ _)]
      split_ifs
      · exact h.ended t.pid
      · exact h.without t.pid
  | exited t status flags => exact h.ended t.pid
  | disappeared t status => exact h.ended t.pid
  | newExecutionContext t old answer =>
    intro q sc hq hen
    unfold Consumer.opens at hq ⊢
    dsimp only at hq ⊢
    split_ifs at hq ⊢
    exact h q sc hq hen
  | _ => exact h

end

/-- the calls that were entered last are shown if they are of the filter, and their objects were made
for the numbers that are shown -/
structure LastKnown (cfg : Config) (v : Views) (w : World SC) (p : Log) : Prop where
  covers : Covers (fun sc => isEnabled cfg (some sc)) (shown cfg (v.showing w) p).opened
    (lastEntered cfg (v.showing w) p)
  number : ∀ pid sc, lastEntered cfg (v.showing w) p pid = some sc →
    w.requested sc.id = some sc.nr

theorem entered_number {t : TraceeView} {sc : Sys} {abi : ABI} {flags : StatusFlags}
    (hsame : ∀ c n, w.requested c = some n → w.callNr c = some n) (he : Named w.requested p e)
    (hk : e.consumer (v.showing w) p = some (.syscallEntry t sc abi flags)) :
    w.requested sc.id = some sc.nr := by
  cases e with
  | callback k =>
    cases k with
    | syscallEntry id c flags =>
      obtain ⟨n, hn, -⟩ := he
      have hsc : (v.showing w).call p c = sc := by
        cases hk
        rfl
      rw [← hsc, showing_call (hsame c n hn)]
      exact hn
    | _ => cases hk
  | _ => cases hk

theorem lastKnown (hsame : ∀ c n, w.requested c = some n → w.callNr c = some n)
    (hn : Always (Named w.requested) p) : LastKnown cfg v w p := by
  induction p using List.reverseRecOn with
  | nil => exact ⟨fun _ _ h => (nomatch h), fun _ _ h => nomatch h⟩
  | append_singleton p e ih =>
    obtain ⟨hp, he⟩ := always_snoc_iff.mp hn
    have ih := ih hp
    have hall : shown { cfg with syscallFilter := [] } (v.showing w) (p ++ [e])
        = (e.consumer (v.showing w) p).elim _ _ := trail_snoc p e
    have hshown : shown cfg (v.showing w) (p ++ [e])
        = (e.consumer (v.showing w) p).elim _ _ := trail_snoc p e
    cases hk : e.consumer (v.showing w) p with
    | none =>
      rw [hk] at hall hshown
      refine ⟨?_, ?_⟩
      · rw [hshown]
        unfold lastEntered
        rw [hall]
        exact ih.covers
      · unfold lastEntered
        rw [hall]
        exact ih.number
    | some k =>
      rw [hk] at hall hshown
      refine ⟨?_, ?_⟩
      · rw [hshown]
        unfold lastEntered
        rw [hall]
        exact ih.covers.opens k
      · unfold lastEntered
        rw [hall]
        intro pid sc hsc
        obtain hsc | ⟨t, abi, flags, rfl⟩ := Consumer.opens_or hsc
        · exact ih.number pid sc hsc
        · exact entered_number hsame he hk

theorem InLast.shown_iff {pid : ProcessID} {id : TraceeId} (hne : cfg.syscallFilter ≠ [])
    (h : InLast cfg v w p id pid) (hk : LastKnown cfg v w p) (hn : Always (Named w.requested) p)
    (hen : ∀ sc, (shown cfg (v.showing w) p).opened pid = some sc → isEnabled cfg (some sc)) :
    (shown cfg (v.showing w) p).opened pid ≠ none ↔ cfg.filters (w.withinNr p id) := by
  obtain ⟨hlast, honly⟩ := h
  unfold World.withinNr
  rw [← hlast]
  cases hl : lastEntered cfg (v.showing w) p pid with
  | none =>
    refine iff_of_false (fun ho => ?_) Bool.false_ne_true
    obtain ⟨sc, hsc⟩ := Option.ne_none_iff_exists'.mp ho
    have := honly sc hsc
    rw [hl] at this
    cases this
  | some sc =>
    have hnr : w.originalNr p sc.id = some sc.nr :=
      told_or (hk.number pid sc hl) fun m hm =>
        Option.some.inj ((original_of_named hn _ _ hm).symm.trans (hk.number pid sc hl))
    show _ ↔ cfg.filters (w.originalNr p sc.id) = true
    rw [hnr, ← isEnabled_eq hne]
    constructor
    · intro ho
      obtain ⟨sc', hsc⟩ := Option.ne_none_iff_exists'.mp ho
      have hsame := honly sc' hsc
      rw [hl] at hsame
      cases hsame
      exact hen sc hsc
    · intro henabled
      rw [hk.covers pid sc hl henabled]
      exact fun h => nomatch h

/-- the lines are the wanted ones if the callback fits -/
theorem prints_of_fits (hne : cfg.syscallFilter ≠ [])
    (hsame : ∀ c n, w.requested c = some n → w.callNr c = some n)
    (hn : Always (Named w.requested) p) (hnamed : Named w.requested p e)
    (h : Followed cfg (v.showing w) main p) (he : CallFits cfg v w p e) :
    printedBy cfg (v.showing w) main p e = wanted cfg v w p e := by
  obtain ⟨hfits, hend⟩ := he
  have hlast : ∀ {id pid}, InLast cfg v w p id pid →
      ((shown cfg (v.showing w) p).opened pid ≠ none ↔ cfg.filters (w.withinNr p id)) := by
    intro id pid hin
    apply hin.shown_iff hne (lastKnown hsame hn) hn
    intro sc hsc
    have hopened := congrArg Shown.opened h.shown
    exact h.recorded.enabled pid sc ((congrFun hopened pid).trans hsc)
  cases e with
  | callback k =>
    cases k with
    | syscallEntry id c flags =>
      rw [printedBy_lines h hfits rfl]
      obtain ⟨n, hn, hdec⟩ := hnamed
      refine if_congr ?_ rfl rfl
      rw [showing_call (hsame c n hn), isEnabled_eq hne]
      unfold World.toldNr
      rw [told_or hn hdec]
    | syscallExit id c flags =>
      rw [printedBy_lines h hfits rfl]
      obtain ⟨n, hn, horig⟩ := hnamed
      refine if_congr ?_ rfl rfl
      rw [showing_call (hsame c n hn), isEnabled_eq hne, isExecSyscall_eq]
      have hnr : w.originalNr p c = some n := told_or hn horig
      rw [hnr]
      exact Iff.rfl
    | newExecutionContext id exe cmdline oldPid =>
      rw [printedBy_lines h hfits rfl]
      refine if_congr ?_ rfl rfl
      rw [consumer_former]
      exact hlast hend
    | exited id status flags =>
      rw [printedBy_lines h hfits rfl]
      exact if_congr (and_congr_right fun hprev => hlast (hend hprev)) rfl rfl
    | disappeared id data =>
      rw [printedBy_lines h hfits rfl]
      exact if_congr (hlast hend) rfl rfl
    | resumed id => rfl
    | vforkComplete id child => rfl
    | _ => exact printedBy_lines h hfits rfl
  | _ => rfl

end

section
variable {I : Type} [CallItems I] {env : Env} {cfg : Config} {v : Views} {main : ProcessID}
  {w : World (SystemCall I)}

/-- only the object for `brk()` tells another number than the requested one -/
theorem numbers_iff (hw : Reachable env w) :
    (∀ c n, w.requested c = some n → w.callNr c = some n) ↔ ∀ c, w.requested c ≠ some .brk := by
  have hnr : ∀ c, w.callNr c = (w.requested c).map createdNr :=
    callNr_eq (named_of_reachable hw).filed lawful_systemCall
  constructor
  · intro h c hc
    have hcall := h c _ hc
    rw [hnr, hc] at hcall
    cases hcall
  · intro h c n hn
    have hbrk : n ≠ .brk := by
      rintro rfl
      exact h c hn
    rw [hnr, hn]
    show some (createdNr n) = some n
    unfold createdNr
    rw [if_neg hbrk]

/-- in every run whose callbacks fit, and in which no object for `brk()` is requested, the tracer
filters rightly -/
theorem filtersRightly_of_fits (hw : Reachable env w) (hne : cfg.syscallFilter ≠ [])
    (hbrk : ∀ c, w.requested c ≠ some .brk) (hfits : Always (CallFits cfg v w) w.log) :
    FiltersRightly cfg v main w := by
  have hsame := (numbers_iff hw).mpr hbrk
  refine ⟨hsame, fun p e hp => ?_⟩
  have hbefore : Always (CallbackFits cfg (v.showing w)) p := fun q e' hq =>
    (hfits q e' (hq.mono hp.start)).1
  have hnamed := (named_of_reachable hw).named
  exact prints_of_fits hne hsame (hnamed.mono hp.start) (hnamed p e hp) (followed_session hbefore)
    (hfits p e hp)

end

instance (cfg : Config) (σ : Shown) : (k : Consumer) → Decidable (σ.Fits cfg k)
  | .syscallEntry t sc _ _ => inferInstanceAs (Decidable
      (isEnabled cfg (some sc) → σ.opened t.pid = none))
  | .syscallExit t sc hasResult => inferInstanceAs (Decidable
      (isEnabled cfg (some sc) → ¬ (isExecSyscall sc && hasResult) → σ.opened t.pid ≠ none))
  | .newExecutionContext t none _ => inferInstanceAs (Decidable
      (σ.opened t.pid ≠ none ∨ σ.last = none))
  | .newExecutionContext t (some old) _ => inferInstanceAs (Decidable
      ((σ.opened old ≠ none ∨ σ.opened t.pid = none ∧ σ.last = none) ∧
      (σ.opened t.pid ≠ none → σ.last ≠ some t.pid ∧ σ.last ≠ some old.val)))
  | .signaled _ _ | .attached _ | .stopped _ | .exited _ _ _ | .disappeared _ _
  | .newChildProcess _ _ _ _ _ => inferInstanceAs (Decidable True)

instance {SC : Type} [SyscallOps SC] (cfg : Config) (v : Views) (w : World SC) (p : Log)
    (id : TraceeId) (pid : ProcessID) : Decidable (InLast cfg v w p id pid) :=
  inferInstanceAs (Decidable
    ((lastEntered cfg (v.showing w) p pid).map Sys.id = (numbers p).within id ∧
      ∀ sc ∈ (shown cfg (v.showing w) p).opened pid,
        lastEntered cfg (v.showing w) p pid = some sc))

instance decidableEndFits {SC : Type} [SyscallOps SC] (cfg : Config) (v : Views) (w : World SC)
    (p : Log) : (e : Entry) → Decidable (EndFits cfg v w p e)
  | .callback (.newExecutionContext id _ _ oldPid) => inferInstanceAs (Decidable
      (InLast cfg v w p id ((formerPid v p id oldPid).getD (v.tracee p id).pid)))
  | .callback (.exited id _ _) => inferInstanceAs (Decidable
      ((v.tracee p id).prevState = .syscallEnterStop → InLast cfg v w p id (v.tracee p id).pid))
  | .callback (.disappeared id _) => inferInstanceAs (Decidable
      (InLast cfg v w p id (v.tracee p id).pid))
  | .callback (.attached _) | .callback (.syscallEntry _ _ _) | .callback (.syscallExit _ _ _)
  | .callback (.signaled _ _) | .callback (.stopped _) | .callback (.resumed _)
  | .callback (.newChildProcess _ _ _ _) | .callback (.vforkComplete _ _) | .execed _ _ _ | .wait _
  | .deliver _ _ | .request _ _ _ | .inquiry _ _ | .syscallEntered _ _ | .syscallExited _ | .letGo _
  | .returned | .tracked _ _ | .untracked _ _ | .rekeyed _ _ | .destroyed _ | .detached _ =>
    inferInstanceAs (Decidable True)

instance {SC : Type} [SyscallOps SC] (cfg : Config) (v : Views) (w : World SC) (p : Log)
    (e : Entry) : Decidable (CallFits cfg v w p e) :=
  inferInstanceAs (Decidable
    ((∀ k ∈ e.consumer (v.showing w) p, (shown cfg (v.showing w) p).Fits cfg k) ∧
      EndFits cfg v w p e))

/-! ### a task that reads, and one that moves the end of its heap -/

def onlyRead : Config := { syscallFilter := [.read] }

/-- the task reads once, and is killed while it reads again -/
def readEnv : Env := scriptEnv [entryStop 0, .exit (.retVal 0), entryStop 0]

def readRun : List Op := scriptRun 3 ++ [.event ⟨100, .killed Signal.kill⟩]

def readWorld : World (SystemCall Unit) := runOps readEnv readRun {}

theorem read_reachable : Reachable readEnv readWorld :=
  (Reaches.start false).run readRun (by decide +kernel)

theorem no_brk_requested (c : CallId) : readWorld.requested c ≠ some .brk := by
  by_cases hc : c < 1
  · obtain rfl : c = 0 := Nat.lt_one_iff.mp hc
    decide +kernel
  · have hnext : readWorld.nextCall ≤ 1 := by decide +kernel
    have hfresh := (named_of_reachable read_reachable).filed.fresh c
      (hnext.trans (Nat.le_of_not_lt hc))
    unfold World.requested
    rw [hfresh]
    exact fun h => nomatch h

theorem filtersRightly_read : FiltersRightly onlyRead onlyViews 100 readWorld :=
  filtersRightly_of_fits read_reachable (by decide) no_brk_requested (by decide +kernel)

def onlyBrk : Config := { syscallFilter := [.brk] }

/-- the only system call is `brk()` -/
def heapEnv : Env := { scriptEnv [entryStop 12] with toGeneric := fun _ _ => .brk }

def heapWorld : World (SystemCall Unit) := runOps heapEnv (scriptRun 1) {}

theorem heap_reachable : Reachable heapEnv heapWorld :=
  (Reaches.start false).run (scriptRun 1) (by decide +kernel)

/-- the entry is in the filter, and is not printed -/
theorem filtersRightly_fails : ¬ ∀ (env : Env) (cfg : Config) (v : Views) (main : ProcessID)
    (w : World (SystemCall Unit)), Reachable env w → cfg.syscallFilter ≠ [] →
      FiltersRightly cfg v main w := by
  intro h
  have hprints := (h heapEnv onlyBrk onlyViews 100 heapWorld heap_reachable (by decide)).prints
  have hp : ¬ Always (fun p e => printedBy onlyBrk (onlyViews.showing heapWorld) 100 p e
      = wanted onlyBrk onlyViews heapWorld p e) heapWorld.log := by decide +kernel
  exact hp hprints

end Clues
