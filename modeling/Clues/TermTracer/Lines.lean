import Clues.TermTracer.Interleaving

/-!
# Lines of system calls

* `callLines`        the lines of system calls that a callback prints, by the records before it;
* `Filtered`         only calls of the filter are recorded;
* `Adds lines`       these lines of calls were printed;
* `adds_handle`      a callback prints its lines.
-/

namespace Clues

open Lib Lib.Exec TermTracer

/-! ## the lines of one callback -/

section
variable (cfg : Config)

/-- only calls of the filter are recorded -/
structure Filtered (s : TermTracer) : Prop where
  active : ∀ pid sc, s.activeSyscall = some (pid, sc) → isEnabled cfg (some sc)
  unfinished : ∀ pid sc, s.unfinishedSyscalls.find? pid = some sc → isEnabled cfg (some sc)

/-- these lines of calls were printed -/
structure Adds (lines : List Output) (s s' : TermTracer) : Prop where
  filtered : Filtered cfg s → Filtered cfg s'
  printed : ∃ os, s'.printed = s.printed ++ os ∧ os.filter Output.isCall = lines

def callLines (s : TermTracer) : Consumer → List Output
  | .syscallEntry t sc _ _ => if isEnabled cfg (some sc) then [.entry t.pid sc] else []
  | .syscallExit t sc hasResult =>
      if isEnabled cfg (some sc) ∧ ¬ (isExecSyscall sc && hasResult) ∧ s.currentSyscall t.pid ≠ none
      then [.exit t.pid sc] else []
  | .exited t _ _ =>
      if t.prevState = .syscallEnterStop ∧ s.currentSyscall t.pid ≠ none then [.aborted t.pid]
      else []
  | .disappeared t _ => if s.currentSyscall t.pid ≠ none then [.aborted t.pid] else []
  | .newExecutionContext t old _ =>
      if (movedRecords t.pid (old.map Subtype.val) s).currentSyscall t.pid ≠ none
      then [.success t.pid] else []
  | _ => []

end

section
variable {cfg : Config} {s s' t : TermTracer} {pid : ProcessID} {sc : Sys} {ls ls' : List Output}

theorem Filtered.of_same (h : Filtered cfg s) (ha : s'.activeSyscall = s.activeSyscall)
    (hu : s'.unfinishedSyscalls = s.unfinishedSyscalls) : Filtered cfg s' := by
  refine ⟨fun p sc hsc => h.active p sc ?_, fun p sc hsc => h.unfinished p sc ?_⟩
  · rw [← ha, hsc]
  · rw [← hu, hsc]

theorem Filtered.reset (h : Filtered cfg s) (ha : s'.activeSyscall = none)
    (hu : s'.unfinishedSyscalls = s.unfinishedSyscalls) : Filtered cfg s' := by
  refine ⟨fun p sc hsc => ?_, fun p sc hsc => h.unfinished p sc ?_⟩
  · rw [ha] at hsc
    cases hsc
  · rw [← hu, hsc]

theorem Filtered.find_set (h : Filtered cfg s) (hsc : isEnabled cfg (some sc)) {p : ProcessID}
    {sc' : Sys} (hf : (s.unfinishedSyscalls.set pid sc).find? p = some sc') :
    isEnabled cfg (some sc') := by
  rw [OrdMap.find?_set] at hf
  split_ifs at hf with hp
  · cases hf
    exact hsc
  · exact h.unfinished p sc' hf

theorem Filtered.find_erase {m : OrdMap ProcessID Sys}
    (h : ∀ p sc, m.find? p = some sc → isEnabled cfg (some sc)) {p : ProcessID}
    (hf : (m.erase pid).find? p = some sc) : isEnabled cfg (some sc) := by
  by_cases hp : p = pid
  · rw [hp, OrdMap.find?_erase_self] at hf
    cases hf
  · rw [OrdMap.find?_erase_of_ne _ hp] at hf
    exact h p sc hf

theorem Filtered.isEnabled_current (h : Filtered cfg s) (pid : ProcessID) :
    isEnabled cfg (s.currentSyscall pid) ↔ s.currentSyscall pid ≠ none := by
  constructor
  · intro hen hnone
    rw [hnone] at hen
    cases hen
  · intro hcur
    obtain ⟨sc, hsc⟩ := Option.ne_none_iff_exists'.mp hcur
    rw [hsc]
    by_cases hact : s.hasActiveSyscall pid
    · obtain ⟨sc', ha⟩ := hasActiveSyscall_iff.mp hact
      rw [currentSyscall_active ha] at hsc
      cases hsc
      exact h.active pid sc ha
    · rw [currentSyscall_unfinished hact] at hsc
      exact h.unfinished pid sc hsc

/-! ### lines that are no calls -/

theorem Adds.trans (h : Adds cfg ls s t) (h' : Adds cfg ls' t s') : Adds cfg (ls ++ ls') s s' := by
  obtain ⟨os, ho, hl⟩ := h.printed
  obtain ⟨os', ho', hl'⟩ := h'.printed
  refine ⟨fun hs => h'.filtered (h.filtered hs), os ++ os', ?_, ?_⟩
  · rw [ho', ho, List.append_assoc]
  · rw [List.filter_append, hl, hl']

theorem Adds.nothing (hf : Filtered cfg s → Filtered cfg s') (ho : s'.printed = s.printed) :
    Adds cfg [] s s' := ⟨hf, [], by rw [ho, List.append_nil], rfl⟩

theorem Adds.one {out : Output} (h : out.isCall = true) (hf : Filtered cfg s → Filtered cfg s')
    (ho : s'.printed = s.printed ++ [out]) : Adds cfg [out] s s' :=
  ⟨hf, [out], ho, by rw [List.filter_singleton, h]; rfl⟩

theorem Adds.walk : Walk (fun _ => True) (Adds cfg []) where
  refl _ := Adds.nothing (fun hs => hs) rfl
  trans h h' := h.trans h'
  keeps _ _ := trivial

theorem lining_adds : Lining (Adds cfg []) where
  walk := Adds.walk
  printed s out h := by
    refine ⟨fun hs => hs.of_same rfl rfl, [out], rfl, ?_⟩
    rw [List.filter_singleton, h]
    rfl
  store ha := Adds.nothing (fun hs => ⟨fun _ _ h => (nomatch h), fun _ _ h =>
    hs.find_set (hs.active _ _ ha) h⟩) rfl
  same ho ha hu _ := Adds.nothing (fun hs => hs.of_same ha hu) ho

/-- nothing that follows is a call -/
theorem Adds.bind {α β : Type} {x : Act α} {f : α → Act β} (h : Adds cfg ls s (x s).2)
    (hf : ∀ a, Leads (Adds cfg []) (f a)) : Adds cfg ls s ((x >>= f) s).2 := by
  rw [run_bind]
  cases hr : x s with
  | mk r t =>
    rw [hr] at h
    cases r with
    | error e => exact h
    | ok a =>
      obtain ⟨b, u, hu, ht⟩ := hf a t
      have hall := h.trans ht
      rw [List.append_nil] at hall
      show Adds cfg ls s (f a t).2
      rw [hu]
      exact hall

/-- nothing that came before was a call -/
theorem Adds.after {α β : Type} {x : Act α} {f : α → Act β} {a : α} (hx : x s = (.ok a, t))
    (ht : Adds cfg [] s t) (hf : Adds cfg ls t (f a t).2) : Adds cfg ls s ((x >>= f) s).2 := by
  rw [run_bind_ok hx]
  exact ht.trans hf

theorem Adds.led {α : Type} {x : Act α} (h : Leads (Adds cfg []) x) (s : TermTracer) :
    Adds cfg [] s (x s).2 := by
  obtain ⟨a, t, ht, hst⟩ := h s
  rw [ht]
  exact hst

/-- nothing that comes first is a call -/
theorem Adds.behind {α β : Type} {x : Act α} {f : α → Act β} (hx : Leads (Adds cfg []) x)
    (hf : ∀ a t, Adds cfg ls t (f a t).2) (s : TermTracer) : Adds cfg ls s ((x >>= f) s).2 := by
  obtain ⟨a, t, ht, hst⟩ := hx s
  exact Adds.after ht hst (hf a t)

/-! ### entries and exits -/

theorem adds_syscallEntry (t : TraceeView) (sc : Sys) (abi : ABI) (flags : StatusFlags)
    (s : TermTracer) : Adds cfg (if isEnabled cfg (some sc) then [.entry t.pid sc] else []) s
      (syscallEntry cfg t sc abi flags s).2 := by
  unfold syscallEntry
  by_cases hen : isEnabled cfg (some sc)
  · rw [if_pos hen, if_neg (by simp [hen])]
    apply Adds.behind (lining_adds.checkABI cfg t.pid abi)
    intro _
    apply Adds.behind
    · exact lining_adds.set (fun _ => rfl) (fun _ => rfl) (fun _ => rfl) fun _ => rfl
    intro _
    apply Adds.behind (lining_adds.startNewLine cfg t.pid)
    intro _
    apply Adds.behind (Leads.when Adds.walk (lining_adds.print rfl))
    intro _ u
    refine Adds.one rfl (fun hu => ⟨fun p sc' h => ?_, fun p sc' h => ?_⟩) rfl
    · cases h
      exact hen
    · exact hu.unfinished p sc' h
  · rw [if_neg hen, if_pos (by simp [hen])]
    exact Adds.walk.refl s

theorem checkResumedSyscall_adds (h : s.currentSyscall pid ≠ none) :
    ∃ t, checkResumedSyscall cfg pid s = (.ok (), t) ∧ Adds cfg [] s t := by
  by_cases hact : s.hasActiveSyscall pid
  · exact ⟨s, checkResumedSyscall_active hact, Adds.walk.refl s⟩
  · rw [currentSyscall_unfinished hact] at h
    obtain ⟨sc, hsc⟩ := Option.ne_none_iff_exists'.mp h
    have hresume : Leads (Adds cfg []) (do
        update fun s => { s with unfinishedSyscalls := s.unfinishedSyscalls.erase pid }
        startNewLine cfg pid
        print (.resuming pid sc)) := by
      apply Leads.bind Adds.walk
      · apply Leads.update
        exact fun u => Adds.nothing (fun hu => ⟨hu.active, fun p sc' hf =>
          Filtered.find_erase hu.unfinished hf⟩) rfl
      intro _
      apply Leads.bind Adds.walk (lining_adds.startNewLine cfg pid)
      exact fun _ => lining_adds.print rfl
    obtain ⟨_, t, ht, hadds⟩ := hresume s
    refine ⟨t, ?_, hadds⟩
    unfold checkResumedSyscall
    rw [run_read_bind, if_neg hact, hsc]
    exact ht

theorem adds_syscallExit (t : TraceeView) (sc : Sys) (hasResult : Bool) (s : TermTracer) :
    Adds cfg (if isEnabled cfg (some sc) ∧ ¬ (isExecSyscall sc && hasResult) ∧
        s.currentSyscall t.pid ≠ none then [.exit t.pid sc] else []) s
      (syscallExit cfg t sc hasResult s).2 := by
  by_cases hexec : isExecSyscall sc && hasResult
  · rw [if_neg fun h => h.2.1 hexec]
    unfold syscallExit
    rw [if_pos hexec]
    exact Adds.walk.refl s
  by_cases hen : isEnabled cfg (some sc)
  · by_cases hcur : s.currentSyscall t.pid = none
    · rw [if_neg fun h => h.2.2 hcur, syscallExit_absent t hen hexec hcur]
      exact Adds.walk.refl s
    · rw [if_pos ⟨hen, hexec, hcur⟩]
      unfold syscallExit
      rw [if_neg hexec, if_neg (by simp [hen])]
      obtain ⟨u, hu, hadds⟩ := checkResumedSyscall_adds hcur
      apply Adds.after hu hadds
      rw [run_read_bind]
      apply Adds.behind (Leads.when Adds.walk (lining_adds.startNewLine cfg t.pid))
      exact fun _ v => Adds.one rfl (fun hv => hv.reset rfl rfl) rfl
  · rw [if_neg fun h => hen h.1]
    unfold syscallExit
    rw [if_neg hexec, if_pos (by simp [hen])]
    exact Adds.walk.refl s

/-! ### calls that end otherwise -/

theorem adds_abortSyscall (hs : Filtered cfg s) (pid : ProcessID) :
    Adds cfg (if s.currentSyscall pid ≠ none then [.aborted pid] else []) s
      (abortSyscall cfg pid s).2 := by
  unfold abortSyscall
  rw [run_read_bind]
  by_cases hcur : s.currentSyscall pid = none
  · have hen : ¬ isEnabled cfg (s.currentSyscall pid) := fun h =>
      (hs.isEnabled_current pid).mp h hcur
    rw [if_neg (not_not_intro hcur), if_neg (not_hasActiveSyscall_of_current hcur),
      when_neg hen, when_neg hen]
    exact Adds.walk.refl s
  · have hen : isEnabled cfg (s.currentSyscall pid) := (hs.isEnabled_current pid).mpr hcur
    rw [if_pos hcur, when_pos hen, when_pos hen]
    have hprint : ∀ u, Adds cfg [.aborted pid] u (print (.aborted pid) u : _ × TermTracer).2 :=
      fun u => Adds.one rfl (fun hu => hu.of_same rfl rfl) rfl
    by_cases hact : s.hasActiveSyscall pid
    · rw [if_pos hact]
      apply Adds.behind _ fun _ => hprint
      exact Leads.update fun u => Adds.nothing (fun hu => hu.reset rfl rfl) rfl
    · rw [if_neg hact]
      obtain ⟨t, ht, hadds⟩ := checkResumedSyscall_adds hcur
      exact Adds.after ht hadds (hprint t)

theorem leads_finish (t : TraceeView) (status : WaitStatus) :
    Leads (Adds cfg []) (finish t status) := by
  apply Leads.bind Adds.walk
  · apply Leads.update
    intro s
    by_cases h : t.pid = s.mainTraceePid
    · rw [if_pos h]
      exact lining_adds.same rfl rfl rfl rfl
    · rw [if_neg h]
      exact Adds.walk.refl s
  intro _
  apply Leads.bind Adds.walk
  · apply Leads.update
    intro s
    by_cases h : s.hasActiveSyscall t.pid
    · rw [if_pos h]
      exact Adds.nothing (fun hs => hs.reset rfl rfl) rfl
    · rw [if_neg h]
      exact Adds.nothing (fun hs => ⟨hs.active, fun p sc hf =>
        Filtered.find_erase hs.unfinished hf⟩) rfl
  intro _
  exact Leads.update fun _ => Adds.nothing (fun hs => hs.of_same rfl rfl) rfl

theorem adds_exited (hs : Filtered cfg s) (t : TraceeView) (status : WaitStatus)
    (flags : StatusFlags) :
    Adds cfg (if t.prevState = .syscallEnterStop ∧ s.currentSyscall t.pid ≠ none
      then [.aborted t.pid] else []) s (exited cfg t status flags s).2 := by
  have habort : Adds cfg (if t.prevState = .syscallEnterStop ∧ s.currentSyscall t.pid ≠ none
      then [.aborted t.pid] else []) s
      (when (t.prevState = .syscallEnterStop) (abortSyscall cfg t.pid) s).2 := by
    by_cases hprev : t.prevState = .syscallEnterStop
    · rw [when_pos hprev]
      simp only [hprev, true_and]
      exact adds_abortSyscall hs t.pid
    · rw [when_neg hprev, if_neg fun h => hprev h.1]
      exact Adds.walk.refl s
  apply habort.bind
  intro _
  apply Leads.bind Adds.walk (Leads.when Adds.walk (lining_adds.line cfg t.pid _))
  intro _
  cases status with
  | exited n =>
    apply Leads.bind Adds.walk (lining_adds.line cfg t.pid _)
    intro _
    apply Leads.read_bind
    intro u
    apply Leads.bind Adds.walk (Leads.when Adds.walk (lining_adds.line cfg t.pid _))
    exact fun _ => leads_finish t _
  | signaled signal =>
    exact Leads.bind Adds.walk (lining_adds.line cfg t.pid _) fun _ => leads_finish t _

theorem adds_disappeared (hs : Filtered cfg s) (t : TraceeView) (status : WaitStatus) :
    Adds cfg (if s.currentSyscall t.pid ≠ none then [.aborted t.pid] else []) s
      (disappeared cfg t status s).2 := by
  apply (adds_abortSyscall hs t.pid).bind
  intro _
  apply Leads.bind Adds.walk (lining_adds.line cfg t.pid _)
  intro _
  cases status with
  | exited n => exact Leads.bind Adds.walk (lining_adds.line cfg t.pid _) fun _ => leads_finish t _
  | signaled signal =>
    exact Leads.bind Adds.walk (lining_adds.line cfg t.pid _) fun _ => leads_finish t _

theorem adds_anticipateSuccess (hs : Filtered cfg s) (pid : ProcessID) :
    Adds cfg (if s.currentSyscall pid ≠ none then [.success pid] else []) s
      (anticipateSuccess cfg pid s).2 := by
  by_cases hcur : s.currentSyscall pid = none
  · have hen : ¬ isEnabled cfg (s.currentSyscall pid) := fun h =>
      (hs.isEnabled_current pid).mp h hcur
    rw [if_neg (not_not_intro hcur), anticipateSuccess_resets hen]
    exact Adds.nothing (fun hs => hs.reset rfl rfl) rfl
  · have hen : isEnabled cfg (s.currentSyscall pid) := (hs.isEnabled_current pid).mpr hcur
    rw [if_pos hcur]
    unfold anticipateSuccess
    rw [run_read_bind, when_pos hen, assoc_bind]
    obtain ⟨t, ht, hadds⟩ := checkResumedSyscall_adds hcur
    apply Adds.after ht hadds
    exact Adds.one rfl (fun hu => hu.reset rfl rfl) rfl

theorem adds_movedRecords (pid : ProcessID) (old : Option ProcessID) (s : TermTracer) :
    Adds cfg [] s (movedRecords pid old s) := by
  refine Adds.nothing (fun hs => ?_) (movedRecords_printed pid old)
  cases old with
  | none => exact hs
  | some old =>
    by_cases hact : s.hasActiveSyscall old
    · obtain ⟨sc, hsc⟩ := hasActiveSyscall_iff.mp hact
      obtain ⟨ha, hu⟩ := movedRecords_active pid hsc
      refine ⟨fun p sc' h => ?_, fun p sc' h => hs.unfinished p sc' (by rw [← hu, h])⟩
      rw [ha] at h
      cases h
      exact hs.active old sc hsc
    · cases hunf : s.unfinishedSyscalls.find? old with
      | none =>
        have hcur : s.currentSyscall old = none := by rw [currentSyscall_unfinished hact, hunf]
        obtain ⟨ha, hu⟩ := movedRecords_none pid hcur
        exact hs.of_same ha hu
      | some sc =>
        obtain ⟨ha, hu⟩ := movedRecords_unfinished pid hact hunf
        refine ⟨fun p sc' h => hs.active p sc' (by rw [← ha, h]), fun p sc' h => ?_⟩
        rw [hu] at h
        exact Filtered.find_erase (fun q sc'' hf => hs.find_set (hs.unfinished _ _ hunf) hf) h

theorem adds_newExecutionContext (hs : Filtered cfg s) (t : TraceeView) (old : Option ProcessID)
    (answer : Bool) :
    Adds cfg (if (movedRecords t.pid old s).currentSyscall t.pid ≠ none then [.success t.pid]
      else []) s (newExecutionContext cfg t old answer s).2 := by
  have hmoved : Adds cfg [] s (movedRecords t.pid old s) := adds_movedRecords t.pid old s
  have hsuccess := adds_anticipateSuccess (hmoved.filtered hs) t.pid
  cases old with
  | none => exact hsuccess.bind fun _ => lining_adds.announceContext cfg t answer
  | some old =>
    have hrun : updateTracee t.pid old s = (.ok (), movedRecords t.pid (some old) s) := rfl
    apply Adds.after hrun hmoved
    apply hsuccess.bind
    intro _
    apply Leads.bind Adds.walk (lining_adds.line cfg t.pid _)
    exact fun _ => lining_adds.announceContext cfg t answer

/-- what a callback prints of calls is determined by the records before it -/
theorem adds_handle (hs : Filtered cfg s) (k : Consumer) :
    Adds cfg (callLines cfg s k) s (handle cfg k s).2 := by
  cases k with
  | syscallEntry t sc abi flags => exact adds_syscallEntry t sc abi flags s
  | syscallExit t sc hasResult => exact adds_syscallExit t sc hasResult s
  | signaled t signal => exact Adds.led (lining_adds.line cfg t.pid _) s
  | attached t =>
    apply Adds.led (lining_adds.attached (fun u n => ?_) cfg t)
    exact Adds.nothing (fun hu => hu.of_same rfl rfl) rfl
  | stopped t => exact Adds.led (Leads.when Adds.walk (lining_adds.line cfg t.pid _)) s
  | exited t status flags => exact adds_exited hs t status flags
  | disappeared t status => exact adds_disappeared hs t status
  | newExecutionContext t old answer => exact adds_newExecutionContext hs t _ answer
  | newChildProcess parent child event flags answer =>
    exact Adds.led (lining_adds.newChildProcess cfg parent child event flags answer) s

end

end Clues
