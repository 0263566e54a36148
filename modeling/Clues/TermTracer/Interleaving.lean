import Clues.TermTracer.Records

/-!
# Interleaved callbacks

Every callback that fits the session leaves each open call in one record (`Session.tell_fits`),
every other one breaks them at once (`Session.tell_not_fits`), so a run of callbacks keeps the
records right exactly when all of them fit (`Session.keepsRecords_iff`).
-/

namespace Clues

open Lib Lib.Exec TermTracer

section
variable {cfg : Config} {o : Opened} {pid : ProcessID}

/-- from right records to right records, without an exception -/
def Sound {α : Type} (cfg : Config) (o : Opened) (x : Act α) : Prop :=
  Triple (fun s => Recorded cfg (s.openedFrom o) s) x (fun _ s => Recorded cfg (s.openedFrom o) s)
    fun _ _ => False

theorem Sound.of_tidy {α : Type} {x : Act α} (h : Tidy x) : Sound cfg o x := by
  apply Triple.of_returns
  intro s hs
  obtain ⟨a, s', hx, ht⟩ := h s
  refine ⟨a, s', hx, ?_⟩
  rw [ht.opened]
  exact hs.tidies ht

theorem Sound.when {c : Prop} [Decidable c] {x : Act Unit} (hx : c → Sound cfg o x) :
    Sound cfg o (when c x) := Triple.when hx fun _ _ hs => hs

theorem sound_abortSyscall : Sound cfg o (abortSyscall cfg pid) := by
  apply Triple.of_returns
  intro s hs
  unfold abortSyscall
  rw [run_read_bind]
  by_cases hopen : s.openedFrom o pid = none
  · have hact : ¬ s.hasActiveSyscall pid :=
      not_hasActiveSyscall_of_current ((hs.current pid).trans hopen)
    rw [if_neg hact, when_neg (hs.not_isEnabled_current hopen),
      when_neg (hs.not_isEnabled_current hopen)]
    exact ⟨(), s, rfl, hs⟩
  · rw [when_pos (hs.isEnabled_current hopen), when_pos (hs.isEnabled_current hopen)]
    have hclose : ∀ {s'}, Closes pid s s' → Recorded cfg (s'.openedFrom o) s' := by
      intro s' hc
      rw [hc.opened]
      exact hs.drops hc.toDrops
    by_cases hact : s.hasActiveSyscall pid
    · rw [if_pos hact]
      have hr : Resumes pid s s := Resumes.of_active hact (hs.once pid hact)
      exact ⟨(), _, rfl, hclose (hr.closes (fun _ => rfl) rfl)⟩
    · rw [if_neg hact]
      have hcur : s.currentSyscall pid ≠ none := by rwa [hs.current]
      obtain ⟨t, ht, hr⟩ := checkResumedSyscall_run cfg hcur hs.once
      have hidle : t.activeSyscall = none := by
        rcases hr.active with ⟨-, ha⟩ | h
        · exact absurd ha hact
        · exact h
      refine ⟨(), { t with printed := t.printed ++ [.aborted pid] }, ?_, hclose ?_⟩
      · rw [run_bind_ok ht]
        rfl
      · have hq : ∀ o, (Output.aborted pid).replay o = Function.update o pid none := fun _ => rfl
        exact hr.closes hq (by rw [← hidle])

/-- a tracee that is gone is in no record -/
theorem finish_triple (t : TraceeView) (status : WaitStatus) :
    Triple (fun s => Recorded cfg (s.openedFrom o) s) (finish t status)
      (fun _ s => Recorded cfg (Function.update (s.openedFrom o) t.pid none) s)
      fun _ _ => False := by
  have hmain : Tidy (update fun s : TermTracer =>
      if t.pid = s.mainTraceePid then { s with mainStatus := some status } else s) := by
    apply Leads.update
    intro s
    by_cases h : t.pid = s.mainTraceePid
    · rw [if_pos h]; exact Tidies.of_same rfl rfl rfl
    · rw [if_neg h]; exact Tidies.refl s
  apply Triple.bind (Sound.of_tidy hmain)
  intro _
  apply Triple.bind
  · apply Triple.update (Q := fun _ s => Recorded cfg (Function.update (s.openedFrom o) t.pid none) s)
    intro s hs
    have hd := hs.drops (drops_cleanup t.pid hs.once)
    by_cases hact : s.hasActiveSyscall t.pid
    · rw [if_pos hact] at hd ⊢
      exact hd
    · rw [if_neg hact] at hd ⊢
      exact hd
  · intro _
    apply Triple.update
    intro s hs
    exact hs.tidies (Tidies.of_same rfl rfl rfl)

end

/-! ## entries -/

section
variable {cfg : Config} {o : Opened} {s : TermTracer}

/-- the entry is printed on a line of its own -/
theorem syscallEntry_run (t : TraceeView) {sc : Sys} (abi : ABI) (flags : StatusFlags)
    (hen : isEnabled cfg (some sc)) (s : TermTracer) :
    ∃ u, Tidies s u ∧ u.activeSyscall = none ∧ syscallEntry cfg t sc abi flags s = (.ok (),
      { u with printed := u.printed ++ [.entry t.pid sc], activeSyscall := some (t.pid, sc) }) := by
  have htriple : Triple (Tidies s) (syscallEntry cfg t sc abi flags)
      (fun _ v => ∃ u, Tidies s u ∧ u.activeSyscall = none ∧
        v = { u with printed := u.printed ++ [.entry t.pid sc]
                     activeSyscall := some (t.pid, sc) }) fun _ _ => False := by
    unfold syscallEntry
    rw [if_neg (by simp [hen])]
    apply Triple.bind (Leads.triple Tidies.walk (lining_tidies.checkABI cfg t.pid abi) s)
    intro _
    apply Triple.bind
    · apply Leads.triple Tidies.walk (Leads.update fun u => ?_) s
      exact Tidies.of_same rfl rfl rfl
    intro _
    apply Triple.bind (Q := fun _ u => Tidies s u ∧ u.activeSyscall = none)
    · apply Triple.of_returns
      intro u hu
      obtain ⟨v, hv, htidy, hidle⟩ := startNewLine_run cfg t.pid u
      exact ⟨(), v, hv, hu.trans htidy, hidle⟩
    intro _
    apply Triple.bind (Q := fun _ u => Tidies s u ∧ u.activeSyscall = none)
    · apply Triple.of_returns
      intro u hu
      have hquiet : Tidy (when flags.resumed (print (.restarting t.pid sc))) :=
        Tidy.when (tidy_print fun _ => rfl)
      obtain ⟨a, v, hv, htidy⟩ := hquiet u
      exact ⟨a, v, hv, hu.1.trans htidy, htidy.idle hu.2⟩
    intro _
    apply Triple.of_returns
    intro u hu
    exact ⟨(), _, rfl, u, hu.1, hu.2, rfl⟩
  obtain ⟨_, v, hv, u, htidy, hidle, rfl⟩ := htriple.returns (Tidies.refl s)
  exact ⟨u, htidy, hidle, hv⟩

theorem Recorded.enter {u : TermTracer} {pid : ProcessID} {sc : Sys}
    (hu : Recorded cfg (u.openedFrom o) u) (hidle : u.activeSyscall = none)
    (hen : isEnabled cfg (some sc)) (hfree : u.openedFrom o pid = none) {v : TermTracer}
    (hv : v = { u with printed := u.printed ++ [.entry pid sc], activeSyscall := some (pid, sc) }) :
    Recorded cfg (v.openedFrom o) v := by
  have hopened : v.openedFrom o = Function.update (u.openedFrom o) pid (some sc) := by
    rw [hv]
    exact openedFrom_print o u (.entry pid sc)
  have hact : ∀ p, v.hasActiveSyscall p ↔ p = pid := by
    intro p
    rw [hasActiveSyscall_iff, hv]
    constructor
    · rintro ⟨sc', h⟩
      cases h
      rfl
    · rintro rfl
      exact ⟨sc, rfl⟩
  have hunf : ∀ p, v.unfinishedSyscalls.find? p = u.openedFrom o p := by
    intro p
    rw [← hu.current, currentSyscall_unfinished (not_hasActiveSyscall hidle), hv]
  rw [hopened]
  refine ⟨fun p => ?_, fun p hp => ?_, fun p sc' hsc' => ?_⟩
  · by_cases hp : p = pid
    · rw [hp, Function.update_self]
      apply currentSyscall_active
      rw [hv]
    · rw [Function.update_of_ne hp, currentSyscall_unfinished (by rwa [hact]), hunf]
  · rw [hunf, (hact p).mp hp, hfree]
  · by_cases hp : p = pid
    · rw [hp, Function.update_self] at hsc'
      cases hsc'
      exact hen
    · rw [Function.update_of_ne hp] at hsc'
      exact hu.enabled p sc' hsc'

theorem syscallEntry_fits (t : TraceeView) (sc : Sys) (abi : ABI) (flags : StatusFlags)
    (hs : Recorded cfg (s.openedFrom o) s)
    (hfree : isEnabled cfg (some sc) → s.openedFrom o t.pid = none) :
    ∃ v, syscallEntry cfg t sc abi flags s = (.ok (), v) ∧ Recorded cfg (v.openedFrom o) v := by
  by_cases hen : isEnabled cfg (some sc)
  · obtain ⟨u, htidy, hidle, hv⟩ := syscallEntry_run t abi flags hen s
    have hu : Recorded cfg (u.openedFrom o) u := by
      rw [htidy.opened]
      exact hs.tidies htidy
    have hfree' : u.openedFrom o t.pid = none := by
      rw [htidy.opened]
      exact hfree hen
    exact ⟨_, hv, hu.enter hidle hen hfree' rfl⟩
  · unfold syscallEntry
    rw [if_pos (by simp [hen])]
    exact ⟨s, rfl, hs⟩

/-- a second entry of a tracee puts it into both records -/
theorem syscallEntry_twice (t : TraceeView) {sc : Sys} (abi : ABI) (flags : StatusFlags)
    (hen : isEnabled cfg (some sc)) (hopen : s.currentSyscall t.pid ≠ none) :
    ∃ v, syscallEntry cfg t sc abi flags s = (.ok (), v) ∧ v.hasActiveSyscall t.pid ∧
      v.unfinishedSyscalls.find? t.pid ≠ none := by
  obtain ⟨u, htidy, hidle, hv⟩ := syscallEntry_run t abi flags hen s
  refine ⟨_, hv, hasActiveSyscall_iff.mpr ⟨sc, rfl⟩, ?_⟩
  rwa [← htidy.current, currentSyscall_unfinished (not_hasActiveSyscall hidle)] at hopen

/-! ## exits -/

theorem syscallExit_fits (t : TraceeView) (sc : Sys) (hasResult : Bool)
    (hs : Recorded cfg (s.openedFrom o) s)
    (hopen : isEnabled cfg (some sc) → ¬ (isExecSyscall sc && hasResult) →
      s.openedFrom o t.pid ≠ none) :
    ∃ v, syscallExit cfg t sc hasResult s = (.ok (), v) ∧ Recorded cfg (v.openedFrom o) v := by
  unfold syscallExit
  by_cases hexec : isExecSyscall sc && hasResult
  · rw [if_pos hexec]
    exact ⟨s, rfl, hs⟩
  rw [if_neg hexec]
  by_cases hen : isEnabled cfg (some sc)
  · rw [if_neg (by simp [hen])]
    have hcur : s.currentSyscall t.pid ≠ none := by
      rw [hs.current]
      exact hopen hen hexec
    obtain ⟨u, hu, hr⟩ := checkResumedSyscall_run cfg hcur hs.once
    have hq : ∀ o, (Output.exit t.pid sc).replay o = Function.update o t.pid none := fun _ => rfl
    have hclose := hr.closes hq rfl
    refine ⟨{ u with printed := u.printed ++ [.exit t.pid sc], activeSyscall := none }, ?_, ?_⟩
    · rw [run_bind_ok hu, run_read_bind, hr.not_other, when_neg Bool.false_ne_true]
      rfl
    · rw [hclose.opened]
      exact hs.drops hclose.toDrops
  · rw [if_pos (by simp [hen])]
    exact ⟨s, rfl, hs⟩

theorem syscallExit_absent (t : TraceeView) {sc : Sys} {hasResult : Bool}
    (hen : isEnabled cfg (some sc)) (hexec : ¬ (isExecSyscall sc && hasResult))
    (hcur : s.currentSyscall t.pid = none) :
    syscallExit cfg t sc hasResult s = (.error .null, s) := by
  unfold syscallExit
  rw [if_neg hexec, if_neg (by simp [hen]), run_bind_error (checkResumedSyscall_absent hcur)]

/-! ## new execution contexts -/

/-- what is recorded once the calls have moved to the new PID -/
def movedRecords (pid : ProcessID) : Option ProcessID → TermTracer → TermTracer
  | none, s => s
  | some old, s => (updateTracee pid old s).2

theorem newExecutionContext_run (t : TraceeView) (old : Option ProcessID) (answer : Bool)
    {v : TermTracer}
    (h : anticipateSuccess cfg t.pid (movedRecords t.pid old s) = (.ok (), v)) :
    ∃ w, newExecutionContext cfg t old answer s = (.ok (), w) ∧ Tidies v w := by
  cases old with
  | none =>
    obtain ⟨_, w, hw, htidy⟩ := lining_tidies.announceContext cfg t answer v
    exact ⟨w, (run_bind_ok h).trans hw, htidy⟩
  | some old =>
    have hrest : Tidy (do line cfg t.pid (.nowKnownAs old); announceContext cfg t answer) :=
      Tidy.bind (tidy_line _ _) fun _ => lining_tidies.announceContext cfg t answer
    obtain ⟨_, w, hw, htidy⟩ := hrest v
    refine ⟨w, ?_, htidy⟩
    have hmove : updateTracee t.pid old s = (.ok (), movedRecords t.pid (some old) s) := rfl
    exact (run_bind_ok hmove).trans ((run_bind_ok h).trans hw)

theorem anticipateSuccess_closes {pid : ProcessID} (hen : isEnabled cfg (s.currentSyscall pid))
    (honce : s.Once) : ∃ v, anticipateSuccess cfg pid s = (.ok (), v) ∧ Closes pid s v := by
  have hcur : s.currentSyscall pid ≠ none := by
    intro h
    rw [h] at hen
    cases hen
  obtain ⟨u, hu, hr⟩ := checkResumedSyscall_run cfg hcur honce
  have hq : ∀ o, (Output.success pid).replay o = Function.update o pid none := fun _ => rfl
  refine ⟨{ u with printed := u.printed ++ [.success pid], activeSyscall := none }, ?_,
    hr.closes hq rfl⟩
  unfold anticipateSuccess
  have hprint : (do checkResumedSyscall cfg pid; print (.success pid)) s
      = (.ok (), { u with printed := u.printed ++ [.success pid] }) := by
    rw [run_bind_ok hu]
    rfl
  rw [run_read_bind, when_pos hen, run_bind_ok hprint]
  rfl

/-- the active call is reset, whose ever it is -/
theorem anticipateSuccess_resets {pid : ProcessID}
    (hen : ¬ isEnabled cfg (s.currentSyscall pid)) :
    anticipateSuccess cfg pid s = (.ok (), { s with activeSyscall := none }) := by
  unfold anticipateSuccess
  rw [run_read_bind, when_neg hen]
  rfl

theorem anticipateSuccess_active {pid : ProcessID} (hen : isEnabled cfg (s.currentSyscall pid))
    (ha : s.hasActiveSyscall pid) :
    anticipateSuccess cfg pid s = (.ok (),
      { s with printed := s.printed ++ [.success pid], activeSyscall := none }) := by
  unfold anticipateSuccess
  have hprint : (do checkResumedSyscall cfg pid; print (.success pid)) s
      = (.ok (), { s with printed := s.printed ++ [.success pid] }) := by
    rw [run_bind_ok (checkResumedSyscall_active ha)]
    rfl
  rw [run_read_bind, when_pos hen, run_bind_ok hprint]
  rfl

/-- all other tracees are recorded rightly, and the call that succeeds is found or there is none
and nothing else to reset -/
structure Ready (cfg : Config) (pid : ProcessID) (o : Opened) (s : TermTracer) : Prop where
  current : ∀ p, p ≠ pid → s.currentSyscall p = o p
  once : s.Once
  enabled : ∀ p sc, o p = some sc → isEnabled cfg (some sc)
  own : isEnabled cfg (s.currentSyscall pid) ∨
    s.currentSyscall pid = none ∧ s.activeSyscall = none ∧ o pid = none

theorem Ready.recorded {pid : ProcessID} (h : Ready cfg pid o s) (hopened : s.openedFrom o = o) :
    ∃ v, anticipateSuccess cfg pid s = (.ok (), v) ∧ Recorded cfg (v.openedFrom o) v := by
  rcases h.own with hen | ⟨hcur, hidle, hnone⟩
  · obtain ⟨v, hv, hc⟩ := anticipateSuccess_closes hen h.once
    refine ⟨v, hv, ?_⟩
    rw [hc.opened, hopened]
    exact Recorded.of_drops h.current h.enabled hc.toDrops
  · have hen : ¬ isEnabled cfg (s.currentSyscall pid) := by
      rw [hcur]
      simp [isEnabled]
    have hsame : ({ s with activeSyscall := none } : TermTracer) = s := by rw [← hidle]
    refine ⟨s, by rw [anticipateSuccess_resets hen, hsame], ?_⟩
    rw [hopened]
    refine ⟨fun p => ?_, h.once, h.enabled⟩
    by_cases hp : p = pid
    · rw [hp, hcur, hnone]
    · exact h.current p hp

/-! ### merged threads -/

theorem Opened.move_eq_some {o : Opened} {pid old p : ProcessID} {sc : Sys}
    (h : o.move pid old p = some sc) : ∃ q, o q = some sc := by
  unfold Opened.move at h
  split_ifs at h with hp hold
  · exact ⟨old, h⟩
  · exact ⟨p, h⟩

theorem movedRecords_active (pid : ProcessID) {old : ProcessID} {sc : Sys}
    (h : s.activeSyscall = some (old, sc)) :
    (movedRecords pid (some old) s).activeSyscall = some (pid, sc) ∧
      (movedRecords pid (some old) s).unfinishedSyscalls = s.unfinishedSyscalls := by
  have ha : s.hasActiveSyscall old := hasActiveSyscall_iff.mpr ⟨sc, h⟩
  show (if s.hasActiveSyscall old then _ else _ : TermTracer).activeSyscall = _ ∧
    (if s.hasActiveSyscall old then _ else _ : TermTracer).unfinishedSyscalls = _
  rw [if_pos ha]
  exact ⟨by rw [h]; rfl, rfl⟩

theorem movedRecords_unfinished (pid : ProcessID) {old : ProcessID} {sc : Sys}
    (ha : ¬ s.hasActiveSyscall old) (hu : s.unfinishedSyscalls.find? old = some sc) :
    (movedRecords pid (some old) s).activeSyscall = s.activeSyscall ∧
      (movedRecords pid (some old) s).unfinishedSyscalls
        = (s.unfinishedSyscalls.set pid sc).erase old := by
  show (if s.hasActiveSyscall old then _ else _ : TermTracer).activeSyscall = _ ∧
    (if s.hasActiveSyscall old then _ else _ : TermTracer).unfinishedSyscalls = _
  rw [if_neg ha, hu]
  exact ⟨rfl, rfl⟩

theorem movedRecords_none (pid : ProcessID) {old : ProcessID} (h : s.currentSyscall old = none) :
    (movedRecords pid (some old) s).activeSyscall = s.activeSyscall ∧
      (movedRecords pid (some old) s).unfinishedSyscalls = s.unfinishedSyscalls := by
  have ha := not_hasActiveSyscall_of_current h
  rw [currentSyscall_unfinished ha] at h
  show (if s.hasActiveSyscall old then _ else _ : TermTracer).activeSyscall = _ ∧
    (if s.hasActiveSyscall old then _ else _ : TermTracer).unfinishedSyscalls = _
  rw [if_neg ha, h]
  exact ⟨rfl, rfl⟩

theorem movedRecords_printed (pid : ProcessID) (old : Option ProcessID) :
    (movedRecords pid old s).printed = s.printed := by
  cases old with
  | none => rfl
  | some old =>
    show (if s.hasActiveSyscall old then _ else _ : TermTracer).printed = _
    by_cases ha : s.hasActiveSyscall old
    · rw [if_pos ha]
    · rw [if_neg ha]
      cases s.unfinishedSyscalls.find? old <;> rfl

/-- only one of the threads has a call, or both were told to be unfinished -/
theorem ready_moved {pid old : ProcessID} (hs : Recorded cfg o s) (hne : old ≠ pid)
    (hidle : o pid ≠ none ∨ o old ≠ none ∨ s.activeSyscall = none)
    (hboth : o pid ≠ none → o old ≠ none →
      ¬ s.hasActiveSyscall pid ∧ ¬ s.hasActiveSyscall old) :
    Ready cfg pid (o.move pid old) (movedRecords pid (some old) s) := by
  have hen : ∀ p sc, o.move pid old p = some sc → isEnabled cfg (some sc) := by
    intro p sc h
    obtain ⟨q, hq⟩ := Opened.move_eq_some h
    exact hs.enabled q sc hq
  cases hold : o old with
  | none =>
    have hcur : s.currentSyscall old = none := (hs.current old).trans hold
    obtain ⟨ha, hu⟩ := movedRecords_none pid hcur
    refine ⟨fun p hp => ?_, once_congr ha hu hs.once, hen, ?_⟩
    · rw [currentSyscall_congr ha hu, hs.current, Opened.move, if_neg hp]
      by_cases hpo : p = old
      · rw [if_pos hpo, hpo, hold]
      · rw [if_neg hpo]
    · rw [currentSyscall_congr ha hu, hs.current, ha, Opened.move, if_pos rfl, hold]
      cases hpid : o pid with
      | none =>
        rw [hold, hpid] at hidle
        right
        refine ⟨rfl, ?_, rfl⟩
        simpa using hidle
      | some sc => exact Or.inl (hs.enabled pid sc hpid)
  | some sc =>
    have hold' : s.currentSyscall old = some sc := (hs.current old).trans hold
    by_cases hact : s.hasActiveSyscall old
    · -- the active call changes its owner, who had none
      have hpid : o pid = none := by
        by_contra h
        exact (hboth h (by simp [hold])).2 hact
      obtain ⟨sc', hsc'⟩ := hasActiveSyscall_iff.mp hact
      have : sc' = sc := by
        rw [currentSyscall_active hsc'] at hold'
        exact Option.some.inj hold'
      subst this
      obtain ⟨ha, hu⟩ := movedRecords_active pid hsc'
      have hother : ∀ p, p ≠ pid → ¬ (movedRecords pid (some old) s).hasActiveSyscall p := by
        intro p hp h
        obtain ⟨sc, h⟩ := hasActiveSyscall_iff.mp h
        rw [ha] at h
        cases h
        exact hp rfl
      have hunf : s.unfinishedSyscalls.find? pid = none := by
        rw [← currentSyscall_unfinished, hs.current, hpid]
        apply not_hasActiveSyscall_of_current
        rw [hs.current, hpid]
      refine ⟨fun p hp => ?_, fun p hp => ?_, hen, Or.inl ?_⟩
      · rw [currentSyscall_unfinished (hother p hp), hu, Opened.move, if_neg hp]
        by_cases hpo : p = old
        · rw [if_pos hpo, hpo, hs.once old hact]
        · rw [if_neg hpo, ← hs.current, currentSyscall_unfinished]
          intro h
          obtain ⟨sc, h⟩ := hasActiveSyscall_iff.mp h
          rw [hsc'] at h
          cases h
          exact hpo rfl
      · have hpp : p = pid := by
          by_contra h
          exact hother p h hp
        rw [hu, hpp, hunf]
      · rw [currentSyscall_active ha]
        exact hs.enabled old _ hold
    · -- the unfinished call changes its owner, and the active one is not the new owner's
      have hpid : ¬ s.hasActiveSyscall pid := by
        intro h
        have hopen : o pid ≠ none := by
          rw [← hs.current]
          intro hn
          exact not_hasActiveSyscall_of_current hn h
        exact (hboth hopen (by simp [hold])).1 h
      have hunf : s.unfinishedSyscalls.find? old = some sc := by
        rw [← currentSyscall_unfinished hact, hold']
      obtain ⟨ha, hu⟩ := movedRecords_unfinished pid hact hunf
      have hfind : ∀ p, p ≠ pid → (movedRecords pid (some old) s).unfinishedSyscalls.find? p
          = if p = old then none else s.unfinishedSyscalls.find? p := by
        intro p hp
        rw [hu, OrdMap.find?_erase, OrdMap.find?_set_of_ne _ _ hp]
      have hactive : ∀ p, (movedRecords pid (some old) s).hasActiveSyscall p
          ↔ s.hasActiveSyscall p := by
        intro p
        rw [hasActiveSyscall_iff, ha, ← hasActiveSyscall_iff]
      refine ⟨fun p hp => ?_, fun p hp => ?_, hen, Or.inl ?_⟩
      · rw [Opened.move, if_neg hp]
        by_cases hpo : p = old
        · rw [if_pos hpo, currentSyscall_unfinished (by rwa [hactive, hpo]), hfind p hp,
            if_pos hpo]
        · rw [if_neg hpo, ← hs.current]
          unfold currentSyscall activeSyscallOf
          rw [ha, hfind p hp, if_neg hpo]
      · rw [hactive] at hp
        have hpp : p ≠ pid := by
          rintro rfl
          exact hpid hp
        rw [hfind p hpp, hs.once p hp, ite_self]
      · rw [currentSyscall_unfinished (by rwa [hactive]), hu, OrdMap.find?_erase_of_ne _ hne.symm,
          OrdMap.find?_set_self]
        exact hs.enabled old sc hold

/-- an active call of one of two threads with calls ends, and the call of the other one stays -/
theorem moved_both {pid old : ProcessID} (hs : Recorded cfg o s) (hne : old ≠ pid)
    (hpid : o pid ≠ none) (hold : o old ≠ none)
    (hact : s.hasActiveSyscall pid ∨ s.hasActiveSyscall old) :
    (movedRecords pid (some old) s).hasActiveSyscall pid ∧
      (movedRecords pid (some old) s).unfinishedSyscalls.find? pid ≠ none ∧
      isEnabled cfg ((movedRecords pid (some old) s).currentSyscall pid) := by
  by_cases ha : s.hasActiveSyscall old
  · obtain ⟨sc, hsc⟩ := hasActiveSyscall_iff.mp ha
    obtain ⟨hma, hmu⟩ := movedRecords_active pid hsc
    have hopen : o old = some sc := by rw [← hs.current, currentSyscall_active hsc]
    have hno : ¬ s.hasActiveSyscall pid := by
      intro h
      obtain ⟨sc', hsc'⟩ := hasActiveSyscall_iff.mp h
      rw [hsc] at hsc'
      cases hsc'
      exact hne rfl
    refine ⟨hasActiveSyscall_iff.mpr ⟨sc, hma⟩, ?_, ?_⟩
    · rwa [hmu, ← currentSyscall_unfinished hno, hs.current]
    · rw [currentSyscall_active hma]
      exact hs.enabled old sc hopen
  · have hp : s.hasActiveSyscall pid := by
      rcases hact with h | h
      · exact h
      · exact absurd h ha
    obtain ⟨sc, hsc⟩ := hasActiveSyscall_iff.mp hp
    obtain ⟨sc', hsc'⟩ := Option.ne_none_iff_exists'.mp hold
    have hunf : s.unfinishedSyscalls.find? old = some sc' := by
      rw [← currentSyscall_unfinished ha, hs.current, hsc']
    obtain ⟨hma, hmu⟩ := movedRecords_unfinished pid ha hunf
    have hopen : o pid = some sc := by rw [← hs.current, currentSyscall_active hsc]
    rw [hsc] at hma
    refine ⟨hasActiveSyscall_iff.mpr ⟨sc, hma⟩, ?_, ?_⟩
    · rw [hmu, OrdMap.find?_erase_of_ne _ hne.symm, OrdMap.find?_set_self]
      simp
    · rw [currentSyscall_active hma]
      exact hs.enabled pid sc hopen

theorem newExecutionContext_fits (t : TraceeView) (answer : Bool) {old : Option ProcessID}
    (hopened : s.openedFrom o = o) (h : Ready cfg t.pid o (movedRecords t.pid old s)) :
    ∃ w, newExecutionContext cfg t old answer s = (.ok (), w) ∧
      Recorded cfg (w.openedFrom o) w := by
  have hmoved : (movedRecords t.pid old s).openedFrom o = o := by
    unfold openedFrom
    rw [movedRecords_printed]
    exact hopened
  obtain ⟨v, hv, hrec⟩ := h.recorded hmoved
  obtain ⟨w, hw, htidy⟩ := newExecutionContext_run t old answer hv
  refine ⟨w, hw, ?_⟩
  rw [htidy.opened]
  exact hrec.tidies htidy

theorem ready_same {pid : ProcessID} (hs : Recorded cfg o s)
    (hidle : o pid ≠ none ∨ s.activeSyscall = none) : Ready cfg pid o (movedRecords pid none s) := by
  refine ⟨fun p _ => hs.current p, hs.once, hs.enabled, ?_⟩
  by_cases hopen : o pid = none
  · have hnone : s.activeSyscall = none := by
      rcases hidle with h | h
      · exact absurd hopen h
      · exact h
    exact Or.inr ⟨(hs.current pid).trans hopen, hnone, hopen⟩
  · exact Or.inl (hs.isEnabled_current hopen)

/-! ## tracees that leave -/

theorem sound_line (t : TraceeView) (n : Note) : Sound cfg o (line cfg t.pid n) :=
  Sound.of_tidy (tidy_line t.pid n)

theorem exited_triple (cfg : Config) (o : Opened) (t : TraceeView) (status : WaitStatus) (flags : StatusFlags) :
    Triple (fun s => Recorded cfg (s.openedFrom o) s) (exited cfg t status flags)
      (fun _ s => Recorded cfg (Function.update (s.openedFrom o) t.pid none) s)
      fun _ _ => False := by
  apply Triple.bind (Sound.when fun _ => sound_abortSyscall)
  intro _
  apply Triple.bind (Sound.when fun _ => sound_line t _)
  intro _
  cases status with
  | exited n =>
    apply Triple.bind (sound_line t _)
    intro _ s
    exact Triple.bind (Sound.when fun _ => sound_line t _) (fun _ => finish_triple t _) s
  | signaled signal =>
    apply Triple.bind (sound_line t _)
    intro _
    exact finish_triple t _

theorem disappeared_triple (cfg : Config) (o : Opened) (t : TraceeView) (status : WaitStatus) :
    Triple (fun s => Recorded cfg (s.openedFrom o) s) (disappeared cfg t status)
      (fun _ s => Recorded cfg (Function.update (s.openedFrom o) t.pid none) s)
      fun _ _ => False := by
  apply Triple.bind sound_abortSyscall
  intro _
  apply Triple.bind (sound_line t _)
  intro _
  cases status with
  | exited n => exact Triple.bind (sound_line t _) fun _ => finish_triple t _
  | signaled signal => exact Triple.bind (sound_line t _) fun _ => finish_triple t _

end

/-! ## sessions -/

namespace Session

variable {cfg : Config} {s : Session} {c : Consumer}

theorem recordedOnce (h : Recorded cfg s.opened s.tracer) : s.RecordedOnce := by
  intro pid
  rw [← h.current]
  refine ⟨fun hopen => ⟨fun hact => h.once pid hact, fun hunf => ?_⟩, fun hopen => ?_⟩
  · by_contra hact
    rw [currentSyscall_unfinished hact] at hopen
    exact hopen hunf
  · have hact := not_hasActiveSyscall_of_current hopen
    rw [currentSyscall_unfinished hact] at hopen
    exact ⟨hact, hopen⟩

theorem recorded_fresh (hs : Recorded cfg s.opened s.tracer) :
    Recorded cfg (s.fresh.openedFrom s.opened) s.fresh := ⟨hs.current, hs.once, hs.enabled⟩

/-- a callback that fits keeps the records right -/
theorem outcome_fits (hs : Recorded cfg s.opened s.tracer) (hc : s.Fits cfg c) :
    ∃ v, s.outcome cfg c = (.ok (), v) ∧
      Recorded cfg (c.leaving (v.openedFrom (c.moving s.opened))) v := by
  have hu : Recorded cfg (s.fresh.openedFrom s.opened) s.fresh := recorded_fresh hs
  have htidy : ∀ {x : Act Unit}, Tidy x → ∃ v, x s.fresh = (.ok (), v) ∧
      Recorded cfg (v.openedFrom s.opened) v := by
    intro x hx
    have hsound : Sound cfg s.opened x := Sound.of_tidy hx
    obtain ⟨_, v, hv, hrec⟩ := hsound.returns hu
    exact ⟨v, hv, hrec⟩
  cases c with
  | syscallEntry t sc abi flags => exact syscallEntry_fits t sc abi flags hu hc
  | syscallExit t sc hasResult => exact syscallExit_fits t sc hasResult hu hc
  | signaled t signal => exact htidy (tidy_line t.pid _)
  | attached t =>
    exact htidy (lining_tidies.attached (fun _ _ => Tidies.of_same rfl rfl rfl) cfg t)
  | stopped t => exact htidy (Tidy.when (tidy_line t.pid _))
  | exited t status flags =>
    obtain ⟨_, v, hv, hrec⟩ := (exited_triple cfg s.opened t status flags).returns hu
    exact ⟨v, hv, hrec⟩
  | disappeared t status =>
    obtain ⟨_, v, hv, hrec⟩ := (disappeared_triple cfg s.opened t status).returns hu
    exact ⟨v, hv, hrec⟩
  | newExecutionContext t old answer =>
    cases old with
    | none => exact newExecutionContext_fits t answer rfl (ready_same hu hc)
    | some old => exact newExecutionContext_fits t answer rfl (ready_moved hu old.2 hc.1 hc.2)
  | newChildProcess parent child event flags answer =>
    exact htidy (lining_tidies.newChildProcess cfg parent child event flags answer)

theorem tell_of_ok {v : TermTracer} (h : s.outcome cfg c = (.ok (), v)) :
    s.tell cfg c = ⟨v, c.leaving (v.openedFrom (c.moving s.opened))⟩ := by
  unfold tell
  rw [h]

theorem tell_fits (hs : Recorded cfg s.opened s.tracer) (hc : s.Fits cfg c) :
    ¬ s.ExtractsAbsent cfg c ∧ Recorded cfg (s.tell cfg c).opened (s.tell cfg c).tracer := by
  obtain ⟨v, hv, hrec⟩ := outcome_fits hs hc
  rw [tell_of_ok hv]
  refine ⟨?_, hrec⟩
  unfold ExtractsAbsent
  rw [hv]
  exact fun h => nomatch h

/-- a tracee without an open call is still recorded -/
theorem not_once_of_unfinished {v : TermTracer} {o : Opened} (pid : ProcessID)
    (hu : v.unfinishedSyscalls.find? pid ≠ none)
    (h : o pid = none ∨ v.hasActiveSyscall pid) : ¬ (⟨v, o⟩ : Session).RecordedOnce := by
  intro hall
  obtain ⟨hopen, hclosed⟩ := hall pid
  by_cases hp : o pid = none
  · exact hu (hclosed hp).2
  · rcases h with h | h
    · exact hp h
    · exact hu ((hopen hp).mp h)

/-- the open call of a tracee is recorded nowhere -/
theorem not_once_of_lost {v : TermTracer} {o : Opened} (pid : ProcessID)
    (hc : v.currentSyscall pid = none) (h : o pid ≠ none) : ¬ (⟨v, o⟩ : Session).RecordedOnce := by
  intro hall
  have hact := not_hasActiveSyscall_of_current hc
  rw [currentSyscall_unfinished hact] at hc
  exact hact (((hall pid).1 h).mpr hc)

/-- the active call of another tracee is reset and found nowhere after that -/
theorem newExecutionContext_loses (t : TraceeView) (old : Option ProcessID) (answer : Bool)
    {o : Opened} {u : TermTracer} {q : ProcessID} {sc : Sys}
    (hprinted : (movedRecords t.pid old u).openedFrom o = o)
    (hen : ¬ isEnabled cfg ((movedRecords t.pid old u).currentSyscall t.pid))
    (hunf : (movedRecords t.pid old u).unfinishedSyscalls.find? q = none) (hopen : o q = some sc) :
    ∃ w, newExecutionContext cfg t old answer u = (.ok (), w) ∧
      ¬ (⟨w, w.openedFrom o⟩ : Session).RecordedOnce := by
  obtain ⟨w, hw, htidy⟩ := newExecutionContext_run t old answer (anticipateSuccess_resets hen)
  refine ⟨w, hw, not_once_of_lost q ?_ ?_⟩
  · rw [htidy.current, currentSyscall_unfinished (not_hasActiveSyscall rfl)]
    exact hunf
  · rw [htidy.opened]
    have hsame : openedFrom o { movedRecords t.pid old u with activeSyscall := none } = o := hprinted
    rw [hsame, hopen]
    simp

/-- one of two merged calls stays where no exit looks for it -/
theorem newExecutionContext_leaves (t : TraceeView) (old : Option ProcessID) (answer : Bool)
    {o : Opened} {u : TermTracer}
    (hact : (movedRecords t.pid old u).hasActiveSyscall t.pid)
    (hunf : (movedRecords t.pid old u).unfinishedSyscalls.find? t.pid ≠ none)
    (hen : isEnabled cfg ((movedRecords t.pid old u).currentSyscall t.pid)) :
    ∃ w, newExecutionContext cfg t old answer u = (.ok (), w) ∧
      ¬ (⟨w, w.openedFrom o⟩ : Session).RecordedOnce := by
  obtain ⟨w, hw, htidy⟩ := newExecutionContext_run t old answer (anticipateSuccess_active hen hact)
  have hidle : w.activeSyscall = none := htidy.idle rfl
  refine ⟨w, hw, not_once_of_unfinished t.pid ?_ (Or.inl ?_)⟩
  · rw [← currentSyscall_unfinished (not_hasActiveSyscall hidle), htidy.current,
      currentSyscall_unfinished (not_hasActiveSyscall rfl)]
    exact hunf
  · rw [htidy.opened]
    show openedFrom o { movedRecords t.pid old u with
      printed := (movedRecords t.pid old u).printed ++ [.success t.pid] } t.pid = none
    rw [openedFrom_print]
    exact Function.update_self _ _ _

/-- every other callback breaks the records -/
theorem tell_not_fits (hs : Recorded cfg s.opened s.tracer) (hc : ¬ s.Fits cfg c) :
    s.ExtractsAbsent cfg c ∨ ¬ (s.tell cfg c).RecordedOnce := by
  have hu : Recorded cfg s.opened s.fresh := recorded_fresh hs
  cases c with
  | syscallEntry t sc abi flags =>
    right
    unfold Fits at hc
    push Not at hc
    have hopen : s.fresh.currentSyscall t.pid ≠ none := by
      rw [hu.current]
      exact hc.2
    obtain ⟨v, hv, hact, hunf⟩ := syscallEntry_twice t abi flags hc.1 hopen
    have hout : s.outcome cfg (.syscallEntry t sc abi flags) = (.ok (), v) := hv
    rw [tell_of_ok hout]
    exact not_once_of_unfinished t.pid hunf (Or.inr hact)
  | syscallExit t sc hasResult =>
    left
    unfold Fits at hc
    push Not at hc
    have hcur : s.fresh.currentSyscall t.pid = none := by
      rw [hu.current]
      exact hc.2.2
    have herr : s.outcome cfg (.syscallExit t sc hasResult) = (.error .null, s.fresh) :=
      syscallExit_absent t hc.1 (by simpa using hc.2.1) hcur
    unfold ExtractsAbsent
    rw [herr]
  | newExecutionContext t old answer =>
    right
    cases old with
    | none =>
      unfold Fits at hc
      push Not at hc
      obtain ⟨⟨q, sc⟩, hq⟩ := Option.ne_none_iff_exists'.mp hc.2
      have hact : s.fresh.hasActiveSyscall q := hasActiveSyscall_iff.mpr ⟨sc, hq⟩
      have hopen : s.opened q = some sc := by
        rw [← hs.current]
        exact currentSyscall_active hq
      obtain ⟨w, hw, hlost⟩ := newExecutionContext_loses t none answer rfl
        (hu.not_isEnabled_current hc.1) (hu.once q hact) hopen
      have hout : s.outcome cfg (.newExecutionContext t none answer) = (.ok (), w) := hw
      rw [tell_of_ok hout]
      exact hlost
    | some old =>
      by_cases hidle : s.opened t.pid ≠ none ∨ s.opened old ≠ none ∨ s.tracer.activeSyscall = none
      · -- both threads have calls, and one of them is active
        unfold Fits at hc
        push Not at hc
        obtain ⟨hpid, hold, hact⟩ := hc hidle
        have hact' : s.fresh.hasActiveSyscall t.pid ∨ s.fresh.hasActiveSyscall old := by
          by_cases h : s.tracer.hasActiveSyscall t.pid
          · exact Or.inl h
          · exact Or.inr (hact h)
        obtain ⟨hmact, hmunf, hmen⟩ := moved_both hu old.2 hpid hold hact'
        obtain ⟨w, hw, hleft⟩ := newExecutionContext_leaves t (some old) answer hmact hmunf hmen
        have hout : s.outcome cfg (.newExecutionContext t (some old) answer) = (.ok (), w) := hw
        rw [tell_of_ok hout]
        exact hleft
      · -- neither of them has one, and the active call is another tracee's
        push Not at hidle
        obtain ⟨hpid, hold, hactive⟩ := hidle
        obtain ⟨⟨q, sc⟩, hq⟩ := Option.ne_none_iff_exists'.mp hactive
        have hact : s.fresh.hasActiveSyscall q := hasActiveSyscall_iff.mpr ⟨sc, hq⟩
        have hopen : s.opened q = some sc := by
          rw [← hs.current]
          exact currentSyscall_active hq
        have hmove : s.opened.move t.pid old q = some sc := by
          have hqp : q ≠ t.pid := by
            rintro rfl
            rw [hpid] at hopen
            cases hopen
          have hqo : q ≠ old := by
            rintro rfl
            rw [hold] at hopen
            cases hopen
          rw [Opened.move, if_neg hqp, if_neg hqo, hopen]
        obtain ⟨hma, hmu⟩ := movedRecords_none t.pid ((hu.current old).trans hold)
        have hprinted : (movedRecords t.pid (some old) s.fresh).openedFrom (s.opened.move t.pid old)
            = s.opened.move t.pid old := by
          unfold openedFrom
          rw [movedRecords_printed]
          rfl
        have hen : ¬ isEnabled cfg
            ((movedRecords t.pid (some old) s.fresh).currentSyscall t.pid) := by
          rw [currentSyscall_congr hma hmu]
          exact hu.not_isEnabled_current hpid
        obtain ⟨w, hw, hlost⟩ := newExecutionContext_loses t (some old) answer hprinted hen
          (by rw [hmu]; exact hu.once q hact) hmove
        have hout : s.outcome cfg (.newExecutionContext t (some old) answer) = (.ok (), w) := hw
        rw [tell_of_ok hout]
        exact hlost
  | signaled t signal => exact absurd trivial hc
  | attached t => exact absurd trivial hc
  | stopped t => exact absurd trivial hc
  | exited t status flags => exact absurd trivial hc
  | disappeared t status => exact absurd trivial hc
  | newChildProcess parent child event flags answer => exact absurd trivial hc

/-! ## runs -/

theorem keepsRecords_iff_of (cs : List Consumer) :
    ∀ s : Session, Recorded cfg s.opened s.tracer → (s.KeepsRecords cfg cs ↔ s.AllFit cfg cs) := by
  induction cs with
  | nil =>
    intro s hs
    exact iff_of_true (recordedOnce hs) trivial
  | cons c cs ih =>
    intro s hs
    constructor
    · rintro ⟨-, habsent, hrest⟩
      by_cases hc : s.Fits cfg c
      · exact ⟨hc, (ih _ (tell_fits hs hc).2).mp hrest⟩
      · have honce : (s.tell cfg c).RecordedOnce := by
          cases cs with
          | nil => exact hrest
          | cons c' cs => exact hrest.1
        rcases tell_not_fits hs hc with h | h
        · exact absurd h habsent
        · exact absurd honce h
    · rintro ⟨hc, hrest⟩
      obtain ⟨habsent, hrec⟩ := tell_fits hs hc
      exact ⟨recordedOnce hs, habsent, (ih _ hrec).mpr hrest⟩

theorem recorded_start (cfg : Config) (s : TermTracer) (hact : s.activeSyscall = none)
    (hunf : s.unfinishedSyscalls = OrdMap.empty) : Recorded cfg (fun _ => none) s := by
  refine ⟨fun p => ?_, once_of_idle hact, fun p sc h => nomatch h⟩
  rw [currentSyscall_unfinished (not_hasActiveSyscall hact), hunf]
  rfl

/-- every interleaving of callbacks, with every filter, keeps the records right exactly when each
callback fits -/
theorem keepsRecords_iff (cfg : Config) (main : ProcessID) (cs : List Consumer) :
    (⟨{ mainTraceePid := main }, fun _ => none⟩ : Session).KeepsRecords cfg cs ↔
      (⟨{ mainTraceePid := main }, fun _ => none⟩ : Session).AllFit cfg cs :=
  keepsRecords_iff_of cs _ (recorded_start cfg _ rfl rfl)

/-- only `read()` is printed: the call of one thread is active when another process executes a
program, and is gone when it returns -/
def execveFiltered : List Consumer :=
  let reader : TraceeView := { pid := 10 }
  let other : TraceeView := { pid := 11 }
  [.attached reader, .attached other, .syscallEntry reader ⟨0, .read⟩ .x86_64 {},
    .newExecutionContext other none true, .syscallExit reader ⟨0, .read⟩ true]

theorem keepsRecords_fails :
    ¬ (⟨{ mainTraceePid := 10 }, fun _ => none⟩ : Session).KeepsRecords
      { syscallFilter := [.read] } execveFiltered := by
  intro h
  have hexit := h.2.2.2.2.2.2.2.2.2.1
  exact hexit rfl

end Session

end Clues
