import Clues.TermTracer.Callbacks

/-!
# Open calls and their records

A call is open from the output of its entry to the output of its exit, of its success or of its
end without a result; a thread that goes on under another PID takes its call along, and nothing is
open for a tracee that is gone.

* `Opened`           the open call of each tracee, replayed from what was printed;
* `Session.tell`     one callback, and what is open after it;
* `RecordedOnce`     a tracee with an open call is in one of the two records, the others in none;
* `Fits`             the callbacks that leave the records as they should be;
* `Lining R`         lines that are no part of a call lead along `R`.

A new execution context resets the active call no matter whose it is, and the records of two
threads that become one are merged as if only one of them had a call.
-/

namespace Clues

open Lib Lib.Exec TermTracer

/-! ## what is open -/

/-- the call of each tracee whose entry is printed and whose exit is not -/
abbrev Opened := ProcessID → Option Sys

def Output.replay (o : Opened) : Output → Opened
  | .entry pid sc => Function.update o pid (some sc)
  | .exit pid _ => Function.update o pid none
  | .success pid => Function.update o pid none
  | .aborted pid => Function.update o pid none
  | .resuming _ _ => o
  | .restarting _ _ => o
  | .unfinished => o
  | .tag _ => o
  | .onlyRemaining _ => o
  | .note _ _ => o

/-- output that opens and closes nothing -/
def Output.Quiet (out : Output) : Prop := ∀ o, out.replay o = o

/-- lines that are part of a system call -/
def Output.isCall : Output → Bool
  | .entry _ _ | .exit _ _ | .success _ | .aborted _ => true
  | _ => false

theorem Output.quiet_of_not_call {out : Output} (h : out.isCall = false) : out.Quiet := by
  intro o
  cases out with
  | entry pid sc => cases h
  | exit pid sc => cases h
  | success pid => cases h
  | aborted pid => cases h
  | _ => rfl

def TermTracer.openedFrom (o : Opened) (s : TermTracer) : Opened := s.printed.foldl Output.replay o

/-- the call of `old` belongs to `pid` -/
def Opened.move (o : Opened) (pid old : ProcessID) : Opened := fun p =>
  if p = pid then o old else if p = old then none else o p

namespace TermTracer.Consumer

/-- a call moves with the thread it belongs to -/
def moving (o : Opened) : Consumer → Opened
  | .newExecutionContext t (some old) _ => o.move t.pid old
  | _ => o

def leaving (o : Opened) : Consumer → Opened
  | .exited t _ _ => Function.update o t.pid none
  | .disappeared t _ => Function.update o t.pid none
  | _ => o

end TermTracer.Consumer

/-- the tracer and the calls that are open -/
structure Session where
  tracer : TermTracer := {}
  opened : Opened := fun _ => none

namespace Session

variable (cfg : Config)

/-- the stream is read off before each callback -/
def fresh (s : Session) : TermTracer := { s.tracer with printed := [] }

def outcome (s : Session) (c : Consumer) : Except Undefined Unit × TermTracer :=
  handle cfg c s.fresh

def tell (s : Session) (c : Consumer) : Session where
  tracer := (s.outcome cfg c).2
  opened := c.leaving ((s.outcome cfg c).2.openedFrom (c.moving s.opened))

/-- `checkResumedSyscall()` extracts an entry that is not there -/
def ExtractsAbsent (s : Session) (c : Consumer) : Prop := (s.outcome cfg c).1 = .error .null

def RecordedOnce (s : Session) : Prop :=
  ∀ pid,
    (s.opened pid ≠ none →
      (s.tracer.hasActiveSyscall pid ↔ s.tracer.unfinishedSyscalls.find? pid = none)) ∧
    (s.opened pid = none →
      ¬ s.tracer.hasActiveSyscall pid ∧ s.tracer.unfinishedSyscalls.find? pid = none)

/-- over a whole run the records are right and nothing absent is extracted -/
def KeepsRecords (s : Session) : List Consumer → Prop
  | [] => s.RecordedOnce
  | c :: cs => s.RecordedOnce ∧ ¬ s.ExtractsAbsent cfg c ∧ KeepsRecords (s.tell cfg c) cs

/-! ## the condition -/

/-- an entry follows no open call and an exit follows one; the active call is reset only if it
belongs to the tracee, and no two calls are merged while one of them is active -/
def Fits (s : Session) : Consumer → Prop
  | .syscallEntry t sc _ _ => isEnabled cfg (some sc) → s.opened t.pid = none
  | .syscallExit t sc hasResult =>
      isEnabled cfg (some sc) → ¬ (isExecSyscall sc && hasResult) → s.opened t.pid ≠ none
  | .newExecutionContext t none _ => s.opened t.pid ≠ none ∨ s.tracer.activeSyscall = none
  | .newExecutionContext t (some old) _ =>
      (s.opened t.pid ≠ none ∨ s.opened old ≠ none ∨ s.tracer.activeSyscall = none) ∧
      (s.opened t.pid ≠ none → s.opened old ≠ none →
        ¬ s.tracer.hasActiveSyscall t.pid ∧ ¬ s.tracer.hasActiveSyscall old)
  | _ => True

def AllFit (s : Session) : List Consumer → Prop
  | [] => True
  | c :: cs => s.Fits cfg c ∧ AllFit (s.tell cfg c) cs

end Session

/-! ## lookups -/

namespace TermTracer

variable {cfg : Config} {s s' : TermTracer} {pid p : ProcessID} {sc : Sys}

theorem hasActiveSyscall_iff :
    s.hasActiveSyscall pid ↔ ∃ sc, s.activeSyscall = some (pid, sc) := by
  unfold hasActiveSyscall activeSyscallOf
  cases h : s.activeSyscall with
  | none => simp
  | some a =>
    obtain ⟨q, sc⟩ := a
    by_cases hq : q = pid
    · subst hq
      simp
    · simp [hq]

theorem not_hasActiveSyscall (h : s.activeSyscall = none) : ¬ s.hasActiveSyscall pid := by
  rw [hasActiveSyscall_iff, h]
  simp

theorem currentSyscall_active (h : s.activeSyscall = some (pid, sc)) :
    s.currentSyscall pid = some sc := by
  simp [currentSyscall, activeSyscallOf, h]

theorem currentSyscall_unfinished (h : ¬ s.hasActiveSyscall pid) :
    s.currentSyscall pid = s.unfinishedSyscalls.find? pid := by
  have ha : s.activeSyscallOf pid = none := by
    unfold hasActiveSyscall at h
    simpa using h
  simp [currentSyscall, ha]

theorem currentSyscall_congr (ha : s'.activeSyscall = s.activeSyscall)
    (hu : s'.unfinishedSyscalls = s.unfinishedSyscalls) :
    s'.currentSyscall pid = s.currentSyscall pid := by
  unfold currentSyscall activeSyscallOf
  rw [ha, hu]

/-- no tracee is in both records -/
def Once (s : TermTracer) : Prop :=
  ∀ pid, s.hasActiveSyscall pid → s.unfinishedSyscalls.find? pid = none

theorem once_of_idle (h : s.activeSyscall = none) : s.Once :=
  fun _ hp => absurd hp (not_hasActiveSyscall h)

theorem once_congr (ha : s'.activeSyscall = s.activeSyscall)
    (hu : s'.unfinishedSyscalls = s.unfinishedSyscalls) (h : s.Once) : s'.Once := by
  intro p hp
  rw [hasActiveSyscall_iff, ha, ← hasActiveSyscall_iff] at hp
  rw [hu]
  exact h p hp

/-! ## lines that open and close nothing -/

/-- the calls that are open and the call found for each tracee stay the same -/
structure Tidies (s s' : TermTracer) : Prop where
  opened : ∀ o, s'.openedFrom o = s.openedFrom o
  current : ∀ p, s'.currentSyscall p = s.currentSyscall p
  once : s.Once → s'.Once
  idle : s.activeSyscall = none → s'.activeSyscall = none

theorem Tidies.refl (s : TermTracer) : Tidies s s := ⟨fun _ => rfl, fun _ => rfl, id, id⟩

theorem Tidies.trans {t : TermTracer} (h : Tidies s t) (h' : Tidies t s') : Tidies s s' where
  opened o := (h'.opened o).trans (h.opened o)
  current p := (h'.current p).trans (h.current p)
  once hs := h'.once (h.once hs)
  idle hs := h'.idle (h.idle hs)

theorem Tidies.of_same (ho : s'.printed = s.printed) (ha : s'.activeSyscall = s.activeSyscall)
    (hu : s'.unfinishedSyscalls = s.unfinishedSyscalls) : Tidies s s' where
  opened o := by
    unfold openedFrom
    rw [ho]
  current _ := currentSyscall_congr ha hu
  once hs := once_congr ha hu hs
  idle hs := ha.trans hs

/-- `x` returns, and opens and closes nothing -/
def Tidy {α : Type} (x : Act α) : Prop := ∀ s, ∃ a s', x s = (.ok a, s') ∧ Tidies s s'

theorem Tidies.walk : Walk (fun _ => True) Tidies where
  refl := Tidies.refl
  trans h h' := h.trans h'
  keeps _ _ := trivial

theorem Tidy.bind {α β : Type} {x : Act α} {f : α → Act β} (hx : Tidy x) (hf : ∀ a, Tidy (f a)) :
    Tidy (x >>= f) := Leads.bind Tidies.walk hx hf

theorem Tidy.when {c : Prop} [Decidable c] {x : Act Unit} (hx : Tidy x) : Tidy (when c x) :=
  Leads.when Tidies.walk hx

theorem openedFrom_print (o : Opened) (s : TermTracer) (out : Output) :
    openedFrom o { s with printed := s.printed ++ [out] } = out.replay (s.openedFrom o) := by
  unfold openedFrom
  rw [List.foldl_append]
  rfl

theorem tidy_print {out : Output} (h : out.Quiet) : Tidy (print out) := by
  apply Leads.update
  intro s
  refine ⟨fun o => ?_, fun _ => rfl, id, id⟩
  rw [openedFrom_print, h]

theorem tidies_store {sc : Sys} (ha : s.activeSyscall = some (pid, sc)) :
    Tidies s { s with
      unfinishedSyscalls := s.unfinishedSyscalls.set pid sc
      activeSyscall := none } := by
  refine ⟨fun _ => rfl, fun p => ?_, fun _ => once_of_idle rfl, fun _ => rfl⟩
  rw [currentSyscall_unfinished (not_hasActiveSyscall rfl)]
  show (s.unfinishedSyscalls.set pid sc).find? p = _
  rw [OrdMap.find?_set]
  by_cases hp : p = pid
  · rw [if_pos hp, hp, currentSyscall_active ha]
  · rw [if_neg hp, currentSyscall_unfinished]
    rw [hasActiveSyscall_iff, ha]
    rintro ⟨sc', h⟩
    cases h
    exact hp rfl

/-- lines that are no part of a call lead along the relation -/
structure Lining (R : TermTracer → TermTracer → Prop) : Prop where
  walk : Walk (fun _ => True) R
  printed : ∀ s out, out.isCall = false → R s { s with printed := s.printed ++ [out] }
  store : ∀ {s pid sc}, s.activeSyscall = some (pid, sc) → R s { s with
    unfinishedSyscalls := s.unfinishedSyscalls.set pid sc
    activeSyscall := none }
  same : ∀ {s s'}, s'.printed = s.printed → s'.activeSyscall = s.activeSyscall →
    s'.unfinishedSyscalls = s.unfinishedSyscalls → s'.numTracees = s.numTracees → R s s'

namespace Lining

variable {R : TermTracer → TermTracer → Prop}

theorem print (hR : Lining R) {out : Output} (h : out.isCall = false) : Leads R (print out) :=
  Leads.update fun s => hR.printed s out h

theorem set (hR : Lining R) {f : TermTracer → TermTracer} (ho : ∀ s, (f s).printed = s.printed)
    (ha : ∀ s, (f s).activeSyscall = s.activeSyscall)
    (hu : ∀ s, (f s).unfinishedSyscalls = s.unfinishedSyscalls)
    (hn : ∀ s, (f s).numTracees = s.numTracees) : Leads R (update f : Act Unit) :=
  Leads.update fun s => hR.same (ho s) (ha s) (hu s) (hn s)

theorem storeUnfinishedSyscallCtx_run (hR : Lining R) (cfg : Config) (s : TermTracer) :
    ∃ b s', storeUnfinishedSyscallCtx cfg s = (.ok b, s') ∧ R s s' ∧ s'.activeSyscall = none := by
  unfold storeUnfinishedSyscallCtx
  rw [run_read_bind]
  cases ha : s.activeSyscall with
  | none => exact ⟨false, s, rfl, hR.walk.refl s, ha⟩
  | some a => exact ⟨_, _, rfl, hR.store ha, rfl⟩

/-- the rest of `startNewLine()` -/
theorem beginLine (hR : Lining R) (stored : Bool) (pid : ProcessID) : Leads R (do
    when stored (TermTracer.print .unfinished)
    let s ← read
    if 1 < s.numTracees then TermTracer.print (.tag pid)
    else when s.droppedToLastTracee do
      update fun s => { s with droppedToLastTracee := false }
      TermTracer.print (.onlyRemaining pid)) := by
  apply Leads.bind hR.walk (Leads.when hR.walk (hR.print rfl))
  intro _
  apply Leads.read_bind
  intro s
  apply Leads.ite (hR.print rfl)
  apply Leads.when hR.walk
  apply Leads.bind hR.walk
  · exact hR.set (fun _ => rfl) (fun _ => rfl) (fun _ => rfl) fun _ => rfl
  · exact fun _ => hR.print rfl

theorem startNewLine (hR : Lining R) (cfg : Config) (pid : ProcessID) :
    Leads R (startNewLine cfg pid) := by
  apply Leads.bind hR.walk
  · intro s
    obtain ⟨b, t, ht, hst, -⟩ := hR.storeUnfinishedSyscallCtx_run cfg s
    exact ⟨b, t, ht, hst⟩
  · exact fun stored => hR.beginLine stored pid

theorem line (hR : Lining R) (cfg : Config) (pid : ProcessID) (n : Note) :
    Leads R (line cfg pid n) :=
  Leads.bind hR.walk (hR.startNewLine cfg pid) fun _ => hR.print rfl

theorem checkABI (hR : Lining R) (cfg : Config) (pid : ProcessID) (abi : ABI) :
    Leads R (checkABI cfg pid abi) := by
  apply Leads.read_bind
  intro s
  exact Leads.when hR.walk (hR.line cfg pid _)

theorem announceContext (hR : Lining R) (cfg : Config) (t : TraceeView) (answer : Bool) :
    Leads R (announceContext cfg t answer) := by
  apply Leads.read_bind
  intro s
  apply Leads.bind hR.walk (Leads.when hR.walk (hR.line _ _ _))
  intro _
  apply Leads.bind hR.walk (hR.line _ _ _)
  intro _
  apply Leads.ite
  · exact hR.set (fun _ => rfl) (fun _ => rfl) (fun _ => rfl) fun _ => rfl
  · apply Leads.when hR.walk
    apply Leads.bind hR.walk (hR.line _ _ _)
    exact fun _ => hR.set (fun _ => rfl) (fun _ => rfl) (fun _ => rfl) fun _ => rfl

/-- for relations that do not depend on the number of tracees -/
theorem attached (hR : Lining R) (hn : ∀ s n, R s { s with numTracees := n }) (cfg : Config)
    (t : TraceeView) : Leads R (attached cfg t) := by
  apply Leads.read_bind
  intro s
  apply Leads.bind hR.walk (Leads.update fun s => hn s _)
  intro _
  apply Leads.ite (Leads.pure hR.walk ())
  apply Leads.ite (hR.line _ _ _)
  cases s.newTracees.find? t.pid with
  | none => exact hR.line _ _ _
  | some e =>
    apply Leads.bind hR.walk (hR.line _ _ _)
    exact fun _ => hR.set (fun _ => rfl) (fun _ => rfl) (fun _ => rfl) fun _ => rfl

theorem newChildProcess (hR : Lining R) (cfg : Config) (parent child : TraceeView)
    (event : PtraceEvent) (flags : StatusFlags) (answer : Bool) :
    Leads R (newChildProcess cfg parent child event flags answer) := by
  apply Leads.bind hR.walk (Leads.when hR.walk (hR.line _ _ _))
  intro _
  apply Leads.ite
  · exact hR.set (fun _ => rfl) (fun _ => rfl) (fun _ => rfl) fun _ => rfl
  · exact hR.set (fun _ => rfl) (fun _ => rfl) (fun _ => rfl) fun _ => rfl

end Lining

theorem lining_tidies : Lining Tidies where
  walk := Tidies.walk
  printed s out h := by
    refine ⟨fun o => ?_, fun _ => rfl, id, id⟩
    rw [openedFrom_print, Output.quiet_of_not_call h]
  store := tidies_store
  same ho ha hu _ := Tidies.of_same ho ha hu

theorem startNewLine_run (cfg : Config) (pid : ProcessID) (s : TermTracer) :
    ∃ s', startNewLine cfg pid s = (.ok (), s') ∧ Tidies s s' ∧ s'.activeSyscall = none := by
  obtain ⟨b, t, ht, htidy, hnone⟩ := lining_tidies.storeUnfinishedSyscallCtx_run cfg s
  obtain ⟨_, s', hs', htidy'⟩ := lining_tidies.beginLine b pid t
  refine ⟨s', ?_, htidy.trans htidy', htidy'.idle hnone⟩
  unfold startNewLine
  rw [run_bind_ok ht]
  exact hs'

theorem tidy_line (pid : ProcessID) (n : Note) : Tidy (line cfg pid n) :=
  lining_tidies.line cfg pid n

/-! ## the end of a call -/

/-- the tracee is in neither record any more, the others are where they are found -/
structure Drops (pid : ProcessID) (s s' : TermTracer) : Prop where
  current : ∀ p, p ≠ pid → s'.currentSyscall p = s.currentSyscall p
  gone : s'.currentSyscall pid = none
  once : s'.Once

/-- the call of the tracee is the active one, or was taken out of the unfinished ones -/
structure Resumes (pid : ProcessID) (s t : TermTracer) : Prop where
  opened : ∀ o, t.openedFrom o = s.openedFrom o
  current : ∀ p, p ≠ pid → t.currentSyscall p = s.currentSyscall p
  taken : t.unfinishedSyscalls.find? pid = none
  active : t = s ∧ s.hasActiveSyscall pid ∨ t.activeSyscall = none

theorem Resumes.of_active (ha : s.hasActiveSyscall pid)
    (hu : s.unfinishedSyscalls.find? pid = none) : Resumes pid s s :=
  ⟨fun _ => rfl, fun _ _ => rfl, hu, Or.inl ⟨rfl, ha⟩⟩

theorem checkResumedSyscall_active (ha : s.hasActiveSyscall pid) :
    checkResumedSyscall cfg pid s = (.ok (), s) := by
  unfold checkResumedSyscall
  rw [run_read_bind, if_pos ha]
  rfl

theorem checkResumedSyscall_run (cfg : Config) (hp : s.currentSyscall pid ≠ none) (honce : s.Once) :
    ∃ t, checkResumedSyscall cfg pid s = (.ok (), t) ∧ Resumes pid s t := by
  by_cases hact : s.hasActiveSyscall pid
  · exact ⟨s, checkResumedSyscall_active hact, Resumes.of_active hact (honce pid hact)⟩
  · rw [currentSyscall_unfinished hact] at hp
    obtain ⟨sc, hsc⟩ := Option.ne_none_iff_exists'.mp hp
    let u : TermTracer := { s with unfinishedSyscalls := s.unfinishedSyscalls.erase pid }
    obtain ⟨v, hv, htidy, hidle⟩ := startNewLine_run cfg pid u
    refine ⟨{ v with printed := v.printed ++ [.resuming pid sc] }, ?_, ?_⟩
    · unfold checkResumedSyscall
      rw [run_read_bind, if_neg hact, hsc]
      show (startNewLine cfg pid >>= fun _ => print (.resuming pid sc)) u = _
      rw [run_bind_ok hv]
      rfl
    · refine ⟨fun o => ?_, fun p hpp => ?_, ?_, Or.inr hidle⟩
      · rw [openedFrom_print]
        exact htidy.opened o
      · show v.currentSyscall p = _
        have hu : u.unfinishedSyscalls.find? p = s.unfinishedSyscalls.find? p :=
          OrdMap.find?_erase_of_ne _ hpp
        rw [htidy.current]
        unfold currentSyscall
        rw [hu]
        rfl
      · have hcur : v.currentSyscall pid = none := by
          rw [htidy.current, currentSyscall_unfinished]
          · exact OrdMap.find?_erase_self _ _
          · exact hact
        rwa [currentSyscall_unfinished (not_hasActiveSyscall hidle)] at hcur

theorem not_hasActiveSyscall_of_current (hp : s.currentSyscall pid = none) :
    ¬ s.hasActiveSyscall pid := by
  intro h
  obtain ⟨sc, hsc⟩ := hasActiveSyscall_iff.mp h
  rw [currentSyscall_active hsc] at hp
  cases hp

theorem checkResumedSyscall_absent (hp : s.currentSyscall pid = none) :
    checkResumedSyscall cfg pid s = (.error .null, s) := by
  have hact := not_hasActiveSyscall_of_current hp
  rw [currentSyscall_unfinished hact] at hp
  unfold checkResumedSyscall
  rw [run_read_bind, if_neg hact, hp]
  rfl

/-- an active call that is not the tracee's does not exist then -/
theorem Resumes.not_other {t : TermTracer} (h : Resumes pid s t) :
    (t.activeSyscall.isSome && !t.hasActiveSyscall pid) = false := by
  rcases h.active with ⟨rfl, ha⟩ | hidle
  · rw [ha, Bool.not_true, Bool.and_false]
  · rw [hidle]
    rfl

theorem Resumes.drops {t : TermTracer} (h : Resumes pid s t) (hidle : s'.activeSyscall = none)
    (hu : s'.unfinishedSyscalls = t.unfinishedSyscalls) : Drops pid s s' := by
  have hno : ¬ s'.hasActiveSyscall pid := not_hasActiveSyscall hidle
  refine ⟨fun p hp => ?_, ?_, once_of_idle hidle⟩
  · have hact : ¬ t.hasActiveSyscall p := by
      rcases h.active with ⟨rfl, ha⟩ | hti
      · obtain ⟨sc, hsc⟩ := hasActiveSyscall_iff.mp ha
        rw [hasActiveSyscall_iff, hsc]
        rintro ⟨sc', he⟩
        cases he
        exact hp rfl
      · exact not_hasActiveSyscall hti
    rw [currentSyscall_unfinished (not_hasActiveSyscall hidle), hu,
      ← currentSyscall_unfinished hact, h.current p hp]
  · rw [currentSyscall_unfinished hno, hu, h.taken]

/-- the erasure of `cleanupTracee()` -/
theorem drops_cleanup (pid : ProcessID) (honce : s.Once) :
    Drops pid s (if s.hasActiveSyscall pid then { s with activeSyscall := none }
      else { s with unfinishedSyscalls := s.unfinishedSyscalls.erase pid }) := by
  by_cases hact : s.hasActiveSyscall pid
  · rw [if_pos hact]
    exact (Resumes.of_active hact (honce pid hact)).drops rfl rfl
  · rw [if_neg hact]
    refine ⟨fun p hp => ?_, ?_, fun p hp => ?_⟩
    · unfold currentSyscall
      rw [OrdMap.find?_erase_of_ne _ hp]
      rfl
    · rw [currentSyscall_unfinished]
      · exact OrdMap.find?_erase_self _ _
      · exact hact
    · have hpp : p ≠ pid := by
        rintro rfl
        exact hact hp
      rw [OrdMap.find?_erase_of_ne _ hpp]
      exact honce p hp

/-- a call is closed on the stream and dropped from the records -/
structure Closes (pid : ProcessID) (s s' : TermTracer) : Prop extends Drops pid s s' where
  opened : ∀ o, s'.openedFrom o = Function.update (s.openedFrom o) pid none
  idle : s'.activeSyscall = none

theorem Resumes.closes {t : TermTracer} {out : Output} (h : Resumes pid s t)
    (hout : ∀ o, out.replay o = Function.update o pid none)
    (hs' : s' = { t with printed := t.printed ++ [out], activeSyscall := none }) :
    Closes pid s s' := by
  subst hs'
  refine ⟨h.drops rfl rfl, fun o => ?_, rfl⟩
  rw [← h.opened, ← hout, ← openedFrom_print]
  rfl

end TermTracer

/-! ## the records of a session -/

/-- the records hold the open calls, each once, and these are printed ones -/
structure Recorded (cfg : Config) (o : Opened) (s : TermTracer) : Prop where
  current : ∀ p, s.currentSyscall p = o p
  once : s.Once
  enabled : ∀ p sc, o p = some sc → isEnabled cfg (some sc)

namespace Recorded

variable {cfg : Config} {o : Opened} {s s' : TermTracer} {pid : ProcessID}

theorem tidies (h : Recorded cfg o s) (ht : Tidies s s') : Recorded cfg o s' where
  current p := (ht.current p).trans (h.current p)
  once := ht.once h.once
  enabled := h.enabled

/-- only the tracee that is dropped may have been recorded wrongly -/
theorem of_drops (hcur : ∀ p, p ≠ pid → s.currentSyscall p = o p)
    (hen : ∀ p sc, o p = some sc → isEnabled cfg (some sc)) (hd : Drops pid s s') :
    Recorded cfg (Function.update o pid none) s' where
  current p := by
    by_cases hp : p = pid
    · rw [hp, Function.update_self, hd.gone]
    · rw [Function.update_of_ne hp, hd.current p hp, hcur p hp]
  once := hd.once
  enabled p sc hsc := by
    by_cases hp : p = pid
    · rw [hp, Function.update_self] at hsc
      cases hsc
    · rw [Function.update_of_ne hp] at hsc
      exact hen p sc hsc

theorem drops (h : Recorded cfg o s) (hd : Drops pid s s') :
    Recorded cfg (Function.update o pid none) s' := of_drops (fun p _ => h.current p) h.enabled hd

theorem isEnabled_current (h : Recorded cfg o s) (hp : o pid ≠ none) :
    isEnabled cfg (s.currentSyscall pid) := by
  obtain ⟨sc, hsc⟩ := Option.ne_none_iff_exists'.mp hp
  rw [h.current, hsc]
  exact h.enabled pid sc hsc

theorem not_isEnabled_current (h : Recorded cfg o s) (hp : o pid = none) :
    ¬ isEnabled cfg (s.currentSyscall pid) := by
  rw [h.current, hp]
  simp [isEnabled]

end Recorded

end Clues
