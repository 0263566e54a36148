import Clues.Engine.Attaching
import Clues.TermTracer.Records
import Mathlib.Data.Finset.Card

/-!
# The number of tracees

* `Views`            what the callbacks of the engine show of tracees and system calls;
* `driven`           the tracer after all callbacks in the log of the engine;
* `counted`          the tracees that were reported attached, and neither reported exited or
                     disappeared nor detached from since;
* `Accounts`         what the log has to meet for the counter to be right.

The counter knows of attached, exited and disappeared tracees only, so a tracee that is detached
from stays counted, and one whose end is reported although it never was attached is subtracted.
-/

namespace Clues

open Lib Lib.Exec Lib.History TermTracer

/-! ## the engine drives the tracer -/

/-- the data of tracees and system calls when a callback is made -/
structure Views where
  tracee : Log → TraceeId → TraceeView
  call : Log → CallId → Sys
  abi : Log → TraceeId → ABI
  hasResult : Log → CallId → Bool
  /-- what the user answers -/
  answer : Log → Bool

def ChildState.waitStatus (data : ChildState) : WaitStatus :=
  match data.event with
  | .exited status => .exited status
  | .killed signal | .dumped signal | .signaled signal => .signaled signal
  | .trapped _ | .other => .signaled 0

variable (cfg : Config) (v : Views) (main : ProcessID)

/-- `TermTracer` does not override `resumed()` and `vforkComplete()` -/
def Callback.consumer (p : Log) : Callback → Option Consumer
  | .syscallEntry id c flags =>
      some (.syscallEntry (v.tracee p id) (v.call p c) (v.abi p id) flags)
  | .syscallExit id c _ => some (.syscallExit (v.tracee p id) (v.call p c) (v.hasResult p c))
  | .attached id => some (.attached (v.tracee p id))
  | .signaled id signal => some (.signaled (v.tracee p id) signal)
  | .stopped id => some (.stopped (v.tracee p id))
  | .resumed _ => none
  | .exited id status flags => some (.exited (v.tracee p id) status flags)
  | .disappeared id data => some (.disappeared (v.tracee p id) data.waitStatus)
  | .newExecutionContext id _ _ oldPid =>
      some (.newExecutionContext (v.tracee p id)
        (oldPid.bind fun old => if h : old ≠ (v.tracee p id).pid then some ⟨old, h⟩ else none)
        (v.answer p))
  | .newChildProcess parent child event flags =>
      some (.newChildProcess (v.tracee p parent) (v.tracee p child) event flags (v.answer p))
  | .vforkComplete _ _ => none

/-- the tracer after one more entry of the log -/
def drive (p : Log) (s : TermTracer) : Entry → TermTracer
  | .callback c =>
      match c.consumer v p with
      | some k => (handle cfg k s).2
      | none => s
  | _ => s

def driven (log : Log) : TermTracer := trail (drive cfg v) { mainTraceePid := main } log

/-- the tracees it detaches from in the callback that the log ends with -/
def detaches (log : Log) : List ConsumerAct :=
  ((driven cfg v main log).detached.drop (driven cfg v main log.dropLast).detached.length).map
    fun pid => { call := .detach pid }

/-- the engine with the tracer as its consumer -/
def Env.driving (env : Env) : Env := { env with consumer := detaches cfg v main }

/-! ## the tracees to count -/

def countStep (counted : Finset TraceeId) : Entry → Finset TraceeId
  | .callback (.attached id) => insert id counted
  | .callback (.exited id _ _) | .callback (.disappeared id _) | .detached id => counted.erase id
  | .execed id _ (some old) => if old ∈ counted then insert id (counted.erase old) else counted
  | _ => counted

/-- a thread that replaces others goes on as the tracee of the leader -/
def counted (log : Log) : Finset TraceeId := replay countStep ∅ log

/-- the entry is the report of a tracee's end -/
def Entry.endOf : Entry → Option TraceeId
  | .callback (.exited id _ _) | .callback (.disappeared id _) => some id
  | _ => none

/-- the counter is right after each entry, and is only decremented when a tracee is counted -/
def CountsTracees (log : Log) : Prop :=
  (∀ p, p <+: log →
    (driven cfg v main p).numTracees = UInt64.ofNat (counted p).card) ∧
  Always (fun p e => e.endOf ≠ none → 0 < (counted p).card) log

/-- no counted tracee is detached from, only the end of a counted one is reported, and a leader that
is replaced by a counted thread was attached and its end was reported -/
def Accounts (p : Log) : Entry → Prop
  | .detached id => id ∉ counted p
  | .callback (.exited id _ _) | .callback (.disappeared id _) => id ∈ counted p
  | .execed id _ (some old) =>
      old ∈ counted p → .callback (.attached id) ∈ p ∧ id ∉ counted p
  | _ => True

/-! ## what a callback does to the counter -/

section
variable {cfg} {m : UInt64}

/-- returns and leaves the counter alone -/
def Level {α : Type} (m : UInt64) (x : Act α) : Prop :=
  Triple (fun s => s.numTracees = m) x (fun _ s => s.numTracees = m) fun _ _ => False

theorem Level.bind {α β : Type} {x : Act α} {f : α → Act β} (hx : Level m x)
    (hf : ∀ a, Level m (f a)) : Level m (x >>= f) := Triple.bind hx hf

theorem Level.pure {α : Type} (a : α) : Level m (Pure.pure a : Act α) :=
  Triple.pure fun _ hs => hs

theorem Level.when {c : Prop} [Decidable c] {x : Act Unit} (hx : Level m x) :
    Level m (when c x) := Triple.when (fun _ => hx) fun _ _ hs => hs

theorem Level.ite {c : Prop} [Decidable c] {x y : Act Unit} (hx : Level m x) (hy : Level m y) :
    Level m (if c then x else y) := Triple.ite (fun _ => hx) fun _ => hy

theorem Level.read_bind {β : Type} {f : TermTracer → Act β} (hf : ∀ s, Level m (f s)) :
    Level m (read >>= f) := fun s hs => hf s s hs

theorem Level.update {f : TermTracer → TermTracer} (h : ∀ s, (f s).numTracees = s.numTracees) :
    Level m (update f) := Triple.update fun s hs => (h s).trans hs

theorem level_print (out : Output) : Level m (print out) := Level.update fun _ => rfl

/-- lines leave the counter alone -/
theorem lining_count : Lining fun s t => t.numTracees = s.numTracees where
  walk := ⟨fun _ => rfl, fun h h' => h'.trans h, fun _ _ => trivial⟩
  printed _ _ _ := rfl
  store _ := rfl
  same _ _ _ hn := hn

theorem Level.of_leads {α : Type} {x : Act α}
    (h : Leads (fun s t => t.numTracees = s.numTracees) x) : Level m x := by
  apply Triple.of_returns
  intro s hs
  obtain ⟨a, t, ht, hn⟩ := h s
  exact ⟨a, t, ht, hn.trans hs⟩

theorem level_startNewLine (pid : ProcessID) : Level m (startNewLine cfg pid) :=
  .of_leads (lining_count.startNewLine cfg pid)

theorem level_line (pid : ProcessID) (n : Note) : Level m (line cfg pid n) :=
  .of_leads (lining_count.line cfg pid n)

/-- there is a call to resume -/
theorem level_checkResumedSyscall (pid : ProcessID) :
    Triple (fun s => s.numTracees = m ∧ s.currentSyscall pid ≠ none) (checkResumedSyscall cfg pid)
      (fun _ s => s.numTracees = m) fun _ _ => False := by
  apply Triple.read_bind
  intro s
  by_cases hact : s.hasActiveSyscall pid
  · rw [if_pos hact]
    exact Triple.pure fun t ht => ht.2.1
  · rw [if_neg hact]
    cases hunf : s.unfinishedSyscalls.find? pid with
    | none =>
      rintro t ⟨rfl, -, hcur⟩
      rw [currentSyscall_unfinished hact] at hcur
      exact absurd hunf hcur
    | some sc =>
      apply Triple.bind (Q := fun _ t => t.numTracees = m)
      · exact Triple.update fun t ht => ht.2.1
      intro _
      exact Level.bind (level_startNewLine pid) fun _ => level_print _

theorem level_abortSyscall (pid : ProcessID) : Level m (abortSyscall cfg pid) := by
  intro s hs
  have hsame : ∀ t, t = s → t.numTracees = m := by
    rintro t rfl
    exact hs
  have hlast : Level m (when (isEnabled cfg (s.currentSyscall pid)) (print (.aborted pid))) :=
    Level.when (level_print _)
  have hrest : Triple (fun t => t = s) (do
      if s.hasActiveSyscall pid then update fun s => { s with activeSyscall := none }
      else when (isEnabled cfg (s.currentSyscall pid)) (checkResumedSyscall cfg pid)
      when (isEnabled cfg (s.currentSyscall pid)) (print (.aborted pid)))
      (fun _ t => t.numTracees = m) fun _ _ => False := by
    apply Triple.ite
    · intro _
      apply Triple.bind (Q := fun _ t => t.numTracees = m)
      · exact Triple.update hsame
      · exact fun _ => hlast
    · intro _
      apply Triple.bind (Q := fun _ t => t.numTracees = m)
      · apply Triple.when
        · intro hen
          apply (level_checkResumedSyscall pid).weaken _ (fun _ _ h => h) fun _ _ h => h
          rintro t rfl
          refine ⟨hs, fun hnone => ?_⟩
          rw [hnone] at hen
          cases hen
        · exact fun _ => hsame
      · exact fun _ => hlast
  exact hrest s rfl

/-- what a callback does to the counter -/
def TermTracer.Consumer.count : Consumer → UInt64 → UInt64
  | .attached _, m => m + 1
  | .exited _ _ _, m | .disappeared _ _, m => m - 1
  | _, m => m

theorem finish_count (t : TraceeView) (status : WaitStatus) :
    Triple (fun s => s.numTracees = m) (finish t status) (fun _ s => s.numTracees = m - 1)
      fun _ _ => False := by
  apply Triple.bind (Q := fun _ s => s.numTracees = m)
  · apply Triple.update
    intro s hs
    by_cases h : t.pid = s.mainTraceePid
    · rw [if_pos h]
      exact hs
    · rw [if_neg h]
      exact hs
  intro _
  apply Triple.bind (Q := fun _ s => s.numTracees = m)
  · apply Triple.update
    intro s hs
    by_cases h : s.hasActiveSyscall t.pid
    · rw [if_pos h]
      exact hs
    · rw [if_neg h]
      exact hs
  intro _
  apply Triple.update
  intro s hs
  show s.numTracees - 1 = m - 1
  rw [hs]

theorem exited_count (t : TraceeView) (status : WaitStatus) (flags : StatusFlags) :
    Triple (fun s => s.numTracees = m) (exited cfg t status flags)
      (fun _ s => s.numTracees = m - 1) fun _ _ => False := by
  apply Triple.bind (Level.when (level_abortSyscall t.pid))
  intro _
  apply Triple.bind (Level.when (level_line t.pid _))
  intro _
  cases status with
  | exited n =>
    apply Triple.bind (level_line t.pid _)
    intro _ s
    exact Triple.bind (Level.when (level_line t.pid _)) (fun _ => finish_count t _) s
  | signaled signal => exact Triple.bind (level_line t.pid _) fun _ => finish_count t _

theorem disappeared_count (t : TraceeView) (status : WaitStatus) :
    Triple (fun s => s.numTracees = m) (disappeared cfg t status)
      (fun _ s => s.numTracees = m - 1) fun _ _ => False := by
  apply Triple.bind (level_abortSyscall t.pid)
  intro _
  apply Triple.bind (level_line t.pid _)
  intro _
  cases status with
  | exited n => exact Triple.bind (level_line t.pid _) fun _ => finish_count t _
  | signaled signal => exact Triple.bind (level_line t.pid _) fun _ => finish_count t _

theorem attached_count (t : TraceeView) :
    Triple (fun s => s.numTracees = m) (attached cfg t)
      (fun _ s => s.numTracees = m + 1) fun _ _ => False := by
  apply Triple.read_bind
  intro s
  apply Triple.bind (Q := fun _ t => t.numTracees = m + 1)
  · apply Triple.update
    rintro t ⟨-, ht⟩
    show t.numTracees + 1 = m + 1
    rw [ht]
  intro _
  apply Level.ite (Level.pure ())
  apply Level.ite (level_line t.pid _)
  cases s.newTracees.find? t.pid with
  | none => exact level_line t.pid _
  | some e =>
    apply Level.bind (level_line t.pid _)
    exact fun _ => Level.update fun _ => rfl

theorem level_syscallEntry (t : TraceeView) (sc : Sys) (abi : ABI) (flags : StatusFlags) :
    Level m (syscallEntry cfg t sc abi flags) := by
  apply Level.ite (Level.pure ())
  apply Level.bind (.of_leads (lining_count.checkABI cfg t.pid abi))
  intro _
  apply Level.bind
  · exact Level.update fun _ => rfl
  intro _
  apply Level.bind (level_startNewLine t.pid)
  intro _
  apply Level.bind (Level.when (level_print _))
  intro _
  apply Level.bind (level_print _)
  exact fun _ => Level.update fun _ => rfl

/-- the exit of a call that is not found leaves the counter alone, too -/
theorem syscallExit_count (t : TraceeView) (sc : Sys) (hasResult : Bool) (s : TermTracer) :
    (syscallExit cfg t sc hasResult s).2.numTracees = s.numTracees := by
  unfold syscallExit
  by_cases hexec : isExecSyscall sc && hasResult
  · rw [if_pos hexec]
    rfl
  rw [if_neg hexec]
  by_cases hen : isEnabled cfg (some sc)
  · rw [if_neg (by simp [hen])]
    by_cases hcur : s.currentSyscall t.pid = none
    · rw [run_bind_error (checkResumedSyscall_absent hcur)]
    · have hrest : Triple (fun u => u.numTracees = s.numTracees ∧ u.currentSyscall t.pid ≠ none) (do
          checkResumedSyscall cfg t.pid
          let s ← read
          when (s.activeSyscall.isSome && !s.hasActiveSyscall t.pid) (startNewLine cfg t.pid)
          print (.exit t.pid sc)
          update fun s => { s with activeSyscall := none })
          (fun _ u => u.numTracees = s.numTracees) fun _ _ => False := by
        apply Triple.bind (level_checkResumedSyscall t.pid)
        intro _
        apply Level.read_bind
        intro u
        apply Level.bind (Level.when (level_startNewLine t.pid))
        intro _
        apply Level.bind (level_print _)
        exact fun _ => Level.update fun _ => rfl
      obtain ⟨_, u, hu, hcount⟩ := hrest.returns ⟨rfl, hcur⟩
      rw [hu]
      exact hcount
  · rw [if_pos (by simp [hen])]
    rfl

theorem level_anticipateSuccess (pid : ProcessID) : Level m (anticipateSuccess cfg pid) := by
  intro s hs
  have hrest : Triple (fun t => t = s) (do
      when (isEnabled cfg (s.currentSyscall pid)) do
        checkResumedSyscall cfg pid
        print (.success pid)
      update fun s => { s with activeSyscall := none })
      (fun _ t => t.numTracees = m) fun _ _ => False := by
    apply Triple.bind (Q := fun _ t => t.numTracees = m)
    · apply Triple.when
      · intro hen
        apply Triple.bind (Q := fun _ t => t.numTracees = m)
        · apply (level_checkResumedSyscall pid).weaken _ (fun _ _ h => h) fun _ _ h => h
          rintro t rfl
          refine ⟨hs, fun hnone => ?_⟩
          rw [hnone] at hen
          cases hen
        · exact fun _ => level_print _
      · rintro - t rfl
        exact hs
    · intro _
      exact Level.update fun _ => rfl
  exact hrest s rfl

theorem level_announceContext (t : TraceeView) (answer : Bool) :
    Level m (announceContext cfg t answer) := .of_leads (lining_count.announceContext cfg t answer)

theorem level_newExecutionContext (t : TraceeView) (oldPid : Option ProcessID) (answer : Bool) :
    Level m (newExecutionContext cfg t oldPid answer) := by
  cases oldPid with
  | none => exact Level.bind (level_anticipateSuccess t.pid) fun _ => level_announceContext t answer
  | some old =>
    apply Level.bind
    · apply Level.bind
      · apply Level.update
        intro s
        by_cases h : s.hasActiveSyscall old
        · rw [if_pos h]
        · rw [if_neg h]
          cases s.unfinishedSyscalls.find? old <;> rfl
      · exact fun _ => Level.update fun _ => rfl
    intro _
    apply Level.bind (level_anticipateSuccess t.pid)
    intro _
    apply Level.bind (level_line t.pid _)
    exact fun _ => level_announceContext t answer

end

theorem numTracees_handle (c : Consumer) (s : TermTracer) :
    (handle cfg c s).2.numTracees = c.count s.numTracees := by
  have hcount : ∀ {x : Act Unit} {m : UInt64}, Triple (fun t => t.numTracees = s.numTracees) x
      (fun _ t => t.numTracees = m) (fun _ _ => False) → (x s).2.numTracees = m := by
    intro x m hx
    obtain ⟨_, u, hu, h⟩ := hx.returns rfl
    rw [hu]
    exact h
  cases c with
  | syscallEntry t sc abi flags => exact hcount (level_syscallEntry t sc abi flags)
  | syscallExit t sc hasResult => exact syscallExit_count t sc hasResult s
  | signaled t signal => exact hcount (level_line t.pid _)
  | attached t => exact hcount (attached_count t)
  | stopped t => exact hcount (Level.when (level_line t.pid _))
  | exited t status flags => exact hcount (exited_count t status flags)
  | disappeared t status => exact hcount (disappeared_count t status)
  | newExecutionContext t old answer => exact hcount (level_newExecutionContext t _ answer)
  | newChildProcess parent child event flags answer =>
    exact hcount
      (Level.of_leads (lining_count.newChildProcess cfg parent child event flags answer))

/-! ## the counter and the counted tracees -/

/-- what an entry of the log does to the counter -/
def Entry.count : Entry → UInt64 → UInt64
  | .callback (.attached _), m => m + 1
  | .callback (.exited _ _ _), m | .callback (.disappeared _ _), m => m - 1
  | _, m => m

theorem numTracees_drive (p : Log) (s : TermTracer) (e : Entry) :
    (drive cfg v p s e).numTracees = e.count s.numTracees := by
  cases e with
  | callback c =>
    cases c with
    | resumed => rfl
    | vforkComplete => rfl
    | _ => exact numTracees_handle cfg _ s
  | _ => rfl

theorem ofNat_pred {n : Nat} (h : 0 < n) : UInt64.ofNat (n - 1) = UInt64.ofNat n - 1 := by
  obtain ⟨k, rfl⟩ := Nat.exists_eq_succ_of_ne_zero h.ne'
  show UInt64.ofNat k = UInt64.ofNat (k + 1) - 1
  rw [UInt64.ofNat_add]
  exact (UInt64.add_sub_cancel _ _).symm

/-- only tracees that were reported attached are counted -/
theorem attached_of_counted {log : Log} (h : Always Accounts log) :
    ∀ id ∈ counted log, .callback (.attached id) ∈ log := by
  apply h.replay (I := fun p (c : Finset TraceeId) => ∀ id ∈ c, .callback (.attached id) ∈ p)
  · intro id hid
    cases hid
  · intro p e he hp id hid
    have hold : id ∈ counted p → .callback (.attached id) ∈ p ++ [e] := fun h =>
      List.mem_append_left _ (hp id h)
    cases e with
    | callback c =>
      cases c with
      | attached i =>
        rcases Finset.mem_insert.mp hid with rfl | hid
        · exact List.mem_append_right _ (List.mem_singleton.mpr rfl)
        · exact hold hid
      | exited i _ _ => exact hold (Finset.mem_of_mem_erase hid)
      | disappeared i _ => exact hold (Finset.mem_of_mem_erase hid)
      | _ => exact hold hid
    | detached i => exact hold (Finset.mem_of_mem_erase hid)
    | execed i former old =>
      cases old with
      | none => exact hold hid
      | some old =>
        have hid' : id ∈ if old ∈ counted p then insert i ((counted p).erase old)
            else counted p := hid
        by_cases hmem : old ∈ counted p
        · rw [if_pos hmem] at hid'
          rcases Finset.mem_insert.mp hid' with rfl | hid'
          · exact List.mem_append_left _ (he hmem).1
          · exact hold (Finset.mem_of_mem_erase hid')
        · rw [if_neg hmem] at hid'
          exact hold hid'
    | _ => exact hold hid

/-- an entry that is accounted for changes the counter and the tracees to count alike -/
theorem card_countStep {p : Log} {e : Entry} (he : Accounts p e)
    (hreported : ∀ id ∈ counted p, .callback (.attached id) ∈ p)
    (honce : ∀ id, e = .callback (.attached id) → e ∉ p) :
    UInt64.ofNat (countStep (counted p) e).card = e.count (UInt64.ofNat (counted p).card) := by
  have hend : ∀ id, id ∈ counted p → UInt64.ofNat ((counted p).erase id).card
      = UInt64.ofNat (counted p).card - 1 := by
    intro id hid
    rw [Finset.card_erase_of_mem hid]
    exact ofNat_pred (Finset.card_pos.mpr ⟨id, hid⟩)
  cases e with
  | callback c =>
    cases c with
    | attached id =>
      have hnew : id ∉ counted p := fun hid => honce id rfl (hreported id hid)
      show UInt64.ofNat (insert id (counted p)).card = _
      rw [Finset.card_insert_of_notMem hnew]
      exact UInt64.ofNat_add _ _
    | exited id _ _ => exact hend id he
    | disappeared id _ => exact hend id he
    | _ => rfl
  | detached id =>
    show UInt64.ofNat ((counted p).erase id).card = _
    rw [Finset.erase_eq_of_notMem he]
    rfl
  | execed id former old =>
    cases old with
    | none => rfl
    | some old =>
      show UInt64.ofNat (if old ∈ counted p then insert id ((counted p).erase old)
        else counted p).card = UInt64.ofNat (counted p).card
      by_cases hmem : old ∈ counted p
      · have hid : id ∉ (counted p).erase old := fun h => (he hmem).2 (Finset.mem_of_mem_erase h)
        have hpos : 0 < (counted p).card := Finset.card_pos.mpr ⟨old, hmem⟩
        rw [if_pos hmem, Finset.card_insert_of_notMem hid, Finset.card_erase_of_mem hmem,
          Nat.sub_add_cancel hpos]
      · rw [if_neg hmem]
  | _ => rfl

theorem driven_snoc (log : Log) (e : Entry) :
    driven cfg v main (log ++ [e]) = drive cfg v log (driven cfg v main log) e := trail_snoc log e

theorem counted_snoc (log : Log) (e : Entry) :
    counted (log ++ [e]) = countStep (counted log) e := replay_snoc log e

theorem numTracees_driven {log : Log} (hc : Always Accounts log)
    (honce : Always (fun p e => ∀ id, e = .callback (.attached id) → e ∉ p) log) :
    (driven cfg v main log).numTracees = UInt64.ofNat (counted log).card := by
  induction log using List.reverseRecOn with
  | nil => rfl
  | append_singleton log e ih =>
    obtain ⟨hc, he⟩ := always_snoc_iff.mp hc
    have honce' := always_snoc_iff.mp honce
    rw [driven_snoc, numTracees_drive, ih hc honce'.1, counted_snoc]
    exact (card_countStep he (attached_of_counted hc) honce'.2).symm

variable {SC : Type} [SyscallOps SC] {env : Env}

/-- whatever the consumer and the client do, the counter is right in every run whose entries are
accounted for -/
theorem countsTracees_of_accounts {w : World SC} (hw : Reachable env w)
    (hc : Always Accounts w.log) : CountsTracees cfg v main w.log := by
  have honce := (attachedOnce_reachable hw).once
  constructor
  · intro p hp
    exact numTracees_driven cfg v main (hc.mono hp) (honce.mono hp)
  · intro p e hpe hend
    have he : Accounts p e := hc p e hpe
    have hmem : ∀ id, id ∈ counted p → 0 < (counted p).card := fun id h =>
      Finset.card_pos.mpr ⟨id, h⟩
    cases e with
    | callback c =>
      cases c with
      | exited id _ _ => exact hmem id he
      | disappeared id _ => exact hmem id he
      | _ => exact absurd rfl hend
    | _ => exact absurd rfl hend

instance (p : Log) : (e : Entry) → Decidable (Accounts p e)
  | .callback (.exited id _ _) | .callback (.disappeared id _) =>
      inferInstanceAs (Decidable (id ∈ counted p))
  | .detached id => inferInstanceAs (Decidable (id ∉ counted p))
  | .execed id _ (some old) => inferInstanceAs
      (Decidable (old ∈ counted p → .callback (.attached id) ∈ p ∧ id ∉ counted p))
  | .callback (.attached _) | .callback (.syscallEntry _ _ _) | .callback (.syscallExit _ _ _)
  | .callback (.signaled _ _) | .callback (.stopped _) | .callback (.resumed _)
  | .callback (.newExecutionContext _ _ _ _) | .callback (.newChildProcess _ _ _ _)
  | .callback (.vforkComplete _ _) | .execed _ _ none | .wait _ | .deliver _ _ | .request _ _ _
  | .inquiry _ _ | .syscallEntered _ _ | .syscallExited _ | .letGo _ | .returned | .tracked _ _
  | .untracked _ _ | .rekeyed _ _ | .destroyed _ => inferInstanceAs (Decidable True)

/-! ### a process that is followed, and one that is not -/

def unfollowed : Config := { followExec := .no }

def followed : Config := {}

/-- every tracee has the PID of the only process -/
def onlyViews : Views where
  tracee _ _ := { pid := 100 }
  call _ _ := ⟨0, .unknown⟩
  abi _ _ := .x86_64
  hasResult _ _ := true
  answer _ := true

def unfollowedEnv : Env := ({} : Env).driving unfollowed onlyViews 100

/-- the process executes two programs -/
def twoPrograms : List Op :=
  [.addForeign 100 false false ProcessID.invalid false,
    .event ⟨100, .trapped (.event Signal.trap .stop)⟩,
    .event ⟨100, .trapped (.event Signal.trap .exec)⟩,
    .event ⟨100, .trapped (.event Signal.trap .exec)⟩]

theorem countsTracees_followed :
    CountsTracees followed onlyViews 100 (runOps (({} : Env).driving followed onlyViews 100)
      twoPrograms ({} : World Empty)).log :=
  countsTracees_of_accounts followed onlyViews 100
    ((Reaches.start false).run twoPrograms (by decide +kernel)) (by decide +kernel)

def unfollowedWorld : World Empty := runOps unfollowedEnv twoPrograms {}

theorem unfollowedWorld_reachable : Reachable unfollowedEnv unfollowedWorld :=
  (Reaches.start false).run twoPrograms (by decide +kernel)

theorem countsTracees_fails : ¬ ∀ (env : Env) (cfg : Config) (v : Views) (main : ProcessID)
    (w : World Empty), Reachable (env.driving cfg v main) w → CountsTracees cfg v main w.log := by
  intro h
  have hcount := (h {} unfollowed onlyViews 100 _ unfollowedWorld_reachable).1
    unfollowedWorld.log List.prefix_rfl
  have hne : (driven unfollowed onlyViews 100 unfollowedWorld.log).numTracees
      ≠ UInt64.ofNat (counted unfollowedWorld.log).card := by decide +kernel
  exact hne hcount

end Clues
