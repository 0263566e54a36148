import Clues.Engine.Identity
import Clues.Engine.Resumes
import Clues.Syscalls.Creating

/-!
# The pidfd of a tracee

The pidfd is opened when it is first needed, and stays open.

* `openPidFD`      the task that a descriptor is duplicated from;
* `Snatching I`    items whose processing may duplicate descriptors of the tracee;
* `PidFdsFit`      the pidfd of a tracee was opened for the task of the tracee;
* `PidFdClosed`    no pidfd is open where a tracee gets another PID;
* `pidFdsFit_of_closed`   runs that meet this keep all pidfds in order.
-/

set_option linter.unusedSectionVars false

namespace Clues

open Lib Lib.Exec Step

/-! ## snatching descriptors -/

/-- `Tracee::openPidFD()`: the task that the pidfd refers to from then on -/
def openPidFD (pid : ProcessID) (pidfd : Option ProcessID) : ProcessID := pidfd.getD pid

/-- the items of system calls that may call `snatchFD()`, which `update` is passed -/
class SnatchItems (I : Type) where
  create : DecodeEnv → SystemCallInfo → Except Exc I
  fill : DecodeEnv → ABI → EntryInfo → I → Except Exc Unit × I
  /-- the last result says whether `openPidFD()` was called and has returned -/
  update : (FileNum → Except Errno (Option Int × Option Int)) → DecodeEnv → ABI → ExitInfo → I →
    FDInfoMap → Except Exc Unit × I × FDInfoMap × Bool
  sharesFiles : I → Except Exc Bool
  clonedThread : I → Except Exc Bool

structure Snatching (I : Type) where
  items : I

section
variable {I : Type} [SnatchItems I]

instance : CallItems (Snatching I) where
  create de info := (SnatchItems.create de info).map Snatching.mk
  fill de abi e items :=
    let r := SnatchItems.fill de abi e items.items
    (r.1, ⟨r.2⟩)
  update de abi x items ps :=
    let task := openPidFD de.pid ps.pidfd
    let r := SnatchItems.update (de.snatchSocket task) de abi x items.items ps.fdInfoMap
    (r.1, ⟨r.2.1⟩,
      { fdInfoMap := r.2.2.1, pidfd := if r.2.2.2 then some task else ps.pidfd })
  sharesFiles items := SnatchItems.sharesFiles items.items
  clonedThread items := SnatchItems.clonedThread items.items

end

/-- `AcceptSystemCall`; the flags are those of `accept4()` -/
inductive AcceptItems where
  | accept (withFlags : Bool) (sockfd : FileNum) (flags : Word)
  | other

instance : SnatchItems AcceptItems where
  create _ info :=
    match info.sysNr with
    | .accept => .ok (.accept false FileNum.invalid 0)
    | .accept4 => .ok (.accept true FileNum.invalid 0)
    | _ => .ok .other
  fill _ _ e
    | .accept withFlags _ _ =>
      (.ok (), .accept withFlags (FileNum.ofWord (e.args 0)) (if withFlags then e.args 3 else 0))
    | .other => (.ok (), .other)
  update snatchFD _ _ x items map :=
    match items, x with
    | .accept withFlags sockfd flags, .retVal ret =>
      let r := AcceptSystemCall.updateFDTracking snatchFD sockfd (FileNum.ofWord ret) flags map
      (r.1, .accept withFlags sockfd flags, r.2, AcceptSystemCall.snatches sockfd map)
    | items, _ => (.ok (), items, map, false)
  sharesFiles _ := .ok false
  clonedThread _ := .ok false

/-! ## the task of the pidfd -/

/-- the pidfd of a tracee that is alive refers to the task of the tracee -/
def FdFits (_ : ProcId) (t : Tracee) : Prop :=
  t.alive = true → ∀ task, t.pidfd = some task → task = t.ptrace

instance : Identity FdFits where
  mono _ h := h
  same := by
    intro _ t t' hs h halive task hfd
    rcases hs.ptrace with hp | hp
    · have ht : t.alive = true := by
        unfold Tracee.alive Tracee.pid at halive ⊢
        rwa [hp] at halive
      rw [hp]
      exact h ht task (hs.pidfd ▸ hfd)
    · unfold Tracee.alive Tracee.pid at halive
      rw [hp] at halive
      exact absurd rfl (of_decide_eq_true halive)
  alone _ _ _ _ h := nomatch h
  shared _ _ _ _ h := nomatch h
  unshared h := h
  named := by
    intro _ t pid hfd _ _ task hopen
    have hnone : some task = none := hopen.symm.trans hfd
    cases hnone

section
variable {I : Type} [SnatchItems I]

instance : Opening (SystemCall (Snatching I)) FdFits where
  opens := by
    intro _ t de info sc ps hpid hfd h halive task hopen
    have hold : t.alive = true := halive
    show task = t.ptrace
    have hkeep : ps.pidfd = some task → task = t.ptrace := fun hps => h hold task (hfd ▸ hps)
    have hopen' : (SystemCall.setExitInfo de info sc ps).2.2.pidfd = some task := hopen
    unfold SystemCall.setExitInfo at hopen'
    cases hs : info.stop with
    | exit x =>
      rw [hs] at hopen'
      change (if (SnatchItems.update (de.snatchSocket (openPidFD de.pid ps.pidfd)) de sc.abi x
        sc.items.items ps.fdInfoMap).2.2.2 = true then some (openPidFD de.pid ps.pidfd)
          else ps.pidfd) = some task at hopen'
      split_ifs at hopen'
      · rw [← Option.some.inj hopen']
        unfold openPidFD
        cases hp : ps.pidfd with
        | none => exact hpid
        | some task' => exact h hold task' (hfd ▸ hp)
      · exact hkeep hopen'
    | _ =>
      rw [hs] at hopen'
      exact hkeep hopen'

/-- in a tracee that is alive the pidfd, if it is open, refers to the task of the tracee, and this
is the task that descriptors are duplicated from -/
structure PidFdsFit {SC : Type} (w : World SC) : Prop where
  opened : ∀ id, id < w.nextObj → (w.objs id).alive = true →
    ∀ task, (w.objs id).pidfd = some task → task = (w.objs id).ptrace
  snatched : ∀ id, id < w.nextObj → (w.objs id).alive = true →
    openPidFD (w.objs id).ptrace (w.objs id).pidfd = (w.objs id).ptrace

theorem Identified.pidFdsFit {SC : Type} {m : TraceeId} {w : World SC}
    (h : Identified FdFits m w) : PidFdsFit w := by
  refine ⟨h.each, fun id hid halive => ?_⟩
  unfold openPidFD
  cases hp : (w.objs id).pidfd with
  | none => rfl
  | some task => exact h.each id hid halive task hp

/-- the pidfd of the tracee is not open, or it was opened for the PID -/
def Tracee.ClosedFor (t : Tracee) (pid : ProcessID) : Prop :=
  ∀ task, t.pidfd = some task → task = pid

/-- a tracee that gets another PID has no pidfd that refers to its former task -/
def PidFdClosed {SC : Type} [SyscallOps SC] (env : Env) : StepCond SC := fun w op =>
  match op with
  | .event data => ∀ id v, Receives env data w id v → TakesPid env v id data →
      (v.objs id).ClosedFor data.pid
  | _ => True

/-- in runs in which tracees only get another PID while their pidfds are closed, all pidfds refer to
the tasks of their tracees -/
theorem pidFdsFit_of_closed {env : Env} {w : World (SystemCall (Snatching I))}
    (hw : Reaches env (PidFdClosed env) w) : PidFdsFit w := by
  have h : Identified FdFits 0 w := by
    apply identified_reaches hw
    intro w op _ hop
    cases op with
    | event data =>
      intro id v hr ht _ _
      exact hop id v hr ht
    | _ => exact trivial
  exact h.pidFdsFit

end

/-! ### a thread of a process whose leader is not traced -/

instance (t : Tracee) (pid : ProcessID) : Decidable (t.ClosedFor pid) :=
  match hp : t.pidfd with
  | none => .isTrue fun _ h => nomatch hp.symm.trans h
  | some task => decidable_of_iff (task = pid)
      ⟨fun h _ h' => Option.some.inj (hp.symm.trans h') ▸ h, fun h => h task hp⟩

section
variable {SC : Type} [SyscallOps SC] {env : Env} {w : World SC}

instance (id : TraceeId) (data : ChildState) : Decidable (TakesPid env w id data) :=
  decidable_of_iff (data.isExec = true ∧ (w.objs id).flags.detachAtNextStop = false ∧
      env.request (w.log ++ [.deliver id data]) (.getPIDEventMsg data.pid) = none ∧
      env.pidEventMsg (w.log ++ [.deliver id data]) data.pid ≠ data.pid ∧
      w.tracees.find? (env.pidEventMsg (w.log ++ [.deliver id data]) data.pid) = none)
    ⟨fun ⟨h1, h2, h3, h4, h5⟩ => ⟨h1, h2, h3, h4, h5⟩, fun ⟨h1, h2, h3, h4, h5⟩ => ⟨h1, h2, h3, h4, h5⟩⟩

/-- the tracee that receives the event, and the state in which it does -/
def World.receiver (env : Env) (w : World SC) (data : ChildState) :
    Option (TraceeId × World SC) :=
  let v := w.say (.wait data)
  match w.tracees.find? data.pid with
  | some e => e.map fun id => (id, v)
  | none =>
    let former := env.pidEventMsg v.log data.pid
    if data.isExec = true ∧ env.request v.log (.getPIDEventMsg data.pid) = none then
      (w.tracees.find? former).join.map fun id => (id, v.rekeyed former data.pid (some id))
    else none

theorem receives_iff {data : ChildState} {id : TraceeId} {v : World SC} :
    Receives env data w id v ↔ w.receiver env data = some (id, v) := by
  unfold World.receiver
  constructor
  · intro h
    cases h with
    | known hk => rw [hk]; rfl
    | taken hx hk hq hf =>
      rw [hk]
      simp only [hx, hq, hf, and_self, if_true]
      rfl
  · intro h
    cases hk : w.tracees.find? data.pid with
    | some e =>
      rw [hk] at h
      cases e with
      | none => cases h
      | some i =>
        cases h
        exact .known hk
    | none =>
      rw [hk] at h
      dsimp only at h
      split_ifs at h with hc
      cases hf : w.tracees.find? (env.pidEventMsg (w.say (.wait data)).log data.pid) with
      | none =>
        rw [hf] at h
        cases h
      | some e =>
        rw [hf] at h
        cases e with
        | none => cases h
        | some i =>
          cases h
          exact .taken hc.1 hk hc.2 hf

instance (op : Op) : Decidable (PidFdClosed env w op) :=
  match op with
  | .event data =>
    match hr : w.receiver env data with
    | none => .isTrue fun id v h => nomatch hr.symm.trans (receives_iff.mp h)
    | some (id, v) => decidable_of_iff (TakesPid env v id data → (v.objs id).ClosedFor data.pid)
        ⟨fun h id' v' h' => by
          obtain ⟨rfl, rfl⟩ := Prod.mk.inj (Option.some.inj (hr.symm.trans (receives_iff.mp h')))
          exact h, fun h => h id v (receives_iff.mpr hr)⟩
  | .addForeign .. => .isTrue trivial
  | .addChild .. => .isTrue trivial
  | .call _ => .isTrue trivial
  | .noChildren => .isTrue trivial

end

/-- a task accepts a connection on a socket that was not seen before, and calls `execve()` -/
def acceptEnv (task : ProcessID) : Env :=
  { scriptEnv [entryStop 43, .exit (.retVal 5), entryStop 59] with
    toGeneric := fun _ nr => if nr = 43 then .accept else .execve
    pidEventMsg := fun _ _ => task }

/-- the new execution context of the process 100 -/
def acceptRun (task : ProcessID) : List Op :=
  [.addForeign task false false ProcessID.invalid false,
    .event ⟨task, .trapped (.event Signal.trap .stop)⟩,
    .event ⟨task, .trapped .sysTrap⟩,
    .event ⟨task, .trapped .sysTrap⟩,
    .event ⟨task, .trapped .sysTrap⟩,
    .event ⟨100, .trapped (.event Signal.trap .exec)⟩]

def acceptWorld (task : ProcessID) : World (SystemCall (Snatching AcceptItems)) :=
  runOps (acceptEnv task) (acceptRun task) {}

theorem accept_reaches :
    Reaches (acceptEnv 100) (PidFdClosed (acceptEnv 100)) (acceptWorld 100) :=
  (Reaches.start false).run (acceptRun 100) (by decide +kernel)

theorem pidFdsFit_leader : PidFdsFit (acceptWorld 100) := pidFdsFit_of_closed accept_reaches

theorem pidFdsFit_fails : ¬ ∀ (env : Env) (w : World (SystemCall (Snatching AcceptItems))),
    Reachable env w → PidFdsFit w := by
  intro h
  have hreach : Reachable (acceptEnv 101) (acceptWorld 101) :=
    (Reaches.start false).run (acceptRun 101) (by decide +kernel)
  have hfit := (h _ _ hreach).opened 0 (by decide +kernel) (by decide +kernel) 101 (by decide +kernel)
  revert hfit
  decide +kernel

end Clues
