import Clues.Engine.Besides
import Clues.Lib.History

/-!
# What the kernel does with the threads

The tracer sees the system call stops of a thread, but not its signal handlers.

* `Unseen`     what a thread does between two of these stops;
* `Thread`     the system calls of a thread that the kernel interrupted, and the handlers that run;
* `truth env life log`   the threads after the log, where `life` tells what they do unseen;
* `stage log`  whether the tracer has finished with the last stop of a tracee;
* `OneByOne`   no stop is reported before that.
-/

namespace Clues

open Lib Lib.Exec Lib.History Step

/-! ## interruptions -/

/-- what a thread does between two system call stops -/
inductive Unseen where
  /-- a signal handler is invoked -/
  | invoke
  /-- so many handlers end without `sigreturn()`, since the innermost one jumps away -/
  | jump (handlers : Nat)
  deriving DecidableEq, Repr

/-- a system call that the kernel aborted because of a signal -/
structure Interruption where
  /-- its number, unless it was entered by `restart_syscall()` -/
  nr : Option SystemCallNr
  /-- the length of the log when it was aborted -/
  since : Nat
  deriving DecidableEq, Repr

structure Thread where
  /-- the number of the system call it is in, unless that is `restart_syscall()` -/
  call : Option SystemCallNr := none
  /-- the system call that is restarted when the thread goes on -/
  pending : Option Interruption := none
  /-- a handler has returned to it -/
  returned : Bool := false
  /-- what the handlers that run have interrupted, the innermost one first -/
  handlers : List (Option Interruption) := []
  /-- the length of the log at the last entry -/
  entered : Nat := 0
  /-- the calls that were interrupted and neither resumed nor given up, at the last entry -/
  before : List Interruption := []
  /-- the call that the last entry resumes -/
  resumes : Option Interruption := none
  /-- the last entry resumes a call that was running when tracing began -/
  inherited : Bool := false
  /-- an entry was reported -/
  begun : Bool := false
  deriving DecidableEq, Repr

namespace Thread

/-- the calls that the running handlers have interrupted -/
def underway (t : Thread) : List Interruption := t.handlers.reduceOption

/-- the calls that were interrupted and neither resumed nor given up -/
def outstanding (t : Thread) : List Interruption := t.pending.toList ++ t.underway

def unseen (t : Thread) : Unseen → Thread
  | .invoke => { t with pending := none, returned := false, handlers := t.pending :: t.handlers }
  | .jump n => { t with pending := none, returned := false, handlers := t.handlers.drop n }

def lives (t : Thread) (us : List Unseen) : Thread := us.foldl Thread.unseen t

/-- a system call is entered: it is the pending one, or the thread went on elsewhere -/
def enter (t : Thread) (pos : Nat) (nr : SystemCallNr) : Thread :=
  { t with
    call := if nr = .restartSyscall then none else some nr
    pending := none
    returned := false
    entered := pos
    before := t.outstanding
    resumes := t.pending.filter fun i => nr = .restartSyscall || i.nr = some nr
    inherited := nr = .restartSyscall && !t.begun
    begun := true }

/-- a system call ends: it is aborted, or a handler ends, which may give up what it interrupted -/
def exit (t : Thread) (pos : Nat) (x : ExitInfo) : Thread :=
  if x.interrupted then { t with call := none, pending := some ⟨t.call, pos⟩, returned := false }
  else if t.call.any isSigreturn then
    { t with
      call := none
      pending := if x.isEINTR then none else t.handlers.head?.join
      returned := true
      handlers := t.handlers.tail }
  else { t with call := none }

/-- `execve()` gives up everything that was interrupted -/
def exec (t : Thread) : Thread := { t with pending := none, returned := false, handlers := [] }

/-- `A` is met whenever the thread does something unseen -/
def Always (A : Thread → Unseen → Prop) : Thread → List Unseen → Prop
  | _, [] => True
  | t, u :: us => A t u ∧ Always A (t.unseen u) us

def decideAlways (A : Thread → Unseen → Prop) [∀ t u, Decidable (A t u)] :
    (t : Thread) → (us : List Unseen) → Decidable (t.Always A us)
  | _, [] => inferInstanceAs (Decidable True)
  | t, u :: us =>
    have : Decidable (Always A (t.unseen u) us) := decideAlways A _ us
    inferInstanceAs (Decidable (_ ∧ _))

instance {A : Thread → Unseen → Prop} [∀ t u, Decidable (A t u)] (t : Thread) (us : List Unseen) :
    Decidable (t.Always A us) := decideAlways A t us

theorem lives_cons (t : Thread) (u : Unseen) (us : List Unseen) :
    t.lives (u :: us) = (t.unseen u).lives us := rfl

/-- what is unseen concerns the handlers alone -/
theorem lives_calls (t : Thread) (us : List Unseen) :
    (t.lives us).call = t.call ∧ (t.lives us).begun = t.begun := by
  induction us generalizing t with
  | nil => exact ⟨rfl, rfl⟩
  | cons u us ih =>
    rw [lives_cons, (ih _).1, (ih _).2]
    cases u <;> exact ⟨rfl, rfl⟩

/-- a handler has returned only if nothing was unseen since -/
theorem lives_returned {t : Thread} {us : List Unseen} (h : (t.lives us).returned = true) :
    us = [] := by
  have hkeep : ∀ (us : List Unseen) (t : Thread), t.returned = false →
      (t.lives us).returned = false := by
    intro us
    induction us with
    | nil => exact fun _ ht => ht
    | cons u us ih =>
      intro t _
      rw [lives_cons]
      apply ih
      cases u <;> rfl
  cases us with
  | nil => rfl
  | cons u us =>
    rw [lives_cons, hkeep us (t.unseen u) (by cases u <;> rfl)] at h
    cases h

end Thread

/-! ## what the log tells -/

/-- what each thread did since the last stop, at the stop that is reported after the log -/
abbrev Life := Log → TraceeId → List Unseen

variable (env : Env) (life : Life)

/-- what `PTRACE_GET_SYSCALL_INFO` reports -/
def Env.report (log : Log) (pid : ProcessID) : SystemCallInfo :=
  { arch := (env.syscallInfo log pid).1
    isX32 := (env.syscallInfo log pid).2.1
    stop := (env.syscallInfo log pid).2.2 }

/-- the generic number of the system call that is entered -/
def SystemCallInfo.enteredNr (info : SystemCallInfo) : SystemCallNr :=
  match info.updateSysNr env with
  | .ok info => info.sysNr
  | .error _ => .unknown

def Thread.report (t : Thread) (pos : Nat) (info : SystemCallInfo) : Thread :=
  match info.stop with
  | .entry _ => t.enter pos (info.enteredNr env)
  | .exit x => t.exit pos x
  | _ => t

/-- after `execve()` a tracee may go on as the thread of another one -/
def threadStep (p : Log) (threads : TraceeId → Thread) : Entry → TraceeId → Thread
  | .request id (.getSyscallInfo pid) none =>
      Function.update threads id
        (((threads id).lives (life p id)).report env p.length (env.report p pid))
  | .execed id _ old => Function.update threads id (threads (old.getD id)).exec
  | _ => threads

def truth (log : Log) : TraceeId → Thread := trail (threadStep env life) (fun _ => {}) log

/-! ## what the tracer has finished with -/

inductive Stage where
  /-- the thread was restarted after its last system call stop -/
  | idle
  /-- it is still stopped -/
  | handling
  /-- another event of it came before it was restarted -/
  | lost
  deriving DecidableEq, Repr

instance (log : Log) (b : TraceeId) : Decidable (Departed log b) :=
  inferInstanceAs (Decidable (∃ e ∈ log, e.departs b = true))

def stageStep (p : Log) (stages : TraceeId → Stage) : Entry → TraceeId → Stage
  | .request id (.getSyscallInfo _) none =>
      Function.update stages id (if stages id = .idle then .handling else .lost)
  | .deliver id _ =>
      Function.update stages id (if stages id = .handling then .lost else stages id)
  | .request id (.restart _ _ _) none =>
      Function.update stages id (if stages id = .handling then .idle else stages id)
  | .execed id _ old =>
      Function.update stages id
        (if stages (old.getD id) = .idle ∧ ¬ Departed p (old.getD id) then .handling else .lost)
  | _ => stages

def stage (log : Log) : TraceeId → Stage := trail stageStep (fun _ => .idle) log

/-- stops of a tracee are reported one after the other -/
def OneByOne (p : Log) : Entry → Prop
  | .request b (.getSyscallInfo _) none => stage p b = .idle ∧ ¬ Departed p b
  | _ => True

def isOneByOne (p : Log) : Entry → Bool
  | .request b (.getSyscallInfo _) none => decide (stage p b = .idle ∧ ¬ Departed p b)
  | _ => true

theorem isOneByOne_iff (p : Log) (e : Entry) : isOneByOne p e = true ↔ OneByOne p e := by
  unfold isOneByOne OneByOne
  split
  · exact decide_eq_true_iff
  · exact iff_of_true rfl trivial

instance (p : Log) (e : Entry) : Decidable (OneByOne p e) :=
  decidable_of_iff _ (isOneByOne_iff p e)

/-! ## what changes them -/

section
variable {env life} {b : TraceeId}

theorem truth_snoc (log : Log) (e : Entry) :
    truth env life (log ++ [e]) = threadStep env life log (truth env life log) e := trail_snoc log e

theorem stage_snoc (log : Log) (e : Entry) :
    stage (log ++ [e]) = stageStep log (stage log) e := trail_snoc log e

theorem threadStep_of_calm {p : Log} {threads : TraceeId → Thread} {e : Entry}
    (h : e.isCall b = false) : threadStep env life p threads e b = threads b := by
  cases e with
  | request id r error =>
    cases r with
    | getSyscallInfo pid =>
      cases error with
      | none =>
        have hne : id ≠ b := of_decide_eq_false h
        exact Function.update_of_ne hne.symm ..
      | some e => rfl
    | _ => rfl
  | execed id former old =>
    have hne : id ≠ b := of_decide_eq_false h
    exact Function.update_of_ne hne.symm ..
  | _ => rfl

/-- entries that are not about the system calls of a thread -/
theorem truth_append {log es : Log} (h : ∀ e ∈ es, e.isCall b = false) :
    truth env life (log ++ es) b = truth env life log b :=
  trail_append (fun threads : TraceeId → Thread => threads b) h
    fun _ _ _ he _ => threadStep_of_calm he

theorem stageStep_of_calm {p : Log} {stages : TraceeId → Stage} {e : Entry}
    (hc : e.isCall b = false) (hs : e.isStop b = false ∨ stages b ≠ .handling) :
    stageStep p stages e b = stages b := by
  have hother : ∀ {id : TraceeId} {s : Stage}, id ≠ b → Function.update stages id s b = stages b :=
    fun hne => Function.update_of_ne hne.symm ..
  cases e with
  | request id r error =>
    cases error with
    | some e => cases r <;> rfl
    | none =>
      cases r with
      | getSyscallInfo pid => exact hother (of_decide_eq_false hc)
      | restart pid mode signal =>
        by_cases hid : id = b
        · obtain hs | hs := hs
          · exact absurd hid (of_decide_eq_false hs)
          · subst hid
            show Function.update stages id (if stages id = .handling then _ else _) id = _
            rw [Function.update_self, if_neg hs]
        · exact hother hid
      | _ => rfl
  | deliver id data =>
    by_cases hid : id = b
    · obtain hs | hs := hs
      · exact absurd hid (of_decide_eq_false hs)
      · subst hid
        show Function.update stages id (if stages id = .handling then _ else _) id = _
        rw [Function.update_self, if_neg hs]
    · exact hother hid
  | execed id former old => exact hother (of_decide_eq_false hc)
  | _ => rfl

/-- entries about other threads -/
theorem stage_append {log es : Log} (h : ∀ e ∈ es, e.isStop b = false ∧ e.isCall b = false) :
    stage (log ++ es) b = stage log b :=
  trail_append (fun stages : TraceeId → Stage => stages b) h
    fun _ _ _ he _ => stageStep_of_calm he.2 (Or.inl he.1)

/-- a thread whose stop the tracer does not handle stays where it is -/
theorem stage_append_of_ne {log es : Log} (h : ∀ e ∈ es, e.isCall b = false)
    (hs : stage log b ≠ .handling) : stage (log ++ es) b = stage log b := by
  apply trail_append (fun stages : TraceeId → Stage => stages b) h
  intro p stages e he ht
  apply stageStep_of_calm he
  right
  rw [ht]
  exact hs

/-- an event that comes too early is not handled any more -/
theorem stage_deliver (log : Log) (data : ChildState) :
    stage (log ++ [.deliver b data]) b ≠ .handling := by
  rw [stage_snoc]
  show Function.update (stage log) b _ b ≠ _
  rw [Function.update_self]
  split_ifs with h
  · exact fun he => nomatch he
  · exact h

end

end Clues
