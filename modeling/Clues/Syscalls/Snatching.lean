import Clues.Syscalls.Creating
import Mathlib.Data.Finset.Card

/-!
# Descriptors of the tracer

`snatchFD()` duplicates a descriptor of a tracee into the tracer, for as long as a callback uses it.

* `TracerFds`       the descriptors of the tracer, among them the pidfds of the tracees;
* `snatchFD`        the duplicate, the callback and what is closed;
* `SnatchOp`        a snatched descriptor, or a successful `accept()`, which may snatch its socket;
* `Restores`        the duplicate is closed once, and everything else is as before;
* `restores_iff_fits`   the runs that restore the descriptors, and leak none.
-/

namespace Clues

/-- `EBADF` -/
def Errno.badFd : Errno := 9

/-- the descriptors that `pidfd_open()` and `pidfd_getfd()` choose -/
structure Kernel where
  fresh : Finset FileNum → FileNum
  fresh_notMem : ∀ s, fresh s ∉ s

structure TracerFds where
  /-- the open descriptors -/
  descriptors : Finset FileNum
  /-- `m_pidfd` of each tracee -/
  pidfds : TraceeId → Option FileNum := fun _ => none
  /-- what `close()` was called for -/
  closed : List FileNum := []

/-- the outcomes of the system calls of the tracer -/
structure SnatchReply where
  pidfdOpen : Except Errno Unit
  pidfdGetfd : Except Errno Unit

/-- what a callback does: it may close the duplicate, and it returns or throws -/
structure SnatchFDCallback where
  closes : Bool
  throws : Option Exc

namespace TracerFds

variable (k : Kernel) (id : TraceeId) (reply : SnatchReply)

/-- a new descriptor -/
def openFD (s : TracerFds) : TracerFds :=
  { s with descriptors := insert (k.fresh s.descriptors) s.descriptors }

/-- `cosmos::FileDescriptor::close()`; a descriptor that is not open is an error -/
def close (fd : FileNum) (s : TracerFds) : Except Errno Unit × TracerFds :=
  let s' := { s with descriptors := s.descriptors.erase fd, closed := s.closed ++ [fd] }
  (if fd ∈ s.descriptors then .ok () else .error Errno.badFd, s')

def openPidFD (s : TracerFds) : Except Errno Unit × TracerFds :=
  match s.pidfds id with
  | some _ => (.ok (), s)
  | none =>
    match reply.pidfdOpen with
    | .error e => (.error e, s)
    | .ok () =>
      (.ok (), { s.openFD k with
        pidfds := Function.update s.pidfds id (some (k.fresh s.descriptors)) })

/-- `cosmos::ProcessFile::dupFD()` -/
def dupFD (s : TracerFds) : Except Errno FileNum × TracerFds :=
  match reply.pidfdGetfd with
  | .error e => (.error e, s)
  | .ok () => (.ok (k.fresh s.descriptors), s.openFD k)

/-- the callback with a duplicate; all exceptions are caught -/
def useFD (cb : SnatchFDCallback) (fd : FileNum) (s : TracerFds) : Except Errno Unit × TracerFds :=
  let s := if cb.closes then (s.close fd).2 else s
  match cb.throws with
  | some _ => s.close fd
  | none => (.ok (), s)

def snatchFD (cb : SnatchFDCallback) (s : TracerFds) : Except Errno Unit × TracerFds :=
  match s.openPidFD k id reply with
  | (.error e, s) => (.error e, s)
  | (.ok (), s) =>
    match s.dupFD k reply with
    | (.error e, s) => (.error e, s)
    | (.ok fd, s) => s.useFD cb fd

/-- the duplicate that `snatchFD()` obtains -/
def duplicate (s : TracerFds) : Option FileNum :=
  match s.openPidFD k id reply with
  | (.error _, _) => none
  | (.ok (), s) => (s.dupFD k reply).1.toOption

/-- apart from the pidfd the same descriptors are open, and the duplicate was closed once -/
structure Restores (cb : SnatchFDCallback) (s : TracerFds) : Prop where
  frame : ∀ fd, (s.snatchFD k id reply cb).2.pidfds id ≠ some fd →
    (fd ∈ (s.snatchFD k id reply cb).2.descriptors ↔ fd ∈ s.descriptors)
  closed : (s.snatchFD k id reply cb).2.closed
    = s.closed ++ (s.duplicate k id reply).toList

/-! ## one call -/

section
variable {k : Kernel} {id : TraceeId} {reply : SnatchReply} {cb : SnatchFDCallback}
  {s s1 : TracerFds}

/-- no more than the pidfd was opened, and nothing was closed -/
structure Opened (id : TraceeId) (s s1 : TracerFds) : Prop where
  frame : ∀ fd, s1.pidfds id ≠ some fd → (fd ∈ s1.descriptors ↔ fd ∈ s.descriptors)
  kept : ∀ id' fd, s.pidfds id' = some fd → s1.pidfds id' = some fd
  closed : s1.closed = s.closed

theorem Opened.refl : Opened id s s :=
  ⟨fun _ _ => Iff.rfl, fun _ _ h => h, rfl⟩

theorem openPidFD_opened : Opened id s (s.openPidFD k id reply).2 := by
  unfold openPidFD
  cases hfd : s.pidfds id with
  | some fd => exact Opened.refl
  | none =>
    cases reply.pidfdOpen with
    | error e => exact Opened.refl
    | ok _ =>
      refine ⟨fun fd hne => ?_, fun id' fd hcached => ?_, rfl⟩
      · have hfresh : fd ≠ k.fresh s.descriptors := by
          rintro rfl
          exact hne (Function.update_self _ _ _)
        exact Finset.mem_insert.trans (or_iff_right hfresh)
      · have hother : id' ≠ id := by
          rintro rfl
          rw [hfd] at hcached
          cases hcached
        exact (Function.update_of_ne hother _ _).trans hcached

/-- nothing is duplicated, or the callback gets a new descriptor -/
theorem snatchFD_cases (k : Kernel) (id : TraceeId) (reply : SnatchReply) (cb : SnatchFDCallback)
    (s : TracerFds) : ∃ s1, Opened id s s1 ∧
    (s.duplicate k id reply = none ∧ (s.snatchFD k id reply cb).2 = s1 ∨
      s.duplicate k id reply = some (k.fresh s1.descriptors) ∧
        (s.snatchFD k id reply cb).2
          = ((s1.openFD k).useFD cb (k.fresh s1.descriptors)).2) := by
  have hopened : Opened id s (s.openPidFD k id reply).2 := openPidFD_opened
  unfold duplicate snatchFD dupFD
  rcases hpid : s.openPidFD k id reply with ⟨r, s1⟩
  rw [hpid] at hopened
  refine ⟨s1, hopened, ?_⟩
  cases r with
  | error e => exact Or.inl ⟨rfl, rfl⟩
  | ok _ =>
    cases hget : reply.pidfdGetfd with
    | error e => exact Or.inl ⟨rfl, rfl⟩
    | ok _ => exact Or.inr ⟨rfl, rfl⟩

theorem useFD_closed (fd : FileNum) (s : TracerFds) :
    (s.useFD cb fd).2.closed
      = s.closed ++ ((if cb.closes then [fd] else []) ++ if cb.throws = none then [] else [fd]) := by
  unfold useFD
  cases cb.closes <;> cases cb.throws <;> simp [close]

theorem useFD_pidfds (fd : FileNum) (s : TracerFds) : (s.useFD cb fd).2.pidfds = s.pidfds := by
  unfold useFD
  cases cb.closes <;> cases cb.throws <;> rfl

/-- closed once -/
theorem useFD_descriptors {fd : FileNum} (h : cb.closes = true ↔ cb.throws = none) (s : TracerFds) :
    (s.useFD cb fd).2.descriptors = s.descriptors.erase fd := by
  unfold useFD
  cases hc : cb.closes with
  | true =>
    rw [h.mp hc]
    rfl
  | false =>
    cases ht : cb.throws with
    | none =>
      rw [h.mpr ht] at hc
      cases hc
    | some e => rfl

theorem snatchFD_kept (id' : TraceeId) (fd : FileNum) (h : s.pidfds id' = some fd) :
    (s.snatchFD k id reply cb).2.pidfds id' = some fd := by
  obtain ⟨s1, hopened, ⟨-, hafter⟩ | ⟨-, hafter⟩⟩ := snatchFD_cases k id reply cb s
  · rw [hafter]
    exact hopened.kept id' fd h
  · rw [hafter, useFD_pidfds]
    exact hopened.kept id' fd h

theorem restores_iff : s.Restores k id reply cb ↔
    ((s.duplicate k id reply).isSome → (cb.closes = true ↔ cb.throws = none)) := by
  obtain ⟨s1, hopened, ⟨hnone, hafter⟩ | ⟨hsome, hafter⟩⟩ := snatchFD_cases k id reply cb s
  · -- only the pidfd was opened
    refine iff_of_true ⟨?_, ?_⟩ fun h => ?_
    · rw [hafter]
      exact hopened.frame
    · rw [hafter, hnone, hopened.closed]
      exact (List.append_nil _).symm
    · rw [hnone] at h
      cases h
  rw [hsome]
  constructor
  · -- the calls of `close()` say whether it is left open or closed twice
    intro h _
    have hclosed := h.closed
    rw [hafter, hsome, useFD_closed, show (s1.openFD k).closed = s.closed from hopened.closed,
      List.append_cancel_left_eq] at hclosed
    have hlength := congrArg List.length hclosed
    cases hc : cb.closes <;> cases ht : cb.throws <;> simp [hc, ht] at hlength ⊢
  · intro h
    have hone := h rfl
    refine ⟨fun fd hne => ?_, ?_⟩
    · rw [hafter, useFD_pidfds] at hne
      rw [hafter, useFD_descriptors hone]
      show fd ∈ (insert _ s1.descriptors).erase _ ↔ _
      rw [Finset.erase_insert (k.fresh_notMem _)]
      exact hopened.frame fd hne
    · rw [hafter, hsome, useFD_closed, show (s1.openFD k).closed = s.closed from hopened.closed]
      cases hc : cb.closes with
      | true =>
        rw [hone.mp hc]
        rfl
      | false =>
        have hthrows : cb.throws ≠ none := by
          intro ht
          rw [hone.mpr ht] at hc
          cases hc
        rw [if_neg hthrows]
        rfl

end

end TracerFds

/-! ## runs -/

/-- the callback of `add_socket_info()` calls `getsockopt()` twice -/
def socketInfo : SnatchFDCallback := { closes := false, throws := none }

/-- the state of a tracer: the descriptors that are tracked belong to processes -/
structure Tracking where
  fds : TracerFds
  maps : ProcId → FDInfoMap

inductive SnatchOp where
  /-- a client snatches a descriptor -/
  | snatch (id : TraceeId) (reply : SnatchReply) (cb : SnatchFDCallback)
  /-- a successful `accept()`; the last two are what `getsockopt()` yields -/
  | accept (id : TraceeId) (proc : ProcId) (sockfd newFd : FileNum) (flags : Word)
      (reply : SnatchReply) (domain type : Option Int)

namespace SnatchOp

variable (k : Kernel)

def step (s : Tracking) : SnatchOp → Tracking
  | .snatch id reply cb => { s with fds := (s.fds.snatchFD k id reply cb).2 }
  | .accept id proc sockfd newFd flags reply domain type =>
    let map := s.maps proc
    let r :=
      if AcceptSystemCall.snatches sockfd map then s.fds.snatchFD k id reply socketInfo
      else (.ok (), s.fds)
    let info := r.1.map fun _ => (domain, type)
    { fds := r.2
      maps := Function.update s.maps proc
        (AcceptSystemCall.updateFDTracking (fun _ => info) sockfd newFd flags map).2 }

/-- what `snatchFD()` is called with -/
def snatched (s : Tracking) : SnatchOp → Option (TraceeId × SnatchReply × SnatchFDCallback)
  | .snatch id reply cb => some (id, reply, cb)
  | .accept id proc sockfd _ _ reply _ _ =>
    if AcceptSystemCall.snatches sockfd (s.maps proc) then some (id, reply, socketInfo) else none

def run (s : Tracking) (ops : List SnatchOp) : Tracking := ops.foldl (step k) s

/-- a property of the calls of `snatchFD()` in a run, each with the descriptors before it -/
def Throughout (P : TraceeId → SnatchReply → SnatchFDCallback → TracerFds → Prop) :
    Tracking → List SnatchOp → Prop
  | _, [] => True
  | s, op :: ops =>
    (∀ id reply cb, op.snatched s = some (id, reply, cb) → P id reply cb s.fds) ∧
      Throughout P (op.step k s) ops

/-- apart from the pidfds the same descriptors are open as before the run -/
def LeaksNone (s : Tracking) (ops : List SnatchOp) : Prop :=
  ∀ fd, (∀ id, (run k s ops).fds.pidfds id ≠ some fd) →
    (fd ∈ (run k s ops).fds.descriptors ↔ fd ∈ s.fds.descriptors)

/-- each call of `snatchFD()` restores the descriptors, and the run leaks none -/
def RestoresAll (s : Tracking) (ops : List SnatchOp) : Prop :=
  Throughout k (fun id reply cb fds => fds.Restores k id reply cb) s ops ∧ LeaksNone k s ops

/-- whenever a descriptor is duplicated, the callback throws or closes it, but not both -/
def Fits (s : Tracking) (ops : List SnatchOp) : Prop :=
  Throughout k (fun id reply cb fds => (fds.duplicate k id reply).isSome →
    (cb.closes = true ↔ cb.throws = none)) s ops

section
variable {k : Kernel} {s : Tracking} {ops : List SnatchOp}

theorem throughout_congr {P Q : TraceeId → SnatchReply → SnatchFDCallback → TracerFds → Prop}
    (h : ∀ id reply cb fds, P id reply cb fds ↔ Q id reply cb fds) (s : Tracking)
    (ops : List SnatchOp) : Throughout k P s ops ↔ Throughout k Q s ops := by
  induction ops generalizing s with
  | nil => exact Iff.rfl
  | cons op ops ih =>
    unfold Throughout
    rw [ih]
    refine and_congr_left fun _ => forall_congr' fun id => forall_congr' fun reply =>
      forall_congr' fun cb => ?_
    rw [h]

/-- a step calls `snatchFD()`, or leaves the descriptors as they are -/
theorem step_cases (op : SnatchOp) (s : Tracking) :
    (∃ id reply cb, op.snatched s = some (id, reply, cb) ∧
      (op.step k s).fds = (s.fds.snatchFD k id reply cb).2) ∨ (op.step k s).fds = s.fds := by
  cases op with
  | snatch id reply cb => exact Or.inl ⟨id, reply, cb, rfl, rfl⟩
  | accept id proc sockfd newFd flags reply domain type =>
    unfold step snatched
    dsimp only
    split_ifs with h
    · exact Or.inl ⟨id, reply, socketInfo, rfl, rfl⟩
    · exact Or.inr rfl

theorem step_kept (op : SnatchOp) (s : Tracking) {id : TraceeId} {fd : FileNum}
    (h : s.fds.pidfds id = some fd) : (op.step k s).fds.pidfds id = some fd := by
  rcases step_cases (k := k) op s with ⟨id', reply, cb, -, hfds⟩ | hfds
  · rw [hfds]
    exact TracerFds.snatchFD_kept id fd h
  · rw [hfds]
    exact h

/-- a cached pidfd stays -/
theorem run_kept (ops : List SnatchOp) {s : Tracking} {id : TraceeId} {fd : FileNum}
    (h : s.fds.pidfds id = some fd) : (run k s ops).fds.pidfds id = some fd := by
  induction ops generalizing s with
  | nil => exact h
  | cons op ops ih => exact ih (step_kept op s h)

/-- calls that restore the descriptors leak none of them -/
theorem leaksNone_of_restores
    (h : Throughout k (fun id reply cb fds => fds.Restores k id reply cb) s ops) :
    LeaksNone k s ops := by
  induction ops generalizing s with
  | nil =>
    intro fd _
    exact Iff.rfl
  | cons op ops ih =>
    intro fd hne
    refine (ih h.2 fd hne).trans ?_
    rcases step_cases (k := k) op s with ⟨id, reply, cb, hcall, hfds⟩ | hfds
    · have hpid : (op.step k s).fds.pidfds id ≠ some fd := fun hp => hne id (run_kept ops hp)
      rw [hfds] at hpid
      rw [hfds]
      exact (h.1 id reply cb hcall).frame fd hpid
    · rw [hfds]

/-- for every run, whatever the callbacks do and the kernel answers -/
theorem restores_iff_fits (k : Kernel) (s : Tracking) (ops : List SnatchOp) :
    RestoresAll k s ops ↔ Fits k s ops := by
  have hcalls : Throughout k (fun id reply cb fds => fds.Restores k id reply cb) s ops ↔ _ :=
    throughout_congr (fun _ _ _ _ => TracerFds.restores_iff) s ops
  unfold RestoresAll Fits
  rw [← hcalls]
  exact ⟨fun h => h.1, fun h => ⟨h, leaksNone_of_restores h⟩⟩

/-- the lowest number that is not in use -/
def unused (s : Finset FileNum) : Option FileNum :=
  ((List.range (s.card + 1)).map Int.ofNat).find? fun fd => decide (fd ∉ s)

theorem unused_ne_none (s : Finset FileNum) : unused s ≠ none := by
  intro hnone
  have hsub : (Finset.range (s.card + 1)).image Int.ofNat ⊆ s := by
    intro fd hfd
    obtain ⟨n, hn, rfl⟩ := Finset.mem_image.mp hfd
    have hused := List.find?_eq_none.mp hnone (Int.ofNat n)
      (List.mem_map_of_mem (List.mem_range.mpr (Finset.mem_range.mp hn)))
    simpa using hused
  have hcard := Finset.card_le_card hsub
  rw [Finset.card_image_of_injective _ fun _ _ h => Int.ofNat.inj h, Finset.card_range] at hcard
  omega

def lowest : Kernel where
  fresh s := (unused s).getD 0
  fresh_notMem s := by
    cases h : unused s with
    | none => exact absurd h (unused_ne_none s)
    | some fd =>
      unfold unused at h
      have hfd : decide (fd ∉ s) = true := List.find?_some (p := fun fd => decide (fd ∉ s)) h
      exact of_decide_eq_true hfd

/-- an `accept()` on a socket that is not tracked: the duplicate of the new socket stays open -/
theorem restores_fails : ¬ ∀ k s ops, RestoresAll k s ops := by
  intro h
  have hrun := h lowest { fds := { descriptors := {0, 1, 2} }, maps := fun _ => .empty }
    [.accept 0 0 3 4 0 ⟨.ok (), .ok ()⟩ none none]
  have hclosed := (hrun.1.1 0 ⟨.ok (), .ok ()⟩ socketInfo rfl).closed
  revert hclosed
  decide +kernel

end

end SnatchOp

end Clues
