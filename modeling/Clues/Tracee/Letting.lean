import Clues.Tracee.State

/-!
# Detaching from a tracee

* `Lets`       what detaching from a tracee does: only this object changes, and the log grows;
* `Letting`    a computation does no more than that; it holds for `doDetach`, `detach` and the
               destructors, whatever the kernel answers;
* `Hush`       a tracee that was detached from is not asked for anything any more;
* `DetachLaw`  detaching and interrupting fail only for a task that is gone.
-/

namespace Clues

open Lib Lib.Exec Step

variable {SC : Type}

/-- detaching from and interrupting a tracee fail only if it is gone, and waiting for a child only
if it was collected before -/
structure DetachLaw (env : Env) : Prop where
  detach : ∀ {log pid e},
    env.request log (.detach pid) = some e ∨ env.request log (.interrupt pid) = some e →
    e = Errno.search
  wait : ∀ {log pid e}, env.request log (.waitChild pid) = some e → e = Errno.noChild

/-- the state is `dead` or `detached` -/
def State.isEnded (s : State) : Bool := s = .dead || s = .detached

def Tracee.ended (t : Tracee) : Bool := t.state.isEnded

/-- detached from or gone, with no request left for its task -/
structure Tracee.Calm (t : Tracee) : Prop where
  ended : t.ended = true
  ptrace : t.ptrace = ProcessID.invalid
  unflagged : t.flags.detachAtNextStop = false

/-- a tracee that was detached from, or is found dead, loses its PID; with `DetachLaw` no other
one does -/
structure Released (env : Env) (t t' : Tracee) : Prop where
  ended : t.ended = true → t'.ended = true
  ptrace : t'.ptrace = t.ptrace ∨
    t'.ptrace = ProcessID.invalid ∧ (t'.ended = true ∨ ¬ DetachLaw env)
  current : t'.currentSyscall = t.currentSyscall
  db : ∀ nr c, t'.syscallDb nr = some c → t.syscallDb nr = some c

theorem Released.refl (env : Env) (t : Tracee) : Released env t t :=
  ⟨fun h => h, Or.inl rfl, rfl, fun _ _ h => h⟩

theorem Released.trans {env : Env} {t t' t'' : Tracee} (h : Released env t t')
    (h' : Released env t' t'') : Released env t t'' := by
  refine ⟨fun ht => h'.ended (h.ended ht), ?_, h'.current.trans h.current,
    fun nr c hc => h.db nr c (h'.db nr c hc)⟩
  obtain hp | ⟨hp, hd⟩ := h'.ptrace
  · rw [hp]
    obtain hp | ⟨hp, hd⟩ := h.ptrace
    · exact Or.inl hp
    · exact Or.inr ⟨hp, hd.imp_left h'.ended⟩
  · exact Or.inr ⟨hp, hd⟩

/-! ## the log -/

/-- a request to `ptrace()` -/
def Request.isPtrace : Request → Bool
  | .kill .. | .waitChild _ => false
  | _ => true

/-- the log entries of detaching from a tracee -/
def Entry.IsLetting (id : TraceeId) : Entry → Prop
  | .request id' _ _ => id' = id
  | .detached id' => id' = id
  | .destroyed id' => id' = id
  | _ => False

/-- whether a tracee is detached from since its last event; a ptrace request for it then is an
error -/
def hushStep (id : TraceeId) : Option Bool → Entry → Option Bool
  | some s, .deliver id' _ => some (s && id' != id)
  | some s, .detached id' => some (s || id' == id)
  | some s, .request id' r _ => if s && r.isPtrace && id' == id then none else some s
  | s, _ => s

/-- the log asks the kernel to detach from the tracee -/
def Entry.clears (id : TraceeId) : Entry → Bool
  | .request id' (.detach _) _ => id' = id
  | _ => false

/-! ## changes of one object -/

/-- only the object changes, and the log grows by entries about it -/
structure OnObj (id : TraceeId) (w w' : World SC) : Prop where
  tracees : w'.tracees = w.tracees
  unknownEvents : w'.unknownEvents = w.unknownEvents
  newlyAttachedPid : w'.newlyAttachedPid = w.newlyAttachedPid
  nextObj : w'.nextObj = w.nextObj
  calls : w'.calls = w.calls
  nextCall : w'.nextCall = w.nextCall
  others : ∀ id', id' ≠ id → w'.objs id' = w.objs id'
  db : ∀ nr c, (w'.objs id).syscallDb nr = some c → (w.objs id).syscallDb nr = some c
  log : ∃ es, w'.log = w.log ++ es ∧ ∀ e ∈ es, e.IsLetting id

theorem OnObj.walk (id : TraceeId) :
    Walk (fun _ : World SC => True) (OnObj id : World SC → World SC → Prop) where
  refl w := ⟨rfl, rfl, rfl, rfl, rfl, rfl, fun _ _ => rfl, fun _ _ h => h, [], by simp, by simp⟩
  trans := by
    intro w w' w'' h h'
    refine ⟨h'.tracees.trans h.tracees, h'.unknownEvents.trans h.unknownEvents,
      h'.newlyAttachedPid.trans h.newlyAttachedPid, h'.nextObj.trans h.nextObj,
      h'.calls.trans h.calls, h'.nextCall.trans h.nextCall,
      fun i hi => (h'.others i hi).trans (h.others i hi),
      fun nr c hc => h.db nr c (h'.db nr c hc), ?_⟩
    obtain ⟨es, he, hes⟩ := h.log
    obtain ⟨es', he', hes'⟩ := h'.log
    refine ⟨es ++ es', by rw [he', he, List.append_assoc], fun e hm => ?_⟩
    rcases List.mem_append.mp hm with hm | hm
    · exact hes e hm
    · exact hes' e hm
  keeps _ _ := trivial

/-- no ptrace request for the object while it is detached from -/
def Hush (id : TraceeId) (w w' : World SC) : Prop :=
  ∃ es, w'.log = w.log ++ es ∧ ∀ s : Bool, (s = true → (w.objs id).Calm) →
    ∃ s', es.foldl (hushStep id) (some s) = some s' ∧ (s' = true → (w'.objs id).Calm)

theorem Hush.refl (id : TraceeId) (w : World SC) : Hush id w w :=
  ⟨[], by simp, fun s hs => ⟨s, rfl, hs⟩⟩

theorem Hush.trans {id : TraceeId} {w w' w'' : World SC} (h : Hush id w w')
    (h' : Hush id w' w'') : Hush id w w'' := by
  obtain ⟨es, he, hes⟩ := h
  obtain ⟨es', he', hes'⟩ := h'
  refine ⟨es ++ es', by rw [he', he, List.append_assoc], fun s hs => ?_⟩
  obtain ⟨s1, hf1, hs1⟩ := hes s hs
  obtain ⟨s2, hf2, hs2⟩ := hes' s1 hs1
  exact ⟨s2, by rw [List.foldl_append, hf1, hf2], hs2⟩

theorem Hush.setObj {id : TraceeId} {w : World SC} {t : Tracee}
    (h : (w.objs id).Calm → t.Calm) : Hush id w (w.setObj id t) := by
  refine ⟨[], by simp, fun s hs => ⟨s, rfl, fun ht => ?_⟩⟩
  rw [World.setObj_self]
  exact h (hs ht)

/-- a request, which is no ptrace request or is made while the object is not calm -/
theorem Hush.request {id : TraceeId} {w : World SC} {r : Request} (error : Option Errno)
    (h : r.isPtrace = true → ¬ (w.objs id).Calm) : Hush id w (w.say (.request id r error)) := by
  refine ⟨[_], rfl, fun s hs => ⟨s, ?_, hs⟩⟩
  show (if s && r.isPtrace && id == id then none else some s) = some s
  cases s with
  | false => rfl
  | true =>
    have hr : r.isPtrace = false := by
      by_contra hr
      exact h (by simpa using hr) (hs rfl)
    rw [hr]
    rfl

/-- what detaching from a tracee does, apart from the flag for system calls; `q`: it is not asked
for anything if it is detached already -/
structure Frees (env : Env) (q : Prop) (id : TraceeId) (w w' : World SC) : Prop
    extends OnObj id w w' where
  released : Released env (w.objs id) (w'.objs id)
  hush : q → Hush id w w'

theorem Frees.walk (env : Env) (q : Prop) (id : TraceeId) :
    Walk (fun _ : World SC => True) (Frees env q id) where
  refl w := ⟨(OnObj.walk id).refl w, Released.refl env _, fun _ => Hush.refl id w⟩
  trans h h' := ⟨(OnObj.walk _).trans h.toOnObj h'.toOnObj, h.released.trans h'.released,
    fun hq => (h.hush hq).trans (h'.hush hq)⟩
  keeps _ _ := trivial

/-- the tracee is in a system call as before, unless it was detached from -/
def StaysEntered (env : Env) (id : TraceeId) (w w' : World SC) : Prop :=
  ∃ es, w'.log = w.log ++ es ∧ (DetachLaw env → (w'.objs id).flags.syscallEntered
    = ((w.objs id).flags.syscallEntered && !es.any (Entry.clears id)))

/-- what detaching from a tracee does -/
structure Lets (env : Env) (q : Prop) (id : TraceeId) (w w' : World SC) : Prop
    extends Frees env q id w w' where
  entered : StaysEntered env id w w'

theorem Lets.walk (env : Env) (q : Prop) (id : TraceeId) :
    Walk (fun _ : World SC => True) (Lets env q id) where
  refl w := ⟨(Frees.walk env q id).refl w, [], by simp, fun _ => by simp⟩
  trans := by
    intro w w' w'' h h'
    refine ⟨(Frees.walk env q id).trans h.toFrees h'.toFrees, ?_⟩
    obtain ⟨es, he, hes⟩ := h.entered
    obtain ⟨es', he', hes'⟩ := h'.entered
    refine ⟨es ++ es', by rw [he', he, List.append_assoc], fun hl => ?_⟩
    rw [hes' hl, hes hl, List.any_append, Bool.not_or, Bool.and_assoc]
  keeps _ _ := trivial

/-- the computation does no more than detaching from the tracee does -/
abbrev Letting (env : Env) (q : Prop) (id : TraceeId) {α : Type} (x : Step SC α) : Prop :=
  Along (fun _ : World SC => True) (Lets env q id) x

section
variable {env : Env} {q : Prop} {id : TraceeId}

/-! ## single steps -/

theorem OnObj.say {w : World SC} {e : Entry} (h : e.IsLetting id) : OnObj id w (w.say e) :=
  ⟨rfl, rfl, rfl, rfl, rfl, rfl, fun _ _ => rfl, fun _ _ h => h, [e], rfl, by simpa using h⟩

theorem OnObj.setObj (w : World SC) {t : Tracee}
    (h : ∀ nr c, t.syscallDb nr = some c → (w.objs id).syscallDb nr = some c) :
    OnObj id w (w.setObj id t) :=
  ⟨rfl, rfl, rfl, rfl, rfl, rfl, fun _ hi => World.setObj_of_ne w t hi,
    by rw [World.setObj_self]; exact h, [], by simp, by simp⟩

theorem frees_request (w : World SC) (r : Request) (error : Option Errno)
    (h : q → r.isPtrace = true → ¬ (w.objs id).Calm) :
    Frees env q id w (w.say (.request id r error)) :=
  ⟨OnObj.say (show Entry.IsLetting id (.request id r error) from rfl), Released.refl env _,
    fun hq => Hush.request error (h hq)⟩

/-- a request, but for detaching -/
theorem lets_request (w : World SC) {r : Request} (error : Option Errno)
    (hr : Entry.clears id (.request id r error) = false)
    (h : q → r.isPtrace = true → ¬ (w.objs id).Calm) :
    Lets env q id w (w.say (.request id r error)) :=
  ⟨frees_request w r error h, [_], rfl, fun _ => by
    rw [List.any_cons, hr]
    simp⟩

theorem Frees.setObj {w : World SC} {t : Tracee} (h : Released env (w.objs id) t)
    (hq : (w.objs id).Calm → t.Calm) : Frees env q id w (w.setObj id t) :=
  ⟨OnObj.setObj w h.db, by rw [World.setObj_self]; exact h,
    fun _ => Hush.setObj hq⟩

/-- a change of data that has nothing to do with detaching -/
structure Mild (env : Env) (t t' : Tracee) : Prop where
  released : Released env t t'
  entered : t'.flags.syscallEntered = t.flags.syscallEntered
  calm : t.Calm → t'.Calm

theorem Lets.setObj {w : World SC} {t : Tracee} (h : Mild env (w.objs id) t) :
    Lets env q id w (w.setObj id t) :=
  ⟨Frees.setObj h.released h.calm, [], by simp, fun _ => by
    rw [World.setObj_self, h.entered]
    simp⟩

theorem letting_modify {f : Tracee → Tracee} (h : ∀ t, Mild env t (f t)) :
    Letting env q id (modifyTracee id f : Step SC Unit) := fun w _ => Lets.setObj (h (w.objs id))

theorem letting_read {α : Type} {f : World SC → α} :
    Letting env q id ((do let w ← read; pure (f w)) : Step SC α) :=
  fun w _ => (Lets.walk env q id).refl w

/-- a request that is none to `ptrace()` -/
theorem letting_request {r : Request} (hr : r.isPtrace = false) :
    Letting env q id (request env id r : Step SC Unit) := by
  intro w _
  rw [run_request]
  refine lets_request w _ ?_ fun _ h => by rw [hr] at h; cases h
  cases r with
  | detach pid => cases hr
  | _ => rfl

theorem letting_catchApi {α : Type} {x : Step SC α} {g : Errno → Step SC α}
    (hx : Letting env q id x) (hg : ∀ e, Letting env q id (g e)) :
    Letting env q id (catchApi x g) := by
  refine Along.handle (Lets.walk env q id) hx fun e => ?_
  cases e with
  | api errno => exact hg errno
  | _ => exact Along.raise (Lets.walk env q id) _

theorem letting_catchCosmos {x : Step SC Unit} (hx : Letting env q id x) :
    Letting env q id (catchCosmos x (pure ())) := by
  have hp : Walk (fun _ : World SC => True) _ := Lets.walk env q id
  exact Along.handle hp hx fun e =>
    Along.ite (fun _ => Along.pure hp _) fun _ => Along.raise hp _

/-! ## states -/

theorem letting_cleanupChild : Letting env q id (cleanupChild env id : Step SC Unit) := by
  have hp : Walk (fun _ : World SC => True) _ := Lets.walk env q id
  refine Along.bind hp (Along.read_bind fun w _ => hp.refl w) fun t => ?_
  refine Along.ite (fun _ => ?_) fun _ => Along.pure hp _
  refine Along.bind hp (letting_catchApi (letting_request rfl) fun e => ?_) fun _ =>
    letting_modify fun t => ⟨⟨fun h => h, Or.inl rfl, rfl, fun _ _ h => h⟩, rfl,
      fun h => ⟨h.1, h.2, h.3⟩⟩
  exact Along.ite (fun _ => Along.raise hp _) fun _ => Along.pure hp _

theorem letting_dead : Letting env q id (changeState env id .dead : Step SC Unit) := by
  have hp : Walk (fun _ : World SC => True) _ := Lets.walk env q id
  refine Along.bind hp (Along.bind hp letting_read fun t => ?_) fun _ =>
    letting_modify fun t => ⟨⟨fun _ => rfl, Or.inl rfl, rfl, fun _ _ h => h⟩, rfl,
      fun h => ⟨rfl, h.2, h.3⟩⟩
  exact Along.ite (fun _ => letting_cleanupChild) fun _ => Along.pure hp _

theorem run_detached (w : World SC) :
    changeState env id .detached w = (.ok (), w.setObj id
      (({ w.objs id with flags := { (w.objs id).flags with detachAtNextStop := false } } :
        Tracee).moveTo .detached)) := by
  show (Except.ok (), (w.setObj id _).setObj id _) = _
  rw [World.setObj_setObj, World.setObj_self]

/-- a change of state that returns ends in the new state -/
theorem state_of_changeState {s : State} {w w' : World SC}
    (h : changeState env id s w = (.ok (), w')) : (w'.objs id).state = s := by
  unfold changeState at h
  rw [run_bind] at h
  cases he : enterState env id s w with
  | mk r w1 =>
    rw [he] at h
    cases r with
    | ok u =>
      have hw : w1.setObj id ((w1.objs id).moveTo s) = w' := (Prod.mk.inj h).2
      rw [← hw, World.setObj_self]
      rfl
    | error e => cases h

/-- a child that was collected before is no error -/
theorem run_cleanupChild_ok (hl : DetachLaw env) (w : World SC) :
    ∃ w', cleanupChild env id w = (.ok (), w') := by
  unfold cleanupChild
  rw [run_bind_ok (run_getTracee id w)]
  split_ifs
  · have hc : catchApi (request env id (.waitChild (w.objs id).childPid)) (fun e =>
        if e ≠ Errno.noChild then raise (.api e) else pure ()) w
        = (.ok (), w.say (.request id (.waitChild (w.objs id).childPid)
          (env.request w.log (.waitChild (w.objs id).childPid)))) := by
      unfold catchApi handle
      rw [run_request]
      cases hr : env.request w.log (.waitChild (w.objs id).childPid) with
      | none => rfl
      | some e =>
        rw [hl.wait hr]
        rfl
    rw [run_bind_ok hc]
    exact ⟨_, rfl⟩
  · exact ⟨_, rfl⟩

theorem run_dead_ok (hl : DetachLaw env) (w : World SC) :
    ∃ w', changeState env id .dead w = (.ok (), w') := by
  have henter : ∃ w', enterState env id .dead w = (.ok (), w') := by
    show ∃ w', (getTracee id >>= fun t => _ : Step SC Unit) w = (.ok (), w')
    rw [run_bind_ok (run_getTracee id w)]
    split_ifs
    · exact run_cleanupChild_ok hl w
    · exact ⟨_, rfl⟩
  obtain ⟨w1, h1⟩ := henter
  unfold changeState
  rw [run_bind_ok h1]
  exact ⟨_, rfl⟩

/-! ## detaching -/

theorem run_doDetach_ok {w : World SC}
    (h : env.request w.log (.detach (w.objs id).ptrace) = none) :
    doDetach env id w = (.ok (),
      ((w.say (.request id (.detach (w.objs id).ptrace) none)).say (.detached id)).setObj id
        ((({ w.objs id with flags := { (w.objs id).flags with detachAtNextStop := false } } :
          Tracee).moveTo .detached).forget)) := by
  have hr : (do
      request env id (.detach (w.objs id).ptrace)
      say (.detached id)
      changeState env id .detached : Step SC Unit) w
      = changeState env id .detached
        ((w.say (.request id (.detach (w.objs id).ptrace) none)).say (.detached id)) := by
    rw [run_bind, run_request, h]
    rfl
  show (catchApi _ _ >>= _) w = _
  rw [run_bind]
  unfold catchApi handle
  rw [hr, run_detached]
  simp

theorem run_doDetach_error {w : World SC} {e : Errno}
    (h : env.request w.log (.detach (w.objs id).ptrace) = some e) :
    doDetach env id w = (do
      handleError env id e
      modifyTracee id Tracee.forget) (w.say (.request id (.detach (w.objs id).ptrace) (some e))) := by
  have hr : (do
      request env id (.detach (w.objs id).ptrace)
      say (.detached id)
      changeState env id .detached : Step SC Unit) w
      = (.error (.api e), w.say (.request id (.detach (w.objs id).ptrace) (some e))) := by
    rw [run_bind, run_request, h]
    rfl
  show (catchApi _ _ >>= _) w = _
  rw [run_bind, run_bind]
  unfold catchApi handle
  rw [hr]

/-- an error of detaching or interrupting is handled -/
theorem lets_handleError {e : Errno} {w : World SC} (he : e = Errno.search ∨ ¬ DetachLaw env) :
    Lets env q id w (handleError env id e w).2 := by
  unfold handleError
  by_cases hs : e = Errno.search
  · rw [if_pos hs]
    exact letting_dead w trivial
  · rw [if_neg hs]
    refine Lets.setObj ⟨⟨fun h => h, Or.inr ⟨rfl, Or.inr (he.resolve_left hs)⟩, rfl,
      fun _ _ h => h⟩, rfl, ?_⟩
    exact fun h => ⟨h.1, rfl, h.3⟩

theorem searchOrLaw {log : Log} {pid : ProcessID} {e : Errno}
    (h : env.request log (.detach pid) = some e ∨ env.request log (.interrupt pid) = some e) :
    e = Errno.search ∨ ¬ DetachLaw env := by
  by_cases hl : DetachLaw env
  · exact Or.inl (hl.detach h)
  · exact Or.inr hl

theorem ended_of_handleError {e : Errno} {w w' : World SC}
    (h : handleError env id e w = (.ok (), w')) : (w'.objs id).ended = true := by
  unfold handleError at h
  by_cases hs : e = Errno.search
  · rw [if_pos hs] at h
    unfold Tracee.ended
    rw [state_of_changeState h]
    rfl
  · rw [if_neg hs] at h
    cases h

theorem frees_doDetach {w : World SC} (hq : q → ¬ (w.objs id).Calm) :
    Frees env q id w (doDetach env id w).2 := by
  have hp : Walk (fun _ : World SC => True) _ := Frees.walk env q id
  cases h : env.request w.log (.detach (w.objs id).ptrace) with
  | none =>
    rw [run_doDetach_ok h]
    refine ⟨?_, ?_, fun hc => ?_⟩
    · refine (OnObj.walk id).trans ((OnObj.walk id).trans (OnObj.say ?_) (OnObj.say ?_))
        (OnObj.setObj _ fun _ _ h => h)
      · exact (rfl : Entry.IsLetting id (.request id _ none))
      · exact (rfl : Entry.IsLetting id (.detached id))
    · rw [World.setObj_self]
      exact ⟨fun _ => rfl, Or.inr ⟨rfl, Or.inl rfl⟩, rfl, fun _ _ h => h⟩
    · refine ⟨[.request id (.detach (w.objs id).ptrace) none, .detached id], by simp,
        fun s hs => ?_⟩
      have hsf : s = false := by
        rw [← Bool.not_eq_true]
        exact fun ht => hq hc (hs ht)
      subst hsf
      refine ⟨true, by simp [hushStep], fun _ => ?_⟩
      rw [World.setObj_self]
      exact ⟨rfl, rfl, rfl⟩
  | some e =>
    rw [run_doDetach_error h]
    refine hp.trans (frees_request w _ _ fun hc _ => hq hc) (Along.bind_of hp trivial
      (lets_handleError (searchOrLaw (Or.inl h))).toFrees fun _ w' he _ => Frees.setObj ?_ ?_)
    · exact ⟨fun h => h, Or.inr ⟨rfl, Or.inl (ended_of_handleError he)⟩, rfl, fun _ _ h => h⟩
    · exact fun h => ⟨h.1, rfl, rfl⟩

/-- detaching forgets all flags -/
theorem entered_doDetach (w : World SC) : StaysEntered env id w (doDetach env id w).2 := by
  cases h : env.request w.log (.detach (w.objs id).ptrace) with
  | none =>
    rw [run_doDetach_ok h]
    refine ⟨[.request id (.detach (w.objs id).ptrace) none, .detached id], by simp, fun _ => ?_⟩
    rw [World.setObj_self]
    simp [Entry.clears, Tracee.forget]
  | some e =>
    rw [run_doDetach_error h]
    have hf : Frees env False id (w.say (.request id (.detach (w.objs id).ptrace) (some e)))
        (handleError env id e (w.say (.request id (.detach (w.objs id).ptrace) (some e)))).2 :=
      (lets_handleError (searchOrLaw (Or.inl h))).toFrees
    cases hh : handleError env id e (w.say (.request id (.detach (w.objs id).ptrace) (some e))) with
    | mk r w1 =>
      rw [hh] at hf
      obtain ⟨es, he, -⟩ := hf.log
      have hlog : w1.log = w.log ++ (.request id (.detach (w.objs id).ptrace) (some e) :: es) := by
        rw [he]
        simp
      cases r with
      | ok u =>
        rw [run_bind_ok hh]
        refine ⟨_, hlog, fun _ => ?_⟩
        show ((w1.setObj id _).objs id).flags.syscallEntered = _
        rw [World.setObj_self]
        simp [Entry.clears, Tracee.forget]
      | error x =>
        rw [run_bind_error hh]
        refine ⟨_, hlog, fun hl => ?_⟩
        -- the law leaves only `ESRCH`, which is handled
        have hs : e = Errno.search := hl.detach (Or.inl h)
        unfold handleError at hh
        rw [if_pos hs] at hh
        obtain ⟨w2, hd⟩ : ∃ w2, changeState env id .dead
            (w.say (.request id (.detach (w.objs id).ptrace) (some e))) = (.ok (), w2) :=
          run_dead_ok hl _
        rw [hd] at hh
        cases hh

theorem lets_doDetach {w : World SC} (hq : q → ¬ (w.objs id).Calm) :
    Lets env q id w (doDetach env id w).2 := ⟨frees_doDetach hq, entered_doDetach w⟩

/-- `detach` does nothing for a tracee that is detached from -/
theorem run_detach_calm {w : World SC} (h : (w.objs id).Calm) :
    detach env id w = (.ok true, w) := by
  unfold detach
  rw [run_bind_ok (run_getTracee id w), if_pos h.ptrace]
  rfl

theorem letting_detach : Letting env q id (detach env id : Step SC Bool) := by
  have hp : Walk (fun _ : World SC => True) _ := Lets.walk env q id
  intro w _
  unfold detach
  rw [run_bind_ok (run_getTracee id w)]
  by_cases h1 : (w.objs id).ptrace = ProcessID.invalid
  · rw [if_pos h1]
    exact hp.refl w
  have hcalm : ∀ t : Tracee, t.ptrace = (w.objs id).ptrace → ¬ t.Calm :=
    fun t ht hc => h1 (ht ▸ hc.ptrace)
  rw [if_neg h1]
  split_ifs
  · exact hp.refl w
  · exact Along.bind_of hp trivial (lets_doDetach fun _ => hcalm _ rfl) fun _ w' _ _ => hp.refl w'
  · refine Along.bind_of hp trivial ?_ fun _ w1 h2 _ => ?_
    · refine Lets.setObj ⟨⟨fun h => h, Or.inl rfl, rfl, fun _ _ h => h⟩, rfl,
        fun h => absurd h (hcalm _ rfl)⟩
    · have hw1 : (w1.objs id).ptrace = (w.objs id).ptrace := by
        rw [← (Prod.mk.inj h2).2, World.setObj_self]
      have hint : Lets env q id w1 (catchApi (request env id (.interrupt (w.objs id).ptrace))
          (handleError env id) w1).2 := by
        unfold catchApi handle
        rw [run_request]
        cases h : env.request w1.log (.interrupt (w.objs id).ptrace) with
        | none => exact lets_request w1 _ rfl fun _ _ => hcalm _ hw1
        | some e =>
          exact hp.trans (lets_request w1 _ rfl fun _ _ => hcalm _ hw1)
            (lets_handleError (searchOrLaw (Or.inr h)))
      refine Along.bind_of hp trivial ?_ fun _ w2 _ _ => hp.refl w2
      unfold Exec.when
      split_ifs
      · exact hint
      · exact hp.refl w1

theorem letting_destroy : Letting env q id (destroy env id : Step SC Unit) := by
  have hp : Walk (fun _ : World SC => True) _ := Lets.walk env q id
  have hsay : Letting env q id (say (.destroyed id) : Step SC Unit) := by
    intro w _
    exact ⟨⟨OnObj.say (show Entry.IsLetting id (.destroyed id) from rfl), Released.refl env _,
      fun _ => ⟨[_], rfl, fun s hs => ⟨s, rfl, hs⟩⟩⟩, [_], rfl, fun _ => by simp [Entry.clears]⟩
  refine Along.bind hp letting_read fun t => ?_
  refine Along.ite (fun _ => Along.pure hp _) fun _ => Along.bind hp hsay fun _ => ?_
  refine Along.ite (fun _ => letting_catchCosmos ?_) fun _ => letting_catchCosmos ?_
  · refine Along.bind hp letting_read fun t => ?_
    refine Along.bind hp (Along.when hp fun _ => ?_) fun _ => letting_cleanupChild
    exact Along.handle hp (letting_request rfl) fun e =>
      Along.ite (fun _ => Along.pure hp _) fun _ => Along.raise hp _
  · exact Along.bind hp letting_detach fun _ => Along.pure hp _

end

end Clues
