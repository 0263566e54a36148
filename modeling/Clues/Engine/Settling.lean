import Clues.Engine.Besides
import Clues.Lib.History

/-!
# What only few functions do

Most functions neither make a tracee wait for its attach stop nor log the entries that single
functions make (`Entry.isRare`).

* `Settles A K n`   no object below `n` starts to wait, nothing of the rare entries `A` is logged,
                    and under `K` the system call objects and what refers to them stay (`Still`);
* `Settling A K n x`   the function `x` does no more than that; one lemma for each function.
-/

set_option linter.unusedSectionVars false

namespace Clues

open Lib Lib.Exec Lib.History Step

variable {SC : Type} [SyscallOps SC] {env : Env} {A : Entry → Bool} {K : Prop} {n : TraceeId}

/-! ## the relation -/

/-- the entries that single functions make -/
def Entry.isRare : Entry → Bool
  | .callback (.attached _) | .callback (.syscallEntry _ _ _) | .request _ (.getSyscallInfo _) _
  | .request _ (.restart _ _ _) _ | .execed _ _ _ => true
  | _ => false

def Entry.isAttached : Entry → Bool
  | .callback (.attached _) => true
  | _ => false

/-- a choice of them -/
class Rare (A : Entry → Bool) : Prop where
  rare : ∀ e, A e = true → e.isRare = true

instance : Rare Entry.isAttached where
  rare e h := by
    unfold Entry.isAttached at h
    split at h
    · rfl
    · cases h

theorem eq_false_of_isAttached (hA : ∀ e, A e = true → e.isAttached = true) {e : Entry}
    (h : e.isAttached = false) : A e = false := by
  rw [Bool.eq_false_iff]
  intro he
  rw [hA e he] at h
  cases h

theorem eq_false_of_isRare [Rare A] {e : Entry} (h : e.isRare = false) : A e = false := by
  rw [Bool.eq_false_iff]
  intro he
  rw [Rare.rare e he] at h
  cases h

def Tracee.waits (t : Tracee) : Bool := t.flags.waitForAttachStop

/-- the system call objects that a tracee refers to -/
structure Shelf where
  db : SystemCallNr → Option CallId := fun _ => none
  current : Option CallId := none
  interrupted : Option CallId := none

def Tracee.shelf (t : Tracee) : Shelf := ⟨t.syscallDb, t.currentSyscall, t.interruptedSyscall⟩

/-- no system call object changes, and each tracee refers to the same ones; a new one to none -/
structure Still (w w' : World SC) : Prop where
  calls : w'.calls = w.calls
  nextCall : w'.nextCall = w.nextCall
  shelf : ∀ id, (w'.objs id).shelf = (w.objs id).shelf ∨
    w.nextObj ≤ id ∧ (w'.objs id).shelf = {}

theorem Still.refl (w : World SC) : Still w w := ⟨rfl, rfl, fun _ => Or.inl rfl⟩

theorem Still.shelf_of_lt {w w' : World SC} (h : Still w w') {id : TraceeId}
    (hid : id < w.nextObj) :
    (w'.objs id).shelf = (w.objs id).shelf := by
  obtain hs | ⟨hle, -⟩ := h.shelf id
  · exact hs
  · exact absurd hid (not_lt.mpr hle)

theorem Still.trans {w w' w'' : World SC} (h : Still w w') (h' : Still w' w'')
    (hn : w.nextObj ≤ w'.nextObj) : Still w w'' := by
  refine ⟨h'.calls.trans h.calls, h'.nextCall.trans h.nextCall, fun id => ?_⟩
  obtain hs' | ⟨hid, hs'⟩ := h'.shelf id
  · rw [hs']
    exact h.shelf id
  · exact Or.inr ⟨hn.trans hid, hs'⟩

theorem Still.setObj (w : World SC) {id : TraceeId} {t : Tracee}
    (h : t.shelf = (w.objs id).shelf) : Still w (w.setObj id t) := by
  refine ⟨rfl, rfl, fun i => Or.inl ?_⟩
  by_cases hi : i = id
  · rw [hi, World.setObj_self, h]
  · rw [World.setObj_of_ne w t hi]

structure Settles (A : Entry → Bool) (K : Prop) (n : TraceeId) (w w' : World SC) : Prop where
  nextObj : w.nextObj ≤ w'.nextObj
  stored : w'.unknownEvents = w.unknownEvents
  waits : ∀ id, id < n → (w'.objs id).waits = true → (w.objs id).waits = true
  log : ∃ es, w'.log = w.log ++ es ∧ ∀ e ∈ es, A e = false
  still : K → Still w w'

def Below (n : TraceeId) (w : World SC) : Prop := n ≤ w.nextObj

theorem Settles.refl (w : World SC) : Settles A K n w w :=
  ⟨le_rfl, rfl, fun _ _ h => h, ⟨[], by simp, by simp⟩, fun _ => Still.refl w⟩

theorem Settles.trans {w w' w'' : World SC} (h : Settles A K n w w') (h' : Settles A K n w' w'') :
    Settles A K n w w'' := by
  refine ⟨h.nextObj.trans h'.nextObj, h'.stored.trans h.stored,
    fun id hid hw => h.waits id hid (h'.waits id hid hw), ?_,
    fun hK => (h.still hK).trans (h'.still hK) h.nextObj⟩
  obtain ⟨es, he, hes⟩ := h.log
  obtain ⟨es', he', hes'⟩ := h'.log
  refine ⟨es ++ es', by rw [he', he, List.append_assoc], fun e hm => ?_⟩
  rcases List.mem_append.mp hm with hm | hm
  · exact hes e hm
  · exact hes' e hm

theorem Settles.walk : Walk (Below n : World SC → Prop) (Settles A K n) :=
  ⟨Settles.refl, Settles.trans, fun hB h => le_trans hB h.nextObj⟩

theorem Settles.said (w : World SC) {e : Entry} (h : A e = false) :
    Settles A K n w (w.say e) :=
  ⟨le_rfl, rfl, fun _ _ h => h, ⟨[e], rfl, fun _ hm => by rwa [List.mem_singleton.mp hm]⟩,
    fun _ => ⟨rfl, rfl, fun _ => Or.inl rfl⟩⟩

/-- nothing but the objects, the stored events, the system call objects and the log matters -/
theorem Settles.same {w w' : World SC} (h : (w'.nextObj, w'.objs, w'.unknownEvents, w'.log)
      = (w.nextObj, w.objs, w.unknownEvents, w.log))
    (hc : K → (w'.calls, w'.nextCall) = (w.calls, w.nextCall)) : Settles A K n w w' := by
  simp only [Prod.mk.injEq] at h hc
  obtain ⟨hn, ho, hu, hl⟩ := h
  refine ⟨le_of_eq hn.symm, hu, fun id _ hw => by rwa [ho] at hw, ⟨[], by simp [hl], by simp⟩,
    fun hK => ⟨(hc hK).1, (hc hK).2, fun id => Or.inl ?_⟩⟩
  rw [ho]

theorem Settles.setObj (w : World SC) {id : TraceeId} {t : Tracee}
    (h : id < n → t.waits = true → (w.objs id).waits = true)
    (hs : K → t.shelf = (w.objs id).shelf) : Settles A K n w (w.setObj id t) := by
  refine ⟨le_rfl, rfl, fun i hi hw => ?_, ⟨[], by simp, by simp⟩,
    fun hK => Still.setObj w (hs hK)⟩
  by_cases hid : i = id
  · subst hid
    rw [World.setObj_self] at hw
    exact h hi hw
  · rwa [World.setObj_of_ne w t hid] at hw

abbrev Settling {α : Type} (A : Entry → Bool) (K : Prop) (n : TraceeId) (x : Step SC α) : Prop :=
  Along (Below n : World SC → Prop) (Settles A K n) x

/-! ## primitive steps -/

namespace Settling

theorem pure {α : Type} (a : α) : Settling A K n (Pure.pure a : Step SC α) :=
  Along.pure Settles.walk a

theorem raise {α : Type} (e : Exc) : Settling A K n (Exec.raise e : Step SC α) :=
  Along.raise Settles.walk e

theorem lift {α : Type} (r : Except Exc α) : Settling A K n (Exec.lift r : Step SC α) :=
  Along.lift Settles.walk r

theorem bind {α β : Type} {x : Step SC α} {f : α → Step SC β} (hx : Settling A K n x)
    (hf : ∀ a, Settling A K n (f a)) : Settling A K n (x >>= f) := Along.bind Settles.walk hx hf

theorem when {c : Prop} [Decidable c] {x : Step SC Unit} (hx : Settling A K n x) :
    Settling A K n (Exec.when c x) := Along.when Settles.walk fun _ => hx

theorem ite {α : Type} {c : Prop} [Decidable c] {x y : Step SC α} (hx : Settling A K n x)
    (hy : Settling A K n y) : Settling A K n (if c then x else y) :=
  Along.ite (fun _ => hx) fun _ => hy

theorem each {α : Type} {xs : List α} {body : α → Step SC Unit}
    (h : ∀ x, Settling A K n (body x)) : Settling A K n (Exec.each xs body) :=
  Along.each Settles.walk fun x _ => h x

theorem read {α : Type} {f : World SC → Step SC α} (h : ∀ w, Settling A K n (f w)) :
    Settling A K n (Exec.read >>= f) := Along.read_bind fun w hw => h w w hw

theorem update {f : World SC → World SC}
    (h : ∀ w, ((f w).nextObj, (f w).objs, (f w).unknownEvents, (f w).log)
      = (w.nextObj, w.objs, w.unknownEvents, w.log))
    (hc : ∀ w, ((f w).calls, (f w).nextCall) = (w.calls, w.nextCall)) :
    Settling A K n (Exec.update f : Step SC Unit) := fun w _ => Settles.same (h w) fun _ => hc w

/-- the system call objects change -/
theorem update_calls {f : World SC → World SC}
    (h : ∀ w, ((f w).nextObj, (f w).objs, (f w).unknownEvents, (f w).log)
      = (w.nextObj, w.objs, w.unknownEvents, w.log)) :
    Settling A False n (Exec.update f : Step SC Unit) := fun w _ => Settles.same (h w) False.elim

theorem say_of {e : Entry} (h : A e = false) : Settling A K n (Step.say e : Step SC Unit) :=
  fun w _ => Settles.said w h

theorem say [Rare A] {e : Entry} (h : e.isRare = false) :
    Settling A K n (Step.say e : Step SC Unit) :=
  say_of (eq_false_of_isRare h)

theorem getTracee (id : TraceeId) : Settling A K n (Step.getTracee id : Step SC Tracee) :=
  fun w _ => Settles.refl w

theorem modify {id : TraceeId} {f : Tracee → Tracee}
    (h : ∀ t, (f t).waits = true → t.waits = true) (hs : ∀ t, (f t).shelf = t.shelf) :
    Settling A K n (modifyTracee id f : Step SC Unit) := fun w _ =>
  Settles.setObj w (fun _ => h _) fun _ => hs _

/-- it may refer to other system call objects then -/
theorem modify_shelf {id : TraceeId} {f : Tracee → Tracee}
    (h : ∀ t, (f t).waits = true → t.waits = true) :
    Settling A False n (modifyTracee id f : Step SC Unit) := fun w _ =>
  Settles.setObj w (fun _ => h _) False.elim

/-- an object that is not below `n` may start to wait -/
theorem modify_new {id : TraceeId} (hid : n ≤ id) {f : Tracee → Tracee}
    (hs : ∀ t, (f t).shelf = t.shelf) :
    Settling A K n (modifyTracee id f : Step SC Unit) :=
  fun w _ => Settles.setObj w (fun h => absurd h (not_lt.mpr hid)) fun _ => hs _

theorem handle {α : Type} {x : Step SC α} {g : Exc → Step SC α} (hx : Settling A K n x)
    (hg : ∀ e, Settling A K n (g e)) : Settling A K n (Exec.handle x g) :=
  Along.handle Settles.walk hx hg

theorem catchApi {α : Type} {x : Step SC α} {g : Errno → Step SC α} (hx : Settling A K n x)
    (hg : ∀ e, Settling A K n (g e)) : Settling A K n (Step.catchApi x g) := by
  apply handle hx
  intro e
  cases e with
  | api errno => exact hg errno
  | _ => exact raise _

theorem catchAll {α : Type} {x g : Step SC α} (hx : Settling A K n x) (hg : Settling A K n g) :
    Settling A K n (Step.catchAll x g) := handle hx fun _ => ite hg (raise _)

theorem catchCosmos {α : Type} {x g : Step SC α} (hx : Settling A K n x) (hg : Settling A K n g) :
    Settling A K n (Step.catchCosmos x g) := handle hx fun _ => ite hg (raise _)

theorem request_of (id : TraceeId) (r : Request) (h : ∀ e, A (.request id r e) = false) :
    Settling A K n (Step.request env id r : Step SC Unit) := by
  intro w _
  rw [run_request]
  exact Settles.said w (h _)

theorem query_of {α : Type} (id : TraceeId) (r : Request) (answer : Log → α)
    (h : ∀ e, A (.request id r e) = false) :
    Settling A K n (Step.query env id r answer : Step SC α) :=
  read fun _ => bind (request_of id r h) fun _ => pure _

theorem request [Rare A] (id : TraceeId) (r : Request)
    (h : ∀ e, Entry.isRare (.request id r e) = false) :
    Settling A K n (Step.request env id r : Step SC Unit) :=
  request_of id r fun _ => eq_false_of_isRare (h _)

theorem query [Rare A] {α : Type} (id : TraceeId) (r : Request) (answer : Log → α)
    (h : ∀ e, Entry.isRare (.request id r e) = false) :
    Settling A K n (Step.query env id r answer : Step SC α) :=
  query_of id r answer fun _ => eq_false_of_isRare (h _)

theorem inquire [Rare A] {α : Type} (r : Request) (answer : Log → α) :
    Settling A K n (Step.inquire env r answer : Step SC α) := by
  apply read
  intro w
  apply bind (say rfl)
  intro _
  cases env.request w.log r with
  | none => exact pure _
  | some e => exact raise _

end Settling

variable [Rare A]

/-! ## detaching -/

theorem settling_cleanupChild (id : TraceeId) :
    Settling A K n (cleanupChild env id : Step SC Unit) := by
  apply Settling.bind (Settling.getTracee id)
  intro t
  apply Settling.ite _ (Settling.pure ())
  apply Settling.bind
  · apply Settling.catchApi (Settling.request id _ fun _ => rfl)
    exact fun e => Settling.ite (Settling.raise _) (Settling.pure ())
  · exact fun _ => Settling.modify (fun _ h => h) fun _ => rfl

theorem settling_enterState (id : TraceeId) (s : State) :
    Settling A K n (enterState env id s : Step SC Unit) := by
  cases s with
  | groupStop =>
    apply Settling.modify
    · intro t h
      split_ifs at h
      · exact h
      · exact h
    · intro t
      split_ifs
      · rfl
      · rfl
  | syscallEnterStop => exact Settling.modify (fun _ h => h) fun _ => rfl
  | syscallExitStop => exact Settling.modify (fun _ h => h) fun _ => rfl
  | detached => exact Settling.modify (fun _ h => h) fun _ => rfl
  | dead =>
    apply Settling.bind (Settling.getTracee id)
    intro t
    exact Settling.ite (settling_cleanupChild id) (Settling.pure ())
  | _ => exact Settling.pure ()

theorem settling_changeState (id : TraceeId) (s : State) :
    Settling A K n (changeState env id s : Step SC Unit) :=
  Settling.bind (settling_enterState id s) fun _ => Settling.modify (fun _ h => h) fun _ => rfl

theorem settling_handleError (id : TraceeId) (errno : Errno) :
    Settling A K n (handleError env id errno : Step SC Unit) :=
  Settling.ite (settling_changeState id .dead)
    (Settling.bind (Settling.modify (fun _ h => h) fun _ => rfl) fun _ => Settling.raise _)

theorem settling_doDetach (id : TraceeId) : Settling A K n (doDetach env id : Step SC Unit) := by
  apply Settling.bind (Settling.getTracee id)
  intro t
  apply Settling.bind
  · apply Settling.catchApi _ (settling_handleError id)
    exact Settling.bind (Settling.request id _ fun _ => rfl) fun _ =>
      Settling.bind (Settling.say rfl) fun _ => settling_changeState id .detached
  · exact fun _ => Settling.modify (fun _ h => nomatch h) fun _ => rfl

theorem settling_detach (id : TraceeId) : Settling A K n (detach env id : Step SC Bool) := by
  apply Settling.bind (Settling.getTracee id)
  intro t
  apply Settling.ite (Settling.pure _)
  apply Settling.ite (Settling.pure _)
  apply Settling.ite
  · exact Settling.bind (settling_doDetach id) fun _ => Settling.pure _
  · apply Settling.bind
    · exact Settling.modify (fun _ h => h) fun _ => rfl
    intro _
    apply Settling.bind _ fun _ => Settling.pure _
    apply Settling.when
    exact Settling.catchApi (Settling.request id _ fun _ => rfl) (settling_handleError id)

theorem settling_destroy (id : TraceeId) : Settling A K n (destroy env id : Step SC Unit) := by
  apply Settling.bind (Settling.getTracee id)
  intro t
  apply Settling.ite (Settling.pure ())
  apply Settling.bind (Settling.say rfl)
  intro _
  apply Settling.ite
  · apply Settling.catchCosmos _ (Settling.pure ())
    apply Settling.bind (Settling.getTracee id)
    intro t
    apply Settling.bind _ fun _ => settling_cleanupChild id
    exact Settling.when (Settling.catchAll (Settling.request id _ fun _ => rfl) (Settling.pure ()))
  · apply Settling.catchCosmos _ (Settling.pure ())
    exact Settling.bind (settling_detach id) fun _ => Settling.pure ()

/-! ## entries of `m_tracees` -/

theorem settling_extractTracee (key : ProcessID) :
    Settling A K n (extractTracee key : Step SC (Option TraceeId)) := by
  apply Settling.read
  intro w
  apply Settling.bind
  · exact Settling.update (fun _ => rfl) fun _ => rfl
  intro _
  cases w.tracees.find? key with
  | none => exact Settling.pure _
  | some e =>
    cases e with
    | none => exact Settling.pure _
    | some id => exact Settling.bind (Settling.say rfl) fun _ => Settling.pure _

theorem settling_eraseTracee (key : ProcessID) :
    Settling A K n (eraseTracee env key : Step SC Unit) := by
  apply Settling.bind (settling_extractTracee key)
  intro r
  cases r with
  | none => exact Settling.pure ()
  | some id => exact settling_destroy id

theorem settling_entryTracee (key : ProcessID) :
    Settling A K n (entryTracee key : Step SC TraceeId) := by
  apply Settling.read
  intro w
  cases w.tracees.find? key with
  | none => exact Settling.raise _
  | some e =>
    cases e with
    | none => exact Settling.raise _
    | some id => exact Settling.pure id

theorem settling_checkContained (it : Iter) : Settling A K n (checkContained it : Step SC Unit) :=
  Settling.read fun _ => Settling.ite (Settling.pure ()) (Settling.raise _)

theorem settling_checkCleanupTracee (key : ProcessID) :
    Settling A K n (checkCleanupTracee env key : Step SC Unit) := by
  apply Settling.bind (settling_entryTracee key)
  intro id
  apply Settling.bind (Settling.getTracee id)
  intro t
  apply Settling.ite
  · exact Settling.ite (settling_eraseTracee key) (Settling.pure ())
  · apply Settling.ite _ (Settling.pure ())
    exact Settling.bind (settling_doDetach id) fun _ => settling_eraseTracee key

/-! ## the consumer -/

theorem settling_stopTracee (signal : Option Signal) (key : ProcessID) :
    Settling A K n (stopTracee env signal key : Step SC Unit) := by
  apply Settling.bind (settling_entryTracee key)
  intro id
  apply Settling.bind
  · apply Settling.bind (Settling.getTracee id)
    intro t
    cases signal with
    | none => exact Settling.pure ()
    | some sig => exact Settling.when (Settling.request id _ fun _ => rfl)
  intro _
  apply Settling.bind (Settling.say rfl)
  intro _
  apply Settling.bind (settling_detach id)
  intro _
  apply Settling.bind (Settling.getTracee id)
  intro t
  exact Settling.when (settling_eraseTracee key)

theorem settling_consumerCall (c : ConsumerCall) :
    Settling A K n (consumerCall env c : Step SC Unit) := by
  cases c with
  | stop signal => exact Settling.read fun w => Settling.each (settling_stopTracee signal)
  | detach pid =>
    apply Settling.read
    intro w
    cases w.tracees.find? pid with
    | none => exact Settling.pure ()
    | some e =>
      cases e with
      | none => exact Settling.pure ()
      | some id =>
        exact Settling.bind (Settling.say rfl) fun _ =>
          Settling.bind (settling_detach id) fun _ => Settling.pure ()

theorem settling_consumerAct (a : ConsumerAct) :
    Settling A K n (consumerAct env a : Step SC Unit) :=
  Settling.ite (Settling.catchAll (settling_consumerCall _) (Settling.pure ()))
    (settling_consumerCall _)

theorem settling_notify_of (it : Iter) {c : Callback} (h : A (.callback c) = false) :
    Settling A K n (notify env it c : Step SC Unit) := by
  apply Settling.bind _ fun _ => settling_checkContained it
  apply Settling.bind (Settling.say_of h)
  intro _
  apply Settling.read
  intro w
  exact Settling.bind (Settling.each settling_consumerAct) fun _ => Settling.say rfl

theorem settling_notify (it : Iter) {c : Callback} (h : Entry.isRare (.callback c) = false) :
    Settling A K n (notify env it c : Step SC Unit) := settling_notify_of it (eq_false_of_isRare h)

/-! ## adding tracees -/

theorem settling_modifyProc (id : TraceeId) (f : ProcessData → ProcessData) :
    Settling A K n (modifyProc id f : Step SC Unit) := Settling.update (fun _ => rfl) fun _ => rfl

theorem settling_updateExecutable (id : TraceeId) :
    Settling A K n (updateExecutable env id : Step SC Unit) := by
  apply Settling.read
  intro w
  cases env.exe w.log (w.objs id).ptrace with
  | ok exe => exact settling_modifyProc _ _
  | error e => exact settling_modifyProc _ _

theorem settling_updateCmdLine (id : TraceeId) :
    Settling A K n (updateCmdLine env id : Step SC Unit) :=
  Settling.read fun _ => settling_modifyProc _ _

/-- the object that was made is not below `n` -/
theorem settling_newTracee {α : Type} {f : TraceeId → Step SC α} (kind : TraceeKind)
    (sibling : Option TraceeId) (hf : ∀ id, n ≤ id → Settling A K n (f id)) :
    Settling A K n (newTracee kind sibling >>= f) := by
  intro w hw
  obtain ⟨proc, procs, nextProc, hnew⟩ := newTracee_eq kind sibling w
  have h : Settles A K n w { w.setObj w.nextObj { kind := kind, processData := proc } with
      procs := procs, nextObj := w.nextObj + 1, nextProc := nextProc } := by
    refine ⟨Nat.le_succ _, rfl, fun id hid h => ?_, ⟨[], by simp, by simp⟩, fun _ =>
      ⟨rfl, rfl, fun id => ?_⟩⟩
    · have hne : id ≠ w.nextObj := ne_of_lt (lt_of_lt_of_le hid hw)
      rwa [← World.setObj_of_ne w { kind := kind, processData := proc } hne]
    · by_cases hid : id = w.nextObj
      · refine Or.inr ⟨le_of_eq hid.symm, ?_⟩
        rw [hid]
        show ((w.setObj w.nextObj { kind := kind, processData := proc }).objs w.nextObj).shelf = _
        rw [World.setObj_self]
        rfl
      · left
        show ((w.setObj w.nextObj { kind := kind, processData := proc }).objs id).shelf = _
        rw [World.setObj_of_ne w _ hid]
  rw [run_bind_ok hnew]
  exact h.trans (hf w.nextObj hw _ (Settles.walk.keeps hw h))

theorem settling_attach {id : TraceeId} (hid : n ≤ id) (followChildren attachThreads : Bool) :
    Settling A K n (attach env id followChildren attachThreads : Step SC Unit) := by
  apply Settling.bind
  · exact Settling.modify (fun _ h => h) fun _ => rfl
  intro _
  apply Settling.bind
  · apply Settling.bind (Settling.getTracee id)
    intro t
    apply Settling.handle (Settling.request id _ fun _ => rfl)
    intro e
    exact Settling.bind (Settling.when (settling_changeState id .dead)) fun _ => Settling.raise e
  intro _
  apply Settling.bind (Settling.getTracee id)
  intro t
  apply Settling.bind (settling_updateExecutable id)
  intro _
  apply Settling.bind (settling_updateCmdLine id)
  intro _
  apply Settling.bind (Settling.request id _ fun _ => rfl)
  intro _
  apply Settling.bind
  · exact Settling.modify_new hid fun _ => rfl
  intro _
  apply Settling.bind
  · apply Settling.when
    apply Settling.bind (Settling.request id _ fun _ => rfl)
    exact fun _ => Settling.modify (fun _ h => h) fun _ => rfl
  · exact fun _ => Settling.when (Settling.modify (fun _ h => h) fun _ => rfl)

theorem settling_putTracee (pid : ProcessID) (id : TraceeId) :
    Settling A K n (putTracee pid id : Step SC Unit) := by
  apply Settling.bind
  · exact Settling.update (fun _ => rfl) fun _ => rfl
  · exact fun _ => Settling.say rfl

theorem settling_assignTracee (pid : ProcessID) (id : TraceeId) :
    Settling A K n (assignTracee env pid id : Step SC Unit) := by
  apply Settling.bind (settling_extractTracee pid)
  intro old
  apply Settling.bind (settling_putTracee pid id)
  intro _
  cases old with
  | none => exact Settling.pure ()
  | some old => exact settling_destroy old

theorem settling_addForeign (pid : ProcessID) (followChildren attachThreads : Bool)
    (sibling : ProcessID) (hold : Bool) :
    Settling A K n (addForeign env pid followChildren attachThreads sibling hold :
      Step SC TraceeId) := by
  apply Settling.read
  intro w
  apply settling_newTracee
  intro id hid
  apply Settling.bind
  · exact Settling.modify (fun _ h => h) fun _ => rfl
  intro _
  apply Settling.bind
  · apply Settling.handle (settling_attach hid followChildren attachThreads)
    exact fun e => Settling.bind (settling_destroy id) fun _ => Settling.raise e
  intro _
  apply Settling.bind
  · exact Settling.modify (fun _ h => h) fun _ => rfl
  intro _
  exact Settling.bind (settling_assignTracee pid id) fun _ => Settling.pure id

theorem settling_create {id : TraceeId} (cmdline : List String) :
    Settling A K n (create env id cmdline : Step SC Unit) := by
  apply Settling.read
  intro w
  apply Settling.ite
  · exact Settling.bind (settling_changeState id .dead) fun _ => Settling.raise _
  · apply Settling.bind (Settling.lift _)
    intro child
    apply Settling.bind
    · exact Settling.modify (fun _ h => h) fun _ => rfl
    intro _
    apply Settling.bind (Settling.request id _ fun _ => rfl)
    intro _
    apply Settling.bind
    · exact Settling.modify (fun _ h => h) fun _ => rfl
    · exact fun _ => Settling.modify (fun _ h => h) fun _ => rfl

theorem settling_addChild (cmdline : List String) (followChildren hold : Bool) :
    Settling A K n (addChild env cmdline followChildren hold : Step SC TraceeId) := by
  apply settling_newTracee
  intro id hid
  apply Settling.bind
  · apply Settling.handle
    · exact Settling.bind (settling_create cmdline) fun _ => settling_attach hid _ _
    · exact fun e => Settling.bind (settling_destroy id) fun _ => Settling.raise e
  intro _
  apply Settling.bind (Settling.getTracee id)
  intro t
  apply Settling.bind
  · exact Settling.modify (fun _ h => h) fun _ => rfl
  intro _
  exact Settling.bind (settling_assignTracee t.pid id) fun _ => Settling.pure id

theorem settling_attachThreads (it : Iter) :
    Settling A K n (attachThreads env it : Step SC Unit) := by
  apply Settling.read
  intro w
  apply Settling.bind (Settling.lift _)
  intro pids
  apply Settling.bind _ fun _ => settling_checkContained it
  apply Settling.each
  intro pid
  apply Settling.bind (Settling.getTracee it.id)
  intro t
  apply Settling.ite (Settling.pure ())
  apply Settling.catchAll _ (Settling.pure ())
  apply Settling.bind (settling_addForeign _ _ _ _ _)
  exact fun thread => Settling.modify (fun _ h => h) fun _ => rfl

/-! ## the initial ptrace stop -/

theorem settling_getRegisters (id : TraceeId) (abi : ABI) :
    Settling A K n (getRegisters env id abi : Step SC RegisterSet) := by
  apply Settling.bind (Settling.getTracee id)
  intro t
  apply Settling.bind (Settling.query id _ _ fun _ => rfl)
  intro r
  cases r with
  | none => exact Settling.raise _
  | some info => exact Settling.pure _

theorem settling_getInitialRegisters (id : TraceeId) :
    Settling A K n (getInitialRegisters env id : Step SC Unit) := by
  have hset : ∀ abi, Settling A K n (do
      let rs ← getRegisters env id abi
      modifyTracee id fun t => { t with initialRegset := rs } : Step SC Unit) := fun abi =>
    Settling.bind (settling_getRegisters id abi) fun _ =>
      Settling.modify (fun _ h => h) fun _ => rfl
  apply Settling.handle
  · apply Settling.bind (settling_getRegisters id _)
    intro rs
    apply Settling.bind
    · exact Settling.modify (fun _ h => h) fun _ => rfl
    · exact fun _ => Settling.ite (hset .x32) (Settling.pure ())
  · intro e
    cases e with
    | runtime _ => exact hset .i386
    | _ => exact Settling.raise _

theorem settling_initFDs (id : TraceeId) : Settling A K n (initFDs env id : Step SC Unit) := by
  apply Settling.read
  intro w
  apply Settling.ite _ (Settling.pure ())
  apply Settling.catchCosmos _ (Settling.pure ())
  exact Settling.bind (Settling.lift _) fun infos => Settling.each fun _ => settling_modifyProc _ _

/-! ## system calls -/

theorem settling_startDecode (id : TraceeId) :
    Settling A K n (startDecode env id : Step SC DecodeEnv) := by
  apply Settling.bind (Settling.getTracee id)
  intro t
  exact Settling.bind (Settling.say rfl) fun _ => Settling.read fun w => Settling.pure _

theorem settling_getCall (c : CallId) : Settling A K n (getCall c : Step SC (CallObj SC)) := by
  apply Settling.read
  intro w
  cases w.calls c with
  | none => exact Settling.raise _
  | some call => exact Settling.pure call

theorem settling_putCall (c : CallId) (sc : SC) :
    Settling A False n (putCall c sc : Step SC Unit) := Settling.update_calls fun _ => rfl

theorem settling_derefCall (c : Option CallId) : Settling A K n (derefCall c : Step SC CallId) := by
  cases c with
  | none => exact Settling.raise _
  | some c => exact Settling.pure c

theorem settling_dbGet (id : TraceeId) (info : SystemCallInfo) :
    Settling A False n (dbGet env id info : Step SC CallId) := by
  apply Settling.bind (Settling.getTracee id)
  intro t
  cases t.syscallDb info.sysNr with
  | some c => exact Settling.pure c
  | none =>
    apply Settling.bind (settling_startDecode id)
    intro de
    apply Settling.bind (Settling.lift _)
    intro r
    apply Settling.bind
    · apply Settling.read
      intro w
      apply Settling.bind
      · exact Settling.update_calls fun _ => rfl
      · exact fun _ => Settling.pure _
    intro c
    apply Settling.bind
    · exact Settling.when (Settling.modify_shelf fun _ h => h)
    · exact fun _ => Settling.pure c

theorem settling_setEntryInfo (id : TraceeId) (c : CallId) (info : SystemCallInfo) :
    Settling A False n (setEntryInfo env id c info : Step SC Unit) := by
  apply Settling.bind (settling_startDecode id)
  intro de
  apply Settling.bind (settling_getCall c)
  intro call
  exact Settling.bind (settling_putCall c _) fun _ => Settling.lift _

theorem settling_setExitInfo (id : TraceeId) (c : CallId) (info : SystemCallInfo) :
    Settling A False n (setExitInfo env id c info : Step SC Unit) := by
  apply Settling.bind (settling_startDecode id)
  intro de
  apply Settling.bind (settling_getCall c)
  intro call
  apply Settling.read
  intro w
  apply Settling.bind (settling_putCall c _)
  intro _
  apply Settling.bind (settling_modifyProc id _)
  intro _
  apply Settling.bind
  · exact Settling.modify (fun _ h => h) fun _ => rfl
  · exact fun _ => Settling.lift _

theorem settling_checkResumed (id : TraceeId) (info : SystemCallInfo) (call : CallObj SC) :
    Settling A False n (checkResumed env id info call : Step SC Bool) := by
  apply Settling.bind (Settling.getTracee id)
  intro t
  apply Settling.ite
  · cases t.interruptedSyscall with
    | some i =>
      apply Settling.bind
      · exact Settling.modify_shelf fun _ h => h
      · exact fun _ => Settling.pure true
    | none =>
      apply Settling.ite (Settling.pure false)
      apply Settling.bind (Settling.getTracee id)
      intro t
      cases t.getInitialSyscallInfo env info.abi with
      | none => exact Settling.pure false
      | some orig =>
        apply Settling.ite (Settling.pure false)
        apply Settling.bind (settling_dbGet id orig)
        intro c
        apply Settling.bind
        · exact Settling.modify_shelf fun _ h => h
        · exact fun _ => Settling.pure true
  · cases t.interruptedSyscall with
    | none => exact Settling.pure false
    | some i =>
      apply Settling.ite _ (Settling.pure false)
      apply Settling.bind (settling_getCall i)
      intro interrupted
      apply Settling.bind
      · exact Settling.modify_shelf fun _ h => h
      intro _
      apply Settling.bind
      · exact Settling.modify_shelf fun _ h => h
      · exact fun _ => Settling.pure _

theorem settling_handleSystemCallEntry (hA : ∀ e, A e = true → e.isAttached = true) (it : Iter)
    (info : SystemCallInfo) :
    Settling A False n (handleSystemCallEntry env it info : Step SC Unit) := by
  apply Settling.bind (settling_dbGet it.id info)
  intro c
  apply Settling.bind
  · exact Settling.modify_shelf fun _ h => h
  intro _
  apply Settling.bind (settling_getCall c)
  intro call
  apply Settling.bind (Settling.lift _)
  intro _
  apply Settling.bind (settling_checkResumed it.id info call)
  intro resumed
  apply Settling.bind (Settling.getTracee it.id)
  intro t
  apply Settling.bind (settling_derefCall _)
  intro c
  apply Settling.bind (settling_setEntryInfo it.id c info)
  intro _
  apply Settling.bind
  · exact Settling.modify_shelf fun _ h => h
  · exact fun _ => settling_notify_of it (eq_false_of_isAttached hA rfl)

theorem settling_checkSigreturn (id : TraceeId) (call : CallObj SC) :
    Settling A False n (checkSigreturn id call : Step SC Unit) := by
  have hseen : Settling A False n
      (setFlags id fun f => { f with seenSigreturn := true } : Step SC Unit) :=
    Settling.modify_shelf fun _ h => h
  apply Settling.bind (Settling.getTracee id)
  intro t
  apply Settling.ite _ (Settling.pure ())
  cases SyscallOps.error call.obj with
  | none => exact hseen
  | some e =>
    apply Settling.ite _ hseen
    exact Settling.modify_shelf fun _ h => h

theorem settling_handleSystemCallExit (it : Iter) (info : SystemCallInfo) :
    Settling A False n (handleSystemCallExit env it info : Step SC Unit) := by
  apply Settling.bind (Settling.getTracee it.id)
  intro t
  apply Settling.bind (settling_derefCall _)
  intro c
  apply Settling.bind (settling_setExitInfo it.id c info)
  intro _
  apply Settling.bind (settling_getCall c)
  intro call
  apply Settling.bind
  · exact Settling.when (Settling.modify_shelf fun _ h => h)
  intro _
  apply Settling.bind (settling_notify it rfl)
  intro _
  apply Settling.bind (settling_checkSigreturn it.id call)
  exact fun _ => Settling.modify_shelf fun _ h => h

theorem settling_saySyscallStop (id : TraceeId) (info : SystemCallInfo) :
    Settling A K n (saySyscallStop env id info : Step SC Unit) := by
  unfold saySyscallStop
  cases info.stop with
  | entry e =>
    dsimp only
    cases info.updateSysNr env with
    | ok info' => exact Settling.say rfl
    | error e => exact Settling.say rfl
  | exit i => exact Settling.say rfl
  | none => exact Settling.pure ()
  | seccomp => exact Settling.pure ()

theorem settling_handleSyscallStop (hA : ∀ e, A e = true → e.isAttached = true) (it : Iter)
    (info : SystemCallInfo) :
    Settling A False n (handleSyscallStop env it info : Step SC Unit) := by
  apply Settling.bind (Settling.getTracee it.id)
  intro t
  apply Settling.ite
  · apply Settling.ite _ (Settling.raise _)
    exact Settling.bind (settling_changeState it.id _) fun _ => settling_handleSystemCallExit it _
  · apply Settling.ite _ (Settling.raise _)
    apply Settling.bind (Settling.lift _)
    intro info
    apply Settling.bind
    · exact Settling.modify (fun _ h => h) fun _ => rfl
    intro _
    exact Settling.bind (settling_changeState it.id _) fun _ =>
      settling_handleSystemCallEntry hA it info

theorem settling_handleSystemCall (hA : ∀ e, A e = true → e.isAttached = true) (it : Iter) :
    Settling A False n (handleSystemCall env it : Step SC Unit) := by
  have hinfo : ∀ info, Settling A False n
      (modifyTracee it.id fun t => { t with syscallInfo := info } : Step SC Unit) :=
    fun info => Settling.modify (fun _ h => h) fun _ => rfl
  apply Settling.bind (hinfo _)
  intro _
  apply Settling.bind (Settling.getTracee it.id)
  intro t
  apply Settling.bind
  · exact Settling.query_of it.id _ _ fun _ => eq_false_of_isAttached hA rfl
  intro r
  apply Settling.bind (hinfo _)
  intro _
  apply Settling.bind (settling_saySyscallStop it.id _)
  intro _
  apply Settling.bind _ fun _ => hinfo none
  exact settling_handleSyscallStop hA it _

/-! ## events -/

theorem settling_configure {id : TraceeId} (hid : n ≤ id) (pid : ProcessID) (call : CallObj SC) :
    Settling A K n (configure id pid call : Step SC Unit) := by
  apply Settling.bind
  · exact Settling.modify (fun _ h => h) fun _ => rfl
  intro _
  apply Settling.bind
  · exact Settling.modify_new hid fun _ => rfl
  intro _
  apply Settling.bind (Settling.lift _)
  intro shares
  apply Settling.ite _ (Settling.pure ())
  intro w _
  have hsame : Settles A K n w (w.setObj id { w.objs id with processData := w.nextProc }) :=
    Settles.setObj w (fun _ h => h) fun _ => rfl
  refine ⟨hsame.nextObj, rfl, hsame.waits, hsame.log, fun hK => ?_⟩
  exact ⟨rfl, rfl, (hsame.still hK).shelf⟩

theorem settling_addAutoAttached (it : Iter) (pid : ProcessID) (event : PtraceEvent)
    (call : CallObj SC) :
    Settling A K n (addAutoAttached env it pid event call : Step SC Unit) := by
  apply Settling.bind (Settling.getTracee it.id)
  intro parent
  apply Settling.bind
  · apply Settling.read
    intro w
    apply Settling.bind
    · exact Settling.update (fun _ => rfl) fun _ => rfl
    · exact fun _ => Settling.pure _
  intro sibling
  apply settling_newTracee
  intro id hid
  apply Settling.bind (settling_configure hid pid call)
  intro _
  apply Settling.bind
  · apply Settling.read
    intro w
    cases w.tracees.find? pid with
    | none => exact settling_putTracee pid id
    | some e => exact Settling.pure ()
  intro _
  apply Settling.bind
  · apply Settling.bind (Settling.getTracee it.id)
    intro t
    cases t.currentSyscall with
    | none => exact Settling.pure false
    | some c => exact Settling.bind (settling_getCall c) fun call => Settling.lift _
  intro thread
  apply Settling.bind (settling_entryTracee pid)
  intro child
  apply Settling.bind
  · exact Settling.bind (settling_notify it rfl) fun _ => settling_checkCleanupTracee pid
  · exact fun _ => Settling.when (settling_destroy id)

theorem settling_calledFrom (id : TraceeId) :
    Settling A K n (calledFrom env id : Step SC (ProcessID × CallObj SC)) := by
  have hpid : Settling A K n (getPIDEventMsg env id : Step SC ProcessID) :=
    Settling.bind (Settling.getTracee id) fun t => Settling.query id _ _ fun _ => rfl
  have hcall : Settling A K n (derefCurrent id : Step SC (CallObj SC)) :=
    Settling.bind (Settling.getTracee id) fun t =>
      Settling.bind (settling_derefCall _) fun c => settling_getCall c
  unfold calledFrom
  split_ifs
  · exact Settling.bind hcall fun call => Settling.bind hpid fun pid => Settling.pure _
  · exact Settling.bind hpid fun pid => Settling.bind hcall fun call => Settling.pure _

theorem settling_handleNewChildEvent (it : Iter) (event : PtraceEvent) :
    Settling A K n (handleNewChildEvent env it event : Step SC Unit) := by
  apply Settling.bind (settling_calledFrom it.id)
  intro r
  apply Settling.bind
  · apply Settling.ite (settling_addAutoAttached it r.1 event r.2)
    apply Settling.read
    exact fun w => settling_notify it rfl
  · exact fun _ => Settling.update (fun _ => rfl) fun _ => rfl

theorem settling_handleSubstitution (pid : ProcessID) :
    Settling A K n (handleSubstitution env pid : Step SC (Option TraceeId)) := by
  apply Settling.read
  intro w
  cases w.tracees.find? pid with
  | none => exact Settling.pure none
  | some e =>
    apply Settling.bind (settling_entryTracee pid)
    intro old
    apply Settling.bind
    · apply Settling.catchApi
      · exact Settling.bind (settling_detach old) fun _ => Settling.pure ()
      · exact fun e => Settling.ite (Settling.raise _) (Settling.pure ())
    intro _
    exact Settling.bind (settling_extractTracee pid) fun _ => Settling.pure _

theorem settling_replaceLeader (it : Iter) (mainPid formerPid : ProcessID) :
    Settling A False n (replaceLeader env it mainPid formerPid : Step SC Unit) := by
  apply Settling.bind (settling_handleSubstitution formerPid)
  intro old
  cases old with
  | none => exact Settling.modify_shelf fun _ h => h
  | some old =>
    apply Settling.bind _ fun _ => settling_destroy old
    apply Settling.bind (Settling.getTracee old)
    intro o
    apply Settling.bind
    · exact Settling.modify_shelf fun _ h => h
    intro _
    apply Settling.bind
    · exact Settling.modify_shelf fun _ h => h
    · exact fun _ => settling_changeState old .dead

theorem settling_handleExecEvent (hA : ∀ e, A e = true → e.isAttached = true) (it : Iter)
    (mainPid : ProcessID) :
    Settling A False n (handleExecEvent env it mainPid : Step SC Unit) := by
  apply Settling.read
  intro w
  apply Settling.bind (Settling.query it.id _ _ fun _ => rfl)
  intro formerPid
  apply Settling.bind (Settling.say_of (eq_false_of_isAttached hA rfl))
  intro _
  apply Settling.bind (Settling.when (settling_replaceLeader it mainPid formerPid))
  intro _
  apply Settling.bind
  · exact Settling.bind (settling_updateExecutable it.id) fun _ => settling_updateCmdLine it.id
  intro _
  apply Settling.bind _ fun _ => settling_notify it rfl
  apply Settling.read
  intro w
  cases env.openFds w.log (w.objs it.id).ptrace with
  | ok left => exact settling_modifyProc it.id _
  | error e => exact Settling.pure ()

theorem settling_handleExitEvent (it : Iter) :
    Settling A K n (handleExitEvent env it : Step SC Unit) := by
  have hlost : ∀ status, Settling A K n (lostToMtExit it.id status : Step SC Bool) := by
    intro status
    apply Settling.bind (Settling.getTracee it.id)
    intro t
    cases status with
    | signaled s => exact Settling.pure false
    | exited m =>
      apply Settling.ite (Settling.pure true)
      apply Settling.bind
      · apply Settling.bind (Settling.getTracee it.id)
        intro t
        apply Settling.bind (settling_derefCall _)
        intro c
        exact Settling.bind (settling_getCall c) fun call => Settling.pure _
      · exact fun nr => Settling.pure _
  apply Settling.bind (Settling.getTracee it.id)
  intro t
  apply Settling.bind (Settling.query it.id _ _ fun _ => rfl)
  intro status
  apply Settling.bind (hlost status)
  intro lost
  apply Settling.bind (settling_notify it rfl)
  exact fun _ => Settling.modify (fun _ h => h) fun _ => rfl

theorem settling_handleAttached (hA : ∀ id, A (.callback (.attached id)) = false) (it : Iter) :
    Settling A K n (handleAttached env it : Step SC Unit) := by
  apply Settling.bind
  · exact Settling.modify (fun _ h => nomatch h) fun _ => rfl
  intro _
  apply Settling.bind (Settling.getTracee it.id)
  intro t
  apply Settling.bind
  · exact Settling.when (Settling.modify (fun _ h => h) fun _ => rfl)
  intro _
  apply Settling.bind (settling_getInitialRegisters it.id)
  intro _
  apply Settling.bind (settling_initFDs it.id)
  intro _
  apply Settling.bind (settling_notify_of it (hA it.id))
  intro _
  apply Settling.bind (Settling.getTracee it.id)
  intro t
  apply Settling.when
  apply Settling.bind (Settling.catchAll (settling_attachThreads it) (Settling.pure ()))
  exact fun _ => Settling.modify (fun _ h => h) fun _ => rfl

/-- a `PTRACE_EVENT_STOP` that the tracee does not wait for -/
theorem settling_laterStop (it : Iter) (signal : Signal) :
    Settling A K n (if signal ∈ stoppingSignals then do
        changeState env it.id .groupStop
        modifyTracee it.id fun t => { t with stopSignal := some signal }
        notify env it (.stopped it.id)
      else if signal = Signal.trap then
        modifyTracee it.id fun t => { t with restartMode := .syscall }
      else pure () : Step SC Unit) := by
  apply Settling.ite
  · apply Settling.bind (settling_changeState it.id .groupStop)
    intro _
    apply Settling.bind
    · exact Settling.modify (fun _ hf => hf) fun _ => rfl
    · exact fun _ => settling_notify it rfl
  · exact Settling.ite (Settling.modify (fun _ hf => hf) fun _ => rfl) (Settling.pure ())

theorem settling_handleStopEvent (hA : ∀ id, A (.callback (.attached id)) = false) (it : Iter)
    (signal : Signal) : Settling A K n (handleStopEvent env it signal : Step SC Unit) := by
  apply Settling.bind (Settling.getTracee it.id)
  intro t
  exact Settling.ite (settling_handleAttached hA it) (settling_laterStop it signal)

theorem settling_handleSignalStop (it : Iter) (signal : Signal) :
    Settling A K n (handleSignalStop env it signal : Step SC Unit) := by
  apply Settling.bind (settling_changeState it.id _)
  intro _
  apply Settling.bind (Settling.getTracee it.id)
  intro t
  apply Settling.bind (Settling.query it.id _ _ fun _ => rfl)
  intro info
  apply Settling.bind
  · apply Settling.bind (Settling.getTracee it.id)
    intro t
    exact Settling.ite (Settling.modify (fun _ h => h) fun _ => rfl) (settling_notify it rfl)
  · exact fun _ => Settling.modify (fun _ h => h) fun _ => rfl

theorem settling_restartTracee (hA : ∀ e, A e = true → e.isAttached = true) (it : Iter) :
    Settling A K n (restartTracee env it : Step SC Unit) := by
  apply Settling.bind (Settling.getTracee it.id)
  intro t
  apply Settling.ite (Settling.pure ())
  apply Settling.bind (Settling.request_of it.id _ fun _ => eq_false_of_isAttached hA rfl)
  intro _
  apply Settling.when
  apply Settling.bind (settling_changeState it.id .running)
  exact fun _ => Settling.when (settling_notify it rfl)

theorem settling_handleEnd (it : Iter) (data : ChildState) :
    Settling A K n (handleEnd env it data : Step SC Unit) := by
  apply Settling.bind (settling_changeState it.id .dead)
  intro _
  apply Settling.bind (Settling.getTracee it.id)
  intro t
  apply Settling.bind (Settling.when (settling_notify it rfl))
  exact fun _ => Settling.modify (fun _ h => h) fun _ => rfl

/-! ## the engine -/

theorem settling_checkUnknownTraceeEvent (data : ChildState) :
    Settling A K n (checkUnknownTraceeEvent env data : Step SC Decision) := by
  unfold checkUnknownTraceeEvent
  split
  · apply Settling.bind (Settling.inquire _ _)
    intro formerPid
    apply Settling.bind
    · apply Settling.read
      intro w
      cases w.tracees.find? formerPid with
      | none => exact Settling.pure false
      | some entry =>
        apply Settling.bind
        · exact Settling.update (fun _ => rfl) fun _ => rfl
        · exact fun _ => Settling.bind (Settling.say rfl) fun _ => Settling.pure true
    · exact fun r => Settling.ite (Settling.pure _) (Settling.pure _)
  · exact Settling.pure _
  · exact Settling.pure _

theorem settling_dropTracee (key : ProcessID) :
    Settling A K n (dropTracee env key : Step SC Unit) := by
  apply Settling.bind (settling_entryTracee key)
  intro id
  apply Settling.bind (settling_detach id)
  intro _
  apply Settling.bind (settling_checkCleanupTracee key)
  intro _
  exact Settling.bind (settling_entryTracee key) fun _ => Settling.pure ()

end Clues
