import Clues.Engine.Besides
import Clues.Engine.Deferred
import Clues.Engine.TaskEvents

/-!
# Which task a tracee stands for

A tracee stands for a task by its PID, its pidfd and the process data it refers to.  Few functions
change them.

* `Identity P`        `P` is a property of these data that new tracees have;
* `Identified P m w`  all tracees have it, and there are `m` of them at least;
* `Heeds P m x`       the function `x` keeps this.  One lemma for each function says so.
-/

set_option linter.unusedSectionVars false

namespace Clues

open Lib Lib.Exec Step

variable {SC : Type} [SyscallOps SC] {env : Env} {P : ProcId → Tracee → Prop} {m : TraceeId}

/-! ## the property -/

/-- the same task, or none any more -/
structure Tracee.SameTask (t t' : Tracee) : Prop where
  pidfd : t'.pidfd = t.pidfd
  processData : t'.processData = t.processData
  ptrace : t'.ptrace = t.ptrace ∨ t'.ptrace = ProcessID.invalid

theorem Tracee.SameTask.of_eq {t t' : Tracee}
    (h : (t'.pidfd, t'.processData, t'.ptrace) = (t.pidfd, t.processData, t.ptrace)) :
    t.SameTask t' := by
  simp only [Prod.mk.injEq] at h
  exact ⟨h.1, h.2.1, Or.inl h.2.2⟩

/-- a property of tracees where so many process data exist -/
class Identity (P : ProcId → Tracee → Prop) : Prop where
  mono : ∀ {n n' t}, n ≤ n' → P n t → P n' t
  same : ∀ {n t t'}, Tracee.SameTask t t' → P n t → P n t'
  alone : ∀ n kind, P (n + 1) { kind := kind, processData := n }
  shared : ∀ {n t} kind, P n t → P n { kind := kind, processData := t.processData }
  unshared : ∀ {n t}, P n t → P (n + 1) { t with processData := n }
  named : ∀ {n t} pid, t.pidfd = none → P n t → P n { t with ptrace := pid }

structure Identified (P : ProcId → Tracee → Prop) (m : TraceeId) (w : World SC) : Prop where
  objects : m ≤ w.nextObj
  sound : w.Sound
  each : ∀ id, id < w.nextObj → P w.nextProc (w.objs id)

abbrev Heeds {α : Type} (P : ProcId → Tracee → Prop) (m : TraceeId) (x : Step SC α) : Prop :=
  Keeps (Identified P m : World SC → Prop) x

section
variable {w w' : World SC}

theorem Identified.mono {m' : TraceeId} (h : Identified P m w) (hm : m' ≤ m) :
    Identified P m' w := ⟨hm.trans h.objects, h.sound, h.each⟩

/-- nothing but the objects and `m_tracees` matters -/
theorem Identified.congr (h : Identified P m w)
    (he : (w'.tracees, w'.objs, w'.nextObj, w'.nextProc)
      = (w.tracees, w.objs, w.nextObj, w.nextProc)) : Identified P m w' := by
  simp only [Prod.mk.injEq] at he
  obtain ⟨ht, ho, hn, hp⟩ := he
  refine ⟨hn ▸ h.objects, ?_, ?_⟩
  · rintro id ⟨k, hk⟩
    rw [hn]
    exact h.sound id ⟨k, ht ▸ hk⟩
  · intro id hid
    rw [hp, ho]
    exact h.each id (hn ▸ hid)

theorem Identified.setObj (h : Identified P m w) {id : TraceeId} {t : Tracee}
    (ht : id < w.nextObj → P w.nextProc (w.objs id) → P w.nextProc t) :
    Identified P m (w.setObj id t) := by
  refine ⟨h.objects, h.sound, fun i hi => ?_⟩
  show P w.nextProc ((w.setObj id t).objs i)
  by_cases hid : i = id
  · subst hid
    rw [World.setObj_self]
    exact ht hi (h.each i hi)
  · rw [World.setObj_of_ne w t hid]
    exact h.each i hi

/-- entries of `m_tracees` refer to objects that exist -/
theorem Identified.tracees (h : Identified P m w) {es : OrdMap ProcessID (Option TraceeId)}
    (he : ∀ k id, es.find? k = some (some id) → id < w.nextObj) :
    Identified P m { w with tracees := es } := by
  refine ⟨h.objects, ?_, h.each⟩
  rintro id ⟨k, hk⟩
  exact he k id hk

theorem Identified.erase (h : Identified P m w) (key : ProcessID) :
    Identified P m { w with tracees := w.tracees.erase key } := by
  apply h.tracees
  intro k id hk
  rw [OrdMap.find?_erase] at hk
  split_ifs at hk
  exact h.sound id ⟨k, hk⟩

end

/-! ## primitive steps -/

namespace Heeds

theorem pure {α : Type} (a : α) : Heeds P m (Pure.pure a : Step SC α) := Keeps.pure a

theorem raise {α : Type} (e : Exc) : Heeds P m (Exec.raise e : Step SC α) := Keeps.raise e

theorem lift {α : Type} (r : Except Exc α) : Heeds P m (Exec.lift r : Step SC α) := Keeps.lift r

theorem bind {α β : Type} {x : Step SC α} {f : α → Step SC β} (hx : Heeds P m x)
    (hf : ∀ a, Heeds P m (f a)) : Heeds P m (x >>= f) := Keeps.bind hx hf

theorem say (e : Entry) : Heeds P m (Step.say e : Step SC Unit) := fun _ hw => hw.congr rfl

theorem getTracee (id : TraceeId) : Heeds P m (Step.getTracee id : Step SC Tracee) :=
  fun _ hw => hw

theorem read {α : Type} {f : World SC → Step SC α} (h : ∀ w, Heeds P m (f w)) :
    Heeds P m (Exec.read >>= f) := Keeps.read_bind fun w hw => h w w hw

theorem update {f : World SC → World SC}
    (h : ∀ w, ((f w).tracees, (f w).objs, (f w).nextObj, (f w).nextProc)
      = (w.tracees, w.objs, w.nextObj, w.nextProc)) :
    Heeds P m (Exec.update f : Step SC Unit) := Keeps.update fun w hw => hw.congr (h w)

theorem request (id : TraceeId) (r : Request) :
    Heeds P m (Step.request env id r : Step SC Unit) := by
  intro w hw
  rw [run_request]
  exact hw.congr rfl

theorem query {α : Type} (id : TraceeId) (r : Request) (answer : Log → α) :
    Heeds P m (Step.query env id r answer : Step SC α) :=
  read fun _ => bind (request id r) fun _ => pure _

theorem catchApi {α : Type} {x : Step SC α} {g : Errno → Step SC α} (hx : Heeds P m x)
    (hg : ∀ e, Heeds P m (g e)) : Heeds P m (Step.catchApi x g) := by
  apply Keeps.handle hx
  intro e
  cases e with
  | api errno => exact hg errno
  | _ => exact raise _

theorem catchAll {α : Type} {x g : Step SC α} (hx : Heeds P m x) (hg : Heeds P m g) :
    Heeds P m (Step.catchAll x g) :=
  Keeps.handle hx fun _ => Keeps.ite (fun _ => hg) fun _ => raise _

theorem catchCosmos {α : Type} {x g : Step SC α} (hx : Heeds P m x) (hg : Heeds P m g) :
    Heeds P m (Step.catchCosmos x g) :=
  Keeps.handle hx fun _ => Keeps.ite (fun _ => hg) fun _ => raise _

theorem ite {α : Type} {c : Prop} [Decidable c] {x y : Step SC α} (hx : Heeds P m x)
    (hy : Heeds P m y) : Heeds P m (if c then x else y) := Keeps.ite (fun _ => hx) fun _ => hy

theorem when {c : Prop} [Decidable c] {x : Step SC Unit} (hx : Heeds P m x) :
    Heeds P m (Exec.when c x) := Keeps.when fun _ => hx

theorem each {α : Type} {xs : List α} {body : α → Step SC Unit} (h : ∀ x, Heeds P m (body x)) :
    Heeds P m (Exec.each xs body) := Keeps.each fun x _ => h x

theorem modify_of {id : TraceeId} {f : Tracee → Tracee} (h : ∀ n t, P n t → P n (f t)) :
    Heeds P m (modifyTracee id f : Step SC Unit) := fun _ hw => hw.setObj fun _ => h _ _

variable [Identity P]

theorem modify {id : TraceeId} {f : Tracee → Tracee}
    (h : ∀ t, ((f t).pidfd, (f t).processData, (f t).ptrace)
      = (t.pidfd, t.processData, t.ptrace)) :
    Heeds P m (modifyTracee id f : Step SC Unit) :=
  modify_of fun _ t => Identity.same (.of_eq (h t))

end Heeds

variable [Identity P]

/-! ## detaching -/

theorem heeds_cleanupChild (id : TraceeId) : Heeds P m (cleanupChild env id : Step SC Unit) := by
  apply Heeds.bind (Heeds.getTracee id)
  intro t
  apply Heeds.ite _ (Heeds.pure ())
  apply Keeps.bind
  · apply Heeds.catchApi (Heeds.request id _)
    exact fun e => Heeds.ite (Heeds.raise _) (Heeds.pure ())
  · exact fun _ => Heeds.modify fun _ => rfl

theorem heeds_enterState (id : TraceeId) (s : State) :
    Heeds P m (enterState env id s : Step SC Unit) := by
  cases s with
  | groupStop =>
    apply Heeds.modify
    intro t
    split_ifs
    · rfl
    · rfl
  | syscallEnterStop => exact Heeds.modify fun _ => rfl
  | syscallExitStop => exact Heeds.modify fun _ => rfl
  | detached => exact Heeds.modify fun _ => rfl
  | dead =>
    apply Heeds.bind (Heeds.getTracee id)
    intro t
    exact Heeds.ite (heeds_cleanupChild id) (Heeds.pure ())
  | _ => exact Heeds.pure ()

theorem heeds_changeState (id : TraceeId) (s : State) :
    Heeds P m (changeState env id s : Step SC Unit) :=
  Heeds.bind (heeds_enterState id s) fun _ => Heeds.modify fun _ => rfl

theorem heeds_handleError (id : TraceeId) (errno : Errno) :
    Heeds P m (handleError env id errno : Step SC Unit) := by
  apply Heeds.ite (heeds_changeState id .dead)
  apply Heeds.bind _ fun _ => Heeds.raise _
  exact Heeds.modify_of fun _ _ => Identity.same ⟨rfl, rfl, Or.inr rfl⟩

theorem heeds_doDetach (id : TraceeId) : Heeds P m (doDetach env id : Step SC Unit) := by
  apply Heeds.bind (Heeds.getTracee id)
  intro t
  apply Keeps.bind
  · apply Heeds.catchApi _ (heeds_handleError id)
    exact Heeds.bind (Heeds.request id _) fun _ => Heeds.bind (Heeds.say _) fun _ =>
      heeds_changeState id .detached
  · exact fun _ => Heeds.modify_of fun _ _ => Identity.same ⟨rfl, rfl, Or.inr rfl⟩

theorem heeds_detach (id : TraceeId) : Heeds P m (detach env id : Step SC Bool) := by
  apply Heeds.bind (Heeds.getTracee id)
  intro t
  apply Heeds.ite (Heeds.pure _)
  apply Heeds.ite (Heeds.pure _)
  apply Heeds.ite
  · exact Heeds.bind (heeds_doDetach id) fun _ => Heeds.pure _
  · apply Keeps.bind
    · exact Heeds.modify fun _ => rfl
    intro _
    apply Heeds.bind _ fun _ => Heeds.pure _
    exact Heeds.when (Heeds.catchApi (Heeds.request id _) (heeds_handleError id))

theorem heeds_destroy (id : TraceeId) : Heeds P m (destroy env id : Step SC Unit) := by
  apply Heeds.bind (Heeds.getTracee id)
  intro t
  apply Heeds.ite (Heeds.pure ())
  apply Heeds.bind (Heeds.say _)
  intro _
  apply Heeds.ite
  · apply Heeds.catchCosmos _ (Heeds.pure ())
    apply Heeds.bind (Heeds.getTracee id)
    intro t
    apply Heeds.bind _ fun _ => heeds_cleanupChild id
    exact Heeds.when (Heeds.catchAll (Heeds.request id _) (Heeds.pure ()))
  · apply Heeds.catchCosmos _ (Heeds.pure ())
    exact Heeds.bind (heeds_detach id) fun _ => Heeds.pure ()

/-! ## entries of `m_tracees` -/

theorem heeds_extractTracee (key : ProcessID) :
    Heeds P m (extractTracee key : Step SC (Option TraceeId)) := by
  apply Heeds.read
  intro w
  apply Keeps.bind
  · exact Keeps.update fun v hv => hv.erase key
  intro _
  cases w.tracees.find? key with
  | none => exact Heeds.pure _
  | some e =>
    cases e with
    | none => exact Heeds.pure _
    | some id => exact Heeds.bind (Heeds.say _) fun _ => Heeds.pure _

theorem heeds_eraseTracee (key : ProcessID) : Heeds P m (eraseTracee env key : Step SC Unit) := by
  apply Heeds.bind (heeds_extractTracee key)
  intro r
  cases r with
  | none => exact Heeds.pure ()
  | some id => exact heeds_destroy id

theorem heeds_entryTracee (key : ProcessID) : Heeds P m (entryTracee key : Step SC TraceeId) := by
  apply Heeds.read
  intro w
  cases w.tracees.find? key with
  | none => exact Heeds.raise _
  | some e =>
    cases e with
    | none => exact Heeds.raise _
    | some id => exact Heeds.pure id

theorem heeds_checkContained (it : Iter) : Heeds P m (checkContained it : Step SC Unit) :=
  Heeds.read fun _ => Heeds.ite (Heeds.pure ()) (Heeds.raise _)

theorem heeds_checkCleanupTracee (key : ProcessID) :
    Heeds P m (checkCleanupTracee env key : Step SC Unit) := by
  apply Heeds.bind (heeds_entryTracee key)
  intro id
  apply Heeds.bind (Heeds.getTracee id)
  intro t
  apply Heeds.ite
  · exact Heeds.ite (heeds_eraseTracee key) (Heeds.pure ())
  · apply Heeds.ite _ (Heeds.pure ())
    exact Heeds.bind (heeds_doDetach id) fun _ => heeds_eraseTracee key

/-! ## the consumer -/

theorem heeds_stopTracee (signal : Option Signal) (key : ProcessID) :
    Heeds P m (stopTracee env signal key : Step SC Unit) := by
  apply Heeds.bind (heeds_entryTracee key)
  intro id
  apply Keeps.bind
  · apply Heeds.bind (Heeds.getTracee id)
    intro t
    cases signal with
    | none => exact Heeds.pure ()
    | some sig => exact Heeds.when (Heeds.request id _)
  intro _
  apply Heeds.bind (Heeds.say _)
  intro _
  apply Heeds.bind (heeds_detach id)
  intro _
  apply Heeds.bind (Heeds.getTracee id)
  intro t
  exact Heeds.when (heeds_eraseTracee key)

theorem heeds_consumerCall (c : ConsumerCall) :
    Heeds P m (consumerCall env c : Step SC Unit) := by
  cases c with
  | stop signal => exact Heeds.read fun w => Heeds.each (heeds_stopTracee signal)
  | detach pid =>
    apply Heeds.read
    intro w
    cases w.tracees.find? pid with
    | none => exact Heeds.pure ()
    | some e =>
      cases e with
      | none => exact Heeds.pure ()
      | some id =>
        exact Heeds.bind (Heeds.say _) fun _ =>
          Heeds.bind (heeds_detach id) fun _ => Heeds.pure ()

theorem heeds_notify (it : Iter) (c : Callback) : Heeds P m (notify env it c : Step SC Unit) := by
  apply Heeds.bind _ fun _ => heeds_checkContained it
  apply Heeds.bind (Heeds.say _)
  intro _
  apply Heeds.read
  intro w
  apply Heeds.bind _ fun _ => Heeds.say _
  apply Heeds.each
  intro act
  exact Heeds.ite (Heeds.catchAll (heeds_consumerCall _) (Heeds.pure ())) (heeds_consumerCall _)

/-! ## adding tracees -/

theorem heeds_modifyProc (id : TraceeId) (f : ProcessData → ProcessData) :
    Heeds P m (modifyProc id f : Step SC Unit) := Heeds.update fun _ => rfl

theorem heeds_updateExecutable (id : TraceeId) :
    Heeds P m (updateExecutable env id : Step SC Unit) := by
  apply Heeds.read
  intro w
  cases env.exe w.log (w.objs id).ptrace with
  | ok exe => exact heeds_modifyProc _ _
  | error e => exact heeds_modifyProc _ _

theorem heeds_updateCmdLine (id : TraceeId) :
    Heeds P m (updateCmdLine env id : Step SC Unit) := Heeds.read fun _ => heeds_modifyProc _ _

theorem heeds_attach (id : TraceeId) (followChildren attachThreads : Bool) :
    Heeds P m (attach env id followChildren attachThreads : Step SC Unit) := by
  apply Heeds.bind
  · exact Heeds.modify fun _ => rfl
  intro _
  apply Heeds.bind
  · apply Heeds.bind (Heeds.getTracee id)
    intro t
    apply Keeps.handle (Heeds.request id _)
    intro e
    exact Heeds.bind (Heeds.when (heeds_changeState id .dead)) fun _ => Heeds.raise e
  intro _
  apply Heeds.bind (Heeds.getTracee id)
  intro t
  apply Heeds.bind (heeds_updateExecutable id)
  intro _
  apply Heeds.bind (heeds_updateCmdLine id)
  intro _
  apply Heeds.bind (Heeds.request id _)
  intro _
  apply Heeds.bind
  · exact Heeds.modify fun _ => rfl
  intro _
  apply Heeds.bind
  · apply Heeds.when
    exact Heeds.bind (Heeds.request id _) fun _ => Heeds.modify fun _ => rfl
  · exact fun _ => Heeds.when (Heeds.modify fun _ => rfl)

theorem heeds_putTracee {id : TraceeId} (hid : id < m) (pid : ProcessID) :
    Heeds P m (putTracee pid id : Step SC Unit) := by
  apply Heeds.bind _ fun _ => Heeds.say _
  apply Keeps.update
  intro w hw
  apply hw.tracees
  intro k i hk
  rw [OrdMap.find?_set] at hk
  split_ifs at hk
  · cases hk
    exact hid.trans_le hw.objects
  · exact hw.sound i ⟨k, hk⟩

theorem heeds_assignTracee {id : TraceeId} (hid : id < m) (pid : ProcessID) :
    Heeds P m (assignTracee env pid id : Step SC Unit) := by
  apply Heeds.bind (heeds_extractTracee pid)
  intro old
  apply Heeds.bind (heeds_putTracee hid pid)
  intro _
  cases old with
  | none => exact Heeds.pure ()
  | some old => exact heeds_destroy old

/-- a new object, whose pidfd is not open yet -/
structure Made (P : ProcId → Tracee → Prop) (id : TraceeId) (w : World SC) : Prop where
  inv : Identified P (id + 1) w
  pidfd : (w.objs id).pidfd = none

theorem made_newTracee {w : World SC} (hw : Identified P m w) (kind : TraceeKind)
    {sibling : Option TraceeId} (hs : ∀ sib, sibling = some sib → sib < w.nextObj) :
    ∃ v, newTracee kind sibling w = (.ok w.nextObj, v) ∧ Made P w.nextObj v := by
  cases sibling with
  | some sib =>
    refine ⟨_, rfl, ⟨le_rfl, fun id hid => (hw.sound id hid).trans (Nat.lt_succ_self _), ?_⟩, ?_⟩
    · intro id hid
      show P w.nextProc ((w.setObj w.nextObj _).objs id)
      by_cases h : id = w.nextObj
      · subst h
        rw [World.setObj_self]
        exact Identity.shared kind (hw.each sib (hs sib rfl))
      · rw [World.setObj_of_ne w _ h]
        exact hw.each id (lt_of_le_of_ne (Nat.lt_succ_iff.mp hid) h)
    · show ((w.setObj w.nextObj _).objs w.nextObj).pidfd = none
      rw [World.setObj_self]
  | none =>
    refine ⟨_, rfl, ⟨le_rfl, fun id hid => (hw.sound id hid).trans (Nat.lt_succ_self _), ?_⟩, ?_⟩
    · intro id hid
      show P (w.nextProc + 1) ((w.setObj w.nextObj _).objs id)
      by_cases h : id = w.nextObj
      · subst h
        rw [World.setObj_self]
        exact Identity.alone w.nextProc kind
      · rw [World.setObj_of_ne w _ h]
        exact Identity.mono (Nat.le_succ _) (hw.each id (lt_of_le_of_ne (Nat.lt_succ_iff.mp hid) h))
    · show ((w.setObj w.nextObj _).objs w.nextObj).pidfd = none
      rw [World.setObj_self]

/-- the new object is given a PID, and what else is done -/
theorem heeds_newTracee {α : Type} {f : TraceeId → Step SC α} (kind : TraceeKind)
    {sibling : Option TraceeId} {w : World SC} (hw : Identified P m w)
    (hs : ∀ sib, sibling = some sib → sib < w.nextObj)
    (hf : ∀ v, Made P w.nextObj v → Identified P (w.nextObj + 1) (f w.nextObj v).2) :
    Identified P m ((newTracee kind sibling >>= f) w).2 := by
  obtain ⟨v, hv, hmade⟩ := made_newTracee hw kind hs
  rw [run_bind_ok hv]
  exact (hf v hmade).mono (hw.objects.trans (Nat.le_succ _))

theorem Made.setPID {id : TraceeId} {w : World SC} (h : Made P id w) (pid : ProcessID) :
    Identified P (id + 1) (setPID id pid w).2 :=
  h.inv.setObj fun _ => Identity.named pid h.pidfd

theorem Made.modify {id : TraceeId} {w : World SC} (h : Made P id w) {t : Tracee}
    (ht : (t.pidfd, t.processData, t.ptrace)
      = ((w.objs id).pidfd, (w.objs id).processData, (w.objs id).ptrace)) :
    Made P id (w.setObj id t) := by
  refine ⟨h.inv.setObj fun _ => Identity.same (.of_eq ht), ?_⟩
  rw [World.setObj_self]
  exact (congrArg Prod.fst ht).trans h.pidfd

/-- an entry refers to an object that exists -/
theorem Identified.lt_of_entry {w : World SC} (hw : Identified P m w) {key : ProcessID}
    {sib : TraceeId} (h : (w.tracees.find? key).join = some sib) : sib < w.nextObj := by
  apply hw.sound sib
  refine ⟨key, ?_⟩
  cases hf : w.tracees.find? key with
  | none =>
    rw [hf] at h
    cases h
  | some e =>
    rw [hf] at h
    exact congrArg some h

theorem heeds_addForeign (pid : ProcessID) (followChildren attachThreads : Bool)
    (sibling : ProcessID) (hold : Bool) :
    Heeds P m (addForeign env pid followChildren attachThreads sibling hold :
      Step SC TraceeId) := by
  apply Keeps.read_bind
  intro w hw
  apply heeds_newTracee .foreign hw fun sib h => hw.lt_of_entry h
  intro v hv
  apply final_bind (hv.setPID pid)
  intro _ v1 _ hv1
  refine Heeds.bind ?_ (fun _ => ?_) v1 hv1
  · apply Keeps.handle (heeds_attach _ followChildren attachThreads)
    exact fun e => Heeds.bind (heeds_destroy _) fun _ => Heeds.raise e
  · apply Heeds.bind
    · exact Heeds.modify fun _ => rfl
    intro _
    exact Heeds.bind (heeds_assignTracee (Nat.lt_succ_self _) pid) fun _ => Heeds.pure _

theorem Made.said {id : TraceeId} {w : World SC} (h : Made P id w) (e : Entry) :
    Made P id (w.say e) := ⟨h.inv.congr rfl, h.pidfd⟩

/-- the object is given the PID of the child that was started -/
theorem made_create {id : TraceeId} (cmdline : List String) :
    Triple (Made P id) (create env id cmdline : Step SC Unit)
      (fun _ => Identified P (id + 1)) fun _ => Identified P (id + 1) := by
  unfold create
  apply Triple.read_bind
  intro w
  apply Triple.ite
  · intro _
    have hdead : Heeds P (id + 1) (do
        changeState env id .dead
        raise (.runtime "does not exist or is not executable") : Step SC Unit) :=
      Heeds.bind (heeds_changeState id .dead) fun _ => Heeds.raise _
    exact (hdead.triple fun _ h => h).weaken (fun v hv => hv.2.inv) (fun _ _ h => h) fun _ _ h => h
  intro _
  apply Triple.bind (Q := fun _ => Made P id)
  · intro v hv
    cases env.createChild w.log cmdline with
    | ok child => exact hv.2
    | error e => exact hv.2.inv
  intro child
  apply Triple.bind (Q := fun _ => Made P id)
  · exact Triple.update fun v hv => hv.modify rfl
  intro _
  apply Triple.bind (Q := fun _ => Made P id)
  · intro v hv
    rw [run_request]
    cases env.request v.log (.waitChild child) with
    | none => exact hv.said _
    | some e => exact (hv.said _).inv
  intro _
  apply Triple.bind (Q := fun _ => Made P id)
  · exact Triple.update fun v hv => hv.modify rfl
  · exact fun _ => Triple.update fun v hv => hv.setPID child

theorem heeds_addChild (cmdline : List String) (followChildren hold : Bool) :
    Heeds P m (addChild env cmdline followChildren hold : Step SC TraceeId) := by
  intro w hw
  apply heeds_newTracee .child hw fun sib h => by cases h
  intro v hv
  have hset : Identified P (w.nextObj + 1) (handle (do
      create env w.nextObj cmdline
      attach env w.nextObj followChildren false) (fun e => do
        destroy env w.nextObj
        raise e) v).2 := by
    have hx : Identified P (w.nextObj + 1) ((do
        create env w.nextObj cmdline
        attach env w.nextObj followChildren false : Step SC Unit) v).2 :=
      final_bind ((made_create cmdline).final hv) fun _ v1 _ hv1 => heeds_attach _ _ _ v1 hv1
    unfold Exec.handle
    cases hr : (do
        create env w.nextObj cmdline
        attach env w.nextObj followChildren false : Step SC Unit) v with
    | mk r v1 =>
      rw [hr] at hx
      cases r with
      | ok u => exact hx
      | error e => exact Heeds.bind (heeds_destroy _) (fun _ => Heeds.raise e) v1 hx
  apply final_bind hset
  intro _ v1 _ hv1
  refine Heeds.bind (Heeds.getTracee _) (fun t => ?_) v1 hv1
  apply Heeds.bind
  · exact Heeds.modify fun _ => rfl
  intro _
  exact Heeds.bind (heeds_assignTracee (Nat.lt_succ_self _) t.pid) fun _ => Heeds.pure _

theorem heeds_attachThreads (it : Iter) :
    Heeds P m (attachThreads env it : Step SC Unit) := by
  apply Heeds.read
  intro w
  apply Heeds.bind (Heeds.lift _)
  intro pids
  apply Heeds.bind _ fun _ => heeds_checkContained it
  apply Heeds.each
  intro pid
  apply Heeds.bind (Heeds.getTracee it.id)
  intro t
  apply Heeds.ite (Heeds.pure ())
  apply Heeds.catchAll _ (Heeds.pure ())
  apply Heeds.bind (heeds_addForeign _ _ _ _ _)
  exact fun thread => Heeds.modify fun _ => rfl

/-! ## the initial ptrace stop -/

theorem heeds_getRegisters (id : TraceeId) (abi : ABI) :
    Heeds P m (getRegisters env id abi : Step SC RegisterSet) := by
  apply Heeds.bind (Heeds.getTracee id)
  intro t
  apply Heeds.bind (Heeds.query id _ _)
  intro r
  cases r with
  | none => exact Heeds.raise _
  | some info => exact Heeds.pure _

theorem heeds_getInitialRegisters (id : TraceeId) :
    Heeds P m (getInitialRegisters env id : Step SC Unit) := by
  have hset : ∀ abi, Heeds P m (do
      let rs ← getRegisters env id abi
      modifyTracee id fun t => { t with initialRegset := rs } : Step SC Unit) := fun abi =>
    Heeds.bind (heeds_getRegisters id abi) fun _ => Heeds.modify fun _ => rfl
  apply Keeps.handle
  · apply Heeds.bind (heeds_getRegisters id _)
    intro rs
    apply Heeds.bind
    · exact Heeds.modify fun _ => rfl
    · exact fun _ => Heeds.ite (hset .x32) (Heeds.pure ())
  · intro e
    cases e with
    | runtime _ => exact hset .i386
    | _ => exact Heeds.raise _

theorem heeds_initFDs (id : TraceeId) : Heeds P m (initFDs env id : Step SC Unit) := by
  apply Heeds.read
  intro w
  apply Heeds.ite _ (Heeds.pure ())
  apply Heeds.catchCosmos _ (Heeds.pure ())
  exact Heeds.bind (Heeds.lift _) fun infos => Heeds.each fun _ => heeds_modifyProc _ _

/-! ## system calls -/

theorem heeds_startDecode (id : TraceeId) :
    Heeds P m (startDecode env id : Step SC DecodeEnv) := by
  apply Heeds.bind (Heeds.getTracee id)
  intro t
  exact Heeds.bind (Heeds.say _) fun _ => Heeds.read fun w => Heeds.pure _

theorem heeds_getCall (c : CallId) : Heeds P m (getCall c : Step SC (CallObj SC)) := by
  apply Heeds.read
  intro w
  cases w.calls c with
  | none => exact Heeds.raise _
  | some call => exact Heeds.pure call

theorem heeds_putCall (c : CallId) (sc : SC) : Heeds P m (putCall c sc : Step SC Unit) :=
  Heeds.update fun _ => rfl

theorem heeds_derefCall (c : Option CallId) : Heeds P m (derefCall c : Step SC CallId) := by
  cases c with
  | none => exact Heeds.raise _
  | some c => exact Heeds.pure c

theorem heeds_dbGet (id : TraceeId) (info : SystemCallInfo) :
    Heeds P m (dbGet env id info : Step SC CallId) := by
  apply Heeds.bind (Heeds.getTracee id)
  intro t
  cases t.syscallDb info.sysNr with
  | some c => exact Heeds.pure c
  | none =>
    apply Heeds.bind (heeds_startDecode id)
    intro de
    apply Heeds.bind (Heeds.lift _)
    intro r
    apply Heeds.bind
    · apply Heeds.read
      intro w
      apply Heeds.bind
      · exact Heeds.update fun _ => rfl
      · exact fun _ => Heeds.pure _
    intro c
    apply Heeds.bind
    · exact Heeds.when (Heeds.modify fun _ => rfl)
    · exact fun _ => Heeds.pure c

theorem heeds_setEntryInfo (id : TraceeId) (c : CallId) (info : SystemCallInfo) :
    Heeds P m (setEntryInfo env id c info : Step SC Unit) := by
  apply Heeds.bind (heeds_startDecode id)
  intro de
  apply Heeds.bind (heeds_getCall c)
  intro call
  exact Heeds.bind (heeds_putCall c _) fun _ => Heeds.lift _

/-- what the processing of a finished system call does to the pidfd -/
class Opening (SC : Type) [SyscallOps SC] (P : ProcId → Tracee → Prop) : Prop where
  opens : ∀ {n t} (de : DecodeEnv) (info : SystemCallInfo) (sc : SC) (ps : ProcState),
    de.pid = t.ptrace → ps.pidfd = t.pidfd → P n t →
    P n { t with pidfd := (SyscallOps.setExitInfo de info sc ps).2.2.pidfd }

theorem heeds_setExitInfo [Opening SC P] (id : TraceeId) (c : CallId) (info : SystemCallInfo) :
    Heeds P m (setExitInfo env id c info : Step SC Unit) := by
  intro w hw
  unfold setExitInfo
  apply final_bind (heeds_startDecode id w hw)
  intro de w1 hde hw1
  have hpid : de.pid = (w1.objs id).ptrace := by
    obtain ⟨hr, hv⟩ := Prod.mk.inj hde
    rw [← hv, ← Except.ok.inj hr]
  apply final_bind (heeds_getCall c w1 hw1)
  intro call w2 hcall hw2
  obtain ⟨-, rfl⟩ := getCall_ok hcall
  rw [run_read_bind]
  generalize hps : (⟨_, (w2.objs id).pidfd⟩ : ProcState) = ps
  have hps' : ps.pidfd = (w2.objs id).pidfd := by rw [← hps]
  apply final_bind (heeds_putCall c _ w2 hw2)
  intro _ w3 hput hw3
  have ho3 : w3.objs = w2.objs := by rw [← (Prod.mk.inj hput).2]
  apply final_bind (heeds_modifyProc id _ w3 hw3)
  intro _ w4 hproc hw4
  have ho4 : w4.objs = w2.objs := by
    rw [← ho3, ← (Prod.mk.inj hproc).2]
    rfl
  apply hw4.setObj
  intro _ h
  have hpid4 : de.pid = (w4.objs id).ptrace := by
    rw [ho4]
    exact hpid
  have hps4 : ps.pidfd = (w4.objs id).pidfd := by
    rw [ho4]
    exact hps'
  exact Opening.opens de info call.obj ps hpid4 hps4 h

theorem heeds_checkResumed (id : TraceeId) (info : SystemCallInfo) (call : CallObj SC) :
    Heeds P m (checkResumed env id info call : Step SC Bool) := by
  apply Heeds.bind (Heeds.getTracee id)
  intro t
  apply Heeds.ite
  · cases t.interruptedSyscall with
    | some i =>
      apply Heeds.bind
      · exact Heeds.modify fun _ => rfl
      · exact fun _ => Heeds.pure true
    | none =>
      apply Heeds.ite (Heeds.pure false)
      apply Heeds.bind (Heeds.getTracee id)
      intro t
      cases t.getInitialSyscallInfo env info.abi with
      | none => exact Heeds.pure false
      | some orig =>
        apply Heeds.ite (Heeds.pure false)
        apply Heeds.bind (heeds_dbGet id orig)
        intro c
        apply Heeds.bind
        · exact Heeds.modify fun _ => rfl
        · exact fun _ => Heeds.pure true
  · cases t.interruptedSyscall with
    | none => exact Heeds.pure false
    | some i =>
      apply Heeds.ite _ (Heeds.pure false)
      apply Heeds.bind (heeds_getCall i)
      intro interrupted
      apply Heeds.bind
      · exact Heeds.modify fun _ => rfl
      intro _
      apply Heeds.bind
      · exact Heeds.modify fun _ => rfl
      · exact fun _ => Heeds.pure _

theorem heeds_handleSystemCallEntry (it : Iter)
    (info : SystemCallInfo) :
    Heeds P m (handleSystemCallEntry env it info : Step SC Unit) := by
  apply Heeds.bind (heeds_dbGet it.id info)
  intro c
  apply Heeds.bind
  · exact Heeds.modify fun _ => rfl
  intro _
  apply Heeds.bind (heeds_getCall c)
  intro call
  apply Heeds.bind (Heeds.lift _)
  intro _
  apply Heeds.bind (heeds_checkResumed it.id info call)
  intro resumed
  apply Heeds.bind (Heeds.getTracee it.id)
  intro t
  apply Heeds.bind (heeds_derefCall _)
  intro c
  apply Heeds.bind (heeds_setEntryInfo it.id c info)
  intro _
  apply Heeds.bind
  · exact Heeds.modify fun _ => rfl
  · exact fun _ => heeds_notify it _

theorem heeds_checkSigreturn (id : TraceeId) (call : CallObj SC) :
    Heeds P m (checkSigreturn id call : Step SC Unit) := by
  have hseen : Heeds P m (setFlags id fun f => { f with seenSigreturn := true } : Step SC Unit) :=
    Heeds.modify fun _ => rfl
  apply Heeds.bind (Heeds.getTracee id)
  intro t
  apply Heeds.ite _ (Heeds.pure ())
  cases SyscallOps.error call.obj with
  | none => exact hseen
  | some e =>
    apply Heeds.ite _ hseen
    exact Heeds.modify fun _ => rfl

theorem heeds_handleSystemCallExit [Opening SC P] (it : Iter) (info : SystemCallInfo) :
    Heeds P m (handleSystemCallExit env it info : Step SC Unit) := by
  apply Heeds.bind (Heeds.getTracee it.id)
  intro t
  apply Heeds.bind (heeds_derefCall _)
  intro c
  apply Heeds.bind (heeds_setExitInfo it.id c info)
  intro _
  apply Heeds.bind (heeds_getCall c)
  intro call
  apply Heeds.bind
  · exact Heeds.when (Heeds.modify fun _ => rfl)
  intro _
  apply Heeds.bind (heeds_notify it _)
  intro _
  apply Heeds.bind (heeds_checkSigreturn it.id call)
  exact fun _ => Heeds.modify fun _ => rfl

theorem heeds_saySyscallStop (id : TraceeId) (info : SystemCallInfo) :
    Heeds P m (saySyscallStop env id info : Step SC Unit) := by
  unfold saySyscallStop
  cases info.stop with
  | entry e =>
    dsimp only
    cases info.updateSysNr env with
    | ok info' => exact Heeds.say _
    | error e => exact Heeds.say _
  | exit i => exact Heeds.say _
  | none => exact Heeds.pure ()
  | seccomp => exact Heeds.pure ()

theorem heeds_handleSystemCall [Opening SC P] (it : Iter) :
    Heeds P m (handleSystemCall env it : Step SC Unit) := by
  have hinfo : ∀ info, Heeds P m (modifyTracee it.id fun t => { t with syscallInfo := info } :
      Step SC Unit) := fun info => Heeds.modify fun _ => rfl
  apply Heeds.bind (hinfo _)
  intro _
  apply Heeds.bind (Heeds.getTracee it.id)
  intro t
  apply Heeds.bind
  · exact Heeds.query it.id _ _
  intro r
  apply Heeds.bind (hinfo _)
  intro _
  apply Heeds.bind (heeds_saySyscallStop it.id _)
  intro _
  apply Heeds.bind _ fun _ => hinfo none
  apply Heeds.bind (Heeds.getTracee it.id)
  intro t
  apply Heeds.ite
  · apply Heeds.ite _ (Heeds.raise _)
    exact Heeds.bind (heeds_changeState it.id _) fun _ => heeds_handleSystemCallExit it _
  · apply Heeds.ite _ (Heeds.raise _)
    apply Heeds.bind (Heeds.lift _)
    intro info
    apply Heeds.bind (hinfo _)
    intro _
    exact Heeds.bind (heeds_changeState it.id _) fun _ =>
      heeds_handleSystemCallEntry it info

/-! ## new children -/

theorem heeds_unshareProcessData (id : TraceeId) :
    Heeds P m (unshareProcessData id : Step SC Unit) := by
  apply Keeps.update
  intro w hw
  refine ⟨hw.objects, hw.sound, fun i hi => ?_⟩
  show P (w.nextProc + 1) ((w.setObj id { w.objs id with processData := w.nextProc }).objs i)
  by_cases hid : i = id
  · subst hid
    rw [World.setObj_self]
    exact Identity.unshared (hw.each i hi)
  · rw [World.setObj_of_ne w _ hid]
    exact Identity.mono (Nat.le_succ _) (hw.each i hi)

theorem identified_configure {id : TraceeId} {w : World SC} (hw : Made P id w) (pid : ProcessID)
    (call : CallObj SC) : Identified P (id + 1) (configure id pid call w).2 := by
  apply final_bind (hw.setPID pid)
  intro _ v _ hv
  refine Heeds.bind ?_ (fun _ => ?_) v hv
  · exact Heeds.modify fun _ => rfl
  · apply Heeds.bind (Heeds.lift _)
    exact fun shares => Heeds.ite (heeds_unshareProcessData id) (Heeds.pure ())

theorem heeds_addAutoAttached (it : Iter) (pid : ProcessID) (event : PtraceEvent)
    (call : CallObj SC) : Heeds P m (addAutoAttached env it pid event call : Step SC Unit) := by
  apply Heeds.bind (Heeds.getTracee it.id)
  intro parent w hw
  have hindex : Identified P m { w with tracees := w.tracees.insert parent.pid none } := by
    apply hw.tracees
    intro k id hk
    rw [OrdMap.find?_insert] at hk
    split_ifs at hk
    · cases hf : w.tracees.find? parent.pid with
      | none =>
        rw [hf] at hk
        cases hk
      | some e =>
        rw [hf] at hk
        exact hw.sound id ⟨_, hf.trans hk⟩
    · exact hw.sound id ⟨k, hk⟩
  have hrun : indexTracee parent.pid w = (.ok (w.tracees.find? parent.pid).join,
      { w with tracees := w.tracees.insert parent.pid none }) := rfl
  rw [run_bind_ok hrun]
  apply heeds_newTracee .autoAttached hindex fun sib h => hw.lt_of_entry h
  intro v hv
  apply final_bind (identified_configure hv pid call)
  intro _ v1 _ hv1
  refine Heeds.bind ?_ (fun _ => ?_) v1 hv1
  · apply Heeds.read
    intro w
    cases w.tracees.find? pid with
    | none => exact heeds_putTracee (Nat.lt_succ_self _) pid
    | some e => exact Heeds.pure ()
  apply Heeds.bind
  · apply Heeds.bind (Heeds.getTracee it.id)
    intro t
    cases t.currentSyscall with
    | none => exact Heeds.pure false
    | some c => exact Heeds.bind (heeds_getCall c) fun call => Heeds.lift _
  intro thread
  apply Heeds.bind (heeds_entryTracee pid)
  intro child
  apply Heeds.bind
  · exact Heeds.bind (heeds_notify it _) fun _ => heeds_checkCleanupTracee pid
  · exact fun _ => Heeds.when (heeds_destroy _)

theorem heeds_calledFrom (id : TraceeId) :
    Heeds P m (calledFrom env id : Step SC (ProcessID × CallObj SC)) := by
  have hpid : Heeds P m (getPIDEventMsg env id : Step SC ProcessID) :=
    Heeds.bind (Heeds.getTracee id) fun t => Heeds.query id _ _
  have hcall : Heeds P m (derefCurrent id : Step SC (CallObj SC)) :=
    Heeds.bind (Heeds.getTracee id) fun t =>
      Heeds.bind (heeds_derefCall _) fun c => heeds_getCall c
  unfold calledFrom
  split_ifs
  · exact Heeds.bind hcall fun call => Heeds.bind hpid fun pid => Heeds.pure _
  · exact Heeds.bind hpid fun pid => Heeds.bind hcall fun call => Heeds.pure _

theorem heeds_handleNewChildEvent (it : Iter) (event : PtraceEvent) :
    Heeds P m (handleNewChildEvent env it event : Step SC Unit) := by
  apply Heeds.bind (heeds_calledFrom it.id)
  intro r
  apply Heeds.bind
  · apply Heeds.ite (heeds_addAutoAttached it r.1 event r.2)
    apply Heeds.read
    exact fun w => heeds_notify it _
  · exact fun _ => Heeds.update fun _ => rfl

/-! ## execve -/

theorem heeds_handleSubstitution (pid : ProcessID) :
    Heeds P m (handleSubstitution env pid : Step SC (Option TraceeId)) := by
  apply Heeds.read
  intro w
  cases w.tracees.find? pid with
  | none => exact Heeds.pure none
  | some e =>
    apply Heeds.bind (heeds_entryTracee pid)
    intro old
    apply Heeds.bind
    · apply Heeds.catchApi
      · exact Heeds.bind (heeds_detach old) fun _ => Heeds.pure ()
      · exact fun e => Heeds.ite (Heeds.raise _) (Heeds.pure ())
    intro _
    exact Heeds.bind (heeds_extractTracee pid) fun _ => Heeds.pure _

/-- the tracee takes over the data of an old one, or the PID of the process -/
theorem heeds_syncState (id old : TraceeId) : Heeds P m (syncState env id old : Step SC Unit) := by
  apply Heeds.bind (Heeds.getTracee old)
  intro o
  apply Heeds.bind
  · exact Heeds.modify fun _ => rfl
  intro _
  apply Heeds.bind
  · exact Heeds.modify fun _ => rfl
  · exact fun _ => heeds_changeState old .dead

theorem identified_replaceLeader {it : Iter} {mainPid formerPid : ProcessID} {w : World SC}
    (hw : Identified P m w)
    (hpid : w.tracees.find? formerPid = none → P w.nextProc (w.objs it.id) →
      P w.nextProc { w.objs it.id with ptrace := mainPid }) :
    Identified P m (replaceLeader env it mainPid formerPid w).2 := by
  have hfound : ∀ e, w.tracees.find? formerPid = some e →
      ∀ v, handleSubstitution env formerPid w ≠ (.ok none, v) := by
    intro e he v hv
    unfold handleSubstitution at hv
    rw [run_read_bind, he] at hv
    obtain ⟨old, _, -, hv⟩ := of_bind_ok hv
    obtain ⟨_, _, -, hv⟩ := of_bind_ok hv
    obtain ⟨_, _, -, hv⟩ := of_bind_ok hv
    cases (Prod.mk.inj hv).1
  apply final_bind (heeds_handleSubstitution formerPid w hw)
  intro old v hv hvI
  cases old with
  | some old => exact Heeds.bind (heeds_syncState it.id old) (fun _ => heeds_destroy old) v hvI
  | none =>
    cases hf : w.tracees.find? formerPid with
    | some e => exact absurd hv (hfound e hf v)
    | none =>
      have hsame : v = w := by
        unfold handleSubstitution at hv
        rw [run_read_bind, hf] at hv
        exact (Prod.mk.inj hv).2.symm
      subst hsame
      exact hw.setObj fun _ => hpid hf

theorem identified_handleExecEvent {it : Iter} {mainPid : ProcessID} {w : World SC}
    (hw : Identified P m w)
    (hpid : env.request w.log (.getPIDEventMsg mainPid) = none →
      env.pidEventMsg w.log mainPid ≠ mainPid →
      w.tracees.find? (env.pidEventMsg w.log mainPid) = none → P w.nextProc (w.objs it.id) →
      P w.nextProc { w.objs it.id with ptrace := mainPid }) :
    Identified P m (handleExecEvent env it mainPid w).2 := by
  unfold handleExecEvent
  rw [run_read_bind]
  apply final_bind (Heeds.query it.id _ _ w hw)
  intro formerPid v hv hvI
  obtain ⟨hreq, rfl, rfl⟩ := query_ok hv
  apply final_bind (Heeds.say _ _ hvI)
  intro _ v hsay hsaid
  obtain ⟨-, rfl⟩ := Prod.mk.inj hsay
  refine final_bind ?_ fun _ v1 _ hv1 => ?_
  · by_cases hp : env.pidEventMsg w.log mainPid = mainPid
    · rw [when_neg (not_not_intro hp)]
      exact hsaid
    · rw [when_pos hp]
      exact identified_replaceLeader hsaid (hpid hreq hp)
  refine Heeds.bind ?_ (fun _ => ?_) v1 hv1
  · exact Heeds.bind (heeds_updateExecutable it.id) fun _ => heeds_updateCmdLine it.id
  apply Heeds.bind _ fun _ => heeds_notify it _
  apply Heeds.read
  intro w
  cases env.openFds w.log (w.objs it.id).ptrace with
  | ok left => exact heeds_modifyProc it.id _
  | error e => exact Heeds.pure ()

/-! ## events -/

theorem heeds_handleExitEvent (it : Iter) :
    Heeds P m (handleExitEvent env it : Step SC Unit) := by
  have hlost : ∀ status, Heeds P m (lostToMtExit it.id status : Step SC Bool) := by
    intro status
    apply Heeds.bind (Heeds.getTracee it.id)
    intro t
    cases status with
    | signaled s => exact Heeds.pure false
    | exited m =>
      apply Heeds.ite (Heeds.pure true)
      apply Heeds.bind
      · apply Heeds.bind (Heeds.getTracee it.id)
        intro t
        apply Heeds.bind (heeds_derefCall _)
        intro c
        exact Heeds.bind (heeds_getCall c) fun call => Heeds.pure _
      · exact fun nr => Heeds.pure _
  apply Heeds.bind (Heeds.getTracee it.id)
  intro t
  apply Heeds.bind (Heeds.query it.id _ _)
  intro status
  apply Heeds.bind (hlost status)
  intro lost
  apply Heeds.bind (heeds_notify it _)
  exact fun _ => Heeds.modify fun _ => rfl

theorem heeds_handleAttached (it : Iter) :
    Heeds P m (handleAttached env it : Step SC Unit) := by
  apply Heeds.bind
  · exact Heeds.modify fun _ => rfl
  intro _
  apply Heeds.bind (Heeds.getTracee it.id)
  intro t
  apply Heeds.bind
  · exact Heeds.when (Heeds.modify fun _ => rfl)
  intro _
  apply Heeds.bind (heeds_getInitialRegisters it.id)
  intro _
  apply Heeds.bind (heeds_initFDs it.id)
  intro _
  apply Heeds.bind (heeds_notify it _)
  intro _
  apply Heeds.bind (Heeds.getTracee it.id)
  intro t
  apply Heeds.when
  apply Heeds.bind (Heeds.catchAll (heeds_attachThreads it) (Heeds.pure ()))
  exact fun _ => Heeds.modify fun _ => rfl

/-- a `PTRACE_EVENT_STOP` that the tracee does not wait for -/
theorem heeds_laterStop (it : Iter) (signal : Signal) :
    Heeds P m (if signal ∈ stoppingSignals then do
        changeState env it.id .groupStop
        modifyTracee it.id fun t => { t with stopSignal := some signal }
        notify env it (.stopped it.id)
      else if signal = Signal.trap then
        modifyTracee it.id fun t => { t with restartMode := .syscall }
      else pure () : Step SC Unit) := by
  apply Heeds.ite
  · apply Heeds.bind (heeds_changeState it.id .groupStop)
    intro _
    apply Heeds.bind
    · exact Heeds.modify fun _ => rfl
    · exact fun _ => heeds_notify it _
  · exact Heeds.ite (Heeds.modify fun _ => rfl) (Heeds.pure ())

theorem heeds_handleStopEvent (it : Iter) (signal : Signal) :
    Heeds P m (handleStopEvent env it signal : Step SC Unit) := by
  apply Heeds.bind (Heeds.getTracee it.id)
  intro t
  exact Heeds.ite (heeds_handleAttached it) (heeds_laterStop it signal)

theorem heeds_handleSignalStop (it : Iter) (signal : Signal) :
    Heeds P m (handleSignalStop env it signal : Step SC Unit) := by
  apply Heeds.bind (heeds_changeState it.id _)
  intro _
  apply Heeds.bind (Heeds.getTracee it.id)
  intro t
  apply Heeds.bind (Heeds.query it.id _ _)
  intro info
  apply Heeds.bind
  · apply Heeds.bind (Heeds.getTracee it.id)
    intro t
    exact Heeds.ite (Heeds.modify fun _ => rfl) (heeds_notify it _)
  · exact fun _ => Heeds.modify fun _ => rfl

theorem heeds_restartTracee (it : Iter) :
    Heeds P m (restartTracee env it : Step SC Unit) := by
  apply Heeds.bind (Heeds.getTracee it.id)
  intro t
  apply Heeds.ite (Heeds.pure ())
  apply Heeds.bind (Heeds.request it.id _)
  intro _
  apply Heeds.when
  apply Heeds.bind (heeds_changeState it.id .running)
  exact fun _ => Heeds.when (heeds_notify it _)

theorem heeds_handleEnd (it : Iter) (data : ChildState) :
    Heeds P m (handleEnd env it data : Step SC Unit) := by
  apply Heeds.bind (heeds_changeState it.id .dead)
  intro _
  apply Heeds.bind (Heeds.getTracee it.id)
  intro t
  apply Heeds.bind (Heeds.when (heeds_notify it _))
  exact fun _ => Heeds.modify fun _ => rfl

/-- the event makes the tracee the leader of its process: it gets the PID that is reported -/
structure TakesPid (env : Env) (w : World SC) (id : TraceeId) (data : ChildState) : Prop where
  exec : data.isExec = true
  handled : (w.objs id).flags.detachAtNextStop = false
  answered : env.request (w.log ++ [.deliver id data]) (.getPIDEventMsg data.pid) = none
  other : env.pidEventMsg (w.log ++ [.deliver id data]) data.pid ≠ data.pid
  untracked : w.tracees.find? (env.pidEventMsg (w.log ++ [.deliver id data]) data.pid) = none

theorem identified_decoding {w : World SC} (hw : Identified P m w) (id : TraceeId)
    (data : ChildState) : Identified P m (w.decoding id data) := by
  have hsaid : Identified P m (w.say (.deliver id data)) := hw.congr rfl
  exact hsaid.setObj fun _ => Identity.same (.of_eq rfl)

/-- `execve()` in a tracee that the tracer does not want to detach from -/
theorem identified_exec {it : Iter} {data : ChildState} {w : World SC} (hw : Identified P m w)
    (hx : data.isExec = true) (hf : (w.objs it.id).flags.detachAtNextStop = false)
    (hpid : TakesPid env w it.id data → P w.nextProc (w.objs it.id) →
      P w.nextProc { w.objs it.id with ptrace := data.pid }) :
    Identified P m (processEvent env it data w).2 := by
  obtain ⟨signal, he⟩ := data.isExec_iff.mp hx
  rw [run_processEvent_event he hf]
  refine final_bind ?_ fun _ v _ hv => heeds_restartTracee it v hv
  apply identified_handleExecEvent (identified_decoding hw it.id data)
  intro hreq hne hnone hP
  have hobj : (w.decoding it.id data).objs it.id
      = ({ w.objs it.id with injectSig := none } : Tracee).moveTo .eventStop := World.setObj_self ..
  rw [hobj] at hP ⊢
  have hsame : (({ w.objs it.id with injectSig := none } : Tracee).moveTo .eventStop).SameTask
      (w.objs it.id) := .of_eq rfl
  have hnew := hpid ⟨hx, hf, hreq, hne, hnone⟩ (Identity.same hsame hP)
  refine Identity.same (t := { w.objs it.id with ptrace := data.pid }) ?_ hnew
  exact .of_eq rfl

variable [Opening SC P]

theorem heeds_handlePtraceEvent (it : Iter) (pid : ProcessID) {event : PtraceEvent}
    (signal : Signal) (he : event ≠ .exec) :
    Heeds P m (handlePtraceEvent env it pid event signal : Step SC Unit) := by
  cases event with
  | stop => exact heeds_handleStopEvent it signal
  | exit => exact heeds_handleExitEvent it
  | exec => exact absurd rfl he
  | clone => exact heeds_handleNewChildEvent it .clone
  | vfork => exact heeds_handleNewChildEvent it .vfork
  | vforkDone => exact heeds_handleNewChildEvent it .vforkDone
  | fork => exact heeds_handleNewChildEvent it .fork
  | seccomp => exact Heeds.pure ()

theorem heeds_handleTrap (it : Iter) (pid : ProcessID) {trap : Trap}
    (ht : ∀ signal, trap ≠ .event signal .exec) :
    Heeds P m (handleTrap env it pid trap : Step SC Unit) := by
  cases trap with
  | sysTrap => exact heeds_handleSystemCall it
  | signal signal => exact heeds_handleSignalStop it signal
  | event signal event =>
    apply Heeds.bind (heeds_changeState it.id .eventStop)
    intro _
    apply heeds_handlePtraceEvent
    rintro rfl
    exact ht signal rfl

theorem identified_processEvent {it : Iter} {data : ChildState} {w : World SC}
    (hw : Identified P m w)
    (hpid : TakesPid env w it.id data → P w.nextProc (w.objs it.id) →
      P w.nextProc { w.objs it.id with ptrace := data.pid }) :
    Identified P m (processEvent env it data w).2 := by
  by_cases hx : data.isExec = true ∧ (w.objs it.id).flags.detachAtNextStop = false
  · exact identified_exec hw hx.1 hx.2 hpid
  have hset : Identified P m ((w.say (.deliver it.id data)).setObj it.id
      { w.objs it.id with injectSig := none }) := by
    have hsaid : Identified P m (w.say (.deliver it.id data)) := hw.congr rfl
    exact hsaid.setObj fun _ => Identity.same (.of_eq rfl)
  have hrest : ∀ {x : Step SC Unit}, Heeds P m x →
      Heeds P m (x >>= fun _ => restartTracee env it) :=
    fun hx => Heeds.bind hx fun _ => heeds_restartTracee it
  unfold processEvent
  rw [run_bind_ok (run_say _ w), run_bind_ok (run_modifyTracee it.id _ _)]
  by_cases hend : data.isEnd = true
  · rw [if_pos hend]
    exact heeds_handleEnd it data _ hset
  rw [if_neg hend]
  cases he : data.event with
  | signaled signal => exact hrest (heeds_handleSignalStop it signal) _ hset
  | trapped trap =>
    show Identified P m ((getTracee it.id >>= fun t => _ : Step SC Unit) _).2
    rw [run_bind_ok (run_getTracee it.id _)]
    by_cases hf : (w.objs it.id).flags.detachAtNextStop = true
    · rw [if_pos (by rw [World.setObj_self]; exact hf)]
      exact heeds_doDetach it.id _ hset
    · rw [if_neg (by rw [World.setObj_self]; exact hf)]
      refine hrest (heeds_handleTrap it data.pid ?_) _ hset
      rintro signal rfl
      exact hx ⟨data.isExec_iff.mpr ⟨signal, he⟩, Bool.eq_false_iff.mpr hf⟩
  | _ => exact heeds_restartTracee it _ hset

/-! ## runs -/

theorem identified_handleKnown {it : Iter} {data : ChildState} {w : World SC}
    (hw : Identified P m w)
    (hpid : TakesPid env w it.id data → P w.nextProc (w.objs it.id) →
      P w.nextProc { w.objs it.id with ptrace := data.pid }) :
    Identified P m (handleKnown env it data w).2 := by
  exact final_handleKnown (identified_processEvent hw hpid) (heeds_checkCleanupTracee it.key)

/-- a stored event is no `execve()` -/
theorem Identified.replays {w w' : World SC} (hw : Identified P m w) (hS : StoredStops w)
    (h : Replays env w w') : Identified P m w' := by
  cases h with
  | idle hn => exact hw
  | nothing hn hd => exact hw.congr rfl
  | unknown hn hd hk => exact hw.congr rfl
  | @known w1 data id hn hd hk hr =>
    have hcalm : Identified P m w.calm := hw.congr rfl
    have hknown : Identified P m (handleKnown env ⟨data.pid, id⟩ data w.calm).2 := by
      apply identified_handleKnown hcalm
      intro htakes
      obtain ⟨s, he⟩ := ChildState.isEventStop_iff (hS _ _ hd).2
      obtain ⟨s', he'⟩ := data.isExec_iff.mp htakes.exec
      rw [he] at he'
      cases he'
    rw [hr] at hknown
    exact hknown.congr rfl

/-- the event changes the PID of a tracee only if `P` allows for it -/
def Allows (env : Env) (P : ProcId → Tracee → Prop) (data : ChildState) (w : World SC) : Prop :=
  ∀ id v, Receives env data w id v → TakesPid env v id data → P v.nextProc (v.objs id) →
    P v.nextProc { v.objs id with ptrace := data.pid }

theorem Identified.handled {data : ChildState} {w w' : World SC} (hS : Settled w)
    (hw : Identified P m w) (hd : Allows env P data w)
    (h : Handled env data (w.say (.wait data)) w') : Identified P m w' := by
  have hknown : ∀ {id : TraceeId} {v v1 : World SC}, Receives env data w id v →
      Identified P m v → handleKnown env ⟨data.pid, id⟩ data v = (.ok (), v1) →
      Replays env v1 w' → Identified P m w' := by
    intro id v v1 hr hv hk hrep
    obtain ⟨hB, hst, hfind⟩ := hr.base hS
    have hl : EventLabels env (fun _ => True) ⟨data.pid, id⟩ data v :=
      eventLabels_all (show v.contains ⟨data.pid, id⟩ from hfind) data
    have he : Effs env id (fun _ => True) v (handleKnown env ⟨data.pid, id⟩ data v).2 :=
      (course_handleKnown hB rfl (hB.fresh hfind) hl trivial).effs
    have h1 : Identified P m (handleKnown env ⟨data.pid, id⟩ data v).2 :=
      identified_handleKnown hv (hd id v hr)
    rw [hk] at he h1
    exact h1.replays (hst.of_same he.unknownEvents) hrep
  have hsaid : Identified P m (w.say (.wait data)) := hw.congr rfl
  cases h with
  | known hk hr hrep => exact hknown (.known hk) hsaid hr hrep
  | taken hx hk hq hf hfind hr hrep =>
    subst hf
    refine hknown (.taken hx hk hq hfind) ?_ hr hrep
    refine ⟨hsaid.objects, ?_, hsaid.each⟩
    rintro i ⟨k, hi⟩
    rw [rekeyed_find hk hfind] at hi
    split_ifs at hi
    · exact hsaid.sound i ⟨_, hfind.trans hi⟩
    · exact hsaid.sound i ⟨k, hi⟩
  | stored hs hk => exact hsaid.congr rfl
  | dropped _ hk hw' =>
    rcases hw' with rfl | ⟨-, rfl⟩
    · exact hsaid
    · exact hsaid.congr rfl

theorem heeds_dropTracee (key : ProcessID) : Heeds P m (dropTracee env key : Step SC Unit) := by
  apply Heeds.bind (heeds_entryTracee key)
  intro id
  apply Heeds.bind (heeds_detach id)
  intro _
  apply Heeds.bind (heeds_checkCleanupTracee key)
  intro _
  exact Heeds.bind (heeds_entryTracee key) fun _ => Heeds.pure ()

/-- what the steps of a run have to meet -/
def Op.Allows (env : Env) (P : ProcId → Tracee → Prop) : Op → World SC → Prop
  | .event data, w => Clues.Allows env P data w
  | _, _ => True

theorem Identified.exec {op : Op} {w : World SC} (hS : Settled w) (hw : Identified P m w)
    (hd : op.Allows env P w) (hc : op.completes (op.exec env w).1) :
    Identified P m (op.after env w) := by
  cases op with
  | addForeign pid followChildren attachThreads sibling hold =>
    exact Heeds.bind (heeds_addForeign _ _ _ _ _) (fun _ => Heeds.pure ()) w hw
  | addChild cmdline followChildren hold =>
    exact Heeds.bind (heeds_addChild _ _ _) (fun _ => Heeds.pure ()) w hw
  | call c => exact heeds_consumerCall c w hw
  | event data => exact Identified.handled hS hw hd (handled_of_completes hS hc)
  | noChildren =>
    have h : Heeds P m (handleNoChildren env : Step SC Unit) :=
      Heeds.read fun _ => Heeds.each heeds_dropTracee
    exact h w hw

/-- the run rule -/
theorem identified_reaches {Ok : StepCond SC} {w : World SC} (hw : Reaches env Ok w)
    (hok : ∀ w op, Reaches env Ok w → Ok w op → op.Allows env P w) : Identified P 0 w := by
  apply hw.invariant
  · intro f
    exact ⟨Nat.zero_le _, sound_start f, fun id hid => absurd hid (Nat.not_lt_zero id)⟩
  · intro w op hr hw ho hc
    exact hw.exec hr.settled (hok w op hr ho) hc

end Clues
