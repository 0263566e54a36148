import Clues.Engine.Does

/-!
# The effects of adding tracees

* `attach`, `assignTracee`, `addForeign`, `addChild`   attaching to a task and putting its tracee
                                                      into `m_tracees`;
* `attachThreads`   the other threads of a process.

An object under construction is `Loose`.  It replaces another one in `m_tracees` only if the kernel
let the tracer attach to a task that it traces already.
-/

set_option linter.unusedSectionVars false

namespace Clues

open Lib Lib.Exec Step

variable {SC : Type} {env : Env} {a : TraceeId} {L : Labels}

/-! ## attaching -/

theorem letting_modifyProc {q : Prop} (id id' : TraceeId) (f : ProcessData → ProcessData) :
    Letting env q id (modifyProc id' f : Step SC Unit) := by
  intro w _
  have hlog : w.log = w.log ++ [] := (List.append_nil w.log).symm
  refine ⟨⟨⟨rfl, rfl, rfl, rfl, rfl, rfl, fun _ _ => rfl, fun _ _ h => h, [], hlog, by simp⟩,
    Released.refl env _, fun _ => ⟨[], hlog, fun s hs => ⟨s, rfl, hs⟩⟩⟩, [], hlog, fun _ => ?_⟩
  show (w.objs id).flags.syscallEntered = ((w.objs id).flags.syscallEntered && !false)
  simp

theorem letting_updateExecutable {q : Prop} (id : TraceeId) :
    Letting env q id (updateExecutable env id : Step SC Unit) := by
  refine Along.read_bind fun w hw => ?_
  cases env.exe w.log (w.objs id).ptrace with
  | ok exe => exact letting_modifyProc _ _ _ w hw
  | error e => exact letting_modifyProc _ _ _ w hw

/-- steps of attaching to a task that is not known to be gone -/
def Attaches (env : Env) (id : TraceeId) (w w' : World SC) : Prop :=
  Lets env True id w w' ∧ (w'.objs id).birth = (w.objs id).birth

def Unended (id : TraceeId) (w : World SC) : Prop := (w.objs id).ended = false

theorem Unended.of_birth {id : TraceeId} {w w' : World SC} (h : Unended id w)
    (hb : (w'.objs id).birth = (w.objs id).birth) : Unended id w' := by
  unfold Tracee.birth at hb
  simp only [Prod.mk.injEq] at hb
  exact hb.2.1.trans h

theorem Attaches.walk (env : Env) (id : TraceeId) :
    Walk (Unended id : World SC → Prop) (Attaches env id) where
  refl w := ⟨(Lets.walk env True id).refl w, rfl⟩
  trans h h' := ⟨(Lets.walk env True id).trans h.1 h'.1, h'.2.trans h.2⟩
  keeps hs h := hs.of_birth h.2

theorem attaches_request {id : TraceeId} {r : Request} (hr : ∀ pid, r ≠ .detach pid) :
    Along (Unended id) (Attaches env id) (request env id r : Step SC Unit) := by
  intro w hw
  rw [run_request]
  refine ⟨lets_request w _ ?_ fun _ _ hc => ?_, rfl⟩
  · cases r with
    | detach pid => exact absurd rfl (hr pid)
    | _ => rfl
  · have hended := hc.ended
    rw [hw] at hended
    cases hended

theorem attaches_setFlags {id : TraceeId} {f : Flags → Flags}
    (h : ∀ f', (f f').syscallEntered = f'.syscallEntered ∧
      (f f').waitForExited = f'.waitForExited ∧ (f f').detachAtNextStop = f'.detachAtNextStop) :
    Along (Unended id) (Attaches env id) (setFlags id f : Step SC Unit) := by
  intro w _
  obtain ⟨h1, h2, h3⟩ := h (w.objs id).flags
  rw [run_setFlags]
  refine ⟨Lets.setObj ⟨⟨fun h => h, Or.inl rfl, rfl, fun _ _ h => h⟩, h1, fun h => ?_⟩, ?_⟩
  · exact ⟨h.ended, h.ptrace, h3.trans h.unflagged⟩
  · show ((w.setObj id _).objs id).birth = _
    rw [World.setObj_self]
    show ((w.objs id).ptrace, (w.objs id).ended, (f (w.objs id).flags).syscallEntered,
      (f (w.objs id).flags).waitForExited) = _
    rw [h1, h2]
    rfl

theorem attaches_initAttach (id : TraceeId) (attachThreads : Bool) :
    Along (Unended id) (Attaches env id) (initAttach env id attachThreads : Step SC Unit) := by
  have hp : Walk (Unended id : World SC → Prop) _ := Attaches.walk env id
  have hread : Along (Unended id) (Attaches env id) (getTracee id : Step SC Tracee) :=
    fun w _ => hp.refl w
  have hexe : Along (Unended id) (Attaches env id) (updateExecutable env id : Step SC Unit) := by
    refine fun w _ => ⟨letting_updateExecutable id w trivial, ?_⟩
    unfold updateExecutable
    rw [run_read_bind]
    cases env.exe w.log (w.objs id).ptrace <;> rfl
  refine Along.bind hp hread fun t => Along.bind hp hexe fun _ => ?_
  refine Along.bind hp (Along.read_bind fun w _ => ⟨letting_modifyProc _ _ _ w trivial, rfl⟩)
    fun _ => ?_
  refine Along.bind hp (attaches_request fun _ h => by cases h) fun _ => ?_
  refine Along.bind hp (attaches_setFlags fun _ => ⟨rfl, rfl, rfl⟩) fun _ => ?_
  refine Along.bind hp (Along.when hp fun _ => ?_) fun _ => Along.when hp fun _ => ?_
  · exact Along.bind hp (attaches_request fun _ h => by cases h) fun _ =>
      attaches_setFlags fun _ => ⟨rfl, rfl, rfl⟩
  · exact attaches_setFlags fun _ => ⟨rfl, rfl, rfl⟩

theorem lets_trySeize {id : TraceeId} (followChildren : Bool) {w : World SC} (hw : Unended id w) :
    Lets env True id w (trySeize env id followChildren w).2 := by
  have hp : Walk (fun _ : World SC => True) _ := Lets.walk env True id
  unfold trySeize
  rw [run_bind_ok (run_getTracee id w)]
  refine Along.handle_of hp trivial (attaches_request (fun _ h => by cases h) w hw).1 fun e => ?_
  exact Along.bind hp (Along.when hp fun _ => letting_dead) fun _ => Along.raise hp _

theorem trySeize_ok {id : TraceeId} {followChildren : Bool} {w w' : World SC}
    (h : trySeize env id followChildren w = (.ok (), w')) :
    env.request w.log (.seize (w.objs id).ptrace followChildren) = none ∧
      w'.objs id = w.objs id := by
  unfold trySeize at h
  rw [run_bind_ok (run_getTracee id w)] at h
  unfold Exec.handle at h
  rw [run_request] at h
  cases hr : env.request w.log (.seize (w.objs id).ptrace followChildren) with
  | none =>
    rw [hr] at h
    refine ⟨rfl, ?_⟩
    rw [← (Prod.mk.inj h).2]
    rfl
  | some e =>
    rw [hr] at h
    exact absurd h (by
      show ¬ ((Exec.when _ _ >>= fun _ => Exec.raise (Exc.api e) : Step SC Unit) _) = _
      rw [run_bind]
      intro hc
      split at hc <;> cases hc)

theorem lets_attach {id : TraceeId} (followChildren attachThreads : Bool) {w : World SC}
    (hw : Unended id w) : Lets env True id w (attach env id followChildren attachThreads w).2 := by
  have hp : Walk (fun _ : World SC => True) _ := Lets.walk env True id
  have hmild : ∀ t : Tracee, Mild env t { t with followChildren := followChildren } := fun t =>
    ⟨⟨fun h => h, Or.inl rfl, rfl, fun _ _ h => h⟩, rfl, fun h => ⟨h.1, h.2, h.3⟩⟩
  refine Along.bind_of hp trivial (letting_modify hmild w trivial) fun _ w1 h1 _ => ?_
  have hw1 : Unended id w1 := by
    rw [← (Prod.mk.inj h1).2]
    unfold Unended
    rw [World.setObj_self]
    exact hw
  refine Along.bind_of hp trivial (lets_trySeize followChildren hw1) fun _ w2 h2 _ => ?_
  have hw2 : Unended id w2 := by
    unfold Unended
    rw [(trySeize_ok h2).2]
    exact hw1
  exact (attaches_initAttach id attachThreads w2 hw2).1

theorem attach_ok {id : TraceeId} {followChildren attachThreads : Bool} {w w' : World SC}
    (hw : Unended id w) (h : attach env id followChildren attachThreads w = (.ok (), w')) :
    env.request w.log (.seize (w.objs id).ptrace followChildren) = none ∧
      (w'.objs id).birth = (w.objs id).birth := by
  unfold attach at h
  rw [run_bind_ok (run_modifyTracee id _ w), run_bind] at h
  generalize hw1 : w.setObj id { w.objs id with followChildren := followChildren } = w1 at h
  have hobj : (w1.objs id).birth = (w.objs id).birth := by rw [← hw1, World.setObj_self]; rfl
  have hpt : (w1.objs id).ptrace = (w.objs id).ptrace := by rw [← hw1, World.setObj_self]
  cases hs : trySeize env id followChildren w1 with
  | mk r w2 =>
    rw [hs] at h
    cases r with
    | error e => cases h
    | ok u =>
      obtain ⟨hr, ho⟩ := trySeize_ok hs
      have hlog : w1.log = w.log := by rw [← hw1]; rfl
      have hw2 : Unended id w2 := by
        unfold Unended
        rw [ho]
        exact hw.of_birth hobj
      have hp : (_ : World SC) = w' := congrArg Prod.snd h
      have hat : Attaches env id w2 (initAttach env id attachThreads w2).2 :=
        attaches_initAttach id attachThreads w2 hw2
      have hb := hat.2
      rw [show (initAttach env id attachThreads w2).2 = w' from hp] at hb
      rw [hpt, hlog] at hr
      exact ⟨hr, by rw [hb, ho, hobj]⟩

/-! ## putting tracees into `m_tracees` -/

/-- the labels of adding a tracee -/
structure AddLabels (L : Labels) : Prop where
  add : L .add
  attach : L .attach
  ending : L .ending

theorem effs_assignTracee {id : TraceeId} {pid : ProcessID} {w : World SC} (hB : Base w)
    (h : Loose id pid w) (hL : AddLabels L) (hr : Log.registered w.log pid = true → ¬ NoReattach env) :
    Effs env a L w (assignTracee env pid id w).2 := by
  have hp : Walk (Base : World SC → Prop) _ := Effs.walk env a L
  have hrem : MayRemove env a L w pid := fun i hi => Or.inr ⟨hL.attach, hr (hB.registered hi)⟩
  have herase : ∀ es : Log, Loose id pid
      ({ w with tracees := w.tracees.erase pid, log := es } : World SC) := by
    refine fun es => ⟨h.lt, ?_, h.birth⟩
    rintro ⟨k, hk⟩
    have hk' : (w.tracees.erase pid).find? k = some (some id) := hk
    rw [OrdMap.find?_erase] at hk'
    split_ifs at hk' with hkk
    exact h.untracked ⟨k, hk'⟩
  have hnone : (w.tracees.erase pid).find? pid = none := OrdMap.find?_erase_self _ _
  refine Along.bind_of hp hB (effs_extractTracee hrem) fun r w1 he hB1 => ?_
  cases hj : (w.tracees.find? pid).join with
  | none =>
    rw [run_extractTracee_none hj] at he
    obtain ⟨hr, rfl⟩ := Prod.mk.inj he
    rw [← Except.ok.inj hr]
    refine Along.bind_of hp hB1 (effs_putTracee (herase w.log) hL.add hnone) fun _ w2 _ _ => ?_
    exact Relation.ReflTransGen.refl
  | some old =>
    have hk : w.tracees.find? pid = some (some old) := Option.join_eq_some_iff.mp hj
    rw [run_extractTracee_some hk] at he
    obtain ⟨hr, rfl⟩ := Prod.mk.inj he
    rw [← Except.ok.inj hr]
    refine Along.bind_of hp hB1 (effs_putTracee (herase _) hL.add hnone) fun _ w2 hput _ => ?_
    have hw2 : w2.tracees = (w.tracees.erase pid).set pid (some id) ∧ w2.nextObj = w.nextObj := by
      rw [← (Prod.mk.inj hput).2]
      exact ⟨rfl, rfl⟩
    refine letting_destroy.effs (hw2.2 ▸ hB.fresh hk) ?_ fun _ => hL.ending
    rintro ⟨k, hk2⟩
    rw [hw2.1, OrdMap.find?_set, OrdMap.find?_erase] at hk2
    split_ifs at hk2 with hkk
    · have hid : id = old := Option.some.inj (Option.some.inj hk2)
      exact h.untracked ⟨pid, hid ▸ hk⟩
    · exact hkk (hB.inj hk2 hk)

theorem OnObj.registered {id : TraceeId} {w w' : World SC} (h : OnObj id w w')
    (pid : ProcessID) : Log.registered w'.log pid = Log.registered w.log pid := by
  obtain ⟨es, he, hes⟩ := h.log
  rw [he, Log.registered_of_not_key fun e hm => (hes e hm).not_key]

/-- `PTRACE_SEIZE` of the PID succeeded, and no entry was made or removed since then -/
def Seized (env : Env) (w : World SC) (pid : ProcessID) : Prop :=
  ∃ log followChildren, env.request log (.seize pid followChildren) = none ∧
    Log.registered log pid = Log.registered w.log pid

/-- an attached object is put into `m_tracees` -/
theorem effs_registerLoose {id : TraceeId} {pid : ProcessID} {w : World SC} (hB : Base w)
    (h : Loose id pid w) (hL : AddLabels L) (hs : Seized env w pid) (hold : Bool) :
    Effs env a L w ((do
      modifyTracee id fun t => { t with held := hold }
      assignTracee env pid id
      pure id : Step SC TraceeId) w).2 := by
  have hp : Walk (Base : World SC → Prop) _ := Effs.walk env a L
  have hheld : Along (fun _ : World SC => True) (Readies id)
      (modifyTracee id fun t => { t with held := hold } : Step SC Unit) := readies_modify fun _ => rfl
  rw [run_bind_ok (run_modifyTracee id _ w)]
  have hl : Loose id pid (w.setObj id { w.objs id with held := hold }) :=
    h.of_tracees rfl le_rfl (by rw [World.setObj_self]; exact h.birth)
  have heff : Effs env a L w (w.setObj id { w.objs id with held := hold }) := effs_ready hheld h
  have hB1 := heff.base hB
  refine hp.trans heff ?_
  refine Along.bind_of hp hB1 (effs_assignTracee hB1 hl hL fun hr hlaw => ?_) fun _ w3 _ _ => ?_
  · obtain ⟨log, followChildren, hseize, hreg⟩ := hs
    exact hlaw log pid followChildren (hreg.trans hr) hseize
  · exact Relation.ReflTransGen.refl

/-- a computation with a clean-up that throws again returned: the computation returned -/
theorem handle_rethrow_ok {β : Type} {x : Step SC β} {c : Step SC Unit} {w w' : World SC} {r : β}
    (h : handle x (fun e => do c; raise e) w = (.ok r, w')) : x w = (.ok r, w') := by
  unfold Exec.handle at h
  cases hx : x w with
  | mk r' w1 =>
    rw [hx] at h
    cases r' with
    | ok u => exact h
    | error e =>
      have hb : ((c >>= fun _ => raise e : Step SC β) w1).1 = .ok r := congrArg Prod.fst h
      rw [run_bind] at hb
      split at hb <;> cases hb

theorem effs_setPID {id : TraceeId} {pid : ProcessID} (pid' : ProcessID) {w : World SC}
    (h : Loose id pid w) : Effs env a L w (setPID id pid' w).2 ∧ Loose id pid' (setPID id pid' w).2 := by
  have hset : Along (fun _ : World SC => True) (Readies id) (setPID id pid' : Step SC Unit) :=
    readies_modify fun _ => rfl
  refine ⟨effs_ready hset h, h.of_tracees rfl le_rfl ?_⟩
  show ((w.setObj id _).objs id).birth = _
  rw [World.setObj_self]
  have hb := h.birth
  unfold Tracee.birth at hb ⊢
  simp only [Prod.mk.injEq] at hb ⊢
  exact ⟨trivial, hb.2⟩

theorem does_addForeign (hL : AddLabels L) (pid : ProcessID) (followChildren attachThreads : Bool)
    (sibling : ProcessID) (hold : Bool) :
    Does env a L (addForeign env pid followChildren attachThreads sibling hold :
      Step SC TraceeId) := by
  intro w hB
  have hp : Walk (Base : World SC → Prop) _ := Effs.walk env a L
  have hpl : Walk (fun _ : World SC => True) _ := Lets.walk env True w.nextObj
  unfold addForeign
  rw [run_read_bind]
  obtain ⟨w1, hnew, heff, hl1, -, -, -⟩ :=
    newTracee_spec .foreign ((w.tracees.find? sibling).join) hB
  have heff : Eff env a L w w1 := heff env a L
  rw [run_bind_ok hnew]
  have hset2 : Effs env a L w1 (setPID w.nextObj pid w1).2 ∧
      Loose w.nextObj pid (setPID w.nextObj pid w1).2 := effs_setPID pid hl1
  obtain ⟨heff2, hl2⟩ := hset2
  have hset : setPID w.nextObj pid w1 = (.ok (), (setPID w.nextObj pid w1).2) := rfl
  have hB2 := heff2.base (heff.base hB)
  rw [run_bind_ok hset]
  refine hp.trans (Eff.single heff) (hp.trans heff2 ?_)
  generalize (setPID w.nextObj pid w1).2 = w2 at hB2 hl2 ⊢
  have hlet : Lets env True w.nextObj w2 (handle (attach env w.nextObj followChildren attachThreads)
      (fun e => do
        destroy env w.nextObj
        raise e : Exc → Step SC Unit) w2).2 :=
    Along.handle_of hpl trivial (lets_attach _ _ hl2.ended) fun e =>
      Along.bind hpl letting_destroy fun _ => Along.raise hpl _
  have hm : MayEnd a L w2 w.nextObj := ⟨hl2.lt, fun _ => hL.ending, Or.inl hl2.untracked⟩
  refine Along.bind_of hp hB2 (Eff.single (Eff.lets hm hlet fun h => absurd h hl2.untracked))
    fun _ w3 h3 hB3 => ?_
  rw [h3] at hlet
  obtain ⟨hseize, hb⟩ := attach_ok hl2.ended (handle_rethrow_ok h3)
  have hpt : (w2.objs w.nextObj).ptrace = pid := congrArg Prod.fst hl2.birth
  rw [hpt] at hseize
  refine effs_registerLoose hB3 (hl2.of_tracees hlet.tracees hlet.nextObj.ge (hb.trans hl2.birth))
    hL ?_ hold
  exact ⟨w2.log, followChildren, hseize, (hlet.toOnObj.registered pid).symm⟩

theorem readies_create (id : TraceeId) (cmdline : List String) :
    Along (fun _ : World SC => True) (Readies id) (create env id cmdline : Step SC Unit) := by
  have hp : Walk (fun _ : World SC => True) _ := Readies.walk id
  refine Along.read_bind fun w _ => ?_
  by_cases hc : cmdline.isEmpty ∨ env.which w.log (cmdline.headD "") = false
  · rw [if_pos hc]
    exact Along.bind hp (readies_dead id) (fun _ => Along.raise hp _) w trivial
  · rw [if_neg hc]
    refine Along.bind hp (Along.lift hp _) (fun child => ?_) w trivial
    refine Along.bind hp (readies_modify fun _ => rfl) fun _ => ?_
    refine Along.bind hp (readies_request rfl) fun _ => ?_
    exact Along.bind hp (readies_modify fun _ => rfl) fun _ => readies_modify fun _ => rfl

/-- a child that was created is as new, but for its PID -/
theorem create_ok {id : TraceeId} {cmdline : List String} {w w' : World SC}
    (h : create env id cmdline w = (.ok (), w')) :
    ∃ pid, (w'.objs id).birth = (pid, (w.objs id).birth.2) := by
  unfold create at h
  rw [run_read_bind] at h
  split_ifs at h
  · have h' : (changeState env id .dead >>= fun _ =>
        raise (.runtime "does not exist or is not executable") : Step SC Unit) w = _ := h
    rw [run_bind] at h'
    split at h' <;> cases h'
  · rw [run_bind] at h
    cases hc : env.createChild w.log cmdline with
    | error e => rw [hc] at h; cases h
    | ok child =>
      rw [hc] at h
      have h' : (request env id (.waitChild child) >>= fun _ => do
          setFlags id fun f => { f with injectedSigstop := true }
          setPID id child : Step SC Unit)
          (w.setObj id { w.objs id with childPid := child, childRunning := true }) = (.ok (), w') := h
      rw [run_bind, run_request] at h'
      generalize env.request
        (w.setObj id { w.objs id with childPid := child, childRunning := true }).log
        (.waitChild child) = r at h'
      cases r with
      | some e => cases h'
      | none =>
        have hw' := (Prod.mk.inj h').2
        refine ⟨child, ?_⟩
        rw [← hw']
        show ((((_ : World SC).setObj id _).setObj id _).objs id).birth = _
        rw [World.setObj_setObj, World.setObj_self, World.setObj_self]
        show (child, (((w.setObj id _).say _).objs id).ended, _, _) = _
        rw [World.say_objs, World.setObj_self]
        rfl

theorem does_addChild (hL : AddLabels L) (cmdline : List String) (followChildren hold : Bool) :
    Does env a L (addChild env cmdline followChildren hold : Step SC TraceeId) := by
  intro w hB
  have hp : Walk (Base : World SC → Prop) _ := Effs.walk env a L
  obtain ⟨w1, hnew, heff, hl1, -, -, -⟩ := newTracee_spec .child none hB
  have heff : Eff env a L w w1 := heff env a L
  have hB1 := heff.base hB
  unfold addChild
  rw [run_bind_ok hnew]
  refine hp.trans (Eff.single heff) ?_
  have hready : Readies w.nextObj w1 (create env w.nextObj cmdline w1).2 :=
    readies_create _ _ w1 trivial
  have huntracked : ∀ w' : World SC, w'.tracees = w1.tracees → ¬ w'.Tracked w.nextObj :=
    fun w' ht ⟨k, hk⟩ => hl1.untracked ⟨k, ht ▸ hk⟩
  -- creating and attaching, then the clean-up if one of them failed
  have hmake : Effs env a L w1 ((do
      create env w.nextObj cmdline
      attach env w.nextObj followChildren false : Step SC Unit) w1).2 ∧
      OnObj w.nextObj w1 ((do
        create env w.nextObj cmdline
        attach env w.nextObj followChildren false : Step SC Unit) w1).2 := by
    have hcreate : Effs env a L w1 (create env w.nextObj cmdline w1).2 :=
      effs_ready (readies_create _ _) hl1
    rw [run_bind]
    cases hcr : create env w.nextObj cmdline w1 with
    | mk r w2 =>
      rw [hcr] at hcreate hready
      cases r with
      | error e => exact ⟨hcreate, hready.1⟩
      | ok u =>
        obtain ⟨pid, hb⟩ := create_ok hcr
        rw [hl1.birth] at hb
        have hl2 : Loose w.nextObj pid w2 :=
          hl1.of_tracees hready.1.tracees hready.1.nextObj.ge hb
        have hlet : Lets env True w.nextObj w2 (attach env w.nextObj followChildren false w2).2 :=
          lets_attach _ _ hl2.ended
        refine ⟨hp.trans hcreate (Eff.single (Eff.lets ⟨hl2.lt, fun _ => hL.ending,
          Or.inl hl2.untracked⟩ hlet fun h => absurd h hl2.untracked)), ?_⟩
        exact (OnObj.walk _).trans hready.1 hlet.toOnObj
  have hhandle : Effs env a L w1 (handle (do
        create env w.nextObj cmdline
        attach env w.nextObj followChildren false) (fun e => do
      destroy env w.nextObj
      raise e) w1 : Except Exc Unit × World SC).2 := by
    unfold Exec.handle
    obtain ⟨he, hon⟩ := hmake
    cases hx : (do
        create env w.nextObj cmdline
        attach env w.nextObj followChildren false : Step SC Unit) w1 with
    | mk r w3 =>
      rw [hx] at he hon
      cases r with
      | ok u => exact he
      | error e =>
        refine hp.trans he (Along.bind_of hp (he.base hB1) ?_ fun _ w4 _ _ => hp.refl w4)
        exact letting_destroy.effs (hon.nextObj ▸ hl1.lt) (huntracked _ hon.tracees)
          fun _ => hL.ending
  refine Along.bind_of hp hB1 hhandle fun _ w3 h3 hB3 => ?_
  have hx := handle_rethrow_ok h3
  rw [run_bind] at hx
  cases hcr : create env w.nextObj cmdline w1 with
  | mk r w2 =>
    rw [hcr] at hx hready
    cases r with
    | error e => cases hx
    | ok u =>
      obtain ⟨pid, hb⟩ := create_ok hcr
      rw [hl1.birth] at hb
      have hl2 : Loose w.nextObj pid w2 := hl1.of_tracees hready.1.tracees hready.1.nextObj.ge hb
      obtain ⟨hseize, hb3⟩ := attach_ok hl2.ended hx
      have hon : OnObj w.nextObj w2 w3 := by
        have hlet : Lets env True w.nextObj w2 (attach env w.nextObj followChildren false w2).2 :=
          lets_attach _ _ hl2.ended
        have hw3 : (attach env w.nextObj followChildren false w2).2 = w3 := congrArg Prod.snd hx
        rw [hw3] at hlet
        exact hlet.toOnObj
      have hl3 : Loose w.nextObj pid w3 :=
        hl2.of_tracees hon.tracees hon.nextObj.ge (hb3.trans hl2.birth)
      have hpt2 : (w2.objs w.nextObj).ptrace = pid := congrArg Prod.fst hl2.birth
      have hpt3 : (w3.objs w.nextObj).pid = pid := congrArg Prod.fst hl3.birth
      rw [run_bind_ok (run_getTracee _ w3), hpt3]
      rw [hpt2] at hseize
      refine effs_registerLoose hB3 hl3 hL ⟨w2.log, followChildren, hseize, ?_⟩ hold
      rw [hon.registered]

/-! ## the threads of a process -/

theorem does_attachThread (hL : AddLabels L) (id : TraceeId) (pid : ProcessID) :
    Does env a L (attachThread env id pid : Step SC Unit) := by
  have hset : ∀ (thread : TraceeId) (p : ProcessID), Does env a L
      (modifyTracee thread fun u => { u with initialAttacher := some p } : Step SC Unit) := by
    intro thread p
    by_cases ht : thread = a
    · rw [ht]
      exact Does.modify fun _ => rfl
    · intro w _
      have ho : ∀ id, ((w.setObj thread
          { w.objs thread with initialAttacher := some p }).objs id).core = (w.objs id).core := by
        intro id
        by_cases hi : id = thread
        · rw [hi, World.setObj_self]
          rfl
        · rw [World.setObj_of_ne _ _ hi]
      have ha : (w.setObj thread { w.objs thread with initialAttacher := some p }).objs a
          = w.objs a := World.setObj_of_ne _ _ (Ne.symm ht)
      exact Eff.single (Eff.tweak
        { tracees := rfl, unknownEvents := rfl, newlyAttachedPid := rfl, log := rfl
          nextCall := le_rfl, calls := fun _ _ => rfl, nextObj := rfl, others := fun id _ => ho id
          vital := congrArg Tracee.vital ha
          flag := Or.inr (congrArg (fun t : Tracee => t.flags.syscallEntered) ha)
          current := Or.inr (congrArg Tracee.currentSyscall ha)
          db := fun nr c hc => Or.inr ⟨a, by rwa [← ha]⟩ })
  refine Does.bind Does.reading fun t => Along.ite (fun _ => Does.pure _) fun _ => ?_
  refine Does.catchAll ?_ (Does.pure _)
  exact Does.bind (does_addForeign hL _ _ _ _ _) fun thread => hset thread t.ptrace

theorem does_attachThreads (hL : AddLabels L) (it : Iter) :
    Does env a L (attachThreads env it : Step SC Unit) := by
  refine Along.read_bind fun w hB => Does.bind (Does.lift _) (fun pids => ?_) w hB
  exact Does.bind (Does.each fun pid _ => does_attachThread hL _ _) fun _ => does_checkContained it

end Clues
