import Clues.Engine.Aside
import Clues.Engine.Run

/-!
# Every function works around a tracee

One lemma for each function of the event handling, up to the loop of the engine: it works around
`b` (`Besides`), where the stops of `b` may be handled under `S`, and its system calls under `C`.
-/

set_option linter.unusedSectionVars false

namespace Clues

open Lib Lib.Exec Step

variable {SC : Type} [SyscallOps SC] {S C : Prop} {b : TraceeId} {env : Env} {w w' : World SC}

/-! ## adding tracees -/

theorem Tracee.Fresh.of_setup {t : Tracee} {kind : TraceeKind}
    (h : t.setup = ((kind, .unknown, .cont, none), true, decide (kind = .child),
      decide (kind = .child))) : t.Fresh := by
  have hs : t.stops = (kind, .unknown, .cont, none) := congrArg Prod.fst h
  have hm : t.marks = (true, decide (kind = .child), decide (kind = .child)) := congrArg Prod.snd h
  have hk : t.kind = kind := congrArg Prod.fst hs
  refine ⟨by rw [hs, hk], ?_⟩
  rw [hm]
  unfold Tracee.isChildProcess
  rw [hk]

/-- an object is set up, and dropped if that fails -/
theorem Aside.attempt {id : TraceeId} {w₀ : World SC} {α : Type} {x : Step SC α} (hw : w₀.Sound)
    (h : Aside S C b w₀ w) (hx : SetsUp S C b w (x w).2) :
    Aside S C b w₀ (handle x (fun e => do destroy env id; raise e) w).2 := by
  have h1 : Aside S C b w₀ (x w).2 := h.trans hx.toAside
  unfold Exec.handle
  cases hr : x w with
  | mk r w1 =>
    rw [hr] at h1
    cases r with
    | ok a => exact h1
    | error e =>
      have hd : Besides S C b (do destroy env id; raise e : Step SC α) :=
        Besides.bind (besides_destroy id) fun _ => Besides.raise e
      exact h1.trans (hd w1 (h1.sound hw))

/-- a new object is in no entry of `m_tracees` -/
theorem Loosed.of_new (hw : w.Sound) (h : Aside S C b w w') (ht : w'.tracees = w.tracees) :
    Loosed w.nextObj w' :=
  ⟨h.sound hw, fun ⟨k, hk⟩ => lt_irrefl _ (hw _ ⟨k, ht ▸ hk⟩)⟩

theorem state_of_setup {t : Tracee} {kind : TraceeKind} {m : Bool × Bool × Bool}
    (h : t.setup = ((kind, .unknown, .cont, none), m)) : t.state = .unknown :=
  congrArg (fun x => x.1.2.1) h

/-- the object that was set up is put into `m_tracees`, if the client holds it or not -/
theorem Aside.register (kind : TraceeKind) {pid : ProcessID} {hold : Bool} {w₀ : World SC}
    (hw : w₀.Sound) (h : Aside S C b w₀ w) (hlt : w₀.nextObj < w.nextObj)
    (hs : (w.objs w₀.nextObj).setup = ((kind, .unknown, .cont, none), true,
      decide (kind = .child), decide (kind = .child))) :
    Aside S C b w₀ ((do
      modifyTracee w₀.nextObj fun t => { t with held := hold }
      assignTracee env pid w₀.nextObj
      Pure.pure w₀.nextObj : Step SC TraceeId) w).2 := by
  rw [run_bind_ok (run_modifyTracee _ _ w)]
  have hheld : Aside S C b w (w.setObj w₀.nextObj { w.objs w₀.nextObj with held := hold }) :=
    Aside.setObj w (fun hb => Or.inr (hb ▸ rfl)) (fun hb _ => Or.inr (hb ▸ rfl))
      (fun hb => Or.inr (hb ▸ rfl)) rfl
  refine final_bind (P := Aside S C b w₀) ?_ fun _ w1 _ h1 => h1
  refine (h.trans hheld).assign hw le_rfl hlt fun hb => Or.inr (Or.inl ?_)
  subst hb
  rw [World.setObj_self]
  exact Tracee.Fresh.of_setup hs

theorem prepares_setPID {id : TraceeId} (pid : ProcessID) :
    Prepares S C b id (setPID id pid : Step SC Unit) := prepares_modify fun _ => rfl

theorem besides_addForeign (pid : ProcessID) (followChildren attachThreads : Bool)
    (sibling : ProcessID) (hold : Bool) :
    Besides S C b (addForeign env pid followChildren attachThreads sibling hold :
      Step SC TraceeId) := by
  intro w hw
  unfold addForeign
  rw [run_read_bind]
  obtain ⟨w1, hnew, h1, ht1, hn1, hs1⟩ :=
    newTracee_aside .foreign ((w.tracees.find? sibling).join) w
  have hl1 : Loosed w.nextObj w1 := Loosed.of_new hw (h1 S C b) ht1
  have hset : SetsUp S C b w1 (setPID w.nextObj pid w1).2 :=
    prepares_setPID pid w1 hl1
  generalize hw2 : (setPID w.nextObj pid w1).2 = w2 at hset
  have hrun : setPID w.nextObj pid w1 = (.ok (), w2) := by
    rw [← hw2]
    rfl
  have hs2 : (w2.objs w.nextObj).setup = ((.foreign, .unknown, .cont, none), false, false, false) := by
    rw [← hw2, ← hs1]
    show ((w1.setObj w.nextObj _).objs w.nextObj).setup = _
    rw [World.setObj_self]
    rfl
  have hl2 : Loosed w.nextObj w2 := (SetsUp.walk S C b w.nextObj).keeps hl1 hset
  rw [run_bind_ok hnew, run_bind_ok hrun]
  have h2 : Aside S C b w w2 := (h1 S C b).trans hset.toAside
  have hatt : SetsUp S C b w2 (attach env w.nextObj followChildren attachThreads w2).2 :=
    setsUp_attach followChildren attachThreads hl2 (state_of_setup hs2)
  refine final_bind (P := Aside S C b w) (Aside.attempt hw h2 hatt) fun _ w3 hr h3 => ?_
  have hlt : w.nextObj < w3.nextObj := by
    rw [handle_rethrow_ok hr] at hatt
    exact lt_of_lt_of_le (hn1 ▸ Nat.lt_succ_self _)
      (hset.toAside.nextObj.trans hatt.toAside.nextObj)
  refine Aside.register .foreign hw h3 hlt ?_
  rw [attach_setup (handle_rethrow_ok hr)]
  have hst : (w2.objs w.nextObj).stops = (.foreign, .unknown, .cont, none) := congrArg Prod.fst hs2
  have hi : (w2.objs w.nextObj).flags.injectedSigstop = false := congrArg (fun x => x.2.2.1) hs2
  have hc : (w2.objs w.nextObj).flags.injectedSigcont = false := congrArg (fun x => x.2.2.2) hs2
  rw [hst, hi, hc]
  rfl

theorem setsUp_start {id : TraceeId} (cmdline : List String) (followChildren : Bool)
    (hw : Loosed id w) (hs : (w.objs id).setup = ((.child, .unknown, .cont, none), false, false, false)) :
    SetsUp S C b w ((do create env id cmdline; attach env id followChildren false : Step SC Unit) w).2 := by
  refine Along.bind_of (SetsUp.walk S C b id) hw (setsUp_create cmdline hw (state_of_setup hs))
    fun _ w1 hr hw1 => setsUp_attach followChildren false hw1 ?_
  have hc := create_setup hr
  have hst : (w.objs id).stops = (.child, .unknown, .cont, none) := congrArg Prod.fst hs
  rw [hst] at hc
  exact state_of_setup hc

theorem start_setup {id : TraceeId} {cmdline : List String} {followChildren : Bool}
    (hs : (w.objs id).setup = ((.child, .unknown, .cont, none), false, false, false))
    (h : (do create env id cmdline; attach env id followChildren false : Step SC Unit) w
      = (.ok (), w')) :
    (w'.objs id).setup = ((.child, .unknown, .cont, none), true, true, true) := by
  obtain ⟨_, w1, h1, h2⟩ := of_bind_ok h
  have hc := create_setup h1
  have hst : (w.objs id).stops = (.child, .unknown, .cont, none) := congrArg Prod.fst hs
  have hst1 : (w1.objs id).stops = (.child, .unknown, .cont, none) := (congrArg Prod.fst hc).trans hst
  have hi1 : (w1.objs id).flags.injectedSigstop = true := congrArg (fun x => x.2.2.1) hc
  rw [attach_setup h2, hst1, hi1]
  rfl

theorem besides_addChild (cmdline : List String) (followChildren hold : Bool) :
    Besides S C b (addChild env cmdline followChildren hold : Step SC TraceeId) := by
  intro w hw
  unfold addChild
  obtain ⟨w1, hnew, h1, ht1, hn1, hs1⟩ := newTracee_aside .child none w
  have hl1 : Loosed w.nextObj w1 := Loosed.of_new hw (h1 S C b) ht1
  have hst : SetsUp S C b w1 ((do
      create env w.nextObj cmdline
      attach env w.nextObj followChildren false : Step SC Unit) w1).2 :=
    setsUp_start cmdline followChildren hl1 hs1
  rw [run_bind_ok hnew]
  refine final_bind (P := Aside S C b w) (Aside.attempt hw (h1 S C b) hst) fun _ w2 hr h2 => ?_
  have hlt : w.nextObj < w2.nextObj := by
    rw [handle_rethrow_ok hr] at hst
    exact lt_of_lt_of_le (hn1 ▸ Nat.lt_succ_self _) hst.toAside.nextObj
  rw [run_bind_ok (run_getTracee w.nextObj w2)]
  exact Aside.register .child hw h2 hlt (start_setup hs1 (handle_rethrow_ok hr))

theorem besides_attachThread (id : TraceeId) (pid : ProcessID) :
    Besides S C b (attachThread env id pid : Step SC Unit) := by
  refine Besides.bind (besides_getTracee id) fun t => Along.ite (fun _ => Besides.pure _) fun _ => ?_
  refine Besides.catchAll (Besides.bind (besides_addForeign _ _ _ _ _) fun thread => ?_)
    (Besides.pure _)
  exact besides_tweak fun _ => rfl

theorem besides_attachThreads (it : Iter) :
    Besides S C b (attachThreads env it : Step SC Unit) := by
  refine Along.read_bind fun w hw => ?_
  have hx : Besides S C b (do
      let pids ← lift (env.tasks w.log (w.objs it.id).ptrace)
      each pids (attachThread env it.id)
      checkContained it : Step SC Unit) :=
    Besides.bind (Besides.lift _) fun pids =>
      Besides.bind (Besides.each fun pid _ => besides_attachThread it.id pid) fun _ =>
        besides_checkContained it
  exact hx w hw

/-! ## the initial ptrace stop -/

theorem besides_getRegisters (id : TraceeId) (abi : ABI) :
    Besides S C b (getRegisters env id abi : Step SC RegisterSet) := by
  refine Besides.bind (besides_getTracee id) fun t => ?_
  refine Besides.bind (Besides.query (besides_mildRequest rfl)) fun r => ?_
  cases r with
  | some info => exact Besides.pure _
  | none => exact Besides.raise _

theorem besides_getInitialRegisters (id : TraceeId) :
    Besides S C b (getInitialRegisters env id : Step SC Unit) := by
  have hread : ∀ abi, Besides S C b (do
      let rs ← getRegisters env id abi
      modifyTracee id fun t => { t with initialRegset := rs } : Step SC Unit) := fun abi =>
    Besides.bind (besides_getRegisters id abi) fun rs => besides_tweak fun _ => rfl
  refine Besides.handle ?_ fun e => ?_
  · refine Besides.bind (besides_getRegisters id _) fun rs =>
      Besides.bind (besides_tweak fun _ => rfl) fun _ => Along.ite (fun _ => ?_) fun _ =>
        Besides.pure _
    exact hread .x32
  · cases e with
    | runtime msg => exact hread .i386
    | _ => exact Besides.raise _

theorem besides_initFDs (id : TraceeId) : Besides S C b (initFDs env id : Step SC Unit) := by
  refine Along.read_bind fun w hw => ?_
  have hx : Besides S C b (catchCosmos
      (do
        let infos ← lift (env.fdInfos w.log (w.objs id).ptrace)
        each infos fun info =>
          modifyProc id fun d => { d with fdInfoMap := d.fdInfoMap.insert info.fd info })
      (Pure.pure ()) : Step SC Unit) :=
    Besides.catchCosmos (Besides.bind (Besides.lift _) fun infos =>
      Besides.each fun info _ => besides_modifyProc id _) (Besides.pure _)
  by_cases hm : (w.procs (w.objs id).processData).fdInfoMap.isEmpty
  · rw [if_pos hm]
    exact hx w hw
  · rw [if_neg hm]
    exact Aside.refl w

/-- what follows the marks in `Tracee::handleAttached()` -/
def finishAttached (env : Env) (it : Iter) : Step SC Unit := do
  getInitialRegisters env it.id
  initFDs env it.id
  notify env it (.attached it.id)
  let t ← getTracee it.id
  when t.flags.attachThreadsPending do
    catchAll (attachThreads env it) (pure ())
    setFlags it.id fun f => { f with attachThreadsPending := false }

theorem besides_finishAttached (it : Iter) :
    Besides S C b (finishAttached env it : Step SC Unit) := by
  refine Besides.bind (besides_getInitialRegisters it.id) fun _ =>
    Besides.bind (besides_initFDs it.id) fun _ => ?_
  refine Besides.bind (besides_notify (fun h => nomatch h) fun h => nomatch h) fun _ => ?_
  refine Besides.bind (besides_getTracee it.id) fun t => Besides.when fun _ => ?_
  exact Besides.bind (Besides.catchAll (besides_attachThreads it) (Besides.pure _)) fun _ =>
    besides_tweak fun _ => rfl

/-! ## system call objects -/

theorem besides_startDecode (id : TraceeId) :
    Besides S C b (startDecode env id : Step SC DecodeEnv) := by
  refine Besides.bind (besides_getTracee id) fun t => ?_
  exact Besides.bind (besides_say (fun h => nomatch h) fun h => nomatch h) fun _ => Besides.reading

theorem besides_getCall (c : CallId) : Besides S C b (getCall c : Step SC (CallObj SC)) := by
  refine Along.read_bind fun w hw => ?_
  cases w.calls c with
  | some call => exact Aside.refl w
  | none => exact Aside.refl w

theorem requested_putCall (c : CallId) (sc : SC) (w : World SC) (q : CallId) :
    (putCall c sc w).2.requested q = w.requested q := by
  show (Function.update w.calls c ((w.calls c).map fun call => { call with obj := sc }) q).map
    CallObj.requested = _
  by_cases hq : q = c
  · rw [hq, Function.update_self, Option.map_map]
    rfl
  · rw [Function.update_of_ne hq]
    rfl

/-- an object is replaced by one that has the same number, if the objects are lawful -/
theorem Shelved.putCall {c : CallId} {call : CallObj SC} {sc : SC} (hc : w.calls c = some call)
    (hs : Lawful SC → SyscallOps.callNr sc = SyscallOps.callNr call.obj) :
    Shelved w (putCall c sc w).2 := by
  refine ⟨fun hf => ⟨fun q hle => ?_, fun id nr q h => ?_, fun hl q x h => ?_⟩,
    fun _ q _ h => (requested_putCall c sc w q).trans h⟩
  · show Function.update w.calls c _ q = none
    have hq : q ≠ c := fun he => by
      have hn := hf.fresh c (he ▸ hle)
      rw [hc] at hn
      cases hn
    rw [Function.update_of_ne hq]
    exact hf.fresh q hle
  · rw [requested_putCall]
    exact hf.db id nr q h
  · have h' : Function.update w.calls c ((w.calls c).map fun call => { call with obj := sc }) q
        = some x := h
    by_cases hq : q = c
    · rw [hq, Function.update_self, hc] at h'
      cases h'
      exact (hs hl).trans (hf.numbered hl hc)
    · rw [Function.update_of_ne hq] at h'
      exact hf.numbered hl h'

theorem besides_replaceCall {c : CallId} {call : CallObj SC} {sc : SC} (hc : w.calls c = some call)
    (hs : Lawful SC → SyscallOps.callNr sc = SyscallOps.callNr call.obj) :
    Aside S C b w (putCall c sc w).2 := Aside.same rfl rfl rfl rfl (Shelved.putCall hc hs)

/-- a new object, under the number it was made for -/
theorem Shelved.newCall {call : CallObj SC}
    (hs : Lawful SC → SyscallOps.callNr call.obj = createdNr call.requested) :
    Shelved w (newCall call w).2 := by
  have hold : w.Filed → ∀ q, w.calls q ≠ none →
      (Clues.newCall call w).2.calls q = w.calls q := fun hf q hq => by
    refine Function.update_of_ne (fun he => hq ?_) ..
    rw [he]
    exact hf.fresh _ le_rfl
  have hreq : w.Filed → ∀ {q nr}, w.requested q = some nr →
      (Clues.newCall call w).2.requested q = some nr := fun hf q nr h => by
    unfold World.requested at h ⊢
    rw [hold hf q fun hn => by rw [hn] at h; cases h]
    exact h
  refine ⟨fun hf => ⟨fun q hle => ?_, fun id nr q h => hreq hf (hf.db id nr q h),
    fun hl q x h => ?_⟩, hreq⟩
  · have hlt : w.nextCall < q := hle
    exact (Function.update_of_ne (ne_of_gt hlt) ..).trans (hf.fresh q hlt.le)
  · have h' : Function.update w.calls w.nextCall (some call) q = some x := h
    by_cases hq : q = w.nextCall
    · rw [hq, Function.update_self] at h'
      cases h'
      exact hs hl
    · rw [Function.update_of_ne hq] at h'
      exact hf.numbered hl h'

theorem besides_derefCall (c : Option CallId) : Besides S C b (derefCall c : Step SC CallId) := by
  cases c with
  | some c => exact Besides.pure _
  | none => exact Besides.raise _

theorem besides_currentNr (id : TraceeId) :
    Besides S C b (currentNr id : Step SC SystemCallNr) :=
  Besides.bind (besides_getTracee id) fun _ => Besides.bind (besides_derefCall _) fun c =>
    Besides.bind (besides_getCall c) fun _ => Besides.pure _

theorem getCall_ok {c : CallId} {call : CallObj SC} (h : getCall c w = (.ok call, w')) :
    w.calls c = some call ∧ w' = w := by
  unfold getCall at h
  rw [run_read_bind] at h
  cases hc : w.calls c with
  | none =>
    rw [hc] at h
    cases h
  | some x =>
    rw [hc] at h
    obtain ⟨h1, h2⟩ := Prod.mk.inj h
    exact ⟨congrArg some (Except.ok.inj h1), h2.symm⟩

/-- the database gets the object that was just made for its number -/
theorem Shelved.cached {id : TraceeId} {nr : SystemCallNr} {c : CallId} (hc : w.requested c = some nr) :
    Shelved w (w.setObj id { w.objs id with
      syscallDb := Function.update (w.objs id).syscallDb nr (some c) }) := by
  refine ⟨fun hf => ⟨hf.fresh, fun i n q h => ?_, hf.numbered⟩, fun _ _ _ h => h⟩
  by_cases hi : i = id
  · subst hi
    rw [World.setObj_self] at h
    have h' : Function.update (w.objs i).syscallDb nr (some c) n = some q := h
    by_cases hn : n = nr
    · rw [hn, Function.update_self] at h'
      cases h'
      rw [hn]
      exact hc
    · rw [Function.update_of_ne hn] at h'
      exact hf.db i n q h'
  · rw [World.setObj_of_ne w _ hi] at h
    exact hf.db i n q h

theorem requested_newCall (call : CallObj SC) (w : World SC) :
    (newCall call w).2.requested w.nextCall = some call.requested := by
  show (Function.update w.calls w.nextCall (some call) w.nextCall).map CallObj.requested = _
  rw [Function.update_self]
  rfl

/-- the rest of `SystemCallDB::get()`, when an object was created -/
theorem aside_cacheCall (id : TraceeId) {info : SystemCallInfo} {r : SC × Bool} (hw : w.Sound)
    (hr : Lawful SC → SyscallOps.callNr r.1 = createdNr info.sysNr) :
    Aside S C b w ((do
      let c ← newCall ⟨info.sysNr, r.1⟩
      when r.2
        (modifyTracee id fun t =>
          { t with syscallDb := Function.update t.syscallDb info.sysNr (some c) })
      Pure.pure c : Step SC CallId) w).2 := by
  have hp : Walk (World.Sound : World SC → Prop) _ := Aside.walk S C b
  have hnew : Aside S C b w (newCall ⟨info.sysNr, r.1⟩ w).2 :=
    Aside.same rfl rfl rfl rfl (Shelved.newCall hr)
  refine Along.bind_of hp hw hnew fun c w1 h1 hw1 => ?_
  have hreq : w1.requested c = some info.sysNr := by
    rw [← (Prod.mk.inj h1).2, ← Except.ok.inj (Prod.mk.inj h1).1]
    exact requested_newCall _ w
  refine Along.bind_of hp hw1 ?_ fun _ w2 _ _ => Aside.refl w2
  unfold Exec.when
  split_ifs
  · exact Aside.changed w1 (fun hb => Or.inr (hb ▸ rfl)) (fun hb _ => Or.inr (hb ▸ rfl))
      (fun hb => Or.inr (hb ▸ rfl)) (Shelved.cached hreq)
  · exact Aside.refl w1

theorem besides_dbGet (id : TraceeId) (info : SystemCallInfo) :
    Besides S C b (dbGet env id info : Step SC CallId) := by
  refine Besides.bind (besides_getTracee id) fun t => ?_
  cases t.syscallDb info.sysNr with
  | some c => exact Besides.pure _
  | none =>
    refine Besides.bind (besides_startDecode id) fun de w hw => ?_
    refine Along.bind_of (Aside.walk S C b) hw (Aside.refl w) fun r w1 hr hw1 => ?_
    exact aside_cacheCall id hw1 fun hl => hl.created (Prod.mk.inj hr).1

theorem besides_setEntryInfo (id : TraceeId) (c : CallId) (info : SystemCallInfo) :
    Besides S C b (setEntryInfo env id c info : Step SC Unit) := by
  refine Besides.bind (besides_startDecode id) fun de w hw => ?_
  refine Along.bind_of (Aside.walk S C b) hw (besides_getCall c w hw) fun call w1 hr hw1 => ?_
  obtain ⟨hc, hw1'⟩ := getCall_ok hr
  refine Along.bind_of (Aside.walk S C b) hw1 ?_ fun _ w2 _ _ => Aside.refl w2
  exact besides_replaceCall (hw1' ▸ hc) fun hl => hl.entry _ _ _

theorem besides_setExitInfo (id : TraceeId) (c : CallId) (info : SystemCallInfo) :
    Besides S C b (setExitInfo env id c info : Step SC Unit) := by
  refine Besides.bind (besides_startDecode id) fun de w hw => ?_
  refine Along.bind_of (Aside.walk S C b) hw (besides_getCall c w hw) fun call w1 hr hw1 => ?_
  obtain ⟨hc, hw1'⟩ := getCall_ok hr
  rw [run_read_bind]
  refine Along.bind_of (Aside.walk S C b) hw1 ?_ fun _ w2 _ hw2 => ?_
  · exact besides_replaceCall (hw1' ▸ hc) fun hl => hl.exit _ _ _ _
  · refine Besides.bind (besides_modifyProc id _) (fun _ => ?_) w2 hw2
    exact Besides.bind (besides_tweak fun _ => rfl) fun _ => Besides.lift _

/-! ## system call stops -/

/-- a change of the data about the system calls -/
theorem besides_setCall {id : TraceeId} {f : Tracee → Tracee} (hC : id = b → C)
    (h : ∀ t, ((f t).stops, (f t).marks, (f t).syscallDb) = (t.stops, t.marks, t.syscallDb)) :
    Besides S C b (modifyTracee id f : Step SC Unit) :=
  besides_modify
    (fun _ => Or.inr fun t => ⟨congrArg Prod.fst (h t), congrArg (fun x => x.2.1) (h t)⟩)
    (fun hb => Or.inl (hC hb)) fun t => congrArg (fun x => x.2.2) (h t)

theorem besides_tryRecover {id : TraceeId} (hC : id = b → C) (info : SystemCallInfo) :
    Besides S C b (tryRecoverRestartedSystemCall env id info : Step SC Bool) := by
  refine Besides.bind (besides_getTracee id) fun t => ?_
  cases t.getInitialSyscallInfo env info.abi with
  | none => exact Besides.pure _
  | some orig =>
    refine Along.ite (fun _ => Besides.pure _) fun _ => ?_
    refine Besides.bind (besides_dbGet id orig) fun c => ?_
    exact Besides.bind (besides_setCall hC fun _ => rfl) fun _ => Besides.pure _

theorem besides_checkResumed {id : TraceeId} (hC : id = b → C) (info : SystemCallInfo)
    (call : CallObj SC) : Besides S C b (checkResumed env id info call : Step SC Bool) := by
  refine Besides.bind (besides_getTracee id) fun t => Along.ite (fun _ => ?_) fun _ => ?_
  · cases t.interruptedSyscall with
    | some i => exact Besides.bind (besides_setCall hC fun _ => rfl) fun _ => Besides.pure _
    | none => exact Along.ite (fun _ => Besides.pure _) fun _ => besides_tryRecover hC info
  · cases t.interruptedSyscall with
    | none => exact Besides.pure _
    | some i =>
      refine Along.ite (fun _ => ?_) fun _ => Besides.pure _
      refine Besides.bind (besides_getCall i) fun _ => ?_
      refine Besides.bind (besides_setCall hC fun _ => rfl) fun _ => ?_
      exact Besides.bind (besides_setCall hC fun _ => rfl) fun _ => Besides.pure _

theorem besides_handleSystemCallEntry {it : Iter} (hC : it.id = b → C) (info : SystemCallInfo) :
    Besides S C b (handleSystemCallEntry env it info : Step SC Unit) := by
  refine Besides.bind (besides_dbGet it.id info) fun c => ?_
  refine Besides.bind (besides_setCall hC fun _ => rfl) fun _ => ?_
  refine Besides.bind (besides_getCall c) fun call => Besides.bind (Besides.lift _) fun _ => ?_
  refine Besides.bind (besides_checkResumed hC info call) fun resumed => ?_
  refine Besides.bind (besides_getTracee it.id) fun t => Besides.bind (besides_derefCall _) fun c => ?_
  refine Besides.bind (besides_setEntryInfo it.id c info) fun _ => ?_
  refine Besides.bind (besides_setCall hC fun _ => rfl) fun _ => ?_
  exact besides_notify (fun h => nomatch h) fun h => hC (of_decide_eq_true h)

theorem besides_checkSigreturn {id : TraceeId} (hC : id = b → C) (call : CallObj SC) :
    Besides S C b (checkSigreturn id call : Step SC Unit) := by
  refine Besides.bind (besides_getTracee id) fun t => Along.ite (fun _ => ?_) fun _ =>
    Besides.pure _
  cases SyscallOps.error call.obj with
  | none => exact besides_setCall hC fun _ => rfl
  | some e =>
    exact Along.ite (fun _ => besides_setCall hC fun _ => rfl) fun _ =>
      besides_setCall hC fun _ => rfl

theorem besides_handleSystemCallExit {it : Iter} (hC : it.id = b → C) (info : SystemCallInfo) :
    Besides S C b (handleSystemCallExit env it info : Step SC Unit) := by
  refine Besides.bind (besides_getTracee it.id) fun t => Besides.bind (besides_derefCall _) fun c => ?_
  refine Besides.bind (besides_setExitInfo it.id c info) fun _ => ?_
  refine Besides.bind (besides_getCall c) fun call => ?_
  refine Besides.bind (Besides.when fun _ => besides_setCall hC fun _ => rfl) fun _ => ?_
  refine Besides.bind (besides_notify (fun h => nomatch h) fun h => hC (of_decide_eq_true h))
    fun _ => ?_
  exact Besides.bind (besides_checkSigreturn hC call) fun _ => besides_setCall hC fun _ => rfl

theorem besides_saySyscallStop {id : TraceeId} (hC : id = b → C) (info : SystemCallInfo) :
    Besides S C b (saySyscallStop env id info : Step SC Unit) := by
  have hsay : ∀ e : Entry, (e.isStop b = true → False) → (e.isCall b = true → id = b) →
      Besides S C b (say e : Step SC Unit) := fun e hs hc =>
    besides_say (fun h => (hs h).elim) fun h => hC (hc h)
  unfold saySyscallStop
  cases info.stop with
  | entry e =>
    dsimp only
    cases info.updateSysNr env with
    | ok info' => exact hsay _ Bool.false_ne_true fun h => of_decide_eq_true h
    | error e => exact hsay _ Bool.false_ne_true fun h => of_decide_eq_true h
  | exit i => exact hsay _ Bool.false_ne_true fun h => of_decide_eq_true h
  | none => exact Besides.pure _
  | seccomp => exact Besides.pure _

/-- the changes of state of the tracee itself are left to `R` -/
theorem along_handleSyscallStop {R : World SC → World SC → Prop} {it : Iter}
    (hR : Walk (World.Sound : World SC → Prop) R)
    (hsub : ∀ {v v' : World SC}, Aside S C b v v' → R v v')
    (hstate : ∀ s, s.isEnded = false → s ≠ .groupStop →
      Along (World.Sound : World SC → Prop) R (changeState env it.id s : Step SC Unit))
    (hC : it.id = b → C) (info : SystemCallInfo) :
    Along (World.Sound : World SC → Prop) R (handleSyscallStop env it info : Step SC Unit) := by
  have hlift : ∀ {α : Type} {x : Step SC α}, Besides S C b x →
      Along (World.Sound : World SC → Prop) R x := fun hx w hw => hsub (hx w hw)
  refine Along.bind hR (hlift (besides_getTracee it.id)) fun t => Along.ite (fun _ => ?_) fun _ => ?_
  · refine Along.ite (fun _ => ?_) fun _ => Along.raise hR _
    exact Along.bind hR (hstate _ rfl (fun h => nomatch h)) fun _ =>
      hlift (besides_handleSystemCallExit hC info)
  · refine Along.ite (fun _ => ?_) fun _ => Along.raise hR _
    refine Along.bind hR (Along.lift hR _) fun info => ?_
    refine Along.bind hR (hlift (besides_tweak fun _ => rfl)) fun _ => ?_
    exact Along.bind hR (hstate _ rfl (fun h => nomatch h)) fun _ =>
      hlift (besides_handleSystemCallEntry hC info)

theorem along_handleSystemCall {R : World SC → World SC → Prop} {it : Iter}
    (hR : Walk (World.Sound : World SC → Prop) R)
    (hsub : ∀ {v v' : World SC}, Aside S C b v v' → R v v')
    (hstate : ∀ s, s.isEnded = false → s ≠ .groupStop →
      Along (World.Sound : World SC → Prop) R (changeState env it.id s : Step SC Unit))
    (hC : it.id = b → C) :
    Along (World.Sound : World SC → Prop) R (handleSystemCall env it : Step SC Unit) := by
  have hlift : ∀ {α : Type} {x : Step SC α}, Besides S C b x →
      Along (World.Sound : World SC → Prop) R x := fun hx w hw => hsub (hx w hw)
  refine Along.bind hR (hlift (besides_tweak fun _ => rfl)) fun _ => ?_
  refine Along.bind hR (hlift (besides_getTracee it.id)) fun t => ?_
  refine Along.bind hR (hlift (Besides.query (besides_request (fun _ h => nomatch h)
    fun hb _ => hC hb))) fun r => ?_
  refine Along.bind hR (hlift (besides_tweak fun _ => rfl)) fun _ => ?_
  refine Along.bind hR (hlift (besides_saySyscallStop hC _)) fun _ => ?_
  refine Along.bind hR (along_handleSyscallStop hR hsub hstate hC _) fun _ => ?_
  exact hlift (besides_tweak fun _ => rfl)

/-! ## cleaning up -/

theorem besides_checkCleanupTracee (key : ProcessID) :
    Besides S C b (checkCleanupTracee env key : Step SC Unit) := by
  refine Besides.bind (besides_entryTracee key) fun id => Besides.bind (besides_getTracee id)
    fun t => Along.ite (fun _ => ?_) fun _ => Along.ite (fun _ => ?_) fun _ => Besides.pure _
  · exact Along.ite (fun _ => besides_eraseTracee key) fun _ => Besides.pure _
  · exact Besides.bind (besides_doDetach id) fun _ => besides_eraseTracee key

/-! ## new children -/

theorem besides_hasClonedThread (id : TraceeId) :
    Besides S C b (hasClonedThread id : Step SC Bool) := by
  refine Besides.bind (besides_getTracee id) fun t => ?_
  cases t.currentSyscall with
  | none => exact Besides.pure _
  | some c => exact Besides.bind (besides_getCall c) fun _ => Besides.lift _

theorem prepares_unshareProcessData {id : TraceeId} :
    Prepares S C b id (unshareProcessData id : Step SC Unit) := by
  intro w hw
  have hset : SetsUp S C b w (w.setObj id { w.objs id with processData := w.nextProc }) := by
    refine ⟨Aside.setObj w (fun hb => Or.inr ?_) (fun hb ht => absurd (hb ▸ ht) hw.untracked)
      (fun hb => Or.inr ?_) rfl, rfl⟩
    · exact hb ▸ rfl
    · exact hb ▸ rfl
  exact ⟨hset.toAside.trans (Aside.same rfl rfl rfl rfl
    (Shelved.of_same rfl rfl fun i _ _ h => ⟨i, h⟩)), rfl⟩

theorem prepares_configure {id : TraceeId} (pid : ProcessID) (call : CallObj SC) :
    Prepares S C b id (configure id pid call : Step SC Unit) := by
  have hp : Walk (Loosed id : World SC → Prop) _ := SetsUp.walk S C b id
  refine Along.bind hp (prepares_setPID pid) fun _ => ?_
  refine Along.bind hp (prepares_modify fun _ => rfl) fun _ => ?_
  refine Along.bind hp (Along.lift hp _) fun shares => ?_
  exact Along.ite (fun _ => prepares_unshareProcessData) fun _ => Along.pure hp _

theorem configure_setup {id : TraceeId} {pid : ProcessID} {call : CallObj SC}
    (h : configure id pid call w = (.ok (), w')) :
    (w'.objs id).setup = ((w.objs id).stops, true, (w.objs id).flags.injectedSigstop,
      (w.objs id).flags.injectedSigcont) := by
  unfold configure at h
  obtain ⟨_, w1, h1, h⟩ := of_bind_ok h
  have ho1 : ((w1.objs id).stops, (w1.objs id).marks) = ((w.objs id).stops, (w.objs id).marks) := by
    rw [← (Prod.mk.inj h1).2, World.setObj_self]
    rfl
  rw [run_bind_ok (run_setFlags id _ w1)] at h
  generalize hw2 : w1.setObj id _ = w2 at h
  have ho2 : (w2.objs id).setup = ((w.objs id).stops, true, (w.objs id).flags.injectedSigstop,
      (w.objs id).flags.injectedSigcont) := by
    rw [← hw2, World.setObj_self]
    unfold Tracee.setup Tracee.marks at *
    simp only [Prod.mk.injEq] at ho1 ⊢
    exact ⟨ho1.1, trivial, ho1.2.2⟩
  obtain ⟨shares, w3, h3, h⟩ := of_bind_ok h
  have hw3 : w3 = w2 := (congrArg Prod.snd h3).symm
  rw [hw3] at h
  split_ifs at h
  · rw [← (Prod.mk.inj h).2]
    show ((w2.setObj id _).objs id).setup = _
    rw [World.setObj_self, ← ho2]
    rfl
  · rw [← (Prod.mk.inj h).2]
    exact ho2

theorem besides_indexTracee (pid : ProcessID) :
    Besides S C b (indexTracee pid : Step SC (Option TraceeId)) := by
  intro w _
  refine Aside.inplace ?_ rfl ⟨[], by simp [indexTracee], by simp⟩ (Or.inr (Or.inl rfl))
    (fun _ => Or.inr (Or.inl rfl)) (Or.inr (Or.inl rfl))
    (Shelved.of_same rfl rfl fun i _ _ h => ⟨i, h⟩)
  rintro id ⟨k, hk⟩
  have hk' : (w.tracees.insert pid none).find? k = some (some id) := hk
  rw [OrdMap.find?_insert] at hk'
  split_ifs at hk' with hkp
  · have hg : (w.tracees.find? pid).getD none = some id := Option.some.inj hk'
    refine ⟨pid, ?_⟩
    cases hf : w.tracees.find? pid with
    | none => rw [hf] at hg; cases hg
    | some e => rw [hf] at hg; exact congrArg some hg
  · exact ⟨k, hk'⟩

theorem besides_tellNewChild (it : Iter) (pid : ProcessID) (event : PtraceEvent) (child : TraceeId)
    (thread : Bool) : Besides S C b (tellNewChild env it pid event child thread : Step SC Unit) :=
  Besides.bind (besides_notify (fun h => nomatch h) fun h => nomatch h) fun _ =>
    besides_checkCleanupTracee pid

/-- `m_tracees.insert({pid, tracee})` for a new object -/
theorem Aside.insert {pid : ProcessID} {id : TraceeId} (h : Aside S C b w w') (hid : w.nextObj ≤ id)
    (hlt : id < w'.nextObj) (hf : id = b → S ∨ (w'.objs b).Fresh ∨ Departed w'.log b) :
    Aside S C b w (insertTracee pid id w').2 := by
  unfold insertTracee
  rw [run_read_bind]
  cases w'.tracees.find? pid with
  | none => exact h.put hid hlt hf
  | some _ => exact h

/-- the part of `Engine::handleAutoAttach()` behind the insertion -/
theorem besides_finishAutoAttached (it : Iter) (pid : ProcessID) (event : PtraceEvent)
    (id : TraceeId) :
    Besides S C b (do
      let thread ← hasClonedThread it.id
      let child ← entryTracee pid
      tellNewChild env it pid event child thread
      when (child ≠ id) (destroy env id) : Step SC Unit) := by
  refine Besides.bind (besides_hasClonedThread it.id) fun thread => ?_
  refine Besides.bind (besides_entryTracee pid) fun child => ?_
  refine Besides.bind (besides_tellNewChild it pid event child thread) fun _ => ?_
  exact Besides.when fun _ => besides_destroy id

theorem besides_addAutoAttached (it : Iter) (pid : ProcessID) (event : PtraceEvent)
    (call : CallObj SC) :
    Besides S C b (addAutoAttached env it pid event call : Step SC Unit) := by
  refine Besides.bind (besides_getTracee it.id) fun parent => ?_
  refine Besides.bind (besides_indexTracee parent.pid) fun sibling => ?_
  intro w hw
  obtain ⟨w1, hnew, h1, ht1, hn1, hs1⟩ := newTracee_aside .autoAttached sibling w
  have hl1 : Loosed w.nextObj w1 := Loosed.of_new hw (h1 S C b) ht1
  have hconf : SetsUp S C b w1 (configure w.nextObj pid call w1).2 :=
    prepares_configure pid call w1 hl1
  rw [run_bind_ok hnew]
  refine final_bind (P := Aside S C b w) ((h1 S C b).trans hconf.toAside) fun _ w2 hr h2 => ?_
  have hlt : w.nextObj < w2.nextObj := by
    rw [hr] at hconf
    exact lt_of_lt_of_le (hn1 ▸ Nat.lt_succ_self _) hconf.toAside.nextObj
  have hfresh : w.nextObj = b → S ∨ (w2.objs b).Fresh ∨ Departed w2.log b := by
    rintro rfl
    have hst : (w1.objs w.nextObj).stops = (.autoAttached, .unknown, .cont, none) :=
      congrArg Prod.fst hs1
    have hi : (w1.objs w.nextObj).flags.injectedSigstop = false := congrArg (fun x => x.2.2.1) hs1
    have hc : (w1.objs w.nextObj).flags.injectedSigcont = false := congrArg (fun x => x.2.2.2) hs1
    have hset : (w2.objs w.nextObj).setup
        = ((.autoAttached, .unknown, .cont, none), true, false, false) := by
      rw [configure_setup hr, hst, hi, hc]
    exact Or.inr (Or.inl (Tracee.Fresh.of_setup hset))
  refine final_bind (P := Aside S C b w) (h2.insert le_rfl hlt hfresh) fun _ w3 _ h3 => ?_
  exact h3.trans (besides_finishAutoAttached it pid event w.nextObj w3 (h3.sound hw))

theorem besides_handleAutoAttach (it : Iter) (pid : ProcessID) (event : PtraceEvent)
    (call : CallObj SC) :
    Besides S C b (handleAutoAttach env it pid event call : Step SC Unit) := by
  refine Besides.bind (Along.ite (fun _ => besides_addAutoAttached it pid event call) fun _ => ?_)
    fun _ => besides_update fun _ => rfl
  exact Along.read_bind fun w hw =>
    besides_notify (fun h => nomatch h) (fun h => nomatch h) w hw

/-! ## execve -/

theorem besides_detachReplaced (old : TraceeId) :
    Besides S C b (detachReplaced env old : Step SC Unit) :=
  Besides.catchApi (Besides.bind (besides_detach old) fun _ => Besides.pure _) fun _ =>
    Along.ite (fun _ => Besides.raise _) fun _ => Besides.pure _

/-- the object that is replaced is the one registered for the thread -/
theorem replaced_of_handleSubstitution {pid : ProcessID} {old : TraceeId}
    (h : handleSubstitution env pid w = (.ok (some old), w')) :
    (w.tracees.find? pid).join = some old := by
  unfold handleSubstitution at h
  rw [run_read_bind] at h
  cases hf : w.tracees.find? pid with
  | none => rw [hf] at h; cases h
  | some e =>
    rw [hf] at h
    obtain ⟨i, w1, h1, h⟩ := of_bind_ok h
    obtain ⟨_, w2, -, h⟩ := of_bind_ok h
    obtain ⟨_, w3, -, h⟩ := of_bind_ok h
    have hi : i = old := Option.some.inj (Except.ok.inj (congrArg Prod.fst h))
    rw [← hi, ← hf, (entryTracee_ok h1).1]
    rfl

theorem besides_handleSubstitution (pid : ProcessID) :
    Besides S C b (handleSubstitution env pid : Step SC (Option TraceeId)) := by
  refine Along.read_bind fun w hw => ?_
  cases w.tracees.find? pid with
  | none => exact Aside.refl w
  | some e =>
    have hx : Besides S C b (do
        let old ← entryTracee pid
        detachReplaced env old
        let _ ← extractTracee pid
        Pure.pure (some old) : Step SC (Option TraceeId)) :=
      Besides.bind (besides_entryTracee pid) fun old =>
        Besides.bind (besides_detachReplaced old) fun _ =>
          Besides.bind (besides_extractTracee pid) fun _ => Besides.pure _
    exact hx w hw

/-- the database may be moved from one object to another -/
theorem Shelved.moved {id : TraceeId} {t : Tracee} (other : TraceeId)
    (hd : ∀ nr c, t.syscallDb nr = some c → (w.objs other).syscallDb nr = some c) :
    Shelved w (w.setObj id t) := by
  refine Shelved.of_same rfl rfl fun i nr c h => ?_
  by_cases hi : i = id
  · subst hi
    rw [World.setObj_self] at h
    exact ⟨other, hd nr c h⟩
  · rw [World.setObj_of_ne w t hi] at h
    exact ⟨i, h⟩

theorem aside_syncState {id other : TraceeId} (hC : id = b → C) (hw : w.Sound)
    (hd : other = b → Departed w.log b) : Aside S C b w (syncState env id other w).2 := by
  have hp : Walk (World.Sound : World SC → Prop) _ := Aside.walk S C b
  have h1 : Aside S C b w (w.setObj id { w.objs id with
      syscallInfo := (w.objs other).syscallInfo
      syscallDb := (w.objs other).syscallDb
      currentSyscall := (w.objs other).currentSyscall
      interruptedSyscall := (w.objs other).interruptedSyscall
      syscallCtr := (w.objs other).syscallCtr }) :=
    Aside.changed w (fun hb => Or.inr (hb ▸ rfl)) (fun hb _ => Or.inr (hb ▸ rfl))
      (fun hb => Or.inl (hC hb)) (Shelved.moved other fun _ _ h => h)
  have h2 : ∀ v : World SC, Aside S C b v
      (v.setObj other { v.objs other with syscallDb := fun _ => none }) := fun v =>
    Aside.changed v (fun hb => Or.inr (hb ▸ rfl)) (fun hb _ => Or.inr (hb ▸ rfl))
      (fun hb => Or.inr (hb ▸ rfl)) (Shelved.moved other fun _ _ h => nomatch h)
  unfold syncState
  rw [run_bind_ok (run_getTracee other w)]
  refine Along.bind_of hp hw h1 fun _ w1 hr1 hw1 => ?_
  refine Along.bind_of hp hw1 (h2 w1) fun _ w2 hr2 hw2 => aside_dead hw2 fun hb => ?_
  rw [← (Prod.mk.inj hr2).2, ← (Prod.mk.inj hr1).2]
  exact hd hb

theorem besides_setPID (id : TraceeId) (pid : ProcessID) :
    Besides S C b (setPID id pid : Step SC Unit) := besides_tweak fun _ => rfl

theorem besides_dropClosedFDs (id : TraceeId) :
    Besides S C b (dropClosedFDs env id : Step SC Unit) := by
  refine Along.read_bind fun w hw => ?_
  cases env.openFds w.log (w.objs id).ptrace with
  | ok left => exact besides_modifyProc id _ w hw
  | error e => exact Aside.refl w

theorem aside_replaceLeader {it : Iter} {mainPid formerPid : ProcessID} (hC : it.id = b → C)
    (hw : w.Sound) (hd : (w.tracees.find? formerPid).join = some b → Departed w.log b) :
    Aside S C b w (replaceLeader env it mainPid formerPid w).2 := by
  have hp : Walk (World.Sound : World SC → Prop) _ := Aside.walk S C b
  have hsub : Aside S C b w (handleSubstitution env formerPid w).2 :=
    besides_handleSubstitution formerPid w hw
  refine Along.bind_of hp hw hsub fun old w1 hr hw1 => ?_
  rw [hr] at hsub
  cases old with
  | none => exact besides_setPID it.id mainPid w1 hw1
  | some old =>
    refine Along.bind_of hp hw1 (aside_syncState hC hw1 fun hb => hsub.departed (hd ?_))
      fun _ w2 _ hw2 => besides_destroy old w2 hw2
    rw [replaced_of_handleSubstitution hr, hb]

theorem besides_handleExecEvent {it : Iter} (hC : it.id = b → C) (mainPid : ProcessID) :
    Besides S C b (handleExecEvent env it mainPid : Step SC Unit) := by
  have hp : Walk (World.Sound : World SC → Prop) _ := Aside.walk S C b
  refine Along.read_bind fun w hw => ?_
  refine Along.bind_of hp hw (Besides.query (besides_mildRequest rfl) w hw)
    fun formerPid w1 hq hw1 => ?_
  obtain ⟨-, -, hw1'⟩ := query_ok hq
  generalize ho : (if formerPid ≠ mainPid then (w.tracees.find? formerPid).join else none) = old
  have hsay : Aside S C b w1 (w1.say (.execed it.id formerPid old)) :=
    Aside.said w1 (fun h => nomatch h) fun h => hC (of_decide_eq_true h)
  refine Along.bind_of hp hw1 hsay fun _ w2 hr2 hw2 => ?_
  have hw2' : w2 = w1.say (.execed it.id formerPid old) := (Prod.mk.inj hr2).2.symm
  refine Along.bind_of hp hw2 ?_ fun _ w3 _ hw3 => ?_
  · unfold Exec.when
    split_ifs with hne
    · refine aside_replaceLeader hC hw2 fun hj => ?_
      rw [hw2']
      refine Departed.of_last _ ?_
      have hold : old = some b := by
        rw [← ho, if_pos hne, ← hj, hw2', hw1']
        rfl
      rw [hold]
      exact decide_eq_true rfl
    · exact hp.refl w2
  · refine Besides.bind (besides_updateExecInfo it.id) (fun _ => ?_) w3 hw3
    refine Besides.bind (besides_dropClosedFDs it.id) fun _ => ?_
    exact besides_notify (fun h => nomatch h) fun h => nomatch h

/-! ## events of one tracee -/

theorem besides_lostToMtExit (id : TraceeId) (status : WaitStatus) :
    Besides S C b (lostToMtExit id status : Step SC Bool) := by
  refine Besides.bind (besides_getTracee id) fun t => ?_
  cases status with
  | exited code =>
    refine Along.ite (fun _ => Besides.pure _) fun _ => ?_
    exact Besides.bind (besides_currentNr id) fun _ => Besides.pure _
  | signaled signal => exact Besides.pure _

theorem besides_handleExitEvent (it : Iter) :
    Besides S C b (handleExitEvent env it : Step SC Unit) := by
  refine Besides.bind (besides_getTracee it.id) fun t => ?_
  refine Besides.bind (Besides.query (besides_mildRequest rfl)) fun status => ?_
  refine Besides.bind (besides_lostToMtExit it.id status) fun lost => ?_
  refine Besides.bind (besides_notify (fun h => nomatch h) fun h => nomatch h) fun _ => ?_
  exact besides_tweak fun _ => rfl

theorem besides_handleNewChildEvent (it : Iter) (event : PtraceEvent) :
    Besides S C b (handleNewChildEvent env it event : Step SC Unit) := by
  have hpid : Besides S C b (getPIDEventMsg env it.id : Step SC ProcessID) :=
    Besides.bind (besides_getTracee it.id) fun t => Besides.query (besides_mildRequest rfl)
  have hcall : Besides S C b (derefCurrent it.id : Step SC (CallObj SC)) :=
    Besides.bind (besides_getTracee it.id) fun t =>
      Besides.bind (besides_derefCall _) fun c => besides_getCall c
  refine Besides.bind ?_ fun r => besides_handleAutoAttach it r.1 event r.2
  unfold calledFrom
  split_ifs
  · exact Besides.bind hcall fun call => Besides.bind hpid fun pid => Besides.pure _
  · exact Besides.bind hpid fun pid => Besides.bind hcall fun call => Besides.pure _

/-! ## stops of another tracee -/

theorem besides_changeState {id : TraceeId} (hS : id = b → S) {s : State}
    (hC : s.isSyscallStop = true → id = b → C) :
    Besides S C b (changeState env id s : Step SC Unit) := by
  have hmod : ∀ f : Tracee → Tracee,
      (∀ t, ((f t).resumption, (f t).syscallDb) = (t.resumption, t.syscallDb)) →
      Besides S C b (modifyTracee id f : Step SC Unit) := fun f hf =>
    besides_modify (fun hb => Or.inl (hS hb)) (fun _ => Or.inr fun t => congrArg Prod.fst (hf t))
      fun t => congrArg Prod.snd (hf t)
  have henter : Besides S C b (enterState env id s : Step SC Unit) := by
    cases s with
    | syscallEnterStop => exact besides_setCall (hC rfl) fun _ => rfl
    | syscallExitStop => exact besides_setCall (hC rfl) fun _ => rfl
    | groupStop =>
      refine hmod _ fun t => ?_
      split_ifs <;> rfl
    | detached => exact hmod _ fun _ => rfl
    | dead =>
      exact Besides.bind (besides_getTracee id) fun t =>
        Along.ite (fun _ => besides_cleanupChild id) fun _ => Besides.pure _
    | _ => exact Besides.pure _
  exact Besides.bind henter fun _ => hmod _ fun _ => rfl

theorem besides_setStops {id : TraceeId} {f : Tracee → Tracee} (hS : id = b → S)
    (h : ∀ t, ((f t).resumption, (f t).syscallDb) = (t.resumption, t.syscallDb)) :
    Besides S C b (modifyTracee id f : Step SC Unit) :=
  besides_modify (fun hb => Or.inl (hS hb)) (fun _ => Or.inr fun t => congrArg Prod.fst (h t))
    fun t => congrArg Prod.snd (h t)

theorem besides_handleAttached {it : Iter} (hS : it.id = b → S) :
    Besides S C b (handleAttached env it : Step SC Unit) := by
  refine Besides.bind (besides_setStops hS fun _ => rfl) fun _ => ?_
  refine Besides.bind (besides_getTracee it.id) fun t => ?_
  refine Besides.bind (Besides.when fun _ => besides_setStops hS fun _ => rfl) fun _ => ?_
  exact besides_finishAttached it

theorem besides_handleStopEvent {it : Iter} (hS : it.id = b → S) (signal : Signal) :
    Besides S C b (handleStopEvent env it signal : Step SC Unit) := by
  refine Besides.bind (besides_getTracee it.id) fun t => Along.ite
    (fun _ => besides_handleAttached hS) fun _ => Along.ite (fun _ => ?_) fun _ => Along.ite
    (fun _ => besides_setStops hS fun _ => rfl) fun _ => Besides.pure _
  refine Besides.bind (besides_changeState hS fun h => nomatch h) fun _ => ?_
  refine Besides.bind (besides_setStops hS fun _ => rfl) fun _ => ?_
  exact besides_notify (fun h => hS (of_decide_eq_true h)) fun h => nomatch h

theorem besides_handleSignal {it : Iter} (hS : it.id = b → S) (signal : Signal) :
    Besides S C b (handleSignal env it signal : Step SC Unit) := by
  refine Besides.bind (besides_getTracee it.id) fun t => Along.ite
    (fun _ => besides_setStops hS fun _ => rfl) fun _ => ?_
  exact besides_notify (fun h => nomatch h) fun h => nomatch h

theorem besides_handleSignalStop {it : Iter} (hS : it.id = b → S) (signal : Signal) :
    Besides S C b (handleSignalStop env it signal : Step SC Unit) := by
  refine Besides.bind (besides_changeState hS fun h => nomatch h) fun _ => ?_
  refine Besides.bind (besides_getTracee it.id) fun t => ?_
  refine Besides.bind (Besides.query (besides_request (fun hb _ => hS hb) fun _ h => nomatch h))
    fun info => ?_
  refine Besides.bind (besides_handleSignal hS info) fun _ => ?_
  exact besides_tweak fun _ => rfl

theorem besides_handlePtraceEvent {it : Iter} (hS : it.id = b → S) (hC : it.id = b → C)
    (pid : ProcessID) (event : PtraceEvent) (signal : Signal) :
    Besides S C b (handlePtraceEvent env it pid event signal : Step SC Unit) := by
  cases event with
  | stop => exact besides_handleStopEvent hS signal
  | exit => exact besides_handleExitEvent it
  | exec => exact besides_handleExecEvent hC pid
  | seccomp => exact Besides.pure _
  | _ => exact besides_handleNewChildEvent it _

theorem besides_handleSystemCall {it : Iter} (hS : it.id = b → S) (hC : it.id = b → C) :
    Besides S C b (handleSystemCall env it : Step SC Unit) :=
  along_handleSystemCall (Aside.walk S C b) (fun h => h) (fun _ _ _ => besides_changeState hS fun _ => hC) hC

theorem besides_handleTrap {it : Iter} (hS : it.id = b → S) (hC : it.id = b → C)
    (pid : ProcessID) (trap : Trap) :
    Besides S C b (handleTrap env it pid trap : Step SC Unit) := by
  cases trap with
  | sysTrap => exact besides_handleSystemCall hS hC
  | event signal event =>
    exact Besides.bind (besides_changeState hS fun h => nomatch h) fun _ =>
      besides_handlePtraceEvent hS hC pid event signal
  | signal signal => exact besides_handleSignalStop hS signal

theorem besides_restartTracee {it : Iter} (hS : it.id = b → S) :
    Besides S C b (restartTracee env it : Step SC Unit) := by
  refine Besides.bind (besides_getTracee it.id) fun t => Along.ite (fun _ => Besides.pure _)
    fun _ => ?_
  refine Besides.bind (besides_request (fun hb _ => hS hb) fun _ h => nomatch h) fun _ =>
    Besides.when fun _ => ?_
  refine Besides.bind (besides_changeState hS fun h => nomatch h) fun _ => Besides.when fun _ => ?_
  exact besides_notify (fun h => hS (of_decide_eq_true h)) fun h => nomatch h

theorem besides_handleEnd {it : Iter} (hS : it.id = b → S) (data : ChildState) :
    Besides S C b (handleEnd env it data : Step SC Unit) := by
  refine Besides.bind (besides_changeState hS fun h => nomatch h) fun _ => ?_
  refine Besides.bind (besides_getTracee it.id) fun t => ?_
  refine Besides.bind (Besides.when fun _ => ?_) fun _ => besides_tweak fun _ => rfl
  exact besides_notify (fun h => nomatch h) fun h => nomatch h

theorem besides_processEvent {it : Iter} (hS : it.id = b → S) (hC : it.id = b → C)
    (data : ChildState) : Besides S C b (processEvent env it data : Step SC Unit) := by
  refine Besides.bind (besides_say (fun h => hS (of_decide_eq_true h)) fun h => nomatch h) fun _ => ?_
  refine Besides.bind (besides_tweak fun _ => rfl) fun _ => Along.ite
    (fun _ => besides_handleEnd hS data) fun _ => ?_
  cases data.event with
  | trapped trap =>
    refine Besides.bind (besides_getTracee it.id) fun t => Along.ite
      (fun _ => besides_doDetach it.id) fun _ => ?_
    exact Besides.bind (besides_handleTrap hS hC data.pid trap) fun _ => besides_restartTracee hS
  | signaled signal =>
    exact Besides.bind (besides_handleSignalStop hS signal) fun _ => besides_restartTracee hS
  | _ => exact besides_restartTracee hS

/-! ## the engine -/

theorem Aside.rekeyed {oldPid newPid : ProcessID} {entry : Option TraceeId}
    (h : w.tracees.find? oldPid = some entry) :
    Aside S C b w { w with tracees := (w.tracees.erase oldPid).insert newPid entry } := by
  refine Aside.inplace ?_ rfl ⟨[], by simp, by simp⟩ (Or.inr (Or.inl rfl))
    (fun _ => Or.inr (Or.inl rfl)) (Or.inr (Or.inl rfl))
    (Shelved.of_same rfl rfl fun i _ _ h => ⟨i, h⟩)
  rintro id ⟨k, hk⟩
  have hk' : ((w.tracees.erase oldPid).insert newPid entry).find? k = some (some id) := hk
  rw [OrdMap.find?_insert] at hk'
  have hold : ∀ q, (w.tracees.erase oldPid).find? q = some (some id) → w.Tracked id := by
    intro q hq
    rw [OrdMap.find?_erase] at hq
    split_ifs at hq
    exact ⟨q, hq⟩
  split_ifs at hk' with hkp
  · cases hf : (w.tracees.erase oldPid).find? newPid with
    | none =>
      rw [hf] at hk'
      exact ⟨oldPid, h.trans hk'⟩
    | some e =>
      rw [hf] at hk'
      exact hold newPid (hf.trans hk')
  · exact hold k hk'

theorem besides_tryUpdateTraceePID (oldPid newPid : ProcessID) :
    Besides S C b (tryUpdateTraceePID oldPid newPid : Step SC Bool) := by
  have hp : Walk (World.Sound : World SC → Prop) _ := Aside.walk S C b
  refine Along.read_bind fun w _ => ?_
  cases hf : w.tracees.find? oldPid with
  | none => exact Aside.refl w
  | some entry =>
    exact hp.trans (Aside.rekeyed hf) (Aside.said _ (fun h => nomatch h) fun h => nomatch h)

theorem besides_inquire {α : Type} (r : Request) (answer : Log → α) :
    Besides S C b (inquire env r answer : Step SC α) := by
  refine Along.read_bind fun w hw => ?_
  refine Besides.bind (besides_say (fun h => nomatch h) fun h => nomatch h) (fun _ => ?_) w hw
  cases env.request w.log r with
  | none => exact Besides.pure _
  | some e => exact Besides.raise _

theorem besides_checkUnknownTraceeEvent (data : ChildState) :
    Besides S C b (checkUnknownTraceeEvent env data : Step SC Decision) := by
  unfold checkUnknownTraceeEvent
  split
  · refine Besides.bind (besides_inquire _ _) fun formerPid => ?_
    exact Besides.bind (besides_tryUpdateTraceePID _ _) fun r =>
      Along.ite (fun _ => Besides.pure _) fun _ => Besides.pure _
  · exact Besides.pure _
  · exact Besides.pure _

/-! ## invariants -/

/-- `I` is preserved by what the engine's loop is made of, and by the handling of events that
meet `D` -/
structure Serves (env : Env) (D : World SC → Iter → ChildState → Prop) (I : World SC → Prop) :
    Prop where
  event : ∀ {w it data}, w.contains it → D w it data → I w → I (processEvent env it data w).2
  contained : ∀ it, Keeps I (checkContained it : Step SC Unit)
  cleanup : ∀ key, Keeps I (checkCleanupTracee env key : Step SC Unit)
  unknown : ∀ data, Keeps I (checkUnknownTraceeEvent env data : Step SC Decision)
  waited : ∀ data, Keeps I (say (.wait data) : Step SC Unit)
  newly : ∀ {w} (pid : ProcessID), I w → I { w with newlyAttachedPid := pid }
  forgotten : ∀ {w} (pid : ProcessID), I w →
    I { w with unknownEvents := w.unknownEvents.erase pid }
  stored : ∀ {w w' data}, checkUnknownTraceeEvent env data w = (.ok .store, w') → I w' →
    I { w' with unknownEvents := w'.unknownEvents.insert data.pid data }
  /-- stored events are handled in any state, and so are those that are tried again -/
  replayed : ∀ {w pid data}, I w → w.unknownEvents.find? pid = some data → ∀ v it, D v it data
  retried : ∀ {w w' : World SC} {data}, checkUnknownTraceeEvent env data w = (.ok .retry, w') →
    ∀ v it, D v it data
  addForeign : ∀ pid followChildren attachThreads sibling hold, Keeps I
    (addForeign env pid followChildren attachThreads sibling hold : Step SC TraceeId)
  addChild : ∀ cmdline followChildren hold, Keeps I
    (addChild env cmdline followChildren hold : Step SC TraceeId)
  call : ∀ c, Keeps I (consumerCall env c : Step SC Unit)
  drop : ∀ key, Keeps I (dropTracee env key : Step SC Unit)

section
variable {D : World SC → Iter → ChildState → Prop} {I : World SC → Prop}

/-- after `processEvent()` the tracee is cleaned up, whether there was an error or not -/
theorem final_handleKnown {it : Iter} {data : ChildState} (h : I (processEvent env it data w).2)
    (hI : ∀ u, I u → I (checkCleanupTracee env it.key u).2) : I (handleKnown env it data w).2 := by
  have hsame : ∀ u : World SC, I u → I (checkContained it u).2 := by
    intro u hu
    rw [checkContained_state]
    exact hu
  refine final_bind ?_ fun _ u _ hu => final_bind (hsame u hu) fun _ u' _ hu' => hI u' hu'
  unfold catchApi Exec.handle
  cases hr : processEvent env it data w with
  | mk r u =>
    rw [hr] at h
    cases r with
    | ok x => exact h
    | error e =>
      cases e with
      | api errno => exact hsame u h
      | _ => exact h

theorem Serves.handleKnown (hI : Serves env D I) {it : Iter} {data : ChildState}
    (hit : w.contains it) (hD : D w it data) (hw : I w) :
    I (Clues.handleKnown env it data w).2 :=
  final_handleKnown (hI.event hit hD hw) (hI.cleanup it.key)

/-- if the tracee of the event is known, the event meets `D` -/
def Meets (D : World SC → Iter → ChildState → Prop) (data : ChildState) (w : World SC) : Prop :=
  ∀ id, w.tracees.find? data.pid = some (some id) → D w ⟨data.pid, id⟩ data

theorem Serves.handleEventWith (hI : Serves env D I) {check : Step SC Unit}
    (hc : Keeps I check) {data : ChildState} (hD : Meets D data w) (hw : I w) :
    I (Clues.handleEventWith env check data w).2 := by
  unfold Clues.handleEventWith
  rw [run_read_bind]
  cases w.tracees.find? data.pid with
  | none => exact hI.unknown data w hw
  | some e =>
    have hentry : I (entryTracee data.pid w).2 := by rwa [entryTracee_state]
    refine final_bind hentry fun id w1 hr hw1 => ?_
    obtain ⟨hk, hw1'⟩ := entryTracee_ok hr
    subst hw1'
    refine final_bind (hI.handleKnown hk (hD id hk) hw1) fun _ w2 _ hw2 => ?_
    exact Keeps.bind hc (fun _ => Keeps.pure _) w2 hw2

/-- only an event of an unknown PID is stored or tried again -/
theorem handleEventWith_ok {check : Step SC Unit} {data : ChildState} {d : Decision}
    (h : Clues.handleEventWith env check data w = (.ok d, w')) :
    d = .done ∨ checkUnknownTraceeEvent env data w = (.ok d, w') := by
  unfold Clues.handleEventWith at h
  rw [run_read_bind] at h
  cases hk : w.tracees.find? data.pid with
  | none =>
    rw [hk] at h
    exact Or.inr h
  | some e =>
    rw [hk] at h
    obtain ⟨id, w1, -, h⟩ := of_bind_ok h
    obtain ⟨_, w2, -, h⟩ := of_bind_ok h
    obtain ⟨_, w3, -, h⟩ := of_bind_ok h
    exact Or.inl (Except.ok.inj (Prod.mk.inj h).1).symm

theorem Serves.checkUnknownEventsWith (hI : Serves env D I)
    {handleEvent : ChildState → Step SC Unit}
    (h : ∀ data, (∀ v it, D v it data) → Keeps I (handleEvent data)) :
    Keeps I (Clues.checkUnknownEventsWith handleEvent) := by
  have hclear : Keeps I (update fun w => { w with newlyAttachedPid := ProcessID.invalid } :
      Step SC Unit) := Keeps.update fun v hv => hI.newly _ hv
  have hforget : ∀ pid, Keeps I (update fun w =>
      { w with unknownEvents := w.unknownEvents.erase pid } : Step SC Unit) := fun pid =>
    Keeps.update fun v hv => hI.forgotten _ hv
  apply Keeps.read_bind
  intro w hw
  by_cases hp : w.newlyAttachedPid = ProcessID.invalid
  · rw [if_pos hp]
    exact hw
  · rw [if_neg hp]
    refine Keeps.bind hclear (fun _ => ?_) w hw
    cases hd : w.unknownEvents.find? w.newlyAttachedPid with
    | none => exact Keeps.pure _
    | some data => exact Keeps.bind (h data (hI.replayed hw hd)) fun _ => hforget _

theorem Serves.checkUnknownEventsN (hI : Serves env D I) (fuel : Nat) :
    Keeps I (Clues.checkUnknownEventsN env fuel : Step SC Unit) := by
  induction fuel with
  | zero => exact hI.checkUnknownEventsWith fun _ _ => Keeps.raise _
  | succ fuel ih =>
    apply hI.checkUnknownEventsWith
    intro data hD
    have hev : Keeps I (Clues.handleEventWith env (Clues.checkUnknownEventsN env fuel) data :
        Step SC Decision) :=
      fun w hw => hI.handleEventWith ih (fun id _ => hD w ⟨data.pid, id⟩) hw
    exact Keeps.bind hev fun _ => Keeps.pure _

theorem Serves.traceEventN (hI : Serves env D I) (fuel : Nat) {data : ChildState}
    (hD : Meets D data w) (hw : I w) : I (Clues.traceEventN env fuel data w).2 := by
  have hev : ∀ {v : World SC}, Meets D data v → I v → I (Clues.handleEvent env data v).2 :=
    fun hD hv => hI.handleEventWith (hI.checkUnknownEventsN 1) hD hv
  have hstore : ∀ {v v' : World SC}, Clues.handleEvent env data v = (.ok .store, v') → I v' →
      I { v' with unknownEvents := v'.unknownEvents.insert data.pid data } := by
    intro v v' h hv
    obtain hd | hu := handleEventWith_ok h
    · cases hd
    · exact hI.stored hu hv
  induction fuel generalizing w with
  | zero =>
    unfold Clues.traceEventN
    refine final_bind (hev hD hw) fun d w1 hr hw1 => ?_
    cases d with
    | retry => exact hw1
    | store => exact hstore hr hw1
    | drop => exact hw1
    | done => exact hw1
  | succ fuel ih =>
    unfold Clues.traceEventN
    refine final_bind (hev hD hw) fun d w1 hr hw1 => ?_
    cases d with
    | retry =>
      obtain hd | hu := handleEventWith_ok hr
      · cases hd
      · exact ih (fun id _ => hI.retried hu w1 ⟨data.pid, id⟩) hw1
    | store => exact hstore hr hw1
    | drop => exact hw1
    | done => exact hw1

/-- the step meets `D` -/
def Op.Meets (D : World SC → Iter → ChildState → Prop) : Op → World SC → Prop
  | .event data, w => Clues.Meets D data (w.say (.wait data))
  | _, _ => True

theorem Serves.exec (hI : Serves env D I) {op : Op} (hD : op.Meets D w) (hw : I w) :
    I (op.exec env w).2 := by
  cases op with
  | addForeign pid followChildren attachThreads sibling hold =>
    exact Keeps.bind (hI.addForeign _ _ _ _ _) (fun _ => Keeps.pure _) w hw
  | addChild cmdline followChildren hold =>
    exact Keeps.bind (hI.addChild _ _ _) (fun _ => Keeps.pure _) w hw
  | call c => exact hI.call c w hw
  | event data => exact hI.traceEventN 1 hD (hI.waited data w hw)
  | noChildren =>
    show I (Clues.handleNoChildren env w).2
    unfold Clues.handleNoChildren
    rw [run_read_bind]
    exact Keeps.each (fun key _ => hI.drop key) w hw

/-- the run rule for invariants that the handling of each event keeps, given that the events
meet `D` -/
theorem Serves.reaches (hI : Serves env D I) (h0 : ∀ f, I ({ formatFdInfo := f } : World SC))
    (hw : Reaches env (fun w op => op.Meets D w) w) : I w :=
  Reaches.invariant h0 (fun _ _ _ hw hD _ => hI.exec hD hw) hw

/-- the run rule for those that the handling of any event keeps -/
theorem Serves.reachable (hI : Serves env (fun _ _ _ => True) I)
    (h0 : ∀ f, I ({ formatFdInfo := f } : World SC)) (hw : Reachable env w) : I w := by
  apply hI.reaches h0
  apply Reaches.mono _ hw
  intro w op _
  cases op with
  | event data => exact fun _ _ => trivial
  | _ => trivial

/-- the invariant, of a state with a sound map -/
def Soundly (I : World SC → Prop) (w : World SC) : Prop := w.Sound ∧ I w

theorem sound_start (f : Bool) : ({ formatFdInfo := f } : World SC).Sound := by
  rintro id ⟨k, hk⟩
  cases hk

theorem besides_dropTracee (key : ProcessID) :
    Besides S C b (dropTracee env key : Step SC Unit) :=
  Besides.bind (besides_entryTracee key) fun id => Besides.bind (besides_detach id) fun _ =>
    Besides.bind (besides_checkCleanupTracee key) fun _ =>
      Besides.bind (besides_entryTracee key) fun _ => Besides.pure _

/-- `I` is preserved by all that goes on around every tracee, and by the handling of its events -/
structure Throughout (env : Env) (I : World SC → Prop) : Prop where
  aside : ∀ {w w'}, w.Sound → I w → (∀ b, Aside False False b w w') → I w'
  event : ∀ {w it data}, w.contains it → w.Sound → I w → I (processEvent env it data w).2

theorem Throughout.besides (hI : Throughout env I) {α : Type} {x : Step SC α}
    (hx : ∀ b, Besides False False b x) : Keeps (Soundly I) x := fun w hw =>
  ⟨(hx 0 w hw.1).sound hw.1, hI.aside hw.1 hw.2 fun b => hx b w hw.1⟩

theorem Throughout.serves (hI : Throughout env I) :
    Serves env (fun _ _ _ => True) (Soundly I) where
  event := by
    intro w it data hit _ hw
    have hside : Besides True True it.id (Clues.processEvent env it data : Step SC Unit) :=
      besides_processEvent (fun _ => trivial) (fun _ => trivial) data
    exact ⟨(hside w hw.1).sound hw.1, hI.event hit hw.1 hw.2⟩
  contained it := hI.besides fun _ => besides_checkContained it
  cleanup key := hI.besides fun _ => besides_checkCleanupTracee key
  unknown data := hI.besides fun _ => besides_checkUnknownTraceeEvent data
  waited data := hI.besides fun _ => besides_say (fun h => nomatch h) fun h => nomatch h
  newly {w} pid hw := by
    have hx : ∀ b, Besides False False b (update fun v => { v with newlyAttachedPid := pid } :
        Step SC Unit) := fun _ => besides_update fun _ => rfl
    exact hI.besides hx w hw
  forgotten {w} pid hw := by
    have hx : ∀ b, Besides False False b (update fun v =>
        { v with unknownEvents := v.unknownEvents.erase pid } : Step SC Unit) := fun _ =>
      besides_update fun _ => rfl
    exact hI.besides hx w hw
  stored {w w' data} _ hw := by
    have hx : ∀ b, Besides False False b (update fun v =>
        { v with unknownEvents := v.unknownEvents.insert data.pid data } : Step SC Unit) :=
      fun _ => besides_update fun _ => rfl
    exact hI.besides hx w' hw
  replayed _ _ _ _ := trivial
  retried _ _ _ := trivial
  addForeign _ _ _ _ _ := hI.besides fun _ => besides_addForeign _ _ _ _ _
  addChild _ _ _ := hI.besides fun _ => besides_addChild _ _ _
  call c := hI.besides fun _ => besides_consumerCall c
  drop key := hI.besides fun _ => besides_dropTracee key

/-- the run rule for them -/
theorem Throughout.reachable (hI : Throughout env I) (h0 : ∀ f, I ({ formatFdInfo := f } : World SC))
    (hw : Reachable env w) : Soundly I w :=
  hI.serves.reachable (fun f => ⟨sound_start f, h0 f⟩) hw

/-! ### invariants about one tracee -/

/-- `I` is preserved by all that goes on around `b`, and by the handling of its events -/
structure About (env : Env) (b : TraceeId) (I : World SC → Prop) : Prop where
  aside : ∀ {w w'}, w.Sound → I w → Aside False False b w w' → I w'
  event : ∀ {w it data}, it.id = b → w.contains it → w.Sound → I w →
    I (processEvent env it data w).2

/-- events of other tracees are handled around `b` -/
theorem About.throughout (hI : About env b I) : Throughout env I where
  aside hw h ha := hI.aside hw h (ha b)
  event := by
    intro w it data hit hw h
    by_cases hb : it.id = b
    · exact hI.event hb hit hw h
    · have hx : Besides False False b (Clues.processEvent env it data : Step SC Unit) :=
        besides_processEvent (fun h => absurd h hb) (fun h => absurd h hb) data
      exact hI.aside hw h (hx w hw)

/-- the run rule for invariants about one tracee -/
theorem About.reachable (hI : About env b I) (h0 : ∀ f, I ({ formatFdInfo := f } : World SC))
    (hw : Reachable env w) : Soundly I w := hI.throughout.reachable h0 hw

end

end Clues
