import Clues.Engine.Ledger

/-!
# System call stops in a ledger

One lemma for each function that handles a system call stop or `execve()`: what is remembered of
the tracee before and after it.

* `Mute`     steps that tell nothing about any tracee;
* `Faces`    what is remembered while the tracee is surely there, before it is reported;
* `Keeping`  the same while the consumer may have let it go.
-/

set_option linter.unusedSectionVars false

namespace Clues

open Lib Lib.Exec Lib.History Step

variable {SC : Type} [SyscallOps SC] {env : Env} {life : Life} {L : Ledger env life}
  {b : TraceeId} {w w' v v' : World SC}

namespace Ledger

/-! ## steps that tell nothing -/

/-- a step that neither is about system call stops, nor lets a tracee go -/
structure Mute (v v' : World SC) : Prop where
  quiet : ∀ b, Aside False False b v v'
  present : ∀ b, Departed v'.log b → Departed v.log b

theorem Mute.walk : Walk (World.Sound : World SC → Prop) Mute where
  refl v := ⟨fun _ => Aside.refl v, fun _ h => h⟩
  trans h h' := ⟨fun b => (h.quiet b).trans (h'.quiet b), fun b hd => h.present b (h'.present b hd)⟩
  keeps hv h := (h.quiet 0).sound hv

abbrev Mutes {α : Type} (x : Step SC α) : Prop := Along (World.Sound : World SC → Prop) Mute x

/-- a step that adds nothing to the log -/
theorem Mute.of_silent (h : ∀ b, Aside False False b v v') (hl : v'.log = v.log) : Mute v v' :=
  ⟨h, fun _ hd => hl ▸ hd⟩

theorem mutes_tweak {id : TraceeId} {f : Tracee → Tracee}
    (h : ∀ t, ((f t).stops, (f t).marks, (f t).resumption, (f t).syscallDb)
      = (t.stops, t.marks, t.resumption, t.syscallDb)) :
    Mutes (modifyTracee id f : Step SC Unit) := fun v hv =>
  Mute.of_silent (fun _ => besides_tweak h v hv) rfl

theorem mutes_modifyProc (id : TraceeId) (f : ProcessData → ProcessData) :
    Mutes (modifyProc id f : Step SC Unit) := fun v hv =>
  Mute.of_silent (fun _ => besides_modifyProc id f v hv) rfl

theorem mutes_startDecode (id : TraceeId) : Mutes (startDecode env id : Step SC DecodeEnv) := by
  intro v hv
  refine ⟨fun _ => besides_startDecode id v hv, fun _ hd => ?_⟩
  have hlog : (startDecode env id v).2.log
      = v.log ++ [.request id (.peekData (v.objs id).ptrace) none] := rfl
  rw [hlog] at hd
  obtain ⟨e, he, hdep⟩ := hd
  rcases List.mem_append.mp he with he | he
  · exact ⟨e, he, hdep⟩
  · rw [List.mem_singleton.mp he] at hdep
    cases hdep

theorem getCall_state (c : CallId) (v : World SC) : (getCall c v).2 = v := by
  unfold getCall
  rw [run_read_bind]
  cases v.calls c <;> rfl

theorem mutes_getCall (c : CallId) : Mutes (getCall c : Step SC (CallObj SC)) := by
  intro v _
  rw [getCall_state]
  exact Mute.walk.refl v

theorem mutes_derefCall (c : Option CallId) : Mutes (derefCall c : Step SC CallId) := by
  cases c with
  | some c => exact Along.pure Mute.walk _
  | none => exact Along.raise Mute.walk _

theorem mutes_dbGet (id : TraceeId) (info : SystemCallInfo) :
    Mutes (dbGet env id info : Step SC CallId) := by
  have hp : Walk (World.Sound : World SC → Prop) Mute := Mute.walk
  intro v hv
  unfold dbGet
  rw [run_bind_ok (run_getTracee id v)]
  cases (v.objs id).syscallDb info.sysNr with
  | some c => exact hp.refl v
  | none =>
    refine Along.bind_of hp hv (mutes_startDecode id v hv) fun de v1 _ hv1 => ?_
    refine Along.bind_of hp hv1 (hp.refl v1) fun r v2 hr hv2 => ?_
    apply Mute.of_silent (fun b => aside_cacheCall id hv2 fun hl => hl.created (Prod.mk.inj hr).1)
    unfold Exec.when
    split_ifs <;> rfl

theorem mutes_setEntryInfo (id : TraceeId) (c : CallId) (info : SystemCallInfo) :
    Mutes (setEntryInfo env id c info : Step SC Unit) := by
  have hp : Walk (World.Sound : World SC → Prop) Mute := Mute.walk
  intro v hv
  refine Along.bind_of hp hv (mutes_startDecode id v hv) fun de v1 _ hv1 => ?_
  refine Along.bind_of hp hv1 (mutes_getCall c v1 hv1) fun call v2 hr hv2 => ?_
  obtain ⟨hc, hv2'⟩ := getCall_ok hr
  have hput : Mute v2 (putCall c (SyscallOps.setEntryInfo de info call.obj).2 v2).2 :=
    Mute.of_silent (fun b => besides_replaceCall (hv2' ▸ hc) fun hl => hl.entry _ _ _) rfl
  exact Along.bind_of hp hv2 hput fun _ v3 _ _ => hp.refl v3

theorem mutes_setExitInfo (id : TraceeId) (c : CallId) (info : SystemCallInfo) :
    Mutes (setExitInfo env id c info : Step SC Unit) := by
  have hp : Walk (World.Sound : World SC → Prop) Mute := Mute.walk
  intro v hv
  refine Along.bind_of hp hv (mutes_startDecode id v hv) fun de v1 _ hv1 => ?_
  refine Along.bind_of hp hv1 (mutes_getCall c v1 hv1) fun call v2 hr hv2 => ?_
  obtain ⟨hc, hv2'⟩ := getCall_ok hr
  rw [run_read_bind]
  refine Along.bind_of hp hv2 ?_ fun _ v3 _ hv3 => ?_
  · exact Mute.of_silent (fun b => besides_replaceCall (hv2' ▸ hc) fun hl => hl.exit _ _ _ _) rfl
  · refine Along.bind_of hp hv3 (mutes_modifyProc id _ v3 hv3) fun _ v4 _ hv4 => ?_
    refine Along.bind_of hp hv4 (mutes_tweak ?_ v4 hv4) fun _ v5 _ _ => hp.refl v5
    exact fun _ => rfl

/-! ### what they find -/

theorem dbGet_ok {id : TraceeId} {info : SystemCallInfo} {c : CallId} (hf : w.Filed)
    (h : dbGet env id info w = (.ok c, w')) : w'.requested c = some info.sysNr := by
  unfold dbGet at h
  rw [run_bind_ok (run_getTracee id w)] at h
  cases hc : (w.objs id).syscallDb info.sysNr with
  | some c' =>
    rw [hc] at h
    obtain ⟨h1, h2⟩ := Prod.mk.inj h
    rw [← h2, ← Except.ok.inj h1]
    exact hf.db id info.sysNr c' hc
  | none =>
    rw [hc] at h
    obtain ⟨de, w1, -, h⟩ := of_bind_ok h
    obtain ⟨r, w2, -, h⟩ := of_bind_ok h
    obtain ⟨c', w3, h3, h⟩ := of_bind_ok h
    obtain ⟨_, w4, h4, h⟩ := of_bind_ok h
    have hreq : w3.requested c' = some info.sysNr := by
      rw [← (Prod.mk.inj h3).2, ← Except.ok.inj (Prod.mk.inj h3).1]
      exact requested_newCall _ w2
    have hcalls : w4.calls = w3.calls := by
      unfold Exec.when at h4
      split_ifs at h4
      · rw [← (Prod.mk.inj h4).2]
        rfl
      · rw [← (Prod.mk.inj h4).2]
    obtain ⟨h1, h2⟩ := Prod.mk.inj h
    rw [← h2, ← Except.ok.inj h1, ← hreq]
    unfold World.requested
    rw [hcalls]

theorem getCall_number (hl : Lawful SC) {c : CallId} {call : CallObj SC} (hf : w.Filed)
    (h : getCall c w = (.ok call, w')) :
    ∃ n, w'.requested c = some n ∧ SyscallOps.callNr call.obj = createdNr n := by
  obtain ⟨hc, hw⟩ := getCall_ok h
  refine ⟨call.requested, ?_, hf.numbered hl hc⟩
  unfold World.requested
  rw [hw, hc]
  rfl

/-- after the exit, the object reports the error of the system call -/
theorem setExitInfo_error (hl : Lawful SC) {id : TraceeId} {c : CallId} {info : SystemCallInfo}
    {x : ExitInfo} (hx : info.stop = .exit x) (h : setExitInfo env id c info w = (.ok (), w')) :
    ∀ call, w'.calls c = some call → SyscallOps.error call.obj = x.error := by
  unfold setExitInfo at h
  obtain ⟨de, w1, -, h⟩ := of_bind_ok h
  obtain ⟨call, w2, hg, h⟩ := of_bind_ok h
  have hw2 : w2.calls c = some call := by
    obtain ⟨hc, hw⟩ := getCall_ok hg
    exact hw ▸ hc
  rw [run_read_bind] at h
  obtain ⟨_, w3, h3, h⟩ := of_bind_ok h
  obtain ⟨_, w4, h4, h⟩ := of_bind_ok h
  obtain ⟨_, w5, h5, h⟩ := of_bind_ok h
  have hcalls : w'.calls = w3.calls := by
    have e6 : w5 = w' := congrArg Prod.snd h
    rw [← e6, ← (Prod.mk.inj h5).2, ← (Prod.mk.inj h4).2]
    rfl
  intro call' hc'
  rw [hcalls, ← (Prod.mk.inj h3).2] at hc'
  have hupd : (putCall c (SyscallOps.setExitInfo de info call.obj
      { fdInfoMap := (w2.procs (w2.objs id).processData).fdInfoMap
        pidfd := (w2.objs id).pidfd }).2.1 w2).2.calls c
      = some { call with obj := (SyscallOps.setExitInfo de info call.obj
          { fdInfoMap := (w2.procs (w2.objs id).processData).fdInfoMap
            pidfd := (w2.objs id).pidfd }).2.1 } := by
    show Function.update w2.calls c _ c = _
    rw [Function.update_self, hw2]
    rfl
  rw [← Option.some.inj (hupd.symm.trans hc')]
  exact hl.error _ _ _ hx

/-! ## rules -/

/-- a stop is handled, and the tracee is there -/
structure Facing (L : Ledger env life) (o : Numbering × Log) (b : TraceeId) (t : Thread) (s : Stage)
    (R : Numbering → Log → Memo → Prop) (v : World SC) : Prop extends During L o b t s R v where
  present : Always L.Cond v.log → ¬ Departed v.log b

abbrev Faces (L : Ledger env life) (o : Numbering × Log) (b : TraceeId) (t : Thread) (s : Stage) {α : Type}
    (R : Numbering → Log → Memo → Prop) (x : Step SC α)
    (Q : α → Numbering → Log → Memo → Prop) : Prop :=
  Triple (Facing L o b t s R) x (fun a => Facing L o b t s (Q a)) fun _ v => L.Holds v

abbrev Keeping (L : Ledger env life) (o : Numbering × Log) (b : TraceeId) (t : Thread) (s : Stage) {α : Type}
    (R : Numbering → Log → Memo → Prop) (x : Step SC α)
    (Q : α → Numbering → Log → Memo → Prop) : Prop :=
  Triple (During L o b t s R) x (fun a => During L o b t s (Q a)) fun _ v => L.Holds v

section
variable {o : Numbering × Log} {t : Thread} {s : Stage} {R R' : Numbering → Log → Memo → Prop} {α : Type}
  {Q : α → Numbering → Log → Memo → Prop}

/-- steps that tell nothing, with what is known of their result -/
theorem Faces.result (hs : s ≠ .idle) (hR : Stable R) {x : Step SC α} (hx : Mutes x)
    {φ : α → Numbering → Prop}
    (hφ : ∀ {v a v'}, v.Filed → x v = (.ok a, v') → φ a v'.requested) :
    Faces L o b t s R x fun a num log μ => R num log μ ∧ φ a num := by
  intro v hv
  have hm := hx v hv.sound
  cases hr : x v with
  | mk r v' =>
    rw [hr] at hm
    have hd : During L o b t s R v' := hv.toDuring.quiet hR hm.quiet
    cases r with
    | ok a =>
      refine ⟨hd.weaken fun h => ⟨h, hφ hv.filed hr⟩, fun hc hdep => ?_⟩
      exact hv.present (hc.mono (hm.quiet b).log_grows) (hm.present b hdep)
    | error e => exact hd.holds hs

theorem Faces.mute (hs : s ≠ .idle) (hR : Stable R) {x : Step SC α} (hx : Mutes x) :
    Faces L o b t s R x fun _ => R := by
  have h : Faces L o b t s R x fun _ num log μ => R num log μ ∧ True :=
    Faces.result hs hR hx fun _ _ => trivial
  refine h.weaken (fun v hv => hv) (fun a v hv => ?_) fun e v hv => hv
  exact ⟨hv.toDuring.weaken And.left, hv.present⟩

theorem Faces.pure {a : α} (h : ∀ {num log μ}, R num log μ → Q a num log μ) :
    Faces L o b t s R (Pure.pure a : Step SC α) Q :=
  Triple.pure fun _ hv => ⟨hv.toDuring.weaken h, hv.present⟩

theorem facing_before {x : Step SC α} {P : α → World SC → Prop}
    (h : Triple (Facing L o b t s R) x P fun _ v => L.Holds v)
    (hR : ∀ {num log μ}, R' num log μ → R num log μ) :
    Triple (Facing L o b t s R') x P fun _ v => L.Holds v :=
  h.weaken (fun _ hv => ⟨hv.toDuring.weaken hR, hv.present⟩) (fun _ _ hv => hv) fun _ _ hv => hv

theorem Faces.after {x : Step SC α} {Q' : α → Numbering → Log → Memo → Prop}
    (h : Faces L o b t s R x Q) (hQ : ∀ {a num log μ}, Q a num log μ → Q' a num log μ) :
    Faces L o b t s R x Q' :=
  h.weaken (fun _ hv => hv) (fun _ _ hv => ⟨hv.toDuring.weaken hQ, hv.present⟩) fun _ _ hv => hv

theorem Faces.lift (hs : s ≠ .idle) (hR : Stable R) (r : Except Exc α) :
    Faces L o b t s R (Exec.lift r : Step SC α) fun _ => R :=
  Faces.mute hs hR (Along.lift Mute.walk r)

theorem faces_getTracee :
    Faces L o b t s R (getTracee b : Step SC Tracee) fun tr num log μ =>
      R num log μ ∧ tr.memo = μ :=
  fun _ hv => ⟨hv.toDuring.weaken fun h => ⟨h, rfl⟩, hv.present⟩

/-- the object itself is changed -/
theorem faces_modify {f : Tracee → Tracee} (hdb : ∀ tr, (f tr).syscallDb = tr.syscallDb)
    (hR : ∀ {num log} (tr : Tracee), R num log tr.memo → R' num log (f tr).memo) :
    Faces L o b t s R (modifyTracee b f : Step SC Unit) fun _ => R' :=
  fun _ hv => ⟨hv.toDuring.modify (Shelved.setObj _ (hdb _)) (hR _), hv.present⟩

theorem keeping_getTracee :
    Keeping L o b t s R (getTracee b : Step SC Tracee) fun tr num log μ =>
      R num log μ ∧ tr.memo = μ :=
  fun _ hv => hv.weaken fun h => ⟨h, rfl⟩

theorem keeping_modify {f : Tracee → Tracee} (hdb : ∀ tr, (f tr).syscallDb = tr.syscallDb)
    (hR : ∀ {num log} (tr : Tracee), R num log tr.memo → R' num log (f tr).memo) :
    Keeping L o b t s R (modifyTracee b f : Step SC Unit) fun _ => R' :=
  fun _ hv => hv.modify (Shelved.setObj _ (hdb _)) (hR _)

theorem Keeping.pure {a : α} (h : ∀ {num log μ}, R num log μ → Q a num log μ) :
    Keeping L o b t s R (Pure.pure a : Step SC α) Q := Triple.pure fun _ hv => hv.weaken h

theorem Keeping.quiet (hs : s ≠ .idle) (hR : Stable R) {x : Step SC α}
    (hx : ∀ b', Besides False False b' x) : Keeping L o b t s R x fun _ => R := by
  intro v hv
  have hq : ∀ b', Aside False False b' v (x v).2 := fun b' => hx b' v hv.sound
  cases hr : x v with
  | mk r v' =>
    rw [hr] at hq
    have hd : During L o b t s R v' := hv.quiet hR hq
    cases r with
    | ok a => exact hd
    | error e => exact hd.holds hs

/-- a callback about the tracee: what is said, and then what the consumer does -/
theorem keeping_notify {it : Iter} {c : Callback} (hs : s ≠ .idle) (hR : Stable R')
    (hsay : ∀ {v : World SC}, Facing L o b t s R v → During L o b t s R' (v.say (.callback c))) :
    Triple (Facing L o b t s R) (notify env it c : Step SC Unit)
      (fun _ => During L o b t s R') fun _ v => L.Holds v := by
  have hsaid : Triple (Facing L o b t s R) (Step.say (.callback c) : Step SC Unit)
      (fun _ => During L o b t s R') fun _ v => L.Holds v := fun _ hv => hsay hv
  have hcall : Triple (Facing L o b t s R) (callback env c : Step SC Unit)
      (fun _ => During L o b t s R') fun _ v => L.Holds v :=
    Triple.bind hsaid fun _ => Keeping.quiet hs hR fun b' => besides_reaction
  exact Triple.bind hcall fun _ => Keeping.quiet hs hR fun b' => besides_checkContained it

/-! ## entry -/

/-- the object of the entered call was found, about which `K` is known -/
def Found (μ : Memo) (nr : SystemCallNr) (c : CallId) (K : Prop) (num : Numbering) (_ : Log)
    (μ' : Memo) : Prop :=
  K ∧ num c = some nr ∧ μ' = { μ with current := some c, syscallEntered := true }

theorem stable_found (μ : Memo) (nr : SystemCallNr) (c : CallId) (K : Prop) :
    Stable (Found μ nr c K) := ⟨fun hn _ h => ⟨h.1, hn _ _ h.2.1, h.2.2⟩⟩

/-- what is reported is settled, but the call is not counted yet -/
def Settled (μ : Memo) (nr : SystemCallNr) (resumed : Bool) (num : Numbering) (_ : Log)
    (μ' : Memo) : Prop :=
  ∃ c, μ'.current = some c ∧ Enters num nr μ c resumed { μ' with ctr := μ'.ctr + 1 }

variable {μ : Memo}

/-- the object of some call, about which `K` is known -/
def Recovering (μ : Memo) (K : Prop) (_ : Numbering) (_ : Log) (μ' : Memo) : Prop :=
  K ∧ ∃ c, μ' = { μ with current := some c, syscallEntered := true }

theorem faces_tryRecover (hs : s ≠ .idle) (K : Prop) (info : SystemCallInfo) :
    Faces L o b t s (Recovering μ K) (tryRecoverRestartedSystemCall env b info : Step SC Bool)
      fun _ => Recovering μ K := by
  refine Triple.bind faces_getTracee fun tr => facing_before ?_ And.left
  cases tr.getInitialSyscallInfo env info.abi with
  | none => exact Faces.pure fun h => h
  | some orig =>
    refine Triple.ite (fun _ => Faces.pure fun h => h) fun _ => ?_
    refine Triple.bind (Faces.mute hs ⟨fun _ _ h => h⟩ (mutes_dbGet b orig)) fun c => ?_
    refine Triple.bind (faces_modify (fun _ => rfl) ?_) fun _ => Faces.pure fun h => h
    rintro num log tr ⟨hK, c', hc'⟩
    refine ⟨hK, c, ?_⟩
    show { tr.memo with current := some c } = _
    rw [hc']

/-- the object of the entered call was found, and the tracee object read -/
def Read (μ : Memo) (nr : SystemCallNr) (c : CallId) (K : Prop) (tr : Tracee) (num : Numbering)
    (log : Log) (μ' : Memo) : Prop := Found μ nr c K num log μ' ∧ tr.memo = μ'

theorem stable_read (μ : Memo) (nr : SystemCallNr) (c : CallId) (K : Prop) (tr : Tracee) :
    Stable (Read μ nr c K tr) := ⟨fun hn hl h => ⟨(stable_found μ nr c K).keeps hn hl h.1, h.2⟩⟩

section
variable {nr : SystemCallNr} {c i : CallId} {K : Prop} {tr : Tracee} {num : Numbering} {log : Log}
  {μ' : Memo} {info : SystemCallInfo}

theorem Read.remembered (h : Read μ nr c K tr num log μ') :
    μ.interrupted = tr.interruptedSyscall ∧ μ.ctr = tr.syscallCtr ∧
      μ.seenSigreturn = tr.flags.seenSigreturn := by
  have htr : tr.memo = { μ with current := some c, syscallEntered := true } := h.2.trans h.1.2.2
  exact ⟨(congrArg Memo.interrupted htr).symm, (congrArg Memo.ctr htr).symm,
    (congrArg Memo.seenSigreturn htr).symm⟩

/-- the call is a new one -/
theorem Read.plain (h : Read μ nr c K tr num log μ') (hr : nr ≠ .restartSyscall)
    (hi : μ.interrupted = none ∨ μ.seenSigreturn = false) : Settled μ nr false num log μ' := by
  rw [h.1.2.2]
  exact ⟨c, rfl, .plain hr hi h.1.2.1⟩

/-- `restart_syscall()` without an interrupted call -/
theorem faces_restartUnknown (hs : s ≠ .idle) (hr : info.sysNr = .restartSyscall)
    (hi : tr.interruptedSyscall = none) :
    Faces L o b t s (Read μ info.sysNr c K tr)
      (if tr.syscallCtr ≠ 0 then Pure.pure false
        else tryRecoverRestartedSystemCall env b info : Step SC Bool)
      fun resumed => Settled μ info.sysNr resumed := by
  refine Triple.ite (fun _ => Faces.pure fun h => ?_) fun hctr => ?_
  · have hn : μ.interrupted = none := h.remembered.1.trans hi
    rw [h.1.2.2]
    exact ⟨c, rfl, .unknown hr hn fun _ => rfl⟩
  · have hrec : Faces L o b t s (Recovering μ (μ.interrupted = none ∧ μ.ctr = 0))
        (tryRecoverRestartedSystemCall env b info : Step SC Bool)
        fun _ => Recovering μ (μ.interrupted = none ∧ μ.ctr = 0) := faces_tryRecover hs _ info
    refine Faces.after (facing_before hrec fun h => ?_) ?_
    · obtain ⟨hn, hc, -⟩ := h.remembered
      exact ⟨⟨hn.trans hi, hc.trans (not_not.mp hctr)⟩, c, h.1.2.2⟩
    · rintro resumed num log μ' ⟨⟨hn, hc⟩, c', hc'⟩
      rw [hc']
      exact ⟨c', rfl, .unknown hr hn fun h => absurd hc h⟩

/-- what is known when the first system call after a handler is compared -/
def Compared (μ : Memo) (nr : SystemCallNr) (c i : CallId) (call interrupted : CallObj SC)
    (num : Numbering) : Prop :=
  SyscallOps.callNr call.obj = createdNr nr ∧ num c = some nr ∧ μ.interrupted = some i ∧
    μ.seenSigreturn = true ∧
    ∃ n, num i = some n ∧ SyscallOps.callNr interrupted.obj = createdNr n

theorem faces_checkReturned (hl : Lawful SC) (hs : s ≠ .idle) {call : CallObj SC}
    (hr : info.sysNr ≠ .restartSyscall) (hi : tr.interruptedSyscall = some i)
    (hseen : tr.flags.seenSigreturn = true) :
    Faces L o b t s
      (Read μ info.sysNr c (SyscallOps.callNr call.obj = createdNr info.sysNr) tr)
      (do
        let interrupted ← getCall i
        setFlags b fun f => { f with seenSigreturn := false }
        modifyTracee b fun t => { t with interruptedSyscall := none }
        Pure.pure (SyscallOps.callNr interrupted.obj = SyscallOps.callNr call.obj) : Step SC Bool)
      fun resumed => Settled μ info.sysNr resumed := by
  have hget : Faces L o b t s
      (Read μ info.sysNr c (SyscallOps.callNr call.obj = createdNr info.sysNr) tr)
      (getCall i : Step SC (CallObj SC)) fun interrupted num log μ' =>
        Read μ info.sysNr c (SyscallOps.callNr call.obj = createdNr info.sysNr) tr num log μ' ∧
          ∃ n, num i = some n ∧ SyscallOps.callNr interrupted.obj = createdNr n :=
    Faces.result hs (stable_read _ _ _ _ _) (mutes_getCall i) fun hf h => getCall_number hl hf h
  refine Triple.bind hget fun interrupted => ?_
  refine Triple.bind (Q := fun _ => Facing L o b t s fun num _ μ' =>
    Compared μ info.sysNr c i call interrupted num ∧
      μ' = { μ with current := some c, seenSigreturn := false, syscallEntered := true })
    (faces_modify (fun _ => rfl) ?_) fun _ => ?_
  · rintro num log tr' ⟨h, hn⟩
    obtain ⟨h1, -, h2⟩ := h.remembered
    refine ⟨⟨h.1.1, h.1.2.1, h1.trans hi, h2.trans hseen, hn⟩, ?_⟩
    show { tr'.memo with seenSigreturn := false } = _
    rw [h.1.2.2]
  · refine Triple.bind (Q := fun _ => Facing L o b t s (Settled μ info.sysNr
      (SyscallOps.callNr interrupted.obj = SyscallOps.callNr call.obj)))
      (faces_modify (fun _ => rfl) ?_) fun _ => Faces.pure fun h => h
    rintro num log tr' ⟨⟨hcall, hc, hint, hs', n, hn, hnr⟩, hμ'⟩
    refine ⟨c, congrArg Memo.current hμ', ?_⟩
    show Enters num info.sysNr μ c _
      { tr'.memo with interrupted := none, ctr := tr'.memo.ctr + 1 }
    rw [hμ', hnr, hcall]
    exact .returned hr hint hs' hc hn

theorem faces_checkResumed (hl : Lawful SC) (hs : s ≠ .idle) (call : CallObj SC) :
    Faces L o b t s (Found μ info.sysNr c (SyscallOps.callNr call.obj = createdNr info.sysNr))
      (checkResumed env b info call : Step SC Bool)
      fun resumed => Settled μ info.sysNr resumed := by
  refine Triple.bind (Q := fun tr => Facing L o b t s
    (Read μ info.sysNr c (SyscallOps.callNr call.obj = createdNr info.sysNr) tr))
    faces_getTracee fun tr => Triple.ite (fun hr => ?_) fun hr => ?_
  · cases hi : tr.interruptedSyscall with
    | some i =>
      refine Triple.bind (Q := fun _ => Facing L o b t s (Settled μ info.sysNr true))
        (faces_modify (fun _ => rfl) fun tr' h => ⟨i, rfl, ?_⟩) fun _ => Faces.pure fun h => h
      show Enters _ info.sysNr μ i true
        { tr'.memo with current := some i, interrupted := none, ctr := tr'.memo.ctr + 1 }
      rw [h.1.2.2]
      exact .restarted hr (h.remembered.1.trans hi)
    | none => exact faces_restartUnknown hs hr hi
  · cases hi : tr.interruptedSyscall with
    | none => exact Faces.pure fun h => h.plain hr (Or.inl (h.remembered.1.trans hi))
    | some i =>
      refine Triple.ite (fun hseen => faces_checkReturned hl hs hr hi hseen) fun hseen => ?_
      refine Faces.pure fun h => h.plain hr (Or.inr ?_)
      rw [h.remembered.2.2]
      simpa using hseen

end

theorem derefCall_ok {c : Option CallId} {a : CallId}
    (h : (derefCall c : Step SC CallId) v = (.ok a, v')) : c = some a := by
  cases c with
  | none => cases h
  | some c => exact congrArg some (Except.ok.inj (Prod.mk.inj h).1)

/-- as far as the log meets the condition, what is remembered fits -/
def Fitting (L : Ledger env life) (b : TraceeId) (t : Thread) (num : Numbering) (log : Log)
    (μ' : Memo) : Prop := Always L.Cond log → L.Fit num log b t μ'

theorem stable_fitting : Stable (Fitting L b t) :=
  ⟨fun hn hl h hc => L.fit_extend hn hl (h (hc.mono hl))⟩

/-- the call that is reported -/
theorem faces_settledCall (hs : s ≠ .idle) {nr : SystemCallNr} {resumed : Bool} {tr : Tracee} :
    Faces L o b t s (fun num log μ' => Settled μ nr resumed num log μ' ∧ tr.memo = μ')
      (derefCall tr.currentSyscall : Step SC CallId)
      fun c num _ μ' => Enters num nr μ c resumed { μ' with ctr := μ'.ctr + 1 } := by
  have hR : Stable fun num log μ' => Settled μ nr resumed num log μ' ∧ tr.memo = μ' :=
    ⟨fun hn _ ⟨⟨c, hc, he⟩, htr⟩ => ⟨⟨c, hc, he.extend hn⟩, htr⟩⟩
  refine Faces.after (Faces.result hs hR (mutes_derefCall tr.currentSyscall)
    (φ := fun c _ => tr.currentSyscall = some c) fun _ h => derefCall_ok h) ?_
  rintro c num log μ' ⟨⟨⟨c', hc', he⟩, rfl⟩, hc⟩
  have hcc : c' = c := Option.some.inj (hc'.symm.trans hc)
  exact hcc ▸ he

/-- the end of the handling of an entry -/
theorem keeping_reportEntry (hs : s ≠ .idle) {it : Iter} (hit : it.id = b) {nr : SystemCallNr}
    {c : CallId} {resumed : Bool} {flags : StatusFlags} (hf : flags.resumed = resumed)
    (hrep : ∀ {num log μ'}, Extends o.1 num → o.2 <+: log → truth env life log b = t →
      Enters num nr μ c resumed μ' → Always L.Cond log →
      L.Good num log (.callback (.syscallEntry b c flags)) ∧
        L.Fit num (log ++ [.callback (.syscallEntry b c flags)]) b t μ') :
    Triple (Facing L o b t s fun num _ μ' => Enters num nr μ c resumed μ')
      (notify env it (.syscallEntry it.id c flags) : Step SC Unit)
      (fun _ => During L o b t s (Fitting L b t)) fun _ v => L.Holds v := by
  subst hit hf
  apply keeping_notify hs stable_fitting
  intro v hv
  have hcond : Always L.Cond (v.log ++ [.callback (.syscallEntry it.id c flags)]) →
      Always L.Cond v.log := fun hc => hc.mono (List.prefix_append _ _)
  refine hv.toDuring.say rfl (fun b' hne => ⟨rfl, ?_⟩) (fun hc _ => ?_) fun h hc => ?_
  · exact decide_eq_false hne.symm
  · have he := hv.memo (hv.present (hcond hc))
    exact (hrep hv.nums hv.since hv.thread he (hcond hc)).1
  · exact (hrep hv.nums hv.since hv.thread h (hcond hc)).2

theorem keeping_entry (hl : Lawful SC) (hs : s ≠ .idle) {it : Iter} (hit : it.id = b)
    {info : SystemCallInfo}
    (hrep : ∀ {num log c flags μ'}, Extends o.1 num → o.2 <+: log → truth env life log b = t →
      Enters num info.sysNr μ c flags.resumed μ' → Always L.Cond log →
      L.Good num log (.callback (.syscallEntry b c flags)) ∧
        L.Fit num (log ++ [.callback (.syscallEntry b c flags)]) b t μ') :
    Triple (Facing L o b t s fun _ _ μ' => μ' = { μ with syscallEntered := true })
      (handleSystemCallEntry env it info : Step SC Unit)
      (fun _ => During L o b t s (Fitting L b t)) fun _ v => L.Holds v := by
  subst hit
  have hget : Faces L o it.id t s (fun _ _ μ' => μ' = { μ with syscallEntered := true })
      (dbGet env it.id info : Step SC CallId) fun c num _ μ' =>
        μ' = { μ with syscallEntered := true } ∧ num c = some info.sysNr :=
    Faces.result hs ⟨fun _ _ h => h⟩ (mutes_dbGet _ _) fun hf h => dbGet_ok hf h
  refine Triple.bind hget fun c => ?_
  refine Triple.bind (Q := fun _ => Facing L o it.id t s (Found μ info.sysNr c True))
    (faces_modify (fun _ => rfl) ?_) fun _ => ?_
  · rintro num log tr ⟨hμ', hc⟩
    refine ⟨trivial, hc, ?_⟩
    show { tr.memo with current := some c } = _
    rw [hμ']
  have hcall : Faces L o it.id t s (Found μ info.sysNr c True)
      (getCall c : Step SC (CallObj SC)) fun call =>
        Found μ info.sysNr c (SyscallOps.callNr call.obj = createdNr info.sysNr) := by
    refine Faces.after (Faces.result hs (stable_found _ _ _ _) (mutes_getCall c)
      (φ := fun call num => ∃ n, num c = some n ∧ SyscallOps.callNr call.obj = createdNr n)
      fun hf h => getCall_number hl hf h) ?_
    rintro call num log μ' ⟨⟨-, hc, hμ'⟩, n, hn, hnr⟩
    have hnn : n = info.sysNr := Option.some.inj (hn.symm.trans hc)
    exact ⟨hnn ▸ hnr, hc, hμ'⟩
  refine Triple.bind hcall fun call => ?_
  refine Triple.bind (Faces.lift hs (stable_found _ _ _ _) _) fun _ => ?_
  refine Triple.bind (faces_checkResumed hl hs call) fun resumed => ?_
  refine Triple.bind faces_getTracee fun tr => Triple.bind (faces_settledCall hs) fun c' => ?_
  have hset : Faces L o it.id t s
      (fun num _ μ' => Enters num info.sysNr μ c' resumed { μ' with ctr := μ'.ctr + 1 })
      (setEntryInfo env it.id c' info : Step SC Unit)
      fun _ num _ μ' => Enters num info.sysNr μ c' resumed { μ' with ctr := μ'.ctr + 1 } :=
    Faces.mute hs ⟨fun hn _ h => h.extend hn⟩ (mutes_setEntryInfo _ _ _)
  refine Triple.bind hset fun _ => ?_
  refine Triple.bind (Q := fun _ => Facing L o it.id t s fun num _ μ' =>
    Enters num info.sysNr μ c' resumed μ') (faces_modify (fun _ => rfl) fun tr h => h) fun _ => ?_
  refine keeping_reportEntry hs ?_ ?_ ?_
  · rfl
  · rfl
  · intro num log μ' hn hlog ht he hc
    exact hrep hn hlog ht he hc

/-! ## exit -/

theorem keeping_checkSigreturn {K : Numbering → Log → Prop} {ν : Memo} {x : ExitInfo}
    {n : SystemCallNr} {call : CallObj SC} (hnr : SyscallOps.callNr call.obj = createdNr n)
    (herr : SyscallOps.error call.obj = x.error) :
    Keeping L o b t s (fun num log μ' => K num log ∧ μ' = ν) (checkSigreturn b call : Step SC Unit)
      fun _ num log μ' => K num log ∧ { μ' with current := none } = ν.finish x n := by
  refine Triple.bind keeping_getTracee fun tr => Triple.ite (fun hsig => ?_) fun hsig => ?_
  · have hfin : ∀ {num log μ'}, (K num log ∧ μ' = ν) ∧ tr.memo = μ' →
        (ν.interrupted.isSome && isSigreturn n) = true := by
      rintro num log μ' ⟨⟨-, rfl⟩, rfl⟩
      rw [hnr, isSigreturn_createdNr] at hsig
      exact hsig
    have hseen : x.isEINTR = false →
        Keeping L o b t s (fun num log μ' => (K num log ∧ μ' = ν) ∧ tr.memo = μ')
          (setFlags b fun f => { f with seenSigreturn := true } : Step SC Unit)
          fun _ num log μ' => K num log ∧ { μ' with current := none } = ν.finish x n := by
      intro hx
      refine keeping_modify (fun _ => rfl) fun tr' h => ⟨h.1.1, ?_⟩
      unfold Memo.finish
      rw [if_pos (hfin h), hx]
      show { tr'.memo with current := none, seenSigreturn := true } = _
      rw [h.1.2]
      rfl
    cases hx : x.error with
    | none =>
      rw [herr, hx]
      apply hseen
      unfold ExitInfo.isEINTR
      rw [hx]
      rfl
    | some e =>
      rw [herr, hx]
      have hxe : x.isEINTR = (e.hasErrorCode && e.code == Errno.interrupted) := by
        unfold ExitInfo.isEINTR
        rw [hx]
        rfl
      refine Triple.ite (fun he => ?_) fun he => hseen (by rw [hxe]; simpa using he)
      refine keeping_modify (fun _ => rfl) fun tr' h => ⟨h.1.1, ?_⟩
      unfold Memo.finish
      rw [if_pos (hfin h), hxe, if_pos he]
      show { tr'.memo with current := none, interrupted := none } = _
      rw [h.1.2]
  · refine Keeping.pure ?_
    rintro num log μ' ⟨⟨hK, rfl⟩, rfl⟩
    refine ⟨hK, ?_⟩
    rw [hnr, isSigreturn_createdNr] at hsig
    unfold Memo.finish
    exact (if_neg hsig).symm

/-- once the outcome was read, the object reports it -/
theorem facing_setExitInfo (hl : Lawful SC) (hs : s ≠ .idle) {info : SystemCallInfo} {x : ExitInfo}
    (hx : info.stop = .exit x) (hR : Stable R) (c : CallId) :
    Triple (Facing L o b t s R) (setExitInfo env b c info : Step SC Unit)
      (fun _ v => Facing L o b t s R v ∧
        ∀ call, v.calls c = some call → SyscallOps.error call.obj = x.error)
      fun _ v => L.Holds v := by
  intro v hv
  have hm : Faces L o b t s R (setExitInfo env b c info : Step SC Unit) fun _ => R :=
    Faces.mute hs hR (mutes_setExitInfo b c info)
  have hv' := hm v hv
  cases hr : setExitInfo env b c info v with
  | mk r v' =>
    rw [hr] at hv'
    cases r with
    | ok u => exact ⟨hv', setExitInfo_error hl hx hr⟩
    | error e => exact hv'

theorem facing_endedCall (hl : Lawful SC) (hs : s ≠ .idle) {x : ExitInfo} (c : CallId) :
    Triple (fun v : World SC => Facing L o b t s R v ∧
        ∀ call, v.calls c = some call → SyscallOps.error call.obj = x.error)
      (getCall c : Step SC (CallObj SC))
      (fun call v => ∃ n, Facing L o b t s (fun num log μ' => num c = some n ∧ R num log μ') v ∧
        SyscallOps.callNr call.obj = createdNr n ∧ SyscallOps.error call.obj = x.error)
      fun _ v => L.Holds v := by
  intro v ⟨hv, herr⟩
  cases hr : getCall c v with
  | mk r v' =>
    have hv' : v' = v := by
      rw [← getCall_state c v, hr]
    subst hv'
    cases r with
    | ok call =>
      obtain ⟨n, hn, hnr⟩ := getCall_number hl hv.filed hr
      refine ⟨n, ⟨hv.toDuring.weaken fun h => ⟨hn, h⟩, hv.present⟩, hnr, ?_⟩
      exact herr call (getCall_ok hr).1
    | error e => exact hv.toDuring.holds hs

/-- what is known of the call that ends -/
def Ending (μ : Memo) (c : CallId) (_ : Numbering) (_ : Log) (μ' : Memo) : Prop :=
  μ.current = some c ∧ μ' = { μ with syscallEntered := false }

theorem keeping_exit (hl : Lawful SC) (hs : s ≠ .idle) {it : Iter} (hit : it.id = b)
    {info : SystemCallInfo} {x : ExitInfo} (hx : info.stop = .exit x)
    (hrep : ∀ {num log c n}, Extends o.1 num → o.2 <+: log → truth env life log b = t →
      μ.current = some c → num c = some n → Always L.Cond log →
      L.Fit num (log ++ [.callback (.syscallExit b c { interrupted := x.interrupted })]) b t
        (μ.exit x c n)) :
    Triple (Facing L o b t s fun _ _ μ' => μ' = { μ with syscallEntered := false })
      (handleSystemCallExit env it info : Step SC Unit)
      (fun _ => During L o b t s (Fitting L b t)) fun _ v => L.Holds v := by
  subst hit
  refine Triple.bind faces_getTracee fun tr => ?_
  have hderef : Faces L o it.id t s
      (fun _ _ μ' => μ' = { μ with syscallEntered := false } ∧ tr.memo = μ')
      (derefCall tr.currentSyscall : Step SC CallId) fun c => Ending μ c := by
    refine Faces.after (Faces.result hs ⟨fun _ _ h => h⟩ (mutes_derefCall tr.currentSyscall)
      (φ := fun c _ => tr.currentSyscall = some c) fun _ h => derefCall_ok h) ?_
    rintro c num log μ' ⟨⟨hμ', htr⟩, hc⟩
    refine ⟨?_, hμ'⟩
    rw [hμ'] at htr
    exact (congrArg Memo.current htr).symm.trans hc
  refine Triple.bind hderef fun c => ?_
  refine Triple.bind (facing_setExitInfo hl hs hx ⟨fun _ _ h => h⟩ c) fun _ => ?_
  refine Triple.bind (facing_endedCall hl hs c) fun call => Triple.choose fun n => ?_
  refine Triple.assume fun ⟨hnr, herr⟩ => ?_
  have hint : (SyscallOps.error call.obj).any ErrnoResult.hasKernelErrorCode = x.interrupted := by
    rw [herr]
    rfl
  refine Triple.bind (Q := fun _ => Facing L o it.id t s fun num _ μ' =>
    (num c = some n ∧ μ.current = some c) ∧
      μ' = ({ μ with syscallEntered := false } : Memo).interrupt x c) ?_ fun _ => ?_
  · refine Triple.when (fun hi => faces_modify (fun _ => rfl) ?_) fun hi v hv => ?_
    · rintro num log tr' ⟨hn, hc, hμ'⟩
      refine ⟨⟨hn, hc⟩, ?_⟩
      show { tr'.memo with interrupted := some c } = _
      unfold Memo.interrupt
      rw [hμ', if_pos (hint ▸ hi)]
    · refine ⟨hv.toDuring.weaken ?_, hv.present⟩
      rintro ⟨hn, hc, hμ'⟩
      refine ⟨⟨hn, hc⟩, ?_⟩
      unfold Memo.interrupt
      rw [hμ', if_neg fun h => hi (hint ▸ h)]
  have hfit : Stable fun num log μ' => Fitting L it.id t num log (μ.exit x c n) ∧
      μ' = ({ μ with syscallEntered := false } : Memo).interrupt x c :=
    ⟨fun hn hlog h => ⟨stable_fitting.keeps hn hlog h.1, h.2⟩⟩
  refine Triple.bind (keeping_notify hs hfit fun hv => ?_) fun _ => ?_
  · refine hv.toDuring.say rfl (fun b' hne => ⟨rfl, decide_eq_false hne.symm⟩)
      (fun _ _ => L.good_other rfl) ?_
    rintro ⟨⟨hn, hc⟩, hμ'⟩
    refine ⟨fun hcond => ?_, hμ'⟩
    rw [hint] at hcond ⊢
    exact hrep hv.nums hv.since hv.thread hc hn (hcond.mono (List.prefix_append _ _))
  · refine Triple.bind (keeping_checkSigreturn hnr herr) fun _ => ?_
    refine keeping_modify (fun _ => rfl) fun tr' h => ?_
    have hlast : ({ tr' with currentSyscall := none } : Tracee).memo = μ.exit x c n := h.2
    rw [hlast]
    exact h.1

end

end Ledger

end Clues
