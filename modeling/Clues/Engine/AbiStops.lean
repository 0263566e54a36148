import Clues.Engine.AbiHistory

/-!
# The cache while a stop is handled

The log tells what the system call objects in the databases know of the ABIs.

* `Resting`    they know it of the tracees whose last stop was handled;
* `Standing`   ... and of a tracee that may be restarted;
* `Underway`   a stop is handled: the objects of some tracees were used otherwise than the log says;
* `standing_handleSyscallStop`   when a system call stop was handled, the log tells it again.
-/

set_option linter.unusedSectionVars false

namespace Clues

open Lib Lib.Exec Lib.History Step

variable {SC : Type} [SyscallOps SC] {env : Env} {P P' : TraceeId → Prop} {w v : World SC}
  {a : TraceeId} {n : TraceeId}

/-! ## between two stops -/

/-- the log tells what the objects of the tracees `P` were used for -/
structure Caching (env : Env) (P : TraceeId → Prop) (w : World SC) : Prop where
  kept : Indexed (fun b => (abis env w.log b).uses) P w
  looked : Always (Looked env w.requested) w.log

def Resting (env : Env) (w : World SC) : Prop := Caching env (Idle w.log) w

/-- the tracee `a` may be restarted -/
def Standing (env : Env) (a : TraceeId) (w : World SC) : Prop := Caching env (Restartable w.log a) w

theorem Caching.mono (h : Caching env P w) (hP : ∀ b, P' b → P b) : Caching env P' w :=
  ⟨h.kept.mono hP fun _ _ => rfl, h.looked⟩

theorem Settles.requested (hs : Settles Entry.isMark True n w v) : v.requested = w.requested :=
  requested_of_calls (hs.still trivial).calls

theorem Caching.settles (h : Caching env P w) (hs : Settles Entry.isMark True n w v) :
    Caching env P v := by
  obtain ⟨es, he, hes⟩ := hs.log
  constructor
  · rw [he, abis_append hes]
    exact h.kept.still (hs.still trivial) hs.nextObj
  · rw [he, hs.requested]
    exact h.looked.append fun e hm p => looked_of_not_mark (hes e hm)

theorem Resting.settles (h : Resting env w) (hs : Settles Entry.isMark True n w v) :
    Resting env v := by
  obtain ⟨es, he, hes⟩ := hs.log
  apply (Caching.settles h hs).mono
  rw [he]
  exact fun b hb => hb.of_append hes

theorem Standing.settles (h : Standing env a w) (hs : Settles Entry.isMark True n w v) :
    Standing env a v := by
  obtain ⟨es, he, hes⟩ := hs.log
  apply (Caching.settles h hs).mono
  rw [he]
  exact fun b hb => hb.of_append hes

theorem Standing.resting (h : Standing env a w) : Resting env w :=
  Caching.mono h fun _ hb => Or.inl hb

theorem Resting.standing (h : Resting env w) (hs : stage w.log a ≠ .handling) :
    Standing env a w := by
  apply Caching.mono h
  rintro b (hb | ⟨-, hb, -⟩)
  · exact hb
  · exact absurd hb hs

theorem keeps_resting {α : Type} {x : Step SC α} (hx : Settling Entry.isMark True 0 x) :
    Keeps (Resting env) x := fun w hw => hw.settles (hx w (Nat.zero_le _))

theorem keeps_standing {α : Type} {x : Step SC α} (hx : Settling Entry.isMark True 0 x) :
    Keeps (Standing env a) x := fun w hw => hw.settles (hx w (Nat.zero_le _))

theorem standing_triple {α : Type} {x : Step SC α} (hx : Settling Entry.isMark True 0 x) :
    Triple (Standing env a) x (fun _ => Standing env a) fun _ => Resting env :=
  (keeps_standing hx).triple fun _ h => h.resting

/-- an entry that changes nothing that was told -/
theorem Caching.say (h : Caching env P w) {e : Entry}
    (habis : abis env (w.log ++ [e]) = abis env w.log) (hl : Looked env w.requested w.log e) :
    Caching env P (w.say e) := by
  constructor
  · show Indexed (fun b => (abis env (w.log ++ [e]) b).uses) _ (w.say e)
    rw [habis]
    exact h.kept.still ⟨rfl, rfl, fun _ => Or.inl rfl⟩ le_rfl
  · exact always_snoc_iff.mpr ⟨h.looked, hl⟩

/-! ## while a stop is handled -/

/-- what is known when the handling of a stop begins -/
structure Scene where
  id : TraceeId
  /-- the numbers of the objects there were -/
  num : Numbering
  /-- what the log tells -/
  abis : TraceeId → Abis
  /-- the tracees that the objects are known of -/
  known : TraceeId → Prop
  /-- those whose stop is handled, or that are left behind -/
  busy : TraceeId → Prop
  /-- the tracee `id` may be restarted -/
  ready : Prop

def Scene.uses (s : Scene) (b : TraceeId) : Uses := (s.abis b).uses

structure Underway (env : Env) (s : Scene) (H : TraceeId → Uses) (w : World SC) : Prop where
  kept : Indexed H s.known w
  others : ∀ b, ¬ s.busy b → H b = s.uses b
  abis : abis env w.log = s.abis
  looked : Always (Looked env s.num) w.log
  numbers : Extends s.num w.requested
  lt : s.id < w.nextObj
  idle : ∀ b, Idle w.log b → s.known b ∧ ¬ s.busy b
  restart : stage w.log s.id = .handling → ¬ Departed w.log s.id → s.ready

variable {s : Scene} {H H' : TraceeId → Uses} {c : CallId}

theorem Underway.resting (h : Underway env s H w) : Resting env w := by
  constructor
  · rw [h.abis]
    exact h.kept.mono (fun b hb => (h.idle b hb).1) fun b hb => (h.others b (h.idle b hb).2).symm
  · exact fun p e hp => (h.looked p e hp).extend h.numbers

theorem Underway.standing (h : Underway env s s.uses w) (hr : s.ready → s.known s.id) :
    Standing env s.id w := by
  constructor
  · rw [h.abis]
    refine h.kept.mono (fun b hb => ?_) fun _ _ => rfl
    obtain hb | ⟨rfl, hs, hd⟩ := hb
    · exact (h.idle b hb).1
    · exact hr (h.restart hs hd)
  · exact fun p e hp => (h.looked p e hp).extend h.numbers

theorem Underway.settles (h : Underway env s H w) (hs : Settles Entry.isMark True n w v) :
    Underway env s H v := by
  obtain ⟨es, he, hes⟩ := hs.log
  refine ⟨h.kept.still (hs.still trivial) hs.nextObj, h.others, ?_, ?_, ?_,
    h.lt.trans_le hs.nextObj, fun b hb => h.idle b ?_, fun hst hd => h.restart ?_ fun hd' => hd ?_⟩
  · rw [he, abis_append hes]
    exact h.abis
  · rw [he]
    exact h.looked.append fun e hm p => looked_of_not_mark (hes e hm)
  · rw [hs.requested]
    exact h.numbers
  · rw [he] at hb
    exact hb.of_append hes
  · rw [he] at hst
    exact stage_of_append (fun h => nomatch h) hes hst
  · rw [he]
    exact hd'.append es

/-- only the objects change, or what the tracees refer to -/
theorem Underway.change (h : Underway env s H w) (hk : Indexed H' s.known v)
    (ho : ∀ b, ¬ s.busy b → H' b = s.uses b) (hlog : v.log = w.log) (hobj : v.nextObj = w.nextObj)
    (hn : Extends w.requested v.requested) : Underway env s H' v := by
  refine ⟨hk, ho, ?_, ?_, h.numbers.trans hn, ?_, ?_, ?_⟩
  · rw [hlog]
    exact h.abis
  · rw [hlog]
    exact h.looked
  · rw [hobj]
    exact h.lt
  · rw [hlog]
    exact h.idle
  · rw [hlog]
    exact h.restart

theorem underway_triple {α : Type} {x : Step SC α} (hx : Settling Entry.isMark True 0 x) :
    Triple (Underway env s H) x (fun _ => Underway env s H) fun _ => Resting env := by
  have hkeep : Keeps (Underway env s H) x := fun w hw => hw.settles (hx w (Nat.zero_le _))
  exact hkeep.triple fun _ h => h.resting

/-- ... and a fact about the objects that the tracee refers to -/
def Finding (env : Env) (s : Scene) (H : TraceeId → Uses)
    (φ : Shelf → (CallId → Option (CallObj SC)) → Prop) (w : World SC) : Prop :=
  Underway env s H w ∧ φ (w.objs s.id).shelf w.calls

theorem finding_triple {α : Type} {x : Step SC α}
    {φ : Shelf → (CallId → Option (CallObj SC)) → Prop} (hx : Settling Entry.isMark True 0 x) :
    Triple (Finding env s H φ) x (fun _ => Finding env s H φ) fun _ => Resting env := by
  have hkeep : Keeps (Finding env s H φ) x := by
    intro w hw
    have hs := hx w (Nat.zero_le _)
    refine ⟨hw.1.settles hs, ?_⟩
    rw [(hs.still trivial).shelf_of_lt hw.1.lt, (hs.still trivial).calls]
    exact hw.2
  exact hkeep.triple fun _ h => h.1.resting

/-- the tracee is read -/
theorem underway_getTracee : Triple (Underway env s H) (getTracee s.id : Step SC Tracee)
    (fun t w => Finding env s H (fun sh _ => sh = t.shelf) w) fun _ => Resting env :=
  fun _ hw => ⟨hw, rfl⟩

/-- what the tracee refers to changes among its own objects -/
theorem Underway.shelve (h : Underway env s H w) (hk : s.known s.id) {t : Tracee}
    (hdb : t.syscallDb = (w.objs s.id).syscallDb)
    (hc : ∀ c, t.currentSyscall = some c ∨ t.interruptedSyscall = some c →
      w.Own s.known s.id c) : Underway env s H (w.setObj s.id t) :=
  h.change (h.kept.shelve hk hdb hc) h.others rfl rfl (Extends.refl _)

theorem Underway.own (h : Underway env s H w) (hk : s.known s.id)
    (hc : (w.objs s.id).shelf.Has c) : w.Own s.known s.id c := h.kept.own _ hk c hc

theorem underway_shelve (hk : s.known s.id) {f : Tracee → Tracee}
    (hdb : ∀ t, (f t).syscallDb = t.syscallDb)
    (hc : ∀ t c, (f t).currentSyscall = some c ∨ (f t).interruptedSyscall = some c →
      t.currentSyscall = some c ∨ t.interruptedSyscall = some c) :
    Triple (Underway env s H) (modifyTracee s.id f : Step SC Unit) (fun _ => Underway env s H)
      fun _ => Resting env := fun _ hv =>
  hv.shelve hk (hdb _) fun c hc' => hv.own hk (Or.inr (hc _ c hc'))

/-! ### the object for an entry -/

/-- an object of the tracee that was found for a number -/
structure Found (s : Scene) (H : TraceeId → Uses) (nr : SystemCallNr) (c : CallId) (w : World SC) :
    Prop where
  own : w.Own s.known s.id c
  abi : ∀ call, w.calls c = some call →
    SyscallOps.abi call.obj = (lastUse w.requested (H s.id) nr).getD .unknown

/-- an object of the database knows the last use for its number -/
theorem Underway.found (h : Underway env s H w) (hk : s.known s.id) {nr : SystemCallNr}
    (hdb : (w.objs s.id).syscallDb nr = some c) : Found s H nr c w := by
  refine ⟨h.own hk (Or.inl ⟨nr, hdb⟩), fun call hc => ?_⟩
  rw [← h.kept.known _ hk]
  unfold World.cachedAbi
  rw [hdb, Option.bind_some, hc]
  rfl

theorem Underway.create (h : Underway env s H w) (call : CallObj SC) :
    Underway env s H (newCall call w).2 :=
  h.change h.kept.create h.others rfl rfl h.kept.extends_newCall

theorem newCall_self (call : CallObj SC) (w : World SC) :
    (newCall call w).2.calls w.nextCall = some call := Function.update_self ..

/-- an object that is not cached -/
theorem Underway.found_uncached (h : Underway env s H w) {nr : SystemCallNr} {sc : SC}
    (habi : SyscallOps.abi sc = .unknown) (hm : isMultiSys nr = true) :
    Found s H nr w.nextCall (newCall ⟨nr, sc⟩ w).2 := by
  refine ⟨⟨⟨nr, requested_newCall ⟨nr, sc⟩ w, fun hm' => ?_⟩, fun b hb _ => h.kept.not_has_next hb⟩,
    fun call hc => ?_⟩
  · rw [hm] at hm'
    cases hm'
  · rw [newCall_self] at hc
    rw [lastUse_multi hm, ← Option.some.inj hc]
    exact habi

/-- an object that is cached -/
theorem Underway.cached (h : Underway env s H w) (hk : s.known s.id) {nr : SystemCallNr} {sc : SC}
    (habi : SyscallOps.abi sc = .unknown) (hm : isMultiSys nr = false)
    (hnone : (w.objs s.id).syscallDb nr = none) :
    Underway env s H ((newCall ⟨nr, sc⟩ w).2.setObj s.id { w.objs s.id with
      syscallDb := Function.update (w.objs s.id).syscallDb nr (some w.nextCall) }) := by
  have hcreated : Underway env s H (newCall ⟨nr, sc⟩ w).2 := h.create _
  refine hcreated.change ?_ h.others rfl rfl (Extends.refl _)
  exact hcreated.kept.cache hk (newCall_self ⟨nr, sc⟩ w) habi hm hnone fun b hb =>
    h.kept.not_has_next hb

theorem underway_dbGet (hA : Aware SC) (hk : s.known s.id) (info : SystemCallInfo) :
    Triple (Underway env s H) (dbGet env s.id info : Step SC CallId)
      (fun c w => Underway env s H w ∧ Found s H info.sysNr c w) fun _ => Resting env := by
  apply Triple.bind (Q := fun t w => Underway env s H w ∧ t = w.objs s.id)
  · exact fun v hv => ⟨hv, rfl⟩
  intro t
  cases hdb : t.syscallDb info.sysNr with
  | some c =>
    rintro v ⟨hv, rfl⟩
    exact ⟨hv, hv.found hk hdb⟩
  | none =>
    have hrest : Triple (Finding env s H fun sh _ => sh.db info.sysNr = none) (do
        let de ← startDecode env s.id
        let r ← lift (SyscallOps.createSyscall de info)
        let c ← newCall ⟨info.sysNr, r.1⟩
        when r.2
          (modifyTracee s.id fun t =>
            { t with syscallDb := Function.update t.syscallDb info.sysNr (some c) })
        pure c : Step SC CallId)
        (fun c w => Underway env s H w ∧ Found s H info.sysNr c w) fun _ => Resting env := by
      apply Triple.bind (finding_triple (settling_startDecode s.id))
      intro de
      apply Triple.bind (Q := fun r v => Finding env s H (fun sh _ => sh.db info.sysNr = none) v ∧
        (SyscallOps.createSyscall de info : Except Exc (SC × Bool)) = .ok r)
      · intro v hv
        rw [run_lift]
        cases hr : (SyscallOps.createSyscall de info : Except Exc (SC × Bool)) with
        | error e => exact hv.1.resting
        | ok r => exact ⟨hv, rfl⟩
      intro r
      apply Triple.assume
      intro hr
      obtain ⟨habi, hcache⟩ := hA.created hr
      rw [hcache]
      rintro v ⟨hv, hnone⟩
      cases hm : isMultiSys info.sysNr with
      | true => exact ⟨hv.create _, hv.found_uncached habi hm⟩
      | false =>
        have hcached := hv.cached hk habi hm hnone
        refine ⟨hcached, hcached.found hk ?_⟩
        rw [World.setObj_self]
        exact Function.update_self ..
    rintro v ⟨hv, rfl⟩
    exact hrest v ⟨hv, hdb⟩

/-- the object that was found becomes the current one -/
theorem underway_setCurrent (hk : s.known s.id) {nr : SystemCallNr} :
    Triple (fun w => Underway env s H w ∧ Found s H nr c w)
      (modifyTracee s.id fun t => { t with currentSyscall := some c } : Step SC Unit)
      (fun _ => Underway env s H) fun _ => Resting env := by
  rintro v ⟨hv, hf⟩
  refine hv.shelve hk rfl fun q hq => ?_
  obtain hq | hq := hq
  · rw [← Option.some.inj hq]
    exact hf.own
  · exact hv.own hk (Or.inr (Or.inr hq))

theorem underway_tryRecover (hA : Aware SC) (hk : s.known s.id) (info : SystemCallInfo) :
    Triple (Underway env s H) (tryRecoverRestartedSystemCall env s.id info : Step SC Bool)
      (fun _ => Underway env s H) fun _ => Resting env := by
  apply Triple.bind (underway_triple (Settling.getTracee s.id))
  intro t
  cases t.getInitialSyscallInfo env info.abi with
  | none => exact underway_triple (Settling.pure _)
  | some orig =>
    apply Triple.ite
    · exact fun _ => underway_triple (Settling.pure _)
    intro _
    apply Triple.bind (underway_dbGet hA hk orig)
    intro c
    apply Triple.bind (underway_setCurrent hk)
    exact fun _ => underway_triple (Settling.pure _)

theorem underway_checkResumed (hA : Aware SC) (hk : s.known s.id) (info : SystemCallInfo)
    (call : CallObj SC) :
    Triple (Underway env s H) (checkResumed env s.id info call : Step SC Bool)
      (fun _ => Underway env s H) fun _ => Resting env := by
  apply Triple.bind underway_getTracee
  intro t
  have hpure : ∀ x : Bool, Triple (Finding env s H fun sh _ => sh = t.shelf) (pure x : Step SC Bool)
      (fun _ => Underway env s H) fun _ => Resting env := fun x => Triple.pure fun _ hv => hv.1
  have hhas : ∀ {v : World SC} {i}, t.interruptedSyscall = some i →
      Finding env s H (fun sh _ => sh = t.shelf) v → (v.objs s.id).shelf.Has i := by
    intro v i hi hv
    rw [hv.2]
    exact Or.inr (Or.inr hi)
  apply Triple.ite
  · intro _
    cases hi : t.interruptedSyscall with
    | some i =>
      apply Triple.bind (Q := fun _ => Underway env s H)
      · intro v hv
        refine hv.1.shelve hk rfl fun q hq => ?_
        obtain hq | hq := hq
        · rw [← Option.some.inj hq]
          exact hv.1.own hk (hhas hi hv)
        · cases hq
      · exact fun _ => underway_triple (Settling.pure _)
    | none =>
      apply Triple.ite
      · exact fun _ => hpure _
      intro _
      exact (underway_tryRecover hA hk info).weaken (fun _ hv => hv.1) (fun _ _ hv => hv)
        fun _ _ hv => hv
  · intro _
    cases hi : t.interruptedSyscall with
    | none => exact hpure _
    | some i =>
      apply Triple.ite
      · intro _
        apply Triple.bind (finding_triple (settling_getCall i))
        intro interrupted
        apply Triple.bind
        · exact finding_triple (Settling.modify (fun _ h => h) fun _ => rfl)
        intro _
        apply Triple.bind (Q := fun _ => Underway env s H)
        · have hdrop : Triple (Underway env s H)
              (modifyTracee s.id fun t => { t with interruptedSyscall := none } : Step SC Unit)
              (fun _ => Underway env s H) fun _ => Resting env :=
            underway_shelve hk (fun _ => rfl) fun t c hc => hc.imp_right fun h => nomatch h
          exact fun v hv => hdrop v hv.1
        · exact fun _ => underway_triple (Settling.pure _)
      · exact fun _ => hpure _

/-! ### the use of the object -/

/-- the object is read -/
theorem finding_getCall {φ : Shelf → (CallId → Option (CallObj SC)) → Prop} :
    Triple (Finding env s H φ) (getCall c : Step SC (CallObj SC))
      (fun call w => Finding env s H φ w ∧ w.calls c = some call) fun _ => Resting env := by
  intro v hv
  unfold getCall
  rw [run_read_bind]
  cases hc : v.calls c with
  | none => exact hv.1.resting
  | some call => exact ⟨hv, hc⟩

/-- the object of an entry is used under its ABI -/
theorem underway_setEntryInfo (hA : Aware SC) (hk : s.known s.id) (hb : s.busy s.id)
    {info : SystemCallInfo} (habi : info.abi ≠ .unknown) :
    Triple (Finding env s s.uses fun sh _ => sh.current = some c)
      (setEntryInfo env s.id c info : Step SC Unit)
      (fun _ => Underway env s (Function.update s.uses s.id ((c, info.abi) :: s.uses s.id)))
      fun _ => Resting env := by
  apply Triple.bind (finding_triple (settling_startDecode s.id))
  intro de
  apply Triple.bind finding_getCall
  intro call
  apply Triple.bind _ fun _ => underway_triple (Settling.lift _)
  rintro v ⟨⟨hv, hcur⟩, hc⟩
  have hset : SyscallOps.abi (SyscallOps.setEntryInfo de info call.obj).2 = info.abi :=
    hA.entry de info call.obj
  have huse := hv.kept.use hk hv.lt (hv.own hk (Or.inr (Or.inl hcur))) hc (hset ▸ habi)
  rw [hset] at huse
  refine hv.change huse (fun b hnb => ?_) rfl rfl fun q n hq => ?_
  · rw [Function.update_of_ne]
    rintro rfl
    exact hnb hb
  · exact (requested_putCall c _ v q).trans hq

/-- the object of an exit keeps its ABI -/
theorem underway_setExitInfo (hA : Aware SC) (info : SystemCallInfo) :
    Triple (Finding env s H fun sh _ => sh.current = some c)
      (setExitInfo env s.id c info : Step SC Unit)
      (fun _ => Finding env s H fun sh _ => sh.current = some c) fun _ => Resting env := by
  apply Triple.bind (finding_triple (settling_startDecode s.id))
  intro de
  apply Triple.bind finding_getCall
  intro call
  apply Triple.read_bind
  intro w
  apply Triple.bind (Q := fun _ => Finding env s H fun sh _ => sh.current = some c)
  · rintro v ⟨-, ⟨hv, hcur⟩, hc⟩
    refine ⟨hv.change (hv.kept.replace hc (hA.exit ..)) hv.others rfl rfl fun q n hq => ?_, hcur⟩
    exact (requested_putCall c _ v q).trans hq
  intro _
  apply Triple.bind (finding_triple (settling_modifyProc s.id _))
  intro _
  apply Triple.bind
  · exact finding_triple (Settling.modify (fun _ h => h) fun _ => rfl)
  exact fun _ => finding_triple (Settling.lift _)

/-- `m_current_syscall` is dereferenced -/
theorem finding_derefCall {t : Tracee} :
    Triple (Finding env s H fun sh _ => sh = t.shelf) (derefCall t.currentSyscall : Step SC CallId)
      (fun c => Finding env s H fun sh _ => sh.current = some c) fun _ => Resting env := by
  cases hc : t.currentSyscall with
  | none => exact Triple.raise fun _ hv => hv.1.resting
  | some c =>
    apply Triple.pure
    intro v hv
    refine ⟨hv.1, ?_⟩
    rw [hv.2]
    exact hc

/-! ### entry -/

theorem switched_iff {last : Option ABI} {abi : ABI} (h : ∀ a, last = some a → a ≠ .unknown) :
    (last.getD .unknown ≠ .unknown ∧ last.getD .unknown ≠ abi) ↔ Switched last abi := by
  unfold Switched
  cases last with
  | none => simp
  | some a =>
    have ha : a ≠ .unknown := h a rfl
    simp [ha]

/-- the consumer is told of the entry -/
theorem standing_notifyEntry (hk : s.known s.id) (it : Iter) {flags : StatusFlags}
    {info : SystemCallInfo} (hent : (s.abis s.id).entered = info.abi)
    (hnum : ∀ u ∈ s.uses s.id, ∃ n, s.num u.1 = some n)
    (hf : flags.abiChanged = true ↔
      Switched (lastUse s.num (s.uses s.id) (s.abis s.id).nr) (s.abis s.id).entered) :
    Triple (Underway env s (Function.update s.uses s.id ((c, info.abi) :: s.uses s.id)))
      (notify env it (.syscallEntry s.id c flags) : Step SC Unit)
      (fun _ => Standing env s.id) fun _ => Resting env := by
  have hsay : Triple (Underway env s (Function.update s.uses s.id ((c, info.abi) :: s.uses s.id)))
      (say (.callback (.syscallEntry s.id c flags)) : Step SC Unit)
      (fun _ => Standing env s.id) fun _ => Resting env := by
    intro v hv
    generalize hA : abis env (v.log ++ [.callback (.syscallEntry s.id c flags)]) = α
    have hα : α = Function.update s.abis s.id { s.abis s.id with
        told := ⟨(numbers v.log).decoded s.id c flags, c, (s.abis s.id).entered⟩
          :: (s.abis s.id).told } := by
      rw [← hA, abis_snoc, hv.abis]
      rfl
    have huses : ∀ b, (α b).uses
        = Function.update s.uses s.id ((c, info.abi) :: s.uses s.id) b := by
      intro b
      rw [hα, Function.update_apply, Function.update_apply]
      split_ifs with hb
      · rw [← hent]
        rfl
      · rfl
    have hstage : stage (v.log ++ [.callback (.syscallEntry s.id c flags)]) = stage v.log := by
      rw [stage_snoc]
      rfl
    have hunder : Underway env { s with abis := α } ({ s with abis := α } : Scene).uses
        (v.say (.callback (.syscallEntry s.id c flags))) := by
      have hsame : ({ s with abis := α } : Scene).uses
          = Function.update s.uses s.id ((c, info.abi) :: s.uses s.id) := funext huses
      rw [hsame]
      refine ⟨hv.kept.still ⟨rfl, rfl, fun _ => Or.inl rfl⟩ le_rfl, fun b _ => (huses b).symm, hA,
        always_snoc_iff.mpr ⟨hv.looked, ?_⟩, hv.numbers, hv.lt, fun b hb => hv.idle b ?_,
        fun hst hd => hv.restart ?_ fun hd' => hd (hd'.append _)⟩
      · show (∀ u ∈ (abis env v.log s.id).uses, ∃ n, s.num u.1 = some n) ∧ _
        rw [hv.abis]
        exact ⟨hnum, hf⟩
      · refine ⟨?_, fun hd => hb.2 (hd.append _)⟩
        rw [← hstage]
        exact hb.1
      · rw [← hstage]
        exact hst
    exact hunder.standing fun _ => hk
  unfold notify callback
  apply Triple.bind
  · apply Triple.bind hsay
    intro _
    apply standing_triple
    apply Settling.read
    intro w
    exact Settling.bind (Settling.each settling_consumerAct) fun _ => Settling.say rfl
  · exact fun _ => standing_triple (settling_checkContained it)

theorem standing_handleSystemCallEntry (hA : Aware SC) (hk : s.known s.id) (hb : s.busy s.id)
    {it : Iter} (hit : it.id = s.id) {info : SystemCallInfo} (habi : info.abi ≠ .unknown)
    (hent : (s.abis s.id).entered = info.abi) (hnr : (s.abis s.id).nr = info.sysNr)
    (hreal : ∀ u ∈ s.uses s.id, u.2 ≠ .unknown ∧ ∃ n, s.num u.1 = some n) :
    Triple (Underway env s s.uses) (handleSystemCallEntry env it info : Step SC Unit)
      (fun _ => Standing env s.id) fun _ => Resting env := by
  unfold handleSystemCallEntry
  rw [hit]
  apply Triple.bind (underway_dbGet hA hk info)
  intro c
  -- what the object knew before it is used
  have hcur : Triple (fun w => Underway env s s.uses w ∧ Found s s.uses info.sysNr c w)
      (modifyTracee s.id fun t => { t with currentSyscall := some c } : Step SC Unit)
      (fun _ => Finding env s s.uses fun _ calls => ∀ call, calls c = some call →
        SyscallOps.abi call.obj = (lastUse s.num (s.uses s.id) info.sysNr).getD .unknown)
      fun _ => Resting env := by
    rintro v ⟨hv, hf⟩
    refine ⟨underway_setCurrent hk v ⟨hv, hf⟩, fun call hc => ?_⟩
    rw [← lastUse_extend hv.numbers fun u hu => (hreal u hu).2]
    exact hf.abi call hc
  apply Triple.bind hcur
  intro _
  apply Triple.bind (Q := fun call w => Underway env s s.uses w ∧
    SyscallOps.abi call.obj = (lastUse s.num (s.uses s.id) info.sysNr).getD .unknown)
  · exact finding_getCall.weaken (fun _ hv => hv)
      (fun call _ hv => ⟨hv.1.1, hv.1.2 call hv.2⟩) fun _ _ hv => hv
  intro call
  apply Triple.assume
  intro hcall
  apply Triple.bind (underway_triple (Settling.lift _))
  intro _
  apply Triple.bind (underway_checkResumed hA hk info call)
  intro resumed
  apply Triple.bind underway_getTracee
  intro t
  apply Triple.bind finding_derefCall
  intro c'
  apply Triple.bind (underway_setEntryInfo hA hk hb habi)
  intro _
  apply Triple.bind
  · exact underway_triple (Settling.modify (fun _ h => h) fun _ => rfl)
  intro _
  have hflag :
      decide (SyscallOps.abi call.obj ≠ .unknown ∧ SyscallOps.abi call.obj ≠ info.abi) = true ↔
        Switched (lastUse s.num (s.uses s.id) (s.abis s.id).nr) (s.abis s.id).entered := by
    rw [decide_eq_true_iff, hcall, hnr, hent]
    apply switched_iff
    intro x hx
    obtain ⟨u, hu, rfl⟩ := mem_of_lastUse hx
    exact (hreal u hu).1
  exact standing_notifyEntry hk it hent (fun u hu => (hreal u hu).2) hflag

/-! ### exit -/

theorem underway_checkSigreturn (hk : s.known s.id) (call : CallObj SC) :
    Triple (Underway env s H) (checkSigreturn s.id call : Step SC Unit)
      (fun _ => Underway env s H) fun _ => Resting env := by
  have hseen : Triple (Underway env s H)
      (setFlags s.id fun f => { f with seenSigreturn := true } : Step SC Unit)
      (fun _ => Underway env s H) fun _ => Resting env :=
    underway_triple (Settling.modify (fun _ h => h) fun _ => rfl)
  apply Triple.bind (underway_triple (Settling.getTracee s.id))
  intro t
  apply Triple.ite _ fun _ => underway_triple (Settling.pure ())
  intro _
  cases SyscallOps.error call.obj with
  | none => exact hseen
  | some e =>
    apply Triple.ite _ fun _ => hseen
    intro _
    exact underway_shelve hk (fun _ => rfl) fun t c hc => hc.imp_right fun h => nomatch h

theorem underway_handleSystemCallExit (hA : Aware SC) (hk : s.known s.id) {it : Iter}
    (hit : it.id = s.id) (info : SystemCallInfo) :
    Triple (Underway env s H) (handleSystemCallExit env it info : Step SC Unit)
      (fun _ => Underway env s H) fun _ => Resting env := by
  unfold handleSystemCallExit
  rw [hit]
  apply Triple.bind underway_getTracee
  intro t
  apply Triple.bind finding_derefCall
  intro c
  apply Triple.bind (underway_setExitInfo hA info)
  intro _
  apply Triple.bind (finding_triple (settling_getCall c))
  intro call
  apply Triple.bind (Q := fun _ => Underway env s H)
  · apply Triple.when _ fun _ _ hv => hv.1
    intro _ v hv
    refine hv.1.shelve hk rfl fun q hq => hv.1.own hk (Or.inr (Or.inl ?_))
    obtain hq | hq := hq
    · exact hq
    · rw [← hq]
      exact hv.2
  intro _
  apply Triple.bind (underway_triple (settling_notify it rfl))
  intro _
  apply Triple.bind (underway_checkSigreturn hk call)
  exact fun _ => underway_shelve hk (fun _ => rfl) fun t c hc => hc.imp_left fun h => nomatch h

/-! ### stops -/

theorem abi_ne_unknown {info info' : SystemCallInfo} (h : info.updateSysNr env = .ok info') :
    info'.abi ≠ .unknown := by
  unfold SystemCallInfo.updateSysNr at h
  cases hs : info.stop with
  | entry e =>
    rw [hs] at h
    cases ha : info.arch with
    | x86_64 =>
      rw [ha] at h
      cases h
      show (if info.isX32 then ABI.x32 else ABI.x86_64) ≠ .unknown
      split_ifs
      · exact fun h => nomatch h
      · exact fun h => nomatch h
    | i386 =>
      rw [ha] at h
      cases h
      exact fun h => nomatch h
    | aarch64 =>
      rw [ha] at h
      cases h
      exact fun h => nomatch h
    | other =>
      rw [ha] at h
      cases h
  | _ =>
    rw [hs] at h
    cases h

theorem standing_handleSyscallStop (hA : Aware SC) (hk : s.known s.id) (hb : s.busy s.id)
    {it : Iter} (hit : it.id = s.id) {info : SystemCallInfo}
    (hent : (s.abis s.id).entered = info.enteredAbi env)
    (hnr : (s.abis s.id).nr = info.enteredNr env)
    (hreal : ∀ u ∈ s.uses s.id, u.2 ≠ .unknown ∧ ∃ n, s.num u.1 = some n) :
    Triple (Underway env s s.uses) (handleSyscallStop env it info : Step SC Unit)
      (fun _ => Standing env s.id) fun _ => Resting env := by
  have hraise : Triple (Underway env s s.uses) (handleStateMismatch : Step SC Unit)
      (fun _ => Standing env s.id) fun _ => Resting env := Triple.raise fun _ hv => hv.resting
  apply Triple.bind (underway_triple (Settling.getTracee it.id))
  intro t
  apply Triple.ite
  · intro _
    apply Triple.ite _ fun _ => hraise
    intro _
    apply Triple.bind (underway_triple (settling_changeState it.id _))
    intro _
    exact (underway_handleSystemCallExit hA hk hit info).weaken (fun _ hv => hv)
      (fun _ _ hv => hv.standing fun _ => hk) fun _ _ hv => hv
  · intro _
    apply Triple.ite _ fun _ => hraise
    intro _
    apply Triple.bind (Q := fun info' v =>
      Underway env s s.uses v ∧ info.updateSysNr env = .ok info')
    · intro v hv
      rw [run_lift]
      cases hr : info.updateSysNr env with
      | error e => exact hv.resting
      | ok info' => exact ⟨hv, rfl⟩
    intro info'
    apply Triple.assume
    intro hinfo
    apply Triple.bind
    · exact underway_triple (Settling.modify (fun _ h => h) fun _ => rfl)
    intro _
    apply Triple.bind (underway_triple (settling_changeState it.id _))
    intro _
    rw [enteredAbi_of_ok hinfo] at hent
    rw [enteredNr_of_ok hinfo] at hnr
    exact standing_handleSystemCallEntry hA hk hb hit (abi_ne_unknown hinfo) hent hnr hreal

end Clues
