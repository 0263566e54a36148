import Clues.Engine.Course

/-!
# The effects of each event

* initial stop, system call stops, new children, `execve()`, and the other stops of a tracee, in
  the order of the source;
* `EventLabels`           the labels that handling an event in a given state needs;
* `course_processEvent`   the result for one event.
-/

set_option linter.unusedSectionVars false

namespace Clues

open Lib Lib.Exec Step

variable {SC : Type}

section
variable {env : Env} {a : TraceeId} {L : Labels}

/-! ## the initial ptrace stop -/

theorem does_getRegisters (hL : L .ask) (abi : ABI) :
    Does env a L (getRegisters env a abi : Step SC RegisterSet) := by
  refine Does.bind Does.reading fun t => Does.bind (does_query hL _ _) fun r => ?_
  cases r with
  | some info => exact Does.pure _
  | none => exact Does.raise _

theorem does_getInitialRegisters (hL : L .ask) :
    Does env a L (getInitialRegisters env a : Step SC Unit) := by
  have hset : ∀ abi, Does env a L (do
      let rs ← getRegisters env a abi
      modifyTracee a fun t => { t with initialRegset := rs } : Step SC Unit) := fun abi =>
    Does.bind (does_getRegisters hL abi) fun rs => Does.modify fun _ => rfl
  refine Does.handle ?_ fun e => ?_
  · refine Does.bind (does_getRegisters hL _) fun rs => Does.bind (Does.modify fun _ => rfl)
      fun _ => Along.ite (fun _ => hset _) fun _ => Does.pure _
  · cases e with
    | runtime msg => exact hset _
    | _ => exact Does.raise _

theorem does_initFDs (id : TraceeId) : Does env a L (initFDs env id : Step SC Unit) := by
  refine Along.read_bind fun w hB => ?_
  by_cases hc : (w.procs (w.objs id).processData).fdInfoMap.isEmpty = true
  · rw [if_pos hc]
    refine Does.catchCosmos (Does.bind (Does.lift _) fun infos => ?_) (Does.pure _) w hB
    exact Does.each fun info _ => does_modifyProc _ _
  · rw [if_neg hc]
    exact Does.pure _ w hB

theorem phased_handleAttached {it : Iter} (ha : it.id = a) (hC : LateLabels env L) (hL : L .ask)
    (hA : AddLabels L.late) : Phased env a L (handleAttached env it : Step SC Unit) := by
  subst ha
  have hask : L.early .ask := ⟨hL, rfl⟩
  refine Phased.bind (Does.modify fun _ => rfl) fun _ => Phased.bind Does.reading fun _ => ?_
  refine Phased.bind (Does.when fun _ => Does.modify fun _ => rfl) fun _ => ?_
  refine Phased.bind (does_getInitialRegisters hask) fun _ => Phased.bind (does_initFDs _) fun _ => ?_
  refine Phased.of_late (Does.bind (does_notify rfl (hC.call rfl nofun)) fun _ => ?_)
  refine Does.bind Does.reading fun t => Does.when fun _ => ?_
  refine Does.bind ?_ fun _ => Does.modify fun _ => rfl
  exact Does.catchAll (does_attachThreads hA it) (Does.pure _)

/-! ## system call stops -/

theorem does_startDecode (hL : L .ask) : Does env a L (startDecode env a : Step SC DecodeEnv) :=
  Does.bind Does.reading fun _ =>
    Does.bind (fun _ _ => Eff.single (Eff.ask _ _ (Or.inl hL))) fun _ => Does.reading

theorem does_getCall (c : CallId) : Does env a L (getCall c : Step SC (CallObj SC)) := by
  refine Along.read_bind fun w hB => ?_
  cases w.calls c with
  | some call => exact Does.pure _ w hB
  | none => exact Does.raise _ w hB

theorem does_putCall (c : CallId) (sc : SC) : Does env a L (putCall c sc : Step SC Unit) := by
  intro w _
  refine Eff.single (Eff.tweak
    { tracees := rfl, unknownEvents := rfl, newlyAttachedPid := rfl, log := rfl, nextCall := le_rfl
      calls := fun c' _ => ?_, nextObj := rfl, others := fun _ _ => rfl, vital := rfl
      flag := Or.inr rfl, current := Or.inr rfl, db := fun _ _ h => Or.inr ⟨a, h⟩ })
  show (Function.update w.calls c _ c').map CallObj.requested = _
  by_cases hc : c' = c
  · rw [hc, Function.update_self, Option.map_map]
    rfl
  · rw [Function.update_of_ne hc]

theorem does_derefCall (c : Option CallId) : Does env a L (derefCall c : Step SC CallId) := by
  cases c with
  | some c => exact Does.pure _
  | none => exact Does.raise _

/-- a new system call object gets the number it was requested for -/
theorem newCall_spec (call : CallObj SC) (w : World SC) :
    ∃ w', newCall call w = (.ok w.nextCall, w') ∧ w'.Requested w.nextCall call.requested ∧
      w'.objs = w.objs ∧ ∀ env a L, Eff env a L w w' := by
  refine ⟨_, rfl, ⟨Nat.lt_succ_self _, ?_⟩, rfl, fun env a L => Eff.tweak
    { tracees := rfl, unknownEvents := rfl, newlyAttachedPid := rfl, log := rfl
      nextCall := Nat.le_succ _, calls := fun c hc => ?_, nextObj := rfl, others := fun _ _ => rfl
      vital := rfl, flag := Or.inr rfl, current := Or.inr rfl, db := fun _ _ h => Or.inr ⟨a, h⟩ }⟩
  · show (Function.update w.calls w.nextCall _ w.nextCall).map _ = _
    rw [Function.update_self]
    rfl
  · show (Function.update w.calls w.nextCall _ c).map _ = _
    rw [Function.update_of_ne (ne_of_lt hc)]

section
variable [SyscallOps SC]

theorem does_dbGet (hL : L .ask) (info : SystemCallInfo) :
    Does env a L (dbGet env a info : Step SC CallId) := by
  refine Does.bind Does.reading fun t => ?_
  cases t.syscallDb info.sysNr with
  | some c => exact Does.pure _
  | none =>
    refine Does.bind (does_startDecode hL) fun de => Does.bind (Does.lift _) fun r => ?_
    intro w hB
    obtain ⟨w1, hn, hr, ho, heff⟩ := newCall_spec ⟨info.sysNr, r.1⟩ w
    have heff : Eff env a L w w1 := heff env a L
    rw [run_bind_ok hn]
    refine Relation.ReflTransGen.trans (Eff.single heff) ?_
    refine Along.bind_of (Effs.walk env a L) (heff.base hB) ?_ fun _ w2 _ _ =>
      Relation.ReflTransGen.refl
    unfold Exec.when
    split_ifs
    · refine Eff.single (Eff.tweak (tweak_setObj rfl (Or.inr rfl) (Or.inr rfl) fun nr c hc => ?_))
      by_cases hnr : nr = info.sysNr
      · subst hnr
        have hc' : Function.update (w1.objs a).syscallDb info.sysNr (some w.nextCall) info.sysNr
          = some c := hc
        rw [Function.update_self] at hc'
        exact Or.inl (Option.some.inj hc' ▸ hr)
      · have hc' : Function.update (w1.objs a).syscallDb info.sysNr (some w.nextCall) nr
          = some c := hc
        rw [Function.update_of_ne hnr] at hc'
        exact Or.inr ⟨a, hc'⟩
    · exact Relation.ReflTransGen.refl

theorem does_setEntryInfo (hL : L .ask) (c : CallId) (info : SystemCallInfo) :
    Does env a L (setEntryInfo env a c info : Step SC Unit) := by
  refine Does.bind (does_startDecode hL) fun de => Does.bind (does_getCall c) fun call => ?_
  exact Does.bind (does_putCall _ _) fun _ => Does.lift _

theorem does_setExitInfo (hL : L .ask) (c : CallId) (info : SystemCallInfo) :
    Does env a L (setExitInfo env a c info : Step SC Unit) := by
  refine Does.bind (does_startDecode hL) fun de => Does.bind (does_getCall c) fun call => ?_
  refine Along.read_bind fun w hB => Does.bind (does_putCall _ _) (fun _ => ?_) w hB
  refine Does.bind (does_modifyProc _ _) fun _ => Does.bind (Does.modify fun _ => rfl) fun _ => ?_
  exact Does.lift _

theorem does_tryRecover (hL : L .ask) (hC : L .call) (info : SystemCallInfo) :
    Does env a L (tryRecoverRestartedSystemCall env a info : Step SC Bool) := by
  refine Does.bind Does.reading fun t => ?_
  cases t.getInitialSyscallInfo env info.abi with
  | none => exact Does.pure _
  | some orig =>
    refine Along.ite (fun _ => Does.pure _) fun _ => Does.bind (does_dbGet hL orig) fun c => ?_
    exact Does.bind (Does.setCall hC fun _ _ => rfl) fun _ => Does.pure _

theorem does_checkResumed (hL : L .ask) (hC : L .call) (info : SystemCallInfo) (call : CallObj SC) :
    Does env a L (checkResumed env a info call : Step SC Bool) := by
  refine Does.bind Does.reading fun t => Along.ite (fun _ => ?_) fun _ => ?_
  · cases t.interruptedSyscall with
    | some i => exact Does.bind (Does.setCall hC fun _ _ => rfl) fun _ => Does.pure _
    | none => exact Along.ite (fun _ => Does.pure _) fun _ => does_tryRecover hL hC _
  · cases t.interruptedSyscall with
    | none => exact Does.pure _
    | some i =>
      refine Along.ite (fun _ => Does.bind (does_getCall i) fun c => ?_) fun _ => Does.pure _
      refine Does.bind (Does.modify fun _ => rfl) fun _ => ?_
      exact Does.bind (Does.modify fun _ => rfl) fun _ => Does.pure _

theorem phased_handleSystemCallEntry {it : Iter} (ha : it.id = a) (hC : LateLabels env L)
    (hL : L .ask) (hcall : L .call) (info : SystemCallInfo) :
    Phased env a L (handleSystemCallEntry env it info : Step SC Unit) := by
  subst ha
  have hask : L.early .ask := ⟨hL, rfl⟩
  have hc : L.early .call := ⟨hcall, rfl⟩
  refine Phased.bind (does_dbGet hask _) fun c => ?_
  refine Phased.bind (Does.setCall hc fun _ _ => rfl) fun _ => ?_
  refine Phased.bind (does_getCall c) fun call => Phased.bind (Does.lift _) fun _ => ?_
  refine Phased.bind (does_checkResumed hask hc _ _) fun resumed => Phased.bind Does.reading fun t => ?_
  refine Phased.bind (does_derefCall _) fun c => Phased.bind (does_setEntryInfo hask _ _) fun _ => ?_
  refine Phased.bind (Does.modify fun _ => rfl) fun _ => Phased.of_late ?_
  exact does_notify rfl (hC.call rfl nofun)

theorem does_checkSigreturn (call : CallObj SC) :
    Does env a L (checkSigreturn a call : Step SC Unit) := by
  refine Does.bind Does.reading fun t => Along.ite (fun _ => ?_) fun _ => Does.pure _
  cases SyscallOps.error call.obj with
  | none => exact Does.modify fun _ => rfl
  | some e =>
    exact Along.ite (fun _ => Does.modify fun _ => rfl) fun _ => Does.modify fun _ => rfl

theorem phased_handleSystemCallExit {it : Iter} (ha : it.id = a) (hC : LateLabels env L)
    (hL : L .ask) (hcall : L .call) (info : SystemCallInfo) :
    Phased env a L (handleSystemCallExit env it info : Step SC Unit) := by
  subst ha
  have hask : L.early .ask := ⟨hL, rfl⟩
  have hc : L.late .call := ⟨hcall, rfl⟩
  refine Phased.bind Does.reading fun t => Phased.bind (does_derefCall _) fun c => ?_
  refine Phased.bind (does_setExitInfo hask _ _) fun _ => Phased.bind (does_getCall c) fun call => ?_
  refine Phased.bind (Does.when fun _ => Does.modify fun _ => rfl) fun _ => Phased.of_late ?_
  refine Does.bind (does_notify rfl (hC.call rfl nofun)) fun _ => ?_
  exact Does.bind (does_checkSigreturn _) fun _ => Does.setCall hc fun _ _ => rfl

/-- the labels of handling a system call stop -/
structure SyscallLabels (L : Labels) : Prop where
  ask : L .ask
  revive : L .revive
  flag : L .flag
  call : L .call

theorem phased_handleSyscallStop {it : Iter} (ha : it.id = a) (hC : LateLabels env L)
    (hL : SyscallLabels L) (info : SystemCallInfo) :
    Phased env a L (handleSyscallStop env it info : Step SC Unit) := by
  subst ha
  have hstate : ∀ s : State, s.isEnded = false →
      Does env it.id L.early (changeState env it.id s : Step SC Unit) := fun s hs =>
    does_changeState hs ⟨hL.revive, rfl⟩ fun _ => ⟨hL.flag, rfl⟩
  refine Phased.bind Does.reading fun t => Along.ite (fun _ => ?_) fun _ => ?_
  · refine Along.ite (fun _ => ?_) fun _ => Phased.of_early (Does.raise _)
    exact Phased.bind (hstate _ rfl) fun _ => phased_handleSystemCallExit rfl hC hL.ask hL.call _
  · refine Along.ite (fun _ => ?_) fun _ => Phased.of_early (Does.raise _)
    refine Phased.bind (Does.lift _) fun info => Phased.bind (Does.modify fun _ => rfl) fun _ => ?_
    exact Phased.bind (hstate _ rfl) fun _ => phased_handleSystemCallEntry rfl hC hL.ask hL.call _

theorem does_saySyscallStop (hL : L .flag) (info : SystemCallInfo) :
    Does env a L (saySyscallStop env a info : Step SC Unit) := by
  have hs : ∀ nr, Says a L (.syscallEntered a nr) := fun _ => ⟨rfl, hL⟩
  have hx : Says a L (.syscallExited a) := ⟨rfl, hL⟩
  unfold saySyscallStop
  cases info.stop with
  | entry e =>
    cases info.updateSysNr env with
    | ok info => exact Does.say (hs _)
    | error e => exact Does.say (hs _)
  | exit e => exact Does.say hx
  | none => exact Does.pure _
  | seccomp => exact Does.pure _

theorem phased_handleSystemCall {it : Iter} (ha : it.id = a) (hC : LateLabels env L)
    (hL : SyscallLabels L) : Phased env a L (handleSystemCall env it : Step SC Unit) := by
  subst ha
  have hask : L.early .ask := ⟨hL.ask, rfl⟩
  have hflag : L.early .flag := ⟨hL.flag, rfl⟩
  refine Phased.bind (Does.modify fun _ => rfl) fun _ => Phased.bind Does.reading fun t => ?_
  refine Phased.bind (does_query hask _ _) fun r => Phased.bind (Does.modify fun _ => rfl) fun _ => ?_
  refine Phased.bind (does_saySyscallStop hflag _) fun _ => ?_
  exact Phased.seq (phased_handleSyscallStop rfl hC hL _) fun _ => Does.modify fun _ => rfl

end

/-! ## new children -/

theorem getCall_state (c : CallId) (w : World SC) : (getCall c w).2 = w := by
  unfold getCall
  rw [run_read_bind]
  cases w.calls c <;> rfl

section
variable [SyscallOps SC]

theorem hasClonedThread_state (id : TraceeId) (w : World SC) : (hasClonedThread id w).2 = w := by
  unfold hasClonedThread
  rw [run_bind_ok (run_getTracee id w)]
  cases (w.objs id).currentSyscall with
  | none => rfl
  | some c =>
    show ((getCall c >>= fun call => lift _ : Step SC Bool) w).2 = w
    have h := getCall_state c w
    rw [run_bind]
    cases hg : getCall c w with
    | mk r w' =>
      rw [hg] at h
      cases r <;> exact h

theorem readies_configure (id : TraceeId) (pid : ProcessID) (call : CallObj SC) :
    Along (fun _ : World SC => True) (Readies id) (configure id pid call : Step SC Unit) := by
  have hp : Walk (fun _ : World SC => True) _ := Readies.walk id
  have hunshare : Along (fun _ : World SC => True) (Readies id) (unshareProcessData id) := by
    refine fun w _ => ⟨⟨rfl, rfl, rfl, rfl, rfl, rfl, fun id' hi => Function.update_of_ne hi ..,
      fun nr c hdb => ?_, [], (List.append_nil w.log).symm, by simp⟩,
      [], (List.append_nil w.log).symm, by simp⟩
    have hdb' : (Function.update w.objs id { w.objs id with processData := w.nextProc }
      id).syscallDb nr = some c := hdb
    rwa [Function.update_self] at hdb'
  refine Along.bind hp (readies_modify fun _ => rfl) fun _ =>
    Along.bind hp (readies_modify fun _ => rfl) fun _ => ?_
  refine Along.bind hp (Along.lift hp _) fun shares => ?_
  exact Along.ite (fun _ => hunshare) fun _ => Along.pure hp _

/-- a new object is configured: it gets its PID and maybe process data of its own -/
theorem configure_ok {id : TraceeId} {pid pid' : ProcessID} {call : CallObj SC} {w w' : World SC}
    (h : Loose id pid' w) (hc : configure id pid call w = (.ok (), w')) :
    Readies id w w' ∧ Loose id pid w' := by
  have hw' : Readies id w w' := by
    have hr' := readies_configure id pid call w trivial
    rwa [hc] at hr'
  refine ⟨hw', h.of_tracees hw'.1.tracees hw'.1.nextObj.ge ?_⟩
  -- the object that comes out
  have hb := h.birth
  unfold Tracee.birth at hb
  simp only [Prod.mk.injEq] at hb
  unfold configure at hc
  have hset' : setPID id pid w = (.ok (), w.setObj id { w.objs id with ptrace := pid }) := rfl
  rw [run_bind_ok hset', run_bind_ok (run_setFlags id _ _)] at hc
  simp only [World.setObj_setObj, World.setObj_self] at hc
  generalize ho : ({ w.objs id with ptrace := pid
                                    flags := { (w.objs id).flags with waitForAttachStop := true } } :
    Tracee) = t at hc
  have hbt : t.birth = (pid, false, false, false) := by
    rw [← ho]
    show (pid, (w.objs id).ended, (w.objs id).flags.syscallEntered,
      (w.objs id).flags.waitForExited) = _
    rw [hb.2.1, hb.2.2.1, hb.2.2.2]
  cases hs : SyscallOps.sharesFiles call.obj with
  | error e =>
    rw [hs] at hc
    cases hc
  | ok shares =>
    rw [hs] at hc
    have hc' : (if (!shares) = true then unshareProcessData id else pure () : Step SC Unit)
        (w.setObj id t) = (.ok (), w') := hc
    cases shares with
    | true =>
      rw [← (Prod.mk.inj hc').2, World.setObj_self]
      exact hbt
    | false =>
      rw [← (Prod.mk.inj hc').2]
      show (Function.update (w.setObj id t).objs id _ id).birth = _
      rw [Function.update_self, World.setObj_self]
      exact hbt

theorem effs_indexTracee (hL : L .orphan) (w : World SC) :
    Effs env a L w (indexTracee (w.objs a).ptrace w).2 := by
  cases hk : w.tracees.find? (w.objs a).ptrace with
  | none => exact Eff.single (Eff.addNull hL hk)
  | some e =>
    have hsame : w.tracees.insert (w.objs a).ptrace none = w.tracees := by
      refine OrdMap.ext_find fun k => ?_
      rw [OrdMap.find?_insert]
      by_cases hkk : k = (w.objs a).ptrace
      · rw [if_pos hkk, hkk, hk]
        rfl
      · rw [if_neg hkk]
    exact Eff.single (Eff.tweak
      { tracees := hsame, unknownEvents := rfl, newlyAttachedPid := rfl, log := rfl
        nextCall := le_rfl, calls := fun _ _ => rfl, nextObj := rfl, others := fun _ _ => rfl
        vital := rfl, flag := Or.inr rfl, current := Or.inr rfl
        db := fun _ _ h => Or.inr ⟨a, h⟩ })

/-- the new object is in `m_tracees` now, or nowhere -/
theorem insertTracee_where {id : TraceeId} {pid : ProcessID} {w w' : World SC}
    (h : Loose id pid w) {r : Except Exc Unit} (hr : insertTracee pid id w = (r, w')) :
    (w'.tracees.find? pid = some (some id) ∨ ¬ w'.Tracked id) ∧ w'.nextObj = w.nextObj := by
  unfold insertTracee at hr
  rw [run_read_bind] at hr
  cases hk : w.tracees.find? pid with
  | none =>
    rw [hk] at hr
    rw [← (Prod.mk.inj hr).2]
    exact ⟨Or.inl (OrdMap.find?_set_self _ _ _), rfl⟩
  | some e =>
    rw [hk] at hr
    rw [← (Prod.mk.inj hr).2]
    exact ⟨Or.inr h.untracked, rfl⟩

theorem effs_insertTracee {id : TraceeId} {pid : ProcessID} {w : World SC} (hL : L .add)
    (h : Loose id pid w) : Effs env a L w (insertTracee pid id w).2 := by
  unfold insertTracee
  rw [run_read_bind]
  cases hk : w.tracees.find? pid with
  | none => exact effs_putTracee h hL hk
  | some e => exact Relation.ReflTransGen.refl

/-- the PID of a new child is not that of its parent -/
structure Apart (env : Env) (L : Labels) (it : Iter) (w : World SC) (pid : ProcessID) : Prop where
  law : L .attach → NoReattach env
  contains : w.contains it
  ne : pid ≠ it.key

theorem effs_tellNewChild {it : Iter} {w : World SC} (hB : Base w) (hC : LateLabels env L)
    (pid : ProcessID) (event : PtraceEvent) (child : TraceeId) (thread : Bool)
    (hpid : L .drop ∨ Apart env L it w pid) :
    Effs env it.id L.late w (tellNewChild env it pid event child thread w).2 := by
  have hn : Does env it.id L.late (notify env it
      (.newChildProcess it.id child event { clonedThread := thread }) : Step SC Unit) :=
    does_notify rfl (hC.call rfl nofun)
  refine Along.bind_of (Effs.walk env it.id L.late) hB (hn w hB) fun _ w1 h1 hB1 => ?_
  refine effs_checkCleanupTracee hB1 ⟨hC.ending, rfl⟩ ?_
  by_cases hd : L .drop
  · exact Or.inl ⟨hd, rfl⟩
  · have hap := hpid.resolve_left hd
    have hnw := hn w hB
    rw [h1] at hnw
    have hc1 : w1.tracees.find? it.key = some (some it.id) :=
      hnw.contained (fun h => hd h.1) (fun h => hap.law h.1) hap.contains
    exact Or.inr fun hk => hap.ne (hB1.inj hk hc1)

theorem course_addAutoAttached {it : Iter} {w : World SC} (hB : Base w) (hC : LateLabels env L)
    (hA : L .add) (hO : L .orphan) (pid : ProcessID) (event : PtraceEvent) (call : CallObj SC)
    (hpid : L .drop ∨ Apart env L it w pid) :
    Course env it.id L w (addAutoAttached env it pid event call w).2 := by
  have hp : Walk (Base : World SC → Prop) _ := Effs.walk env it.id L.early
  unfold addAutoAttached
  rw [run_bind_ok (run_getTracee it.id w)]
  have hindex : Effs env it.id L.early w (indexTracee (w.objs it.id).ptrace w).2 :=
    effs_indexTracee ⟨hO, rfl⟩ w
  refine Course.bind_of hB hindex fun sibling w1 h1 hB1 => ?_
  rw [show (indexTracee (w.objs it.id).ptrace w).2 = w1 from congrArg Prod.snd h1] at hindex
  obtain ⟨w2, hnew, heff, hl2, -, -, -⟩ := newTracee_spec .autoAttached sibling hB1
  have heff : Eff env it.id L.early w1 w2 := heff env it.id _
  rw [run_bind_ok hnew]
  refine Course.after (Eff.single heff) ?_
  have hconf : Effs env it.id L.early w2 (configure w1.nextObj pid call w2).2 :=
    effs_ready (readies_configure _ _ _) hl2
  refine Course.bind_of (heff.base hB1) hconf fun _ w3 h3 hB3 => ?_
  rw [h3] at hconf
  obtain ⟨-, hl3⟩ := configure_ok hl2 h3
  have hins : Effs env it.id L.early w3 (insertTracee pid w1.nextObj w3).2 :=
    effs_insertTracee ⟨hA, rfl⟩ hl3
  refine Course.bind_of hB3 hins fun _ w4 h4 hB4 => ?_
  rw [h4] at hins
  obtain ⟨hw4, hn4⟩ := insertTracee_where hl3 h4
  have h5 := hasClonedThread_state it.id w4
  refine Course.bind_of hB4 (h5.symm ▸ hp.refl w4) fun thread w5 hw5 hB5 => ?_
  obtain rfl : w4 = w5 := h5.symm.trans (congrArg Prod.snd hw5)
  refine Course.bind_of hB5 (does_entryTracee pid w4 hB5) fun child w6 h6 hB6 => ?_
  obtain ⟨hk6, rfl⟩ := entryTracee_ok h6
  have hall : Effs env it.id L.early w w6 :=
    hp.trans hindex (hp.trans (Eff.single heff) (hp.trans hconf hins))
  have hpid6 : L .drop ∨ Apart env L it w6 pid := hpid.imp_right fun h =>
    ⟨h.law, hall.contained_early h.contains, h.ne⟩
  have htell := effs_tellNewChild hB6 hC pid event child thread hpid6
  refine Course.of_late (Along.bind_of (Effs.walk env it.id L.late) hB6 htell fun _ w7 h7 hB7 => ?_)
  rw [h7] at htell
  unfold Exec.when
  split_ifs with hchild
  · -- the new object was not put into `m_tracees`, and the consumer puts nothing there
    have hnot : ¬ w6.Tracked w1.nextObj := by
      refine hw4.resolve_left fun hkid => hchild ?_
      rw [hkid] at hk6
      exact (Option.some.inj (Option.some.inj hk6)).symm
    have hlt : w1.nextObj < w6.nextObj := hn4 ▸ hl3.lt
    have htell' : Effs env it.id (Labels.late fun l => l = .ending ∨ l = .drop) w6
        (tellNewChild env it pid event child thread w6).2 :=
      effs_tellNewChild hB6 ⟨Or.inl rfl, Or.inl (Or.inr rfl)⟩ pid event child thread
        (Or.inl (Or.inr rfl))
    rw [h7] at htell'
    have hadd : ¬ (Labels.late fun l => l = .ending ∨ l = .drop) .add := fun h => by
      obtain ⟨h | h, -⟩ := h <;> cases h
    exact letting_destroy.effs (lt_of_lt_of_le hlt htell'.nextObj_le) (htell'.untracked hadd hnot)
      fun _ => ⟨hC.ending, rfl⟩
  · exact Relation.ReflTransGen.refl

theorem does_completeVfork {it : Iter} (ha : it.id = a) (hC : LateLabels env L)
    (pid : ProcessID) : Does env a L.late (completeVfork env it pid : Step SC Unit) := by
  refine Along.read_bind fun w hB => ?_
  have hn : Does env a L.late
      (notify env it (.vforkComplete it.id (w.tracees.find? pid).join) : Step SC Unit) :=
    does_notify ha (hC.call rfl nofun)
  exact hn w hB

/-- the labels of handling the announcement of a child -/
structure ChildLabels (env : Env) (L : Labels) : Prop extends LateLabels env L where
  add : L .add
  orphan : L .orphan
  announce : L .announce
  ask : L .ask

theorem course_handleAutoAttach {it : Iter} {w : World SC} (hB : Base w) (hC : ChildLabels env L)
    (pid : ProcessID) (event : PtraceEvent) (call : CallObj SC)
    (hpid : L .drop ∨ Apart env L it w pid) :
    Course env it.id L w (handleAutoAttach env it pid event call w).2 := by
  unfold handleAutoAttach
  refine Course.seq_of hB ?_ fun _ w1 _ _ => Eff.single (Eff.newly pid ⟨hC.announce, rfl⟩)
  split_ifs
  · exact course_addAutoAttached hB hC.toLateLabels hC.add hC.orphan pid event call hpid
  · exact Course.of_late (does_completeVfork rfl hC.toLateLabels pid w hB)

theorem derefCurrent_state (id : TraceeId) (w : World SC) : (derefCurrent id w).2 = w := by
  unfold derefCurrent
  rw [run_bind_ok (run_getTracee id w)]
  cases (w.objs id).currentSyscall with
  | none => rfl
  | some c => exact getCall_state c w

/-- the message can be read, and the call of the tracee exists -/
theorem calledFrom_ok {id : TraceeId} {w v : World SC} {r : ProcessID × CallObj SC}
    (h : calledFrom env id w = (.ok r, v)) :
    r.1 = env.pidEventMsg w.log (w.objs id).ptrace ∧
      v = w.say (.request id (.getPIDEventMsg (w.objs id).ptrace) none) := by
  have hpid : ∀ {pid u}, (getPIDEventMsg env id : Step SC ProcessID) w = (.ok pid, u) →
      pid = env.pidEventMsg w.log (w.objs id).ptrace ∧
        u = w.say (.request id (.getPIDEventMsg (w.objs id).ptrace) none) := by
    intro pid u hu
    unfold getPIDEventMsg at hu
    rw [run_bind_ok (run_getTracee id w)] at hu
    exact (query_ok hu).2
  unfold calledFrom at h
  split_ifs at h
  · obtain ⟨call, w1, h1, h⟩ := of_bind_ok h
    obtain ⟨pid, w2, h2, h⟩ := of_bind_ok h
    cases h
    have hw1 : w1 = w := (congrArg Prod.snd h1).symm.trans (derefCurrent_state id w)
    subst hw1
    exact hpid h2
  · obtain ⟨pid, w1, h1, h⟩ := of_bind_ok h
    obtain ⟨call, w2, h2, h⟩ := of_bind_ok h
    cases h
    obtain ⟨rfl, rfl⟩ := hpid h1
    exact ⟨rfl, (congrArg Prod.snd h2).symm.trans (derefCurrent_state id _)⟩

theorem does_calledFrom (hL : L .ask) (id : TraceeId) :
    Does env id L (calledFrom env id : Step SC (ProcessID × CallObj SC)) := by
  have hpid : Does env id L (getPIDEventMsg env id : Step SC ProcessID) :=
    Does.bind Does.reading fun t => does_query hL _ _
  have hcall : Does env id L (derefCurrent id : Step SC (CallObj SC)) :=
    Does.bind Does.reading fun t => Does.bind (does_derefCall _) fun c => does_getCall c
  unfold calledFrom
  split_ifs
  · exact Does.bind hcall fun call => Does.bind hpid fun pid => Does.pure _
  · exact Does.bind hpid fun pid => Does.bind hcall fun call => Does.pure _

theorem course_handleNewChildEvent {it : Iter} {w : World SC} (hB : Base w)
    (hC : ChildLabels env L) (event : PtraceEvent)
    (hpid : L .drop ∨ Apart env L it w (env.pidEventMsg w.log (w.objs it.id).ptrace)) :
    Course env it.id L w (handleNewChildEvent env it event w).2 := by
  have hask : L.early .ask := ⟨hC.ask, rfl⟩
  refine Course.bind_of hB (does_calledFrom hask it.id w hB) fun r w1 h1 hB1 => ?_
  obtain ⟨hr, rfl⟩ := calledFrom_ok h1
  refine course_handleAutoAttach hB1 hC r.1 event r.2 (hpid.imp_right fun h => ?_)
  rw [hr]
  exact ⟨h.law, h.contains, h.ne⟩

end

/-! ## execve -/

theorem detachReplaced_state (id : TraceeId) (w : World SC) :
    (detachReplaced env id w).2 = (detach env id w).2 := by
  show (handle (detach env id >>= fun _ => pure ()) _ w).2 = _
  unfold Exec.handle
  rw [run_bind]
  cases detach env id w with
  | mk r w' =>
    cases r with
    | ok b => rfl
    | error e =>
      cases e with
      | api errno =>
        show ((if errno ≠ Errno.search then raise (.api errno) else pure () : Step SC Unit) w').2 = w'
        split_ifs <;> rfl
      | _ => rfl

/-- the object that is replaced is detached from and taken out of `m_tracees` -/
theorem effs_handleSubstitution {w : World SC} (hB : Base w) {pid : ProcessID}
    (h : ∀ id, w.tracees.find? pid = some (some id) → Excused w.log id ∧ id ≠ a) :
    Effs env a L w (handleSubstitution env pid w).2 := by
  have hp : Walk (Base : World SC → Prop) _ := Effs.walk env a L
  unfold handleSubstitution
  rw [run_read_bind]
  cases hk : w.tracees.find? pid with
  | none => exact hp.refl w
  | some e =>
    refine Along.bind_of hp hB (does_entryTracee pid w hB) fun old w1 he hB1 => ?_
    obtain ⟨hk1, rfl⟩ := entryTracee_ok he
    obtain ⟨hex, hne⟩ := h old hk1
    have hm : MayEnd a L w1 old := ⟨hB1.fresh hk1, fun ha => absurd ha hne, Or.inr (Or.inl hex)⟩
    have hrep : Effs env a L w1 (detachReplaced env old w1).2 := by
      rw [detachReplaced_state]
      exact effs_detach hm
    refine Along.bind_of hp hB1 hrep fun _ w2 h2 hB2 => ?_
    have hl : Lets env True old w1 w2 := by
      have hl : Lets env True old w1 (detachReplaced env old w1).2 := by
        rw [detachReplaced_state]
        exact letting_detach w1 trivial
      rwa [h2] at hl
    obtain ⟨es, hes, -⟩ := hl.log
    refine Along.bind_of hp hB2 (effs_extractTracee fun id hid => Or.inl ?_) fun _ w3 _ _ => hp.refl w3
    rw [hl.tracees, hk1] at hid
    obtain rfl : old = id := Option.some.inj (Option.some.inj hid)
    exact ⟨⟨hl.nextObj ▸ hm.lt, hm.own, Or.inr (Or.inl (hes ▸ hex.append es))⟩,
      fun ha => absurd ha hne⟩

/-- what is left when the tracee of another thread was replaced -/
theorem handleSubstitution_some {w w' : World SC} {pid : ProcessID} {old : TraceeId}
    (h : handleSubstitution env pid w = (.ok (some old), w')) :
    ∃ w1, Lets env True old w w1 ∧ w.tracees.find? pid = some (some old) ∧
      w' = ({ w1 with tracees := w1.tracees.erase pid } : World SC).say (.untracked pid old) := by
  unfold handleSubstitution at h
  rw [run_read_bind] at h
  cases hk : w.tracees.find? pid with
  | none => rw [hk] at h; cases h
  | some e =>
    rw [hk] at h
    have h' : (entryTracee pid >>= fun old => do
        detachReplaced env old
        let _ ← extractTracee pid
        pure (some old) : Step SC _) w = (.ok (some old), w') := h
    rw [run_bind] at h'
    cases he : entryTracee pid w with
    | mk r w0 =>
      rw [he] at h'
      cases r with
      | error e => cases h'
      | ok i =>
        obtain ⟨hk0, rfl⟩ := entryTracee_ok he
        rw [hk] at hk0
        obtain rfl : e = some i := Option.some.inj hk0
        have h1 : (detachReplaced env i >>= fun _ => do
          let _ ← extractTracee pid
          pure (some i) : Step SC _) w0 = (.ok (some old), w') := h'
        rw [run_bind] at h1
        have hl : Lets env True i w0 (detachReplaced env i w0).2 := by
          rw [detachReplaced_state]
          exact letting_detach w0 trivial
        cases hd : detachReplaced env i w0 with
        | mk r w1 =>
          rw [hd] at h1 hl
          cases r with
          | error e => cases h1
          | ok u =>
            have hk1 : w1.tracees.find? pid = some (some i) := by rw [hl.tracees]; exact hk
            have h2 : (extractTracee pid >>= fun _ => pure (some i) : Step SC _) w1
                = (.ok (some old), w') := h1
            rw [run_bind_ok (run_extractTracee_some hk1)] at h2
            obtain ⟨hr, hw⟩ := Prod.mk.inj h2
            obtain rfl : i = old := Option.some.inj (Except.ok.inj hr)
            exact ⟨w1, hl, rfl, hw.symm⟩

/-- the state of an object that is not in `m_tracees` any more is taken over -/
theorem effs_syncState {other : TraceeId} {w : World SC} (hB : Base w) (hL : L .call)
    (hlt : other < w.nextObj) (h : ¬ w.Tracked other) (hne : other ≠ a) :
    Effs env a L w (syncState env a other w).2 := by
  have hp : Walk (Base : World SC → Prop) _ := Effs.walk env a L
  unfold syncState
  rw [run_bind_ok (run_getTracee other w), run_bind_ok (run_modifyTracee a _ w)]
  have htake : Eff env a L w (w.setObj a { w.objs a with
      syscallInfo := (w.objs other).syscallInfo
      syscallDb := (w.objs other).syscallDb
      currentSyscall := (w.objs other).currentSyscall
      interruptedSyscall := (w.objs other).interruptedSyscall
      syscallCtr := (w.objs other).syscallCtr }) :=
    Eff.tweak (tweak_setObj rfl (Or.inr rfl) (Or.inl hL) fun nr c hc => Or.inr ⟨other, hc⟩)
  have hB1 := htake.base hB
  refine hp.trans (Eff.single htake) ?_
  generalize hw1 : w.setObj a { w.objs a with
      syscallInfo := (w.objs other).syscallInfo
      syscallDb := (w.objs other).syscallDb
      currentSyscall := (w.objs other).currentSyscall
      interruptedSyscall := (w.objs other).interruptedSyscall
      syscallCtr := (w.objs other).syscallCtr } = w1 at hB1
  have hlet : Letting env True other (do
      modifyTracee other fun o => { o with syscallDb := fun _ => none }
      changeState env other .dead : Step SC Unit) := by
    refine Along.bind (Lets.walk env True other) (letting_modify fun t => ?_) fun _ => letting_dead
    exact ⟨⟨fun h => h, Or.inl rfl, rfl, fun _ _ h => nomatch h⟩, rfl, fun h => ⟨h.1, h.2, h.3⟩⟩
  refine hlet.effs ?_ ?_ fun ha => absurd ha hne
  · rw [← hw1]
    exact hlt
  · rw [← hw1]
    exact h

theorem effs_replaceLeader {it : Iter} {mainPid formerPid : ProcessID} (ha : it.id = a)
    (hL : L (.exec mainPid)) (hcall : L .call) {w : World SC} (hB : Base w)
    (h : ∀ id, w.tracees.find? formerPid = some (some id) → Excused w.log id ∧ id ≠ a) :
    Effs env a L w (replaceLeader env it mainPid formerPid w).2 := by
  have hp : Walk (Base : World SC → Prop) _ := Effs.walk env a L
  subst ha
  refine Along.bind_of hp hB (effs_handleSubstitution hB h) fun r w1 h1 hB1 => ?_
  cases r with
  | none => exact Eff.single (Eff.setPID mainPid hL)
  | some old =>
    obtain ⟨w0, hl, hk, hw1⟩ := handleSubstitution_some h1
    have hne := (h old hk).2
    have hk0 : w0.tracees.find? formerPid = some (some old) := by rw [hl.tracees]; exact hk
    have hlt0 : old < w0.nextObj := hl.nextObj ▸ hB.fresh hk
    have hnt : ¬ w1.Tracked old := by
      rw [hw1]
      exact untracked_after_remove (hB.of_onObj (hB.fresh hk) hl.toOnObj) hk0 _
    have hlt : old < w1.nextObj := by
      rw [hw1]
      exact hlt0
    refine Along.bind_of hp hB1 (effs_syncState hB1 hcall hlt hnt hne) fun _ w2 h2 hB2 => ?_
    have hsync : Effs env it.id (fun l => l = .call) w1 (syncState env it.id old w1).2 :=
      effs_syncState hB1 rfl hlt hnt hne
    rw [h2] at hsync
    exact letting_destroy.effs (lt_of_lt_of_le hlt hsync.nextObj_le)
      (hsync.untracked (fun h => nomatch h) hnt) fun ha => absurd ha hne

theorem does_dropClosedFDs (id : TraceeId) :
    Does env a L (dropClosedFDs env id : Step SC Unit) := by
  refine Along.read_bind fun w hB => ?_
  cases env.openFds w.log (w.objs id).ptrace with
  | ok left => exact does_modifyProc _ _ w hB
  | error e => exact Does.pure _ w hB

/-- the labels of handling `execve()` -/
structure ExecLabels (env : Env) (L : Labels) (mainPid : ProcessID) : Prop
    extends LateLabels env L where
  exec : L (.exec mainPid)
  call : L .call
  ask : L .ask

theorem course_handleExecEvent {it : Iter} {w : World SC} (hB : Base w)
    (hC : ExecLabels env L it.key) (hk : w.contains it) :
    Course env it.id L w (handleExecEvent env it it.key w).2 := by
  have hp : Walk (Base : World SC → Prop) _ := Effs.walk env it.id L.early
  have hask : L.early .ask := ⟨hC.ask, rfl⟩
  unfold handleExecEvent
  rw [run_read_bind]
  refine Course.bind_of hB (does_query hask _ _ w hB) fun formerPid w1 h1 hB1 => ?_
  obtain ⟨-, -, rfl⟩ := query_ok h1
  have hs : Says it.id L.early (.execed it.id formerPid
      (if formerPid ≠ it.key then (w.tracees.find? formerPid).join else none)) :=
    ⟨rfl, it.key, hC.exec, rfl⟩
  rw [run_bind_ok (run_say _ _)]
  refine Course.after (Eff.single (Eff.say hs)) ?_
  have hB2 : Base ((w.say (.request it.id (.getPIDEventMsg it.key) none)).say
      (.execed it.id formerPid
        (if formerPid ≠ it.key then (w.tracees.find? formerPid).join else none))) :=
    hB1.say rfl fun _ => nofun
  have hsaid : formerPid ≠ it.key → ∀ id, w.tracees.find? formerPid = some (some id) →
      .execed it.id formerPid (some id) ∈ ((w.say (.request it.id (.getPIDEventMsg it.key) none)).say
        (.execed it.id formerPid
          (if formerPid ≠ it.key then (w.tracees.find? formerPid).join else none))).log := by
    intro hne id hid
    rw [if_pos hne, hid]
    exact List.mem_append_right _ (List.mem_singleton.mpr rfl)
  have htracees : ((w.say (.request it.id (.getPIDEventMsg it.key) none)).say
      (.execed it.id formerPid
        (if formerPid ≠ it.key then (w.tracees.find? formerPid).join else none))).tracees
      = w.tracees := rfl
  generalize (w.say (.request it.id (.getPIDEventMsg it.key) none)).say
      (.execed it.id formerPid
        (if formerPid ≠ it.key then (w.tracees.find? formerPid).join else none)) = v
    at hB2 hsaid htracees ⊢
  refine Course.bind_of hB2 ?_ fun _ w2 _ hB3 => ?_
  · unfold Exec.when
    split_ifs with hne
    · refine effs_replaceLeader rfl ⟨hC.exec, rfl⟩ ⟨hC.call, rfl⟩ hB2 fun id hid => ?_
      rw [htracees] at hid
      refine ⟨Or.inr ⟨it.id, formerPid, hsaid hne id hid⟩, fun ha => hne ?_⟩
      subst ha
      exact hB.inj hid hk
    · exact hp.refl _
  · refine Phased.bind (does_updateExecInfo _) (fun _ => ?_) w2 hB3
    exact Phased.bind (does_dropClosedFDs _) fun _ =>
      Phased.of_late (does_notify rfl (hC.toLateLabels.call rfl nofun))

/-! ## stops -/

theorem phased_handleSignal {it : Iter} (ha : it.id = a) (hC : LateLabels env L) (signal : Signal) :
    Phased env a L (handleSignal env it signal : Step SC Unit) := by
  subst ha
  refine Phased.bind Does.reading fun t => Along.ite (fun _ => ?_) fun _ => ?_
  · exact Phased.of_early (Does.modify fun _ => rfl)
  · exact Phased.of_late (does_notify rfl (hC.call rfl nofun))

theorem phased_handleStopEvent {it : Iter} (ha : it.id = a) (hC : LateLabels env L)
    (hA : AddLabels L.late) (hask : L .ask) (hR : L .revive) (signal : Signal) :
    Phased env a L (handleStopEvent env it signal : Step SC Unit) := by
  refine Phased.bind Does.reading fun t =>
    Along.ite (fun _ => phased_handleAttached ha hC hask hA) fun _ => ?_
  subst ha
  have hstate : Does env it.id L.early (changeState env it.id .groupStop : Step SC Unit) :=
    does_changeState rfl ⟨hR, rfl⟩ nofun
  refine Along.ite (fun _ => ?_) fun _ => Along.ite (fun _ => ?_) fun _ => ?_
  · refine Phased.bind hstate fun _ => Phased.bind (Does.modify fun _ => rfl) fun _ => ?_
    exact Phased.of_late (does_notify rfl (hC.call rfl nofun))
  · exact Phased.of_early (Does.modify fun _ => rfl)
  · exact Phased.of_early (Does.pure _)

theorem phased_handleSignalStop {it : Iter} (ha : it.id = a) (hC : LateLabels env L)
    (hask : L .ask) (hR : L .revive) (signal : Signal) :
    Phased env a L (handleSignalStop env it signal : Step SC Unit) := by
  subst ha
  refine Phased.bind (does_changeState rfl ⟨hR, rfl⟩ nofun) fun _ => Phased.bind Does.reading fun t => ?_
  refine Phased.bind (does_query ⟨hask, rfl⟩ _ _) fun info => ?_
  exact Phased.seq (phased_handleSignal rfl hC info) fun _ => Does.modify fun _ => rfl

/-- the restart of a tracee that is not ended; a resumed one is steady -/
theorem does_restartTracee {it : Iter} (ha : it.id = a) (hC : LateLabels env L) :
    Does env a L.late (restartTracee env it : Step SC Unit) := by
  subst ha
  have hp : Walk (Base : World SC → Prop) _ := Effs.walk env it.id L.late
  intro w hB
  unfold restartTracee
  rw [run_bind_ok (run_getTracee it.id w)]
  by_cases hend : (w.objs it.id).state = .dead ∨ (w.objs it.id).state = .detached
  · rw [if_pos hend]
    exact hp.refl w
  rw [if_neg hend]
  have hlive : (w.objs it.id).ended = false := by
    unfold Tracee.ended State.isEnded
    simpa [not_or] using hend
  have hreq : Effs env it.id L.late w (request env it.id
      (.restart (w.objs it.id).ptrace (w.objs it.id).restartMode (w.objs it.id).injectSig) w).2 := by
    rw [run_request]
    exact Eff.single (Eff.ask _ _ (Or.inr hlive))
  refine Along.bind_of hp hB hreq fun _ w1 h1 hB1 => ?_
  rw [run_request] at h1
  obtain ⟨hok, hw1⟩ := Prod.mk.inj h1
  have hobj : w1.objs = w.objs := by rw [← hw1]; rfl
  split_ifs
  · have hrun : changeState env it.id .running w1
        = (.ok (), w1.setObj it.id ((w1.objs it.id).moveTo .running)) := rfl
    have hmove : Eff env it.id L.late w1 (w1.setObj it.id ((w1.objs it.id).moveTo .running)) :=
      eff_moveTo rfl (Or.inr (by rw [hobj]; exact hlive))
    rw [run_bind_ok hrun]
    refine hp.trans (Eff.single hmove) ?_
    have hB2 := hmove.base hB1
    unfold Exec.when
    split_ifs
    · refine hC.drop.elim (fun hd => ?_) fun hg => ?_
      · have hcall : CallLabels env L.late (.resumed it.id) :=
          ⟨⟨hC.ending, rfl⟩, (fun h => by cases h), Or.inl ⟨hd, rfl⟩⟩
        exact does_notify rfl hcall _ hB2
      · refine effs_notify_steady hg.law hB2 ⟨Or.inl ?_, ?_⟩ rfl ⟨hC.ending, rfl⟩
          fun h => by cases h
        · rw [World.setObj_self]
          rfl
        · rw [World.setObj_self]
          show (w1.objs it.id).ptrace ≠ ProcessID.invalid
          rw [hobj]
          -- an object without a PID cannot be restarted
          intro hinv
          rw [hinv] at hok
          cases hr : env.request w.log (.restart ProcessID.invalid (w.objs it.id).restartMode
              (w.objs it.id).injectSig) with
          | none => exact hg.restart _ _ _ hr
          | some e => rw [hr] at hok; cases hok
    · exact hp.refl _
  · exact hp.refl _

/-! ## one event -/

/-- the event announces a new child, or the end of a `vfork()` -/
def PtraceEvent.isNewChild : PtraceEvent → Bool
  | .fork | .vfork | .clone | .vforkDone => true
  | _ => false

/-- the labels of handling an event for the tracee of `it`, in the state `w` -/
structure EventLabels (env : Env) (L : Labels) (it : Iter) (data : ChildState) (w : World SC) :
    Prop extends LateLabels env L where
  deliver : L .deliver
  ask : L .ask
  revive : L .revive
  die : data.isEnd = true → L .die ∧ L .report ∧
    (L .drop ∨ (w.objs it.id).ptrace ≠ ProcessID.invalid ∨
      Restrained env (.disappeared it.id data))
  syscall : data.event = .trapped .sysTrap → L .flag ∧ L .call
  stop : ∀ s, data.event = .trapped (.event s .stop) → AddLabels L.late
  exit : ∀ s, data.event = .trapped (.event s .exit) → L .report
  exec : ∀ s, data.event = .trapped (.event s .exec) →
    L (.exec it.key) ∧ L .call ∧ w.contains it
  child : ∀ s e, data.event = .trapped (.event s e) → e.isNewChild = true →
    L .add ∧ L .orphan ∧ L .announce ∧ (L .drop ∨ Apart env L it w
      (env.pidEventMsg (w.log ++ [.deliver it.id data]) (w.objs it.id).ptrace))

section
variable [SyscallOps SC]

theorem phased_handleExitEvent {it : Iter} (ha : it.id = a) (hC : LateLabels env L)
    (hask : L .ask) (hL : L .report) : Phased env a L (handleExitEvent env it : Step SC Unit) := by
  subst ha
  have hnr : Does env it.id L.early (currentNr it.id : Step SC SystemCallNr) :=
    Does.bind Does.reading fun t => Does.bind (does_derefCall _) fun c =>
      Does.bind (does_getCall c) fun _ => Does.pure _
  have hlost : ∀ status, Does env it.id L.early (lostToMtExit it.id status : Step SC Bool) := by
    intro status
    refine Does.bind Does.reading fun t => ?_
    cases status with
    | exited status =>
      exact Along.ite (fun _ => Does.pure _) fun _ => Does.bind hnr fun _ => Does.pure _
    | signaled signal => exact Does.pure _
  refine Phased.bind Does.reading fun t => Phased.bind (does_query ⟨hask, rfl⟩ _ _) fun status => ?_
  refine Phased.bind (hlost status) fun lost => Phased.of_late ?_
  refine Does.bind (does_notify rfl (hC.call rfl fun _ => hL)) fun _ => ?_
  exact fun w _ => Eff.single (Eff.report ⟨hL, rfl⟩)

theorem course_handlePtraceEvent {it : Iter} {data : ChildState} {w v : World SC} {s : Signal}
    {e : PtraceEvent} (hL : EventLabels env L it data w) (he : data.event = .trapped (.event s e))
    (hB : Base v) (ht : v.tracees = w.tracees) (hl : v.log = w.log ++ [.deliver it.id data])
    (hp : (v.objs it.id).ptrace = (w.objs it.id).ptrace) :
    Course env it.id L v (handlePtraceEvent env it it.key e s v).2 := by
  have hchild : e.isNewChild = true →
      Course env it.id L v (handleNewChildEvent env it e v).2 := by
    intro hn
    obtain ⟨hadd, horphan, hann, hap⟩ := hL.child s e he hn
    refine course_handleNewChildEvent hB ⟨hL.toLateLabels, hadd, horphan, hann, hL.ask⟩ e
      (hap.imp_right fun h => ?_)
    rw [hl, hp]
    exact ⟨h.law, (congrArg (OrdMap.find? · it.key) ht).trans h.contains, h.ne⟩
  cases e with
  | stop =>
    exact phased_handleStopEvent rfl hL.toLateLabels (hL.stop s he) hL.ask hL.revive s v hB
  | exit => exact phased_handleExitEvent rfl hL.toLateLabels hL.ask (hL.exit s he) v hB
  | exec =>
    obtain ⟨hexec, hcall, hk⟩ := hL.exec s he
    refine course_handleExecEvent hB ⟨hL.toLateLabels, hexec, hcall, hL.ask⟩ ?_
    exact (congrArg (OrdMap.find? · it.key) ht).trans hk
  | clone | vfork | vforkDone | fork => exact hchild rfl
  | seccomp => exact Course.refl v

theorem course_handleTrap {it : Iter} {data : ChildState} {w v : World SC} {trap : Trap}
    (hL : EventLabels env L it data w) (he : data.event = .trapped trap) (hB : Base v)
    (ht : v.tracees = w.tracees) (hl : v.log = w.log ++ [.deliver it.id data])
    (hp : (v.objs it.id).ptrace = (w.objs it.id).ptrace) :
    Course env it.id L v (handleTrap env it it.key trap v).2 := by
  cases trap with
  | sysTrap =>
    obtain ⟨hflag, hcall⟩ := hL.syscall he
    exact phased_handleSystemCall rfl hL.toLateLabels ⟨hL.ask, hL.revive, hflag, hcall⟩ v hB
  | signal s => exact phased_handleSignalStop rfl hL.toLateLabels hL.ask hL.revive s v hB
  | event s e =>
    have hrun : changeState env it.id .eventStop v
        = (.ok (), v.setObj it.id ((v.objs it.id).moveTo .eventStop)) := rfl
    have hmove : Eff env it.id L.early v (v.setObj it.id ((v.objs it.id).moveTo .eventStop)) :=
      eff_moveTo rfl (Or.inl ⟨hL.revive, rfl⟩)
    show Course env it.id L v ((changeState env it.id .eventStop >>= fun _ =>
      handlePtraceEvent env it it.key e s : Step SC Unit) v).2
    rw [run_bind_ok hrun]
    refine Course.after (Eff.single hmove) ?_
    refine course_handlePtraceEvent hL he (hmove.base hB) ht hl ?_
    rw [World.setObj_self]
    exact hp

theorem course_handleEnd {it : Iter} {data : ChildState} {w v : World SC}
    (hL : EventLabels env L it data w) (he : data.isEnd = true) (hB : Base v)
    (hlt : it.id < v.nextObj) (hp : (v.objs it.id).ptrace = (w.objs it.id).ptrace) :
    Course env it.id L v (handleEnd env it data v).2 := by
  obtain ⟨hdie, hrep, hvan⟩ := hL.die he
  have hdead : Effs env it.id L.early v (changeState env it.id .dead v).2 :=
    Eff.single (Eff.die ⟨hdie, rfl⟩ (letting_dead v trivial) hlt)
  unfold handleEnd
  refine Course.bind_of hB hdead fun _ v1 h1 hB1 => ?_
  have hpt : (v1.objs it.id).ptrace = (w.objs it.id).ptrace := by
    have hpt : SamePtrace it.id v (changeState env it.id .dead v).2 := dead_ptrace it.id v
    rw [h1] at hpt
    exact Eq.trans hpt hp
  rw [run_bind_ok (run_getTracee it.id v1)]
  refine Course.of_late (Along.bind_of (Effs.walk env it.id L.late) hB1 ?_ fun _ v2 _ hB2 => ?_)
  · unfold Exec.when
    split_ifs
    · have hn : CallLabels env L.late (.disappeared it.id data) →
          Effs env it.id L.late v1 (notify env it (.disappeared it.id data) v1).2 :=
        fun hc => does_notify rfl hc v1 hB1
      have hend : L.late .ending := ⟨hL.ending, rfl⟩
      obtain hd | hpt' | hr := hvan
      · exact hn ⟨hend, fun _ => ⟨hrep, rfl⟩, Or.inl ⟨hd, rfl⟩⟩
      · refine hL.drop.elim (fun hd => hn ⟨hend, fun _ => ⟨hrep, rfl⟩, Or.inl ⟨hd, rfl⟩⟩)
          fun hg => effs_notify_steady hg.law hB1 ⟨Or.inr (state_of_changeState h1), ?_⟩ rfl hend
            fun _ => ⟨hrep, rfl⟩
        rw [hpt]
        exact hpt'
      · exact hn ⟨hend, fun _ => ⟨hrep, rfl⟩, Or.inr hr⟩
    · exact Relation.ReflTransGen.refl
  · have hexit : Does env it.id L.late (modifyTracee it.id fun t =>
        { t with exitData := some data } : Step SC Unit) := Does.modify fun _ => rfl
    exact hexit v2 hB2

theorem course_processEvent {it : Iter} {data : ChildState} {w : World SC} (hB : Base w)
    (hpid : data.pid = it.key) (hlt : it.id < w.nextObj) (hL : EventLabels env L it data w) :
    Course env it.id L w (processEvent env it data w).2 := by
  have hsay : Eff env it.id L.early w (w.say (.deliver it.id data)) :=
    Eff.say ⟨rfl, hL.deliver, rfl⟩
  have hmod : Eff env it.id L.early (w.say (.deliver it.id data))
      ((w.say (.deliver it.id data)).setObj it.id { w.objs it.id with injectSig := none }) :=
    Eff.tweak (tweak_mild rfl)
  have hB2 := hmod.base (hsay.base hB)
  unfold processEvent
  rw [run_bind_ok (run_say _ w), run_bind_ok (run_modifyTracee it.id _ _)]
  refine Course.after ((Eff.single hsay).trans (Eff.single hmod)) ?_
  show Course env it.id L _ ((_ : Step SC Unit) ((w.say (.deliver it.id data)).setObj it.id
    { w.objs it.id with injectSig := none })).2
  have ht : ((w.say (.deliver it.id data)).setObj it.id
      { w.objs it.id with injectSig := none }).tracees = w.tracees := rfl
  have hl : ((w.say (.deliver it.id data)).setObj it.id
      { w.objs it.id with injectSig := none }).log = w.log ++ [.deliver it.id data] := rfl
  have hp : (((w.say (.deliver it.id data)).setObj it.id
      { w.objs it.id with injectSig := none }).objs it.id).ptrace = (w.objs it.id).ptrace := by
    rw [World.setObj_self]
  have hlt2 : it.id < ((w.say (.deliver it.id data)).setObj it.id
      { w.objs it.id with injectSig := none }).nextObj := hlt
  generalize (w.say (.deliver it.id data)).setObj it.id
      { w.objs it.id with injectSig := none } = v at hB2 ht hl hp hlt2 ⊢
  have hrestart : Does env it.id L.late (restartTracee env it : Step SC Unit) :=
    does_restartTracee rfl hL.toLateLabels
  by_cases hend : data.isEnd = true
  · rw [if_pos hend]
    exact course_handleEnd hL hend hB2 hlt2 hp
  · rw [if_neg hend]
    cases he : data.event with
    | trapped trap =>
      show Course env it.id L v ((getTracee it.id >>= fun t => _ : Step SC Unit) v).2
      rw [run_bind_ok (run_getTracee it.id v)]
      by_cases hf : (v.objs it.id).flags.detachAtNextStop = true
      · rw [if_pos hf]
        have hcalm : ¬ (v.objs it.id).Calm := fun hc => by rw [hc.unflagged] at hf; cases hf
        refine Course.of_late (Eff.single (Eff.lets ⟨hlt2, fun _ => ⟨hL.ending, rfl⟩,
          Or.inr (Or.inr (Or.inr rfl))⟩ (lets_doDetach fun _ => hcalm) fun _ => ?_))
        exact ⟨fun h => absurd rfl h, fun h => absurd h hcalm⟩
      · rw [if_neg hf, hpid]
        exact Course.seq_of hB2 (course_handleTrap hL he hB2 ht hl hp) fun _ w' _ hB' =>
          hrestart w' hB'
    | signaled s =>
      exact Phased.seq (phased_handleSignalStop rfl hL.toLateLabels hL.ask hL.revive s)
        (fun _ => hrestart) v hB2
    | exited | killed | dumped | other => exact Course.of_late (hrestart v hB2)

/-- handling an event up to the stored events; the tracee itself is cleaned up at the end -/
theorem course_handleKnown {it : Iter} {data : ChildState} {w : World SC} (hB : Base w)
    (hpid : data.pid = it.key) (hlt : it.id < w.nextObj) (hL : EventLabels env L it data w)
    (hD : L .drop) : Course env it.id L w (handleKnown env it data w).2 := by
  have hend : L.late .ending := ⟨hL.ending, rfl⟩
  unfold handleKnown
  refine Course.seq_of hB ?_ fun _ w1 _ hB1 => ?_
  · have hpe := course_processEvent hB hpid hlt hL
    unfold catchApi Exec.handle
    cases hr : processEvent env it data w with
    | mk r w1 =>
      rw [hr] at hpe
      cases r with
      | ok u => exact hpe
      | error e =>
        refine hpe.before ?_
        cases e with
        | api errno => exact does_checkContained it w1 (hpe.base hB)
        | _ => exact Relation.ReflTransGen.refl
  · refine Does.bind (does_checkContained it) (fun _ => ?_) w1 hB1
    exact fun w2 hB2 => effs_checkCleanupTracee hB2 hend (Or.inl ⟨hD, rfl⟩)

end

end

end Clues
