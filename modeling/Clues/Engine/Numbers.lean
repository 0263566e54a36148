import Clues.Engine.Reports

/-!
# Numbers of system calls

* `numbers log`   what the log tells of the numbers of system calls;
* `Named`         the object that is reported was made for the number that the registers of the
                  tracee decode to, or for that of the call that goes on;
* `Hushed`        the world changes, and no system call is reported;
* `named_of_reachable`   all reports of a run are named rightly.
-/

set_option linter.unusedSectionVars false

namespace Clues

open Lib Lib.Exec Lib.History Step

/-! ## what the log tells -/

structure Numbers where
  /-- what the registers of a tracee decoded to at its last entry -/
  entered : TraceeId → SystemCallNr := fun _ => .unknown
  /-- the number of the call that an object was told for -/
  original : CallId → Option SystemCallNr := fun _ => none
  /-- the call that a tracee is in; an `execve()` has succeeded with the new execution context -/
  within : TraceeId → Option CallId := fun _ => none

/-- the number of a call that is told; one that goes on by `restart_syscall()` has the number of the
original call, if that was told -/
def Numbers.decoded (ν : Numbers) (id : TraceeId) (c : CallId) (flags : StatusFlags) :
    Option SystemCallNr :=
  if flags.resumed = true ∧ ν.entered id = .restartSyscall then ν.original c
  else some (ν.entered id)

def numberStep (ν : Numbers) : Entry → Numbers
  | .syscallEntered id nr => { ν with entered := Function.update ν.entered id nr }
  | .callback (.syscallEntry id c flags) =>
      { ν with
        original := Function.update ν.original c (ν.decoded id c flags)
        within := Function.update ν.within id (some c) }
  | .callback (.syscallExit id _ _) | .callback (.newExecutionContext id _ _ _) =>
      { ν with within := Function.update ν.within id none }
  | .execed id _ old => { ν with within := Function.update ν.within id (ν.within (old.getD id)) }
  | _ => ν

def numbers (log : Log) : Numbers := replay numberStep {} log

/-- entries that tell of system calls -/
def Entry.isTelling : Entry → Bool
  | .syscallEntered _ _ | .callback (.syscallEntry _ _ _) | .callback (.syscallExit _ _ _) => true
  | _ => false

/-- the object of a report was made for the number of its call -/
def Named (num : Numbering) (p : Log) : Entry → Prop
  | .callback (.syscallEntry id c flags) =>
      ∃ n, num c = some n ∧ ∀ m, (numbers p).decoded id c flags = some m → m = n
  | .callback (.syscallExit _ c _) =>
      ∃ n, num c = some n ∧ ∀ m, (numbers p).original c = some m → m = n
  | _ => True

section
variable {ν : Numbers} {num num' : Numbering} {p log es : Log} {e : Entry}

theorem numbers_snoc (log : Log) (e : Entry) :
    numbers (log ++ [e]) = numberStep (numbers log) e := replay_snoc log e

theorem numberStep_of_not_telling (h : e.isTelling = false) :
    (numberStep ν e).entered = ν.entered ∧ (numberStep ν e).original = ν.original := by
  unfold numberStep
  split
  · cases h
  · cases h
  · cases h
  · exact ⟨rfl, rfl⟩
  · exact ⟨rfl, rfl⟩
  · exact ⟨rfl, rfl⟩

theorem entered_append (h : ∀ e ∈ es, e.isTelling = false) :
    (numbers (log ++ es)).entered = (numbers log).entered := by
  induction es using List.reverseRecOn with
  | nil => rw [List.append_nil]
  | append_singleton es e ih =>
    have hes := ih fun e' he' => h e' (by simp [he'])
    rw [← List.append_assoc, numbers_snoc]
    exact (numberStep_of_not_telling (h e (by simp))).1.trans hes

theorem named_of_not_telling (h : e.isTelling = false) : Named num p e := by
  unfold Named
  split
  · cases h
  · cases h
  · trivial

theorem Named.extend (h : Named num p e) (hn : Extends num num') : Named num' p e := by
  unfold Named at h ⊢
  split at h
  · obtain ⟨n, hc, hm⟩ := h
    exact ⟨n, hn _ _ hc, hm⟩
  · obtain ⟨n, hc, hm⟩ := h
    exact ⟨n, hn _ _ hc, hm⟩
  · trivial

/-- the number of a call that was told is the one that its object was made for -/
theorem original_of_named (h : Always (Named num) log) :
    ∀ c n, (numbers log).original c = some n → num c = some n := by
  induction log using List.reverseRecOn with
  | nil => exact fun _ _ hc => nomatch hc
  | append_singleton log e ih =>
    obtain ⟨hlog, he⟩ := always_snoc_iff.mp h
    have ih := ih hlog
    intro c n hc
    rw [numbers_snoc] at hc
    by_cases htell : e.isTelling = false
    · rw [(numberStep_of_not_telling htell).2] at hc
      exact ih c n hc
    unfold Entry.isTelling at htell
    split at htell
    · exact ih c n hc
    · rename_i id c' flags
      have hc : Function.update (numbers log).original c'
          ((numbers log).decoded id c' flags) c = some n := hc
      by_cases hcc : c = c'
      · subst hcc
        rw [Function.update_self] at hc
        obtain ⟨m, hm, hdec⟩ := he
        rw [hdec n hc]
        exact hm
      · rw [Function.update_of_ne hcc] at hc
        exact ih c n hc
    · exact ih c n hc
    · exact absurd rfl htell

theorem isTelling_of_calm (h : ∀ b, e.isCall b = false) : e.isTelling = false := by
  cases e with
  | syscallEntered id nr => exact absurd rfl (of_decide_eq_false (h id))
  | callback c =>
    cases c with
    | syscallEntry id c flags => exact absurd rfl (of_decide_eq_false (h id))
    | syscallExit id c flags => exact absurd rfl (of_decide_eq_false (h id))
    | _ => rfl
  | _ => rfl

end

/-! ## the invariant -/

variable {SC : Type} [SyscallOps SC] {env : Env} {v v' w : World SC} {id : TraceeId}
  {nr : SystemCallNr} {c : CallId}

structure Naming (v : World SC) : Prop where
  filed : v.Filed
  named : Always (Named v.requested) v.log

/-- the world changes, and no system call is reported -/
structure Hushed (v v' : World SC) : Prop where
  sound : v.Sound → v'.Sound
  shelved : Shelved v v'
  log : ∃ es, v'.log = v.log ++ es ∧ ∀ e ∈ es, e.isTelling = false

theorem Hushed.walk : Walk (World.Sound : World SC → Prop) Hushed where
  refl v := ⟨fun h => h, Shelved.refl v, [], by simp, by simp⟩
  trans h h' := by
    obtain ⟨es, he, hes⟩ := h.log
    obtain ⟨es', he', hes'⟩ := h'.log
    refine ⟨fun hs => h'.sound (h.sound hs), h.shelved.trans h'.shelved, es ++ es',
      by rw [he', he, List.append_assoc], fun e hm => ?_⟩
    rcases List.mem_append.mp hm with hm | hm
    · exact hes e hm
    · exact hes' e hm
  keeps hs h := h.sound hs

abbrev Hushing {α : Type} (x : Step SC α) : Prop :=
  Along (World.Sound : World SC → Prop) Hushed x

theorem Hushed.of_aside (h : ∀ b, Aside True False b v v') : Hushed v v' := by
  obtain ⟨es, he, hes⟩ := Ledger.entries_of_aside (S := fun _ => True) h
  exact ⟨(h 0).sound, (h 0).shelved, es, he,
    fun e hm => isTelling_of_calm fun b => (hes e hm b).2⟩

theorem Hushing.of_besides {α : Type} {x : Step SC α} (h : ∀ b, Besides True False b x) :
    Hushing x := fun v hv => Hushed.of_aside fun b => h b v hv

theorem Hushed.setObj (v : World SC) {t : Tracee} (h : t.syscallDb = (v.objs id).syscallDb) :
    Hushed v (v.setObj id t) := ⟨fun hs => hs, Shelved.setObj v h, [], by simp, by simp⟩

theorem hushing_modify {f : Tracee → Tracee} (h : ∀ t, (f t).syscallDb = t.syscallDb) :
    Hushing (modifyTracee id f : Step SC Unit) := fun v _ => Hushed.setObj v (h _)

theorem hushing_say {e : Entry} (h : e.isTelling = false) : Hushing (say e : Step SC Unit) :=
  fun v _ => ⟨fun hs => hs, Shelved.of_same rfl rfl fun i _ _ h => ⟨i, h⟩, [e], rfl,
    fun e' he' => by rwa [List.mem_singleton.mp he']⟩

theorem Naming.known (h : Naming v) {n : SystemCallNr}
    (hc : (numbers v.log).original c = some n) : v.requested c = some n :=
  original_of_named h.named c n hc

theorem Naming.say (h : Naming v) {e : Entry} (he : Named v.requested v.log e) :
    Naming (v.say e) :=
  ⟨(Shelved.of_same rfl rfl fun i _ _ h => ⟨i, h⟩ : Shelved v (v.say e)).filed h.filed,
    always_snoc_iff.mpr ⟨h.named, he⟩⟩

theorem Naming.hushed (h : Naming v) (hv : Hushed v v') : Naming v' := by
  have hn : Extends v.requested v'.requested := fun _ _ hc => hv.shelved.requested h.filed hc
  obtain ⟨es, he, hes⟩ := hv.log
  refine ⟨hv.shelved.filed h.filed, ?_⟩
  rw [he]
  have hnamed : Always (Named v'.requested) v.log := fun p e hp => (h.named p e hp).extend hn
  exact hnamed.append fun e hm p => named_of_not_telling (hes e hm)

theorem soundly_hushed (h : Soundly Naming v) (hv : Hushed v v') : Soundly Naming v' :=
  ⟨hv.sound h.1, h.2.hushed hv⟩

/-! ## what is known while a stop is handled -/

/-- the entry of a call with the number `nr` is handled; under `K` the object for the number was
found -/
structure Entering (id : TraceeId) (nr : SystemCallNr) (K : CallId → Prop) (v : World SC) :
    Prop where
  naming : Soundly Naming v
  entered : (numbers v.log).entered id = nr
  found : ∀ c, K c → v.requested c = some nr

variable {K K' : CallId → Prop} {α : Type}

theorem Entering.hushed (h : Entering id nr K v) (hv : Hushed v v') : Entering id nr K v' := by
  refine ⟨soundly_hushed h.naming hv, ?_, fun c hc => ?_⟩
  · obtain ⟨es, he, hes⟩ := hv.log
    rw [he, entered_append hes]
    exact h.entered
  · exact hv.shelved.requested h.naming.2.filed (h.found c hc)

theorem Entering.weaken (h : Entering id nr K v) (hK : ∀ c, K' c → K c) : Entering id nr K' v :=
  ⟨h.naming, h.entered, fun c hc => h.found c (hK c hc)⟩

/-- a step that reports nothing, with what is known of its result -/
theorem hushed_result {P : World SC → Prop} (hP : ∀ {v v'}, P v → Hushed v v' → P v')
    (hI : ∀ {v}, P v → Soundly Naming v) {x : Step SC α} (hx : Hushing x)
    {φ : α → World SC → Prop} (hφ : ∀ {v a v'}, P v → x v = (.ok a, v') → φ a v') :
    Triple P x (fun a v => P v ∧ φ a v) fun _ => Soundly Naming := by
  intro v hv
  have hq := hx v (hI hv).1
  cases hr : x v with
  | mk r v' =>
    rw [hr] at hq
    cases r with
    | ok a => exact ⟨hP hv hq, hφ hv hr⟩
    | error e => exact soundly_hushed (hI hv) hq

theorem entering_triple {x : Step SC α} (hx : Hushing x) :
    Triple (Entering id nr K) x (fun _ => Entering id nr K) fun _ => Soundly Naming :=
  (hushed_result Entering.hushed Entering.naming hx (φ := fun _ _ => True)
    fun _ _ => trivial).weaken (fun _ hv => hv) (fun _ _ hv => hv.1) fun _ _ hv => hv

theorem naming_triple {x : Step SC α} (hx : Hushing x) :
    Triple (Soundly Naming) x (fun _ => Soundly Naming) fun _ => Soundly Naming :=
  (hushed_result soundly_hushed (fun hv => hv) hx (φ := fun _ _ => True)
    fun _ _ => trivial).weaken (fun _ hv => hv) (fun _ _ hv => hv.1) fun _ _ hv => hv

/-! ## entries -/

theorem hushing_getCall (c : CallId) : Hushing (getCall c : Step SC (CallObj SC)) :=
  .of_besides fun _ => besides_getCall c

theorem hushing_dbGet (id : TraceeId) (info : SystemCallInfo) :
    Hushing (dbGet env id info : Step SC CallId) := .of_besides fun _ => besides_dbGet id info

theorem hushing_tryRecover (id : TraceeId) (info : SystemCallInfo) :
    Hushing (tryRecoverRestartedSystemCall env id info : Step SC Bool) := by
  have hw : Walk (World.Sound : World SC → Prop) Hushed := Hushed.walk
  refine Along.bind hw (Hushing.of_besides fun _ => besides_getTracee id) fun t => ?_
  cases t.getInitialSyscallInfo env info.abi with
  | none => exact Along.pure hw _
  | some orig =>
    refine Along.ite (fun _ => Along.pure hw _) fun _ => ?_
    refine Along.bind hw (hushing_dbGet id orig) fun c => ?_
    exact Along.bind hw (hushing_modify fun _ => rfl) fun _ => Along.pure hw _

/-- the object that the tracee refers to is `c` -/
def Current (id : TraceeId) (nr : SystemCallNr) (c : CallId) (v : World SC) : Prop :=
  Entering id nr (· = c) v ∧ (v.objs id).currentSyscall = some c

/-- the call that is reported is known, unless one goes on by `restart_syscall()` -/
def Chosen (id : TraceeId) (nr : SystemCallNr) (resumed : Bool) (v : World SC) : Prop :=
  Entering id nr (fun c => (v.objs id).currentSyscall = some c ∧
    ¬ (resumed = true ∧ nr = .restartSyscall)) v

theorem Current.chosen (h : Current id nr c v) (resumed : Bool) : Chosen id nr resumed v :=
  h.1.weaken fun _ hc => Option.some.inj (hc.1.symm.trans h.2)

/-- the interrupted call is reported instead -/
theorem Entering.restarted (h : Entering id .restartSyscall K v) :
    Chosen id .restartSyscall true v :=
  h.weaken fun _ hc => absurd ⟨rfl, rfl⟩ hc.2

theorem Current.modify (h : Current id nr c v) {t : Tracee}
    (ht : (t.currentSyscall, t.syscallDb) = ((v.objs id).currentSyscall, (v.objs id).syscallDb)) :
    Current id nr c (v.setObj id t) := by
  obtain ⟨hc, hdb⟩ := Prod.mk.inj ht
  refine ⟨h.1.hushed (Hushed.setObj v hdb), ?_⟩
  rw [World.setObj_self, hc]
  exact h.2

theorem current_getCall (i : CallId) :
    Triple (Current id nr c) (getCall i : Step SC (CallObj SC)) (fun _ => Current id nr c)
      fun _ => Soundly Naming := by
  intro v hv
  have hsame := Ledger.getCall_state i v
  cases hr : getCall i v with
  | mk r v' =>
    rw [hr] at hsame
    subst hsame
    cases r with
    | ok a => exact hv
    | error e => exact hv.1.naming

theorem chosen_tryRecover {info : SystemCallInfo} :
    Triple (Current id .restartSyscall c) (tryRecoverRestartedSystemCall env id info : Step SC Bool)
      (Chosen id .restartSyscall) fun _ => Soundly Naming := by
  intro v hv
  have htry : Hushing (tryRecoverRestartedSystemCall env id info : Step SC Bool) :=
    hushing_tryRecover id info
  have hE := hv.1.hushed (htry v hv.1.naming.1)
  cases hr : tryRecoverRestartedSystemCall env id info v with
  | mk r v' =>
    rw [hr] at hE
    cases r with
    | error e => exact hE.naming
    | ok resumed =>
      cases resumed with
      | true => exact hE.restarted
      | false =>
        -- nothing was recovered
        have hsame : v' = v := by
          unfold tryRecoverRestartedSystemCall at hr
          rw [run_bind_ok (run_getTracee id v)] at hr
          cases ho : (v.objs id).getInitialSyscallInfo env info.abi with
          | none =>
            rw [ho] at hr
            exact (congrArg Prod.snd hr).symm
          | some orig =>
            rw [ho] at hr
            dsimp only at hr
            split_ifs at hr with hn
            · exact (congrArg Prod.snd hr).symm
            · obtain ⟨c', v1, -, hr⟩ := of_bind_ok hr
              obtain ⟨_, v2, -, hr⟩ := of_bind_ok hr
              cases congrArg Prod.fst hr
        rw [hsame]
        exact hv.chosen false

theorem chosen_checkResumed {info : SystemCallInfo} (call : CallObj SC) (hnr : info.sysNr = nr) :
    Triple (Current id nr c) (checkResumed env id info call : Step SC Bool) (Chosen id nr)
      fun _ => Soundly Naming := by
  subst hnr
  refine Triple.bind (Q := fun _ => Current id info.sysNr c) (fun v hv => hv) fun t => ?_
  refine Triple.ite (fun hr => ?_) fun hr => ?_
  · cases t.interruptedSyscall with
    | some i =>
      refine Triple.bind (Q := fun _ => Chosen id info.sysNr true) (fun v hv => ?_) fun _ =>
        Triple.pure fun _ hv => hv
      have hE : Entering id info.sysNr (· = c) (v.setObj id { v.objs id with
          currentSyscall := some i, interruptedSyscall := none }) :=
        hv.1.hushed (Hushed.setObj v rfl)
      show Chosen id info.sysNr true _
      rw [hr] at hE ⊢
      exact hE.restarted
    | none =>
      refine Triple.ite (fun _ => Triple.pure fun _ hv => hv.chosen false) fun _ => ?_
      rw [hr]
      exact chosen_tryRecover
  · cases t.interruptedSyscall with
    | none => exact Triple.pure fun _ hv => hv.chosen false
    | some i =>
      refine Triple.ite (fun _ => ?_) fun _ => Triple.pure fun _ hv => hv.chosen false
      refine Triple.bind (current_getCall i) fun interrupted => ?_
      refine Triple.bind (Q := fun _ => Current id info.sysNr c) (fun v hv => hv.modify rfl)
        fun _ => ?_
      refine Triple.bind (Q := fun _ => Current id info.sysNr c) (fun v hv => hv.modify rfl)
        fun _ => Triple.pure fun _ hv => hv.chosen _

/-! ## reports -/

/-- an object that was read was made for a number -/
theorem setEntryInfo_requested {info : SystemCallInfo}
    (h : setEntryInfo env id c info v = (.ok (), v')) : ∃ n, v'.requested c = some n := by
  unfold setEntryInfo at h
  obtain ⟨de, v1, h1, h⟩ := of_bind_ok h
  obtain ⟨call, v2, h2, h⟩ := of_bind_ok h
  obtain ⟨_, v3, h3, h⟩ := of_bind_ok h
  obtain ⟨hc, hv2⟩ := getCall_ok h2
  have hv' : v' = v3 := (congrArg Prod.snd h).symm
  have hv3 : v3 = (putCall c (SyscallOps.setEntryInfo de info call.obj).2 v2).2 :=
    (congrArg Prod.snd h3).symm
  refine ⟨call.requested, ?_⟩
  rw [hv', hv3, requested_putCall, hv2]
  unfold World.requested
  rw [hc]
  rfl

/-- the call `c` is reported, and its object was made for a number -/
def Reporting (P : World SC → Prop) (c : CallId) (v : World SC) : Prop :=
  P v ∧ ∃ n, v.requested c = some n

theorem Reporting.hushed {P : World SC → Prop} (hP : ∀ {v v'}, P v → Hushed v v' → P v')
    (hI : ∀ {v}, P v → Soundly Naming v) (h : Reporting P c v) (hv : Hushed v v') :
    Reporting P c v' := by
  obtain ⟨hPv, n, hn⟩ := h
  exact ⟨hP hPv hv, n, hv.shelved.requested (hI hPv).2.filed hn⟩

/-- what is said in a callback, and what the consumer does then -/
theorem naming_notify {P : World SC → Prop} (it : Iter) {c : Callback}
    (h : ∀ v, P v → Soundly Naming (v.say (.callback c))) :
    Triple P (notify env it c : Step SC Unit) (fun _ => Soundly Naming)
      fun _ => Soundly Naming := by
  have hcall : Triple P (callback env c : Step SC Unit) (fun _ => Soundly Naming)
      fun _ => Soundly Naming :=
    Triple.bind (Q := fun _ => Soundly Naming) h fun _ =>
      naming_triple (Hushing.of_besides fun _ => besides_reaction)
  refine Triple.bind hcall fun _ => naming_triple (Hushing.of_besides fun _ => ?_)
  exact besides_checkContained it

theorem naming_reportEntry (it : Iter) {flags : StatusFlags} {resumed : Bool}
    (hf : flags.resumed = resumed) :
    Triple (Reporting (Entering it.id nr fun c' => c' = c ∧
        ¬ (resumed = true ∧ nr = .restartSyscall)) c)
      (notify env it (.syscallEntry it.id c flags) : Step SC Unit) (fun _ => Soundly Naming)
      fun _ => Soundly Naming := by
  subst hf
  apply naming_notify
  rintro v ⟨hE, n, hn⟩
  have hdec : ∀ m, (numbers v.log).decoded it.id c flags = some m → v.requested c = some m := by
    intro m hm
    unfold Numbers.decoded at hm
    rw [hE.entered] at hm
    split_ifs at hm with hr
    · exact hE.naming.2.known hm
    · rw [← Option.some.inj hm]
      exact hE.found c ⟨rfl, hr⟩
  refine ⟨hE.naming.1, hE.naming.2.say ⟨n, hn, fun m hm => ?_⟩⟩
  exact Option.some.inj ((hdec m hm).symm.trans hn)

theorem naming_handleSystemCallEntry (it : Iter) (info : SystemCallInfo) :
    Triple (Entering it.id info.sysNr fun _ => False)
      (handleSystemCallEntry env it info : Step SC Unit) (fun _ => Soundly Naming)
      fun _ => Soundly Naming := by
  have hdb : Triple (Entering it.id info.sysNr fun _ => False)
      (dbGet env it.id info : Step SC CallId)
      (fun c v => Entering it.id info.sysNr (fun _ => False) v ∧ v.requested c = some info.sysNr)
      fun _ => Soundly Naming :=
    hushed_result Entering.hushed Entering.naming (hushing_dbGet it.id info)
      fun hv h => Ledger.dbGet_ok hv.naming.2.filed h
  refine Triple.bind hdb fun c => ?_
  refine Triple.bind (Q := fun _ => Current it.id info.sysNr c) ?_ fun _ => ?_
  · rintro v ⟨hv, hc⟩
    have hE : Entering it.id info.sysNr (· = c) v :=
      ⟨hv.naming, hv.entered, fun c' hc' => hc' ▸ hc⟩
    refine ⟨hE.hushed (Hushed.setObj v rfl), ?_⟩
    rw [World.setObj_self]
  refine Triple.bind (current_getCall c) fun call => ?_
  refine Triple.bind (Q := fun _ => Current it.id info.sysNr c) (fun v hv => ?_) fun _ => ?_
  · cases hr : verifyArch info with
    | ok u => exact hv
    | error e => exact hv.1.naming
  refine Triple.bind (chosen_checkResumed call rfl) fun resumed => ?_
  refine Triple.bind (Q := fun t : Tracee => Entering it.id info.sysNr fun c =>
    t.currentSyscall = some c ∧ ¬ (resumed = true ∧ info.sysNr = .restartSyscall))
    (fun v hv => hv) fun t => ?_
  refine Triple.bind (Q := fun c' => Entering it.id info.sysNr fun c =>
    c = c' ∧ ¬ (resumed = true ∧ info.sysNr = .restartSyscall)) ?_ fun c' => ?_
  · cases ht : t.currentSyscall with
    | none => exact fun v hv => hv.naming
    | some c' => exact fun v hv => hv.weaken fun c hc => ⟨congrArg some hc.1.symm, hc.2⟩
  have hset : Triple (Entering it.id info.sysNr fun c =>
        c = c' ∧ ¬ (resumed = true ∧ info.sysNr = .restartSyscall))
      (setEntryInfo env it.id c' info : Step SC Unit)
      (fun _ => Reporting (Entering it.id info.sysNr fun c =>
        c = c' ∧ ¬ (resumed = true ∧ info.sysNr = .restartSyscall)) c')
      fun _ => Soundly Naming :=
    hushed_result Entering.hushed Entering.naming
      (Hushing.of_besides fun _ => besides_setEntryInfo it.id c' info)
      fun _ h => setEntryInfo_requested h
  refine Triple.bind hset fun _ => ?_
  refine Triple.bind (Q := fun _ => Reporting (Entering it.id info.sysNr fun c =>
    c = c' ∧ ¬ (resumed = true ∧ info.sysNr = .restartSyscall)) c') (fun v hv => ?_) fun _ => ?_
  · exact hv.hushed Entering.hushed Entering.naming (Hushed.setObj v rfl)
  · exact naming_reportEntry it rfl

theorem hushing_checkSigreturn (id : TraceeId) (call : CallObj SC) :
    Hushing (checkSigreturn id call : Step SC Unit) := by
  have hw : Walk (World.Sound : World SC → Prop) Hushed := Hushed.walk
  refine Along.bind hw (Hushing.of_besides fun _ => besides_getTracee id) fun t => ?_
  refine Along.ite (fun _ => ?_) fun _ => Along.pure hw _
  cases SyscallOps.error call.obj with
  | none => exact hushing_modify fun _ => rfl
  | some e =>
    exact Along.ite (fun _ => hushing_modify fun _ => rfl) fun _ => hushing_modify fun _ => rfl

theorem naming_handleSystemCallExit (it : Iter) (info : SystemCallInfo) :
    Triple (Soundly Naming) (handleSystemCallExit env it info : Step SC Unit)
      (fun _ => Soundly Naming) fun _ => Soundly Naming := by
  refine Triple.bind (naming_triple (Hushing.of_besides fun _ => besides_getTracee it.id))
    fun t => ?_
  refine Triple.bind (naming_triple (Hushing.of_besides fun _ => besides_derefCall _)) fun c => ?_
  refine Triple.bind (naming_triple (Hushing.of_besides fun _ => besides_setExitInfo it.id c info))
    fun _ => ?_
  have hget : Triple (Soundly Naming) (getCall c : Step SC (CallObj SC))
      (fun _ => Reporting (Soundly Naming) c) fun _ => Soundly Naming := by
    apply hushed_result soundly_hushed (fun hv => hv) (hushing_getCall c)
    intro v call v' _ h
    obtain ⟨hc, rfl⟩ := getCall_ok h
    refine ⟨call.requested, ?_⟩
    unfold World.requested
    rw [hc]
    rfl
  refine Triple.bind hget fun call => ?_
  refine Triple.bind (Q := fun _ => Reporting (Soundly Naming) c) ?_ fun _ => ?_
  · refine Triple.when (fun _ v hv => ?_) fun _ v hv => hv
    exact hv.hushed soundly_hushed (fun hv => hv) (Hushed.setObj v rfl)
  refine Triple.bind (naming_notify it fun v hv => ?_) fun _ => ?_
  · obtain ⟨hI, n, hn⟩ := hv
    refine ⟨hI.1, hI.2.say ⟨n, hn, fun m hm => ?_⟩⟩
    exact Option.some.inj ((hI.2.known hm).symm.trans hn)
  · refine Triple.bind (naming_triple (hushing_checkSigreturn it.id call)) fun _ => ?_
    exact naming_triple (hushing_modify fun _ => rfl)

/-! ## stops -/

/-- the number of an entry was logged -/
def Decoding (env : Env) (id : TraceeId) (info : SystemCallInfo) (v : World SC) : Prop :=
  Soundly Naming v ∧
    ∀ info', info.updateSysNr env = .ok info' → (numbers v.log).entered id = info'.sysNr

theorem decoding_saySyscallStop (id : TraceeId) (info : SystemCallInfo) :
    Triple (Soundly Naming) (saySyscallStop env id info : Step SC Unit)
      (fun _ => Decoding env id info) fun _ => Soundly Naming := by
  have hsay : ∀ nr, Triple (Soundly Naming) (say (.syscallEntered id nr) : Step SC Unit)
      (fun _ v => Soundly Naming v ∧ (numbers v.log).entered id = nr) fun _ => Soundly Naming := by
    rintro nr v ⟨hs, hv⟩
    refine ⟨⟨hs, hv.say trivial⟩, ?_⟩
    show (numbers (v.log ++ [.syscallEntered id nr])).entered id = nr
    rw [numbers_snoc]
    exact Function.update_self ..
  have hnone : (∀ e, info.stop ≠ .entry e) → ∀ info', info.updateSysNr env ≠ .ok info' := by
    intro hstop info' h
    unfold SystemCallInfo.updateSysNr at h
    split at h
    · exact hstop _ ‹_›
    · cases h
  have hskip : (∀ e, info.stop ≠ .entry e) → ∀ {x : Step SC Unit}, Hushing x →
      Triple (Soundly Naming) x (fun _ => Decoding env id info) fun _ => Soundly Naming := by
    intro hstop x hx
    exact (naming_triple hx).weaken (fun _ hv => hv)
      (fun _ _ hv => ⟨hv, fun info' h => absurd h (hnone hstop info')⟩) fun _ _ hv => hv
  unfold saySyscallStop
  cases hstop : info.stop with
  | entry e =>
    dsimp only
    cases hu : info.updateSysNr env with
    | ok info' =>
      refine (hsay info'.sysNr).weaken (fun _ hv => hv) (fun _ v hv => ⟨hv.1, ?_⟩) fun _ _ hv => hv
      intro info'' h
      rw [hu] at h
      rw [← Except.ok.inj h]
      exact hv.2
    | error e =>
      refine (hsay .unknown).weaken (fun _ hv => hv) (fun _ v hv => ⟨hv.1, ?_⟩) fun _ _ hv => hv
      intro info'' h
      rw [hu] at h
      cases h
  | exit x => exact hskip (fun e h => nomatch hstop.symm.trans h) (hushing_say rfl)
  | none => exact hskip (fun e h => nomatch hstop.symm.trans h) (Along.pure Hushed.walk _)
  | seccomp => exact hskip (fun e h => nomatch hstop.symm.trans h) (Along.pure Hushed.walk _)

theorem naming_handleSyscallStop (it : Iter) (info : SystemCallInfo) :
    Triple (Decoding env it.id info) (handleSyscallStop env it info : Step SC Unit)
      (fun _ => Soundly Naming) fun _ => Soundly Naming := by
  have hI : ∀ {x : Step SC Unit},
      Triple (Soundly Naming) x (fun _ => Soundly Naming) (fun _ => Soundly Naming) →
      Triple (Decoding env it.id info) x (fun _ => Soundly Naming) fun _ => Soundly Naming :=
    fun h => h.weaken (fun _ hv => hv.1) (fun _ _ hv => hv) fun _ _ hv => hv
  have hraise : Triple (Decoding env it.id info) (handleStateMismatch : Step SC Unit)
      (fun _ => Soundly Naming) fun _ => Soundly Naming := Triple.raise fun _ hv => hv.1
  refine Triple.bind (Q := fun _ => Decoding env it.id info) (fun v hv => hv) fun t => ?_
  refine Triple.ite (fun _ => ?_) fun _ => ?_
  · refine Triple.ite (fun _ => hI ?_) fun _ => hraise
    refine Triple.bind (Q := fun _ => Soundly Naming) ?_ fun _ =>
      naming_handleSystemCallExit it info
    exact naming_triple (Along.bind Hushed.walk (hushing_modify fun _ => rfl) fun _ =>
      hushing_modify fun _ => rfl)
  · refine Triple.ite (fun _ => ?_) fun _ => hraise
    intro v hv
    rw [run_bind, run_lift]
    cases hu : info.updateSysNr env with
    | error e => exact hv.1
    | ok info' =>
      have hE : Entering it.id info'.sysNr (fun _ => False) v :=
        ⟨hv.1, hv.2 info' hu, fun _ hc => hc.elim⟩
      have hrest : Triple (Entering it.id info'.sysNr fun _ => False) (do
          modifyTracee it.id fun t => { t with syscallInfo := some info' }
          changeState env it.id .syscallEnterStop
          handleSystemCallEntry env it info' : Step SC Unit)
          (fun _ => Soundly Naming) fun _ => Soundly Naming := by
        refine Triple.bind (entering_triple (hushing_modify fun _ => rfl)) fun _ => ?_
        refine Triple.bind (entering_triple ?_) fun _ => naming_handleSystemCallEntry it info'
        exact Along.bind Hushed.walk (hushing_modify fun _ => rfl) fun _ =>
          hushing_modify fun _ => rfl
      exact hrest v hE

theorem naming_handleSystemCall (it : Iter) :
    Triple (Soundly Naming) (handleSystemCall env it : Step SC Unit) (fun _ => Soundly Naming)
      fun _ => Soundly Naming := by
  have hquery : ∀ pid, Hushing (query env it.id (.getSyscallInfo pid) (fun log =>
      env.syscallInfo log pid) : Step SC _) := by
    intro pid v _
    cases hr : env.request v.log (.getSyscallInfo pid) with
    | none =>
      rw [run_query_ok it.id _ hr]
      exact hushing_say rfl v ‹_›
    | some e =>
      rw [run_query_error it.id _ hr]
      exact hushing_say rfl v ‹_›
  refine Triple.bind (naming_triple (hushing_modify fun _ => rfl)) fun _ => ?_
  refine Triple.bind (naming_triple (Hushing.of_besides fun _ => besides_getTracee it.id))
    fun t => ?_
  refine Triple.bind (naming_triple (hquery t.ptrace)) fun r => ?_
  refine Triple.bind (naming_triple (hushing_modify fun _ => rfl)) fun _ => ?_
  refine Triple.bind (decoding_saySyscallStop it.id _) fun _ => ?_
  refine Triple.bind (naming_handleSyscallStop it _) fun _ => ?_
  exact naming_triple (hushing_modify fun _ => rfl)

/-! ## runs -/

theorem hushing_syncState (id other : TraceeId) :
    Hushing (syncState env id other : Step SC Unit) := by
  have hw : Walk (World.Sound : World SC → Prop) Hushed := Hushed.walk
  intro v hv
  unfold syncState
  rw [run_bind_ok (run_getTracee other v)]
  have h1 : Hushed v (v.setObj id { v.objs id with
      syscallInfo := (v.objs other).syscallInfo
      syscallDb := (v.objs other).syscallDb
      currentSyscall := (v.objs other).currentSyscall
      interruptedSyscall := (v.objs other).interruptedSyscall
      syscallCtr := (v.objs other).syscallCtr }) :=
    ⟨fun hs => hs, Shelved.moved other fun _ _ h => h, [], by simp, by simp⟩
  refine Along.bind_of hw hv h1 fun _ v1 _ hv1 => Along.bind_of hw hv1 ?_ fun _ v2 _ hv2 => ?_
  · exact ⟨fun hs => hs, Shelved.moved other fun _ _ h => (nomatch h), [], by simp, by simp⟩
  · have hdead : Hushing (changeState env other .dead : Step SC Unit) :=
      Hushing.of_besides fun _ => besides_changeState (fun _ => trivial) fun h => nomatch h
    exact hdead v2 hv2

theorem hushing_handleExecEvent (it : Iter) (mainPid : ProcessID) :
    Hushing (handleExecEvent env it mainPid : Step SC Unit) := by
  have hw : Walk (World.Sound : World SC → Prop) Hushed := Hushed.walk
  refine Along.read_bind fun w₀ hw₀ => ?_
  refine Along.bind_of hw hw₀ (Hushing.of_besides (fun _ =>
    Besides.query (besides_mildRequest rfl)) w₀ hw₀) fun formerPid w1 _ hw1 => ?_
  refine Along.bind_of hw hw1 (hushing_say rfl w1 hw1) fun _ w2 _ hw2 => ?_
  have hlead : Hushing (replaceLeader env it mainPid formerPid : Step SC Unit) := by
    refine Along.bind hw (Hushing.of_besides fun _ => besides_handleSubstitution formerPid)
      fun old => ?_
    cases old with
    | none => exact Hushing.of_besides fun _ => besides_setPID it.id mainPid
    | some old =>
      exact Along.bind hw (hushing_syncState it.id old) fun _ =>
        Hushing.of_besides fun _ => besides_destroy old
  refine Along.bind_of hw hw2 (Along.when hw (fun _ => hlead) w2 hw2) fun _ w3 _ hw3 => ?_
  refine Hushing.of_besides (fun _ => ?_) w3 hw3
  refine Besides.bind (besides_updateExecInfo it.id) fun _ => ?_
  refine Besides.bind (besides_dropClosedFDs it.id) fun _ => ?_
  exact besides_notify (fun h => nomatch h) fun h => nomatch h

theorem naming_handleTrap (it : Iter) (pid : ProcessID) (trap : Trap) :
    Triple (Soundly Naming) (handleTrap env it pid trap : Step SC Unit) (fun _ => Soundly Naming)
      fun _ => Soundly Naming := by
  have htrue : ∀ b, it.id = b → True := fun _ _ => trivial
  cases trap with
  | sysTrap => exact naming_handleSystemCall it
  | signal signal =>
    exact naming_triple (Hushing.of_besides fun b => besides_handleSignalStop (htrue b) signal)
  | event signal event =>
    refine Triple.bind (naming_triple (Hushing.of_besides fun b =>
      besides_changeState (htrue b) fun h => nomatch h)) fun _ => naming_triple ?_
    cases event with
    | exec => exact hushing_handleExecEvent it pid
    | stop => exact Hushing.of_besides fun b => besides_handleStopEvent (htrue b) signal
    | exit => exact Hushing.of_besides fun _ => besides_handleExitEvent it
    | seccomp => exact Along.pure Hushed.walk _
    | _ => exact Hushing.of_besides fun _ => besides_handleNewChildEvent it _

theorem naming_processEvent (it : Iter) (data : ChildState) :
    Triple (Soundly Naming) (processEvent env it data : Step SC Unit) (fun _ => Soundly Naming)
      fun _ => Soundly Naming := by
  have htrue : ∀ b, it.id = b → True := fun _ _ => trivial
  have hrestart : Hushing (restartTracee env it : Step SC Unit) :=
    Hushing.of_besides fun b => besides_restartTracee (htrue b)
  refine Triple.bind (naming_triple (hushing_say rfl)) fun _ => ?_
  refine Triple.bind (naming_triple (hushing_modify fun _ => rfl)) fun _ => ?_
  refine Triple.ite (fun _ => ?_) fun _ => ?_
  · exact naming_triple (Hushing.of_besides fun b => besides_handleEnd (htrue b) data)
  cases data.event with
  | trapped trap =>
    refine Triple.bind (naming_triple (Hushing.of_besides fun _ => besides_getTracee it.id))
      fun t => Triple.ite (fun _ => ?_) fun _ => ?_
    · exact naming_triple (Hushing.of_besides fun _ => besides_doDetach it.id)
    · exact Triple.bind (naming_handleTrap it data.pid trap) fun _ => naming_triple hrestart
  | signaled signal =>
    refine naming_triple (Along.bind Hushed.walk (Hushing.of_besides fun b => ?_) fun _ => hrestart)
    exact besides_handleSignalStop (htrue b) signal
  | _ => exact naming_triple hrestart

theorem throughout_naming : Throughout env (Naming : World SC → Prop) where
  aside _ h ha := h.hushed (Hushed.of_aside fun b => (ha b).mono (fun hF => hF.elim) fun hF => hF)
  event := by
    intro w it data _ hs h
    exact ((naming_processEvent it data).final ⟨hs, h⟩).2

/-- all reports of a run are named rightly -/
theorem named_of_reachable (hw : Reachable env w) : Naming w := by
  refine (throughout_naming.reachable (fun f => ⟨⟨?_, ?_, ?_⟩, always_nil⟩) hw).2
  · exact fun _ _ => rfl
  · exact fun _ _ _ h => nomatch h
  · exact fun _ _ _ h => nomatch h

end Clues
