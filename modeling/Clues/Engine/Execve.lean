import Clues.Engine.Deferred
import Clues.Engine.Passing
import Clues.Engine.Resumes
import Clues.Engine.TaskEvents

/-!
# execve() and shared process data

Tracees that share their descriptor table share one `ProcessData`, which `handleExecEvent()`
changes in place.

* `Execution`     what the kernel and `/proc` report of a new execution context;
* `renewed`       the process data after it;
* `SparesOthers`  another tracee keeps its data, and the one that called `execve()` gets new data;
* `sparesOthers_iff`   for tracees that share their data this is so exactly if nothing is new.
-/

set_option linter.unusedSectionVars false

namespace Clues

open Lib Lib.Exec Step

variable {SC : Type} [SyscallOps SC] {env : Env}

/-! ## what is reported -/

structure Execution where
  /-- the ID that the thread had when it called `execve()` -/
  formerPid : ProcessID
  exe : Except Errno String
  cmdline : Option (List String)
  openFds : Except Errno (List FileNum)

/-- the event's message and `/proc/<pid>` as long as the event is handled, which starts with the
log: until the consumer is called or `wait()` returns again -/
def Reports (env : Env) (log : Log) (mainPid pid : ProcessID) (x : Execution) : Prop :=
  ∀ es : Log, (∀ e ∈ es, e.isPassing = true) →
    env.pidEventMsg (log ++ es) mainPid = x.formerPid ∧ env.exe (log ++ es) pid = x.exe ∧
      env.cmdline (log ++ es) pid = x.cmdline ∧ env.openFds (log ++ es) pid = x.openFds

/-- the PID of the tracee in its new execution context: an unknown thread takes over the PID of
the process -/
def World.execPid (w : World SC) (id : TraceeId) (mainPid formerPid : ProcessID) : ProcessID :=
  if formerPid ≠ mainPid ∧ w.tracees.find? formerPid = none then mainPid else (w.objs id).ptrace

/-- the process data as `handleExecEvent()` changes it -/
def Execution.renewed (x : Execution) (d : ProcessData) : ProcessData :=
  { executable := match x.exe with
      | .ok exe => exe
      | .error _ => ""
    cmdline := x.cmdline.getD []
    fdInfoMap := match x.openFds with
      | .ok left => syncFDsAfterExec left d.fdInfoMap
      | .error _ => d.fdInfoMap }

/-- the data of the tracee `o` are as they were, and the tracee `id` has those of the new image:
its descriptors are those which are still open -/
structure SparesOthers (w w' : World SC) (id o : TraceeId) (x : Execution) : Prop where
  other : w'.procs (w'.objs o).processData = w.procs (w.objs o).processData
  exe : ∀ exe, x.exe = .ok exe → (w'.procs (w'.objs id).processData).executable = exe
  cmdline : ∀ args, x.cmdline = some args → (w'.procs (w'.objs id).processData).cmdline = args
  fds : ∀ left, x.openFds = .ok left → ∀ fd,
    (w'.procs (w'.objs id).processData).fdInfoMap.find? fd
      = if fd ∈ left then (w.procs (w.objs id).processData).fdInfoMap.find? fd else none

/-- the new image is run with the same command line and name, and every descriptor is still open -/
structure Execution.Unchanging (x : Execution) (d : ProcessData) : Prop where
  exe : d.executable = match x.exe with
    | .ok exe => exe
    | .error _ => ""
  cmdline : d.cmdline = x.cmdline.getD []
  fds : ∀ left, x.openFds = .ok left →
    ∀ fd info, d.fdInfoMap.find? fd = some info → fd ∈ left

/-! ## descriptors -/

theorem dropClosed_eq_self_iff (left : List FileNum) (es : List (FileNum × FDInfo)) :
    dropClosed left es = es ↔ ∀ e ∈ es, e.1 ∈ left := by
  fun_induction dropClosed left es with
  | case1 => exact iff_of_true rfl fun _ h => absurd h List.not_mem_nil
  | case2 e h =>
    apply iff_of_true rfl
    intro e' he
    rwa [List.mem_singleton.mp he]
  | case3 e h =>
    exact iff_of_false (List.cons_ne_nil e []).symm fun he => h (he e List.mem_cons_self)
  | case4 e e' es h ih =>
    rw [List.cons_inj_right, ih, List.forall_mem_cons (a := e)]
    exact (and_iff_right h).symm
  | case5 e e' es h ih =>
    refine iff_of_false (fun he => ?_) fun he => h (he e List.mem_cons_self)
    have hlen := (dropClosed_sublist left es).length_le
    have := congrArg List.length he
    simp only [List.length_cons] at this
    omega

theorem syncFDsAfterExec_eq_self_iff (left : List FileNum) (m : FDInfoMap) :
    syncFDsAfterExec left m = m ↔ ∀ fd info, m.find? fd = some info → fd ∈ left := by
  have hentries : syncFDsAfterExec left m = m ↔ dropClosed left m.entries = m.entries := by
    constructor
    · intro h
      exact congrArg OrdMap.entries h
    · intro h
      cases m
      unfold syncFDsAfterExec
      congr
  rw [hentries, dropClosed_eq_self_iff]
  constructor
  · intro h fd info hf
    exact h (fd, info) ((m.mem_entries_iff fd info).mpr hf)
  · intro h e he
    exact h e.1 e.2 ((m.mem_entries_iff e.1 e.2).mp he)

theorem Execution.renewed_eq_self_iff (x : Execution) (d : ProcessData) :
    x.renewed d = d ↔ x.Unchanging d := by
  constructor
  · intro h
    refine ⟨?_, ?_, fun left hl => ?_⟩
    · exact (congrArg ProcessData.executable h).symm
    · exact (congrArg ProcessData.cmdline h).symm
    · apply (syncFDsAfterExec_eq_self_iff left d.fdInfoMap).mp
      have hm := congrArg ProcessData.fdInfoMap h
      unfold Execution.renewed at hm
      rw [hl] at hm
      exact hm
  · rintro ⟨he, hc, hf⟩
    obtain ⟨exe, cmdline, map⟩ := d
    unfold Execution.renewed
    congr 1
    · exact he.symm
    · exact hc.symm
    · cases hl : x.openFds with
      | error e => rfl
      | ok left => exact (syncFDsAfterExec_eq_self_iff left map).mpr (hf left hl)

/-! ## the state when the new data are read -/

/-- the process data and who refers to them stay the same -/
structure SameRecords (w w' : World SC) : Prop where
  procs : w'.procs = w.procs
  refers : ∀ i, (w'.objs i).processData = (w.objs i).processData
  log : ∃ es, w'.log = w.log ++ es ∧ ∀ e ∈ es, e.isPassing = true

theorem SameRecords.trans {w w' w'' : World SC} (h : SameRecords w w') (h' : SameRecords w' w'') :
    SameRecords w w'' := by
  refine ⟨h'.procs.trans h.procs, fun i => (h'.refers i).trans (h.refers i), ?_⟩
  obtain ⟨es, he, hes⟩ := h.log
  obtain ⟨es', he', hes'⟩ := h'.log
  refine ⟨es ++ es', by rw [he', he, List.append_assoc], fun e hm => ?_⟩
  rcases List.mem_append.mp hm with hm | hm
  · exact hes e hm
  · exact hes' e hm

theorem PassesBy.sameRecords {w w' : World SC} (h : PassesBy w w') : SameRecords w w' :=
  ⟨h.procs, fun i => by
    have hi : (w'.objs i).lasting.processData = (w.objs i).lasting.processData := by
      rw [h.lasting i]
    exact hi, h.log⟩

theorem SameRecords.setObj (w : World SC) {id : TraceeId} {t : Tracee}
    (h : t.processData = (w.objs id).processData) : SameRecords w (w.setObj id t) := by
  refine ⟨rfl, fun i => ?_, [], by simp, by simp⟩
  by_cases hi : i = id
  · subst hi
    rw [World.setObj_self]
    exact h
  · rw [World.setObj_of_ne w t hi]

theorem SameRecords.of_passing {α : Type} {x : Step SC α} (hx : Passing x) {w w' : World SC}
    {r : Except Exc α} (h : x w = (r, w')) : SameRecords w w' := by
  have hp : PassesBy w (x w).2 := hx w trivial
  rw [h] at hp
  exact hp.sameRecords

/-- the data of the replaced thread are taken over, but not the process data -/
theorem sameRecords_syncState {id old : TraceeId} {w w' : World SC} (hne : old ≠ id)
    (h : syncState env id old w = (.ok (), w')) :
    SameRecords w w' ∧ (w'.objs id).ptrace = (w.objs id).ptrace := by
  unfold syncState at h
  rw [run_bind_ok (run_getTracee old w), run_bind_ok (run_modifyTracee id _ w),
    run_bind_ok (run_modifyTracee old _ _)] at h
  generalize hw1 : w.setObj id _ = w1 at h
  have h1 : SameRecords w w1 := by
    subst hw1
    exact SameRecords.setObj w rfl
  have hp1 : (w1.objs id).ptrace = (w.objs id).ptrace := by
    subst hw1
    rw [World.setObj_self]
  generalize hw2 : w1.setObj old _ = w2 at h
  have h2 : SameRecords w1 w2 := by
    subst hw2
    exact SameRecords.setObj w1 rfl
  have hp2 : w2.objs id = w1.objs id := by
    subst hw2
    exact World.setObj_of_ne w1 _ hne.symm
  have hdead : Lets env True old w2 (changeState env old .dead w2).2 := letting_dead w2 trivial
  rw [h] at hdead
  refine ⟨h1.trans (h2.trans (SameRecords.of_passing (passing_changeState old .dead) h)), ?_⟩
  rw [hdead.others id hne.symm, hp2, hp1]

theorem ptrace_replaceLeader {it : Iter} {mainPid formerPid : ProcessID} {w w' : World SC}
    (hne : ∀ old, w.tracees.find? formerPid = some (some old) → old ≠ it.id)
    (h : replaceLeader env it mainPid formerPid w = (.ok (), w')) :
    SameRecords w w' ∧ (w'.objs it.id).ptrace
      = if w.tracees.find? formerPid = none then mainPid else (w.objs it.id).ptrace := by
  unfold replaceLeader at h
  obtain ⟨r, w1, hsub, h⟩ := of_bind_ok h
  have h1 : SameRecords w w1 := SameRecords.of_passing (passing_handleSubstitution formerPid) hsub
  cases r with
  | none =>
    have hnone : w.tracees.find? formerPid = none ∧ w1 = w := by
      unfold handleSubstitution at hsub
      rw [run_read_bind] at hsub
      cases hf : w.tracees.find? formerPid with
      | none =>
        rw [hf] at hsub
        exact ⟨rfl, (Prod.mk.inj hsub).2.symm⟩
      | some e =>
        rw [hf] at hsub
        obtain ⟨old, u1, -, hsub⟩ := of_bind_ok hsub
        obtain ⟨_, u2, -, hsub⟩ := of_bind_ok hsub
        obtain ⟨_, u3, -, hsub⟩ := of_bind_ok hsub
        cases congrArg Prod.fst hsub
    have hset : setPID it.id mainPid w1 = (.ok (), w') := h
    unfold setPID at hset
    rw [run_modifyTracee] at hset
    rw [← (Prod.mk.inj hset).2, if_pos hnone.1]
    refine ⟨h1.trans (SameRecords.setObj w1 rfl), ?_⟩
    rw [World.setObj_self]
  | some old =>
    obtain ⟨u, hlets, hf, hw1⟩ := handleSubstitution_some hsub
    have hold : old ≠ it.id := hne old hf
    have hobj : w1.objs it.id = w.objs it.id := by
      rw [hw1]
      exact hlets.others it.id hold.symm
    obtain ⟨_, w2, hsync, h⟩ := of_bind_ok (show (syncState env it.id old >>= fun _ =>
      destroy env old : Step SC Unit) w1 = (.ok (), w') from h)
    obtain ⟨h2, hp2⟩ := sameRecords_syncState hold hsync
    have hgone : Lets env True old w2 (destroy env old w2).2 := letting_destroy w2 trivial
    rw [h] at hgone
    refine ⟨h1.trans (h2.trans (SameRecords.of_passing (passing_destroy old) h)), ?_⟩
    rw [if_neg (by rw [hf]; exact fun h => nomatch h), hgone.others it.id hold.symm, hp2, hobj]

/-- the new data are written into the record of the tracee -/
theorem run_renew {id : TraceeId} {w : World SC} {x : Execution}
    (hexe : env.exe w.log (w.objs id).ptrace = x.exe)
    (hcmd : env.cmdline w.log (w.objs id).ptrace = x.cmdline)
    (hfds : env.openFds w.log (w.objs id).ptrace = x.openFds) :
    (updateExecInfo env id >>= fun _ => dropClosedFDs env id : Step SC Unit) w
      = (.ok (), w.setProc (w.objs id).processData
          (x.renewed (w.procs (w.objs id).processData))) := by
  have hmodify : ∀ (f : ProcessData → ProcessData) (d : ProcessData),
      modifyProc id f (w.setProc (w.objs id).processData d)
        = (.ok (), w.setProc (w.objs id).processData (f d)) := by
    intro f d
    show (_, (w.setProc _ d).setProc _ (f ((w.setProc _ d).procs _))) = _
    unfold World.setProc
    dsimp only
    rw [Function.update_self, Function.update_idem]
  have hexec : updateExecutable env id w = (.ok (), w.setProc (w.objs id).processData
      { w.procs (w.objs id).processData with
        executable := match x.exe with
          | .ok exe => exe
          | .error _ => "" }) := by
    unfold updateExecutable
    rw [run_read_bind, hexe]
    cases x.exe <;> rfl
  unfold updateExecInfo
  rw [assoc_bind, run_bind_ok hexec]
  generalize hd : ({ w.procs (w.objs id).processData with
    executable := match x.exe with
      | .ok exe => exe
      | .error _ => "" } : ProcessData) = d
  have hline : updateCmdLine env id (w.setProc (w.objs id).processData d)
      = (.ok (), w.setProc (w.objs id).processData { d with cmdline := x.cmdline.getD [] }) := by
    unfold updateCmdLine
    rw [run_read_bind]
    show modifyProc id (fun d =>
      { d with cmdline := (env.cmdline w.log (w.objs id).ptrace).getD [] })
      (w.setProc (w.objs id).processData d) = _
    rw [hmodify, hcmd]
  rw [run_bind_ok hline]
  unfold dropClosedFDs
  rw [run_read_bind]
  show (match env.openFds w.log (w.objs id).ptrace with
    | .ok left => modifyProc id fun d =>
        { d with fdInfoMap := syncFDsAfterExec left d.fdInfoMap }
    | .error _ => pure () : Step SC Unit) (w.setProc (w.objs id).processData _) = _
  rw [hfds]
  subst hd
  unfold Execution.renewed
  cases x.openFds with
  | ok left => exact hmodify _ _
  | error e => rfl

theorem records_notify {it : Iter} {c : Callback} {w w' : World SC} {r : Except Exc Unit}
    (h : notify env it c w = (r, w')) :
    w'.procs = w.procs ∧ ∀ i, (w'.objs i).processData = (w.objs i).processData := by
  have hp : PassesBy (w.say (.callback c)) (notify env it c w).2 := passesBy_notify it c w
  rw [h] at hp
  exact ⟨hp.procs, hp.sameRecords.refers⟩

/-! ## handling the event -/

/-- nothing but the record of the tracee changes, and everybody goes on to refer to the same one -/
structure Renews (id : TraceeId) (x : Execution) (w w' : World SC) : Prop where
  procs : w'.procs = Function.update w.procs (w.objs id).processData
    (x.renewed (w.procs (w.objs id).processData))
  refers : ∀ i, (w'.objs i).processData = (w.objs i).processData

theorem handleExecEvent_renews {it : Iter} {mainPid : ProcessID} {w w' : World SC} {x : Execution}
    (hne : ∀ old, w.tracees.find? x.formerPid = some (some old) → x.formerPid ≠ mainPid →
      old ≠ it.id)
    (hx : Reports env w.log mainPid (w.execPid it.id mainPid x.formerPid) x)
    (h : handleExecEvent env it mainPid w = (.ok (), w')) : Renews it.id x w w' := by
  unfold handleExecEvent at h
  rw [run_read_bind] at h
  obtain ⟨formerPid, w1, hq, h⟩ := of_bind_ok h
  have h1 : SameRecords w w1 := SameRecords.of_passing (Passing.query it.id _ _) hq
  obtain ⟨-, hformer, hw1⟩ := query_ok hq
  have hsame : formerPid = x.formerPid := by
    rw [hformer, ← (hx [] fun _ h => nomatch h).1, List.append_nil]
  rw [run_bind_ok (run_say _ w1)] at h
  generalize hw2 : w1.say _ = w2 at h
  have h2 : SameRecords w1 w2 := by
    subst hw2
    exact (PassesBy.said w1 rfl).sameRecords
  have ht2 : w2.tracees = w.tracees := by
    rw [← hw2, hw1]
    rfl
  have ho2 : w2.objs = w.objs := by
    rw [← hw2, hw1]
    rfl
  obtain ⟨_, w3, hlead, h⟩ := of_bind_ok h
  have h3 : SameRecords w2 w3 ∧ (w3.objs it.id).ptrace = w.execPid it.id mainPid x.formerPid := by
    unfold World.execPid
    by_cases hp : formerPid = mainPid
    · rw [when_neg (not_not_intro hp)] at hlead
      rw [← (Prod.mk.inj hlead).2, if_neg (fun h => h.1 (hsame ▸ hp)), ho2]
      exact ⟨(PassesBy.refl w2).sameRecords, rfl⟩
    · rw [when_pos hp] at hlead
      have hl := ptrace_replaceLeader (fun old hold =>
        hne old (by rw [← ht2, ← hsame]; exact hold) (hsame ▸ hp)) hlead
      rw [ht2, ho2, hsame] at hl
      refine ⟨hl.1, hl.2.trans ?_⟩
      by_cases hf : w.tracees.find? x.formerPid = none
      · rw [if_pos hf, if_pos ⟨hsame ▸ hp, hf⟩]
      · rw [if_neg hf, if_neg fun h => hf h.2]
  have hsofar : SameRecords w w3 := h1.trans (h2.trans h3.1)
  obtain ⟨es, hes, hpass⟩ := hsofar.log
  obtain ⟨-, hexe, hcmd, hfds⟩ := hx es hpass
  rw [← hes, ← h3.2] at hexe hcmd hfds
  have hrun := run_renew hexe hcmd hfds
  obtain ⟨_, w4, hinfo, h⟩ := of_bind_ok h
  obtain ⟨_, w5, hdrop, h⟩ := of_bind_ok h
  rw [run_bind_ok hinfo, hdrop] at hrun
  obtain ⟨hprocs, hrefers⟩ := records_notify h
  refine ⟨?_, fun i => ?_⟩
  · rw [hprocs, (Prod.mk.inj hrun).2]
    show Function.update w3.procs (w3.objs it.id).processData _ = _
    rw [hsofar.procs, hsofar.refers]
  · rw [hrefers, (Prod.mk.inj hrun).2]
    exact hsofar.refers i

theorem records_restartTracee {it : Iter} {w w' : World SC} {r : Except Exc Unit}
    (h : restartTracee env it w = (r, w')) :
    w'.procs = w.procs ∧ ∀ i, (w'.objs i).processData = (w.objs i).processData := by
  let R : World SC → World SC → Prop := fun w w' =>
    w'.procs = w.procs ∧ ∀ i, (w'.objs i).processData = (w.objs i).processData
  have hR : Walk (fun _ : World SC => True) R :=
    ⟨fun _ => ⟨rfl, fun _ => rfl⟩,
      fun h h' => ⟨h'.1.trans h.1, fun i => (h'.2 i).trans (h.2 i)⟩, fun _ _ => trivial⟩
  have hpass : ∀ {α : Type} {x : Step SC α}, Passing x → Along (fun _ : World SC => True) R x :=
    fun hx w hw => ⟨(hx w hw).procs, (hx w hw).sameRecords.refers⟩
  have hx : Along (fun _ : World SC => True) R (restartTracee env it : Step SC Unit) := by
    refine Along.bind hR (hpass (Passing.getTracee it.id)) fun t =>
      Along.ite (fun _ => Along.pure hR ()) fun _ =>
      Along.bind hR (hpass (Passing.request it.id _)) fun _ => Along.when hR fun _ => ?_
    refine Along.bind hR (hpass (passing_changeState it.id .running)) fun _ =>
      Along.when hR fun _ => ?_
    exact fun w _ => records_notify (Prod.eta _).symm
  have := hx w trivial
  rwa [h] at this

theorem Reports.mono {log : Log} {mainPid pid : ProcessID} {x : Execution}
    (h : Reports env log mainPid pid x) {es : Log} (hes : ∀ e ∈ es, e.isPassing = true) :
    Reports env (log ++ es) mainPid pid x := by
  intro es' hes'
  rw [List.append_assoc]
  apply h
  intro e hm
  rcases List.mem_append.mp hm with hm | hm
  · exact hes e hm
  · exact hes' e hm

theorem processEvent_renews {v v' : World SC} {data : ChildState} {id : TraceeId} {signal : Signal}
    {x : Execution} (hB : Base v) (hk : v.tracees.find? data.pid = some (some id))
    (hd : data.event = .trapped (.event signal .exec))
    (hf : (v.objs id).flags.detachAtNextStop = false)
    (hx : Reports env v.log data.pid (v.execPid id data.pid x.formerPid) x)
    (h : processEvent env ⟨data.pid, id⟩ data v = (.ok (), v')) : Renews id x v v' := by
  rw [run_processEvent_event hd hf] at h
  obtain ⟨_, u, hexec, hrestart⟩ := of_bind_ok h
  have hpid : (v.decoding id data).execPid id data.pid x.formerPid
      = v.execPid id data.pid x.formerPid := by
    unfold World.execPid
    rw [ptrace_decoding]
    rfl
  have hren : Renews id x (v.decoding id data) u := by
    apply handleExecEvent_renews _ _ hexec
    · rintro old hold hne rfl
      exact hne (hB.inj hold hk)
    · rw [hpid]
      exact hx.mono fun e hm => by rw [List.mem_singleton.mp hm]; rfl
  have hdec : SameRecords v (v.decoding id data) :=
    ((PassesBy.said v (e := .deliver id data) rfl).sameRecords).trans
      (SameRecords.setObj _ rfl)
  obtain ⟨hprocs, hrefers⟩ := records_restartTracee hrestart
  refine ⟨?_, fun i => ?_⟩
  · rw [hprocs, hren.procs, hdec.procs, hdec.refers]
  · rw [hrefers, hren.refers, hdec.refers]

/-- in every run: when a tracee calls `execve()`, another tracee that shares its process data keeps
its own, and the caller gets those of the new image, exactly if the new image changes nothing -/
theorem sparesOthers_iff {w v v' : World SC} {data : ChildState} {id o : TraceeId}
    {signal : Signal} {x : Execution} (hw : Reachable env w) (hr : Receives env data w id v)
    (hd : data.event = .trapped (.event signal .exec))
    (hf : (v.objs id).flags.detachAtNextStop = false)
    (hx : Reports env v.log data.pid (v.execPid id data.pid x.formerPid) x)
    (hs : (v.objs o).processData = (v.objs id).processData)
    (h : processEvent env ⟨data.pid, id⟩ data v = (.ok (), v')) :
    SparesOthers v v' id o x ↔ x.Unchanging (v.procs (v.objs id).processData) := by
  obtain ⟨hB, -, hk⟩ := hr.base hw.settled
  have hren : Renews id x v v' := processEvent_renews hB hk hd hf hx h
  have hown : ∀ i, (v.objs i).processData = (v.objs id).processData →
      v'.procs (v'.objs i).processData = x.renewed (v.procs (v.objs id).processData) := by
    intro i hi
    rw [hren.refers, hi, hren.procs, Function.update_self]
  rw [← Execution.renewed_eq_self_iff]
  constructor
  · intro hspare
    have hother := hspare.other
    rwa [hown o hs, hs] at hother
  · intro hsame
    have hunch := (Execution.renewed_eq_self_iff x _).mp hsame
    have hown' := (hown id rfl).trans hsame
    refine ⟨?_, fun exe he => ?_, fun args ha => ?_, fun left hl fd => ?_⟩
    · rw [hown o hs, hsame, hs]
    · rw [hown', hunch.exe, he]
    · rw [hown', hunch.cmdline, ha]
      rfl
    · rw [hown']
      split_ifs with hfd
      · rfl
      · rw [Option.eq_none_iff_forall_ne_some]
        exact fun info hi => hfd (hunch.fds left hl fd info hi)

/-! ### a process that shares its descriptors with a child -/

def execEvent : ChildState := ⟨100, .trapped (.event Signal.trap .exec)⟩

def hasExeced (log : Log) : Bool := log.any fun e => e == .wait execEvent

/-- `clone(CLONE_FILES | SIGCHLD)`, which returns 101, and an `execve()` that runs `exe` and
leaves the descriptors `left` open -/
def shareEnv (exe : String) (left : List FileNum) : Env :=
  { scriptEnv [.entry ⟨56, fun i => if i = 0 then 0x411 else 0⟩, .exit (.retVal 101),
      .entry ⟨59, fun _ => 0⟩] with
    toGeneric := fun _ nr => if nr = 56 then .clone else .execve
    pidEventMsg := fun log _ => if hasExeced log then 100 else 101
    exe := fun log _ => .ok (if hasExeced log then exe else "/bin/sh")
    cmdline := fun _ _ => some ["sh"]
    fdInfos := fun _ _ => .ok [{ type := .fsPath, fd := 3, path := "/etc/passwd" }]
    openFds := fun _ _ => .ok left }

def shareRun : List Op :=
  [.addForeign 100 true false ProcessID.invalid false,
    .event ⟨100, .trapped (.event Signal.trap .stop)⟩,
    .event ⟨100, .trapped .sysTrap⟩,
    .event ⟨100, .trapped (.event Signal.trap .clone)⟩,
    .event ⟨101, .trapped (.event Signal.trap .stop)⟩,
    .event ⟨100, .trapped .sysTrap⟩,
    .event ⟨100, .trapped .sysTrap⟩]

/-- the state in which the event of the `execve()` is delivered -/
def shareWorld (exe : String) (left : List FileNum) : World (SystemCall (TaskItems Unit)) :=
  (runOps (shareEnv exe left) shareRun {}).say (.wait execEvent)

def shareExecution (exe : String) (left : List FileNum) : Execution :=
  { formerPid := 100, exe := .ok exe, cmdline := some ["sh"], openFds := .ok left }

theorem share_reports (exe : String) (left : List FileNum) (log : Log) (pid : ProcessID) :
    Reports (shareEnv exe left) (log ++ [.wait execEvent]) 100 pid (shareExecution exe left) := by
  intro es _
  have hexec : hasExeced (log ++ [.wait execEvent] ++ es) = true := by
    unfold hasExeced
    simp
  refine ⟨?_, ?_, rfl, rfl⟩
  · show (if hasExeced _ = true then _ else _ : ProcessID) = 100
    rw [if_pos hexec]
  · show Except.ok (if hasExeced _ = true then exe else _) = Except.ok exe
    rw [if_pos hexec]

/-- the state after the event was handled -/
def shareAfter (exe : String) (left : List FileNum) : World (SystemCall (TaskItems Unit)) :=
  (processEvent (shareEnv exe left) ⟨100, 0⟩ execEvent (shareWorld exe left)).2

theorem run_shareAfter (exe : String) (left : List FileNum)
    (h : (processEvent (shareEnv exe left) ⟨100, 0⟩ execEvent (shareWorld exe left)).1 = .ok ()) :
    processEvent (shareEnv exe left) ⟨100, 0⟩ execEvent (shareWorld exe left)
      = (.ok (), shareAfter exe left) := by
  rw [← h]
  rfl

/-- the same program is run again, and nothing is closed -/
theorem sparesOthers_again :
    SparesOthers (shareWorld "/bin/sh" [3]) (shareAfter "/bin/sh" [3]) 0 1
      (shareExecution "/bin/sh" [3]) := by
  have hreach : Reachable (shareEnv "/bin/sh" [3])
      (runOps (shareEnv "/bin/sh" [3]) shareRun ({} : World (SystemCall (TaskItems Unit)))) :=
    (Reaches.start false).run shareRun (by decide +kernel)
  refine (sparesOthers_iff hreach (.known (by decide +kernel)) rfl (by decide +kernel)
    (share_reports "/bin/sh" [3] _ _) (by decide +kernel)
    (run_shareAfter "/bin/sh" [3] (by decide +kernel))).mpr
      ⟨by decide +kernel, by decide +kernel, ?_⟩
  intro left hl fd info hi
  have hkeys : ((shareWorld "/bin/sh" [3]).procs
      ((shareWorld "/bin/sh" [3]).objs 0).processData).fdInfoMap.keys = [3] := by decide +kernel
  have hfd : fd ∈ ((shareWorld "/bin/sh" [3]).procs
      ((shareWorld "/bin/sh" [3]).objs 0).processData).fdInfoMap.keys :=
    (OrdMap.mem_keys_iff _ fd).mpr ⟨info, hi⟩
  rw [hkeys] at hfd
  rw [← Except.ok.inj hl]
  exact hfd

theorem sparesOthers_fails : ¬ ∀ (env : Env) (w v v' : World (SystemCall (TaskItems Unit)))
    (data : ChildState) (id o : TraceeId) (signal : Signal) (x : Execution),
    Reachable env w → Receives env data w id v →
    data.event = .trapped (.event signal .exec) → (v.objs id).flags.detachAtNextStop = false →
    Reports env v.log data.pid (v.execPid id data.pid x.formerPid) x →
    Entry.callback (.newChildProcess id o .clone { clonedThread := false }) ∈ v.log →
    v.Tracked o → o ≠ id → (v.objs o).processData = (v.objs id).processData →
    processEvent env ⟨data.pid, id⟩ data v = (.ok (), v') → SparesOthers v v' id o x := by
  intro h
  have hreach : Reachable (shareEnv "/bin/true" [])
      (runOps (shareEnv "/bin/true" []) shareRun ({} : World (SystemCall (TaskItems Unit)))) :=
    (Reaches.start false).run shareRun (by decide +kernel)
  have hspare := h _ _ (shareWorld "/bin/true" []) _ execEvent 0 1 Signal.trap
    (shareExecution "/bin/true" []) hreach (.known (by decide +kernel)) rfl (by decide +kernel)
    (share_reports "/bin/true" [] _ _) (by decide +kernel) ⟨101, by decide +kernel⟩ (by decide)
    (by decide +kernel) (run_shareAfter "/bin/true" [] (by decide +kernel))
  have hexe := congrArg ProcessData.executable hspare.other
  revert hexe
  decide +kernel

end Clues
