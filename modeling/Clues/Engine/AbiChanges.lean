import Clues.Engine.AbiStops
import Clues.Engine.Loop
import Clues.Engine.Resumes

/-!
# Changes of the ABI

The flag `ABI_CHANGED` follows the last use of an object that was made for the same number, if the
kernel reports the stops of a tracee one after the other (`OneByOne`).

* `given_processEvent`   the handling of an event, from which this follows for a whole run;
* `abiFlagged_iff`       the flags are right iff the last entries with the same numbers agree with the
                         last entries.
-/

set_option linter.unusedSectionVars false

namespace Clues

open Lib Lib.Exec Lib.History Step

variable {SC : Type} [SyscallOps SC] {env : Env} {w v : World SC} {a : TraceeId} {s : Scene}
  {H : TraceeId → Uses}

/-! ## stops that come one after the other -/

/-- this holds if no stop was reported too early -/
def Given (Q : World SC → Prop) (w : World SC) : Prop := Always OneByOne w.log → Q w

theorem log_of_settles {A : Entry → Bool} {K : Prop} {n : TraceeId} (hs : Settles A K n w v) :
    w.log <+: v.log := by
  obtain ⟨es, he, -⟩ := hs.log
  rw [he]
  exact List.prefix_append _ _

theorem given_triple {α : Type} {x : Step SC α} {A : Entry → Bool} {K : Prop}
    {Q : World SC → Prop} {R : α → World SC → Prop} {E : Exc → World SC → Prop}
    (hx : Settling A K 0 x) (h : Triple Q x R E) :
    Triple (Given Q) x (fun b => Given (R b)) fun e => Given (E e) := by
  intro v hv
  have hlog : v.log <+: (x v).2.log := log_of_settles (hx v (Nat.zero_le _))
  have hfinal : Always OneByOne (x v).2.log → Q v := fun hlaw => hv (hlaw.mono hlog)
  have hx' := h v
  cases hr : x v with
  | mk r u =>
    rw [hr] at hx' hfinal
    cases r with
    | ok b => exact fun hlaw => hx' (hfinal hlaw)
    | error e => exact fun hlaw => hx' (hfinal hlaw)

theorem Given.settles (h : Given (Resting env) w) {n : TraceeId}
    (hs : Settles Entry.isMark True n w v) : Given (Resting env) v := fun hlaw =>
  (h (hlaw.mono (log_of_settles hs))).settles hs

theorem keeps_given {α : Type} {x : Step SC α} (hx : Settling Entry.isMark True 0 x) :
    Keeps (Given (Resting env)) x := fun w hw => hw.settles (hx w (Nat.zero_le _))

theorem Given.same (h : Given (Resting env) w) (hobjs : (v.nextObj, v.objs) = (w.nextObj, w.objs))
    (hcalls : (v.nextCall, v.calls) = (w.nextCall, w.calls)) (hlog : v.log = w.log) :
    Given (Resting env) v := by
  simp only [Prod.mk.injEq] at hobjs hcalls
  obtain ⟨hn, ho⟩ := hobjs
  obtain ⟨hk, hc⟩ := hcalls
  intro hlaw
  rw [hlog] at hlaw
  obtain ⟨hkept, hlooked⟩ := h hlaw
  constructor
  · rw [hlog]
    exact hkept.still ⟨hc, hk, fun _ => Or.inl (by rw [ho])⟩ hn.ge
  · rw [hlog, requested_of_calls hc]
    exact hlooked

/-- no entry at all -/
def Entry.isNone : Entry → Bool := fun _ => false

instance : Rare Entry.isNone := ⟨fun _ h => nomatch h⟩

theorem isAttached_of_isNone (e : Entry) (h : e.isNone = true) : e.isAttached = true := nomatch h

/-! ## system call stops -/

/-- what is known when a stop was reported -/
def reportScene (env : Env) (a : TraceeId) (pid : ProcessID) (w : World SC) : Scene where
  id := a
  num := w.requested
  abis := abis env (w.log ++ [.request a (.getSyscallInfo pid) none])
  known := Idle w.log
  busy b := b = a
  ready := True

section
variable {pid : ProcessID}

theorem reportScene_abis : (reportScene env a pid w).abis = Function.update (abis env w.log) a
    { abis env w.log a with
      nr := (env.report w.log pid).enteredNr env
      entered := (env.report w.log pid).enteredAbi env } := by
  show abis env (w.log ++ [_]) = _
  rw [abis_snoc]
  rfl

theorem reportScene_uses : (reportScene env a pid w).uses = fun b => (abis env w.log b).uses := by
  funext b
  show ((reportScene env a pid w).abis b).uses = _
  rw [reportScene_abis, Function.update_apply]
  split_ifs with hb
  · rw [hb]
    rfl
  · rfl

theorem underway_report (h : Resting env w) (hlt : a < w.nextObj) :
    Underway env (reportScene env a pid w) (reportScene env a pid w).uses
      (w.say (.request a (.getSyscallInfo pid) none)) := by
  refine ⟨?_, fun _ _ => rfl, rfl, always_snoc_iff.mpr ⟨h.looked, trivial⟩, Extends.refl _, hlt,
    fun b hb => ?_, fun _ _ => trivial⟩
  · rw [reportScene_uses]
    exact h.kept.still ⟨rfl, rfl, fun _ => Or.inl rfl⟩ le_rfl
  · have hne : b ≠ a := by
      rintro rfl
      exact Ledger.stage_stopReport _ _ hb.1
    refine ⟨⟨?_, fun hd => hb.2 (hd.append _)⟩, hne⟩
    have hs : stage (w.log ++ [.request a (.getSyscallInfo pid) none]) b = .idle := hb.1
    rw [stage_snoc] at hs
    exact (Function.update_of_ne hne ..).symm.trans hs

end

/-- the tracee was found, and its last stop is not handled any more -/
structure Waiting (env : Env) (a : TraceeId) (w : World SC) : Prop where
  resting : Resting env w
  lt : a < w.nextObj
  stage : stage w.log a ≠ .handling

theorem Waiting.standing (h : Waiting env a w) : Standing env a w := h.resting.standing h.stage

theorem waiting_triple {α : Type} {x : Step SC α} (hx : Settling Entry.isMark True 0 x) :
    Triple (Waiting env a) x (fun _ => Waiting env a) fun _ => Resting env := by
  have hkeep : Keeps (Waiting env a) x := by
    intro w hw
    have hs := hx w (Nat.zero_le _)
    refine ⟨hw.resting.settles hs, hw.lt.trans_le hs.nextObj, fun hst => hw.stage ?_⟩
    obtain ⟨es, he, hes⟩ := hs.log
    rw [he] at hst
    exact stage_of_append (fun h => nomatch h) hes hst
  exact hkeep.triple fun _ h => h.resting

theorem settling_reported (it : Iter) (info : SystemCallInfo) :
    Settling Entry.isNone False 0 (do
      modifyTracee it.id fun t => { t with syscallInfo := some info }
      saySyscallStop env it.id info
      handleSyscallStop env it info
      modifyTracee it.id fun t => { t with syscallInfo := none } : Step SC Unit) := by
  apply Settling.bind
  · exact Settling.modify (fun _ h => h) fun _ => rfl
  intro _
  apply Settling.bind (settling_saySyscallStop it.id info)
  intro _
  apply Settling.bind (settling_handleSyscallStop isAttached_of_isNone it info)
  exact fun _ => Settling.modify (fun _ h => h) fun _ => rfl

theorem standing_reported (hA : Aware SC) {it : Iter} {pid : ProcessID} (h : Resting env w)
    (hi : Idle w.log it.id) :
    Triple (Underway env (reportScene env it.id pid w) (reportScene env it.id pid w).uses)
      (do
        modifyTracee it.id fun t => { t with syscallInfo := some (env.report w.log pid) }
        saySyscallStop env it.id (env.report w.log pid)
        handleSyscallStop env it (env.report w.log pid)
        modifyTracee it.id fun t => { t with syscallInfo := none } : Step SC Unit)
      (fun _ => Standing env it.id) fun _ => Resting env := by
  have habis : (reportScene env it.id pid w).abis it.id = { abis env w.log it.id with
      nr := (env.report w.log pid).enteredNr env
      entered := (env.report w.log pid).enteredAbi env } := by
    rw [reportScene_abis]
    exact Function.update_self ..
  apply Triple.bind
  · exact underway_triple (Settling.modify (fun _ h => h) fun _ => rfl)
  intro _
  apply Triple.bind (underway_triple (settling_saySyscallStop it.id _))
  intro _
  have hstop : Triple
      (Underway env (reportScene env it.id pid w) (reportScene env it.id pid w).uses)
      (handleSyscallStop env it (env.report w.log pid) : Step SC Unit)
      (fun _ => Standing env it.id) fun _ => Resting env := by
    apply standing_handleSyscallStop hA hi rfl rfl
    · exact congrArg Abis.entered habis
    · exact congrArg Abis.nr habis
    · rw [reportScene_uses]
      exact h.kept.real it.id hi
  apply Triple.bind hstop
  exact fun _ => standing_triple (Settling.modify (fun _ h => h) fun _ => rfl)

theorem given_handleSystemCall (hA : Aware SC) (it : Iter) :
    Triple (Given (Waiting env it.id)) (handleSystemCall env it : Step SC Unit)
      (fun _ => Given (Standing env it.id)) fun _ => Given (Resting env) := by
  have hinfo : Triple (Given (Waiting env it.id))
      (modifyTracee it.id fun t => { t with syscallInfo := some {} } : Step SC Unit)
      (fun _ => Given (Waiting env it.id)) fun _ => Given (Resting env) := by
    have hx : Settling Entry.isMark True 0 (modifyTracee it.id fun t =>
        { t with syscallInfo := some {} } : Step SC Unit) :=
      Settling.modify (fun _ h => h) fun _ => rfl
    exact given_triple hx (waiting_triple hx)
  apply Triple.bind hinfo
  intro _ v hv
  generalize hpid : (v.objs it.id).ptrace = pid
  rw [run_bind_ok (run_getTracee it.id v), hpid]
  cases hr : env.request v.log (.getSyscallInfo pid) with
  | some e =>
    rw [run_bind_error (run_query_error it.id _ hr)]
    intro hlaw
    have hv := hv (hlaw.mono (List.prefix_append _ _))
    have hsaid : Caching env (Idle v.log) (v.say (.request it.id (.getSyscallInfo pid) (some e))) :=
      Caching.say hv.resting (abis_snoc _ _) trivial
    apply hsaid.mono
    intro b hb
    refine ⟨?_, fun hd => hb.2 (hd.append _)⟩
    have hs := hb.1
    rw [World.say_log, stage_snoc] at hs
    exact hs
  | none =>
    rw [run_bind_ok (run_query_ok it.id _ hr)]
    by_cases hlaw : Always OneByOne (v.log ++ [.request it.id (.getSyscallInfo pid) none])
    · obtain ⟨hlog, hi⟩ := always_snoc_iff.mp hlaw
      have hv := hv hlog
      exact given_triple (settling_reported it _) (standing_reported hA hv.resting hi) _ fun _ =>
        underway_report hv.resting hv.lt
    · -- the stop came too early, and nothing is said about this run any more
      have hnever : Triple (fun _ : World SC => False) (do
          modifyTracee it.id fun t => { t with syscallInfo := some (env.report v.log pid) }
          saySyscallStop env it.id (env.report v.log pid)
          handleSyscallStop env it (env.report v.log pid)
          modifyTracee it.id fun t => { t with syscallInfo := none } : Step SC Unit)
          (fun _ => Standing env it.id) fun _ => Resting env := fun _ hF => hF.elim
      exact given_triple (settling_reported it _) hnever _ fun h => hlaw h

/-! ## restarts -/

theorem rests_restartTracee (it : Iter) :
    Triple (Standing env it.id) (restartTracee env it : Step SC Unit) (fun _ => Resting env)
      fun _ => Resting env := by
  apply Triple.bind (standing_triple (Settling.getTracee it.id))
  intro t
  apply Triple.ite
  · exact fun _ => Triple.pure fun _ hv => hv.resting
  intro _
  have hrequest : Triple (Standing env it.id)
      (request env it.id (.restart t.ptrace t.restartMode t.injectSig) : Step SC Unit)
      (fun _ => Resting env) fun _ => Resting env := by
    intro v hv
    have hsaid : ∀ o, Resting env
        (v.say (.request it.id (.restart t.ptrace t.restartMode t.injectSig) o)) := by
      intro o
      have hc : Caching env (Restartable v.log it.id)
          (v.say (.request it.id (.restart t.ptrace t.restartMode t.injectSig) o)) :=
        Caching.say hv (abis_snoc _ _) trivial
      apply hc.mono
      rintro b ⟨hs, hd⟩
      have hd' : ¬ Departed v.log b := fun h => hd (h.append _)
      rw [World.say_log, stage_snoc] at hs
      cases o with
      | some e => exact Or.inl ⟨hs, hd'⟩
      | none =>
        have hupdate : Function.update (stage v.log) it.id
            (if stage v.log it.id = .handling then .idle else stage v.log it.id) b = .idle := hs
        by_cases hb : b = it.id
        · subst hb
          rw [Function.update_self] at hupdate
          split_ifs at hupdate with hh
          · exact Or.inr ⟨rfl, hh, hd'⟩
          · exact Or.inl ⟨hupdate, hd'⟩
        · rw [Function.update_of_ne hb] at hupdate
          exact Or.inl ⟨hupdate, hd'⟩
    rw [run_request]
    cases env.request v.log (.restart t.ptrace t.restartMode t.injectSig) with
    | none => exact hsaid none
    | some e => exact hsaid (some e)
  apply Triple.bind hrequest
  intro _
  apply (keeps_resting _).triple fun _ h => h
  apply Settling.when
  apply Settling.bind (settling_changeState it.id .running)
  exact fun _ => Settling.when (settling_notify it rfl)

/-! ## execve -/

/-- what is known when an `execve()` was reported, by which `a` may replace another tracee -/
def execScene (env : Env) (a : TraceeId) (former : ProcessID) (old : Option TraceeId)
    (w : World SC) : Scene where
  id := a
  num := w.requested
  abis := abis env (w.log ++ [.execed a former old])
  known := Idle w.log
  busy b := b = a ∨ old = some b
  ready := Idle w.log (old.getD a) ∧ old ≠ some a

section
variable {former : ProcessID} {old : Option TraceeId} {o : TraceeId}

theorem execScene_uses : (execScene env a former old w).uses
    = Function.update (fun b => (abis env w.log b).uses) a (abis env w.log (old.getD a)).uses := by
  funext b
  show (abis env (w.log ++ [_]) b).uses = _
  rw [abis_snoc, Function.update_apply]
  show (Function.update (abis env w.log) a (abis env w.log (old.getD a)) b).uses = _
  rw [Function.update_apply]
  split_ifs
  · rfl
  · rfl

theorem underway_execed (h : Resting env w) (hlt : a < w.nextObj) :
    Underway env (execScene env a former old w) (fun b => (abis env w.log b).uses)
      (w.say (.execed a former old)) := by
  refine ⟨h.kept.still ⟨rfl, rfl, fun _ => Or.inl rfl⟩ le_rfl, fun b hb => ?_, rfl,
    always_snoc_iff.mpr ⟨h.looked, trivial⟩, Extends.refl _, hlt, fun b hb => ?_,
    fun hs hd => ?_⟩
  · rw [execScene_uses, Function.update_of_ne fun he => hb (Or.inl he)]
  · have hs : stage (w.log ++ [.execed a former old]) b = .idle := hb.1
    have hne : b ≠ a := by
      rintro rfl
      rw [Ledger.stage_execed] at hs
      split_ifs at hs
    refine ⟨⟨?_, fun hd => hb.2 (hd.append _)⟩, ?_⟩
    · rw [stage_snoc] at hs
      exact (Function.update_of_ne hne ..).symm.trans hs
    · rintro (he | he)
      · exact hne he
      · exact hb.2 (Departed.of_last w.log (he ▸ decide_eq_true rfl))
  · have hs : stage (w.log ++ [.execed a former old]) a = .handling := hs
    rw [Ledger.stage_execed] at hs
    refine ⟨?_, fun he => hd (Departed.of_last w.log (he ▸ decide_eq_true rfl))⟩
    split_ifs at hs with hi
    exact hi

/-- what the tracee refers to is taken over from the one that it replaces -/
def World.synced (w : World SC) (a o : TraceeId) : World SC :=
  let w := w.setObj a { w.objs a with
    syscallInfo := (w.objs o).syscallInfo
    syscallDb := (w.objs o).syscallDb
    currentSyscall := (w.objs o).currentSyscall
    interruptedSyscall := (w.objs o).interruptedSyscall
    syscallCtr := (w.objs o).syscallCtr }
  w.setObj o { w.objs o with syscallDb := fun _ => none }

def Scene.synced (s : Scene) (o : TraceeId) : Scene :=
  { s with known := fun b => s.known b ∧ ¬ s.busy b ∨ b = s.id ∧ s.id ≠ o ∧ s.known o }

theorem underway_synced (ho : s.busy o) (hs : ∀ b, ¬ s.busy b → b ≠ s.id)
    (huses : s.uses s.id = H o) (h : Underway env s H w) :
    Underway env (s.synced o) s.uses (w.synced s.id o) := by
  have hother : ∀ b, ¬ s.busy b → (w.synced s.id o).objs b = w.objs b := by
    intro b hb
    have hbo : b ≠ o := by
      rintro rfl
      exact hb ho
    show (World.setObj _ o _).objs b = _
    rw [World.setObj_of_ne _ _ hbo, World.setObj_of_ne w _ (hs b hb)]
  refine ⟨?_, fun _ _ => rfl, h.abis, h.looked, h.numbers, h.lt, fun b hb => ?_, h.restart⟩
  · refine h.kept.transfer (f := fun b => if b = s.id then o else b) (fun b hb => ?_)
      (fun b b' hb hb' he => ?_) rfl rfl fun b hb hle => ?_
    · obtain ⟨hk, hb⟩ | ⟨rfl, hne, hk⟩ := hb
      · rw [if_neg (hs b hb), hother b hb]
        exact ⟨hk, rfl, (h.others b hb).symm⟩
      · rw [if_pos rfl]
        refine ⟨hk, ?_, huses⟩
        have hobj : (w.synced s.id o).objs s.id = (World.setObj w s.id { w.objs s.id with
            syscallInfo := (w.objs o).syscallInfo
            syscallDb := (w.objs o).syscallDb
            currentSyscall := (w.objs o).currentSyscall
            interruptedSyscall := (w.objs o).interruptedSyscall
            syscallCtr := (w.objs o).syscallCtr }).objs s.id := World.setObj_of_ne _ _ hne
        rw [hobj, World.setObj_self]
        rfl
    · -- the replaced tracee is none of them
      have hbusy : ∀ {x}, (s.synced o).known x → x ≠ s.id → x ≠ o := by
        rintro x (⟨-, hx⟩ | ⟨hx, -⟩) hne hxo
        · exact hx (hxo ▸ ho)
        · exact hne hx
      by_cases hbs : b = s.id
      · by_cases hbs' : b' = s.id
        · rw [hbs, hbs']
        · rw [if_pos hbs, if_neg hbs'] at he
          exact absurd he.symm (hbusy hb' hbs')
      · by_cases hbs' : b' = s.id
        · rw [if_neg hbs, if_pos hbs'] at he
          exact absurd he (hbusy hb hbs)
        · rwa [if_neg hbs, if_neg hbs'] at he
    · have hle : w.nextObj ≤ b := hle
      obtain ⟨hk, hb⟩ | ⟨rfl, -, -⟩ := hb
      · rw [← h.others b hb]
        exact h.kept.unborn b hk hle
      · exact absurd h.lt (not_lt.mpr hle)
  · obtain ⟨hk, hn⟩ := h.idle b hb
    exact ⟨Or.inl ⟨hk, hn⟩, hn⟩

/-- no tracee is replaced iff there is none -/
theorem handleSubstitution_none {pid : ProcessID}
    (h : handleSubstitution env pid w = (.ok none, v)) : w.tracees.find? pid = none := by
  unfold handleSubstitution at h
  rw [run_read_bind] at h
  cases hk : w.tracees.find? pid with
  | none => rfl
  | some e =>
    rw [hk] at h
    obtain ⟨old, w1, -, h⟩ := of_bind_ok h
    obtain ⟨_, w2, -, h⟩ := of_bind_ok h
    obtain ⟨_, w3, -, h⟩ := of_bind_ok h
    cases h

end

/-- the tracee is the thread that called `execve()` -/
theorem standing_notReplaced {former : ProcessID} (h : Underway env (execScene env a former none w)
    (fun b => (abis env w.log b).uses) v) : Standing env a v := by
  have huses : (execScene env a former none w).uses = fun b => (abis env w.log b).uses := by
    rw [execScene_uses]
    exact Function.update_eq_self ..
  rw [← huses] at h
  exact h.standing fun hr => hr.1

theorem standing_replaceLeader {it : Iter} {mainPid former : ProcessID} :
    Triple (fun v => Underway env (execScene env it.id former (w.tracees.find? former).join w)
        (fun b => (abis env w.log b).uses) v ∧ v.tracees = w.tracees)
      (replaceLeader env it mainPid former : Step SC Unit)
      (fun _ => Standing env it.id) fun _ => Resting env := by
  rintro v ⟨hv, htr⟩
  have hsettles : Settles Entry.isMark True 0 v (handleSubstitution env former v).2 :=
    settling_handleSubstitution former v (Nat.zero_le _)
  have hsub := hv.settles hsettles
  unfold replaceLeader
  rw [run_bind]
  cases hr : handleSubstitution env former v with
  | mk r u =>
    rw [hr] at hsub
    cases r with
    | error e => exact hsub.resting
    | ok old =>
      cases old with
      | none =>
        have hnone := handleSubstitution_none hr
        rw [htr] at hnone
        rw [hnone] at hsub
        have hset : Triple (Standing env it.id) (setPID it.id mainPid : Step SC Unit)
            (fun _ => Standing env it.id) fun _ => Resting env :=
          standing_triple (Settling.modify (fun _ h => h) fun _ => rfl)
        exact hset u (standing_notReplaced hsub)
      | some o =>
        obtain ⟨-, -, hk, -⟩ := handleSubstitution_some hr
        rw [htr] at hk
        rw [hk] at hsub
        have huses : (execScene env it.id former (some o) w).uses it.id
            = (abis env w.log o).uses := by
          rw [execScene_uses]
          exact Function.update_self ..
        have hsync :=
          underway_synced (o := o) (Or.inr rfl) (fun b hb he => hb (Or.inl he)) huses hsub
        have hrest : Triple
            (Underway env ((execScene env it.id former (some o) w).synced o)
              (execScene env it.id former (some o) w).uses)
            (changeState env o .dead >>= fun _ => destroy env o : Step SC Unit)
            (fun _ => Standing env it.id) fun _ => Resting env := by
          apply Triple.bind (underway_triple (settling_changeState o .dead))
          intro _
          refine (underway_triple (settling_destroy o)).weaken (fun _ hv => hv) (fun _ _ hv => ?_)
            fun _ _ hv => hv
          apply Underway.standing hv
          rintro ⟨hi, hne⟩
          exact Or.inr ⟨rfl, fun he => hne (congrArg some he.symm), hi⟩
        exact hrest _ hsync

theorem standing_handleExecEvent (it : Iter) (mainPid : ProcessID) :
    Triple (Waiting env it.id) (handleExecEvent env it mainPid : Step SC Unit)
      (fun _ => Standing env it.id) fun _ => Resting env := by
  intro w hw
  unfold handleExecEvent
  rw [run_read_bind]
  cases hr : env.request w.log (.getPIDEventMsg mainPid) with
  | some e =>
    rw [run_bind_error (run_query_error it.id _ hr)]
    exact hw.resting.settles (n := 0) (Settles.said w rfl)
  | none =>
    rw [run_bind_ok (run_query_ok it.id _ hr)]
    generalize env.pidEventMsg w.log mainPid = former
    have hsaid : Resting env (w.say (.request it.id (.getPIDEventMsg mainPid) none)) :=
      hw.resting.settles (n := 0) (Settles.said w rfl)
    generalize hu : w.say (.request it.id (.getPIDEventMsg mainPid) none) = u at hsaid
    have htr : u.tracees = w.tracees := hu ▸ rfl
    have hlt : it.id < u.nextObj := by
      rw [← hu]
      exact hw.lt
    rw [run_bind_ok (run_say _ u)]
    refine Triple.bind (Q := fun _ => Standing env it.id)
      (P := fun v => Underway env (execScene env it.id former
        (if former ≠ mainPid then (u.tracees.find? former).join else none) u)
        (fun b => (abis env u.log b).uses) v ∧ v.tracees = u.tracees) ?_ ?_ _
      ⟨?_, rfl⟩
    · apply Triple.when
      · intro hne
        rw [if_pos hne]
        exact standing_replaceLeader
      · intro heq v hv
        rw [if_neg heq] at hv
        exact standing_notReplaced hv.1
    · intro _
      apply standing_triple
      apply Settling.bind
      · exact Settling.bind (settling_updateExecutable it.id) fun _ => settling_updateCmdLine it.id
      intro _
      apply Settling.bind _ fun _ => settling_notify it rfl
      apply Settling.read
      intro w
      cases env.openFds w.log (w.objs it.id).ptrace with
      | ok left => exact settling_modifyProc it.id _
      | error e => exact Settling.pure ()
    · rw [← htr]
      exact underway_execed hsaid hlt

/-! ## events -/

/-- the stops that are no system call stops -/
theorem standing_handleTrap (it : Iter) (pid : ProcessID) {trap : Trap} (h : trap ≠ .sysTrap) :
    Triple (Waiting env it.id) (handleTrap env it pid trap : Step SC Unit)
      (fun _ => Standing env it.id) fun _ => Resting env := by
  have hsettle : ∀ {x : Step SC Unit}, Settling Entry.isMark True 0 x →
      Triple (Waiting env it.id) x (fun _ => Standing env it.id) fun _ => Resting env := fun hx =>
    (waiting_triple hx).weaken (fun _ hv => hv) (fun _ _ hv => hv.standing) fun _ _ hv => hv
  cases trap with
  | sysTrap => exact absurd rfl h
  | signal signal => exact hsettle (settling_handleSignalStop it signal)
  | event signal event =>
    apply Triple.bind (waiting_triple (settling_changeState it.id .eventStop))
    intro _
    cases event with
    | stop => exact hsettle (settling_handleStopEvent (fun _ => rfl) it signal)
    | exit => exact hsettle (settling_handleExitEvent it)
    | exec => exact standing_handleExecEvent it pid
    | seccomp => exact hsettle (Settling.pure ())
    | clone => exact hsettle (settling_handleNewChildEvent it _)
    | vfork => exact hsettle (settling_handleNewChildEvent it _)
    | vforkDone => exact hsettle (settling_handleNewChildEvent it _)
    | fork => exact hsettle (settling_handleNewChildEvent it _)

theorem settling_handleTrap (it : Iter) (pid : ProcessID) (trap : Trap) :
    Settling Entry.isNone False 0 (handleTrap env it pid trap : Step SC Unit) := by
  cases trap with
  | sysTrap => exact settling_handleSystemCall isAttached_of_isNone it
  | signal signal => exact settling_handleSignalStop it signal
  | event signal event =>
    apply Settling.bind (settling_changeState it.id .eventStop)
    intro _
    cases event with
    | stop => exact settling_handleStopEvent (fun _ => rfl) it signal
    | exit => exact settling_handleExitEvent it
    | exec => exact settling_handleExecEvent isAttached_of_isNone it pid
    | seccomp => exact Settling.pure ()
    | clone => exact settling_handleNewChildEvent it _
    | vfork => exact settling_handleNewChildEvent it _
    | vforkDone => exact settling_handleNewChildEvent it _
    | fork => exact settling_handleNewChildEvent it _

theorem settling_restart (it : Iter) :
    Settling Entry.isNone False 0 (restartTracee env it : Step SC Unit) :=
  settling_restartTracee isAttached_of_isNone it

theorem given_processEvent (hA : Aware SC) {it : Iter} {data : ChildState}
    (hlt : it.id < w.nextObj) (h : Given (Resting env) w) :
    Given (Resting env) (processEvent env it data w).2 := by
  have hrestart : Triple (Given (Standing env it.id)) (restartTracee env it : Step SC Unit)
      (fun _ => Given (Resting env)) fun _ => Given (Resting env) :=
    given_triple (settling_restart it) (rests_restartTracee it)
  have hsaid : Given (Resting env) (w.say (.deliver it.id data)) :=
    h.settles (n := 0) (Settles.said w rfl)
  have hdel : Given (Resting env) (w.delivered it.id data) :=
    hsaid.settles (n := 0) (Settles.setObj _ (fun _ h => h) fun _ => rfl)
  have hwaiting : Given (Waiting env it.id) (w.delivered it.id data) := fun hlaw =>
    ⟨hdel hlaw, hlt, stage_deliver w.log data⟩
  have hstanding : Given (Standing env it.id) (w.delivered it.id data) := fun hlaw =>
    (hwaiting hlaw).standing
  by_cases hend : data.isEnd = true
  · rw [run_processEvent_end hend]
    exact keeps_given (settling_handleEnd it data) _ hdel
  cases hev : data.event with
  | trapped trap =>
    rw [run_processEvent_trapped hev]
    by_cases hflag : (w.objs it.id).flags.detachAtNextStop = true
    · rw [if_pos hflag]
      exact keeps_given (settling_doDetach it.id) _ hdel
    rw [if_neg hflag]
    have htrap : Triple (Given (Waiting env it.id)) (handleTrap env it data.pid trap : Step SC Unit)
        (fun _ => Given (Standing env it.id)) fun _ => Given (Resting env) := by
      by_cases hsys : trap = .sysTrap
      · subst hsys
        exact given_handleSystemCall hA it
      · exact given_triple (settling_handleTrap it data.pid trap)
          (standing_handleTrap it data.pid hsys)
    exact (Triple.bind htrap fun _ => hrestart).final hwaiting
  | signaled signal =>
    rw [run_processEvent_signaled hev]
    have hx : Settling Entry.isMark True 0 (handleSignalStop env it signal : Step SC Unit) :=
      settling_handleSignalStop it signal
    have hstop : Triple (Given (Standing env it.id)) (handleSignalStop env it signal : Step SC Unit)
        (fun _ => Given (Standing env it.id)) fun _ => Given (Resting env) :=
      given_triple hx (standing_triple hx)
    exact (Triple.bind hstop fun _ => hrestart).final hstanding
  | other =>
    rw [run_processEvent_other hev]
    exact hrestart.final hstanding
  | exited status => exact absurd (by unfold ChildState.isEnd; rw [hev]) hend
  | killed signal => exact absurd (by unfold ChildState.isEnd; rw [hev]) hend
  | dumped signal => exact absurd (by unfold ChildState.isEnd; rw [hev]) hend

/-! ## runs -/

theorem soundly_given {α : Type} {x : Step SC α} (hx : Settling Entry.isMark True 0 x)
    (hb : Besides True True 0 x) : Keeps (Soundly (Given (Resting env))) x := fun w hw =>
  ⟨(hb w hw.1).sound hw.1, keeps_given hx w hw.2⟩

theorem serves_resting (hA : Aware SC) :
    Serves env (fun _ _ _ => True) (Soundly (Given (Resting env)) : World SC → Prop) where
  event := by
    intro w it data hit _ hw
    have hside : Besides True True it.id (processEvent env it data : Step SC Unit) :=
      besides_processEvent (fun _ => trivial) (fun _ => trivial) data
    exact ⟨(hside w hw.1).sound hw.1, given_processEvent hA (hw.1 it.id ⟨it.key, hit⟩) hw.2⟩
  contained it := soundly_given (settling_checkContained it) (besides_checkContained it)
  cleanup key := soundly_given (settling_checkCleanupTracee key) (besides_checkCleanupTracee key)
  unknown data :=
    soundly_given (settling_checkUnknownTraceeEvent data) (besides_checkUnknownTraceeEvent data)
  waited data :=
    soundly_given (Settling.say rfl) (besides_say (fun h => nomatch h) fun h => nomatch h)
  newly _ hw := ⟨hw.1, hw.2.same rfl rfl rfl⟩
  forgotten _ hw := ⟨hw.1, hw.2.same rfl rfl rfl⟩
  stored _ hw := ⟨hw.1, hw.2.same rfl rfl rfl⟩
  replayed _ _ _ _ := trivial
  retried _ _ _ := trivial
  addForeign _ _ _ _ _ :=
    soundly_given (settling_addForeign _ _ _ _ _) (besides_addForeign _ _ _ _ _)
  addChild _ _ _ := soundly_given (settling_addChild _ _ _) (besides_addChild _ _ _)
  call c := soundly_given (settling_consumerCall c) (besides_consumerCall c)
  drop key := soundly_given (settling_dropTracee key) (besides_dropTracee key)

theorem resting_start (f : Bool) : Resting env ({ formatFdInfo := f } : World SC) where
  kept :=
    { fresh := fun _ _ => rfl
      unborn := fun _ _ _ => rfl
      real := fun _ _ _ hu => nomatch hu
      db := fun _ _ _ _ hc => nomatch hc
      own := fun _ _ c hc => absurd hc (Shelf.not_has_empty c)
      known := by
        intro b _ nr
        show ABI.unknown = (lastUse _ [] nr).getD .unknown
        rw [lastUse_nil]
        rfl }
  looked := always_nil

section
variable {I : Type} [CallItems I]

/-- if the kernel reports the stops of a tracee one after the other, the flags of all entries are
right iff at each entry the last one with the same number agrees with the last one -/
theorem abiFlagged_iff {w : World (SystemCall I)} (hw : Reachable env w)
    (h : Always OneByOne w.log) :
    AbiFlagged env w ↔ Always (AbiAgrees env w.requested) w.log := by
  have hrest : Soundly (Given (Resting env)) w := by
    apply (serves_resting aware_systemCall).reachable _ hw
    exact fun f => ⟨sound_start f, fun _ => resting_start f⟩
  exact abiFlagged_iff_of_looked (named_of_reachable hw).named (hrest.2 h).looked

end

/-! ### a task that changes its ABI -/

instance (p : Log) (e : Entry) : Decidable (Flagged env p e) := by
  unfold Flagged
  split <;> infer_instance

instance (num : Numbering) (p : Log) (e : Entry) : Decidable (AbiAgrees env num p e) := by
  unfold AbiAgrees
  split <;> infer_instance

/-- a kernel that reports the given stops, made by 64-bit or 32-bit code -/
def mixedEnv (stops : List (Arch × SyscallStop)) : Env where
  syscallInfo log _ :=
    match stops[stopsSeen log]? with
    | some (arch, stop) => (arch, false, stop)
    | none => (.x86_64, false, .none)
  toGeneric abi nr :=
    match abi, nr.toNat with
    | .i386, 3 => .read
    | .i386, 4 => .write
    | .i386, _ => .unknown
    | _, 0 => .read
    | _, 1 => .write
    | _, _ => .unknown

def mixedWorld (stops : List (Arch × SyscallStop)) : World (SystemCall Unit) :=
  runOps (mixedEnv stops) (scriptRun stops.length) {}

/-- `read()` is called from 64-bit code and then from 32-bit code -/
def rereadStops : List (Arch × SyscallStop) :=
  [(.x86_64, entryStop 0), (.x86_64, .exit (.retVal 0)), (.i386, entryStop 3)]

theorem reread_reachable : Reachable (mixedEnv rereadStops) (mixedWorld rereadStops) :=
  (Reaches.start false).run (scriptRun 3) (by decide +kernel)

theorem abiFlagged_reread : AbiFlagged (mixedEnv rereadStops) (mixedWorld rereadStops) :=
  (abiFlagged_iff reread_reachable (by decide +kernel)).mpr (by decide +kernel)

/-- `read()` is called from 64-bit code, and then `write()` from 32-bit code -/
def switchStops : List (Arch × SyscallStop) :=
  [(.x86_64, entryStop 0), (.x86_64, .exit (.retVal 0)), (.i386, entryStop 4)]

theorem switch_reachable : Reachable (mixedEnv switchStops) (mixedWorld switchStops) :=
  (Reaches.start false).run (scriptRun 3) (by decide +kernel)

theorem abiFlagged_fails : ¬ ∀ (env : Env) (w : World (SystemCall Unit)),
    Reachable env w → AbiFlagged env w := by
  intro h
  have hnot : ¬ Always (Flagged (mixedEnv switchStops)) (mixedWorld switchStops).log := by
    decide +kernel
  exact hnot (h _ _ switch_reachable)

end Clues
