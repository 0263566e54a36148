import Clues.Engine.Reports

/-!
# Ledgers are kept

What a ledger relates is preserved by each event (`Ledger.holds_processEvent`), and so it holds in
every reachable state (`Ledger.reachable`).
-/

set_option linter.unusedSectionVars false

namespace Clues

open Lib Lib.Exec Lib.History Step

variable {SC : Type} [SyscallOps SC] {env : Env} {life : Life} {L : Ledger env life}
  {b : TraceeId} {w w' v v' : World SC}

namespace Ledger

section
variable {o : Numbering × Log} {t : Thread} {s : Stage} {R R' : Numbering → Log → Memo → Prop}
  {μ : Memo} {info : SystemCallInfo}

/-! ## system call stops -/

/-- the result of a computation that does not touch the state is known -/
theorem facing_lift {α : Type} (hs : s ≠ .idle) (r : Except Exc α) :
    Triple (Facing L o b t s R) (Exec.lift r : Step SC α)
      (fun a v => Facing L o b t s R v ∧ r = .ok a) fun _ v => L.Holds v := by
  intro v hv
  cases r with
  | ok a => exact ⟨hv, rfl⟩
  | error e => exact hv.toDuring.holds hs

theorem faces_syscallEnterStop :
    Faces L o b t s (fun _ _ μ' => μ' = μ) (changeState env b .syscallEnterStop : Step SC Unit)
      fun _ _ _ μ' => μ' = { μ with syscallEntered := true } := by
  have hflag : Faces L o b t s (fun _ _ μ' => μ' = μ)
      (setFlags b fun f => { f with syscallEntered := true } : Step SC Unit)
      fun _ _ _ μ' => μ' = { μ with syscallEntered := true } := by
    refine faces_modify (fun _ => rfl) fun tr h => ?_
    show { tr.memo with syscallEntered := true } = _
    rw [h]
  exact Triple.bind hflag fun _ => faces_modify (fun _ => rfl) fun _ h => h

theorem faces_syscallExitStop :
    Faces L o b t s (fun _ _ μ' => μ' = μ) (changeState env b .syscallExitStop : Step SC Unit)
      fun _ _ _ μ' => μ' = { μ with syscallEntered := false } := by
  have hflag : Faces L o b t s (fun _ _ μ' => μ' = μ)
      (setFlags b fun f => { f with syscallEntered := false } : Step SC Unit)
      fun _ _ _ μ' => μ' = { μ with syscallEntered := false } := by
    refine faces_modify (fun _ => rfl) fun tr h => ?_
    show { tr.memo with syscallEntered := false } = _
    rw [h]
  exact Triple.bind hflag fun _ => faces_modify (fun _ => rfl) fun _ h => h

theorem faces_say {e : Entry} (hR : Stable R) (he : e.isNote = true) (hr : e.isReport = false)
    (hd : ∀ b', e.departs b' = false)
    (hother : ∀ b', b' ≠ b → e.isStop b' = false ∧ e.isCall b' = false) :
    Faces L o b t s R (say e : Step SC Unit) fun _ => R := by
  intro v hv
  refine ⟨hv.toDuring.say he hother (fun _ _ => L.good_other hr)
    (hR.keeps (Extends.refl _) (List.prefix_append _ _)), fun hc hdep => ?_⟩
  obtain ⟨e', he', hdep⟩ := hdep
  rcases List.mem_append.mp he' with he' | he'
  · exact hv.present (hc.mono (List.prefix_append _ _)) ⟨e', he', hdep⟩
  · rw [List.mem_singleton.mp he', hd] at hdep
    cases hdep

theorem faces_saySyscallStop (hR : Stable R) :
    Faces L o b t s R (saySyscallStop env b info : Step SC Unit) fun _ => R := by
  have hsay : ∀ nr, Faces L o b t s R (say (.syscallEntered b nr) : Step SC Unit) fun _ => R :=
    fun nr => faces_say hR rfl rfl (fun _ => rfl) fun b' hne => ⟨rfl, decide_eq_false hne.symm⟩
  unfold saySyscallStop
  cases info.stop with
  | entry e =>
    dsimp only
    cases info.updateSysNr env with
    | ok info' => exact hsay _
    | error e => exact hsay _
  | exit x =>
    exact faces_say hR rfl rfl (fun _ => rfl) fun b' hne => ⟨rfl, decide_eq_false hne.symm⟩
  | none => exact Faces.pure fun h => h
  | seccomp => exact Faces.pure fun h => h

/-- what the handling of a stop that was reported as `info` leads to -/
structure Leads (L : Ledger env life) (o : Numbering × Log) (b : TraceeId) (t : Thread) (μ : Memo)
    (info : SystemCallInfo) : Prop where
  entry : ∀ {num log c flags μ'}, Extends o.1 num → o.2 <+: log → truth env life log b = t →
    info.stop.isEntry = true → Enters num (info.enteredNr env) μ c flags.resumed μ' →
    Always L.Cond log →
    L.Good num log (.callback (.syscallEntry b c flags)) ∧
      L.Fit num (log ++ [.callback (.syscallEntry b c flags)]) b t μ'
  exit : ∀ {num log c n x}, Extends o.1 num → o.2 <+: log → truth env life log b = t →
    info.stop = .exit x → μ.current = some c → num c = some n → Always L.Cond log →
    L.Fit num (log ++ [.callback (.syscallExit b c { interrupted := x.interrupted })]) b t
      (μ.exit x c n)

theorem keeping_handleSyscallStop (hl : Lawful SC) (hs : s ≠ .idle) {it : Iter} (hit : it.id = b)
    (h : Leads L o b t μ info) :
    Triple (Facing L o b t s fun _ _ μ' => μ' = μ) (handleSyscallStop env it info : Step SC Unit)
      (fun _ => During L o b t s (Fitting L b t)) fun _ v => L.Holds v := by
  subst hit
  refine Triple.bind faces_getTracee fun tr => facing_before ?_ And.left
  refine Triple.ite (fun _ => Triple.ite (fun hx => ?_) fun _ => ?_) fun _ =>
    Triple.ite (fun he => ?_) fun _ => ?_
  · cases hx' : info.stop with
    | exit x =>
      refine Triple.bind faces_syscallExitStop fun _ => ?_
      apply keeping_exit hl hs rfl hx'
      intro num log c n hn hlog ht hc hnum hcond
      exact h.exit hn hlog ht hx' hc hnum hcond
    | _ =>
      rw [hx'] at hx
      cases hx
  · exact Triple.raise fun _ hv => hv.toDuring.holds hs
  · refine Triple.bind (facing_lift hs _) fun info' => Triple.assume fun hinfo => ?_
    have hnr : info.enteredNr env = info'.sysNr := by
      unfold SystemCallInfo.enteredNr
      rw [hinfo]
    refine Triple.bind (Q := fun _ => Facing L o it.id t s fun _ _ μ' => μ' = μ)
      (faces_modify (fun _ => rfl) fun _ h => h) fun _ => ?_
    refine Triple.bind faces_syscallEnterStop fun _ => ?_
    apply keeping_entry hl hs rfl
    intro num log c flags μ' hn hlog ht hent hcond
    exact h.entry hn hlog ht he (hnr ▸ hent) hcond
  · exact Triple.raise fun _ hv => hv.toDuring.holds hs

/-! ### the report -/

/-- the report of a system call stop, as an entry of the log -/
abbrev stopReport (b : TraceeId) (pid : ProcessID) : Entry := .request b (.getSyscallInfo pid) none

theorem stage_stopReport (log : Log) (pid : ProcessID) :
    stage (log ++ [stopReport b pid]) b ≠ .idle := by
  rw [stage_snoc]
  show Function.update (stage log) b _ b ≠ _
  rw [Function.update_self]
  split_ifs <;> exact fun h => nomatch h

/-- before the report, what is remembered fits -/
theorem Holds.fit_of_report {pid : ProcessID} (h : L.Holds v)
    (hc : Always L.Cond (v.log ++ [stopReport b pid])) :
    ¬ Departed v.log b ∧ L.Fit v.requested v.log b (truth env life v.log b) (v.objs b).memo := by
  obtain ⟨hc0, he⟩ := always_snoc_iff.mp hc
  obtain ⟨hs, hd⟩ := L.orderly he
  exact ⟨hd, (h.kept hc0).2 b hs hd⟩

/-- the handling of a stop begins -/
theorem Open.report {pid : ProcessID} (h : Open L b v) :
    Facing L (v.requested, v.log ++ [stopReport b pid]) b
      (((truth env life v.log b).lives (life v.log b)).report env v.log.length
        (env.report v.log pid))
      (stage (v.log ++ [stopReport b pid]) b) (fun _ _ μ' => μ' = (v.objs b).memo)
      (v.say (stopReport b pid)) := by
  have hside : Others L b (v.say (stopReport b pid)) := by
    have hothers : Others L b v := ⟨h.sound, h.born, h.holds.filed, h.holds.fresh, fun hc =>
      ⟨(h.holds.kept hc).1, fun b' _ => (h.holds.kept hc).2 b'⟩⟩
    refine hothers.step (fun b' hne => Aside.said v (fun h => nomatch h) ?_) h.sound le_rfl
      (Shelved.of_same rfl rfl fun i _ _ h => ⟨i, h⟩) (List.prefix_append _ _) ?_
    · exact fun hcall => absurd (of_decide_eq_true hcall) hne.symm
    · intro hc hg
      refine always_snoc_iff.mpr ⟨hg, ?_⟩
      exact L.good_stop (always_snoc_iff.mp hc).2 (h.holds.fit_of_report hc).2
  refine ⟨⟨hside, Extends.refl _, List.prefix_rfl, ?_, rfl, fun _ => rfl⟩, fun hc hdep => ?_⟩
  · show truth env life (v.log ++ [stopReport b pid]) b = _
    rw [truth_snoc]
    exact Function.update_self ..
  · obtain ⟨e, he, hdep⟩ := hdep
    rcases List.mem_append.mp he with he | he
    · exact (h.holds.fit_of_report hc).1 ⟨e, he, hdep⟩
    · rw [List.mem_singleton.mp he] at hdep
      cases hdep

/-- what the ledger says of the reported stop -/
theorem Open.leads {pid : ProcessID} (h : Open L b v) :
    Leads L (v.requested, v.log ++ [stopReport b pid]) b
      (((truth env life v.log b).lives (life v.log b)).report env v.log.length
        (env.report v.log pid))
      (v.objs b).memo (env.report v.log pid) := by
  have hfit : ∀ {num : Numbering} {log : Log}, Extends v.requested num →
      v.log ++ [stopReport b pid] <+: log → Always L.Cond log →
      L.Cond v.log (stopReport b pid) ∧
        L.Fit num v.log b (truth env life v.log b) (v.objs b).memo := by
    intro num log hn hlog hc
    have hc' : Always L.Cond (v.log ++ [stopReport b pid]) := hc.mono hlog
    exact ⟨(always_snoc_iff.mp hc').2,
      L.fit_extend hn List.prefix_rfl (h.holds.fit_of_report hc').2⟩
  constructor
  · intro num log c flags μ' hn hlog ht he hent hc
    obtain ⟨hcond, hf⟩ := hfit hn hlog hc
    have hp : v.log <+: log := (List.prefix_append _ _).trans hlog
    have hrep : ((truth env life v.log b).lives (life v.log b)).report env v.log.length
        (env.report v.log pid) = ((truth env life v.log b).lives (life v.log b)).enter
          v.log.length ((env.report v.log pid).enteredNr env) := by
      unfold Thread.report
      cases hstop : (env.report v.log pid).stop with
      | entry e => rfl
      | _ =>
        rw [hstop] at he
        cases he
    rw [hrep] at ht ⊢
    exact L.entry hcond hf he hent hp ht
  · intro num log c n x hn hlog ht hx hcur hnum hc
    obtain ⟨hcond, hf⟩ := hfit hn hlog hc
    have hp : v.log <+: log := (List.prefix_append _ _).trans hlog
    have hrep : ((truth env life v.log b).lives (life v.log b)).report env v.log.length
        (env.report v.log pid) = ((truth env life v.log b).lives (life v.log b)).exit
          v.log.length x := by
      unfold Thread.report
      rw [hx]
    rw [hrep] at ht ⊢
    exact L.exit hcond hf hx hcur hnum hp ht

theorem During.done (h : During L o b t s (Fitting L b t) v) : Done L b v := by
  refine ⟨h.toOthers, fun _ hd hc => ?_⟩
  rw [h.thread]
  exact h.memo hd hc

theorem Open.quiet {x : Step SC Unit} (hx : ∀ b', Besides (b' = b) False b' x) :
    Triple (Open L b) x (fun _ => Open L b) fun _ v => L.Holds v := by
  intro v hv
  have ha : ∀ b', Aside (b' = b) False b' v (x v).2 := fun b' => hx b' v hv.sound
  cases hr : x v with
  | mk r v' =>
    rw [hr] at ha
    cases r with
    | ok u => exact hv.aside ha
    | error e => exact (hv.aside ha).holds

theorem done_reportedStop (hl : Lawful SC) (hs : s ≠ .idle) {it : Iter} (hit : it.id = b)
    (h : Leads L o b t μ info) :
    Triple (Facing L o b t s fun _ _ μ' => μ' = μ)
      (do
        modifyTracee it.id fun t => { t with syscallInfo := some info }
        saySyscallStop env it.id info
        handleSyscallStop env it info
        modifyTracee it.id fun t => { t with syscallInfo := none } : Step SC Unit)
      (fun _ => Done L b) fun _ v => L.Holds v := by
  subst hit
  refine Triple.bind (Q := fun _ => Facing L o it.id t s fun _ _ μ' => μ' = μ)
    (faces_modify (fun _ => rfl) fun _ h => h) fun _ => ?_
  refine Triple.bind (faces_saySyscallStop ⟨fun _ _ h => h⟩) fun _ => ?_
  refine Triple.bind (keeping_handleSyscallStop hl hs rfl h) fun _ => ?_
  have hlast : Keeping L o it.id t s (Fitting L it.id t)
      (modifyTracee it.id fun t => { t with syscallInfo := none } : Step SC Unit)
      fun _ => Fitting L it.id t := keeping_modify (fun _ => rfl) fun _ h => h
  exact hlast.weaken (fun _ hv => hv) (fun _ _ hv => hv.done) fun _ _ hv => hv

theorem done_handleSystemCall (hl : Lawful SC) {it : Iter} (hit : it.id = b) :
    Triple (Open L b) (handleSystemCall env it : Step SC Unit) (fun _ => Done L b)
      fun _ v => L.Holds v := by
  subst hit
  refine Triple.bind (Open.quiet fun b' => besides_tweak fun _ => rfl) fun _ v hv => ?_
  rw [run_bind_ok (run_getTracee it.id v)]
  cases hreq : env.request v.log (.getSyscallInfo (v.objs it.id).ptrace) with
  | some e =>
    rw [run_bind_error (run_query_error it.id _ hreq)]
    exact hv.holds.note rfl rfl
  | none =>
    rw [run_bind_ok (run_query_ok it.id _ hreq)]
    exact done_reportedStop hl (stage_stopReport _ _) rfl hv.leads _ hv.report

/-! ## execve -/

theorem stage_execed (log : Log) (former : ProcessID) (old : Option TraceeId) :
    stage (log ++ [.execed b former old]) b
      = if stage log (old.getD b) = .idle ∧ ¬ Departed log (old.getD b) then .handling else .lost := by
  rw [stage_snoc]
  exact Function.update_self ..

theorem Open.execed (h : Open L b v) (former : ProcessID) (old : Option TraceeId) :
    During L (v.requested, v.log ++ [.execed b former old]) b
      (truth env life v.log (old.getD b)).exec (stage (v.log ++ [.execed b former old]) b)
      (fun _ _ μ' => μ' = (v.objs b).memo) (v.say (.execed b former old)) := by
  have hothers : Others L b v := ⟨h.sound, h.born, h.holds.filed, h.holds.fresh, fun hc =>
    ⟨(h.holds.kept hc).1, fun b' _ => (h.holds.kept hc).2 b'⟩⟩
  have hside : Others L b (v.say (.execed b former old)) := by
    refine hothers.step (fun b' hne => Aside.said v (fun h => nomatch h) ?_) h.sound le_rfl
      (Shelved.of_same rfl rfl fun i _ _ h => ⟨i, h⟩) (List.prefix_append _ _) ?_
    · exact fun hcall => absurd (of_decide_eq_true hcall) hne.symm
    · exact fun _ hg => always_snoc_iff.mpr ⟨hg, L.good_other rfl⟩
  refine ⟨hside, Extends.refl _, List.prefix_rfl, ?_, rfl, fun _ => rfl⟩
  show truth env life (v.log ++ [.execed b former old]) b = _
  rw [truth_snoc]
  exact Function.update_self ..

/-- what is remembered is taken over from the thread that called `execve()` -/
theorem Open.fit_of_exec (h : Open L b v) {former : ProcessID} {old : Option TraceeId}
    (hc : Always L.Cond (v.log ++ [.execed b former old]))
    (hs : stage (v.log ++ [.execed b former old]) b ≠ .lost) :
    L.Fit v.requested (v.log ++ [.execed b former old]) b (truth env life v.log (old.getD b)).exec
      ((v.objs b).memo.replaced (v.objs (old.getD b)).memo) := by
  rw [stage_execed] at hs
  obtain ⟨hc0, he⟩ := always_snoc_iff.mp hc
  have hfits := (h.holds.kept hc0).2
  have hsrc : stage v.log (old.getD b) = .idle ∧ ¬ Departed v.log (old.getD b) := by
    by_contra hn
    exact hs (if_neg hn)
  exact L.exec he (hfits b) (hfits _ hsrc.1 hsrc.2)

/-- what goes on around all tracees, in states about which more is known -/
theorem keeping_along {x : Step SC Unit} (hs : s ≠ .idle) (hR : Stable R) :
    Triple (fun v => During L o b t s R v ∧ ∀ b', Aside False False b' v (x v).2) x
      (fun _ => During L o b t s R) fun _ v => L.Holds v := by
  rintro v ⟨hv, ha⟩
  cases hr : x v with
  | mk r v' =>
    rw [hr] at ha
    have hd : During L o b t s R v' := hv.quiet hR ha
    cases r with
    | ok u => exact hd
    | error e => exact hd.holds hs

/-- the object of the thread that called `execve()` is left behind -/
theorem keeping_leaveReplaced {other : TraceeId} (hs : s ≠ .idle) (hR : Stable R) :
    Triple (fun v => During L o b t s R v ∧ Departed v.log other)
      (do
        modifyTracee other fun tr => { tr with syscallDb := fun _ => none }
        changeState env other .dead : Step SC Unit)
      (fun _ => During L o b t s R) fun _ v => L.Holds v := by
  have hclear : Triple (fun v => During L o b t s R v ∧ Departed v.log other)
      (modifyTracee other fun tr => { tr with syscallDb := fun _ => none } : Step SC Unit)
      (fun _ v => During L o b t s R v ∧ Departed v.log other) fun _ v => L.Holds v := by
    rintro v ⟨hv, hd⟩
    refine ⟨hv.quiet hR fun b' => ?_, hd⟩
    exact Aside.changed v (fun hb => Or.inr (hb ▸ rfl)) (fun hb _ => Or.inr (hb ▸ rfl))
      (fun hb => Or.inr (hb ▸ rfl)) (Shelved.moved other fun _ _ h => nomatch h)
  refine Triple.bind hclear fun _ => (keeping_along hs hR).weaken ?_ (fun _ _ hv => hv)
    fun _ _ hv => hv
  rintro v ⟨hv, hd⟩
  exact ⟨hv, fun b' => aside_dead hv.sound fun hb => hb ▸ hd⟩

theorem keeping_syncState {other : TraceeId} {μo : Memo} (hs : s ≠ .idle) :
    Triple (fun v => During L o b t s (fun _ _ μ' => μ' = μ) v ∧ Departed v.log other ∧
        (v.objs other).history = μo.history)
      (syncState env b other : Step SC Unit)
      (fun _ => During L o b t s fun _ _ μ' => μ' = μ.replaced μo) fun _ v => L.Holds v := by
  refine Triple.bind (Q := fun tr v => (During L o b t s (fun _ _ μ' => μ' = μ) v ∧
    Departed v.log other ∧ tr.history = μo.history) ∧ tr.syscallDb = (v.objs other).syscallDb)
    (fun v hv => ⟨hv, rfl⟩) fun tr => ?_
  refine Triple.bind (Q := fun _ v => During L o b t s (fun _ _ μ' => μ' = μ.replaced μo) v ∧
    Departed v.log other) ?_ fun _ => keeping_leaveReplaced hs ⟨fun _ _ h => h⟩
  rintro v ⟨⟨hv, hd, hh⟩, hdb⟩
  refine ⟨hv.modify (Shelved.moved other fun nr c h => hdb ▸ h) fun hμ => ?_, hd⟩
  rw [← Memo.replaced_eq hh, ← hμ]
  rfl

/-- an object that was made before keeps what another one may take over -/
theorem history_of_quiet {other : TraceeId} (h : Aside False False other v v')
    (hlt : other < v.nextObj) : (v'.objs other).history = (v.objs other).history := by
  obtain hC | hr | ⟨-, hh⟩ := h.resumption fun hle => absurd hlt (not_lt.mpr hle)
  · exact hC.elim
  · exact history_of_resumption hr
  · exact hh

theorem none_of_handleSubstitution {pid : ProcessID}
    (h : handleSubstitution env pid w = (.ok none, w')) : (w.tracees.find? pid).join = none := by
  unfold handleSubstitution at h
  rw [run_read_bind] at h
  cases hf : w.tracees.find? pid with
  | none => rfl
  | some e =>
    rw [hf] at h
    obtain ⟨i, w1, -, h⟩ := of_bind_ok h
    obtain ⟨_, w2, -, h⟩ := of_bind_ok h
    obtain ⟨_, w3, -, h⟩ := of_bind_ok h
    cases congrArg Prod.fst h

/-- the object that is registered for the thread that called `execve()` -/
structure Replaces (pid : ProcessID) (old : Option TraceeId) (μ μ' : Memo) (v : World SC) :
    Prop where
  found : (v.tracees.find? pid).join = old
  departed : ∀ other, old = some other → Departed v.log other
  memo : ∀ other, old = some other → ∃ μo, (v.objs other).history = μo.history ∧ μ' = μ.replaced μo
  same : old = none → μ' = μ

theorem keeping_handleSubstitution {μ' : Memo} {pid : ProcessID} {old : Option TraceeId}
    (hs : s ≠ .idle) :
    Triple (fun v => During L o b t s (fun _ _ ν => ν = μ) v ∧ Replaces pid old μ μ' v)
      (handleSubstitution env pid : Step SC (Option TraceeId))
      (fun r v => During L o b t s (fun _ _ ν => ν = μ) v ∧ (r = none → μ' = μ) ∧
        ∀ other, r = some other → Departed v.log other ∧
          ∃ μo, (v.objs other).history = μo.history ∧ μ' = μ.replaced μo)
      fun _ v => L.Holds v := by
  rintro v ⟨hv, hold⟩
  have hq : ∀ b', Aside False False b' v (handleSubstitution env pid v).2 := fun b' =>
    besides_handleSubstitution pid v hv.sound
  cases hr : handleSubstitution env pid v with
  | mk r v1 =>
    rw [hr] at hq
    have h1 : During L o b t s (fun _ _ ν => ν = μ) v1 := hv.quiet ⟨fun _ _ h => h⟩ hq
    cases r with
    | error e => exact h1.holds hs
    | ok r =>
      refine ⟨h1, fun hnone => ?_, fun other hsome => ?_⟩
      · rw [hnone] at hr
        exact hold.same (hold.found.symm.trans (none_of_handleSubstitution hr))
      · rw [hsome] at hr
        have hj := replaced_of_handleSubstitution hr
        have ho : old = some other := hold.found.symm.trans hj
        have hlt : other < v.nextObj := hv.sound other ⟨pid, Option.join_eq_some_iff.mp hj⟩
        refine ⟨(hq other).departed (hold.departed other ho), ?_⟩
        obtain ⟨μo, hh, hμ'⟩ := hold.memo other ho
        exact ⟨μo, (history_of_quiet (hq other) hlt).trans hh, hμ'⟩

theorem keeping_replaceLeader {it : Iter} (hit : it.id = b) {μ' : Memo}
    {mainPid formerPid : ProcessID} {old : Option TraceeId} (hs : s ≠ .idle) :
    Triple (fun v => During L o b t s (fun _ _ ν => ν = μ) v ∧ Replaces formerPid old μ μ' v)
      (replaceLeader env it mainPid formerPid : Step SC Unit)
      (fun _ => During L o b t s fun _ _ ν => ν = μ') fun _ v => L.Holds v := by
  subst hit
  refine Triple.bind (keeping_handleSubstitution hs) fun r => ?_
  cases r with
  | none =>
    refine (Keeping.quiet (R := fun _ _ ν => ν = μ') hs ⟨fun _ _ h => h⟩
      fun b' => besides_setPID it.id mainPid).weaken ?_ (fun _ _ hv => hv) fun _ _ hv => hv
    rintro v ⟨hv, hnone, -⟩
    rw [hnone rfl]
    exact hv
  | some other =>
    rintro v ⟨hv, -, hsome⟩
    obtain ⟨hd, μo, hh, rfl⟩ := hsome other rfl
    exact Triple.bind (keeping_syncState hs) (fun _ => Keeping.quiet hs ⟨fun _ _ h => h⟩
      fun b' => besides_destroy other) v ⟨hv, hd, hh⟩

/-- what follows in `Tracee::handleExecEvent()`, once the kernel told of the former PID -/
theorem keeping_replaced {it : Iter} (hit : it.id = b) {μ' : Memo} {mainPid formerPid : ProcessID}
    {old : Option TraceeId} (hs : s ≠ .idle) (c : Callback)
    (hc : ∀ b', Entry.isStop b' (.callback c) = false ∧ Entry.isCall b' (.callback c) = false) :
    Triple (fun v => During L o b t s (fun _ _ ν => ν = μ) v ∧
        (formerPid ≠ mainPid → Replaces formerPid old μ μ' v) ∧ (formerPid = mainPid → μ' = μ))
      (do
        when (formerPid ≠ mainPid) (replaceLeader env it mainPid formerPid)
        updateExecInfo env it.id
        dropClosedFDs env it.id
        notify env it c : Step SC Unit)
      (fun _ => During L o b t s fun _ _ ν => ν = μ') fun _ v => L.Holds v := by
  have hR : Stable fun _ _ ν => ν = μ' := ⟨fun _ _ h => h⟩
  refine Triple.bind (Q := fun _ => During L o b t s fun _ _ ν => ν = μ')
    (Triple.when (fun hne => ?_) fun heq v hv => ?_) fun _ => ?_
  · exact (keeping_replaceLeader hit hs).weaken (fun _ hv => ⟨hv.1, hv.2.1 hne⟩)
      (fun _ _ hv => hv) fun _ _ hv => hv
  · rw [hv.2.2 (not_not.mp heq)]
    exact hv.1
  · refine Triple.bind (Keeping.quiet hs hR fun b' => besides_updateExecInfo it.id) fun _ => ?_
    refine Triple.bind (Keeping.quiet hs hR fun b' => besides_dropClosedFDs it.id) fun _ => ?_
    refine Keeping.quiet hs hR fun b' => besides_notify (fun h => ?_) fun h => ?_
    · exact Bool.false_ne_true ((hc b').1.symm.trans h)
    · exact Bool.false_ne_true ((hc b').2.symm.trans h)

theorem stage_execed_ne (log : Log) (former : ProcessID) (old : Option TraceeId) :
    stage (log ++ [.execed b former old]) b ≠ .idle := by
  rw [stage_execed]
  split_ifs <;> exact fun h => nomatch h

/-- what is remembered after `execve()`, when another object may be registered for the thread -/
theorem replaces_of_execed (v : World SC) (formerPid mainPid : ProcessID) {old : Option TraceeId}
    (hold : old = if formerPid ≠ mainPid then (v.tracees.find? formerPid).join else none) :
    (formerPid ≠ mainPid → Replaces formerPid old (v.objs b).memo
      ((v.objs b).memo.replaced (v.objs (old.getD b)).memo) (v.say (.execed b formerPid old))) ∧
    (formerPid = mainPid →
      (v.objs b).memo.replaced (v.objs (old.getD b)).memo = (v.objs b).memo) := by
  constructor
  · intro hne
    rw [if_pos hne] at hold
    refine ⟨hold.symm, fun other ho => ?_, fun other ho => ?_, fun ho => ?_⟩
    · exact Departed.of_last _ (by rw [ho]; exact decide_eq_true rfl)
    · rw [ho]
      exact ⟨(v.objs other).memo, rfl, rfl⟩
    · rw [ho]
      rfl
  · intro heq
    rw [if_neg (not_not.mpr heq)] at hold
    rw [hold]
    rfl

theorem done_handleExecEvent {it : Iter} (hit : it.id = b) (mainPid : ProcessID) :
    Triple (Open L b) (handleExecEvent env it mainPid : Step SC Unit) (fun _ => Done L b)
      fun _ v => L.Holds v := by
  subst hit
  intro v hv
  unfold handleExecEvent
  rw [run_read_bind]
  have hsaid : ∀ error, Open L it.id
      (v.say (.request it.id (.getPIDEventMsg mainPid) error)) := fun error =>
    hv.aside fun b' => Aside.said v (fun h => nomatch h) fun h => nomatch h
  cases hreq : env.request v.log (.getPIDEventMsg mainPid) with
  | some e =>
    rw [run_bind_error (run_query_error it.id _ hreq)]
    exact (hsaid (some e)).holds
  | none =>
    rw [run_bind_ok (run_query_ok it.id _ hreq)]
    generalize ho : (if env.pidEventMsg v.log mainPid ≠ mainPid then
      (v.tracees.find? (env.pidEventMsg v.log mainPid)).join else none) = old
    have h1 := hsaid none
    have hrep := replaces_of_execed (b := it.id) (v.say (.request it.id (.getPIDEventMsg mainPid) none))
      (env.pidEventMsg v.log mainPid) mainPid ho.symm
    rw [run_bind_ok (run_say _ _)]
    refine ((keeping_replaced rfl (stage_execed_ne _ _ _) _ fun b' => ⟨rfl, rfl⟩).weaken
      (fun _ hv => hv) (fun _ u hu => ?_) fun _ _ hv => hv) _ ⟨h1.execed _ old, hrep⟩
    refine ⟨hu.toOthers, fun hs hd hc => ?_⟩
    rw [hu.stage] at hs
    rw [hu.thread, hu.memo hd]
    exact L.fit_extend hu.nums hu.since (h1.fit_of_exec (hc.mono hu.since) hs)

/-! ## events -/

theorem Open.deliver {data : ChildState} (hw : w.Sound) (hb : b < w.nextObj) (h : L.Holds w) :
    Open L b (w.say (.deliver b data)) := by
  have ht : truth env life (w.log ++ [.deliver b data]) = truth env life w.log := truth_snoc _ _
  have hst : ∀ b', stage (w.log ++ [.deliver b data]) b' = .idle → stage w.log b' = .idle := by
    intro b' hs
    rw [stage_snoc] at hs
    by_cases hb' : b' = b
    · subst hb'
      have hs' : (if stage w.log b' = .handling then Stage.lost else stage w.log b') = .idle :=
        (Function.update_self ..).symm.trans hs
      split_ifs at hs'
      exact hs'
    · exact (Function.update_of_ne hb' ..).symm.trans hs
  have hp : w.log <+: w.log ++ [.deliver b data] := List.prefix_append _ _
  refine ⟨hw, hb, ⟨?_, fun b' hb' => ?_, fun hc => ?_⟩, stage_deliver _ _⟩
  · exact (Shelved.of_same rfl rfl fun i _ _ h => ⟨i, h⟩ :
      Shelved w (w.say (.deliver b data))).filed h.filed
  · show truth env life (w.log ++ [.deliver b data]) b' = {}
    rw [ht]
    exact h.fresh b' hb'
  · obtain ⟨hg, hfit⟩ := h.kept (hc.mono hp)
    refine ⟨always_snoc_iff.mpr ⟨hg, L.good_other rfl⟩, fun b' hs hd => ?_⟩
    show L.Fit w.requested (w.log ++ [.deliver b data]) b'
      (truth env life (w.log ++ [.deliver b data]) b') (w.objs b').memo
    rw [ht]
    exact L.fit_extend (Extends.refl _) hp (hfit b' (hst b' hs) fun h0 => hd (h0.append _))

/-- events that are no system call stops -/
theorem open_handlePtraceEvent {it : Iter} (hit : it.id = b) {pid : ProcessID} {event : PtraceEvent}
    {signal : Signal} (hne : event ≠ .exec) :
    Triple (Open L b) (handlePtraceEvent env it pid event signal : Step SC Unit)
      (fun _ => Open L b) fun _ v => L.Holds v := by
  subst hit
  apply Open.quiet
  intro b'
  cases event with
  | exec => exact absurd rfl hne
  | stop => exact besides_handleStopEvent (fun hb => hb.symm) signal
  | exit => exact besides_handleExitEvent it
  | seccomp => exact Besides.pure _
  | _ => exact besides_handleNewChildEvent it _

/-- the tracee is settled, or its stop was handled -/
abbrev Handled (L : Ledger env life) (b : TraceeId) (v : World SC) : Prop := Open L b v ∨ Done L b v

theorem handled_handleTrap (hl : Lawful SC) {it : Iter} (hit : it.id = b) (pid : ProcessID)
    (trap : Trap) :
    Triple (Open L b) (handleTrap env it pid trap : Step SC Unit) (fun _ => Handled L b)
      fun _ v => L.Holds v := by
  have hopen : ∀ {x : Step SC Unit}, Triple (Open L b) x (fun _ => Open L b) (fun _ v => L.Holds v) →
      Triple (Open L b) x (fun _ => Handled L b) fun _ v => L.Holds v := fun h =>
    h.weaken (fun _ hv => hv) (fun _ _ hv => Or.inl hv) fun _ _ hv => hv
  have hdone : ∀ {x : Step SC Unit}, Triple (Open L b) x (fun _ => Done L b) (fun _ v => L.Holds v) →
      Triple (Open L b) x (fun _ => Handled L b) fun _ v => L.Holds v := fun h =>
    h.weaken (fun _ hv => hv) (fun _ _ hv => Or.inr hv) fun _ _ hv => hv
  cases trap with
  | sysTrap => exact hdone (done_handleSystemCall hl hit)
  | signal signal =>
    exact hopen (Open.quiet fun b' => besides_handleSignalStop (fun hb => hb.symm.trans hit) signal)
  | event signal event =>
    have hstop : Triple (Open L b) (changeState env it.id .eventStop : Step SC Unit)
        (fun _ => Open L b) fun _ v => L.Holds v :=
      Open.quiet fun b' => besides_changeState (fun hb => hb.symm.trans hit) fun h => nomatch h
    refine Triple.bind hstop fun _ => ?_
    by_cases he : event = .exec
    · rw [he]
      exact hdone (done_handleExecEvent hit pid)
    · exact hopen (open_handlePtraceEvent hit he)

theorem handled_restartTracee {it : Iter} (hit : it.id = b) :
    Triple (Handled L b) (restartTracee env it : Step SC Unit) (fun _ v => L.Holds v)
      fun _ v => L.Holds v := by
  intro v hv
  have hside : ∀ b', Besides (b' = b) False b' (restartTracee env it : Step SC Unit) := fun b' =>
    besides_restartTracee fun hb => hb.symm.trans hit
  have hend : L.Holds (restartTracee env it v).2 := by
    obtain hv | hv := hv
    · exact (hv.aside fun b' => hside b' v hv.sound).holds
    · exact (hv.aside fun b' => hside b' v hv.sound).holds
  cases hr : restartTracee env it v with
  | mk r v' =>
    rw [hr] at hend
    cases r with
    | ok u => exact hend
    | error e => exact hend

/-- steps that are no system call stops, to the end of the handling -/
theorem Open.end {x : Step SC Unit} (hx : ∀ b', Besides (b' = b) False b' x) :
    Triple (Open L b) x (fun _ v => L.Holds v) fun _ v => L.Holds v :=
  (Open.quiet hx).weaken (fun _ hv => hv) (fun _ _ hv => hv.holds) fun _ _ hv => hv

theorem open_processEvent (hl : Lawful SC) {it : Iter} (hit : it.id = b) (data : ChildState) :
    Triple (fun v => v.Sound ∧ b < v.nextObj ∧ L.Holds v) (processEvent env it data : Step SC Unit)
      (fun _ v => L.Holds v) fun _ v => L.Holds v := by
  subst hit
  have hsay : Triple (fun v : World SC => v.Sound ∧ it.id < v.nextObj ∧ L.Holds v)
      (say (.deliver it.id data) : Step SC Unit) (fun _ => Open L it.id) fun _ v => L.Holds v :=
    fun v hv => Open.deliver hv.1 hv.2.1 hv.2.2
  have htweak : Triple (Open L it.id)
      (modifyTracee it.id fun t => { t with injectSig := none } : Step SC Unit)
      (fun _ => Open L it.id) fun _ v => L.Holds v := Open.quiet fun b' => besides_tweak fun _ => rfl
  have hrestart : ∀ b', Besides (b' = it.id) False b' (restartTracee env it : Step SC Unit) :=
    fun b' => besides_restartTracee fun hb => hb.symm
  refine Triple.bind hsay fun _ => Triple.bind htweak fun _ => Triple.ite (fun _ => ?_) fun _ => ?_
  · exact Open.end fun b' => besides_handleEnd (fun hb => hb.symm) data
  · cases data.event with
    | trapped trap =>
      refine Triple.bind (Q := fun _ => Open L it.id) (fun v hv => hv) fun t =>
        Triple.ite (fun _ => ?_) fun _ => ?_
      · exact Open.end fun b' => besides_doDetach it.id
      · exact Triple.bind (handled_handleTrap hl rfl data.pid trap) fun _ =>
          handled_restartTracee rfl
    | signaled signal =>
      exact Open.end fun b' => Besides.bind
        (besides_handleSignalStop (fun hb => hb.symm) signal) fun _ => hrestart b'
    | _ => exact Open.end hrestart

end

theorem throughout (L : Ledger env life) (hl : Lawful SC) :
    Throughout env (L.Holds : World SC → Prop) where
  aside := by
    intro w w' _ h ha
    exact h.aside (S := fun _ => False) (fun _ hf => hf.elim) ha
  event := by
    intro w it data hit hw h
    have hb : it.id < w.nextObj := hw it.id ⟨it.key, hit⟩
    exact (open_processEvent hl rfl data).final ⟨hw, hb, h⟩

/-- the run rule of ledgers -/
theorem reachable (L : Ledger env life) (hl : Lawful SC) (hw : Reachable env w) : L.Holds w := by
  refine ((L.throughout hl).reachable (fun f => ⟨⟨?_, ?_, ?_⟩, ?_, ?_⟩) hw).2
  · exact fun _ _ => rfl
  · exact fun _ _ _ h => nomatch h
  · exact fun _ _ _ h => nomatch h
  · exact fun _ _ => rfl
  · exact fun _ => ⟨always_nil, fun b _ _ => L.start _ _ _⟩

end Ledger

end Clues
