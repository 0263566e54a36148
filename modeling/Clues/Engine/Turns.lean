import Clues.Engine.Stops

/-!
# One event of the tracee itself

`Tracee::processEvent()` for a tracee `b` keeps `b` in agreement with the log (`Tallies`): what
each handler does to the object is what the machine makes of the report.

* `Held`     the object agrees with the log while an event of the tracee is handled;
* `Quiet`    it is in no group-stop, either;
* `held_processEvent`, `tallies_of_reachable`   the result, for one event and for every run.
-/

set_option linter.unusedSectionVars false

namespace Clues

open Lib Lib.Exec Lib.History Step

variable {SC : Type} [SyscallOps SC] {b : TraceeId} {env : Env} {L L' : Log → Prop} {w w' : World SC}

/-! ## changes of the object -/

/-- the object changes, but not in its marks and its restart mode -/
theorem Tallies.settle (h : Tallies env b L w) {t : Tracee} (hk : t.kind = (w.objs b).kind)
    (hm : t.marks = (w.objs b).marks) (hmode : t.restartMode = (w.objs b).restartMode)
    (hg : t.state = .groupStop → (w.objs b).state = .groupStop)
    (hin : (w.objs b).InStep (phase b (w.objs b).kind w.log) → Strayed b w.log ∨
      Left b (w.objs b).kind w.log ∨ t.InStep (phase b (w.objs b).kind w.log)) :
    Tallies env b L (w.setObj b t) := by
  unfold Tracee.marks at hm
  simp only [Prod.mk.injEq] at hm
  obtain ⟨h1, h2, h3⟩ := hm
  refine ⟨h.unborn, ?_, fun ht => ?_, fun hb => ?_, fun hb => ?_, fun hb => ?_⟩
  · rw [World.setObj_self, hk]
    exact h.legal
  · rw [World.setObj_self]
    refine (h.marks ht).imp_right fun hmk => ⟨?_, ?_, ?_⟩
    · rw [h1, hk]
      exact hmk.wait
    · rw [h2, hk]
      exact hmk.sigstop
    · rw [h3, hk]
      exact hmk.sigcont
  · rw [World.setObj_self, hk, hmode]
    exact h.mode hb
  · rw [World.setObj_self]
    exact fun hs => h.grouped hb (hg hs)
  · rw [World.setObj_self, hk]
    obtain hs | hl | hi := h.inStep hb
    · exact Or.inl hs
    · exact Or.inr (Or.inl hl)
    · exact hin hi

theorem Tracee.InStep.moveTo {t : Tracee} {ph : Phase} {s : State} (h : t.InStep ph)
    (hs : s ≠ .groupStop) (ht : t.state ≠ .groupStop) : (t.moveTo s).InStep ph := by
  unfold Tracee.InStep at h ⊢
  rw [if_neg ht] at h
  have hs' : (t.moveTo s).state ≠ .groupStop := hs
  rw [if_neg hs']
  obtain hn | hn := stopSignal_moveTo t s
  · exact hn.trans h
  · exact hn

/-- the object changes its state, where leaving a group-stop is accounted for -/
theorem Tallies.moveTo (h : Tallies env b L w) {s : State} (hs : s ≠ .groupStop)
    (hleave : (w.objs b).state = .groupStop →
      (phase b (w.objs b).kind w.log).signal.isSome = true →
      Strayed b w.log ∨ Left b (w.objs b).kind w.log) :
    Tallies env b L (w.setObj b ((w.objs b).moveTo s)) := by
  refine h.settle rfl rfl rfl (fun hg => absurd hg hs) fun hin => ?_
  by_cases hg : (w.objs b).state = .groupStop
  · have hin' := hin
    unfold Tracee.InStep at hin'
    rw [if_pos hg] at hin'
    exact (hleave hg hin'.1).imp_right Or.inl
  · exact Or.inr (Or.inr (hin.moveTo hs hg))

/-- entering a state that is neither an end nor a group-stop -/
theorem run_changeState {s : State} (he : s.isEnded = false) (hg : s ≠ .groupStop) (id : TraceeId)
    (w : World SC) : ∃ t : Tracee, changeState env id s w = (.ok (), w.setObj id (t.moveTo s)) ∧
      t.stops = (w.objs id).stops ∧ t.marks = (w.objs id).marks := by
  have hrun : ∀ f : Flags → Flags,
      ((setFlags id f >>= fun _ => modifyTracee id fun t => t.moveTo s) : Step SC Unit) w
        = (.ok (), w.setObj id
          (({ w.objs id with flags := f (w.objs id).flags } : Tracee).moveTo s)) := by
    intro f
    rw [run_bind_ok (run_setFlags id f w), run_modifyTracee, World.setObj_self,
      World.setObj_setObj]
  cases s with
  | syscallEnterStop => exact ⟨_, hrun fun f => { f with syscallEntered := true }, rfl, rfl⟩
  | syscallExitStop => exact ⟨_, hrun fun f => { f with syscallEntered := false }, rfl, rfl⟩
  | groupStop => exact absurd rfl hg
  | detached => cases he
  | dead => cases he
  | _ => exact ⟨w.objs id, rfl, rfl, rfl⟩

/-! ## entries -/

theorem contSeen_snoc_of_ne {log : Log} {e : Entry} (he : ∀ pid, e ≠ .request b (.getSigInfo pid) none) :
    ContSeen env b (log ++ [e]) ↔ ContSeen env b log := by
  refine sometime_snoc_iff.trans (or_iff_left ?_)
  rintro ⟨pid, hp, -⟩
  exact he pid hp

/-- an entry about a tracee that is no report, and no news of a `SIGCONT` -/
theorem Tallies.said (hL : Lasts L) (h : Tallies env b L w) (hb : b < w.nextObj) {e : Entry}
    (he : ∀ d, e ≠ .deliver b d) (hc : ∀ pid, e ≠ .request b (.getSigInfo pid) none)
    (hal : Allowed b (w.objs b).kind w.log e)
    (hg : (w.objs b).state = .groupStop → told b (w.log ++ [e]) = true) :
    Tallies env b L (w.say e) := by
  have hph : ∀ kind, phase b kind (w.log ++ [e]) = phase b kind w.log := fun kind => by
    rw [phase_snoc, Phase.saw_of_ne he]
  refine ⟨fun hle => absurd hb (not_lt.mpr hle), h.legal.snoc hal, fun ht => ?_, fun _ => ?_,
    fun _ => hg, fun _ => ?_⟩
  · refine (h.marks ht).imp (fun hd => hd.append _) fun hm => ⟨?_, ?_, ?_⟩
    · show _ = !(phase b _ (w.log ++ [e])).attached
      rw [hph]
      exact hm.wait
    · show _ = (phase b _ (w.log ++ [e])).injected
      rw [hph]
      exact hm.sigstop
    · show _ ↔ _ ∧ ¬ ContSeen env b (w.log ++ [e])
      rw [contSeen_snoc_of_ne hc]
      exact hm.sigcont
  · show L (w.log ++ [e]) ∨ _ = (phase b _ (w.log ++ [e])).mode
    rw [hph]
    exact (h.mode hb).imp_left fun hl => hL _ _ hl (List.prefix_append _ _)
  · show Strayed b (w.log ++ [e]) ∨ Left b _ (w.log ++ [e]) ∨
      Tracee.InStep _ (phase b _ (w.log ++ [e]))
    rw [hph]
    exact (h.inStep hb).imp Strayed.grow (Or.imp_left Left.grow)

theorem Phase.report_keeps {d : ChildState} (h : d.eventStop = none) (ph : Phase) :
    (ph.report d).attached = ph.attached ∧ (ph.report d).injected = ph.injected ∧
      (ph.report d).mode = ph.mode ∧
      ((ph.report d).signal = ph.signal ∨ (ph.report d).signal = none) := by
  rw [Phase.report_of_none h]
  split_ifs
  · exact ⟨rfl, rfl, rfl, Or.inr rfl⟩
  · exact ⟨rfl, rfl, rfl, Or.inl rfl⟩

/-- a report other than a `PTRACE_EVENT_STOP` -/
theorem Tallies.deliver (h : Tallies env b L w) (hb : b < w.nextObj) {d : ChildState}
    (hd : d.eventStop = none) (hL : L w.log → L' (w.log ++ [.deliver b d])) :
    Tallies env b L' (w.say (.deliver b d)) := by
  have hph : ∀ kind, phase b kind (w.log ++ [.deliver b d]) = (phase b kind w.log).report d :=
    fun kind => by rw [phase_snoc, Phase.saw_deliver]
  refine ⟨fun hle => absurd hb (not_lt.mpr hle), h.legal.snoc trivial, fun ht => ?_, fun _ => ?_,
    fun _ hg => ?_, fun _ => ?_⟩
  · refine (h.marks ht).imp (fun hd => hd.append _) fun hm => ⟨?_, ?_, ?_⟩
    · show _ = !(phase b _ (w.log ++ [.deliver b d])).attached
      rw [hph, (Phase.report_keeps hd _).1]
      exact hm.wait
    · show _ = (phase b _ (w.log ++ [.deliver b d])).injected
      rw [hph, (Phase.report_keeps hd _).2.1]
      exact hm.sigstop
    · show _ ↔ _ ∧ ¬ ContSeen env b (w.log ++ [.deliver b d])
      rw [contSeen_snoc_of_ne fun _ he => by cases he]
      exact hm.sigcont
  · show L' (w.log ++ [.deliver b d]) ∨ _ = (phase b _ (w.log ++ [.deliver b d])).mode
    rw [hph, (Phase.report_keeps hd _).2.2.1]
    exact (h.mode hb).imp_left hL
  · show told b (w.log ++ [.deliver b d]) = true
    rw [told_snoc]
    exact h.grouped hb hg
  · show Strayed b (w.log ++ [.deliver b d]) ∨ Left b (w.objs b).kind (w.log ++ [.deliver b d]) ∨
      (w.objs b).InStep (phase b (w.objs b).kind (w.log ++ [.deliver b d]))
    rw [hph]
    obtain hs | hl | hin := h.inStep hb
    · exact Or.inl hs.grow
    · exact Or.inr (Or.inl hl.grow)
    · obtain hsame | hnone := (Phase.report_keeps hd (phase b (w.objs b).kind w.log)).2.2.2
      · refine Or.inr (Or.inr ?_)
        unfold Tracee.InStep at hin ⊢
        rw [hsame]
        exact hin
      · unfold Tracee.InStep at hin ⊢
        by_cases hg : (w.objs b).state = .groupStop
        · rw [if_pos hg] at hin
          exact Or.inr (Or.inl (sometime_snoc_iff.mpr
            (Or.inr (leaves_deliver_iff.mpr (Or.inl ⟨hin.1, hnone⟩)))))
        · rw [if_neg hg] at hin ⊢
          exact Or.inr (Or.inr hin)

/-! ## while an event is handled -/

/-- the object agrees with the log -/
structure Held (env : Env) (b : TraceeId) (L : Log → Prop) (w : World SC) : Prop where
  sound : w.Sound
  made : b < w.nextObj
  tallies : Tallies env b L w

/-- and the tracee is in no group-stop -/
structure Quiet (env : Env) (b : TraceeId) (L : Log → Prop) (w : World SC) : Prop
    extends Held env b L w where
  quiet : (phase b (w.objs b).kind w.log).signal = none

theorem Held.aside {C : Prop} (hL : Lasts L) (h : Held env b L w) (ha : Aside False C b w w') :
    Held env b L w' :=
  ⟨ha.sound h.sound, h.made.trans_le ha.nextObj, h.tallies.aside hL h.sound ha⟩

theorem Quiet.aside {C : Prop} (hL : Lasts L) (h : Quiet env b L w) (ha : Aside False C b w w') :
    Quiet env b L w' := ⟨h.toHeld.aside hL ha, by rw [ha.phase_eq h.made]; exact h.quiet⟩

theorem held_of_besides {C : Prop} (hL : Lasts L) {α : Type} {x : Step SC α}
    (hx : Besides False C b x) : Keeps (Held env b L) x := fun w hw => hw.aside hL (hx w hw.sound)

theorem quiet_of_besides {C : Prop} (hL : Lasts L) {α : Type} {x : Step SC α}
    (hx : Besides False C b x) : Keeps (Quiet env b L) x := fun w hw => hw.aside hL (hx w hw.sound)

theorem Quiet.setObj (h : Quiet env b L w) {t : Tracee} (ht : Tallies env b L (w.setObj b t))
    (hk : t.kind = (w.objs b).kind) : Quiet env b L (w.setObj b t) := by
  refine ⟨⟨h.sound, h.made, ht⟩, ?_⟩
  rw [World.setObj_self, hk]
  exact h.quiet

/-- a tracee that is in no group-stop may enter any other state -/
theorem Quiet.moveTo (h : Quiet env b L w) {s : State} (hs : s ≠ .groupStop) :
    Quiet env b L (w.setObj b ((w.objs b).moveTo s)) := by
  refine h.setObj (h.tallies.moveTo hs fun _ hsig => ?_) rfl
  rw [h.quiet] at hsig
  cases hsig

theorem quiet_changeState {s : State} (he : s.isEnded = false) (hg : s ≠ .groupStop) :
    Keeps (Quiet env b L) (changeState env b s : Step SC Unit) := by
  intro w hw
  obtain ⟨t, hrun, hst, hm⟩ : ∃ t : Tracee,
      changeState env b s w = (.ok (), w.setObj b (t.moveTo s)) ∧
      t.stops = (w.objs b).stops ∧ t.marks = (w.objs b).marks := run_changeState he hg b w
  rw [hrun]
  unfold Tracee.stops at hst
  simp only [Prod.mk.injEq] at hst
  obtain ⟨hk, hs, hmode, hsig⟩ := hst
  have hset : Quiet env b L (w.setObj b t) := by
    refine hw.setObj (hw.tallies.settle hk hm hmode (fun h => hs ▸ h) fun hin => ?_) hk
    unfold Tracee.InStep at hin ⊢
    rw [hs, hsig]
    exact Or.inr (Or.inr hin)
  have hmove := hset.moveTo hg
  rwa [World.setObj_self, World.setObj_setObj] at hmove

theorem quiet_dead (hL : Lasts L) :
    Keeps (Quiet env b L) (changeState env b .dead : Step SC Unit) := by
  have henter : Besides False True b (enterState env b .dead : Step SC Unit) :=
    Besides.bind (besides_getTracee b) fun t =>
      Along.ite (fun _ => besides_cleanupChild b) fun _ => Besides.pure _
  exact Keeps.bind (quiet_of_besides hL henter) fun _ w hw => hw.moveTo fun h => nomatch h

section

theorem quiet_handleEnd (hL : Lasts L) {it : Iter} (hb : it.id = b) (data : ChildState) :
    Keeps (Quiet env b L) (handleEnd env it data : Step SC Unit) := by
  subst hb
  have hrest : Besides False True it.id (do
      let t ← getTracee it.id
      when (t.flags.waitForExited = false) (notify env it (.disappeared it.id data))
      modifyTracee it.id fun t => { t with exitData := some data } : Step SC Unit) :=
    Besides.bind (besides_getTracee it.id) fun t => Besides.bind (Besides.when fun _ =>
      besides_notify (fun h => nomatch h) fun h => nomatch h) fun _ => besides_tweak fun _ => rfl
  exact Keeps.bind (quiet_dead hL) fun _ => quiet_of_besides hL hrest

theorem quiet_handleSystemCall (hL : Lasts L) {it : Iter} (hb : it.id = b) :
    Keeps (Quiet env b L) (handleSystemCall env it : Step SC Unit) := by
  subst hb
  let R : World SC → World SC → Prop := fun v v' =>
    (v.Sound → v'.Sound) ∧ (Quiet env it.id L v → Quiet env it.id L v')
  have hR : Walk (World.Sound : World SC → Prop) R :=
    ⟨fun _ => ⟨id, id⟩, fun h h' => ⟨h'.1 ∘ h.1, h'.2 ∘ h.2⟩, fun hw h => h.1 hw⟩
  have hsub : ∀ {v v' : World SC}, Aside False True it.id v v' → R v v' := fun ha =>
    ⟨ha.sound, fun hq => hq.aside hL ha⟩
  have hstate : ∀ s, s.isEnded = false → s ≠ .groupStop →
      Along (World.Sound : World SC → Prop) R (changeState env it.id s : Step SC Unit) := by
    intro s he hg w hw
    have hany : Besides True True it.id (changeState env it.id s : Step SC Unit) :=
      besides_changeState (fun _ => trivial) fun _ _ => trivial
    exact ⟨(hany w hw).sound, quiet_changeState he hg w⟩
  intro w hw
  exact (along_handleSystemCall hR hsub hstate (fun _ => trivial) w hw.sound).2 hw

/-- the kernel names the signal, and the flag for the injected `SIGCONT` follows -/
theorem Tallies.sigInfo (hL : Lasts L) (h : Tallies env b L w) (hb : b < w.nextObj) {t : Tracee}
    {pid : ProcessID} (hst : t.stops = (w.objs b).stops)
    (hm : (t.flags.waitForAttachStop, t.flags.injectedSigstop)
      = ((w.objs b).flags.waitForAttachStop, (w.objs b).flags.injectedSigstop))
    (hc : ((w.objs b).flags.injectedSigcont = true ↔
        (w.objs b).kind = .child ∧ ¬ ContSeen env b w.log) →
      (t.flags.injectedSigcont = true ↔ (w.objs b).kind = .child ∧
        ¬ ContSeen env b (w.log ++ [.request b (.getSigInfo pid) none]))) :
    Tallies env b L ((w.say (.request b (.getSigInfo pid) none)).setObj b t) := by
  have hph : ∀ kind, phase b kind (w.log ++ [.request b (.getSigInfo pid) none])
      = phase b kind w.log := fun kind => by
    rw [phase_snoc, Phase.saw_of_ne fun _ he => by cases he]
  unfold Tracee.stops at hst
  simp only [Prod.mk.injEq] at hst hm
  obtain ⟨hk, hs, hmode, hsig⟩ := hst
  refine ⟨fun hle => absurd hb (not_lt.mpr hle), ?_, fun ht => ?_, fun _ => ?_, fun _ => ?_,
    fun _ => ?_⟩
  · rw [World.setObj_self, hk]
    exact h.legal.snoc trivial
  · rw [World.setObj_self]
    refine (h.marks ht).imp (fun hd => hd.append _) fun hmk => ⟨?_, ?_, ?_⟩
    · show _ = !(phase b _ (w.log ++ [_])).attached
      rw [hm.1, hph, hk]
      exact hmk.wait
    · show _ = (phase b _ (w.log ++ [_])).injected
      rw [hm.2, hph, hk]
      exact hmk.sigstop
    · rw [hk]
      exact hc hmk.sigcont
  · rw [World.setObj_self]
    show L (w.log ++ [_]) ∨ _ = (phase b _ (w.log ++ [_])).mode
    rw [hph, hk, hmode]
    exact (h.mode hb).imp_left fun hl => hL _ _ hl (List.prefix_append _ _)
  · rw [World.setObj_self, hs]
    show _ → told b (w.log ++ [_]) = true
    rw [told_snoc]
    exact h.grouped hb
  · rw [World.setObj_self, hk]
    show Strayed b (w.log ++ [_]) ∨ Left b _ (w.log ++ [_]) ∨ Tracee.InStep _ (phase b _ (w.log ++ [_]))
    rw [hph]
    refine (h.inStep hb).imp Strayed.grow (Or.imp Left.grow fun hin => ?_)
    unfold Tracee.InStep at hin ⊢
    rw [hs, hsig]
    exact hin

theorem run_query_ok {α : Type} {id : TraceeId} {r : Request} {answer : Log → α}
    (h : env.request w.log r = none) :
    query env id r answer w = (.ok (answer w.log), w.say (.request id r none)) := by
  unfold query
  rw [run_read_bind, run_bind, run_request, h]
  rfl

theorem run_query_error {α : Type} {id : TraceeId} {r : Request} {answer : Log → α} {e : Errno}
    (h : env.request w.log r = some e) :
    query env id r answer w = (.error (.api e), w.say (.request id r (some e))) := by
  unfold query
  rw [run_read_bind, run_bind, run_request, h]
  rfl

theorem World.setObj_objs (w : World SC) (id : TraceeId) : w.setObj id (w.objs id) = w := by
  unfold World.setObj
  rw [Function.update_eq_self]

/-- only the signal of the injected `SIGCONT` is kept from the consumer -/
theorem quiet_handleSignal (hL : Lasts L) {it : Iter} (hb : it.id = b) {pid : ProcessID}
    (hw : Quiet env b L w) :
    Quiet env b L (handleSignal env it (env.sigInfo w.log pid)
      (w.say (.request b (.getSigInfo pid) none))).2 := by
  subst hb
  have hph : ∀ kind, phase it.id kind (w.log ++ [.request it.id (.getSigInfo pid) none])
      = phase it.id kind w.log := fun kind => by
    rw [phase_snoc, Phase.saw_of_ne fun _ he => by cases he]
  have hseen : ContSeen env it.id (w.log ++ [.request it.id (.getSigInfo pid) none]) ↔
      ContSeen env it.id w.log ∨ env.sigInfo w.log pid = Signal.cont := by
    refine sometime_snoc_iff.trans (or_congr_right ?_)
    constructor
    · rintro ⟨pid', he, hs⟩
      cases he
      exact hs
    · exact fun hs => ⟨pid, rfl, hs⟩
  unfold handleSignal
  rw [run_bind_ok (run_getTracee it.id _)]
  by_cases hc : ((w.say (.request it.id (.getSigInfo pid) none)).objs it.id).flags.injectedSigcont
      = true ∧ env.sigInfo w.log pid = Signal.cont
  · rw [if_pos hc, run_setFlags]
    refine ⟨⟨hw.sound, hw.made, hw.tallies.sigInfo hL hw.made rfl rfl fun _ => ?_⟩, ?_⟩
    · exact ⟨(fun h => nomatch h), fun h => absurd (hseen.mpr (Or.inr hc.2)) h.2⟩
    · rw [World.setObj_self]
      exact (congrArg Phase.signal (hph _)).trans hw.quiet
  · rw [if_neg hc]
    have hsaid : Quiet env it.id L (w.say (.request it.id (.getSigInfo pid) none)) := by
      refine ⟨⟨hw.sound, hw.made, ?_⟩, (congrArg Phase.signal (hph _)).trans hw.quiet⟩
      have hc' : ¬ ((w.objs it.id).flags.injectedSigcont = true ∧
        env.sigInfo w.log pid = Signal.cont) := hc
      have hown : Tallies env it.id L
          ((w.say (.request it.id (.getSigInfo pid) none)).setObj it.id (w.objs it.id)) := by
        refine hw.tallies.sigInfo hL hw.made rfl rfl fun hiff => ?_
        rw [hseen]
        tauto
      rwa [← World.say_objs, World.setObj_objs] at hown
    have hx : Besides False True it.id (notify env it
        (.signaled it.id (env.sigInfo w.log pid)) : Step SC Unit) :=
      besides_notify (fun h => nomatch h) fun h => nomatch h
    exact quiet_of_besides hL hx _ hsaid

theorem quiet_handleSignalStop (hL : Lasts L) {it : Iter} (hb : it.id = b) (signal : Signal) :
    Keeps (Quiet env b L) (handleSignalStop env it signal : Step SC Unit) := by
  subst hb
  refine Keeps.bind (quiet_changeState rfl fun h => nomatch h) fun _ w hw => ?_
  rw [run_bind_ok (run_getTracee it.id w)]
  generalize (w.objs it.id).ptrace = pid
  cases hr : env.request w.log (.getSigInfo pid) with
  | some e =>
    rw [run_bind_error (run_query_error hr)]
    have hne : ∀ d, Entry.request it.id (.getSigInfo pid) (some e) ≠ .deliver it.id d :=
      fun _ he => by cases he
    refine ⟨⟨hw.sound, hw.made, hw.tallies.said hL hw.made hne (fun _ he => by cases he) trivial
      fun hg => ?_⟩, ?_⟩
    · rw [told_snoc]
      exact hw.tallies.grouped hw.made hg
    · show (phase it.id _ (w.log ++ [_])).signal = none
      rw [phase_snoc, Phase.saw_of_ne hne]
      exact hw.quiet
  | none =>
    rw [run_bind_ok (run_query_ok hr)]
    refine final_bind (P := Quiet env it.id L) (quiet_handleSignal hL rfl hw) fun _ w2 _ hw2 => ?_
    have hx : Besides False True it.id (modifyTracee it.id fun t =>
        { t with injectSig := some signal } : Step SC Unit) := besides_tweak fun _ => rfl
    exact quiet_of_besides hL hx w2 hw2

/-! ## a `PTRACE_EVENT_STOP` -/

/-- a `PTRACE_EVENT_STOP` was reported, and the object took it over -/
theorem Tallies.stopped {v : World SC} {d : ChildState} {es : Log}
    (h : Tallies env b (fun log => Departed log b) w) (hb : b < w.nextObj) (ht : w.Tracked b)
    (hend : d.isEnd = false) (hn : v.nextObj = w.nextObj)
    (hlog : v.log = w.log ++ [.deliver b d] ++ es)
    (hlegal : Legal b (v.objs b).kind v.log) (hk : (v.objs b).kind = (w.objs b).kind)
    (hg : (v.objs b).state = .groupStop → told b v.log = true)
    (hm : ¬ Departed w.log b → Marked env b (w.objs b) w.log →
      (w.objs b).restartMode = (phase b (w.objs b).kind w.log).mode →
      Marked env b (v.objs b) v.log ∧
        (v.objs b).restartMode = (phase b (v.objs b).kind v.log).mode ∧
        ((w.objs b).InStep (phase b (w.objs b).kind w.log) →
          Left b (v.objs b).kind v.log ∨ (v.objs b).InStep (phase b (v.objs b).kind v.log))) :
    Tallies env b (Strayed b) v := by
  have hpre : w.log <+: v.log := by
    rw [hlog, List.append_assoc]
    exact List.prefix_append _ _
  by_cases hd : Departed w.log b
  · have hstr : Strayed b v.log := by
      have h1 : Strayed b (w.log ++ [.deliver b d]) :=
        sometime_snoc_iff.mpr (Or.inr ⟨d, rfl, hend, hd⟩)
      rw [hlog]
      exact h1.mono (List.prefix_append _ _)
    exact ⟨fun hle => absurd (hn ▸ hle) (not_le.mpr hb), hlegal, fun _ => Or.inl (hd.mono hpre),
      fun _ => Or.inl hstr, fun _ => hg, fun _ => Or.inl hstr⟩
  · obtain ⟨hmk, hmode, hin⟩ := hm hd ((h.marks ht).resolve_left hd) ((h.mode hb).resolve_left hd)
    refine ⟨fun hle => absurd (hn ▸ hle) (not_le.mpr hb), hlegal, fun _ => Or.inr hmk,
      fun _ => Or.inr hmode, fun _ => hg, fun _ => ?_⟩
    obtain hs | hl | hi := h.inStep hb
    · exact absurd hs.departed hd
    · rw [hk]
      exact Or.inr (Or.inl (hl.mono hpre))
    · exact Or.inr (hin hi)

/-- a tracee whose last report was no group-stop has no stop signal, or left its group-stop -/
theorem left_or_none {d : ChildState} (hin : (w.objs b).InStep (phase b (w.objs b).kind w.log))
    (hd : ((phase b (w.objs b).kind w.log).report d).signal = none) :
    Left b (w.objs b).kind (w.log ++ [.deliver b d]) ∨
      (w.objs b).state ≠ .groupStop ∧ (w.objs b).stopSignal = none := by
  unfold Tracee.InStep at hin
  by_cases hg : (w.objs b).state = .groupStop
  · rw [if_pos hg] at hin
    exact Or.inl (sometime_snoc_iff.mpr (Or.inr (leaves_deliver_iff.mpr (Or.inl ⟨hin.1, hd⟩))))
  · rw [if_neg hg] at hin
    exact Or.inr ⟨hg, hin⟩

theorem moveTo_stopSignal {t : Tracee} (s : State) (h : t.stopSignal = none) :
    (t.moveTo s).stopSignal = none := by
  obtain hs | hs := stopSignal_moveTo t s
  · exact hs.trans h
  · exact hs

section
variable {d : ChildState} {signal : Signal} {t : Tracee}
variable (hw : Held env b (fun log => Departed log b) w) (ht : w.Tracked b)
variable (hev : d.eventStop = some signal)
include hw ht hev

/-- the state of the tracee is the one of an event stop, and flags and mode follow the machine -/
theorem held_eventStop (hk : t.kind = (w.objs b).kind) (hst : t.state = .eventStop)
    (hsig : (w.objs b).state ≠ .groupStop → (w.objs b).stopSignal = none → t.stopSignal = none)
    (hcont : t.flags.injectedSigcont = (w.objs b).flags.injectedSigcont)
    (hm : Marked env b (w.objs b) w.log →
      (w.objs b).restartMode = (phase b (w.objs b).kind w.log).mode →
      let ph := (phase b (w.objs b).kind w.log).eventStop signal
      t.flags.waitForAttachStop = !ph.attached ∧ t.flags.injectedSigstop = ph.injected ∧
        t.restartMode = ph.mode ∧ ph.signal = none) :
    Held env b (Strayed b) ((w.say (.deliver b d)).setObj b t) := by
  have hend := (ChildState.isNews_of_eventStop hev).2
  have hph : phase b (w.objs b).kind (w.log ++ [.deliver b d])
      = (phase b (w.objs b).kind w.log).eventStop signal := by
    rw [phase_snoc, Phase.saw_deliver, Phase.report_of_some hev]
  have hobj : ((w.say (.deliver b d)).setObj b t).objs b = t := World.setObj_self ..
  refine ⟨hw.sound, hw.made, ?_⟩
  have hlog : ((w.say (.deliver b d)).setObj b t).log = w.log ++ [.deliver b d] ++ [] :=
    (List.append_nil _).symm
  refine hw.tallies.stopped hw.made ht hend rfl hlog ?_
    (by rw [hobj]; exact hk) (fun hg => ?_) fun _ hmk hmode => ?_
  · rw [hobj, hk]
    exact hw.tallies.legal.snoc trivial
  · rw [hobj, hst] at hg
    cases hg
  · obtain ⟨h1, h2, h3, h4⟩ := hm hmk hmode
    rw [hobj]
    show Marked env b t (w.log ++ [.deliver b d]) ∧
      t.restartMode = (phase b t.kind (w.log ++ [.deliver b d])).mode ∧ (_ →
        Left b t.kind (w.log ++ [.deliver b d]) ∨ t.InStep (phase b t.kind (w.log ++ [.deliver b d])))
    rw [hk]
    refine ⟨⟨?_, ?_, ?_⟩, ?_, fun hin => ?_⟩
    · rw [hk, hph]
      exact h1
    · rw [hk, hph]
      exact h2
    · rw [hcont, hk, contSeen_snoc_of_ne fun _ he => by cases he]
      exact hmk.sigcont
    · rw [hph]
      exact h3
    · have hrep : ((phase b (w.objs b).kind w.log).report d).signal = none := by
        rw [Phase.report_of_some hev]
        exact h4
      refine (left_or_none hin hrep).imp_right fun hn => ?_
      unfold Tracee.InStep
      rw [hst, if_neg fun h => nomatch h]
      exact hsig hn.1 hn.2

/-- the tracee is in a group-stop, and the consumer is told so -/
theorem held_groupStop (hs : signal ∈ stoppingSignals)
    (hwait : (w.objs b).flags.waitForAttachStop = false)
    (hk : t.kind = (w.objs b).kind) (hst : t.state = .groupStop)
    (hsig : t.stopSignal = some signal) (htw : t.flags.waitForAttachStop = false)
    (hti : t.flags.injectedSigstop = false)
    (hmode : t.restartMode = if (w.objs b).flags.injectedSigstop then .syscall else .listen)
    (hcont : t.flags.injectedSigcont = (w.objs b).flags.injectedSigcont) :
    Held env b (Strayed b)
      (((w.say (.deliver b d)).setObj b t).say (.callback (.stopped b))) := by
  obtain ⟨hstop, hend⟩ := ChildState.isNews_of_eventStop hev
  have hlog : (((w.say (.deliver b d)).setObj b t).say (.callback (.stopped b))).log
      = w.log ++ [.deliver b d] ++ [.callback (.stopped b)] := rfl
  have hobj : (((w.say (.deliver b d)).setObj b t).say (.callback (.stopped b))).objs b = t :=
    World.setObj_self ..
  have hph : phase b (w.objs b).kind (w.log ++ [.deliver b d] ++ [.callback (.stopped b)])
      = (phase b (w.objs b).kind w.log).eventStop signal := by
    rw [phase_snoc, Phase.saw_of_ne (fun _ he => by cases he), phase_snoc, Phase.saw_deliver,
      Phase.report_of_some hev]
  refine ⟨hw.sound, hw.made, ?_⟩
  refine hw.tallies.stopped hw.made ht hend rfl hlog ?_
    (by rw [hobj]; exact hk) (fun _ => ?_) fun _ hmk hmd => ?_
  · have hdel : Legal b (w.objs b).kind (w.log ++ [.deliver b d]) :=
      hw.tallies.legal.snoc trivial
    have hnews : b = b ∧ d.isNews = true := ⟨rfl, by unfold ChildState.isNews; rw [hstop]; rfl⟩
    rw [hobj, hk, hlog]
    refine hdel.snoc fun _ => ?_
    rw [due_snoc]
    show (if b = b ∧ d.isNews = true then d.groupStop.isSome else _) = true
    rw [if_pos hnews, ChildState.groupStop_some hev, if_pos hs]
    rfl
  · rw [hlog, told_snoc]
    simp [toldSaw]
  · have hatt : (phase b (w.objs b).kind w.log).attached = true := by
      have hwt := hmk.wait
      rw [hwait] at hwt
      simpa using hwt.symm
    have hev' := Phase.eventStop_group hatt hs
    rw [hobj, hlog]
    refine ⟨⟨?_, ?_, ?_⟩, ?_, fun _ => Or.inr ?_⟩
    · rw [hk, hph, hev', htw]
      show false = !(phase b (w.objs b).kind w.log).attached
      rw [hatt]
      rfl
    · rw [hk, hph, hev', hti]
    · rw [hcont, hk, contSeen_snoc_of_ne (fun _ he => by cases he),
        contSeen_snoc_of_ne fun _ he => by cases he]
      exact hmk.sigcont
    · rw [hk, hph, hev', hmode, hmk.sigstop]
    · unfold Tracee.InStep
      rw [if_pos hst, hk, hph, hev', hsig]
      exact ⟨rfl, rfl⟩

end

/-! ### what the handler does -/

/-- what a callback does once it was noted -/
def consume (env : Env) : Step SC Unit := do
  let w ← read
  each (env.consumer w.log) (consumerAct env)
  say .returned

theorem besides_consume {S C : Prop} : Besides S C b (consume env : Step SC Unit) := by
  refine Along.read_bind fun w hw => ?_
  refine Besides.bind (Besides.each fun act _ => ?_)
    (fun _ => besides_say (fun h => nomatch h) fun h => nomatch h) w hw
  exact Along.ite (fun _ => Besides.catchAll (besides_consumerCall _) (Besides.pure _)) fun _ =>
    besides_consumerCall _

theorem besides_afterCallback {S C : Prop} (it : Iter) :
    Besides S C b (do consume env; checkContained it : Step SC Unit) :=
  Besides.bind besides_consume fun _ => besides_checkContained it

theorem run_notify (it : Iter) (c : Callback) (w : World SC) : notify env it c w
    = (do consume env; checkContained it : Step SC Unit) (w.say (.callback c)) := rfl

/-- what `Tracee::handleAttached()` does to the object at once -/
def Tracee.attachStopped (t : Tracee) : Tracee :=
  { t with
    flags := { t.flags with waitForAttachStop := false }
    restartMode := if t.flags.injectedSigstop then t.restartMode else .syscall }

theorem run_when_modify {c : Prop} [Decidable c] (id : TraceeId) (f : Tracee → Tracee)
    (w : World SC) : (Exec.when c (modifyTracee id f) : Step SC Unit) w
      = (.ok (), w.setObj id (if c then f (w.objs id) else w.objs id)) := by
  unfold Exec.when
  split_ifs
  · rfl
  · rw [World.setObj_objs]
    rfl

theorem Tracee.attachStopped_eq (t : Tracee) :
    (if t.flags.injectedSigstop = false then
        { t with flags := { t.flags with waitForAttachStop := false }, restartMode := .syscall }
      else { t with flags := { t.flags with waitForAttachStop := false } } : Tracee)
      = t.attachStopped := by
  unfold Tracee.attachStopped
  cases t.flags.injectedSigstop <;> rfl

theorem run_handleAttached (it : Iter) (w : World SC) :
    handleAttached env it w
      = finishAttached env it (w.setObj it.id (w.objs it.id).attachStopped) := by
  unfold handleAttached
  rw [run_bind_ok (run_setFlags it.id _ w), run_bind_ok (run_getTracee it.id _),
    run_bind_ok (run_when_modify it.id _ _), World.setObj_self, World.setObj_setObj,
    ← Tracee.attachStopped_eq]
  rfl

/-- what a group-stop does to the object -/
def Tracee.groupStopped (t : Tracee) (signal : Signal) : Tracee :=
  { (if t.flags.injectedSigstop then
        { t with flags := { t.flags with injectedSigstop := false }, restartMode := .syscall }
      else { t with restartMode := .listen } : Tracee).moveTo .groupStop with
    stopSignal := some signal }

theorem run_handleStopEvent_group {it : Iter} {signal : Signal}
    (hwait : (w.objs it.id).flags.waitForAttachStop = false) (hs : signal ∈ stoppingSignals) :
    handleStopEvent env it signal w = notify env it (.stopped it.id)
      (w.setObj it.id ((w.objs it.id).groupStopped signal)) := by
  unfold handleStopEvent
  rw [run_bind_ok (run_getTracee it.id w), hwait, if_neg (fun h => nomatch h), if_pos hs]
  have hrun : changeState env it.id .groupStop w = (.ok (), w.setObj it.id
      ((if (w.objs it.id).flags.injectedSigstop then
        { w.objs it.id with
          flags := { (w.objs it.id).flags with injectedSigstop := false }, restartMode := .syscall }
      else { w.objs it.id with restartMode := .listen } : Tracee).moveTo .groupStop)) := by
    unfold changeState enterState
    rw [run_bind_ok (run_modifyTracee it.id _ w), run_modifyTracee, World.setObj_self,
      World.setObj_setObj]
  rw [run_bind_ok hrun, run_bind_ok (run_modifyTracee it.id _ _), World.setObj_self,
    World.setObj_setObj]
  rfl

theorem Tracee.groupStopped_mode (t : Tracee) (signal : Signal) :
    (t.groupStopped signal).restartMode
      = if t.flags.injectedSigstop then .syscall else .listen := by
  unfold Tracee.groupStopped
  cases t.flags.injectedSigstop <;> rfl

theorem Tracee.groupStopped_keeps (t : Tracee) (signal : Signal) :
    (t.groupStopped signal).kind = t.kind ∧
      (t.groupStopped signal).flags.waitForAttachStop = t.flags.waitForAttachStop ∧
      (t.groupStopped signal).flags.injectedSigstop = false ∧
      (t.groupStopped signal).flags.injectedSigcont = t.flags.injectedSigcont := by
  unfold Tracee.groupStopped
  cases hi : t.flags.injectedSigstop with
  | false => exact ⟨rfl, rfl, hi, rfl⟩
  | true => exact ⟨rfl, rfl, rfl, rfl⟩

/-- the object when its event is handled -/
def Tracee.stirred (t : Tracee) : Tracee :=
  ({ t with injectSig := none } : Tracee).moveTo .eventStop

section
variable {d : ChildState} {signal : Signal}

theorem held_handleStopEvent {it : Iter} (hb : it.id = b)
    (hw : Held env b (fun log => Departed log b) w) (ht : w.Tracked b)
    (hev : d.eventStop = some signal) :
    Held env b (Strayed b) (handleStopEvent env it signal
      ((w.say (.deliver b d)).setObj b (w.objs b).stirred)).2 := by
  subst hb
  generalize hv : (w.say (.deliver it.id d)).setObj it.id (w.objs it.id).stirred = v
  have hobj : v.objs it.id = (w.objs it.id).stirred := by
    rw [← hv]
    exact World.setObj_self ..
  have hset : ∀ t, v.setObj it.id t = (w.say (.deliver it.id d)).setObj it.id t := fun t => by
    rw [← hv, World.setObj_setObj]
  have hsig : (w.objs it.id).state ≠ .groupStop → (w.objs it.id).stopSignal = none →
      (w.objs it.id).stirred.stopSignal = none := fun _ hn => moveTo_stopSignal _ hn
  have hwait : (v.objs it.id).flags.waitForAttachStop
      = (w.objs it.id).flags.waitForAttachStop := by
    rw [hobj]
    rfl
  cases hwa : (w.objs it.id).flags.waitForAttachStop with
  | true =>
    -- the initial ptrace stop
    have hrun : handleStopEvent env it signal v = handleAttached env it v := by
      unfold handleStopEvent
      rw [run_bind_ok (run_getTracee it.id v), hwait, hwa, if_pos rfl]
    rw [hrun, run_handleAttached, hset, hobj]
    have hx : Besides False True it.id (finishAttached env it : Step SC Unit) :=
      besides_finishAttached it
    refine held_of_besides (lasts_strayed _) hx _ (held_eventStop hw ht hev rfl rfl hsig rfl
      fun hmk hmode => ?_)
    have hatt : (phase it.id (w.objs it.id).kind w.log).attached = false := by
      have hwt := hmk.wait
      rw [hwa] at hwt
      simpa using hwt.symm
    rw [Phase.eventStop_attach hatt]
    refine ⟨rfl, hmk.sigstop, ?_, rfl⟩
    show (if (w.objs it.id).flags.injectedSigstop then (w.objs it.id).restartMode else .syscall) = _
    rw [hmk.sigstop, hmode]
  | false =>
    have hatt : Marked env it.id (w.objs it.id) w.log →
        (phase it.id (w.objs it.id).kind w.log).attached = true := fun hmk => by
      have hwt := hmk.wait
      rw [hwa] at hwt
      simpa using hwt.symm
    by_cases hs : signal ∈ stoppingSignals
    · -- a group-stop
      rw [run_handleStopEvent_group (hwait.trans hwa) hs, run_notify, hset, hobj]
      obtain ⟨hk, h1, h2, h3⟩ := (w.objs it.id).stirred.groupStopped_keeps signal
      exact held_of_besides (lasts_strayed _) (C := True) (besides_afterCallback it) _
        (held_groupStop hw ht hev hs hwa hk rfl rfl (h1.trans hwa) h2
          (Tracee.groupStopped_mode _ _) h3)
    · -- the end of a group-stop, or an interruption
      have hrun : handleStopEvent env it signal v = (.ok (), (w.say (.deliver it.id d)).setObj it.id
          { (w.objs it.id).stirred with restartMode :=
            if signal = Signal.trap then .syscall else (w.objs it.id).restartMode }) := by
        unfold handleStopEvent
        rw [run_bind_ok (run_getTracee it.id v), hwait, hwa, if_neg (fun h => nomatch h),
          if_neg hs]
        split_ifs with htrap
        · rw [run_modifyTracee, hset, hobj]
        · rw [← hv]
          rfl
      rw [hrun]
      refine held_eventStop hw ht hev rfl rfl hsig rfl fun hmk hmode => ?_
      rw [Phase.eventStop_other (hatt hmk) hs]
      refine ⟨?_, hmk.sigstop, ?_, rfl⟩
      · show (w.objs it.id).flags.waitForAttachStop = _
        exact hmk.wait
      · rw [← hmode]

end

/-! ## the restart -/

theorem held_restartTracee {it : Iter} (hb : it.id = b) :
    Keeps (Held env b (Strayed b)) (restartTracee env it : Step SC Unit) := by
  subst hb
  intro w hw
  unfold restartTracee
  rw [run_bind_ok (run_getTracee it.id w)]
  by_cases hend : (w.objs it.id).state = .dead ∨ (w.objs it.id).state = .detached
  · rw [if_pos hend]
    exact hw
  rw [if_neg hend]
  -- the request names the mode that the machine has
  generalize hr : Request.restart (w.objs it.id).ptrace (w.objs it.id).restartMode
    (w.objs it.id).injectSig = r
  have hidle : ∀ error d, Entry.request it.id r error ≠ .deliver it.id d := fun _ _ he => by cases he
  have htold : ∀ error, told it.id (w.log ++ [.request it.id r error]) = told it.id w.log :=
    fun error => told_snoc
  have hph : ∀ error kind, phase it.id kind (w.log ++ [.request it.id r error])
      = phase it.id kind w.log := fun error kind => by
    rw [phase_snoc, Phase.saw_of_ne (hidle error)]
  have hsaid : ∀ error, Held env it.id (Strayed it.id) (w.say (.request it.id r error)) := by
    refine fun error => ⟨hw.sound, hw.made, hw.tallies.said (lasts_strayed _) hw.made (hidle error)
      (fun pid he => ?_) ?_ fun hg => ?_⟩
    · rw [← hr] at he
      cases he
    · rw [← hr]
      exact fun _ => hw.tallies.mode hw.made
    · rw [htold]
      exact hw.tallies.grouped hw.made hg
  rw [run_bind, run_request]
  cases env.request w.log r with
  | some e => exact hsaid (some e)
  | none =>
    show Held env it.id (Strayed it.id) ((if (w.objs it.id).restartMode ≠ .listen then do
        changeState env it.id .running
        Exec.when ((w.objs it.id).state = .groupStop) (notify env it (.resumed it.id))
      else pure () : Step SC Unit) (w.say (.request it.id r none))).2
    by_cases hlisten : (w.objs it.id).restartMode = .listen
    · rw [if_neg (not_not.mpr hlisten)]
      exact hsaid none
    -- the tracee runs again, and the group-stop it leaves is accounted for
    have hrun : Held env it.id (Strayed it.id) ((w.say (.request it.id r none)).setObj it.id
        ((w.objs it.id).moveTo .running)) := by
      refine ⟨hw.sound, hw.made, (hsaid none).tallies.moveTo (fun h => nomatch h) fun _ hsig => ?_⟩
      have hsig' : (phase it.id (w.objs it.id).kind w.log).signal.isSome = true := by
        rw [← hph none]
        exact hsig
      obtain hs | hm := hw.tallies.mode hw.made
      · exact Or.inl hs.grow
      · obtain hl | hl := listen_or_left hsig'
        · exact absurd (hm.trans hl) hlisten
        · exact Or.inr hl.grow
    have hstate : changeState env it.id .running (w.say (.request it.id r none))
        = (.ok (), (w.say (.request it.id r none)).setObj it.id
            ((w.objs it.id).moveTo .running)) := rfl
    rw [if_pos hlisten, run_bind_ok hstate]
    by_cases hg : (w.objs it.id).state = .groupStop
    · -- a group-stop that the tracer ends itself
      have hsaid : Held env it.id (Strayed it.id) (((w.say (.request it.id r none)).setObj it.id
          ((w.objs it.id).moveTo .running)).say (.callback (.resumed it.id))) := by
        refine ⟨hrun.sound, hrun.made, hrun.tallies.said (lasts_strayed _) hrun.made
          (fun _ he => by cases he) (fun _ he => by cases he) (fun _ => ?_) fun hg' => ?_⟩
        · exact (htold none).trans (hw.tallies.grouped hw.made hg)
        · rw [World.setObj_self] at hg'
          cases hg'
      have hx : Besides False True it.id (do consume env; checkContained it : Step SC Unit) :=
        besides_afterCallback it
      rw [when_pos hg, run_notify]
      exact held_of_besides (lasts_strayed _) hx _ hsaid
    · rw [when_neg hg]
      exact hrun

/-! ## all events -/

/-- a tracee that is to be detached from is not looked at any further -/
theorem Tallies.detached {v : World SC} {d : ChildState} {t : Tracee}
    (h : Tallies env b (fun log => Departed log b) w) (hb : b < w.nextObj)
    (hst : t.stops = (w.objs b).stops)
    (ha : Aside False True b ((w.say (.deliver b d)).setObj b t) v) (hd : Departed v.log b) :
    Tallies env b (fun log => Departed log b) v := by
  unfold Tracee.stops at hst
  simp only [Prod.mk.injEq] at hst
  obtain ⟨hk, hs, -, hsig⟩ := hst
  have hmade : b < ((w.say (.deliver b d)).setObj b t).nextObj := hb
  have hobj : ((w.say (.deliver b d)).setObj b t).objs b = t := World.setObj_self ..
  have hdel : Legal b (w.objs b).kind (w.log ++ [.deliver b d]) := h.legal.snoc trivial
  have hvk : (v.objs b).kind = (w.objs b).kind := by rw [ha.kind_eq hmade, hobj, hk]
  have hph : phase b (w.objs b).kind v.log = (phase b (w.objs b).kind w.log).report d := by
    have hp := ha.phase_eq hmade
    rw [hvk, hobj, hk] at hp
    rw [hp]
    show phase b _ (w.log ++ [.deliver b d]) = _
    rw [phase_snoc, Phase.saw_deliver]
  obtain ⟨es, he, hes⟩ := ha.idle
  refine ⟨fun hle => absurd hb (not_lt.mpr (ha.nextObj.trans hle)), ?_, fun _ => Or.inl hd,
    fun _ => Or.inl hd, fun _ hg => ?_, fun _ => ?_⟩
  · rw [hvk, he]
    exact hdel.append hes
  · rw [ha.told_eq]
    show told b (w.log ++ [.deliver b d]) = true
    rw [told_snoc]
    obtain hS | hs' | ⟨hp, -⟩ := ha.stops fun hle => absurd hb (not_lt.mpr hle)
    · exact hS.elim
    · have hst : (v.objs b).state = t.state := by
        rw [← hobj]
        exact congrArg (fun x => x.2.1) hs'
      exact h.grouped hb (by rw [← hs, ← hst]; exact hg)
    · have hend := hp.ended
      unfold Tracee.ended at hend
      rw [hg] at hend
      cases hend
  · rw [hvk]
    by_cases hsome : (phase b (w.objs b).kind v.log).signal.isSome = true
    · exact (strayed_or_left_of_departed hd hsome).imp_right Or.inl
    have hnone : ((phase b (w.objs b).kind w.log).report d).signal = none := by
      rw [← hph]
      simpa using hsome
    have hpre : w.log ++ [.deliver b d] <+: v.log := ha.log_grows
    obtain hst | hl | hin := h.inStep hb
    · exact Or.inl (hst.mono ((List.prefix_append _ _).trans hpre))
    · exact Or.inr (Or.inl (hl.mono ((List.prefix_append _ _).trans hpre)))
    obtain hl | ⟨hng, hn⟩ := left_or_none (d := d) hin hnone
    · exact Or.inr (Or.inl (hl.mono hpre))
    refine Or.inr (Or.inr ?_)
    have hvng : (v.objs b).state ≠ .groupStop ∧ (v.objs b).stopSignal = none := by
      obtain hS | hs' | ⟨hp, -⟩ := ha.stops fun hle => absurd hb (not_lt.mpr hle)
      · exact hS.elim
      · rw [hobj] at hs'
        unfold Tracee.stops at hs'
        simp only [Prod.mk.injEq] at hs'
        exact ⟨by rw [hs'.2.1, hs]; exact hng, by rw [hs'.2.2.2, hsig]; exact hn⟩
      · rw [hobj] at hp
        refine ⟨fun hg => ?_, ?_⟩
        · have hend := hp.ended
          unfold Tracee.ended at hend
          rw [hg] at hend
          cases hend
        · obtain hx | hx := hp.signal
          · exact hx.trans (hsig.trans hn)
          · exact hx
    unfold Tracee.InStep
    rw [if_neg hvng.1]
    exact hvng.2

theorem departed_doDetach (id : TraceeId) (hw : w.Sound) :
    Departed (doDetach env id w).2.log id := by
  have hdep : ∀ error, (Entry.request id (.detach (w.objs id).ptrace) error).departs id = true :=
    fun error => decide_eq_true rfl
  cases h : env.request w.log (.detach (w.objs id).ptrace) with
  | none =>
    rw [run_doDetach_ok h]
    exact (Departed.of_last w.log (hdep none)).append _
  | some e =>
    rw [run_doDetach_error h]
    have hd := Departed.of_last w.log (hdep (some e))
    have ha : Aside True True id (w.say (.request id (.detach (w.objs id).ptrace) (some e)))
        (handleError env id e (w.say (.request id (.detach (w.objs id).ptrace) (some e)))).2 :=
      aside_handleError hw fun _ => hd
    exact final_bind (P := fun v : World SC => Departed v.log id) (ha.departed hd)
      fun _ _ _ h2 => h2

/-- a report after the tracer departed leads the tracee astray, unless it is its end -/
theorem strayed_of_departed {d : ChildState} {log : Log} (hend : d.isEnd = false)
    (hd : Departed log b) : Strayed b (log ++ [.deliver b d]) :=
  sometime_snoc_iff.mpr (Or.inr ⟨d, rfl, hend, hd⟩)

/-- the report of an event, before it is handled -/
theorem held_report {d : ChildState} (hw : Held env b (fun log => Departed log b) w)
    (hev : d.eventStop = none) (hL : Departed w.log b → L' (w.log ++ [.deliver b d])) :
    Held env b L' ((w.say (.deliver b d)).setObj b { w.objs b with injectSig := none }) := by
  refine ⟨hw.sound, hw.made, ?_⟩
  exact (hw.tallies.deliver hw.made hev hL).settle rfl rfl rfl id fun hin => Or.inr (Or.inr hin)

theorem quiet_report {d : ChildState} (hw : Held env b (fun log => Departed log b) w)
    (hev : d.eventStop = none) (hn : d.isNews = true)
    (hL : Departed w.log b → L' (w.log ++ [.deliver b d])) :
    Quiet env b L' ((w.say (.deliver b d)).setObj b { w.objs b with injectSig := none }) := by
  refine ⟨held_report hw hev hL, ?_⟩
  rw [World.setObj_self]
  show (phase b (w.objs b).kind (w.log ++ [.deliver b d])).signal = none
  rw [phase_snoc, Phase.saw_deliver, Phase.report_of_none hev, if_pos hn]

/-- what is known while an event is handled is enough behind it -/
theorem Held.rest (h : Held env b (Strayed b) w) : Held env b (fun log => Departed log b) w := by
  refine ⟨h.sound, h.made, ?_⟩
  exact { h.tallies with mode := fun hb => (h.tallies.mode hb).imp_left Strayed.departed }

theorem quiet_handlePtraceEvent {it : Iter} (hb : it.id = b) (pid : ProcessID)
    {event : PtraceEvent} (hev : event ≠ .stop) (signal : Signal) :
    Keeps (Quiet env b (Strayed b)) (handlePtraceEvent env it pid event signal : Step SC Unit) := by
  subst hb
  have hx : Besides False True it.id (handlePtraceEvent env it pid event signal :
      Step SC Unit) := by
    cases event with
    | stop => exact absurd rfl hev
    | exit => exact besides_handleExitEvent it
    | exec => exact besides_handleExecEvent (fun _ => trivial) pid
    | seccomp => exact Besides.pure _
    | _ => exact besides_handleNewChildEvent it _
  exact quiet_of_besides (lasts_strayed _) hx

/-- a trap other than a `PTRACE_EVENT_STOP` -/
theorem quiet_handleTrap {it : Iter} (hb : it.id = b) (pid : ProcessID) {trap : Trap}
    (hev : ∀ signal, trap ≠ .event signal .stop) :
    Keeps (Quiet env b (Strayed b)) (handleTrap env it pid trap : Step SC Unit) := by
  cases trap with
  | sysTrap => exact quiet_handleSystemCall (lasts_strayed _) hb
  | signal signal => exact quiet_handleSignalStop (lasts_strayed _) hb signal
  | event signal event =>
    subst hb
    refine Keeps.bind (quiet_changeState rfl fun h => nomatch h) fun _ => ?_
    exact quiet_handlePtraceEvent rfl pid (fun h => hev signal (h ▸ rfl)) signal

/-- the handling of a trap, and the restart -/
theorem held_trapped {it : Iter} {d : ChildState} {trap : Trap} (hb : it.id = b)
    (hd : d.event = .trapped trap) (hw : Held env b (fun log => Departed log b) w)
    (ht : w.Tracked b) :
    Held env b (Strayed b) ((do
      handleTrap env it d.pid trap
      restartTracee env it : Step SC Unit)
        ((w.say (.deliver b d)).setObj b { w.objs b with injectSig := none })).2 := by
  have hend : d.isEnd = false := by
    unfold ChildState.isEnd
    rw [hd]
  have hnews : d.isNews = true := by
    unfold ChildState.isNews ChildState.isStop
    rw [hd]
    rfl
  refine final_bind (P := Held env b (Strayed b)) ?_ fun _ w1 _ hw1 =>
    held_restartTracee hb w1 hw1
  by_cases hs : ∃ signal, trap = .event signal .stop
  · obtain ⟨signal, rfl⟩ := hs
    have hev : d.eventStop = some signal := by
      unfold ChildState.eventStop
      rw [hd]
    have hstate : changeState env it.id .eventStop
        ((w.say (.deliver b d)).setObj b { w.objs b with injectSig := none })
        = (.ok (), (w.say (.deliver b d)).setObj b (w.objs b).stirred) := by
      subst hb
      show (Except.ok (), World.setObj _ it.id _) = _
      rw [World.setObj_self, World.setObj_setObj]
      rfl
    show Held env b (Strayed b) ((changeState env it.id .eventStop >>= fun _ =>
      handleStopEvent env it signal : Step SC Unit) _).2
    rw [run_bind_ok hstate]
    exact held_handleStopEvent hb hw ht hev
  · have hev : d.eventStop = none := by
      unfold ChildState.eventStop
      rw [hd]
      split
      · rename_i signal hx
        exact absurd ⟨signal, ChildEvent.trapped.inj hx⟩ hs
      · rfl
    have hq := quiet_report hw hev hnews (strayed_of_departed hend)
    exact (quiet_handleTrap hb d.pid (fun signal h => hs ⟨signal, h⟩) _ hq).toHeld

theorem held_processEvent {it : Iter} (hb : it.id = b)
    (hw : Held env b (fun log => Departed log b) w) (ht : w.Tracked b) (d : ChildState) :
    Held env b (fun log => Departed log b) (processEvent env it d w).2 := by
  have hdel : w.delivered it.id d
      = (w.say (.deliver b d)).setObj b { w.objs b with injectSig := none } := by rw [hb]; rfl
  cases hend : d.isEnd with
  | true =>
    have hev : d.eventStop = none := by
      cases hev : d.eventStop with
      | none => rfl
      | some signal =>
        rw [(ChildState.isNews_of_eventStop hev).2] at hend
        cases hend
    have hnews : d.isNews = true := by
      unfold ChildState.isNews
      rw [hend, Bool.or_true]
    have hq : Quiet env b (fun log => Departed log b)
        ((w.say (.deliver b d)).setObj b { w.objs b with injectSig := none }) :=
      quiet_report hw hev hnews fun hd => hd.append _
    rw [run_processEvent_end hend, hdel]
    exact (quiet_handleEnd (lasts_departed b) hb d _ hq).toHeld
  | false =>
    cases hde : d.event with
    | trapped trap =>
      rw [run_processEvent_trapped hde, hdel]
      split_ifs with hflag
      · have hx : Besides False True b (doDetach env it.id : Step SC Unit) := besides_doDetach it.id
        have hdep : Departed (doDetach env it.id ((w.say (.deliver b d)).setObj b
          { w.objs b with injectSig := none })).2.log it.id := departed_doDetach it.id hw.sound
        have ha := hx ((w.say (.deliver b d)).setObj b { w.objs b with injectSig := none }) hw.sound
        refine ⟨ha.sound hw.sound, hw.made.trans_le ha.nextObj, ?_⟩
        refine hw.tallies.detached hw.made ?_ ha (hb ▸ hdep)
        rfl
      · exact (held_trapped hb hde hw ht).rest
    | signaled signal =>
      have hev : d.eventStop = none := by
        unfold ChildState.eventStop
        rw [hde]
      have hnews : d.isNews = true := by
        unfold ChildState.isNews ChildState.isStop
        rw [hde]
        rfl
      have hq := quiet_report hw hev hnews (strayed_of_departed hend)
      have hx : Keeps (Held env b (Strayed b)) (restartTracee env it : Step SC Unit) :=
        held_restartTracee hb
      rw [run_processEvent_signaled hde, hdel]
      refine Held.rest (final_bind (P := Held env b (Strayed b)) ?_ fun _ w1 _ hw1 => hx w1 hw1)
      exact (quiet_handleSignalStop (lasts_strayed _) hb signal _ hq).toHeld
    | other =>
      have hev : d.eventStop = none := by
        unfold ChildState.eventStop
        rw [hde]
      rw [run_processEvent_other hde, hdel]
      exact (held_restartTracee hb _ (held_report hw hev (strayed_of_departed hend))).rest
    | exited status =>
      unfold ChildState.isEnd at hend
      rw [hde] at hend
      cases hend
    | killed signal =>
      unfold ChildState.isEnd at hend
      rw [hde] at hend
      cases hend
    | dumped signal =>
      unfold ChildState.isEnd at hend
      rw [hde] at hend
      cases hend

/-- in every state that is reached, the object agrees with the log -/
theorem tallies_of_reachable {b : TraceeId} (hw : Reachable env w) :
    w.Sound ∧ Tallies env b (fun log => Departed log b) w := by
  have habout : About env b (Tallies env b fun log => Departed log b : World SC → Prop) := by
    refine ⟨fun hs h ha => h.aside (lasts_departed b) hs ha, fun {w it data} hb hit hs h => ?_⟩
    have ht : w.Tracked b := ⟨it.key, hb ▸ hit⟩
    exact (held_processEvent hb ⟨hs, hs b ht, h⟩ ht data).tallies
  refine habout.reachable (fun f => ?_) hw
  refine ⟨fun _ _ he => ?_, always_nil, fun ht => ?_, fun hb => ?_, fun hb => ?_, fun hb => ?_⟩
  · cases he
  · obtain ⟨k, hk⟩ := ht
    cases hk
  · exact absurd hb (Nat.not_lt_zero b)
  · exact absurd hb (Nat.not_lt_zero b)
  · exact absurd hb (Nat.not_lt_zero b)

end

end Clues
