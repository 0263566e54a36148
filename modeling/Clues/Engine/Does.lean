import Clues.Engine.Effect

/-!
# The effects of the basic functions

One lemma for each function that is used while an event is handled, up to the calls of the consumer
and the attaching of tracees: the function changes the world by effects with the labels it needs
(`Does`).  A lemma about a function that works for another object than `a` says what has to hold
of that object before.
-/

set_option linter.unusedSectionVars false

namespace Clues

open Lib Lib.Exec Step

variable {SC : Type}

/-- the computation changes the world by effects with the labels only -/
abbrev Does (env : Env) (a : TraceeId) (L : Labels) {α : Type} (x : Step SC α) : Prop :=
  Along (Base : World SC → Prop) (Effs env a L) x

section
variable {env : Env} {a : TraceeId} {L : Labels}

/-! ## primitive steps -/

theorem Does.pure {α : Type} (r : α) : Does env a L (Pure.pure r : Step SC α) :=
  Along.pure (Effs.walk env a L) r
theorem Does.raise {α : Type} (e : Exc) : Does env a L (Exec.raise e : Step SC α) :=
  Along.raise (Effs.walk env a L) e
theorem Does.lift {α : Type} (r : Except Exc α) : Does env a L (Exec.lift r : Step SC α) :=
  Along.lift (Effs.walk env a L) r
theorem Does.bind {α β : Type} {x : Step SC α} {f : α → Step SC β} (hx : Does env a L x)
    (hf : ∀ r, Does env a L (f r)) : Does env a L (x >>= f) :=
  Along.bind (Effs.walk env a L) hx hf
theorem Does.handle {α : Type} {x : Step SC α} {g : Exc → Step SC α} (hx : Does env a L x)
    (hg : ∀ e, Does env a L (g e)) : Does env a L (Exec.handle x g) :=
  Along.handle (Effs.walk env a L) hx hg
theorem Does.when {c : Prop} [Decidable c] {x : Step SC Unit} (hx : c → Does env a L x) :
    Does env a L (Exec.when c x) := Along.when (Effs.walk env a L) hx
theorem Does.each {β : Type} {xs : List β} {body : β → Step SC Unit}
    (h : ∀ x ∈ xs, Does env a L (body x)) : Does env a L (Exec.each xs body) :=
  Along.each (Effs.walk env a L) h

/-- reading the state -/
theorem Does.reading {α : Type} {f : World SC → α} :
    Does env a L ((do let w ← read; Pure.pure (f w)) : Step SC α) :=
  fun _ _ => Relation.ReflTransGen.refl

theorem Eff.single {w w' : World SC} (h : Eff env a L w w') : Effs env a L w w' :=
  Relation.ReflTransGen.single h

theorem Does.say {e : Entry} (h : Says a L e) : Does env a L (Step.say e : Step SC Unit) :=
  fun _ _ => Eff.single (Eff.say h)

/-- the data of a tracee that most functions leave alone -/
def Tracee.mild (t : Tracee) : (Bool × Bool × Bool × ProcessID) × Bool × Option CallId ×
    (SystemCallNr → Option CallId) :=
  (t.vital, t.flags.syscallEntered, t.currentSyscall, t.syscallDb)

theorem tweak_setObj {w : World SC} {t : Tracee} (hv : t.vital = (w.objs a).vital)
    (hf : L .flag ∨ t.flags.syscallEntered = (w.objs a).flags.syscallEntered)
    (hc : L .call ∨ t.currentSyscall = (w.objs a).currentSyscall)
    (hd : ∀ nr c, t.syscallDb nr = some c →
      w.Requested c nr ∨ ∃ id, (w.objs id).syscallDb nr = some c) : Tweak a L w (w.setObj a t) :=
  { tracees := rfl, unknownEvents := rfl, newlyAttachedPid := rfl, log := rfl, nextCall := le_rfl
    calls := fun _ _ => rfl, nextObj := rfl
    others := fun id hi => congrArg Tracee.core (World.setObj_of_ne w t hi)
    vital := by rw [World.setObj_self]; exact hv
    flag := by rw [World.setObj_self]; exact hf
    current := by rw [World.setObj_self]; exact hc
    db := by rw [World.setObj_self]; exact hd }

theorem tweak_mild {w : World SC} {t : Tracee} (h : t.mild = (w.objs a).mild) :
    Tweak a L w (w.setObj a t) := by
  unfold Tracee.mild at h
  simp only [Prod.mk.injEq] at h
  obtain ⟨hv, hf, hc, hd⟩ := h
  exact tweak_setObj hv (Or.inr hf) (Or.inr hc) fun nr c hn => Or.inr ⟨a, hd ▸ hn⟩

/-- a change of data of the tracee that is of no matter to the others -/
theorem Does.modify {f : Tracee → Tracee} (h : ∀ t, (f t).mild = t.mild) :
    Does env a L (modifyTracee a f : Step SC Unit) :=
  fun w _ => Eff.single (Eff.tweak (tweak_mild (h (w.objs a))))

theorem Does.setCall {f : Tracee → Tracee} (hL : L .call)
    (h : ∀ t c, ({ f t with currentSyscall := c } : Tracee).mild
      = ({ t with currentSyscall := c } : Tracee).mild) :
    Does env a L (modifyTracee a f : Step SC Unit) := by
  intro w _
  have hm := h (w.objs a) none
  unfold Tracee.mild at hm
  simp only [Prod.mk.injEq] at hm
  obtain ⟨hv, hf, -, hd⟩ := hm
  refine Eff.single (Eff.tweak (tweak_setObj hv (Or.inr hf) (Or.inl hL) fun nr c hn => ?_))
  exact Or.inr ⟨a, hd ▸ hn⟩

/-- a request about the tracee -/
theorem does_request (hL : L .ask) (r : Request) :
    Does env a L (request env a r : Step SC Unit) := by
  intro w _
  rw [run_request]
  exact Eff.single (Eff.ask r _ (Or.inl hL))

theorem does_query {α : Type} (hL : L .ask) (r : Request) (answer : Log → α) :
    Does env a L (query env a r answer : Step SC α) :=
  Along.read_bind fun w hB =>
    Does.bind (does_request hL r) (fun _ => Does.pure (answer w.log)) w hB

theorem Does.catchAll {α : Type} {x g : Step SC α} (hx : Does env a L x) (hg : Does env a L g) :
    Does env a L (Step.catchAll x g) :=
  Does.handle hx fun _ => Along.ite (fun _ => hg) fun _ => Does.raise _

theorem Does.catchCosmos {α : Type} {x g : Step SC α} (hx : Does env a L x)
    (hg : Does env a L g) : Does env a L (Step.catchCosmos x g) :=
  Does.handle hx fun _ => Along.ite (fun _ => hg) fun _ => Does.raise _

/-! ## letting tracees go -/

/-- whatever happens to an object that is not in `m_tracees` -/
theorem Letting.effs {α : Type} {id : TraceeId} {x : Step SC α} (hx : Letting env True id x)
    {w : World SC} (hlt : id < w.nextObj) (hnt : ¬ w.Tracked id) (ho : id = a → L .ending) :
    Effs env a L w (x w).2 :=
  Eff.single (Eff.lets ⟨hlt, ho, Or.inl hnt⟩ (hx w trivial) fun h => absurd h hnt)

theorem Letting.of_ok {α : Type} {q : Prop} {id : TraceeId} {x : Step SC α}
    (hx : Letting env q id x) {w w' : World SC} {r : α} (h : x w = (.ok r, w')) :
    Lets env q id w w' := by
  have hl := hx w trivial
  rw [h] at hl
  exact hl

/-- detaching from a young tracee is put off -/
theorem detach_young {id : TraceeId} {w : World SC} (h : (w.objs id).young = true) :
    ((detach env id w).2.objs id).young = true := by
  obtain ⟨hs, hf⟩ : (w.objs id).state = .unknown ∧ (w.objs id).flags.waitForAttachStop = true := by
    unfold Tracee.young at h
    simpa using h
  unfold detach
  rw [run_bind_ok (run_getTracee id w)]
  split_ifs with h1 h2 h3
  · exact h
  · exact h
  · exact absurd hs h3.2
  · rw [run_bind_ok (run_setFlags id _ w)]
    unfold Exec.when
    rw [if_neg (by rw [hf]; exact Bool.noConfusion)]
    show ((w.setObj id _).objs id).young = true
    rw [World.setObj_self]
    unfold Tracee.young
    rw [hs, hf]
    rfl

theorem staysPut_detach (id : TraceeId) (w : World SC) :
    StaysPut a w (detach env id w).2 id :=
  ⟨fun _ h => detach_young h, fun h => by rw [run_detach_calm h]⟩

theorem effs_detach {id : TraceeId} {w : World SC} (hm : MayEnd a L w id) :
    Effs env a L w (detach env id w).2 :=
  Eff.single (Eff.lets hm (letting_detach w trivial) fun _ => staysPut_detach id w)

theorem Excused.of_letGo (log : Log) (id : TraceeId) : Excused (log ++ [.letGo id]) id :=
  Or.inl (List.mem_append_right _ (List.mem_singleton.mpr rfl))

/-! ## states -/

/-- the end of `changeState`, for a state that is no end -/
theorem eff_moveTo {s : State} (hs : s.isEnded = false) {w : World SC}
    (h : L .revive ∨ (w.objs a).ended = false) :
    Eff env a L w (w.setObj a ((w.objs a).moveTo s)) := by
  by_cases he : (w.objs a).ended = true
  · exact Eff.revive (h.resolve_right (by rw [he]; exact Bool.noConfusion)) he hs
  · have hf : ((w.objs a).moveTo s).ended = (w.objs a).ended := by
      rw [Bool.not_eq_true] at he
      exact hs.trans he.symm
    refine Eff.tweak (tweak_mild ?_)
    show ((((w.objs a).moveTo s).ended, _, _, _), _, _, _) = _
    rw [hf]
    rfl

/-- entering a state that is not an end -/
theorem does_changeState {s : State} (hs : s.isEnded = false) (hL : L .revive)
    (hF : s = .syscallEnterStop ∨ s = .syscallExitStop → L .flag) :
    Does env a L (changeState env a s : Step SC Unit) := by
  have hflag : ∀ b, L .flag → Does env a L
      (setFlags a fun f => { f with syscallEntered := b } : Step SC Unit) := fun b hl w _ =>
    Eff.single (Eff.tweak (tweak_setObj rfl (Or.inl hl) (Or.inr rfl) fun nr c hc =>
      Or.inr ⟨a, hc⟩))
  have henter : Does env a L (enterState env a s : Step SC Unit) := by
    cases s with
    | dead | detached => cases hs
    | syscallEnterStop => exact hflag true (hF (Or.inl rfl))
    | syscallExitStop => exact hflag false (hF (Or.inr rfl))
    | groupStop =>
      refine Does.modify fun t => ?_
      by_cases ht : t.flags.injectedSigstop = true
      · rw [if_pos ht]; rfl
      · rw [if_neg ht]; rfl
    | _ => exact Does.pure _
  exact Does.bind henter fun _ => fun w _ => Eff.single (eff_moveTo hs (Or.inl hL))

/-! ## entries of `m_tracees` -/

theorem run_extractTracee_some {key : ProcessID} {id : TraceeId} {w : World SC}
    (h : w.tracees.find? key = some (some id)) : extractTracee key w
      = (.ok (some id),
        ({ w with tracees := w.tracees.erase key } : World SC).say (.untracked key id)) := by
  unfold extractTracee
  rw [run_read_bind, run_update_bind, h]
  rfl

theorem run_extractTracee_none {key : ProcessID} {w : World SC}
    (h : (w.tracees.find? key).join = none) : extractTracee key w
      = (.ok none, { w with tracees := w.tracees.erase key }) := by
  unfold extractTracee
  rw [run_read_bind, run_update_bind]
  cases hk : w.tracees.find? key with
  | none => rfl
  | some e =>
    cases e with
    | none => rfl
    | some id => rw [hk] at h; cases h

/-- when an entry may be taken out of `m_tracees` -/
def MayRemove (env : Env) (a : TraceeId) (L : Labels) (w : World SC) (key : ProcessID) : Prop :=
  ∀ id, w.tracees.find? key = some (some id) →
    (MayEnd a L w id ∧ (id = a → L .drop)) ∨ (L .attach ∧ ¬ NoReattach env)

theorem untracked_after_remove {w : World SC} (hB : Base w) {key : ProcessID} {id : TraceeId}
    (h : w.tracees.find? key = some (some id)) (es : Log) :
    ¬ ({ w with tracees := w.tracees.erase key, log := es } : World SC).Tracked id := by
  rintro ⟨k, hk⟩
  have hk' : (w.tracees.erase key).find? k = some (some id) := hk
  rw [OrdMap.find?_erase] at hk'
  split_ifs at hk' with hkk
  exact hkk (hB.inj hk' h)

theorem effs_extractTracee {w : World SC} {key : ProcessID} (h : MayRemove env a L w key) :
    Effs env a L w (extractTracee key w).2 := by
  cases hj : (w.tracees.find? key).join with
  | none =>
    rw [run_extractTracee_none hj]
    exact Eff.single (Eff.removeNull hj)
  | some id =>
    have hk : w.tracees.find? key = some (some id) := Option.join_eq_some_iff.mp hj
    rw [run_extractTracee_some hk]
    exact Eff.single (Eff.remove hk (h id hk))

theorem effs_eraseTracee {w : World SC} (hB : Base w) {key : ProcessID}
    (h : MayRemove env a L w key)
    (hE : ∀ id, w.tracees.find? key = some (some id) → id = a → L .ending) :
    Effs env a L w (eraseTracee env key w).2 := by
  refine Along.bind_of (Effs.walk env a L) hB (effs_extractTracee h) fun r w' hr _ => ?_
  cases hj : (w.tracees.find? key).join with
  | none =>
    rw [run_extractTracee_none hj] at hr
    obtain ⟨hr, -⟩ := Prod.mk.inj hr
    rw [← Except.ok.inj hr]
    exact Relation.ReflTransGen.refl
  | some id =>
    have hk : w.tracees.find? key = some (some id) := Option.join_eq_some_iff.mp hj
    rw [run_extractTracee_some hk] at hr
    obtain ⟨hr, hw⟩ := Prod.mk.inj hr
    rw [← Except.ok.inj hr, ← hw]
    exact letting_destroy.effs (hB.fresh hk) (untracked_after_remove hB hk _) (hE id hk)

theorem does_entryTracee (key : ProcessID) : Does env a L (entryTracee key : Step SC TraceeId) := by
  refine Along.read_bind fun w hB => ?_
  cases w.tracees.find? key with
  | none => exact Does.raise _ w hB
  | some e =>
    cases e with
    | none => exact Does.raise _ w hB
    | some id => exact Does.pure _ w hB

theorem entryTracee_state (key : ProcessID) (w : World SC) : (entryTracee key w).2 = w := by
  unfold entryTracee
  rw [run_read_bind]
  cases w.tracees.find? key with
  | none => rfl
  | some e => cases e <;> rfl

theorem entryTracee_ok {key : ProcessID} {id : TraceeId} {w w' : World SC}
    (h : entryTracee key w = (.ok id, w')) : w.tracees.find? key = some (some id) ∧ w' = w := by
  unfold entryTracee at h
  rw [run_read_bind] at h
  cases hk : w.tracees.find? key with
  | none => rw [hk] at h; cases h
  | some e =>
    rw [hk] at h
    cases e with
    | none => cases h
    | some i => cases h; exact ⟨rfl, rfl⟩

/-- the tracee `a` is cleaned up only where it may be taken out of `m_tracees` -/
theorem effs_checkCleanupTracee {w : World SC} (hB : Base w) {key : ProcessID}
    (hE : L .ending) (hD : L .drop ∨ w.tracees.find? key ≠ some (some a)) :
    Effs env a L w (checkCleanupTracee env key w).2 := by
  have hp : Walk (Base : World SC → Prop) _ := Effs.walk env a L
  refine Along.bind_of hp hB (does_entryTracee key w hB) fun id w1 he hB1 => ?_
  obtain ⟨hk, rfl⟩ := entryTracee_ok he
  have hdrop : id = a → L .drop := fun ha => hD.resolve_right (not_not_intro (ha ▸ hk))
  rw [run_bind_ok (run_getTracee id w1)]
  by_cases hd : (w1.objs id).state = .detached
  · rw [if_pos hd]
    by_cases hc : (!(w1.objs id).isChildProcess) = true
    · rw [if_pos hc]
      have hended : (w1.objs id).ended = true := by unfold Tracee.ended; rw [hd]; rfl
      refine effs_eraseTracee hB1 (fun id' hk' => Or.inl ?_) fun _ _ _ => hE
      rw [hk] at hk'
      obtain rfl : id = id' := Option.some.inj (Option.some.inj hk')
      exact ⟨⟨hB1.fresh hk, fun _ => hE, Or.inr (Or.inr (Or.inl hended))⟩, hdrop⟩
    · rw [if_neg hc]
      exact Relation.ReflTransGen.refl
  · rw [if_neg hd]
    by_cases hdead : (w1.objs id).state = .dead
    · rw [if_pos hdead]
      have hended : (w1.objs id).ended = true := by unfold Tracee.ended; rw [hdead]; rfl
      have hm : MayEnd a L w1 id := ⟨hB1.fresh hk, fun _ => hE, Or.inr (Or.inr (Or.inl hended))⟩
      have hq : False → ¬ (w1.objs id).Calm := False.elim
      refine Along.bind_of hp hB1 (Eff.single (Eff.release hm (lets_doDetach hq) ⟨key, hk⟩ hdead))
        fun _ w2 h2 hB2 => ?_
      have hl : Lets env False id w1 w2 := by
        have hl : Lets env False id w1 (doDetach env id w1).2 := lets_doDetach hq
        rwa [h2] at hl
      refine effs_eraseTracee hB2 (fun id' hk' => Or.inl ?_) fun _ _ _ => hE
      rw [hl.tracees, hk] at hk'
      obtain rfl : id = id' := Option.some.inj (Option.some.inj hk')
      exact ⟨⟨hl.nextObj ▸ hm.lt, fun _ => hE, Or.inr (Or.inr (Or.inl (hl.released.ended hended)))⟩,
        hdrop⟩
    · rw [if_neg hdead]
      exact Relation.ReflTransGen.refl

/-! ## the consumer -/

/-- the callbacks from which the consumer may stop the engine's tracees -/
def Callback.mayStop : Callback → Bool
  | .resumed _ | .disappeared .. => true
  | _ => false

/-- the consumer does not call `Engine::stop()` from the callback -/
def Restrained (env : Env) (c : Callback) : Prop :=
  ∀ log, ∀ act ∈ env.consumer (log ++ [.callback c]), ∀ signal, act.call ≠ .stop signal

/-- signals do not change tracees -/
theorem sendSignal_same (id : TraceeId) (signal : Option Signal) (w : World SC) :
    (sendSignal env id signal w).2.tracees = w.tracees ∧
      (sendSignal env id signal w).2.objs = w.objs := by
  unfold sendSignal
  rw [run_bind_ok (run_getTracee id w)]
  cases signal with
  | none => exact ⟨rfl, rfl⟩
  | some sig =>
    have hwhen : ∀ (c : Prop) [Decidable c] (r : Request),
        (Exec.when c (request env id r) w).2.tracees = w.tracees ∧
          (Exec.when c (request env id r) w).2.objs = w.objs := by
      intro c _ r
      unfold Exec.when
      split_ifs
      · rw [run_request]
        exact ⟨rfl, rfl⟩
      · exact ⟨rfl, rfl⟩
    exact hwhen _ _

theorem does_sendSignal (id : TraceeId) (signal : Option Signal) :
    Does env a L (sendSignal env id signal : Step SC Unit) := by
  refine Does.bind Does.reading fun t => ?_
  cases signal with
  | none => exact Does.pure _
  | some sig =>
    refine Does.when fun _ => fun w _ => ?_
    rw [run_request]
    exact Eff.single (Eff.say rfl)

/-- what `Engine::stop()` does for one entry, and that it keeps `a`, unless it is given up -/
theorem effs_stopTracee {signal : Option Signal} {key : ProcessID} {w : World SC} (hB : Base w)
    (hE : L .ending)
    (hD : L .drop ∨ ∀ w' : World SC, w'.objs a = w.objs a → ((detach env a w').2.objs a).alive = true) :
    Effs env a L w (stopTracee env signal key w).2 := by
  have hp : Walk (Base : World SC → Prop) _ := Effs.walk env a L
  refine Along.bind_of hp hB (does_entryTracee key w hB) fun id w1 he hB1 => ?_
  obtain ⟨hk, rfl⟩ := entryTracee_ok he
  refine Along.bind_of hp hB1 (does_sendSignal id signal w1 hB1) fun _ w2 hs hB2 => ?_
  have hs2 : (sendSignal env id signal w1).2.tracees = w1.tracees ∧
      (sendSignal env id signal w1).2.objs = w1.objs := sendSignal_same id signal w1
  rw [hs] at hs2
  have hl : Says a L (.letGo id) := hE
  rw [run_bind_ok (run_say _ _)]
  refine hp.trans (Eff.single (Eff.say hl)) ?_
  have hB3 : Base (w2.say (.letGo id)) := hB2.say rfl fun _ => nofun
  have hk3 : (w2.say (.letGo id)).tracees.find? key = some (some id) := by
    show w2.tracees.find? key = _
    rw [hs2.1, hk]
  have hm3 : MayEnd a L (w2.say (.letGo id)) id :=
    ⟨hB3.fresh hk3, fun _ => hE, Or.inr (Or.inl (Excused.of_letGo w2.log id))⟩
  refine Along.bind_of hp hB3 (effs_detach hm3) fun _ w4 hd hB4 => ?_
  have hl4 := (letting_detach (q := True)).of_ok hd
  rw [run_bind_ok (run_getTracee id w4)]
  unfold Exec.when
  split_ifs with halive
  · refine effs_eraseTracee hB4 (fun id' hk' => Or.inl ?_) fun _ _ _ => hE
    rw [hl4.tracees, hk3] at hk'
    obtain rfl : id = id' := Option.some.inj (Option.some.inj hk')
    refine ⟨⟨hl4.nextObj ▸ hm3.lt, fun _ => hE, Or.inr (Or.inl ?_)⟩, ?_⟩
    · obtain ⟨es, hes, -⟩ := hl4.log
      rw [hes]
      exact (Excused.of_letGo w2.log id).append es
    · rintro rfl
      refine hD.resolve_right fun h => ?_
      have hal := h (w2.say (.letGo id)) (congrFun hs2.2 id)
      rw [hd] at hal
      rw [halive] at hal
      cases hal
  · exact Relation.ReflTransGen.refl

theorem does_stop (hE : L .ending) (hD : L .drop) (signal : Option Signal) :
    Does env a L (stop env signal : Step SC Unit) :=
  Along.read_bind fun w hB =>
    Does.each (fun _ _ => fun _ hB => effs_stopTracee hB hE (Or.inl hD)) w hB

theorem does_callDetach (hE : L .ending) (pid : ProcessID) :
    Does env a L (consumerCall env (.detach pid) : Step SC Unit) := by
  refine Along.read_bind fun w hB => ?_
  cases hj : w.tracees.find? pid with
  | none => exact Does.pure _ w hB
  | some e =>
    cases e with
    | none => exact Does.pure _ w hB
    | some id =>
      have hl : Says a L (.letGo id) := hE
      have hB1 : Base (w.say (.letGo id)) := hB.say rfl fun _ => nofun
      show Effs env a L w (((detach env id >>= fun _ => Pure.pure ()) : Step SC Unit)
        (w.say (.letGo id))).2
      refine Relation.ReflTransGen.trans (Eff.single (Eff.say hl)) ?_
      refine Along.bind_of (Effs.walk env a L) hB1 (effs_detach ?_)
        fun _ w' _ hB' => Relation.ReflTransGen.refl
      exact ⟨hB.fresh hj, fun _ => hE, Or.inr (Or.inl (Excused.of_letGo w.log id))⟩

theorem does_consumerCall (hE : L .ending) {c : ConsumerCall}
    (hD : L .drop ∨ ∀ signal, c ≠ .stop signal) :
    Does env a L (consumerCall env c : Step SC Unit) := by
  cases c with
  | stop signal => exact does_stop hE (hD.resolve_right fun h => h signal rfl) signal
  | detach pid => exact does_callDetach hE pid

/-- the labels of calling the consumer -/
structure CallLabels (env : Env) (L : Labels) (c : Callback) : Prop where
  ending : L .ending
  report : c.isReport = true → L .report
  drop : L .drop ∨ Restrained env c

theorem does_callback {c : Callback} (hc : c.tracee = a) (hL : CallLabels env L c) :
    Does env a L (callback env c : Step SC Unit) := by
  have hs : Says a L (.callback c) := ⟨hc, hL.ending, hL.report⟩
  have hr : Says a L .returned := hL.ending
  intro w hB
  have hB1 : Base (w.say (.callback c)) := hB.say rfl fun _ => nofun
  unfold callback
  rw [run_bind_ok (run_say _ _), run_read_bind]
  refine Relation.ReflTransGen.trans (Eff.single (Eff.say hs)) ?_
  refine Does.bind (Does.each fun act hact => ?_) (fun _ => Does.say hr) _ hB1
  have hcall : Does env a L (consumerCall env act.call : Step SC Unit) :=
    does_consumerCall hL.ending (hL.drop.imp_right fun h => h w.log act hact)
  exact Along.ite (fun _ => Does.catchAll hcall (Does.pure _)) fun _ => hcall

theorem does_checkContained (it : Iter) : Does env a L (checkContained it : Step SC Unit) :=
  Along.read_bind fun w hB =>
    Along.ite (fun _ => Does.pure _) (fun _ => Does.raise _) w hB

theorem does_notify {it : Iter} {c : Callback} (hc : c.tracee = a) (hL : CallLabels env L c) :
    Does env a L (notify env it c : Step SC Unit) :=
  Does.bind (does_callback hc hL) fun _ => does_checkContained it

/-! ## process data and new objects -/

theorem does_modifyProc (id : TraceeId) (f : ProcessData → ProcessData) :
    Does env a L (modifyProc id f : Step SC Unit) :=
  fun _ _ => Eff.single (Eff.tweak
    { tracees := rfl, unknownEvents := rfl, newlyAttachedPid := rfl, log := rfl, nextCall := le_rfl
      calls := fun _ _ => rfl, nextObj := rfl, others := fun _ _ => rfl, vital := rfl
      flag := Or.inr rfl, current := Or.inr rfl, db := fun _ _ h => Or.inr ⟨a, h⟩ })

theorem does_updateExecutable (id : TraceeId) :
    Does env a L (updateExecutable env id : Step SC Unit) := by
  refine Along.read_bind fun w hB => ?_
  cases env.exe w.log (w.objs id).ptrace with
  | ok exe => exact does_modifyProc _ _ w hB
  | error e => exact does_modifyProc _ _ w hB

theorem does_updateCmdLine (id : TraceeId) :
    Does env a L (updateCmdLine env id : Step SC Unit) :=
  Along.read_bind fun w hB => does_modifyProc _ _ w hB

theorem does_updateExecInfo (id : TraceeId) :
    Does env a L (updateExecInfo env id : Step SC Unit) :=
  Does.bind (does_updateExecutable id) fun _ => does_updateCmdLine id

/-- an object that is not in `m_tracees`, as it was made, but for its PID -/
structure Loose (id : TraceeId) (pid : ProcessID) (w : World SC) : Prop where
  lt : id < w.nextObj
  untracked : ¬ w.Tracked id
  birth : (w.objs id).birth = (pid, false, false, false)

theorem Loose.ended {id : TraceeId} {pid : ProcessID} {w : World SC} (h : Loose id pid w) :
    (w.objs id).ended = false := by
  have hb := h.birth
  unfold Tracee.birth at hb
  simp only [Prod.mk.injEq] at hb
  exact hb.2.1

theorem newTracee_spec (kind : TraceeKind) (sibling : Option TraceeId) {w : World SC}
    (hB : Base w) :
    ∃ w', newTracee kind sibling w = (.ok w.nextObj, w') ∧ (∀ env a L, Eff env a L w w') ∧
      Loose w.nextObj ProcessID.invalid w' ∧ w'.tracees = w.tracees ∧ w'.log = w.log ∧
      w'.nextObj = w.nextObj + 1 := by
  have hnt : ¬ w.Tracked w.nextObj := fun ⟨k, hk⟩ => absurd (hB.fresh hk) (lt_irrefl _)
  have hsame : ∀ w' : World SC, w'.tracees = w.tracees → w'.unknownEvents = w.unknownEvents →
      w'.newlyAttachedPid = w.newlyAttachedPid → w'.log = w.log → w'.nextCall = w.nextCall →
      w'.calls = w.calls → SameEngine w w' := fun w' h1 h2 h3 h4 h5 h6 =>
    ⟨h1, h2, h3, h4, h5.ge, fun c _ => by rw [h6]⟩
  obtain ⟨proc, procs, nextProc, h⟩ := newTracee_eq kind sibling w
  refine ⟨_, h, fun env a L => Eff.alloc (hsame _ rfl rfl rfl rfl rfl rfl) rfl (fun id hi => ?_)
    fun nr => ?_, ⟨Nat.lt_succ_self _, hnt, ?_⟩, rfl, rfl, rfl⟩
  · exact World.setObj_of_ne w _ hi
  · show ((w.setObj w.nextObj _).objs w.nextObj).syscallDb nr = none
    rw [World.setObj_self]
  · show ((w.setObj w.nextObj _).objs w.nextObj).birth = _
    rw [World.setObj_self]
    rfl

theorem Loose.of_tracees {id : TraceeId} {pid pid' : ProcessID} {w w' : World SC}
    (h : Loose id pid w) (ht : w'.tracees = w.tracees) (hn : w.nextObj ≤ w'.nextObj)
    (hb : (w'.objs id).birth = (pid', false, false, false)) : Loose id pid' w' := by
  refine ⟨lt_of_lt_of_le h.lt hn, ?_, hb⟩
  rintro ⟨k, hk⟩
  rw [ht] at hk
  exact h.untracked ⟨k, hk⟩

/-! ## preparing an object -/

theorem Silent.refl (w : World SC) : Silent w w := ⟨[], by simp, by simp⟩

/-- changes of one object without a ptrace request -/
def Readies (id : TraceeId) (w w' : World SC) : Prop := OnObj id w w' ∧ Silent w w'

theorem Readies.walk (id : TraceeId) :
    Walk (fun _ : World SC => True) (Readies id : World SC → World SC → Prop) where
  refl w := ⟨(OnObj.walk id).refl w, Silent.refl w⟩
  trans := by
    rintro w w' w'' ⟨h, es, he, hes⟩ ⟨h', es', he', hes'⟩
    refine ⟨(OnObj.walk id).trans h h', es ++ es', by rw [he', he, List.append_assoc], ?_⟩
    intro e hm
    rcases List.mem_append.mp hm with hm | hm
    · exact hes e hm
    · exact hes' e hm
  keeps _ _ := trivial

theorem readies_modify {id : TraceeId} {f : Tracee → Tracee}
    (h : ∀ t, (f t).syscallDb = t.syscallDb) :
    Along (fun _ : World SC => True) (Readies id) (modifyTracee id f : Step SC Unit) :=
  fun w _ => ⟨OnObj.setObj w fun nr c hc => by rwa [h] at hc, Silent.refl w⟩

theorem readies_request {id : TraceeId} {r : Request} (hr : r.isPtrace = false) :
    Along (fun _ : World SC => True) (Readies id) (request env id r : Step SC Unit) := by
  intro w _
  rw [run_request]
  refine ⟨OnObj.say (show Entry.IsLetting id (.request id r _) from rfl), [_], rfl, ?_⟩
  intro e he
  rw [List.mem_singleton.mp he]
  show (!r.isPtrace) = true
  rw [hr]
  rfl

theorem readies_dead (id : TraceeId) :
    Along (fun _ : World SC => True) (Readies id) (changeState env id .dead : Step SC Unit) := by
  have hp : Walk (fun _ : World SC => True) _ := Readies.walk id
  have hread : Along (fun _ : World SC => True) (Readies id) (getTracee id : Step SC Tracee) :=
    fun w _ => hp.refl w
  refine Along.bind hp (Along.bind hp hread fun t => Along.ite (fun _ => ?_) fun _ =>
    Along.pure hp _) fun _ => readies_modify fun _ => rfl
  refine Along.bind hp hread fun t => Along.ite (fun _ => ?_) fun _ => Along.pure hp _
  refine Along.bind hp (Along.handle hp (readies_request rfl) fun e => ?_) fun _ =>
    readies_modify fun _ => rfl
  cases e with
  | api errno => exact Along.ite (fun _ => Along.raise hp _) fun _ => Along.pure hp _
  | _ => exact Along.raise hp _

/-- what `create` and `configure` do to a new object -/
theorem effs_ready {α : Type} {id : TraceeId} {pid : ProcessID} {x : Step SC α}
    (hx : Along (fun _ : World SC => True) (Readies id) x) {w : World SC} (h : Loose id pid w) :
    Effs env a L w (x w).2 :=
  Eff.single (Eff.prepare h.untracked h.lt h.ended (hx w trivial).1 (hx w trivial).2)

/-- an object that got ready is put into `m_tracees` -/
theorem effs_putTracee {id : TraceeId} {pid : ProcessID} {w : World SC} (h : Loose id pid w)
    (hL : L .add) (hk : w.tracees.find? pid = none) : Effs env a L w (putTracee pid id w).2 :=
  Eff.single (Eff.add hL hk h.lt h.untracked h.birth)

end

end Clues
