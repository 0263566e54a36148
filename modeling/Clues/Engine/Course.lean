import Clues.Engine.Adding

/-!
# The effects of handling an event

The functions that call the consumer have effects of two kinds: those before the call, when the
tracee is as the event found it, and those from the call on (`Phased`).

* `LateLabels`    what is allowed from the call of the consumer on;
* `Steady`        a tracee that a consumer's `Engine::stop()` leaves in `m_tracees`;
* `EventLabels`   the labels of handling an event in a given state;
* `course_processEvent`   the result.
-/

set_option linter.unusedSectionVars false

namespace Clues

open Lib Lib.Exec Step

variable {SC : Type}

/-- the computation has effects before it calls the consumer, then effects from there on -/
abbrev Phased (env : Env) (a : TraceeId) (L : Labels) {α : Type} (x : Step SC α) : Prop :=
  Along (Base : World SC → Prop) (Course env a L) x

section
variable {env : Env} {a : TraceeId} {L : Labels} {w v w' : World SC}

/-! ## the two phases -/

theorem Course.refl (w : World SC) : Course env a L w w :=
  ⟨w, Relation.ReflTransGen.refl, Relation.ReflTransGen.refl⟩

theorem Course.after (h : Effs env a L.early w v) (h' : Course env a L v w') :
    Course env a L w w' := by
  obtain ⟨u, h1, h2⟩ := h'
  exact ⟨u, h.trans h1, h2⟩

theorem Course.before (h : Course env a L w v) (h' : Effs env a L.late v w') :
    Course env a L w w' := by
  obtain ⟨u, h1, h2⟩ := h
  exact ⟨u, h1, h2.trans h'⟩

theorem Course.of_early (h : Effs env a L.early w w') : Course env a L w w' :=
  ⟨w', h, Relation.ReflTransGen.refl⟩

theorem Course.of_late (h : Effs env a L.late w w') : Course env a L w w' :=
  ⟨w, Relation.ReflTransGen.refl, h⟩

theorem Phased.of_early {α : Type} {x : Step SC α} (h : Does env a L.early x) :
    Phased env a L x := fun w hB => Course.of_early (h w hB)

theorem Phased.of_late {α : Type} {x : Step SC α} (h : Does env a L.late x) :
    Phased env a L x := fun w hB => Course.of_late (h w hB)

/-- what was done before the call of the consumer may be used about the rest -/
theorem Course.bind_of {α β : Type} {x : Step SC α} {f : α → Step SC β} (hB : Base w)
    (hx : Effs env a L.early w (x w).2)
    (hf : ∀ r w', x w = (.ok r, w') → Base w' → Course env a L w' (f r w').2) :
    Course env a L w ((x >>= f) w).2 := by
  rw [run_bind]
  cases hr : x w with
  | mk r w1 =>
    rw [hr] at hx
    cases r with
    | ok r => exact Course.after hx (hf r w1 hr (hx.base hB))
    | error e => exact Course.of_early hx

theorem Course.seq_of {α β : Type} {x : Step SC α} {f : α → Step SC β} (hB : Base w)
    (hx : Course env a L w (x w).2)
    (hf : ∀ r w', x w = (.ok r, w') → Base w' → Effs env a L.late w' (f r w').2) :
    Course env a L w ((x >>= f) w).2 := by
  rw [run_bind]
  cases hr : x w with
  | mk r w1 =>
    rw [hr] at hx
    cases r with
    | ok r => exact hx.before (hf r w1 hr (hx.base hB))
    | error e => exact hx

theorem Phased.bind {α β : Type} {x : Step SC α} {f : α → Step SC β}
    (hx : Does env a L.early x) (hf : ∀ r, Phased env a L (f r)) : Phased env a L (x >>= f) :=
  fun w hB => Course.bind_of hB (hx w hB) fun r w' _ hB' => hf r w' hB'

theorem Phased.seq {α β : Type} {x : Step SC α} {f : α → Step SC β}
    (hx : Phased env a L x) (hf : ∀ r, Does env a L.late (f r)) : Phased env a L (x >>= f) :=
  fun w hB => Course.seq_of hB (hx w hB) fun r w' _ hB' => hf r w' hB'

/-- the object of a tracee is only changed by effects on the tracee itself -/
theorem Eff.own_early (h : Eff env a L.early w v) (hB : Base w) (hT : w.Tracked a) :
    v.objs a = w.objs a ∨ (Tweak a L.early w v) ∨
    (L .die ∧ Lets env True a w v) ∨
    (L .revive ∧ (w.objs a).ended = true ∧ ∃ s, v.objs a = (w.objs a).moveTo s) ∨
    ∃ pid, L (.exec pid) ∧ v.objs a = { w.objs a with ptrace := pid } := by
  obtain ⟨key, hk⟩ := hT
  cases h with
  | tweak h => exact Or.inr (Or.inl h)
  | lets hm h _ =>
    exact Or.inl (h.others a fun ha => not_early_ending (hm.own ha.symm))
  | release hm h _ _ =>
    exact Or.inl (h.others a fun ha => not_early_ending (hm.own ha.symm))
  | die hL h _ => exact Or.inr (Or.inr (Or.inl ⟨hL.1, h⟩))
  | revive hL he _ =>
    exact Or.inr (Or.inr (Or.inr (Or.inl ⟨hL.1, he, _, World.setObj_self ..⟩)))
  | report hL => exact absurd hL.2 Bool.noConfusion
  | setPID pid hL =>
    exact Or.inr (Or.inr (Or.inr (Or.inr ⟨pid, hL.1, World.setObj_self ..⟩)))
  | alloc _ _ ho _ => exact Or.inl (ho a (ne_of_lt (hB.fresh hk)))
  | prepare hnt _ _ h _ =>
    exact Or.inl (h.others a fun ha => hnt ⟨key, ha ▸ hk⟩)
  | _ => exact Or.inl rfl

/-! ## the consumer -/

/-- the consumer stops the engine only from `resumed` and `disappeared`, and the kernel lets the
tracer detach from a tracee unless it is gone, and restart only tracees -/
structure Guarded (env : Env) : Prop where
  restrained : ∀ c : Callback, c.mayStop = false → Restrained env c
  law : DetachLaw env
  restart : ∀ log mode signal,
    env.request log (.restart ProcessID.invalid mode signal) ≠ none

/-- what is allowed from the call of the consumer on -/
structure LateLabels (env : Env) (L : Labels) : Prop where
  ending : L .ending
  drop : L .drop ∨ Guarded env

theorem LateLabels.call (h : LateLabels env L) {c : Callback} (hs : c.mayStop = false)
    (hr : c.isReport = true → L .report) : CallLabels env L.late c :=
  ⟨⟨h.ending, rfl⟩, fun hc => ⟨hr hc, rfl⟩,
    h.drop.imp (fun hd => ⟨hd, rfl⟩) fun hg => hg.restrained c hs⟩

/-- a running or dead tracee with a PID: `Engine::stop()` does not take it out of `m_tracees` -/
structure Steady (a : TraceeId) (w : World SC) : Prop where
  state : (w.objs a).state = .running ∨ (w.objs a).state = .dead
  ptrace : (w.objs a).ptrace ≠ ProcessID.invalid

theorem Steady.of_obj (h : Steady a w) (ho : w'.objs a = w.objs a) : Steady a w' :=
  ⟨by rw [ho]; exact h.state, by rw [ho]; exact h.ptrace⟩

def SamePtrace (id : TraceeId) (w w' : World SC) : Prop :=
  (w'.objs id).ptrace = (w.objs id).ptrace

theorem SamePtrace.walk (id : TraceeId) :
    Walk (fun _ : World SC => True) (SamePtrace id : World SC → World SC → Prop) :=
  ⟨fun _ => rfl, fun h h' => Eq.trans h' h, fun _ _ => trivial⟩

theorem samePtrace_modify {id : TraceeId} {f : Tracee → Tracee}
    (hf : ∀ t, (f t).ptrace = t.ptrace) :
    Along (fun _ : World SC => True) (SamePtrace id) (modifyTracee id f : Step SC Unit) := by
  intro w _
  show ((w.setObj id _).objs id).ptrace = (w.objs id).ptrace
  rw [World.setObj_self]
  exact hf _

theorem dead_ptrace (id : TraceeId) (w : World SC) :
    SamePtrace id w (changeState env id .dead w).2 := by
  have hp : Walk (fun _ : World SC => True) _ := SamePtrace.walk id
  have hread : Along (fun _ : World SC => True) (SamePtrace id) (getTracee id : Step SC Tracee) :=
    fun _ _ => rfl
  have hwait : ∀ r : Request, Along (fun _ : World SC => True) (SamePtrace id)
      (catchApi (request env id r) fun e =>
        if e ≠ Errno.noChild then raise (.api e) else Pure.pure () : Step SC Unit) := by
    intro r
    refine Along.handle hp (fun w _ => by rw [run_request]; rfl) fun e => ?_
    cases e with
    | api errno => exact Along.ite (fun _ => Along.raise hp _) fun _ => Along.pure hp _
    | _ => exact Along.raise hp _
  have hclean : Along (fun _ : World SC => True) (SamePtrace id)
      (cleanupChild env id : Step SC Unit) :=
    Along.bind hp hread fun t => Along.ite (fun _ => Along.bind hp (hwait _) fun _ =>
      samePtrace_modify fun _ => rfl) fun _ => Along.pure hp _
  have hdead : Along (fun _ : World SC => True) (SamePtrace id)
      (changeState env id .dead : Step SC Unit) :=
    Along.bind hp (Along.bind hp hread fun t => Along.ite (fun _ => hclean) fun _ =>
      Along.pure hp _) fun _ => samePtrace_modify fun _ => rfl
  exact hdead w trivial

/-- detaching from a running or dead tracee only marks it -/
theorem Steady.detach (hl : DetachLaw env) (h : Steady a w) :
    Steady a (Clues.detach env a w).2 := by
  unfold Clues.detach
  rw [run_bind_ok (run_getTracee a w), if_neg h.ptrace]
  split_ifs with h2 h3
  · exact h
  · exact absurd (h.state.resolve_right fun hd => h2 (Or.inl hd)) h3.1
  · have hs : Steady a (w.setObj a
        { w.objs a with flags := { (w.objs a).flags with detachAtNextStop := true } }) :=
      ⟨by rw [World.setObj_self]; exact h.state, by rw [World.setObj_self]; exact h.ptrace⟩
    rw [run_bind_ok (run_setFlags a _ w)]
    generalize w.setObj a { w.objs a with
      flags := { (w.objs a).flags with detachAtNextStop := true } } = w1 at hs ⊢
    have hint : Steady a (catchApi (request env a (.interrupt (w.objs a).ptrace))
        (handleError env a) w1).2 := by
      unfold catchApi handle
      rw [run_request]
      cases hr : env.request w1.log (.interrupt (w.objs a).ptrace) with
      | none => exact hs.of_obj rfl
      | some e =>
        have he : e = Errno.search := hl.detach (Or.inr hr)
        obtain ⟨w2, hd⟩ : ∃ w2, changeState env a .dead
            (w1.say (.request a (.interrupt (w.objs a).ptrace) (some e))) = (.ok (), w2) :=
          run_dead_ok hl _
        have hpt : SamePtrace a (w1.say (.request a (.interrupt (w.objs a).ptrace) (some e)))
            (changeState env a .dead
              (w1.say (.request a (.interrupt (w.objs a).ptrace) (some e)))).2 := dead_ptrace a _
        rw [hd] at hpt
        show Steady a (handleError env a e _).2
        unfold handleError
        rw [if_pos he, hd]
        exact ⟨Or.inr (state_of_changeState hd), by rw [hpt]; exact hs.ptrace⟩
    unfold Exec.when
    split_ifs
    · rw [run_bind]
      cases hr : catchApi (request env a (.interrupt (w.objs a).ptrace)) (handleError env a) w1 with
      | mk r w2 =>
        rw [hr] at hint
        cases r <;> exact hint
    · exact hs

theorem Steady.alive (h : Steady a w) : (w.objs a).alive = true := by
  unfold Tracee.alive Tracee.pid
  simpa using h.ptrace

theorem Steady.eraseTracee {key : ProcessID} (h : Steady a w)
    (hk : ∀ id, w.tracees.find? key = some (some id) → id ≠ a) :
    Steady a (Clues.eraseTracee env key w).2 := by
  unfold Clues.eraseTracee
  rw [run_bind]
  cases hj : (w.tracees.find? key).join with
  | none =>
    rw [run_extractTracee_none hj]
    exact h.of_obj rfl
  | some id =>
    have hf : w.tracees.find? key = some (some id) := Option.join_eq_some_iff.mp hj
    rw [run_extractTracee_some hf]
    have hd : Lets env True id (({ w with tracees := w.tracees.erase key } : World SC).say
        (.untracked key id)) (destroy env id (({ w with tracees := w.tracees.erase key } :
          World SC).say (.untracked key id))).2 := letting_destroy _ trivial
    exact h.of_obj (hd.others a (Ne.symm (hk id hf)))

theorem Steady.stopTracee (hl : DetachLaw env) {signal : Option Signal} {key : ProcessID}
    (h : Steady a w) : Steady a (Clues.stopTracee env signal key w).2 := by
  unfold Clues.stopTracee
  rw [run_bind]
  cases he : entryTracee key w with
  | mk r w1 =>
    cases r with
    | error e =>
      have hw : (entryTracee key w).2 = w := entryTracee_state key w
      rw [he] at hw
      exact hw ▸ h
    | ok id =>
      obtain ⟨hk, rfl⟩ := entryTracee_ok he
      show Steady a ((sendSignal env id signal >>= fun _ => _ : Step SC Unit) w1).2
      rw [run_bind]
      obtain ⟨ht, ho⟩ := sendSignal_same id signal w1
      cases hs : sendSignal env id signal w1 with
      | mk r w2 =>
        rw [hs] at ht ho
        have h2 : Steady a (w2.say (.letGo id)) := h.of_obj (congrFun ho a)
        cases r with
        | error e => exact h2.of_obj rfl
        | ok u =>
          show Steady a ((say (.letGo id) >>= fun _ => _ : Step SC Unit) w2).2
          rw [run_bind_ok (run_say _ _), run_bind]
          have hlet : Lets env True id (w2.say (.letGo id)) (Clues.detach env id (w2.say (.letGo id))).2 :=
            letting_detach _ trivial
          have h3 : Steady a (Clues.detach env id (w2.say (.letGo id))).2 := by
            by_cases hi : a = id
            · exact hi ▸ Steady.detach hl (hi ▸ h2)
            · exact h2.of_obj (hlet.others a hi)
          cases hd : Clues.detach env id (w2.say (.letGo id)) with
          | mk r w3 =>
            rw [hd] at h3 hlet
            cases r with
            | error e => exact h3
            | ok b =>
              show Steady a ((getTracee id >>= fun t => _ : Step SC Unit) w3).2
              rw [run_bind_ok (run_getTracee id w3)]
              unfold Exec.when
              split_ifs with halive
              · refine h3.eraseTracee fun id' hk' ha => ?_
                rw [hlet.tracees, World.say_tracees, ht, hk] at hk'
                obtain rfl : id = id' := Option.some.inj (Option.some.inj hk')
                subst ha
                rw [h3.alive] at halive
                cases halive
              · exact h3

/-- effects that leave the tracee steady -/
def SteadyEffs (env : Env) (a : TraceeId) (L : Labels) (w w' : World SC) : Prop :=
  Effs env a L w w' ∧ (Steady a w → Steady a w')

theorem SteadyEffs.walk (env : Env) (a : TraceeId) (L : Labels) :
    Walk (fun w : World SC => Base w ∧ Steady a w) (SteadyEffs env a L) where
  refl _ := ⟨Relation.ReflTransGen.refl, fun h => h⟩
  trans h h' := ⟨h.1.trans h'.1, fun hs => h'.2 (h.2 hs)⟩
  keeps hB h := ⟨h.1.base hB.1, h.2 hB.2⟩

theorem steady_consumerCall (hl : DetachLaw env) (hE : L .ending) (c : ConsumerCall) :
    Along (fun w : World SC => Base w ∧ Steady a w) (SteadyEffs env a L) (consumerCall env c) := by
  have hp : Walk (fun w : World SC => Base w ∧ Steady a w) _ := SteadyEffs.walk env a L
  cases c with
  | stop signal =>
    refine Along.read_bind fun w hw => Along.each hp (fun key _ v hv => ?_) w hw
    refine ⟨effs_stopTracee hv.1 hE (Or.inr fun w' ho => ?_), Steady.stopTracee hl⟩
    exact ((hv.2.of_obj ho).detach hl).alive
  | detach pid =>
    refine fun w hw => ⟨does_callDetach hE pid w hw.1, fun h => ?_⟩
    show Steady a ((read >>= fun w => _ : Step SC Unit) w).2
    rw [run_read_bind]
    cases hf : w.tracees.find? pid with
    | none => exact h
    | some e =>
      cases e with
      | none => exact h
      | some id =>
        have h2 : Steady a (w.say (.letGo id)) := h.of_obj rfl
        have hlet : Lets env True id (w.say (.letGo id)) (Clues.detach env id (w.say (.letGo id))).2 :=
          letting_detach _ trivial
        have h3 : Steady a (Clues.detach env id (w.say (.letGo id))).2 := by
          by_cases hi : a = id
          · exact hi ▸ Steady.detach hl (hi ▸ h2)
          · exact h2.of_obj (hlet.others a hi)
        show Steady a ((Clues.detach env id >>= fun _ => pure () : Step SC Unit) (w.say (.letGo id))).2
        rw [run_bind]
        cases hd : Clues.detach env id (w.say (.letGo id)) with
        | mk r w3 =>
          rw [hd] at h3
          cases r <;> exact h3

/-- a callback for a steady tracee, from which the consumer may stop the engine -/
theorem effs_notify_steady {it : Iter} {c : Callback} (hl : DetachLaw env) (hB : Base w)
    (hs : Steady a w) (hc : c.tracee = a) (hE : L .ending) (hR : c.isReport = true → L .report) :
    Effs env a L w (notify env it c w).2 := by
  have hp : Walk (fun w : World SC => Base w ∧ Steady a w) _ := SteadyEffs.walk env a L
  have hsay : Says a L (.callback c) := ⟨hc, hE, hR⟩
  have hret : Says a L .returned := hE
  have hquiet : ∀ e : Entry, Says a L e →
      Along (fun w : World SC => Base w ∧ Steady a w) (SteadyEffs env a L) (say e : Step SC Unit) :=
    fun e he w _ => ⟨Eff.single (Eff.say he), fun h => h.of_obj rfl⟩
  have hact : ∀ act : ConsumerAct, Along (fun w : World SC => Base w ∧ Steady a w)
      (SteadyEffs env a L) (consumerAct env act : Step SC Unit) := fun act =>
    Along.ite (fun _ => Along.handle hp (steady_consumerCall hl hE _) fun e =>
      Along.ite (fun _ => Along.pure hp _) fun _ => Along.raise hp _) fun _ =>
      steady_consumerCall hl hE _
  have hcb : Along (fun w : World SC => Base w ∧ Steady a w) (SteadyEffs env a L)
      (callback env c : Step SC Unit) :=
    Along.bind hp (hquiet _ hsay) fun _ => Along.read_bind fun v hv =>
      Along.bind hp (Along.each hp fun act _ => hact act) (fun _ => hquiet _ hret) v hv
  refine Along.bind_of (Effs.walk env a L) hB (hcb w ⟨hB, hs⟩).1 fun _ v _ hv => ?_
  exact does_checkContained it v hv

end

end Clues
