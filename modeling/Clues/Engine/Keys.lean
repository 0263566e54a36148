import Clues.Engine.NewTasks
import Clues.Engine.PidFds

/-!
# The keys of `m_tracees`

An event is handed to the tracee that is registered for the PID that reports it.

* `World.KeysFit`    every entry holds a tracee, and unless this is gone its PID is the key;
* `Installs`         the tracee that is made for a new task is the one that is registered for it;
* `Accepts`          what this takes: an event is delivered to the tracee with the PID that reports
                     it, or it gives the tracee this PID, or the tracee goes; and nothing is
                     registered for the PID of a new task;
* `keysFit_of_accepted`   in runs whose deliveries are like this, the keys fit.
-/

set_option linter.unusedSectionVars false

namespace Clues

open Lib Lib.Exec Step

variable {SC : Type} {env : Env} {a : TraceeId} {L : Labels} {w w' : World SC}
  {other : TraceeId → Prop}

/-! ## entries -/

/-- the tracee is detached from or dead, or it has the PID -/
def Tracee.Keyed (t : Tracee) (key : ProcessID) : Prop := t.ended = true ∨ t.pid = key

def World.KeysFit (w : World SC) : Prop :=
  ∀ key e, w.tracees.find? key = some e → ∃ id, e = some id ∧ (w.objs id).Keyed key

/-- the same, but for some tracees -/
def FitsBut (other : TraceeId → Prop) (w : World SC) : Prop :=
  ∀ key e, w.tracees.find? key = some e → ∃ id, e = some id ∧ (other id ∨ (w.objs id).Keyed key)

theorem World.KeysFit.but (hw : w.KeysFit) : FitsBut other w := by
  intro key e he
  obtain ⟨id, rfl, hk⟩ := hw key e he
  exact ⟨id, rfl, Or.inr hk⟩

/-- in the end the others fit, too -/
theorem FitsBut.fits (hw : FitsBut other w)
    (ho : ∀ key id, w.tracees.find? key = some (some id) → other id → (w.objs id).Keyed key) :
    w.KeysFit := by
  intro key e he
  obtain ⟨id, rfl, h⟩ := hw key e he
  exact ⟨id, rfl, h.elim (ho key id he) fun hk => hk⟩

theorem Tracee.Keyed.of_vital {t t' : Tracee} {key : ProcessID} (h : t.Keyed key)
    (hv : t'.vital = t.vital) : t'.Keyed key := by
  unfold Tracee.vital at hv
  simp only [Prod.mk.injEq] at hv
  obtain ⟨hend, -, -, hp⟩ := hv
  rcases h with h | h
  · exact Or.inl (hend.trans h)
  · exact Or.inr (hp.trans h)

/-- detaching from a tracee leaves it without a PID, but it is detached from then -/
theorem Released.keyed (hl : DetachLaw env) {t t' : Tracee} (hr : Released env t t')
    {key : ProcessID} (h : t.Keyed key) : t'.Keyed key := by
  rcases h with h | h
  · exact Or.inl (hr.ended h)
  · rcases hr.ptrace with hp | ⟨-, hend⟩
    · exact Or.inr (hp.trans h)
    · exact Or.inl (hend.resolve_right (not_not_intro hl))

theorem FitsBut.of_same (hw : FitsBut other w) (ht : w'.tracees = w.tracees)
    (ho : ∀ key id, w.tracees.find? key = some (some id) → (w.objs id).Keyed key →
      (w'.objs id).Keyed key) : FitsBut other w' := by
  intro key e he
  rw [ht] at he
  obtain ⟨id, rfl, h⟩ := hw key e he
  exact ⟨id, rfl, h.imp_right (ho key id he)⟩

theorem FitsBut.of_onObj (hl : DetachLaw env) {id : TraceeId} (hw : FitsBut other w)
    (h : OnObj id w w') (hr : Released env (w.objs id) (w'.objs id)) : FitsBut other w' := by
  apply hw.of_same h.tracees
  intro key i _ hk
  by_cases hi : i = id
  · subst hi
    exact hr.keyed hl hk
  · rw [h.others i hi]
    exact hk

theorem FitsBut.setObj {t : Tracee} (hw : FitsBut other w)
    (ht : ∀ key, w.tracees.find? key = some (some a) → (w.objs a).Keyed key → t.Keyed key) :
    FitsBut other (w.setObj a t) := by
  refine FitsBut.of_same hw rfl fun key id he hk => ?_
  by_cases hid : id = a
  · subst hid
    rw [World.setObj_self]
    exact ht key he hk
  · rw [World.setObj_of_ne w t hid]
    exact hk

/-- taking out an entry -/
theorem FitsBut.erase (hw : FitsBut other w) (key : ProcessID)
    (h : w'.tracees = w.tracees.erase key) (ho : w'.objs = w.objs) : FitsBut other w' := by
  intro k e he
  rw [h, OrdMap.find?_erase] at he
  split_ifs at he
  rw [ho]
  exact hw k e he

/-! ## effects -/

/-- a tracee that goes on after it was detached from, or whose PID is looked up, has the PID of its
entry, and it takes over this PID only -/
structure Sure (a : TraceeId) (L : Labels) (w : World SC) : Prop where
  own : L .revive ∨ L .orphan →
    ∃ key, w.tracees.find? key = some (some a) ∧ (w.objs a).ptrace = key
  exec : ∀ pid, L (.exec pid) → w.tracees.find? pid = some (some a)

theorem Eff.fitsBut (hl : DetachLaw env) (hS : Sure a L w) (hB : Base w)
    (h : Eff env a L w w') (hw : FitsBut other w) : FitsBut other w' := by
  cases h with
  | tweak h =>
    apply hw.of_same h.tracees
    intro key id _ hk
    by_cases hid : id = a
    · subst hid
      exact hk.of_vital h.vital
    · have hv : (w'.objs id).core.vital = (w.objs id).core.vital :=
        congrArg Tracee.vital (h.others id hid)
      exact hk.of_vital hv
  | lets _ h _ => exact hw.of_onObj hl h.toOnObj h.released
  | release _ h _ _ => exact hw.of_onObj hl h.toOnObj h.released
  | die _ h _ => exact hw.of_onObj hl h.toOnObj h.released
  | alloc h _ ho _ =>
    apply hw.of_same h.tracees
    intro key id he hk
    rw [ho id (ne_of_lt (hB.fresh he))]
    exact hk
  | prepare hnt _ _ h _ =>
    apply hw.of_same h.tracees
    intro key id he hk
    rw [h.others id fun hid => hnt ⟨key, hid ▸ he⟩]
    exact hk
  | revive hL _ _ =>
    obtain ⟨own, hown, hp⟩ := hS.own (Or.inl hL)
    apply hw.setObj
    intro key he _
    obtain rfl : key = own := hB.inj he hown
    exact Or.inr hp
  | report hL => exact hw.setObj fun key _ hk => hk
  | setPID pid hL =>
    apply hw.setObj
    intro key he _
    exact Or.inr (hB.inj (hS.exec pid hL) he)
  | @remove key id hk _ => exact hw.erase key rfl rfl
  | @removeNull key _ => exact hw.erase key rfl rfl
  | @add key id _ hk _ _ hb =>
    intro k e he
    have he' : (w.tracees.set key (some id)).find? k = some e := he
    rw [OrdMap.find?_set] at he'
    split_ifs at he' with hkk
    · obtain rfl := Option.some.inj he'
      exact ⟨id, rfl, Or.inr (Or.inr ((congrArg Prod.fst hb).trans hkk.symm))⟩
    · exact hw k e he'
  | addNull hL hk =>
    obtain ⟨own, hown, hp⟩ := hS.own (Or.inr hL)
    rw [hp, hown] at hk
    cases hk
  | _ => exact hw

/-- functions that do none of this -/
structure Tame (L : Labels) : Prop where
  revive : ¬ L .revive
  orphan : ¬ L .orphan
  exec : ∀ pid, ¬ L (.exec pid)

theorem Tame.sure (hL : Tame L) (w : World SC) : Sure a L w :=
  ⟨fun h => h.elim (fun h => absurd h hL.revive) fun h => absurd h hL.orphan,
    fun pid h => absurd h (hL.exec pid)⟩

theorem tame_late : Tame L.late :=
  ⟨fun h => Bool.noConfusion h.2, fun h => Bool.noConfusion h.2, fun _ h => Bool.noConfusion h.2⟩

theorem Effs.fitsBut (hl : DetachLaw env) (hL : Tame L) (hB : Base w) (h : Effs env a L w w')
    (hw : FitsBut other w) : FitsBut other w' := by
  induction h with
  | refl => exact hw
  | tail hs h ih => exact h.fitsBut hl (hL.sure _) (Effs.base hs hB) ih

/-! ## an event of a tracee with the PID that reports it -/

structure AtHome (a : TraceeId) (key : ProcessID) (w : World SC) : Prop where
  entry : w.tracees.find? key = some (some a)
  pid : (w.objs a).ptrace = key

theorem AtHome.sure {key : ProcessID} (hexec : ∀ pid, L (.exec pid) → pid = key)
    (h : AtHome a key w) : Sure a L w := by
  refine ⟨fun _ => ⟨key, h.entry, h.pid⟩, fun pid hL => ?_⟩
  obtain rfl := hexec pid hL
  exact h.entry

/-- before the consumer is called the tracee stays where it is, unless it is dead -/
theorem Eff.atHome {key : ProcessID} (hdie : ¬ L .die) (hexec : ∀ pid, L (.exec pid) → pid = key)
    (hB : Base w) (h : Eff env a L.early w w') (hw : AtHome a key w) : AtHome a key w' := by
  refine ⟨h.contained not_early_drop (fun h => absurd h not_early_attach) hw.entry, ?_⟩
  rcases h.own_early hB ⟨key, hw.entry⟩ with ho | ht | ⟨hd, -⟩ | ⟨-, -, s, ho⟩ | ⟨pid, hL, ho⟩
  · rw [ho]
    exact hw.pid
  · have hv := ht.vital
    unfold Tracee.vital at hv
    simp only [Prod.mk.injEq] at hv
    exact hv.2.2.2.trans hw.pid
  · exact absurd hd hdie
  · rw [ho]
    exact hw.pid
  · rw [ho]
    exact hexec pid hL

theorem Effs.atHome {key : ProcessID} (hl : DetachLaw env) (hdie : ¬ L .die)
    (hexec : ∀ pid, L (.exec pid) → pid = key) (hB : Base w) (h : Effs env a L.early w w')
    (hw : FitsBut other w) (ha : AtHome a key w) : FitsBut other w' ∧ AtHome a key w' := by
  induction h with
  | refl => exact ⟨hw, ha⟩
  | tail hs h ih =>
    have hB1 := Effs.base hs hB
    exact ⟨h.fitsBut hl (ih.2.sure fun pid hL => hexec pid hL.1) hB1 ih.1,
      h.atHome hdie hexec hB1 ih.2⟩

/-- all effects but the end, and `execve()` under another PID -/
def livingLabels (pid : ProcessID) : Labels
  | .die => False
  | .exec pid' => pid' = pid
  | _ => True

section
variable [SyscallOps SC] {id : TraceeId} {d : ChildState} {v : World SC}

theorem eventLabels_living (hend : d.isEnd = false) (hk : v.tracees.find? d.pid = some (some id)) :
    EventLabels env (livingLabels d.pid) ⟨d.pid, id⟩ d v := by
  refine ⟨⟨trivial, Or.inl trivial⟩, trivial, trivial, trivial, fun h => ?_,
    fun _ => ⟨trivial, trivial⟩, fun _ _ => ⟨⟨trivial, rfl⟩, ⟨trivial, rfl⟩, ⟨trivial, rfl⟩⟩,
    fun _ _ => trivial, fun _ _ => ⟨rfl, trivial, hk⟩,
    fun _ _ _ _ => ⟨trivial, trivial, trivial, Or.inl trivial⟩⟩
  rw [hend] at h
  cases h

theorem fits_living (hl : DetachLaw env) (hB : Base v) (hk : v.tracees.find? d.pid = some (some id))
    (hend : d.isEnd = false) (hp : (v.objs id).ptrace = d.pid) (hw : v.KeysFit) :
    (handleKnown env ⟨d.pid, id⟩ d v).2.KeysFit := by
  have hcourse : Course env id (livingLabels d.pid) v (handleKnown env ⟨d.pid, id⟩ d v).2 :=
    course_handleKnown hB rfl (hB.fresh hk) (eventLabels_living hend hk) trivial
  obtain ⟨u, hearly, hlate⟩ := hcourse
  have hu : FitsBut (fun _ => False) u :=
    (hearly.atHome hl (fun h => h) (fun _ h => h) hB hw.but ⟨hk, hp⟩).1
  have hv := hlate.fitsBut hl tame_late (hearly.base hB) hu
  exact hv.fits fun _ _ _ h => h.elim

/-! ## the end of a tracee -/

/-- effects of cleaning up -/
def cleanupLabels : Labels
  | .ending | .drop => True
  | _ => False

theorem tame_cleanup : Tame cleanupLabels := ⟨fun h => h, fun h => h, fun _ h => h⟩

theorem fits_cleanup (hl : DetachLaw env) (key : ProcessID) {u : World SC}
    (hu : Base u ∧ FitsBut other u) : Base (checkCleanupTracee env key u).2 ∧
      FitsBut other (checkCleanupTracee env key u).2 := by
  have he : Effs env 0 cleanupLabels u (checkCleanupTracee env key u).2 :=
    effs_checkCleanupTracee hu.1 trivial (Or.inl trivial)
  exact ⟨he.base hu.1, he.fitsBut hl tame_cleanup hu.1 hu.2⟩

/-- effects of the end of a tracee -/
def endLabels : Labels
  | .deliver | .die | .report | .ending | .drop => True
  | _ => False

theorem tame_end : Tame endLabels := ⟨fun h => h, fun h => h, fun _ h => h⟩

theorem effs_processEnd (hend : d.isEnd = true) (hB : Base v) (hlt : id < v.nextObj) :
    Effs env id endLabels v (processEvent env ⟨d.pid, id⟩ d v).2 := by
  have hp : Walk (Base : World SC → Prop) _ := Effs.walk env id endLabels
  have hsay : Eff env id endLabels v (v.say (.deliver id d)) := Eff.say ⟨rfl, trivial⟩
  have hset : Eff env id endLabels (v.say (.deliver id d))
      ((v.say (.deliver id d)).setObj id { v.objs id with injectSig := none }) :=
    Eff.tweak (tweak_mild rfl)
  have hB1 := hset.base (hsay.base hB)
  unfold processEvent
  rw [run_bind_ok (run_say _ v), run_bind_ok (run_modifyTracee id _ _), if_pos hend]
  refine hp.trans (Eff.single hsay) (hp.trans (Eff.single hset) ?_)
  have hdead : Effs env id endLabels
      ((v.say (.deliver id d)).setObj id { v.objs id with injectSig := none })
      (changeState env id .dead
        ((v.say (.deliver id d)).setObj id { v.objs id with injectSig := none })).2 :=
    Eff.single (Eff.die trivial (letting_dead _ trivial) hlt)
  refine Along.bind_of hp hB1 hdead fun _ u _ hu => ?_
  have htell : Does env id endLabels (do
      let t ← getTracee id
      when (t.flags.waitForExited = false) (notify env ⟨d.pid, id⟩ (.disappeared id d))
      modifyTracee id fun t => { t with exitData := some d } : Step SC Unit) := by
    apply Does.bind Does.reading
    intro t
    apply Does.bind
    · exact Does.when fun _ => does_notify rfl ⟨trivial, fun _ => trivial, Or.inl trivial⟩
    · exact fun _ => Does.modify fun _ => rfl
  exact htell u hu

theorem fits_ends (hl : DetachLaw env) (hB : Base v) (hk : v.tracees.find? d.pid = some (some id))
    (hend : d.isEnd = true) (hw : v.KeysFit) : (handleKnown env ⟨d.pid, id⟩ d v).2.KeysFit := by
  have he : Effs env id endLabels v (processEvent env ⟨d.pid, id⟩ d v).2 :=
    effs_processEnd hend hB (hB.fresh hk)
  have hall : Base (handleKnown env ⟨d.pid, id⟩ d v).2 ∧
      FitsBut (fun _ => False) (handleKnown env ⟨d.pid, id⟩ d v).2 := by
    apply final_handleKnown (I := fun u => Base u ∧ FitsBut (fun _ => False) u)
    · exact ⟨he.base hB, he.fitsBut hl tame_end hB hw.but⟩
    · exact fun u hu => fits_cleanup hl _ hu
  exact hall.2.fits fun _ _ _ h => h.elim

/-! ## detaching at the next stop -/

/-- a tracee that was detached from or is dead stays so -/
theorem Eff.ended_stays (hL : ¬ L .revive) {i : TraceeId} (hi : i < w.nextObj)
    (h : Eff env a L w w') (hend : (w.objs i).ended = true) : (w'.objs i).ended = true := by
  have honly : ∀ {j : TraceeId}, OnObj j w w' → Released env (w.objs j) (w'.objs j) →
      (w'.objs i).ended = true := by
    intro j ho hr
    by_cases hij : i = j
    · subst hij
      exact hr.ended hend
    · rw [ho.others i hij]
      exact hend
  have hset : ∀ {t : Tracee}, t.ended = (w.objs a).ended → ((w.setObj a t).objs i).ended = true := by
    intro t ht
    by_cases hia : i = a
    · subst hia
      rw [World.setObj_self, ht]
      exact hend
    · rw [World.setObj_of_ne w t hia]
      exact hend
  cases h with
  | tweak h =>
    by_cases hia : i = a
    · subst hia
      exact (congrArg Prod.fst h.vital).trans hend
    · have hv : (w'.objs i).core.vital = (w.objs i).core.vital :=
        congrArg Tracee.vital (h.others i hia)
      exact (congrArg Prod.fst hv).trans hend
  | lets _ h _ => exact honly h.toOnObj h.released
  | release _ h _ _ => exact honly h.toOnObj h.released
  | die _ h _ => exact honly h.toOnObj h.released
  | revive hL' => exact absurd hL' hL
  | report => exact hset rfl
  | setPID => exact hset rfl
  | alloc _ _ ho _ =>
    rw [ho i (ne_of_lt hi)]
    exact hend
  | @prepare _ j _ _ hj h _ =>
    rw [h.others i fun hij => ?_]
    · exact hend
    · rw [hij, hj] at hend
      cases hend
  | _ => exact hend

theorem Effs.ended_stays (hL : ¬ L .revive) {i : TraceeId} (hi : i < w.nextObj)
    (h : Effs env a L w w') (hend : (w.objs i).ended = true) : (w'.objs i).ended = true := by
  induction h with
  | refl => exact hend
  | tail hs h ih => exact h.ended_stays hL (lt_of_lt_of_le hi (Effs.nextObj_le hs)) ih

/-- after an attempt to detach from it, a tracee is detached from or dead -/
theorem ended_doDetach (hl : DetachLaw env) (id : TraceeId) (w : World SC) :
    ((doDetach env id w).2.objs id).ended = true := by
  cases h : env.request w.log (.detach (w.objs id).ptrace) with
  | none =>
    rw [run_doDetach_ok h, World.setObj_self]
    rfl
  | some e =>
    obtain rfl : e = Errno.search := hl.detach (Or.inl h)
    rw [run_doDetach_error h]
    obtain ⟨u, hu⟩ : ∃ u, changeState env id .dead
        (w.say (.request id (.detach (w.objs id).ptrace) (some Errno.search))) = (.ok (), u) :=
      run_dead_ok hl _
    have hhandle : handleError env id Errno.search
        (w.say (.request id (.detach (w.objs id).ptrace) (some Errno.search))) = (.ok (), u) := by
      unfold handleError
      rw [if_pos rfl]
      exact hu
    rw [run_bind_ok hhandle]
    show ((u.setObj id _).objs id).ended = true
    rw [World.setObj_self]
    exact ended_of_handleError hhandle

/-- effects of detaching from the tracee -/
def leavingLabels : Labels
  | .deliver | .ending | .drop => True
  | _ => False

theorem tame_leaving : Tame leavingLabels := ⟨fun h => h, fun h => h, fun _ h => h⟩

theorem effs_processFlagged (hlt : id < v.nextObj) (ht : d.isTrapped = true)
    (hf : (v.objs id).flags.detachAtNextStop = true) :
    Effs env id leavingLabels v (processEvent env ⟨d.pid, id⟩ d v).2 := by
  have hp : Walk (Base : World SC → Prop) _ := Effs.walk env id leavingLabels
  have hsay : Eff env id leavingLabels v (v.say (.deliver id d)) := Eff.say ⟨rfl, trivial⟩
  have hset : Eff env id leavingLabels (v.say (.deliver id d))
      ((v.say (.deliver id d)).setObj id { v.objs id with injectSig := none }) :=
    Eff.tweak (tweak_mild rfl)
  have hrun : processEvent env ⟨d.pid, id⟩ d v = doDetach env id
      ((v.say (.deliver id d)).setObj id { v.objs id with injectSig := none }) :=
    run_processEvent_flagged ht hf
  rw [hrun]
  refine hp.trans (Eff.single hsay) (hp.trans (Eff.single hset) (Eff.single ?_))
  have hcalm : ¬ (((v.say (.deliver id d)).setObj id
      { v.objs id with injectSig := none }).objs id).Calm := by
    intro hc
    have hno := hc.unflagged
    rw [World.setObj_self] at hno
    rw [show (v.objs id).flags.detachAtNextStop = false from hno] at hf
    cases hf
  refine Eff.lets ⟨hlt, fun _ => trivial, Or.inr (Or.inr (Or.inr rfl))⟩
    (lets_doDetach fun _ => hcalm) fun _ => ?_
  exact ⟨fun h => absurd rfl h, fun h => absurd h hcalm⟩

theorem fits_flagged (hl : DetachLaw env) (hB : Base v)
    (hk : v.tracees.find? d.pid = some (some id)) (ht : d.isTrapped = true)
    (hf : (v.objs id).flags.detachAtNextStop = true) (hw : FitsBut (· = id) v) :
    (handleKnown env ⟨d.pid, id⟩ d v).2.KeysFit := by
  have he : Effs env id leavingLabels v (processEvent env ⟨d.pid, id⟩ d v).2 :=
    effs_processFlagged (hB.fresh hk) ht hf
  have hall : (Base (handleKnown env ⟨d.pid, id⟩ d v).2 ∧
      FitsBut (· = id) (handleKnown env ⟨d.pid, id⟩ d v).2) ∧
      id < (handleKnown env ⟨d.pid, id⟩ d v).2.nextObj ∧
      ((handleKnown env ⟨d.pid, id⟩ d v).2.objs id).ended = true := by
    apply final_handleKnown (I := fun u => (Base u ∧ FitsBut (· = id) u) ∧
      id < u.nextObj ∧ (u.objs id).ended = true)
    · refine ⟨⟨he.base hB, he.fitsBut hl tame_leaving hB hw⟩,
        lt_of_lt_of_le (hB.fresh hk) he.nextObj_le, ?_⟩
      have hrun : processEvent env ⟨d.pid, id⟩ d v = doDetach env id
          ((v.say (.deliver id d)).setObj id { v.objs id with injectSig := none }) :=
        run_processEvent_flagged ht hf
      rw [hrun]
      exact ended_doDetach hl id _
    · intro u hu
      have hclean : Effs env 0 cleanupLabels u (checkCleanupTracee env d.pid u).2 :=
        effs_checkCleanupTracee hu.1.1 trivial (Or.inl trivial)
      exact ⟨fits_cleanup hl _ hu.1, lt_of_lt_of_le hu.2.1 hclean.nextObj_le,
        hclean.ended_stays (fun h => h) hu.2.1 hu.2.2⟩
  apply hall.1.2.fits
  intro key i _ hi
  subst hi
  exact Or.inl hall.2.2

/-! ## `execve()` under another PID -/

/-- the tracee has got the PID of its process -/
def World.taken (v : World SC) (env : Env) (id : TraceeId) (d : ChildState) : World SC :=
  (((v.decoding id d).say (.request id (.getPIDEventMsg d.pid) none)).say
    (.execed id (env.pidEventMsg (v.log ++ [.deliver id d]) d.pid) none)).setObj id
      { (v.decoding id d).objs id with ptrace := d.pid }

theorem run_handleExecEvent_takes (ht : TakesPid env v id d) :
    ∃ tell : Callback, tell.tracee = id ∧ tell.mayStop = false ∧ tell.isReport = false ∧
      handleExecEvent env ⟨d.pid, id⟩ d.pid (v.decoding id d) = (do
        updateExecInfo env id
        dropClosedFDs env id
        notify env ⟨d.pid, id⟩ tell) (v.taken env id d) := by
  obtain ⟨former, hformer⟩ : ∃ former, env.pidEventMsg (v.log ++ [.deliver id d]) d.pid = former :=
    ⟨_, rfl⟩
  have hne : former ≠ d.pid := by
    rw [← hformer]
    exact ht.other
  have hnone : v.tracees.find? former = none := by
    rw [← hformer]
    exact ht.untracked
  have hlog : (v.decoding id d).log = v.log ++ [.deliver id d] := rfl
  have hask : query env id (.getPIDEventMsg d.pid) (fun log => env.pidEventMsg log d.pid)
      (v.decoding id d)
      = (.ok former, (v.decoding id d).say (.request id (.getPIDEventMsg d.pid) none)) := by
    rw [run_query_ok id _ (by rw [hlog]; exact ht.answered), hlog, hformer]
  refine ⟨.newExecutionContext id
    ((v.decoding id d).procs ((v.decoding id d).objs id).processData).executable
    ((v.decoding id d).procs ((v.decoding id d).objs id).processData).cmdline (some former),
    rfl, rfl, rfl, ?_⟩
  unfold handleExecEvent
  rw [run_read_bind, run_bind_ok hask]
  simp only [ne_eq, hne, not_false_eq_true, if_true]
  have hnone' : (v.decoding id d).tracees.find? former = none := hnone
  rw [hnone', run_bind_ok (run_say _ _), when_pos hne]
  have hsub : handleSubstitution env former
      (((v.decoding id d).say (.request id (.getPIDEventMsg d.pid) none)).say
        (.execed id former none)) = (.ok none,
      ((v.decoding id d).say (.request id (.getPIDEventMsg d.pid) none)).say
        (.execed id former none)) := by
    unfold handleSubstitution
    rw [run_read_bind, World.say_tracees, World.say_tracees, hnone']
    rfl
  have htake : replaceLeader env ⟨d.pid, id⟩ d.pid former
      (((v.decoding id d).say (.request id (.getPIDEventMsg d.pid) none)).say
        (.execed id former none)) = (.ok (), v.taken env id d) := by
    unfold replaceLeader World.taken
    rw [run_bind_ok hsub, hformer]
    rfl
  exact run_bind_ok htake

theorem base_taken (hB : Base v) : Base (v.taken env id d) := by
  have hsay : Base (v.say (.deliver id d)) := hB.say rfl fun _ => nofun
  have hdec : Base (v.decoding id d) := hsay.silent rfl le_rfl rfl
  have hask : Base ((v.decoding id d).say (.request id (.getPIDEventMsg d.pid) none)) :=
    hdec.say rfl fun _ => nofun
  have htold : Base (((v.decoding id d).say (.request id (.getPIDEventMsg d.pid) none)).say
      (.execed id (env.pidEventMsg (v.log ++ [.deliver id d]) d.pid) none)) :=
    hask.say rfl fun _ => nofun
  exact htold.silent rfl le_rfl rfl

theorem fits_taken (hB : Base v) (hk : v.tracees.find? d.pid = some (some id))
    (hw : FitsBut (· = id) v) : (v.taken env id d).KeysFit := by
  intro key e he
  have he' : v.tracees.find? key = some e := he
  obtain ⟨i, rfl, h⟩ := hw key e he'
  refine ⟨i, rfl, ?_⟩
  unfold World.taken
  by_cases hi : i = id
  · subst hi
    rw [World.setObj_self]
    exact Or.inr (hB.inj hk he')
  · rw [World.setObj_of_ne _ _ hi]
    show ((v.decoding id d).objs i).Keyed key
    unfold World.decoding
    rw [World.setObj_of_ne _ _ hi]
    exact h.resolve_left hi

theorem fits_takes (hl : DetachLaw env) (hB : Base v) (hk : v.tracees.find? d.pid = some (some id))
    (ht : TakesPid env v id d) (hw : FitsBut (· = id) v) :
    (handleKnown env ⟨d.pid, id⟩ d v).2.KeysFit := by
  obtain ⟨signal, he⟩ := d.isExec_iff.mp ht.exec
  obtain ⟨tell, hid, hstop, hreport, hrun⟩ := run_handleExecEvent_takes ht
  have hrest : Does env id (Labels.late fun _ => True) ((do
      updateExecInfo env id
      dropClosedFDs env id
      notify env ⟨d.pid, id⟩ tell) >>= fun _ => restartTracee env ⟨d.pid, id⟩ : Step SC Unit) := by
    have hL : LateLabels env fun _ => True := ⟨trivial, Or.inl trivial⟩
    apply Does.bind
    · apply Does.bind (does_updateExecInfo id)
      intro _
      apply Does.bind (does_dropClosedFDs id)
      exact fun _ => does_notify hid (hL.call hstop fun h => absurd h (by simp [hreport]))
    · exact fun _ => does_restartTracee rfl hL
  have hall : Base (handleKnown env ⟨d.pid, id⟩ d v).2 ∧
      FitsBut (fun _ => False) (handleKnown env ⟨d.pid, id⟩ d v).2 := by
    apply final_handleKnown (I := fun u => Base u ∧ FitsBut (fun _ => False) u)
    · rw [run_processEvent_event he ht.handled]
      show Base ((handleExecEvent env ⟨d.pid, id⟩ d.pid >>= fun _ => _ : Step SC Unit)
        (v.decoding id d)).2 ∧ FitsBut _ ((handleExecEvent env ⟨d.pid, id⟩ d.pid >>= fun _ => _ :
          Step SC Unit) (v.decoding id d)).2
      rw [run_bind, hrun, ← run_bind]
      have hB1 : Base (v.taken env id d) := base_taken hB
      have heffs := hrest (v.taken env id d) hB1
      exact ⟨Effs.base heffs hB1, Effs.fitsBut hl tame_late hB1 heffs (fits_taken hB hk hw).but⟩
    · exact fun u hu => fits_cleanup hl _ hu
  exact hall.2.fits fun _ _ _ h => h.elim

/-! ## new tasks -/

/-- the event tells of a new task -/
def ChildState.isNewTask (d : ChildState) : Bool :=
  match d.event with
  | .trapped (.event _ .clone) | .trapped (.event _ .fork) | .trapped (.event _ .vfork) => true
  | _ => false

theorem ChildState.isNewTask_iff (d : ChildState) :
    d.isNewTask = true ↔ ∃ signal event, d.event = .trapped (.event signal event) ∧
      (event = .clone ∨ event = .fork ∨ event = .vfork) := by
  constructor
  · intro h
    unfold ChildState.isNewTask at h
    split at h
    · exact ⟨_, _, by assumption, Or.inl rfl⟩
    · exact ⟨_, _, by assumption, Or.inr (Or.inl rfl)⟩
    · exact ⟨_, _, by assumption, Or.inr (Or.inr rfl)⟩
    · cases h
  · rintro ⟨signal, event, he, rfl | rfl | rfl⟩
    · rw [ChildState.isNewTask, he]
    · rw [ChildState.isNewTask, he]
    · rw [ChildState.isNewTask, he]

/-- the tracee reports a new task, and the tracer learns its PID -/
structure Announces (env : Env) (v : World SC) (id : TraceeId) (d : ChildState) : Prop where
  creates : d.isNewTask = true
  handled : (v.objs id).flags.detachAtNextStop = false
  answered : env.request (v.log ++ [.deliver id d]) (.getPIDEventMsg (v.objs id).ptrace) = none

/-- the PID of the new task -/
def Env.newPid (env : Env) (v : World SC) (id : TraceeId) (d : ChildState) : ProcessID :=
  env.pidEventMsg (v.log ++ [.deliver id d]) (v.objs id).ptrace

/-- the tracee that is made for the new task, which is the next object, is registered for its PID
at once -/
def Installs (env : Env) (v : World SC) (id : TraceeId) (d : ChildState) : Prop :=
  Announces env v id d → ∀ call, v.currentCall id = some call →
    (∃ shares, SyscallOps.sharesFiles call.obj = .ok shares) →
    v.log ++ [.deliver id d, .request id (.getPIDEventMsg (v.objs id).ptrace) none,
      .tracked (env.newPid v id d) v.nextObj] <+: (processEvent env ⟨d.pid, id⟩ d v).2.log

theorem run_configure_ok {i : TraceeId} (pid : ProcessID) {call : CallObj SC} {shares : Bool}
    (h : SyscallOps.sharesFiles call.obj = .ok shares) (w : World SC) :
    ∃ u, configure i pid call w = (.ok (), u) ∧ u.tracees = w.tracees ∧ u.log = w.log := by
  unfold configure setPID
  rw [run_bind_ok (run_modifyTracee i _ w), run_bind_ok (run_setFlags i _ _), h]
  cases shares with
  | true => exact ⟨_, rfl, rfl, rfl⟩
  | false => exact ⟨_, rfl, rfl, rfl⟩

/-- what is done with the new entry -/
def announceEntry (env : Env) (it : Iter) (pid : ProcessID) (event : PtraceEvent)
    (child : TraceeId) : Step SC Unit := do
  let thread ← hasClonedThread it.id
  let entry ← entryTracee pid
  tellNewChild env it pid event entry thread
  when (entry ≠ child) (destroy env child)

/-- the new tracee is registered for the PID -/
structure Installed (pid : ProcessID) (w u : World SC) : Prop where
  base : Base u
  log : u.log = w.log ++ [.tracked pid w.nextObj]
  entry : u.tracees.find? pid = some (some w.nextObj)

theorem installed_addAutoAttached {it : Iter} {pid : ProcessID} (event : PtraceEvent)
    {call : CallObj SC} {shares : Bool} (hshares : SyscallOps.sharesFiles call.obj = .ok shares)
    {w : World SC} (hB : Base w) (hhome : AtHome it.id it.key w)
    (hnew : w.tracees.find? pid = none) :
    ∃ u, Installed pid w u ∧
      addAutoAttached env it pid event call w = announceEntry env it pid event w.nextObj u := by
  have hparent : w.tracees.find? (w.objs it.id).ptrace = some (some it.id) := by
    rw [hhome.pid]
    exact hhome.entry
  have hindex : indexTracee (w.objs it.id).pid w = (.ok (some it.id),
      { w with tracees := w.tracees.insert (w.objs it.id).ptrace none }) := by
    show (Except.ok (w.tracees.find? (w.objs it.id).ptrace).join, _) = _
    rw [hparent]
    rfl
  have hB1 : Base (indexTracee (w.objs it.id).pid w).2 := by
    have he : Effs env it.id (fun _ => True) w (indexTracee (w.objs it.id).ptrace w).2 :=
      effs_indexTracee trivial w
    exact he.base hB
  rw [hindex] at hB1
  generalize hw1 : ({ w with tracees := w.tracees.insert (w.objs it.id).ptrace none } :
    World SC) = w1 at hindex hB1
  have hlog1 : w1.log = w.log := by rw [← hw1]
  have hnext1 : w1.nextObj = w.nextObj := by rw [← hw1]
  have hnew1 : w1.tracees.find? pid = none := by
    have hne : pid ≠ (w.objs it.id).ptrace := by
      rintro rfl
      rw [hparent] at hnew
      cases hnew
    rw [← hw1]
    exact (OrdMap.find?_insert_of_ne _ _ hne).trans hnew
  obtain ⟨w2, hr2, heff, hl2, ht2, hlog2, -⟩ := newTracee_spec .autoAttached (some it.id) hB1
  have hB2 : Base w2 := (heff env it.id fun _ => True).base hB1
  obtain ⟨w3, hr3, ht3, hlog3⟩ := run_configure_ok (i := w1.nextObj) pid hshares w2
  have hl3 : Loose w1.nextObj pid w3 := (configure_ok hl2 hr3).2
  have hB3 : Base w3 := by
    have he : Effs env it.id (fun _ => True) w2 (configure w1.nextObj pid call w2).2 :=
      effs_ready (readies_configure _ _ _) hl2
    rw [hr3] at he
    exact he.base hB2
  have hnew3 : w3.tracees.find? pid = none := by
    rw [ht3, ht2]
    exact hnew1
  have hr4 : insertTracee pid w1.nextObj w3 = (.ok (), (putTracee pid w1.nextObj w3).2) := by
    unfold insertTracee
    rw [run_read_bind, hnew3]
    rfl
  refine ⟨(putTracee pid w1.nextObj w3).2, ⟨?_, ?_, ?_⟩, ?_⟩
  · have he : Effs env it.id (fun _ => True) w3 (putTracee pid w1.nextObj w3).2 :=
      effs_putTracee hl3 trivial hnew3
    exact he.base hB3
  · show w3.log ++ [.tracked pid w1.nextObj] = _
    rw [hlog3, hlog2, hlog1, hnext1]
  · rw [← hnext1]
    exact OrdMap.find?_set_self _ _ _
  · unfold addAutoAttached
    rw [run_bind_ok (run_getTracee it.id w), run_bind_ok hindex, run_bind_ok hr2, run_bind_ok hr3,
      run_bind_ok hr4, hnext1]
    rfl

/-- what follows, as far as it changes anything -/
theorem does_afterInstalled (it : Iter) (pid : ProcessID) (event : PtraceEvent) (child : TraceeId)
    (thread : Bool) : Does env it.id (Labels.late fun _ => True) (do
      tellNewChild env it pid event child thread
      when (child ≠ child) (destroy env child)
      update fun w => { w with newlyAttachedPid := pid }
      restartTracee env it : Step SC Unit) := by
  have hL : LateLabels env fun _ => True := ⟨trivial, Or.inl trivial⟩
  apply Does.bind
  · exact fun w hB => effs_tellNewChild hB hL pid event child thread (Or.inl trivial)
  intro _
  apply Does.bind
  · exact Does.when fun h => absurd rfl h
  intro _
  apply Does.bind
  · exact fun w _ => Eff.single (Eff.newly pid ⟨trivial, rfl⟩)
  · exact fun _ => does_restartTracee rfl hL

theorem Installed.log_grows {it : Iter} {pid : ProcessID} {w u : World SC}
    (h : Installed pid w u) (event : PtraceEvent) :
    w.log ++ [.tracked pid w.nextObj] <+: ((do
      announceEntry env it pid event w.nextObj
      update fun w => { w with newlyAttachedPid := pid }
      restartTracee env it : Step SC Unit) u).2.log := by
  rw [← h.log]
  unfold announceEntry
  simp only [assoc_bind]
  have hsame := hasClonedThread_state it.id u
  rw [run_bind]
  cases hthread : hasClonedThread it.id u with
  | mk r u' =>
    rw [hthread] at hsame
    obtain rfl : u' = u := hsame
    cases r with
    | error e => exact List.prefix_refl _
    | ok thread =>
      show u'.log <+: ((entryTracee pid >>= fun child => _ : Step SC Unit) u').2.log
      rw [run_bind_ok (run_entryTracee h.entry)]
      exact (does_afterInstalled it pid event w.nextObj thread u' h.base).log_grows

theorem installs_of_new (hB : Base v) (hk : v.tracees.find? d.pid = some (some id))
    (hp : (v.objs id).ptrace = d.pid) (hnew : v.tracees.find? (env.newPid v id d) = none) :
    Installs env v id d := by
  rintro ha call hc ⟨shares, hshares⟩
  obtain ⟨signal, event, he, hcreates⟩ := d.isNewTask_iff.mp ha.creates
  have hne : event ≠ .vforkDone := by
    rcases hcreates with rfl | rfl | rfl
    · exact nofun
    · exact nofun
    · exact nofun
  have hchild : handlePtraceEvent env ⟨d.pid, id⟩ d.pid event signal
      = (handleNewChildEvent env ⟨d.pid, id⟩ event : Step SC Unit) := by
    rcases hcreates with rfl | rfl | rfl
    · rfl
    · rfl
    · rfl
  have hlog : (v.decoding id d).log = v.log ++ [.deliver id d] := rfl
  have hcalled : calledFrom env id (v.decoding id d) = (.ok (env.newPid v id d, call),
      (v.decoding id d).say (.request id (.getPIDEventMsg (v.objs id).ptrace) none)) := by
    rw [run_calledFrom_ok ((currentCall_decoding d).trans hc), ptrace_decoding]
    · rfl
    · rw [ptrace_decoding, hlog]
      exact ha.answered
  have hB1 : Base ((v.decoding id d).say
      (.request id (.getPIDEventMsg (v.objs id).ptrace) none)) := by
    have hsay : Base (v.say (.deliver id d)) := hB.say rfl fun _ => nofun
    have hdec : Base (v.decoding id d) := hsay.silent rfl le_rfl rfl
    exact hdec.say rfl fun _ => nofun
  have hhome : AtHome id d.pid ((v.decoding id d).say
      (.request id (.getPIDEventMsg (v.objs id).ptrace) none)) :=
    ⟨hk, (ptrace_decoding d).trans hp⟩
  obtain ⟨u, hu, hrun⟩ : ∃ u, Installed (env.newPid v id d) _ u ∧
      addAutoAttached env ⟨d.pid, id⟩ (env.newPid v id d) event call _ = _ :=
    installed_addAutoAttached event hshares hB1 hhome hnew
  rw [run_processEvent_event he ha.handled, hchild]
  unfold handleNewChildEvent
  simp only [assoc_bind]
  rw [run_bind_ok hcalled]
  unfold handleAutoAttach
  rw [if_pos hne]
  simp only [assoc_bind]
  rw [run_bind, hrun, ← run_bind]
  have hgrows : _ <+: ((announceEntry env ⟨d.pid, id⟩ (env.newPid v id d) event _ >>= fun _ =>
      _ : Step SC Unit) u).2.log := hu.log_grows event
  simp only [World.say_log, hlog, List.append_assoc, List.cons_append, List.nil_append] at hgrows
  exact hgrows

/-! ## runs -/

/-- the event is delivered to the tracee with the PID that reports it, or it gives the tracee this
PID, or it is the end of the tracee or the stop at which the tracer detaches from it; and a new task
has a PID that nothing is registered for -/
structure Accepts (env : Env) (v : World SC) (id : TraceeId) (d : ChildState) : Prop where
  known : (v.objs id).pid = d.pid ∨ d.isEnd = true ∨
    (d.isTrapped = true ∧ (v.objs id).flags.detachAtNextStop = true) ∨ TakesPid env v id d
  unknown : Announces env v id d → v.tracees.find? (env.newPid v id d) = none

/-- all deliveries of a step are like this -/
def AcceptsAll (env : Env) : StepCond SC := fun w op =>
  match op with
  | .event data => ∀ id d v, Delivery env data w id d v → Accepts env v id d
  | _ => True

theorem Accepts.fits (hl : DetachLaw env) (hB : Base v)
    (hk : v.tracees.find? d.pid = some (some id)) (h : Accepts env v id d)
    (hother : FitsBut (· = id) v) (hall : d.isEnd = true → v.KeysFit) :
    (handleKnown env ⟨d.pid, id⟩ d v).2.KeysFit := by
  by_cases hend : d.isEnd = true
  · exact fits_ends hl hB hk hend (hall hend)
  rcases h.known with hp | hend' | ⟨ht, hf⟩ | ht
  · apply fits_living hl hB hk (Bool.eq_false_iff.mpr hend) hp
    apply hother.fits
    intro key i he hi
    subst hi
    exact Or.inr (hp.trans (hB.inj hk he))
  · exact absurd hend' hend
  · exact fits_flagged hl hB hk ht hf hother
  · exact fits_takes hl hB hk ht hother

/-- an event that tells of a new task comes from the tracee that it is delivered to -/
theorem Accepts.installs (hB : Base v) (hk : v.tracees.find? d.pid = some (some id))
    (h : Accepts env v id d) : Installs env v id d := by
  intro ha
  obtain ⟨signal, event, he, hcreates⟩ := d.isNewTask_iff.mp ha.creates
  have hend : d.isEnd = false := by
    unfold ChildState.isEnd
    rw [he]
  rcases h.known with hp | hend' | ⟨-, hf⟩ | ht
  · exact installs_of_new hB hk hp (h.unknown ha) ha
  · rw [hend] at hend'
    cases hend'
  · rw [ha.handled] at hf
    cases hf
  · obtain ⟨s, he'⟩ := d.isExec_iff.mp ht.exec
    rw [he] at he'
    cases he'
    rcases hcreates with h | h | h
    · cases h
    · cases h
    · cases h

theorem World.KeysFit.congr (hw : w.KeysFit) (ht : w'.tracees = w.tracees)
    (ho : w'.objs = w.objs) : w'.KeysFit := by
  intro key e he
  rw [ht] at he
  rw [ho]
  exact hw key e he

theorem World.KeysFit.replays (hl : DetachLaw env) (hB : Base w) (hw : w.KeysFit)
    (hacc : ∀ id d, w.newlyAttachedPid ≠ ProcessID.invalid →
      w.unknownEvents.find? w.newlyAttachedPid = some d →
      w.tracees.find? d.pid = some (some id) → Accepts env w.calm id d)
    (h : Replays env w w') : w'.KeysFit := by
  cases h with
  | idle hn => exact hw
  | nothing hn hd => exact hw.congr rfl rfl
  | unknown hn hd hk => exact hw.congr rfl rfl
  | @known w1 data id hn hd hk hr =>
    have hcalm : w.calm.KeysFit := hw.congr rfl rfl
    have hfits := (hacc id data hn hd hk).fits hl hB.calm hk hcalm.but fun _ => hcalm
    rw [hr] at hfits
    exact hfits.congr rfl rfl

theorem World.KeysFit.handled (hl : DetachLaw env) {data : ChildState} (hS : Settled w)
    (hw : w.KeysFit) (hacc : ∀ id d v, Delivery env data w id d v → Accepts env v id d)
    (h : Handled env data (w.say (.wait data)) w') : w'.KeysFit := by
  have hknown : ∀ {id : TraceeId} {v w1 : World SC}, Receives env data w id v →
      FitsBut (· = id) v → (data.isEnd = true → v.KeysFit) →
      handleKnown env ⟨data.pid, id⟩ data v = (.ok (), w1) → Replays env w1 w' → w'.KeysFit := by
    intro id v w1 hr hother hall hk hrep
    obtain ⟨hB, -, hfind⟩ := hr.base hS
    have hl' : EventLabels env (fun _ => True) ⟨data.pid, id⟩ data v :=
      eventLabels_all (show v.contains ⟨data.pid, id⟩ from hfind) data
    have he : Effs env id (fun _ => True) v (handleKnown env ⟨data.pid, id⟩ data v).2 :=
      (course_handleKnown hB rfl (hB.fresh hfind) hl' trivial).effs
    have hfits := (hacc id data v (.direct hr)).fits hl hB hfind hother hall
    rw [hk] at he hfits
    refine hfits.replays hl (he.base hB) (fun i d hn hd hi => ?_) hrep
    exact hacc i d w1.calm (.stored hr hk hn hd hi)
  have hsaid : (w.say (.wait data)).KeysFit := hw.congr rfl rfl
  cases h with
  | known hk hr hrep => exact hknown (.known hk) hsaid.but (fun _ => hsaid) hr hrep
  | taken hx hk hq hf hfind hr hrep =>
    subst hf
    refine hknown (.taken hx hk hq hfind) ?_ (fun hend => ?_) hr hrep
    · intro key e he
      rw [rekeyed_find hk hfind] at he
      split_ifs at he
      · obtain rfl := Option.some.inj he
        exact ⟨_, rfl, Or.inl rfl⟩
      · exact hsaid.but key e he
    · -- `execve()` is no end
      obtain ⟨s, he⟩ := data.isExec_iff.mp hx
      unfold ChildState.isEnd at hend
      rw [he] at hend
      cases hend
  | stored hs hk => exact hsaid.congr rfl rfl
  | dropped _ hk hw' =>
    rcases hw' with rfl | ⟨-, rfl⟩
    · exact hsaid
    · exact hsaid.congr rfl rfl

/-- effects outside of an event -/
def outerLabels : Labels
  | .add | .attach | .ending | .drop => True
  | _ => False

theorem tame_outer : Tame outerLabels := ⟨fun h => h, fun h => h, fun _ h => h⟩

theorem fits_call (hl : DetachLaw env) {op : Op} (hop : op.isCall = true) (hB : Base w)
    (hw : w.KeysFit) : (op.after env w).KeysFit := by
  have hcalled : Does env 0 outerLabels (op.exec env : Step SC Unit) :=
    does_call ⟨trivial, trivial, trivial⟩ trivial hop 0
  have he : Effs env 0 outerLabels w (op.after env w) := hcalled w hB
  have hfits : FitsBut (fun _ => False) (op.after env w) := he.fitsBut hl tame_outer hB hw.but
  exact hfits.fits fun _ _ _ h => h.elim

theorem fits_noChildren (hl : DetachLaw env) (hB : Base w) (hw : w.KeysFit) :
    (handleNoChildren env w).2.KeysFit := by
  have hdrop : ∀ key, Keeps (fun u : World SC => Base u ∧ FitsBut (fun _ => False) u)
      (dropTracee env key : Step SC Unit) := by
    intro key u hu
    cases he : entryTracee key u with
    | mk r u1 =>
      have hsame : u1 = u := by
        have hst := entryTracee_state key u
        rwa [he] at hst
      cases r with
      | error e =>
        unfold dropTracee
        rw [run_bind_error he, hsame]
        exact hu
      | ok id =>
        have heffs : Effs env id outerLabels u (dropTracee env key u).2 :=
          effs_dropTracee trivial trivial hu.1 (entryTracee_ok he).1
        exact ⟨heffs.base hu.1, heffs.fitsBut hl tame_outer hu.1 hu.2⟩
  have hall : Base (handleNoChildren env w).2 ∧ FitsBut (fun _ => False) (handleNoChildren env w).2 := by
    unfold handleNoChildren
    rw [run_read_bind]
    exact Keeps.each (fun key _ => hdrop key) w ⟨hB, hw.but⟩
  exact hall.2.fits fun _ _ _ h => h.elim

theorem fits_of_accepted (hl : DetachLaw env) (hw : Reaches env (AcceptsAll env) w) :
    w.KeysFit := by
  apply hw.invariant
  · intro b key e he
    cases he
  intro w op hr hfits hacc hc
  by_cases hcall : op.isCall = true
  · exact fits_call hl hcall hr.settled.toBase hfits
  · cases op with
    | event data => exact hfits.handled hl hr.settled hacc (handled_of_completes hr.settled hc)
    | noChildren => exact fits_noChildren hl hr.settled.toBase hfits
    | addForeign => exact absurd rfl hcall
    | addChild => exact absurd rfl hcall
    | call => exact absurd rfl hcall

/-- in runs whose deliveries are accepted, each entry holds a tracee under its PID, and each event
of a new task installs the tracee that is made for it -/
theorem keysFit_of_accepted (hl : DetachLaw env) (hw : Reaches env (AcceptsAll env) w) :
    w.KeysFit ∧ ∀ data, AcceptsAll env w (.event data) → ∀ id d v, Delivery env data w id d v →
      Installs env v id d := by
  refine ⟨fits_of_accepted hl hw, fun data hacc id d v hd => ?_⟩
  obtain ⟨hB, hk⟩ := hd.base hw.settled
  exact (hacc id d v hd).installs hB hk

end

/-! ### a PID that is used again -/

section
variable [SyscallOps SC] {data : ChildState}

/-- the deliveries of a step -/
def World.deliveries (env : Env) (w : World SC) (data : ChildState) :
    List (TraceeId × ChildState × World SC) :=
  match w.receiver env data with
  | none => []
  | some (i, v) =>
    let w1 := (handleKnown env ⟨data.pid, i⟩ data v).2
    let stored :=
      if (handleKnown env ⟨data.pid, i⟩ data v).1.toBool ∧
          w1.newlyAttachedPid ≠ ProcessID.invalid then
        (w1.unknownEvents.find? w1.newlyAttachedPid).bind fun d =>
          (w1.tracees.find? d.pid).join.map fun id => (id, d, w1.calm)
      else none
    (i, data, v) :: stored.toList

theorem mem_deliveries {id : TraceeId} {d : ChildState} {v : World SC} :
    (id, d, v) ∈ w.deliveries env data ↔ Delivery env data w id d v := by
  unfold World.deliveries
  constructor
  · intro h
    cases hr : w.receiver env data with
    | none =>
      rw [hr] at h
      cases h
    | some r =>
      obtain ⟨i, u⟩ := r
      rw [hr] at h
      have hrec : Receives env data w i u := receives_iff.mpr hr
      rcases List.mem_cons.mp h with h | h
      · obtain ⟨rfl, rfl, rfl⟩ : id = i ∧ d = data ∧ v = u := by simpa using h
        exact .direct hrec
      · rw [Option.mem_toList] at h
        split_ifs at h with hc
        · obtain ⟨d', hd, h⟩ := Option.bind_eq_some_iff.mp h
          obtain ⟨id', hi, h⟩ := Option.map_eq_some_iff.mp h
          obtain ⟨rfl, rfl, rfl⟩ : id' = id ∧ d' = d ∧ _ = v := by simpa using h
          refine .stored hrec ?_ hc.2 hd (Option.join_eq_some_iff.mp hi)
          cases hk : handleKnown env ⟨data.pid, i⟩ data u with
          | mk r u1 =>
            rw [hk] at hc
            cases r with
            | ok x => rfl
            | error e => exact absurd hc.1 Bool.false_ne_true
  · intro h
    cases h with
    | direct hr =>
      rw [receives_iff.mp hr]
      exact List.mem_cons_self
    | stored hr hk hn hd hi =>
      rw [receives_iff.mp hr]
      refine List.mem_cons_of_mem _ ?_
      rw [Option.mem_toList]
      simp only [hk]
      rw [if_pos ⟨rfl, hn⟩]
      exact Option.bind_eq_some_iff.mpr ⟨d, hd, by rw [hi]; rfl⟩

instance (id : TraceeId) (d : ChildState) : Decidable (Announces env w id d) :=
  decidable_of_iff (d.isNewTask = true ∧ (w.objs id).flags.detachAtNextStop = false ∧
      env.request (w.log ++ [.deliver id d]) (.getPIDEventMsg (w.objs id).ptrace) = none)
    ⟨fun ⟨h1, h2, h3⟩ => ⟨h1, h2, h3⟩, fun ⟨h1, h2, h3⟩ => ⟨h1, h2, h3⟩⟩

instance (id : TraceeId) (d : ChildState) : Decidable (Accepts env w id d) :=
  decidable_of_iff (((w.objs id).pid = d.pid ∨ d.isEnd = true ∨
      (d.isTrapped = true ∧ (w.objs id).flags.detachAtNextStop = true) ∨ TakesPid env w id d) ∧
      (Announces env w id d → w.tracees.find? (env.newPid w id d) = none))
    ⟨fun ⟨h1, h2⟩ => ⟨h1, h2⟩, fun ⟨h1, h2⟩ => ⟨h1, h2⟩⟩

instance (op : Op) : Decidable (AcceptsAll env w op) :=
  match op with
  | .event data => decidable_of_iff
      (∀ x ∈ w.deliveries env data, Accepts env x.2.2 x.1 x.2.1)
      ⟨fun h id d v hd => h (id, d, v) (mem_deliveries.mpr hd),
        fun h x hx => h x.1 x.2.1 x.2.2 (mem_deliveries.mp hx)⟩
  | .addForeign .. => .isTrue trivial
  | .addChild .. => .isTrue trivial
  | .call _ => .isTrue trivial
  | .noChildren => .isTrue trivial

end

theorem thread_law (size : Word) : DetachLaw (threadEnv size) := by
  refine ⟨fun h => ?_, fun h => nomatch h⟩
  rcases h with h | h
  · cases h
  · cases h

/-- the thread that process 100 makes is registered as 101 -/
theorem keysFit_thread :
    (threadStart 88).KeysFit ∧ Installs (threadEnv 88) (threadWorld 88) 0 cloneEvent := by
  have hreach : Reaches (threadEnv 88) (AcceptsAll (threadEnv 88)) (threadStart 88) :=
    (Reaches.start false).run threadRun (by decide +kernel)
  obtain ⟨hfits, hinstalls⟩ := keysFit_of_accepted (thread_law 88) hreach
  exact ⟨hfits, hinstalls cloneEvent (by decide +kernel) 0 cloneEvent _
    (.direct (.known (by decide +kernel)))⟩

/-- the client detached from task 101 while it was stopped, and the task ended since -/
def reuseRun : List Op :=
  [.addForeign 101 false false ProcessID.invalid false,
    .event ⟨101, .trapped (.event Signal.trap .stop)⟩,
    .event ⟨101, .trapped (.event Signal.stop .stop)⟩,
    .call (.detach 101),
    .addForeign 100 true false ProcessID.invalid false,
    .event ⟨100, .trapped (.event Signal.trap .stop)⟩,
    .event ⟨100, .trapped .sysTrap⟩]

def reuseWorld : World (SystemCall (TaskItems Unit)) := runOps (threadEnv 88) reuseRun {}

/-- the thread that process 100 makes has the PID 101, too -/
theorem keysFit_fails : ¬ ∀ (env : Env) (w : World (SystemCall (TaskItems Unit))), DetachLaw env →
    Reachable env w → w.KeysFit ∧ ∀ data id d v, Delivery env data w id d v →
      Installs env v id d := by
  intro h
  have hreach : Reachable (threadEnv 88) reuseWorld :=
    (Reaches.start false).run reuseRun (by decide +kernel)
  have hinstalls := (h _ _ (thread_law 88) hreach).2 cloneEvent 1 cloneEvent _
    (.direct (.known (by decide +kernel)))
  obtain ⟨call, hcall⟩ := Option.isSome_iff_exists.mp (show
    ((reuseWorld.say (.wait cloneEvent)).currentCall 1).isSome = true by decide +kernel)
  have hprefix := hinstalls (by decide +kernel) call hcall ⟨_, rfl⟩
  revert hprefix
  decide +kernel

end Clues
