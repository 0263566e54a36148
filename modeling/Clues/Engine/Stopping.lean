import Clues.Engine.Loop

/-!
# Stopping, and running out of children

Two loops go over `m_tracees` and take entries out of it.

* `handleNoChildren`   goes on from the entry that was taken out (`Empties`);
* `stop`               detaches from every tracee and takes out those without a PID: a child of the
                       tracer is then destroyed, which kills it (`Spares`).
-/

set_option linter.unusedSectionVars false

namespace Clues

open Lib Lib.Exec Step

variable {SC : Type} [SyscallOps SC] {env : Env}

/-! ## other entries -/

/-- the entry of a key stays -/
abbrev KeepsEntry (key : ProcessID) (e : Option (Option TraceeId)) {α : Type} (x : Step SC α) :
    Prop := Keeps (fun w : World SC => w.tracees.find? key = e) x

variable {key : ProcessID} {e : Option (Option TraceeId)}

theorem KeepsEntry.of_letting {α : Type} {q : Prop} {id : TraceeId} {x : Step SC α}
    (h : Letting env q id x) : KeepsEntry key e x := by
  intro w hw
  have ht := (h w trivial).tracees
  rw [ht]
  exact hw

theorem keepsEntry_entryTracee (k : ProcessID) :
    KeepsEntry key e (entryTracee k : Step SC TraceeId) := by
  intro w hw
  rw [entryTracee_state]
  exact hw

theorem keepsEntry_eraseTracee {k : ProcessID} (hk : k ≠ key) :
    KeepsEntry key e (eraseTracee env k : Step SC Unit) := by
  have hx : KeepsEntry key e (extractTracee k : Step SC (Option TraceeId)) := by
    refine Keeps.read_bind fun w hw => ?_
    rw [run_update_bind]
    have hw' : (w.tracees.erase k).find? key = e := by rwa [OrdMap.find?_erase_of_ne _ hk.symm]
    cases w.tracees.find? k with
    | none => exact hw'
    | some o => cases o <;> exact hw'
  refine Keeps.bind hx fun o => ?_
  cases o with
  | none => exact Keeps.pure _
  | some id =>
    have hq : Letting env True id (destroy env id : Step SC Unit) := letting_destroy
    exact KeepsEntry.of_letting hq

theorem keepsEntry_checkCleanup {k : ProcessID} (hk : k ≠ key) :
    KeepsEntry key e (checkCleanupTracee env k : Step SC Unit) := by
  have hget : ∀ id, KeepsEntry key e (getTracee id : Step SC Tracee) := fun id w hw => hw
  refine Keeps.bind (keepsEntry_entryTracee k) fun id => Keeps.bind (hget id) fun t => ?_
  refine Keeps.ite (fun _ => Keeps.ite (fun _ => keepsEntry_eraseTracee hk) fun _ => Keeps.pure _)
    fun _ => Keeps.ite (fun _ => ?_) fun _ => Keeps.pure _
  refine Keeps.bind ?_ fun _ => keepsEntry_eraseTracee hk
  have hq : Letting env False id (doDetach env id : Step SC Unit) :=
    fun w _ => lets_doDetach False.elim
  exact KeepsEntry.of_letting hq

theorem keepsEntry_dropTracee {k : ProcessID} (hk : k ≠ key) :
    KeepsEntry key e (dropTracee env k : Step SC Unit) := by
  refine Keeps.bind (keepsEntry_entryTracee k) fun id => ?_
  have hq : Letting env True id (detach env id : Step SC Bool) := letting_detach
  refine Keeps.bind (KeepsEntry.of_letting hq) fun _ => ?_
  refine Keeps.bind (keepsEntry_checkCleanup hk) fun _ => ?_
  exact Keeps.bind (keepsEntry_entryTracee k) fun _ => Keeps.pure _

/-! ## no children -/

/-- `handleNoChildren` visits every entry, uses no entry that is gone, and leaves no entry -/
def Empties (env : Env) (w : World SC) : Prop :=
  ∃ w', handleNoChildren env w = (.ok (), w') ∧ w'.tracees.keys = []

/-- an entry that was visited without undefined behaviour is still there -/
theorem dropTracee_ok {w w' : World SC} (h : dropTracee env key w = (.ok (), w')) :
    w'.tracees.find? key ≠ none := by
  unfold dropTracee at h
  obtain ⟨id, w1, -, h⟩ := of_bind_ok h
  obtain ⟨b, w2, -, h⟩ := of_bind_ok h
  obtain ⟨u, w3, -, h⟩ := of_bind_ok h
  obtain ⟨id', w4, h4, h⟩ := of_bind_ok h
  obtain ⟨hk, hw4⟩ := entryTracee_ok h4
  have hw' : w4 = w' := congrArg Prod.snd h
  rw [← hw', hw4, hk]
  exact fun hn => nomatch hn

/-- the first entry is still there at the end, or the iterator to it is used after its erasure -/
theorem keys_of_empties {w : World SC} (h : Empties env w) : w.tracees.keys = [] := by
  obtain ⟨w', h, hempty⟩ := h
  cases hkeys : w.tracees.keys with
  | nil => rfl
  | cons k ks =>
    have hnodup : k ∉ ks := by
      have hn := w.tracees.keys_nodup
      rw [hkeys] at hn
      exact (List.nodup_cons.mp hn).1
    have h' : (dropTracee env k >>= fun _ => each ks (dropTracee env) : Step SC Unit) w
        = (.ok (), w') := by
      rw [← h]
      unfold handleNoChildren
      rw [run_read_bind, hkeys]
      rfl
    obtain ⟨u, w1, hd, h'⟩ := of_bind_ok h'
    have hrest : KeepsEntry k (w1.tracees.find? k) (each ks (dropTracee env) : Step SC Unit) :=
      Keeps.each fun k' hk' => keepsEntry_dropTracee (ne_of_mem_of_not_mem hk' hnodup)
    have hlast := hrest w1 rfl
    rw [h'] at hlast
    have hmem : k ∈ w'.tracees.keys := by
      rw [OrdMap.mem_keys_iff]
      obtain ⟨o, ho⟩ := Option.ne_none_iff_exists'.mp (dropTracee_ok hd)
      exact ⟨o, hlast.trans ho⟩
    rw [hempty] at hmem
    cases hmem

/-- the loop is only right when there is nothing to visit -/
theorem empties_iff (env : Env) (w : World SC) : Empties env w ↔ w.tracees.keys = [] := by
  constructor
  · exact keys_of_empties
  · intro h
    refine ⟨w, ?_, h⟩
    unfold handleNoChildren
    rw [run_read_bind, h]
    rfl

/-- one process is traced when `wait()` runs out of children -/
def lostEnv : Env := {}

def lostWorld : World Empty :=
  runOps lostEnv [.addForeign 100 false false ProcessID.invalid false] {}

theorem lostWorld_reachable : Reachable lostEnv lostWorld :=
  (Reaches.start false).run [.addForeign 100 false false ProcessID.invalid false]
    (by decide +kernel)

theorem empties_fails : ¬ ∀ (env : Env) (w : World Empty), Reachable env w → Empties env w := by
  intro h
  have hkeys := keys_of_empties (h lostEnv lostWorld lostWorld_reachable)
  have hone : lostWorld.tracees.keys = [100] := by decide +kernel
  rw [hone] at hkeys
  cases hkeys

/-! ## stopping -/

/-- the object is destroyed, or a signal is sent to its process -/
def Entry.harms (id : TraceeId) : Entry → Bool
  | .destroyed id' => id' = id
  | .request id' (.kill _ _) _ => id' = id
  | _ => false

/-- the tracee keeps its entries in `m_tracees`, and is not harmed -/
structure Unharmed (id : TraceeId) (w w' : World SC) : Prop where
  keys : ∀ k, w'.tracees.find? k = some (some id) ↔ w.tracees.find? k = some (some id)
  log : ∃ es, w'.log = w.log ++ es ∧ ∀ e ∈ es, e.harms id = false

variable {id : TraceeId} {w w' : World SC}

theorem Unharmed.walk (id : TraceeId) :
    Walk (fun _ : World SC => True) (Unharmed id : World SC → World SC → Prop) where
  refl w := ⟨fun _ => Iff.rfl, [], by simp, by simp⟩
  trans := by
    intro w w' w'' h h'
    obtain ⟨es, he, hes⟩ := h.log
    obtain ⟨es', he', hes'⟩ := h'.log
    refine ⟨fun k => (h'.keys k).trans (h.keys k), es ++ es',
      by rw [he', he, List.append_assoc], fun e hm => ?_⟩
    rcases List.mem_append.mp hm with hm | hm
    · exact hes e hm
    · exact hes' e hm
  keeps _ _ := trivial

theorem Unharmed.same (ht : w'.tracees = w.tracees) (hl : w'.log = w.log) : Unharmed id w w' :=
  ⟨fun k => by rw [ht], [], by simp [hl], by simp⟩

theorem Unharmed.say {e : Entry} (h : e.harms id = false) : Unharmed id w (w.say e) :=
  ⟨fun _ => Iff.rfl, [e], rfl, by simpa using h⟩

abbrev Harmless (id : TraceeId) {α : Type} (x : Step SC α) : Prop :=
  Along (fun _ : World SC => True) (Unharmed id) x

theorem harmless_modify (f : Tracee → Tracee) :
    Harmless id (modifyTracee id f : Step SC Unit) := fun _ _ => Unharmed.same rfl rfl

theorem harmless_getTracee : Harmless id (getTracee id : Step SC Tracee) :=
  fun w _ => (Unharmed.walk id).refl w

theorem harmless_request {r : Request} (hr : ∀ e, Entry.harms id (.request id r e) = false) :
    Harmless id (request env id r : Step SC Unit) := by
  intro w _
  rw [run_request]
  exact Unharmed.say (hr _)

theorem harmless_cleanupChild : Harmless id (cleanupChild env id : Step SC Unit) := by
  have hp : Walk (fun _ : World SC => True) _ := Unharmed.walk id
  refine Along.bind hp harmless_getTracee fun t => Along.ite (fun _ => ?_) fun _ => Along.pure hp _
  refine Along.bind hp (Along.handle hp (harmless_request fun _ => rfl) fun e => ?_) fun _ =>
    harmless_modify _
  cases e with
  | api errno => exact Along.ite (fun _ => Along.raise hp _) fun _ => Along.pure hp _
  | _ => exact Along.raise hp _

theorem harmless_handleError (e : Errno) : Harmless id (handleError env id e : Step SC Unit) := by
  have hp : Walk (fun _ : World SC => True) _ := Unharmed.walk id
  refine Along.ite (fun _ => ?_) fun _ => Along.bind hp (harmless_modify _) fun _ => Along.raise hp _
  refine Along.bind hp (Along.bind hp harmless_getTracee fun t => ?_) fun _ => harmless_modify _
  exact Along.ite (fun _ => harmless_cleanupChild) fun _ => Along.pure hp _

/-- a child that `Engine::stop()` leaves in `m_tracees`: it has a PID, and is in no ptrace stop -/
structure Tracee.Stays (t : Tracee) : Prop where
  ptrace : t.ptrace ≠ ProcessID.invalid
  state : t.state = .running ∨ t.state = .unknown ∨ t.ended = true

theorem ended_iff (t : Tracee) : t.ended = true ↔ t.state = .dead ∨ t.state = .detached := by
  unfold Tracee.ended State.isEnded
  simp

/-- detaching from such a tracee is put off, or there is nothing to detach from -/
theorem harmless_detach (h : (w.objs id).Stays) : Unharmed id w (detach env id w).2 := by
  have hp : Walk (fun _ : World SC => True) _ := Unharmed.walk id
  unfold detach
  rw [run_bind_ok (run_getTracee id w), if_neg h.ptrace]
  by_cases h2 : (w.objs id).state = .dead ∨ (w.objs id).state = .detached
  · rw [if_pos h2]
    exact hp.refl w
  · have h3 : ¬ ((w.objs id).state ≠ .running ∧ (w.objs id).state ≠ .unknown) := by
      rintro ⟨hr, hu⟩
      obtain hs | hs | hs := h.state
      · exact hr hs
      · exact hu hs
      · exact h2 ((ended_iff _).mp hs)
    rw [if_neg h2, if_neg h3]
    have hmark : Harmless id (setFlags id fun f => { f with detachAtNextStop := true } :
        Step SC Unit) := harmless_modify _
    refine Along.bind hp hmark (fun _ => Along.bind hp (Along.when hp fun _ => ?_) fun _ =>
      Along.pure hp _) w trivial
    refine Along.handle hp (harmless_request fun _ => rfl) fun e => ?_
    cases e with
    | api errno => exact harmless_handleError errno
    | _ => exact Along.raise hp _

/-- without an exception it keeps its PID -/
theorem ptrace_of_detach (h : (w.objs id).Stays) {b : Bool}
    (hd : detach env id w = (.ok b, w')) : (w'.objs id).ptrace = (w.objs id).ptrace := by
  unfold detach at hd
  rw [run_bind_ok (run_getTracee id w), if_neg h.ptrace] at hd
  by_cases h2 : (w.objs id).state = .dead ∨ (w.objs id).state = .detached
  · rw [if_pos h2] at hd
    rw [← (Prod.mk.inj hd).2]
  · have h3 : ¬ ((w.objs id).state ≠ .running ∧ (w.objs id).state ≠ .unknown) := by
      rintro ⟨hr, hu⟩
      obtain hs | hs | hs := h.state
      · exact hr hs
      · exact hu hs
      · exact h2 ((ended_iff _).mp hs)
    rw [if_neg h2, if_neg h3] at hd
    obtain ⟨_, w1, h1, hd⟩ := of_bind_ok hd
    obtain ⟨_, w2, hi, hd⟩ := of_bind_ok hd
    have hw1 : (w1.objs id).ptrace = (w.objs id).ptrace := by
      rw [← (Prod.mk.inj h1).2, World.setObj_self]
    have hw2 : w2 = w' := (Prod.mk.inj hd).2
    rw [← hw2, ← hw1]
    unfold Exec.when at hi
    split_ifs at hi with hw
    · unfold catchApi handle at hi
      rw [run_request] at hi
      cases hr : env.request w1.log (.interrupt (w.objs id).ptrace) with
      | none =>
        rw [hr] at hi
        rw [← (Prod.mk.inj hi).2]
        rfl
      | some e =>
        rw [hr] at hi
        change handleError env id e _ = _ at hi
        unfold handleError at hi
        split_ifs at hi with he
        · have hdead : SamePtrace id (w1.say (.request id (.interrupt (w.objs id).ptrace) (some e)))
              (changeState env id .dead
                (w1.say (.request id (.interrupt (w.objs id).ptrace) (some e)))).2 :=
            dead_ptrace id _
          rw [hi] at hdead
          exact hdead
        · cases hi
    · rw [← (Prod.mk.inj hi).2]

/-- a tracee that does not stay has no PID any more -/
theorem ptrace_of_detach_stop (h : ¬ (w.objs id).Stays) {b : Bool}
    (hd : detach env id w = (.ok b, w')) : (w'.objs id).ptrace = ProcessID.invalid := by
  unfold detach at hd
  rw [run_bind_ok (run_getTracee id w)] at hd
  by_cases h1 : (w.objs id).ptrace = ProcessID.invalid
  · rw [if_pos h1] at hd
    rw [← (Prod.mk.inj hd).2]
    exact h1
  · have h2 : ¬ ((w.objs id).state = .dead ∨ (w.objs id).state = .detached) := fun hs =>
      h ⟨h1, Or.inr (Or.inr ((ended_iff _).mpr hs))⟩
    have h3 : (w.objs id).state ≠ .running ∧ (w.objs id).state ≠ .unknown :=
      ⟨fun hs => h ⟨h1, Or.inl hs⟩, fun hs => h ⟨h1, Or.inr (Or.inl hs)⟩⟩
    rw [if_neg h1, if_neg h2, if_pos h3] at hd
    obtain ⟨_, w1, hdo, hd⟩ := of_bind_ok hd
    have hw1 : w1 = w' := (Prod.mk.inj hd).2
    unfold doDetach at hdo
    rw [run_bind_ok (run_getTracee id w)] at hdo
    obtain ⟨_, w2, _, hf⟩ := of_bind_ok hdo
    rw [← hw1, ← (Prod.mk.inj hf).2, World.setObj_self]
    rfl

/-! ### one round of the loop -/

/-- what a round for another entry does -/
def Passes (id : TraceeId) (w w' : World SC) : Prop := Unharmed id w w' ∧ w'.objs id = w.objs id

theorem Passes.walk (id : TraceeId) (k : ProcessID) :
    Walk (fun w : World SC => w.tracees.find? k ≠ some (some id)) (Passes id) where
  refl w := ⟨(Unharmed.walk id).refl w, rfl⟩
  trans h h' := ⟨(Unharmed.walk _).trans h.1 h'.1, h'.2.trans h.2⟩
  keeps hw h hk := hw ((h.1.keys _).mp hk)

theorem OnObj.passes {j : TraceeId} (h : OnObj j w w') (hj : j ≠ id) : Passes id w w' := by
  obtain ⟨es, he, hes⟩ := h.log
  refine ⟨⟨fun k => by rw [h.tracees], es, he, fun e hm => ?_⟩, h.others id hj.symm⟩
  have hl := hes e hm
  cases e with
  | destroyed i =>
    have hi : i = j := hl
    exact decide_eq_false (hi ▸ hj)
  | request i r err =>
    have hi : i = j := hl
    cases r with
    | kill pid sig => exact decide_eq_false (hi ▸ hj)
    | _ => rfl
  | _ => rfl

theorem Passes.erase {k : ProcessID} (hk : w.tracees.find? k ≠ some (some id)) {es : Log}
    (he : ∀ e ∈ es, e.harms id = false) :
    Passes id w { w with tracees := w.tracees.erase k, log := w.log ++ es } := by
  refine ⟨⟨fun k' => ?_, es, rfl, he⟩, rfl⟩
  show (w.tracees.erase k).find? k' = some (some id) ↔ _
  rw [OrdMap.find?_erase]
  by_cases hkk : k' = k
  · rw [if_pos hkk, hkk]
    exact ⟨fun h => (nomatch h), fun h => absurd h hk⟩
  · rw [if_neg hkk]

theorem eraseTracee_passes {k : ProcessID} (hk : w.tracees.find? k ≠ some (some id)) :
    Passes id w (eraseTracee env k w).2 := by
  have hp : Walk (fun w : World SC => w.tracees.find? k ≠ some (some id)) _ := Passes.walk id k
  cases hf : (w.tracees.find? k).join with
  | none =>
    have herase : Passes id w { w with tracees := w.tracees.erase k, log := w.log ++ [] } :=
      Passes.erase hk (by simp)
    rw [List.append_nil] at herase
    unfold eraseTracee
    rw [run_bind_ok (run_extractTracee_none hf)]
    exact herase
  | some i =>
    have hi : w.tracees.find? k = some (some i) := Option.join_eq_some_iff.mp hf
    have hne : i ≠ id := fun h => hk (h ▸ hi)
    have hdes : Letting env True i (destroy env i : Step SC Unit) := letting_destroy
    unfold eraseTracee
    rw [run_bind_ok (run_extractTracee_some hi)]
    exact hp.trans (Passes.erase hk (by simp [Entry.harms])) ((hdes _ trivial).toOnObj.passes hne)

theorem stopTracee_other {k : ProcessID} (hk : w.tracees.find? k ≠ some (some id)) :
    Passes id w (stopTracee env none k w).2 := by
  have hp : Walk (fun w : World SC => w.tracees.find? k ≠ some (some id)) _ := Passes.walk id k
  have hentry : Passes id w (entryTracee k w).2 := by
    rw [entryTracee_state]
    exact hp.refl w
  refine Along.bind_of hp hk hentry fun j w1 he hk1 => ?_
  obtain ⟨hj, -⟩ := entryTracee_ok he
  have hne : j ≠ id := fun h => hk (h ▸ hj)
  have hsend : (sendSignal env j none w1 : Except Exc Unit × World SC) = (.ok (), w1) := rfl
  have hsay : Unharmed id w1 (w1.say (.letGo j)) := Unharmed.say rfl
  have hlet : Letting env True j (detach env j : Step SC Bool) := letting_detach
  rw [run_bind_ok hsend, run_bind_ok (run_say _ _)]
  refine hp.trans ⟨hsay, rfl⟩ ?_
  refine Along.bind_of hp hk1 ((hlet _ trivial).toOnObj.passes hne) fun _ w2 _ hk2 => ?_
  exact Along.bind hp (fun v _ => hp.refl v)
    (fun t => Along.when hp fun _ _ hv => eraseTracee_passes hv) w2 hk2

/-- the round for an entry, up to the decision whether it is taken out -/
theorem run_stopTracee (hk : w.tracees.find? key = some (some id)) :
    stopTracee env none key w = (do
      let _ ← detach env id
      let t ← getTracee id
      when (t.alive = false) (eraseTracee env key)) (w.say (.letGo id)) := by
  unfold stopTracee
  rw [run_bind_ok (run_entryTracee hk)]
  have hsend : (sendSignal env id none w : Except Exc Unit × World SC) = (.ok (), w) := rfl
  rw [run_bind_ok hsend, run_bind_ok (run_say _ _)]

theorem stopTracee_stays (hk : w.tracees.find? key = some (some id)) (h : (w.objs id).Stays) :
    Unharmed id w (stopTracee env none key w).2 := by
  have hp : Walk (fun _ : World SC => True) _ := Unharmed.walk id
  have hstay : ((w.say (.letGo id)).objs id).Stays := h
  have hsay : Unharmed id w (w.say (.letGo id)) := Unharmed.say rfl
  rw [run_stopTracee hk]
  refine hp.trans hsay ?_
  refine Along.bind_of hp trivial (harmless_detach hstay) fun b w1 hd _ => ?_
  have hpt : (w1.objs id).ptrace = ((w.say (.letGo id)).objs id).ptrace :=
    ptrace_of_detach hstay hd
  have halive : ¬ (w1.objs id).alive = false := by
    unfold Tracee.alive Tracee.pid
    rw [hpt]
    exact fun hf => of_decide_eq_false hf hstay.ptrace
  rw [run_bind_ok (run_getTracee id w1)]
  unfold Exec.when
  rw [if_neg halive]
  exact hp.refl w1

theorem stopTracee_erases (hk : w.tracees.find? key = some (some id))
    (h : ¬ (w.objs id).Stays) (hs : stopTracee env none key w = (.ok (), w')) :
    w'.tracees.find? key = none := by
  rw [run_stopTracee hk] at hs
  obtain ⟨b, w1, hd, hs⟩ := of_bind_ok hs
  have hpt : (w1.objs id).ptrace = ProcessID.invalid :=
    ptrace_of_detach_stop (show ¬ ((w.say (.letGo id)).objs id).Stays from h) hd
  have ht : w1.tracees = w.tracees := ((letting_detach (q := True)).of_ok hd).tracees
  have halive : (w1.objs id).alive = false := by
    unfold Tracee.alive Tracee.pid
    rw [hpt]
    rfl
  rw [run_bind_ok (run_getTracee id w1)] at hs
  unfold Exec.when at hs
  rw [if_pos halive] at hs
  have hk1 : w1.tracees.find? key = some (some id) := ht ▸ hk
  unfold eraseTracee at hs
  rw [run_bind_ok (run_extractTracee_some hk1)] at hs
  have hq : Letting env True id (destroy env id : Step SC Unit) := letting_destroy
  have hdes := hq.of_ok hs
  rw [hdes.tracees]
  exact OrdMap.find?_erase_self _ _

theorem keepsEntry_stopTracee {k : ProcessID} (hk : k ≠ key) :
    KeepsEntry key e (stopTracee env none k : Step SC Unit) := by
  have hget : ∀ i, KeepsEntry key e (getTracee i : Step SC Tracee) := fun i w hw => hw
  have hlet : ∀ i, KeepsEntry key e (detach env i : Step SC Bool) := fun i => by
    have hq : Letting env True i (detach env i : Step SC Bool) := letting_detach
    exact KeepsEntry.of_letting hq
  have hsay : ∀ i, KeepsEntry key e (say (.letGo i) : Step SC Unit) := fun i w hw => hw
  refine Keeps.bind (keepsEntry_entryTracee k) fun i => ?_
  have hsend : KeepsEntry key e (sendSignal env i none : Step SC Unit) := fun w hw => hw
  refine Keeps.bind hsend fun _ => Keeps.bind (hsay i) fun _ => Keeps.bind (hlet i) fun _ => ?_
  exact Keeps.bind (hget i) fun t => Keeps.when fun _ => keepsEntry_eraseTracee hk

/-! ### the loop -/

/-- the keys that are left for the loop name the tracee at most once -/
def OnlyAt (key : ProcessID) (id : TraceeId) (w : World SC) : Prop :=
  ∀ k, w.tracees.find? k = some (some id) → k = key

theorem each_unharmed {ks : List ProcessID} (hn : ks.Nodup) (ho : OnlyAt key id w)
    (hk : w.tracees.find? key = some (some id)) (h : key ∈ ks → (w.objs id).Stays) :
    Unharmed id w (each ks (stopTracee env none) w).2 := by
  have hp : Walk (fun _ : World SC => True) _ := Unharmed.walk id
  induction ks generalizing w with
  | nil => exact hp.refl w
  | cons k ks ih =>
    obtain ⟨hkn, hn⟩ := List.nodup_cons.mp hn
    by_cases hkk : k = key
    · subst hkk
      refine Along.bind_of hp trivial (stopTracee_stays hk (h List.mem_cons_self))
        fun _ w1 h1 _ => ?_
      have hu : Unharmed id w w1 := by
        have hu : Unharmed id w (stopTracee env none k w).2 :=
          stopTracee_stays hk (h List.mem_cons_self)
        rwa [h1] at hu
      exact ih hn (fun k' hk' => ho k' ((hu.keys k').mp hk')) ((hu.keys k).mpr hk)
        fun hmem => absurd hmem hkn
    · have hpass : Passes id w (stopTracee env none k w).2 :=
        stopTracee_other fun hf => hkk (ho k hf)
      refine Along.bind_of hp trivial hpass.1 fun _ w1 h1 _ => ?_
      rw [h1] at hpass
      refine ih hn (fun k' hk' => ho k' ((hpass.1.keys k').mp hk')) ((hpass.1.keys key).mpr hk) ?_
      intro hmem
      have hobj : w1.objs id = w.objs id := hpass.2
      rw [hobj]
      exact h (List.mem_cons_of_mem _ hmem)

theorem each_erases {ks : List ProcessID} (hn : ks.Nodup) (ho : OnlyAt key id w)
    (hk : w.tracees.find? key = some (some id)) (hmem : key ∈ ks) (h : ¬ (w.objs id).Stays)
    (hs : each ks (stopTracee env none) w = (.ok (), w')) : w'.tracees.find? key = none := by
  induction ks generalizing w with
  | nil => cases hmem
  | cons k ks ih =>
    obtain ⟨hkn, hn⟩ := List.nodup_cons.mp hn
    obtain ⟨_, w1, h1, hs⟩ := of_bind_ok hs
    by_cases hkk : k = key
    · subst hkk
      have hgone := stopTracee_erases hk h h1
      have hrest : KeepsEntry k none (each ks (stopTracee env none) : Step SC Unit) :=
        Keeps.each fun k' hk' => keepsEntry_stopTracee (ne_of_mem_of_not_mem hk' hkn)
      have hlast := hrest w1 hgone
      rw [hs] at hlast
      exact hlast
    · have hpass : Passes id w (stopTracee env none k w).2 :=
        stopTracee_other fun hf => hkk (ho k hf)
      rw [h1] at hpass
      have hobj : w1.objs id = w.objs id := hpass.2
      exact ih hn (fun k' hk' => ho k' ((hpass.1.keys k').mp hk')) ((hpass.1.keys key).mpr hk)
        ((List.mem_cons.mp hmem).resolve_left fun hh => hkk hh.symm) (by rw [hobj]; exact h) hs

/-- a child of the tracer whose end was not waited for yet -/
structure World.LiveChild (w : World SC) (key : ProcessID) (id : TraceeId) : Prop where
  find : w.tracees.find? key = some (some id)
  child : (w.objs id).isChildProcess = true
  running : (w.objs id).childRunning = true

/-- `stop()` without a signal keeps the child in `m_tracees`, does not destroy its object and sends
no signal to it -/
structure Spared (env : Env) (w : World SC) (key : ProcessID) (id : TraceeId) : Prop where
  tracked : (stop env none w).2.tracees.find? key = some (some id)
  unharmed : ∃ es, (stop env none w).2.log = w.log ++ es ∧ ∀ e ∈ es, e.harms id = false

def Spares (env : Env) (w : World SC) : Prop := ∀ key id, w.LiveChild key id → Spared env w key id

theorem run_stop (w : World SC) (signal : Option Signal) :
    stop env signal w = each w.tracees.keys (stopTracee env signal) w := rfl

theorem mem_keys (hk : w.tracees.find? key = some (some id)) : key ∈ w.tracees.keys :=
  (OrdMap.mem_keys_iff _ _).mpr ⟨_, hk⟩

theorem spared_of_stays (hB : Base w) (hk : w.tracees.find? key = some (some id))
    (h : (w.objs id).Stays) : Spared env w key id := by
  have hu : Unharmed id w (stop env none w).2 := by
    rw [run_stop]
    exact each_unharmed w.tracees.keys_nodup (fun k hf => hB.inj hf hk) hk fun _ => h
  exact ⟨(hu.keys key).mpr hk, hu.log⟩

theorem stays_of_spared (hB : Base w) (hk : w.tracees.find? key = some (some id))
    (hs : (stop env none w).1 = .ok ()) (h : Spared env w key id) : (w.objs id).Stays := by
  by_contra hst
  have hrun : each w.tracees.keys (stopTracee env none) w = (.ok (), (stop env none w).2) :=
    Prod.ext hs rfl
  have hgone := each_erases w.tracees.keys_nodup (fun k hf => hB.inj hf hk) hk (mem_keys hk) hst hrun
  have htr := h.tracked
  rw [hgone] at htr
  cases htr

/-- In a state in which the entries of `m_tracees` are different objects, `stop()` spares the
children if none of them is in a ptrace stop or without a PID, and only then if it returns -/
theorem spares_iff_stay (hB : Base w) :
    ((∀ key id, w.LiveChild key id → (w.objs id).Stays) → Spares env w) ∧
    ((stop env none w).1 = .ok () →
      (Spares env w ↔ ∀ key id, w.LiveChild key id → (w.objs id).Stays)) := by
  have hsuff : (∀ key id, w.LiveChild key id → (w.objs id).Stays) → Spares env w :=
    fun h key id hc => spared_of_stays hB hc.find (h key id hc)
  exact ⟨hsuff, fun hs => ⟨fun h key id hc => stays_of_spared hB hc.find hs (h key id hc), hsuff⟩⟩

/-- the tracer traces a child process of its own -/
def childEnv : Env := {}

/-- the attach stop of the child, the stop the tracer injected, and another stop -/
def childRun : List Op :=
  [.addChild ["program"] false false,
    .event ⟨1, .trapped (.event Signal.trap .stop)⟩,
    .event ⟨1, .trapped (.event Signal.stop .stop)⟩,
    .event ⟨1, .trapped (.event Signal.stop .stop)⟩]

/-- the child is in a group-stop -/
def stoppedChild : World Empty := runOps childEnv childRun {}

/-- the child runs -/
def runningChild : World Empty := runOps childEnv (childRun.take 3) {}

theorem stoppedChild_reachable : Reachable childEnv stoppedChild :=
  (Reaches.start false).run childRun (by decide +kernel)

theorem runningChild_reachable : Reachable childEnv runningChild :=
  (Reaches.start false).run (childRun.take 3) (by decide +kernel)

/-- `stop()` kills the child -/
theorem spares_fails : ¬ ∀ (env : Env) (w : World Empty), Reachable env w → Spares env w := by
  intro h
  have hlive : stoppedChild.LiveChild 1 0 :=
    ⟨by decide +kernel, by decide +kernel, by decide +kernel⟩
  have htr := (h _ _ stoppedChild_reachable 1 0 hlive).tracked
  have hgone : (stop childEnv none stoppedChild).2.tracees.find? 1 = none := by decide +kernel
  rw [hgone] at htr
  cases htr

/-- `stop()` spares a child that runs -/
theorem spares_running : Spares childEnv runningChild := by
  refine (spares_iff_stay runningChild_reachable.settled.toBase).1 fun key id hc => ?_
  have hkey : key = 1 := by
    have hkeys : runningChild.tracees.keys = [1] := by decide +kernel
    simpa [hkeys] using mem_keys hc.find
  have hid : id = 0 := by
    have hfind : runningChild.tracees.find? 1 = some (some 0) := by decide +kernel
    have hc' := hc.find
    rw [hkey, hfind] at hc'
    exact (Option.some.inj (Option.some.inj hc')).symm
  subst hid
  exact ⟨by decide +kernel, Or.inl (by decide +kernel)⟩

end Clues
