import Clues.Engine.Adding

/-!
# What a tracee is left out of

Most of the tracer works around a tracee `b`: it changes neither what the stops of `b` decide
(`Tracee.stops`, `Tracee.marks`) nor what its system calls decide (`Tracee.resumption`), unless `b`
is detached from or found dead.  One lemma for each function says so (`Besides`).

* `Entry.isStop`, `Entry.isCall`   the log entries about the stops and the system calls of `b`;
* `Departed`    the tracer detached from `b`, found it gone, or its task goes on elsewhere;
* `World.Filed`    the system call objects are found under the numbers they were made for;
* `Aside S C b`   how the world may change around `b`; with `S` the stops of `b` may be handled,
                  with `C` its system calls.
-/

set_option linter.unusedSectionVars false

namespace Clues

open Lib Lib.Exec Step

variable {SC : Type} [SyscallOps SC]

/-! ## entries -/

/-- an entry about the stops of the tracee -/
def Entry.isStop (b : TraceeId) : Entry → Bool
  | .deliver id _ | .request id (.restart _ _ _) _ | .request id (.getSigInfo _) _
  | .callback (.stopped id) | .callback (.resumed id) => id = b
  | _ => false

/-- an entry about the system calls of the tracee -/
def Entry.isCall (b : TraceeId) : Entry → Bool
  | .request id (.getSyscallInfo _) _ | .syscallEntered id _ | .syscallExited id | .execed id _ _
  | .callback (.syscallEntry id _ _) | .callback (.syscallExit id _ _) => id = b
  | _ => false

/-- the tracer detaches from the tracee, finds it gone, or its task goes on in another object -/
def Entry.departs (b : TraceeId) : Entry → Bool
  | .request id (.detach _) _ | .request id (.interrupt _) (some _)
  | .execed _ _ (some id) => id = b
  | _ => false

def Departed (log : Log) (b : TraceeId) : Prop := ∃ e ∈ log, e.departs b = true

theorem Departed.append {log : Log} {b : TraceeId} (h : Departed log b) (es : Log) :
    Departed (log ++ es) b := by
  obtain ⟨e, he, hd⟩ := h
  exact ⟨e, List.mem_append_left _ he, hd⟩

theorem Departed.of_last (log : Log) {b : TraceeId} {e : Entry} (h : e.departs b = true) :
    Departed (log ++ [e]) b := ⟨e, by simp, h⟩

/-! ## data -/

def Tracee.stops (t : Tracee) : TraceeKind × State × RestartMode × Option Signal :=
  (t.kind, t.state, t.restartMode, t.stopSignal)

def State.isSyscallStop : State → Bool
  | .syscallEnterStop | .syscallExitStop => true
  | _ => false

/-- the flags for the stops that the tracer caused itself -/
def Tracee.marks (t : Tracee) : Bool × Bool × Bool :=
  (t.flags.waitForAttachStop, t.flags.injectedSigstop, t.flags.injectedSigcont)

def Tracee.resumption (t : Tracee) : Option CallId × Option CallId × Nat × Bool × Bool :=
  (t.currentSyscall, t.interruptedSyscall, t.syscallCtr, t.flags.seenSigreturn,
    t.flags.syscallEntered)

/-- the part of it that detaching leaves alone, and that another object may take over -/
def Tracee.history (t : Tracee) : Option CallId × Option CallId × Nat :=
  (t.currentSyscall, t.interruptedSyscall, t.syscallCtr)

theorem history_of_resumption {t t' : Tracee} (h : t'.resumption = t.resumption) :
    t'.history = t.history := by
  unfold Tracee.resumption at h
  simp only [Prod.mk.injEq] at h
  unfold Tracee.history
  rw [h.1, h.2.1, h.2.2.1]

/-- the tracee was detached from, or found dead -/
structure Parts (t t' : Tracee) : Prop where
  ended : t'.ended = true
  kind : t'.kind = t.kind
  mode : t'.restartMode = t.restartMode
  signal : t'.stopSignal = t.stopSignal ∨ t'.stopSignal = none

theorem Parts.trans {t t' t'' : Tracee} (h : Parts t t') (h' : Parts t' t'') : Parts t t'' := by
  refine ⟨h'.ended, h'.kind.trans h.kind, h'.mode.trans h.mode, ?_⟩
  obtain hs | hs := h'.signal
  · rw [hs]
    exact h.signal
  · exact Or.inr hs

theorem ended_of_stops {t t' : Tracee} (h : t'.stops = t.stops) : t'.ended = t.ended := by
  unfold Tracee.stops at h
  simp only [Prod.mk.injEq] at h
  unfold Tracee.ended
  rw [h.2.1]

theorem Parts.of_left {t t' t'' : Tracee} (h : Parts t t') (h' : t''.stops = t'.stops) :
    Parts t t'' := by
  have he := ended_of_stops h'
  unfold Tracee.stops at h'
  simp only [Prod.mk.injEq] at h'
  obtain ⟨hk, -, hm, hs⟩ := h'
  exact ⟨he.trans h.ended, hk.trans h.kind, hm.trans h.mode, by rw [hs]; exact h.signal⟩

theorem Parts.of_right {t t' t'' : Tracee} (h : t'.stops = t.stops) (h' : Parts t' t'') :
    Parts t t'' := by
  unfold Tracee.stops at h
  simp only [Prod.mk.injEq] at h
  obtain ⟨hk, -, hm, hs⟩ := h
  exact ⟨h'.ended, h'.kind.trans hk, h'.mode.trans hm, by rw [← hs]; exact h'.signal⟩

/-- a tracee whose events were not handled yet -/
structure Tracee.Fresh (t : Tracee) : Prop where
  stops : t.stops = (t.kind, .unknown, .cont, none)
  marks : t.marks = (true, t.isChildProcess, t.isChildProcess)

/-- data of an object that was made since -/
structure Born (S C : Prop) (log : Log) (b : TraceeId) (t : Tracee) : Prop where
  mode : S ∨ t.restartMode = .cont
  signal : S ∨ t.stopSignal = none
  state : S ∨ t.state ≠ .groupStop
  resumption : C ∨ t.resumption = (none, none, 0, false, false) ∨ Departed log b

/-! ## system call objects -/

/-- the number that a system call object was made for -/
def World.requested (w : World SC) (c : CallId) : Option SystemCallNr :=
  (w.calls c).map CallObj.requested

structure World.Filed (w : World SC) : Prop where
  fresh : ∀ c, w.nextCall ≤ c → w.calls c = none
  db : ∀ id nr c, (w.objs id).syscallDb nr = some c → w.requested c = some nr
  numbered : Lawful SC → ∀ {c call}, w.calls c = some call →
    SyscallOps.callNr call.obj = createdNr call.requested

/-- system call objects stay what they were made for -/
structure Shelved (w w' : World SC) : Prop where
  filed : w.Filed → w'.Filed
  requested : w.Filed → ∀ {c nr}, w.requested c = some nr → w'.requested c = some nr

theorem Shelved.refl (w : World SC) : Shelved w w := ⟨fun h => h, fun _ _ _ h => h⟩

theorem Shelved.trans {w w' w'' : World SC} (h : Shelved w w') (h' : Shelved w' w'') :
    Shelved w w'' :=
  ⟨fun hf => h'.filed (h.filed hf), fun hf _ _ hr => h'.requested (h.filed hf) (h.requested hf hr)⟩

/-- the objects stay, and the entries of the databases were in one of them before -/
theorem Shelved.of_same {w w' : World SC} (hc : w'.calls = w.calls) (hn : w'.nextCall = w.nextCall)
    (hd : ∀ id nr c, (w'.objs id).syscallDb nr = some c →
      ∃ id', (w.objs id').syscallDb nr = some c) : Shelved w w' := by
  have hreq : ∀ c, w'.requested c = w.requested c := fun c => by
    unfold World.requested
    rw [hc]
  refine ⟨fun hf => ⟨fun c hle => ?_, fun id nr c h => ?_, fun hl c call h => ?_⟩,
    fun _ _ _ h => (hreq _).trans h⟩
  · rw [hc]
    exact hf.fresh c (hn ▸ hle)
  · obtain ⟨id', h'⟩ := hd id nr c h
    rw [hreq]
    exact hf.db id' nr c h'
  · exact hf.numbered hl (hc ▸ h)

theorem Shelved.setObj (w : World SC) {id : TraceeId} {t : Tracee}
    (hd : t.syscallDb = (w.objs id).syscallDb) : Shelved w (w.setObj id t) := by
  refine Shelved.of_same rfl rfl fun i nr c h => ?_
  by_cases hi : i = id
  · subst hi
    rw [World.setObj_self, hd] at h
    exact ⟨i, h⟩
  · rw [World.setObj_of_ne w t hi] at h
    exact ⟨i, h⟩

/-! ## around a tracee -/

/-- the stops of `b` decide nothing new, but it may have departed -/
def Drifts (S : Prop) (b : TraceeId) (w w' : World SC) : Prop :=
  S ∨ (w'.objs b).stops = (w.objs b).stops ∨
    Parts (w.objs b) (w'.objs b) ∧
      (Departed w'.log b ∨ ¬ w'.Tracked b ∧ (w.objs b).state = .unknown)

/-- only objects that were made are in `m_tracees` -/
def World.Sound (w : World SC) : Prop := ∀ id, w.Tracked id → id < w.nextObj

/-- the world changes around `b` -/
structure Aside (S C : Prop) (b : TraceeId) (w w' : World SC) : Prop where
  nextObj : w.nextObj ≤ w'.nextObj
  log : ∃ es, w'.log = w.log ++ es ∧
    ∀ e ∈ es, (e.isStop b = true → S) ∧ (e.isCall b = true → C)
  stops : (w.nextObj ≤ b → w'.nextObj ≤ b) → Drifts S b w w'
  marks : (w.nextObj ≤ b → w'.nextObj ≤ b) → w'.Tracked b →
    S ∨ (w'.objs b).marks = (w.objs b).marks ∨ Departed w'.log b
  resumption : (w.nextObj ≤ b → w'.nextObj ≤ b) →
    C ∨ (w'.objs b).resumption = (w.objs b).resumption ∨
      Departed w'.log b ∧ (w'.objs b).history = (w.objs b).history
  born : w.nextObj ≤ b → b < w'.nextObj → Born S C w'.log b (w'.objs b)
  tracked : w'.Tracked b → w.Tracked b ∨
    w.nextObj ≤ b ∧ b < w'.nextObj ∧ (S ∨ (w'.objs b).Fresh ∨ Departed w'.log b)
  sound : w.Sound → w'.Sound
  shelved : Shelved w w'

section
variable {S C : Prop} {b : TraceeId} {w w' w'' : World SC}

theorem Aside.log_grows (h : Aside S C b w w') : w.log <+: w'.log := by
  obtain ⟨es, he, -⟩ := h.log
  exact he ▸ List.prefix_append _ _

theorem Aside.departed (h : Aside S C b w w') (hd : Departed w.log b) : Departed w'.log b := by
  obtain ⟨es, he, -⟩ := h.log
  rw [he]
  exact hd.append es

theorem Aside.refl (w : World SC) : Aside S C b w w where
  nextObj := le_rfl
  log := ⟨[], by simp, by simp⟩
  stops _ := Or.inr (Or.inl rfl)
  marks _ _ := Or.inr (Or.inl rfl)
  resumption _ := Or.inr (Or.inl rfl)
  born h h' := absurd h' (not_lt.mpr h)
  tracked h := Or.inl h
  sound h := h
  shelved := Shelved.refl w

/-- an object that is not made in two steps is not made in one of them -/
theorem unborn_of_trans {i j k : Nat} (h1 : i ≤ j) (h2 : j ≤ k) (h : i ≤ b → k ≤ b) :
    (i ≤ b → j ≤ b) ∧ (j ≤ b → k ≤ b) := by
  constructor
  · exact fun hi => h2.trans (h hi)
  · exact fun hj => h (h1.trans hj)

theorem Tracee.Fresh.of_same {t t' : Tracee} (h : t.Fresh) (hs : t'.stops = t.stops)
    (hm : t'.marks = t.marks) : t'.Fresh := by
  have hk : t'.kind = t.kind := congrArg Prod.fst hs
  have hc : t'.isChildProcess = t.isChildProcess := by
    unfold Tracee.isChildProcess
    rw [hk]
  exact ⟨by rw [hs, h.stops, hk], by rw [hm, h.marks, hc]⟩

/-- an object that is tracked at the end was tracked before, or is new -/
theorem Aside.tracked_before (h : Aside S C b w w') (hb : w.nextObj ≤ b → w'.nextObj ≤ b)
    (ht : w'.Tracked b) : w.Tracked b := by
  obtain hw | ⟨h1, h2, -⟩ := h.tracked ht
  · exact hw
  · exact absurd h2 (not_lt.mpr (hb h1))

theorem Aside.drifts_trans (h : Aside S C b w w') (h' : Aside S C b w' w'')
    (hb : w.nextObj ≤ b → w''.nextObj ≤ b) : Drifts S b w w'' := by
  obtain ⟨h1, h2⟩ := unborn_of_trans h.nextObj h'.nextObj hb
  obtain hS | hs' | ⟨hp', hd'⟩ := h'.stops h2
  · exact Or.inl hS
  · obtain hS | hs | ⟨hp, hd⟩ := h.stops h1
    · exact Or.inl hS
    · exact Or.inr (Or.inl (hs'.trans hs))
    · refine Or.inr (Or.inr ⟨hp.of_left hs', hd.imp h'.departed fun hu => ⟨fun ht => ?_, hu.2⟩⟩)
      exact hu.1 (h'.tracked_before h2 ht)
  · obtain hS | hs | ⟨hp, hd⟩ := h.stops h1
    · exact Or.inl hS
    · have hst : (w'.objs b).state = (w.objs b).state := congrArg (fun x => x.2.1) hs
      exact Or.inr (Or.inr ⟨Parts.of_right hs hp', hd'.imp_right fun hu => ⟨hu.1, hst ▸ hu.2⟩⟩)
    · refine Or.inr (Or.inr ⟨hp.trans hp', hd.imp h'.departed fun hu => ⟨fun ht => ?_, hu.2⟩⟩)
      exact hu.1 (h'.tracked_before h2 ht)

/-- a new object is as it was made, or has departed since -/
theorem Born.drifts (h : Born S C w.log b (w.objs b)) (h' : Aside S C b w w')
    (hb : w.nextObj ≤ b → w'.nextObj ≤ b) : Born S C w'.log b (w'.objs b) := by
  have hs := h'.stops hb
  refine ⟨?_, ?_, ?_, ?_⟩
  · obtain hS | hs | ⟨hp, -⟩ := hs
    · exact Or.inl hS
    · have hm : (w'.objs b).restartMode = (w.objs b).restartMode := congrArg (fun x => x.2.2.1) hs
      rw [hm]
      exact h.mode
    · rw [hp.mode]
      exact h.mode
  · obtain hS | hs | ⟨hp, -⟩ := hs
    · exact Or.inl hS
    · have hm : (w'.objs b).stopSignal = (w.objs b).stopSignal := congrArg (fun x => x.2.2.2) hs
      rw [hm]
      exact h.signal
    · obtain hn | hn := hp.signal
      · rw [hn]
        exact h.signal
      · exact Or.inr hn
  · obtain hS | hs | ⟨hp, -⟩ := hs
    · exact Or.inl hS
    · have hm : (w'.objs b).state = (w.objs b).state := congrArg (fun x => x.2.1) hs
      rw [hm]
      exact h.state
    · refine Or.inr fun hg => ?_
      have he := hp.ended
      unfold Tracee.ended at he
      rw [hg] at he
      cases he
  · obtain hC | hr | ⟨hd, -⟩ := h'.resumption hb
    · exact Or.inl hC
    · obtain hC | hi | hd := h.resumption
      · exact Or.inl hC
      · exact Or.inr (Or.inl (hr.trans hi))
      · exact Or.inr (Or.inr (h'.departed hd))
    · exact Or.inr (Or.inr hd)

theorem Aside.trans (h : Aside S C b w w') (h' : Aside S C b w' w'') : Aside S C b w w'' where
  nextObj := h.nextObj.trans h'.nextObj
  log := by
    obtain ⟨es, he, hes⟩ := h.log
    obtain ⟨es', he', hes'⟩ := h'.log
    refine ⟨es ++ es', by rw [he', he, List.append_assoc], fun e hm => ?_⟩
    rcases List.mem_append.mp hm with hm | hm
    · exact hes e hm
    · exact hes' e hm
  stops := h.drifts_trans h'
  marks hb ht := by
    obtain ⟨h1, h2⟩ := unborn_of_trans h.nextObj h'.nextObj hb
    obtain hS | hm' | hd := h'.marks h2 ht
    · exact Or.inl hS
    · obtain hS | hm | hd := h.marks h1 (h'.tracked_before h2 ht)
      · exact Or.inl hS
      · exact Or.inr (Or.inl (hm'.trans hm))
      · exact Or.inr (Or.inr (h'.departed hd))
    · exact Or.inr (Or.inr hd)
  resumption hb := by
    obtain ⟨h1, h2⟩ := unborn_of_trans h.nextObj h'.nextObj hb
    obtain hC | hr' | ⟨hd', hk'⟩ := h'.resumption h2
    · exact Or.inl hC
    · obtain hC | hr | ⟨hd, hk⟩ := h.resumption h1
      · exact Or.inl hC
      · exact Or.inr (Or.inl (hr'.trans hr))
      · exact Or.inr (Or.inr ⟨h'.departed hd, (history_of_resumption hr').trans hk⟩)
    · obtain hC | hr | ⟨-, hk⟩ := h.resumption h1
      · exact Or.inl hC
      · exact Or.inr (Or.inr ⟨hd', hk'.trans (history_of_resumption hr)⟩)
      · exact Or.inr (Or.inr ⟨hd', hk'.trans hk⟩)
  born hb hb'' := by
    by_cases hb' : b < w'.nextObj
    · exact (h.born hb hb').drifts h' fun hle => absurd hb' (not_lt.mpr hle)
    · exact h'.born (not_lt.mp hb') hb''
  tracked ht := by
    obtain ht' | ⟨h1, h2, hf⟩ := h'.tracked ht
    · obtain hw | ⟨h1, h2, hf⟩ := h.tracked ht'
      · exact Or.inl hw
      · have hu : w'.nextObj ≤ b → w''.nextObj ≤ b := fun hle => absurd h2 (not_lt.mpr hle)
        refine Or.inr ⟨h1, h2.trans_le h'.nextObj, ?_⟩
        obtain hS | hf | hd := hf
        · exact Or.inl hS
        · obtain hS | hs | ⟨-, hd | ⟨hn, -⟩⟩ := h'.stops hu
          · exact Or.inl hS
          · obtain hS | hm | hd := h'.marks hu ht
            · exact Or.inl hS
            · exact Or.inr (Or.inl (hf.of_same hs hm))
            · exact Or.inr (Or.inr hd)
          · exact Or.inr (Or.inr hd)
          · exact absurd ht hn
        · exact Or.inr (Or.inr (h'.departed hd))
    · exact Or.inr ⟨h.nextObj.trans h1, h2, hf⟩
  sound hw := h'.sound (h.sound hw)
  shelved := h.shelved.trans h'.shelved

/-- more may be handled -/
theorem Aside.mono {S' C' : Prop} (hS : S → S') (hC : C → C') (h : Aside S C b w w') :
    Aside S' C' b w w' where
  nextObj := h.nextObj
  log := by
    obtain ⟨es, he, hes⟩ := h.log
    exact ⟨es, he, fun e hm => ⟨fun hs => hS ((hes e hm).1 hs), fun hc => hC ((hes e hm).2 hc)⟩⟩
  stops hb := (h.stops hb).imp_left hS
  marks hb ht := (h.marks hb ht).imp_left hS
  resumption hb := (h.resumption hb).imp_left hC
  born h1 h2 := by
    obtain ⟨hm, hs, hst, hr⟩ := h.born h1 h2
    exact ⟨hm.imp_left hS, hs.imp_left hS, hst.imp_left hS, hr.imp_left hC⟩
  tracked ht := (h.tracked ht).imp_right fun ⟨h1, h2, h3⟩ => ⟨h1, h2, h3.imp_left hS⟩
  sound := h.sound
  shelved := h.shelved

theorem Aside.walk (S C : Prop) (b : TraceeId) :
    Walk (World.Sound : World SC → Prop) (Aside S C b : World SC → World SC → Prop) where
  refl := Aside.refl
  trans := Aside.trans
  keeps hw h := h.sound hw

/-- the computation works around `b` -/
abbrev Besides (S C : Prop) (b : TraceeId) {α : Type} (x : Step SC α) : Prop :=
  Along (World.Sound : World SC → Prop) (Aside S C b) x

end

section
variable {S C : Prop} {b : TraceeId} {env : Env} {w w' : World SC}

/-! ## primitive steps -/

/-- no object is made, and none is put into `m_tracees` -/
theorem Aside.inplace (ht : ∀ id, w'.Tracked id → w.Tracked id) (hn : w'.nextObj = w.nextObj)
    (hl : ∃ es, w'.log = w.log ++ es ∧
      ∀ e ∈ es, (e.isStop b = true → S) ∧ (e.isCall b = true → C))
    (hs : Drifts S b w w')
    (hm : w'.Tracked b → S ∨ (w'.objs b).marks = (w.objs b).marks ∨ Departed w'.log b)
    (hr : C ∨ (w'.objs b).resumption = (w.objs b).resumption ∨
      Departed w'.log b ∧ (w'.objs b).history = (w.objs b).history)
    (hk : Shelved w w') : Aside S C b w w' where
  nextObj := hn.ge
  log := hl
  stops _ := hs
  marks _ := hm
  resumption _ := hr
  born h h' := absurd h' (not_lt.mpr (hn ▸ h))
  tracked h := Or.inl (ht b h)
  sound h id hid := hn ▸ h id (ht id hid)
  shelved := hk

/-- objects, the map and the log stay -/
theorem Aside.same (ht : w'.tracees = w.tracees) (hn : w'.nextObj = w.nextObj)
    (hl : w'.log = w.log) (ho : w'.objs = w.objs) (hk : Shelved w w') : Aside S C b w w' := by
  refine Aside.inplace ?_ hn ⟨[], by simp [hl], by simp⟩ (Or.inr (Or.inl ?_))
    (fun _ => Or.inr (Or.inl ?_)) (Or.inr (Or.inl ?_)) hk
  · rintro id ⟨k, hk⟩
    exact ⟨k, ht ▸ hk⟩
  · rw [ho]
  · rw [ho]
  · rw [ho]

theorem Aside.said (w : World SC) {e : Entry} (hs : e.isStop b = true → S)
    (hc : e.isCall b = true → C) : Aside S C b w (w.say e) := by
  refine Aside.inplace (fun _ ht => ht) rfl ⟨[e], rfl, fun e' he' => ?_⟩ (Or.inr (Or.inl rfl))
    (fun _ => Or.inr (Or.inl rfl)) (Or.inr (Or.inl rfl))
    (Shelved.of_same rfl rfl fun i _ _ h => ⟨i, h⟩)
  rw [List.mem_singleton.mp he']
  exact ⟨hs, hc⟩

/-- one object changes -/
theorem Aside.changed (w : World SC) {id : TraceeId} {t : Tracee}
    (hs : id = b → S ∨ t.stops = (w.objs b).stops)
    (hm : id = b → w.Tracked b → S ∨ t.marks = (w.objs b).marks)
    (hr : id = b → C ∨ t.resumption = (w.objs b).resumption)
    (hk : Shelved w (w.setObj id t)) : Aside S C b w (w.setObj id t) := by
  by_cases hb : id = b
  · subst hb
    refine Aside.inplace (fun _ ht => ht) rfl ⟨[], by simp, by simp⟩ ?_ (fun ht => ?_) ?_ hk
    · unfold Drifts
      rw [World.setObj_self]
      exact (hs rfl).imp_right Or.inl
    · rw [World.setObj_self]
      exact (hm rfl ht).imp_right Or.inl
    · rw [World.setObj_self]
      exact (hr rfl).imp_right Or.inl
  · have ho : (w.setObj id t).objs b = w.objs b := World.setObj_of_ne w t fun h => hb h.symm
    refine Aside.inplace (fun _ ht => ht) rfl ⟨[], by simp, by simp⟩ ?_ (fun _ => ?_) ?_ hk
    · exact Or.inr (Or.inl (by rw [ho]))
    · exact Or.inr (Or.inl (by rw [ho]))
    · exact Or.inr (Or.inl (by rw [ho]))

/-- one object changes, but for its database -/
theorem Aside.setObj (w : World SC) {id : TraceeId} {t : Tracee}
    (hs : id = b → S ∨ t.stops = (w.objs b).stops)
    (hm : id = b → w.Tracked b → S ∨ t.marks = (w.objs b).marks)
    (hr : id = b → C ∨ t.resumption = (w.objs b).resumption)
    (hd : t.syscallDb = (w.objs id).syscallDb) : Aside S C b w (w.setObj id t) :=
  Aside.changed w hs hm hr (Shelved.setObj w hd)

theorem Besides.pure {α : Type} (r : α) : Besides S C b (Pure.pure r : Step SC α) :=
  Along.pure (Aside.walk S C b) r
theorem Besides.raise {α : Type} (e : Exc) : Besides S C b (Exec.raise e : Step SC α) :=
  Along.raise (Aside.walk S C b) e
theorem Besides.lift {α : Type} (r : Except Exc α) : Besides S C b (Exec.lift r : Step SC α) :=
  Along.lift (Aside.walk S C b) r
theorem Besides.bind {α β : Type} {x : Step SC α} {f : α → Step SC β} (hx : Besides S C b x)
    (hf : ∀ r, Besides S C b (f r)) : Besides S C b (x >>= f) := Along.bind (Aside.walk S C b) hx hf
theorem Besides.handle {α : Type} {x : Step SC α} {g : Exc → Step SC α} (hx : Besides S C b x)
    (hg : ∀ e, Besides S C b (g e)) : Besides S C b (Exec.handle x g) :=
  Along.handle (Aside.walk S C b) hx hg
theorem Besides.when {c : Prop} [Decidable c] {x : Step SC Unit} (hx : c → Besides S C b x) :
    Besides S C b (Exec.when c x) := Along.when (Aside.walk S C b) hx
theorem Besides.each {β : Type} {xs : List β} {body : β → Step SC Unit}
    (h : ∀ x ∈ xs, Besides S C b (body x)) : Besides S C b (Exec.each xs body) :=
  Along.each (Aside.walk S C b) h

theorem Besides.catchApi {α : Type} {x : Step SC α} {g : Errno → Step SC α}
    (hx : Besides S C b x) (hg : ∀ e, Besides S C b (g e)) : Besides S C b (Step.catchApi x g) := by
  refine Besides.handle hx fun e => ?_
  cases e with
  | api errno => exact hg errno
  | _ => exact Besides.raise _

theorem Besides.catchAll {α : Type} {x g : Step SC α} (hx : Besides S C b x)
    (hg : Besides S C b g) : Besides S C b (Step.catchAll x g) :=
  Besides.handle hx fun _ => Along.ite (fun _ => hg) fun _ => Besides.raise _

theorem Besides.catchCosmos {α : Type} {x g : Step SC α} (hx : Besides S C b x)
    (hg : Besides S C b g) : Besides S C b (Step.catchCosmos x g) :=
  Besides.handle hx fun _ => Along.ite (fun _ => hg) fun _ => Besides.raise _

/-- reading the state -/
theorem Besides.reading {α : Type} {f : World SC → α} :
    Besides S C b ((do let w ← read; Pure.pure (f w)) : Step SC α) := fun w _ => Aside.refl w

theorem besides_getTracee (id : TraceeId) : Besides S C b (getTracee id : Step SC Tracee) :=
  fun w _ => Aside.refl w

theorem besides_say {e : Entry} (hs : e.isStop b = true → S) (hc : e.isCall b = true → C) :
    Besides S C b (say e : Step SC Unit) := fun w _ => Aside.said w hs hc

/-- a change of an object that has nothing to do with its stops and system calls -/
theorem besides_modify {id : TraceeId} {f : Tracee → Tracee}
    (hs : id = b → S ∨ ∀ t, (f t).stops = t.stops ∧ (f t).marks = t.marks)
    (hr : id = b → C ∨ ∀ t, (f t).resumption = t.resumption)
    (hd : ∀ t, (f t).syscallDb = t.syscallDb) :
    Besides S C b (modifyTracee id f : Step SC Unit) := by
  intro w _
  refine Aside.setObj w (fun hb => ?_) (fun hb _ => ?_) (fun hb => ?_) (hd _)
  · exact (hs hb).imp_right fun h => hb ▸ (h _).1
  · exact (hs hb).imp_right fun h => hb ▸ (h _).2
  · exact (hr hb).imp_right fun h => hb ▸ h _

/-- a change of data that is neither -/
theorem besides_tweak {id : TraceeId} {f : Tracee → Tracee}
    (h : ∀ t, ((f t).stops, (f t).marks, (f t).resumption, (f t).syscallDb)
      = (t.stops, t.marks, t.resumption, t.syscallDb)) :
    Besides S C b (modifyTracee id f : Step SC Unit) := by
  have h1 : ∀ t, (f t).stops = t.stops := fun t => congrArg Prod.fst (h t)
  have h2 : ∀ t, (f t).marks = t.marks := fun t => congrArg (fun x => x.2.1) (h t)
  have h3 : ∀ t, (f t).resumption = t.resumption := fun t => congrArg (fun x => x.2.2.1) (h t)
  have h4 : ∀ t, (f t).syscallDb = t.syscallDb := fun t => congrArg (fun x => x.2.2.2) (h t)
  exact besides_modify (fun _ => Or.inr fun t => ⟨h1 t, h2 t⟩) (fun _ => Or.inr h3) h4

/-- a request about the stops of a tracee -/
def Request.asksStop : Request → Bool
  | .restart .. | .getSigInfo _ => true
  | _ => false

/-- a request about the system calls of a tracee -/
def Request.asksCall : Request → Bool
  | .getSyscallInfo _ => true
  | _ => false

theorem besides_request {id : TraceeId} {r : Request} (hs : id = b → r.asksStop = true → S)
    (hc : id = b → r.asksCall = true → C) : Besides S C b (request env id r : Step SC Unit) := by
  intro w _
  rw [run_request]
  refine Aside.said w (fun h => ?_) fun h => ?_
  · cases r with
    | restart | getSigInfo => exact hs (of_decide_eq_true h) rfl
    | _ => cases h
  · cases r with
    | getSyscallInfo => exact hc (of_decide_eq_true h) rfl
    | _ => cases h

/-- a request about something else -/
theorem besides_mildRequest {id : TraceeId} {r : Request}
    (h : (r.asksStop, r.asksCall) = (false, false)) :
    Besides S C b (request env id r : Step SC Unit) := by
  obtain ⟨hs, hc⟩ := Prod.mk.inj h
  refine besides_request (fun _ ht => ?_) fun _ ht => ?_
  · rw [hs] at ht
    cases ht
  · rw [hc] at ht
    cases ht

theorem Besides.query {α : Type} {id : TraceeId} {r : Request} {answer : Log → α}
    (h : Besides S C b (request env id r : Step SC Unit)) :
    Besides S C b (Step.query env id r answer : Step SC α) :=
  Along.read_bind fun w hw => Besides.bind h (fun _ => Besides.pure _) w hw

/-- changes that leave objects, map and log alone -/
theorem besides_update {f : World SC → World SC}
    (h : ∀ w, ((f w).tracees, (f w).nextObj, (f w).log, (f w).objs, (f w).calls, (f w).nextCall)
      = (w.tracees, w.nextObj, w.log, w.objs, w.calls, w.nextCall)) :
    Besides S C b (update f : Step SC Unit) := by
  intro w _
  have hw := h w
  simp only [Prod.mk.injEq] at hw
  obtain ⟨ht, hn, hl, ho, hc, hk⟩ := hw
  refine Aside.same ht hn hl ho (Shelved.of_same hc hk fun i nr c hi => ⟨i, ?_⟩)
  rw [← ho]
  exact hi

/-! ## detaching -/

theorem besides_cleanupChild (id : TraceeId) :
    Besides S C b (cleanupChild env id : Step SC Unit) := by
  refine Besides.bind (besides_getTracee id) fun t => Along.ite (fun _ => ?_) fun _ =>
    Besides.pure _
  refine Besides.bind (Besides.catchApi (besides_mildRequest rfl) fun e => ?_) fun _ =>
    besides_tweak fun _ => rfl
  exact Along.ite (fun _ => Besides.raise _) fun _ => Besides.pure _

theorem stopSignal_moveTo (t : Tracee) (s : State) :
    (t.moveTo s).stopSignal = t.stopSignal ∨ (t.moveTo s).stopSignal = none := by
  unfold Tracee.moveTo
  exact (ite_eq_or_eq _ _ _).symm

theorem parts_moveTo {s : State} (hs : s.isEnded = true) (t : Tracee) : Parts t (t.moveTo s) :=
  ⟨hs, rfl, rfl, stopSignal_moveTo t s⟩

/-- an object departs, after the log said so -/
theorem Aside.parted {id : TraceeId} {t : Tracee} (hd : id = b → Departed w.log b)
    (h : id = b → Parts (w.objs b) t)
    (hk : (t.history, t.syscallDb) = ((w.objs id).history, (w.objs id).syscallDb)) :
    Aside S C b w (w.setObj id t) := by
  obtain ⟨hh, hdb⟩ := Prod.mk.inj hk
  by_cases hb : id = b
  · subst hb
    refine Aside.inplace (fun _ ht => ht) rfl ⟨[], by simp, by simp⟩ ?_
      (fun _ => Or.inr (Or.inr (hd rfl))) (Or.inr (Or.inr ⟨hd rfl, ?_⟩)) (Shelved.setObj w hdb)
    · unfold Drifts
      rw [World.setObj_self]
      exact Or.inr (Or.inr ⟨h rfl, Or.inl (hd rfl)⟩)
    · rw [World.setObj_self]
      exact hh
  · exact Aside.setObj w (fun h => absurd h hb) (fun h => absurd h hb) (fun h => absurd h hb) hdb

theorem aside_moveTo {s : State} (hs : s.isEnded = true) {id : TraceeId} {x : Step SC Unit}
    (hx : Besides S C b x) (hw : w.Sound) (hd : id = b → Departed w.log b) :
    Aside S C b w ((x >>= fun _ => modifyTracee id fun t => t.moveTo s) w).2 := by
  refine Along.bind_of (Aside.walk S C b) hw (hx w hw) fun _ w1 h1 _ => ?_
  have hlog : Aside S C b w w1 := by
    have ha := hx w hw
    rwa [h1] at ha
  exact Aside.parted (fun hb => hlog.departed (hd hb)) (fun hb => hb ▸ parts_moveTo hs _) rfl

theorem aside_dead {id : TraceeId} (hw : w.Sound) (hd : id = b → Departed w.log b) :
    Aside S C b w (changeState env id .dead w).2 := by
  refine aside_moveTo rfl (Besides.bind (besides_getTracee id) fun t => ?_) hw hd
  exact Along.ite (fun _ => besides_cleanupChild id) fun _ => Besides.pure _

theorem aside_handleError {id : TraceeId} {errno : Errno} (hw : w.Sound)
    (hd : id = b → Departed w.log b) :
    Aside S C b w (handleError env id errno w).2 := by
  unfold handleError
  split_ifs
  · exact aside_dead hw hd
  · have hx : Besides S C b (do
        modifyTracee id fun t => { t with ptrace := ProcessID.invalid }
        Exec.raise (.api errno) : Step SC Unit) :=
      Besides.bind (besides_tweak fun _ => rfl) fun _ => Besides.raise _
    exact hx w hw

theorem parts_detached (t : Tracee) :
    Parts t ((({ t with flags := { t.flags with detachAtNextStop := false } } :
      Tracee).moveTo .detached).forget) := ⟨rfl, rfl, rfl, stopSignal_moveTo _ .detached⟩

theorem parts_forget {t : Tracee} (h : t.ended = true) : Parts t t.forget :=
  ⟨h, rfl, rfl, Or.inl rfl⟩

/-- the request to detach is a departure, whether it succeeds or not -/
theorem besides_doDetach (id : TraceeId) : Besides S C b (doDetach env id : Step SC Unit) := by
  have hp : Walk (World.Sound : World SC → Prop) _ := Aside.walk S C b
  intro w hw
  have hsaid : ∀ error, Aside S C b w (w.say (.request id (.detach (w.objs id).ptrace) error)) :=
    fun error => Aside.said w (fun h => nomatch h) fun h => nomatch h
  have hdet : ∀ v : World SC, Aside S C b v (v.say (.detached id)) :=
    fun v => Aside.said v (fun h => nomatch h) fun h => nomatch h
  have hdep : ∀ error, id = b →
      Departed (w.say (.request id (.detach (w.objs id).ptrace) error)).log b :=
    fun error hb => Departed.of_last _ (decide_eq_true hb)
  cases h : env.request w.log (.detach (w.objs id).ptrace) with
  | none =>
    rw [run_doDetach_ok h]
    refine hp.trans (hsaid none) (hp.trans (hdet _)
      (Aside.parted (fun hb => (hdep none hb).append _) (fun hb => ?_) rfl))
    rw [World.say_objs, World.say_objs, hb]
    exact parts_detached (w.objs b)
  | some e =>
    rw [run_doDetach_error h]
    have hw1 := hp.keeps hw (hsaid (some e))
    refine hp.trans (hsaid (some e)) (Along.bind_of hp hw1 (aside_handleError hw1 (hdep (some e)))
      fun _ w1 h1 _ => ?_)
    have hlog : Aside S C b (w.say (.request id (.detach (w.objs id).ptrace) (some e))) w1 := by
      have ha : Aside S C b (w.say (.request id (.detach (w.objs id).ptrace) (some e)))
          (handleError env id e (w.say (.request id (.detach (w.objs id).ptrace) (some e)))).2 :=
        aside_handleError hw1 (hdep (some e))
      rwa [h1] at ha
    refine Aside.parted (fun hb => hlog.departed (hdep (some e) hb)) (fun hb => ?_) rfl
    subst hb
    exact parts_forget (ended_of_handleError h1)

theorem besides_detach (id : TraceeId) : Besides S C b (detach env id : Step SC Bool) := by
  have hp : Walk (World.Sound : World SC → Prop) _ := Aside.walk S C b
  refine Besides.bind (besides_getTracee id) fun t => ?_
  refine Along.ite (fun _ => Besides.pure _) fun _ => Along.ite (fun _ => Besides.pure _) fun _ =>
    Along.ite (fun _ => Besides.bind (besides_doDetach id) fun _ => Besides.pure _) fun _ => ?_
  refine Besides.bind (besides_tweak fun _ => rfl) fun _ => ?_
  refine Besides.bind (Besides.when fun _ => fun w hw => ?_) fun _ => Besides.pure _
  have hsaid : ∀ error, Aside S C b w (w.say (.request id (.interrupt t.ptrace) error)) :=
    fun error => Aside.said w (fun h => nomatch h) fun h => nomatch h
  unfold Step.catchApi Exec.handle
  rw [run_request]
  cases h : env.request w.log (.interrupt t.ptrace) with
  | none => exact hsaid none
  | some e =>
    refine hp.trans (hsaid (some e)) (aside_handleError (hp.keeps hw (hsaid (some e))) fun hb => ?_)
    exact Departed.of_last _ (decide_eq_true hb)

theorem besides_destroy (id : TraceeId) : Besides S C b (destroy env id : Step SC Unit) := by
  refine Besides.bind (besides_getTracee id) fun t => Along.ite (fun _ => Besides.pure _) fun _ => ?_
  refine Besides.bind (besides_say (fun h => nomatch h) fun h => nomatch h) fun _ => ?_
  refine Along.ite (fun _ => Besides.catchCosmos ?_ (Besides.pure _)) fun _ =>
    Besides.catchCosmos (Besides.bind (besides_detach id) fun _ => Besides.pure _) (Besides.pure _)
  refine Besides.bind (besides_getTracee id) fun t => ?_
  refine Besides.bind (Besides.when fun _ => ?_) fun _ => besides_cleanupChild id
  exact Besides.catchAll (besides_mildRequest rfl) (Besides.pure _)

/-! ## entries of `m_tracees` -/

theorem Aside.erased (key : ProcessID) :
    Aside S C b w { w with tracees := w.tracees.erase key } := by
  refine Aside.inplace ?_ rfl ⟨[], by simp, by simp⟩ (Or.inr (Or.inl rfl))
    (fun _ => Or.inr (Or.inl rfl)) (Or.inr (Or.inl rfl))
    (Shelved.of_same rfl rfl fun i _ _ h => ⟨i, h⟩)
  rintro id ⟨k, hk⟩
  have hk' : (w.tracees.erase key).find? k = some (some id) := hk
  rw [OrdMap.find?_erase] at hk'
  split_ifs at hk'
  exact ⟨k, hk'⟩

theorem besides_extractTracee (key : ProcessID) :
    Besides S C b (extractTracee key : Step SC (Option TraceeId)) := by
  intro w _
  have hp : Walk (World.Sound : World SC → Prop) _ := Aside.walk S C b
  cases hf : (w.tracees.find? key).join with
  | none =>
    rw [run_extractTracee_none hf]
    exact Aside.erased key
  | some id =>
    rw [run_extractTracee_some (Option.join_eq_some_iff.mp hf)]
    exact hp.trans (Aside.erased key) (Aside.said _ (fun h => nomatch h) fun h => nomatch h)

theorem besides_eraseTracee (key : ProcessID) :
    Besides S C b (eraseTracee env key : Step SC Unit) := by
  refine Besides.bind (besides_extractTracee key) fun o => ?_
  cases o with
  | none => exact Besides.pure _
  | some id => exact besides_destroy id

theorem besides_entryTracee (key : ProcessID) :
    Besides S C b (entryTracee key : Step SC TraceeId) := by
  intro w _
  rw [entryTracee_state]
  exact Aside.refl w

/-! ## the consumer -/

theorem besides_stopTracee (signal : Option Signal) (key : ProcessID) :
    Besides S C b (stopTracee env signal key : Step SC Unit) := by
  refine Besides.bind (besides_entryTracee key) fun id => ?_
  refine Besides.bind ?_ fun _ => Besides.bind
    (besides_say (fun h => nomatch h) fun h => nomatch h) fun _ =>
    Besides.bind (besides_detach id) fun _ => Besides.bind (besides_getTracee id) fun t =>
      Besides.when fun _ => besides_eraseTracee key
  refine Besides.bind (besides_getTracee id) fun t => ?_
  cases signal with
  | none => exact Besides.pure _
  | some sig => exact Besides.when fun _ => besides_mildRequest rfl

theorem besides_consumerCall (c : ConsumerCall) :
    Besides S C b (consumerCall env c : Step SC Unit) := by
  cases c with
  | stop signal =>
    exact Along.read_bind fun w hw =>
      Besides.each (fun key _ => besides_stopTracee signal key) w hw
  | detach pid =>
    refine Along.read_bind fun w hw => ?_
    cases w.tracees.find? pid with
    | none => exact Aside.refl w
    | some o =>
      cases o with
      | none => exact Aside.refl w
      | some id =>
        have hx : Besides S C b (do
            say (.letGo id)
            let _ ← detach env id
            Pure.pure () : Step SC Unit) :=
          Besides.bind (besides_say (fun h => nomatch h) fun h => nomatch h) fun _ =>
            Besides.bind (besides_detach id) fun _ => Besides.pure _
        exact hx w hw

/-- what the consumer does in a callback -/
theorem besides_reaction :
    Besides S C b (do
      let w ← read
      each (env.consumer w.log) (consumerAct env)
      say .returned : Step SC Unit) := by
  refine Along.read_bind fun w hw => ?_
  refine Besides.bind (Besides.each fun act _ => ?_)
    (fun _ => besides_say (fun h => nomatch h) fun h => nomatch h) w hw
  exact Along.ite (fun _ => Besides.catchAll (besides_consumerCall _) (Besides.pure _)) fun _ =>
    besides_consumerCall _

theorem besides_callback {c : Callback} (hs : Entry.isStop b (.callback c) = true → S)
    (hc : Entry.isCall b (.callback c) = true → C) :
    Besides S C b (callback env c : Step SC Unit) :=
  Besides.bind (besides_say hs hc) fun _ => besides_reaction

theorem checkContained_state (it : Iter) (w : World SC) : (checkContained it w).2 = w := by
  unfold checkContained
  rw [run_read_bind]
  split_ifs <;> rfl

theorem besides_checkContained (it : Iter) :
    Besides S C b (checkContained it : Step SC Unit) := by
  intro w _
  rw [checkContained_state]
  exact Aside.refl w

theorem besides_notify {it : Iter} {c : Callback} (hs : Entry.isStop b (.callback c) = true → S)
    (hc : Entry.isCall b (.callback c) = true → C) :
    Besides S C b (notify env it c : Step SC Unit) :=
  Besides.bind (besides_callback hs hc) fun _ => besides_checkContained it

/-! ## making and attaching objects -/

theorem besides_modifyProc (id : TraceeId) (f : ProcessData → ProcessData) :
    Besides S C b (modifyProc id f : Step SC Unit) := besides_update fun _ => rfl

theorem besides_updateExecutable (id : TraceeId) :
    Besides S C b (updateExecutable env id : Step SC Unit) := by
  refine Along.read_bind fun w hw => ?_
  cases env.exe w.log (w.objs id).ptrace with
  | ok exe => exact besides_modifyProc _ _ w hw
  | error e => exact besides_modifyProc _ _ w hw

theorem besides_updateCmdLine (id : TraceeId) :
    Besides S C b (updateCmdLine env id : Step SC Unit) :=
  Along.read_bind fun w hw => besides_modifyProc _ _ w hw

theorem besides_updateExecInfo (id : TraceeId) :
    Besides S C b (updateExecInfo env id : Step SC Unit) :=
  Besides.bind (besides_updateExecutable id) fun _ => besides_updateCmdLine id

/-- the object is not in `m_tracees` yet -/
structure Loosed (id : TraceeId) (w : World SC) : Prop where
  sound : w.Sound
  untracked : ¬ w.Tracked id

/-- changes around `b` that may set up the object -/
structure SetsUp (S C : Prop) (b : TraceeId) (w w' : World SC) : Prop extends Aside S C b w w' where
  tracees : w'.tracees = w.tracees

theorem SetsUp.walk (S C : Prop) (b id : TraceeId) :
    Walk (Loosed id : World SC → Prop) (SetsUp S C b : World SC → World SC → Prop) where
  refl w := ⟨Aside.refl w, rfl⟩
  trans h h' := ⟨h.toAside.trans h'.toAside, h'.tracees.trans h.tracees⟩
  keeps hw h := ⟨h.sound hw.sound, fun ⟨k, hk⟩ => hw.untracked ⟨k, h.tracees ▸ hk⟩⟩

abbrev Prepares (S C : Prop) (b id : TraceeId) {α : Type} (x : Step SC α) : Prop :=
  Along (Loosed id : World SC → Prop) (SetsUp S C b) x

variable {id : TraceeId}

theorem prepares_modify {f : Tracee → Tracee}
    (h : ∀ t, ((f t).stops, (f t).resumption, (f t).syscallDb)
      = (t.stops, t.resumption, t.syscallDb)) :
    Prepares S C b id (modifyTracee id f : Step SC Unit) := by
  intro w hw
  refine ⟨Aside.setObj w (fun hb => Or.inr ?_) (fun hb ht => absurd (hb ▸ ht) hw.untracked)
    (fun hb => Or.inr ?_) ?_, rfl⟩
  · exact hb ▸ congrArg Prod.fst (h (w.objs id))
  · exact hb ▸ congrArg (fun x => x.2.1) (h (w.objs id))
  · exact congrArg (fun x => x.2.2) (h (w.objs id))

theorem prepares_request {r : Request} (h : (r.asksStop, r.asksCall) = (false, false)) :
    Prepares S C b id (request env id r : Step SC Unit) := by
  intro w hw
  refine ⟨besides_mildRequest h w hw.sound, ?_⟩
  rw [run_request]
  rfl

theorem prepares_getTracee : Prepares S C b id (getTracee id : Step SC Tracee) :=
  fun w _ => ⟨Aside.refl w, rfl⟩

theorem prepares_updateExecutable :
    Prepares S C b id (updateExecutable env id : Step SC Unit) := by
  refine fun w hw => ⟨besides_updateExecutable id w hw.sound, ?_⟩
  unfold updateExecutable
  rw [run_read_bind]
  cases env.exe w.log (w.objs id).ptrace <;> rfl

theorem prepares_initAttach (attachThreads : Bool) :
    Prepares S C b id (initAttach env id attachThreads : Step SC Unit) := by
  have hp : Walk (Loosed id : World SC → Prop) _ := SetsUp.walk S C b id
  refine Along.bind hp prepares_getTracee fun t => Along.bind hp prepares_updateExecutable
    fun _ => ?_
  refine Along.bind hp (fun w hw => ⟨besides_updateCmdLine id w hw.sound, rfl⟩) fun _ => ?_
  refine Along.bind hp (prepares_request rfl) fun _ => ?_
  refine Along.bind hp (prepares_modify fun _ => rfl) fun _ => ?_
  refine Along.bind hp (Along.when hp fun _ => ?_) fun _ => Along.when hp fun _ => ?_
  · exact Along.bind hp (prepares_request rfl) fun _ => prepares_modify fun _ => rfl
  · exact prepares_modify fun _ => rfl

/-- the data of the object that its creation does not change -/
def SameStops (id : TraceeId) (w w' : World SC) : Prop :=
  (w'.objs id).stops = (w.objs id).stops ∧ w'.tracees = w.tracees

theorem SameStops.walk (id : TraceeId) :
    Walk (fun _ : World SC => True) (SameStops id : World SC → World SC → Prop) :=
  ⟨fun _ => ⟨rfl, rfl⟩, fun h h' => ⟨h'.1.trans h.1, h'.2.trans h.2⟩, fun _ _ => trivial⟩

theorem sameStops_cleanupChild :
    Along (fun _ : World SC => True) (SameStops id) (cleanupChild env id : Step SC Unit) := by
  have hp : Walk (fun _ : World SC => True) _ := SameStops.walk id
  refine Along.bind hp (fun w _ => hp.refl w) fun t => Along.ite (fun _ => ?_) fun _ =>
    Along.pure hp _
  refine Along.bind hp (Along.handle hp (fun w _ => ?_) fun e => ?_) fun _ => fun w _ => ?_
  · rw [run_request]
    exact ⟨rfl, rfl⟩
  · cases e with
    | api errno => exact Along.ite (fun _ => Along.raise hp _) fun _ => Along.pure hp _
    | _ => exact Along.raise hp _
  · refine ⟨?_, rfl⟩
    rw [run_modifyTracee, World.setObj_self]
    rfl

/-- an object that could not be set up counts as dead -/
theorem setsUp_dead (hw : Loosed id w) (hu : (w.objs id).state = .unknown) :
    SetsUp S C b w (changeState env id .dead w).2 := by
  have hp : Walk (Loosed id : World SC → Prop) _ := SetsUp.walk S C b id
  have hps : Walk (fun _ : World SC => True) (SameStops id) := SameStops.walk id
  have hx : Besides S C b (enterState env id .dead : Step SC Unit) :=
    Besides.bind (besides_getTracee id) fun t =>
      Along.ite (fun _ => besides_cleanupChild id) fun _ => Besides.pure _
  have hs : Along (fun _ : World SC => True) (SameStops id)
      (enterState env id .dead : Step SC Unit) :=
    Along.bind hps (fun w _ => hps.refl w) fun t =>
      Along.ite (fun _ => sameStops_cleanupChild) fun _ => Along.pure hps _
  have hent : SetsUp S C b w (enterState env id .dead w).2 :=
    ⟨hx w hw.sound, (hs w trivial).2⟩
  refine Along.bind_of hp hw hent fun _ w1 h1 hw1 => ?_
  have hs1 : SameStops id w (enterState env id .dead w).2 := hs w trivial
  rw [h1] at hs1
  have hst : (w1.objs id).state = .unknown := by
    rw [← hu]
    exact congrArg (fun x => x.2.1) hs1.1
  refine ⟨?_, rfl⟩
  by_cases hb : id = b
  · subst hb
    refine Aside.inplace (fun _ ht => ht) rfl ⟨[], by simp, by simp⟩ ?_
      (fun ht => absurd ht hw1.untracked) (Or.inr (Or.inl ?_)) (Shelved.setObj w1 rfl)
    · unfold Drifts
      rw [run_modifyTracee, World.setObj_self]
      exact Or.inr (Or.inr ⟨parts_moveTo rfl _, Or.inr ⟨hw1.untracked, hst⟩⟩)
    · rw [run_modifyTracee, World.setObj_self]
      rfl
  · exact Aside.setObj w1 (fun h => absurd h hb) (fun h => absurd h hb) (fun h => absurd h hb) rfl

theorem setsUp_trySeize (followChildren : Bool) (hw : Loosed id w)
    (hu : (w.objs id).state = .unknown) :
    SetsUp S C b w (trySeize env id followChildren w).2 := by
  have hp : Walk (Loosed id : World SC → Prop) _ := SetsUp.walk S C b id
  unfold trySeize
  rw [run_bind_ok (run_getTracee id w)]
  unfold Exec.handle
  rw [run_request]
  have hsaid : ∀ error, SetsUp S C b w
      (w.say (.request id (.seize (w.objs id).ptrace followChildren) error)) :=
    fun error => ⟨Aside.said w (fun h => nomatch h) (fun h => nomatch h), rfl⟩
  cases env.request w.log (.seize (w.objs id).ptrace followChildren) with
  | none => exact hsaid none
  | some e =>
    have hw1 := hp.keeps hw (hsaid (some e))
    refine hp.trans (hsaid (some e)) (Along.bind_of hp hw1 ?_ fun _ w2 _ _ => hp.refl w2)
    unfold Exec.when
    split_ifs
    · exact setsUp_dead hw1 hu
    · exact hp.refl _

theorem setsUp_attach (followChildren attachThreads : Bool) (hw : Loosed id w)
    (hu : (w.objs id).state = .unknown) :
    SetsUp S C b w (attach env id followChildren attachThreads w).2 := by
  have hp : Walk (Loosed id : World SC → Prop) _ := SetsUp.walk S C b id
  have hmod : Prepares S C b id (modifyTracee id fun t =>
      { t with followChildren := followChildren } : Step SC Unit) := prepares_modify fun _ => rfl
  refine Along.bind_of hp hw (hmod w hw) fun _ w1 h1 hw1 => ?_
  have hu1 : (w1.objs id).state = .unknown := by
    rw [← (Prod.mk.inj h1).2, World.setObj_self]
    exact hu
  refine Along.bind_of hp hw1 (setsUp_trySeize followChildren hw1 hu1) fun _ w2 _ hw2 => ?_
  exact prepares_initAttach attachThreads w2 hw2

theorem setsUp_create (cmdline : List String) (hw : Loosed id w)
    (hu : (w.objs id).state = .unknown) : SetsUp S C b w (create env id cmdline w).2 := by
  have hp : Walk (Loosed id : World SC → Prop) _ := SetsUp.walk S C b id
  unfold create
  rw [run_read_bind]
  split_ifs
  · exact Along.bind_of hp hw (setsUp_dead hw hu) fun _ w1 _ _ => hp.refl w1
  · refine Along.bind hp (Along.lift hp _) (fun child => ?_) w hw
    refine Along.bind hp (prepares_modify fun _ => rfl) fun _ => ?_
    refine Along.bind hp (prepares_request rfl) fun _ => ?_
    exact Along.bind hp (prepares_modify fun _ => rfl) fun _ => prepares_modify fun _ => rfl

/-! ### what setting up an object leaves -/

theorem trySeize_objs {followChildren : Bool}
    (h : trySeize env id followChildren w = (.ok (), w')) : w'.objs = w.objs := by
  unfold trySeize at h
  rw [run_bind_ok (run_getTracee id w)] at h
  have h' := handle_rethrow_ok (c := Exec.when ((w.objs id).isChildProcess = false)
    (changeState env id .dead)) h
  rw [run_request] at h'
  exact (congrArg World.objs (Prod.mk.inj h').2).symm

/-- data of one object, as far as setting it up is concerned -/
def Tracee.setup (t : Tracee) :
    (TraceeKind × State × RestartMode × Option Signal) × Bool × Bool × Bool := (t.stops, t.marks)

theorem initAttach_ok {attachThreads : Bool} (h : initAttach env id attachThreads w = (.ok (), w')) :
    (w'.objs id).setup = ((w.objs id).stops, true, (w.objs id).flags.injectedSigstop,
      (w.objs id).flags.injectedSigstop || (w.objs id).flags.injectedSigcont) := by
  unfold initAttach at h
  rw [run_bind_ok (run_getTracee id w)] at h
  obtain ⟨_, w1, h1, h⟩ := of_bind_ok h
  have ho1 : w1.objs = w.objs := by
    have hx : (updateExecutable env id w).2.objs = w.objs := by
      unfold updateExecutable
      rw [run_read_bind]
      cases env.exe w.log (w.objs id).ptrace <;> rfl
    rwa [h1] at hx
  obtain ⟨_, w2, h2, h⟩ := of_bind_ok h
  have ho2 : w2.objs = w.objs := (congrArg World.objs (Prod.mk.inj h2).2).symm.trans ho1
  obtain ⟨_, w3, h3, h⟩ := of_bind_ok h
  rw [run_request] at h3
  have ho3 : w3.objs = w.objs := (congrArg World.objs (Prod.mk.inj h3).2).symm.trans ho2
  rw [run_bind_ok (run_setFlags id _ w3), ho3] at h
  generalize hw4 : w3.setObj id
    { w.objs id with flags := { (w.objs id).flags with waitForAttachStop := true } } = w4 at h
  have ho4 : (w4.objs id).setup = ((w.objs id).stops, true, (w.objs id).flags.injectedSigstop,
      (w.objs id).flags.injectedSigcont) := by
    rw [← hw4, World.setObj_self]
    rfl
  obtain ⟨_, w5, h5, h⟩ := of_bind_ok h
  have ho5 : (w5.objs id).setup = ((w.objs id).stops, true, (w.objs id).flags.injectedSigstop,
      (w.objs id).flags.injectedSigstop || (w.objs id).flags.injectedSigcont) := by
    unfold Exec.when at h5
    split_ifs at h5 with hinj
    · obtain ⟨_, w6, h6, h5⟩ := of_bind_ok h5
      rw [run_request] at h6
      have ho6 : w6.objs = w4.objs := (congrArg World.objs (Prod.mk.inj h6).2).symm
      rw [← (Prod.mk.inj h5).2, World.setObj_self, ho6]
      unfold Tracee.setup Tracee.stops Tracee.marks at ho4 ⊢
      simp only [Prod.mk.injEq] at ho4 ⊢
      rw [hinj]
      obtain ⟨hs, hw, hi, -⟩ := ho4
      exact ⟨hs, hw, hi.trans hinj, rfl⟩
    · have hf : (w.objs id).flags.injectedSigstop = false := by simpa using hinj
      rw [← (Prod.mk.inj h5).2, ho4, hf]
      rfl
  unfold Exec.when at h
  split_ifs at h
  · rw [← (Prod.mk.inj h).2, World.setObj_self]
    exact ho5
  · rw [← (Prod.mk.inj h).2]
    exact ho5

theorem attach_setup {followChildren attachThreads : Bool}
    (h : attach env id followChildren attachThreads w = (.ok (), w')) :
    (w'.objs id).setup = ((w.objs id).stops, true, (w.objs id).flags.injectedSigstop,
      (w.objs id).flags.injectedSigstop || (w.objs id).flags.injectedSigcont) := by
  unfold attach at h
  rw [run_bind_ok (run_modifyTracee id _ w)] at h
  obtain ⟨_, w1, h1, h⟩ := of_bind_ok h
  rw [initAttach_ok h, trySeize_objs h1, World.setObj_self]
  rfl

theorem create_setup {cmdline : List String} (h : create env id cmdline w = (.ok (), w')) :
    (w'.objs id).setup = ((w.objs id).stops, (w.objs id).flags.waitForAttachStop, true,
      (w.objs id).flags.injectedSigcont) := by
  unfold create at h
  rw [run_read_bind] at h
  split_ifs at h
  · obtain ⟨_, w1, -, h⟩ := of_bind_ok h
    cases h
  · obtain ⟨child, w1, h1, h⟩ := of_bind_ok h
    have ho1 : w1 = w := (congrArg Prod.snd h1).symm
    rw [run_bind_ok (run_modifyTracee id _ w1)] at h
    obtain ⟨_, w2, h2, h⟩ := of_bind_ok h
    rw [run_request] at h2
    have ho2 := congrArg (fun v => v.objs id) (Prod.mk.inj h2).2
    rw [ho1, World.say_objs, World.setObj_self] at ho2
    rw [run_bind_ok (run_setFlags id _ w2)] at h
    rw [← (Prod.mk.inj h).2, World.setObj_self, World.setObj_self, ← ho2]
    rfl

/-! ### new objects -/

theorem Aside.alloc (hn : w'.nextObj = w.nextObj + 1) (ht : w'.tracees = w.tracees)
    (hl : w'.log = w.log) (ho : ∀ i, i ≠ w.nextObj → w'.objs i = w.objs i)
    (hb : (w'.objs w.nextObj).stops = ((w'.objs w.nextObj).kind, .unknown, .cont, none))
    (hr : (w'.objs w.nextObj).resumption = (none, none, 0, false, false))
    (hd : (w'.objs w.nextObj).syscallDb = fun _ => none) (hc : w'.calls = w.calls)
    (hk : w'.nextCall = w.nextCall) : Aside S C b w w' := by
  have hne : (w.nextObj ≤ b → w'.nextObj ≤ b) → w'.objs b = w.objs b := fun h =>
    ho b fun hb => absurd (h (le_of_eq hb.symm)) (by rw [hn, hb]; exact Nat.not_succ_le_self _)
  have htr : ∀ i, w'.Tracked i → w.Tracked i := fun i ⟨k, hk⟩ => ⟨k, ht ▸ hk⟩
  refine ⟨hn ▸ Nat.le_succ _, ⟨[], by simp [hl], by simp⟩, fun h => ?_, fun h _ => ?_, fun h => ?_,
    fun h h' => ?_, fun h => Or.inl (htr b h), fun h i hi => ?_,
    Shelved.of_same hc hk fun i nr c h => ⟨i, ?_⟩⟩
  · exact Or.inr (Or.inl (by rw [hne h]))
  · exact Or.inr (Or.inl (by rw [hne h]))
  · exact Or.inr (Or.inl (by rw [hne h]))
  · have hbn : b = w.nextObj := le_antisymm (Nat.lt_succ_iff.mp (lt_of_lt_of_eq h' hn)) h
    subst hbn
    have hs := hb
    unfold Tracee.stops at hs
    simp only [Prod.mk.injEq] at hs
    refine ⟨Or.inr hs.2.2.1, Or.inr hs.2.2.2, Or.inr fun hg => ?_, Or.inr (Or.inl hr)⟩
    rw [hs.2.1] at hg
    cases hg
  · rw [hn]
    exact (h i (htr i hi)).trans (Nat.lt_succ_self _)
  · by_cases hi : i = w.nextObj
    · rw [hi, hd] at h
      cases h
    · rwa [ho i hi] at h

/-- a new object, as it is made -/
theorem newTracee_aside (kind : TraceeKind) (sibling : Option TraceeId) (w : World SC) :
    ∃ w', newTracee kind sibling w = (.ok w.nextObj, w') ∧
      (∀ (S C : Prop) (b : TraceeId), Aside S C b w w') ∧ w'.tracees = w.tracees ∧
      w'.nextObj = w.nextObj + 1 ∧
      (w'.objs w.nextObj).setup = ((kind, .unknown, .cont, none), false, false, false) := by
  obtain ⟨proc, procs, nextProc, h⟩ := newTracee_eq kind sibling w
  refine ⟨_, h, fun S C b => Aside.alloc rfl rfl rfl (fun i hi => ?_) ?_ ?_ ?_ rfl rfl, rfl, rfl, ?_⟩
  · exact World.setObj_of_ne w _ hi
  · show ((w.setObj w.nextObj _).objs w.nextObj).stops = (((w.setObj w.nextObj _).objs _).kind, _)
    rw [World.setObj_self]
    rfl
  · show ((w.setObj w.nextObj _).objs w.nextObj).resumption = _
    rw [World.setObj_self]
    rfl
  · show ((w.setObj w.nextObj _).objs w.nextObj).syscallDb = _
    rw [World.setObj_self]
  · show ((w.setObj w.nextObj _).objs w.nextObj).setup = _
    rw [World.setObj_self]
    rfl

/-- a new object is put into `m_tracees` -/
theorem Aside.put {pid : ProcessID} (h : Aside S C b w w') (hid : w.nextObj ≤ id)
    (hlt : id < w'.nextObj) (hf : id = b → S ∨ (w'.objs b).Fresh ∨ Departed w'.log b) :
    Aside S C b w (putTracee pid id w').2 := by
  have hset : ∀ i, (putTracee pid id w').2.Tracked i → i = id ∨ w'.Tracked i := by
    rintro i ⟨k, hk⟩
    have hk' : (w'.tracees.set pid (some id)).find? k = some (some i) := hk
    rw [OrdMap.find?_set] at hk'
    split_ifs at hk'
    · exact Or.inl (Option.some.inj (Option.some.inj hk')).symm
    · exact Or.inr ⟨k, hk'⟩
  have hdep : Departed w'.log b → Departed (putTracee pid id w').2.log b := fun hd => hd.append _
  -- an object that was not made in between is another one
  have hother : (w.nextObj ≤ b → w'.nextObj ≤ b) → b ≠ id := fun hb he =>
    absurd (hb (he ▸ hid)) (not_le.mpr (he ▸ hlt))
  have hbefore : (w.nextObj ≤ b → w'.nextObj ≤ b) → (putTracee pid id w').2.Tracked b →
      w'.Tracked b := fun hb ht => (hset b ht).resolve_left (hother hb)
  refine ⟨h.nextObj, ?_, fun hb => ?_, fun hb ht => ?_, fun hb => ?_, fun h1 h2 => ?_,
    fun ht => ?_, fun hw i hi => ?_,
    h.shelved.trans (Shelved.of_same rfl rfl fun i _ _ h => ⟨i, h⟩)⟩
  · obtain ⟨es, he, hes⟩ := h.log
    refine ⟨es ++ [.tracked pid id], ?_, fun e hm => ?_⟩
    · show w'.log ++ _ = _
      rw [he, List.append_assoc]
    · rcases List.mem_append.mp hm with hm | hm
      · exact hes e hm
      · rw [List.mem_singleton.mp hm]
        exact ⟨(fun h => nomatch h), (fun h => nomatch h)⟩
  · obtain hS | hs | ⟨hp, hd⟩ := h.stops hb
    · exact Or.inl hS
    · exact Or.inr (Or.inl hs)
    · exact Or.inr (Or.inr ⟨hp, hd.imp hdep fun hu => ⟨fun ht => hu.1 (hbefore hb ht), hu.2⟩⟩)
  · exact (h.marks hb (hbefore hb ht)).imp_right (Or.imp_right hdep)
  · exact (h.resumption hb).imp_right (Or.imp_right (And.imp_left hdep))
  · obtain ⟨hm, hs, hst, hr⟩ := h.born h1 h2
    exact ⟨hm, hs, hst, hr.imp_right (Or.imp_right hdep)⟩
  · obtain rfl | ht' := hset b ht
    · exact Or.inr ⟨hid, hlt, (hf rfl).imp_right (Or.imp_right hdep)⟩
    · exact (h.tracked ht').imp_right fun ⟨h1, h2, h3⟩ => ⟨h1, h2, h3.imp_right (Or.imp_right hdep)⟩
  · obtain rfl | hi' := hset i hi
    · exact hlt
    · exact h.sound hw i hi'

/-- `m_tracees[pid] = tracee` for a new object -/
theorem Aside.assign {pid : ProcessID} (h : Aside S C b w w') (hw : w.Sound)
    (hid : w.nextObj ≤ id) (hlt : id < w'.nextObj)
    (hf : id = b → S ∨ (w'.objs b).Fresh ∨ Departed w'.log b) :
    Aside S C b w (assignTracee env pid id w').2 := by
  unfold assignTracee
  obtain ⟨old, w1, hx, htr, hn, ho, hlog⟩ : ∃ old w1, extractTracee pid w' = (.ok old, w1) ∧
      Aside S C b w' w1 ∧ w1.nextObj = w'.nextObj ∧ w1.objs = w'.objs ∧
      (Departed w'.log b → Departed w1.log b) := by
    have ha : Aside S C b w' (extractTracee pid w').2 :=
      besides_extractTracee pid w' (h.sound hw)
    cases hj : (w'.tracees.find? pid).join with
    | none =>
      rw [run_extractTracee_none hj] at ha ⊢
      exact ⟨_, _, rfl, ha, rfl, rfl, ha.departed⟩
    | some old =>
      rw [run_extractTracee_some (Option.join_eq_some_iff.mp hj)] at ha ⊢
      exact ⟨_, _, rfl, ha, rfl, rfl, ha.departed⟩
  rw [run_bind_ok hx]
  have hput : Aside S C b w (putTracee pid id w1).2 := by
    refine Aside.put (h.trans htr) hid (hn ▸ hlt) fun hb => ?_
    rw [ho]
    exact (hf hb).imp_right (Or.imp_right hlog)
  have hrun : putTracee pid id w1 = (.ok (), (putTracee pid id w1).2) := rfl
  rw [run_bind_ok hrun]
  cases old with
  | none => exact hput
  | some old => exact hput.trans (besides_destroy old _ (hput.sound hw))

end

end Clues
