import Clues.Engine.Run
import Clues.Tracee.Letting
import Mathlib.Logic.Relation

/-!
# What handling an event can do

Every function of the tracer works for one tracee `a`, whose event is handled, and changes the
world by a chain of effects (`Effs`).  Each kind of effect is listed once (`Eff`), with what is
known when it happens; what a run preserves is then shown for each kind of effect.

* `Excused`     the client let go of the tracee, or its task goes on in another object;
* `Base`        entries of `m_tracees` refer to different existing objects;
* `Label`       effects that only some functions have on `a` itself;
* `Course`      a chain of effects that happen before the consumer is called, and one of effects
                that happen from then on.
-/

namespace Clues

open Lib Lib.Exec Step

variable {SC : Type}

/-! ## the log -/

def registerStep (pid : ProcessID) (r : Bool) : Entry → Bool
  | .tracked pid' _ => r || pid' == pid
  | .untracked pid' _ => r && pid' != pid
  | .rekeyed old new => (r && old != pid) || new == pid
  | _ => r

/-- the PID has an entry in `m_tracees` -/
def Log.registered (log : Log) (pid : ProcessID) : Bool := log.foldl (registerStep pid) false

theorem Log.registered_append (log es : Log) (pid : ProcessID) :
    Log.registered (log ++ es) pid = es.foldl (registerStep pid) (Log.registered log pid) := by
  unfold Log.registered
  rw [List.foldl_append]

def Excused (log : Log) (id : TraceeId) : Prop :=
  .letGo id ∈ log ∨ ∃ it former, .execed it former (some id) ∈ log

theorem Excused.append {log : Log} {id : TraceeId} (h : Excused log id) (es : Log) :
    Excused (log ++ es) id := by
  obtain h | ⟨it, former, h⟩ := h
  · exact Or.inl (List.mem_append_left _ h)
  · exact Or.inr ⟨it, former, List.mem_append_left _ h⟩

/-- `PTRACE_SEIZE` fails for a registered PID: it is traced already -/
def NoReattach (env : Env) : Prop :=
  ∀ log pid followChildren, Log.registered log pid = true →
    env.request log (.seize pid followChildren) ≠ none

/-- an entry that does not concern the keys of `m_tracees` -/
def Entry.isKeyEntry : Entry → Bool
  | .tracked _ _ | .untracked _ _ | .rekeyed _ _ => true
  | _ => false

theorem registerStep_of_not_key {e : Entry} (h : e.isKeyEntry = false) (pid : ProcessID) (r : Bool) :
    registerStep pid r e = r := by
  cases e with
  | tracked | untracked | rekeyed => cases h
  | _ => rfl

theorem Log.registered_of_not_key {log es : Log} (h : ∀ e ∈ es, e.isKeyEntry = false)
    (pid : ProcessID) : Log.registered (log ++ es) pid = Log.registered log pid := by
  rw [Log.registered_append]
  generalize Log.registered log pid = r
  induction es generalizing r with
  | nil => rfl
  | cons e es ih =>
    rw [List.foldl_cons, registerStep_of_not_key (h e List.mem_cons_self)]
    exact ih (fun e he => h e (List.mem_cons_of_mem _ he)) r

/-! ## tracees and the base invariant -/

/-- the data of a tracee that decides whether and how its end is handled -/
def Tracee.vital (t : Tracee) : Bool × Bool × Bool × ProcessID :=
  (t.ended, t.flags.detachAtNextStop, t.flags.waitForExited, t.ptrace)

/-- all data of a tracee but for who attached to it -/
def Tracee.core (t : Tracee) : Tracee := { t with initialAttacher := none }

/-- a new tracee whose initial ptrace stop was not handled yet -/
def Tracee.young (t : Tracee) : Bool := t.state = .unknown && t.flags.waitForAttachStop

/-- the data of a tracee that is settled when it is put into `m_tracees` -/
def Tracee.birth (t : Tracee) : ProcessID × Bool × Bool × Bool :=
  (t.ptrace, t.ended, t.flags.syscallEntered, t.flags.waitForExited)

def World.Tracked (w : World SC) (id : TraceeId) : Prop :=
  ∃ key, w.tracees.find? key = some (some id)

/-- the object of the system call was made for the number -/
def World.Requested (w : World SC) (c : CallId) (nr : SystemCallNr) : Prop :=
  c < w.nextCall ∧ (w.calls c).map CallObj.requested = some nr

structure Base (w : World SC) : Prop where
  fresh : ∀ {key id}, w.tracees.find? key = some (some id) → id < w.nextObj
  inj : ∀ {key key' id}, w.tracees.find? key = some (some id) →
    w.tracees.find? key' = some (some id) → key = key'
  registered : ∀ {key id}, w.tracees.find? key = some (some id) → w.log.registered key = true
  unseen : ∀ {id}, .detached id ∈ w.log → id < w.nextObj

/-! ## effects -/

/-- effects that only some functions have, most of them on the tracee they work for -/
inductive Label where
  /-- its event is delivered -/
  | deliver
  /-- it takes over the PID -/
  | exec (pid : ProcessID)
  /-- it goes on after it was detached from -/
  | revive
  /-- its task is gone -/
  | die
  /-- the kernel is asked about it -/
  | ask
  /-- it enters or leaves a system call -/
  | flag
  /-- `m_current_syscall` changes -/
  | call
  /-- its PID may be no key of `m_tracees` -/
  | orphan
  /-- a tracee is put into `m_tracees` -/
  | add
  /-- a tracee may be replaced in `m_tracees`, if the kernel lets the tracer attach twice -/
  | attach
  /-- its end is reported -/
  | report
  /-- it is detached from, or it is dead, or the consumer is called -/
  | ending
  /-- it is taken out of `m_tracees` -/
  | drop
  /-- `m_newly_attached_pid` is set -/
  | announce
  deriving DecidableEq

/-- effects before the consumer is called -/
def Label.isEarly : Label → Bool
  | .deliver | .exec _ | .revive | .die | .ask | .flag | .call | .orphan | .add => true
  | _ => false

/-- effects from the first call of the consumer on -/
def Label.isLate : Label → Bool
  | .call | .add | .attach | .report | .ending | .drop | .announce => true
  | _ => false

abbrev Labels := Label → Prop

def Labels.early (L : Labels) : Labels := fun l => L l ∧ l.isEarly = true

def Labels.late (L : Labels) : Labels := fun l => L l ∧ l.isLate = true

/-- the callback is the report of an end -/
def Callback.isReport : Callback → Bool
  | .exited .. | .disappeared .. => true
  | _ => false

/-- the log entries a function may write for the tracee `a`, but for requests about `a` -/
def Says (a : TraceeId) (L : Labels) : Entry → Prop
  | .deliver id _ => id = a ∧ L .deliver
  | .execed id _ _ => id = a ∧ ∃ pid, L (.exec pid)
  | .syscallEntered id _ | .syscallExited id => id = a ∧ L .flag
  | .request _ r _ => r.isPtrace = false
  | .letGo _ | .returned => L .ending
  | .callback c => c.tracee = a ∧ L .ending ∧ (c.isReport = true → L .report)
  | _ => False

/-- when a function that works for `a` may detach from a tracee -/
structure MayEnd (a : TraceeId) (L : Labels) (w : World SC) (id : TraceeId) : Prop where
  lt : id < w.nextObj
  own : id = a → L .ending
  why : ¬ w.Tracked id ∨ Excused w.log id ∨ (w.objs id).ended = true ∨ id = a

/-- the engine stays, but for system call objects -/
structure SameEngine (w w' : World SC) : Prop where
  tracees : w'.tracees = w.tracees
  unknownEvents : w'.unknownEvents = w.unknownEvents
  newlyAttachedPid : w'.newlyAttachedPid = w.newlyAttachedPid
  log : w'.log = w.log
  nextCall : w.nextCall ≤ w'.nextCall
  calls : ∀ c, c < w.nextCall →
    (w'.calls c).map CallObj.requested = (w.calls c).map CallObj.requested

/-- only data of `a` changes that does not decide about its end -/
structure Tweak (a : TraceeId) (L : Labels) (w w' : World SC) : Prop
    extends SameEngine w w' where
  nextObj : w'.nextObj = w.nextObj
  others : ∀ id, id ≠ a → (w'.objs id).core = (w.objs id).core
  vital : (w'.objs a).vital = (w.objs a).vital
  flag : L .flag ∨ (w'.objs a).flags.syscallEntered = (w.objs a).flags.syscallEntered
  current : L .call ∨ (w'.objs a).currentSyscall = (w.objs a).currentSyscall
  db : ∀ nr c, (w'.objs a).syscallDb nr = some c →
    w'.Requested c nr ∨ ∃ id, (w.objs id).syscallDb nr = some c

/-- no ptrace request, and no detaching -/
def Entry.isSilent : Entry → Bool
  | .request _ r _ => !r.isPtrace
  | .destroyed _ => true
  | _ => false

def Silent (w w' : World SC) : Prop :=
  ∃ es, w'.log = w.log ++ es ∧ ∀ e ∈ es, e.isSilent = true

/-- a tracee in `m_tracees` stays young, or detached from -/
structure StaysPut (a : TraceeId) (w w' : World SC) (id : TraceeId) : Prop where
  young : id ≠ a → (w.objs id).young = true → (w'.objs id).young = true
  calm : (w.objs id).Calm → (w'.objs id).state = (w.objs id).state

/-- the kinds of changes; processes and system call objects may always change -/
inductive Eff (env : Env) (a : TraceeId) (L : Labels) : World SC → World SC → Prop
  | tweak {w w' : World SC} : Tweak a L w w' → Eff env a L w w'
  | say {w : World SC} {e : Entry} : Says a L e → Eff env a L w (w.say e)
  | ask {w : World SC} (r : Request) (error : Option Errno) :
      L .ask ∨ (w.objs a).ended = false → Eff env a L w (w.say (.request a r error))
  | lets {w w' : World SC} {id : TraceeId} : MayEnd a L w id → Lets env True id w w' →
      (w.Tracked id → StaysPut a w w' id) → Eff env a L w w'
  /-- detaching from a tracee that is dead -/
  | release {w w' : World SC} {id : TraceeId} : MayEnd a L w id → Lets env False id w w' →
      w.Tracked id → (w.objs id).state = .dead → Eff env a L w w'
  | revive {w : World SC} {s : State} : L .revive → (w.objs a).ended = true →
      s.isEnded = false → Eff env a L w (w.setObj a ((w.objs a).moveTo s))
  | die {w w' : World SC} : L .die → Lets env True a w w' → a < w.nextObj → Eff env a L w w'
  | report {w : World SC} : L .report → Eff env a L w
      (w.setObj a { w.objs a with flags := { (w.objs a).flags with waitForExited := true } })
  | setPID {w : World SC} (pid : ProcessID) : L (.exec pid) → Eff env a L w
      (w.setObj a { w.objs a with ptrace := pid })
  /-- a new object -/
  | alloc {w w' : World SC} : SameEngine w w' → w'.nextObj = w.nextObj + 1 →
      (∀ id, id ≠ w.nextObj → w'.objs id = w.objs id) →
      (∀ nr, (w'.objs w.nextObj).syscallDb nr = none) → Eff env a L w w'
  /-- changes of an object that is not in `m_tracees` yet -/
  | prepare {w w' : World SC} {id : TraceeId} : ¬ w.Tracked id → id < w.nextObj →
      (w.objs id).ended = false → OnObj id w w' → Silent w w' → Eff env a L w w'
  | remove {w : World SC} {key : ProcessID} {id : TraceeId} :
      w.tracees.find? key = some (some id) →
      (MayEnd a L w id ∧ (id = a → L .drop)) ∨ (L .attach ∧ ¬ NoReattach env) →
      Eff env a L w (({ w with tracees := w.tracees.erase key } : World SC).say (.untracked key id))
  | removeNull {w : World SC} {key : ProcessID} : (w.tracees.find? key).join = none →
      Eff env a L w { w with tracees := w.tracees.erase key }
  | add {w : World SC} {key : ProcessID} {id : TraceeId} : L .add → w.tracees.find? key = none →
      id < w.nextObj → ¬ w.Tracked id → (w.objs id).birth = (key, false, false, false) →
      Eff env a L w
        (({ w with tracees := w.tracees.set key (some id) } : World SC).say (.tracked key id))
  /-- `m_tracees[parent.pid()]` -/
  | addNull {w : World SC} : L .orphan → w.tracees.find? (w.objs a).ptrace = none →
      Eff env a L w { w with tracees := w.tracees.insert (w.objs a).ptrace none }
  | newly {w : World SC} (pid : ProcessID) : L .announce →
      Eff env a L w { w with newlyAttachedPid := pid }

/-- chains of effects -/
abbrev Effs (env : Env) (a : TraceeId) (L : Labels) : World SC → World SC → Prop :=
  Relation.ReflTransGen (Eff env a L)

/-- effects before the consumer is called, then effects from then on -/
def Course (env : Env) (a : TraceeId) (L : Labels) (w w' : World SC) : Prop :=
  ∃ v, Effs env a L.early w v ∧ Effs env a L.late v w'

/-! ## effects and the base invariant -/

section
variable {env : Env} {a : TraceeId} {L : Labels} {w w' : World SC}

theorem OnObj.log_grows {id : TraceeId} (h : OnObj id w w') : w.log <+: w'.log := by
  obtain ⟨es, he, -⟩ := h.log
  exact he ▸ List.prefix_append _ _

/-- the log only grows -/
theorem Eff.log_grows (h : Eff env a L w w') : w.log <+: w'.log := by
  cases h with
  | tweak h => exact h.log ▸ List.prefix_refl _
  | alloc h _ _ _ => exact h.log ▸ List.prefix_refl _
  | lets _ h _ => exact h.log_grows
  | release _ h _ _ => exact h.log_grows
  | die _ h _ => exact h.log_grows
  | prepare _ _ _ h _ => exact h.log_grows
  | say | ask | remove | add => exact List.prefix_append _ _
  | _ => exact List.prefix_refl _

theorem Effs.log_grows (h : Effs env a L w w') : w.log <+: w'.log := by
  induction h with
  | refl => exact List.prefix_refl _
  | tail _ h ih => exact ih.trans h.log_grows

theorem Course.log_grows (h : Course env a L w w') : w.log <+: w'.log := by
  obtain ⟨v, h1, h2⟩ := h
  exact h1.log_grows.trans h2.log_grows

theorem Says.not_key {e : Entry} (h : Says a L e) : e.isKeyEntry = false := by
  cases e with
  | tracked | untracked | rekeyed => cases h
  | _ => rfl

theorem Entry.IsLetting.not_key {id : TraceeId} {e : Entry} (h : e.IsLetting id) :
    e.isKeyEntry = false := by
  cases e with
  | tracked | untracked | rekeyed => cases h
  | _ => rfl

/-- `Base` only depends on the map, the number of objects and some entries of the log -/
theorem Base.of_same (hB : Base w) (ht : w'.tracees = w.tracees) (hn : w.nextObj ≤ w'.nextObj)
    (hl : ∃ es, w'.log = w.log ++ es ∧ ∀ e ∈ es, e.isKeyEntry = false ∧
      ∀ id, e = .detached id → id < w.nextObj) : Base w' := by
  obtain ⟨es, hl, hes⟩ := hl
  refine ⟨fun {key id} h => ?_, fun {key key' id} h h' => ?_, fun {key id} h => ?_,
    fun {id} h => ?_⟩
  · rw [ht] at h; exact lt_of_lt_of_le (hB.fresh h) hn
  · rw [ht] at h h'; exact hB.inj h h'
  · rw [ht] at h; rw [hl, Log.registered_of_not_key fun e he => (hes e he).1]; exact hB.registered h
  · rw [hl] at h
    rcases List.mem_append.mp h with h | h
    · exact lt_of_lt_of_le (hB.unseen h) hn
    · exact lt_of_lt_of_le ((hes _ h).2 id rfl) hn

theorem Base.say (hB : Base w) {e : Entry} (h : e.isKeyEntry = false)
    (hd : ∀ id, e ≠ .detached id) : Base (w.say e) := by
  refine hB.of_same rfl le_rfl ⟨[e], rfl, fun e' he' => ?_⟩
  rw [List.mem_singleton.mp he']
  exact ⟨h, fun id hid => absurd hid (hd id)⟩

theorem Base.of_onObj {id : TraceeId} (hB : Base w) (hlt : id < w.nextObj) (h : OnObj id w w') :
    Base w' := by
  obtain ⟨es, he, hes⟩ := h.log
  refine hB.of_same h.tracees (le_of_eq h.nextObj.symm)
    ⟨es, he, fun e hm => ⟨(hes e hm).not_key, fun id' hid => ?_⟩⟩
  have hl := hes e hm
  rw [hid] at hl
  exact (show id' = id from hl) ▸ hlt

theorem Base.silent (hB : Base w) (ht : w'.tracees = w.tracees) (hn : w.nextObj ≤ w'.nextObj)
    (hl : w'.log = w.log) : Base w' :=
  hB.of_same ht hn ⟨[], by rw [hl, List.append_nil], by simp⟩

theorem Eff.base (h : Eff env a L w w') (hB : Base w) : Base w' := by
  cases h with
  | tweak h => exact hB.silent h.tracees (le_of_eq h.nextObj.symm) h.log
  | alloc h hn _ _ => exact hB.silent h.tracees (hn ▸ Nat.le_succ _) h.log
  | @say e h => exact hB.say h.not_key fun id he => by subst he; exact h
  | ask => exact hB.say rfl fun id => nofun
  | lets hm h _ => exact hB.of_onObj hm.lt h.toOnObj
  | release hm h _ _ => exact hB.of_onObj hm.lt h.toOnObj
  | die _ h hlt => exact hB.of_onObj hlt h.toOnObj
  | prepare _ hlt _ h _ => exact hB.of_onObj hlt h
  | revive | report | setPID | newly => exact hB.silent rfl le_rfl rfl
  | @remove key id hk _ =>
    have hne : ∀ {k i}, (w.tracees.erase key).find? k = some (some i) →
        k ≠ key ∧ w.tracees.find? k = some (some i) := by
      intro k i h
      rw [OrdMap.find?_erase] at h
      split_ifs at h with hkk
      exact ⟨hkk, h⟩
    refine ⟨fun h => hB.fresh (hne h).2, fun h h' => hB.inj (hne h).2 (hne h').2,
      fun {k i} h => ?_, fun {i} h => hB.unseen ?_⟩
    · obtain ⟨hkk, h⟩ := hne h
      show Log.registered (w.log ++ [.untracked key id]) k = true
      rw [Log.registered_append]
      show (Log.registered w.log k && key != k) = true
      rw [hB.registered h, Bool.true_and]
      exact bne_iff_ne.mpr (Ne.symm hkk)
    · rcases List.mem_append.mp h with h | h
      · exact h
      · cases List.mem_singleton.mp h
  | @removeNull key hk =>
    have hne : ∀ {k i}, (w.tracees.erase key).find? k = some (some i) →
        w.tracees.find? k = some (some i) := by
      intro k i h
      rw [OrdMap.find?_erase] at h
      split_ifs at h with hkk
      exact h
    exact ⟨fun h => hB.fresh (hne h), fun h h' => hB.inj (hne h) (hne h'),
      fun h => hB.registered (hne h), hB.unseen⟩
  | @add key id _ hk hlt hnt _ =>
    have hset : ∀ {k i}, (w.tracees.set key (some id)).find? k = some (some i) →
        k = key ∧ i = id ∨ k ≠ key ∧ w.tracees.find? k = some (some i) := by
      intro k i h
      rw [OrdMap.find?_set] at h
      split_ifs at h with hkk
      · exact Or.inl ⟨hkk, (Option.some.inj (Option.some.inj h)).symm⟩
      · exact Or.inr ⟨hkk, h⟩
    refine ⟨fun {k i} h => ?_, fun {k k' i} h h' => ?_, fun {k i} h => ?_, fun {i} h => ?_⟩
    · obtain ⟨-, rfl⟩ | ⟨-, h⟩ := hset h
      · exact hlt
      · exact hB.fresh h
    · obtain ⟨rfl, rfl⟩ | ⟨-, hk⟩ := hset h
      · obtain ⟨rfl, -⟩ | ⟨-, hk'⟩ := hset h'
        · rfl
        · exact absurd ⟨_, hk'⟩ hnt
      · obtain ⟨-, rfl⟩ | ⟨-, hk'⟩ := hset h'
        · exact absurd ⟨_, hk⟩ hnt
        · exact hB.inj hk hk'
    · show Log.registered (w.log ++ [.tracked key id]) k = true
      rw [Log.registered_append]
      show (Log.registered w.log k || key == k) = true
      obtain ⟨rfl, -⟩ | ⟨-, h⟩ := hset h
      · simp
      · rw [hB.registered h, Bool.true_or]
    · rcases List.mem_append.mp h with h | h
      · exact hB.unseen h
      · cases List.mem_singleton.mp h
  | addNull _ hk =>
    have hins : ∀ {k i}, (w.tracees.insert (w.objs a).ptrace none).find? k = some (some i) →
        w.tracees.find? k = some (some i) := by
      intro k i h
      rw [OrdMap.find?_insert, hk] at h
      split_ifs at h with hkk
      · cases h
      · exact h
    exact ⟨fun h => hB.fresh (hins h), fun h h' => hB.inj (hins h) (hins h'),
      fun h => hB.registered (hins h), hB.unseen⟩

theorem Effs.base (h : Effs env a L w w') (hB : Base w) : Base w' := by
  induction h with
  | refl => exact hB
  | tail _ h ih => exact h.base ih

theorem Course.base (h : Course env a L w w') (hB : Base w) : Base w' := by
  obtain ⟨v, h1, h2⟩ := h
  exact h2.base (h1.base hB)

theorem Effs.walk (env : Env) (a : TraceeId) (L : Labels) :
    Walk (Base : World SC → Prop) (Effs env a L) where
  refl _ := Relation.ReflTransGen.refl
  trans h h' := Relation.ReflTransGen.trans h h'
  keeps hB h := h.base hB

theorem Says.mono {L' : Labels} (hL : ∀ l, L l → L' l) {e : Entry} (h : Says a L e) :
    Says a L' e := by
  cases e with
  | deliver => exact ⟨h.1, hL _ h.2⟩
  | execed =>
    obtain ⟨ha, pid, hp⟩ := h
    exact ⟨ha, pid, hL _ hp⟩
  | syscallEntered | syscallExited => exact ⟨h.1, hL _ h.2⟩
  | letGo | returned => exact hL _ h
  | callback c => exact ⟨h.1, hL _ h.2.1, fun hc => hL _ (h.2.2 hc)⟩
  | _ => exact h

theorem MayEnd.mono {L' : Labels} (hL : ∀ l, L l → L' l) {id : TraceeId} (h : MayEnd a L w id) :
    MayEnd a L' w id := ⟨h.lt, fun ha => hL _ (h.own ha), h.why⟩

theorem Eff.mono {L' : Labels} (hL : ∀ l, L l → L' l) (h : Eff env a L w w') :
    Eff env a L' w w' := by
  cases h with
  | tweak h =>
    exact Eff.tweak ⟨h.toSameEngine, h.nextObj, h.others, h.vital, h.flag.imp_left (hL _),
      h.current.imp_left (hL _), h.db⟩
  | say h => exact Eff.say (h.mono hL)
  | ask r e h => exact Eff.ask r e (h.imp_left (hL _))
  | lets h1 h2 h3 => exact Eff.lets (h1.mono hL) h2 h3
  | release h1 h2 h3 h4 => exact Eff.release (h1.mono hL) h2 h3 h4
  | die h1 h2 h3 => exact Eff.die (hL _ h1) h2 h3
  | revive h1 h2 h3 => exact Eff.revive (hL _ h1) h2 h3
  | report h => exact Eff.report (hL _ h)
  | setPID pid h => exact Eff.setPID pid (hL _ h)
  | alloc h1 h2 h3 h4 => exact Eff.alloc h1 h2 h3 h4
  | prepare h1 h2 h3 h4 h5 => exact Eff.prepare h1 h2 h3 h4 h5
  | remove h1 h2 =>
    refine Eff.remove h1 (h2.imp (fun h => ⟨h.1.mono hL, fun ha => hL _ (h.2 ha)⟩) fun h => ?_)
    exact ⟨hL _ h.1, h.2⟩
  | removeNull h => exact Eff.removeNull h
  | add h1 h2 h3 h4 h5 => exact Eff.add (hL _ h1) h2 h3 h4 h5
  | addNull h1 h2 => exact Eff.addNull (hL _ h1) h2
  | newly pid h => exact Eff.newly pid (hL _ h)

theorem Effs.mono {L' : Labels} (hL : ∀ l, L l → L' l) (h : Effs env a L w w') :
    Effs env a L' w w' := by
  induction h with
  | refl => exact Relation.ReflTransGen.refl
  | tail _ h ih => exact ih.tail (h.mono hL)

theorem Course.effs (h : Course env a L w w') : Effs env a L w w' := by
  obtain ⟨v, h1, h2⟩ := h
  exact (h1.mono fun l hl => hl.1).trans (h2.mono fun l hl => hl.1)

/-! ## what only some effects change -/

/-- stored events are only touched by the loop of the engine -/
theorem Eff.unknownEvents (h : Eff env a L w w') : w'.unknownEvents = w.unknownEvents := by
  cases h with
  | tweak h => exact h.unknownEvents
  | lets _ h _ => exact h.unknownEvents
  | release _ h _ _ => exact h.unknownEvents
  | die _ h _ => exact h.unknownEvents
  | alloc h _ _ _ => exact h.unknownEvents
  | prepare _ _ _ h _ => exact h.unknownEvents
  | _ => rfl

theorem Effs.unknownEvents (h : Effs env a L w w') : w'.unknownEvents = w.unknownEvents := by
  induction h with
  | refl => rfl
  | tail _ h ih => exact h.unknownEvents.trans ih

theorem Eff.nextObj_le (h : Eff env a L w w') : w.nextObj ≤ w'.nextObj := by
  cases h with
  | tweak h => exact h.nextObj.ge
  | lets _ h _ => exact h.nextObj.ge
  | release _ h _ _ => exact h.nextObj.ge
  | die _ h _ => exact h.nextObj.ge
  | alloc _ hn _ _ => exact hn ▸ Nat.le_succ _
  | prepare _ _ _ h _ => exact h.nextObj.ge
  | _ => exact le_rfl

theorem Effs.nextObj_le (h : Effs env a L w w') : w.nextObj ≤ w'.nextObj := by
  induction h with
  | refl => exact le_rfl
  | tail _ h ih => exact ih.trans h.nextObj_le

/-- without the label `announce`, no stored event is asked for -/
theorem Eff.newlyAttachedPid (hL : ¬ L .announce) (h : Eff env a L w w') :
    w'.newlyAttachedPid = w.newlyAttachedPid := by
  cases h with
  | tweak h => exact h.newlyAttachedPid
  | lets _ h _ => exact h.newlyAttachedPid
  | release _ h _ _ => exact h.newlyAttachedPid
  | die _ h _ => exact h.newlyAttachedPid
  | alloc h _ _ _ => exact h.newlyAttachedPid
  | prepare _ _ _ h _ => exact h.newlyAttachedPid
  | newly _ h => exact absurd h hL
  | _ => rfl

theorem Effs.newlyAttachedPid (hL : ¬ L .announce) (h : Effs env a L w w') :
    w'.newlyAttachedPid = w.newlyAttachedPid := by
  induction h with
  | refl => rfl
  | tail _ h ih => exact (h.newlyAttachedPid hL).trans ih

/-- the effect on the entry of one key -/
theorem Eff.find_at (h : Eff env a L w w') (key : ProcessID) :
    w'.tracees.find? key = w.tracees.find? key ∨
    (w'.tracees.find? key = none ∧ ∀ id, w.tracees.find? key = some (some id) →
      (MayEnd a L w id ∧ (id = a → L .drop)) ∨ (L .attach ∧ ¬ NoReattach env)) ∨
    (w.tracees.find? key = none ∧ L .add ∧ ∃ id, w'.tracees.find? key = some (some id) ∧
      id < w.nextObj ∧ ¬ w.Tracked id ∧ (w.objs id).birth = (key, false, false, false) ∧
      w'.objs = w.objs) ∨
    (w.tracees.find? key = none ∧ L .orphan ∧ key = (w.objs a).ptrace ∧
      w'.tracees.find? key = some none) := by
  have hsame : w'.tracees = w.tracees → w'.tracees.find? key = w.tracees.find? key :=
    fun h => by rw [h]
  cases h with
  | tweak h => exact Or.inl (hsame h.tracees)
  | lets _ h _ => exact Or.inl (hsame h.tracees)
  | release _ h _ _ => exact Or.inl (hsame h.tracees)
  | die _ h _ => exact Or.inl (hsame h.tracees)
  | alloc h _ _ _ => exact Or.inl (hsame h.tracees)
  | prepare _ _ _ h _ => exact Or.inl (hsame h.tracees)
  | say | ask | revive | report | setPID | newly => exact Or.inl rfl
  | @remove k id hk hm =>
    show (w.tracees.erase k).find? key = _ ∨ ((w.tracees.erase k).find? key = none ∧ _) ∨ _
    rw [OrdMap.find?_erase]
    by_cases hkk : key = k
    · rw [if_pos hkk]
      refine Or.inr (Or.inl ⟨rfl, fun i hi => ?_⟩)
      rw [hkk, hk] at hi
      obtain rfl : id = i := Option.some.inj (Option.some.inj hi)
      exact hm
    · rw [if_neg hkk]
      exact Or.inl rfl
  | @removeNull k hk =>
    show (w.tracees.erase k).find? key = _ ∨ ((w.tracees.erase k).find? key = none ∧ _) ∨ _
    rw [OrdMap.find?_erase]
    by_cases hkk : key = k
    · rw [if_pos hkk]
      refine Or.inr (Or.inl ⟨rfl, fun i hi => ?_⟩)
      rw [← hkk, hi] at hk
      cases hk
    · rw [if_neg hkk]
      exact Or.inl rfl
  | @add k id hL hk hlt hnt hb =>
    show (w.tracees.set k (some id)).find? key = _ ∨ _ ∨ (_ ∧ _ ∧ ∃ i,
      (w.tracees.set k (some id)).find? key = _ ∧ _) ∨ _
    rw [OrdMap.find?_set]
    by_cases hkk : key = k
    · rw [if_pos hkk]
      subst hkk
      exact Or.inr (Or.inr (Or.inl ⟨hk, hL, id, rfl, hlt, hnt, hb, rfl⟩))
    · rw [if_neg hkk]
      exact Or.inl rfl
  | addNull hL hk =>
    show (w.tracees.insert (w.objs a).ptrace none).find? key = _ ∨ _ ∨ _ ∨
      (_ ∧ _ ∧ _ ∧ (w.tracees.insert (w.objs a).ptrace none).find? key = _)
    rw [OrdMap.find?_insert]
    by_cases hkk : key = (w.objs a).ptrace
    · rw [if_pos hkk]
      subst hkk
      exact Or.inr (Or.inr (Or.inr ⟨hk, hL, rfl, by rw [hk]; rfl⟩))
    · rw [if_neg hkk]
      exact Or.inl rfl

/-- without the label `add`, nothing gets into `m_tracees` -/
theorem Eff.untracked (hL : ¬ L .add) (h : Eff env a L w w') {id : TraceeId}
    (hid : ¬ w.Tracked id) : ¬ w'.Tracked id := by
  rintro ⟨k, hk⟩
  obtain hf | ⟨hf, -⟩ | ⟨-, ha, -⟩ | ⟨-, -, -, hf⟩ := h.find_at k
  · exact hid ⟨k, hf ▸ hk⟩
  · rw [hf] at hk; cases hk
  · exact hL ha
  · rw [hf] at hk; cases hk

theorem Effs.untracked (hL : ¬ L .add) (h : Effs env a L w w') {id : TraceeId}
    (hid : ¬ w.Tracked id) : ¬ w'.Tracked id := by
  induction h with
  | refl => exact hid
  | tail _ h ih => exact h.untracked hL ih

/-- without the label `drop`, the tracee stays in `m_tracees` -/
theorem Eff.contained (hL : ¬ L .drop) (hN : L .attach → NoReattach env) (h : Eff env a L w w')
    {key : ProcessID} (hk : w.tracees.find? key = some (some a)) :
    w'.tracees.find? key = some (some a) := by
  obtain hf | ⟨-, hm⟩ | ⟨hf, -⟩ | ⟨hf, -⟩ := h.find_at key
  · rw [hf, hk]
  · obtain ⟨-, hd⟩ | ⟨ha, hn⟩ := hm a hk
    · exact absurd (hd rfl) hL
    · exact absurd (hN ha) hn
  · rw [hf] at hk; cases hk
  · rw [hf] at hk; cases hk

theorem Effs.contained (hL : ¬ L .drop) (hN : L .attach → NoReattach env)
    (h : Effs env a L w w') {key : ProcessID} (hk : w.tracees.find? key = some (some a)) :
    w'.tracees.find? key = some (some a) := by
  induction h with
  | refl => exact hk
  | tail _ h ih => exact h.contained hL hN ih

theorem not_early_drop : ¬ L.early .drop := fun h => nomatch h.2
theorem not_early_attach : ¬ L.early .attach := fun h => nomatch h.2
theorem not_early_ending : ¬ L.early .ending := fun h => nomatch h.2

/-- the tracee is not taken out of `m_tracees` before the consumer is called -/
theorem Effs.contained_early (h : Effs env a L.early w w') {key : ProcessID}
    (hk : w.tracees.find? key = some (some a)) : w'.tracees.find? key = some (some a) :=
  h.contained not_early_drop (fun h => absurd h not_early_attach) hk

end

end Clues
