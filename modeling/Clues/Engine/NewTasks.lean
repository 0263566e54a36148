import Clues.Engine.Identity
import Clues.Engine.Passing
import Clues.Engine.Resumes
import Clues.Syscalls.Clone

/-!
# New tasks

What a new task shares with its parent is up to the flags of the system call that created it.

* `TaskCall`        the system call, as the tracee entered it, and the flags that the kernel reads;
* `InTaskCall`      the tracee is in this call;
* `FollowsFlags`    the new tracee shares the process data as the flags say, and the consumer is told
                    of it in the way they say;
* `followsFlags_iff`   this is so exactly if the tracer could decode the flags.
-/

set_option linter.unusedSectionVars false

namespace Clues

open Lib Lib.Exec Step

/-! ## the system calls -/

/-- a system call that creates a task: its number and registers, and the memory at its entry -/
structure TaskCall where
  nr : SystemCallNr
  args : Fin 6 → Word
  mem : Mem

namespace TaskCall

def size (c : TaskCall) : Nat := (c.args 1).toNat

/-- the flags as the kernel reads them -/
def flags (c : TaskCall) : CloneFlags :=
  match c.nr with
  | .clone => c.args 0
  | .clone3 => (c.mem (c.args 0)).toOption.getD 0
  | _ => 0

/-- the kernel knows the structure of `clone3()` from 64 bytes on, and reads at most its own -/
structure Accepted (c : TaskCall) : Prop where
  creates : c.nr = .clone ∨ c.nr = .clone3 ∨ c.nr = .fork ∨ c.nr = .vfork
  size : c.nr = .clone3 → 64 ≤ c.size
  readable : c.nr = .clone3 → ∀ i : Nat, i < CloneArgs.words → 8 * (i + 1) ≤ c.size →
    ∃ w, c.mem (c.args 0 + 8 * UInt64.ofNat i) = .ok w

/-- the structure has the size that the tracer knows -/
def Decodable (c : TaskCall) : Prop :=
  c.nr = .clone3 → CloneArgs.size ≤ c.size ∧ c.args 0 ≠ 0

end TaskCall

/-- the class of the object that is made for the number -/
def TaskItems.For {I : Type} : TaskItems I → SystemCallNr → Prop
  | .clone _, nr => nr = .clone
  | .clone3 _, nr => nr = .clone3
  | .other _, nr => nr ≠ .clone ∧ nr ≠ .clone3

variable {I : Type} [CallItems I] {env : Env} {w : World (SystemCall (TaskItems I))}
  {id : TraceeId}

/-- the tracee is in the system call, whose object was filled at the entry -/
def InTaskCall (w : World (SystemCall (TaskItems I))) (id : TraceeId) (c : TaskCall) : Prop :=
  ∃ call, w.currentCall id = some call ∧ ∃ (de : DecodeEnv) (abi : ABI) (e : EntryInfo)
    (items : TaskItems I), de.mem = c.mem ∧ e.args = c.args ∧ items.For c.nr ∧
      call.obj.items = (CallItems.fill de abi e items).2

/-- the log goes on with the report of a new child, which is flagged as a thread iff `CLONE_THREAD`
is set, and the tracee of the child refers to the process data of its parent iff `CLONE_FILES` is -/
structure FollowsFlags (c : TaskCall) (id : TraceeId) (data : ChildState) (event : PtraceEvent)
    (pid : ProcessID) (w w' : World (SystemCall (TaskItems I))) : Prop where
  told : ∃ flags : StatusFlags, (flags.clonedThread = true ↔ c.flags.has CloneFlags.thread = true) ∧
    w.log ++ [.deliver id data, .request id (.getPIDEventMsg (w.objs id).ptrace) none,
      .tracked pid w.nextObj, .callback (.newChildProcess id w.nextObj event flags)] <+: w'.log
  shares : (w'.objs w.nextObj).processData = (w'.objs id).processData ↔
    c.flags.has CloneFlags.shareFiles = true

/-! ## decoding -/

/-- the exit signal in the low byte is none of the flags -/
theorem has_processData (w : Word) {bit : UInt64} (hb : ~~~0xFF &&& bit = bit) :
    (CloneFlagsValue.processData w).flags.has bit = CloneFlags.has w bit := by
  show CloneFlags.has (w &&& ~~~0xFF) bit = _
  unfold CloneFlags.has
  rw [UInt64.and_assoc, hb]

theorem readWords_ok {mem : Mem} {addr : UInt64} {n : Nat}
    (h : ∀ i : Nat, i < n → ∃ w, mem (addr + 8 * UInt64.ofNat i) = .ok w) :
    ∃ ws, readWords mem addr n = (ws, none) ∧ ws.length = n ∧
      (0 < n → mem addr = .ok (ws.getD 0 0)) := by
  induction n generalizing addr with
  | zero => exact ⟨[], rfl, rfl, fun h => absurd h (Nat.lt_irrefl 0)⟩
  | succ n ih =>
    obtain ⟨w, hw⟩ := h 0 (Nat.succ_pos n)
    have h0 : mem addr = .ok w := by simpa using hw
    have hrest : ∀ i : Nat, i < n → ∃ w, mem (addr + 8 + 8 * UInt64.ofNat i) = .ok w := by
      intro i hi
      have hnext : addr + 8 + 8 * UInt64.ofNat i = addr + 8 * UInt64.ofNat (i + 1) := by
        rw [UInt64.ofNat_add]
        grind
      rw [hnext]
      exact h (i + 1) (Nat.succ_lt_succ hi)
    obtain ⟨ws, hws, hlen, -⟩ := ih hrest
    refine ⟨w :: ws, ?_, congrArg (· + 1) hlen, fun _ => h0⟩
    rw [readWords, h0]
    simp only [hws]

/-- the structure is decoded, and its first word is what the kernel takes the flags from -/
theorem processData_accepted {c : TaskCall} (hacc : c.Accepted) (hnr : c.nr = .clone3)
    (hsize : CloneArgs.size ≤ c.size) (hptr : c.args 0 ≠ 0) {de : DecodeEnv}
    (hmem : de.mem = c.mem) :
    ∃ args, (CloneArgsItem.processData de (c.args 0) (c.args 1)).2.args = some args ∧
      args.flags = c.flags := by
  have hread : ∀ i : Nat, i < CloneArgs.words →
      ∃ w, de.mem (c.args 0 + 8 * UInt64.ofNat i) = .ok w := by
    intro i hi
    rw [hmem]
    apply hacc.readable hnr i hi
    unfold CloneArgs.words at hi
    unfold CloneArgs.size at hsize
    omega
  obtain ⟨ws, hws, -, hfirst⟩ := readWords_ok hread
  have hflags : c.flags = ws.getD 0 0 := by
    have h0 := hfirst (by decide)
    unfold TaskCall.flags
    rw [hnr]
    show (c.mem (c.args 0)).toOption.getD 0 = _
    rw [← hmem, h0]
    rfl
  have hsize' : ¬ (c.args 1).toNat < CloneArgs.size := not_lt.mpr hsize
  unfold CloneArgsItem.processData readStructIntoOptional
  rw [if_neg hsize', if_neg hptr, hws]
  refine ⟨CloneArgs.ofWords ws, ?_, hflags.symm⟩
  show (CloneArgsItem.finish de (CloneArgs.ofWords ws)).2.args = _
  unfold CloneArgsItem.finish
  dsimp only
  split <;> rfl

theorem clonedThread_clone3 (item : CloneArgsItem) :
    (TaskItems.clone3 item : TaskItems I).clonedThread
      = match item.args with
        | some args => .ok (args.flags.has CloneFlags.thread)
        | none => .error (.undefined .null) := rfl

theorem sharesFiles_entered {c : TaskCall} (hacc : c.Accepted) (hdec : c.Decodable)
    {de : DecodeEnv} (hmem : de.mem = c.mem) {abi : ABI} {e : EntryInfo} (hargs : e.args = c.args)
    {items : TaskItems I} (hfor : items.For c.nr) :
    (CallItems.fill de abi e items).2.sharesFiles = c.flags.has CloneFlags.shareFiles ∧
      (CallItems.fill de abi e items).2.clonedThread = .ok (c.flags.has CloneFlags.thread) := by
  cases items with
  | clone v =>
    have hflags : c.flags = e.args 0 := by
      unfold TaskCall.flags
      rw [show c.nr = .clone from hfor, hargs]
    rw [hflags]
    constructor
    · exact has_processData _ (by decide)
    · exact congrArg Except.ok (has_processData _ (by decide))
  | clone3 item =>
    have hnr : c.nr = .clone3 := hfor
    obtain ⟨args, hsome, hflags⟩ :=
      processData_accepted hacc hnr (hdec hnr).1 (hdec hnr).2 hmem
    rw [← hflags]
    constructor
    · show (CloneArgsItem.processData de (e.args 0) (e.args 1)).2.args.any _ = _
      rw [hargs, hsome]
      rfl
    · show TaskItems.clonedThread (.clone3 (CloneArgsItem.processData de (e.args 0) (e.args 1)).2
        : TaskItems I) = _
      rw [clonedThread_clone3, hargs, hsome]
  | other items =>
    have hflags : c.flags = 0 := by
      unfold TaskCall.flags
      rcases hacc.creates with h | h | h | h
      · exact absurd h hfor.1
      · exact absurd h hfor.2
      · rw [h]
      · rw [h]
    rw [hflags]
    exact ⟨rfl, rfl⟩

/-- a structure of another size is not read -/
theorem clonedThread_undecoded {c : TaskCall} (hdec : ¬ c.Decodable) {de : DecodeEnv}
    {abi : ABI} {e : EntryInfo} (hargs : e.args = c.args) {items : TaskItems I}
    (hfor : items.For c.nr) :
    (CallItems.fill de abi e items).2.clonedThread = .error (.undefined .null) := by
  unfold TaskCall.Decodable at hdec
  rw [Classical.not_imp] at hdec
  obtain ⟨hnr, hno⟩ := hdec
  cases items with
  | clone v =>
    rw [show c.nr = .clone from hfor] at hnr
    cases hnr
  | other items => exact absurd hnr hfor.2
  | clone3 item =>
    have hnone : (CloneArgsItem.processData de (e.args 0) (e.args 1)).2.args = none := by
      rw [hargs, ← Option.not_isSome_iff_eq_none, CloneArgsItem.processData_isSome_iff]
      exact fun h => hno ⟨h.1, h.2.1⟩
    show TaskItems.clonedThread (.clone3 (CloneArgsItem.processData de (e.args 0) (e.args 1)).2
      : TaskItems I) = _
    rw [clonedThread_clone3, hnone]

/-! ## the new tracee -/

/-- nobody was told of the child yet; it has the process data `proc` -/
structure Prepared (id child : TraceeId) (proc : ProcId) (w v : World (SystemCall (TaskItems I))) :
    Prop where
  still : StillIn id w v
  log : v.log = w.log
  tracees : v.tracees = w.tracees
  parent : (v.objs id).processData = (w.objs id).processData
  child : (v.objs child).processData = proc

theorem prepared_newTracee (hid : id < w.nextObj) :
    ∃ v, newTracee .autoAttached (some id) w = (.ok w.nextObj, v) ∧
      Prepared id w.nextObj (w.objs id).processData w v ∧ v.nextProc = w.nextProc := by
  have hother : ∀ t : Tracee, (w.setObj w.nextObj t).objs id = w.objs id := fun t =>
    World.setObj_of_ne w t (ne_of_lt hid)
  refine ⟨_, rfl, ⟨⟨rfl, ?_⟩, rfl, rfl, ?_, ?_⟩, rfl⟩
  · exact congrArg Tracee.currentSyscall (hother _)
  · exact congrArg Tracee.processData (hother _)
  · show ((w.setObj w.nextObj { kind := .autoAttached
                                processData := (w.objs id).processData }).objs w.nextObj).processData = _
    rw [World.setObj_self]

theorem prepared_configure {child : TraceeId} (hne : id ≠ child) (pid : ProcessID)
    (call : CallObj (SystemCall (TaskItems I))) :
    ∃ v, configure child pid call w = (.ok (), v) ∧
      Prepared id child (if call.obj.items.sharesFiles = true then (w.objs child).processData
        else w.nextProc) w v := by
  have hother : ∀ (v : World (SystemCall (TaskItems I))) (t : Tracee),
      (v.setObj child t).objs id = v.objs id := fun v t => World.setObj_of_ne v t hne
  unfold configure setPID
  rw [run_bind_ok (run_modifyTracee child _ w), run_bind_ok (run_setFlags child _ _)]
  rw [World.setObj_self, World.setObj_setObj]
  show ∃ v, (if (!call.obj.items.sharesFiles) = true then unshareProcessData child else pure () :
    Step _ Unit) _ = _ ∧ _
  cases call.obj.items.sharesFiles with
  | true =>
    refine ⟨_, rfl, ⟨rfl, ?_⟩, rfl, rfl, ?_, ?_⟩
    · exact congrArg Tracee.currentSyscall (hother w _)
    · exact congrArg Tracee.processData (hother w _)
    · rw [World.setObj_self]
      rfl
  | false =>
    have hobj : ∀ (v : World (SystemCall (TaskItems I))) (t t' : Tracee) (d : ProcessData),
        (((v.setObj child t).setProc v.nextProc d).setObj child t').objs id = v.objs id := by
      intro v t t' d
      rw [World.setObj_of_ne _ t' hne]
      exact hother v t
    refine ⟨_, rfl, ⟨rfl, ?_⟩, rfl, rfl, ?_, ?_⟩
    · exact congrArg Tracee.currentSyscall (hobj w _ _ _)
    · exact congrArg Tracee.processData (hobj w _ _ _)
    · show ((World.setObj _ child _).objs child).processData = _
      rw [World.setObj_self]
      rfl

/-- the child is in `m_tracees`, and shares the process data of its parent or not -/
structure Enlisted (id child : TraceeId) (pid : ProcessID) (shares : Bool)
    (w v : World (SystemCall (TaskItems I))) : Prop where
  still : StillIn id w v
  log : v.log = w.log ++ [.tracked pid child]
  entry : v.tracees.find? pid = some (some child)
  data : (v.objs child).processData = (v.objs id).processData ↔ shares = true

/-- what is done with the child from then on -/
def announceChild (env : Env) (it : Iter) (pid : ProcessID) (event : PtraceEvent)
    (child : TraceeId) : Step (SystemCall (TaskItems I)) Unit := do
  let thread ← hasClonedThread it.id
  let entry ← entryTracee pid
  tellNewChild env it pid event entry thread
  when (entry ≠ child) (destroy env child)

theorem enlisted_addAutoAttached (it : Iter) (hid : it.id < w.nextObj)
    (hproc : (w.objs it.id).processData < w.nextProc)
    (hparent : w.tracees.find? (w.objs it.id).ptrace = some (some it.id)) {pid : ProcessID}
    (hnew : w.tracees.find? pid = none) (event : PtraceEvent)
    (call : CallObj (SystemCall (TaskItems I))) :
    ∃ v, Enlisted it.id w.nextObj pid call.obj.items.sharesFiles w v ∧
      addAutoAttached env it pid event call w = announceChild env it pid event w.nextObj v := by
  have hindex : indexTracee (w.objs it.id).pid w = (.ok (some it.id),
      { w with tracees := w.tracees.insert (w.objs it.id).ptrace none }) := by
    show (Except.ok (w.tracees.find? (w.objs it.id).ptrace).join, _) = _
    rw [hparent]
    rfl
  generalize hw1 : ({ w with tracees := w.tracees.insert (w.objs it.id).ptrace none } :
    World (SystemCall (TaskItems I))) = w1 at hindex
  have h1 : StillIn it.id w w1 ∧ w1.log = w.log ∧ w1.objs = w.objs ∧ w1.nextObj = w.nextObj ∧
      w1.nextProc = w.nextProc := by
    subst hw1
    exact ⟨⟨rfl, rfl⟩, rfl, rfl, rfl, rfl⟩
  obtain ⟨hs1, hlog1, hobjs1, hnext1, hproc1⟩ := h1
  have hnew1 : w1.tracees.find? pid = none := by
    subst hw1
    have hne : pid ≠ (w.objs it.id).ptrace := by
      rintro rfl
      rw [hparent] at hnew
      cases hnew
    exact (OrdMap.find?_insert_of_ne _ _ hne).trans hnew
  obtain ⟨w2, hr2, h2, hproc2⟩ := prepared_newTracee (w := w1) (hnext1 ▸ hid)
  obtain ⟨w3, hr3, h3⟩ := prepared_configure (w := w2)
    (ne_of_lt (hnext1 ▸ hid : it.id < w1.nextObj)) pid call
  have hnew3 : w3.tracees.find? pid = none := by
    rw [h3.tracees, h2.tracees]
    exact hnew1
  have hr4 : insertTracee pid w1.nextObj w3 = (.ok (),
      ({ w3 with tracees := w3.tracees.set pid (some w1.nextObj) } :
        World (SystemCall (TaskItems I))).say (.tracked pid w1.nextObj)) := by
    unfold insertTracee
    rw [run_read_bind, hnew3]
    rfl
  rw [hnext1] at hr4
  have hrun : addAutoAttached env it pid event call w = announceChild env it pid event w.nextObj
      (({ w3 with tracees := w3.tracees.set pid (some w.nextObj) } :
        World (SystemCall (TaskItems I))).say (.tracked pid w.nextObj)) := by
    rw [hnext1] at hr2 hr3
    unfold addAutoAttached
    rw [run_bind_ok (run_getTracee it.id w), run_bind_ok hindex, run_bind_ok hr2,
      run_bind_ok hr3, run_bind_ok hr4]
    rfl
  refine ⟨_, ⟨⟨?_, ?_⟩, ?_, ?_, ?_⟩, hrun⟩
  · show w3.calls = w.calls
    rw [h3.still.calls, h2.still.calls, hs1.calls]
  · show (w3.objs it.id).currentSyscall = (w.objs it.id).currentSyscall
    rw [h3.still.current, h2.still.current, hs1.current]
  · show w3.log ++ _ = w.log ++ _
    rw [h3.log, h2.log, hlog1]
  · exact OrdMap.find?_set_self _ _ _
  · show (w3.objs w.nextObj).processData = (w3.objs it.id).processData ↔ _
    rw [← hnext1, h3.child, h3.parent, h2.parent, h2.child, hproc2, hobjs1, hproc1]
    cases call.obj.items.sharesFiles with
    | true => exact iff_of_true rfl rfl
    | false => exact iff_of_false (fun h => absurd h (Nat.ne_of_gt hproc)) fun h => nomatch h

/-! ## from the report on -/

/-- the tracees refer to the same process data, and the log goes on -/
structure Onwards (w w' : World (SystemCall (TaskItems I))) : Prop where
  refers : ∀ i, (w'.objs i).processData = (w.objs i).processData
  log : w.log <+: w'.log

theorem Onwards.walk : Walk (fun _ => True) (Onwards : World (SystemCall (TaskItems I)) → _ → Prop) :=
  ⟨fun _ => ⟨fun _ => rfl, List.prefix_refl _⟩,
    fun h h' => ⟨fun i => (h'.refers i).trans (h.refers i), h.log.trans h'.log⟩,
    fun _ _ => trivial⟩

theorem PassesBy.onwards {v v' : World (SystemCall (TaskItems I))} (h : PassesBy v v') :
    Onwards v v' := by
  refine ⟨fun i => ?_, ?_⟩
  · have hi : (v'.objs i).lasting.processData = (v.objs i).lasting.processData := by
      rw [h.lasting i]
    exact hi
  · obtain ⟨es, he, -⟩ := h.log
    rw [he]
    exact List.prefix_append _ _

abbrev GoesOn {α : Type} (x : Step (SystemCall (TaskItems I)) α) : Prop :=
  Along (fun _ => True) Onwards x

theorem Passing.goesOn {α : Type} {x : Step (SystemCall (TaskItems I)) α} (hx : Passing x) :
    GoesOn x := fun w hw => (hx w hw).onwards

theorem goesOn_notify (it : Iter) (c : Callback) :
    GoesOn (notify env it c : Step (SystemCall (TaskItems I)) Unit) := by
  intro w _
  have h : Onwards (w.say (.callback c)) (notify env it c w).2 := (passesBy_notify it c w).onwards
  exact ⟨h.refers, (List.prefix_append _ _).trans h.log⟩

theorem goesOn_restartTracee (it : Iter) :
    GoesOn (restartTracee env it : Step (SystemCall (TaskItems I)) Unit) := by
  apply Along.bind Onwards.walk (Passing.getTracee it.id).goesOn
  intro t
  apply Along.ite
  · exact fun _ => Along.pure Onwards.walk ()
  intro _
  apply Along.bind Onwards.walk (Passing.request it.id _).goesOn
  intro _
  apply Along.when Onwards.walk
  intro _
  apply Along.bind Onwards.walk (passing_changeState it.id .running).goesOn
  intro _
  exact Along.when Onwards.walk fun _ => goesOn_notify it _

/-- the consumer is told of the child with the flag, whatever is done from then on -/
theorem onwards_announceChild (it : Iter) {pid : ProcessID} {child : TraceeId}
    {call : CallObj (SystemCall (TaskItems I))} {thread : Bool}
    (hc : w.currentCall it.id = some call) (ht : call.obj.items.clonedThread = .ok thread)
    (he : w.tracees.find? pid = some (some child)) (event : PtraceEvent)
    {rest : Step (SystemCall (TaskItems I)) Unit} (hrest : GoesOn rest) :
    Onwards (w.say (.callback (.newChildProcess it.id child event { clonedThread := thread })))
      ((announceChild env it pid event child >>= fun _ => rest) w).2 := by
  have hthread : hasClonedThread it.id w = (.ok thread, w) := by
    rw [run_hasClonedThread hc, ht]
  unfold announceChild tellNewChild
  simp only [assoc_bind]
  rw [run_bind_ok hthread, run_bind_ok (run_entryTracee he)]
  apply final_bind
  · exact (passesBy_notify it _ w).onwards
  intro _ v _ hv
  apply Onwards.walk.trans hv
  apply Along.bind Onwards.walk (passing_checkCleanupTracee pid).goesOn _ v trivial
  intro _
  exact Along.bind Onwards.walk (Along.when Onwards.walk fun _ => (passing_destroy child).goesOn)
    fun _ => hrest

/-! ## the process data that exist -/

/-- the process data of the tracee exist -/
def HasProc (n : ProcId) (t : Tracee) : Prop := t.processData < n

instance : Identity HasProc where
  mono hn h := Nat.lt_of_lt_of_le h hn
  same hs h := by
    unfold HasProc
    rw [hs.processData]
    exact h
  alone n _ := Nat.lt_succ_self n
  shared _ h := h
  unshared {n _} _ := Nat.lt_succ_self n
  named _ _ h := h

instance {SC : Type} [SyscallOps SC] : Opening SC HasProc where
  opens _ _ _ _ _ _ h := h

theorem hasProc_receives {u : World (SystemCall (TaskItems I))} (hu : Reachable env u)
    {data : ChildState} (hr : Receives env data u id w) :
    (w.objs id).processData < w.nextProc := by
  obtain ⟨hB, -, hk⟩ := hr.base hu.settled
  have hid : id < w.nextObj := hB.fresh hk
  have hall : Identified HasProc 0 u := by
    apply identified_reaches hu
    intro v op _ _
    cases op with
    | event d => exact fun i v' _ _ h => h
    | _ => exact trivial
  cases hr with
  | known => exact hall.each id hid
  | taken => exact hall.each id hid

/-! ## the event -/

/-- the event tells the tracer of a new task, which the tracer does not know yet; the tracee is the
one of the task that reports it -/
structure Creates (env : Env) (w : World (SystemCall (TaskItems I))) (id : TraceeId)
    (data : ChildState) (event : PtraceEvent) (pid : ProcessID) : Prop where
  reported : ∃ signal, data.event = .trapped (.event signal event)
  creates : event = .clone ∨ event = .fork ∨ event = .vfork
  task : (w.objs id).ptrace = data.pid
  handled : (w.objs id).flags.detachAtNextStop = false
  answered : env.request (w.log ++ [.deliver id data]) (.getPIDEventMsg data.pid) = none
  child : env.pidEventMsg (w.log ++ [.deliver id data]) data.pid = pid
  untracked : w.tracees.find? pid = none

/-- what follows on the new entry of `m_tracees` -/
def afterAdded (env : Env) (it : Iter) (pid : ProcessID) : Step (SystemCall (TaskItems I)) Unit := do
  update fun w => { w with newlyAttachedPid := pid }
  restartTracee env it

theorem goesOn_afterAdded (it : Iter) (pid : ProcessID) :
    GoesOn (afterAdded env it pid : Step (SystemCall (TaskItems I)) Unit) :=
  Along.bind Onwards.walk (fun _ _ => ⟨fun _ => rfl, List.prefix_refl _⟩)
    fun _ => goesOn_restartTracee it

/-- the state in which the child is added -/
def World.told (w : World (SystemCall (TaskItems I))) (id : TraceeId) (data : ChildState) :
    World (SystemCall (TaskItems I)) :=
  (w.decoding id data).say (.request id (.getPIDEventMsg (w.objs id).ptrace) none)

theorem processEvent_creates {data : ChildState} {event : PtraceEvent} {pid : ProcessID}
    (h : Creates env w id data event pid) {call : CallObj (SystemCall (TaskItems I))}
    (hc : w.currentCall id = some call) :
    processEvent env ⟨data.pid, id⟩ data w
      = (addAutoAttached env ⟨data.pid, id⟩ pid event call >>= fun _ =>
          afterAdded env ⟨data.pid, id⟩ pid) (w.told id data) := by
  obtain ⟨signal, hd⟩ := h.reported
  have hne : event ≠ .vforkDone := by
    rcases h.creates with rfl | rfl | rfl
    · exact nofun
    · exact nofun
    · exact nofun
  have hnew : handlePtraceEvent env ⟨data.pid, id⟩ data.pid event signal
      = (handleNewChildEvent env ⟨data.pid, id⟩ event : Step (SystemCall (TaskItems I)) Unit) := by
    rcases h.creates with rfl | rfl | rfl
    · rfl
    · rfl
    · rfl
  have hlog : (w.decoding id data).log = w.log ++ [.deliver id data] := rfl
  have hcalled : calledFrom env id (w.decoding id data) = (.ok (pid, call), w.told id data) := by
    rw [run_calledFrom_ok ((currentCall_decoding data).trans hc), ptrace_decoding]
    · rw [hlog, h.task, h.child]
      unfold World.told
      rw [h.task]
    · rw [ptrace_decoding, h.task, hlog]
      exact h.answered
  rw [run_processEvent_event hd h.handled, hnew]
  unfold handleNewChildEvent
  simp only [assoc_bind]
  rw [run_bind_ok hcalled]
  unfold handleAutoAttach
  rw [if_pos hne]
  simp only [assoc_bind]
  rfl

/-- in every run: what the kernel does with the flags of a system call is what the tracer does with
the new tracee, exactly if the tracer knows the size of the structure -/
theorem followsFlags_iff {u : World (SystemCall (TaskItems I))} (hu : Reachable env u)
    {data : ChildState} (hr : Receives env data u id w) {event : PtraceEvent} {pid : ProcessID}
    (hcr : Creates env w id data event pid) {c : TaskCall} (hacc : c.Accepted)
    (hin : InTaskCall w id c) :
    FollowsFlags c id data event pid w (processEvent env ⟨data.pid, id⟩ data w).2 ↔
      c.Decodable := by
  obtain ⟨hB, -, hk⟩ := hr.base hu.settled
  obtain ⟨call, hcall, de, abi, e, items, hmem, hargs, hfor, hfill⟩ := hin
  have hobj : (w.told id data).objs id
      = ({ w.objs id with injectSig := none } : Tracee).moveTo .eventStop := World.setObj_self ..
  have hparent : (w.told id data).tracees.find? ((w.told id data).objs id).ptrace
      = some (some id) := by
    rw [hobj]
    show w.tracees.find? (w.objs id).ptrace = _
    rw [hcr.task]
    exact hk
  have hproc : ((w.told id data).objs id).processData < (w.told id data).nextProc := by
    rw [hobj]
    exact hasProc_receives hu hr
  obtain ⟨v, hv, hrun⟩ : ∃ v, Enlisted id w.nextObj pid call.obj.items.sharesFiles
      (w.told id data) v ∧ addAutoAttached env ⟨data.pid, id⟩ pid event call (w.told id data)
        = announceChild env ⟨data.pid, id⟩ pid event w.nextObj v :=
    enlisted_addAutoAttached (w := w.told id data) ⟨data.pid, id⟩ (hB.fresh hk) hproc hparent
      hcr.untracked event call
  have hcur : v.currentCall id = some call :=
    hv.still.currentCall.trans ((currentCall_decoding data).trans hcall)
  have hlog : v.log = w.log ++ [.deliver id data,
      .request id (.getPIDEventMsg (w.objs id).ptrace) none, .tracked pid w.nextObj] := by
    rw [hv.log]
    show (w.log ++ [_]) ++ [_] ++ [_] = _
    simp only [List.append_assoc, List.cons_append, List.nil_append]
  rw [processEvent_creates hcr hcall, run_bind, hrun, ← run_bind]
  constructor
  · intro hfollows
    by_contra hdec
    have hthread : hasClonedThread id v = (.error (.undefined .null), v) := by
      rw [run_hasClonedThread hcur, hfill]
      exact congrArg (·, v) (clonedThread_undecoded hdec hargs hfor)
    obtain ⟨flags, -, hprefix⟩ := hfollows.told
    unfold announceChild at hprefix
    simp only [assoc_bind] at hprefix
    rw [run_bind_error hthread, hlog] at hprefix
    have hlen := hprefix.length_le
    simp only [List.length_append, List.length_cons, List.length_nil] at hlen
    omega
  · intro hdec
    obtain ⟨hshares, hthread⟩ := sharesFiles_entered hacc hdec hmem hargs hfor
    rw [← hfill] at hshares hthread
    have hon : Onwards (v.say (.callback (.newChildProcess id w.nextObj event
          { clonedThread := c.flags.has CloneFlags.thread })))
        ((announceChild env ⟨data.pid, id⟩ pid event w.nextObj >>= fun _ =>
          afterAdded env ⟨data.pid, id⟩ pid) v).2 :=
      onwards_announceChild ⟨data.pid, id⟩ hcur hthread hv.entry event (goesOn_afterAdded _ pid)
    refine ⟨⟨{ clonedThread := c.flags.has CloneFlags.thread }, Iff.rfl, ?_⟩, ?_⟩
    · have hlog' := hon.log
      rw [World.say, hlog] at hlog'
      simp only [List.append_assoc, List.cons_append, List.nil_append] at hlog'
      exact hlog'
    · rw [hon.refers, hon.refers, ← hshares]
      exact hv.data

/-! ### a thread that is created by `clone3()` -/

/-- `CLONE_VM | CLONE_FS | CLONE_FILES | CLONE_SIGHAND | CLONE_THREAD` is passed in a structure of
the given size -/
def threadCall (size : Word) : TaskCall where
  nr := .clone3
  args := fun i => if i = 0 then 0x1000 else if i = 1 then size else 0
  mem := fun addr => .ok (if addr = 0x1000 then 0x10f00 else 0)

def threadEnv (size : Word) : Env :=
  { scriptEnv [.entry ⟨435, (threadCall size).args⟩] with
    toGeneric := fun _ _ => .clone3
    pidEventMsg := fun _ _ => 101
    mem := fun _ _ => (threadCall size).mem }

def threadRun : List Op :=
  [.addForeign 100 true false ProcessID.invalid false,
    .event ⟨100, .trapped (.event Signal.trap .stop)⟩,
    .event ⟨100, .trapped .sysTrap⟩]

/-- the state in which the event of the `clone3()` is received -/
def threadStart (size : Word) : World (SystemCall (TaskItems Unit)) :=
  runOps (threadEnv size) threadRun {}

def threadWorld (size : Word) : World (SystemCall (TaskItems Unit)) :=
  (threadStart size).say (.wait cloneEvent)

theorem thread_accepted {size : Word} (h : 64 ≤ size.toNat) : (threadCall size).Accepted :=
  ⟨Or.inr (Or.inl rfl), fun _ => h, fun _ _ _ _ => ⟨_, rfl⟩⟩

deriving instance DecidableEq for CloneFlagsValue, CloneArgs, CloneArgsItem, TaskItems

/-- what the item of the system call sees of the tracer and the tracee -/
def threadDecode (size : Word) : DecodeEnv where
  pid := 100
  state := .syscallEnterStop
  maxBufferPrefetch := 0
  fdInfo := false
  mem := (threadCall size).mem
  fdInfos := .ok []
  snatchSocket _ _ := .ok (none, none)
  alloc _ := true

theorem thread_inTaskCall {size : Word}
    (h : ((threadWorld size).currentCall 0).map (fun call => call.obj.items)
      = some (.clone3 (CloneArgsItem.processData (threadDecode size) 0x1000 size).2)) :
    InTaskCall (threadWorld size) 0 (threadCall size) := by
  obtain ⟨call, hcall, hitems⟩ := Option.map_eq_some_iff.mp h
  exact ⟨call, hcall, threadDecode size, .x86_64, ⟨435, (threadCall size).args⟩, .clone3 {}, rfl,
    rfl, rfl, hitems⟩

theorem thread_creates (size : Word)
    (hobj : ((threadWorld size).objs 0).ptrace = 100 ∧
      ((threadWorld size).objs 0).flags.detachAtNextStop = false ∧
      (threadWorld size).tracees.find? 101 = none) :
    Creates (threadEnv size) (threadWorld size) 0 cloneEvent .clone 101 :=
  ⟨⟨Signal.trap, rfl⟩, Or.inl rfl, hobj.1, hobj.2.1, rfl, rfl, hobj.2.2⟩

/-- the structure of 88 bytes -/
theorem followsFlags_thread :
    FollowsFlags (threadCall 88) 0 cloneEvent .clone 101 (threadWorld 88)
      (processEvent (threadEnv 88) ⟨100, 0⟩ cloneEvent (threadWorld 88)).2 := by
  have hreach : Reachable (threadEnv 88) (threadStart 88) :=
    (Reaches.start false).run threadRun (by decide +kernel)
  exact (followsFlags_iff hreach (.known (by decide +kernel))
    (thread_creates 88 (by decide +kernel)) (thread_accepted (by decide))
    (thread_inTaskCall (by decide +kernel))).mpr fun _ => by decide

/-- the first version of the structure -/
theorem followsFlags_fails : ¬ ∀ (env : Env) (u w : World (SystemCall (TaskItems Unit)))
    (data : ChildState) (id : TraceeId) (event : PtraceEvent) (pid : ProcessID) (c : TaskCall),
    Reachable env u → Receives env data u id w → Creates env w id data event pid → c.Accepted →
    InTaskCall w id c →
    FollowsFlags c id data event pid w (processEvent env ⟨data.pid, id⟩ data w).2 := by
  intro h
  have hreach : Reachable (threadEnv 64) (threadStart 64) :=
    (Reaches.start false).run threadRun (by decide +kernel)
  have hfollows := h _ _ (threadWorld 64) cloneEvent 0 .clone 101 (threadCall 64) hreach
    (.known (by decide +kernel)) (thread_creates 64 (by decide +kernel))
    (thread_accepted (by decide)) (thread_inTaskCall (by decide +kernel))
  have hshared := hfollows.shares.mpr (by decide)
  revert hshared
  decide +kernel

end Clues
