import Clues.SystemCall
import Clues.Tracee.FDs

/-!
# System calls that create tasks

* `CloneFlags`     the flags of `clone()` and `clone3()`;
* `CloneArgsItem`  the item `CloneArgs` for the structure that `clone3()` is passed;
* `TaskItems I`    the items of `CloneSystemCall` and `Clone3SystemCall`, as far as the creation of
                   new tracees and the descriptor tracking depend on them; the items of all other
                   system calls are `I`.
-/

namespace Clues

/-! ## flags -/

/-- `cosmos::CloneFlags` -/
abbrev CloneFlags := UInt64

namespace CloneFlags

/-- the bits of `CLONE_FILES`, `CLONE_PIDFD`, `CLONE_THREAD`, `CLONE_PARENT_SETTID` and
`CLONE_INTO_CGROUP` -/
def shareFiles : UInt64 := 0x400
def pidfd : UInt64 := 0x1000
def thread : UInt64 := 0x10000
def parentSettid : UInt64 := 0x100000
def intoCgroup : UInt64 := 0x200000000

def has (flags : CloneFlags) (bit : UInt64) : Bool := flags &&& bit ≠ 0

end CloneFlags

/-- `CloneFlagsValue::processData()` for `clone()`: the low byte holds the exit signal -/
structure CloneFlagsValue where
  flags : CloneFlags := 0
  exitSignal : Option Signal := none

def CloneFlagsValue.processData (w : Word) : CloneFlagsValue :=
  { flags := w &&& ~~~0xFF, exitSignal := some (w &&& 0xFF).toNat }

/-! ## reading structures -/

/-- the words that could be read, and the error that ended the reading -/
def readWords (mem : Mem) (addr : UInt64) : Nat → List Word × Option Errno
  | 0 => ([], none)
  | n + 1 =>
    match mem addr with
    | .ok w =>
      let r := readWords mem (addr + 8) n
      (w :: r.1, r.2)
    | .error e => ([], some e)

/-- `Tracee::readStructIntoOptional()` of a structure of whole words: a failure other than `EIO`
leaves what was read so far behind -/
def readStructIntoOptional (mem : Mem) (addr : UInt64) (n : Nat) :
    Except Exc Unit × Option (List Word) :=
  if addr = 0 then (.ok (), none)
  else
    match readWords mem addr n with
    | (ws, none) => (.ok (), some ws)
    | (ws, some e) => if e = Errno.ioError then (.ok (), none) else (.error (.api e), some ws)

/-- `Tracee::readStruct()` of an `int` -/
def readInt (mem : Mem) (addr : UInt64) : Except Exc (Option Int) :=
  if addr = 0 then .ok none
  else
    match mem addr with
    | .ok w => .ok (some (FileNum.ofWord w))
    | .error e => if e = Errno.ioError then .ok none else .error (.api e)

/-! ## the arguments of clone3 -/

/-- `struct clone_args` -/
structure CloneArgs where
  flags : CloneFlags
  pidfd : UInt64
  childTid : UInt64
  parentTid : UInt64
  exitSignal : UInt64
  stack : UInt64
  stackSize : UInt64
  tls : UInt64
  setTid : UInt64
  setTidSize : UInt64
  cgroup : UInt64

/-- the number of its words, and `sizeof(cosmos::CloneArgs)` -/
def CloneArgs.words : Nat := 11
def CloneArgs.size : Nat := 88

def CloneArgs.ofWords (ws : List Word) : CloneArgs :=
  let at' := fun i => ws.getD i 0
  { flags := at' 0, pidfd := at' 1, childTid := at' 2, parentTid := at' 3, exitSignal := at' 4
    stack := at' 5, stackSize := at' 6, tls := at' 7, setTid := at' 8, setTidSize := at' 9
    cgroup := at' 10 }

structure CloneArgsItem where
  args : Option CloneArgs := none
  pidfd : FileNum := FileNum.invalid
  cgroup2Fd : FileNum := FileNum.invalid
  childTid : ProcessID := ProcessID.invalid
  tidArray : List ProcessID := []

namespace CloneArgsItem

/-- `m_tid_array.resize()` -/
def resizeTids (de : DecodeEnv) (n : Nat) : Except Exc Unit :=
  -- the maximum size of a vector of 4-byte elements
  if 2 ^ 61 ≤ n then .error (.std .lengthError)
  else if de.alloc (n * 4) then .ok ()
  else .error (.std .badAlloc)

/-- every failure of the reading is caught, and the array is empty then -/
def readTids (mem : Mem) (addr : UInt64) (n : Nat) : List ProcessID :=
  match readWords mem addr ((n + 1) / 2) with
  | (ws, none) => (ws.flatMap fun w => [FileNum.ofWord w, FileNum.ofWord (w >>> 32)]).take n
  | _ => []

/-- the part of `processData()` behind the reading of the structure -/
def finish (de : DecodeEnv) (args : CloneArgs) : Except Exc Unit × CloneArgsItem :=
  let n := args.setTidSize.toNat
  match (if n = 0 then .ok () else resizeTids de n : Except Exc Unit) with
  | .error e => (.error e, { args := some args })
  | .ok () =>
    (.ok (),
      { args := some args
        tidArray := readTids de.mem args.setTid n
        cgroup2Fd :=
          if args.flags.has CloneFlags.intoCgroup then FileNum.ofWord args.cgroup
          else FileNum.invalid })

/-- `CloneArgs::processData()`: everything is reset, and a structure that is too small
(`verifySize()`) is not read -/
def processData (de : DecodeEnv) (ptr size : Word) : Except Exc Unit × CloneArgsItem :=
  if size.toNat < CloneArgs.size then (.ok (), {})
  else
    match readStructIntoOptional de.mem ptr CloneArgs.words with
    | (.error e, ws) => (.error e, { args := ws.map CloneArgs.ofWords })
    | (.ok _, none) => (.ok (), {})
    | (.ok _, some ws) => finish de (CloneArgs.ofWords ws)

/-- `CloneArgs::updateData()` -/
def updateData (de : DecodeEnv) (x : ExitInfo) (item : CloneArgsItem) :
    Except Exc Unit × CloneArgsItem :=
  match item.args, x with
  | some args, .retVal _ =>
    match (if args.flags.has CloneFlags.pidfd then readInt de.mem args.pidfd else .ok none) with
    | .error e => (.error e, item)
    | .ok fd =>
      let item := { item with pidfd := fd.getD item.pidfd }
      match (if args.flags.has CloneFlags.parentSettid then readInt de.mem args.parentTid
        else .ok none) with
      | .error e => (.error e, item)
      | .ok tid => (.ok (), { item with childTid := tid.getD item.childTid })
  | _, _ => (.ok (), item)

/-- `Clone3SystemCall::updateFDTracking()` -/
def updateFDTracking (item : CloneArgsItem) (map : FDInfoMap) : FDInfoMap :=
  match item.args with
  | none => map
  | some args =>
    if args.flags.has CloneFlags.pidfd then trackFD { type := .pidFd, fd := item.pidfd } map
    else map

/-- the structure is there exactly if it is large enough and could be read, or reading it was
given up for an error other than `EIO` -/
theorem processData_isSome_iff (de : DecodeEnv) (ptr size : Word) :
    (processData de ptr size).2.args.isSome ↔
      CloneArgs.size ≤ size.toNat ∧ ptr ≠ 0 ∧
        (readWords de.mem ptr CloneArgs.words).2 ≠ some Errno.ioError := by
  unfold processData readStructIntoOptional
  by_cases hs : size.toNat < CloneArgs.size
  · rw [if_pos hs]
    exact iff_of_false (fun h => nomatch h) fun h => absurd hs (not_lt.mpr h.1)
  rw [if_neg hs]
  by_cases hp : ptr = 0
  · rw [if_pos hp]
    exact iff_of_false (fun h => nomatch h) fun h => h.2.1 hp
  rw [if_neg hp]
  have hfinish : ∀ args : CloneArgs, (finish de args).2.args.isSome = true := by
    intro args
    unfold finish
    dsimp only
    split <;> rfl
  cases hr : readWords de.mem ptr CloneArgs.words with
  | mk ws r =>
    cases r with
    | none =>
      show (finish de (CloneArgs.ofWords ws)).2.args.isSome = true ↔ _
      rw [hfinish]
      exact iff_of_true rfl ⟨not_lt.mp hs, hp, fun h => nomatch h⟩
    | some e =>
      dsimp only
      by_cases he : e = Errno.ioError
      · rw [if_pos he]
        exact iff_of_false (fun h => nomatch h) fun h => h.2.2 (by rw [he])
      · rw [if_neg he]
        exact iff_of_true rfl ⟨not_lt.mp hs, hp, fun h => he (Option.some.inj h)⟩

end CloneArgsItem

/-! ## system calls -/

inductive TaskItems (I : Type) where
  | clone (flags : CloneFlagsValue)
  | clone3 (clArgs : CloneArgsItem)
  | other (items : I)

namespace TaskItems

variable {I : Type} [CallItems I]

/-- `shares_file_descriptors_with_parent()` -/
def sharesFiles : TaskItems I → Bool
  | .clone v => v.flags.has CloneFlags.shareFiles
  | .clone3 item => item.args.any fun args => args.flags.has CloneFlags.shareFiles
  | .other _ => false

/-- the `switch` in `Tracee::hasClonedThread()`: the arguments of `clone3()` are dereferenced -/
def clonedThread : TaskItems I → Except Exc Bool
  | .clone v => .ok (v.flags.has CloneFlags.thread)
  | .clone3 item =>
    match item.args with
    | some args => .ok (args.flags.has CloneFlags.thread)
    | none => .error (.undefined .null)
  | .other _ => .ok false

instance : CallItems (TaskItems I) where
  create de info :=
    match info.sysNr with
    | .clone => .ok (.clone {})
    | .clone3 => .ok (.clone3 {})
    | _ => (CallItems.create de info).map .other
  fill de abi e
    | .clone _ => (.ok (), .clone (CloneFlagsValue.processData (e.args 0)))
    | .clone3 _ =>
      let r := CloneArgsItem.processData de (e.args 0) (e.args 1)
      (r.1, .clone3 r.2)
    | .other items =>
      let r := CallItems.fill de abi e items
      (r.1, .other r.2)
  update de abi x items ps :=
    match items with
    | .clone v => (.ok (), .clone v, ps)
    | .clone3 item =>
      let r := item.updateData de x
      match r.1, x with
      | .ok (), .retVal _ =>
        (.ok (), .clone3 r.2, { ps with fdInfoMap := r.2.updateFDTracking ps.fdInfoMap })
      | _, _ => (r.1, .clone3 r.2, ps)
    | .other items =>
      let r := CallItems.update de abi x items ps
      (r.1, .other r.2.1, r.2.2)
  sharesFiles items := .ok items.sharesFiles
  clonedThread := TaskItems.clonedThread

end TaskItems

end Clues
