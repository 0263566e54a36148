import Clues.Syscalls.Clone
import Clues.Syscalls.Objects

/-!
# System calls that arrange their parameters anew

* `FcntlSystemCall.cls` and others   the specialisations whose parameters depend on the operation
                   they are asked for, on the flags, or on the ABI;
* `Rearranged`     all of them;
* `call_like_new`  after any use an object decodes the next system call like a new one;
* `never_dangling`   no use follows a reference to a member that is gone.
-/

namespace Clues

open Lib.Members

/-- items for parameters in registers, with `PARAM_IN` -/
abbrev ItemKind.in : ItemKind := .par .paramIn
abbrev ItemKind.out : ItemKind := .par .paramOut

/-! ## fcntl() -/

namespace Rearranged.FcntlOperation

inductive Oper where
  | dupfd | dupfdCloexec | getfd | setfd | getfl | setfl | getlk | setlk | setlkw | getlk64
  | setlk64 | setlkw64 | ofdSetlk | ofdSetlkw | ofdGetlk | getown | setown | getownEx | setownEx
  | getsig | setsig | setlease | getlease | notify | setpipeSz | getpipeSz | addSeals | getSeals
  | getRwHint | setRwHint | getFileRwHint | setFileRwHint | other
  deriving DecidableEq

def Oper.ofInt : Int → Oper
  | 0 => .dupfd | 1 => .getfd | 2 => .setfd | 3 => .getfl | 4 => .setfl | 5 => .getlk
  | 6 => .setlk | 7 => .setlkw | 8 => .setown | 9 => .getown | 10 => .setsig | 11 => .getsig
  | 12 => .getlk64 | 13 => .setlk64 | 14 => .setlkw64 | 15 => .setownEx | 16 => .getownEx
  | 36 => .ofdGetlk | 37 => .ofdSetlk | 38 => .ofdSetlkw | 1024 => .setlease | 1025 => .getlease
  | 1026 => .notify | 1030 => .dupfdCloexec | 1031 => .setpipeSz | 1032 => .getpipeSz
  | 1033 => .addSeals | 1034 => .getSeals | 1035 => .getRwHint | 1036 => .setRwHint
  | 1037 => .getFileRwHint | 1038 => .setFileRwHint
  | _ => .other

end Rearranged.FcntlOperation

namespace Rearranged.FcntlSystemCall

inductive Item where
  | fd | operation
  | dupLowest | fdFlagsArg | statusFlagsArg | flockArg | ownerArg | extOwnerArg | ioSignalArg
  | leaseArg | dnotifyArg | pipeSizeArg | fileSealsArg | rwHintArg
  | result | retDupfd | retFdFlags | retStatusFlags | retOwner | retIoSignal | retLease
  | retPipeSize | retSeals
  deriving DecidableEq

open Item

/-- the optional members that `prepareNewSystemCall()` resets -/
def optional : List Item :=
  [dupLowest, fdFlagsArg, statusFlagsArg, flockArg, ownerArg, extOwnerArg, ioSignalArg, leaseArg,
    dnotifyArg, pipeSizeArg, fileSealsArg, rwHintArg, retDupfd, retFdFlags, retStatusFlags,
    retOwner, retIoSignal, retLease, retPipeSize, retSeals]

def layout : Layout Item where
  live i := if i = fd ∨ i = operation then some .in else none
  slots := [some fd, some operation]
  out := none
  datum := true

def prepareNewSystemCall (s : Layout Item) : Layout Item :=
  (((s.drop 2).emplace result .retval).setOut result).reset optional

def setExtraParameter (i : Item) (kind : ItemKind) (s : Layout Item) : Layout Item :=
  (s.emplace i kind).add [some i]

def setNewReturnItem (i : Item) (s : Layout Item) : Layout Item :=
  ((s.emplace i .retval).reset [result]).setOut i

def check2ndPass (op : FcntlOperation.Oper) (s : Layout Item) : Layout Item :=
  match op with
  | .dupfd | .dupfdCloexec => setExtraParameter dupLowest .in (setNewReturnItem retDupfd s)
  | .getfd => setNewReturnItem retFdFlags s
  | .setfd => setExtraParameter fdFlagsArg .in s
  | .getfl => setNewReturnItem retStatusFlags s
  | .setfl => setExtraParameter statusFlagsArg .in s
  | .setlk | .setlkw | .getlk | .setlk64 | .setlkw64 | .getlk64 | .ofdSetlk | .ofdSetlkw
  | .ofdGetlk => setExtraParameter flockArg (.par .paramInOut) s
  | .getown => setNewReturnItem retOwner s
  | .setown => setExtraParameter ownerArg .in s
  | .getownEx => setExtraParameter extOwnerArg .out s
  | .setownEx => setExtraParameter extOwnerArg .in s
  | .getsig => setNewReturnItem retIoSignal s
  | .setsig => setExtraParameter ioSignalArg .in s
  | .getlease => setNewReturnItem retLease s
  | .setlease => setExtraParameter leaseArg .in s
  | .notify => setExtraParameter dnotifyArg .in s
  | .setpipeSz => setNewReturnItem retPipeSize (setExtraParameter pipeSizeArg .in s)
  | .getpipeSz => setNewReturnItem retPipeSize s
  | .addSeals => setExtraParameter fileSealsArg .in s
  | .getSeals => setNewReturnItem retSeals s
  | .getRwHint | .getFileRwHint => setExtraParameter rwHintArg .out s
  | .setRwHint | .setFileRwHint => setExtraParameter rwHintArg .in s
  | .other => s

/-- the operation in the register -/
def oper (w : Item → Word) : FcntlOperation.Oper := .ofInt (FileNum.ofWord (w operation))

/-- what `updateFDTracking()` dereferences -/
def tracked : FcntlOperation.Oper → List Item
  | .dupfd | .dupfdCloexec => [retDupfd]
  | .setfd => [fdFlagsArg]
  | _ => []

theorem oper_congr {w w' : Item → Word} (h : w operation = w' operation) : oper w = oper w' :=
  congrArg (fun v => FcntlOperation.Oper.ofInt (FileNum.ofWord v)) h

def cls : CallClass Item where
  layout := layout
  reads i := i = flockArg || i = extOwnerArg || i = rwHintArg
  prepareNewSystemCall _ s := .ok (prepareNewSystemCall s)
  check2ndPass _ w s := .ok (check2ndPass (oper w) s, true)
  tracked w := tracked (oper w)

/-- the parameters, whatever they were arranged for -/
def base : Layout Item := prepareNewSystemCall layout

abbrev Kept : Layout Item → Prop := Shape.Keeps 2 [fd, operation] layout

theorem prepare_eq {s : Layout Item} (h : Kept s) : prepareNewSystemCall s = base := by
  refine Shape.ext (funext fun i => ?_) h.slots rfl h.datum
  cases i
  case fd => exact h.live fd List.mem_cons_self
  case operation => exact h.live operation (List.mem_cons_of_mem _ List.mem_cons_self)
  all_goals rfl

theorem proper_check2ndPass (op : FcntlOperation.Oper) : Kept (check2ndPass op base) ∧
    Proper (check2ndPass op base) ∧ base.slots <+: (check2ndPass op base).slots := by
  cases op <;> decide

theorem tracked_check2ndPass (op : FcntlOperation.Oper) :
    ∀ i ∈ tracked op, ((check2ndPass op base).live i).isSome = true := by
  cases op <;> decide

theorem regular : cls.Regular Kept fun _ => base :=
  .of_decides oper check2ndPass (by decide) (by decide)
    (fun _ _ h => oper_congr (h operation (by decide)))
    (fun _ _ hs => congrArg Except.ok (prepare_eq hs)) (fun _ _ => rfl) proper_check2ndPass
    (.inr ⟨by decide, fun w => tracked_check2ndPass (oper w)⟩)

end Rearranged.FcntlSystemCall

/-! ## open() and openat() -/

namespace Rearranged.OpenSystemCall

/-- the members of `OpenSystemCall` and `OpenAtSystemCall`; only the latter has `fd` -/
inductive Item where
  | fd | filename | flags | mode | newFd
  deriving DecidableEq

open Item

/-- the parameters that are always present -/
def fixed (at_ : Bool) : List Item := if at_ then [fd, filename, flags] else [filename, flags]

def layout (at_ : Bool) : Layout Item where
  live i := if i ∈ fixed at_ then some .in else if i = newFd then some .retval else none
  slots := (fixed at_).map some
  out := some newFd
  datum := true

def prepareNewSystemCall (at_ : Bool) (s : Layout Item) : Layout Item :=
  (s.drop (fixed at_).length).reset [mode]

/-- `wantsMode` tells whether the flags contain `O_CREAT` or `O_TMPFILE` -/
def check2ndPass (wantsMode : Bool) (s : Layout Item) : Layout Item × Bool :=
  if wantsMode then ((s.emplace mode .in).add [some mode], true) else (s, false)

def cls (at_ : Bool) (wantsMode : Word → Bool) : CallClass Item where
  layout := layout at_
  reads i := i = filename
  prepareNewSystemCall _ s := .ok (prepareNewSystemCall at_ s)
  check2ndPass _ w s := .ok (check2ndPass (wantsMode (w flags)) s)
  tracked _ := []

/-- with the mode -/
def withMode (at_ : Bool) : Layout Item := ((layout at_).emplace mode .in).add [some mode]

theorem prepare_eq (at_ : Bool) {s : Layout Item} (h : s = layout at_ ∨ s = withMode at_) :
    prepareNewSystemCall at_ s = layout at_ := by
  rcases h with rfl | rfl
  · refine Shape.ext (funext fun i => ?_) ?_ rfl rfl
    · cases at_ <;> cases i <;> rfl
    · cases at_ <;> rfl
  · refine Shape.ext (funext fun i => ?_) ?_ rfl rfl
    · cases at_ <;> cases i <;> rfl
    · cases at_ <;> rfl

theorem proper_layout (at_ : Bool) : Proper (layout at_) ∧ Proper (withMode at_) := by
  cases at_ <;> decide

theorem flags_mem (at_ : Bool) : flags ∈ (layout at_).items := by
  cases at_ <;> decide

theorem regular (at_ : Bool) (wantsMode : Word → Bool) :
    (cls at_ wantsMode).Regular (fun s => s = layout at_ ∨ s = withMode at_)
      fun _ => layout at_ where
  new := Or.inl rfl
  prepare _ _ := Or.inl fun _ hs => congrArg Except.ok (prepare_eq at_ hs)
  kept _ := Or.inl rfl
  proper _ := (proper_layout at_).1
  second _ w s again h := by
    have hs : check2ndPass (wantsMode (w flags)) (layout at_) = (s, again) := Except.ok.inj h
    unfold check2ndPass at hs
    split_ifs at hs
    · obtain ⟨rfl, rfl⟩ := Prod.mk.inj hs
      exact ⟨Or.inr rfl, (proper_layout at_).2, List.prefix_append _ _, nofun⟩
    · obtain ⟨rfl, rfl⟩ := Prod.mk.inj hs
      exact ⟨Or.inl rfl, (proper_layout at_).1, List.prefix_rfl, fun _ => rfl⟩
  depends _ w w' h := by
    have hw : w flags = w' flags := h flags (flags_mem at_)
    show Except.ok (check2ndPass (wantsMode (w flags)) (layout at_))
      = .ok (check2ndPass (wantsMode (w' flags)) (layout at_))
    rw [hw]
  tracked := Or.inl fun _ => rfl

end Rearranged.OpenSystemCall

/-! ## fadvise64() -/

namespace Rearranged.FAdviseSystemCall

/-- the alternatives of `off_variant` and `size_variant`: a value, or a combined value and the
item for its lower half -/
inductive Item where
  | fd | offset | offset64Lower | offset64 | size | size64Lower | size64 | advice | result
  deriving DecidableEq

open Item

/-- `off_variant.emplace<0>()` and `emplace<1>()` -/
def setOffset (s : Layout Item) : Layout Item :=
  (s.reset [offset64Lower, offset64]).emplace offset .in

def setOffset64 (s : Layout Item) : Layout Item :=
  ((s.reset [offset]).emplace offset64Lower .in).emplace offset64 .in

def setSize (s : Layout Item) : Layout Item := (s.reset [size64Lower, size64]).emplace size .in

def setSize64 (s : Layout Item) : Layout Item :=
  ((s.reset [size]).emplace size64Lower .in).emplace size64 .in

def setupPars64 (s : Layout Item) : Layout Item :=
  { setSize (setOffset s) with
    slots := [some fd, some offset, some size, some advice]
    datum := true }

def layout : Layout Item :=
  setupPars64 { live := fun i => if i = fd ∨ i = advice then some .in
                  else if i = result then some .retval else none,
                slots := [], out := some result, datum := true }

/-- the parameters of the I386 ABI -/
def setupPars32 (is64 : Bool) (s : Layout Item) : Layout Item :=
  { setOffset64 (if is64 then setSize64 s else setSize s) with
    slots := if is64 then
        [some fd, some offset64Lower, some offset64, some size64Lower, some size64, some advice]
      else [some fd, some offset64Lower, some offset64, some size, some advice]
    datum := false }

/-- `is64` tells whether this is `FADVISE64_64` -/
def prepareNewSystemCall (is64 : Bool) (abi : ABI) (s : Layout Item) : Except Exc (Layout Item) :=
  match abi with
  | .aarch64 => .ok s
  | .x86_64 => .ok (if s.datum then s else setupPars64 s)
  | .i386 => .ok (setupPars32 is64 s)
  | _ => .error (.runtime "unsupported ABI")

def cls (is64 : Bool) : CallClass Item where
  layout := layout
  reads _ := false
  prepareNewSystemCall := prepareNewSystemCall is64
  check2ndPass _ _ s := .ok (s, false)
  tracked _ := []

def base (is64 : Bool) : ABI → Layout Item
  | .i386 => setupPars32 is64 layout
  | _ => layout

def Kept (is64 : Bool) (s : Layout Item) : Prop := s = layout ∨ s = setupPars32 is64 layout

theorem setup_eq (is64 : Bool) {s : Layout Item} (h : Kept is64 s) :
    (if s.datum then s else setupPars64 s) = layout ∧
      setupPars32 is64 s = setupPars32 is64 layout := by
  rcases h with rfl | rfl
  · exact ⟨rfl, rfl⟩
  · refine ⟨Shape.ext (funext fun i => ?_) rfl ?_ rfl, Shape.ext (funext fun i => ?_) rfl ?_ rfl⟩
    · cases is64 <;> cases i <;> rfl
    · cases is64 <;> rfl
    · cases is64 <;> cases i <;> rfl
    · cases is64 <;> rfl

theorem regular (is64 : Bool) : (cls is64).Regular (Kept is64) (base is64) where
  new := Or.inl rfl
  prepare abi habi := by
    cases abi with
    | x86_64 => exact Or.inl fun s hs => congrArg Except.ok (setup_eq is64 hs).1
    | i386 => exact Or.inl fun s hs => congrArg Except.ok (setup_eq is64 hs).2
    | aarch64 => exact absurd rfl habi
    | unknown | x32 =>
      exact Or.inr ⟨(by decide : Proper layout), fun _ => rfl, _, fun _ _ => rfl⟩
  kept abi := by
    cases abi with
    | i386 => exact Or.inr rfl
    | _ => exact Or.inl rfl
  proper abi := by
    cases is64 <;> cases abi <;> decide
  second abi _ s again h := by
    obtain ⟨rfl, rfl⟩ := Prod.mk.inj (Except.ok.inj h)
    refine ⟨?_, ?_, List.prefix_rfl, fun _ => rfl⟩
    · cases abi with
      | i386 => exact Or.inr rfl
      | _ => exact Or.inl rfl
    · cases is64 <;> cases abi <;> decide
  depends _ _ _ _ := rfl
  tracked := Or.inl fun _ => rfl

end Rearranged.FAdviseSystemCall

/-! ## statfs() and fstatfs() -/

namespace Rearranged.StatFSSystemCall

/-- the members of `StatFSSystemCall` and `FStatFSSystemCall`; the former has `path`, the latter
has `fd` -/
inductive Item where
  | path | fd | size | buf | result
  deriving DecidableEq

open Item

/-- the first parameter -/
def first (f : Bool) : Item := if f then fd else path

def layout (f : Bool) : Layout Item where
  live i :=
    if i = first f then some .in
    else if i = buf then some .out
    else if i = result then some .retval else none
  slots := [some (first f), some buf]
  out := some result
  datum := true

/-- `is64` tells whether this is `STATFS64` or `FSTATFS64` -/
def prepareNewSystemCall (f is64 : Bool) (s : Layout Item) : Layout Item :=
  if is64 then
    if (s.live size).isNone then
      (s.emplace size .in).setSlots [some (first f), some size, some buf]
    else s
  else if (s.live size).isSome then (s.reset [size]).setSlots [some (first f), some buf]
  else s

def cls (f is64 : Bool) : CallClass Item where
  layout := layout f
  reads i := i = path || i = buf
  prepareNewSystemCall _ s := .ok (prepareNewSystemCall f is64 s)
  check2ndPass _ _ s := .ok (s, false)
  tracked _ := []

def base (f is64 : Bool) : Layout Item := prepareNewSystemCall f is64 (layout f)

def Kept (f is64 : Bool) (s : Layout Item) : Prop := s = layout f ∨ s = base f is64

theorem prepare_eq (f is64 : Bool) {s : Layout Item} (h : Kept f is64 s) :
    prepareNewSystemCall f is64 s = base f is64 := by
  rcases h with rfl | rfl
  · rfl
  · cases f <;> cases is64 <;> rfl

theorem regular (f is64 : Bool) : (cls f is64).Regular (Kept f is64) fun _ => base f is64 where
  new := Or.inl rfl
  prepare _ _ := Or.inl fun _ hs => congrArg Except.ok (prepare_eq f is64 hs)
  kept _ := Or.inr rfl
  proper _ := by cases f <;> cases is64 <;> decide
  second _ _ s again h := by
    obtain ⟨rfl, rfl⟩ := Prod.mk.inj (Except.ok.inj h)
    refine ⟨Or.inr rfl, ?_, List.prefix_rfl, fun _ => rfl⟩
    cases f <;> cases is64 <;> decide
  depends _ _ _ _ := rfl
  tracked := Or.inl fun _ => rfl

end Rearranged.StatFSSystemCall

/-! ## futex() -/

namespace Rearranged.FutexOperation

inductive Command where
  | wait | wake | waitRequeuePi | createFd | requeue | cmpRequeue | cmpRequeuePi | wakeOp
  | waitBitset | wakeBitset | lockPi | lockPi2 | trylockPi | unlockPi | other
  deriving DecidableEq

/-- without `FUTEX_PRIVATE_FLAG` and `FUTEX_CLOCK_REALTIME` -/
def Command.ofWord (w : Word) : Command :=
  match (w.toUInt32 &&& ~~~(128 ||| 256)).toNat with
  | 0 => .wait | 1 => .wake | 2 => .createFd | 3 => .requeue | 4 => .cmpRequeue | 5 => .wakeOp
  | 6 => .lockPi | 7 => .unlockPi | 8 => .trylockPi | 9 => .waitBitset | 10 => .wakeBitset
  | 11 => .waitRequeuePi | 12 => .cmpRequeuePi | 13 => .lockPi2
  | _ => .other

end Rearranged.FutexOperation

namespace Rearranged.FutexSystemCall

inductive Item where
  | futexAddr | operation
  | value | wakeCount | fdSig | timeout | futex2Addr | requeueValue | requeueLimit | wakeCount2
  | wakeOp | bitset
  | numWokenUp | newFd | result
  deriving DecidableEq

open Item

def layout : Layout Item where
  live i :=
    if i = futexAddr ∨ i = operation then some .in
    else if i = result then some .retval else none
  slots := [some futexAddr, some operation]
  out := some result
  datum := true

def prepareNewSystemCall (s : Layout Item) : Layout Item :=
  (((s.drop 2).reset [value, wakeCount, fdSig, timeout, futex2Addr, requeueValue, requeueLimit,
    wakeCount2, wakeOp, bitset, numWokenUp, newFd]).emplace result .retval).setOut result

/-- parameters are created and added; a place may stay unused -/
def addParameters (is : List (Option Item)) (s : Layout Item) : Layout Item :=
  ((members is).foldl (fun s i => s.emplace i .in) s).add is

def setNewReturnItem (i : Item) (s : Layout Item) : Layout Item :=
  ((s.emplace i .retval).reset [result]).setOut i

def check2ndPass (command : FutexOperation.Command) (s : Layout Item) : Layout Item :=
  match command with
  | .wait => addParameters [some value, some timeout] s
  | .waitBitset => addParameters [some value, some timeout, none, some bitset] s
  | .wake => setNewReturnItem numWokenUp (addParameters [some wakeCount] s)
  | .wakeBitset =>
    setNewReturnItem numWokenUp (addParameters [some wakeCount, none, none, some bitset] s)
  | .createFd => setNewReturnItem newFd (addParameters [some fdSig] s)
  | .requeue =>
    setNewReturnItem numWokenUp
      (addParameters [some wakeCount, some requeueLimit, some futex2Addr] s)
  | .cmpRequeue | .cmpRequeuePi =>
    setNewReturnItem numWokenUp
      (addParameters [some wakeCount, some requeueLimit, some futex2Addr, some requeueValue] s)
  | .wakeOp =>
    setNewReturnItem numWokenUp
      (addParameters [some wakeCount, some wakeCount2, some futex2Addr, some wakeOp] s)
  | .lockPi | .lockPi2 => addParameters [none, some timeout] s
  | .trylockPi | .unlockPi => s
  | .waitRequeuePi => addParameters [some value, some timeout, some futex2Addr] s
  | .other => s

def cls : CallClass Item where
  layout := layout
  reads i := i = timeout
  prepareNewSystemCall _ s := .ok (prepareNewSystemCall s)
  check2ndPass _ w s := .ok (check2ndPass (.ofWord (w operation)) s, true)
  tracked _ := []

abbrev Kept : Layout Item → Prop := Shape.Keeps 2 [futexAddr, operation] layout

theorem prepare_eq {s : Layout Item} (h : Kept s) : prepareNewSystemCall s = layout := by
  refine Shape.ext (funext fun i => ?_) h.slots rfl h.datum
  cases i
  case futexAddr => exact h.live futexAddr List.mem_cons_self
  case operation => exact h.live operation (List.mem_cons_of_mem _ List.mem_cons_self)
  all_goals rfl

theorem proper_check2ndPass (command : FutexOperation.Command) :
    Kept (check2ndPass command layout) ∧ Proper (check2ndPass command layout) ∧
      layout.slots <+: (check2ndPass command layout).slots := by
  cases command <;> decide

theorem regular : cls.Regular Kept fun _ => layout :=
  .of_decides (fun w => FutexOperation.Command.ofWord (w operation)) check2ndPass (by decide)
    (by decide) (fun _ _ h => congrArg FutexOperation.Command.ofWord (h operation (by decide)))
    (fun _ _ hs => congrArg Except.ok (prepare_eq hs)) (fun _ _ => rfl) proper_check2ndPass
    (.inl fun _ => rfl)

end Rearranged.FutexSystemCall

/-! ## arch_prctl() -/

namespace Rearranged.ArchPrctlSystemCall

inductive Operation where
  | setCpuid | getCpuid | setFs | getFs | setGs | getGs | other
  deriving DecidableEq

def Operation.ofWord (w : Word) : Operation :=
  match w.toUInt32.toNat with
  | 0x1001 => .setGs | 0x1002 => .setFs | 0x1003 => .getFs | 0x1004 => .getGs
  | 0x1011 => .getCpuid | 0x1012 => .setCpuid
  | _ => .other

inductive Item where
  | op | onOff | setAddr | getAddr | result | onOffRet
  deriving DecidableEq

open Item

def layout : Layout Item where
  live i := if i = op then some .in else if i = result then some .retval else none
  slots := [some op]
  out := some result
  datum := true

def prepareNewSystemCall (s : Layout Item) : Layout Item :=
  (((s.drop 1).reset [onOff, setAddr, getAddr, onOffRet]).emplace result .retval).setOut result

def check2ndPass (operation : Operation) (s : Layout Item) : Layout Item :=
  match operation with
  | .setCpuid => (s.emplace onOff .in).add [some onOff]
  | .getCpuid => ((s.reset [result]).emplace onOffRet .retval).setOut onOffRet
  | .setFs | .setGs => (s.emplace setAddr .in).add [some setAddr]
  | .getFs | .getGs => (s.emplace getAddr .out).add [some getAddr]
  | .other => s

def cls : CallClass Item where
  layout := layout
  reads i := i = getAddr
  prepareNewSystemCall _ s := .ok (prepareNewSystemCall s)
  check2ndPass _ w s := .ok (check2ndPass (.ofWord (w op)) s, true)
  tracked _ := []

abbrev Kept : Layout Item → Prop := Shape.Keeps 1 [op] layout

theorem prepare_eq {s : Layout Item} (h : Kept s) : prepareNewSystemCall s = layout := by
  refine Shape.ext (funext fun i => ?_) h.slots rfl h.datum
  cases i
  case op => exact h.live op List.mem_cons_self
  all_goals rfl

theorem proper_check2ndPass (operation : Operation) :
    Kept (check2ndPass operation layout) ∧ Proper (check2ndPass operation layout) ∧
      layout.slots <+: (check2ndPass operation layout).slots := by
  cases operation <;> decide

theorem regular : cls.Regular Kept fun _ => layout :=
  .of_decides (fun w => Operation.ofWord (w op)) check2ndPass (by decide) (by decide)
    (fun _ _ h => congrArg Operation.ofWord (h op (by decide)))
    (fun _ _ hs => congrArg Except.ok (prepare_eq hs)) (fun _ _ => rfl) proper_check2ndPass
    (.inl fun _ => rfl)

end Rearranged.ArchPrctlSystemCall

/-! ## clone() -/

namespace Rearranged.CloneSystemCall

inductive Item where
  | flags | stack | parentTid | pidfd | childTid | tls | newPid
  deriving DecidableEq

open Item

/-- the flags that bring a parameter with them -/
structure Wants where
  parentSettid : Bool
  pidfd : Bool
  childSettid : Bool
  settls : Bool

def Wants.ofWord (w : Word) : Wants :=
  let flags := (CloneFlagsValue.processData w).flags
  { parentSettid := flags.has CloneFlags.parentSettid
    pidfd := flags.has CloneFlags.pidfd
    childSettid := flags.has 0x1000000
    settls := flags.has 0x80000 }

def layout : Layout Item where
  live i :=
    if i = flags ∨ i = stack then some .in else if i = newPid then some .retval else none
  slots := [some flags, some stack]
  out := some newPid
  datum := true

def prepareNewSystemCall (s : Layout Item) : Layout Item :=
  (s.drop 2).reset [parentTid, pidfd, childTid, tls]

/-- `maybe_add_settid_par()` and `maybe_add_settls_par()`: the parameter is the one at `pos` -/
def maybeAdd (wanted : Bool) (i : Item) (pos : Nat) (s : Layout Item) : Layout Item :=
  if wanted then
    ((s.emplace i .in).add (List.replicate (pos - s.slots.length) none)).add [some i]
  else s

/-- where the thread IDs are stored, or the descriptor -/
def addPointer (wants : Wants) (s : Layout Item) : Layout Item :=
  if wants.parentSettid then (s.emplace parentTid .out).add [some parentTid]
  else if wants.pidfd then (s.emplace pidfd .out).add [some pidfd]
  else s

def check2ndPass (abi : ABI) (wants : Wants) (s : Layout Item) : Layout Item :=
  let s := addPointer wants s
  match abi with
  | .x86_64 | .x32 => maybeAdd wants.settls tls 4 (maybeAdd wants.childSettid childTid 3 s)
  | .aarch64 | .i386 => maybeAdd wants.childSettid childTid 4 (maybeAdd wants.settls tls 3 s)
  | .unknown => s

def cls : CallClass Item where
  layout := layout
  reads i := i = parentTid || i = pidfd
  prepareNewSystemCall _ s := .ok (prepareNewSystemCall s)
  check2ndPass abi w s :=
    let s := check2ndPass abi (.ofWord (w flags)) s
    .ok (s, decide (2 < s.slots.length))
  tracked _ := []

/-- the return item is always the same -/
def Kept (s : Layout Item) : Prop :=
  Shape.Keeps 2 [flags, stack, newPid] layout s ∧ s.out = some newPid

instance (s : Layout Item) : Decidable (Kept s) :=
  inferInstanceAs (Decidable (_ ∧ _))

theorem prepare_eq {s : Layout Item} (h : Kept s) : prepareNewSystemCall s = layout := by
  refine Shape.ext (funext fun i => ?_) h.1.slots h.2 h.1.datum
  cases i
  case flags => exact h.1.live flags (by decide)
  case stack => exact h.1.live stack (by decide)
  case newPid => exact h.1.live newPid (by decide)
  all_goals rfl

theorem proper_check2ndPass (abi : ABI) (wants : Wants) :
    Kept (check2ndPass abi wants layout) ∧ Proper (check2ndPass abi wants layout) ∧
      layout.slots <+: (check2ndPass abi wants layout).slots := by
  obtain ⟨p, q, r, t⟩ := wants
  cases abi <;> revert p q r t <;> decide

/-- without a second pass nothing was added -/
theorem check2ndPass_eq (abi : ABI) (wants : Wants)
    (h : ¬ 2 < (check2ndPass abi wants layout).slots.length) :
    check2ndPass abi wants layout = layout := by
  obtain ⟨p, q, r, t⟩ := wants
  -- a parameter that is wanted is the third one or a later one
  cases abi <;> cases p <;> cases q <;> cases r <;> cases t <;>
    first
    | rfl
    | exact absurd (by decide) h

theorem regular : cls.Regular Kept fun _ => layout where
  new := by decide
  prepare _ _ := Or.inl fun _ hs => congrArg Except.ok (prepare_eq hs)
  kept _ := by decide
  proper _ := by decide
  second abi w s again h := by
    obtain ⟨rfl, rfl⟩ := Prod.mk.inj (Except.ok.inj h)
    obtain ⟨hk, hp, hpre⟩ := proper_check2ndPass abi (.ofWord (w flags))
    exact ⟨hk, hp, hpre, fun hn => check2ndPass_eq _ _ (of_decide_eq_false hn)⟩
  depends _ w w' h := by
    have hw : w flags = w' flags := h flags (by decide)
    unfold cls
    dsimp only
    rw [hw]
  tracked := Or.inl fun _ => rfl

end Rearranged.CloneSystemCall

/-! ## waitid() -/

namespace Rearranged.WaitIDSystemCall

inductive IdType where
  | all | pid | pgid | pidfd | other
  deriving DecidableEq

def IdType.ofWord (w : Word) : IdType :=
  match w.toUInt32.toNat with
  | 0 => .all | 1 => .pid | 2 => .pgid | 3 => .pidfd
  | _ => .other

inductive Item where
  | idtype | idPid | idPgid | idPidfd | siginfo | options | rusage | res
  deriving DecidableEq

open Item

def layout : Layout Item where
  live i :=
    if i = idtype ∨ i = options then some .in
    else if i = siginfo ∨ i = rusage then some .out
    else if i = res then some .retval else none
  slots := [some idtype]
  out := some res
  datum := true

def prepareNewSystemCall (s : Layout Item) : Layout Item :=
  (s.drop 1).reset [idPid, idPgid, idPidfd]

def setupPars (i : Option Item) (s : Layout Item) : Layout Item :=
  s.add [i, some siginfo, some options, some rusage]

def check2ndPass (type : IdType) (s : Layout Item) : Except Exc (Layout Item) :=
  match type with
  | .pid => .ok (setupPars (some idPid) (s.emplace idPid .in))
  | .pgid => .ok (setupPars (some idPgid) (s.emplace idPgid .in))
  | .pidfd => .ok (setupPars (some idPidfd) (s.emplace idPidfd .in))
  | .all => .ok (setupPars none s)
  | .other => .error (.runtime "unsupported WaitID encountered")

def cls : CallClass Item where
  layout := layout
  reads i := i = siginfo || i = rusage
  prepareNewSystemCall _ s := .ok (prepareNewSystemCall s)
  check2ndPass _ w s := (check2ndPass (.ofWord (w idtype)) s).map fun s => (s, true)
  tracked _ := []

def Kept (s : Layout Item) : Prop :=
  Shape.Keeps 1 [idtype, siginfo, options, rusage, res] layout s ∧ s.out = some res

instance (s : Layout Item) : Decidable (Kept s) :=
  inferInstanceAs (Decidable (_ ∧ _))

theorem prepare_eq {s : Layout Item} (h : Kept s) : prepareNewSystemCall s = layout := by
  refine Shape.ext (funext fun i => ?_) h.1.slots h.2 h.1.datum
  cases i
  case idtype => exact h.1.live idtype (by decide)
  case siginfo => exact h.1.live siginfo (by decide)
  case options => exact h.1.live options (by decide)
  case rusage => exact h.1.live rusage (by decide)
  case res => exact h.1.live res (by decide)
  all_goals rfl

theorem proper_check2ndPass {type : IdType} {s : Layout Item}
    (h : check2ndPass type layout = .ok s) : Kept s ∧ Proper s ∧ layout.slots <+: s.slots := by
  cases type with
  | other => cases h
  | _ =>
    obtain rfl := Except.ok.inj h
    decide

theorem regular : cls.Regular Kept fun _ => layout where
  new := by decide
  prepare _ _ := Or.inl fun _ hs => congrArg Except.ok (prepare_eq hs)
  kept _ := by decide
  proper _ := by decide
  second _ w s again h := by
    have hmap : (check2ndPass (.ofWord (w idtype)) layout).map (fun s => (s, true))
        = .ok (s, again) := h
    cases hc : check2ndPass (.ofWord (w idtype)) layout with
    | error x =>
      rw [hc] at hmap
      cases hmap
    | ok s' =>
      rw [hc] at hmap
      obtain ⟨rfl, rfl⟩ := Prod.mk.inj (Except.ok.inj hmap)
      obtain ⟨hk, hp, hpre⟩ := proper_check2ndPass hc
      exact ⟨hk, hp, hpre, nofun⟩
  depends _ w w' h := by
    have hw : w idtype = w' idtype := h idtype (by decide)
    unfold cls
    dsimp only
    rw [hw]
  tracked := Or.inl fun _ => rfl

end Rearranged.WaitIDSystemCall

/-! ## all of them -/

/-- system calls whose objects arrange their parameters anew, with what tells them apart when the
objects are made -/
inductive Rearranged where
  | fcntl
  | open (at_ : Bool) (wantsMode : Word → Bool)
  | fadvise (is64 : Bool)
  | statfs (f is64 : Bool)
  | futex
  | archPrctl
  | clone
  | waitid

namespace Rearranged

def Item : Rearranged → Type
  | .fcntl => FcntlSystemCall.Item
  | .open _ _ => OpenSystemCall.Item
  | .fadvise _ => FAdviseSystemCall.Item
  | .statfs _ _ => StatFSSystemCall.Item
  | .futex => FutexSystemCall.Item
  | .archPrctl => ArchPrctlSystemCall.Item
  | .clone => CloneSystemCall.Item
  | .waitid => WaitIDSystemCall.Item

instance : (k : Rearranged) → DecidableEq k.Item
  | .fcntl => inferInstanceAs (DecidableEq FcntlSystemCall.Item)
  | .open _ _ => inferInstanceAs (DecidableEq OpenSystemCall.Item)
  | .fadvise _ => inferInstanceAs (DecidableEq FAdviseSystemCall.Item)
  | .statfs _ _ => inferInstanceAs (DecidableEq StatFSSystemCall.Item)
  | .futex => inferInstanceAs (DecidableEq FutexSystemCall.Item)
  | .archPrctl => inferInstanceAs (DecidableEq ArchPrctlSystemCall.Item)
  | .clone => inferInstanceAs (DecidableEq CloneSystemCall.Item)
  | .waitid => inferInstanceAs (DecidableEq WaitIDSystemCall.Item)

def cls : (k : Rearranged) → CallClass k.Item
  | .fcntl => FcntlSystemCall.cls
  | .open at_ wantsMode => OpenSystemCall.cls at_ wantsMode
  | .fadvise is64 => FAdviseSystemCall.cls is64
  | .statfs f is64 => StatFSSystemCall.cls f is64
  | .futex => FutexSystemCall.cls
  | .archPrctl => ArchPrctlSystemCall.cls
  | .clone => CloneSystemCall.cls
  | .waitid => WaitIDSystemCall.cls

theorem regular (k : Rearranged) : ∃ Kept base, k.cls.Regular Kept base := by
  cases k with
  | fcntl => exact ⟨_, _, FcntlSystemCall.regular⟩
  | «open» at_ wantsMode => exact ⟨_, _, OpenSystemCall.regular at_ wantsMode⟩
  | fadvise is64 => exact ⟨_, _, FAdviseSystemCall.regular is64⟩
  | statfs f is64 => exact ⟨_, _, StatFSSystemCall.regular f is64⟩
  | futex => exact ⟨_, _, FutexSystemCall.regular⟩
  | archPrctl => exact ⟨_, _, ArchPrctlSystemCall.regular⟩
  | clone => exact ⟨_, _, CloneSystemCall.regular⟩
  | waitid => exact ⟨_, _, WaitIDSystemCall.regular⟩

end Rearranged

/-! ## any history of calls -/

/-- whatever an object was used for, and however decoding ended, it decodes the next system call
like an object that was just made, and handles the exit like it -/
theorem call_like_new (k : Rearranged) {o : CallObject k.Item} (hu : k.cls.Used o)
    (e : CallEntry k.Item) (he : e.abi ≠ .aarch64) :
    (k.cls.setEntryInfo e o).1 = (k.cls.setEntryInfo e k.cls.new).1 ∧
      ((k.cls.setEntryInfo e o).1 = .ok () →
        (k.cls.setEntryInfo e o).2.Similar (k.cls.setEntryInfo e k.cls.new).2 ∧
        ∀ x, (k.cls.setExitInfo x (k.cls.setEntryInfo e o).2).1
            = (k.cls.setExitInfo x (k.cls.setEntryInfo e k.cls.new).2).1 ∧
          (k.cls.setExitInfo x (k.cls.setEntryInfo e o).2).2.Similar
            (k.cls.setExitInfo x (k.cls.setEntryInfo e k.cls.new).2).2) := by
  obtain ⟨_, _, hR⟩ := k.regular
  exact similar_call hR hu he

/-- a wait whose timeout cannot be read -/
def unreadableWait : CallEntry Rearranged.FutexSystemCall.Item where
  abi := .x86_64
  args := fun n => if n = 0 then 0x1000 else if n = 3 then 1 else 0
  first _ := none
  second _ := some (.api Errno.ioError)

/-- the object after that -/
def abortedFutex : CallObject Rearranged.FutexSystemCall.Item :=
  (Rearranged.FutexSystemCall.cls.setEntryInfo unreadableWait
    Rearranged.FutexSystemCall.cls.new).2

def wakeOne : CallEntry Rearranged.FutexSystemCall.Item where
  abi := .i386
  args := fun n => if n = 0 then 0x1000 else 1
  first _ := none
  second _ := none

theorem call_like_new_futex :
    (Rearranged.FutexSystemCall.cls.setEntryInfo wakeOne abortedFutex).2.Similar
      (Rearranged.FutexSystemCall.cls.setEntryInfo wakeOne
        Rearranged.FutexSystemCall.cls.new).2 :=
  ((call_like_new .futex (.first unreadableWait (by decide)) wakeOne (by decide)).2
    (by decide)).1

/-- no use of an object follows a reference to a member that is gone, and when an entry is decoded
each parameter holds the register it stands for -/
theorem never_dangling (k : Rearranged) {o : CallObject k.Item}
    (ho : o = k.cls.new ∨ k.cls.Used o) :
    (∀ e, e.abi ≠ .aarch64 → (k.cls.setEntryInfo e o).1 ≠ .error .undefined ∧
      ((k.cls.setEntryInfo e o).1 = .ok () → (k.cls.setEntryInfo e o).2.Holds e.args)) ∧
    (k.cls.Used o → ∀ x, (k.cls.setExitInfo x o).1 ≠ .error .undefined) := by
  obtain ⟨Kept, _, hR⟩ := k.regular
  have hshape : Kept o.obj.shape ∧ (Proper o.obj.shape ∨ o.obj.shape = k.cls.layout) := by
    rcases ho with rfl | hu
    · exact ⟨hR.new, Or.inr rfl⟩
    · have hfit := fit_of_used hR hu
      exact ⟨hfit.kept, Or.inl hfit.proper⟩
  refine ⟨fun e he => ⟨?_, ?_⟩, fun hu x => ?_⟩
  · exact (setEntryInfo_sound hR he hshape.1 hshape.2).1
  · exact setEntryInfo_holds hR he hshape.1
  · exact (setExitInfo_sound (fit_of_used hR hu)).1

theorem never_dangling_futex :
    (Rearranged.FutexSystemCall.cls.setEntryInfo wakeOne abortedFutex).2.Holds wakeOne.args :=
  ((never_dangling .futex (Or.inr (.first unreadableWait (by decide)))).1 wakeOne
    (by decide)).2 (by decide)

end Clues
