import Clues.Items.MsgHdr
import Clues.Syscalls.Clone
import Clues.Syscalls.Dup
import Clues.Tracee.ProcFds

/-!
# System calls that create descriptors

* `CallExit.track`     a successful system call, from its items to the map of descriptors;
* `CallExit.Creates`   the descriptors that the kernel creates;
* `Creation`           both of them, and what `/proc` shows right afterwards;
* `Creation.Agrees`    what is recorded is what `/proc` yields;
* `Creation.Fits`      when this is so.
-/

namespace Clues

open Lib Lib.Digits Lib.LittleEndian Lib.Ancillary

/-! ## the system calls -/

/-- the flags that are set one by one; `EFD_`, `SFD_`, `SOCK_` and `PIDFD_` flags have the values of
the open flags -/
def creationFlags (cloexec nonblock : Bool) : OpenFlags :=
  let flags := if cloexec then OpenFlags.set 0 OpenFlags.cloexec else 0
  if nonblock then OpenFlags.set flags OpenFlags.nonblock else flags

def hasCloexec (w : Word) : Bool := w.toNat.testBit OpenFlags.cloexec
def hasNonblock (w : Word) : Bool := w.toNat.testBit OpenFlags.nonblock

def PipeSystemCall.updateFDTracking (readEnd writeEnd : FileNum) (map : FDInfoMap) : FDInfoMap :=
  -- `haveEnds()`
  if readEnd ≠ FileNum.invalid ∧ writeEnd ≠ FileNum.invalid then
    trackFD { type := .pipe, fd := writeEnd, mode := some .writeOnly }
      (trackFD { type := .pipe, fd := readEnd, mode := some .readOnly } map)
  else map

def EventFDSystemCall.updateFDTracking (newFd : FileNum) (map : FDInfoMap) : FDInfoMap :=
  trackFD { type := .eventFd, fd := newFd } map

def EventFD2SystemCall.updateFDTracking (newFd : FileNum) (flags : Word) (map : FDInfoMap) :
    FDInfoMap :=
  trackFD { type := .eventFd, fd := newFd
            flags := some (creationFlags (hasCloexec flags) (hasNonblock flags)) } map

def EPollCreateSystemCall.updateFDTracking (newFd : FileNum) (map : FDInfoMap) : FDInfoMap :=
  trackFD { type := .eventFd, fd := newFd } map

def SignalFDSystemCall.updateFDTracking (fd newFd : FileNum) (map : FDInfoMap) : FDInfoMap :=
  -- an existing descriptor is adjusted
  if fd = newFd then map else trackFD { type := .signalFd, fd := newFd } map

def SignalFD4SystemCall.updateFDTracking (fd newFd : FileNum) (flags : Word) (map : FDInfoMap) :
    FDInfoMap :=
  if fd = newFd then map
  else
    trackFD { type := .signalFd, fd := newFd
              flags := some (creationFlags (hasCloexec flags) (hasNonblock flags)) } map

def makeSocketInfo (fd : FileNum) (flags : Word) (domain type : Option Int) : FDInfo :=
  { type := .socket, fd := fd
    flags := some (creationFlags (hasCloexec flags) (hasNonblock flags))
    sockDomain := domain, sockType := type }

/-- the flags are the upper bits of the item `SocketType` -/
def SocketSystemCall.updateFDTracking (newFd : FileNum) (domain type : Word) (map : FDInfoMap) :
    FDInfoMap :=
  trackFD (makeSocketInfo newFd type (some (FileNum.ofWord domain))
    (some (FileNum.ofWord (type &&& 0xf)))) map

/-- `SocketPair::updateData()`: the vector ends before an element that is zero -/
def socketPair (fd fd' : FileNum) : List FileNum :=
  if fd = 0 then [FileNum.invalid, FileNum.invalid]
  else if fd' = 0 then [fd, FileNum.invalid] else [fd, fd']

def SocketPairSystemCall.updateFDTracking (fds : List FileNum) (domain type : Word)
    (map : FDInfoMap) : FDInfoMap :=
  fds.foldl (fun map fd => SocketSystemCall.updateFDTracking fd domain type map) map

/-- domain and type of a socket that was accepted on; if they are not known then the new descriptor
is duplicated from the tracee (`add_socket_info()`) -/
def AcceptSystemCall.updateFDTracking (snatch : FileNum → Except Errno (Option Int × Option Int))
    (sockfd newFd : FileNum) (flags : Word) (map : FDInfoMap) : Except Exc Unit × FDInfoMap :=
  match map.find? sockfd with
  | some fdInfo =>
    if fdInfo.sockDomain.isNone || fdInfo.sockType.isNone then
      match snatch newFd with
      | .error e => (.error (.api e), map)
      | .ok (domain, type) =>
        (.ok (), trackFD (makeSocketInfo newFd flags domain type)
          (updateFD { fdInfo with sockDomain := domain, sockType := type } map))
    else
      (.ok (), trackFD (makeSocketInfo newFd flags fdInfo.sockDomain fdInfo.sockType) map)
  | none =>
    match snatch newFd with
    | .error e => (.error (.api e), map)
    | .ok (domain, type) => (.ok (), trackFD (makeSocketInfo newFd flags domain type) map)

/-- `add_socket_info()` is called -/
def AcceptSystemCall.snatches (sockfd : FileNum) (map : FDInfoMap) : Bool :=
  match map.find? sockfd with
  | some fdInfo => fdInfo.sockDomain.isNone || fdInfo.sockType.isNone
  | none => true

/-- the first info for the descriptor that `get_fd_infos()` finds -/
def trackFound (fdInfos : Except Exc (List FDInfo)) (fd : FileNum) (map : FDInfoMap) : FDInfoMap :=
  match fdInfos with
  | .ok infos =>
    match infos.find? fun info => info.fd = fd with
    | some info => trackFD info map
    | none => map
  | .error _ => trackFD { type := .unknown, fd := fd } map

/-- the descriptors in a `SCM_RIGHTS` message -/
def fileNums : Bytes → List FileNum
  | b₀ :: b₁ :: b₂ :: b₃ :: bs =>
    FileNum.ofWord (UInt64.ofNat (le [b₀, b₁, b₂, b₃])) :: fileNums bs
  | _ => []

def MessageHeader.rights (h : MessageHeader) : Option (List FileNum) :=
  if h.msgControl.isEmpty then some []
  else
    h.controlMessages.map fun msgs =>
      msgs.flatMap fun m => if m.level = 1 ∧ m.type = 1 then fileNums m.payload else []

def RecvMsgSystemCall.updateFDTracking (fdInfos : Except Exc (List FDInfo)) (msg : MessageHeader)
    (map : FDInfoMap) : Except Exc Unit × FDInfoMap :=
  match msg.rights with
  | some fds => (.ok (), fds.foldl (fun map fd => trackFound fdInfos fd map) map)
  | none => (.error (.undefined .bounds), map)

def PIDFDOpenSystemCall.updateFDTracking (newFd : FileNum) (flags : Word) (map : FDInfoMap) :
    FDInfoMap :=
  trackFD { type := .pidFd, fd := newFd
            flags := if hasNonblock flags then some (2 ^ OpenFlags.nonblock) else none } map

/-- `open()` and `openat()` -/
def OpenSystemCall.updateFDTracking (filename : String) (newFd : FileNum) (flags : Word)
    (map : FDInfoMap) : FDInfoMap :=
  let raw := flags.toNat % 2 ^ 32
  trackFD { type := .fsPath, fd := newFd, path := filename, mode := some (OpenMode.ofRaw raw)
            flags := some (OpenFlags.ofRaw raw) } map

/-- `SOL_SOCKET` and `SO_PEERPIDFD` -/
def isPeerPidfd (level name : Word) : Bool := FileNum.ofWord level = 1 && FileNum.ofWord name = 77

/-- the option value is missing if the kernel has written less than a descriptor -/
def GetSockOptSystemCall.updateFDTracking (level name : Word) (optval : Option FileNum)
    (map : FDInfoMap) : Except Exc Unit × FDInfoMap :=
  if isPeerPidfd level name then
    match optval with
    | some fd =>
      (.ok (), trackFD { type := .pidFd, fd := fd, mode := some .readWrite
                         flags := some (2 ^ OpenFlags.cloexec) } map)
    | none => (.error (.undefined .null), map)
  else (.ok (), map)

/-! ## a finished system call -/

/-- what `updateFDTracking()` depends on after a successful system call -/
structure CallExit where
  nr : SystemCallNr
  args : Fin 6 → Word
  /-- the argument block of `socketcall()` -/
  block : List Word := []
  ret : Word
  mem : Mem
  filename : String := ""
  clArgs : CloneArgsItem := {}
  msg : MessageHeader := ⟨false, 0, []⟩
  fdInfos : Except Exc (List FDInfo)
  snatchSocket : FileNum → Except Errno (Option Int × Option Int)

namespace CallExit

/-- the sub-calls of `socketcall()` that may create descriptors -/
def subCall (call : Word) : SystemCallNr :=
  match call.toNat with
  | 1 => .socket
  | 5 => .accept
  | 8 => .socketpair
  | 15 => .getsockopt
  | 17 => .recvmsg
  | 18 => .accept4
  | 19 => .recvmmsg
  | _ => .unknown

/-- the system call that is carried out -/
def call (c : CallExit) : SystemCallNr :=
  if c.nr = .socketcall then subCall (c.args 0) else c.nr

def arg (c : CallExit) (i : Fin 6) : Word :=
  if c.nr = .socketcall then c.block.getD i 0 else c.args i

def newFd (c : CallExit) : FileNum := FileNum.ofWord c.ret

/-- two descriptors in memory -/
def readPair (c : CallExit) (ptr : Word) : Except Errno (FileNum × FileNum) :=
  (c.mem ptr).map fun w => (FileNum.ofWord w, FileNum.ofWord (w >>> 32))

/-- `GetSockOptVal<cosmos::FileNum>`: the length is checked first -/
def optval (c : CallExit) : Except Exc (Option FileNum) := do
  match ← readInt c.mem (c.arg 4) with
  | some len => if len < 4 then pure none else readInt c.mem (c.arg 3)
  | none => pure none

/-- `updateFDTracking()`, behind the `updateData()` of the parameters it uses -/
def track (c : CallExit) (map : FDInfoMap) : Except Exc Unit × FDInfoMap :=
  match c.call with
  | .pipe | .pipe2 =>
    if c.arg 0 = 0 then (.ok (), map)
    else
      match c.readPair (c.arg 0) with
      | .ok ends => (.ok (), PipeSystemCall.updateFDTracking ends.1 ends.2 map)
      | .error e => if e = Errno.ioError then (.ok (), map) else (.error (.api e), map)
  | .eventfd => (.ok (), EventFDSystemCall.updateFDTracking c.newFd map)
  | .eventfd2 => (.ok (), EventFD2SystemCall.updateFDTracking c.newFd (c.arg 1) map)
  | .epollCreate | .epollCreate1 => (.ok (), EPollCreateSystemCall.updateFDTracking c.newFd map)
  | .signalfd =>
    (.ok (), SignalFDSystemCall.updateFDTracking (FileNum.ofWord (c.arg 0)) c.newFd map)
  | .signalfd4 =>
    (.ok (), SignalFD4SystemCall.updateFDTracking (FileNum.ofWord (c.arg 0)) c.newFd (c.arg 3) map)
  | .socket => (.ok (), SocketSystemCall.updateFDTracking c.newFd (c.arg 0) (c.arg 1) map)
  | .socketpair =>
    match c.readPair (c.arg 3) with
    | .ok p =>
      let fds := socketPair p.1 p.2
      (.ok (), SocketPairSystemCall.updateFDTracking fds (c.arg 0) (c.arg 1) map)
    | .error e => (.error (.api e), map)
  -- the flags of `accept()` are never filled
  | .accept =>
    AcceptSystemCall.updateFDTracking c.snatchSocket (FileNum.ofWord (c.arg 0)) c.newFd 0 map
  | .accept4 =>
    AcceptSystemCall.updateFDTracking c.snatchSocket (FileNum.ofWord (c.arg 0)) c.newFd (c.arg 3) map
  | .recvmsg => RecvMsgSystemCall.updateFDTracking c.fdInfos c.msg map
  | .pidfdOpen => (.ok (), PIDFDOpenSystemCall.updateFDTracking c.newFd (c.arg 1) map)
  | .pidfdGetfd => (.ok (), trackFound c.fdInfos c.newFd map)
  | .open => (.ok (), OpenSystemCall.updateFDTracking c.filename c.newFd (c.arg 1) map)
  | .openat => (.ok (), OpenSystemCall.updateFDTracking c.filename c.newFd (c.arg 2) map)
  | .clone3 => (.ok (), c.clArgs.updateFDTracking map)
  | .getsockopt =>
    match c.optval with
    | .ok val => GetSockOptSystemCall.updateFDTracking (c.arg 1) (c.arg 2) val map
    | .error e => (.error e, map)
  | .dup | .dup2 | .dup3 | .fcntl | .fcntl64 => (.ok (), trackDup c.call c.arg c.ret map)
  | _ => (.ok (), map)

end CallExit

/-! ## what the kernel creates -/

/-- what `/proc` and the records are compared for -/
structure Snap where
  type : FDType
  cloexec : Bool
  nonblock : Bool
  deriving DecidableEq, Repr

def FDInfo.snap (info : FDInfo) : Snap :=
  ⟨info.type, info.hasFlag OpenFlags.cloexec, info.hasFlag OpenFlags.nonblock⟩

def KernelFd.cloexec (d : KernelFd) : Bool := d.flags.testBit OpenFlags.cloexec
def KernelFd.nonblock (d : KernelFd) : Bool := d.flags.testBit OpenFlags.nonblock

/-- the type that is parsed from a link -/
def linkType (fns : TextFns) (link : Text) : Option FDType :=
  (parseTypeInfo fns link {}).map FDInfo.type

def KernelFd.snap (fns : TextFns) (d : KernelFd) : Option Snap :=
  (linkType fns d.link).map fun type => ⟨type, d.cloexec, d.nonblock⟩

/-- `<type>:[<inode>]` and `anon_inode:[<type>]` -/
def inodeLink (type : String) (inode : UInt64) : Text :=
  type.toList ++ ':' :: '[' :: Nat.toDigits 10 inode.toNat ++ [']']

def anonLink (type : String) : Text := "anon_inode".toList ++ ':' :: '[' :: type.toList ++ [']']

structure KernelFd.Is (d : KernelFd) (link : Text) (cloexec nonblock : Bool) : Prop where
  link : d.link = link
  cloexec : d.cloexec = cloexec
  nonblock : d.nonblock = nonblock

def FcntlOper.duplicates : FcntlOper → Option Bool
  | .dupfd => some false
  | .dupfdCloexec => some true
  | _ => none

namespace CallExit

/-- the link, `FD_CLOEXEC` and `O_NONBLOCK` of a new descriptor that is returned; `signalfd()` makes
one for -1 only -/
def makes (c : CallExit) (inode : UInt64) : Option (Text × Bool × Bool) :=
  match c.call with
  | .eventfd => some (anonLink "eventfd", false, false)
  | .eventfd2 => some (anonLink "eventfd", hasCloexec (c.arg 1), hasNonblock (c.arg 1))
  | .epollCreate => some (anonLink "eventpoll", false, false)
  | .epollCreate1 => some (anonLink "eventpoll", hasCloexec (c.arg 0), false)
  | .signalfd =>
    if FileNum.ofWord (c.arg 0) = -1 then some (anonLink "signalfd", false, false) else none
  | .signalfd4 =>
    if FileNum.ofWord (c.arg 0) = -1 then
      some (anonLink "signalfd", hasCloexec (c.arg 3), hasNonblock (c.arg 3))
    else none
  | .socket => some (inodeLink "socket" inode, hasCloexec (c.arg 1), hasNonblock (c.arg 1))
  | .accept => some (inodeLink "socket" inode, false, false)
  | .accept4 => some (inodeLink "socket" inode, hasCloexec (c.arg 3), hasNonblock (c.arg 3))
  | .pidfdOpen => some (anonLink "pidfd", true, hasNonblock (c.arg 1))
  | _ => none

/-- the same for two descriptors and where their numbers are written to -/
def makesPair (c : CallExit) (inode : UInt64) : Option (Word × Text × Bool × Bool) :=
  match c.call with
  | .pipe => some (c.arg 0, inodeLink "pipe" inode, false, false)
  | .pipe2 => some (c.arg 0, inodeLink "pipe" inode, hasCloexec (c.arg 1), hasNonblock (c.arg 1))
  | .socketpair =>
    some (c.arg 3, inodeLink "socket" inode, hasCloexec (c.arg 1), hasNonblock (c.arg 1))
  | _ => none

/-- the open flags that are passed -/
def openFlags (c : CallExit) : Option Word :=
  match c.call with
  | .open => some (c.arg 1)
  | .openat => some (c.arg 2)
  | _ => none

/-- `O_PATH` -/
def hasPath (flags : Word) : Bool := flags.toNat.testBit 21

/-- a duplicate: the kernel's flag for it -/
def duplicates (c : CallExit) : Option Bool :=
  match c.call with
  | .dup | .dup2 => some false
  | .dup3 => some ((c.arg 2).toNat.testBit OpenFlags.cloexec)
  | .fcntl | .fcntl64 => (FcntlOper.ofWord (c.arg 1)).duplicates
  | _ => none

/-- system calls that may create descriptors, but do not override `updateFDTracking()` or keep
nothing there -/
def untracked : List SystemCallNr := [.clone, .recvmmsg, .ioctl, .futex, .futexTime64]

/-- the descriptors behind a successful system call that were not there before -/
inductive Creates (c : CallExit) (table : KernelTable) : List (FileNum × KernelFd) → Prop
  | single {inode link cloexec nonblock d} : c.makes inode = some (link, cloexec, nonblock) →
      d.Is link cloexec nonblock → Creates c table [(c.newFd, d)]
  | pair {inode ptr link cloexec nonblock fd d fd' d'} :
      c.makesPair inode = some (ptr, link, cloexec, nonblock) → ptr ≠ 0 →
      c.readPair ptr = .ok (fd, fd') → d.Is link cloexec nonblock → d'.Is link cloexec nonblock → Creates c table [(fd, d), (fd', d')]
  -- with `O_PATH` other flags are ignored, and some drivers set `O_NONBLOCK` when they are opened
  | opened {flags d} (forced : Bool) : c.openFlags = some flags → d.cloexec = hasCloexec flags →
      d.nonblock = (!hasPath flags && (hasNonblock flags || forced)) →
      Creates c table [(c.newFd, d)]
  | peerPidfd {fd d} : c.call = .getsockopt → isPeerPidfd (c.arg 1) (c.arg 2) = true →
      (∀ val, c.optval = .ok (some val) → val = fd) → d.Is (anonLink "pidfd") true false →
      Creates c table [(fd, d)]
  | cloned {fd d} : c.call = .clone3 → d.Is (anonLink "pidfd") true false → Creates c table [(fd, d)]
  | taken {d} : c.call = .pidfdGetfd → d.cloexec = true → Creates c table [(c.newFd, d)]
  | received (created) : c.call = .recvmsg → Creates c table created
  | duplicated {cloexec src d} : c.duplicates = some cloexec →
      table.find (FileNum.ofWord (c.arg 0)) = some src → d.link = src.link → d.cloexec = cloexec →
      d.nonblock = src.nonblock → Creates c table [(c.newFd, d)]
  | unseen (created) : c.call ∈ untracked → Creates c table created

/-- `dup2()` and `dup3()` may replace a descriptor -/
def replaces (c : CallExit) : Bool := c.call == .dup2 || c.call == .dup3

end CallExit

/-- a system call that creates descriptors: the map, which says before what `/proc` says, the
kernel's tables, and `/proc` afterwards -/
structure Creation (fns : TextFns) where
  exit : CallExit
  map : FDInfoMap
  table : KernelTable
  table' : KernelTable
  created : List (FileNum × KernelFd)
  dir' : ProcDir
  agrees : ∀ fd, (map.find? fd).map FDInfo.snap = (table.find fd).bind (KernelFd.snap fns)
  keyed : ∀ fd info, map.find? fd = some info → info.fd = fd
  creates : exit.Creates table created
  nodup : (created.map Prod.fst).Nodup
  fresh : ∀ p ∈ created, table.find p.1 = none ∨ exit.replaces = true
  installed : ∀ p ∈ created, table'.find p.1 = some p.2
  shows : dir'.Shows table'
  fdInfos : exit.fdInfos = .ok (getFDInfos fns dir')

namespace Creation

variable {fns : TextFns}

/-- for every new descriptor: what is recorded and what `/proc` yields -/
def Agrees (k : Creation fns) : Prop :=
  ∀ p ∈ k.created, ((k.exit.track k.map).2.find? p.1).map FDInfo.snap =
    ((initialMap (getFDInfos fns k.dir')).find? p.1).map FDInfo.snap

/-- domain and type of the listening socket are known, or they can be found out -/
def Known (k : Creation fns) : Prop :=
  (∃ info, k.map.find? (FileNum.ofWord (k.exit.arg 0)) = some info ∧
    info.sockDomain.isSome ∧ info.sockType.isSome) ∨
  ∃ r, k.exit.snatchSocket k.exit.newFd = .ok r

/-- a path has been opened, and the kernel keeps the flag `O_NONBLOCK` that was passed -/
def OpenFits (k : Creation fns) (flags : Word) : Prop :=
  ∀ p ∈ k.created, p.2.link.head? = some '/' ∧ p.2.nonblock = hasNonblock flags

/-- an entry that is there already says what the new descriptor is, else the source does -/
def DupFits (k : Creation fns) : Prop :=
  ∀ p ∈ k.created, (((k.table.find p.1).bind (KernelFd.snap fns)).or
    ((k.table.find (FileNum.ofWord (k.exit.arg 0))).bind (KernelFd.snap fns))) = p.2.snap fns

def Fits (k : Creation fns) : Prop :=
  match k.exit.call with
  | .pipe2 => hasCloexec (k.exit.arg 1) = false ∧ hasNonblock (k.exit.arg 1) = false
  | .epollCreate | .epollCreate1 | .pidfdOpen | .clone3 => False
  | .socketpair => ∀ p ∈ k.created, p.1 ≠ 0
  | .accept | .accept4 => k.Known
  | .getsockopt => ∃ val, k.exit.optval = .ok (some val)
  | .open => k.OpenFits (k.exit.arg 1)
  | .openat => k.OpenFits (k.exit.arg 2)
  | .recvmsg => ∀ p ∈ k.created, p.1 ∈ k.exit.msg.rights.getD [] ∨ linkType fns p.2.link = none
  | .dup | .dup2 | .dup3 => k.DupFits
  | .clone | .recvmmsg | .ioctl | .futex | .futexTime64 =>
    ∀ p ∈ k.created, linkType fns p.2.link = none
  | _ => True

end Creation

end Clues
