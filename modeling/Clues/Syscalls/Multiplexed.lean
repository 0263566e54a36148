import Clues.Items.Accesses
import Clues.Items.TimeVal
import Clues.Lib.Cells

/-!
# Socket calls by `socketcall()`

`SocketCallBase` fills the items of the direct system call from an argument block.

* `Par`                   a parameter: its item and the ones that this looks at when it is filled;
* `SocketClass`           the specialisations for the direct calls, with their parameters and what
                          `transferValues()` fills;
* `SocketItems`           the items: their virtual functions, whatever they do;
* `direct`, `socketcall`  one call, decoded at both stops;
* `socketcall_eq_direct`  `socketcall()` is decoded as the direct call with the same words.
-/

namespace Clues

open Lib Lib.Cells Lib.LittleEndian Lib.Reorder

/-! ## parameters -/

inductive SocketItem where
  | domain | type | prot | pair | sockfd | addr | addrlen | backlog | flags | how | buf | count
  | msg | msgvec | numMsgs | timeout | level | name | optval | optlen
  /-- the return value -/
  | result
  deriving DecidableEq, Repr

structure Par where
  item : SocketItem
  type : ItemType := .paramIn
  deferFill : Bool := false
  /-- the items that `processData()` may look at -/
  looksAt : List SocketItem := []
  deriving DecidableEq, Repr

namespace Par

/-- an item that looks at its word, and at the memory of the tracee -/
def plain (item : SocketItem) : Par := { item := item }

def pair : Par := { item := .pair, type := .paramOut }

def prot : Par := { item := .prot, looksAt := [.domain] }

def name : Par := { item := .name, looksAt := [.level] }

def addr (type : ItemType) : Par :=
  { item := .addr, type := type, deferFill := true, looksAt := [.addrlen] }

/-- `AddressLength` -/
def addrlen : Par := { item := .addrlen }

def addressLengthPointer : Par := { item := .addrlen, type := .paramInOut }

/-- `BufferPointer` with the item for its size -/
def buf (type : ItemType) (size : SocketItem) : Par :=
  { item := .buf, type := type, deferFill := type = .paramIn, looksAt := [size] }

def recvMessageHeader : Par := { item := .msg, type := .paramInOut, looksAt := [.result] }

def sendMessageHeader : Par := { item := .msg }

def msgvec : Par :=
  { item := .msgvec, type := .paramInOut, deferFill := true, looksAt := [.numMsgs] }

def timeout : Par := { item := .timeout, type := .paramInOut }

/-- fills for these parameters are apart, whatever the items do -/
def Apart (p q : Par) : Prop := p.item ≠ q.item ∧ p.item ∉ q.looksAt ∧ q.item ∉ p.looksAt

instance (p q : Par) : Decidable (p.Apart q) :=
  inferInstanceAs (Decidable (p.item ≠ q.item ∧ p.item ∉ q.looksAt ∧ q.item ∉ p.looksAt))

end Par

/-! ## socket options -/

inductive SockOptType where
  | get | set
  deriving DecidableEq, Repr

/-- the options of the level `SOCKET` -/
inductive SocketOption where
  | acceptconn | broadcast | bsdcompat | debug | dontroute | keepalive | lockFilter | oobinline
  | passcred | passsec | passpidfd | passrights | reuseaddr | reuseport | rxqOvfl | selectErrQueue
  | timestampOld | timestampnsOld | timestampNew | timestampnsNew | noCheck | preferBusyPoll
  | txrehash | rcvmark | rcvpriority | inq | wifiStatus | nofcs | zerocopy | rightsNotrunc
  | busyPoll | incomingCpu | incomingNapiId | mark | peekOff | priority | rcvbuf | rcvbufforce
  | rcvlowat | sndbuf | sndbufforce | sndlowat | busyPollBudget | reserveMem | cnxAdvice
  | bpfExtensions | bindtodevice | peersec | peercred | devmemDontneed | bindtoifindex
  | attachFilter | attachReuseportCbpf | attachBpf | attachReuseportEbpf | peerpidfd | bufLock
  | linger | rcvtimeoOld | sndtimeoOld | rcvtimeoNew | sndtimeoNew | timestampingNew
  | timestampingOld | domain | type | protocol | netnsCookie | txtime | meminfo | error | detachBpf
  | detachReuseportBpf
  deriving DecidableEq, Repr

/-- the classes of the item `optval` -/
inductive SockOptItem where
  | bool | int | string | peerCred | devMemDontNeed | interfaceIndex | filter | classicBPF
  | fileDesc | bufLock | linger | oldTimeVal | newTimeVal | timestamping | domain | type | protocol
  | netNSCookie | txTime | memInfo | error | unknown
  deriving DecidableEq, Repr

/-- the types of the item for `getsockopt()` and for `setsockopt()` that `create_call` is given -/
def SocketOption.createCall : SocketOption → SockOptItem × SockOptItem
  | .acceptconn | .broadcast | .bsdcompat | .debug | .dontroute | .keepalive | .lockFilter
  | .oobinline | .passcred | .passsec | .passpidfd | .passrights | .reuseaddr | .reuseport
  | .rxqOvfl | .selectErrQueue | .timestampOld | .timestampnsOld | .timestampNew | .timestampnsNew
  | .noCheck | .preferBusyPoll | .txrehash | .rcvmark | .rcvpriority | .inq | .wifiStatus | .nofcs
  | .zerocopy | .rightsNotrunc => (.bool, .bool)
  | .busyPoll | .incomingCpu | .incomingNapiId | .mark | .peekOff | .priority | .rcvbuf
  | .rcvbufforce | .rcvlowat | .sndbuf | .sndbufforce | .sndlowat | .busyPollBudget | .reserveMem
  | .cnxAdvice | .bpfExtensions => (.int, .int)
  | .bindtodevice | .peersec => (.string, .string)
  | .peercred => (.peerCred, .unknown)
  | .devmemDontneed => (.unknown, .devMemDontNeed)
  | .bindtoifindex => (.interfaceIndex, .interfaceIndex)
  | .attachFilter => (.filter, .classicBPF)
  | .attachReuseportCbpf => (.unknown, .classicBPF)
  | .attachBpf | .attachReuseportEbpf => (.unknown, .fileDesc)
  | .peerpidfd => (.fileDesc, .unknown)
  | .bufLock => (.bufLock, .bufLock)
  | .linger => (.linger, .linger)
  | .rcvtimeoOld | .sndtimeoOld => (.oldTimeVal, .oldTimeVal)
  | .rcvtimeoNew | .sndtimeoNew => (.newTimeVal, .newTimeVal)
  | .timestampingNew | .timestampingOld => (.timestamping, .timestamping)
  | .domain => (.domain, .unknown)
  | .type => (.type, .unknown)
  | .protocol => (.protocol, .unknown)
  | .netnsCookie => (.netNSCookie, .unknown)
  | .txtime => (.txTime, .txTime)
  | .meminfo => (.memInfo, .unknown)
  | .error => (.error, .unknown)
  | .detachBpf | .detachReuseportBpf => (.unknown, .unknown)

/-- `create_socket_opt_syscall()`, and what is made for other levels and names; the numbers of the
options are those of the kernel -/
def sockOptItem (options : Int → Option SocketOption) (type : SockOptType) (level name : Word) :
    SockOptItem :=
  if intValue level = SockOptInfo.socket then
    match options (intValue name), type with
    | some option, .get => option.createCall.1
    | some option, .set => option.createCall.2
    | none, _ => .unknown
  else .unknown

/-- the parameter `optval`; most of its items look at others, and some at those of the whole call -/
def SockOptItem.optval (type : SockOptType) (item : SockOptItem) : Par :=
  let deferred := fun type => { item := .optval, type := type, deferFill := true,
                                looksAt := [.sockfd, .level, .name, .optlen] : Par }
  match item, type with
  | .unknown, _ => .plain .optval
  | .string, _ => { item := .optval, type := .paramOut }
  | _, .get => deferred .paramOut
  | .bool, .set | .int, .set | .fileDesc, .set | .interfaceIndex, .set => deferred .paramOut
  | _, .set => deferred .paramIn

/-! ## specialisations -/

inductive SocketClass where
  | socket | socketPair | bind | connect | listen | accept | shutdown | getSockName | getPeerName
  | recv | recvFrom | recvMsg | recvMMsg | send | sendTo | sendMsg | sendMMsg
  | getSockOpt (item : SockOptItem)
  | setSockOpt (item : SockOptItem)
  deriving DecidableEq, Repr

namespace SocketClass

/-- `setParameters()` and `addParameters()` in the constructors, which get a number -/
def pars (nr : SystemCallNr) : SocketClass → List Par
  | .socket => [.plain .domain, .plain .type, .prot]
  | .socketPair => [.plain .domain, .plain .type, .prot, .pair]
  | .bind | .connect => [.plain .sockfd, .addr .paramIn, .addrlen]
  | .listen => [.plain .sockfd, .plain .backlog]
  | .accept => [.plain .sockfd, .addr .paramOut, .addressLengthPointer] ++
      if nr = .accept4 then [.plain .flags] else []
  | .shutdown => [.plain .sockfd, .plain .how]
  | .getSockName | .getPeerName => [.plain .sockfd, .addr .paramOut, .addressLengthPointer]
  | .recv => [.plain .sockfd, .buf .paramOut .result, .plain .count, .plain .flags]
  | .recvFrom => [.plain .sockfd, .buf .paramOut .result, .plain .count, .plain .flags] ++
      [.addr .paramOut, .addressLengthPointer]
  | .recvMsg => [.plain .sockfd, .recvMessageHeader, .plain .flags]
  | .recvMMsg => [.plain .sockfd, .msgvec, .plain .numMsgs, .plain .flags, .timeout]
  | .send => [.plain .sockfd, .buf .paramIn .count, .plain .count, .plain .flags]
  | .sendTo => [.plain .sockfd, .buf .paramIn .count, .plain .count, .plain .flags] ++
      [.addr .paramIn, .addrlen]
  | .sendMsg => [.plain .sockfd, .sendMessageHeader, .plain .flags]
  | .sendMMsg => [.plain .sockfd, .msgvec, .plain .numMsgs, .plain .flags]
  | .getSockOpt item => [.plain .sockfd, .plain .level, .name, item.optval .get,
      { item := .optlen, type := .paramInOut }]
  | .setSockOpt item => [.plain .sockfd, .plain .level, .name, item.optval .set, .plain .optlen]

/-- `transferValues()` with a vector of this size: the items that are filled, and the indices of
their words -/
def transferValues (size : Nat) : SocketClass → List (Par × Nat)
  | .socket => [(.plain .domain, 0), (.plain .type, 1), (.prot, 2)]
  | .socketPair => [(.plain .domain, 0), (.plain .type, 1), (.prot, 2), (.pair, 3)]
  | .bind | .connect => [(.plain .sockfd, 0), (.addrlen, 2), (.addr .paramIn, 1)]
  | .listen => [(.plain .sockfd, 0), (.plain .backlog, 1)]
  | .accept => [(.plain .sockfd, 0), (.addressLengthPointer, 2)] ++
      (if 3 < size then [(.plain .flags, 3)] else []) ++ [(.addr .paramOut, 1)]
  | .shutdown => [(.plain .sockfd, 0), (.plain .how, 1)]
  | .getSockName | .getPeerName =>
      [(.plain .sockfd, 0), (.addressLengthPointer, 2), (.addr .paramOut, 1)]
  | .recv => [(.plain .sockfd, 0), (.plain .count, 2), (.plain .flags, 3),
      (.buf .paramOut .result, 1)]
  | .recvFrom => [(.plain .sockfd, 0), (.plain .count, 2), (.plain .flags, 3),
      (.addressLengthPointer, 5), (.addr .paramOut, 4), (.buf .paramOut .result, 1)]
  | .send => [(.plain .sockfd, 0), (.plain .count, 2), (.plain .flags, 3),
      (.buf .paramIn .count, 1)]
  | .sendTo => [(.plain .sockfd, 0), (.plain .count, 2), (.plain .flags, 3), (.addrlen, 5),
      (.addr .paramIn, 4), (.buf .paramIn .count, 1)]
  | .recvMsg => [(.plain .sockfd, 0), (.recvMessageHeader, 1), (.plain .flags, 2)]
  | .sendMsg => [(.plain .sockfd, 0), (.sendMessageHeader, 1), (.plain .flags, 2)]
  | .recvMMsg => [(.plain .sockfd, 0), (.plain .numMsgs, 2), (.msgvec, 1), (.plain .flags, 3),
      (.timeout, 4)]
  | .sendMMsg => [(.plain .sockfd, 0), (.plain .numMsgs, 2), (.msgvec, 1), (.plain .flags, 3)]
  | .getSockOpt item => [(.plain .sockfd, 0), (.plain .level, 1), (.name, 2),
      ({ item := .optlen, type := .paramInOut }, 4), (item.optval .get, 3)]
  | .setSockOpt item => [(.plain .sockfd, 0), (.plain .level, 1), (.name, 2), (.plain .optlen, 4),
      (item.optval .set, 3)]

/-- `m_update_args`, which the constructor of `SocketCallBase` makes of the parameters -/
def updateArgs (pars : List Par) : List Par :=
  pars.filter (fun p => p.type.needsUpdate && !p.deferFill) ++
    pars.filter fun p => p.type.needsUpdate && p.deferFill

end SocketClass

/-- `create_syscall()`, as far as the socket calls are concerned -/
def createSyscall (options : Int → Option SocketOption) (args : Fin 6 → Word) :
    SystemCallNr → Option SocketClass
  | .socket => some .socket
  | .socketpair => some .socketPair
  | .bind => some .bind
  | .connect => some .connect
  | .listen => some .listen
  | .accept | .accept4 => some .accept
  | .shutdown => some .shutdown
  | .getpeername => some .getPeerName
  | .getsockname => some .getSockName
  | .recvfrom => some .recvFrom
  | .sendto => some .sendTo
  | .recvmsg => some .recvMsg
  | .sendmsg => some .sendMsg
  | .recvmmsg => some .recvMMsg
  | .sendmmsg => some .sendMMsg
  | .getsockopt => some (.getSockOpt (sockOptItem options .get (args 1) (args 2)))
  | .setsockopt => some (.setSockOpt (sockOptItem options .set (args 1) (args 2)))
  | _ => none

namespace SocketCall

/-- all of them -/
def all : List SocketCall :=
  [.socket, .bind, .connect, .listen, .accept, .getsockname, .getpeername, .socketpair, .send,
    .recv, .sendto, .recvfrom, .shutdown, .setsockopt, .getsockopt, .sendmsg, .recvmsg, .accept4,
    .recvmmsg, .sendmmsg]

/-- `SocketCallType::call()`; the numbers are those of an `int` -/
def ofWord (w : Word) : Option SocketCall := all.find? fun call => w.toUInt32.toNat = call.num

/-- `translatedSysCallNr()` -/
def translatedSysCallNr : SocketCall → Option SystemCallNr
  | .accept4 => some .accept4
  | .accept => some .accept
  | .bind => some .bind
  | .connect => some .connect
  | .getpeername => some .getpeername
  | .getsockname => some .getsockname
  | .getsockopt => some .getsockopt
  | .listen => some .listen
  | .recvfrom => some .recvfrom
  | .recvmmsg => some .recvmmsg
  | .recvmsg => some .recvmsg
  | .sendmmsg => some .sendmmsg
  | .sendmsg => some .sendmsg
  | .sendto => some .sendto
  | .setsockopt => some .setsockopt
  | .shutdown => some .shutdown
  | .socketpair => some .socketpair
  | .socket => some .socket
  | .send | .recv => none

/-- the level and the name of an option; the number of arguments is that of `getsockopt()` -/
def fetchOptLevelAndName (c : ItemContext) (ptr : UInt64) : Except Exc (Word × Word) := do
  let args ← fetchArgs c .getsockopt ptr
  let level ← inBuffer args[1]?
  let name ← inBuffer args[2]?
  pure (level, name)

/-- `create_socket_call_syscall()` -/
def create (options : Int → Option SocketOption) (c : ItemContext) (ptr : UInt64) :
    SocketCall → Except Exc SocketClass
  | .socket => .ok .socket
  | .socketpair => .ok .socketPair
  | .bind => .ok .bind
  | .connect => .ok .connect
  | .listen => .ok .listen
  | .accept | .accept4 => .ok .accept
  | .shutdown => .ok .shutdown
  | .getsockname => .ok .getSockName
  | .getpeername => .ok .getPeerName
  | .recv => .ok .recv
  | .recvfrom => .ok .recvFrom
  | .send => .ok .send
  | .sendto => .ok .sendTo
  | .recvmsg => .ok .recvMsg
  | .sendmsg => .ok .sendMsg
  | .recvmmsg => .ok .recvMMsg
  | .sendmmsg => .ok .sendMMsg
  | .getsockopt => do
    let (level, name) ← fetchOptLevelAndName c ptr
    pure (.getSockOpt (sockOptItem options .get level name))
  | .setsockopt => do
    let (level, name) ← fetchOptLevelAndName c ptr
    pure (.setSockOpt (sockOptItem options .set level name))

end SocketCall

/-! ## items -/

/-- a tracee at one of its stops -/
structure TraceeStop where
  mem : Memory
  maxBufferPrefetch : Nat
  map : FDInfoMap

/-- what the items see of the call and of the tracee -/
structure CallView where
  stop : TraceeStop
  isEnterStop : Bool
  abi : ABI
  /-- `callNr()`, which is translated for `socketcall()` -/
  nr : Option SystemCallNr
  error : Option ErrnoResult

/-- the virtual functions of the items and of their calls -/
structure SocketItems (α : Type) where
  /-- `processData()` of an item with this word; the contents of some items can be seen -/
  processData : SocketClass → CallView → SocketItem → Word → (SocketItem → Option α) → Except Exc α
  updateData : SocketClass → CallView → SocketItem → (SocketItem → α) → Except Exc α
  /-- `reset()` of the return item -/
  reset : α → α
  updateFDTracking : SocketClass → CallView → (SocketItem → α) → Except Exc FDInfoMap

/-- what is known of a call after its exit -/
structure DecodedCall (α : Type) where
  items : SocketItem → α
  abi : ABI
  error : Option ErrnoResult
  map : FDInfoMap

namespace SocketItems

variable {α : Type} (v : SocketItems α) (cls : SocketClass) (view : CallView)

def fill (p : Par) (w : Word) : Fill SocketItem α Exc :=
  { cell := p.item, looksAt := p.looksAt, content := v.processData cls view p.item w }

/-- the loop of `fillParameters()`, and the deferred parameters behind it -/
def fillParameters : List (Par × Word) → List (Par × Word) → (SocketItem → α) →
    Except Exc (SocketItem → α)
  | [], deferred, s => runAll (deferred.map fun p => v.fill cls view p.1 p.2) s
  | p :: ps, deferred, s =>
    if p.1.deferFill then fillParameters ps (deferred ++ [p]) s
    else (v.fill cls view p.1 p.2).run s >>= fillParameters ps deferred

def update (s : SocketItem → α) (p : Par) : Except Exc (SocketItem → α) :=
  (v.updateData cls view p.item s).map (Function.update s p.item)

/-- the loop of `setExitInfo()`, and the deferred parameters behind it -/
def updateParameters : List Par → List Par → (SocketItem → α) → Except Exc (SocketItem → α)
  | [], deferred, s => deferred.foldlM (v.update cls view) s
  | p :: ps, deferred, s =>
    if p.type.needsUpdate then
      if p.deferFill then updateParameters ps (deferred ++ [p]) s
      else v.update cls view s p >>= updateParameters ps deferred
    else updateParameters ps deferred s

/-- the return item -/
def setResult (info : ExitInfo) (s : SocketItem → α) : Except Exc (SocketItem → α) :=
  match info with
  | .retVal w =>
    (v.processData cls view .result w fun i => some (s i)).map (Function.update s .result)
  | .errVal _ => .ok (Function.update s .result (v.reset (s .result)))

/-- `setExitInfo()`, where `updates` is what becomes of the parameters before the descriptors are
tracked -/
def setExitInfo (updates : (SocketItem → α) → Except Exc (SocketItem → α)) (info : ExitInfo)
    (s : SocketItem → α) : Except Exc (DecodedCall α) := do
  let s ← v.setResult cls view info s
  let s ← updates s
  let map ← match info with
    | .retVal _ => v.updateFDTracking cls view s
    | .errVal _ => .ok view.stop.map
  pure { items := s, abi := view.abi, error := info.error, map := map }

end SocketItems

/-- both stops of a call -/
structure CallStops where
  abi : ABI
  entry : TraceeStop
  exit : TraceeStop
  info : ExitInfo

namespace CallStops

def entryView (c : CallStops) (nr : Option SystemCallNr) : CallView :=
  { stop := c.entry, isEnterStop := true, abi := c.abi, nr := nr, error := some ⟨Errno.noData⟩ }

def exitView (c : CallStops) (nr : Option SystemCallNr) : CallView :=
  { stop := c.exit, isEnterStop := false, abi := c.abi, nr := nr, error := c.info.error }

def entryContext (c : CallStops) : ItemContext :=
  { mem := c.entry.mem
    maxBufferPrefetch := c.entry.maxBufferPrefetch
    is32BitEmulationABI := c.abi.is32BitEmulation
    hasResultValue := false }

/-- `sizeof(unsigned long)` of the tracee -/
def wordSize (c : CallStops) : Nat := if c.abi.is32BitEmulation then 4 else 8

end CallStops

section
variable {α : Type} (v : SocketItems α) (options : Int → Option SocketOption)

/-- a direct call with these registers; `none`: there is no object of these classes for it -/
def direct (nr : SystemCallNr) (args : Fin 6 → Word) (c : CallStops) (s : SocketItem → α) :
    Option (Except Exc (DecodedCall α)) :=
  (createSyscall options args nr).map fun cls => do
    let pars := cls.pars nr
    let s ← v.fillParameters cls (c.entryView (some nr)) (pars.zip (List.ofFn args)) [] s
    let view := c.exitView (some nr)
    v.setExitInfo cls view (v.updateParameters cls view pars []) c.info s

/-- `check2ndPass()`: words behind the end of the vector must not be accessed -/
def transfer (cls : SocketClass) (view : CallView) (vec : List Word) (s : SocketItem → α) :
    Except Exc (SocketItem → α) :=
  if vec.isEmpty then .ok s
  else (cls.transferValues vec.length).foldlM (fun s p => do
    let w ← inBuffer vec[p.2]?
    (v.fill cls view p.1 w).run s) s

/-- `socketcall()` with this sub-call and the address of its block, which are its own parameters;
`postSystemCall()` updates the others -/
def subCall (call : SocketCall) (ptr : UInt64) (c : CallStops) (s : SocketItem → α) :
    Except Exc (DecodedCall α) := do
  let cls ← call.create options c.entryContext ptr
  let vec ← call.fetchArgs c.entryContext ptr
  let s ← transfer v cls (c.entryView call.translatedSysCallNr) vec s
  let view := c.exitView call.translatedSysCallNr
  v.setExitInfo cls view
    (fun s => (SocketClass.updateArgs (cls.pars .socketcall)).foldlM (v.update cls view) s) c.info s

/-- `socketcall()` with these registers -/
def socketcall (regs : Fin 6 → Word) (c : CallStops) (s : SocketItem → α) :
    Except Exc (DecodedCall α) :=
  match SocketCall.ofWord (regs 0) with
  | some call => subCall v options call (regs 1) c s
  | none => .error (.runtime "unsupported socketcall() sub-call")

end

/-! ## the order of the items -/

/-- where the parameters are filled: the deferred ones last -/
def fillOrder (pars : List Par) : List Nat :=
  (List.range pars.length).filter (fun k => !(pars.getD k .prot).deferFill) ++
    (List.range pars.length).filter fun k => (pars.getD k .prot).deferFill

namespace SocketItems

variable {α : Type} {v : SocketItems α} {cls : SocketClass} {view : CallView}

theorem fillParameters_eq (ps deferred : List (Par × Word)) (s : SocketItem → α) :
    v.fillParameters cls view ps deferred s
      = runAll ((ps.filter (fun p => !p.1.deferFill) ++ deferred ++ ps.filter fun p =>
          p.1.deferFill).map fun p => v.fill cls view p.1 p.2) s := by
  induction ps generalizing deferred s with
  | nil =>
    unfold fillParameters
    rw [List.filter_nil, List.filter_nil, List.nil_append, List.append_nil]
  | cons p ps ih =>
    unfold fillParameters
    cases hp : p.1.deferFill with
    | true =>
      rw [if_pos rfl, ih, List.filter_cons_of_neg (by simp [hp]),
        List.filter_cons_of_pos (by simp [hp])]
      simp only [List.append_assoc, List.singleton_append]
    | false =>
      rw [if_neg Bool.false_ne_true, List.filter_cons_of_pos (by simp [hp]),
        List.filter_cons_of_neg (by simp [hp]), List.cons_append, List.cons_append, List.map_cons]
      unfold runAll
      rw [List.foldlM_cons]
      exact congrArg _ (funext fun t => ih deferred t)

theorem updateParameters_eq (ps deferred : List Par) (s : SocketItem → α) :
    v.updateParameters cls view ps deferred s
      = (ps.filter (fun p => p.type.needsUpdate && !p.deferFill) ++ deferred ++
          ps.filter fun p => p.type.needsUpdate && p.deferFill).foldlM (v.update cls view) s := by
  induction ps generalizing deferred s with
  | nil =>
    unfold updateParameters
    rw [List.filter_nil, List.filter_nil, List.nil_append, List.append_nil]
  | cons p ps ih =>
    unfold updateParameters
    cases hu : p.type.needsUpdate with
    | false =>
      rw [if_neg Bool.false_ne_true, ih, List.filter_cons_of_neg (by simp [hu]),
        List.filter_cons_of_neg (by simp [hu])]
    | true =>
      rw [if_pos rfl]
      cases hp : p.deferFill with
      | true =>
        rw [if_pos rfl, ih, List.filter_cons_of_neg (by simp [hp]),
          List.filter_cons_of_pos (by simp [hp, hu])]
        simp only [List.append_assoc, List.singleton_append]
      | false =>
        rw [if_neg Bool.false_ne_true, List.filter_cons_of_pos (by simp [hp, hu]),
          List.filter_cons_of_neg (by simp [hp]), List.cons_append, List.cons_append,
          List.foldlM_cons]
        exact congrArg _ (funext fun t => ih deferred t)

/-- the parameters with their registers are filled by their places -/
theorem fillParameters_order {pars : List Par} {ws : List Word} (h : pars.length ≤ ws.length)
    (s : SocketItem → α) :
    v.fillParameters cls view (pars.zip ws) [] s
      = runAll ((fillOrder pars).map fun k =>
          v.fill cls view (pars.getD k .prot) (ws.getD k 0)) s := by
  have hzip : pars.zip ws = (List.range pars.length).map fun k =>
      (pars.getD k .prot, ws.getD k 0) := by
    apply List.ext_getElem
    · simp [h]
    · intro k hk _
      have hkp : k < pars.length := by simpa [h] using hk
      simp [hkp, hkp.trans_le h]
  rw [fillParameters_eq, List.append_nil, hzip, List.filter_map, List.filter_map, ← List.map_append,
    List.map_map]
  rfl

/-- the items that `SocketCallBase` updates are those that the direct call updates, in its order -/
theorem updateParameters_updateArgs (pars : List Par) (s : SocketItem → α) :
    v.updateParameters cls view pars [] s
      = (SocketClass.updateArgs pars).foldlM (v.update cls view) s := by
  rw [updateParameters_eq, List.append_nil]
  rfl

/-- words of the vector are filled in by their places -/
theorem transfer_eq {vec : List Word} (hne : vec ≠ [])
    (hlt : ∀ p ∈ cls.transferValues vec.length, p.2 < vec.length) (s : SocketItem → α) :
    transfer v cls view vec s
      = runAll ((cls.transferValues vec.length).map fun p =>
          v.fill cls view p.1 (vec.getD p.2 0)) s := by
  unfold transfer
  rw [if_neg (by rwa [List.isEmpty_iff])]
  generalize cls.transferValues vec.length = ps at hlt
  induction ps generalizing s with
  | nil => rfl
  | cons p ps ih =>
    have hp : p.2 < vec.length := hlt p List.mem_cons_self
    unfold runAll at ih ⊢
    rw [List.map_cons, List.foldlM_cons, List.foldlM_cons, List.getElem?_eq_getElem hp,
      inBuffer_some, ok_bind, List.getD_eq_getElem _ _ hp]
    exact congrArg _ (funext fun t => ih t fun q hq => hlt q (List.mem_cons_of_mem p hq))

end SocketItems

/-! ## the argument block -/

/-- the block at this address has these words, each of so many bytes -/
def ArgBlock (m : Memory) (size : Nat) : UInt64 → List Word → Prop
  | _, [] => True
  | a, w :: ws => ¬ Unreadable m a size ∧
      (bytesAt m a size).map (fun bs => UInt64.ofNat (le bs)) = some w ∧
      ArgBlock m size (a + UInt64.ofNat size) ws

instance instDecidableArgBlock (m : Memory) (size : Nat) :
    ∀ (a : UInt64) (ws : List Word), Decidable (ArgBlock m size a ws)
  | _, [] => isTrue trivial
  | a, _ :: ws =>
    have := instDecidableArgBlock m size (a + UInt64.ofNat size) ws
    inferInstanceAs (Decidable (¬ (a = 0 ∨ bytesAt m a (fetched size) = none) ∧ _ ∧ _))

theorem readStructsLoop_argBlock {m : Memory} {size : Nat} {a : UInt64} {ws : List Word}
    (h : ArgBlock m size a ws) :
    ∃ args, readStructsLoop m size a (List.replicate ws.length (List.replicate size 0))
        = (args, .ok true) ∧ args.map (fun bs => UInt64.ofNat (le bs)) = ws := by
  induction ws generalizing a with
  | nil => exact ⟨[], rfl, rfl⟩
  | cons w ws ih =>
    obtain ⟨hread, hw, hws⟩ := h
    obtain ⟨bs, hbs, rfl⟩ := Option.map_eq_some_iff.mp hw
    obtain ⟨args, hargs, rfl⟩ := ih hws
    have hlen : size ≤ (List.replicate size (0 : UInt8)).length := (List.length_replicate ..).ge
    have hdrop : (List.replicate size (0 : UInt8)).drop size = [] :=
      List.drop_of_length_le (List.length_replicate ..).le
    have hone := (readStructInto_true_iff bs hlen).mpr
      ⟨hread, bs, hbs, by rw [hdrop, List.append_nil]⟩
    refine ⟨bs :: args, ?_, rfl⟩
    rw [List.length_cons, List.replicate_succ]
    unfold readStructsLoop
    rw [hone]
    simp only [hargs]

namespace SocketCall

/-- the element of `NUM_SOCKETCALL_ARGS` -/
def numArgs (call : SocketCall) : Nat := numSocketcallArgs.getD call.num 0

theorem getElem?_num (call : SocketCall) : numSocketcallArgs[call.num]? = some call.numArgs := by
  cases call <;> rfl

theorem fetchArgs_argBlock {c : CallStops} {a : UInt64} {call : SocketCall} {ws : List Word}
    (hlen : ws.length = call.numArgs) (h : ArgBlock c.entry.mem c.wordSize a ws) :
    call.fetchArgs c.entryContext a = .ok ws := by
  obtain ⟨args, hargs, rfl⟩ := readStructsLoop_argBlock h
  unfold fetchArgs
  rw [getElem?_num, inBuffer_some, ok_bind, ← hlen, List.length_map]
  rw [List.length_map] at hargs
  show ((readStructsLoop c.entry.mem c.wordSize a
      (List.replicate args.length (List.replicate c.wordSize 0))).2 >>= fun _ =>
    pure ((readStructsLoop c.entry.mem c.wordSize a
      (List.replicate args.length (List.replicate c.wordSize 0))).1.map _)) = _
  rw [hargs]
  rfl

/-- the sub-call fills and updates the parameters of the direct call -/
structure Agrees (call : SocketCall) (nr : SystemCallNr) (cls : SocketClass) : Prop where
  transferred : cls.transferValues call.numArgs
    = (call.transferred call.numArgs).map fun k => ((cls.pars nr).getD k .prot, k)
  /-- an item is filled behind the ones that it looks at, if it is so in the direct call -/
  order : KeepsOrder
    (fun a b => ¬ ((cls.pars nr).getD a .prot).Apart ((cls.pars nr).getD b .prot))
    (fillOrder (cls.pars nr)) (call.transferred call.numArgs)
  updates : SocketClass.updateArgs (cls.pars .socketcall) = SocketClass.updateArgs (cls.pars nr)
  length : (cls.pars nr).length ≤ 6

instance (call : SocketCall) (nr : SystemCallNr) (cls : SocketClass) :
    Decidable (call.Agrees nr cls) :=
  decidable_of_iff (_ ∧ _ ∧ _ ∧ _)
    ⟨fun ⟨h1, h2, h3, h4⟩ => ⟨h1, h2, h3, h4⟩, fun h => ⟨h.1, h.2, h.3, h.4⟩⟩

theorem agrees_getsockopt (item : SockOptItem) :
    Agrees .getsockopt .getsockopt (.getSockOpt item) := by
  cases item with
  | _ => decide

theorem agrees_setsockopt (item : SockOptItem) :
    Agrees .setsockopt .setsockopt (.setSockOpt item) := by
  cases item with
  | _ => decide

theorem numArgs_le (call : SocketCall) : 0 < call.numArgs ∧ call.numArgs ≤ 6 := by
  cases call with
  | _ => decide

theorem length_block (args : Fin 6 → Word) (call : SocketCall) :
    ((List.ofFn args).take call.numArgs).length = call.numArgs := by
  rw [List.length_take, List.length_ofFn]
  exact min_eq_left call.numArgs_le.2

/-- the same class is made for the direct call with the words of the block -/
theorem create_eq (options : Int → Option SocketOption) {call : SocketCall} {nr : SystemCallNr}
    (hnr : call.translatedSysCallNr = some nr) {args : Fin 6 → Word} {c : CallStops} {a : UInt64}
    (hblock : ArgBlock c.entry.mem c.wordSize a ((List.ofFn args).take call.numArgs)) :
    ∃ cls, createSyscall options args nr = some cls ∧
      call.create options c.entryContext a = .ok cls ∧ call.Agrees nr cls := by
  have hfetch : call.numArgs = 5 →
      fetchOptLevelAndName c.entryContext a = .ok (args 1, args 2) := by
    intro h5
    rw [h5] at hblock
    unfold fetchOptLevelAndName
    rw [fetchArgs_argBlock (length_block args .getsockopt) hblock, ok_bind]
    rfl
  cases call with
  | getsockopt =>
    cases hnr
    refine ⟨_, rfl, ?_, agrees_getsockopt _⟩
    show (fetchOptLevelAndName c.entryContext a >>= _) = _
    rw [hfetch rfl]
    rfl
  | setsockopt =>
    cases hnr
    refine ⟨_, rfl, ?_, agrees_setsockopt _⟩
    show (fetchOptLevelAndName c.entryContext a >>= _) = _
    rw [hfetch rfl]
    rfl
  | send | recv => cases hnr
  | _ =>
    cases hnr
    exact ⟨_, rfl, rfl, by decide⟩

end SocketCall

/-! ## both calls -/

section
variable {α : Type} {v : SocketItems α} {call : SocketCall} {nr : SystemCallNr} {cls : SocketClass}
  {args : Fin 6 → Word}

/-- the items after the entry -/
theorem toOption_transfer (h : call.Agrees nr cls) (view : CallView) (s : SocketItem → α) :
    (transfer v cls view ((List.ofFn args).take call.numArgs) s).toOption
      = (v.fillParameters cls view ((cls.pars nr).zip (List.ofFn args)) [] s).toOption := by
  have hlen := call.length_block args
  have hne : (List.ofFn args).take call.numArgs ≠ [] := by
    intro hnil
    rw [hnil] at hlen
    exact absurd hlen call.numArgs_le.1.ne
  have hlt : ∀ k ∈ call.transferred call.numArgs, k < call.numArgs :=
    call.transferred_lt call.getElem?_num
  have hlt' : ∀ p ∈ cls.transferValues call.numArgs, p.2 < call.numArgs := by
    rw [h.transferred]
    intro p hp
    obtain ⟨k, hk, rfl⟩ := List.mem_map.mp hp
    exact hlt k hk
  have hwords : ∀ k ∈ call.transferred call.numArgs,
      v.fill cls view ((cls.pars nr).getD k .prot) (((List.ofFn args).take call.numArgs).getD k 0)
        = v.fill cls view ((cls.pars nr).getD k .prot) ((List.ofFn args).getD k 0) := by
    intro k hk
    congr 1
    rw [List.getD_eq_getElem?_getD, List.getElem?_take_of_lt (hlt k hk)]
    rfl
  have hpars : (cls.pars nr).length ≤ (List.ofFn args).length := by
    rw [List.length_ofFn]
    exact h.length
  rw [SocketItems.transfer_eq hne (by rwa [hlen]), hlen, h.transferred, List.map_map,
    SocketItems.fillParameters_order hpars]
  have hmap := List.map_congr_left hwords
  calc _ = (runAll ((call.transferred call.numArgs).map fun k =>
        v.fill cls view ((cls.pars nr).getD k .prot) ((List.ofFn args).getD k 0)) s).toOption :=
        congrArg (fun fs => (runAll fs s).toOption) hmap
    _ = _ := runAll_eq_of_keepsOrder h.order s

theorem toOption_bind {β γ : Type} (x : Except Exc β) (f : β → Except Exc γ) :
    (x >>= f).toOption = x.toOption.bind fun b => (f b).toOption := by
  cases x <;> rfl

/-- for each sub-call with a number of its own, whatever the items do, `socketcall()` with a block
that can be read is decoded as the direct call with the words of the block as registers: the same
items, error and descriptors after the exit, or both fail -/
theorem socketcall_eq_direct (v : SocketItems α) (options : Int → Option SocketOption)
    {call : SocketCall} {nr : SystemCallNr} (hnr : call.translatedSysCallNr = some nr)
    {regs args : Fin 6 → Word} (hcall : SocketCall.ofWord (regs 0) = some call) {c : CallStops}
    (hblock : ArgBlock c.entry.mem c.wordSize (regs 1) ((List.ofFn args).take call.numArgs))
    (s : SocketItem → α) :
    (direct v options nr args c s).map Except.toOption
      = some (socketcall v options regs c s).toOption := by
  obtain ⟨cls, hdirect, hcreate, hagrees⟩ := SocketCall.create_eq options hnr hblock
  have hfetch := SocketCall.fetchArgs_argBlock (call.length_block args) hblock
  have hupdates : ∀ view, v.updateParameters cls view (cls.pars nr) []
      = fun s => (SocketClass.updateArgs (cls.pars .socketcall)).foldlM (v.update cls view) s := by
    intro view
    funext s
    rw [SocketItems.updateParameters_updateArgs, hagrees.updates]
  unfold direct socketcall
  rw [hdirect, hcall]
  show some _ = some (subCall v options call (regs 1) c s).toOption
  unfold subCall
  rw [hcreate, ok_bind, hfetch, ok_bind, hnr, toOption_bind, toOption_bind,
    toOption_transfer hagrees]
  simp only [hupdates]

end

/-! ## a call of sendto() -/

/-- the items of `sendto()` have their words, and `buf` and `addr` the bytes behind them -/
def sendtoItems : SocketItems (Word × List UInt8) where
  processData _ view item w seen :=
    let bytes := fun (len : Option (Word × List UInt8)) (most : Nat) =>
      (bytesAt view.stop.mem w (min (len.elim 0 fun x => x.1.toNat) most)).getD []
    match item with
    | .buf => .ok (w, bytes (seen .count) view.stop.maxBufferPrefetch)
    | .addr => .ok (w, bytes (seen .addrlen) storageSize)
    | _ => .ok (w, [])
  updateData _ _ item s := .ok (s item)
  reset x := (0, x.2)
  updateFDTracking _ view _ := .ok view.stop.map

/-- the block is at 64, and two bytes for the peer with the address 2 are sent -/
def sendtoStop : TraceeStop where
  mem a := some <|
    if a = 64 then 3 else if a = 68 then 128 else if a = 72 then 2 else if a = 80 then 130
    else if a = 84 then 2 else if a = 128 then 104 else if a = 129 then 105
    else if a = 130 then 2 else 0
  maxBufferPrefetch := 16
  map := OrdMap.empty

def sendtoStops : CallStops where
  abi := .i386
  entry := sendtoStop
  exit := sendtoStop
  info := .retVal 2

def sendtoArgs : Fin 6 → Word := fun i => [3, 128, 2, 0, 130, 2].getD i 0

def sendtoRegs : Fin 6 → Word := fun i => [11, 64].getD i 0

theorem socketcall_eq_direct_sendto :
    (direct sendtoItems (fun _ => none) .sendto sendtoArgs sendtoStops fun _ => (0, [])).map
        Except.toOption
      = some (socketcall sendtoItems (fun _ => none) sendtoRegs sendtoStops
          fun _ => (0, [])).toOption ∧
    (socketcall sendtoItems (fun _ => none) sendtoRegs sendtoStops fun _ => (0, [])).toOption.map
        (fun d => (d.items .buf, d.items .addr, d.items .result))
      = some ((128, [104, 105]), (130, [2, 0]), (2, [])) :=
  have hcall : SocketCall.ofWord (sendtoRegs 0) = some .sendto := by decide +kernel
  ⟨socketcall_eq_direct sendtoItems (fun _ => none) rfl hcall (by decide +kernel) _,
    by decide +kernel⟩

end Clues
