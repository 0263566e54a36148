import Clues.Items.FilterProg
import Clues.Items.RecvMmsg
import Clues.Items.SendMsg
import Clues.Items.SocketAddress
import Clues.Syscalls.Creating

/-!
# Values that may be missing

Some items look at the value of another item, or at the elements of a vector, when they are
processed. The value may be missing then, as the memory of the tracee is not the same at entry and at
exit, and parts of it cannot be read.

* `GetSockOptCall`   a call of `getsockopt()`: its items at both stops, and `SO_PEERPIDFD`;
* `SendMmsg`         a call of `sendmmsg()`;
* `SocketCall`       the sub-calls of `socketcall()`, with the words they look at;
* `ItemCall`         a call with such items: `run` is what is processed at both stops;
* `accessesSafely_iff_fits`   when no empty optional is dereferenced and no element outside of a
                              vector is accessed.
-/

namespace Clues

open Lib.LittleEndian

/-- the value of `IntValue` -/
def intValue (w : Word) : Int := Int.bmod w.toNat (2 ^ 32)

/-! ## getsockopt -/

/-- the item for the value, by the class of the option -/
inductive GetOption where
  /-- `GetSockOptVal` -/
  | value (size : Nat) (item : PointerToScalar)
  /-- `GetFileDescSockOptSystemCall` -/
  | fileDesc (item : PointerToScalar)
  | struct (size : Nat) (item : GetSockOptStruct)
  | linger (item : GetSockOptStruct)
  | memInfo (item : GetMemInfoSockOpt)
  | filter (item : FilterProg)

def GetOption.isFileDesc : GetOption → Bool
  | .fileDesc _ => true
  | _ => false

/-- a call, with the items as they are before; `SO_PEERPIDFD` is the option with a descriptor -/
structure GetSockOptCall where
  level : Word
  name : Word
  opt : GetOption
  optlen : PointerToScalar
  entry : ItemContext
  exit : ItemContext
  map : FDInfoMap
  fileDesc : opt.isFileDesc = isPeerPidfd level name

namespace GetSockOptCall

variable (call : GetSockOptCall)

/-- `optlen.value()` -/
def number (p : PointerToScalar) : Option Int := p.val.map intOfBytes

/-- both stops and `updateFDTracking()`; the value is filled and updated after the length -/
def runWith {σ : Type} (processData : Option Int → Except Exc σ)
    (updateData : Option Int → σ → Except Exc σ) (optval : σ → Option FileNum) :
    Except Exc Unit := do
  let optlen ← call.optlen.processData .paramInOut call.entry.mem 4
  let item ← processData (number optlen)
  let optlen ← optlen.updateData .paramInOut call.exit.mem 4
  let item ← updateData (number optlen) item
  if call.exit.hasResultValue then
    (GetSockOptSystemCall.updateFDTracking call.level call.name (optval item) call.map).1
  else pure ()

def run : Except Exc Unit :=
  match call.opt with
  | .value size item =>
    call.runWith (fun _ => item.processData .paramOut call.entry.mem size)
      (GetSockOptVal.updateData size call.exit) fun _ => none
  | .fileDesc item =>
    call.runWith (fun _ => item.processData .paramOut call.entry.mem 4)
      (GetSockOptVal.updateData 4 call.exit) fun item => item.val.map intOfBytes
  | .struct size item =>
    call.runWith (fun _ => .ok item.processData) (GetSockOptStruct.updateData size call.exit)
      fun _ => none
  | .linger item =>
    call.runWith (fun _ => .ok item.processData) (GetLingerSockOpt.updateData call.exit)
      fun _ => none
  | .memInfo item =>
    call.runWith (fun _ => .ok item) (fun len item => item.updateData call.exit len) fun _ => none
  | .filter item =>
    call.runWith (fun len => GetFilterSocktOpt.processData len item)
      (GetFilterSocktOpt.updateData call.exit) fun _ => none

/-- the length that is read at a stop -/
def lenAt (m : Memory) : Option Int := (scalarAt m call.optlen.ptr 4).map intOfBytes

/-- what has to be readable: the length on entry or on exit, and the descriptor -/
def Fits : Prop :=
  match call.opt with
  | .value _ _ => True
  | .fileDesc item => call.exit.hasResultValue = true →
      (∃ len ∈ call.lenAt call.exit.mem, ¬ lessThanSize len 4) ∧
        ¬ Unreadable call.exit.mem item.ptr 4
  | .struct _ _ | .linger _ | .memInfo _ => call.exit.hasResultValue = true →
      ¬ Unreadable call.exit.mem call.optlen.ptr 4
  | .filter _ => ¬ Unreadable call.entry.mem call.optlen.ptr 4

end GetSockOptCall

/-! ## addresses -/

/-- `accept()`, `getsockname()`, `getpeername()` or `recvfrom()`, with the items as they are
before -/
structure ReturnedAddress where
  item : SocketAddress
  len : AddressLengthPointer
  entry : ItemContext
  exit : ItemContext

namespace ReturnedAddress

variable (call : ReturnedAddress)

def run : Except Exc Unit := do
  let len ← call.len.processData call.entry.mem
  let item ← call.item.processData .paramOut true call.entry (.pointer len)
  let len ← len.updateData call.exit
  let _ ← item.processData .paramOut false call.exit (.pointer len)
  pure ()

def Fits : Prop :=
  call.exit.hasResultValue = true → call.item.ptr ≠ 0 →
    ¬ Unreadable call.exit.mem call.len.scalar.ptr 4

end ReturnedAddress

/-! ## vectors of messages -/

/-- the loop in `SendMessageHeaderVector::updateData()`: `m_headers[i]` is given its length -/
def updateSendHeaders {α : Type} : List Mmsghdr → List α → Except Exc (List (α × Option UInt32))
  | [], headers => .ok (headers.map fun header => (header, none))
  | _ :: _, [] => .error (.undefined .bounds)
  | raw :: rest, header :: headers =>
    (updateSendHeaders rest headers).map fun headers => (header, some raw.len) :: headers

/-- a call of `sendmmsg()`; nothing undefined happens in the other sub-items -/
structure SendMmsg where
  alloc : Nat → Bool
  ptr : UInt64
  vlen : Word
  entry : ItemContext
  exit : ItemContext
  sameABI : exit.is32BitEmulationABI = entry.is32BitEmulationABI
  others : Msghdr → Except Exc Unit
  defined : ∀ hdr, Defined (others hdr)

namespace SendMmsg

variable (call : SendMmsg)

def run : Except Exc Unit := do
  let headers ← processSendVector call.alloc call.entry call.others call.ptr call.vlen
  match ← fetchRawHeaders call.alloc call.exit call.ptr call.vlen with
  | none => pure ()
  | some raw =>
    let _ ← updateSendHeaders raw headers
    pure ()

/-- there is a header for each message, or none is looked at -/
def Fits : Prop :=
  call.alloc (call.vlen.toUInt32.toNat * mmsghdrSize call.entry.is32BitEmulationABI) = true →
    rawHeadersAt call.entry call.ptr call.vlen = none →
      rawHeadersAt call.exit call.ptr call.vlen = none

end SendMmsg

namespace RecvMmsg

variable (call : RecvMmsg)

/-- both stops; the exit does not follow if the entry fails -/
def run : Except Exc Unit := do
  (processRecvVector call.alloc call.entryContext call.others call.ptr call.vlen).1
  call.exited.1

def Entered : Prop :=
  call.alloc (call.vlen.toUInt32.toNat * mmsghdrSize call.is32BitEmulationABI) = true →
    rawHeadersAt call.entryContext call.ptr call.vlen = none →
      rawHeadersAt call.exitContext call.ptr call.vlen = none

end RecvMmsg

/-! ## socketcall -/

/-- `SocketCallType::Call`, without the invalid one -/
inductive SocketCall where
  | socket | bind | connect | listen | accept | getsockname | getpeername | socketpair | send | recv
  | sendto | recvfrom | shutdown | setsockopt | getsockopt | sendmsg | recvmsg | accept4 | recvmmsg
  | sendmmsg
  deriving DecidableEq, Repr

namespace SocketCall

/-- `SYS_SOCKET` and so on -/
def num : SocketCall → Nat
  | .socket => 1 | .bind => 2 | .connect => 3 | .listen => 4 | .accept => 5 | .getsockname => 6
  | .getpeername => 7 | .socketpair => 8 | .send => 9 | .recv => 10 | .sendto => 11
  | .recvfrom => 12 | .shutdown => 13 | .setsockopt => 14 | .getsockopt => 15 | .sendmsg => 16
  | .recvmsg => 17 | .accept4 => 18 | .recvmmsg => 19 | .sendmmsg => 20

/-- `NUM_SOCKETCALL_ARGS` -/
def numSocketcallArgs : List Nat :=
  [0, 3, 3, 3, 2, 3, 3, 3, 4, 4, 4, 6, 6, 2, 5, 5, 3, 3, 4, 5, 4]

/-- the words that `transferValues()` takes out of a vector of this size -/
def transferred (size : Nat) : SocketCall → List Nat
  | .socket => [0, 1, 2]
  | .socketpair => [0, 1, 2, 3]
  | .bind | .connect | .getsockname | .getpeername => [0, 2, 1]
  | .listen | .shutdown => [0, 1]
  | .accept | .accept4 => if 3 < size then [0, 2, 3, 1] else [0, 2, 1]
  | .send | .recv => [0, 2, 3, 1]
  | .sendto | .recvfrom => [0, 2, 3, 5, 4, 1]
  | .setsockopt | .getsockopt => [0, 1, 2, 4, 3]
  | .sendmsg | .recvmsg => [0, 1, 2]
  | .recvmmsg => [0, 2, 1, 3, 4]
  | .sendmmsg => [0, 2, 1, 3]

/-- `std::vector<INT>(count)` -/
def zeros (size count : Nat) : Structs size where
  elements := List.replicate count (List.replicate size 0)
  sized := by
    intro e he
    rw [List.eq_of_mem_replicate he, List.length_replicate]

/-- `SocketCallArgs::fetchArgs()`; the result of `readStructs()` is not looked at -/
def fetchArgs (c : ItemContext) (call : SocketCall) (ptr : UInt64) : Except Exc (List Word) := do
  let numArgs ← inBuffer numSocketcallArgs[call.num]?
  let args := readStructsInto c.mem ptr (zeros (if c.is32BitEmulationABI then 4 else 8) numArgs)
  let _ ← args.2
  pure (args.1.elements.map fun bs => UInt64.ofNat (le bs))

/-- `check2ndPass()` with `transferValues()` -/
def transferValues (call : SocketCall) (vec : List Word) : Except Exc (List Word) :=
  if vec.isEmpty then .ok []
  else (call.transferred vec.length).mapM fun i => inBuffer vec[i]?

def run (c : ItemContext) (call : SocketCall) (ptr : UInt64) : Except Exc Unit := do
  let vec ← fetchArgs c call ptr
  let _ ← call.transferValues vec
  pure ()

end SocketCall

/-! ## all of them -/

/-- a call whose items look at a value of another item, or at the elements of a vector. A `recvmsg()`
that tracks descriptors is left out: its control data are cleared on entry, so that the header, whose
value it looks at, is there when they are -/
inductive ItemCall where
  /-- `prctl(PR_SET_SECCOMP, SECCOMP_MODE_FILTER)` -/
  | filterProg (c : ItemContext) (item : FilterProg)
  /-- `setsockopt()` with `SO_ATTACH_FILTER` or `SO_ATTACH_REUSEPORT_CBPF` -/
  | classicBPF (c : ItemContext) (optlen : Word) (item : FilterProg)
  | getsockopt (call : GetSockOptCall)
  /-- `bind()`, `connect()` or `sendto()` -/
  | passedAddress (c : ItemContext) (len : Word) (item : SocketAddress)
  | returnedAddress (call : ReturnedAddress)
  | recvmmsg (call : RecvMmsg) (defined : ∀ hdr, Defined (call.others hdr))
  | sendmmsg (call : SendMmsg)
  | socketcall (c : ItemContext) (call : SocketCall) (ptr : UInt64)

namespace ItemCall

def run : ItemCall → Except Exc Unit
  | .filterProg c item => (item.processData c).map fun _ => ()
  | .classicBPF c optlen item =>
    (ClassicBPFSockOpt.processData c (intValue optlen) item).map fun _ => ()
  | .getsockopt call => call.run
  | .passedAddress c len item =>
    (item.processData .paramIn true c (.value (intValue len))).map fun _ => ()
  | .returnedAddress call => call.run
  | .recvmmsg call _ => call.run
  | .sendmmsg call => call.run
  | .socketcall c call ptr => SocketCall.run c call ptr

/-- no empty optional is dereferenced, and no element outside of a vector is accessed -/
def AccessesSafely (call : ItemCall) : Prop := Defined call.run

/-- the values that are looked at are there -/
def Fits : ItemCall → Prop
  | .filterProg c item => c.is32BitEmulationABI = true ∨ ¬ Unreadable c.mem item.ptr sockFprogSize
  | .classicBPF c optlen item => intValue optlen < sockFprogSize ∨
      c.is32BitEmulationABI = true ∨ ¬ Unreadable c.mem item.ptr sockFprogSize
  | .getsockopt call => call.Fits
  | .returnedAddress call => call.Fits
  | .recvmmsg call _ => call.Entered
  | .sendmmsg call => call.Fits
  | .passedAddress .. | .socketcall .. => True

end ItemCall

/-! ## getsockopt -/

namespace GetSockOptCall

variable (call : GetSockOptCall)

theorem defined_tracking (optval : Option FileNum) :
    Defined (GetSockOptSystemCall.updateFDTracking call.level call.name optval call.map).1 ↔
      (call.opt.isFileDesc = true → optval.isSome = true) := by
  unfold GetSockOptSystemCall.updateFDTracking
  rw [call.fileDesc]
  by_cases h : isPeerPidfd call.level call.name = true
  · rw [if_pos h]
    cases optval with
    | none => exact iff_of_false (not_defined .null) fun hs => Bool.false_ne_true (hs h)
    | some fd => exact iff_of_true (defined_ok ()) fun _ => rfl
  · rw [if_neg h]
    exact iff_of_true (defined_ok ()) fun hs => absurd hs h

theorem runWith_eq {σ : Type} (processData : Option Int → Except Exc σ)
    (updateData : Option Int → σ → Except Exc σ) (optval : σ → Option FileNum) :
    call.runWith processData updateData optval =
      (processData (call.lenAt call.entry.mem) >>= fun item =>
        updateData (call.lenAt call.exit.mem) item >>= fun item =>
          if call.exit.hasResultValue then
            (GetSockOptSystemCall.updateFDTracking call.level call.name (optval item) call.map).1
          else pure ()) := by
  have hentry : call.optlen.processData .paramInOut call.entry.mem 4
      = .ok { call.optlen with val := scalarAt call.entry.mem call.optlen.ptr 4 } :=
    PointerToScalar.fetchValue_eq _ _ _
  have hexit : ∀ p : PointerToScalar, p.updateData .paramInOut call.exit.mem 4
      = .ok { p with val := scalarAt call.exit.mem p.ptr 4 } :=
    fun p => PointerToScalar.fetchValue_eq _ _ _
  unfold runWith
  rw [hentry, ok_bind]
  simp only [hexit, ok_bind]
  rfl

/-- for an option that is no descriptor, the items decide -/
theorem runWith_defined {σ : Type} {processData : Option Int → Except Exc σ}
    {updateData : Option Int → σ → Except Exc σ} (h : call.opt.isFileDesc = false) :
    Defined (call.runWith processData updateData fun _ => none) ↔
      Defined (processData (call.lenAt call.entry.mem)) ∧
        ∀ item, processData (call.lenAt call.entry.mem) = .ok item →
          Defined (updateData (call.lenAt call.exit.mem) item) := by
  have htrack : ∀ item : σ, Defined (if call.exit.hasResultValue then
      (GetSockOptSystemCall.updateFDTracking call.level call.name none call.map).1
      else pure () : Except Exc Unit) := by
    intro item
    split_ifs
    · rw [defined_tracking, h]
      intro hs
      cases hs
    · exact defined_ok ()
  rw [runWith_eq, defined_bind]
  refine and_congr_right fun _ => forall₂_congr fun item _ => ?_
  exact defined_bind_of htrack

theorem lenAt_isSome_iff (m : Memory) :
    (call.lenAt m).isSome = true ↔ ¬ Unreadable m call.optlen.ptr 4 := by
  unfold lenAt
  rw [Option.isSome_map, scalarAt_isSome_iff]

/-- the items for structs -/
theorem runWith_struct {σ : Type} {item : σ} {updateData : Option Int → σ → Except Exc σ}
    (h : call.opt.isFileDesc = false)
    (hupdate : ∀ optlen, Defined (updateData optlen item) ↔
      (call.exit.hasResultValue = true → optlen.isSome = true)) :
    Defined (call.runWith (fun _ => .ok item) updateData fun _ => none) ↔
      (call.exit.hasResultValue = true → ¬ Unreadable call.exit.mem call.optlen.ptr 4) := by
  rw [runWith_defined call h, ← lenAt_isSome_iff, ← hupdate]
  constructor
  · intro hd
    exact hd.2 item rfl
  · intro hd
    refine ⟨defined_ok item, ?_⟩
    rintro _ ⟨⟩
    exact hd

theorem run_fileDesc {item : PointerToScalar} (h : call.opt = .fileDesc item) :
    Defined call.run ↔ (call.exit.hasResultValue = true →
      (∃ len ∈ call.lenAt call.exit.mem, ¬ lessThanSize len 4) ∧
        ¬ Unreadable call.exit.mem item.ptr 4) := by
  have hval : ∀ p : PointerToScalar, (if call.exit.hasResultValue = true ∧
      ∃ len ∈ call.lenAt call.exit.mem, ¬ lessThanSize len 4 then
        scalarAt call.exit.mem p.ptr 4 else none).isSome = true ↔
      (call.exit.hasResultValue = true ∧ ∃ len ∈ call.lenAt call.exit.mem, ¬ lessThanSize len 4) ∧
        ¬ Unreadable call.exit.mem p.ptr 4 := by
    intro p
    split_ifs with hlen
    · rw [scalarAt_isSome_iff]
      exact (and_iff_right hlen).symm
    · exact iff_of_false Bool.false_ne_true fun hs => hlen hs.1
  have hentry : item.processData .paramOut call.entry.mem 4 = .ok { item with val := none } := rfl
  unfold run
  rw [h]
  dsimp only
  rw [runWith_eq, hentry, ok_bind, GetSockOptVal.updateData_eq, ok_bind]
  cases hres : call.exit.hasResultValue with
  | false =>
    refine iff_of_true (defined_ok ()) ?_
    intro hs
    cases hs
  | true =>
    rw [hres] at hval
    rw [if_pos rfl, defined_tracking, h, Option.isSome_map, hval]
    constructor
    · intro hd _
      obtain ⟨hlen, hread⟩ := hd rfl
      exact ⟨hlen.2, hread⟩
    · intro hd _
      obtain ⟨hlen, hread⟩ := hd rfl
      exact ⟨⟨rfl, hlen⟩, hread⟩

theorem run_defined : Defined call.run ↔ call.Fits := by
  unfold Fits
  cases hopt : call.opt with
  | fileDesc item => exact call.run_fileDesc hopt
  | value size item =>
    have h : call.opt.isFileDesc = false := by rw [hopt]; rfl
    unfold run
    rw [hopt]
    refine iff_of_true ((call.runWith_defined h).mpr ⟨defined_ok _, fun item' _ => ?_⟩) trivial
    exact defined_of_ok (GetSockOptVal.updateData_eq _ _)
  | struct size item =>
    have h : call.opt.isFileDesc = false := by rw [hopt]; rfl
    unfold run
    rw [hopt]
    exact call.runWith_struct h fun _ => GetSockOptStruct.updateData_defined _ _
  | linger item =>
    have h : call.opt.isFileDesc = false := by rw [hopt]; rfl
    unfold run
    rw [hopt]
    exact call.runWith_struct h fun _ => GetLingerSockOpt.updateData_defined _
  | memInfo item =>
    have h : call.opt.isFileDesc = false := by rw [hopt]; rfl
    unfold run
    rw [hopt]
    exact call.runWith_struct h fun _ => GetMemInfoSockOpt.updateData_defined _
  | filter item =>
    have h : call.opt.isFileDesc = false := by rw [hopt]; rfl
    unfold run
    rw [hopt]
    dsimp only
    rw [call.runWith_defined h, GetFilterSocktOpt.processData_defined, lenAt_isSome_iff]
    refine and_iff_left fun item' hitem => ?_
    exact GetFilterSocktOpt.updateData_defined (GetFilterSocktOpt.processData_prog hitem)

end GetSockOptCall

/-! ## addresses -/

theorem AddressLength.addrLen_defined {len : AddressLengthPointer} :
    Defined (AddressLength.pointer len).addrLen ↔ len.scalar.val.isSome = true := by
  unfold addrLen
  dsimp only
  cases len.scalar.val with
  | none => exact iff_of_false (not_defined .null) Bool.false_ne_true
  | some bs => exact iff_of_true (defined_ok _) rfl

theorem ReturnedAddress.run_defined (call : ReturnedAddress) : Defined call.run ↔ call.Fits := by
  obtain ⟨item, len, entry, exit⟩ := call
  have hentry : len.processData entry.mem = .ok _ :=
    congrArg (Except.map _) (PointerToScalar.fetchValue_eq entry.mem 4 len.scalar)
  have hin : ∀ len, item.processData .paramOut true entry len = .ok { item with addr := none } :=
    fun len => if_pos (Or.inl ⟨rfl, rfl⟩)
  have hexit : ∀ p : AddressLengthPointer, p.updateData exit = .ok
      { p with
        scalar := { p.scalar with val := scalarAt exit.mem p.scalar.ptr 4 }
        filled := if exit.hasResultValue then scalarAt exit.mem p.scalar.ptr 4 else p.filled } :=
    fun p => congrArg (Except.map _) (PointerToScalar.fetchValue_eq exit.mem 4 p.scalar)
  unfold run Fits
  dsimp only
  rw [hentry, ok_bind]
  simp only [hin, hexit, ok_bind]
  rw [defined_bind_of fun _ => defined_pure ()]
  unfold SocketAddress.processData
  dsimp only
  by_cases h : exit.hasResultValue = true ∧ item.ptr ≠ 0
  · rw [if_neg (by simp [h.1, h.2]), defined_map, AddressLength.addrLen_defined,
      scalarAt_isSome_iff]
    constructor
    · intro hd _ _
      exact hd
    · intro hd
      exact hd h.1 h.2
  · rw [if_pos]
    · refine iff_of_true (defined_ok _) ?_
      intro hres hptr
      exact absurd ⟨hres, hptr⟩ h
    · by_cases hptr : item.ptr = 0
      · exact Or.inr (Or.inl hptr)
      · right; right
        simpa [hptr] using h

theorem SocketAddress.processData_value (type : ItemType) (isEnterStop : Bool) (c : ItemContext)
    (len : Int) (p : SocketAddress) : Defined (p.processData type isEnterStop c (.value len)) := by
  unfold processData
  split_ifs
  · exact defined_ok _
  · exact defined_ok _

/-! ## vectors of messages -/

section
variable {c : ItemContext} {others : Msghdr → Except Exc Unit}

theorem updateSendHeaders_defined {α : Type} (raw : List Mmsghdr) (headers : List α) :
    Defined (updateSendHeaders raw headers) ↔ raw.length ≤ headers.length := by
  induction raw generalizing headers with
  | nil => exact iff_of_true (defined_ok _) (Nat.zero_le _)
  | cons x raw ih =>
    cases headers with
    | nil => exact iff_of_false (not_defined .bounds) (by simp)
    | cons h headers =>
      rw [updateSendHeaders, defined_map, ih, List.length_cons, List.length_cons]
      omega

theorem fillHeaders_defined (hothers : ∀ hdr, Defined (others hdr)) (raw : List Mmsghdr) :
    Defined (fillHeaders c others raw) := by
  induction raw with
  | nil => exact defined_ok _
  | cons x raw ih =>
    rw [fillHeaders, defined_bind]
    refine ⟨?_, fun item _ => defined_bind.mpr ⟨ih, fun items _ => defined_ok _⟩⟩
    exact defined_bind.mpr ⟨hothers x.hdr, fun u _ => defined_ok _⟩

theorem fillHeaders_length {raw : List Mmsghdr} {items : List SendMessageHeader}
    (h : fillHeaders c others raw = .ok items) : items.length = raw.length := by
  induction raw generalizing items with
  | nil =>
    cases h
    rfl
  | cons x raw ih =>
    rw [fillHeaders] at h
    obtain ⟨item, -, h⟩ := bind_eq_ok.mp h
    obtain ⟨rest, hrest, h⟩ := bind_eq_ok.mp h
    cases h
    rw [List.length_cons, List.length_cons, ih hrest]

/-- the vector of the entry: no header, or one for each message -/
theorem enterHeaders_cases (raw : List Mmsghdr) :
    ((enterHeaders c others raw).1 = .ok () ∧ (enterHeaders c others raw).2.length = raw.length) ∨
      ∃ e hdr, (enterHeaders c others raw).1 = .error e ∧ others hdr = .error e := by
  induction raw with
  | nil => exact Or.inl ⟨rfl, rfl⟩
  | cons x raw ih =>
    rw [enterHeaders]
    dsimp only
    cases ho : others x.hdr with
    | error e => exact Or.inr ⟨e, x.hdr, rfl, ho⟩
    | ok u =>
      rcases ih with ⟨hok, hlen⟩ | ⟨e, hdr, herr, ho'⟩
      · exact Or.inl ⟨hok, congrArg Nat.succ hlen⟩
      · exact Or.inr ⟨e, hdr, herr, ho'⟩

/-- the loop ends, or the control data of a header cannot be read -/
theorem updateHeaders_defined (raw : List Mmsghdr) (headers : List RecvMultiMessageHeader)
    (hfresh : ∀ h ∈ headers, Fresh h) (hlen : raw.length ≤ headers.length) :
    Defined (updateHeaders c raw headers).1 := by
  induction raw generalizing headers with
  | nil => exact defined_ok ()
  | cons x raw ih =>
    cases headers with
    | nil => exact absurd hlen (by simp)
    | cons h headers =>
      obtain ⟨hh, hrest⟩ := List.forall_mem_cons.mp hfresh
      rw [updateHeaders]
      dsimp only
      rcases setOutHeader_cases (c := c) (h := h.setBytesReceived x.len) x hh.2 with
        ⟨hok, -⟩ | ⟨herr, -⟩
      · rw [hok]
        exact ih headers hrest (Nat.le_of_succ_le_succ hlen)
      · rw [herr]
        intro why hw
        cases hw

/-- an array without messages can be read -/
theorem vlen_pos {ptr : UInt64} {numMsgs : Word} (h : rawHeadersAt c ptr numMsgs = none) :
    0 < numMsgs.toUInt32.toNat := by
  by_contra h0
  unfold rawHeadersAt at h
  rw [Nat.eq_zero_of_not_pos h0] at h
  cases h

end

theorem SendMmsg.run_defined (call : SendMmsg) : Defined call.run ↔ call.Fits := by
  have hentry := fetchRawHeaders_eq call.alloc call.entry call.ptr call.vlen
  have hexit := fetchRawHeaders_eq call.alloc call.exit call.ptr call.vlen
  rw [call.sameABI] at hexit
  unfold run Fits processSendVector
  by_cases ha : call.alloc
      (call.vlen.toUInt32.toNat * mmsghdrSize call.entry.is32BitEmulationABI) = true
  · rw [if_pos ha] at hentry hexit
    rw [hentry, ok_bind, hexit, forall_prop_of_true ha]
    cases hraw : rawHeadersAt call.entry call.ptr call.vlen with
    | none =>
      rw [forall_prop_of_true rfl]
      dsimp only
      show Defined ((.ok [] : Except Exc (List SendMessageHeader)) >>= _) ↔ _
      rw [ok_bind, ok_bind]
      cases hout : rawHeadersAt call.exit call.ptr call.vlen with
      | none => exact iff_of_true (defined_ok ()) rfl
      | some raw =>
        refine iff_of_false ?_ (by simp)
        intro hd
        have hlen := (updateSendHeaders_defined raw []).mp
          ((defined_bind_of fun _ => defined_pure ()).mp hd)
        rw [rawHeadersAt_length hout] at hlen
        exact absurd (vlen_pos hraw) (Nat.not_lt.mpr hlen)
    | some raw =>
      refine iff_of_true ?_ (fun h => by cases h)
      rw [defined_bind]
      refine ⟨fillHeaders_defined call.defined raw, fun items hitems => ?_⟩
      rw [ok_bind]
      cases hout : rawHeadersAt call.exit call.ptr call.vlen with
      | none => exact defined_ok ()
      | some raw' =>
        have hlen : raw'.length ≤ items.length := by
          rw [fillHeaders_length hitems, rawHeadersAt_length hraw, rawHeadersAt_length hout]
        exact (defined_bind_of fun _ => defined_pure ()).mpr
          ((updateSendHeaders_defined raw' items).mpr hlen)
  · rw [if_neg ha] at hentry
    rw [hentry]
    refine iff_of_true ?_ fun h => absurd h ha
    intro why hw
    cases hw

theorem RecvMmsg.run_defined (call : RecvMmsg) (hothers : ∀ hdr, Defined (call.others hdr)) :
    Defined call.run ↔ call.Entered := by
  have hentry := fetchRawHeaders_eq call.alloc call.entryContext call.ptr call.vlen
  have hexit := fetchRawHeaders_eq call.alloc call.exitContext call.ptr call.vlen
  have habi : call.entryContext.is32BitEmulationABI = call.is32BitEmulationABI := rfl
  have habi' : call.exitContext.is32BitEmulationABI = call.is32BitEmulationABI := rfl
  rw [habi] at hentry
  rw [habi'] at hexit
  have hfresh := call.fresh_entered
  unfold run Entered exited updateRecvVector
  unfold entered processRecvVector at hfresh ⊢
  by_cases ha : call.alloc
      (call.vlen.toUInt32.toNat * mmsghdrSize call.is32BitEmulationABI) = true
  · rw [if_pos ha] at hentry hexit
    rw [hentry] at hfresh ⊢
    rw [hexit, forall_prop_of_true ha]
    cases hraw : rawHeadersAt call.entryContext call.ptr call.vlen with
    | none =>
      rw [forall_prop_of_true rfl]
      cases hout : rawHeadersAt call.exitContext call.ptr call.vlen with
      | none => exact iff_of_true (defined_ok ()) rfl
      | some raw =>
        refine iff_of_false ?_ (by simp)
        have hpos : 0 < raw.length := by
          rw [rawHeadersAt_length hout]
          exact vlen_pos hraw
        cases raw with
        | nil => exact absurd hpos (Nat.lt_irrefl 0)
        | cons x raw => exact not_defined .bounds
    | some raw =>
      rw [hraw] at hfresh
      refine iff_of_true ?_ (fun h => by cases h)
      obtain ⟨hok, hlen⟩ | ⟨e, hdr, herr, ho⟩ :
          ((enterHeaders call.entryContext call.others raw).1 = .ok () ∧ _) ∨ ∃ e hdr, _ ∧ _ :=
        enterHeaders_cases raw
      · dsimp only at hfresh ⊢
        rw [hok, ok_bind]
        cases hout : rawHeadersAt call.exitContext call.ptr call.vlen with
        | none => exact defined_ok ()
        | some raw' =>
          apply updateHeaders_defined raw' _ hfresh
          rw [hlen, rawHeadersAt_length hraw, rawHeadersAt_length hout]
      · dsimp only
        rw [herr]
        intro why hw
        apply hothers hdr why
        rw [ho]
        exact congrArg Except.error (Except.error.inj hw)
  · rw [if_neg ha] at hentry
    rw [hentry]
    refine iff_of_true ?_ fun h => absurd h ha
    intro why hw
    cases hw

/-! ## socketcall -/

theorem defined_inBuffer {α : Type} {vec : List α} {i : Nat} (h : i < vec.length) :
    Defined (inBuffer vec[i]?) := by
  rw [List.getElem?_eq_getElem h]
  exact defined_ok _

theorem defined_mapM {α β : Type} {f : α → Except Exc β} {l : List α}
    (h : ∀ x ∈ l, Defined (f x)) : Defined (l.mapM f) := by
  induction l with
  | nil => exact defined_ok _
  | cons x l ih =>
    obtain ⟨hx, hl⟩ := List.forall_mem_cons.mp h
    rw [List.mapM_cons, defined_bind]
    exact ⟨hx, fun y _ => (defined_bind_of fun _ => defined_pure _).mpr (ih hl)⟩

namespace SocketCall

/-- no word behind the arguments of a sub-call is looked at -/
theorem transferred_lt (call : SocketCall) {n : Nat} (h : numSocketcallArgs[call.num]? = some n) :
    ∀ i ∈ call.transferred n, i < n := by
  cases call with
  | _ =>
    cases h
    decide

theorem fetchArgs_eq (c : ItemContext) (call : SocketCall) (ptr : UInt64) :
    ∃ n vec, numSocketcallArgs[call.num]? = some n ∧ fetchArgs c call ptr = .ok vec ∧
      vec.length = n := by
  obtain ⟨n, hn⟩ : ∃ n, numSocketcallArgs[call.num]? = some n := by
    cases call with
    | _ => exact ⟨_, rfl⟩
  have hsized := (zeros (if c.is32BitEmulationABI then 4 else 8) n).sized
  obtain ⟨b, hb⟩ := readStructsLoop_result (m := c.mem) (a := ptr) hsized
  let args := readStructsInto c.mem ptr (zeros (if c.is32BitEmulationABI then 4 else 8) n)
  have hread : args.2 = .ok b := hb
  refine ⟨n, args.1.elements.map fun bs => UInt64.ofNat (le bs), hn, ?_, ?_⟩
  · unfold fetchArgs
    rw [hn, inBuffer_some, ok_bind]
    show (args.2 >>= _) = _
    rw [hread]
    rfl
  · rw [List.length_map]
    exact (readStructsLoop_length _).trans (List.length_replicate ..)

theorem run_defined (c : ItemContext) (call : SocketCall) (ptr : UInt64) :
    Defined (call.run c ptr) := by
  obtain ⟨n, vec, hn, hfetch, hlen⟩ := fetchArgs_eq c call ptr
  unfold run
  rw [hfetch, ok_bind, defined_bind_of fun _ => defined_pure ()]
  unfold transferValues
  split_ifs
  · exact defined_ok _
  · apply defined_mapM
    intro i hi
    rw [hlen] at hi
    exact defined_inBuffer (hlen ▸ call.transferred_lt hn i hi)

end SocketCall

/-! ## all of them -/

namespace ItemCall

/-- for each of the calls, all pointers, lengths and values, and the memory at both stops -/
theorem accessesSafely_iff_fits (call : ItemCall) : call.AccessesSafely ↔ call.Fits := by
  cases call with
  | filterProg c item => exact defined_map.trans item.processData_defined
  | classicBPF c optlen item =>
    unfold AccessesSafely run Fits
    rw [defined_map, ClassicBPFSockOpt.processData_defined]
  | getsockopt call => exact call.run_defined
  | passedAddress c len item =>
    exact iff_of_true (defined_map.mpr (item.processData_value _ _ _ _)) trivial
  | returnedAddress call => exact call.run_defined
  | recvmmsg call hothers => exact call.run_defined hothers
  | sendmmsg call => exact call.run_defined
  | socketcall c call ptr => exact iff_of_true (call.run_defined c ptr) trivial

/-- `prctl(PR_SET_SECCOMP, SECCOMP_MODE_FILTER, NULL)` -/
theorem accessesSafely_fails : ¬ ∀ call : ItemCall, call.AccessesSafely := by
  intro h
  let c : ItemContext :=
    { mem := fun _ => none
      maxBufferPrefetch := 0
      is32BitEmulationABI := false
      hasResultValue := false }
  have hnull : (FilterProg.processData c { ptr := 0 }) = .error (.undefined .null) := rfl
  apply h (.filterProg c { ptr := 0 }) .null
  exact congrArg (Except.map fun _ => ()) hnull

end ItemCall

end Clues
