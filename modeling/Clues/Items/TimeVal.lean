import Clues.Items.TimeSpec

/-!
# Timeouts of sockets

* `TimeValParameter`   the item for a `struct timeval`, which has two layouts;
* `SetOldTimeValSockOpt`, `GetOldTimeValSockOpt`   its specialisations for socket options;
* `TimeoutCall`        `getsockopt()` or `setsockopt()` with such an option, called directly or with
                       `socketcall()`, and its memory at both stops;
* `decodes_iff_fits`   when the item has the time that was passed or received.
-/

namespace Clues

open Lib.LittleEndian

structure TimeVal where
  sec : Int
  usec : Int
  deriving DecidableEq, Repr

/-- `struct timeval` and `struct timeval32` -/
inductive TimeValLayout where
  | timeval | timeval32
  deriving DecidableEq, Repr

namespace TimeValLayout

/-- the width of a field -/
def width : TimeValLayout → Nat
  | .timeval => 8
  | .timeval32 => 4

def size (layout : TimeValLayout) : Nat := 2 * layout.width

def time (layout : TimeValLayout) (bs : Bytes) : TimeVal :=
  { sec := signedAt bs 0 layout.width, usec := signedAt bs layout.width layout.width }

end TimeValLayout

/-! ## the items -/

/-- `SockOptInfo`; the name is that of a `SocketOption` if the level is `SOCKET` -/
structure SockOptInfo where
  isSet : Bool
  level : Int
  name : Int

/-- `SockOptLevel::SOCKET` -/
def SockOptInfo.socket : Int := 1

/-- the other argument: the object is a `GetSockOptSystemCall` or a `SetSockOptSystemCall` -/
def lookupSockOpt (c : TimeContext) (object : Option SockOptInfo) : Option SockOptInfo :=
  match c.nr with
  | .socketcall | .setsockopt | .getsockopt => object
  | _ => none

structure TimeValParameter where
  ptr : Word := 0
  timeval : Option TimeVal := none

namespace TimeValParameter

/-- the names are `RCVTIMEO_NEW` and `RCVTIMEO_OLD` -/
def needTime32Conversion (c : TimeContext) (object : Option SockOptInfo) : Bool :=
  if !c.usesTime32 then false
  else
    match lookupSockOpt c object with
    | some info =>
      if info.level = SockOptInfo.socket then info.name = 66 || info.name = 20 else false
    | none =>
      match c.nr with
      | .select | .newselect | .pselect6 => true
      | _ => false

/-- the layout that is used, and the size of which is `traceeStructSize()` -/
def layout (c : TimeContext) (object : Option SockOptInfo) : TimeValLayout :=
  if needTime32Conversion c object then .timeval32 else .timeval

def fetch (c : TimeContext) (object : Option SockOptInfo) (p : TimeValParameter) :
    Except Exc TimeValParameter :=
  let layout := layout c object
  (c.mem.readStructIntoOptional p.ptr layout.size layout.size).map fun bs =>
    { p with timeval := bs.map layout.time }

def processData (type : ItemType) (c : TimeContext) (object : Option SockOptInfo)
    (p : TimeValParameter) : Except Exc TimeValParameter :=
  if type = .paramOut then .ok { p with timeval := none } else p.fetch c object

def updateData (c : TimeContext) (object : Option SockOptInfo) (p : TimeValParameter) :
    Except Exc TimeValParameter :=
  if c.hasResultValue then p.fetch c object else .ok p

end TimeValParameter

/-- `SetOldTimeValSockOpt::processData()` -/
def SetOldTimeValSockOpt.processData (c : TimeContext) (object : Option SockOptInfo) (optlen : Int)
    (p : TimeValParameter) : Except Exc TimeValParameter :=
  if optlen < 0 ∨ optlen < (TimeValParameter.layout c object).size then
    .ok { p with timeval := none }
  else p.processData .paramIn c object

/-- `GetOldTimeValSockOpt::updateData()` -/
def GetOldTimeValSockOpt.updateData (c : TimeContext) (object : Option SockOptInfo)
    (optlen : Option Int) (p : TimeValParameter) : Except Exc TimeValParameter :=
  if !c.hasResultValue then .ok p
  else
    match optlen with
    | some len =>
      if len < 0 ∨ len < (TimeValParameter.layout c object).size then .ok p
      else p.updateData c object
    | none => .error (.undefined .null)

/-! ## a call -/

/-- the options that `create_socket_opt_syscall()` selects these items for -/
inductive OldTimeout where
  | rcvtimeoOld | sndtimeoOld
  deriving DecidableEq, Repr

def OldTimeout.toInt : OldTimeout → Int
  | .rcvtimeoOld => 20
  | .sndtimeoOld => 21

/-- a call, with the memory at its entry and at its exit -/
structure TimeoutCall where
  isSet : Bool
  /-- the arguments are in the vector of a `socketcall()` -/
  viaSocketcall : Bool
  abi : ABI
  option : OldTimeout
  /-- the arguments `optval` and `optlen` -/
  ptr : Word
  optlen : Word
  entry : Memory
  exit : Memory
  result : ExitInfo

namespace TimeoutCall

/-- the number that the object is constructed with -/
def nr (call : TimeoutCall) : SystemCallNr :=
  if call.viaSocketcall then .socketcall else if call.isSet then .setsockopt else .getsockopt

def info (call : TimeoutCall) : SockOptInfo :=
  { isSet := call.isSet, level := SockOptInfo.socket, name := call.option.toInt }

def entryContext (call : TimeoutCall) : TimeContext :=
  { mem := call.entry, abi := call.abi, nr := call.nr, error := some ⟨Errno.noData⟩ }

def exitContext (call : TimeoutCall) : TimeContext :=
  { mem := call.exit, abi := call.abi, nr := call.nr, error := call.result.error }

/-- the item `optlen` of `getsockopt()` at the exit -/
def exitLen (call : TimeoutCall) : Option Int :=
  (scalarAt call.exit call.optlen 4).map fun bs => signedAt bs 0 4

/-- the item `optval` after the exit; it may have been used before, and it is filled and updated
behind `optlen`, by `socketcall()` too -/
def item (call : TimeoutCall) (p : TimeValParameter) : Except Exc TimeValParameter :=
  let p := { p with ptr := call.ptr }
  if call.isSet then
    SetOldTimeValSockOpt.processData call.entryContext call.info
      (Int.bmod call.optlen.toNat (2 ^ 32)) p
  else do
    let p ← p.processData .paramOut call.entryContext call.info
    GetOldTimeValSockOpt.updateData call.exitContext call.info call.exitLen p

/-- the layout of the ABI -/
def layout (call : TimeoutCall) : TimeValLayout :=
  if call.abi = .i386 then .timeval32 else .timeval

/-- the memory that the time is passed to `setsockopt()` in, or that a successful `getsockopt()`
returns it in, and the length that goes with it -/
def passed (call : TimeoutCall) : Option (Memory × Int) :=
  if call.isSet then some (call.entry, Int.bmod call.optlen.toNat (2 ^ 32))
  else if call.result.error = none then
    (bytesAt call.exit call.optlen 4).map fun bs => (call.exit, signedAt bs 0 4)
  else none

/-- the time at `optval`, if so many bytes cover it -/
def timeIn (call : TimeoutCall) (layout : TimeValLayout) (m : Memory) (len : Int) :
    Option TimeVal :=
  if call.ptr = 0 ∨ len < layout.size then none
  else (bytesAt m call.ptr layout.size).map layout.time

def time (call : TimeoutCall) : Option TimeVal :=
  call.passed.bind fun x => call.timeIn call.layout x.1 x.2

/-- the item has the time that is passed or received -/
def Decodes (call : TimeoutCall) (p : TimeValParameter) : Prop :=
  ∃ p', call.item p = .ok p' ∧ p'.timeval = call.time

/-- there is no time of 32-bit fields, or it is the same in fields of 64 bits: the microseconds, and
the number behind them, are the sign of the seconds -/
def SameTime (call : TimeoutCall) (m : Memory) (len : Int) : Prop :=
  call.timeIn .timeval32 m len = none ∨
    16 ≤ len ∧ ∃ bs, bytesAt m call.ptr 16 = some bs ∧ signedAt bs 8 8 = signedAt bs 4 4 ∧
      signedAt bs 4 4 = if signedAt bs 0 4 < 0 then -1 else 0

/-- the length that a successful `getsockopt()` returns can be read, and a time to send of a 32-bit
process is the same in both layouts -/
def Fits (call : TimeoutCall) : Prop :=
  (call.isSet = false → call.result.error = none → ¬ Unreadable call.exit call.optlen 4) ∧
    (call.abi = .i386 → call.option = .sndtimeoOld → ∀ m len, call.passed = some (m, len) →
      call.SameTime m len)

variable {call : TimeoutCall} {m : Memory} {len : Int}

/-! ## the layout that is used -/

/-- the layout that the items use -/
def used (call : TimeoutCall) : TimeValLayout :=
  if call.abi = .i386 ∧ call.option = .rcvtimeoOld then .timeval32 else .timeval

theorem layout_eq {c : TimeContext} (habi : c.abi = call.abi) (hnr : c.nr = call.nr) :
    TimeValParameter.layout c (some call.info) = call.used := by
  have hlookup : lookupSockOpt c (some call.info) = some call.info := by
    unfold lookupSockOpt
    rw [hnr, nr]
    cases call.viaSocketcall
    · cases call.isSet <;> rfl
    · rfl
  unfold TimeValParameter.layout TimeValParameter.needTime32Conversion used TimeContext.usesTime32
  rw [hlookup, habi]
  cases habi' : call.abi with
  | i386 =>
    cases hopt : call.option with
    | rcvtimeoOld => simp [info, hopt, OldTimeout.toInt, ABI.is32BitEmulation]
    | sndtimeoOld => simp [info, hopt, OldTimeout.toInt, ABI.is32BitEmulation]
  | _ => rfl

theorem used_eq (h : ¬ (call.abi = .i386 ∧ call.option = .sndtimeoOld)) :
    call.used = call.layout := by
  unfold used layout
  by_cases habi : call.abi = .i386
  · cases hopt : call.option with
    | rcvtimeoOld => rw [if_pos ⟨habi, rfl⟩, if_pos habi]
    | sndtimeoOld => exact absurd ⟨habi, hopt⟩ h
  · rw [if_neg fun h => habi h.1, if_neg habi]

/-- the length is compared with the size of the same layout -/
theorem fetch_eq {c : TimeContext} (hmem : c.mem = m) (habi : c.abi = call.abi)
    (hnr : c.nr = call.nr) (hlen : call.used.size ≤ len) :
    ({ ptr := call.ptr } : TimeValParameter).fetch c (some call.info)
      = .ok { ptr := call.ptr, timeval := call.timeIn call.used m len } := by
  have hwords : fetched call.used.size = call.used.size := by cases call.used <;> rfl
  unfold TimeValParameter.fetch timeIn
  rw [layout_eq habi hnr, hmem]
  dsimp only
  rw [Memory.readStructIntoOptional_eq, scalarAt_of_words hwords]
  by_cases h0 : call.ptr = 0
  · rw [if_pos h0, if_pos (Or.inl h0)]
    rfl
  · rw [if_neg h0, if_neg (not_or.mpr ⟨h0, not_lt.mpr hlen⟩)]
    rfl

theorem timeIn_short {layout : TimeValLayout} (h : len < layout.size) :
    call.timeIn layout m len = none := if_pos (Or.inr h)

theorem item_set (p : TimeValParameter) (hset : call.isSet = true) :
    call.item p = .ok {
      ptr := call.ptr
      timeval := call.timeIn call.used call.entry (Int.bmod call.optlen.toNat (2 ^ 32)) } := by
  unfold item SetOldTimeValSockOpt.processData
  rw [if_pos hset, layout_eq rfl rfl]
  by_cases hlen : Int.bmod call.optlen.toNat (2 ^ 32) < call.used.size
  · rw [if_pos (Or.inr hlen), timeIn_short hlen]
  · rw [if_neg (by omega)]
    exact fetch_eq rfl rfl rfl (not_lt.mp hlen)

theorem hasResultValue_iff : call.exitContext.hasResultValue = true ↔ call.result.error = none :=
  Option.isNone_iff_eq_none

/-- what is filled on entry is dropped -/
theorem item_get (p : TimeValParameter) (hget : call.isSet = false) :
    call.item p = GetOldTimeValSockOpt.updateData call.exitContext call.info call.exitLen
      { ptr := call.ptr } := by
  unfold item
  rw [hget]
  rfl

theorem item_failed (p : TimeValParameter) (hget : call.isSet = false)
    (herror : call.result.error ≠ none) : call.item p = .ok { ptr := call.ptr } := by
  have hresult : call.exitContext.hasResultValue = false := by
    rw [← Bool.not_eq_true, hasResultValue_iff]
    exact herror
  rw [item_get p hget]
  unfold GetOldTimeValSockOpt.updateData
  rw [hresult]
  rfl

theorem item_returned (p : TimeValParameter) (hget : call.isSet = false)
    (herror : call.result.error = none) (hlen : call.exitLen = some len) :
    call.item p = .ok { ptr := call.ptr, timeval := call.timeIn call.used call.exit len } := by
  have hresult : call.exitContext.hasResultValue = true := hasResultValue_iff.mpr herror
  rw [item_get p hget]
  unfold GetOldTimeValSockOpt.updateData
  rw [hresult, hlen]
  dsimp only
  rw [if_neg (by decide), layout_eq rfl rfl]
  by_cases hshort : len < call.used.size
  · rw [if_pos (Or.inr hshort), timeIn_short hshort]
  · rw [if_neg (by omega)]
    unfold TimeValParameter.updateData
    rw [if_pos hresult]
    exact fetch_eq rfl rfl rfl (not_lt.mp hshort)

/-- the optional is empty -/
theorem item_undefined (p : TimeValParameter) (hget : call.isSet = false)
    (herror : call.result.error = none) (hlen : call.exitLen = none) :
    call.item p = .error (.undefined .null) := by
  have hresult : call.exitContext.hasResultValue = true := hasResultValue_iff.mpr herror
  rw [item_get p hget]
  unfold GetOldTimeValSockOpt.updateData
  rw [hresult, hlen]
  rfl

/-! ## times in both layouts -/

theorem numberAt_take {bs : Bytes} {n offset size : Nat} (h : offset + size ≤ n) :
    numberAt (bs.take n) offset size = numberAt bs offset size := by
  unfold numberAt
  rw [List.drop_take, List.take_take, min_eq_left (by omega)]

/-- a field of 64 bits is two of 32 bits -/
theorem numberAt_eight {bs : Bytes} (h : 8 ≤ bs.length) :
    numberAt bs 0 8 = numberAt bs 0 4 + 2 ^ 32 * numberAt bs 4 4 := by
  have hsplit : bs.take 8 = bs.take 4 ++ (bs.drop 4).take 4 := List.take_add (i := 4) (j := 4)
  unfold numberAt
  rw [List.drop_zero, hsplit, le_append, List.length_take, min_eq_left (by omega)]
  norm_num

theorem numberAt_lt (bs : Bytes) (offset size : Nat) : numberAt bs offset size < 256 ^ size := by
  unfold numberAt
  refine (le_lt _).trans_le (Nat.pow_le_pow_right (by norm_num) ?_)
  exact List.length_take_le _ _

/-- the fields of 64 bits are the same numbers as those of 32 bits -/
theorem wide_eq_iff {bs : Bytes} (h : 8 ≤ bs.length) :
    (signedAt bs 0 8 = signedAt bs 0 4 ∧ signedAt bs 8 8 = signedAt bs 4 4) ↔
      signedAt bs 8 8 = signedAt bs 4 4 ∧
        signedAt bs 4 4 = if signedAt bs 0 4 < 0 then -1 else 0 := by
  have hx := numberAt_lt bs 0 4
  have hy := numberAt_lt bs 4 4
  unfold signedAt
  rw [numberAt_eight h]
  generalize numberAt bs 0 4 = x at *
  generalize numberAt bs 4 4 = y at *
  generalize Int.bmod (numberAt bs 8 8) (256 ^ 8) = z
  norm_num at hx hy
  rw [and_comm]
  refine and_congr_right fun _ => ?_
  push_cast
  norm_num only [Int.bmod_def]
  split_ifs <;> omega

theorem time_eq_iff {bs : Bytes} (h : bs.length = 16) :
    TimeValLayout.timeval.time bs = TimeValLayout.timeval32.time (bs.take 8) ↔
      signedAt bs 8 8 = signedAt bs 4 4 ∧
        signedAt bs 4 4 = if signedAt bs 0 4 < 0 then -1 else 0 := by
  have hfield : ∀ offset, offset + 4 ≤ 8 → signedAt (bs.take 8) offset 4 = signedAt bs offset 4 := by
    intro offset hle
    unfold signedAt
    rw [numberAt_take hle]
  have htime : TimeValLayout.timeval32.time (bs.take 8)
      = { sec := signedAt bs 0 4, usec := signedAt bs 4 4 } := by
    show TimeVal.mk (signedAt (bs.take 8) 0 4) (signedAt (bs.take 8) 4 4) = _
    rw [hfield 0 (by omega), hfield 4 (by omega)]
  rw [htime, ← wide_eq_iff (by omega)]
  show TimeVal.mk (signedAt bs 0 8) (signedAt bs 8 8) = _ ↔ _
  rw [TimeVal.mk.injEq]

theorem timeIn_eq_iff : call.timeIn .timeval m len = call.timeIn .timeval32 m len ↔
    call.SameTime m len := by
  unfold SameTime
  by_cases hlen : call.ptr = 0 ∨ len < 16
  · have hnone : call.timeIn .timeval m len = none := if_pos hlen
    rw [hnone, eq_comm]
    constructor
    · exact Or.inl
    · rintro (h | ⟨hle, bs, hbs, hsame⟩)
      · exact h
      · rcases hlen with h0 | hlt
        · exact if_pos (Or.inl h0)
        · omega
  · have hwide : call.timeIn .timeval m len
        = (bytesAt m call.ptr 16).map TimeValLayout.timeval.time := if_neg hlen
    have hnarrow : call.timeIn .timeval32 m len
        = (bytesAt m call.ptr 8).map TimeValLayout.timeval32.time :=
      if_neg fun h => hlen (h.imp_right fun hlt => by
        have hlt8 : len < 8 := hlt
        omega)
    have hle : 16 ≤ len := not_lt.mp fun h => hlen (Or.inr h)
    rw [hwide, hnarrow, Option.map_eq_none_iff]
    cases h16 : bytesAt m call.ptr 16 with
    | none =>
      rw [Option.map_none, eq_comm, Option.map_eq_none_iff]
      constructor
      · exact Or.inl
      · rintro (h | ⟨-, bs, hbs, -⟩)
        · exact h
        · cases hbs
    | some bs =>
      have h8 : bytesAt m call.ptr 8 = some (bs.take 8) :=
        (bytesAt_split (show bytesAt m call.ptr (8 + 8) = some bs from h16)).1
      rw [h8, Option.map_some, Option.map_some, Option.some_inj, time_eq_iff (bytesAt_length h16)]
      constructor
      · intro h
        exact Or.inr ⟨hle, bs, rfl, h⟩
      · rintro (h | ⟨-, bs', hbs', h⟩)
        · cases h
        · cases hbs'
          exact h

/-! ## the time that is decoded -/

theorem exitLen_eq_none_iff : call.exitLen = none ↔ Unreadable call.exit call.optlen 4 :=
  Option.map_eq_none_iff.trans SetSockOptCall.scalarAt_eq_none_iff

theorem exitLen_eq_some (h : call.exitLen = some len) :
    (bytesAt call.exit call.optlen 4).map (fun bs => (call.exit, signedAt bs 0 4))
      = some (call.exit, len) := by
  unfold exitLen scalarAt at h
  split_ifs at h
  · cases h
  · cases hb : bytesAt call.exit call.optlen 4 with
    | none =>
      rw [hb] at h
      cases h
    | some bs =>
      rw [hb, Option.map_some, Option.some_inj] at h
      rw [Option.map_some, h]
  · cases h

/-- the layout that is used gives the same time -/
theorem timeIn_used_iff : call.timeIn call.used m len = call.timeIn call.layout m len ↔
    (call.abi = .i386 → call.option = .sndtimeoOld → call.SameTime m len) := by
  by_cases h : call.abi = .i386 ∧ call.option = .sndtimeoOld
  · have hused : call.used = .timeval := by
      unfold used
      rw [if_neg]
      rw [h.2]
      exact fun h => OldTimeout.noConfusion h.2
    have hlayout : call.layout = .timeval32 := if_pos h.1
    rw [hused, hlayout, timeIn_eq_iff]
    exact ⟨fun hs _ _ => hs, fun hs => hs h.1 h.2⟩
  · rw [used_eq h]
    exact iff_of_true rfl fun habi hopt => absurd ⟨habi, hopt⟩ h

theorem decodes_of_item {p : TimeValParameter} (hpassed : call.passed = some (m, len))
    (hitem : call.item p = .ok { ptr := call.ptr, timeval := call.timeIn call.used m len }) :
    call.Decodes p ↔ (call.abi = .i386 → call.option = .sndtimeoOld → ∀ m len,
      call.passed = some (m, len) → call.SameTime m len) := by
  have htime : call.time = call.timeIn call.layout m len := by
    unfold time
    rw [hpassed]
    rfl
  have hshown : call.Decodes p ↔ call.timeIn call.used m len = call.time := by
    unfold Decodes
    rw [hitem]
    constructor
    · rintro ⟨p', hp, h⟩
      cases hp
      exact h
    · intro h
      exact ⟨_, rfl, h⟩
  rw [hshown, htime, timeIn_used_iff, hpassed]
  constructor
  · intro h habi hopt m' len' he
    cases he
    exact h habi hopt
  · intro h habi hopt
    exact h habi hopt m len rfl

/-- for every call with these options, any ABI, any memory at both stops and any earlier state of
the item -/
theorem decodes_iff_fits (call : TimeoutCall) (p : TimeValParameter) :
    call.Decodes p ↔ call.Fits := by
  unfold Fits
  rcases Bool.eq_false_or_eq_true call.isSet with hset | hget
  · have hpassed : call.passed = some (call.entry, Int.bmod call.optlen.toNat (2 ^ 32)) :=
      if_pos hset
    rw [decodes_of_item hpassed (item_set p hset), and_iff_right]
    intro hget
    rw [hset] at hget
    cases hget
  have hpassed : call.passed = if call.result.error = none then
      (bytesAt call.exit call.optlen 4).map fun bs => (call.exit, signedAt bs 0 4) else none :=
    if_neg (by rw [hget]; exact Bool.false_ne_true)
  by_cases herror : call.result.error = none
  · cases hlen : call.exitLen with
    | none =>
      refine iff_of_false ?_ fun h => h.1 hget herror (exitLen_eq_none_iff.mp hlen)
      rintro ⟨p', hp, -⟩
      rw [item_undefined p hget herror hlen] at hp
      cases hp
    | some len =>
      rw [if_pos herror, exitLen_eq_some hlen] at hpassed
      rw [decodes_of_item hpassed (item_returned p hget herror hlen), and_iff_right]
      intro _ _ hno
      rw [exitLen_eq_none_iff.mpr hno] at hlen
      cases hlen
  · rw [if_neg herror] at hpassed
    refine iff_of_true ⟨_, item_failed p hget herror, ?_⟩ ⟨fun _ h => absurd h herror, ?_⟩
    · unfold time
      rw [hpassed]
      rfl
    · intro _ _ m len he
      rw [hpassed] at he
      cases he

/-- `setsockopt()` of `SNDTIMEO_OLD` by a 32-bit process: its struct has only eight bytes -/
def sendTimeout : TimeoutCall where
  isSet := true
  viaSocketcall := false
  abi := .i386
  option := .sndtimeoOld
  ptr := 4096
  optlen := 8
  entry := fun a => some (if a = 4096 then 5 else 0)
  exit := fun _ => some 0
  result := .retVal 0

theorem decodes_timeout_fails : ¬ ∀ (call : TimeoutCall) (p : TimeValParameter),
    call.Decodes p := by
  intro h
  obtain ⟨p, hp, htime⟩ := h sendTimeout {}
  rw [item_set {} rfl] at hp
  cases hp
  revert htime
  decide +kernel

end TimeoutCall

end Clues
