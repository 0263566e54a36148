import Clues.Lib.Fields
import Clues.Items.BufferPointer
import Clues.Tracee.Destinations

/-!
# Signal information of 32-bit processes

* `copy32to64`       the conversion of `kernel_siginfo32` in `items/signal.cxx`;
* `SigInfo`          the item for the `siginfo_t` of `waitid()`;
* `selected`         the member of the union that the kernel fills for a signal and a code;
* `preserves_iff`    when the fields of that member are in the result;
* `waitid_iff`       what the item has after a call.

The offsets are those of the two structs on x86; a field is named like in the source, without the
underscore.
-/

namespace Clues

open Lib.LittleEndian Lib.Fields

/-! ## the fields -/

/-- the type of the destination: the same, a pointer, or a `long` -/
inductive Widening where
  | same | pointer | long
  deriving DecidableEq, Repr

/-- the most significant bit -/
def negative (bs : Bytes) : Bool := 128 ≤ (bs.getLast?.getD 0).toNat

/-- the upper bytes of the number as a `long` -/
def signFill (bs : Bytes) : Bytes := List.replicate 4 (if negative bs then 255 else 0)

def zeroFill : Bytes := List.replicate 4 0

/-- a field in `kernel_siginfo32` and in `siginfo_t` -/
structure SiField where
  offset32 : Nat
  offset64 : Nat
  size : Nat := 4
  widening : Widening := .same

namespace SiField

/-- the value of the field, converted to its type in `siginfo_t` -/
def value (info32 : Image) (f : SiField) : Bytes :=
  let data := field info32 f.offset32 f.size
  match f.widening with
  | .same => data
  | .pointer => data ++ zeroFill
  | .long => data ++ signFill data

def copy (info32 info64 : Image) (f : SiField) : Image := put info64 f.offset64 (f.value info32)

/-- the field of the one is the field of the other -/
def Kept (info32 info64 : Image) (f : SiField) : Prop :=
  field info64 f.offset64 (f.value info32).length = f.value info32

def signo : SiField := ⟨0, 0, 4, .same⟩
def code : SiField := ⟨8, 8, 4, .same⟩

-- `_kill`, `_rt` and `_sigchld`
def pid : SiField := ⟨12, 16, 4, .same⟩
def uid : SiField := ⟨16, 20, 4, .same⟩
def sigval : SiField := ⟨20, 24, 4, .pointer⟩
def status : SiField := ⟨20, 24, 4, .same⟩
def utime : SiField := ⟨24, 32, 4, .long⟩
def stime : SiField := ⟨28, 40, 4, .long⟩

-- `_timer`
def tid : SiField := ⟨12, 16, 4, .same⟩
def overrun : SiField := ⟨16, 20, 4, .same⟩

-- `_sigfault`
def addr : SiField := ⟨12, 16, 4, .pointer⟩
def addrLsb : SiField := ⟨16, 24, 2, .same⟩
def lower : SiField := ⟨20, 32, 4, .pointer⟩
def upper : SiField := ⟨24, 40, 4, .pointer⟩
def pkey : SiField := ⟨20, 32, 4, .same⟩
def perfData : SiField := ⟨16, 24, 4, .pointer⟩
def perfType : SiField := ⟨20, 32, 4, .same⟩
def perfFlags : SiField := ⟨24, 36, 4, .same⟩

-- `_sigpoll`
def band : SiField := ⟨12, 16, 4, .long⟩
def fd : SiField := ⟨16, 24, 4, .same⟩

-- `_sigsys`
def callAddr : SiField := ⟨12, 16, 4, .pointer⟩
def syscall : SiField := ⟨16, 24, 4, .same⟩
def arch : SiField := ⟨20, 28, 4, .same⟩

end SiField

/-! ## the conversion -/

/-- an `int` of the struct -/
def intAt (info : Image) (off : Nat) : Int := Int.bmod (le (field info off 4)) (2 ^ 32)

def siTimer : Int := -2
def siQueue : Int := -1
def siSigIO : Int := -5
def siTkill : Int := -6
def siKernel : Int := 128

def sigIll : Int := 4
def sigTrap : Int := 5
def sigBus : Int := 7
def sigFPE : Int := 8
def sigSegv : Int := 11
def sigChld : Int := 17
def sigPoll : Int := 29
def sigSys : Int := 31

/-- what the `switch` over the code copies -/
def byCode (code : Int) : List SiField :=
  if code = siTimer then [.tid, .overrun, .sigval]
  else if code = siQueue then [.pid, .uid, .sigval]
  else []

/-- the cases of the `switch` over the signal -/
inductive SignalCase where
  | sigchld | sigfault | sigpoll | sigsys | default
  deriving DecidableEq, Repr

def signalCase (signo : Int) : SignalCase :=
  if signo = sigChld then .sigchld
  else if signo = sigIll ∨ signo = sigFPE ∨ signo = sigSegv ∨ signo = sigBus ∨ signo = sigTrap then
    .sigfault
  else if signo = sigPoll then .sigpoll
  else if signo = sigSys then .sigsys
  else .default

/-- what it copies -/
def SignalCase.fields : SignalCase → List SiField
  | .sigchld => [.status, .utime, .stime, .pid, .uid]
  | .sigfault => [.addr, .addrLsb, .lower, .upper, .pkey]
  | .sigpoll => [.band, .fd]
  | .sigsys => [.callAddr, .syscall, .arch]
  | .default => []

def copy32to64 (info32 info64 : Image) : Image :=
  let info64 := SiField.signo.copy info32 info64
  let info64 := SiField.code.copy info32 info64
  let info64 := (byCode (intAt info64 SiField.code.offset64)).foldl (SiField.copy info32) info64
  (signalCase (intAt info32 SiField.signo.offset32)).fields.foldl (SiField.copy info32) info64

def siginfoSize : Nat := 128

def imageOf (bs : Bytes) : Image := fun i => bs.getD i 0

/-- the item for the `siginfo_t` of `waitid()` -/
structure SigInfo where
  ptr : UInt64 := 0
  info : Option Image := none

namespace SigInfo

def processData (p : SigInfo) : SigInfo := { p with info := none }

/-- the struct of the tracer is not initialised before it is read: `old` -/
def updateData (old : Bytes) (c : ItemContext) (p : SigInfo) : Except Exc SigInfo :=
  if c.hasResultValue then
    match readStructInto c.mem p.ptr old siginfoSize with
    | (info, .ok true) =>
      if c.is32BitEmulationABI then
        .ok { p with info := some (copy32to64 (imageOf info) fun _ => 0) }
      else .ok { p with info := some (imageOf info) }
    | (_, .ok false) => if c.is32BitEmulationABI then .ok p else .ok { p with info := none }
    | (_, .error e) => .error e
  else .ok p

end SigInfo

/-! ## the member of the union -/

/-- the members of the union, `_sigfault` with the data that it has -/
inductive SiMember where
  | kill | timer | rt | sigchld | fault | mceerr | bnderr | pkuerr | perf | sigpoll | sigsys
  deriving DecidableEq, Repr

def SiMember.fields : SiMember → List SiField
  | .kill => [.pid, .uid]
  | .timer => [.tid, .overrun, .sigval]
  | .rt => [.pid, .uid, .sigval]
  | .sigchld => [.pid, .uid, .status, .utime, .stime]
  | .fault => [.addr]
  | .mceerr => [.addr, .addrLsb]
  | .bnderr => [.addr, .lower, .upper]
  | .pkuerr => [.addr, .pkey]
  | .perf => [.addr, .perfData, .perfType, .perfFlags]
  | .sigpoll => [.band, .fd]
  | .sigsys => [.callAddr, .syscall, .arch]

/-- the greatest of the codes that a signal has for itself -/
def ownCodes (signo : Int) : Int :=
  if signo = sigIll then 11
  else if signo = sigFPE then 15
  else if signo = sigSegv then 10
  else if signo = sigBus then 5
  else if signo = sigTrap then 6
  else if signo = sigChld then 6
  else if signo = sigPoll then 6
  else if signo = sigSys then 2
  else 0

/-- the member for these -/
def ownMember (signo code : Int) : SiMember :=
  match signalCase signo with
  | .sigchld => .sigchld
  | .sigpoll => .sigpoll
  | .sigsys => .sigsys
  | _ =>
    -- `BUS_MCEERR_AR`, `BUS_MCEERR_AO`, `SEGV_BNDERR`, `SEGV_PKUERR`, `TRAP_PERF`
    if signo = sigBus ∧ (code = 4 ∨ code = 5) then .mceerr
    else if signo = sigSegv ∧ code = 3 then .bnderr
    else if signo = sigSegv ∧ code = 4 then .pkuerr
    else if signo = sigTrap ∧ code = 6 then .perf
    else .fault

/-- the member that the kernel or the sender has filled; a positive code that the signal does not
have for itself is one of `SIGPOLL` or none -/
def selected (signo code : Int) : SiMember :=
  if 0 < code ∧ code < siKernel then
    if code ≤ ownCodes signo then ownMember signo code
    else if code ≤ ownCodes sigPoll then .sigpoll
    else .kill
  else if code = siTimer then .timer
  else if code = siSigIO then .sigpoll
  else if code < 0 ∧ code ≠ siTkill then .rt
  else .kill

/-- the member for the signal and the code of the struct -/
def memberOf (info32 : Image) : SiMember :=
  selected (intAt info32 SiField.signo.offset32) (intAt info32 SiField.code.offset32)

/-- every field of this member is in the result -/
def Preserves (info32 : Image) : Prop :=
  ∀ f ∈ (memberOf info32).fields, f.Kept info32 (copy32to64 info32 fun _ => 0)

def wordAt (info : Image) (off : Nat) : Bytes := field info off 4

/-- no field of the member is overwritten with another value, and none has a value if it is not
copied -/
def KeptWhen (info32 : Image) (code : Int) : SignalCase → SiMember → Prop :=
  let w := wordAt info32
  fun
  | .sigchld, .sigpoll => w 16 = signFill (w 12) ∧ w 20 = w 16
  | .sigchld, _ => True
  | .sigfault, .kill => w 16 = zeroFill
  | .sigfault, .timer => w 16 = zeroFill ∧ field info32 20 2 = [0, 0]
  | .sigfault, .rt =>
    w 16 = zeroFill ∧ if code = siQueue then field info32 20 2 = [0, 0] else w 20 = zeroFill
  | .sigfault, .sigpoll => negative (w 12) = false ∧ field info32 18 2 = [0, 0]
  | .sigfault, .perf => field info32 18 2 = [0, 0] ∧ w 24 = zeroFill
  | .sigfault, _ => True
  | .sigpoll, .kill => w 16 = signFill (w 12)
  | .sigpoll, .timer | .sigpoll, .rt => w 16 = signFill (w 12) ∧ w 20 = w 16
  | .sigpoll, _ => True
  | .sigsys, .kill => w 16 = zeroFill
  | .sigsys, .timer | .sigsys, .rt => w 16 = zeroFill ∧ w 20 = zeroFill
  | .sigsys, .sigpoll => negative (w 12) = false
  | .sigsys, _ => True
  | .default, .kill | .default, .sigpoll => w 12 = zeroFill ∧ w 16 = zeroFill
  | .default, .rt =>
    code = siQueue ∨ (w 12 = zeroFill ∧ w 16 = zeroFill ∧ w 20 = zeroFill)
  | .default, _ => True

def PreservesWhen (info32 : Image) : Prop :=
  KeptWhen info32 (intAt info32 SiField.code.offset32)
    (signalCase (intAt info32 SiField.signo.offset32)) (memberOf info32)

/-! ## words of the result -/

section
variable (info32 info64 : Image)

@[simp] theorem length_wordAt (off : Nat) : (wordAt info32 off).length = 4 :=
  length_field info32 off 4

@[simp] theorem length_zeroFill : zeroFill.length = 4 := List.length_replicate

@[simp] theorem length_signFill (bs : Bytes) : (signFill bs).length = 4 := List.length_replicate

theorem signFill_eq_zeroFill_iff (bs : Bytes) : signFill bs = zeroFill ↔ negative bs = false := by
  unfold signFill zeroFill
  cases negative bs <;> decide

theorem wordAt_put_self {off : Nat} {w : Bytes} (h : w.length = 4) :
    wordAt (put info64 off w) off = w := by
  have hw := field_put_self info64 off w
  rw [h] at hw
  exact hw

theorem wordAt_put_of_ne {off off' : Nat} {w : Bytes} (h : off' + 4 ≤ off ∨ off + w.length ≤ off') :
    wordAt (put info64 off w) off' = wordAt info64 off' := field_put_of_disjoint info64 h

theorem copy_same (o b : Nat) :
    SiField.copy info32 info64 ⟨o, b, 4, .same⟩ = put info64 b (wordAt info32 o) := rfl

theorem copy_pointer (o b : Nat) : SiField.copy info32 info64 ⟨o, b, 4, .pointer⟩ =
    put (put info64 b (wordAt info32 o)) (b + 4) zeroFill := by
  show put info64 b (wordAt info32 o ++ zeroFill) = _
  rw [put_append, length_wordAt]

theorem copy_long (o b : Nat) : SiField.copy info32 info64 ⟨o, b, 4, .long⟩ =
    put (put info64 b (wordAt info32 o)) (b + 4) (signFill (wordAt info32 o)) := by
  show put info64 b (wordAt info32 o ++ signFill (wordAt info32 o)) = _
  rw [put_append, length_wordAt]

theorem field_eight (off : Nat) : field info64 off 8 = wordAt info64 off ++ wordAt info64 (off + 4) :=
  field_add info64 off 4 4

theorem append_eq_iff {xs ys xs' ys' : Bytes} (h : xs.length = xs'.length) :
    xs ++ ys = xs' ++ ys' ↔ xs = xs' ∧ ys = ys' := by
  constructor
  · exact fun e => List.append_inj e h
  · rintro ⟨rfl, rfl⟩
    rfl

theorem kept_same (o b : Nat) : SiField.Kept info32 info64 ⟨o, b, 4, .same⟩ ↔
    wordAt info64 b = wordAt info32 o := by
  show field info64 b (wordAt info32 o).length = wordAt info32 o ↔ _
  rw [length_wordAt]
  rfl

theorem kept_pointer (o b : Nat) : SiField.Kept info32 info64 ⟨o, b, 4, .pointer⟩ ↔
    wordAt info64 b = wordAt info32 o ∧ wordAt info64 (b + 4) = zeroFill := by
  show field info64 b (wordAt info32 o ++ zeroFill).length = wordAt info32 o ++ zeroFill ↔ _
  rw [List.length_append, length_wordAt, length_zeroFill, field_eight, append_eq_iff (by simp)]

theorem kept_long (o b : Nat) : SiField.Kept info32 info64 ⟨o, b, 4, .long⟩ ↔
    wordAt info64 b = wordAt info32 o ∧ wordAt info64 (b + 4) = signFill (wordAt info32 o) := by
  show field info64 b (wordAt info32 o ++ signFill (wordAt info32 o)).length =
    wordAt info32 o ++ signFill (wordAt info32 o) ↔ _
  rw [List.length_append, length_wordAt, length_signFill, field_eight, append_eq_iff (by simp)]

theorem wordAt_halves (off : Nat) :
    wordAt info64 off = field info64 off 2 ++ field info64 (off + 2) 2 :=
  field_add info64 off 2 2

theorem kept_addrLsb : SiField.Kept info32 info64 .addrLsb ↔
    field info64 24 2 = field info32 16 2 := by
  show field info64 24 (field info32 16 2).length = field info32 16 2 ↔ _
  rw [length_field]

/-! ## the second `switch` -/

theorem sigchld_words (h28 : wordAt info64 28 = zeroFill) :
    let info := SignalCase.sigchld.fields.foldl (SiField.copy info32) info64
    wordAt info 16 = wordAt info32 12 ∧ wordAt info 20 = wordAt info32 16 ∧
      wordAt info 24 = wordAt info32 20 ∧ wordAt info 28 = zeroFill ∧
      wordAt info 32 = wordAt info32 24 ∧ wordAt info 36 = signFill (wordAt info32 24) ∧
      wordAt info 40 = wordAt info32 28 ∧ wordAt info 44 = signFill (wordAt info32 28) := by
  simp [SignalCase.fields, SiField.status, SiField.utime, SiField.stime, SiField.pid, SiField.uid,
    copy_same, copy_long, wordAt_put_self, wordAt_put_of_ne, h28]

theorem sigfault_words :
    let info := SignalCase.sigfault.fields.foldl (SiField.copy info32) info64
    wordAt info 16 = wordAt info32 12 ∧ wordAt info 20 = zeroFill ∧
      field info 24 2 = field info32 16 2 ∧ field info 26 2 = field info64 26 2 ∧
      wordAt info 28 = wordAt info64 28 ∧
      wordAt info 32 = wordAt info32 20 ∧ wordAt info 36 = zeroFill ∧
      wordAt info 40 = wordAt info32 24 ∧ wordAt info 44 = zeroFill := by
  have hlsb (t : Image) : SiField.copy info32 t .addrLsb = put t 24 (field info32 16 2) := rfl
  have hself (t : Image) : field (put t 24 (field info32 16 2)) 24 2 = field info32 16 2 := by
    have h := field_put_self t 24 (field info32 16 2)
    rw [length_field] at h
    exact h
  simp [SignalCase.fields, SiField.addr, SiField.lower, SiField.upper, SiField.pkey, hlsb, hself,
    copy_same, copy_pointer, wordAt_put_self, wordAt_put_of_ne, field_put_of_disjoint]

theorem sigpoll_words :
    let info := SignalCase.sigpoll.fields.foldl (SiField.copy info32) info64
    wordAt info 16 = wordAt info32 12 ∧ wordAt info 20 = signFill (wordAt info32 12) ∧
      wordAt info 24 = wordAt info32 16 ∧ wordAt info 28 = wordAt info64 28 := by
  simp [SignalCase.fields, SiField.band, SiField.fd, copy_same, copy_long, wordAt_put_self,
    wordAt_put_of_ne]

theorem sigsys_words :
    let info := SignalCase.sigsys.fields.foldl (SiField.copy info32) info64
    wordAt info 16 = wordAt info32 12 ∧ wordAt info 20 = zeroFill ∧
      wordAt info 24 = wordAt info32 16 ∧ wordAt info 28 = wordAt info32 20 := by
  simp [SignalCase.fields, SiField.callAddr, SiField.syscall, SiField.arch, copy_same,
    copy_pointer, wordAt_put_self, wordAt_put_of_ne]

/-! ## the first `switch` -/

/-- the result before the `switch` over the signal -/
def afterCode : Image :=
  let info64 := SiField.code.copy info32 (SiField.signo.copy info32 fun _ => 0)
  (byCode (intAt info32 SiField.code.offset32)).foldl (SiField.copy info32) info64

theorem copy32to64_eq : copy32to64 info32 (fun _ => 0) =
    (signalCase (intAt info32 SiField.signo.offset32)).fields.foldl (SiField.copy info32)
      (afterCode info32) := by
  let info64 := SiField.code.copy info32 (SiField.signo.copy info32 fun _ => 0)
  have hcode : wordAt info64 8 = wordAt info32 8 := wordAt_put_self _ (length_wordAt info32 8)
  have hint : intAt info64 SiField.code.offset64 = intAt info32 SiField.code.offset32 :=
    congrArg (fun bs => Int.bmod (le bs) (2 ^ 32)) hcode
  show (signalCase _).fields.foldl (SiField.copy info32)
    ((byCode (intAt info64 SiField.code.offset64)).foldl (SiField.copy info32) info64) = _
  rw [hint]
  rfl

theorem before_words {off : Nat} (h : 12 ≤ off) :
    wordAt (SiField.code.copy info32 (SiField.signo.copy info32 fun _ => 0)) off = zeroFill := by
  show wordAt (put (put (fun _ => 0) 0 (wordAt info32 0)) 8 (wordAt info32 8)) off = zeroFill
  rw [wordAt_put_of_ne, wordAt_put_of_ne]
  · rfl
  · rw [length_wordAt]
    omega
  · rw [length_wordAt]
    omega

/-- the codes of the first `switch` -/
def Sent (code : Int) : Prop := code = siTimer ∨ code = siQueue

theorem afterCode_sent (h : Sent (intAt info32 SiField.code.offset32)) :
    wordAt (afterCode info32) 16 = wordAt info32 12 ∧
      wordAt (afterCode info32) 20 = wordAt info32 16 ∧
      wordAt (afterCode info32) 24 = wordAt info32 20 ∧
      wordAt (afterCode info32) 28 = zeroFill := by
  have hfields : byCode (intAt info32 SiField.code.offset32) = [.pid, .uid, .sigval] := by
    rcases h with h | h <;> rw [h] <;> rfl
  unfold afterCode
  rw [hfields]
  simp [SiField.pid, SiField.uid, SiField.sigval, copy_same, copy_pointer, wordAt_put_self,
    wordAt_put_of_ne]

theorem afterCode_other (h : ¬ Sent (intAt info32 SiField.code.offset32)) {off : Nat}
    (hoff : 12 ≤ off) : wordAt (afterCode info32) off = zeroFill := by
  have hfields : byCode (intAt info32 SiField.code.offset32) = [] := by
    unfold byCode
    rw [if_neg fun ht => h (.inl ht), if_neg fun hq => h (.inr hq)]
  unfold afterCode
  rw [hfields]
  exact before_words info32 hoff

/-! ## codes and members -/

/-- the signals that a member is for, if it is not for every signal -/
def SiMember.owner : SiMember → Option SignalCase
  | .sigchld => some .sigchld
  | .fault | .mceerr | .bnderr | .pkuerr | .perf => some .sigfault
  | .sigsys => some .sigsys
  | .kill | .timer | .rt | .sigpoll => none

theorem ownMember_cases (signo code : Int) (h : signalCase signo ≠ .default) :
    ownMember signo code = .sigpoll ∨ (ownMember signo code).owner = some (signalCase signo) := by
  unfold ownMember
  cases hc : signalCase signo with
  | sigchld => exact .inr rfl
  | sigpoll => exact .inl rfl
  | sigsys => exact .inr rfl
  | default => exact absurd hc h
  | sigfault =>
    right
    show (if signo = sigBus ∧ (code = 4 ∨ code = 5) then SiMember.mceerr else _).owner = _
    split_ifs <;> rfl

theorem ownCodes_default {signo : Int} (h : signalCase signo = .default) : ownCodes signo = 0 := by
  unfold signalCase at h
  split_ifs at h with h1 h2 h3 h4
  push Not at h2
  obtain ⟨hill, hfpe, hsegv, hbus, htrap⟩ := h2
  unfold ownCodes
  rw [if_neg hill, if_neg hfpe, if_neg hsegv, if_neg hbus, if_neg htrap, if_neg h1, if_neg h3,
    if_neg h4]

/-- a code that the signal has for itself is not one of `SI_TIMER` and `SI_QUEUE` -/
theorem selected_own {signo code : Int} (h0 : 0 < code) (h : code ≤ ownCodes signo) :
    ownMember signo code = .sigpoll ∨ (ownMember signo code).owner = some (signalCase signo) := by
  apply ownMember_cases
  intro hd
  rw [ownCodes_default hd] at h
  omega

/-- what the first `switch` leaves for the second one -/
structure Before (code : Int) : Prop where
  sent : Sent code → wordAt info64 16 = wordAt info32 12 ∧ wordAt info64 20 = wordAt info32 16 ∧
    wordAt info64 24 = wordAt info32 20 ∧ wordAt info64 28 = zeroFill
  other : ¬ Sent code → ∀ off, 12 ≤ off → wordAt info64 off = zeroFill

theorem afterCode_before :
    Before info32 (afterCode info32) (intAt info32 SiField.code.offset32) where
  sent := afterCode_sent info32
  other h _ hoff := afterCode_other info32 h hoff

variable {info32 info64} in
theorem Before.word28 {code : Int} (hb : Before info32 info64 code) :
    wordAt info64 28 = zeroFill := by
  by_cases h : Sent code
  · exact (hb.sent h).2.2.2
  · exact hb.other h 28 (by omega)

/-- the member goes with the code and with the signal -/
def Selectable (code : Int) (s : SignalCase) (m : SiMember) : Prop :=
  (m = .timer ∧ code = siTimer) ∨ (m = .rt ∧ code ≠ siTimer) ∨
    (¬ Sent code ∧ (m = .kill ∨ m = .sigpoll ∨ m.owner = some s))

theorem selected_selectable (signo code : Int) :
    Selectable code (signalCase signo) (selected signo code) := by
  unfold selected
  split_ifs with hpos hown hpoll ht hio hrt
  · right; right
    refine ⟨?_, .inr (selected_own hpos.1 hown)⟩
    rintro (h | h) <;> rw [h] at hpos <;> exact absurd hpos.1 (by decide)
  · right; right
    refine ⟨?_, .inr (.inl rfl)⟩
    rintro (h | h) <;> rw [h] at hpos <;> exact absurd hpos.1 (by decide)
  · right; right
    refine ⟨?_, .inl rfl⟩
    rintro (h | h) <;> rw [h] at hpos <;> exact absurd hpos.1 (by decide)
  · exact .inl ⟨rfl, ht⟩
  · right; right
    refine ⟨?_, .inr (.inl rfl)⟩
    rintro (h | h) <;> rw [hio] at h <;> exact absurd h (by decide)
  · exact .inr (.inl ⟨rfl, ht⟩)
  · right; right
    refine ⟨?_, .inl rfl⟩
    rintro (h | h)
    · exact ht h
    · exact hrt (by rw [h]; decide)

section
variable {code : Int} {s : SignalCase} {m : SiMember}

theorem Selectable.owner_eq (hs : Selectable code s m) :
    m.owner = none ∨ m.owner = some s := by
  rcases hs with ⟨rfl, -⟩ | ⟨rfl, -⟩ | ⟨-, rfl | rfl | h⟩
  · exact .inl rfl
  · exact .inl rfl
  · exact .inl rfl
  · exact .inl rfl
  · exact .inr h

theorem Selectable.not_sent (hs : Selectable code s m) (ht : m ≠ .timer) (hr : m ≠ .rt) :
    ¬ Sent code := by
  rcases hs with ⟨h, -⟩ | ⟨h, -⟩ | ⟨h, -⟩
  · exact absurd h ht
  · exact absurd h hr
  · exact h

theorem Selectable.timer (hs : Selectable code s .timer) : Sent code := by
  rcases hs with ⟨-, h⟩ | ⟨h, -⟩ | ⟨-, h | h | h⟩
  · exact .inl h
  · exact absurd h (by decide)
  · exact absurd h (by decide)
  · exact absurd h (by decide)
  · exact absurd h (by simp [SiMember.owner])

theorem Selectable.rt (hs : Selectable code s .rt) : Sent code ↔ code = siQueue := by
  rcases hs with ⟨h, -⟩ | ⟨-, h⟩ | ⟨-, h | h | h⟩
  · exact absurd h (by decide)
  · exact or_iff_right h
  · exact absurd h (by decide)
  · exact absurd h (by decide)
  · exact absurd h (by simp [SiMember.owner])

end

/-! ## each signal -/

section
variable {info32 info64} {code : Int} {m : SiMember}

/-- the fields of a member are what they were, after the `switch` over the signal -/
def KeptAfter (info32 info64 : Image) (s : SignalCase) (m : SiMember) : Prop :=
  ∀ f ∈ m.fields, f.Kept info32 (s.fields.foldl (SiField.copy info32) info64)

theorem kept_sigchld (hb : Before info32 info64 code) (hs : Selectable code .sigchld m) :
    KeptAfter info32 info64 .sigchld m ↔ KeptWhen info32 code .sigchld m := by
  obtain ⟨h16, h20, h24, h28, h32, h36, h40, h44⟩ := sigchld_words info32 info64 hb.word28
  have hown := hs.owner_eq
  unfold KeptAfter
  cases m with
  | kill => simp [SiMember.fields, KeptWhen, SiField.pid, SiField.uid, kept_same, h16, h20]
  | timer | rt =>
    simp [SiMember.fields, KeptWhen, SiField.pid, SiField.uid, SiField.tid, SiField.overrun,
      SiField.sigval, kept_same, kept_pointer, h16, h20, h24, h28]
  | sigchld =>
    simp [SiMember.fields, KeptWhen, SiField.pid, SiField.uid, SiField.status, SiField.utime,
      SiField.stime, kept_same, kept_long, h16, h20, h24, h32, h36, h40, h44]
  | sigpoll =>
    simp [SiMember.fields, KeptWhen, SiField.band, SiField.fd, kept_same, kept_long, h16, h20, h24]
  | fault | mceerr | bnderr | pkuerr | perf | sigsys => simp [SiMember.owner] at hown

theorem kept_sigpoll (hb : Before info32 info64 code) (hs : Selectable code .sigpoll m) :
    KeptAfter info32 info64 .sigpoll m ↔ KeptWhen info32 code .sigpoll m := by
  obtain ⟨h16, h20, h24, h28⟩ := sigpoll_words info32 info64
  have hown := hs.owner_eq
  unfold KeptAfter
  cases m with
  | kill =>
    simp [SiMember.fields, KeptWhen, SiField.pid, SiField.uid, kept_same, h16, h20,
      eq_comm (a := signFill _)]
  | timer | rt =>
    simp [SiMember.fields, KeptWhen, SiField.pid, SiField.uid, SiField.tid, SiField.overrun,
      SiField.sigval, kept_same, kept_pointer, h16, h20, h24, h28, hb.word28,
      eq_comm (a := signFill _), eq_comm (a := wordAt info32 16) (b := wordAt info32 20)]
  | sigpoll =>
    simp [SiMember.fields, KeptWhen, SiField.band, SiField.fd, kept_same, kept_long, h16, h20, h24]
  | sigchld | fault | mceerr | bnderr | pkuerr | perf | sigsys => simp [SiMember.owner] at hown

theorem kept_sigsys (hs : Selectable code .sigsys m) :
    KeptAfter info32 info64 .sigsys m ↔ KeptWhen info32 code .sigsys m := by
  obtain ⟨h16, h20, h24, h28⟩ := sigsys_words info32 info64
  have hown := hs.owner_eq
  unfold KeptAfter
  cases m with
  | kill =>
    simp [SiMember.fields, KeptWhen, SiField.pid, SiField.uid, kept_same, h16, h20,
      eq_comm (a := zeroFill)]
  | timer | rt =>
    have h : wordAt info32 16 = wordAt info32 20 ∧ wordAt info32 20 = zeroFill ↔
        wordAt info32 16 = zeroFill ∧ wordAt info32 20 = zeroFill := by
      constructor
      · exact fun h => ⟨h.1.trans h.2, h.2⟩
      · exact fun h => ⟨h.1.trans h.2.symm, h.2⟩
    simp [SiMember.fields, KeptWhen, SiField.pid, SiField.uid, SiField.tid, SiField.overrun,
      SiField.sigval, kept_same, kept_pointer, h16, h20, h24, h28, eq_comm (a := zeroFill), h]
  | sigpoll =>
    simp [SiMember.fields, KeptWhen, SiField.band, SiField.fd, kept_same, kept_long, h16, h20, h24,
      eq_comm (a := zeroFill), signFill_eq_zeroFill_iff]
  | sigsys =>
    simp [SiMember.fields, KeptWhen, SiField.callAddr, SiField.syscall, SiField.arch, kept_same,
      kept_pointer, h16, h20, h24, h28]
  | sigchld | fault | mceerr | bnderr | pkuerr | perf => simp [SiMember.owner] at hown

theorem kept_default (hb : Before info32 info64 code) (hs : Selectable code .default m) :
    KeptAfter info32 info64 .default m ↔ KeptWhen info32 code .default m := by
  have hown := hs.owner_eq
  unfold KeptAfter
  cases m with
  | kill =>
    have hz := hb.other (hs.not_sent (by decide) (by decide))
    simp [SiMember.fields, SignalCase.fields, KeptWhen, SiField.pid, SiField.uid, kept_same, hz,
      eq_comm (a := zeroFill)]
  | timer =>
    obtain ⟨h16, h20, h24, h28⟩ := hb.sent hs.timer
    simp [SiMember.fields, SignalCase.fields, KeptWhen, SiField.tid, SiField.overrun,
      SiField.sigval, kept_same, kept_pointer, h16, h20, h24, h28]
  | rt =>
    by_cases hq : code = siQueue
    · obtain ⟨h16, h20, h24, h28⟩ := hb.sent (hs.rt.mpr hq)
      simp [SiMember.fields, SignalCase.fields, KeptWhen, SiField.pid, SiField.uid,
        SiField.sigval, kept_same, kept_pointer, h16, h20, h24, h28, hq]
    · have hz := hb.other fun h => hq (hs.rt.mp h)
      simp [SiMember.fields, SignalCase.fields, KeptWhen, SiField.pid, SiField.uid,
        SiField.sigval, kept_same, kept_pointer, hz, hq, eq_comm (a := zeroFill)]
  | sigpoll =>
    have hz := hb.other (hs.not_sent (by decide) (by decide))
    simp [SiMember.fields, SignalCase.fields, KeptWhen, SiField.band, SiField.fd, kept_same,
      kept_long, hz, eq_comm (a := zeroFill), signFill_eq_zeroFill_iff]
    intro _ h
    rw [h]
    rfl
  | sigchld | fault | mceerr | bnderr | pkuerr | perf | sigsys => simp [SiMember.owner] at hown

theorem zeroFill_halves (info : Image) (off : Nat) : wordAt info off = zeroFill ↔
    field info off 2 = [0, 0] ∧ field info (off + 2) 2 = [0, 0] := by
  have h : zeroFill = [0, 0] ++ [0, 0] := rfl
  rw [wordAt_halves, h, append_eq_iff (length_field info off 2)]

/-- the value that an error leaves at the place of `si_addr_lsb`, for `SI_TIMER` and `SI_QUEUE` -/
theorem lsb_sent_iff (hb : Before info32 info64 code) (h : Sent code) (info : Image)
    (hl : field info 24 2 = field info32 16 2) (hh : field info 26 2 = field info64 26 2)
    (h16 : wordAt info32 16 = zeroFill) :
    wordAt info 24 = wordAt info32 20 ↔ field info32 20 2 = [0, 0] := by
  have hword := (hb.sent h).2.2.1
  rw [wordAt_halves, wordAt_halves, append_eq_iff (by simp)] at hword
  have hlow := ((zeroFill_halves info32 16).mp h16).1
  rw [wordAt_halves, wordAt_halves info32, append_eq_iff (by simp), hl, hh, hword.2, hlow]
  simp [eq_comm]

theorem lsb_other_iff (hb : Before info32 info64 code) (h : ¬ Sent code) (info : Image) (off : Nat)
    (hl : field info 24 2 = field info32 16 2) (hh : field info 26 2 = field info64 26 2) :
    wordAt info 24 = wordAt info32 off ↔
      field info32 16 2 = field info32 off 2 ∧ field info32 (off + 2) 2 = [0, 0] := by
  have hword := ((zeroFill_halves info64 24).mp (hb.other h 24 (by omega))).2
  rw [wordAt_halves, wordAt_halves info32, append_eq_iff (by simp), hl, hh, hword]
  simp [eq_comm]

theorem kept_sigfault (hb : Before info32 info64 code) (hs : Selectable code .sigfault m) :
    KeptAfter info32 info64 .sigfault m ↔ KeptWhen info32 code .sigfault m := by
  obtain ⟨h16, h20, hl, hh, h28, h32, h36, h40, h44⟩ := sigfault_words info32 info64
  have hown := hs.owner_eq
  rw [hb.word28] at h28
  unfold KeptAfter
  cases m with
  | kill =>
    simp [SiMember.fields, KeptWhen, SiField.pid, SiField.uid, kept_same, h16, h20,
      eq_comm (a := zeroFill)]
  | timer =>
    simp [SiMember.fields, KeptWhen, SiField.tid, SiField.overrun, SiField.sigval, kept_same,
      kept_pointer, h16, h20, h28, eq_comm (a := zeroFill)]
    exact lsb_sent_iff hb hs.timer _ hl hh
  | rt =>
    by_cases hq : code = siQueue
    · simp [SiMember.fields, KeptWhen, SiField.pid, SiField.uid, SiField.sigval, kept_same,
        kept_pointer, h16, h20, h28, eq_comm (a := zeroFill), hq]
      exact lsb_sent_iff hb (hs.rt.mpr hq) _ hl hh
    · have hlsb := lsb_other_iff hb (fun h => hq (hs.rt.mp h)) _ 20 hl hh
      simp [SiMember.fields, KeptWhen, SiField.pid, SiField.uid, SiField.sigval, kept_same,
        kept_pointer, h16, h20, h28, eq_comm (a := zeroFill), hq, hlsb]
      intro hz
      rw [((zeroFill_halves info32 16).mp hz).1, eq_comm (a := [0, 0])]
      exact (zeroFill_halves info32 20).symm
  | fault => simp [SiMember.fields, KeptWhen, SiField.addr, kept_pointer, h16, h20]
  | mceerr => simp [SiMember.fields, KeptWhen, SiField.addr, kept_pointer, kept_addrLsb, h16, h20, hl]
  | bnderr =>
    simp [SiMember.fields, KeptWhen, SiField.addr, SiField.lower, SiField.upper, kept_pointer, h16,
      h20, h32, h36, h40, h44]
  | pkuerr =>
    simp [SiMember.fields, KeptWhen, SiField.addr, SiField.pkey, kept_pointer, kept_same, h16, h20,
      h32]
  | perf =>
    have hlsb := lsb_other_iff hb (hs.not_sent (by decide) (by decide)) _ 16 hl hh
    simp [SiMember.fields, KeptWhen, SiField.addr, SiField.perfData, SiField.perfType,
      SiField.perfFlags, kept_pointer, kept_same, h16, h20, h28, h32, h36, hlsb,
      eq_comm (a := zeroFill)]
  | sigpoll =>
    have hlsb := lsb_other_iff hb (hs.not_sent (by decide) (by decide)) _ 16 hl hh
    simp [SiMember.fields, KeptWhen, SiField.band, SiField.fd, kept_same, kept_long, h16, h20, hlsb,
      eq_comm (a := zeroFill), signFill_eq_zeroFill_iff]
  | sigchld | sigsys => simp [SiMember.owner] at hown

theorem kept_iff {s : SignalCase} (hb : Before info32 info64 code) (hs : Selectable code s m) :
    KeptAfter info32 info64 s m ↔ KeptWhen info32 code s m := by
  cases s with
  | sigchld => exact kept_sigchld hb hs
  | sigfault => exact kept_sigfault hb hs
  | sigpoll => exact kept_sigpoll hb hs
  | sigsys => exact kept_sigsys hs
  | default => exact kept_default hb hs

end

/-- for every content of the struct of the tracee -/
theorem preserves_iff (info32 : Image) : Preserves info32 ↔ PreservesWhen info32 := by
  unfold Preserves PreservesWhen memberOf
  rw [copy32to64_eq]
  exact kept_iff (afterCode_before info32) (selected_selectable _ _)

/-- `SIGSEGV` from `kill()`, by process 7 of user 232 -/
def segvFromUser : Image := fun i =>
  if i = 0 then 11 else if i = 12 then 7 else if i = 16 then 232 else 0

/-- the user is overwritten with the upper half of `si_addr` -/
theorem preserves_fails : ¬ ∀ info32, Preserves info32 := by
  intro h
  have hm : memberOf segvFromUser = .kill := by decide +kernel
  have huid : field (copy32to64 segvFromUser fun _ => 0) 20 4 = field segvFromUser 16 4 := by
    apply h segvFromUser SiField.uid
    rw [hm]
    exact List.mem_cons_of_mem _ (List.mem_singleton_self _)
  revert huid
  decide +kernel

end

/-! ## waitid -/

namespace SigInfo

variable {old bs : Bytes} {c : ItemContext} {p : SigInfo}

/-- what the item has after a call: the struct is converted for 32-bit processes only -/
theorem updateData_processData (hold : old.length = siginfoSize) (hres : c.hasResultValue = true)
    (hread : ¬ Unreadable c.mem p.ptr siginfoSize)
    (hbs : bytesAt c.mem p.ptr siginfoSize = some bs) :
    p.processData.updateData old c = .ok { p with
      info := some (if c.is32BitEmulationABI then copy32to64 (imageOf bs) fun _ => 0
        else imageOf bs) } := by
  have hinto := (readStructInto_true_iff bs hold.ge).mpr
    ⟨hread, bs, hbs, by rw [← hold, List.drop_length, List.append_nil]⟩
  unfold updateData processData
  dsimp only
  rw [if_pos hres, hinto]
  dsimp only
  split_ifs <;> rfl

theorem updateData_nothing (hold : old.length = siginfoSize)
    (h : c.hasResultValue = false ∨ Unreadable c.mem p.ptr siginfoSize) :
    p.processData.updateData old c = .ok p.processData := by
  unfold updateData
  split_ifs with hres h32
  all_goals try rfl
  all_goals
    have hfalse := readStructInto_unreadable hold.ge (h.resolve_left (by simp [hres]))
    rcases hinto : readStructInto c.mem p.ptr old siginfoSize with ⟨info, r⟩
    rw [hinto] at hfalse
    unfold processData
    dsimp only at hfalse ⊢
    rw [hinto, hfalse]

/-- for each call of `waitid()` and whatever the item had before: it has no information exactly if
the call failed or the struct cannot be read, that of a 64-bit process as it is, and in that of a
32-bit process every field of its member exactly under the condition on the content -/
theorem waitid_iff (hold : old.length = siginfoSize) (c : ItemContext) (p : SigInfo) :
    ∃ q, p.processData.updateData old c = .ok q ∧
      (q.info = none ↔ c.hasResultValue = false ∨ Unreadable c.mem p.ptr siginfoSize) ∧
      ∀ bs info, bytesAt c.mem p.ptr siginfoSize = some bs → q.info = some info →
        if c.is32BitEmulationABI then
          (∀ f ∈ (memberOf (imageOf bs)).fields, f.Kept (imageOf bs) info) ↔
            PreservesWhen (imageOf bs)
        else info = imageOf bs := by
  by_cases hnone : c.hasResultValue = false ∨ Unreadable c.mem p.ptr siginfoSize
  · exact ⟨_, updateData_nothing hold hnone, iff_of_true rfl hnone, fun _ _ _ hi => nomatch hi⟩
  · obtain ⟨hres, hread⟩ := not_or.mp hnone
    rw [Bool.not_eq_false] at hres
    have hbytes : ∃ bs, bytesAt c.mem p.ptr siginfoSize = some bs := by
      unfold Unreadable at hread
      exact Option.ne_none_iff_exists'.mp (not_or.mp hread).2
    obtain ⟨bs, hbs⟩ := hbytes
    refine ⟨_, updateData_processData hold hres hread hbs, iff_of_false nofun hnone, ?_⟩
    intro bs' info hbs' hinfo
    cases hbs.symm.trans hbs'
    rw [← Option.some.inj hinfo]
    split_ifs
    · unfold PreservesWhen memberOf
      rw [copy32to64_eq]
      exact kept_iff (afterCode_before _) (selected_selectable _ _)
    · rfl

/-- `waitid()` of a 32-bit process, for the child that the signal has killed -/
def waited : ItemContext where
  mem a := some (segvFromUser (a.toNat - 0x1000))
  maxBufferPrefetch := 0
  is32BitEmulationABI := true
  hasResultValue := true

theorem waitid_iff_waited : ∃ q info, ({ ptr := 0x1000 } : SigInfo).processData.updateData
      (List.replicate siginfoSize 0) waited = .ok q ∧ q.info = some info ∧
    let info32 := imageOf ((List.range siginfoSize).map segvFromUser)
    ¬ ∀ f ∈ (memberOf info32).fields, f.Kept info32 info := by
  have hold : (List.replicate siginfoSize (0 : UInt8)).length = siginfoSize :=
    List.length_replicate
  obtain ⟨q, hq, hnone, hkept⟩ := waitid_iff hold waited { ptr := 0x1000 }
  have hinfo : q.info ≠ none := by
    rw [ne_eq, hnone]
    rintro (h | h | h)
    · cases h
    · exact absurd h (by decide)
    · revert h
      decide +kernel
  obtain ⟨info, hi⟩ := Option.ne_none_iff_exists'.mp hinfo
  have hbytes : bytesAt waited.mem 0x1000 siginfoSize
      = some ((List.range siginfoSize).map segvFromUser) := by decide +kernel
  refine ⟨q, info, hq, hi, fun h => ?_⟩
  have hwhen := (hkept _ info hbytes hi).mp h
  have hmember : memberOf (imageOf ((List.range siginfoSize).map segvFromUser)) = .kill := by
    decide +kernel
  have hcase : signalCase (intAt (imageOf ((List.range siginfoSize).map segvFromUser))
      SiField.signo.offset32) = .sigfault := by decide +kernel
  unfold PreservesWhen at hwhen
  rw [hmember, hcase] at hwhen
  -- the user is not 0
  change wordAt (imageOf ((List.range siginfoSize).map segvFromUser)) 16 = zeroFill at hwhen
  revert hwhen
  decide +kernel

end SigInfo

end Clues
