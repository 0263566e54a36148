import Clues.Items.TimeSpec

/-!
# Resource limits

* `ResourceLimit`    the item for a `struct rlimit`, which has two layouts;
* `LimitCall`        a call with such a parameter, at both stops;
* `LimitCall.image`  the bytes in which limits are passed;
* `LimitCall.shows_iff_fits`   when the item has the limits that are passed.
-/

namespace Clues

open Lib.LittleEndian

/-- `RLIM_INFINITY` -/
def rlimInfinity : UInt64 := 0xffffffffffffffff

/-- `cosmos::LimitSpec` -/
structure LimitSpec where
  cur : UInt64
  max : UInt64
  deriving DecidableEq, Repr

structure ResourceLimit where
  ptr : Word := 0
  limit : Option LimitSpec := none

namespace ResourceLimit

def isCompatSyscall (c : TimeContext) : Bool :=
  if c.nr = .prlimit64 then false else c.abi == .i386

/-- a field of so many bytes; all its bits stand for no limit -/
def translate (size : Nat) (n : Nat) : UInt64 :=
  if n = 256 ^ size - 1 then rlimInfinity else UInt64.ofNat n

/-- `update_rlimit` for a struct with fields of this size; the struct of the tracer is overwritten
as a whole -/
def updateRlimit (size : Nat) (c : TimeContext) (l : ResourceLimit) : Except Exc ResourceLimit :=
  (c.mem.readStructIntoOptional l.ptr (size * 2) (size * 2)).map fun bs =>
    { l with limit := bs.map fun bs =>
        ⟨translate size (numberAt bs 0 size), translate size (numberAt bs size size)⟩ }

def updateData (type : ItemType) (c : TimeContext) (l : ResourceLimit) :
    Except Exc ResourceLimit :=
  if type = .paramOut && !c.hasResultValue then .ok l
  else updateRlimit (if isCompatSyscall c then 4 else 8) c l

def processData (type : ItemType) (c : TimeContext) (l : ResourceLimit) :
    Except Exc ResourceLimit :=
  if type = .paramOut then .ok { l with limit := none } else updateData type c l

end ResourceLimit

/-! ## a call -/

/-- `getrlimit()`, `setrlimit()` or `prlimit64()`, which has a parameter of each type -/
structure LimitCall where
  nr : SystemCallNr
  type : ItemType
  limits : nr = .getrlimit ∧ type = .paramOut ∨ nr = .setrlimit ∧ type = .paramIn ∨
    nr = .prlimit64 ∧ (type = .paramIn ∨ type = .paramOut)
  abi : ABI
  ptr : Word
  entry : Memory
  exit : Memory
  result : ExitInfo

namespace LimitCall

def entryContext (call : LimitCall) : TimeContext :=
  { mem := call.entry, abi := call.abi, nr := call.nr, error := some ⟨Errno.noData⟩ }

def exitContext (call : LimitCall) : TimeContext :=
  { mem := call.exit, abi := call.abi, nr := call.nr, error := call.result.error }

/-- the item after the exit; it may have been used before -/
def item (call : LimitCall) (l : ResourceLimit) : Except Exc ResourceLimit := do
  let l ← { l with ptr := call.ptr }.processData call.type call.entryContext
  if call.type.needsUpdate then l.updateData call.type call.exitContext else .ok l

/-- a 32-bit process passes 32-bit numbers to the older calls -/
def compat (call : LimitCall) : Bool := call.abi = .i386 && call.nr ≠ .prlimit64

/-- the size of a limit -/
def size (call : LimitCall) : Nat := if call.compat then 4 else 8

/-- the number for a limit: in 32 bits all bits stand for `RLIM_INFINITY`, but the kernel writes
`0x7fffffff` for `getrlimit()`, and so for all larger numbers -/
def field (call : LimitCall) (x : UInt64) : Nat :=
  if call.compat then
    if call.nr = .getrlimit then min x.toNat 0x7fffffff
    else if x = rlimInfinity then 0xffffffff else x.toNat
  else x.toNat

def image (call : LimitCall) (l : LimitSpec) : Bytes :=
  toLE call.size (call.field l.cur) ++ toLE call.size (call.field l.max)

/-- what 32 bits can tell from `RLIM_INFINITY` -/
def Representable (x : UInt64) : Prop := x = rlimInfinity ∨ x.toNat < 0xffffffff

/-- where a parameter of the type has its value -/
def memory (call : LimitCall) : Memory := if call.type = .paramOut then call.exit else call.entry

/-- the limits are passed from or to the kernel; a 32-bit process cannot pass all of them -/
structure Passes (call : LimitCall) (l : LimitSpec) : Prop where
  bytes : bytesAt call.memory call.ptr (call.size * 2) = some (call.image l)
  ptr : call.ptr ≠ 0
  succeeds : call.type = .paramOut → call.result.error = none
  representable : call.compat = true → call.nr = .setrlimit →
    Representable l.cur ∧ Representable l.max

/-- the item has the limits -/
def Shows (call : LimitCall) (l : LimitSpec) : Prop :=
  ∀ x : ResourceLimit, (call.item x).map ResourceLimit.limit = .ok (some l)

/-- it is not the `getrlimit()` of a 32-bit process, or the limits have 31 bits -/
def Fits (call : LimitCall) (l : LimitSpec) : Prop :=
  call.compat = true → call.nr = .getrlimit →
    l.cur.toNat ≤ 0x7fffffff ∧ l.max.toNat ≤ 0x7fffffff

/-- what `getrlimit()` tells a 32-bit process -/
def capped (x : UInt64) : UInt64 := if x.toNat ≤ 0x7fffffff then x else 0x7fffffff

variable {call : LimitCall} {l : LimitSpec}

theorem size_eq (call : LimitCall) : call.size = 4 ∨ call.size = 8 := by
  unfold size
  split_ifs
  · exact Or.inl rfl
  · exact Or.inr rfl

theorem older_of_compat (hc : call.compat = true) (hg : call.nr ≠ .getrlimit) :
    call.nr = .setrlimit := by
  rcases call.limits with ⟨hnr, _⟩ | ⟨hnr, _⟩ | ⟨hnr, _⟩
  · exact absurd hnr hg
  · exact hnr
  · unfold compat at hc
    simp [hnr] at hc

theorem isCompatSyscall_eq (c : TimeContext) (habi : c.abi = call.abi) (hnr : c.nr = call.nr) :
    (if ResourceLimit.isCompatSyscall c then 4 else 8) = call.size := by
  unfold size compat ResourceLimit.isCompatSyscall
  rw [habi, hnr]
  by_cases h : call.nr = .prlimit64
  · rw [if_pos h]
    simp [h]
  · rw [if_neg h]
    simp [h]

theorem field_lt (call : LimitCall) {x : UInt64}
    (h : call.compat = true → call.nr = .setrlimit → Representable x) :
    call.field x < 256 ^ call.size := by
  have hx : x.toNat < 2 ^ 64 := x.toNat_lt
  unfold field size
  cases hc : call.compat with
  | false => exact hx
  | true =>
    rw [if_pos rfl, if_pos rfl]
    split_ifs with hget hinf
    · omega
    · norm_num
    · have hlt : x.toNat < 0xffffffff := (h hc (older_of_compat hc hget)).resolve_left hinf
      omega

theorem numberAt_image (h : call.Passes l) :
    numberAt (call.image l) 0 call.size = call.field l.cur ∧
      numberAt (call.image l) call.size call.size = call.field l.max := by
  have hcur := call.field_lt fun hc hs => (h.representable hc hs).1
  have hmax := call.field_lt fun hc hs => (h.representable hc hs).2
  have hlen : ∀ n, (toLE call.size n).length = call.size := length_toLE call.size
  unfold numberAt image
  constructor
  · rw [List.drop_zero, List.take_left' (hlen _), le_toLE_of_lt hcur]
  · rw [List.drop_left' (hlen _), List.take_of_length_le (hlen _).le, le_toLE_of_lt hmax]

/-- the struct is read where it was passed -/
theorem updateRlimit_eq (h : call.Passes l) {c : TimeContext} (hm : c.mem = call.memory)
    {x : ResourceLimit} (hx : x.ptr = call.ptr) :
    (ResourceLimit.updateRlimit call.size c x).map ResourceLimit.limit
      = .ok (some ⟨ResourceLimit.translate call.size (call.field l.cur),
          ResourceLimit.translate call.size (call.field l.max)⟩) := by
  obtain ⟨hcur, hmax⟩ := numberAt_image h
  have hwords : ∃ k, call.size * 2 = wordSize * k := by
    rcases call.size_eq with hs | hs <;> rw [hs]
    · exact ⟨1, rfl⟩
    · exact ⟨2, rfl⟩
  obtain ⟨k, hk⟩ := hwords
  have hpos : 0 < call.size * 2 := by
    rcases call.size_eq with hs | hs <;> omega
  unfold ResourceLimit.updateRlimit
  rw [hm, hx, readStruct_whole hk hpos, if_neg h.ptr, h.bytes]
  simp only [Except.map, Option.map_some, hcur, hmax]

theorem item_eq (h : call.Passes l) (x : ResourceLimit) :
    (call.item x).map ResourceLimit.limit
      = .ok (some ⟨ResourceLimit.translate call.size (call.field l.cur),
          ResourceLimit.translate call.size (call.field l.max)⟩) := by
  have htype : call.type = .paramIn ∨ call.type = .paramOut := by
    rcases call.limits with ⟨_, ht⟩ | ⟨_, ht⟩ | ⟨_, ht⟩
    · exact Or.inr ht
    · exact Or.inl ht
    · exact ht
  unfold item ResourceLimit.processData ResourceLimit.updateData
  rcases htype with ht | ht
  · have hm : call.entryContext.mem = call.memory := by
      unfold memory
      rw [ht]
      rfl
    rw [ht]
    show ((ResourceLimit.updateRlimit (if ResourceLimit.isCompatSyscall call.entryContext then 4
      else 8) call.entryContext { x with ptr := call.ptr }) >>= pure).map _ = _
    rw [isCompatSyscall_eq _ rfl rfl, bind_pure]
    exact updateRlimit_eq h hm rfl
  · have hm : call.exitContext.mem = call.memory := by
      unfold memory
      rw [ht]
      rfl
    have hvalue : call.exitContext.hasResultValue = true := by
      unfold TimeContext.hasResultValue
      show call.result.error.isNone = true
      rw [h.succeeds ht]
      rfl
    rw [ht]
    show (if _ && !call.exitContext.hasResultValue then _ else ResourceLimit.updateRlimit
      (if ResourceLimit.isCompatSyscall call.exitContext then 4 else 8) call.exitContext _).map _ = _
    rw [hvalue, isCompatSyscall_eq _ rfl rfl]
    exact updateRlimit_eq h hm rfl

theorem translate_field (call : LimitCall) {x : UInt64}
    (h : call.compat = true → call.nr = .setrlimit → Representable x) :
    ResourceLimit.translate call.size (call.field x) = x ↔
      (call.compat = true → call.nr = .getrlimit → x.toNat ≤ 0x7fffffff) := by
  have hx : UInt64.ofNat x.toNat = x := UInt64.ofNat_toNat
  unfold ResourceLimit.translate field size
  cases hc : call.compat with
  | false =>
    refine iff_of_true ?_ nofun
    simp only [Bool.false_eq_true, if_false]
    split_ifs with hall
    · exact (UInt64.toNat_inj.mp hall).symm
    · exact hx
  | true =>
    simp only [if_true, true_implies]
    by_cases hg : call.nr = .getrlimit
    · have hne : min x.toNat 0x7fffffff ≠ 256 ^ 4 - 1 := by omega
      rw [if_pos hg, if_neg hne]
      constructor
      · intro he _
        have hmin := congrArg UInt64.toNat he
        rw [UInt64.toNat_ofNat'] at hmin
        omega
      · intro hle
        rw [min_eq_left (hle hg), hx]
    · rw [if_neg hg]
      refine iff_of_true ?_ fun hget => absurd hget hg
      rcases h hc (older_of_compat hc hg) with rfl | hlt
      · rfl
      · have hne : x ≠ rlimInfinity := by
          rintro rfl
          exact absurd hlt (by decide)
        rw [if_neg hne, if_neg (by omega), hx]

theorem translate_capped (hc : call.compat = true) (hg : call.nr = .getrlimit) (x : UInt64) :
    ResourceLimit.translate call.size (call.field x) = capped x := by
  have hne : min x.toNat 0x7fffffff ≠ 256 ^ 4 - 1 := by omega
  unfold ResourceLimit.translate field size capped
  rw [if_pos hc, if_pos hc, if_pos hg, if_neg hne]
  split_ifs with hle
  · rw [min_eq_left hle, UInt64.ofNat_toNat]
  · rw [min_eq_right (by omega)]
    rfl

theorem shows_iff_translates (h : call.Passes l) (l' : LimitSpec) : call.Shows l' ↔
    ResourceLimit.translate call.size (call.field l.cur) = l'.cur ∧
      ResourceLimit.translate call.size (call.field l.max) = l'.max := by
  unfold Shows
  constructor
  · intro hs
    have heq := (item_eq h {}).symm.trans (hs {})
    have hl := Option.some.inj (Except.ok.inj heq)
    exact ⟨congrArg LimitSpec.cur hl, congrArg LimitSpec.max hl⟩
  · intro ⟨hc, hm⟩ x
    rw [item_eq h, hc, hm]

/-- for every call, the limits that are passed and any earlier state of the item; the limits that
`getrlimit()` cannot tell a 32-bit process are shown as the number that it writes -/
theorem shows_iff_fits (h : call.Passes l) : (call.Shows l ↔ call.Fits l) ∧
    (¬ call.Fits l → call.Shows ⟨capped l.cur, capped l.max⟩) := by
  have hcur := call.translate_field fun hc hs => (h.representable hc hs).1
  have hmax := call.translate_field fun hc hs => (h.representable hc hs).2
  constructor
  · rw [shows_iff_translates h, hcur, hmax]
    unfold Fits
    constructor
    · intro ⟨h1, h2⟩ hc hg
      exact ⟨h1 hc hg, h2 hc hg⟩
    · intro hf
      exact ⟨fun hc hg => (hf hc hg).1, fun hc hg => (hf hc hg).2⟩
  · intro hf
    unfold Fits at hf
    push Not at hf
    obtain ⟨hc, hg, -⟩ := hf
    rw [shows_iff_translates h]
    exact ⟨translate_capped hc hg l.cur, translate_capped hc hg l.max⟩

/-- `getrlimit(RLIMIT_NOFILE, 0x1000)` of a process with the limits 1024 and `RLIM_INFINITY` -/
def openFiles (abi : ABI) (bytes : Bytes) : LimitCall where
  nr := .getrlimit
  type := .paramOut
  limits := Or.inl ⟨rfl, rfl⟩
  abi := abi
  ptr := 0x1000
  entry := fun _ => some 0
  exit a := bytes[(a - 0x1000).toNat]?
  result := .retVal 0

def fileLimits : LimitSpec := ⟨1024, rlimInfinity⟩

theorem openFiles_passes (abi : ABI) (habi : abi = .x86_64 ∨ abi = .i386) :
    (openFiles abi ((openFiles abi []).image fileLimits)).Passes fileLimits := by
  rcases habi with rfl | rfl
  · exact ⟨by decide +kernel, by decide, fun _ => rfl, nofun⟩
  · exact ⟨by decide +kernel, by decide, fun _ => rfl, nofun⟩

theorem shows_iff_fits_openFiles :
    (openFiles .x86_64 ((openFiles .x86_64 []).image fileLimits)).Shows fileLimits ∧
    (openFiles .i386 ((openFiles .i386 []).image fileLimits)).Shows ⟨1024, 0x7fffffff⟩ := by
  refine ⟨(shows_iff_fits (openFiles_passes .x86_64 (Or.inl rfl))).1.mpr nofun, ?_⟩
  apply (shows_iff_fits (openFiles_passes .i386 (Or.inr rfl))).2
  exact fun h => absurd (h rfl rfl).2 (by decide)

end LimitCall

end Clues
