import Clues.Items.SigInfo
import Clues.Items.TimeSpec
import Clues.Lib.Places

/-!
# File status

* `StatLayout`      the layouts of `struct stat`, of which 32-bit processes have three;
* `StatParameter`   the item;
* `StatCall`        a call of the family, with its memory at the exit;
* `StatCall.shows_status_iff`   when the item has what the kernel reports, and nothing otherwise.
-/

namespace Clues

open Lib.LittleEndian Lib.Fields Lib.Places

/-! ## layouts -/

inductive StatField where
  | dev | ino | mode | nlink | uid | gid | rdev | size | blksize | blocks | atime | atimeNsec
  | mtime | mtimeNsec | ctime | ctimeNsec
  deriving DecidableEq, Repr

structure StatLayout where
  size : Nat
  places : List (StatField × Place)

namespace StatLayout

/-- `struct old_kernel_stat`, without a part of the fields -/
def oldKernelStat : StatLayout where
  size := 32
  places := [(.dev, ⟨0, 2⟩), (.ino, ⟨2, 2⟩), (.mode, ⟨4, 2⟩), (.nlink, ⟨6, 2⟩), (.uid, ⟨8, 2⟩),
    (.gid, ⟨10, 2⟩), (.rdev, ⟨12, 2⟩), (.size, ⟨16, 4⟩), (.atime, ⟨20, 4⟩), (.mtime, ⟨24, 4⟩),
    (.ctime, ⟨28, 4⟩)]

/-- `struct stat32` -/
def stat32 : StatLayout where
  size := 64
  places := [(.dev, ⟨0, 4⟩), (.ino, ⟨4, 4⟩), (.mode, ⟨8, 2⟩), (.nlink, ⟨10, 2⟩), (.uid, ⟨12, 2⟩),
    (.gid, ⟨14, 2⟩), (.rdev, ⟨16, 4⟩), (.size, ⟨20, 4⟩), (.blksize, ⟨24, 4⟩), (.blocks, ⟨28, 4⟩),
    (.atime, ⟨32, 4⟩), (.atimeNsec, ⟨36, 4⟩), (.mtime, ⟨40, 4⟩), (.mtimeNsec, ⟨44, 4⟩),
    (.ctime, ⟨48, 4⟩), (.ctimeNsec, ⟨52, 4⟩)]

/-- `struct stat32_64`, which is packed -/
def stat32With64 : StatLayout where
  size := 96
  places := [(.dev, ⟨0, 8⟩), (.mode, ⟨16, 4⟩), (.nlink, ⟨20, 4⟩), (.uid, ⟨24, 4⟩),
    (.gid, ⟨28, 4⟩), (.rdev, ⟨32, 8⟩), (.size, ⟨44, 8⟩), (.blksize, ⟨52, 4⟩), (.blocks, ⟨56, 8⟩),
    (.atime, ⟨64, 4⟩), (.atimeNsec, ⟨68, 4⟩), (.mtime, ⟨72, 4⟩), (.mtimeNsec, ⟨76, 4⟩),
    (.ctime, ⟨80, 4⟩), (.ctimeNsec, ⟨84, 4⟩), (.ino, ⟨88, 8⟩)]

/-- `struct stat64` of x86-64, as the `struct stat` of the tracer -/
def stat64 : StatLayout where
  size := 144
  places := [(.dev, ⟨0, 8⟩), (.ino, ⟨8, 8⟩), (.nlink, ⟨16, 8⟩), (.mode, ⟨24, 4⟩), (.uid, ⟨28, 4⟩),
    (.gid, ⟨32, 4⟩), (.rdev, ⟨40, 8⟩), (.size, ⟨48, 8⟩), (.blksize, ⟨56, 8⟩), (.blocks, ⟨64, 8⟩),
    (.atime, ⟨72, 8⟩), (.atimeNsec, ⟨80, 8⟩), (.mtime, ⟨88, 8⟩), (.mtimeNsec, ⟨96, 8⟩),
    (.ctime, ⟨104, 8⟩), (.ctimeNsec, ⟨112, 8⟩)]

/-- the fields of the struct of the tracer, as numbers without a sign; those without a place are
zero -/
def decode (lay : StatLayout) (bs : Bytes) (f : StatField) : Nat :=
  match lay.places.lookup f with
  | some p => load (imageOf bs) p
  | none => 0

/-- what a struct can tell of a status -/
def reported (lay : StatLayout) (status : StatField → Nat) (f : StatField) : Nat :=
  match lay.places.lookup f with
  | some p => status f % 256 ^ p.width
  | none => 0

/-- no field overlaps another one, and the struct consists of whole words -/
structure Proper (lay : StatLayout) : Prop where
  apart : lay.places.Pairwise fun e e' => e'.2.Apart e.2
  within : ∀ e ∈ lay.places, e.2.offset + e.2.width ≤ lay.size
  whole : lay.size = wordSize * (lay.size / wordSize)
  pos : 0 < lay.size

instance (lay : StatLayout) : Decidable lay.Proper :=
  decidable_of_iff (_ ∧ _ ∧ _ ∧ _)
    ⟨fun ⟨h1, h2, h3, h4⟩ => ⟨h1, h2, h3, h4⟩, fun h => ⟨h.1, h.2, h.3, h.4⟩⟩

theorem proper_oldKernelStat : oldKernelStat.Proper := by decide +kernel

theorem proper_stat32 : stat32.Proper := by decide +kernel

theorem proper_stat32With64 : stat32With64.Proper := by decide +kernel

theorem proper_stat64 : stat64.Proper := by decide +kernel

theorem mem_of_lookup {f : StatField} {p : Place} {places : List (StatField × Place)}
    (h : places.lookup f = some p) : (f, p) ∈ places := by
  obtain ⟨l, l', rfl, _⟩ := List.lookup_eq_some_iff.mp h
  exact List.mem_append_right l List.mem_cons_self

/-- a field of the bytes at the front of an image -/
theorem field_imageOf (r : Image) {n off width : Nat} (h : off + width ≤ n) :
    field (imageOf (field r 0 n)) off width = field r off width := by
  unfold imageOf
  apply List.ext_getElem
  · rw [length_field, length_field]
  · intro i hi _
    have hwidth : i < width := by rwa [length_field] at hi
    have hlt : off + i < (field r 0 n).length := by
      rw [length_field]
      omega
    rw [getElem_field, getElem_field, List.getD_eq_getElem _ _ hlt, getElem_field, Nat.zero_add]

/-- each field that was written is read -/
theorem decode_store {lay : StatLayout} (h : lay.Proper) (status : StatField → Nat)
    (padding : Image) :
    lay.decode (field (store lay.places status padding) 0 lay.size) = lay.reported status := by
  funext f
  unfold decode reported
  cases hp : lay.places.lookup f with
  | none => rfl
  | some p =>
    have hmem := mem_of_lookup hp
    have hload := load_store (v := status) h.apart hmem padding
    show load (imageOf _) p = status f % 256 ^ p.width
    rw [← hload]
    exact congrArg le (field_imageOf _ (h.within _ hmem))

end StatLayout

/-! ## the item -/

structure StatParameter where
  ptr : Word := 0
  stat : Option (StatField → Nat) := none

namespace StatParameter

def isOldStat (c : TimeContext) : Bool :=
  match c.nr with
  | .oldstat | .oldlstat | .oldfstat => true
  | _ => false

def isStat64 (c : TimeContext) : Bool :=
  match c.nr with
  | .stat64 | .lstat64 | .fstat64 | .fstatat64 => true
  | _ => false

def isRegularStat (c : TimeContext) : Bool :=
  match c.nr with
  | .stat | .lstat | .fstat => true
  | _ => false

def processData (p : StatParameter) : StatParameter := { p with stat := none }

/-- `fetch_and_copy`: without the struct the item stays as it is -/
def fetchAndCopy (lay : StatLayout) (c : TimeContext) (p : StatParameter) :
    Except Exc StatParameter :=
  (c.mem.readStructIntoOptional p.ptr lay.size lay.size).map fun bs =>
    bs.elim p fun bs => { p with stat := some (lay.decode bs) }

/-- `readRawStructIntoOptional()` -/
def readRaw (c : TimeContext) (p : StatParameter) : Except Exc StatParameter :=
  (c.mem.readStructIntoOptional p.ptr StatLayout.stat64.size StatLayout.stat64.size).map fun bs =>
    { p with stat := bs.map StatLayout.stat64.decode }

def updateData (c : TimeContext) (p : StatParameter) : Except Exc StatParameter :=
  match c.abi with
  | .x86_64 | .x32 | .aarch64 => readRaw c p
  | .i386 =>
    if isOldStat c then fetchAndCopy .oldKernelStat c p
    else if isStat64 c then fetchAndCopy .stat32With64 c p
    else if isRegularStat c then fetchAndCopy .stat32 c p
    else .error (.runtime "unexpected syscall nr for struct stat")
  | .unknown => .error (.runtime "unexpected ABI for struct stat")

section
variable {lay : StatLayout} {c : TimeContext} {p : StatParameter}

theorem fetchAndCopy_eq (hl : lay.Proper) (hp : p.stat = none) :
    (fetchAndCopy lay c p).map stat
      = .ok (if p.ptr = 0 then none else (bytesAt c.mem p.ptr lay.size).map lay.decode) := by
  unfold fetchAndCopy
  rw [readStruct_whole hl.whole hl.pos]
  by_cases h0 : p.ptr = 0
  · rw [if_pos h0, if_pos h0]
    exact congrArg Except.ok hp
  · rw [if_neg h0, if_neg h0]
    cases bytesAt c.mem p.ptr lay.size with
    | none => exact congrArg Except.ok hp
    | some bs => rfl

theorem readRaw_eq :
    (readRaw c p).map stat
      = .ok (if p.ptr = 0 then none
          else (bytesAt c.mem p.ptr StatLayout.stat64.size).map StatLayout.stat64.decode) := by
  unfold readRaw
  rw [readStruct_whole StatLayout.proper_stat64.whole StatLayout.proper_stat64.pos]
  by_cases h0 : p.ptr = 0
  · rw [if_pos h0, if_pos h0]
    rfl
  · rw [if_neg h0, if_neg h0]
    rfl

end

end StatParameter

/-! ## a call -/

/-- the layout that the kernel uses for a call, if there is one -/
def statLayout : ABI → SystemCallNr → Option StatLayout
  | .i386, .oldstat | .i386, .oldlstat | .i386, .oldfstat => some .oldKernelStat
  | .i386, .stat64 | .i386, .lstat64 | .i386, .fstat64 | .i386, .fstatat64 => some .stat32With64
  | .i386, .stat | .i386, .lstat | .i386, .fstat => some .stat32
  | .x86_64, .stat | .x86_64, .lstat | .x86_64, .fstat | .x86_64, .newfstatat => some .stat64
  | .x32, .stat | .x32, .lstat | .x32, .fstat | .x32, .newfstatat => some .stat64
  | _, _ => none

structure StatCall where
  nr : SystemCallNr
  abi : ABI
  ptr : Word
  exit : Memory
  result : ExitInfo

namespace StatCall

def exitContext (call : StatCall) : TimeContext :=
  { mem := call.exit, abi := call.abi, nr := call.nr, error := call.result.error }

/-- the item after the exit; it may have been used before -/
def item (call : StatCall) (p : StatParameter) : Except Exc StatParameter :=
  StatParameter.updateData call.exitContext { p with ptr := call.ptr }.processData

/-- a successful call has written the status, whatever is in the padding -/
structure Reports (call : StatCall) (lay : StatLayout) (status : StatField → Nat) : Prop where
  layout : statLayout call.abi call.nr = some lay
  written : call.result.error = none → call.ptr ≠ 0 ∧ ∃ padding, bytesAt call.exit call.ptr lay.size
    = some (field (store lay.places status padding) 0 lay.size)

/-- the item has the status that a successful call reports, and nothing otherwise -/
def Shows (call : StatCall) (lay : StatLayout) (status : StatField → Nat) : Prop :=
  ∀ p : StatParameter, (call.item p).map StatParameter.stat
    = .ok (if call.result.error = none then some (lay.reported status) else none)

/-- the call succeeded, or there are no bytes to be taken for a status -/
def Fits (call : StatCall) (lay : StatLayout) : Prop :=
  call.result.error = none ∨ call.ptr = 0 ∨ bytesAt call.exit call.ptr lay.size = none

variable {call : StatCall} {lay : StatLayout} {status : StatField → Nat}

theorem proper_statLayout {abi : ABI} {nr : SystemCallNr} (h : statLayout abi nr = some lay) :
    lay.Proper := by
  unfold statLayout at h
  split at h
  all_goals cases h
  all_goals first
    | exact StatLayout.proper_oldKernelStat
    | exact StatLayout.proper_stat32With64
    | exact StatLayout.proper_stat32
    | exact StatLayout.proper_stat64

/-- the item looks for the bytes whatever the call returned -/
theorem item_eq (h : statLayout call.abi call.nr = some lay) (p : StatParameter) :
    (call.item p).map StatParameter.stat
      = .ok (if call.ptr = 0 then none
          else (bytesAt call.exit call.ptr lay.size).map lay.decode) := by
  have hl := proper_statLayout h
  have hfetch := StatParameter.fetchAndCopy_eq (c := call.exitContext)
    (p := { p with ptr := call.ptr }.processData) hl rfl
  have hraw := StatParameter.readRaw_eq (c := call.exitContext)
    (p := { p with ptr := call.ptr }.processData)
  unfold item StatParameter.updateData StatParameter.isOldStat StatParameter.isStat64
    StatParameter.isRegularStat
  unfold statLayout at h
  split at h
  -- one of the layouts of a 32-bit process, or the one of the tracer
  all_goals
    rename_i habi hnr
    cases h
  all_goals
    simp only [exitContext, habi, hnr] at hfetch hraw ⊢
  all_goals first
    | exact hfetch
    | exact hraw

/-- what a call that failed is taken to have written is decoded like a status -/
theorem shows_status_iff (h : call.Reports lay status) :
    (call.Shows lay status ↔ call.Fits lay) ∧
      (¬ call.Fits lay → ∃ bytes, bytesAt call.exit call.ptr lay.size = some bytes ∧
        ∀ p : StatParameter, (call.item p).map StatParameter.stat = .ok (some (lay.decode bytes))) := by
  unfold Shows Fits
  simp only [item_eq h.layout]
  by_cases hok : call.result.error = none
  · obtain ⟨hptr, padding, hbytes⟩ := h.written hok
    refine ⟨iff_of_true (fun _ => ?_) (Or.inl hok), fun hf => absurd (Or.inl hok) hf⟩
    rw [if_neg hptr, if_pos hok, hbytes, Option.map_some,
      StatLayout.decode_store (proper_statLayout h.layout)]
  · rw [if_neg hok]
    refine ⟨⟨fun hnone => ?_, ?_⟩, fun hf => ?_⟩
    · have hread := Except.ok.inj (hnone {})
      by_cases h0 : call.ptr = 0
      · exact Or.inr (Or.inl h0)
      · rw [if_neg h0] at hread
        exact Or.inr (Or.inr (Option.map_eq_none_iff.mp hread))
    · rintro (hok' | h0 | hunread) _
      · exact absurd hok' hok
      · rw [if_pos h0]
      · rw [hunread, Option.map_none, ite_self]
    · push Not at hf
      obtain ⟨-, hptr, hread⟩ := hf
      obtain ⟨bytes, hbytes⟩ := Option.ne_none_iff_exists'.mp hread
      refine ⟨bytes, hbytes, fun _ => ?_⟩
      rw [if_neg hptr, hbytes, Option.map_some]

/-- a file of 1000 bytes -/
def smallFile (f : StatField) : Nat := if f = .size then 1000 else 0

/-- `stat()` of a 32-bit process; the buffer at 0x1000 has the status of the file -/
def statFile (result : ExitInfo) : StatCall where
  nr := .stat
  abi := .i386
  ptr := 0x1000
  exit a := some (store StatLayout.stat32.places smallFile (fun _ => 0) (a - 0x1000).toNat)
  result := result

theorem bytesAt_statFile : bytesAt (statFile (.retVal 0)).exit 0x1000 StatLayout.stat32.size
    = some (field (store StatLayout.stat32.places smallFile fun _ => 0) 0
        StatLayout.stat32.size) := by
  decide +kernel

theorem statFile_reports (result : ExitInfo) :
    (statFile result).Reports .stat32 smallFile where
  layout := rfl
  written _ := ⟨(by decide : (0x1000 : Word) ≠ 0), fun _ => 0, bytesAt_statFile⟩

/-- a call that fails with `ENOENT` shows the status that is in the buffer from the call before -/
theorem shows_status_iff_statFile :
    (statFile (.retVal 0)).Shows .stat32 smallFile ∧
      ¬ (statFile (.errVal 2)).Shows .stat32 smallFile := by
  refine ⟨(shows_status_iff (statFile_reports _)).1.mpr (Or.inl rfl), fun h => ?_⟩
  have hfits := (shows_status_iff (statFile_reports _)).1.mp h
  rcases hfits with hok | h0 | hnone
  · cases hok
  · exact absurd h0 (by decide : (0x1000 : Word) ≠ 0)
  · cases bytesAt_statFile.symm.trans hnone

end StatCall

end Clues
