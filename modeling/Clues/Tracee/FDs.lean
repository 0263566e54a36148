import Clues.Types
import Mathlib.Data.Nat.Bitwise
import Mathlib.Logic.Function.Basic

/-!
# File descriptors of a tracee

* `trackFD`, `updateFD`, `dropFD`   the changes of a map of descriptors;
* `Table`     the descriptors as the kernel keeps them: an open file description and the
              descriptor's own flag `FD_CLOEXEC`;
* `Agrees`    a map of descriptors says what the kernel's table says.
-/

namespace Clues

open Lib

/-- `valueAs<cosmos::FileNum>()`: the lower 32 bits as a signed number -/
@[irreducible] def FileNum.ofWord (w : Word) : FileNum := Int.bmod w.toNat (2 ^ 32)

/-! ## flags -/

namespace OpenFlags

/-- the bits of `O_CLOEXEC` and `O_NONBLOCK` -/
def cloexec : Nat := 19
def nonblock : Nat := 11

def set (flags : OpenFlags) (bit : Nat) : OpenFlags := flags ||| 2 ^ bit

def reset (flags : OpenFlags) (bit : Nat) : OpenFlags := flags ^^^ (flags &&& 2 ^ bit)

theorem testBit_set (flags : OpenFlags) (bit i : Nat) :
    (flags.set bit).testBit i = (flags.testBit i || decide (bit = i)) := by
  unfold set
  rw [Nat.testBit_or, Nat.testBit_two_pow]

theorem testBit_reset (flags : OpenFlags) (bit i : Nat) :
    (flags.reset bit).testBit i = (flags.testBit i && !decide (bit = i)) := by
  unfold reset
  rw [Nat.testBit_xor, Nat.testBit_and, Nat.testBit_two_pow]
  cases flags.testBit i <;> cases decide (bit = i) <;> rfl

theorem reset_set (flags : OpenFlags) (bit : Nat) : (flags.set bit).reset bit = flags.reset bit := by
  apply Nat.eq_of_testBit_eq
  intro i
  rw [testBit_reset, testBit_reset, testBit_set]
  cases flags.testBit i <;> cases decide (bit = i) <;> rfl

theorem reset_reset (flags : OpenFlags) (bit : Nat) :
    (flags.reset bit).reset bit = flags.reset bit := by
  apply Nat.eq_of_testBit_eq
  intro i
  rw [testBit_reset, testBit_reset]
  cases flags.testBit i <;> cases decide (bit = i) <;> rfl

end OpenFlags

/-- `ensureFlags()`, and the flag is set -/
def FDInfo.setCloexec (info : FDInfo) : FDInfo :=
  { info with flags := some (OpenFlags.set (info.flags.getD 0) OpenFlags.cloexec) }

/-- the flag is reset if there are flags -/
def FDInfo.resetCloexec (info : FDInfo) : FDInfo :=
  { info with flags := info.flags.map fun flags => OpenFlags.reset flags OpenFlags.cloexec }

/-- whether a flag is set -/
def FDInfo.hasFlag (info : FDInfo) (bit : Nat) : Bool := info.flags.any fun flags => flags.testBit bit

/-! ## maps of descriptors -/

def trackFD (info : FDInfo) (map : FDInfoMap) : FDInfoMap :=
  if info.fd = FileNum.invalid then map
  -- `std::map::insert()` keeps an entry that is there already
  else map.insert info.fd info

theorem find?_trackFD {info : FDInfo} (hvalid : info.fd ≠ FileNum.invalid) (map : FDInfoMap)
    (fd : FileNum) : (trackFD info map).find? fd =
      (map.find? fd).or (if fd = info.fd then some info else none) := by
  unfold trackFD
  rw [if_neg hvalid, OrdMap.find?_insert]
  by_cases h : fd = info.fd
  · rw [if_pos h, if_pos h, h]
    cases map.find? info.fd <;> rfl
  · rw [if_neg h, if_neg h, Option.or_none]

def updateFD (info : FDInfo) (map : FDInfoMap) : FDInfoMap :=
  match map.find? info.fd with
  | some _ => map.set info.fd info
  | none => map

def dropFD (fd : FileNum) (map : FDInfoMap) : FDInfoMap := map.erase fd

/-! ## the kernel's table -/

/-- what a descriptor refers to, and its own flag `FD_CLOEXEC` -/
structure Descriptor where
  type : FDType
  path : String
  mode : Option OpenMode
  /-- the status flags -/
  status : OpenFlags
  inode : Option Nat
  sockDomain : Option Int
  sockType : Option Int
  cloexec : Bool
  deriving DecidableEq, Repr

abbrev Table := FileNum → Option Descriptor

def FDInfo.descriptor (info : FDInfo) : Descriptor :=
  { type := info.type
    path := info.path
    mode := info.mode
    status := OpenFlags.reset (info.flags.getD 0) OpenFlags.cloexec
    inode := info.inode
    sockDomain := info.sockDomain
    sockType := info.sockType
    cloexec := info.hasFlag OpenFlags.cloexec }

structure Agrees (map : FDInfoMap) (table : Table) : Prop where
  same : ∀ fd, (map.find? fd).map FDInfo.descriptor = table fd
  keyed : ∀ fd info, map.find? fd = some info → info.fd = fd

section
variable {map : FDInfoMap} {table : Table} {info : FDInfo} {fd : FileNum}

theorem Agrees.find (h : Agrees map table) {d : Descriptor} (hd : table fd = some d) :
    ∃ info, map.find? fd = some info ∧ info.fd = fd ∧ info.descriptor = d := by
  have hs := h.same fd
  rw [hd] at hs
  obtain ⟨info, hi, hinfo⟩ := Option.map_eq_some_iff.mp hs
  exact ⟨info, hi, h.keyed fd info hi, hinfo⟩

theorem Agrees.find_none (h : Agrees map table) (hd : table fd = none) : map.find? fd = none := by
  have hs := h.same fd
  rw [hd] at hs
  exact Option.map_eq_none_iff.mp hs

/-- a new entry that says what the kernel has put into its table -/
theorem Agrees.insert (h : Agrees map table) (hfd : map.find? fd = none) (hi : info.fd = fd)
    (d : Descriptor) :
    Agrees (map.insert fd info) (Function.update table fd (some d)) ↔ info.descriptor = d := by
  constructor
  · intro ha
    have hs := ha.same fd
    rw [OrdMap.find?_insert, if_pos rfl, hfd, Function.update_self] at hs
    exact Option.some.inj hs
  · intro hd
    constructor
    · intro q
      rw [OrdMap.find?_insert]
      split_ifs with hq
      · rw [hq, hfd, Function.update_self, ← hd]
        rfl
      · rw [Function.update_of_ne hq]
        exact h.same q
    · intro q info' hq
      rw [OrdMap.find?_insert] at hq
      split_ifs at hq with heq
      · rw [hfd] at hq
        rw [heq, ← hi, ← Option.some.inj hq]
        rfl
      · exact h.keyed q info' hq

/-- a map that did not change -/
theorem Agrees.unchanged (h : Agrees map table) (d : Descriptor) :
    Agrees map (Function.update table fd (some d)) ↔ table fd = some d := by
  constructor
  · intro ha
    rw [← h.same fd, ha.same fd, Function.update_self]
  · intro hd
    rw [← hd, Function.update_eq_self]
    exact h

/-! ### changes of an entry -/

theorem descriptor_withFd (info : FDInfo) (fd : FileNum) :
    ({ info with fd := fd } : FDInfo).descriptor = info.descriptor := rfl

theorem descriptor_setCloexec (info : FDInfo) :
    info.setCloexec.descriptor = { info.descriptor with cloexec := true } := by
  unfold FDInfo.setCloexec FDInfo.descriptor FDInfo.hasFlag
  rw [Option.getD_some, OpenFlags.reset_set, Option.any_some, OpenFlags.testBit_set]
  simp

theorem descriptor_resetCloexec (info : FDInfo) :
    info.resetCloexec.descriptor = { info.descriptor with cloexec := false } := by
  unfold FDInfo.resetCloexec FDInfo.descriptor FDInfo.hasFlag
  cases info.flags with
  | none => rfl
  | some flags =>
    rw [Option.map_some, Option.getD_some, Option.getD_some, OpenFlags.reset_reset, Option.any_some,
      OpenFlags.testBit_reset]
    simp

end

end Clues
