import Clues.Items.FilterProg
import Clues.SysNrs

/-!
# File locks

`fcntl()` passes a lock in one of three structs; some operations return another lock in it.

* `LockOper`         the lock operations of `item::FcntlOperation::Oper`;
* `FlockLayout`      the structs of the kernel;
* `FLockParameter`   the item, which selects the struct by operation, system call and ABI;
* `LockCall`         a call, with its memory at both stops;
* `showsLock_iff_fits`   when the item has the lock that was passed or returned.
-/

namespace Clues

open Lib.LittleEndian

/-- `cosmos::FileLock` -/
structure FileLock where
  type : Int
  whence : Int
  start : Int
  len : Int
  pid : Int
  deriving DecidableEq, Repr

inductive LockOper where
  | getlk | setlk | setlkw | getlk64 | setlk64 | setlkw64 | ofdGetlk | ofdSetlk | ofdSetlkw
  deriving DecidableEq, Repr

namespace LockOper

/-- the literal values of the operations -/
def toInt : LockOper → Int
  | .getlk => 5
  | .setlk => 6
  | .setlkw => 7
  | .getlk64 => 12
  | .setlk64 => 13
  | .setlkw64 => 14
  | .ofdGetlk => 36
  | .ofdSetlk => 37
  | .ofdSetlkw => 38

def all : List LockOper :=
  [.getlk, .setlk, .setlkw, .getlk64, .setlk64, .setlkw64, .ofdGetlk, .ofdSetlk, .ofdSetlkw]

def ofInt (n : Int) : Option LockOper := all.find? fun op => op.toInt = n

def isLock64 : LockOper → Bool
  | .getlk64 | .setlk64 | .setlkw64 => true
  | _ => false

def isOFDLock : LockOper → Bool
  | .ofdSetlk | .ofdSetlkw | .ofdGetlk => true
  | _ => false

/-- the kernel returns a lock -/
def isGet : LockOper → Bool
  | .getlk | .getlk64 | .ofdGetlk => true
  | _ => false

end LockOper

/-- `kernel::flock64`, and the packed `kernel::flock32` and `kernel::flock64_i386` -/
inductive FlockLayout where
  | flock64 | flock32 | flock64I386
  deriving DecidableEq, Repr

namespace FlockLayout

def size : FlockLayout → Nat
  | .flock64 => 32
  | .flock32 => 16
  | .flock64I386 => 24

/-- the width of `OFF_T` -/
def offSize : FlockLayout → Nat
  | .flock64 | .flock64I386 => 8
  | .flock32 => 4

/-- where `l_start` begins -/
def startOffset : FlockLayout → Nat
  | .flock64 => 8
  | .flock32 | .flock64I386 => 4

def lock (layout : FlockLayout) (bs : Bytes) : FileLock :=
  { type := signedAt bs 0 2
    whence := signedAt bs 2 2
    start := signedAt bs layout.startOffset layout.offSize
    len := signedAt bs (layout.startOffset + layout.offSize) layout.offSize
    pid := signedAt bs (layout.startOffset + 2 * layout.offSize) 4 }

end FlockLayout

/-! ## the item -/

/-- `FLockParameter`; its item type is `PARAM_IN_OUT` -/
structure FLockParameter where
  ptr : Word := 0
  lock : Option FileLock := none

namespace FLockParameter

/-- `fetch_lock`; `reset_lock` is disarmed if the struct can be read -/
def fetchLock (layout : FlockLayout) (m : Memory) (p : FLockParameter) :
    Except Exc FLockParameter :=
  (m.readStructIntoOptional p.ptr layout.size layout.size).map fun bs =>
    { p with lock := bs.map layout.lock }

def processData (abi : ABI) (nr : SystemCallNr) (op : LockOper) (m : Memory) (p : FLockParameter) :
    Except Exc FLockParameter :=
  if abi ≠ .i386 then p.fetchLock .flock64 m
  else if !op.isOFDLock ∧ nr ≠ .fcntl64 then
    if op.isLock64 then .ok { p with lock := none } else p.fetchLock .flock32 m
  else if op.isLock64 || op.isOFDLock then p.fetchLock .flock64I386 m
  else p.fetchLock .flock32 m

def updateData (abi : ABI) (nr : SystemCallNr) (op : LockOper) (m : Memory) (p : FLockParameter) :
    Except Exc FLockParameter :=
  if op ≠ .getlk then .ok p else p.processData abi nr op m

end FLockParameter

/-! ## a call -/

/-- `fcntl()` or `fcntl64()`, with the memory at its entry and at its exit; an operation that returns
a lock is one that succeeds -/
structure LockCall where
  abi : ABI
  nr : SystemCallNr
  /-- the second and the third argument -/
  op : Word
  ptr : Word
  entry : Memory
  exit : Memory

namespace LockCall

/-- the item `operation`: `check2ndPass()` adds `flock_arg` for these operations -/
def operation (call : LockCall) : Option LockOper :=
  LockOper.ofInt (Int.bmod call.op.toNat (2 ^ 32))

/-- `flock_arg` after the second pass over the parameters -/
def entered (call : LockCall) (op : LockOper) : Except Exc FLockParameter :=
  ({ ptr := call.ptr } : FLockParameter).processData call.abi call.nr op call.entry

/-- `flock_arg` after the items have been updated -/
def exited (call : LockCall) (op : LockOper) : Except Exc FLockParameter := do
  let p ← call.entered op
  p.updateData call.abi call.nr op call.exit

/-- the struct that the kernel uses: on i386 the first operations take a 32-bit `off_t`, and
`fcntl()` does not support those of `fcntl64()` -/
def layout (call : LockCall) (op : LockOper) : Option FlockLayout :=
  match call.abi, op with
  | .i386, .getlk | .i386, .setlk | .i386, .setlkw => some .flock32
  | .i386, .getlk64 | .i386, .setlk64 | .i386, .setlkw64 =>
    if call.nr = .fcntl64 then some .flock64I386 else none
  | .i386, .ofdGetlk | .i386, .ofdSetlk | .i386, .ofdSetlkw => some .flock64I386
  | _, _ => some .flock64

/-- the lock in the memory of the tracee -/
def lockIn (call : LockCall) (op : LockOper) (m : Memory) : Option FileLock :=
  (call.layout op).bind fun layout =>
    if call.ptr = 0 then none else (bytesAt m call.ptr layout.size).map layout.lock

/-- an operation that returns a lock shows that of the exit, and one that passes it that of the
entry -/
def Shows (call : LockCall) : Prop :=
  ∀ op, call.operation = some op → ∃ p, call.exited op = .ok p ∧
    p.lock = call.lockIn op (if op.isGet then call.exit else call.entry)

/-- `GETLK64` and `OFD_GETLK` return what they were passed -/
def Fits (call : LockCall) : Prop :=
  ∀ op, call.operation = some op → op = .getlk64 ∨ op = .ofdGetlk →
    call.lockIn op call.exit = call.lockIn op call.entry

variable {call : LockCall} {op : LockOper}

theorem fetchLock_eq (layout : FlockLayout) (m : Memory) (p : FLockParameter) :
    p.fetchLock layout m = .ok { p with
      lock := if p.ptr = 0 then none else (bytesAt m p.ptr layout.size).map layout.lock } := by
  have hwords : fetched layout.size = layout.size := by cases layout <;> rfl
  unfold FLockParameter.fetchLock
  rw [Memory.readStructIntoOptional_eq, scalarAt_of_words hwords]
  by_cases h0 : p.ptr = 0
  · rw [if_pos h0, if_pos h0]
    rfl
  · rw [if_neg h0, if_neg h0]
    rfl

/-- the struct that is selected is that of the kernel -/
theorem processData_eq (call : LockCall) (op : LockOper) (m : Memory) {p : FLockParameter}
    (hp : p.ptr = call.ptr) :
    p.processData call.abi call.nr op m = .ok { p with lock := call.lockIn op m } := by
  have hfetch : ∀ l, call.layout op = some l →
      p.fetchLock l m = .ok { p with lock := call.lockIn op m } := by
    intro l hl
    rw [fetchLock_eq, hp, lockIn, hl]
    rfl
  have hnone : call.layout op = none →
      (.ok { p with lock := none } : Except Exc _) = .ok { p with lock := call.lockIn op m } := by
    intro hl
    rw [lockIn, hl]
    rfl
  unfold FLockParameter.processData
  by_cases habi : call.abi = .i386
  · rw [if_neg (not_not.mpr habi)]
    by_cases hnr : call.nr = .fcntl64
    · rw [if_neg fun h => h.2 hnr]
      cases op <;> refine hfetch _ ?_ <;> unfold layout <;> rw [habi] <;> simp [hnr]
    · cases op with
      | getlk64 | setlk64 | setlkw64 =>
        rw [if_pos ⟨rfl, hnr⟩]
        exact hnone (by unfold layout; rw [habi]; exact if_neg hnr)
      | getlk | setlk | setlkw =>
        rw [if_pos ⟨rfl, hnr⟩]
        exact hfetch _ (by unfold layout; rw [habi])
      | ofdGetlk | ofdSetlk | ofdSetlkw =>
        exact hfetch _ (by unfold layout; rw [habi])
  · rw [if_pos habi]
    refine hfetch _ ?_
    unfold layout
    cases habi' : call.abi with
    | i386 => exact absurd habi' habi
    | _ => rfl

theorem exited_eq (call : LockCall) (op : LockOper) :
    call.exited op = .ok {
      ptr := call.ptr
      lock := call.lockIn op (if op = .getlk then call.exit else call.entry) } := by
  unfold exited entered
  rw [processData_eq call op call.entry rfl, ok_bind]
  unfold FLockParameter.updateData
  by_cases h : op = .getlk
  · rw [if_neg (not_not.mpr h), if_pos h, processData_eq call op call.exit rfl]
  · rw [if_pos h, if_neg h]

/-- for every operation, system call and ABI, and any memory at both stops -/
theorem showsLock_iff_fits (call : LockCall) : call.Shows ↔ call.Fits := by
  unfold Shows Fits
  refine forall_congr' fun op => forall_congr' fun _ => ?_
  rw [exited_eq]
  constructor
  · rintro ⟨p, hp, hlock⟩ hget
    cases hp
    rcases hget with rfl | rfl
    · exact hlock.symm
    · exact hlock.symm
  · intro h
    refine ⟨_, rfl, ?_⟩
    cases op with
    | getlk64 => exact (h (Or.inl rfl)).symm
    | ofdGetlk => exact (h (Or.inr rfl)).symm
    | _ => rfl

/-- `OFD_GETLK` for a write lock (`F_WRLCK`), which could be placed (`F_UNLCK`) -/
def ofdQuery : LockCall where
  abi := .x86_64
  nr := .fcntl
  op := 36
  ptr := 4096
  entry := fun a => some (if a = 4096 then 1 else 0)
  exit := fun a => some (if a = 4096 then 2 else 0)

theorem showsLock_fails : ¬ ∀ call : LockCall, call.Shows := by
  intro h
  obtain ⟨p, hp, hlock⟩ := h ofdQuery .ofdGetlk (by decide +kernel)
  rw [exited_eq] at hp
  cases hp
  revert hlock
  decide +kernel

end LockCall

end Clues
