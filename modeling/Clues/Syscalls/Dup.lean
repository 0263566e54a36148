import Clues.SysNrs
import Clues.Tracee.FDs

/-!
# Duplicating descriptors

* `DupSystemCall`, `FcntlSystemCall`   of `fs.hxx`, and their `updateFDTracking()`;
* `trackDup`      a successful system call, from the registers to the map of descriptors;
* `Duplicates`    what the kernel does to its table;
* `agrees_trackDup_iff`   when the map still agrees with the table.
-/

namespace Clues

open Lib

/-! ## the system calls -/

/-- `dup()`, `dup2()` and `dup3()`; the parameters that only the latter two have are not tracked -/
structure DupSystemCall where
  oldfd : FileNum := FileNum.invalid
  newfd : Option FileNum := none
  flags : Option Word := none
  retfd : FileNum := FileNum.invalid

def DupSystemCall.updateFDTracking (call : DupSystemCall) (map : FDInfoMap) : FDInfoMap :=
  match map.find? call.oldfd with
  | none => map
  | some info => trackFD { info with fd := call.retfd } map

/-- `item::FcntlOperation::Oper`, as far as descriptors are concerned -/
inductive FcntlOper where
  | dupfd | dupfdCloexec | setfd | other
  deriving DecidableEq, Repr

def FcntlOper.ofWord (w : Word) : FcntlOper :=
  let op := FileNum.ofWord w
  if op = 0 then .dupfd else if op = 2 then .setfd else if op = 1030 then .dupfdCloexec else .other

structure FcntlSystemCall where
  fd : FileNum := FileNum.invalid
  operation : FcntlOper := .other
  /-- `fd_flags_arg`: whether `FD_CLOEXEC` is to be set -/
  fdFlagsArg : Option Bool := none
  retDupfd : Option FileNum := none

def FcntlSystemCall.updateFDTracking (call : FcntlSystemCall) (map : FDInfoMap) : FDInfoMap :=
  match call.operation with
  | .dupfd =>
      match map.find? call.fd, call.retDupfd with
      | some info, some ret => trackFD { info.resetCloexec with fd := ret } map
      | _, _ => map
  | .dupfdCloexec =>
      match map.find? call.fd, call.retDupfd with
      | some info, some ret => trackFD { info.setCloexec with fd := ret } map
      | _, _ => map
  | .setfd =>
      match map.find? call.fd, call.fdFlagsArg with
      | some info, some true => updateFD info.setCloexec map
      | some info, some false =>
          updateFD { info with
            flags := some (OpenFlags.reset (info.flags.getD 0) OpenFlags.cloexec) } map
      | _, _ => map
  | .other => map

/-- the parameters of `dup()`, `dup2()`, `dup3()` and the result -/
def DupSystemCall.filled (nr : SystemCallNr) (args : Fin 6 → Word) (ret : Word) : DupSystemCall :=
  { oldfd := FileNum.ofWord (args 0)
    newfd := if nr = .dup then none else some (FileNum.ofWord (args 1))
    flags := if nr = .dup3 then some (args 2) else none
    retfd := FileNum.ofWord ret }

/-- the parameters of `fcntl()` and the result, which `check2ndPass()` selects -/
def FcntlSystemCall.filled (args : Fin 6 → Word) (ret : Word) : FcntlSystemCall :=
  let operation := FcntlOper.ofWord (args 1)
  { fd := FileNum.ofWord (args 0)
    operation := operation
    fdFlagsArg := if operation = .setfd then some ((args 2).toNat.testBit 0) else none
    retDupfd :=
      if operation = .dupfd ∨ operation = .dupfdCloexec then some (FileNum.ofWord ret) else none }

/-- the map behind a successful system call -/
def trackDup (nr : SystemCallNr) (args : Fin 6 → Word) (ret : Word) (map : FDInfoMap) : FDInfoMap :=
  match nr with
  | .dup | .dup2 | .dup3 => (DupSystemCall.filled nr args ret).updateFDTracking map
  | .fcntl | .fcntl64 => (FcntlSystemCall.filled args ret).updateFDTracking map
  | _ => map

/-! ## what the kernel does -/

/-- the table behind a successful system call: the result refers to what `oldfd` refers to, and
`dup3()` and `F_DUPFD_CLOEXEC` may set its flag; `dup2()` with equal numbers changes nothing -/
inductive Duplicates (nr : SystemCallNr) (args : Fin 6 → Word) (ret : Word) (table : Table)
    (d : Descriptor) : Table → Prop
  | dup : nr = .dup → table (FileNum.ofWord ret) = none →
      Duplicates nr args ret table d
        (Function.update table (FileNum.ofWord ret) (some { d with cloexec := false }))
  | dup2 : nr = .dup2 → FileNum.ofWord ret = FileNum.ofWord (args 1) →
      FileNum.ofWord (args 1) ≠ FileNum.ofWord (args 0) →
      Duplicates nr args ret table d
        (Function.update table (FileNum.ofWord ret) (some { d with cloexec := false }))
  | same : nr = .dup2 → FileNum.ofWord ret = FileNum.ofWord (args 1) →
      FileNum.ofWord (args 1) = FileNum.ofWord (args 0) →
      Duplicates nr args ret table d (Function.update table (FileNum.ofWord ret) (some d))
  | dup3 : nr = .dup3 → FileNum.ofWord ret = FileNum.ofWord (args 1) →
      FileNum.ofWord (args 1) ≠ FileNum.ofWord (args 0) →
      Duplicates nr args ret table d (Function.update table (FileNum.ofWord ret)
        (some { d with cloexec := (args 2).toNat.testBit OpenFlags.cloexec }))
  | dupfd : nr = .fcntl ∨ nr = .fcntl64 → FcntlOper.ofWord (args 1) = .dupfd →
      table (FileNum.ofWord ret) = none →
      Duplicates nr args ret table d
        (Function.update table (FileNum.ofWord ret) (some { d with cloexec := false }))
  | dupfdCloexec : nr = .fcntl ∨ nr = .fcntl64 → FcntlOper.ofWord (args 1) = .dupfdCloexec →
      table (FileNum.ofWord ret) = none →
      Duplicates nr args ret table d
        (Function.update table (FileNum.ofWord ret) (some { d with cloexec := true }))

/-- `oldfd` is open, and the result is a descriptor -/
structure Duplication (nr : SystemCallNr) (args : Fin 6 → Word) (ret : Word) (table table' : Table)
    (d : Descriptor) : Prop where
  source : table (FileNum.ofWord (args 0)) = some d
  valid : FileNum.ofWord ret ≠ FileNum.invalid
  duplicates : Duplicates nr args ret table d table'

/-- it is `fcntl()`, or the result's number is free and the kernel does not change the flag, or the
result already was what it becomes -/
def DupFits (nr : SystemCallNr) (ret : Word) (table table' : Table) (d : Descriptor) : Prop :=
  nr = .fcntl ∨ nr = .fcntl64 ∨
    table (FileNum.ofWord ret) = none ∧ table' (FileNum.ofWord ret) = some d ∨
    table' (FileNum.ofWord ret) = table (FileNum.ofWord ret)

section
variable {nr : SystemCallNr} {args : Fin 6 → Word} {ret : Word} {map : FDInfoMap}
  {table table' : Table} {d d' : Descriptor}

/-- an entry for the result is added, unless there is one -/
theorem agrees_trackFD_iff {info : FDInfo} (h : Agrees map table) {fd : FileNum}
    (hfd : info.fd = fd) (hvalid : fd ≠ FileNum.invalid) :
    Agrees (trackFD info map) (Function.update table fd (some d')) ↔
      table fd = none ∧ info.descriptor = d' ∨ table fd = some d' := by
  unfold trackFD
  rw [hfd, if_neg hvalid]
  cases ht : table fd with
  | none =>
    rw [h.insert (h.find_none ht) hfd]
    simp
  | some d'' =>
    obtain ⟨info', hi, -, -⟩ := h.find ht
    have hsame : map.insert fd info = map := by
      apply OrdMap.ext_find
      intro q
      rw [OrdMap.find?_insert]
      split_ifs with hq
      · rw [hq, hi]
        rfl
      · rfl
    rw [hsame, h.unchanged, ht]
    simp

/-- `dup()`, `dup2()` and `dup3()` copy the entry with all its flags -/
theorem agrees_dup_iff (h : Agrees map table) (hs : table (FileNum.ofWord (args 0)) = some d)
    (hvalid : FileNum.ofWord ret ≠ FileNum.invalid) :
    Agrees ((DupSystemCall.filled nr args ret).updateFDTracking map)
        (Function.update table (FileNum.ofWord ret) (some d')) ↔
      table (FileNum.ofWord ret) = none ∧ d = d' ∨ table (FileNum.ofWord ret) = some d' := by
  obtain ⟨info, hi, -, hd⟩ := h.find hs
  have htrack : (DupSystemCall.filled nr args ret).updateFDTracking map =
      trackFD { info with fd := FileNum.ofWord ret } map := by
    unfold DupSystemCall.updateFDTracking DupSystemCall.filled
    rw [hi]
  have hkey : ({ info with fd := FileNum.ofWord ret } : FDInfo).fd = FileNum.ofWord ret := rfl
  rw [htrack, agrees_trackFD_iff h hkey hvalid, descriptor_withFd, hd]

theorem filled_dupfd (h : FcntlOper.ofWord (args 1) = .dupfd) :
    FcntlSystemCall.filled args ret =
      { fd := FileNum.ofWord (args 0)
        operation := .dupfd
        retDupfd := some (FileNum.ofWord ret) } := by
  unfold FcntlSystemCall.filled
  simp [h]

theorem filled_dupfdCloexec (h : FcntlOper.ofWord (args 1) = .dupfdCloexec) :
    FcntlSystemCall.filled args ret =
      { fd := FileNum.ofWord (args 0)
        operation := .dupfdCloexec
        retDupfd := some (FileNum.ofWord ret) } := by
  unfold FcntlSystemCall.filled
  simp [h]

/-- `fcntl()` sets or resets the flag -/
theorem agrees_fcntl (h : Agrees map table) {fd ret : FileNum} (hs : table fd = some d)
    (hvalid : ret ≠ FileNum.invalid) (hfree : table ret = none) :
    Agrees (({ fd := fd, operation := .dupfd, retDupfd := some ret } :
        FcntlSystemCall).updateFDTracking map)
      (Function.update table ret (some { d with cloexec := false })) ∧
    Agrees (({ fd := fd, operation := .dupfdCloexec, retDupfd := some ret } :
        FcntlSystemCall).updateFDTracking map)
      (Function.update table ret (some { d with cloexec := true })) := by
  obtain ⟨info, hi, -, hd⟩ := h.find hs
  have hreset := descriptor_resetCloexec info
  have hset := descriptor_setCloexec info
  rw [hd, ← descriptor_withFd _ ret] at hreset hset
  unfold FcntlSystemCall.updateFDTracking
  dsimp only
  rw [hi]
  constructor
  · exact (agrees_trackFD_iff h rfl hvalid).mpr (Or.inl ⟨hfree, hreset⟩)
  · exact (agrees_trackFD_iff h rfl hvalid).mpr (Or.inl ⟨hfree, hset⟩)

/-- whether the map still agrees with the kernel's table -/
theorem agrees_trackDup_iff (h : Agrees map table) (hd : Duplication nr args ret table table' d) :
    Agrees (trackDup nr args ret map) table' ↔ DupFits nr ret table table' d := by
  obtain ⟨hs, hvalid, hdup⟩ := hd
  -- for the three `dup()` calls only the kernel's flag differs
  have hthree : ∀ d' : Descriptor, nr ≠ .fcntl ∧ nr ≠ .fcntl64 →
      (table (FileNum.ofWord ret) = none ∧ d = d' ∨ table (FileNum.ofWord ret) = some d' ↔
        DupFits nr ret table (Function.update table (FileNum.ofWord ret) (some d')) d) := by
    intro d' hnr
    unfold DupFits
    rw [Function.update_self, or_iff_right hnr.1, or_iff_right hnr.2, Option.some.injEq]
    constructor
    · rintro (⟨hfree, rfl⟩ | hsame)
      · exact Or.inl ⟨hfree, rfl⟩
      · exact Or.inr hsame.symm
    · rintro (⟨hfree, rfl⟩ | hsame)
      · exact Or.inl ⟨hfree, rfl⟩
      · exact Or.inr hsame.symm
  cases hdup with
  | dup hnr =>
    subst hnr
    rw [← hthree _ (by decide)]
    exact agrees_dup_iff h hs hvalid
  | dup2 hnr =>
    subst hnr
    rw [← hthree _ (by decide)]
    exact agrees_dup_iff h hs hvalid
  | same hnr =>
    subst hnr
    rw [← hthree _ (by decide)]
    exact agrees_dup_iff h hs hvalid
  | dup3 hnr =>
    subst hnr
    rw [← hthree _ (by decide)]
    exact agrees_dup_iff h hs hvalid
  | dupfd hnr hop hfree =>
    have hfcntl := (agrees_fcntl h hs hvalid hfree).1
    rw [← filled_dupfd hop] at hfcntl
    rcases hnr with rfl | rfl
    · exact iff_of_true hfcntl (Or.inl rfl)
    · exact iff_of_true hfcntl (Or.inr (Or.inl rfl))
  | dupfdCloexec hnr hop hfree =>
    have hfcntl := (agrees_fcntl h hs hvalid hfree).2
    rw [← filled_dupfdCloexec hop] at hfcntl
    rcases hnr with rfl | rfl
    · exact iff_of_true hfcntl (Or.inl rfl)
    · exact iff_of_true hfcntl (Or.inr (Or.inl rfl))

end

/-! ### a descriptor that closes on exec -/

/-- the descriptor 3 is an open file with `FD_CLOEXEC` -/
def cloexecInfo : FDInfo := { type := .fsPath, fd := 3, path := "/etc/passwd", flags := some (2 ^ 19) }

def cloexecMap : FDInfoMap := OrdMap.empty.insert 3 cloexecInfo

def cloexecTable : Table := fun fd => (cloexecMap.find? fd).map FDInfo.descriptor

theorem agrees_cloexec : Agrees cloexecMap cloexecTable := by
  refine ⟨fun _ => rfl, fun fd info hi => ?_⟩
  unfold cloexecMap at hi
  rw [OrdMap.find?_insert] at hi
  split_ifs at hi with heq
  · rw [heq, ← Option.some.inj hi]
    rfl
  · cases hi

/-- the first register is 3 -/
def threeArgs : Fin 6 → Word := fun i => if i = 0 then 3 else 0

theorem ofWord_three : FileNum.ofWord 3 = 3 := by
  unfold FileNum.ofWord
  decide

theorem ofWord_four : FileNum.ofWord 4 = 4 := by
  unfold FileNum.ofWord
  decide

/-- the table behind `dup(3)` or `fcntl(3, F_DUPFD, 0)` -/
def duplicateTable : Table := Function.update cloexecTable (FileNum.ofWord 4)
  (some { cloexecInfo.descriptor with cloexec := false })

theorem duplication_three {nr : SystemCallNr}
    (h : Duplicates nr threeArgs 4 cloexecTable cloexecInfo.descriptor duplicateTable) :
    Duplication nr threeArgs 4 cloexecTable duplicateTable cloexecInfo.descriptor where
  source := by
    show cloexecTable (FileNum.ofWord 3) = _
    rw [ofWord_three]
    rfl
  valid := by
    rw [ofWord_four]
    decide
  duplicates := h

theorem free_four : cloexecTable (FileNum.ofWord 4) = none := by
  rw [ofWord_four]
  rfl

/-- it is duplicated by `fcntl()` -/
theorem agrees_trackDup_fcntl : Agrees (trackDup .fcntl threeArgs 4 cloexecMap) duplicateTable := by
  have hop : FcntlOper.ofWord (threeArgs 1) = .dupfd := by
    unfold FcntlOper.ofWord FileNum.ofWord
    decide
  exact (agrees_trackDup_iff agrees_cloexec
    (duplication_three (.dupfd (Or.inl rfl) hop free_four))).mpr (Or.inl rfl)

/-- the duplicate that `dup()` makes does not close on exec -/
theorem agrees_trackDup_fails : ¬ ∀ (nr : SystemCallNr) (args : Fin 6 → Word) (ret : Word)
    (map : FDInfoMap) (table table' : Table) (d : Descriptor), Agrees map table →
    Duplication nr args ret table table' d → Agrees (trackDup nr args ret map) table' := by
  intro h
  have ha := h .dup threeArgs 4 cloexecMap cloexecTable duplicateTable cloexecInfo.descriptor
    agrees_cloexec (duplication_three (.dup rfl free_four))
  have hsame := ha.same 4
  have htrack : (trackDup .dup threeArgs 4 cloexecMap).find? 4 =
      some { cloexecInfo with fd := 4 } := by decide +kernel
  unfold duplicateTable at hsame
  rw [htrack, ofWord_four, Function.update_self] at hsame
  exact absurd hsame (by decide +kernel)

end Clues
