import Clues.Items.FilterProg
import Clues.SysNrs

/-!
# Names of the system

`uname()` has two predecessors, whose structs are shorter; all are converted to one struct.

* `UnameStruct`     the item, which is filled when the system call returns;
* `UnameReturn`     a successful call, with the struct that the kernel wrote;
* `hasStrings_iff_fits`   when the item has the strings of the struct.
-/

namespace Clues

open Lib.LittleEndian

inductive UnameField where
  | sysname | nodename | release | version | machine | domainname
  deriving DecidableEq, Repr

/-- the structs of the kernel -/
inductive UnameLayout where
  | new | old | oldold
  deriving DecidableEq, Repr

def UnameField.index : UnameField → Nat
  | .sysname => 0
  | .nodename => 1
  | .release => 2
  | .version => 3
  | .machine => 4
  | .domainname => 5

namespace UnameLayout

/-- `NEW_UTS_LEN + 1` and `OLD_UTS_LEN + 1` -/
def fieldSize : UnameLayout → Nat
  | .new | .old => 65
  | .oldold => 9

def fields : UnameLayout → List UnameField
  | .new => [.sysname, .nodename, .release, .version, .machine, .domainname]
  | .old | .oldold => [.sysname, .nodename, .release, .version, .machine]

def size (layout : UnameLayout) : Nat := layout.fields.length * layout.fieldSize

def offset (layout : UnameLayout) (f : UnameField) : Nat := f.index * layout.fieldSize

end UnameLayout

/-- the struct of the tracer: the strings without their terminators -/
structure Uname where
  sysname : Bytes := []
  nodename : Bytes := []
  release : Bytes := []
  version : Bytes := []
  machine : Bytes := []
  domainname : Bytes := []
  deriving DecidableEq, Repr

def Uname.get (u : Uname) : UnameField → Bytes
  | .sysname => u.sysname
  | .nodename => u.nodename
  | .release => u.release
  | .version => u.version
  | .machine => u.machine
  | .domainname => u.domainname

/-- the size of a field of the tracer's struct -/
def Uname.fieldSize : Nat := 65

/-- `UnameStruct` -/
structure UnameStruct where
  ptr : UInt64 := 0
  uname : Option Uname := none

namespace UnameStruct

/-- `std::strcpy()` from an offset of a struct: there has to be a terminator behind it, and the
string has to fit in a field of the tracer's struct -/
def strcpy (kernel : Bytes) (offset : Nat) : Except Exc Bytes :=
  let str := (kernel.drop offset).takeWhile (· ≠ 0)
  if str.length < (kernel.drop offset).length ∧ str.length < Uname.fieldSize then .ok str
  else .error (.undefined .bounds)

def copyFields (layout : UnameLayout) (kernel : Bytes) : Except Exc Uname := do
  let sysname ← strcpy kernel (layout.offset .sysname)
  let nodename ← strcpy kernel (layout.offset .nodename)
  let release ← strcpy kernel (layout.offset .release)
  let version ← strcpy kernel (layout.offset .version)
  let machine ← strcpy kernel (layout.offset .machine)
  -- `decltype(kernel)` is a reference type, so it is not `new_utsname` for any of the structs
  pure { sysname, nodename, release, version, machine }

def copyStruct (c : ItemContext) (layout : UnameLayout) (p : UnameStruct) :
    Except Exc UnameStruct := do
  match ← c.mem.readStructIntoOptional p.ptr layout.size layout.size with
  | none => pure { p with uname := none }
  | some kernel => do
    let ours ← copyFields layout kernel
    pure { p with uname := some ours }

def processData (p : UnameStruct) : UnameStruct := { p with uname := none }

/-- `PointerOutValue::updateData()` processes the data again -/
def updateData (c : ItemContext) (nr : SystemCallNr) (p : UnameStruct) : Except Exc UnameStruct :=
  let p := p.processData
  if !c.hasResultValue then .ok p
  else
    match nr with
    | .uname => copyStruct c .new p
    | .olduname => copyStruct c .old p
    | .oldolduname => copyStruct c .oldold p
    | _ => .error (.runtime "unexpected uname system call")

end UnameStruct

/-! ## a call -/

/-- the system call that writes the struct -/
def UnameLayout.nr : UnameLayout → SystemCallNr
  | .new => .uname
  | .old => .olduname
  | .oldold => .oldolduname

/-- the bytes of a field -/
def UnameLayout.field (layout : UnameLayout) (bytes : Bytes) (f : UnameField) : Bytes :=
  (bytes.drop (layout.offset f)).take layout.fieldSize

/-- a successful call: the kernel has written a struct of strings with their terminators -/
structure UnameReturn where
  layout : UnameLayout
  ptr : UInt64
  exit : ItemContext
  success : exit.hasResultValue = true
  bytes : Bytes
  written : bytesAt exit.mem ptr layout.size = some bytes
  terminated : ∀ f ∈ layout.fields, 0 ∈ layout.field bytes f

namespace UnameReturn

/-- a string of the struct -/
def string (call : UnameReturn) (f : UnameField) : Bytes :=
  (call.layout.field call.bytes f).takeWhile (· ≠ 0)

/-- the item afterwards; it may have been used before -/
def item (call : UnameReturn) (p : UnameStruct) : Except Exc UnameStruct :=
  { p with ptr := call.ptr }.processData.updateData call.exit call.layout.nr

/-- the item has all strings of the struct -/
def HasStrings (call : UnameReturn) (p : UnameStruct) : Prop :=
  ∃ p' u, call.item p = .ok p' ∧ p'.uname = some u ∧
    ∀ f ∈ call.layout.fields, u.get f = call.string f

/-- the words that hold the struct can be read, and there is no domain name -/
def Fits (call : UnameReturn) : Prop :=
  ¬ Unreadable call.exit.mem call.ptr call.layout.size ∧
    (call.layout = .new → call.string .domainname = [])

variable {call : UnameReturn} {f : UnameField}

/-- a string ends in its field -/
theorem length_string_lt (hf : f ∈ call.layout.fields) :
    (call.string f).length < (call.layout.field call.bytes f).length := by
  apply lt_of_le_of_ne (List.takeWhile_prefix _).length_le
  intro hlen
  have hall : call.string f = call.layout.field call.bytes f :=
    (List.takeWhile_prefix _).eq_of_length hlen
  have hzero : (0 : UInt8) ∈ call.string f := by
    rw [hall]
    exact call.terminated f hf
  have hne := List.mem_takeWhile_imp hzero
  simp at hne

/-- copying stops at the terminator in the field -/
theorem strcpy_eq (hf : f ∈ call.layout.fields) :
    UnameStruct.strcpy call.bytes (call.layout.offset f) = .ok (call.string f) := by
  have hlt := length_string_lt hf
  have hfield : (call.layout.field call.bytes f).length ≤ Uname.fieldSize := by
    refine (List.length_take_le _ _).trans ?_
    cases call.layout <;> decide
  have hsplit : call.bytes.drop (call.layout.offset f) = call.layout.field call.bytes f ++
      (call.bytes.drop (call.layout.offset f)).drop call.layout.fieldSize :=
    (List.take_append_drop _ _).symm
  have hstr : (call.bytes.drop (call.layout.offset f)).takeWhile (· ≠ 0) = call.string f := by
    rw [hsplit, List.takeWhile_append]
    exact if_neg hlt.ne
  have hlen : (call.string f).length < (call.bytes.drop (call.layout.offset f)).length := by
    rw [hsplit, List.length_append]
    omega
  unfold UnameStruct.strcpy
  rw [hstr]
  exact if_pos ⟨hlen, lt_of_lt_of_le hlt hfield⟩

/-- what is copied: the domain name is left out -/
def copied (call : UnameReturn) : Uname :=
  { sysname := call.string .sysname
    nodename := call.string .nodename
    release := call.string .release
    version := call.string .version
    machine := call.string .machine }

theorem get_copied (hf : f ≠ .domainname) : call.copied.get f = call.string f := by
  cases f with
  | domainname => exact absurd rfl hf
  | _ => rfl

theorem copyFields_eq (call : UnameReturn) :
    UnameStruct.copyFields call.layout call.bytes = .ok call.copied := by
  have hcopy : ∀ f ≠ .domainname,
      UnameStruct.strcpy call.bytes (call.layout.offset f) = .ok (call.string f) := by
    intro f hf
    apply strcpy_eq
    cases call.layout <;> cases f <;> first | exact absurd rfl hf | decide
  unfold UnameStruct.copyFields
  rw [hcopy .sysname nofun, hcopy .nodename nofun, hcopy .release nofun, hcopy .version nofun,
    hcopy .machine nofun]
  rfl

theorem item_eq (call : UnameReturn) (p : UnameStruct) :
    call.item p = UnameStruct.copyStruct call.exit call.layout { ptr := call.ptr } := by
  unfold item UnameStruct.updateData
  rw [call.success]
  cases call.layout <;> rfl

/-- a struct whose words cannot be read leaves nothing -/
theorem item_of_unreadable (p : UnameStruct)
    (h : Unreadable call.exit.mem call.ptr call.layout.size) :
    call.item p = .ok { ptr := call.ptr } := by
  rw [item_eq]
  unfold UnameStruct.copyStruct
  rw [Memory.readStructIntoOptional_eq, SetSockOptCall.scalarAt_eq_none_iff.mpr h]
  rfl

theorem item_of_readable (p : UnameStruct)
    (h : ¬ Unreadable call.exit.mem call.ptr call.layout.size) :
    call.item p = .ok { ptr := call.ptr, uname := some call.copied } := by
  have hread : scalarAt call.exit.mem call.ptr call.layout.size = some call.bytes := by
    unfold scalarAt
    rw [if_neg fun h0 => h (Or.inl h0), call.written, if_pos]
    rw [Option.isSome_iff_ne_none]
    exact fun hnone => h (Or.inr hnone)
  rw [item_eq]
  unfold UnameStruct.copyStruct
  rw [Memory.readStructIntoOptional_eq, hread, ok_bind]
  dsimp only
  rw [copyFields_eq]
  rfl

/-- for every struct and every state of the item: it has the strings of the struct if and only if
the words of this can be read and it is not a new one with a domain name -/
theorem hasStrings_iff_fits (call : UnameReturn) (p : UnameStruct) :
    call.HasStrings p ↔ call.Fits := by
  by_cases h : Unreadable call.exit.mem call.ptr call.layout.size
  · refine iff_of_false ?_ fun hfits => hfits.1 h
    rintro ⟨p', u, hitem, hu, -⟩
    rw [item_of_unreadable p h] at hitem
    cases hitem
    cases hu
  constructor
  · rintro ⟨p', u, hitem, hu, hall⟩
    rw [item_of_readable p h] at hitem
    cases hitem
    cases hu
    refine ⟨h, fun hnew => ?_⟩
    exact (hall .domainname (by rw [hnew]; decide)).symm
  · rintro ⟨-, hname⟩
    refine ⟨_, _, item_of_readable p h, rfl, fun f hf => ?_⟩
    by_cases hd : f = .domainname
    · subst hd
      have hnew : call.layout = .new := by
        cases hlayout : call.layout with
        | new => rfl
        | old =>
          rw [hlayout] at hf
          exact absurd hf (by decide)
        | oldold =>
          rw [hlayout] at hf
          exact absurd hf (by decide)
      rw [hname hnew]
      rfl
    · exact get_copied hd

/-- a struct with the domain name `d` and nothing else -/
def domain : UnameReturn where
  layout := .new
  ptr := 4096
  exit :=
    { mem := fun a => some (if a = 4096 + 325 then 100 else 0)
      maxBufferPrefetch := 64, is32BitEmulationABI := false, hasResultValue := true }
  success := rfl
  bytes := List.replicate 325 0 ++ 100 :: List.replicate 64 0
  written := by decide +kernel
  terminated := by decide +kernel

theorem hasStrings_fails : ¬ ∀ (call : UnameReturn) (p : UnameStruct), call.HasStrings p := by
  intro h
  obtain ⟨p, u, hitem, hu, hall⟩ := h domain {}
  have hread : ¬ Unreadable domain.exit.mem domain.ptr domain.layout.size := by
    rintro (h0 | hnone)
    · revert h0
      decide
    · revert hnone
      decide +kernel
  rw [item_of_readable {} hread] at hitem
  cases hitem
  cases hu
  have hname : [] = domain.string .domainname := hall .domainname (by decide)
  revert hname
  decide +kernel

end UnameReturn

end Clues
