import Clues.Tracee.Structs

/-!
# Memory maps that are passed to prctl()

`prctl(PR_SET_MM, PR_SET_MM_MAP, map, size)` sets many properties of a process at once.

* `MemoryMapStruct`       the item for the struct, which is filled when its size is known;
* `MemoryMapSystemCall`   the system call, whose parameters depend on its sub-operation;
* `MapFits`               when the item holds the struct of the tracee: `mapsExactly_iff`.
-/

namespace Clues

/-- `sizeof(struct prctl_mm_map)`: eleven addresses, a pointer, two 32-bit numbers -/
def mmMapSize : Nat := 11 * 8 + 8 + 2 * 4

/-- `MemoryMapOp::Operation` -/
inductive MemoryMapOp where
  /-- the operations with an address: `START_CODE`, `END_CODE` and so on -/
  | address
  | mapSize
  | exeFile
  | map
  | other
  deriving DecidableEq, Repr

/-- the numbers of the operations -/
def MemoryMapOp.ofWord (w : Word) : MemoryMapOp :=
  if w = 13 then .exeFile
  else if w = 14 then .map
  else if w = 15 then .mapSize
  else if 1 ≤ w ∧ w ≤ 12 then .address
  else .other

/-- `MemoryMapStruct`: the pointer and `m_map` -/
structure MemoryMapStruct where
  ptr : UInt64
  map : Option (List UInt8) := none

def MemoryMapStruct.processData (m : Memory) (item : MemoryMapStruct) (mmStructSize : Word) :
    Except Exc MemoryMapStruct := do
  let map ← Memory.readStructIntoOptional m item.ptr mmMapSize mmStructSize.toNat
  pure { item with map := map }

/-- `prctl::MemoryMapSystemCall`, with the items of the sub-operation `MAP` -/
structure MemoryMapSystemCall where
  mmOp : MemoryMapOp
  mmStruct : Option MemoryMapStruct := none
  mmStructSize : Option Word := none

/-- `setEntryInfo()`: the first pass fills the operation; `check2ndPass()` adds the parameters that
belong to it, and in the second pass the struct is filled after its size -/
def MemoryMapSystemCall.setEntryInfo (m : Memory) (args : Nat → Word) :
    Except Exc MemoryMapSystemCall :=
  let mmOp := MemoryMapOp.ofWord (args 1)
  match mmOp with
  | .map => do
    let item ← MemoryMapStruct.processData m { ptr := args 2 } (args 3)
    pure { mmOp := mmOp, mmStruct := some item, mmStructSize := some (args 3) }
  | _ => .ok { mmOp := mmOp }

/-- the struct of the tracee: as many bytes of it as the tracee says and the tracer knows, then
zeroes; no value, if they cannot be read -/
def mapAt (m : Memory) (args : Nat → Word) : Option (List UInt8) :=
  structAt m (args 2) mmMapSize (args 3).toNat

/-- the call is filled, nothing is written behind the struct, and it holds what the tracee passes -/
def MapsExactly (m : Memory) (args : Nat → Word) : Prop :=
  ∃ call item, MemoryMapSystemCall.setEntryInfo m args = .ok call ∧ call.mmStruct = some item ∧
    item.map = mapAt m args

def MapFits (m : Memory) (args : Nat → Word) : Prop :=
  StructFits m (args 2) mmMapSize (args 3).toNat

section
variable {m : Memory} {args : Nat → Word}

theorem setEntryInfo_map (hop : args 1 = 14) :
    MemoryMapSystemCall.setEntryInfo m args
      = (Memory.readStructIntoOptional m (args 2) mmMapSize (args 3).toNat).map fun map =>
        { mmOp := .map
          mmStruct := some { ptr := args 2, map := map }
          mmStructSize := some (args 3) } := by
  have hmap : MemoryMapOp.ofWord (args 1) = .map := by
    rw [hop]
    rfl
  unfold MemoryMapSystemCall.setEntryInfo MemoryMapStruct.processData
  simp only [hmap]
  cases Memory.readStructIntoOptional m (args 2) mmMapSize (args 3).toNat <;> rfl

/-- for each size that a tracee passes: the item holds the struct, and nothing else is written, if
and only if the size is at most the one of the struct and whole words of it can be read -/
theorem mapsExactly_iff_fits (hop : args 1 = 14) : MapsExactly m args ↔ MapFits m args := by
  have hk : mmMapSize = wordSize * 13 := rfl
  unfold MapFits
  rw [← Memory.readStructIntoOptional_iff hk]
  unfold MapsExactly
  rw [setEntryInfo_map hop]
  constructor
  · intro h
    obtain ⟨call, item, hcall, hitem, hmap⟩ := h
    cases hr : Memory.readStructIntoOptional m (args 2) mmMapSize (args 3).toNat with
    | error e =>
      rw [hr] at hcall
      cases hcall
    | ok map =>
      rw [hr] at hcall
      cases hcall
      cases hitem
      exact congrArg Except.ok hmap
  · intro h
    rw [h]
    exact ⟨_, _, rfl, rfl, rfl⟩

end

/-- an older struct without its last two numbers -/
def oldMapArgs : Nat → Word
  | 0 => 35
  | 1 => 14
  | 2 => 4096
  | _ => 96

theorem mapsExactly_old : MapsExactly (fun _ => some 1) oldMapArgs ↔
    MapFits (fun _ => some 1) oldMapArgs :=
  mapsExactly_iff_fits rfl

/-- a struct with another eight bytes: they are written behind the struct of the tracer -/
theorem mapsExactly_fails :
    ¬ ∀ (m : Memory) (args : Nat → Word), args 1 = 14 → MapsExactly m args := by
  intro h
  obtain ⟨call, item, hcall, -, -⟩ :=
    h (fun _ => some 1) (fun i => if i = 1 then 14 else if i = 2 then 4096 else 112) rfl
  rw [setEntryInfo_map rfl] at hcall
  have hread : Memory.readStructIntoOptional (fun _ => some 1) 4096 mmMapSize 112
      = .error (.undefined .bounds) := by
    decide +kernel
  change (Memory.readStructIntoOptional (fun _ => some 1) 4096 mmMapSize 112).map _ = _ at hcall
  rw [hread] at hcall
  cases hcall

end Clues
