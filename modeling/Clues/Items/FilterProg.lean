import Clues.Items.Access
import Clues.Items.SockOpt
import Clues.Items.SocketPair
import Clues.Tracee.Destinations

/-!
# Filter programs and socket options that are returned

* `FilterProg`           the item for a `struct sock_fprog` in `items/seccomp.cxx`;
* `ClassicBPFSockOpt`, `GetFilterSocktOpt`   its specialisations in `items/sockopt.cxx`;
* `GetSockOptStruct`, `GetSockOptVal` ...    the items for other options that are returned.

The length of an option that is returned is `m_optlen.value()`, an optional: the functions are
`.undefined .null` where an optional without a value is dereferenced, and each has a lemma that says
when nothing undefined happens.
-/

namespace Clues

open Lib.LittleEndian

/-! ## filters -/

structure SockFprog where
  len : UInt16
  filter : UInt64
  deriving DecidableEq, Repr

def sockFprogSize : Nat := 16
def sockFprog32Size : Nat := 8

/-- `sizeof(struct sock_filter)` -/
def sockFilterSize : Nat := 8

def SockFprog.ofBytes (bs : Bytes) : SockFprog :=
  { len := UInt16.ofNat (numberAt bs 0 2), filter := UInt64.ofNat (numberAt bs 8 8) }

def SockFprog.ofBytes32 (bs : Bytes) : SockFprog :=
  { len := UInt16.ofNat (numberAt bs 0 2), filter := UInt64.ofNat (numberAt bs 4 4) }

structure FilterProg where
  ptr : UInt64 := 0
  prog : Option SockFprog := none
  filters : List Bytes := []

namespace FilterProg

def fetchFilters (m : Memory) (p : FilterProg) : Except Exc FilterProg :=
  match p.prog with
  | some prog =>
    (readStructs m sockFilterSize prog.len.toNat prog.filter).map fun filters =>
      { p with filters := filters.getD [] }
  | none => .error (.undefined .null)

def processData (c : ItemContext) (p : FilterProg) : Except Exc FilterProg :=
  if !c.is32BitEmulationABI then do
    let prog ← c.mem.readStructIntoOptional p.ptr sockFprogSize sockFprogSize
    fetchFilters c.mem { p with prog := prog.map SockFprog.ofBytes, filters := [] }
  else do
    match ← c.mem.readStructIntoOptional p.ptr sockFprog32Size sockFprog32Size with
    | some bs => fetchFilters c.mem { p with prog := some (.ofBytes32 bs), filters := [] }
    | none => pure { p with filters := [] }

end FilterProg

/-- `ClassicBPFSockOpt::processData()`; the other argument is the value of `m_optlen` -/
def ClassicBPFSockOpt.processData (c : ItemContext) (optlen : Int) (p : FilterProg) :
    Except Exc FilterProg :=
  let p := { p with prog := none, filters := [] }
  if optlen < sockFprogSize then .ok p else FilterProg.processData c p

namespace GetFilterSocktOpt

def processData (optlen : Option Int) (p : FilterProg) : Except Exc FilterProg :=
  match optlen with
  | some len =>
    .ok { p with
      prog := some { len := UInt16.ofNat (len % 2 ^ 16).toNat, filter := p.ptr }
      filters := [] }
  | none => .error (.undefined .null)

def updateData (c : ItemContext) (optlen : Option Int) (p : FilterProg) : Except Exc FilterProg :=
  match p.prog with
  | none => .error (.undefined .null)
  | some prog =>
    if !c.hasResultValue then .ok { p with prog := some { prog with len := 0 } }
    else
      match optlen with
      | none => .ok { p with prog := some { prog with len := 0 } }
      | some len =>
        if len ≤ 0 ∨ 2 ^ 16 - 1 < len then .ok { p with prog := some { prog with len := 0 } }
        else
          let len := min prog.len (UInt16.ofNat len.toNat)
          FilterProg.fetchFilters c.mem { p with prog := some { prog with len := len } }

end GetFilterSocktOpt

/-! ## other options -/

/-- the length does not cover the type: an `int` is compared with a `size_t` -/
def lessThanSize (len : Int) (size : Nat) : Prop := 0 ≤ len ∧ len < size

instance (len : Int) (size : Nat) : Decidable (lessThanSize len size) :=
  inferInstanceAs (Decidable (_ ∧ _))

/-- the item for an option that is a struct -/
structure GetSockOptStruct where
  ptr : UInt64 := 0
  data : Option Bytes := none

def GetSockOptStruct.processData (p : GetSockOptStruct) : GetSockOptStruct :=
  { p with data := none }

/-- `GetSockOptStruct::updateData()`; `GetOldTimeValSockOpt` does the same with the size of the
struct of the tracee -/
def GetSockOptStruct.updateData (size : Nat) (c : ItemContext) (optlen : Option Int)
    (p : GetSockOptStruct) : Except Exc GetSockOptStruct :=
  if !c.hasResultValue then .ok p
  else
    match optlen with
    | some len =>
      if len < 0 ∨ len < size then .ok p
      else (c.mem.readStructIntoOptional p.ptr size size).map fun data => { p with data := data }
    | none => .error (.undefined .null)

/-- `sizeof(struct linger)` -/
def lingerSize : Nat := 8

/-- `GetLingerSockOpt::updateData()` with `fetch()`: what was fetched before is dropped -/
def GetLingerSockOpt.updateData (c : ItemContext) (optlen : Option Int) (p : GetSockOptStruct) :
    Except Exc GetSockOptStruct :=
  if !c.hasResultValue then .ok p
  else
    match optlen with
    | some len =>
      if len < 0 ∨ len < lingerSize then .ok { p with data := none }
      else
        (c.mem.readStructIntoOptional p.ptr lingerSize lingerSize).map fun data =>
          { p with data := data }
    | none => .error (.undefined .null)

/-- `sizeof(uint32_t[SK_MEMINFO_VARS])` -/
def meminfoSize : Nat := 36

/-- the item for `SO_MEMINFO`, with its array -/
structure GetMemInfoSockOpt where
  ptr : UInt64
  meminfo : Bytes
  sized : meminfo.length = meminfoSize

/-- `updateData()`; the result of `readStruct()` is not looked at -/
def GetMemInfoSockOpt.updateData (c : ItemContext) (optlen : Option Int) (p : GetMemInfoSockOpt) :
    Except Exc GetMemInfoSockOpt :=
  if !c.hasResultValue then .ok p
  else
    match optlen with
    | some len =>
      if lessThanSize len meminfoSize then .ok p
      else
        (readStructInto c.mem p.ptr p.meminfo meminfoSize).2.map fun _ =>
          { p with
            meminfo := (readStructInto c.mem p.ptr p.meminfo meminfoSize).1
            sized := readStructInto_length.trans p.sized }
    | none => .error (.undefined .null)

/-- `GetSockOptVal::updateData()`: no value is less than each length -/
def GetSockOptVal.updateData (size : Nat) (c : ItemContext) (optlen : Option Int)
    (p : PointerToScalar) : Except Exc PointerToScalar :=
  if !c.hasResultValue then .ok { p with val := none }
  else
    match optlen with
    | some len =>
      if lessThanSize len size then .ok { p with val := none }
      else p.updateData .paramOut c.mem size
    | none => .ok { p with val := none }

/-! ## defined behaviour -/

section
variable {c : ItemContext} {optlen : Option Int}

theorem scalarAt_isSome_iff {m : Memory} {a : UInt64} {size : Nat} :
    (scalarAt m a size).isSome = true ↔ ¬ Unreadable m a size := by
  have h : scalarAt m a size = none ↔ Unreadable m a size :=
    SetSockOptCall.scalarAt_eq_none_iff
  rw [← h, Option.isSome_iff_ne_none]

theorem defined_readStructIntoOptional (m : Memory) (a : UInt64) (size : Nat) :
    Defined (m.readStructIntoOptional a size size) :=
  defined_of_ok (Memory.readStructIntoOptional_eq m a size)

theorem FilterProg.fetchFilters_defined (m : Memory) (p : FilterProg) :
    Defined (p.fetchFilters m) ↔ p.prog.isSome = true := by
  unfold fetchFilters
  cases p.prog with
  | none => exact iff_of_false (not_defined .null) Bool.false_ne_true
  | some prog =>
    have hread : readStructs m sockFilterSize prog.len.toNat prog.filter = .ok _ :=
      readStructs_eq (k := 1) rfl (by decide)
    exact iff_of_true (defined_map.mpr (defined_of_ok hread)) rfl

/-- in the 64-bit layout the struct has to be readable -/
theorem FilterProg.processData_defined (p : FilterProg) :
    Defined (p.processData c) ↔
      c.is32BitEmulationABI = true ∨ ¬ Unreadable c.mem p.ptr sockFprogSize := by
  unfold processData
  cases c.is32BitEmulationABI with
  | false =>
    rw [if_pos (by rfl), Memory.readStructIntoOptional_eq]
    show Defined (fetchFilters _ _) ↔ _
    rw [fetchFilters_defined, Option.isSome_map, scalarAt_isSome_iff]
    constructor
    · intro h
      exact Or.inr h
    · intro h
      exact h.resolve_left Bool.false_ne_true
  | true =>
    rw [if_neg (by simp), Memory.readStructIntoOptional_eq, ok_bind]
    refine iff_of_true ?_ (Or.inl rfl)
    cases scalarAt c.mem p.ptr sockFprog32Size with
    | none => exact defined_ok _
    | some bs => exact (fetchFilters_defined _ _).mpr rfl

theorem ClassicBPFSockOpt.processData_defined (len : Int) (p : FilterProg) :
    Defined (processData c len p) ↔ len < sockFprogSize ∨
      c.is32BitEmulationABI = true ∨ ¬ Unreadable c.mem p.ptr sockFprogSize := by
  unfold processData
  by_cases h : len < sockFprogSize
  · exact iff_of_true (by rw [if_pos h]; exact defined_ok _) (Or.inl h)
  · dsimp only
    rw [if_neg h, FilterProg.processData_defined]
    constructor
    · intro hp
      exact Or.inr hp
    · intro hp
      exact hp.resolve_left h

/-- the length is there, and then the program that is made of it -/
theorem GetFilterSocktOpt.processData_defined (p : FilterProg) :
    Defined (processData optlen p) ↔ optlen.isSome = true := by
  cases optlen with
  | none => exact iff_of_false (not_defined .null) Bool.false_ne_true
  | some len => exact iff_of_true (defined_ok _) rfl

theorem GetFilterSocktOpt.processData_prog {p p' : FilterProg}
    (h : processData optlen p = .ok p') : p'.prog.isSome = true := by
  cases optlen with
  | none => cases h
  | some len =>
    cases h
    rfl

theorem GetFilterSocktOpt.updateData_defined {p : FilterProg} (hp : p.prog.isSome = true) :
    Defined (updateData c optlen p) := by
  unfold updateData
  cases hprog : p.prog with
  | none =>
    rw [hprog] at hp
    cases hp
  | some prog =>
    dsimp only
    split_ifs
    · exact defined_ok _
    · cases optlen with
      | none => exact defined_ok _
      | some len =>
        dsimp only
        split_ifs
        · exact defined_ok _
        · exact (FilterProg.fetchFilters_defined _ _).mpr rfl

/-- what the items for structs have in common: after an error the length is not looked at -/
theorem defined_of_length {α : Type} {p : α} {f : Int → Except Exc α}
    (hf : ∀ len, Defined (f len)) :
    Defined (if !c.hasResultValue then .ok p else
        match optlen with
        | some len => f len
        | none => .error (.undefined .null)) ↔
      (c.hasResultValue = true → optlen.isSome = true) := by
  cases c.hasResultValue with
  | false =>
    refine iff_of_true (defined_ok p) ?_
    intro h
    cases h
  | true =>
    cases optlen with
    | none => exact iff_of_false (not_defined .null) fun h => Bool.false_ne_true (h rfl)
    | some len => exact iff_of_true (hf len) fun _ => rfl

theorem GetSockOptStruct.updateData_defined (size : Nat) (p : GetSockOptStruct) :
    Defined (p.updateData size c optlen) ↔ (c.hasResultValue = true → optlen.isSome = true) := by
  apply defined_of_length
  intro len
  split_ifs
  · exact defined_ok p
  · exact defined_map.mpr (defined_readStructIntoOptional _ _ _)

theorem GetLingerSockOpt.updateData_defined (p : GetSockOptStruct) :
    Defined (updateData c optlen p) ↔ (c.hasResultValue = true → optlen.isSome = true) := by
  apply defined_of_length
  intro len
  split_ifs
  · exact defined_ok _
  · exact defined_map.mpr (defined_readStructIntoOptional _ _ _)

theorem GetMemInfoSockOpt.updateData_defined (p : GetMemInfoSockOpt) :
    Defined (p.updateData c optlen) ↔ (c.hasResultValue = true → optlen.isSome = true) := by
  apply defined_of_length
  intro len
  split_ifs
  · exact defined_ok p
  · obtain ⟨b, hb⟩ := readStructInto_result (m := c.mem) (a := p.ptr) p.sized.ge
    exact defined_map.mpr (defined_of_ok hb)

/-- the value after the update: the length covers it, and it can be read -/
theorem GetSockOptVal.updateData_eq (size : Nat) (p : PointerToScalar) :
    updateData size c optlen p = .ok { p with
      val := if c.hasResultValue = true ∧ ∃ len ∈ optlen, ¬ lessThanSize len size then
        scalarAt c.mem p.ptr size else none } := by
  unfold updateData
  cases c.hasResultValue with
  | false =>
    have hno : ¬ (false = true ∧ ∃ len ∈ optlen, ¬ lessThanSize len size) :=
      fun h => Bool.false_ne_true h.1
    rw [if_neg hno]
    rfl
  | true =>
    cases optlen with
    | none =>
      have hno : ¬ (true = true ∧ ∃ len ∈ (none : Option Int), ¬ lessThanSize len size) := by
        rintro ⟨-, len, hlen, -⟩
        cases hlen
      rw [if_neg hno]
      rfl
    | some len =>
      show (if lessThanSize len size then .ok { p with val := none }
        else p.fetchValue c.mem size) = _
      by_cases h : lessThanSize len size
      · have hno : ¬ (true = true ∧ ∃ n ∈ some len, ¬ lessThanSize n size) := by
          rintro ⟨-, n, hn, hno⟩
          cases hn
          exact hno h
        rw [if_pos h, if_neg hno]
      · rw [if_neg h, if_pos ⟨rfl, len, rfl, h⟩]
        exact PointerToScalar.fetchValue_eq _ _ _

end

end Clues
