import Clues.Tracee.Destinations

/-!
# Descriptors that are polled

* `PollFDs`            the item for the array of `poll()` and `ppoll()`;
* `keepsOnFailure_iff` when a read that fails leaves its destination as it was: a struct, a vector
                       of structs and the array of an earlier read.

The space for an array is allocated with `alloc`.
-/

namespace Clues

/-- `sizeof(struct pollfd)` -/
def pollFDSize : Nat := 8

/-- `PollFDs` -/
structure PollFDs where
  ptr : UInt64
  fds : Structs pollFDSize

/-- `std::vector::resize()` -/
def Structs.resize {size : Nat} (vec : Structs size) (n : Nat) : Structs size where
  elements := (vec.elements.take n) ++
    List.replicate (n - vec.elements.length) (List.replicate size 0)
  sized := by
    intro e he
    rcases List.mem_append.mp he with he | he
    · exact vec.sized e (List.mem_of_mem_take he)
    · rw [(List.mem_replicate.mp he).2, List.length_replicate]

def Structs.empty (size : Nat) : Structs size := ⟨[], by simp⟩

namespace PollFDs

/-- an array that cannot be allocated is an exception -/
def processData (alloc : Nat → Bool) (m : Memory) (numFds : Word) (p : PollFDs) :
    Except Exc PollFDs :=
  if alloc (numFds.toNat * pollFDSize) then
    match readStructsInto m p.ptr (p.fds.resize numFds.toNat) with
    | (fds, .ok true) => .ok { p with fds := fds }
    | (_, .ok false) => .ok { p with fds := Structs.empty pollFDSize }
    | (_, .error e) => .error e
  else .error (.std .badAlloc)

/-- a failed read is only logged -/
def updateData (m : Memory) (p : PollFDs) : Except Exc PollFDs :=
  match readStructsInto m p.ptr p.fds with
  | (fds, .ok _) => .ok { p with fds := fds }
  | (_, .error e) => .error e

/-- what is kept when the array cannot be read on exit -/
theorem updateData_eq_self_iff (m : Memory) (p : PollFDs)
    (h : StructsUnreadable m pollFDSize p.ptr p.fds.elements) :
    p.updateData m = .ok p ↔ StructsUnchanged m pollFDSize p.ptr p.fds.elements := by
  have hfalse := readStructsLoop_unreadable p.fds.sized h
  rw [← readStructsInto_failed_iff]
  unfold updateData
  rcases hr : readStructsInto m p.ptr p.fds with ⟨fds, r⟩
  have hr2 : r = .ok false := (congrArg Prod.snd hr).symm.trans hfalse
  subst hr2
  constructor
  · intro hp
    rw [show fds = p.fds from congrArg PollFDs.fds (Except.ok.inj hp)]
  · intro hp
    rw [show fds = p.fds from congrArg Prod.fst hp]

end PollFDs

/-! ## destinations of failed reads -/

/-- for each memory, destination and number of bytes: a read that fails is reported and leaves the
destination as it was if and only if nothing else was read before the failure -/
theorem keepsOnFailure_iff (m : Memory) :
    (∀ a out n, (Unreadable m a n → readStructInto m a out n = (out, .ok false)) ↔
      (Unreadable m a n → Unchanged m a out n)) ∧
    (∀ a size (vec : Structs size),
      (StructsUnreadable m size a vec.elements → readStructsInto m a vec = (vec, .ok false)) ↔
        (StructsUnreadable m size a vec.elements → StructsUnchanged m size a vec.elements)) ∧
    ∀ p : PollFDs,
      (StructsUnreadable m pollFDSize p.ptr p.fds.elements → p.updateData m = .ok p) ↔
        (StructsUnreadable m pollFDSize p.ptr p.fds.elements →
          StructsUnchanged m pollFDSize p.ptr p.fds.elements) := by
  refine ⟨fun a out n => ?_, fun a size vec => ?_, fun p => ?_⟩
  · rw [readStructInto_failed_iff]
  · rw [readStructsInto_failed_iff]
  · exact imp_congr_right (p.updateData_eq_self_iff m)

/-- an array of zeroes at the end of a page -/
def wholeArray : Memory := fun a => if 4080 ≤ a ∧ a < 5000 then some 0 else none

/-- the kernel has written the first two elements: the next page has been unmapped -/
def tornArray : Memory := fun a => if 4080 ≤ a ∧ a < 4096 then some 1 else none

/-- three descriptors were read on entry -/
def polled : PollFDs where
  ptr := 4080
  fds := (Structs.empty pollFDSize).resize 3

theorem processData_polled :
    ({ ptr := 4080, fds := Structs.empty pollFDSize } : PollFDs).processData (fun _ => true)
      wholeArray 3 = .ok polled := by
  have hread : readStructsInto wholeArray 4080 ((Structs.empty pollFDSize).resize 3)
      = ((Structs.empty pollFDSize).resize 3, .ok true) := by
    refine Prod.ext (Structs.ext ?_) ?_ <;> decide +kernel
  have hcount : (3 : Word).toNat = 3 := rfl
  unfold PollFDs.processData
  rw [if_pos rfl, hcount, hread]
  rfl

/-- for an item that was filled on entry: the first two elements are overwritten before the third one
cannot be read -/
theorem keepsOnFailure_fails : ¬ ∀ (alloc : Nat → Bool) (m₀ m : Memory) (numFds : Word)
    (p₀ p : PollFDs), p₀.processData alloc m₀ numFds = .ok p →
    StructsUnreadable m pollFDSize p.ptr p.fds.elements → p.updateData m = .ok p := by
  intro h
  have hno : StructsUnreadable tornArray pollFDSize polled.ptr polled.fds.elements := by
    refine Or.inr (Or.inr (Or.inl (Or.inr ?_)))
    decide +kernel
  have hkept := h _ _ tornArray _ _ polled processData_polled hno
  have hfirst : (polled.updateData tornArray).toOption.map (fun p => p.fds.elements.head?)
      = some (some (List.replicate 8 1)) := by decide +kernel
  rw [hkept] at hfirst
  revert hfirst
  decide +kernel

end Clues
