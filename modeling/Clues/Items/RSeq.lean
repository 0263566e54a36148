import Clues.Items.BufferPointer

/-!
# The struct of rseq()

The struct has no fixed size, so the item allocates it when the system call returns, and frees it by
hand.

* `Heap`            the allocations, and what was freed;
* `RSeqParameter`   the item: `processData`, `updateData`, `clear` and the destructor;
* `RSeqOp`          an entry or an exit of the system call;
* `Owns`            the pointer is null, or refers to an allocation of the size of the item;
* `ownsThroughout_iff_fits`   when this is kept, and each allocation is freed once in the end.
-/

namespace Clues

/-! ## allocations -/

abbrev AllocId := Nat

structure Heap where
  /-- the allocations in the order in which they were made -/
  blocks : List (List UInt8) := []
  /-- what `operator delete` was called for -/
  freed : List AllocId := []

namespace Heap

/-- the allocation has this size and was not freed -/
def Live (h : Heap) (id : AllocId) (size : Nat) : Prop :=
  (∃ block, h.blocks[id]? = some block ∧ block.length = size) ∧ id ∉ h.freed

def delete (h : Heap) (id : AllocId) : Heap := { h with freed := h.freed ++ [id] }

end Heap

/-! ## the item -/

/-- `RSeqParameter`, with the value of the parameter `rseq_len` -/
structure RSeqParameter where
  ptr : Word := 0
  rseqLen : UInt32 := 0
  data : Option AllocId := none
  size : Nat := 0
  heap : Heap := {}

namespace RSeqParameter

/-- the pointer stays as it is -/
def clear (p : RSeqParameter) : RSeqParameter :=
  let p := { p with size := 0 }
  match p.data with
  | some id => { p with heap := p.heap.delete id }
  | none => p

/-- an entry: the parameters are filled -/
def processData (ptr : Word) (rseqLen : UInt32) (p : RSeqParameter) : RSeqParameter :=
  { p with ptr := ptr, rseqLen := rseqLen }.clear

/-- `room` is the largest size that can be allocated -/
def updateData (c : ItemContext) (room : Nat) (p : RSeqParameter) :
    Except Exc Unit × RSeqParameter :=
  if !c.hasResultValue then (.ok (), p)
  else
    let p := { p with size := p.rseqLen.toNat }
    if room < p.size then (.error (.std .badAlloc), p)
    else
      let heap := p.heap
      let p := { p with data := some heap.blocks.length }
      match readBlob c.mem p.ptr p.size with
      | .ok bytes =>
        (.ok (), { p with heap := { heap with blocks := heap.blocks ++ [bytes] } })
      | .error e =>
        let p := { p with
          heap := { heap with blocks := heap.blocks ++ [List.replicate p.size 0] } }
        if e.isException then (.ok (), p.clear) else (.error e, p)

/-- `RSeqParameter::~RSeqParameter()` -/
def destroy (p : RSeqParameter) : RSeqParameter := p.clear

end RSeqParameter

/-! ## sequences -/

inductive RSeqOp where
  | entry (ptr : Word) (rseqLen : UInt32)
  | exit (c : ItemContext) (room : Nat)

namespace RSeqParameter

open BufferPointer (Readable readBlob_ok_iff readBlob_length)

def step (p : RSeqParameter) : RSeqOp → RSeqParameter
  | .entry ptr rseqLen => p.processData ptr rseqLen
  | .exit c room => (p.updateData c room).2

def run (p : RSeqParameter) (ops : List RSeqOp) : RSeqParameter := ops.foldl step p

/-- no data and the size zero, or one allocation of this size -/
structure Owns (p : RSeqParameter) : Prop where
  live : ∀ id, p.data = some id → p.heap.Live id p.size
  size : p.size = 0 ↔ p.data = none

/-- each allocation was freed, and none twice -/
def FreesOnce (p : RSeqParameter) : Prop :=
  ∀ id < p.heap.blocks.length, p.heap.freed.count id = 1

/-- before and after each of the operations the item owns its data, and nothing is left over when
it is destroyed behind them -/
def OwnsThroughout (p : RSeqParameter) (ops : List RSeqOp) : Prop :=
  (∀ front, front <+: ops → (p.run front).Owns) ∧ (p.run ops).destroy.FreesOnce

/-- the operation leaves an item with data as it is: an exit that failed, or that there is no memory
for -/
def Keeps (rseqLen : UInt32) : RSeqOp → Prop
  | .entry .. => False
  | .exit c room => c.hasResultValue = false ∨ room < rseqLen.toNat

/-- behind the first exit of a successful call are only operations that leave the item as it is, and
its struct is not empty, can be allocated and can be read -/
def Fits : Word → UInt32 → List RSeqOp → Prop
  | _, _, [] => True
  | _, _, .entry ptr rseqLen :: ops => Fits ptr rseqLen ops
  | ptr, rseqLen, .exit c room :: ops =>
    if c.hasResultValue then
      0 < rseqLen.toNat ∧ rseqLen.toNat ≤ room ∧ Readable c.mem ptr rseqLen.toNat ∧
        ∀ op ∈ ops, Keeps rseqLen op
    else Fits ptr rseqLen ops

variable {p : RSeqParameter} {ops : List RSeqOp}

theorem ownsThroughout_nil : p.OwnsThroughout [] ↔ p.Owns ∧ p.destroy.FreesOnce := by
  constructor
  · intro h
    exact ⟨h.1 [] (List.prefix_refl _), h.2⟩
  · intro h
    refine ⟨fun front hf => ?_, h.2⟩
    rw [List.prefix_nil.mp hf]
    exact h.1

theorem ownsThroughout_cons {op : RSeqOp} :
    p.OwnsThroughout (op :: ops) ↔ p.Owns ∧ (p.step op).OwnsThroughout ops := by
  constructor
  · intro h
    refine ⟨h.1 [] List.nil_prefix, fun front hf => ?_, h.2⟩
    exact h.1 (op :: front) (List.prefix_cons_iff.mpr (Or.inr ⟨front, rfl, hf⟩))
  · intro h
    refine ⟨fun front hf => ?_, h.2.2⟩
    rcases List.prefix_cons_iff.mp hf with rfl | ⟨front', rfl, hf'⟩
    · exact h.1
    · exact h.2.1 front' hf'

theorem OwnsThroughout.owns (h : p.OwnsThroughout ops) : p.Owns := h.1 [] List.nil_prefix

theorem clear_none (h : p.data = none) : p.clear = { p with size := 0 } := by
  unfold clear
  simp only [h]

theorem clear_some {id : AllocId} (h : p.data = some id) :
    p.clear = { p with size := 0, heap := p.heap.delete id } := by
  unfold clear
  simp only [h]

/-! ## exits -/

section
variable {c : ItemContext} {room : Nat}

theorem updateData_failed (hc : c.hasResultValue = false) : (p.updateData c room).2 = p := by
  unfold updateData
  rw [hc]
  rfl

theorem updateData_noMemory (hc : c.hasResultValue = true) (hroom : room < p.rseqLen.toNat) :
    (p.updateData c room).2 = { p with size := p.rseqLen.toNat } := by
  unfold updateData
  rw [hc]
  exact congrArg Prod.snd (if_pos hroom)

/-- the size is taken, and the pointer is that of the new allocation; its bytes are read, or it is
freed again -/
theorem updateData_allocated (hc : c.hasResultValue = true) (hroom : p.rseqLen.toNat ≤ room) :
    ∃ block : List UInt8, block.length = p.rseqLen.toNat ∧ (p.updateData c room).2 =
      if Readable c.mem p.ptr p.rseqLen.toNat then
        { p with
          size := p.rseqLen.toNat, data := some p.heap.blocks.length
          heap := { p.heap with blocks := p.heap.blocks ++ [block] } }
      else
        { p with
          size := 0, data := some p.heap.blocks.length
          heap :=
            { blocks := p.heap.blocks ++ [block]
              freed := p.heap.freed ++ [p.heap.blocks.length] } } := by
  unfold updateData
  rw [hc]
  simp only [Bool.not_true, Bool.false_eq_true, if_false, if_neg (Nat.not_lt.mpr hroom)]
  cases hr : readBlob c.mem p.ptr p.rseqLen.toNat with
  | ok bytes =>
    refine ⟨bytes, readBlob_length hr, ?_⟩
    rw [if_pos (readBlob_ok_iff.mp ⟨bytes, hr⟩)]
  | error e =>
    have hne : ¬ Readable c.mem p.ptr p.rseqLen.toNat := by
      intro h
      obtain ⟨bytes, hb⟩ := readBlob_ok_iff.mpr h
      rw [hr] at hb
      cases hb
    obtain rfl : e = .api Errno.ioError := readBlob_error hr
    refine ⟨List.replicate p.rseqLen.toNat 0, List.length_replicate, ?_⟩
    rw [if_neg hne]
    rfl

end

/-! ## an allocation that nothing refers to -/

/-- it was not freed, and the item does not refer to it -/
structure Loses (p : RSeqParameter) (id : AllocId) : Prop where
  allocated : id < p.heap.blocks.length
  kept : id ∉ p.heap.freed
  other : p.data ≠ some id

namespace Loses

variable {id : AllocId}

theorem clear (h : p.Loses id) : p.clear.Loses id := by
  obtain ⟨hin, hkept, hother⟩ := h
  cases hd : p.data with
  | none =>
    rw [clear_none hd]
    exact ⟨hin, hkept, hother⟩
  | some other =>
    rw [clear_some hd]
    refine ⟨hin, ?_, hother⟩
    show id ∉ p.heap.freed ++ [other]
    intro hm
    rcases List.mem_append.mp hm with hm | hm
    · exact hkept hm
    · rw [List.mem_singleton.mp hm] at hother
      exact hother hd

theorem step (h : p.Loses id) (op : RSeqOp) : (p.step op).Loses id := by
  cases op with
  | entry ptr rseqLen => exact Loses.clear ⟨h.allocated, h.kept, h.other⟩
  | exit c room =>
    show (p.updateData c room).2.Loses id
    rcases Bool.eq_false_or_eq_true c.hasResultValue with hc | hc
    · rcases Nat.lt_or_ge room p.rseqLen.toNat with hroom | hroom
      · rw [updateData_noMemory hc hroom]
        exact ⟨h.allocated, h.kept, h.other⟩
      · obtain ⟨block, -, hp⟩ := updateData_allocated (p := p) hc hroom
        have hnew : p.heap.blocks.length ≠ id := Nat.ne_of_gt h.allocated
        have hin : id < (p.heap.blocks ++ [block]).length := by
          rw [List.length_append]
          exact Nat.lt_add_right _ h.allocated
        have hother : some p.heap.blocks.length ≠ some id := fun he => hnew (Option.some.inj he)
        rw [hp]
        split
        · exact ⟨hin, h.kept, hother⟩
        · refine ⟨hin, fun hm => ?_, hother⟩
          rcases List.mem_append.mp hm with hm | hm
          · exact h.kept hm
          · exact hnew (List.mem_singleton.mp hm).symm
    · rw [updateData_failed hc]
      exact h

theorem run (h : p.Loses id) (ops : List RSeqOp) : (p.run ops).Loses id := by
  induction ops generalizing p with
  | nil => exact h
  | cons op ops ih => exact ih (h.step op)

/-- it is not freed in the end either -/
theorem not_ownsThroughout (h : p.Loses id) : ¬ p.OwnsThroughout ops := by
  intro ho
  have hlost : (p.run ops).destroy.Loses id := (h.run ops).clear
  have hone := ho.2 id hlost.allocated
  rw [List.count_eq_zero_of_not_mem hlost.kept] at hone
  exact Nat.zero_ne_one hone

end Loses

/-! ## an item with data -/

/-- the only allocation was not freed -/
structure Filled (p : RSeqParameter) : Prop where
  data : p.data = some 0
  heap : ∃ block, p.heap = { blocks := [block] } ∧ block.length = p.size
  size : p.size = p.rseqLen.toNat
  pos : 0 < p.rseqLen.toNat

namespace Filled

theorem owns (h : p.Filled) : p.Owns := by
  obtain ⟨block, hheap, hlen⟩ := h.heap
  refine ⟨fun id hid => ?_, ?_⟩
  · rw [h.data] at hid
    cases hid
    rw [hheap]
    exact ⟨⟨block, rfl, hlen⟩, List.not_mem_nil⟩
  · rw [h.data, h.size]
    have := h.pos
    constructor
    · intro h0
      omega
    · intro hn
      cases hn

theorem freesOnce (h : p.Filled) : p.destroy.FreesOnce := by
  obtain ⟨block, hheap, -⟩ := h.heap
  rw [show p.destroy = _ from clear_some h.data, hheap]
  intro id hid
  obtain rfl : id = 0 := Nat.lt_one_iff.mp hid
  rfl

/-- `m_data` stays as it is when it is freed -/
theorem not_owns_entry (h : p.Filled) (ptr : Word) (rseqLen : UInt32) :
    ¬ (p.processData ptr rseqLen).Owns := by
  intro ho
  have hd : ({ p with ptr := ptr, rseqLen := rseqLen } : RSeqParameter).data = some 0 := h.data
  rw [show p.processData ptr rseqLen = _ from clear_some hd] at ho
  exact (ho.live 0 hd).2 (List.mem_append.mpr (Or.inr (List.mem_singleton.mpr rfl)))

theorem ownsThroughout_iff (h : p.Filled) :
    p.OwnsThroughout ops ↔ ∀ op ∈ ops, Keeps p.rseqLen op := by
  induction ops with
  | nil =>
    rw [ownsThroughout_nil]
    exact iff_of_true ⟨h.owns, h.freesOnce⟩ fun _ hop => absurd hop List.not_mem_nil
  | cons op ops ih =>
    rw [ownsThroughout_cons, List.forall_mem_cons, ← ih]
    cases op with
    | entry ptr rseqLen =>
      exact iff_of_false (fun hs => h.not_owns_entry ptr rseqLen hs.2.owns) fun hs => hs.1
    | exit c room =>
      -- an exit that the item is left as it is by
      have hsame (hp : (p.updateData c room).2 = p) (hk : Keeps p.rseqLen (.exit c room)) :
          p.Owns ∧ (p.step (.exit c room)).OwnsThroughout ops ↔
            Keeps p.rseqLen (.exit c room) ∧ p.OwnsThroughout ops := by
        rw [show p.step (.exit c room) = p from hp]
        exact ⟨fun hs => ⟨hk, hs.2⟩, fun hs => ⟨h.owns, hs.2⟩⟩
      rcases Bool.eq_false_or_eq_true c.hasResultValue with hc | hc
      · rcases Nat.lt_or_ge room p.rseqLen.toNat with hroom | hroom
        · refine hsame ?_ (Or.inr hroom)
          rw [updateData_noMemory hc hroom, ← h.size]
        · have hk : ¬ Keeps p.rseqLen (.exit c room) := by
            rintro (hk | hk)
            · rw [hc] at hk
              cases hk
            · omega
          refine iff_of_false (fun hs => ?_) fun hs => hk hs.1
          -- the old allocation is still there
          refine Loses.not_ownsThroughout (?_ : Loses _ 0) hs.2
          obtain ⟨block, -, hp⟩ := updateData_allocated (p := p) hc hroom
          obtain ⟨old, hheap, -⟩ := h.heap
          show (p.updateData c room).2.Loses 0
          rw [hp, hheap]
          have hother : some 1 ≠ some 0 := by decide
          split
          · exact ⟨Nat.succ_pos _, List.not_mem_nil, hother⟩
          · exact ⟨Nat.succ_pos _, by show 0 ∉ [1]; decide, hother⟩
      · exact hsame (updateData_failed hc) (Or.inl hc)

end Filled

/-! ## from the start -/

theorem owns_start (ptr : Word) (rseqLen : UInt32) :
    ({ ptr := ptr, rseqLen := rseqLen } : RSeqParameter).Owns := by
  refine ⟨fun id hid => ?_, iff_of_true rfl rfl⟩
  cases hid

/-- a successful exit of an item without data -/
theorem ownsThroughout_first {ptr : Word} {rseqLen : UInt32} {c : ItemContext} {room : Nat}
    (hc : c.hasResultValue = true) :
    (({ ptr := ptr, rseqLen := rseqLen } : RSeqParameter).updateData c room).2.OwnsThroughout ops ↔
      0 < rseqLen.toNat ∧ rseqLen.toNat ≤ room ∧ Readable c.mem ptr rseqLen.toNat ∧
        ∀ op ∈ ops, Keeps rseqLen op := by
  rcases Nat.lt_or_ge room rseqLen.toNat with hroom | hroom
  · -- the size of what was not allocated
    rw [updateData_noMemory hc hroom]
    refine iff_of_false (fun hs => ?_) fun hs => absurd hs.2.1 (by omega)
    have h0 : rseqLen.toNat = 0 := hs.owns.size.mpr rfl
    omega
  · obtain ⟨block, hlen, hp⟩ := updateData_allocated
      (p := { ptr := ptr, rseqLen := rseqLen }) hc hroom
    rw [hp]
    by_cases hr : Readable c.mem ptr rseqLen.toNat
    · rw [if_pos hr]
      rcases Nat.eq_zero_or_pos rseqLen.toNat with h0 | hpos
      · -- an allocation of no bytes
        refine iff_of_false (fun hs => ?_) fun hs => absurd hs.1 (by omega)
        cases hs.owns.size.mp h0
      · have hfilled : ({ ptr := ptr, rseqLen := rseqLen, size := rseqLen.toNat, data := some 0
                          heap := { blocks := [block] } } : RSeqParameter).Filled :=
          ⟨rfl, ⟨block, rfl, hlen⟩, rfl, hpos⟩
        exact hfilled.ownsThroughout_iff.trans
          ⟨fun hs => ⟨hpos, hroom, hr, hs⟩, fun hs => hs.2.2.2⟩
    · -- what was freed is still referred to
      rw [if_neg hr]
      refine iff_of_false (fun hs => ?_) fun hs => hr hs.2.2.1
      exact (hs.owns.live 0 rfl).2 (List.mem_singleton.mpr rfl)

theorem ownsThroughout_start (ptr : Word) (rseqLen : UInt32) :
    ({ ptr := ptr, rseqLen := rseqLen } : RSeqParameter).OwnsThroughout ops ↔
      Fits ptr rseqLen ops := by
  induction ops generalizing ptr rseqLen with
  | nil =>
    rw [ownsThroughout_nil]
    exact iff_of_true ⟨owns_start ptr rseqLen, fun _ h => absurd h (Nat.not_lt_zero _)⟩ trivial
  | cons op ops ih =>
    rw [ownsThroughout_cons, and_iff_right (owns_start ptr rseqLen)]
    cases op with
    | entry ptr' rseqLen' => exact ih ptr' rseqLen'
    | exit c room =>
      show (({ ptr := ptr, rseqLen := rseqLen } : RSeqParameter).updateData c
        room).2.OwnsThroughout ops ↔ _
      unfold Fits
      rcases Bool.eq_false_or_eq_true c.hasResultValue with hc | hc
      · rw [if_pos hc, ownsThroughout_first hc]
      · rw [if_neg (by rw [hc]; exact Bool.false_ne_true), updateData_failed hc]
        exact ih ptr rseqLen

/-- for all sequences of entries and exits of a new item, and any memory at each of them -/
theorem ownsThroughout_iff_fits (ops : List RSeqOp) :
    ({} : RSeqParameter).OwnsThroughout ops ↔ Fits 0 0 ops :=
  ownsThroughout_start 0 0

/-- two entries around a successful exit: what the first call allocated was freed, and still belongs
to the item -/
theorem ownsThroughout_fails : ¬ ∀ ops, ({} : RSeqParameter).OwnsThroughout ops := by
  intro h
  have hrun := (h [.entry 8 32, .exit ⟨fun _ => some 0, 0, false, true⟩ 64, .entry 8 32]).1 _
    (List.prefix_refl _)
  exact (hrun.live 0 rfl).2 (by decide)

end RSeqParameter

end Clues
