import Clues.Items.MsgStructs

/-!
# Control data that is sent

* `SendMessageHeader`   the item for the header of `sendmsg()` and for the elements of the vector of
                        `sendmmsg()`, as far as its control data goes;
* `SendEntry`           an entry that was processed;
* `ControlFits`         when the control data is complete: `holdsControl_iff`.
-/

namespace Clues

/-- `SendMessageHeader`: the header and the sub-items for the control data -/
structure SendMessageHeader where
  header : Option Msghdr := none
  msgControllen : Word := 0
  msgControl : BufferPointer false := {}

namespace SendMessageHeader

/-- `processSubItemValue()` for the length and for the pointer of the control data -/
def processControl (c : ItemContext) (len ptr : Word) (item : SendMessageHeader) :
    SendMessageHeader :=
  { item with
    msgControllen := len
    msgControl := { item.msgControl with ptr := ptr }.processData c len }

/-- `fillSubItems()`; the sub-items that are filled before the control data may fail -/
def fillSubItems (c : ItemContext) (others : Msghdr → Except Exc Unit) (hdr : Msghdr)
    (item : SendMessageHeader) : Except Exc SendMessageHeader := do
  others hdr
  pure (item.processControl c hdr.controllen hdr.control)

/-- `resetSubItems()` -/
def resetSubItems (c : ItemContext) (item : SendMessageHeader) :
    Except Exc SendMessageHeader := do
  let item := item.processControl c 0 0
  let control ← item.msgControl.fetchRemainingData c item.msgControllen
  pure { item with msgControl := control }

/-- `SendMessageHeader::processData()` -/
def processData (c : ItemContext) (others : Msghdr → Except Exc Unit) (ptr : UInt64)
    (item : SendMessageHeader) : Except Exc SendMessageHeader := do
  let header ← fetchMsgHdr c ptr
  let item := { item with header := header }
  match header with
  | none => item.resetSubItems c
  | some hdr => item.fillSubItems c others hdr

def controlData (item : SendMessageHeader) : List UInt8 := item.msgControl.data

end SendMessageHeader

/-- `SendMultiMessageHeader{m_call, raw.msg_hdr}` and `fillSubItems()`, for each of the headers -/
def fillHeaders (c : ItemContext) (others : Msghdr → Except Exc Unit) :
    List Mmsghdr → Except Exc (List SendMessageHeader)
  | [] => .ok []
  | raw :: rest => do
    let item ← { header := some raw.hdr : SendMessageHeader }.fillSubItems c others raw.hdr
    let items ← fillHeaders c others rest
    pure (item :: items)

/-- `MessageHeaderVectorBase::processData()` of `SendMessageHeaderVector` -/
def processSendVector (alloc : Nat → Bool) (c : ItemContext) (others : Msghdr → Except Exc Unit)
    (ptr : UInt64) (numMsgs : Word) : Except Exc (List SendMessageHeader) := do
  match ← fetchRawHeaders alloc c ptr numMsgs with
  | none => pure []
  | some raw => fillHeaders c others raw

/-- the system calls; the item of `sendmsg()` may have been used before -/
inductive SendCall where
  | sendmsg (item : SendMessageHeader)
  | sendmmsg (numMsgs : Word)

/-- the headers after the entry was processed -/
def SendCall.headers (alloc : Nat → Bool) (c : ItemContext) (others : Msghdr → Except Exc Unit)
    (ptr : UInt64) : SendCall → Except Exc (List SendMessageHeader)
  | .sendmsg item => (item.processData c others ptr).map fun item => [item]
  | .sendmmsg numMsgs => processSendVector alloc c others ptr numMsgs

/-! ## complete control data -/

namespace SendMessageHeader

/-- if the control buffer of the header can be read, all of it is held -/
def HoldsControl (m : Memory) (item : SendMessageHeader) : Prop :=
  ∀ hdr bs, item.header = some hdr → bytesAt m hdr.control hdr.controllen.toNat = some bs →
    item.controlData = bs

/-- there is no control data; or its pointer is not null, the limit is not exceeded and the words
that hold the data can be read -/
def ControlFits (c : ItemContext) (item : SendMessageHeader) : Prop :=
  ∀ hdr, item.header = some hdr → (bytesAt c.mem hdr.control hdr.controllen.toNat).isSome →
    hdr.controllen = 0 ∨ hdr.control ≠ 0 ∧ hdr.controllen.toNat ≤ c.maxBufferPrefetch ∧
      BufferPointer.Readable c.mem hdr.control hdr.controllen.toNat

section
variable {c : ItemContext} {others : Msghdr → Except Exc Unit} {item item' : SendMessageHeader}

/-- the data depends on the length and the pointer, not on what the buffer held before -/
theorem processControl_data (len ptr : Word) :
    (item.processControl c len ptr).controlData
      = if ptr = 0 then []
        else if BufferPointer.Readable c.mem ptr (min c.maxBufferPrefetch len.toNat) then
          (bytesAt c.mem ptr (min c.maxBufferPrefetch len.toNat)).getD []
        else [] := by
  unfold controlData processControl BufferPointer.processData
  by_cases hptr : ptr = 0
  · simp [hptr]
  · have hz : (false || ptr == 0) = false := by simpa using hptr
    simp only [hz, if_neg hptr]
    exact BufferPointer.fillBuffer_data

/-- a header that was processed, and its control data -/
def Filled (c : ItemContext) (item : SendMessageHeader) : Prop :=
  ∀ hdr, item.header = some hdr →
    ∃ before : SendMessageHeader,
      item.controlData = (before.processControl c hdr.controllen hdr.control).controlData

theorem filled_of_fill {hdr : Msghdr} (hh : item.header = some hdr)
    (h : item.fillSubItems c others hdr = .ok item') : item'.Filled c := by
  unfold fillSubItems at h
  cases ho : others hdr with
  | error e =>
    rw [ho] at h
    cases h
  | ok u =>
    rw [ho] at h
    cases h
    intro hdr' hh'
    have hsame : some hdr = some hdr' := hh.symm.trans hh'
    cases hsame
    exact ⟨item, rfl⟩

theorem header_resetSubItems (h : item.resetSubItems c = .ok item') :
    item'.header = item.header := by
  unfold resetSubItems at h
  dsimp only at h
  cases hf : (item.processControl c 0 0).msgControl.fetchRemainingData c
      (item.processControl c 0 0).msgControllen with
  | error e =>
    rw [hf] at h
    cases h
  | ok control =>
    rw [hf] at h
    cases h
    rfl

theorem filled_of_processData {ptr : UInt64} (h : item.processData c others ptr = .ok item') :
    item'.Filled c := by
  unfold processData at h
  cases hf : fetchMsgHdr c ptr with
  | error e =>
    rw [hf] at h
    cases h
  | ok header =>
    rw [hf] at h
    cases header with
    | none =>
      have hnone : item'.header = none := header_resetSubItems h
      intro hdr hh
      rw [hnone] at hh
      cases hh
    | some hdr => exact filled_of_fill rfl h

theorem filled_of_fillHeaders {raw : List Mmsghdr} {items : List SendMessageHeader}
    (h : fillHeaders c others raw = .ok items) : ∀ item ∈ items, item.Filled c := by
  induction raw generalizing items with
  | nil =>
    cases h
    intro item hitem
    cases hitem
  | cons r raw ih =>
    rw [fillHeaders] at h
    cases hi : { header := some r.hdr : SendMessageHeader }.fillSubItems c others r.hdr with
    | error e =>
      rw [hi] at h
      cases h
    | ok first =>
      cases hr : fillHeaders c others raw with
      | error e =>
        rw [hi, hr] at h
        cases h
      | ok rest =>
        rw [hi, hr] at h
        cases h
        intro it hit
        rcases List.mem_cons.mp hit with rfl | hit
        · exact filled_of_fill rfl hi
        · exact ih hr it hit

/-- a part of the data, or nothing, is all of the data -/
theorem fetched_eq_iff {m : Memory} {ptr : UInt64} {len : Word} {limit : Nat} {bs : List UInt8}
    (hb : bytesAt m ptr len.toNat = some bs) :
    (if ptr = 0 then []
      else if BufferPointer.Readable m ptr (min limit len.toNat) then
        (bytesAt m ptr (min limit len.toNat)).getD []
      else []) = bs
      ↔ len = 0 ∨ ptr ≠ 0 ∧ len.toNat ≤ limit ∧ BufferPointer.Readable m ptr len.toNat := by
  have hlen := bytesAt_length hb
  have hzero : len = 0 ↔ len.toNat = 0 := by
    constructor
    · intro h
      rw [h]
      rfl
    · intro h
      exact UInt64.toNat_inj.mp h
  by_cases h0 : len.toNat = 0
  · apply iff_of_true _ (Or.inl (hzero.mpr h0))
    have hnil : bs = [] := List.eq_nil_of_length_eq_zero (hlen.trans h0)
    have hmin : min limit len.toNat = 0 := by omega
    rw [hnil, hmin]
    split
    · rfl
    · split <;> rfl
  · have hne : ([] : List UInt8) ≠ bs := by
      intro h
      rw [← h] at hlen
      exact h0 hlen.symm
    have hor : (len = 0 ∨ ptr ≠ 0 ∧ len.toNat ≤ limit ∧ BufferPointer.Readable m ptr len.toNat)
        ↔ ptr ≠ 0 ∧ len.toNat ≤ limit ∧ BufferPointer.Readable m ptr len.toNat :=
      or_iff_right (fun h => h0 (hzero.mp h))
    rw [hor]
    by_cases hptr : ptr = 0
    · rw [if_pos hptr]
      exact iff_of_false hne (fun h => h.1 hptr)
    · rw [if_neg hptr]
      by_cases hlimit : len.toNat ≤ limit
      · rw [Nat.min_eq_right hlimit, hb]
        by_cases hr : BufferPointer.Readable m ptr len.toNat
        · rw [if_pos hr]
          exact iff_of_true rfl ⟨hptr, hlimit, hr⟩
        · rw [if_neg hr]
          exact iff_of_false hne (fun h => hr h.2.2)
      · apply iff_of_false _ (fun h => hlimit h.2.1)
        rw [Nat.min_eq_left (Nat.le_of_not_le hlimit)]
        split
        · intro h
          cases hp : bytesAt m ptr limit with
          | none =>
            rw [hp] at h
            exact hne h
          | some part =>
            rw [hp] at h
            have hpart := bytesAt_length hp
            have hsame : part = bs := h
            rw [hsame] at hpart
            omega
        · exact hne

/-- all of the buffer is held if and only if the limit allows for it -/
theorem holdsControl_iff (h : item.Filled c) : item.HoldsControl c.mem ↔ item.ControlFits c := by
  unfold HoldsControl ControlFits
  constructor
  · intro hall hdr hh hsome
    obtain ⟨bs, hb⟩ := Option.isSome_iff_exists.mp hsome
    obtain ⟨before, hdata⟩ := h hdr hh
    have hbs := hall hdr bs hh hb
    rw [hdata, processControl_data] at hbs
    exact (fetched_eq_iff hb).mp hbs
  · intro hall hdr bs hh hb
    obtain ⟨before, hdata⟩ := h hdr hh
    rw [hdata, processControl_data]
    exact (fetched_eq_iff hb).mpr (hall hdr hh (by rw [hb]; rfl))

end

end SendMessageHeader

/-- an entry that was processed without an exception -/
structure SendEntry where
  alloc : Nat → Bool
  context : ItemContext
  others : Msghdr → Except Exc Unit
  ptr : UInt64
  call : SendCall
  items : List SendMessageHeader
  processed : call.headers alloc context others ptr = .ok items

namespace SendEntry

theorem filled (e : SendEntry) : ∀ item ∈ e.items, item.Filled e.context := by
  have h := e.processed
  unfold SendCall.headers at h
  cases hc : e.call with
  | sendmsg item =>
    rw [hc] at h
    dsimp only at h
    cases hp : item.processData e.context e.others e.ptr with
    | error err =>
      rw [hp] at h
      cases h
    | ok item' =>
      rw [hp] at h
      have hitems : [item'] = e.items := Except.ok.inj h
      rw [← hitems]
      intro it hit
      obtain rfl := List.mem_singleton.mp hit
      exact SendMessageHeader.filled_of_processData hp
  | sendmmsg numMsgs =>
    rw [hc] at h
    dsimp only at h
    unfold processSendVector at h
    cases hf : fetchRawHeaders e.alloc e.context e.ptr numMsgs with
    | error err =>
      rw [hf] at h
      cases h
    | ok raw =>
      rw [hf] at h
      cases raw with
      | none =>
        have hitems : [] = e.items := Except.ok.inj h
        rw [← hitems]
        intro it hit
        cases hit
      | some raw => exact SendMessageHeader.filled_of_fillHeaders h

/-- each header holds all of its control data -/
def HoldsControl (e : SendEntry) : Prop :=
  ∀ item ∈ e.items, item.HoldsControl e.context.mem

def ControlFits (e : SendEntry) : Prop := ∀ item ∈ e.items, item.ControlFits e.context

/-- for each entry of `sendmsg()` and `sendmmsg()`, each limit and each earlier state: the control
data is complete if and only if it is not longer than the limit and can be read in words -/
theorem holdsControl_iff_fits (e : SendEntry) : e.HoldsControl ↔ e.ControlFits := by
  apply forall₂_congr
  intro item hitem
  exact SendMessageHeader.holdsControl_iff (e.filled item hitem)

/-- a header at address 4096 with 136 bytes of control data, which are more than the default limit of
128 bytes -/
def rightsContext : ItemContext where
  mem := fun a => if a = 4096 + 33 then some 32 else if a = 4096 + 40 then some 136
    else if a < 8192 then some 0 else some 1
  maxBufferPrefetch := 128
  is32BitEmulationABI := false
  hasResultValue := false

def rightsHdr : Msghdr where
  name := 0
  namelen := 0
  iov := 0
  iovlen := 0
  control := 8192
  controllen := 136
  flags := 0

theorem fetchMsgHdr_rights : fetchMsgHdr rightsContext 4096 = .ok (some rightsHdr) := by
  decide +kernel

/-- only the first 128 bytes are held -/
theorem holdsControl_fails : ¬ ∀ e : SendEntry, e.HoldsControl := by
  intro h
  have hproc : (SendCall.sendmsg {}).headers (fun _ => true) rightsContext (fun _ => .ok ()) 4096
      = .ok [{ header := some rightsHdr : SendMessageHeader }.processControl rightsContext 136
        8192] := by
    unfold SendCall.headers SendMessageHeader.processData
    rw [fetchMsgHdr_rights]
    rfl
  have hbytes : bytesAt rightsContext.mem 8192 136 = some (List.replicate 136 1) := by
    decide +kernel
  have hall := h ⟨_, _, _, _, _, _, hproc⟩ _ List.mem_cons_self rightsHdr
    (List.replicate 136 1) rfl hbytes
  rw [SendMessageHeader.processControl_data] at hall
  have hlen := congrArg List.length hall
  revert hlen
  decide +kernel

end SendEntry

end Clues
