import Clues.Items.MsgStructs

/-!
# The lengths that recvmmsg() reports

`recvmmsg()` fills a vector of messages and returns how many of them it received.

* `RecvMultiMessageHeader`   the item for an element of the vector, as far as its length and its
                             control data go; the updates of the other sub-items do not fail;
* `RecvMmsg`                 a call with its memory at entry and at exit;
* `RecvMmsg.Fits`            when the lengths of the received messages are told, and no others:
                             `reportsReceived_iff`.
-/

namespace Clues

/-- `RecvMultiMessageHeader` -/
structure RecvMultiMessageHeader where
  inHeader : Msghdr
  outHeader : Option Msghdr := none
  msgControllen : Word := 0
  msgControl : BufferPointer true := {}
  /-- `m_bytes_received`, if `m_have_bytes_received` is set -/
  bytesReceived : Option UInt32 := none

namespace RecvMultiMessageHeader

/-- `fillSubItems()`, for the sub-items of the control data -/
def fillControl (c : ItemContext) (h : RecvMultiMessageHeader) : RecvMultiMessageHeader :=
  { h with
    msgControllen := h.inHeader.controllen
    msgControl := { h.msgControl with ptr := h.inHeader.control }.processData c
      h.inHeader.controllen }

def setBytesReceived (received : UInt32) (h : RecvMultiMessageHeader) : RecvMultiMessageHeader :=
  { h with bytesReceived := some received }

/-- `setOutHeader()` with `updateSubItems()`: what is done before an exception stays -/
def setOutHeader (c : ItemContext) (hdr : Msghdr) (h : RecvMultiMessageHeader) :
    Except Exc Unit × RecvMultiMessageHeader :=
  let h := { h with
    outHeader := some hdr
    msgControllen := hdr.controllen
    msgControl := h.msgControl.updateData c hdr.controllen }
  match h.msgControl.fetchRemainingData c hdr.controllen with
  | .ok control => (.ok (), { h with msgControl := control })
  | .error e => (.error e, h)

end RecvMultiMessageHeader

/-- the loop in `processData()`: a header is in the vector before its sub-items are filled, of which
those before the control data may fail -/
def enterHeaders (c : ItemContext) (others : Msghdr → Except Exc Unit) :
    List Mmsghdr → Except Exc Unit × List RecvMultiMessageHeader
  | [] => (.ok (), [])
  | raw :: rest =>
    let header : RecvMultiMessageHeader := { inHeader := raw.hdr }
    match others raw.hdr with
    | .error e => (.error e, [header])
    | .ok () =>
      let r := enterHeaders c others rest
      (r.1, header.fillControl c :: r.2)

/-- `MessageHeaderVectorBase::processData()` of `RecvMessageHeaderVector`: `m_headers` -/
def processRecvVector (alloc : Nat → Bool) (c : ItemContext) (others : Msghdr → Except Exc Unit)
    (ptr : UInt64) (numMsgs : Word) : Except Exc Unit × List RecvMultiMessageHeader :=
  match fetchRawHeaders alloc c ptr numMsgs with
  | .error e => (.error e, [])
  | .ok none => (.ok (), [])
  | .ok (some raw) => enterHeaders c others raw

/-- the loop in `updateData()`: `m_headers[i]` for each of the raw headers -/
def updateHeaders (c : ItemContext) :
    List Mmsghdr → List RecvMultiMessageHeader → Except Exc Unit × List RecvMultiMessageHeader
  | [], headers => (.ok (), headers)
  | _ :: _, [] => (.error (.undefined .bounds), [])
  | raw :: rest, header :: headers =>
    let r := (header.setBytesReceived raw.len).setOutHeader c raw.hdr
    match r.1 with
    | .error e => (.error e, r.2 :: headers)
    | .ok () =>
      let r' := updateHeaders c rest headers
      (r'.1, r.2 :: r'.2)

/-- `RecvMessageHeaderVector::updateData()` -/
def updateRecvVector (alloc : Nat → Bool) (c : ItemContext) (ptr : UInt64) (numMsgs : Word)
    (headers : List RecvMultiMessageHeader) : Except Exc Unit × List RecvMultiMessageHeader :=
  match fetchRawHeaders alloc c ptr numMsgs with
  | .error e => (.error e, headers)
  | .ok none => (.ok (), headers)
  | .ok (some raw) => updateHeaders c raw headers

/-! ## a call -/

/-- a call of `recvmmsg()`; `result` is the number of messages, unless the call failed -/
structure RecvMmsg where
  alloc : Nat → Bool
  is32BitEmulationABI : Bool
  ptr : UInt64
  vlen : Word
  entryMem : Memory
  exitMem : Memory
  entryPrefetch : Nat
  exitPrefetch : Nat
  others : Msghdr → Except Exc Unit
  result : Option Nat
  result_le : ∀ n ∈ result, n ≤ vlen.toUInt32.toNat

namespace RecvMmsg

def entryContext (r : RecvMmsg) : ItemContext where
  mem := r.entryMem
  maxBufferPrefetch := r.entryPrefetch
  is32BitEmulationABI := r.is32BitEmulationABI
  hasResultValue := false

def exitContext (r : RecvMmsg) : ItemContext where
  mem := r.exitMem
  maxBufferPrefetch := r.exitPrefetch
  is32BitEmulationABI := r.is32BitEmulationABI
  hasResultValue := r.result.isSome

/-- the headers that the entry left behind -/
def entered (r : RecvMmsg) : List RecvMultiMessageHeader :=
  (processRecvVector r.alloc r.entryContext r.others r.ptr r.vlen).2

/-- the outcome of the exit, and the headers after it -/
def exited (r : RecvMmsg) : Except Exc Unit × List RecvMultiMessageHeader :=
  updateRecvVector r.alloc r.exitContext r.ptr r.vlen r.entered

/-- the number of messages that were received -/
def received (r : RecvMmsg) : Nat := r.result.getD 0

/-- where the kernel writes `msg_len` of a message -/
def msgLenAddress (r : RecvMmsg) (i : Nat) : UInt64 :=
  let offset := if r.is32BitEmulationABI then msghdr32Size else Msghdr.size
  r.ptr + UInt64.ofNat (mmsghdrSize r.is32BitEmulationABI * i + offset)

/-- the `msg_len` that the kernel wrote -/
def msgLen (r : RecvMmsg) (i : Nat) : Option UInt32 :=
  (bytesAt r.exitMem (r.msgLenAddress i) 4).map fun bs => UInt32.ofNat (Lib.LittleEndian.le bs)

/-- the lengths of the received messages are told and no others, and nothing undefined happens -/
def ReportsReceived (r : RecvMmsg) : Prop :=
  (∀ why, r.exited.1 ≠ .error (.undefined why)) ∧
  (∀ i < r.received, ∃ h len, r.exited.2[i]? = some h ∧ r.msgLen i = some len ∧
    h.bytesReceived = some len) ∧
  ∀ i h, r.received ≤ i → r.exited.2[i]? = some h → h.bytesReceived = none

end RecvMmsg

/-- all control data of a header can be read: what is prefetched, and the rest -/
def ControlReadable (c : ItemContext) (ptr : UInt64) (len : Nat) : Prop :=
  let first := if BufferPointer.Readable c.mem ptr (min c.maxBufferPrefetch len) then
    min c.maxBufferPrefetch len else 0
  first = len ∨ BufferPointer.Readable c.mem (ptr + UInt64.ofNat first) (len - first)

/-- the sub-items of a header can be updated; nothing is read if the call failed -/
def Completes (c : ItemContext) (h : RecvMultiMessageHeader) (raw : Mmsghdr) : Prop :=
  c.hasResultValue = true → ControlReadable c h.msgControl.ptr raw.hdr.controllen.toNat

/-- `n` headers are updated: all of them, or the sub-items of the last one cannot be updated -/
def StopsAfter (c : ItemContext) (raw : List Mmsghdr) (headers : List RecvMultiMessageHeader)
    (n : Nat) : Prop :=
  n ≤ headers.length ∧
  (∀ i h r, i + 1 < n → headers[i]? = some h → raw[i]? = some r → Completes c h r) ∧
  (n = raw.length ∨
    ∃ h r, 0 < n ∧ headers[n - 1]? = some h ∧ raw[n - 1]? = some r ∧ ¬ Completes c h r)

/-- the array can be fetched at exit and the update stops after the received messages; or it cannot
and none were received -/
def RecvMmsg.Fits (r : RecvMmsg) : Prop :=
  if r.alloc (r.vlen.toUInt32.toNat * mmsghdrSize r.is32BitEmulationABI) then
    match rawHeadersAt r.exitContext r.ptr r.vlen with
    | some raw => StopsAfter r.exitContext raw r.entered r.received
    | none => r.received = 0
  else r.received = 0

section
variable {c : ItemContext} {h : RecvMultiMessageHeader} {hdr : Msghdr}

/-! ## one header -/

/-- a header that was not updated yet -/
def Fresh (h : RecvMultiMessageHeader) : Prop :=
  h.bytesReceived = none ∧ h.msgControl.data = []

theorem fresh_fillControl (hf : h.bytesReceived = none) : Fresh (h.fillControl c) :=
  ⟨hf, rfl⟩

theorem bytesReceived_setOutHeader (c : ItemContext) (hdr : Msghdr) (h : RecvMultiMessageHeader) :
    (h.setOutHeader c hdr).2.bytesReceived = h.bytesReceived := by
  unfold RecvMultiMessageHeader.setOutHeader
  dsimp only
  split <;> rfl

/-- the rest of the control data can be fetched, or the memory cannot be read -/
theorem fetchRemaining_filled (p : BufferPointer true) (len : Word)
    (hres : c.hasResultValue = true) :
    ((∃ control, (p.fillBuffer c len).fetchRemainingData c len = .ok control) ∧
        ControlReadable c p.ptr len.toNat) ∨
      ((p.fillBuffer c len).fetchRemainingData c len = .error (.api Errno.ioError) ∧
        ¬ ControlReadable c p.ptr len.toNat) := by
  have havail : ∀ q : BufferPointer true, q.availableBytes c len = len.toNat := by
    intro q
    unfold BufferPointer.availableBytes
    rw [hres]
    rfl
  have hlength : (p.fillBuffer c len).data.length = _ := BufferPointer.length_fillBuffer
  rw [havail] at hlength
  unfold BufferPointer.fetchRemainingData ControlReadable
  dsimp only
  rw [havail, BufferPointer.fillBuffer_ptr, ← hlength]
  have hle : (p.fillBuffer c len).data.length ≤ len.toNat := by
    rw [hlength]
    split
    · exact min_le_right _ _
    · exact Nat.zero_le _
  rw [if_neg (Nat.not_lt.mpr hle)]
  by_cases hall : (p.fillBuffer c len).data.length = len.toNat
  · left
    rw [if_pos (by omega)]
    exact ⟨⟨_, rfl⟩, Or.inl hall⟩
  · rw [if_neg (by omega)]
    cases hb : readBlob c.mem (p.ptr + UInt64.ofNat (p.fillBuffer c len).data.length)
        (len.toNat - (p.fillBuffer c len).data.length) with
    | ok rest =>
      left
      exact ⟨⟨_, rfl⟩, Or.inr (BufferPointer.readBlob_ok_iff.mp ⟨rest, hb⟩)⟩
    | error e =>
      right
      rw [readBlob_error hb]
      refine ⟨rfl, ?_⟩
      intro hr
      rcases hr with hr | hr
      · exact hall hr
      · obtain ⟨bs, hbs⟩ := BufferPointer.readBlob_ok_iff.mpr hr
        rw [hb] at hbs
        cases hbs

/-- the update of the sub-items ends, or the rest of the control data cannot be read -/
theorem setOutHeader_cases (raw : Mmsghdr) (hf : h.msgControl.data = []) :
    ((h.setOutHeader c raw.hdr).1 = .ok () ∧ Completes c h raw) ∨
      ((h.setOutHeader c raw.hdr).1 = .error (.api Errno.ioError) ∧ ¬ Completes c h raw) := by
  unfold RecvMultiMessageHeader.setOutHeader Completes
  dsimp only
  cases hres : c.hasResultValue with
  | false =>
    left
    have hsame : h.msgControl.updateData c raw.hdr.controllen = h.msgControl := by
      unfold BufferPointer.updateData
      rw [hres]
      rfl
    have hnone : h.msgControl.fetchRemainingData c raw.hdr.controllen = .ok h.msgControl := by
      unfold BufferPointer.fetchRemainingData BufferPointer.availableBytes
      rw [hf, hres]
      rfl
    rw [hsame, hnone]
    refine ⟨rfl, ?_⟩
    intro htrue
    cases htrue
  | true =>
    have hfill : h.msgControl.updateData c raw.hdr.controllen
        = h.msgControl.fillBuffer c raw.hdr.controllen := by
      unfold BufferPointer.updateData
      rw [hres]
      rfl
    rw [hfill]
    rcases fetchRemaining_filled h.msgControl raw.hdr.controllen hres with ⟨⟨ctl, hok⟩, hr⟩ | ⟨he, hr⟩
    · left
      rw [hok]
      exact ⟨rfl, fun _ => hr⟩
    · right
      rw [he]
      exact ⟨rfl, fun hno => hr (hno rfl)⟩

/-! ## all headers -/

theorem fresh_enterHeaders {others : Msghdr → Except Exc Unit} (raw : List Mmsghdr) :
    ∀ h ∈ (enterHeaders c others raw).2, Fresh h := by
  induction raw with
  | nil =>
    intro h hh
    cases hh
  | cons r raw ih =>
    intro h hh
    rw [enterHeaders] at hh
    dsimp only at hh
    cases ho : others r.hdr with
    | error e =>
      rw [ho] at hh
      obtain rfl := List.mem_singleton.mp hh
      exact ⟨rfl, rfl⟩
    | ok u =>
      rw [ho] at hh
      rcases List.mem_cons.mp hh with rfl | hh
      · exact fresh_fillControl rfl
      · exact ih h hh

theorem RecvMmsg.fresh_entered (r : RecvMmsg) : ∀ h ∈ r.entered, Fresh h := by
  unfold RecvMmsg.entered processRecvVector
  cases fetchRawHeaders r.alloc r.entryContext r.ptr r.vlen with
  | error e =>
    intro h hh
    cases hh
  | ok raw =>
    cases raw with
    | none =>
      intro h hh
      cases hh
    | some raw => exact fresh_enterHeaders raw

/-- what `ReportsReceived` says of the loop: `n` headers have their lengths, the others none -/
def Updates (raw : List Mmsghdr) (n : Nat) (r : Except Exc Unit × List RecvMultiMessageHeader) :
    Prop :=
  (∀ why, r.1 ≠ .error (.undefined why)) ∧
  (∀ i < n, ∃ h x, r.2[i]? = some h ∧ raw[i]? = some x ∧ h.bytesReceived = some x.len) ∧
  ∀ i h, n ≤ i → r.2[i]? = some h → h.bytesReceived = none

theorem not_updates_of_unset {raw : List Mmsghdr} {n : Nat} {x : Except Exc Unit}
    {headers : List RecvMultiMessageHeader} (hfresh : ∀ h ∈ headers, Fresh h) (hn : 0 < n) :
    ¬ Updates raw n (x, headers) := by
  intro hup
  obtain ⟨h, y, hh, -, hlen⟩ := hup.2.1 0 hn
  have hmem : h ∈ headers := List.mem_of_getElem? hh
  rw [(hfresh h hmem).1] at hlen
  cases hlen

theorem updates_of_unset {raw : List Mmsghdr} {x : Except Exc Unit}
    {headers : List RecvMultiMessageHeader} (hfresh : ∀ h ∈ headers, Fresh h)
    (hx : ∀ why, x ≠ .error (.undefined why)) : Updates raw 0 (x, headers) := by
  refine ⟨hx, ?_, ?_⟩
  · intro i hi
    exact absurd hi (Nat.not_lt_zero i)
  · intro i h _ hh
    exact (hfresh h (List.mem_of_getElem? hh)).1

/-- a header was set, and the others are looked at from there -/
theorem updates_cons {raw : List Mmsghdr} {x : Mmsghdr} {n : Nat} {r : Except Exc Unit}
    {headers : List RecvMultiMessageHeader} (hh : h.bytesReceived = some x.len) :
    Updates (x :: raw) n (r, h :: headers) ↔ ∃ k, n = k + 1 ∧ Updates raw k (r, headers) := by
  constructor
  · intro hup
    obtain ⟨hdef, hset, hunset⟩ := hup
    cases n with
    | zero =>
      have hnone := hunset 0 h (Nat.le_refl 0) rfl
      rw [hh] at hnone
      cases hnone
    | succ k =>
      refine ⟨k, rfl, hdef, ?_, ?_⟩
      · intro i hi
        exact hset (i + 1) (Nat.succ_lt_succ hi)
      · intro i h' hi hh'
        exact hunset (i + 1) h' (Nat.succ_le_succ hi) hh'
  · intro hup
    obtain ⟨k, rfl, hdef, hset, hunset⟩ := hup
    refine ⟨hdef, ?_, ?_⟩
    · intro i hi
      cases i with
      | zero => exact ⟨h, x, rfl, rfl, hh⟩
      | succ i => exact hset i (Nat.lt_of_succ_lt_succ hi)
    · intro i h' hi hh'
      cases i with
      | zero => exact absurd hi (Nat.not_succ_le_zero k)
      | succ i => exact hunset i h' (Nat.le_of_succ_le_succ hi) hh'

theorem stopsAfter_nil {headers : List RecvMultiMessageHeader} : StopsAfter c [] headers 0 :=
  ⟨Nat.zero_le _, fun _ _ _ hi => absurd hi (Nat.not_lt_zero _), Or.inl rfl⟩

theorem not_stopsAfter_zero {raw : List Mmsghdr} {x : Mmsghdr}
    {headers : List RecvMultiMessageHeader} : ¬ StopsAfter c (x :: raw) headers 0 := by
  intro hs
  rcases hs.2.2 with h0 | ⟨_, _, h0, -⟩
  · cases h0
  · exact absurd h0 (Nat.lt_irrefl 0)

/-- where the first header cannot be updated, it is the only one -/
theorem stopsAfter_cons_of_not {raw : List Mmsghdr} {x : Mmsghdr} {k : Nat}
    {headers : List RecvMultiMessageHeader} (hc : ¬ Completes c h x) :
    StopsAfter c (x :: raw) (h :: headers) (k + 1) ↔ k = 0 := by
  constructor
  · intro hs
    by_contra hk
    exact hc (hs.2.1 0 h x (by omega) rfl rfl)
  · intro hk
    subst hk
    refine ⟨Nat.succ_le_succ (Nat.zero_le _), ?_, Or.inr ⟨h, x, Nat.one_pos, rfl, rfl, hc⟩⟩
    intro i h' r hi
    omega

/-- where it can, the rest decides -/
theorem stopsAfter_cons_of {raw : List Mmsghdr} {x : Mmsghdr} {k : Nat}
    {headers : List RecvMultiMessageHeader} (hc : Completes c h x) :
    StopsAfter c (x :: raw) (h :: headers) (k + 1) ↔ StopsAfter c raw headers k := by
  unfold StopsAfter
  constructor
  · intro hs
    obtain ⟨hle, hall, hend⟩ := hs
    refine ⟨Nat.le_of_succ_le_succ hle, ?_, ?_⟩
    · intro i h' r hi
      exact hall (i + 1) h' r (Nat.succ_lt_succ hi)
    · rcases hend with hend | ⟨h', r, -, hh, hr, hno⟩
      · exact Or.inl (Nat.succ.inj hend)
      · cases k with
        | zero =>
          cases hh
          cases hr
          exact absurd hc hno
        | succ k => exact Or.inr ⟨h', r, Nat.succ_pos k, hh, hr, hno⟩
  · intro hs
    obtain ⟨hle, hall, hend⟩ := hs
    refine ⟨Nat.succ_le_succ hle, ?_, ?_⟩
    · intro i h' r hi hh hr
      cases i with
      | zero =>
        cases hh
        cases hr
        exact hc
      | succ i => exact hall i h' r (Nat.lt_of_succ_lt_succ hi) hh hr
    · rcases hend with hend | ⟨h', r, hk, hh, hr, hno⟩
      · exact Or.inl (congrArg Nat.succ hend)
      · obtain ⟨j, rfl⟩ := Nat.exists_eq_succ_of_ne_zero (Nat.pos_iff_ne_zero.mp hk)
        exact Or.inr ⟨h', r, Nat.succ_pos _, hh, hr, hno⟩

theorem updates_iff (raw : List Mmsghdr) (headers : List RecvMultiMessageHeader) (n : Nat)
    (hfresh : ∀ h ∈ headers, Fresh h) :
    n ≤ raw.length →
      (Updates raw n (updateHeaders c raw headers) ↔ StopsAfter c raw headers n) := by
  induction raw generalizing headers n with
  | nil =>
    intro hn
    obtain rfl : n = 0 := Nat.le_zero.mp hn
    apply iff_of_true _ stopsAfter_nil
    apply updates_of_unset hfresh
    intro why hno
    cases hno
  | cons x raw ih =>
    intro hn
    cases headers with
    | nil =>
      apply iff_of_false
      · intro hup
        exact hup.1 .bounds rfl
      · intro hs
        obtain rfl : n = 0 := Nat.le_zero.mp hs.1
        exact not_stopsAfter_zero hs
    | cons h headers =>
      obtain ⟨hh, hrest⟩ := List.forall_mem_cons.mp hfresh
      have hset : (((h.setBytesReceived x.len).setOutHeader c x.hdr).2).bytesReceived
          = some x.len :=
        bytesReceived_setOutHeader c x.hdr _
      have hcases := setOutHeader_cases (c := c) (h := h.setBytesReceived x.len) x hh.2
      have hsame : Completes c (h.setBytesReceived x.len) x ↔ Completes c h x := Iff.rfl
      rw [hsame] at hcases
      rw [updateHeaders]
      dsimp only
      rcases hcases with ⟨hok, hc⟩ | ⟨herr, hc⟩
      · rw [hok]
        dsimp only
        rw [updates_cons hset]
        cases n with
        | zero =>
          apply iff_of_false
          · intro hex
            obtain ⟨k, hk, -⟩ := hex
            cases hk
          · exact not_stopsAfter_zero
        | succ k =>
          rw [stopsAfter_cons_of hc, ← ih headers k hrest (Nat.le_of_succ_le_succ hn)]
          constructor
          · intro hex
            obtain ⟨k', hk, hup⟩ := hex
            cases hk
            exact hup
          · intro hup
            exact ⟨k, rfl, hup⟩
      · rw [herr]
        dsimp only
        rw [updates_cons hset]
        cases n with
        | zero =>
          apply iff_of_false
          · intro hex
            obtain ⟨k, hk, -⟩ := hex
            cases hk
          · exact not_stopsAfter_zero
        | succ k =>
          rw [stopsAfter_cons_of_not hc]
          constructor
          · intro hex
            obtain ⟨k', hk, hup⟩ := hex
            cases hk
            by_contra hk0
            exact not_updates_of_unset hrest (Nat.pos_of_ne_zero hk0) hup
          · intro hk
            refine ⟨k, rfl, ?_⟩
            rw [hk]
            apply updates_of_unset hrest
            intro why hno
            cases hno

end

namespace RecvMmsg

theorem received_le (r : RecvMmsg) : r.received ≤ r.vlen.toUInt32.toNat := by
  have h := r.result_le
  unfold received
  cases hres : r.result with
  | none => exact Nat.zero_le _
  | some n => exact h n hres

/-- no header is updated -/
theorem reportsReceived_of_none {r : RecvMmsg} {x : Except Exc Unit}
    (h : r.exited = (x, r.entered)) (hx : ∀ why, x ≠ .error (.undefined why)) :
    r.ReportsReceived ↔ r.received = 0 := by
  unfold ReportsReceived
  rw [h]
  constructor
  · intro hrep
    by_contra hne
    obtain ⟨hdr, len, hh, -, hlen⟩ := hrep.2.1 0 (Nat.pos_of_ne_zero hne)
    rw [(r.fresh_entered hdr (List.mem_of_getElem? hh)).1] at hlen
    cases hlen
  · intro h0
    rw [h0]
    refine ⟨hx, ?_, ?_⟩
    · intro i hi
      exact absurd hi (Nat.not_lt_zero i)
    · intro i hdr _ hh
      exact (r.fresh_entered hdr (List.mem_of_getElem? hh)).1

theorem reportsReceived_of_some {r : RecvMmsg} {raw : List Mmsghdr}
    (hraw : rawHeadersAt r.exitContext r.ptr r.vlen = some raw)
    (h : r.exited = updateHeaders r.exitContext raw r.entered) :
    r.ReportsReceived ↔ StopsAfter r.exitContext raw r.entered r.received := by
  have hn : r.received ≤ raw.length := by
    rw [rawHeadersAt_length hraw]
    exact r.received_le
  have hlen : ∀ i x, raw[i]? = some x → r.msgLen i = some x.len := by
    intro i x hi
    exact rawHeadersAt_len hraw hi
  rw [← updates_iff raw r.entered r.received r.fresh_entered hn]
  unfold ReportsReceived Updates
  rw [h]
  apply and_congr_right
  intro _
  apply and_congr_left
  intro _
  constructor
  · intro hset i hi
    obtain ⟨hdr, len, hh, hmsg, hrec⟩ := hset i hi
    have hx : raw[i]? = some raw[i] := List.getElem?_eq_getElem (by omega)
    have hsame := hlen i _ hx
    rw [hmsg] at hsame
    cases hsame
    exact ⟨hdr, _, hh, hx, hrec⟩
  · intro hset i hi
    obtain ⟨hdr, x, hh, hx, hrec⟩ := hset i hi
    exact ⟨hdr, x.len, hh, hlen i x hx, hrec⟩

/-- for each vector, memory and outcome: exactly the received messages have their lengths if and
only if the update of the headers stops after them -/
theorem reportsReceived_iff_fits (r : RecvMmsg) : r.ReportsReceived ↔ r.Fits := by
  have hfetch := fetchRawHeaders_eq r.alloc r.exitContext r.ptr r.vlen
  have habi : r.exitContext.is32BitEmulationABI = r.is32BitEmulationABI := rfl
  rw [habi] at hfetch
  unfold Fits
  by_cases ha : r.alloc (r.vlen.toUInt32.toNat * mmsghdrSize r.is32BitEmulationABI) = true
  · rw [if_pos ha] at hfetch
    rw [if_pos ha]
    cases hraw : rawHeadersAt r.exitContext r.ptr r.vlen with
    | none =>
      rw [hraw] at hfetch
      have hexit : r.exited = (.ok (), r.entered) := by
        unfold exited updateRecvVector
        rw [hfetch]
      apply reportsReceived_of_none hexit
      intro why hno
      cases hno
    | some raw =>
      rw [hraw] at hfetch
      apply reportsReceived_of_some hraw
      unfold exited updateRecvVector
      rw [hfetch]
  · rw [if_neg ha] at hfetch
    rw [if_neg ha]
    have hexit : r.exited = (.error (.std .badAlloc), r.entered) := by
      unfold exited updateRecvVector
      rw [hfetch]
    apply reportsReceived_of_none hexit
    intro why hno
    cases hno

/-- a call that fails for a vector of one element -/
def failed : RecvMmsg where
  alloc := fun _ => true
  is32BitEmulationABI := false
  ptr := 4096
  vlen := 1
  entryMem := fun _ => some 0
  exitMem := fun _ => some 0
  entryPrefetch := 128
  exitPrefetch := 128
  others := fun _ => .ok ()
  result := none
  result_le := by
    intro n hn
    cases hn

/-- its header has a length all the same -/
theorem reportsReceived_fails : ¬ ∀ r : RecvMmsg, r.ReportsReceived := by
  intro h
  have hraw : rawHeadersAt failed.exitContext failed.ptr failed.vlen
      = some [⟨⟨0, 0, 0, 0, 0, 0, 0⟩, 0⟩] := by
    decide +kernel
  have hexit : failed.exited = updateHeaders failed.exitContext
      [⟨⟨0, 0, 0, 0, 0, 0, 0⟩, 0⟩] failed.entered := by
    unfold exited updateRecvVector
    rw [fetchRawHeaders_eq, hraw]
    rfl
  have hstops := (reportsReceived_of_some hraw hexit).mp (h failed)
  exact not_stopsAfter_zero hstops

end RecvMmsg

end Clues
