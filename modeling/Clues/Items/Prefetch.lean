import Clues.Items.BufferPointer
import Clues.Tracee.Destinations

/-!
# The data of a buffer over a call

* `BufferPointer.completeData`   `fetchRemainingData()`, with the buffer if it throws;
* `BufferUser`     the items that are a `BufferPointer`, with the item that holds their size;
* `BufferCall`     what such an item sees at the two stops of a call;
* `Prefetched`     the data are the start of the buffer, or there are none;
* `Completes`      the rest is fetched, or an exception leaves the data as they are.
-/

namespace Clues

namespace BufferPointer

section
variable {isOut : Bool}

/-- the remaining bytes are written behind the data, which are shortened again if that fails -/
def completeData (c : ItemContext) (sizePar : Word) (p : BufferPointer isOut) :
    BufferPointer isOut × Except Exc Unit :=
  let available := p.availableBytes c sizePar
  let oldSize := p.data.length
  if available < oldSize then (p, .error (.undefined .bounds))
  else
    let toFetch := available - oldSize
    if toFetch = 0 then (p, .ok ())
    else
      let added := List.replicate toFetch 0
      match fillDataInto c.mem fillObject (toFetch + 1) (p.ptr + UInt64.ofNat oldSize)
          (.ok { rest := added, left := toFetch }) with
      | (.ok s, .ok ()) => ({ p with data := p.data ++ (s.front ++ s.rest) }, .ok ())
      | (.ok s, .error e) =>
        ({ p with data := (p.data ++ (s.front ++ s.rest)).take oldSize }, .error e)
      | (.error e, _) => (p, .error e)

end

end BufferPointer

/-- the items for a buffer and its size -/
inductive BufferUser where
  | write | read | getRandom | recv | send | getAuxVector
  /-- `m_msg_control` of a `SendMessageHeader` -/
  | sentControl
  /-- `m_msg_control` of a `RecvMessageHeader` -/
  | receivedControl
  deriving DecidableEq, Repr

def BufferUser.isOut : BufferUser → Bool
  | .write | .send | .sentControl => false
  | .read | .getRandom | .recv | .getAuxVector | .receivedControl => true

/-- the two stops of a system call -/
inductive CallStop where
  | entry | exit

structure BufferCall where
  ptr : Word
  entryMem : Memory
  exitMem : Memory
  /-- `maxBufferPrefetch()` on entry and on exit -/
  entryPrefetch : Nat
  exitPrefetch : Nat
  is32BitEmulationABI : Bool
  /-- the value of the size parameter, or `msg_controllen` on entry -/
  count : Word
  /-- `msg_controllen` on exit -/
  controllen : Word
  /-- what an earlier call has left in the return item -/
  former : Word
  /-- the return value; `none`: the call fails -/
  result : Option Word

namespace BufferCall

/-- what the item looks at in a stop: on entry there is no result yet -/
def context (call : BufferCall) : CallStop → ItemContext
  | .entry =>
    { mem := call.entryMem
      maxBufferPrefetch := call.entryPrefetch
      is32BitEmulationABI := call.is32BitEmulationABI
      hasResultValue := false }
  | .exit =>
    { mem := call.exitMem
      maxBufferPrefetch := call.exitPrefetch
      is32BitEmulationABI := call.is32BitEmulationABI
      hasResultValue := call.result.isSome }

/-- the value of `m_size_par` in a stop -/
def sizePar (call : BufferCall) (user : BufferUser) : CallStop → Word
  | .entry =>
    match user with
    | .read | .recv => call.former
    | _ => call.count
  | .exit =>
    match user with
    | .read | .recv => call.result.getD 0
    | .receivedControl => call.controllen
    | _ => call.count

/-- `availableBytes()` in a stop -/
def available (call : BufferCall) (user : BufferUser) (stop : CallStop) : Nat :=
  if !user.isOut || (call.context stop).hasResultValue then (call.sizePar user stop).toNat else 0

variable (call : BufferCall) (user : BufferUser)

/-- `fill()`: the value and `processData()` -/
def entered (p : BufferPointer user.isOut) : BufferPointer user.isOut :=
  { p with ptr := call.ptr }.processData (call.context .entry) (call.sizePar user .entry)

def exited (p : BufferPointer user.isOut) : BufferPointer user.isOut :=
  p.updateData (call.context .exit) (call.sizePar user .exit)

/-- `fetchRemainingData()` in a stop -/
def completed (stop : CallStop) (p : BufferPointer user.isOut) :
    BufferPointer user.isOut × Except Exc Unit :=
  p.completeData (call.context stop) (call.sizePar user stop)

/-- how much of the buffer is prefetched -/
def prefetch (stop : CallStop) : Nat :=
  min (call.context stop).maxBufferPrefetch (call.available user stop)

/-- so much of the start of the buffer; nothing if its words cannot be read, or if there is no buffer
on entry -/
def Prefetched (stop : CallStop) (p : BufferPointer user.isOut) : Prop :=
  bytesAt (call.context stop).mem call.ptr (call.prefetch user stop) = some p.data ∨
    p.data = [] ∧ (stop = .entry ∧ call.ptr = 0 ∨
      ¬ BufferPointer.Readable (call.context stop).mem call.ptr (call.prefetch user stop))

/-- there are no more data than are available, and fetching the remaining ones extends the data to
the whole buffer, or throws and leaves them as they are if a word of these cannot be read -/
structure Completes (stop : CallStop) (p : BufferPointer user.isOut) : Prop where
  le : p.data.length ≤ call.available user stop
  complete : (∃ rest, call.completed user stop p = ({ p with data := p.data ++ rest }, .ok ()) ∧
      (p.data ++ rest).length = call.available user stop ∧
      (bytesAt (call.context stop).mem call.ptr p.data.length = some p.data →
        bytesAt (call.context stop).mem call.ptr (call.available user stop)
          = some (p.data ++ rest))) ∨
    call.completed user stop p = (p, .error (.api Errno.ioError)) ∧
      ¬ BufferPointer.Readable (call.context stop).mem
        (call.ptr + UInt64.ofNat p.data.length) (call.available user stop - p.data.length)

end BufferCall

/-! ## the remaining data -/

namespace BufferPointer

section
variable {isOut : Bool} {c : ItemContext} {sizePar : Word} {p : BufferPointer isOut}

/-- the rest is read, or nothing changes -/
theorem completeData_cases (hle : p.data.length ≤ p.availableBytes c sizePar) :
    (∃ rest, p.completeData c sizePar = ({ p with data := p.data ++ rest }, .ok ()) ∧
      bytesAt c.mem (p.ptr + UInt64.ofNat p.data.length)
        (p.availableBytes c sizePar - p.data.length) = some rest) ∨
    p.completeData c sizePar = (p, .error (.api Errno.ioError)) ∧
      ¬ Readable c.mem (p.ptr + UInt64.ofNat p.data.length)
        (p.availableBytes c sizePar - p.data.length) := by
  unfold completeData
  generalize hn : p.availableBytes c sizePar - p.data.length = n
  dsimp only
  rw [if_neg (Nat.not_lt.mpr hle)]
  by_cases h0 : n = 0
  · left
    subst h0
    refine ⟨[], ?_, rfl⟩
    rw [if_pos hn, List.append_nil]
  · rw [hn, if_neg h0]
    generalize p.ptr + UInt64.ofNat p.data.length = a
    have hroom : n ≤ (List.replicate n (0 : UInt8)).length := by rw [List.length_replicate]
    have hok : ∀ s, fillDataInto c.mem fillObject (n + 1) a
        (.ok { rest := List.replicate n 0, left := n }) = (.ok s, .ok ()) ↔
          Readable c.mem a n ∧
            ∃ bs, bytesAt c.mem a n = some bs ∧ s = ⟨[] ++ bs, (List.replicate n 0).drop n, 0⟩ :=
      fun s => fillDataInto_ok_iff (n + 1) (Nat.lt_succ_self n) hroom
    obtain ⟨s, r, hd, rfl | rfl⟩ := fillDataInto_room (m := c.mem) (a := a) (n + 1)
      (s := { rest := List.replicate n 0, left := n }) (Nat.lt_succ_self n) hroom
    · left
      obtain ⟨-, bs, hbs, rfl⟩ := (hok s).mp hd
      refine ⟨bs, ?_, hbs⟩
      rw [hd]
      simp
    · right
      refine ⟨by rw [hd]; simp, fun hr => ?_⟩
      obtain ⟨bs, hbs⟩ := readBlob_ok_iff.mpr hr
      have hdone := (hok _).mpr ⟨hr, bs, readBlob_bytes hbs, rfl⟩
      rw [hd] at hdone
      cases hdone

/-- the result is that of the function without the buffer after an exception -/
theorem fetchRemainingData_eq : p.fetchRemainingData c sizePar =
    match p.completeData c sizePar with
    | (q, .ok ()) => .ok q
    | (_, .error e) => .error e := by
  unfold fetchRemainingData completeData
  generalize p.availableBytes c sizePar = available
  dsimp only
  split_ifs with hlt h0
  · rfl
  · rfl
  generalize available - p.data.length = n
  generalize p.ptr + UInt64.ofNat p.data.length = a
  have hroom : n ≤ (List.replicate n (0 : UInt8)).length := by rw [List.length_replicate]
  have hok : ∀ s, fillDataInto c.mem fillObject (n + 1) a
      (.ok { rest := List.replicate n 0, left := n }) = (.ok s, .ok ()) ↔
        Readable c.mem a n ∧
          ∃ bs, bytesAt c.mem a n = some bs ∧ s = ⟨[] ++ bs, (List.replicate n 0).drop n, 0⟩ :=
    fun s => fillDataInto_ok_iff (n + 1) (Nat.lt_succ_self n) hroom
  cases hb : readBlob c.mem a n with
  | ok bs =>
    have hd := (hok _).mpr ⟨readBlob_ok_iff.mp ⟨bs, hb⟩, bs, readBlob_bytes hb, rfl⟩
    rw [hd]
    simp
  | error e =>
    obtain ⟨s, r, hd, rfl | rfl⟩ := fillDataInto_room (m := c.mem) (a := a) (n + 1)
      (s := { rest := List.replicate n 0, left := n }) (Nat.lt_succ_self n) hroom
    · obtain ⟨bs, hbs⟩ := readBlob_ok_iff.mpr ((hok s).mp hd).1
      change readBlob c.mem a n = .ok bs at hbs
      rw [hb] at hbs
      cases hbs
    · rw [readBlob_error hb, hd]

/-- the data on entry or after a success -/
theorem data_fillBuffer (c : ItemContext) (sizePar : Word) (p : BufferPointer isOut) :
    bytesAt c.mem p.ptr (min c.maxBufferPrefetch (p.availableBytes c sizePar))
      = some (p.fillBuffer c sizePar).data ∨
    (p.fillBuffer c sizePar).data = [] ∧
      ¬ Readable c.mem p.ptr (min c.maxBufferPrefetch (p.availableBytes c sizePar)) := by
  rw [fillBuffer_data]
  split
  · rename_i hr
    left
    obtain ⟨bs, hbs⟩ := readBlob_ok_iff.mpr hr
    rw [readBlob_bytes hbs, Option.getD_some]
  · rename_i hr
    exact Or.inr ⟨rfl, hr⟩

end

end BufferPointer

/-! ## the stops -/

namespace BufferCall

section
variable {call : BufferCall} {user : BufferUser} {stop : CallStop} {p : BufferPointer user.isOut}

theorem availableBytes_eq : p.availableBytes (call.context stop) (call.sizePar user stop)
    = call.available user stop := rfl

theorem Prefetched.length_le (h : call.Prefetched user stop p) :
    p.data.length ≤ call.available user stop := by
  rcases h with h | ⟨h, -⟩
  · rw [bytesAt_length h]
    exact Nat.min_le_right _ _
  · rw [h]
    exact Nat.zero_le _

theorem completes_of_le (hptr : p.ptr = call.ptr) (hle : p.data.length ≤ call.available user stop) :
    call.Completes user stop p := by
  refine ⟨hle, ?_⟩
  rcases BufferPointer.completeData_cases hle with ⟨rest, hc, hrest⟩ | ⟨hc, hno⟩
  · left
    rw [availableBytes_eq, hptr] at hrest
    refine ⟨rest, hc, ?_, fun hdata => ?_⟩
    · rw [List.length_append, bytesAt_length hrest]
      omega
    · obtain ⟨n, hn⟩ := Nat.exists_eq_add_of_le hle
      rw [hn, Nat.add_sub_cancel_left] at hrest
      rw [hn, bytesAt_add, hdata, Option.bind_some, hrest]
      rfl
  · rw [availableBytes_eq, hptr] at hno
    exact Or.inr ⟨hc, hno⟩

/-- nothing is available on entry for a buffer that the call fills -/
theorem available_entry (hout : user.isOut = true) : call.available user .entry = 0 := by
  unfold available
  rw [hout]
  rfl

theorem entered_spec (call : BufferCall) (p : BufferPointer user.isOut) :
    (call.entered user p).ptr = call.ptr ∧
      call.Prefetched user .entry (call.entered user p) := by
  unfold entered BufferPointer.processData
  split
  · rename_i hskip
    refine ⟨rfl, ?_⟩
    rcases Bool.or_eq_true_iff.mp hskip with hout | hnull
    · -- no bytes are asked for
      left
      unfold prefetch
      rw [available_entry hout, Nat.min_zero]
      rfl
    · exact Or.inr ⟨rfl, Or.inl ⟨rfl, eq_of_beq hnull⟩⟩
  · refine ⟨BufferPointer.fillBuffer_ptr, ?_⟩
    exact (BufferPointer.data_fillBuffer (call.context .entry) (call.sizePar user .entry)
      { p with ptr := call.ptr }).imp_right (And.imp_right Or.inr)

/-- completing the data neither moves the buffer nor takes more than is available -/
theorem completed_spec (hptr : p.ptr = call.ptr) (hle : p.data.length ≤ call.available user stop) :
    (call.completed user stop p).1.ptr = call.ptr ∧
      (call.completed user stop p).1.data.length ≤ call.available user stop := by
  obtain ⟨rest, hc, hlen, -⟩ | ⟨hc, -⟩ := (completes_of_le hptr hle).complete
  · rw [hc]
    exact ⟨hptr, hlen.le⟩
  · rw [hc]
    exact ⟨hptr, hle⟩

/-- the size of a buffer that the call only reads stays the same -/
theorem available_in (hin : user.isOut = false) :
    call.available user .exit = call.available user .entry := by
  unfold available
  rw [hin]
  cases user <;> first | rfl | cases hin

theorem exited_in (hin : user.isOut = false) : call.exited user p = p := by
  unfold exited BufferPointer.updateData
  have hnot : (!user.isOut) = true := by rw [hin]; rfl
  rw [if_pos hnot]

theorem exited_out (hout : user.isOut = true) (hptr : p.ptr = call.ptr) (hempty : p.data = []) :
    (call.exited user p).ptr = call.ptr ∧ call.Prefetched user .exit (call.exited user p) := by
  unfold exited BufferPointer.updateData
  have hnot : ¬ (!user.isOut) = true := by
    rw [hout]
    exact Bool.false_ne_true
  rw [if_neg hnot]
  split
  · rename_i hfailed
    refine ⟨hptr, Or.inl ?_⟩
    have h0 : call.available user .exit = 0 := by
      unfold available
      rw [if_neg (by simpa [hout] using hfailed)]
    unfold prefetch
    rw [h0, Nat.min_zero, hempty]
    rfl
  · refine ⟨BufferPointer.fillBuffer_ptr.trans hptr, ?_⟩
    rw [Prefetched, ← hptr]
    exact (BufferPointer.data_fillBuffer (call.context .exit) (call.sizePar user .exit) p).imp_right
      (And.imp_right Or.inr)

end

/-- for each item with a buffer, whatever it held before, each call, its memory at both stops, the
limits, sizes and the outcome; `q` is the item that leaves the entry, completed there or not -/
theorem keepsPrefix (call : BufferCall) (user : BufferUser) (p : BufferPointer user.isOut) :
    call.Prefetched user .entry (call.entered user p) ∧
    call.Completes user .entry (call.entered user p) ∧
    ∀ q, q = call.entered user p ∨ q = (call.completed user .entry (call.entered user p)).1 →
      (if user.isOut then call.Prefetched user .exit (call.exited user q)
        else call.exited user q = q) ∧
      call.Completes user .exit (call.exited user q) := by
  obtain ⟨hptr, hpre⟩ := entered_spec call p
  have hle := hpre.length_le
  refine ⟨hpre, completes_of_le hptr hle, fun q hq => ?_⟩
  have hq' : q.ptr = call.ptr ∧ q.data.length ≤ call.available user .entry := by
    rcases hq with rfl | rfl
    · exact ⟨hptr, hle⟩
    · exact completed_spec hptr hle
  by_cases hout : user.isOut = true
  · have hempty : q.data = [] := by
      have h0 := hq'.2
      rw [available_entry hout] at h0
      exact List.eq_nil_of_length_eq_zero (Nat.le_zero.mp h0)
    obtain ⟨hptr', hpre'⟩ := exited_out hout hq'.1 hempty
    rw [if_pos hout]
    exact ⟨hpre', completes_of_le hptr' hpre'.length_le⟩
  · have hin : user.isOut = false := Bool.eq_false_iff.mpr hout
    have hsame : call.exited user q = q := exited_in hin
    rw [if_neg hout, hsame]
    refine ⟨rfl, completes_of_le hq'.1 ?_⟩
    rw [available_in hin]
    exact hq'.2

/-- `read(fd, 0x1000, 100)` returns 10, and four bytes are prefetched -/
def shortRead : BufferCall where
  ptr := 0x1000
  entryMem _ := none
  exitMem a := some (UInt8.ofNat (a.toNat - 0x1000))
  entryPrefetch := 4
  exitPrefetch := 4
  is32BitEmulationABI := false
  count := 100
  controllen := 0
  former := 0
  result := some 10

/-- the first four bytes, and then all ten -/
theorem keepsPrefix_shortRead :
    let p := shortRead.exited .read (shortRead.entered .read {})
    p.data = [0, 1, 2, 3] ∧
      (shortRead.completed .read .exit p).1.data = [0, 1, 2, 3, 4, 5, 6, 7, 8, 9] := by
  intro p
  obtain ⟨hpre, hcomplete⟩ := (keepsPrefix shortRead .read {}).2.2 _ (Or.inl rfl)
  have hwords : ∀ n ≤ 8, BufferPointer.Readable (shortRead.context .exit).mem
      (shortRead.ptr + UInt64.ofNat n) (shortRead.available .read .exit - n) := by decide +kernel
  have hdata : p.data = [0, 1, 2, 3] := by
    rcases hpre with h | ⟨-, ⟨h, -⟩ | h⟩
    · have hbytes : bytesAt (shortRead.context .exit).mem shortRead.ptr
          (shortRead.prefetch .read .exit) = some [0, 1, 2, 3] := by decide +kernel
      exact Option.some.inj (h.symm.trans hbytes)
    · cases h
    · exact absurd (by decide +kernel) h
  refine ⟨hdata, ?_⟩
  rcases hcomplete.complete with ⟨rest, hc, -, hbytes⟩ | ⟨-, h⟩
  · rw [hc]
    change bytesAt _ _ p.data.length = some p.data → bytesAt _ _ _ = some (p.data ++ rest) at hbytes
    rw [hdata] at hbytes
    have hall := hbytes (by decide +kernel)
    have hten : bytesAt (shortRead.context .exit).mem shortRead.ptr
        (shortRead.available .read .exit) = some [0, 1, 2, 3, 4, 5, 6, 7, 8, 9] := by
      decide +kernel
    show p.data ++ rest = _
    rw [hdata]
    exact Option.some.inj (hall.symm.trans hten)
  · refine absurd (hwords p.data.length ?_) h
    rw [hdata]
    decide

end BufferCall

end Clues
