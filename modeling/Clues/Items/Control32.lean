import Clues.Items.Access
import Clues.Items.MsgHdr

/-!
# Malformed control data of 32-bit processes

A process may pass any bytes as control data.  Here `convertControlHeader32()` is modelled with the
arithmetic of its `size_t` variables and with each of its accesses.

* `convertMessage`   the body of the loop: a header and its payload;
* `convertFrom`      the loop; `convertFrom_eq`: it is `convertLoop`, which leaves the accesses out;
* `ControlFits`      when the loop ends without an error: `convertsSafely_iff_fits`.
-/

namespace Clues

open Lib.LittleEndian Lib.Ancillary Lib.Buffer

/-- the value of a `size_t` expression -/
def sizeT (n : Nat) : Nat := n % 2 ^ 64

/-- the largest size of a vector -/
def maxVector : Nat := 2 ^ 63 - 1

/-- `ret.resize(ret.size() + count)`: the vector shrinks if the sum wraps around -/
def addBytes (ret : Bytes) (count : Nat) : Except Exc Bytes :=
  let size := sizeT (ret.length + count)
  if maxVector < size then .error (.std .lengthError)
  else .ok (ret.take size ++ List.replicate (size - ret.length) 0)

/-- `std::memcpy()` from a position of one buffer to a position of another one -/
def copyBytes (src : Bytes) (srcPos : Nat) (dst : Bytes) (dstPos count : Nat) :
    Except Exc Bytes := do
  let bs ← inBuffer (slice src srcPos count)
  if dstPos + count ≤ dst.length then .ok (dst.take dstPos ++ bs ++ dst.drop (dstPos + count))
  else .error (.undefined .bounds)

/-- `msg32->cmsg_len - sizeof(cmsghdr32)` -/
def payloadBytes (cmsgLen : Nat) : Nat := sizeT (cmsgLen + 2 ^ 64 - headerSize 4)

/-- `CMSG_LEN(payload_bytes)` -/
def alignedLen (payloadBytes : Nat) : Nat := sizeT (align 8 (headerSize 8) + payloadBytes)

/-- `aligned_len - msg32->cmsg_len - HDR_DIFF_BYTES` -/
def extraBytes (alignedLen cmsgLen : Nat) : Nat :=
  sizeT (alignedLen + 2 ^ 64 - cmsgLen + 2 ^ 64 - (headerSize 8 - headerSize 4))

/-- the loop body: the new values of `convert_pos` and `ret` -/
def convertMessage (control32 : Bytes) (pos : Nat) (ret : Bytes) : Except Exc (Nat × Bytes) := do
  let cmsgLen ← inBuffer (leAt control32 pos 4)
  let level ← inBuffer (leAt control32 (pos + 4) 4)
  let type ← inBuffer (leAt control32 (pos + 8) 4)
  let convertPos := sizeT (pos + headerSize 4)
  -- `cmsg_len` of the new header is set at the end
  let ret ← addBytes ret (headerSize 8)
  let msg := ret.length - headerSize 8
  let payload := payloadBytes cmsgLen
  let payloadDst := ret.length
  let ret ← addBytes ret payload
  let ret ← copyBytes control32 convertPos ret payloadDst payload
  let convertPos := sizeT (convertPos + payload)
  let aligned := alignedLen payload
  let extra := extraBytes aligned cmsgLen
  let hdr := header 8 aligned (UInt32.ofNat level) (UInt32.ofNat type)
  pure (convertPos,
    ret.take msg ++ hdr ++ ret.drop (msg + headerSize 8) ++ List.replicate extra 0)

/-- the loop; the fuel bounds the number of rounds -/
def convertFrom (control32 : Bytes) : Nat → Nat → Bytes → Except Exc Bytes
  | 0, _, _ => .error .outOfFuel
  | fuel + 1, pos, ret =>
    if pos < control32.length then
      -- trailing data
      if control32.length - pos < headerSize 4 then .ok ret
      else do
        let (pos, ret) ← convertMessage control32 pos ret
        convertFrom control32 fuel pos ret
    else .ok ret

/-- `convertControlHeader32()` -/
def MessageHeader.convert (h : MessageHeader) (fuel : Nat) : Except Exc Bytes :=
  if !h.is32BitEmulationABI || h.msgControllen == 0 then .ok h.msgControl
  else convertFrom h.msgControl fuel 0 []

/-- the headers from the start of the data on: the length of each of them is at least the one of
the header itself and does not go beyond the data; less than a header is left at the end -/
inductive ControlFits : Bytes → Prop
  | stop {rest : Bytes} (h : rest.length < headerSize 4) : ControlFits rest
  | next {rest : Bytes} (hhead : headerSize 4 ≤ rest.length)
      (hlen : headerSize 4 ≤ le (rest.take 4)) (hle : le (rest.take 4) ≤ rest.length)
      (hrest : ControlFits (rest.drop (le (rest.take 4)))) : ControlFits rest

section
variable {control32 ret : Bytes} {pos len : Nat} {m : Message}

theorem addBytes_of_le {count : Nat} (h : ret.length + count ≤ maxVector) :
    addBytes ret count = .ok (ret ++ List.replicate count 0) := by
  have hsize : sizeT (ret.length + count) = ret.length + count := by
    unfold sizeT maxVector at *
    omega
  unfold addBytes
  simp only [hsize]
  rw [if_neg (Nat.not_lt.mpr h), List.take_of_length_le (Nat.le_add_right _ _),
    Nat.add_sub_cancel_left]

theorem copyBytes_outside {src dst : Bytes} {srcPos dstPos count : Nat}
    (h : src.length < srcPos + count) :
    copyBytes src srcPos dst dstPos count = .error (.undefined .bounds) := by
  unfold copyBytes
  rw [slice_of_lt h]
  rfl

theorem copyBytes_append {src dst : Bytes} {srcPos count : Nat} (h : srcPos + count ≤ src.length) :
    copyBytes src srcPos (dst ++ List.replicate count 0) dst.length count
      = .ok (dst ++ (src.drop srcPos).take count) := by
  have hroom : dst.length + count ≤ (dst ++ List.replicate count (0 : UInt8)).length := by
    rw [List.length_append, List.length_replicate]
  have hend : (dst ++ List.replicate count (0 : UInt8)).drop (dst.length + count) = [] := by
    apply List.drop_eq_nil_of_le
    rw [List.length_append, List.length_replicate]
  unfold copyBytes
  rw [slice_of_le h]
  show (if dst.length + count ≤ (dst ++ List.replicate count (0 : UInt8)).length then _ else _) = _
  rw [if_pos hroom, List.take_left, hend, List.append_nil]

theorem payloadBytes_eq (h12 : 12 ≤ len) (hlt : len < 2 ^ 32) : payloadBytes len = len - 12 := by
  have h4 : headerSize 4 = 12 := rfl
  unfold payloadBytes sizeT
  omega

/-- a length that is smaller than the header wraps around -/
theorem payloadBytes_wraps (h12 : len < 12) : payloadBytes len = 2 ^ 64 - (12 - len) := by
  have h4 : headerSize 4 = 12 := rfl
  unfold payloadBytes sizeT
  omega

theorem alignedLen_eq (h12 : 12 ≤ len) (hlt : len < 2 ^ 32) : alignedLen (len - 12) = len + 4 := by
  have h16 : align 8 (headerSize 8) = 16 := rfl
  unfold alignedLen sizeT
  omega

/-- no padding is added -/
theorem extraBytes_eq : extraBytes (len + 4) len = 0 := by
  have h4 : headerSize 4 = 12 := rfl
  have h8 : headerSize 8 = 16 := rfl
  unfold extraBytes sizeT
  omega

theorem messageAt_eq_some {rest : Bytes} (h : messageAt 4 rest = some (len, m)) :
    m.level = UInt32.ofNat (le ((rest.drop 4).take 4)) ∧
      m.type = UInt32.ofNat (le ((rest.drop 8).take 4)) ∧
      m.payload = (rest.drop 12).take (len - 12) := by
  unfold messageAt at h
  dsimp only at h
  split_ifs at h
  obtain ⟨rfl, rfl⟩ := Prod.mk.inj (Option.some.inj h)
  exact ⟨rfl, rfl, List.drop_take⟩

theorem messageAt_eq_none {rest : Bytes} (h : messageAt 4 rest = none) :
    ¬ (12 ≤ le (rest.take 4) ∧ le (rest.take 4) ≤ rest.length) := by
  intro hin
  unfold messageAt at h
  dsimp only at h
  have hin' : headerSize 4 ≤ le (rest.take 4) ∧ le (rest.take 4) ≤ rest.length := hin
  rw [if_pos hin'] at h
  cases h

/-- the three numbers of a header can be read -/
theorem leAt_header (hhead : headerSize 4 ≤ control32.length - pos) :
    leAt control32 pos 4 = some (le ((control32.drop pos).take 4)) ∧
    leAt control32 (pos + 4) 4 = some (le (((control32.drop pos).drop 4).take 4)) ∧
    leAt control32 (pos + 8) 4 = some (le (((control32.drop pos).drop 8).take 4)) := by
  have h12 : 12 ≤ control32.length - pos := hhead
  rw [List.drop_drop, List.drop_drop]
  exact ⟨leAt_of_le (by omega), leAt_of_le (by omega), leAt_of_le (by omega)⟩

/-- the header is set behind what was converted before, and stays in front of the payload -/
theorem set_header {hdr payload : Bytes} :
    (ret ++ List.replicate (headerSize 8) 0 ++ payload).take ret.length ++ hdr ++
      (ret ++ List.replicate (headerSize 8) 0 ++ payload).drop (ret.length + headerSize 8)
      = ret ++ (hdr ++ payload) := by
  have hlen : ret.length + headerSize 8
      = (ret ++ List.replicate (headerSize 8) (0 : UInt8)).length := by
    rw [List.length_append, List.length_replicate]
  have htake : (ret ++ List.replicate (headerSize 8) 0 ++ payload).take ret.length = ret := by
    rw [List.append_assoc, List.take_left]
  rw [htake, hlen, List.drop_left, List.append_assoc]

/-- a message that lies within the data is converted -/
theorem convertMessage_of_some (hret : ret.length < 2 ^ 34) (hsmall : control32.length < 2 ^ 32)
    (hm : messageAt 4 (control32.drop pos) = some (len, m)) :
    convertMessage control32 pos ret
      = .ok (pos + len, ret ++ (header 8 (len + 4) m.level m.type ++ m.payload)) := by
  have h8 : headerSize 8 = 16 := rfl
  have hmax : maxVector = 2 ^ 63 - 1 := rfl
  obtain ⟨hlen, h12, hin, -⟩ := messageAt_len hm
  obtain ⟨hlevel, htype, hpay⟩ := messageAt_eq_some hm
  have h12' : 12 ≤ len := h12
  rw [List.length_drop] at hin
  have h4 : headerSize 4 ≤ control32.length - pos := h12.trans hin
  obtain ⟨hl, hv, ht⟩ := leAt_header h4
  rw [← hlen] at hl
  rw [List.drop_drop] at hpay
  have hconv : sizeT (pos + headerSize 4) = pos + 12 := by
    unfold sizeT headerSize
    omega
  have hend : sizeT (pos + 12 + (len - 12)) = pos + len := by
    unfold sizeT
    omega
  have hadd : (ret ++ List.replicate (headerSize 8) (0 : UInt8)).length = ret.length + 16 := by
    rw [List.length_append, List.length_replicate, h8]
  have hmsg : (ret ++ List.replicate (headerSize 8) (0 : UInt8)).length - headerSize 8
      = ret.length := by
    rw [hadd, h8, Nat.add_sub_cancel]
  unfold convertMessage
  simp only [hl, hv, ht, inBuffer_some, ok_bind, hconv]
  rw [addBytes_of_le (by omega)]
  simp only [ok_bind, hmsg]
  rw [payloadBytes_eq h12' (by omega), addBytes_of_le (by omega)]
  simp only [ok_bind]
  rw [copyBytes_append (by omega)]
  simp only [ok_bind]
  rw [hend, alignedLen_eq h12' (by omega), extraBytes_eq, ← hpay, ← hlevel, ← htype,
    set_header, List.replicate_zero, List.append_nil]
  rfl

/-- a message that does not is read all the same -/
theorem convertMessage_of_none (hret : ret.length < 2 ^ 34) (hsmall : control32.length < 2 ^ 32)
    (hhead : headerSize 4 ≤ control32.length - pos)
    (hm : messageAt 4 (control32.drop pos) = none) :
    convertMessage control32 pos ret = .error (.undefined .bounds) := by
  have h8 : headerSize 8 = 16 := rfl
  have hmax : maxVector = 2 ^ 63 - 1 := rfl
  have hhead' : 12 ≤ control32.length - pos := hhead
  obtain ⟨hl, hv, ht⟩ := leAt_header hhead
  have hlt := le_lt ((control32.drop pos).take 4)
  have hno := messageAt_eq_none hm
  have hfour : ((control32.drop pos).take 4).length = 4 := by
    rw [List.length_take, List.length_drop]
    omega
  rw [hfour] at hlt
  rw [List.length_drop] at hno
  generalize le ((control32.drop pos).take 4) = len at hl hlt hno
  have hlt' : len < 2 ^ 32 := hlt
  have hconv : sizeT (pos + headerSize 4) = pos + 12 := by
    unfold sizeT headerSize
    omega
  have hadd : (ret ++ List.replicate (headerSize 8) (0 : UInt8)).length = ret.length + 16 := by
    rw [List.length_append, List.length_replicate, h8]
  -- the vector grows by the payload, or shrinks by what the header is short of
  have hsize : sizeT (ret.length + 16 + payloadBytes len) ≤ maxVector ∧
      control32.length < pos + 12 + payloadBytes len := by
    by_cases h12 : len < 12
    · rw [payloadBytes_wraps h12]
      unfold sizeT
      omega
    · rw [payloadBytes_eq (by omega) hlt']
      unfold sizeT
      omega
  obtain ⟨dst, hdst⟩ : ∃ dst, addBytes (ret ++ List.replicate (headerSize 8) 0) (payloadBytes len)
      = .ok dst := by
    unfold addBytes
    rw [hadd]
    exact ⟨_, if_neg (Nat.not_lt.mpr hsize.1)⟩
  unfold convertMessage
  simp only [hl, hv, ht, inBuffer_some, ok_bind, hconv]
  rw [addBytes_of_le (by omega)]
  simp only [ok_bind, hdst]
  rw [copyBytes_outside hsize.2]
  rfl

/-- with enough fuel, the loop is the one without positions -/
theorem convertFrom_eq {fuel : Nat} (ret : Bytes) (hsmall : control32.length < 2 ^ 32)
    (hle : pos ≤ control32.length) (hret : ret.length ≤ 2 * pos) (hfuel : control32.length - pos < fuel) :
    convertFrom control32 fuel pos ret = (convertLoop (control32.drop pos)).map (ret ++ ·) := by
  induction fuel generalizing pos ret with
  | zero => exact absurd hfuel (Nat.not_lt_zero _)
  | succ fuel ih =>
    rw [convertFrom]
    have hlen : (control32.drop pos).length = control32.length - pos := List.length_drop
    by_cases hlt : pos < control32.length
    · rw [if_pos hlt]
      by_cases htrail : control32.length - pos < headerSize 4
      · rw [if_pos htrail, convertLoop, if_pos (by rw [hlen]; exact htrail)]
        show _ = Except.ok (ret ++ [])
        rw [List.append_nil]
      · rw [if_neg htrail]
        have hhead : headerSize 4 ≤ (control32.drop pos).length := by
          rw [hlen]
          exact Nat.le_of_not_lt htrail
        cases hm : messageAt 4 (control32.drop pos) with
        | none =>
          rw [convertMessage_of_none (by omega) hsmall (Nat.le_of_not_lt htrail) hm,
            convertLoop_of_none hhead hm]
          rfl
        | some r =>
          obtain ⟨len, m⟩ := r
          obtain ⟨-, h12, hin, hpay⟩ := messageAt_len hm
          have h12' : 12 ≤ len := h12
          rw [convertMessage_of_some (by omega) hsmall hm,
            convertLoop_of_some hhead hm]
          show convertFrom control32 fuel (pos + len) _ = _
          rw [ih]
          · rw [List.drop_drop]
            cases convertLoop (control32.drop (pos + len)) with
            | error e => rfl
            | ok tail =>
              exact congrArg Except.ok (List.append_assoc _ _ _)
          · omega
          · have h4 : headerSize 4 = 12 := rfl
            rw [List.length_append, List.length_append, length_header, hpay]
            show ret.length + (headerSize 8 + (len - headerSize 4)) ≤ _
            have h8 : headerSize 8 = 16 := rfl
            omega
          · omega
    · have hnil : control32.drop pos = [] := List.drop_eq_nil_of_le (Nat.le_of_not_lt hlt)
      rw [if_neg hlt, hnil, convertLoop_nil]
      show _ = Except.ok (ret ++ [])
      rw [List.append_nil]

/-- more fuel changes nothing -/
theorem convertFrom_mono {fuel fuel' : Nat}
    (h : convertFrom control32 fuel pos ret ≠ .error .outOfFuel) (hle : fuel ≤ fuel') :
    convertFrom control32 fuel' pos ret = convertFrom control32 fuel pos ret := by
  induction fuel generalizing pos ret fuel' with
  | zero => exact absurd rfl h
  | succ fuel ih =>
    obtain ⟨k, rfl⟩ : ∃ k, fuel' = k + 1 := ⟨fuel' - 1, by omega⟩
    rw [convertFrom] at h ⊢
    rw [convertFrom]
    by_cases hlt : pos < control32.length
    · rw [if_pos hlt] at h ⊢
      rw [if_pos hlt]
      by_cases htrail : control32.length - pos < headerSize 4
      · rw [if_pos htrail, if_pos htrail]
      · rw [if_neg htrail] at h ⊢
        rw [if_neg htrail]
        cases hc : convertMessage control32 pos ret with
        | error e => rfl
        | ok r =>
          rw [hc] at h
          exact ih h (by omega)
    · rw [if_neg hlt, if_neg hlt]

/-- the loop without positions ends without an error if and only if the headers fit -/
theorem convertLoop_ok_iff (rest : Bytes) :
    (∃ ret, convertLoop rest = .ok ret) ↔ ControlFits rest := by
  constructor
  · induction hn : rest.length using Nat.strong_induction_on generalizing rest with
    | h n ih =>
      intro h
      obtain ⟨ret, hret⟩ := h
      by_cases htrail : rest.length < headerSize 4
      · exact .stop htrail
      · have hhead := Nat.le_of_not_lt htrail
        cases hm : messageAt 4 rest with
        | none =>
          rw [convertLoop_of_none hhead hm] at hret
          cases hret
        | some r =>
          obtain ⟨len, m⟩ := r
          obtain ⟨hlen, h12, hin, -⟩ := messageAt_len hm
          rw [convertLoop_of_some hhead hm] at hret
          cases hr : convertLoop (rest.drop len) with
          | error e =>
            rw [hr] at hret
            cases hret
          | ok ret' =>
            have h4 : headerSize 4 = 12 := rfl
            have hshort : (rest.drop len).length < n := by
              rw [List.length_drop]
              omega
            have hrest := ih _ hshort (rest.drop len) rfl ⟨ret', hr⟩
            rw [hlen] at h12 hin hrest
            exact .next hhead h12 hin hrest
  · intro h
    induction h with
    | stop h =>
      refine ⟨[], ?_⟩
      rw [convertLoop, if_pos h]
    | @next rest hhead hlen hle _ ih =>
      obtain ⟨ret, hret⟩ := ih
      have hm : messageAt 4 rest = some (le (rest.take 4), _) := if_pos ⟨hlen, hle⟩
      rw [convertLoop_of_some hhead hm, hret]
      exact ⟨_, rfl⟩

end

/-- the header of a 32-bit process and the control data that was fetched; `msg_controllen` has 32
bits -/
structure PassedHeader where
  header : MessageHeader
  small : header.msgControl.length < 2 ^ 32

namespace PassedHeader

/-- the conversion ends, without an exception and without an access outside of a buffer -/
def ConvertsSafely (p : PassedHeader) : Prop :=
  (∃ fuel, p.header.convert fuel ≠ .error .outOfFuel) ∧
    ∀ fuel e, p.header.convert fuel = .error e → e = .outOfFuel

/-- nothing is converted, or all headers lie within the data with their payloads -/
def Fits (p : PassedHeader) : Prop :=
  (!p.header.is32BitEmulationABI || p.header.msgControllen == 0) = true ∨
    ControlFits p.header.msgControl

/-- for all data that a process passes: the conversion is safe if and only if the length of each
header that is reached is at least 12 and does not go beyond the data -/
theorem convertsSafely_iff_fits (p : PassedHeader) : p.ConvertsSafely ↔ p.Fits := by
  unfold ConvertsSafely Fits MessageHeader.convert
  by_cases hskip : (!p.header.is32BitEmulationABI || p.header.msgControllen == 0) = true
  · simp only [if_pos hskip]
    apply iff_of_true _ (Or.inl hskip)
    constructor
    · refine ⟨0, ?_⟩
      intro h
      cases h
    · intro _ e h
      cases h
  · simp only [if_neg hskip]
    have hor : ((!p.header.is32BitEmulationABI || p.header.msgControllen == 0) = true ∨
        ControlFits p.header.msgControl) ↔ ControlFits p.header.msgControl :=
      or_iff_right hskip
    have hall := convertFrom_eq [] p.small (Nat.zero_le _) (Nat.zero_le _)
      (Nat.lt_succ_self (p.header.msgControl.length - 0))
    rw [List.drop_zero] at hall
    rw [hor, ← convertLoop_ok_iff]
    constructor
    · intro h
      obtain ⟨⟨fuel, hends⟩, hsafe⟩ := h
      cases hc : convertLoop p.header.msgControl with
      | ok ret => exact ⟨ret, rfl⟩
      | error e =>
        exfalso
        rw [hc] at hall
        obtain rfl := hsafe _ e hall
        have hmax := convertFrom_mono hends (le_max_left fuel (p.header.msgControl.length - 0).succ)
        have hbig := convertFrom_eq [] p.small (Nat.zero_le _) (Nat.zero_le _)
          (lt_of_lt_of_le (Nat.lt_succ_self (p.header.msgControl.length - 0)) (le_max_right fuel _))
        rw [List.drop_zero, hc, hmax] at hbig
        exact hends hbig
    · intro h
      obtain ⟨ret, hret⟩ := h
      rw [hret] at hall
      constructor
      · refine ⟨(p.header.msgControl.length - 0).succ, ?_⟩
        rw [hall]
        intro h
        cases h
      · intro fuel e he
        by_contra hne
        have hends : convertFrom p.header.msgControl fuel 0 [] ≠ .error .outOfFuel := by
          rw [he]
          intro h
          exact hne (Except.error.inj h)
        have h1 := convertFrom_mono hends (le_max_left fuel (p.header.msgControl.length - 0).succ)
        have hends' : convertFrom p.header.msgControl (p.header.msgControl.length - 0).succ 0 []
            ≠ .error .outOfFuel := by
          rw [hall]
          intro h
          cases h
        have h2 := convertFrom_mono hends' (le_max_right fuel (p.header.msgControl.length - 0).succ)
        rw [h1, he, hall] at h2
        cases h2

/-- a header whose length is 0 -/
def zeroLength : PassedHeader where
  header :=
    { is32BitEmulationABI := true
      msgControllen := 12
      msgControl := List.replicate 12 0 }
  small := by decide

theorem convertsSafely_fails : ¬ ∀ p : PassedHeader, p.ConvertsSafely := by
  intro h
  have hloop : convertLoop (List.replicate 12 0) = .error (.undefined .bounds) :=
    convertLoop_of_none (by decide) (by decide)
  have hall := convertFrom_eq [] zeroLength.small (Nat.zero_le _) (Nat.zero_le _)
    (Nat.lt_succ_self (zeroLength.header.msgControl.length - 0))
  have herr : zeroLength.header.convert (zeroLength.header.msgControl.length - 0).succ
      = .error (.undefined .bounds) := by
    rw [List.drop_zero] at hall
    show convertFrom zeroLength.header.msgControl _ 0 [] = _
    rw [hall]
    show (convertLoop (List.replicate 12 0)).map _ = _
    rw [hloop]
    rfl
  cases (h zeroLength).2 _ _ herr

end PassedHeader

end Clues
