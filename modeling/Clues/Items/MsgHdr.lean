import Clues.Lib.Ancillary
import Clues.Types
import Mathlib.Tactic.IntervalCases

/-!
# Message headers of 32-bit processes

* `convertControlHeader32`   of `msghdr.cxx`: control data of a 32-bit process for a 64-bit tracer;
* `Converts`   iterating the header that is built from it finds the messages of the process;
* `Fits`       when this is so: `converts_iff`.
-/

namespace Clues

open Lib.LittleEndian Lib.Ancillary

/-- the loop of `convertControlHeader32()` over the data behind `convert_pos` -/
def convertLoop (control32 : Bytes) : Except Exc Bytes :=
  -- the end, or trailing data
  if control32.length < headerSize 4 then .ok []
  else
    match _h : messageAt 4 control32 with
    -- the length is smaller than the header, or the payload goes beyond the data
    | none => .error (.undefined .bounds)
    | some (len, msg) =>
      let payloadBytes := len - headerSize 4
      let alignedLen := align 8 (headerSize 8) + payloadBytes
      let extraBytes := alignedLen - len - (headerSize 8 - headerSize 4)
      (convertLoop (control32.drop len)).map fun ret =>
        header 8 alignedLen msg.level msg.type ++ msg.payload ++ List.replicate extraBytes 0 ++ ret
  termination_by control32.length
  decreasing_by
    obtain ⟨-, hlen, hle, -⟩ := messageAt_len _h
    rw [List.length_drop]
    unfold headerSize at hlen
    omega

/-- `MessageHeaderBase` and the header that was fetched last -/
structure MessageHeader where
  is32BitEmulationABI : Bool
  msgControllen : Nat
  msgControl : Bytes

def MessageHeader.convertControlHeader32 (h : MessageHeader) : Except Exc Bytes :=
  if !h.is32BitEmulationABI || h.msgControllen == 0 then .ok h.msgControl
  else convertLoop h.msgControl

/-- `header()`: a copy of the fetched header whose `msg_control` points to the converted data -/
def MessageHeader.header (h : MessageHeader) : Except Exc (Nat × Bytes) := do
  let control ← h.convertControlHeader32
  pure (h.msgControllen, control)

/-- the control messages that are iterated over -/
def MessageHeader.controlMessages (h : MessageHeader) : Option (List Message) :=
  h.header.toOption.bind fun hdr => messages 8 hdr.2 hdr.1

/-! ## what a 32-bit kernel writes -/

/-- control messages with their padding; `msg_controllen` has 32 bits -/
structure ControlData where
  records : List (Record 4)
  small : (buffer records).length < 2 ^ 32

/-- the header after the system call -/
def ControlData.received (d : ControlData) : MessageHeader :=
  { is32BitEmulationABI := true
    msgControllen := (buffer d.records).length
    msgControl := buffer d.records }

def ControlData.Converts (d : ControlData) : Prop :=
  d.received.controlMessages = messages 4 (buffer d.records) (buffer d.records).length

/-- all payloads but the last one fill whole 64-bit words, and the last one makes up for the bytes
that the headers before it grow by -/
def FitsBehind : Nat → List (Record 4) → Prop
  | _, [] => True
  | k, [r] => 4 * (k + 1) ≤ align 4 r.msg.payload.length
  | k, r :: r' :: rs => r.msg.payload.length % 8 = 0 ∧ FitsBehind (k + 1) (r' :: rs)

def ControlData.Fits (d : ControlData) : Prop :=
  (∀ r ∈ d.records.dropLast, r.msg.payload.length % 8 = 0) ∧
    ∀ r ∈ d.records.getLast?, 4 * d.records.length ≤ align 4 r.msg.payload.length

section
variable {r : Record 4} {rs : List (Record 4)} {m : Message} {k : Nat}

theorem fitsBehind_iff (rs : List (Record 4)) (k : Nat) :
    FitsBehind k rs ↔ (∀ r ∈ rs.dropLast, r.msg.payload.length % 8 = 0) ∧
      ∀ r ∈ rs.getLast?, 4 * (k + rs.length) ≤ align 4 r.msg.payload.length := by
  induction rs generalizing k with
  | nil => simp [FitsBehind]
  | cons r rs ih =>
    cases rs with
    | nil => simp [FitsBehind]
    | cons r' rs =>
      have hlen : k + 1 + (r' :: rs).length = k + (r :: r' :: rs).length := by
        simp only [List.length_cons]
        omega
      show (_ ∧ _) ↔ _
      rw [ih (k + 1), hlen, List.dropLast_cons_cons, List.forall_mem_cons, List.getLast?_cons_cons,
        and_assoc]

/-! ## the loop -/

theorem convertLoop_nil : convertLoop [] = .ok [] := by
  rw [convertLoop, if_pos]
  decide

theorem convertLoop_of_none {control32 : Bytes} (h : headerSize 4 ≤ control32.length)
    (hm : messageAt 4 control32 = none) : convertLoop control32 = .error (.undefined .bounds) := by
  rw [convertLoop, if_neg (not_lt.mpr h)]
  split
  · rfl
  · rename_i heq
    rw [hm] at heq
    cases heq

/-- a 64-bit header with the same payload, and no padding -/
theorem convertLoop_of_some {control32 : Bytes} {len : Nat} (h : headerSize 4 ≤ control32.length)
    (hm : messageAt 4 control32 = some (len, m)) :
    convertLoop control32 = (convertLoop (control32.drop len)).map fun ret =>
      header 8 (len + 4) m.level m.type ++ m.payload ++ ret := by
  obtain ⟨-, hlen, -, -⟩ := messageAt_len hm
  rw [convertLoop, if_neg (not_lt.mpr h)]
  split
  · rename_i heq
    rw [hm] at heq
    cases heq
  · rename_i heq
    rw [hm] at heq
    obtain ⟨rfl, rfl⟩ := Prod.mk.inj (Option.some.inj heq)
    have halign : align 8 (headerSize 8) + (len - headerSize 4) = len + 4 := by
      show 16 + (len - 12) = len + 4
      have hlen' : 12 ≤ len := hlen
      omega
    have hextra : len + 4 - len - (headerSize 8 - headerSize 4) = 0 := by
      show len + 4 - len - (16 - 12) = 0
      omega
    dsimp only
    rw [halign, hextra, List.replicate_zero, List.append_nil]

theorem convertLoop_message (m : Message) (tail : Bytes)
    (hlen : headerSize 4 + m.payload.length < 2 ^ 32) :
    convertLoop (header 4 (headerSize 4 + m.payload.length) m.level m.type ++ m.payload ++ tail) =
      (convertLoop tail).map fun ret =>
        header 8 (headerSize 8 + m.payload.length) m.level m.type ++ m.payload ++ ret := by
  have hat := messageAt_header m tail hlen
  have hle : headerSize 4 ≤ (header 4 (headerSize 4 + m.payload.length) m.level m.type ++
      m.payload ++ tail).length := by
    rw [List.length_append, List.length_append, length_header]
    omega
  have hdrop : (header 4 (headerSize 4 + m.payload.length) m.level m.type ++ m.payload ++
      tail).drop (headerSize 4 + m.payload.length) = tail :=
    List.drop_left' (by rw [List.length_append, length_header])
  have hsize : headerSize 4 + m.payload.length + 4 = headerSize 8 + m.payload.length := by
    show 12 + m.payload.length + 4 = 16 + m.payload.length
    omega
  rw [convertLoop_of_some hle hat, hdrop, hsize]

/-! ## what is found in the converted data -/

def found (control32 : Bytes) (avail : Nat) : Option (List Message) :=
  (convertLoop control32).toOption.bind fun ret => messages 8 ret avail

theorem found_of_lt {control32 : Bytes} {avail : Nat} (h : avail < 16) (m : Message)
    (ms : List Message) : found control32 avail ≠ some (m :: ms) := by
  unfold found
  cases convertLoop control32 with
  | error e => exact fun hf => nomatch hf
  | ok ret =>
    show messages 8 ret avail ≠ _
    rw [messages_of_lt h]
    exact fun hf => nomatch hf

/-- the next header is expected at a multiple of eight bytes -/
theorem found_message (m : Message) (tail : Bytes) {avail : Nat}
    (hlen : headerSize 4 + m.payload.length < 2 ^ 32) (h : 16 ≤ avail) :
    found (header 4 (headerSize 4 + m.payload.length) m.level m.type ++ m.payload ++ tail) avail =
      (convertLoop tail).toOption.bind fun ret =>
        (messages 8 (ret.drop (padding 8 (headerSize 8 + m.payload.length)))
          (avail - align 8 (headerSize 8 + m.payload.length))).map (m :: ·) := by
  unfold found
  rw [convertLoop_message m tail hlen]
  cases convertLoop tail with
  | error e => rfl
  | ok ret =>
    have hlen8 : headerSize 8 + m.payload.length < 256 ^ 8 := by
      unfold headerSize at *
      omega
    have hlength : (header 8 (headerSize 8 + m.payload.length) m.level m.type ++
        m.payload).length = headerSize 8 + m.payload.length := by
      rw [List.length_append, length_header]
    show messages 8 (header 8 (headerSize 8 + m.payload.length) m.level m.type ++ m.payload ++ ret)
      avail = (messages 8 _ _).map _
    rw [messages_of_some h (messageAt_header m ret hlen8)]
    unfold align
    rw [← List.drop_drop, List.drop_left' hlength]

/-! ### where the next header is read too late -/

theorem div_mod_split {low X s : Nat} (hs : s < 8) (hlow : low < 256 ^ 8) :
    (low + 256 ^ 8 * X) / 256 ^ s % 256 ^ 8 = low / 256 ^ s + 256 ^ (8 - s) * (X % 256 ^ s) := by
  interval_cases s <;> omega

/-- `d` bytes behind a payload the next header starts, which is converted from the payload's end on;
`s` bytes behind the payload it is expected again -/
theorem shifted_length {t len len' P Z R s d : Nat} (hd : d = 0 ∧ s = 4 ∨ d = 1 ∧ s = 1 ∨
      d = 2 ∧ s = 2 ∨ d = 3 ∧ s = 3 ∨ d = 1 ∧ s = 5 ∨ d = 2 ∧ s = 6 ∨ d = 3 ∧ s = 7)
    (hP : P < 256 ^ d) (ht : t = P + 256 ^ d * (len + 256 ^ 4 * Z)) (hlen : len + 12 < 256 ^ 4)
    (hlen' : len' = (t % 256 ^ 4 + 4 + 256 ^ 8 * (t / 256 ^ 4 % 256 ^ 4 + 256 ^ 4 *
      (t / 256 ^ 8 % 256 ^ 4 + 256 ^ 4 * R))) / 256 ^ s % 256 ^ 8) : len' ≠ len + 4 := by
  have hs : s < 8 := by omega
  have hX : (t / 256 ^ 4 % 256 ^ 4 + 256 ^ 4 * (t / 256 ^ 8 % 256 ^ 4 + 256 ^ 4 * R)) % 256 ^ s
      = t / 256 ^ 4 % 256 ^ s := by
    clear hlen' ht hd
    interval_cases s <;> omega
  rw [div_mod_split hs (by omega), hX] at hlen'
  clear hX
  rcases hd with ⟨rfl, rfl⟩ | ⟨rfl, rfl⟩ | ⟨rfl, rfl⟩ | ⟨rfl, rfl⟩ | ⟨rfl, rfl⟩ | ⟨rfl, rfl⟩ | ⟨rfl, rfl⟩
  · have ht' : t % 256 ^ 4 = len := by omega
    rw [ht', Nat.div_eq_of_lt (by omega)] at hlen'
    omega
  all_goals omega

/-- the paddings behind a payload of `n` bytes -/
theorem shifts {n d : Nat} (hn : n % 8 ≠ 0) (hd : d = (4 - n % 4) % 4) :
    d = 0 ∧ padding 8 (headerSize 8 + n) = 4 ∨ d = 1 ∧ padding 8 (headerSize 8 + n) = 1 ∨
      d = 2 ∧ padding 8 (headerSize 8 + n) = 2 ∨ d = 3 ∧ padding 8 (headerSize 8 + n) = 3 ∨
      d = 1 ∧ padding 8 (headerSize 8 + n) = 5 ∨ d = 2 ∧ padding 8 (headerSize 8 + n) = 6 ∨
      d = 3 ∧ padding 8 (headerSize 8 + n) = 7 := by
  have hs : padding 8 (headerSize 8 + n) = 8 - n % 8 := by
    unfold padding headerSize
    omega
  have hd' : d = (4 - n % 8 % 4) % 4 := by omega
  have hlt : n % 8 < 8 := Nat.mod_lt n (by norm_num)
  rw [hs, hd']
  generalize n % 8 = x at hn hlt
  interval_cases x
  · exact absurd rfl hn
  all_goals decide

theorem length_pad (r : Record 4) : r.pad.length = (4 - r.msg.payload.length % 4) % 4 := by
  rw [r.padded]
  unfold padding headerSize
  omega

/-- behind such a payload no message is found that is as long as the next one -/
theorem shifted_message {n : Nat} {ret : Bytes} {len : Nat} (hn : n % 8 ≠ 0) {pad : Bytes}
    (hpad : pad.length = (4 - n % 4) % 4) (r : Record 4) (tail : Bytes)
    (hlen : headerSize 4 + r.msg.payload.length + 12 < 256 ^ 4)
    (hret : convertLoop (pad ++ (r.bytes ++ tail)) = .ok ret)
    (hat : messageAt 8 (ret.drop (padding 8 (headerSize 8 + n))) = some (len, m)) :
    m.payload.length ≠ r.msg.payload.length := by
  have hle : headerSize 4 ≤ (pad ++ (r.bytes ++ tail)).length := by
    rw [List.length_append, List.length_append, r.length_bytes]
    unfold align
    omega
  have hshift := shifts hn hpad
  cases hm : messageAt 4 (pad ++ (r.bytes ++ tail)) with
  | none =>
    rw [convertLoop_of_none hle hm] at hret
    cases hret
  | some found =>
    obtain ⟨len', m'⟩ := found
    obtain ⟨hlen', hlevel, htype⟩ := messageAt_fields hm
    simp only [Nat.reduceAdd] at htype
    rw [convertLoop_of_some hle hm] at hret
    cases htail : convertLoop ((pad ++ (r.bytes ++ tail)).drop len') with
    | error e =>
      rw [htail] at hret
      cases hret
    | ok ret' =>
      rw [htail] at hret
      have hret' : header 8 (len' + 4) m'.level m'.type ++ m'.payload ++ ret' = ret :=
        Except.ok.inj hret
      -- the bytes as numbers
      have hnum : le (pad ++ (r.bytes ++ tail)) = le pad + 256 ^ pad.length *
          (headerSize 4 + r.msg.payload.length + 256 ^ 4 * (r.msg.level.toNat + 256 ^ 4 *
            (r.msg.type.toNat + 256 ^ 4 * le (r.msg.payload ++ r.pad ++ tail)))) := by
        have hbytes : r.bytes ++ tail = header 4 (headerSize 4 + r.msg.payload.length) r.msg.level
            r.msg.type ++ (r.msg.payload ++ r.pad ++ tail) := by
          unfold Record.bytes
          rw [List.append_assoc, List.append_assoc, List.append_assoc]
        rw [le_append, hbytes, le_header (by omega)]
      have hlt : len' + 4 < 256 ^ 8 := by
        have hmod : len' < 256 ^ 4 := hlen' ▸ Nat.mod_lt _ (by norm_num)
        omega
      obtain ⟨hfound, hsize, -, hpay⟩ := messageAt_len hat
      rw [le_take, le_drop, ← hret', List.append_assoc, le_header hlt, hlevel, htype, hlen']
        at hfound
      generalize hsize' : headerSize 4 + r.msg.payload.length = n' at hnum hlen
      generalize le (pad ++ (r.bytes ++ tail)) = t at hnum hfound
      generalize padding 8 (headerSize 8 + n) = s at hshift hfound
      have hne : len ≠ n' + 4 := shifted_length hshift (le_lt pad) hnum hlen hfound
      rw [hpay]
      clear hnum hfound hshift
      unfold headerSize at *
      omega

/-! ### from one message to the next -/

theorem map_cons_eq_some_iff {α : Type} {x : Option (List α)} {a : α} {as : List α} :
    x.map (a :: ·) = some (a :: as) ↔ x = some as := by
  cases x with
  | none => exact ⟨(fun h => nomatch h), fun h => nomatch h⟩
  | some bs =>
    show some (a :: bs) = _ ↔ _
    rw [Option.some.injEq, Option.some.injEq, List.cons.injEq]
    exact ⟨fun h => h.2, fun h => ⟨rfl, h⟩⟩

theorem head_of_map_cons {α : Type} {x : Option (List α)} {a b : α} {as : List α}
    (h : x.map (a :: ·) = some (b :: as)) : a = b := by
  cases x with
  | none => cases h
  | some bs => exact (List.cons.inj (Option.some.inj h)).1

theorem length_buffer_cons (r : Record 4) (rs : List (Record 4)) : (buffer (r :: rs)).length =
    12 + r.msg.payload.length + (4 - r.msg.payload.length % 4) % 4 + (buffer rs).length := by
  rw [buffer_cons, List.length_append, r.length_bytes]
  unfold align padding headerSize
  omega

/-- the last message still lies within `msg_controllen` -/
theorem FitsBehind.length (rs : List (Record 4)) (h : FitsBehind k (r :: rs)) :
    16 + 4 * k ≤ (buffer (r :: rs)).length := by
  induction rs generalizing k r with
  | nil =>
    have hlast : 4 * (k + 1) ≤ align 4 r.msg.payload.length := h
    rw [length_buffer_cons]
    unfold align padding at hlast
    omega
  | cons r' rs ih =>
    have hnext := ih h.2
    rw [length_buffer_cons]
    omega

theorem found_iff (rs : List (Record 4)) (k : Nat) (hsmall : (buffer rs).length < 2 ^ 32) :
    found (buffer rs) ((buffer rs).length - 4 * k) = some (rs.map Record.msg) ↔
      FitsBehind k rs := by
  induction rs generalizing k with
  | nil =>
    refine iff_of_true ?_ trivial
    unfold found
    rw [buffer_nil, convertLoop_nil]
    apply messages_of_lt
    show 0 - 4 * k < 16
    omega
  | cons r rs ih =>
    have hlength := length_buffer_cons r rs
    have hlen : headerSize 4 + r.msg.payload.length < 2 ^ 32 := by
      unfold headerSize
      omega
    have hbytes : buffer (r :: rs) = header 4 (headerSize 4 + r.msg.payload.length) r.msg.level
        r.msg.type ++ r.msg.payload ++ (r.pad ++ buffer rs) := by
      rw [buffer_cons]
      unfold Record.bytes
      rw [List.append_assoc]
    by_cases havail : (buffer (r :: rs)).length - 4 * k < 16
    · refine iff_of_false (found_of_lt havail _ _) fun hf => ?_
      have hfit := hf.length
      omega
    have hfound : found (buffer (r :: rs)) ((buffer (r :: rs)).length - 4 * k) =
        (convertLoop (r.pad ++ buffer rs)).toOption.bind fun ret =>
          (messages 8 (ret.drop (padding 8 (headerSize 8 + r.msg.payload.length)))
            ((buffer (r :: rs)).length - 4 * k -
              align 8 (headerSize 8 + r.msg.payload.length))).map (r.msg :: ·) := by
      rw [hbytes] at havail ⊢
      exact found_message r.msg _ hlen (not_lt.mp havail)
    rw [hfound]
    cases rs with
    | nil =>
      -- what is behind the last message is trailing data
      have hpad := length_pad r
      have htrail : convertLoop (r.pad ++ []) = .ok [] := by
        rw [List.append_nil, convertLoop, if_pos]
        show r.pad.length < 12
        omega
      rw [buffer_nil, htrail]
      have hempty : (buffer ([] : List (Record 4))).length = 0 := rfl
      rw [hempty] at hlength
      refine iff_of_true ?_ ?_
      · show (messages 8 _ _).map _ = _
        rw [messages_of_lt]
        · rfl
        · unfold align padding headerSize
          omega
      · show 4 * (k + 1) ≤ align 4 r.msg.payload.length
        unfold align padding
        omega
    | cons r' rs =>
      by_cases hp : r.msg.payload.length % 8 = 0
      · have hpad : r.pad = [] := by
          apply List.eq_nil_of_length_eq_zero
          rw [length_pad]
          omega
        have hpad8 : padding 8 (headerSize 8 + r.msg.payload.length) = 0 := by
          unfold padding headerSize
          omega
        have hrest : (buffer (r :: r' :: rs)).length - 4 * k -
            align 8 (headerSize 8 + r.msg.payload.length) =
              (buffer (r' :: rs)).length - 4 * (k + 1) := by
          unfold align
          rw [hpad8, hlength]
          unfold headerSize
          omega
        rw [hpad, List.nil_append, hpad8, hrest]
        show _ ↔ _ ∧ FitsBehind (k + 1) (r' :: rs)
        rw [← ih (k + 1) (by omega)]
        unfold found
        cases convertLoop (buffer (r' :: rs)) with
        | error e => exact iff_of_false (fun hf => nomatch hf) fun hf => nomatch hf.2
        | ok ret =>
          show (messages 8 (ret.drop 0) _).map (r.msg :: ·) = some (r.msg :: (r' :: rs).map _) ↔
            _ ∧ messages 8 ret _ = some _
          rw [List.drop_zero, map_cons_eq_some_iff]
          exact ⟨fun hf => ⟨hp, hf⟩, fun hf => hf.2⟩
      · refine iff_of_false (fun hf => ?_) fun hf => hp hf.1
        cases hret : convertLoop (r.pad ++ buffer (r' :: rs)) with
        | error e =>
          rw [hret] at hf
          cases hf
        | ok ret =>
          rw [hret] at hf
          have hf' := map_cons_eq_some_iff.mp hf
          by_cases hend : (buffer (r :: r' :: rs)).length - 4 * k -
              align 8 (headerSize 8 + r.msg.payload.length) < headerSize 8
          · rw [messages_of_lt hend] at hf'
            cases hf'
          cases hat : messageAt 8 (ret.drop (padding 8 (headerSize 8 + r.msg.payload.length))) with
          | none =>
            rw [messages_of_none (not_lt.mp hend) hat] at hf'
            cases hf'
          | some next =>
            rw [messages_of_some (not_lt.mp hend) hat] at hf'
            have hmsg := head_of_map_cons hf'
            have hnext := length_buffer_cons r' rs
            apply shifted_message hp (length_pad r) r' (buffer rs) ?_ hret hat
            · rw [hmsg]
            · unfold headerSize
              omega

/-- the converted data are iterated right exactly if the data fit -/
theorem converts_iff (d : ControlData) : d.Converts ↔ d.Fits := by
  unfold ControlData.Converts ControlData.Fits MessageHeader.controlMessages MessageHeader.header
    MessageHeader.convertControlHeader32 ControlData.received
  rw [messages_buffer d.records d.small]
  by_cases hempty : (buffer d.records).length = 0
  · -- no message at all
    cases hr : d.records with
    | nil =>
      refine iff_of_true ?_ ⟨(fun r hm => nomatch hm), fun r hm => nomatch hm⟩
      exact messages_of_lt (by decide)
    | cons r rs =>
      rw [hr, length_buffer_cons] at hempty
      omega
  · have hfound := found_iff d.records 0 d.small
    have hfits := fitsBehind_iff d.records 0
    rw [Nat.zero_add] at hfits
    rw [Nat.mul_zero, Nat.sub_zero, hfits] at hfound
    rw [← hfound]
    unfold found
    rw [show (!true || (buffer d.records).length == 0) = false by simpa using hempty,
      if_neg Bool.false_ne_true]
    cases convertLoop (buffer d.records) <;> rfl

end

/-! ### credentials and a descriptor -/

/-- `SCM_CREDENTIALS` and `SCM_RIGHTS` -/
def credentialsAndRights : ControlData where
  records :=
    [⟨{ level := 1, type := 2, payload := List.replicate 12 1 }, [], rfl⟩,
      ⟨{ level := 1, type := 1, payload := [3, 0, 0, 0] }, [], rfl⟩]
  small := by decide

theorem converts_fails : ¬ ∀ d : ControlData, d.Converts := by
  intro h
  have hd := h credentialsAndRights
  unfold ControlData.Converts at hd
  revert hd
  decide +kernel

end Clues
