import Clues.Lib.LittleEndian

/-!
# Ancillary data

Control messages lie one behind the other.  A message is a header (its length in a machine word,
its level and its type) and a payload; the next one starts at a multiple of the machine word.

* `Record word`      a message with its padding, as a kernel with this machine word writes it;
* `messages word`    what `CMSG_FIRSTHDR()` and `CMSG_NXTHDR()` find; `messages_buffer`: they find
                     the messages that were written.
-/

namespace Lib.Ancillary

open LittleEndian

structure Message where
  level : UInt32
  type : UInt32
  payload : Bytes
  deriving DecidableEq, Repr

/-- `sizeof(struct cmsghdr)` -/
def headerSize (word : Nat) : Nat := word + 8

def padding (word n : Nat) : Nat := (word - n % word) % word

/-- `CMSG_ALIGN()` -/
def align (word n : Nat) : Nat := n + padding word n

/-- the header of a message with so many bytes -/
def header (word len : Nat) (level type : UInt32) : Bytes :=
  toLE word len ++ toLE 4 level.toNat ++ toLE 4 type.toNat

structure Record (word : Nat) where
  msg : Message
  pad : Bytes
  padded : pad.length = padding word (headerSize word + msg.payload.length)

def Record.bytes {word : Nat} (r : Record word) : Bytes :=
  header word (headerSize word + r.msg.payload.length) r.msg.level r.msg.type ++ r.msg.payload ++
    r.pad

def buffer {word : Nat} (rs : List (Record word)) : Bytes := rs.flatMap Record.bytes

/-- the length and the message at a header; `none`: it does not lie within the bytes -/
def messageAt (word : Nat) (rest : Bytes) : Option (Nat × Message) :=
  let len := le (rest.take word)
  if headerSize word ≤ len ∧ len ≤ rest.length then
    some (len,
      { level := UInt32.ofNat (le ((rest.drop word).take 4))
        type := UInt32.ofNat (le ((rest.drop (word + 4)).take 4))
        payload := (rest.take len).drop (headerSize word) })
  else none

theorem messageAt_len {word len : Nat} {rest : Bytes} {m : Message}
    (h : messageAt word rest = some (len, m)) :
    len = le (rest.take word) ∧ headerSize word ≤ len ∧ len ≤ rest.length ∧
      m.payload.length = len - headerSize word := by
  unfold messageAt at h
  dsimp only at h
  split_ifs at h with hlen
  obtain ⟨rfl, rfl⟩ := Prod.mk.inj (Option.some.inj h)
  refine ⟨rfl, hlen.1, hlen.2, ?_⟩
  show ((rest.take _).drop _).length = _
  rw [List.length_drop, List.length_take, min_eq_left hlen.2]

/-- the messages that are found in `avail` bytes; `none`: one does not lie within the bytes -/
def messages (word : Nat) (rest : Bytes) (avail : Nat) : Option (List Message) :=
  if avail < headerSize word then some []
  else
    match _h : messageAt word rest with
    | none => none
    | some (len, m) =>
        (messages word (rest.drop (align word len)) (avail - align word len)).map (m :: ·)
  termination_by avail
  decreasing_by
    have hlen := (messageAt_len _h).2.1
    unfold headerSize at *
    unfold align
    omega

section
variable {word : Nat} {rest : Bytes} {avail len : Nat} {m : Message}

theorem messages_of_lt (h : avail < headerSize word) : messages word rest avail = some [] := by
  rw [messages, if_pos h]

theorem messages_of_none (h : headerSize word ≤ avail) (hm : messageAt word rest = none) :
    messages word rest avail = none := by
  rw [messages, if_neg (not_lt.mpr h)]
  split
  · rfl
  · rename_i heq
    rw [hm] at heq
    cases heq

theorem messages_of_some (h : headerSize word ≤ avail)
    (hm : messageAt word rest = some (len, m)) :
    messages word rest avail =
      (messages word (rest.drop (align word len)) (avail - align word len)).map (m :: ·) := by
  rw [messages, if_neg (not_lt.mpr h)]
  split
  · rename_i heq
    rw [hm] at heq
    cases heq
  · rename_i heq
    rw [hm] at heq
    obtain ⟨rfl, rfl⟩ := Prod.mk.inj (Option.some.inj heq)
    rfl

@[simp] theorem length_header (level type : UInt32) :
    (header word len level type).length = headerSize word := by
  unfold header headerSize
  simp

@[simp] theorem buffer_nil : buffer ([] : List (Record word)) = [] := rfl

theorem buffer_cons (r : Record word) (rs : List (Record word)) :
    buffer (r :: rs) = r.bytes ++ buffer rs := rfl

theorem Record.length_bytes (r : Record word) :
    r.bytes.length = align word (headerSize word + r.msg.payload.length) := by
  unfold Record.bytes align
  rw [List.length_append, List.length_append, length_header, r.padded]

/-- the fields of a header, read from all the bytes as one number -/
theorem messageAt_fields (h : messageAt word rest = some (len, m)) :
    len = le rest % 256 ^ word ∧ m.level.toNat = le rest / 256 ^ word % 256 ^ 4 ∧
      m.type.toNat = le rest / 256 ^ (word + 4) % 256 ^ 4 := by
  have hnat : ∀ n : Nat, (UInt32.ofNat (n % 256 ^ 4)).toNat = n % 256 ^ 4 := by
    intro n
    rw [UInt32.toNat_ofNat']
    exact Nat.mod_mod _ _
  unfold messageAt at h
  dsimp only at h
  split_ifs at h
  obtain ⟨rfl, rfl⟩ := Prod.mk.inj (Option.some.inj h)
  refine ⟨le_take _ _, ?_, ?_⟩
  · show (UInt32.ofNat (le ((rest.drop word).take 4))).toNat = _
    rw [le_take, le_drop, hnat]
  · show (UInt32.ofNat (le ((rest.drop (word + 4)).take 4))).toNat = _
    rw [le_take, le_drop, hnat]

theorem le_header (h : len < 256 ^ word) (level type : UInt32) (tail : Bytes) :
    le (header word len level type ++ tail) = len + 256 ^ word *
      (level.toNat + 256 ^ 4 * (type.toNat + 256 ^ 4 * le tail)) := by
  unfold header
  rw [List.append_assoc, List.append_assoc, le_append, le_append, le_append, length_toLE,
    length_toLE, length_toLE, le_toLE_of_lt h, le_toLE_of_lt level.toNat_lt,
    le_toLE_of_lt type.toNat_lt]

/-- the number in four bytes of a number -/
theorem ofNat_le_toLE (n : UInt32) : UInt32.ofNat (le (toLE 4 n.toNat)) = n := by
  rw [le_toLE_of_lt n.toNat_lt, UInt32.ofNat_toNat]

/-- a message is found at its header -/
theorem messageAt_header (m : Message) (tail : Bytes)
    (hlen : headerSize word + m.payload.length < 256 ^ word) :
    messageAt word (header word (headerSize word + m.payload.length) m.level m.type ++
      m.payload ++ tail) = some (headerSize word + m.payload.length, m) := by
  have hword : (toLE word (headerSize word + m.payload.length)).length = word := length_toLE _ _
  have htake : (header word (headerSize word + m.payload.length) m.level m.type ++ m.payload ++
      tail).take word = toLE word (headerSize word + m.payload.length) := by
    unfold header
    rw [List.append_assoc, List.append_assoc, List.append_assoc, List.take_left' hword]
  have hdrop : (header word (headerSize word + m.payload.length) m.level m.type ++ m.payload ++
      tail).drop word = toLE 4 m.level.toNat ++ (toLE 4 m.type.toNat ++ (m.payload ++ tail)) := by
    unfold header
    rw [List.append_assoc, List.append_assoc, List.append_assoc, List.drop_left' hword]
  have hpay : ((header word (headerSize word + m.payload.length) m.level m.type ++ m.payload ++
      tail).take (headerSize word + m.payload.length)).drop (headerSize word) = m.payload := by
    rw [List.take_left' (by rw [List.length_append, length_header]),
      List.drop_left' (length_header _ _)]
  unfold messageAt
  dsimp only
  rw [htake, le_toLE_of_lt hlen, hpay, ← List.drop_drop, hdrop, if_pos]
  · rw [List.take_left' (length_toLE _ _), List.drop_left' (length_toLE _ _),
      List.take_left' (length_toLE _ _), ofNat_le_toLE, ofNat_le_toLE]
  · constructor
    · exact Nat.le_add_right _ _
    · rw [List.length_append, List.length_append, length_header]
      exact Nat.le_add_right _ _

/-- a record is found, and then what is behind it -/
theorem messages_record (r : Record word) (tail : Bytes)
    (hlen : headerSize word + r.msg.payload.length < 256 ^ word) (h : headerSize word ≤ avail) :
    messages word (r.bytes ++ tail) avail =
      (messages word tail (avail - r.bytes.length)).map (r.msg :: ·) := by
  have hat : messageAt word (r.bytes ++ tail) =
      some (headerSize word + r.msg.payload.length, r.msg) := by
    have h := messageAt_header r.msg (r.pad ++ tail) hlen
    rw [← List.append_assoc] at h
    exact h
  rw [messages_of_some h hat, ← r.length_bytes, List.drop_left]

/-- what was written is found -/
theorem messages_buffer (rs : List (Record word)) (hlen : (buffer rs).length < 256 ^ word) :
    messages word (buffer rs) (buffer rs).length = some (rs.map Record.msg) := by
  induction rs with
  | nil =>
    apply messages_of_lt
    show 0 < word + 8
    omega
  | cons r rs ih =>
    rw [buffer_cons, List.length_append] at hlen ⊢
    have hle : headerSize word + r.msg.payload.length ≤ r.bytes.length := by
      rw [r.length_bytes]
      exact Nat.le_add_right _ _
    rw [messages_record r _ (by omega) (by omega), Nat.add_sub_cancel_left, ih (by omega)]
    rfl

end

end Lib.Ancillary
