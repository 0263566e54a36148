import Clues.Items.Access
import Clues.Lib.Ancillary
import Clues.SysNrs
import Clues.Tracee.Memory

/-!
# Directory entries

`getdents()` and `getdents64()` fill a buffer of the tracee with records of different lengths.

* `parseEntries32`, `parseEntries64`   the loops over the records, of `fs.cxx`; an access outside of
                                       the buffer is undefined behaviour;
* `DirEntries`     the item, which is filled when the system call returns;
* `DirRecord`      a record as the kernel writes it, in one of three layouts;
* `RecordsFit`     when the loops end and stay within the buffer: `parsesSafely_iff_fit`.
-/

namespace Clues

open Lib.LittleEndian Lib.Ancillary Lib.Buffer

/-! ## parsing -/

/-- `std::string_view`: a position in the buffer and a `size_t` -/
structure View where
  start : Nat
  length : UInt64
  deriving DecidableEq, Repr

def View.read (v : View) (buf : Bytes) : Bytes := (buf.drop v.start).take v.length.toNat

/-- `DirEntries::Entry` -/
structure DirEntry where
  inode : UInt64
  offset : Int64
  name : View
  type : UInt8
  deriving DecidableEq, Repr

/-- the loop that takes zeroes from the back of the name; it never takes the first byte -/
def stripPadding (buf : Bytes) (dName : Nat) : Nat → Except Exc Nat
  | 0 => .ok 0
  | 1 => .ok 1
  | namelen + 2 => do
    let last ← inBuffer (byteAt buf (dName + namelen + 1))
    if last = 0 then stripPadding buf dName (namelen + 1) else .ok (namelen + 2)

/-- the loop for a length that may have wrapped around: `last` is before the name then -/
def nameLength (buf : Bytes) (dName : Nat) (namelen : Int) : Except Exc UInt64 :=
  if namelen < 0 then .ok (UInt64.ofInt namelen)
  else (stripPadding buf dName namelen.toNat).map UInt64.ofNat

/-- a byte at a position that may be before the buffer -/
def charAt (buf : Bytes) (pos : Int) : Except Exc UInt8 :=
  if pos < 0 then .error (.undefined .bounds) else inBuffer (byteAt buf pos.toNat)

/-- `linux_dirent` and `linux_dirent32` -/
inductive LegacyDirent where
  | linuxDirent | linuxDirent32
  deriving DecidableEq, Repr

/-- the size of `d_ino` and `d_off` -/
def LegacyDirent.word : LegacyDirent → Nat
  | .linuxDirent => 8
  | .linuxDirent32 => 4

/-- `offsetof(DIRENT, d_name)` -/
def LegacyDirent.nameOffset (d : LegacyDirent) : Nat := 2 * d.word + 2

/-- `offsetof(linux_dirent64, d_name)` -/
def nameOffset64 : Nat := 19

/-- the body of the loop in `parseEntries32()`: the entry and `d_reclen` -/
def parseEntry32 (d : LegacyDirent) (buf : Bytes) (pos : Nat) : Except Exc (DirEntry × Nat) := do
  let dReclen ← inBuffer (leAt buf (pos + 2 * d.word) 2)
  let dName := pos + d.nameOffset
  let namelen ← nameLength buf dName (dReclen - d.nameOffset - 2)
  let type ← charAt buf (pos + dReclen - 1)
  let dIno ← inBuffer (leAt buf pos d.word)
  let dOff ← inBuffer (leAt buf (pos + d.word) d.word)
  pure (
    { inode := UInt64.ofNat dIno
      offset := (UInt64.ofNat dOff).toInt64
      name := { start := dName, length := namelen }
      type := type },
    dReclen)

/-- the body of the loop in `parseEntries64()` -/
def parseEntry64 (buf : Bytes) (pos : Nat) : Except Exc (DirEntry × Nat) := do
  let dReclen ← inBuffer (leAt buf (pos + 16) 2)
  let dName := pos + nameOffset64
  let namelen ← nameLength buf dName (dReclen - nameOffset64)
  let dIno ← inBuffer (leAt buf pos 8)
  let dOff ← inBuffer (leAt buf (pos + 8) 8)
  let dType ← inBuffer (byteAt buf (pos + 18))
  pure (
    { inode := UInt64.ofNat dIno
      offset := (UInt64.ofNat dOff).toInt64
      name := { start := dName, length := namelen }
      type := dType },
    dReclen)

/-- `pos < bytes` -/
def within (buf : Bytes) (pos : Nat) : Bool := decide (pos < buf.length)

/-- `parseEntries32()`; the fuel bounds the number of rounds -/
def parseEntries32 (d : LegacyDirent) (buf : Bytes) (fuel : Nat) : Except Exc (List DirEntry) :=
  scan .outOfFuel (parseEntry32 d buf) (within buf) fuel 0

def parseEntries64 (buf : Bytes) (fuel : Nat) : Except Exc (List DirEntry) :=
  scan .outOfFuel (parseEntry64 buf) (within buf) fuel 0

/-- `DirEntries`: `m_entries` and `m_buffer` -/
structure DirEntries where
  entries : List DirEntry := []
  buffer : Bytes := []

def DirEntries.processData (_ : DirEntries) : DirEntries := {}

/-- the choice of the parser in `updateData()` -/
def parseBuffer (callNr : SystemCallNr) (abi : ABI) (buf : Bytes) (fuel : Nat) :
    Except Exc (List DirEntry) :=
  if callNr = .getdents64 then parseEntries64 buf fuel
  else if abi.is32BitEmulation then parseEntries32 .linuxDirent32 buf fuel
  else parseEntries32 .linuxDirent buf fuel

/-- `DirEntries::updateData()`; `result`: the result item, unless the call failed -/
def DirEntries.updateData (m : Memory) (ptr : UInt64) (callNr : SystemCallNr) (abi : ABI)
    (result : Option Word) (fuel : Nat) (item : DirEntries) : Except Exc DirEntries :=
  match result with
  | none => .ok item
  | some bytes =>
    if bytes = 0 then .ok item
    else do
      let buf ← readBlob m ptr bytes.toNat
      let entries ← parseBuffer callNr abi buf fuel
      pure { entries := item.entries ++ entries, buffer := buf }

/-! ## the format -/

/-- the layouts of the kernel -/
inductive DirentLayout where
  | legacy (d : LegacyDirent)
  | dirent64
  deriving DecidableEq, Repr

/-- the size of the inode number and of the offset, to which records are aligned -/
def DirentLayout.word : DirentLayout → Nat
  | .legacy d => d.word
  | .dirent64 => 8

def DirentLayout.nameOffset : DirentLayout → Nat
  | .legacy d => d.nameOffset
  | .dirent64 => nameOffset64

/-- what follows the name besides the padding: its terminator, in the legacy layouts the type -/
def DirentLayout.trailer : DirentLayout → Nat
  | .legacy _ => 2
  | .dirent64 => 1

/-- the layout that the kernel uses -/
def DirentLayout.of (callNr : SystemCallNr) (abi : ABI) : DirentLayout :=
  if callNr = .getdents64 then .dirent64
  else if abi.is32BitEmulation then .legacy .linuxDirent32
  else .legacy .linuxDirent

/-- a record; the padding holds any bytes -/
structure DirRecord (l : DirentLayout) where
  ino : Nat
  off : Nat
  type : UInt8
  name : Bytes
  pad : Bytes
  ino_lt : ino < 256 ^ l.word
  off_lt : off < 256 ^ l.word
  named : name ≠ []
  terminated : (0 : UInt8) ∉ name
  padded : pad.length = padding l.word (l.nameOffset + name.length + l.trailer)
  small : l.nameOffset + name.length + l.trailer + pad.length < 256 ^ 2

def DirRecord.reclen {l : DirentLayout} (r : DirRecord l) : Nat :=
  l.nameOffset + r.name.length + l.trailer + r.pad.length

def DirRecord.bytes {l : DirentLayout} (r : DirRecord l) : Bytes :=
  match l with
  | .legacy d =>
    toLE d.word r.ino ++ (toLE d.word r.off ++ (toLE 2 r.reclen ++
      (r.name ++ (0 :: (r.pad ++ [r.type])))))
  | .dirent64 =>
    toLE 8 r.ino ++ (toLE 8 r.off ++ (toLE 2 r.reclen ++ (r.type :: (r.name ++ (0 :: r.pad)))))

/-- inode, offset, name and type -/
structure Decoded where
  inode : UInt64
  offset : Int64
  name : Bytes
  type : UInt8

def DirRecord.decoded {l : DirentLayout} (r : DirRecord l) : Decoded :=
  { inode := UInt64.ofNat r.ino
    offset := (UInt64.ofNat r.off).toInt64
    name := r.name
    type := r.type }

def DirEntry.decoded (buf : Bytes) (e : DirEntry) : Decoded :=
  { inode := e.inode, offset := e.offset, name := e.name.read buf, type := e.type }

def DirEntries.decoded (item : DirEntries) : List Decoded :=
  item.entries.map (DirEntry.decoded item.buffer)

/-- the loop for a layout -/
def parseEntry (l : DirentLayout) (buf : Bytes) (pos : Nat) : Except Exc (DirEntry × Nat) :=
  match l with
  | .legacy d => parseEntry32 d buf pos
  | .dirent64 => parseEntry64 buf pos

def parseEntries (l : DirentLayout) (buf : Bytes) (fuel : Nat) : Except Exc (List DirEntry) :=
  match l with
  | .legacy d => parseEntries32 d buf fuel
  | .dirent64 => parseEntries64 buf fuel

/-! ## safety -/

/-- the loop ends, and accesses nothing outside of the buffer -/
def ParsesSafely (l : DirentLayout) (buf : Bytes) : Prop :=
  (∃ fuel, parseEntries l buf fuel ≠ .error .outOfFuel) ∧
    ∀ fuel, parseEntries l buf fuel ≠ .error (.undefined .bounds)

/-- the bytes of a record that are accessed; those of a `linux_dirent64` whose name is at most one
byte long are not -/
def DirentLayout.Within (l : DirentLayout) (buf : Bytes) (pos reclen : Nat) : Prop :=
  match l with
  | .legacy _ => pos + reclen ≤ buf.length
  | .dirent64 => pos + nameOffset64 ≤ buf.length ∧
      (pos + reclen ≤ buf.length ∨ reclen ≤ nameOffset64 + 1)

/-- the records from a position on: the header of each of them lies within the buffer, its length
is not 0 and does not go beyond the buffer -/
inductive RecordsFit (l : DirentLayout) (buf : Bytes) : Nat → Prop
  | stop {pos : Nat} (h : buf.length ≤ pos) : RecordsFit l buf pos
  | next {pos reclen : Nat} (hlen : leAt buf (pos + 2 * l.word) 2 = some reclen)
      (hpos : 0 < reclen) (hin : l.Within buf pos reclen)
      (hrest : RecordsFit l buf (pos + reclen)) : RecordsFit l buf pos

/-! ## accesses -/

section
variable {buf : Bytes} {dName : Nat}

theorem onlyBounds_stripPadding (buf : Bytes) (dName n : Nat) :
    OnlyBounds (stripPadding buf dName n) := by
  induction n using Nat.strong_induction_on with
  | h n ih =>
    match n with
    | 0 => exact .ok 0
    | 1 => exact .ok 1
    | n + 2 =>
      apply OnlyBounds.bind (onlyBounds_inBuffer _)
      intro last
      show OnlyBounds (if last = 0 then _ else _)
      split
      · exact ih (n + 1) (by omega)
      · exact .ok _

theorem onlyBounds_nameLength (buf : Bytes) (dName : Nat) (n : Int) :
    OnlyBounds (nameLength buf dName n) := by
  unfold nameLength
  split
  · exact .ok _
  · intro e h
    cases hs : stripPadding buf dName n.toNat with
    | error e' =>
      rw [hs] at h
      cases h
      exact onlyBounds_stripPadding _ _ _ _ hs
    | ok k =>
      rw [hs] at h
      cases h

theorem onlyBounds_charAt (buf : Bytes) (pos : Int) : OnlyBounds (charAt buf pos) := by
  unfold charAt
  split
  · intro e h
    cases h
    rfl
  · exact onlyBounds_inBuffer _

/-- the scan reads the last byte first -/
theorem stripPadding_ok_iff {n : Nat} :
    (∃ k, stripPadding buf dName n = .ok k) ↔ n < 2 ∨ dName + n ≤ buf.length := by
  induction n using Nat.strong_induction_on with
  | h n ih =>
    match n with
    | 0 => exact iff_of_true ⟨0, rfl⟩ (Or.inl (by omega))
    | 1 => exact iff_of_true ⟨1, rfl⟩ (Or.inl (by omega))
    | n + 2 =>
      by_cases hle : dName + (n + 2) ≤ buf.length
      · apply iff_of_true _ (Or.inr hle)
        have hlt : dName + n + 1 < buf.length := by omega
        obtain ⟨k, hk⟩ := (ih (n + 1) (by omega)).mpr (Or.inr (by omega))
        unfold stripPadding
        rw [byteAt_of_lt hlt]
        show ∃ k, (if buf[dName + n + 1] = 0 then _ else _) = Except.ok k
        split
        · exact ⟨k, hk⟩
        · exact ⟨n + 2, rfl⟩
      · apply iff_of_false
        · intro h
          obtain ⟨k, hk⟩ := h
          unfold stripPadding at hk
          rw [byteAt_of_le (by omega)] at hk
          cases hk
        · omega

theorem nameLength_ok_iff {n : Int} :
    (∃ k, nameLength buf dName n = .ok k) ↔ n < 2 ∨ dName + n ≤ buf.length := by
  unfold nameLength
  by_cases hn : n < 0
  · rw [if_pos hn]
    exact iff_of_true ⟨_, rfl⟩ (Or.inl (by omega))
  · rw [if_neg hn]
    have hstrip : (∃ k, stripPadding buf dName n.toNat = .ok k)
        ↔ n.toNat < 2 ∨ dName + n.toNat ≤ buf.length := stripPadding_ok_iff
    have hcond : (n.toNat < 2 ∨ dName + n.toNat ≤ buf.length)
        ↔ (n < 2 ∨ dName + n ≤ buf.length) := by
      omega
    rw [← hcond, ← hstrip]
    constructor
    · intro h
      obtain ⟨k, hk⟩ := h
      cases hs : stripPadding buf dName n.toNat with
      | error e =>
        rw [hs] at hk
        cases hk
      | ok k' => exact ⟨k', rfl⟩
    · intro h
      obtain ⟨k, hk⟩ := h
      rw [hk]
      exact ⟨_, rfl⟩

theorem charAt_ok_iff {p : Int} : (∃ b, charAt buf p = .ok b) ↔ 0 ≤ p ∧ p < buf.length := by
  unfold charAt
  by_cases hp : p < 0
  · rw [if_pos hp]
    apply iff_of_false
    · intro h
      obtain ⟨b, hb⟩ := h
      cases hb
    · omega
  · rw [if_neg hp]
    by_cases hlt : p.toNat < buf.length
    · rw [byteAt_of_lt hlt]
      exact iff_of_true ⟨_, rfl⟩ (by omega)
    · rw [byteAt_of_le (by omega)]
      apply iff_of_false
      · intro h
        obtain ⟨b, hb⟩ := h
        cases hb
      · omega

end

/-! ## one record -/

section
variable {d : LegacyDirent} {l : DirentLayout} {buf : Bytes} {pos reclen : Nat}

theorem parseEntry32_iff (hpos : 0 < reclen) :
    (∃ e, parseEntry32 d buf pos = .ok (e, reclen)) ↔
      leAt buf (pos + 2 * d.word) 2 = some reclen ∧ pos + reclen ≤ buf.length := by
  have hoff : d.nameOffset = 2 * d.word + 2 := rfl
  unfold parseEntry32
  constructor
  · intro h
    obtain ⟨e, he⟩ := h
    obtain ⟨r, hr, he⟩ := bind_eq_ok.mp he
    obtain ⟨k, hk, he⟩ := bind_eq_ok.mp he
    obtain ⟨t, ht, he⟩ := bind_eq_ok.mp he
    obtain ⟨i, hi, he⟩ := bind_eq_ok.mp he
    obtain ⟨o, ho, he⟩ := bind_eq_ok.mp he
    cases he
    refine ⟨inBuffer_eq_ok.mp hr, ?_⟩
    have hchar := charAt_ok_iff.mp ⟨t, ht⟩
    omega
  · intro h
    obtain ⟨hr, hle⟩ := h
    have hhead := leAt_some_le hr
    obtain ⟨k, hk⟩ : ∃ k, nameLength buf (pos + d.nameOffset) (reclen - d.nameOffset - 2) = .ok k :=
      nameLength_ok_iff.mpr (by omega)
    obtain ⟨t, ht⟩ : ∃ t, charAt buf (pos + reclen - 1) = .ok t := charAt_ok_iff.mpr (by omega)
    obtain ⟨i, hi⟩ : ∃ i, leAt buf pos d.word = some i := ⟨_, leAt_of_le (by omega)⟩
    obtain ⟨o, ho⟩ : ∃ o, leAt buf (pos + d.word) d.word = some o := ⟨_, leAt_of_le (by omega)⟩
    exact ⟨_, bind_eq_ok.mpr ⟨reclen, inBuffer_eq_ok.mpr hr, bind_eq_ok.mpr ⟨k, hk, bind_eq_ok.mpr
      ⟨t, ht, bind_eq_ok.mpr ⟨i, inBuffer_eq_ok.mpr hi, bind_eq_ok.mpr
        ⟨o, inBuffer_eq_ok.mpr ho, rfl⟩⟩⟩⟩⟩⟩

theorem parseEntry64_iff :
    (∃ e, parseEntry64 buf pos = .ok (e, reclen)) ↔
      leAt buf (pos + 16) 2 = some reclen ∧ DirentLayout.dirent64.Within buf pos reclen := by
  have hoff : nameOffset64 = 19 := rfl
  unfold parseEntry64
  show _ ↔ _ ∧ _ ∧ _
  constructor
  · intro h
    obtain ⟨e, he⟩ := h
    obtain ⟨r, hr, he⟩ := bind_eq_ok.mp he
    obtain ⟨k, hk, he⟩ := bind_eq_ok.mp he
    obtain ⟨i, hi, he⟩ := bind_eq_ok.mp he
    obtain ⟨o, ho, he⟩ := bind_eq_ok.mp he
    obtain ⟨t, ht, he⟩ := bind_eq_ok.mp he
    cases he
    have hname := nameLength_ok_iff.mp ⟨k, hk⟩
    have htype : pos + 18 < buf.length := by
      by_contra hlt
      rw [byteAt_of_le (by omega)] at ht
      cases ht
    exact ⟨inBuffer_eq_ok.mp hr, by omega, by omega⟩
  · intro h
    obtain ⟨hr, hle, hname⟩ := h
    obtain ⟨k, hk⟩ : ∃ k, nameLength buf (pos + nameOffset64) (reclen - nameOffset64) = .ok k :=
      nameLength_ok_iff.mpr (by omega)
    obtain ⟨i, hi⟩ : ∃ i, leAt buf pos 8 = some i := ⟨_, leAt_of_le (by omega)⟩
    obtain ⟨o, ho⟩ : ∃ o, leAt buf (pos + 8) 8 = some o := ⟨_, leAt_of_le (by omega)⟩
    obtain ⟨t, ht⟩ : ∃ t, byteAt buf (pos + 18) = some t := ⟨_, byteAt_of_lt (by omega)⟩
    exact ⟨_, bind_eq_ok.mpr ⟨reclen, inBuffer_eq_ok.mpr hr, bind_eq_ok.mpr ⟨k, hk, bind_eq_ok.mpr
      ⟨i, inBuffer_eq_ok.mpr hi, bind_eq_ok.mpr ⟨o, inBuffer_eq_ok.mpr ho, bind_eq_ok.mpr
        ⟨t, inBuffer_eq_ok.mpr ht, rfl⟩⟩⟩⟩⟩⟩

theorem parseEntry_iff (hpos : 0 < reclen) :
    (∃ e, parseEntry l buf pos = .ok (e, reclen)) ↔
      leAt buf (pos + 2 * l.word) 2 = some reclen ∧ l.Within buf pos reclen := by
  cases l with
  | legacy d => exact parseEntry32_iff hpos
  | dirent64 => exact parseEntry64_iff

theorem onlyBounds_parseEntry (l : DirentLayout) (buf : Bytes) (pos : Nat) :
    OnlyBounds (parseEntry l buf pos) := by
  cases l with
  | legacy d =>
    exact (onlyBounds_inBuffer _).bind fun r => (onlyBounds_nameLength _ _ _).bind fun _ =>
      (onlyBounds_charAt _ _).bind fun _ => (onlyBounds_inBuffer _).bind fun _ =>
        (onlyBounds_inBuffer _).bind fun _ => .ok _
  | dirent64 =>
    exact (onlyBounds_inBuffer _).bind fun r => (onlyBounds_nameLength _ _ _).bind fun _ =>
      (onlyBounds_inBuffer _).bind fun _ => (onlyBounds_inBuffer _).bind fun _ =>
        (onlyBounds_inBuffer _).bind fun _ => .ok _

/-! ## the loop -/

theorem parseEntries_eq (l : DirentLayout) (buf : Bytes) (fuel : Nat) :
    parseEntries l buf fuel = scan .outOfFuel (parseEntry l buf) (within buf) fuel 0 := by
  cases l <;> rfl

theorem lt_of_within (hlen : leAt buf (pos + 2 * l.word) 2 = some reclen) :
    within buf pos = true := by
  have hle := leAt_some_le hlen
  unfold within
  apply decide_eq_true
  omega

theorem framed_iff : Framed (parseEntry l buf) (within buf) pos ↔ RecordsFit l buf pos := by
  constructor
  · intro h
    induction h with
    | stop h => exact .stop (Nat.le_of_not_lt (of_decide_eq_false h))
    | next _ hi hlen _ ih =>
      obtain ⟨hr, hin⟩ := (parseEntry_iff hlen).mp ⟨_, hi⟩
      exact .next hr hlen hin ih
  · intro h
    induction h with
    | stop h => exact .stop (decide_eq_false (Nat.not_lt.mpr h))
    | next hlen hpos hin _ ih =>
      obtain ⟨e, he⟩ := (parseEntry_iff hpos).mpr ⟨hlen, hin⟩
      exact .next (lt_of_within hlen) he hpos ih

/-- for each layout and each content of the buffer: the loop ends and stays within the buffer if
and only if the records do -/
theorem parsesSafely_iff_fit (l : DirentLayout) (buf : Bytes) :
    ParsesSafely l buf ↔ RecordsFit l buf 0 := by
  have hne : Exc.undefined .bounds ≠ Exc.outOfFuel := by
    intro h
    cases h
  rw [← framed_iff, ← scan_safe_iff Exc.outOfFuel
    (fun pos e' => onlyBounds_parseEntry l buf pos e') hne]
  unfold ParsesSafely
  simp only [parseEntries_eq]

/-- a record of length 0 at the start -/
theorem parsesSafely_fails : ¬ ∀ l buf, ParsesSafely l buf := by
  intro h
  have hbounds := (h (.legacy .linuxDirent) (List.replicate 24 0)).2 1
  apply hbounds
  decide

end

end Clues
