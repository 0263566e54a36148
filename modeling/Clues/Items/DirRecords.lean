import Clues.Items.Dirents
import Mathlib.Data.List.DropRight

/-!
# Decoding directory entries

The length of a name is not stored: it is what is left of the record after its header, without the
zero bytes at the end.

* `DirRecord.found`   the entry that the parsers make of a record;
* `direntBuffer`      the records of a call, one behind the other;
* `DirRead`           a system call whose records are in the memory of the tracee;
* `DirRead.Fits`      when the entries are the records: `decodesExactly_iff_fits`.
-/

namespace Clues

open Lib.LittleEndian Lib.Buffer

/-! ## decoding -/

/-- the bytes behind the name that the parser looks at, apart from the terminator: the byte before
the type is not among them -/
def DirRecord.scannedPad {l : DirentLayout} (r : DirRecord l) : Bytes :=
  match l with
  | .legacy _ => r.pad.dropLast
  | .dirent64 => r.pad

def DirRecord.ZeroPadded {l : DirentLayout} (r : DirRecord l) : Prop := ∀ b ∈ r.scannedPad, b = 0

instance {l : DirentLayout} (r : DirRecord l) : Decidable r.ZeroPadded :=
  inferInstanceAs (Decidable (∀ b ∈ r.scannedPad, b = 0))

/-- what follows the name up to where the scan begins -/
def DirRecord.tail {l : DirentLayout} (r : DirRecord l) : Bytes :=
  match l with
  | .legacy _ => (0 :: r.pad).dropLast
  | .dirent64 => 0 :: r.pad

/-- what is taken for a part of the name -/
def DirRecord.leftover {l : DirentLayout} (r : DirRecord l) : Bytes :=
  r.tail.rdropWhile (· == 0)

section
variable {l : DirentLayout} {buf front back name : Bytes} {dName pos : Nat}

theorem stripPadding_eq {tail : Bytes} (h : buf = front ++ (name ++ (tail ++ back)))
    (hpos : front.length = dName) (hne : name ≠ []) (hnul : (0 : UInt8) ∉ name) :
    stripPadding buf dName (name ++ tail).length
      = .ok (name.length + (tail.rdropWhile (· == 0)).length) := by
  induction tail using List.reverseRecOn generalizing back with
  | nil =>
    rw [List.append_nil, List.rdropWhile_nil]
    obtain ⟨init, last, rfl⟩ := (List.eq_nil_or_concat' name).resolve_left hne
    have hlast : last ≠ 0 := by
      intro h0
      apply hnul
      simp [h0]
    cases init with
    | nil => rfl
    | cons b init =>
      have hlen : (b :: init ++ [last]).length = init.length + 2 := by simp
      have hsplit : buf = (front ++ (b :: init)) ++ last :: back := by
        rw [h]
        simp
      have hbyte : byteAt buf (dName + init.length + 1) = some last := by
        apply byteAt_of_eq hsplit
        simp only [List.length_append, List.length_cons, hpos]
        omega
      rw [hlen]
      unfold stripPadding
      rw [hbyte]
      exact if_neg hlast
  | append_singleton tail b ih =>
    have hpos' : 0 < name.length := List.length_pos_iff.mpr hne
    obtain ⟨n, hn⟩ : ∃ n, name.length + tail.length = n + 1 := ⟨_, (Nat.succ_pred (by omega)).symm⟩
    have hlen : (name ++ (tail ++ [b])).length = n + 2 := by
      simp only [List.length_append, List.length_singleton]
      omega
    have hsplit : buf = (front ++ (name ++ tail)) ++ b :: back := by
      rw [h]
      simp
    have hbyte : byteAt buf (dName + n + 1) = some b := by
      apply byteAt_of_eq hsplit
      simp only [List.length_append, hpos]
      omega
    rw [hlen]
    unfold stripPadding
    rw [hbyte]
    show (if b = 0 then stripPadding buf dName (n + 1) else _) = _
    by_cases hb : b = 0
    · have hlen' : (name ++ tail).length = n + 1 := by
        rw [List.length_append, hn]
      have hdrop : (tail ++ [b]).rdropWhile (· == 0) = tail.rdropWhile (· == 0) := by
        apply List.rdropWhile_concat_pos
        simp [hb]
      have hsplit' : buf = front ++ (name ++ (tail ++ b :: back)) := by
        rw [h]
        simp
      rw [if_pos hb, hdrop, ← hlen', ih hsplit']
    · have hdrop : (tail ++ [b]).rdropWhile (· == 0) = tail ++ [b] := by
        apply List.rdropWhile_concat_neg
        simp [hb]
      rw [if_neg hb, hdrop, List.length_append, List.length_singleton]
      show Except.ok (n + 2) = Except.ok _
      congr 1
      omega

theorem nameLength_eq {tail : Bytes} {n : Int} (h : buf = front ++ (name ++ (tail ++ back)))
    (hpos : front.length = dName) (hne : name ≠ []) (hnul : (0 : UInt8) ∉ name)
    (hn : n = name.length + tail.length) :
    nameLength buf dName n
      = .ok (UInt64.ofNat (name.length + (tail.rdropWhile (· == 0)).length)) := by
  have hnat : n.toNat = (name ++ tail).length := by
    rw [List.length_append]
    omega
  unfold nameLength
  rw [if_neg (by omega), hnat, stripPadding_eq h hpos hne hnul]
  rfl

theorem charAt_eq {b : UInt8} {p : Int} (h : buf = front ++ b :: back) (hp : p = front.length) :
    charAt buf p = .ok b := by
  unfold charAt
  rw [if_neg (by omega), byteAt_of_eq h (by omega)]
  rfl

theorem DirRecord.length_bytes (r : DirRecord l) : r.bytes.length = r.reclen := by
  unfold DirRecord.bytes DirRecord.reclen
  cases l with
  | legacy d =>
    have hoff : (DirentLayout.legacy d).nameOffset = 2 * d.word + 2 := rfl
    have htr : (DirentLayout.legacy d).trailer = 2 := rfl
    simp only [List.length_append, List.length_cons, length_toLE, List.length_nil, hoff, htr]
    omega
  | dirent64 =>
    have hoff : DirentLayout.dirent64.nameOffset = 19 := rfl
    have htr : DirentLayout.dirent64.trailer = 1 := rfl
    simp only [List.length_append, List.length_cons, length_toLE, hoff, htr]
    omega

/-- the name and what follows it up to where the scan begins -/
theorem DirRecord.bytes_split (r : DirRecord l) :
    ∃ head rest, r.bytes = head ++ (r.name ++ (r.tail ++ rest)) ∧ head.length = l.nameOffset := by
  unfold DirRecord.bytes DirRecord.tail
  cases l with
  | legacy d =>
    obtain ⟨last, hlast⟩ : ∃ last, (0 :: r.pad).dropLast ++ [last] = 0 :: r.pad :=
      ⟨_, List.dropLast_concat_getLast (List.cons_ne_nil 0 r.pad)⟩
    have hrest : (0 :: (r.pad ++ [r.type]) : Bytes)
        = (0 :: r.pad).dropLast ++ ([last] ++ [r.type]) := by
      rw [← List.append_assoc, hlast]
      rfl
    refine ⟨toLE d.word r.ino ++ toLE d.word r.off ++ toLE 2 r.reclen, [last] ++ [r.type], ?_, ?_⟩
    · show _ ++ (_ ++ (_ ++ (_ ++ (0 :: (r.pad ++ [r.type]) : Bytes)))) = _
      rw [hrest]
      simp only [List.append_assoc]
    · have hoff : (DirentLayout.legacy d).nameOffset = 2 * d.word + 2 := rfl
      simp only [List.length_append, length_toLE, hoff]
      omega
  | dirent64 =>
    refine ⟨toLE 8 r.ino ++ toLE 8 r.off ++ toLE 2 r.reclen ++ [r.type], [], ?_, ?_⟩
    · simp
    · simp only [List.length_append, length_toLE, List.length_singleton]
      rfl

theorem DirRecord.buffer_split (r : DirRecord l) (h : buf = front ++ (r.bytes ++ back))
    (hpos : front.length = pos) :
    ∃ head rest, buf = head ++ (r.name ++ (r.tail ++ rest)) ∧ head.length = pos + l.nameOffset := by
  obtain ⟨head, rest, hbytes, hlen⟩ := r.bytes_split
  refine ⟨front ++ head, rest ++ back, ?_, ?_⟩
  · rw [h, hbytes]
    simp only [List.append_assoc]
  · rw [List.length_append, hpos, hlen]

/-- the entry that is made of a record at a position -/
def DirRecord.entry (r : DirRecord l) (pos : Nat) : DirEntry :=
  { inode := UInt64.ofNat r.ino
    offset := (UInt64.ofNat r.off).toInt64
    name :=
      { start := pos + l.nameOffset, length := UInt64.ofNat (r.name.length + r.leftover.length) }
    type := r.type }

theorem parseEntry32_record {d : LegacyDirent} (r : DirRecord (.legacy d))
    (h : buf = front ++ (r.bytes ++ back)) (hpos : front.length = pos) :
    parseEntry32 d buf pos = .ok (r.entry pos, r.reclen) := by
  have hoff : d.nameOffset = 2 * d.word + 2 := rfl
  have hreclen : r.reclen = d.nameOffset + r.name.length + 2 + r.pad.length := rfl
  -- the buffer, split at each of the accesses
  have h0 : buf = front ++ (toLE d.word r.ino ++ (toLE d.word r.off ++ (toLE 2 r.reclen ++
      (r.name ++ (0 :: r.pad ++ r.type :: back))))) := by
    rw [h]
    unfold DirRecord.bytes
    simp
  have h1 : buf = (front ++ toLE d.word r.ino) ++ (toLE d.word r.off ++ (toLE 2 r.reclen ++
      (r.name ++ (0 :: r.pad ++ r.type :: back)))) := by
    rw [h0, List.append_assoc]
  have h2 : buf = (front ++ toLE d.word r.ino ++ toLE d.word r.off) ++ (toLE 2 r.reclen ++
      (r.name ++ (0 :: r.pad ++ r.type :: back))) := by
    rw [h1]
    simp
  obtain ⟨head, rest, h3, hhead⟩ := r.buffer_split h hpos
  have h4 : buf = (front ++ toLE d.word r.ino ++ toLE d.word r.off ++ toLE 2 r.reclen ++ r.name ++
      0 :: r.pad) ++ r.type :: back := by
    rw [h2]
    simp
  have htail : r.tail.length = r.pad.length := by
    show ((0 :: r.pad).dropLast).length = _
    rw [List.length_dropLast, List.length_cons, Nat.add_sub_cancel]
  have hino : leAt buf pos d.word = some r.ino := leAt_of_eq h0 hpos r.ino_lt
  have hdoff : leAt buf (pos + d.word) d.word = some r.off := by
    apply leAt_of_eq h1 _ r.off_lt
    simp [hpos]
  have hlen : leAt buf (pos + 2 * d.word) 2 = some r.reclen := by
    apply leAt_of_eq h2 _ r.small
    simp only [List.length_append, length_toLE, hpos]
    omega
  have hname : nameLength buf (pos + d.nameOffset) (r.reclen - d.nameOffset - 2)
      = .ok (UInt64.ofNat (r.name.length + r.leftover.length)) := by
    apply nameLength_eq h3 hhead r.named r.terminated
    omega
  have htype : charAt buf (pos + r.reclen - 1) = .ok r.type := by
    apply charAt_eq h4
    simp only [List.length_append, List.length_cons, length_toLE, hpos]
    omega
  unfold parseEntry32
  rw [hlen]
  show (nameLength buf (pos + d.nameOffset) (r.reclen - d.nameOffset - 2) >>= _) = _
  rw [hname]
  show (charAt buf (pos + r.reclen - 1) >>= _) = _
  rw [htype, hino, hdoff]
  rfl

theorem parseEntry64_record (r : DirRecord .dirent64) (h : buf = front ++ (r.bytes ++ back))
    (hpos : front.length = pos) : parseEntry64 buf pos = .ok (r.entry pos, r.reclen) := by
  have hoff : nameOffset64 = 19 := rfl
  have hreclen : r.reclen = 19 + r.name.length + 1 + r.pad.length := rfl
  have h0 : buf = front ++ (toLE 8 r.ino ++ (toLE 8 r.off ++ (toLE 2 r.reclen ++
      (r.type :: (r.name ++ (r.tail ++ back)))))) := by
    rw [h]
    unfold DirRecord.bytes DirRecord.tail
    simp
  have h1 : buf = (front ++ toLE 8 r.ino) ++ (toLE 8 r.off ++ (toLE 2 r.reclen ++
      (r.type :: (r.name ++ (r.tail ++ back))))) := by
    rw [h0, List.append_assoc]
  have h2 : buf = (front ++ toLE 8 r.ino ++ toLE 8 r.off) ++ (toLE 2 r.reclen ++
      (r.type :: (r.name ++ (r.tail ++ back)))) := by
    rw [h1]
    simp
  have h3 : buf = (front ++ toLE 8 r.ino ++ toLE 8 r.off ++ toLE 2 r.reclen) ++
      r.type :: (r.name ++ (r.tail ++ back)) := by
    rw [h2]
    simp
  obtain ⟨head, rest, h4, hhead⟩ := r.buffer_split h hpos
  have htail : r.tail.length = 1 + r.pad.length := by
    show (0 :: r.pad).length = _
    rw [List.length_cons, Nat.add_comm]
  have hino : leAt buf pos 8 = some r.ino := leAt_of_eq h0 hpos r.ino_lt
  have hdoff : leAt buf (pos + 8) 8 = some r.off := by
    apply leAt_of_eq h1 _ r.off_lt
    simp [hpos]
  have hlen : leAt buf (pos + 16) 2 = some r.reclen := by
    apply leAt_of_eq h2 _ r.small
    simp only [List.length_append, length_toLE, hpos]
  have htype : byteAt buf (pos + 18) = some r.type := by
    apply byteAt_of_eq h3
    simp only [List.length_append, length_toLE, hpos]
  have hname : nameLength buf (pos + nameOffset64) (r.reclen - nameOffset64)
      = .ok (UInt64.ofNat (r.name.length + r.leftover.length)) := by
    apply nameLength_eq h4 hhead r.named r.terminated
    omega
  unfold parseEntry64
  rw [hlen]
  show (nameLength buf (pos + nameOffset64) (r.reclen - nameOffset64) >>= _) = _
  rw [hname, hino, hdoff, htype]
  rfl

theorem parseEntry_record (r : DirRecord l) (h : buf = front ++ (r.bytes ++ back))
    (hpos : front.length = pos) : parseEntry l buf pos = .ok (r.entry pos, r.reclen) := by
  cases l with
  | legacy d => exact parseEntry32_record r h hpos
  | dirent64 => exact parseEntry64_record r h hpos

theorem DirRecord.leftover_prefix (r : DirRecord l) : r.leftover <+: r.tail :=
  List.rdropWhile_prefix (· == 0) r.tail

theorem DirRecord.leftover_length (r : DirRecord l) :
    r.name.length + r.leftover.length < 2 ^ 64 := by
  have hle := r.leftover_prefix.length_le
  have htail : r.tail.length ≤ 1 + r.pad.length := by
    unfold DirRecord.tail
    cases l with
    | legacy d => simp
    | dirent64 => simp [Nat.add_comm]
  have hsmall := r.small
  omega

theorem DirRecord.leftover_eq_nil_iff (r : DirRecord l) : r.leftover = [] ↔ r.ZeroPadded := by
  have hnil : r.leftover = [] ↔ ∀ b ∈ r.tail, b = 0 := by
    unfold DirRecord.leftover
    rw [List.rdropWhile_eq_nil_iff]
    simp
  rw [hnil]
  unfold DirRecord.ZeroPadded DirRecord.tail DirRecord.scannedPad
  cases l with
  | legacy d =>
    show (∀ b ∈ (0 :: r.pad).dropLast, b = 0) ↔ ∀ b ∈ r.pad.dropLast, b = 0
    cases r.pad with
    | nil => simp
    | cons b bs =>
      rw [List.dropLast_cons_cons, List.forall_mem_cons]
      simp
  | dirent64 =>
    show (∀ b ∈ 0 :: r.pad, b = 0) ↔ ∀ b ∈ r.pad, b = 0
    rw [List.forall_mem_cons]
    simp

/-- the entry of a record: its name goes on with what is left of the padding -/
def DirRecord.found (r : DirRecord l) : Decoded := { r.decoded with name := r.name ++ r.leftover }

theorem DirRecord.decoded_entry (r : DirRecord l) (h : buf = front ++ (r.bytes ++ back))
    (hpos : front.length = pos) : (r.entry pos).decoded buf = r.found := by
  obtain ⟨head, rest, hbuf, hhead⟩ := r.buffer_split h hpos
  obtain ⟨more, hmore⟩ := r.leftover_prefix
  have hread : (buf.drop (pos + l.nameOffset)).take (r.name.length + r.leftover.length)
      = r.name ++ r.leftover := by
    rw [hbuf, ← hhead, List.drop_left, ← hmore]
    have hlen : r.name.length + r.leftover.length = (r.name ++ r.leftover).length := by
      rw [List.length_append]
    have hsplit : r.name ++ (r.leftover ++ more ++ rest)
        = (r.name ++ r.leftover) ++ (more ++ rest) := by
      simp only [List.append_assoc]
    rw [hlen, hsplit, List.take_left]
  have hnat : (UInt64.ofNat (r.name.length + r.leftover.length)).toNat
      = r.name.length + r.leftover.length :=
    UInt64.toNat_ofNat_of_lt' r.leftover_length
  unfold DirEntry.decoded DirRecord.entry DirRecord.found View.read
  simp only [hnat, hread]
  rfl

end

/-! ## a buffer of records -/

def direntBuffer {l : DirentLayout} (rs : List (DirRecord l)) : Bytes := rs.flatMap DirRecord.bytes

theorem parseEntries_buffer {l : DirentLayout} (rs : List (DirRecord l)) :
    (parseEntries l (direntBuffer rs) (rs.length + 1)).map
        (List.map (DirEntry.decoded (direntBuffer rs)))
      = .ok (rs.map DirRecord.found) := by
  rw [parseEntries_eq, ← scan_map]
  have hfront : direntBuffer rs = [] ++ rs.flatMap DirRecord.bytes := rfl
  apply scan_records hfront (fun _ => rfl)
  intro before r after hsplit
  constructor
  · have hname : 0 < r.name.length := List.length_pos_iff.mpr r.named
    rw [r.length_bytes]
    unfold DirRecord.reclen
    omega
  · rw [parseEntry_record r hsplit rfl, r.length_bytes, ← r.decoded_entry hsplit rfl]
    rfl

/-- the parser that is chosen is the one for the layout of the kernel -/
theorem parseBuffer_eq (callNr : SystemCallNr) (abi : ABI) (buf : Bytes) (fuel : Nat) :
    parseBuffer callNr abi buf fuel = parseEntries (DirentLayout.of callNr abi) buf fuel := by
  unfold parseBuffer DirentLayout.of
  split
  · rfl
  · split <;> rfl

/-- a system call that returned, and the records that the kernel wrote for it -/
structure DirRead where
  callNr : SystemCallNr
  abi : ABI
  reads : callNr = .getdents ∨ callNr = .getdents64
  records : List (DirRecord (DirentLayout.of callNr abi))
  mem : Memory
  ptr : UInt64
  result : Word
  written : bytesAt mem ptr result.toNat = some (direntBuffer records)

namespace DirRead

/-- the item after the call; it may have been used before -/
def parsed (d : DirRead) (item : DirEntries) (fuel : Nat) : Except Exc DirEntries :=
  item.processData.updateData d.mem d.ptr d.callNr d.abi (some d.result) fuel

/-- the entries are the records, one by one -/
def DecodesExactly (d : DirRead) (item : DirEntries) : Prop :=
  ∃ fuel item', d.parsed item fuel = .ok item' ∧
    item'.decoded = d.records.map DirRecord.decoded

/-- the words that hold the buffer can be read, and the padding that is looked at is zero -/
def Fits (d : DirRead) : Prop :=
  d.records = [] ∨
    BlobFits d.mem d.ptr d.result.toNat ∧ ∀ r ∈ d.records, r.ZeroPadded

section
variable {d : DirRead} {item : DirEntries}

theorem result_toNat (d : DirRead) : d.result.toNat = (direntBuffer d.records).length :=
  (bytesAt_length d.written).symm

theorem result_eq_zero_iff (d : DirRead) : d.result = 0 ↔ d.records = [] := by
  have hlen := d.result_toNat
  constructor
  · intro h
    rw [h] at hlen
    cases hr : d.records with
    | nil => rfl
    | cons r rs =>
      have hname : 0 < r.name.length := List.length_pos_iff.mpr r.named
      have hbytes := r.length_bytes
      unfold DirRecord.reclen at hbytes
      rw [hr] at hlen
      unfold direntBuffer at hlen
      rw [List.flatMap_cons, List.length_append] at hlen
      have h0 : (0 : Word).toNat = 0 := rfl
      omega
  · intro h
    rw [h] at hlen
    exact UInt64.toNat_inj.mp hlen

theorem parsed_of_nil (h : d.records = []) (fuel : Nat) : d.parsed item fuel = .ok {} := by
  unfold parsed DirEntries.updateData
  simp only [(result_eq_zero_iff d).mpr h]
  rfl

theorem parsed_of_ne_nil (h : d.records ≠ []) (fuel : Nat) :
    d.parsed item fuel = (readBlob d.mem d.ptr d.result.toNat).bind fun buf =>
      (parseEntries (DirentLayout.of d.callNr d.abi) buf fuel).map fun entries =>
        { entries := entries, buffer := buf } := by
  have h0 : ¬ d.result = 0 := fun hr => h ((result_eq_zero_iff d).mp hr)
  unfold parsed DirEntries.updateData
  simp only [if_neg h0]
  cases readBlob d.mem d.ptr d.result.toNat with
  | error e => rfl
  | ok buf =>
    show (parseBuffer d.callNr d.abi buf fuel >>= _)
      = (parseEntries (DirentLayout.of d.callNr d.abi) buf fuel).map _
    rw [parseBuffer_eq]
    cases parseEntries (DirentLayout.of d.callNr d.abi) buf fuel <;> rfl

/-- all entries are right if and only if nothing is left of the padding -/
theorem found_eq_decoded_iff {l : DirentLayout} (rs : List (DirRecord l)) :
    rs.map DirRecord.found = rs.map DirRecord.decoded ↔ ∀ r ∈ rs, r.ZeroPadded := by
  rw [List.map_inj_left]
  apply forall₂_congr
  intro r _
  rw [← r.leftover_eq_nil_iff]
  constructor
  · intro h
    have hname : r.name ++ r.leftover = r.name := congrArg Decoded.name h
    exact List.append_right_eq_self.mp hname
  · intro h
    unfold DirRecord.found
    rw [h, List.append_nil]
    rfl

theorem parseEntries_ok_eq {l : DirentLayout} {rs : List (DirRecord l)} {fuel : Nat}
    {entries : List DirEntry} (h : parseEntries l (direntBuffer rs) fuel = .ok entries) :
    entries.map (DirEntry.decoded (direntBuffer rs)) = rs.map DirRecord.found := by
  have hmap := parseEntries_buffer rs
  cases hp : parseEntries l (direntBuffer rs) (rs.length + 1) with
  | error e =>
    rw [hp] at hmap
    cases hmap
  | ok entries' =>
    rw [hp] at hmap
    rw [parseEntries_eq] at h hp
    have h1 := scan_mono h (le_max_left fuel (rs.length + 1))
    have h2 := scan_mono hp (le_max_right fuel (rs.length + 1))
    rw [h1] at h2
    cases h2
    exact Except.ok.inj hmap

/-- for each call, layout, list of records and padding: the entries are exactly the records if and
only if the padding behind the names is zero and the buffer can be read in words -/
theorem decodesExactly_iff_fits (d : DirRead) (item : DirEntries) :
    d.DecodesExactly item ↔ d.Fits := by
  unfold DecodesExactly Fits
  by_cases hnil : d.records = []
  · rw [hnil]
    apply iff_of_true _ (Or.inl rfl)
    exact ⟨0, {}, parsed_of_nil hnil 0, rfl⟩
  · have hor : (d.records = [] ∨ BlobFits d.mem d.ptr d.result.toNat ∧
        ∀ r ∈ d.records, r.ZeroPadded)
        ↔ BlobFits d.mem d.ptr d.result.toNat ∧ ∀ r ∈ d.records, r.ZeroPadded :=
      or_iff_right hnil
    rw [hor, ← readBlob_iff, ← found_eq_decoded_iff, d.written]
    simp only [parsed_of_ne_nil hnil]
    constructor
    · intro h
      obtain ⟨fuel, item', hp, hdec⟩ := h
      cases hb : readBlob d.mem d.ptr d.result.toNat with
      | error e =>
        rw [hb] at hp
        cases hp
      | ok buf =>
        have hread := readBlob_eq (m := d.mem) d.ptr d.result.toNat
        rw [hb, d.written] at hread
        split at hread
        · obtain rfl : buf = direntBuffer d.records := Option.some.inj hread
          refine ⟨rfl, ?_⟩
          rw [hb] at hp
          cases he : parseEntries (DirentLayout.of d.callNr d.abi) (direntBuffer d.records) fuel with
          | error e =>
            change (parseEntries _ (direntBuffer d.records) fuel).map _ = _ at hp
            rw [he] at hp
            cases hp
          | ok entries =>
            change (parseEntries _ (direntBuffer d.records) fuel).map _ = _ at hp
            rw [he] at hp
            cases hp
            rw [← parseEntries_ok_eq he]
            exact hdec
        · cases hread
    · intro h
      obtain ⟨hb, hfound⟩ := h
      cases hr : readBlob d.mem d.ptr d.result.toNat with
      | error e =>
        rw [hr] at hb
        cases hb
      | ok buf =>
        rw [hr] at hb
        obtain rfl : buf = direntBuffer d.records := Option.some.inj hb
        have hmap := parseEntries_buffer d.records
        cases he : parseEntries (DirentLayout.of d.callNr d.abi) (direntBuffer d.records)
            (d.records.length + 1) with
        | error e =>
          rw [he] at hmap
          cases hmap
        | ok entries =>
          refine ⟨d.records.length + 1, { entries := entries, buffer := direntBuffer d.records },
            ?_, ?_⟩
          · show (parseEntries _ (direntBuffer d.records) (d.records.length + 1)).map _ = _
            rw [he]
            rfl
          · rw [← hfound]
            exact parseEntries_ok_eq he

end

/-- a regular file `a`; the first byte of the padding is whatever the process left there -/
def fileA : DirRecord (DirentLayout.of .getdents .x86_64) where
  ino := 7
  off := 1
  type := 8
  name := [97]
  pad := [1, 0, 0]
  ino_lt := by decide
  off_lt := by decide
  named := by decide
  terminated := by decide
  padded := by decide
  small := by decide

def readA : DirRead where
  callNr := .getdents
  abi := .x86_64
  reads := Or.inl rfl
  records := [fileA]
  mem := fun a => if a < 4096 then none else some ((direntBuffer [fileA]).getD (a - 4096).toNat 0)
  ptr := 4096
  result := 24
  written := by decide +kernel

/-- the name is read as `a`, a zero byte and the byte behind it -/
theorem decodesExactly_fails : ¬ ∀ (d : DirRead) (item : DirEntries), d.DecodesExactly item := by
  intro h
  obtain ⟨fuel, item', hp, hdec⟩ := h readA {}
  rw [parsed_of_ne_nil (List.cons_ne_nil _ _)] at hp
  have hread : readBlob readA.mem readA.ptr readA.result.toNat
      = .ok (direntBuffer readA.records) := by
    decide +kernel
  rw [hread] at hp
  cases he : parseEntries (DirentLayout.of readA.callNr readA.abi) (direntBuffer readA.records)
      fuel with
  | error e =>
    change (parseEntries _ (direntBuffer readA.records) fuel).map _ = _ at hp
    rw [he] at hp
    cases hp
  | ok entries =>
    change (parseEntries _ (direntBuffer readA.records) fuel).map _ = _ at hp
    rw [he] at hp
    cases hp
    have hfound : readA.records.map DirRecord.found = readA.records.map DirRecord.decoded :=
      (parseEntries_ok_eq he).symm.trans hdec
    have hpad : ¬ ∀ r ∈ readA.records, r.ZeroPadded := by
      intro hall
      have h1 : (1 : UInt8) = 0 := hall fileA List.mem_cons_self 1 (by decide)
      cases h1
    exact hpad ((found_eq_decoded_iff _).mp hfound)

end DirRead

end Clues
