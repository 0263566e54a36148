import Clues.Lib.Digits
import Clues.Tracee.FDs

/-!
# Descriptors in /proc

* `getFDInfos`     `get_fd_infos()` of `utils.cxx`, over the texts that `/proc` shows;
* `KernelFd`       a descriptor as the kernel prints it into these texts;
* `ProcDir.Shows`  `/proc` shows the kernel's descriptors;
* `snapshot_eq`    what is found out about each of them then.
-/

namespace Clues

open Lib Lib.Digits

/-! ## taking texts apart -/

/-- functions of cosmos for strings -/
structure TextFns where
  /-- `split()`: the text, the separator, whether the parts are stripped, how many splits at most -/
  split : Text → Text → Bool → Nat → List Text
  /-- `stripped()`: the text and the characters to remove at both ends -/
  stripped : Text → Text → Text

structure TextFns.Documented (fns : TextFns) : Prop where
  split : ∀ {a b : Text}, ':' ∉ a → a ≠ [] → b ≠ [] →
    fns.split (a ++ ':' :: b) [':'] false 1 = [a, b]
  splitStripped : ∀ {a b : Text}, ':' ∉ a → a ≠ [] → b ≠ [] → (∀ c ∈ a, isSpace c = false) →
    (∀ c ∈ b, isSpace c = false) → fns.split (a ++ ':' :: '\t' :: b) [':'] true 1 = [a, b]
  stripped : ∀ {a : Text}, '[' ∉ a → ']' ∉ a → fns.stripped ('[' :: a ++ [']']) ['[', ']'] = a

/-- `std::stoi()` and `std::stoul()`, which throw without a number or out of range -/
def stoi (base : Nat) (s : Text) : Option Int :=
  (integer base s).filter fun n => decide (-2 ^ 31 ≤ n ∧ n < 2 ^ 31)

def stoul (s : Text) : Option Nat :=
  ((integer 10 s).filter fun n => decide (n.natAbs < 2 ^ 64)).map fun n => (n % 2 ^ 64).toNat

/-! ## utils.cxx -/

def toFDInfoType (type : String) : FDType :=
  if type = "pipe" then .pipe
  else if type = "socket" then .socket
  else if type = "eventfd" then .eventFd
  else if type = "eventpoll" then .epoll
  else if type = "pidfd" then .pidFd
  else if type = "signalfd" then .signalFd
  else if type = "timerfd" then .timerFd
  else if type = "inotify" then .inotify
  else if type = "bpf-map" then .bpfMap
  else if type = "bpf-prog" then .bpfProg
  else if type = "perf_event" then .perfEvent
  else .unknown

/-- `none` if the type information cannot be parsed -/
def parseTypeInfo (fns : TextFns) (typeInfo : Text) (info : FDInfo) : Option FDInfo :=
  if typeInfo.head? = some '/' then
    some { info with path := String.ofList typeInfo, type := .fsPath, inode := none }
  else
    match fns.split typeInfo [':'] false 1 with
    | [type, rest] =>
      let stripped := fns.stripped rest ['[', ']']
      if String.ofList type = "anon_inode" then
        some { info with type := toFDInfoType (String.ofList stripped) }
      else
        (stoul stripped).map fun inode =>
          { info with type := toFDInfoType (String.ofList type), inode := some inode }
    | _ => none

/-- the lower two bits of the raw flags and the other ones -/
def OpenMode.ofRaw (raw : Nat) : OpenMode :=
  if raw % 4 = 0 then .readOnly else if raw % 4 = 1 then .writeOnly
  else if raw % 4 = 2 then .readWrite else .other

def OpenFlags.ofRaw (raw : Nat) : OpenFlags := (raw >>> 2) <<< 2

/-- the loop of `parse_fd_info()`; `none` if it throws -/
def parseFlags (fns : TextFns) : List Text → Option Nat
  | [] => none
  | line :: ls =>
    match fns.split line [':'] true 1 with
    | [key, value] =>
      if String.ofList key = "flags" then (stoi 8 value).map fun raw => (raw % 2 ^ 32).toNat
      else parseFlags fns ls
    | _ => parseFlags fns ls

def parseFDInfo (fns : TextFns) (fdinfo : Text) (info : FDInfo) : Option FDInfo :=
  (parseFlags fns (lines fdinfo)).map fun raw =>
    { info with mode := some (OpenMode.ofRaw raw), flags := some (OpenFlags.ofRaw raw) }

/-- an entry of `/proc/<pid>/fd`; the link may be unreadable -/
structure ProcEntry where
  name : Text
  link : Option Text

/-- `/proc/<pid>/fd` and `/proc/<pid>/fdinfo` -/
structure ProcDir where
  entries : List ProcEntry
  fdinfo : FileNum → Option Text

def ProcEntry.isDotEntry (entry : ProcEntry) : Bool := entry.name = ['.'] || entry.name = ['.', '.']

/-- one round of the loop of `get_fd_infos()`: errors other than those of `parse_type_info()` only
leave the data out -/
def entryInfo (fns : TextFns) (dir : ProcDir) (entry : ProcEntry) : Option FDInfo :=
  if entry.isDotEntry then none
  else
    match stoi 10 entry.name with
    | none => none
    | some fd =>
      let info : FDInfo := { fd := fd }
      let typed := match entry.link with
        | some typeInfo => parseTypeInfo fns typeInfo info
        | none => some info
      typed.map fun info => ((dir.fdinfo fd).bind fun s => parseFDInfo fns s info).getD info

def getFDInfos (fns : TextFns) (dir : ProcDir) : List FDInfo := dir.entries.filterMap (entryInfo fns dir)

/-- the map that `handleAttached()` makes of them -/
def initialMap (infos : List FDInfo) : FDInfoMap :=
  infos.foldl (fun map info => map.insert info.fd info) OrdMap.empty

/-! ## what the kernel prints -/

/-- a link and the flags; `FD_CLOEXEC` is shown as `O_CLOEXEC` -/
structure KernelFd where
  link : Text
  flags : Nat
  small : flags < 2 ^ 31
  pos : Nat
  /-- further lines -/
  rest : Text

def KernelFd.fdinfo (d : KernelFd) : Text :=
  "pos".toList ++ ':' :: '\t' :: Nat.toDigits 10 d.pos ++ '\n' ::
    ("flags".toList ++ ':' :: '\t' :: '0' :: Nat.toDigits 8 d.flags ++ '\n' :: d.rest)

/-- the descriptors that are open -/
structure KernelTable where
  find : FileNum → Option KernelFd
  range : ∀ {fd : FileNum} {d : KernelFd}, find fd = some d → 0 ≤ fd ∧ fd.toNat < 2 ^ 31

/-- the name of an entry -/
def fdName (fd : FileNum) : Text := Nat.toDigits 10 fd.toNat

structure ProcDir.Shows (dir : ProcDir) (table : KernelTable) : Prop where
  listed : ∀ entry ∈ dir.entries, entry.isDotEntry = true ∨
    ∃ fd d, table.find fd = some d ∧ entry.name = fdName fd ∧ entry.link = some d.link
  complete : ∀ {fd d}, table.find fd = some d → ∃ entry ∈ dir.entries, entry.name = fdName fd
  fdinfo : ∀ {fd d}, table.find fd = some d → dir.fdinfo fd = some d.fdinfo

/-- what is found out about a descriptor -/
def KernelFd.info (fns : TextFns) (fd : FileNum) (d : KernelFd) : Option FDInfo :=
  (parseTypeInfo fns d.link { fd := fd }).map fun info =>
    { info with mode := some (OpenMode.ofRaw d.flags), flags := some (OpenFlags.ofRaw d.flags) }

section
variable {fns : TextFns} {dir : ProcDir} {table : KernelTable} {fd : FileNum} {d : KernelFd}

/-! ### numbers -/

theorem stoi_ofNat {base n : Nat} {s : Text} (hs : integer base s = some (n : Int))
    (hn : n < 2 ^ 31) : stoi base s = some (n : Int) := by
  unfold stoi
  rw [hs, Option.filter_some, decide_eq_true]
  · rfl
  · omega

theorem stoi_fdName (hfd : 0 ≤ fd ∧ fd.toNat < 2 ^ 31) : stoi 10 (fdName fd) = some fd := by
  have hread := integer_toDigits 10 (by decide) (by decide) fd.toNat
  unfold fdName
  rw [stoi_ofNat hread hfd.2, Int.toNat_of_nonneg hfd.1]

theorem stoul_toDigits (n : UInt64) : stoul (Nat.toDigits 10 n.toNat) = some n.toNat := by
  have hread := integer_toDigits 10 (by decide) (by decide) n.toNat
  have hlt : n.toNat < 2 ^ 64 := n.toNat_lt
  unfold stoul
  rw [hread, Option.filter_some, if_pos (by rw [Int.natAbs_natCast]; exact decide_eq_true hlt),
    Option.map_some]
  have hmod : ((n.toNat : Int) % 2 ^ 64).toNat = n.toNat := by omega
  rw [hmod]

theorem toDigits_plain (base : Nat) (hb' : 1 < base) (hb : base ≤ 10) (n : Nat) :
    ∀ c ∈ Nat.toDigits base n, isSpace c = false ∧ c ≠ '\n' ∧ c ≠ '[' ∧ c ≠ ']' ∧ c ≠ '.' := by
  intro c hc
  obtain ⟨hspace, -, -, hnl, hopen, hclose, -, hdot⟩ :=
    digit_ne (isDigit_of_mem_toDigits hb' hb n c hc)
  exact ⟨hspace, hnl, hopen, hclose, hdot⟩

/-! ### flags -/

theorem OpenFlags.testBit_ofRaw (raw : Nat) {i : Nat} (hi : 2 ≤ i) :
    (OpenFlags.ofRaw raw).testBit i = raw.testBit i := by
  unfold OpenFlags.ofRaw
  rw [Nat.testBit_shiftLeft, decide_eq_true hi, Bool.true_and, Nat.testBit_shiftRight,
    Nat.add_sub_cancel' hi]

theorem not_mem_line {key ds : Text} (hkey : '\n' ∉ key) (hds : ∀ c ∈ ds, c ≠ '\n') :
    '\n' ∉ key ++ ':' :: '\t' :: ds := by
  intro hm
  rcases List.mem_append.mp hm with hm | hm
  · exact hkey hm
  · rcases List.mem_cons.mp hm with hm | hm
    · exact absurd hm (by decide)
    · rcases List.mem_cons.mp hm with hm | hm
      · exact absurd hm (by decide)
      · exact hds _ hm rfl

/-- the flags stand in the second line -/
theorem parseFlags_fdinfo (hdoc : fns.Documented) (d : KernelFd) :
    parseFlags fns (lines d.fdinfo) = some d.flags := by
  have hpos := toDigits_plain 10 (by decide) (by decide) d.pos
  have hoct := toDigits_plain 8 (by decide) (by decide) d.flags
  have hflags : ∀ c ∈ '0' :: Nat.toDigits 8 d.flags, isSpace c = false ∧ c ≠ '\n' := by
    intro c hc
    rcases List.mem_cons.mp hc with rfl | hc
    · decide
    · exact ⟨(hoct c hc).1, (hoct c hc).2.1⟩
  have hlines : lines d.fdinfo = ("pos".toList ++ ':' :: '\t' :: Nat.toDigits 10 d.pos) ::
      ("flags".toList ++ ':' :: '\t' :: '0' :: Nat.toDigits 8 d.flags) :: lines d.rest := by
    unfold KernelFd.fdinfo
    rw [lines_append (not_mem_line (by decide) fun c hc => (hpos c hc).2.1),
      lines_append (not_mem_line (by decide) fun c hc => (hflags c hc).2)]
  have hkey1 : ∀ c ∈ "pos".toList, isSpace c = false := by
    show ∀ c ∈ ['p', 'o', 's'], isSpace c = false
    intro c hc
    simp only [List.mem_cons, List.not_mem_nil, or_false] at hc
    rcases hc with rfl | rfl | rfl <;> rfl
  have hkey2 : ∀ c ∈ "flags".toList, isSpace c = false := by
    show ∀ c ∈ ['f', 'l', 'a', 'g', 's'], isSpace c = false
    intro c hc
    simp only [List.mem_cons, List.not_mem_nil, or_false] at hc
    rcases hc with rfl | rfl | rfl | rfl | rfl <;> rfl
  have hsplit1 : fns.split ("pos".toList ++ ':' :: '\t' :: Nat.toDigits 10 d.pos) [':'] true 1 = _ :=
    hdoc.splitStripped (by decide) (by decide) Nat.toDigits_ne_nil hkey1 fun c hc => (hpos c hc).1
  have hsplit2 : fns.split ("flags".toList ++ ':' :: '\t' :: '0' :: Nat.toDigits 8 d.flags) [':'] true
      1 = _ :=
    hdoc.splitStripped (by decide) (by decide) (List.cons_ne_nil _ _) hkey2
      fun c hc => (hflags c hc).1
  have hread := integer_zero_toDigits 8 (by decide) (by decide) d.flags
  have hsmall := d.small
  rw [hlines, parseFlags, hsplit1]
  dsimp only
  rw [if_neg (by decide), parseFlags, hsplit2]
  dsimp only
  rw [if_pos (by decide), stoi_ofNat hread hsmall, Option.map_some]
  have hmod : ((d.flags : Int) % 2 ^ 32).toNat = d.flags := by omega
  rw [hmod]

/-! ### entries -/

theorem KernelFd.info_fd {info : FDInfo} (h : d.info fns fd = some info) : info.fd = fd := by
  unfold KernelFd.info parseTypeInfo at h
  obtain ⟨i, hi, rfl⟩ := Option.map_eq_some_iff.mp h
  dsimp only
  split_ifs at hi with hpath
  · rw [← Option.some.inj hi]
  · split at hi
    · split_ifs at hi with hanon
      · rw [← Option.some.inj hi]
      · obtain ⟨inode, -, rfl⟩ := Option.map_eq_some_iff.mp hi
        rfl
    · cases hi

/-- a number is no dot entry -/
theorem isDotEntry_fdName {entry : ProcEntry} (hname : entry.name = fdName fd) :
    entry.isDotEntry = false := by
  have hplain := toDigits_plain 10 (by decide) (by decide) fd.toNat
  unfold ProcEntry.isDotEntry
  rw [hname]
  have hne : ∀ s : Text, '.' ∈ s → decide (fdName fd = s) = false := by
    intro s hm
    apply decide_eq_false
    intro heq
    rw [← heq] at hm
    exact (hplain _ hm).2.2.2.2 rfl
  rw [hne _ (by decide), hne _ (by decide)]
  rfl

theorem entryInfo_of_shows (hdoc : fns.Documented) (hs : dir.Shows table)
    (hd : table.find fd = some d) {entry : ProcEntry} (hname : entry.name = fdName fd)
    (hlink : entry.link = some d.link) : entryInfo fns dir entry = d.info fns fd := by
  unfold entryInfo KernelFd.info
  rw [isDotEntry_fdName hname, hname, stoi_fdName (table.range hd), hlink, if_neg Bool.false_ne_true]
  dsimp only
  have hparse : ∀ info, ((some d.fdinfo).bind fun s => parseFDInfo fns s info).getD info =
      { info with mode := some (OpenMode.ofRaw d.flags), flags := some (OpenFlags.ofRaw d.flags) } := by
    intro info
    rw [Option.bind_some]
    unfold parseFDInfo
    rw [parseFlags_fdinfo hdoc]
    rfl
  rw [hs.fdinfo hd]
  apply congrArg (fun f => Option.map f _)
  funext info
  exact hparse info

theorem mem_getFDInfos (hdoc : fns.Documented) (hs : dir.Shows table) {info : FDInfo} :
    info ∈ getFDInfos fns dir ↔ ∃ d, table.find info.fd = some d ∧ d.info fns info.fd = some info := by
  unfold getFDInfos
  rw [List.mem_filterMap]
  constructor
  · rintro ⟨entry, he, hinfo⟩
    rcases hs.listed entry he with hdot | ⟨fd, d, hd, hname, hlink⟩
    · unfold entryInfo at hinfo
      rw [if_pos hdot] at hinfo
      cases hinfo
    · rw [entryInfo_of_shows hdoc hs hd hname hlink] at hinfo
      rw [KernelFd.info_fd hinfo]
      exact ⟨d, hd, hinfo⟩
  · rintro ⟨d, hd, hinfo⟩
    obtain ⟨entry, he, hname⟩ := hs.complete hd
    refine ⟨entry, he, ?_⟩
    rcases hs.listed entry he with hdot | ⟨fd', d', hd', hname', hlink⟩
    · rw [isDotEntry_fdName hname] at hdot
      cases hdot
    · have hsame : fd' = info.fd := by
        have h1 := stoi_fdName (table.range hd')
        rw [← hname', hname, stoi_fdName (table.range hd)] at h1
        exact (Option.some.inj h1).symm
      rw [hsame, hd] at hd'
      obtain rfl := Option.some.inj hd'
      rw [entryInfo_of_shows hdoc hs hd hname hlink, hinfo]

/-! ### the map -/

/-- the first of the infos for a descriptor is kept -/
theorem find?_foldl_insert (infos : List FDInfo) (map : FDInfoMap) (fd : FileNum) :
    (infos.foldl (fun map info => map.insert info.fd info) map).find? fd =
      (map.find? fd).or (infos.find? fun info => info.fd = fd) := by
  induction infos generalizing map with
  | nil => rw [List.foldl_nil, List.find?_nil, Option.or_none]
  | cons info infos ih =>
    rw [List.foldl_cons, ih, OrdMap.find?_insert, List.find?_cons]
    by_cases h : fd = info.fd
    · rw [if_pos h, decide_eq_true h.symm, h]
      cases map.find? info.fd <;> rfl
    · rw [if_neg h, decide_eq_false fun heq => h heq.symm]

theorem snapshot_eq (hdoc : fns.Documented) (hs : dir.Shows table) (fd : FileNum) :
    (initialMap (getFDInfos fns dir)).find? fd = (table.find fd).bind (KernelFd.info fns fd) := by
  have hmem := @mem_getFDInfos fns dir table hdoc hs
  unfold initialMap
  rw [find?_foldl_insert, OrdMap.find?_empty, Option.none_or]
  cases hf : (getFDInfos fns dir).find? (fun info => decide (info.fd = fd)) with
  | none =>
    have hnone := List.find?_eq_none.mp hf
    cases hd : table.find fd with
    | none => rfl
    | some d =>
      cases hi : d.info fns fd with
      | none => rw [Option.bind_some, hi]
      | some info =>
        exfalso
        have hfd := KernelFd.info_fd hi
        rw [← hfd] at hd hi
        exact hnone info (hmem.mpr ⟨d, hd, hi⟩) (decide_eq_true hfd)
  | some info =>
    have hfd : info.fd = fd :=
      of_decide_eq_true (List.find?_some (p := fun info : FDInfo => decide (info.fd = fd)) hf)
    obtain ⟨d, hd, hi⟩ := hmem.mp (List.mem_of_find?_eq_some hf)
    rw [← hfd, hd, Option.bind_some, hi]

end

end Clues
