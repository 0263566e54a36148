import Clues.Items.MsgStructs
import Clues.Lib.Digits

/-!
# Sets of descriptors for select()

* `FDSet`             the item of `io.cxx`: the set on entry and the one on exit;
* `SelectCall`        what the item sees of a call;
* `listing`           the text for the descriptors below the limit that are in the tracee's set;
* `listsExactly_iff`  when the text of the item is made of these.
-/

namespace Clues

open Lib Lib.LittleEndian Lib.Digits

/-- `FD_SETSIZE` -/
def fdSetSize : Nat := 1024

/-- `sizeof(fd_set)` -/
def fdSetBytes : Nat := 128

/-- `FDSet`; the sets are the bytes of an `fd_set` -/
structure FDSet where
  ptr : UInt64 := 0
  reqSet : Option Bytes := none
  evSet : Option Bytes := none

/-- `PointerValue::formatBadPointer()` -/
def formatBadPointer (ptr : UInt64) : Text :=
  if ptr = 0 then "NULL".toList
  else "0x".toList ++ Nat.toDigits 16 ptr.toNat ++ " → [<invalid>]".toList

namespace FDSet

/-- `FD_ISSET()` on little-endian words; `none`: the word is not in the set -/
def isSet (set : Bytes) (fd : Nat) : Option Bool := set[fd / 8]?.map fun b => b.toNat.testBit (fd % 8)

/-- the loop of `FDSet::Array::str()` for `n` descriptors from `fd` on -/
def arrayLoop (set : Bytes) : Nat → Nat → Bool → Text → Except Exc Text
  | 0, _, _, ret => .ok ret
  | n + 1, fd, first, ret =>
    match isSet set fd with
    | none => .error (.undefined .bounds)
    | some false => arrayLoop set n (fd + 1) first ret
    | some true =>
      let ret := if first then ret else ret ++ [',', ' ']
      arrayLoop set n (fd + 1) false (ret ++ Nat.toDigits 10 fd)

def arrayStr (set : Bytes) (maxFD : Int) : Except Exc Text :=
  (arrayLoop set maxFD.toNat 0 true ['[']).map (· ++ [']'])

/-- `valueAs<int>()` of the item `nfds` -/
def maxFD (nfds : Word) : Int := Int.bmod nfds.toNat (2 ^ 32)

def processData (c : ItemContext) (p : FDSet) : Except Exc FDSet :=
  if p.ptr = 0 then .ok { p with reqSet := none, evSet := none }
  else
    (Memory.readStructIntoOptional c.mem p.ptr fdSetBytes fdSetBytes).map fun set =>
      { p with reqSet := set, evSet := none }

def updateData (c : ItemContext) (p : FDSet) : Except Exc FDSet :=
  if p.reqSet.isNone then .ok p
  else if !c.hasResultValue then .ok p
  else
    (Memory.readStructIntoOptional c.mem p.ptr fdSetBytes fdSetBytes).map fun set =>
      { p with evSet := set }

def str (nfds : Word) (p : FDSet) : Except Exc Text :=
  match p.reqSet with
  | none => .ok (formatBadPointer p.ptr)
  | some req => do
    let ret ← arrayStr req (maxFD nfds)
    match p.evSet with
    | none => pure ret
    | some ev => do
      let evs ← arrayStr ev (maxFD nfds)
      pure (ret ++ " → ".toList ++ evs)

end FDSet

/-! ## a call -/

/-- `select()` or `pselect6()`, with one of its sets -/
structure SelectCall where
  ptr : UInt64
  nfds : Word
  entry : ItemContext
  exit : ItemContext

namespace SelectCall

/-- the descriptors of the call -/
def count (call : SelectCall) : Nat := (FDSet.maxFD call.nfds).toNat

/-- the bytes of the words that hold the bits of the descriptors -/
def accessed (call : SelectCall) : Nat :=
  if call.entry.is32BitEmulationABI then 4 * ((call.count + 31) / 32)
  else 8 * ((call.count + 63) / 64)

/-- the words that the kernel accesses can be read -/
def Accessible (call : SelectCall) (c : ItemContext) : Prop :=
  call.ptr ≠ 0 ∧ (bytesAt c.mem call.ptr call.accessed).isSome

instance (call : SelectCall) (c : ItemContext) : Decidable (call.Accessible c) :=
  inferInstanceAs (Decidable (_ ∧ _))

/-- a whole `fd_set` can be read -/
def WholeSet (call : SelectCall) (c : ItemContext) : Prop :=
  (bytesAt c.mem call.ptr fdSetBytes).isSome

/-- the descriptor is in the set of the tracee -/
def member (call : SelectCall) (c : ItemContext) (fd : Nat) : Bool :=
  ((c.mem (call.ptr + UInt64.ofNat (fd / 8))).getD 0).toNat.testBit (fd % 8)

/-- the text for the descriptors in the set that are smaller than `nfds` and `FD_SETSIZE` -/
def listing (call : SelectCall) (c : ItemContext) : Text :=
  '[' :: [',', ' '].intercalate
    (((List.range (min call.count fdSetSize)).filter (call.member c)).map (Nat.toDigits 10)) ++ [']']

/-- the request is there if it can be read, and the text lists it and, after a success, the result -/
structure Lists (call : SelectCall) (entered exited : FDSet) : Prop where
  available : call.Accessible call.entry → entered.reqSet.isSome
  entry : entered.str call.nfds = .ok
    (if entered.reqSet.isSome then call.listing call.entry else formatBadPointer call.ptr)
  exit : exited.str call.nfds = .ok
    (if exited.reqSet.isSome then
      call.listing call.entry ++
        if call.exit.hasResultValue ∧ call.Accessible call.exit then
          " → ".toList ++ call.listing call.exit
        else []
    else formatBadPointer call.ptr)

/-- the item may have been used before -/
def ListsExactly (call : SelectCall) (p : FDSet) : Prop :=
  ∃ entered exited, { p with ptr := call.ptr }.processData call.entry = .ok entered ∧
    entered.updateData call.exit = .ok exited ∧ call.Lists entered exited

/-- there is no set, or it cannot be read at all, or all of it can be read, the descriptors are in
it and the result of a success can be read as a whole, if at all -/
def Fits (call : SelectCall) : Prop :=
  call.ptr = 0 ∨
  (¬ call.WholeSet call.entry ∧ ¬ call.Accessible call.entry) ∨
  (call.WholeSet call.entry ∧ call.count ≤ fdSetSize ∧
    (call.exit.hasResultValue = true → call.Accessible call.exit → call.WholeSet call.exit))

end SelectCall

/-! ## the text of a set -/

namespace FDSet

section
variable {set : Bytes} {n fd : Nat}

/-- the entries of the text behind the ones that are there -/
def entries : Bool → List Nat → Text
  | _, [] => []
  | first, fd :: fds => (if first then [] else [',', ' ']) ++ Nat.toDigits 10 fd ++ entries false fds

theorem entries_eq (fds : List Nat) :
    entries true fds = [',', ' '].intercalate (fds.map (Nat.toDigits 10)) := by
  cases fds with
  | nil => rfl
  | cons fd fds =>
    induction fds generalizing fd with
    | nil => simp [entries, List.intercalate]
    | cons fd' fds ih =>
      have h := ih fd'
      simp only [entries, if_true, List.nil_append, List.map_cons, List.intercalate,
        List.intersperse_cons_cons, List.flatten_cons] at h ⊢
      simp only [Bool.false_eq_true, if_false]
      rw [← h]
      simp

theorem isSet_of_lt (hset : set.length = fdSetBytes) (h : fd < fdSetSize) :
    ∃ b, isSet set fd = some b := by
  have hlt : fd / 8 < set.length := by
    rw [hset]
    unfold fdSetSize at h
    unfold fdSetBytes
    omega
  unfold isSet
  rw [List.getElem?_eq_getElem hlt]
  exact ⟨_, rfl⟩

theorem isSet_of_le (hset : set.length = fdSetBytes) (h : fdSetSize ≤ fd) :
    isSet set fd = none := by
  have hle : set.length ≤ fd / 8 := by
    rw [hset]
    unfold fdSetSize at h
    unfold fdSetBytes
    omega
  unfold isSet
  rw [List.getElem?_eq_none hle]
  rfl

/-- inside of the set the members are listed -/
theorem arrayLoop_eq (hset : set.length = fdSetBytes) (h : fd + n ≤ fdSetSize) (first : Bool)
    (ret : Text) : arrayLoop set n fd first ret
      = .ok (ret ++ entries first ((List.range' fd n).filter fun fd => (isSet set fd).getD false)) := by
  induction n generalizing fd first ret with
  | zero =>
    rw [List.range'_zero]
    show Except.ok ret = _
    rw [List.filter_nil, entries, List.append_nil]
  | succ n ih =>
    obtain ⟨b, hb⟩ := isSet_of_lt hset (show fd < fdSetSize by omega)
    rw [arrayLoop, hb, List.range'_succ]
    cases b with
    | false =>
      rw [List.filter_cons_of_neg (by simp [hb])]
      exact ih (by omega) first ret
    | true =>
      rw [List.filter_cons_of_pos (by simp [hb])]
      dsimp only
      rw [ih (by omega)]
      cases first <;> simp [entries]

/-- behind it the access is undefined -/
theorem arrayLoop_outside (hset : set.length = fdSetBytes) (hfd : fd ≤ fdSetSize)
    (h : fdSetSize < fd + n) (first : Bool) (ret : Text) :
    arrayLoop set n fd first ret = .error (.undefined .bounds) := by
  induction n generalizing fd first ret with
  | zero => omega
  | succ n ih =>
    rw [arrayLoop]
    by_cases hlast : fd = fdSetSize
    · rw [isSet_of_le hset hlast.ge]
    · obtain ⟨b, hb⟩ := isSet_of_lt hset (show fd < fdSetSize by omega)
      rw [hb]
      cases b with
      | false => exact ih (by omega) (by omega) first ret
      | true => exact ih (by omega) (by omega) false _

theorem arrayStr_of_le (hset : set.length = fdSetBytes) {max : Int} (h : max.toNat ≤ fdSetSize) :
    arrayStr set max = .ok ('[' :: [',', ' '].intercalate
      (((List.range' 0 max.toNat).filter fun fd => (isSet set fd).getD false).map
        (Nat.toDigits 10)) ++ [']']) := by
  unfold arrayStr
  rw [arrayLoop_eq hset (by omega), entries_eq]
  rfl

theorem arrayStr_of_lt (hset : set.length = fdSetBytes) {max : Int} (h : fdSetSize < max.toNat) :
    arrayStr set max = .error (.undefined .bounds) := by
  unfold arrayStr
  rw [arrayLoop_outside hset (Nat.zero_le _) (by omega)]
  rfl

/-- a whole set is read exactly -/
theorem readSet_eq (m : Memory) {a : UInt64} (ha : a ≠ 0) :
    Memory.readStructIntoOptional m a fdSetBytes fdSetBytes = .ok (bytesAt m a fdSetBytes) := by
  have hwhole : fdSetBytes = wordSize * 16 := rfl
  rw [readStruct_whole hwhole (by decide), if_neg ha]

end

end FDSet

/-! ## the sets of the tracee -/

theorem bytesAt_getElem? {m : Memory} {a : UInt64} {n i : Nat} {bs : Bytes}
    (h : bytesAt m a n = some bs) (hi : i < n) : bs[i]? = m (a + UInt64.ofNat i) := by
  induction n generalizing a i bs with
  | zero => omega
  | succ n ih =>
    rw [bytesAt] at h
    cases hb : m a with
    | none =>
      rw [hb] at h
      cases h
    | some b =>
      cases hr : bytesAt m (a + 1) n with
      | none =>
        rw [hb, hr] at h
        cases h
      | some rest =>
        rw [hb, hr] at h
        cases h
        cases i with
        | zero =>
          have h0 : a + UInt64.ofNat 0 = a := UInt64.add_zero a
          rw [h0, hb]
          rfl
        | succ i =>
          have hnext : a + 1 + UInt64.ofNat i = a + UInt64.ofNat (i + 1) := by
            rw [Nat.add_comm i 1]
            exact ofNat_add_assoc a 1 i
          rw [← hnext]
          exact ih hr (by omega)

namespace SelectCall

section
variable {call : SelectCall} {c : ItemContext} {set : Bytes}

theorem isSet_eq_member (h : bytesAt c.mem call.ptr fdSetBytes = some set) {fd : Nat}
    (hfd : fd < fdSetSize) : (FDSet.isSet set fd).getD false = call.member c fd := by
  have hlt : fd / 8 < fdSetBytes := by
    unfold fdSetSize at hfd
    unfold fdSetBytes
    omega
  unfold FDSet.isSet member
  rw [bytesAt_getElem? h hlt]
  cases c.mem (call.ptr + UInt64.ofNat (fd / 8)) with
  | none => simp
  | some b => rfl

theorem filter_isSet (h : bytesAt c.mem call.ptr fdSetBytes = some set) {n : Nat}
    (hn : n ≤ fdSetSize) : (List.range' 0 n).filter (fun fd => (FDSet.isSet set fd).getD false)
      = (List.range n).filter (call.member c) := by
  rw [List.range_eq_range']
  apply List.filter_congr
  intro fd hfd
  have hlt := List.mem_range'_1.mp hfd
  exact isSet_eq_member h (by omega)

theorem arrayStr_eq (h : bytesAt c.mem call.ptr fdSetBytes = some set)
    (hcount : call.count ≤ fdSetSize) :
    FDSet.arrayStr set (FDSet.maxFD call.nfds) = .ok (call.listing c) := by
  unfold listing
  rw [Nat.min_eq_left hcount, ← filter_isSet h hcount]
  exact FDSet.arrayStr_of_le (bytesAt_length h) hcount

theorem arrayStr_outside (h : bytesAt c.mem call.ptr fdSetBytes = some set)
    (hcount : fdSetSize < call.count) :
    FDSet.arrayStr set (FDSet.maxFD call.nfds) = .error (.undefined .bounds) := by
  exact FDSet.arrayStr_of_lt (bytesAt_length h) hcount

theorem accessed_le (hcount : call.count ≤ fdSetSize) : call.accessed ≤ fdSetBytes := by
  unfold accessed fdSetSize at *
  unfold fdSetBytes
  split <;> omega

/-- with the whole set the words can be read -/
theorem WholeSet.accessible (h : call.WholeSet c) (hptr : call.ptr ≠ 0)
    (hcount : call.count ≤ fdSetSize) : call.Accessible c := by
  obtain ⟨n, hn⟩ := Nat.exists_eq_add_of_le (accessed_le hcount)
  refine ⟨hptr, ?_⟩
  unfold WholeSet at h
  cases hb : bytesAt c.mem call.ptr call.accessed with
  | some bs => rfl
  | none =>
    rw [hn, bytesAt_none_add n hb] at h
    cases h

/-! ## when the text is right -/

theorem listsExactly_of_null (p : FDSet) (hptr : call.ptr = 0) : call.ListsExactly p := by
  have hentered : { p with ptr := call.ptr }.processData call.entry
      = .ok ⟨call.ptr, none, none⟩ := if_pos hptr
  refine ⟨⟨call.ptr, none, none⟩, ⟨call.ptr, none, none⟩, hentered, rfl, ?_, rfl, rfl⟩
  intro h
  exact absurd hptr h.1

section
variable (hptr : call.ptr ≠ 0) (p : FDSet)
include hptr

theorem processData_eq : { p with ptr := call.ptr }.processData call.entry
    = .ok ⟨call.ptr, bytesAt call.entry.mem call.ptr fdSetBytes, none⟩ := by
  unfold FDSet.processData
  rw [if_neg hptr, FDSet.readSet_eq _ hptr]
  rfl

theorem listsExactly_of_unreadable (hno : ¬ call.WholeSet call.entry) :
    call.ListsExactly p ↔ ¬ call.Accessible call.entry := by
  have hnone : bytesAt call.entry.mem call.ptr fdSetBytes = none :=
    Option.not_isSome_iff_eq_none.mp hno
  have hentered := processData_eq hptr p
  rw [hnone] at hentered
  constructor
  · rintro ⟨entered, exited, h, -, hlists⟩ hacc
    rw [hentered] at h
    cases h
    cases hlists.available hacc
  · intro hacc
    exact ⟨_, ⟨call.ptr, none, none⟩, hentered, rfl, fun h => absurd h hacc, rfl, rfl⟩

theorem not_listsExactly_of_lt (hwhole : call.WholeSet call.entry)
    (hcount : fdSetSize < call.count) : ¬ call.ListsExactly p := by
  rintro ⟨entered, exited, h, -, hlists⟩
  obtain ⟨set, hset⟩ := Option.isSome_iff_exists.mp hwhole
  rw [processData_eq hptr p, hset] at h
  cases h
  have hstr := hlists.entry
  unfold FDSet.str at hstr
  dsimp only at hstr
  rw [arrayStr_outside hset hcount] at hstr
  cases hstr

theorem listsExactly_of_readable (hwhole : call.WholeSet call.entry)
    (hcount : call.count ≤ fdSetSize) : call.ListsExactly p ↔
      (call.exit.hasResultValue = true → call.Accessible call.exit → call.WholeSet call.exit) := by
  obtain ⟨set, hset⟩ := Option.isSome_iff_exists.mp hwhole
  have hentered := processData_eq hptr p
  rw [hset] at hentered
  have hreq := arrayStr_eq hset hcount
  -- the result set is read after a success only
  have hexited : FDSet.updateData call.exit ⟨call.ptr, some set, none⟩ = .ok ⟨call.ptr, some set,
      if call.exit.hasResultValue then bytesAt call.exit.mem call.ptr fdSetBytes else none⟩ := by
    unfold FDSet.updateData
    dsimp only
    cases call.exit.hasResultValue with
    | false => rfl
    | true =>
      rw [FDSet.readSet_eq _ hptr]
      rfl
  have hentry : FDSet.str call.nfds ⟨call.ptr, some set, none⟩ = .ok (call.listing call.entry) := by
    unfold FDSet.str
    dsimp only
    rw [hreq]
    rfl
  constructor
  · rintro ⟨entered, exited, h, h', hlists⟩ hok hacc
    rw [hentered] at h
    cases h
    rw [hexited] at h'
    cases h'
    by_contra hno
    have hnone : bytesAt call.exit.mem call.ptr fdSetBytes = none :=
      Option.not_isSome_iff_eq_none.mp hno
    have htext := hlists.exit
    rw [hok, hnone] at htext
    have hentry' := hentry.symm.trans htext
    have hlen := congrArg List.length (Except.ok.inj hentry')
    simp [hacc] at hlen
  · intro hfits
    refine ⟨_, _, hentered, hexited, fun _ => rfl, hentry, ?_⟩
    cases hok : call.exit.hasResultValue with
    | false => simpa using hentry
    | true =>
      cases hev : bytesAt call.exit.mem call.ptr fdSetBytes with
      | none =>
        have hacc : ¬ call.Accessible call.exit := by
          intro hacc
          have hsome := hfits hok hacc
          unfold WholeSet at hsome
          rw [hev] at hsome
          cases hsome
        simpa [hacc] using hentry
      | some ev =>
        have hacc : call.Accessible call.exit := by
          apply WholeSet.accessible _ hptr hcount
          unfold WholeSet
          rw [hev]
          rfl
        unfold FDSet.str
        simp only [if_true, hreq, arrayStr_eq hev hcount, hacc, and_self, Option.isSome_some]
        show Except.ok _ = _
        rw [List.append_assoc]

end

end

/-- for each number of descriptors, both memories and outcomes -/
theorem listsExactly_iff (call : SelectCall) (p : FDSet) : call.ListsExactly p ↔ call.Fits := by
  unfold Fits
  by_cases hptr : call.ptr = 0
  · exact iff_of_true (listsExactly_of_null p hptr) (Or.inl hptr)
  by_cases hwhole : call.WholeSet call.entry
  · by_cases hcount : call.count ≤ fdSetSize
    · rw [listsExactly_of_readable hptr p hwhole hcount]
      simp [hptr, hwhole, hcount]
    · have hno := not_listsExactly_of_lt hptr p hwhole (Nat.lt_of_not_le hcount)
      simp [hptr, hwhole, hcount, hno]
  · rw [listsExactly_of_unreadable hptr p hwhole]
    simp [hptr, hwhole]

/-- the set of one word at the end of a page -/
def shortSet : Memory := fun a => if 4088 ≤ a ∧ a < 4096 then some 1 else none

/-- `select(8, ..)` with this set -/
def shortSelect : SelectCall where
  ptr := 4088
  nfds := 8
  entry :=
    { mem := shortSet
      maxBufferPrefetch := 0
      is32BitEmulationABI := false
      hasResultValue := false }
  exit :=
    { mem := shortSet
      maxBufferPrefetch := 0
      is32BitEmulationABI := false
      hasResultValue := true }

/-- the word that the kernel accesses can be read, but not the whole set -/
theorem listsExactly_fails : ¬ ∀ (call : SelectCall) (p : FDSet), call.ListsExactly p := by
  intro h
  obtain ⟨entered, exited, hentered, -, hlists⟩ := h shortSelect {}
  have hacc : shortSelect.Accessible shortSelect.entry := by
    refine ⟨by decide, ?_⟩
    decide +kernel
  have hsome := hlists.available hacc
  have hread : bytesAt shortSelect.entry.mem shortSelect.ptr fdSetBytes = none := by decide +kernel
  have hptr : shortSelect.ptr ≠ 0 := by decide
  rw [processData_eq hptr {}, hread] at hentered
  cases hentered
  cases hsome

end SelectCall

end Clues
