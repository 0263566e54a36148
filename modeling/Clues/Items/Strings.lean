import Clues.Items.BufferPointer
import Clues.Lib.LittleEndian

/-!
# Strings that a system call fills

* `StringBuffer`          the item for a string of limited size, of `strings.cxx`;
* `StringCall`            the calls with such an item, what it takes for the size and how many bytes
                          the call reports;
* `takesReported_iff`     when no more than these are taken into the string.
-/

namespace Clues

open Lib.LittleEndian

/-- `StringBuffer`; the string is made of single bytes -/
structure StringBuffer where
  ptr : UInt64 := 0
  data : Option (List (List UInt8)) := none

namespace StringBuffer

/-- `StringData::fetch()`: an exception resets the string -/
def fetch (m : Memory) (max : Word) (p : StringBuffer) : StringBuffer :=
  { p with data := (readString m p.ptr max).toOption }

/-- `StringData::processData()` of a `PARAM_OUT` item -/
def processData (p : StringBuffer) : StringBuffer := { p with data := none }

def updateData (c : ItemContext) (sizePar : Word) (p : StringBuffer) : StringBuffer :=
  if c.hasResultValue then p.fetch c.mem sizePar else p

/-- the bytes in the string -/
def taken (p : StringBuffer) : Nat := (p.data.getD []).length

end StringBuffer

/-- a string with a limit can be read: up to the first zero byte or the limit, in whole words -/
def StringReadable (m : Memory) (a : UInt64) (max : Word) : Prop :=
  ∃ x, extent m .char true (limit max) a = some x ∧ (bytesAt m a (words x.bytes)).isSome

/-- the system calls that fill a string -/
inductive StringCall where
  /-- `readlink()` or `readlinkat()`, with the return value -/
  | readlink (filledBytes : Word)
  /-- `getsockopt()` with a string option: the pointer to the length -/
  | getsockopt (optlen : Word)

namespace StringCall

/-- the value of `m_size_par`: the return value, or the pointer -/
def sizePar : StringCall → Word
  | .readlink filledBytes => filledBytes
  | .getsockopt optlen => optlen

/-- the bytes that are reported as filled; `none`: the length cannot be read -/
def reported (m : Memory) : StringCall → Option Nat
  | .readlink filledBytes => some filledBytes.toNat
  | .getsockopt optlen => (bytesAt m optlen 4).map le

/-- the item after a call; it may have been used before -/
def string (call : StringCall) (c : ItemContext) (ptr : Word) (p : StringBuffer) : StringBuffer :=
  ({ p with ptr := ptr }.processData).updateData c call.sizePar

def TakesReported (call : StringCall) (c : ItemContext) (ptr : Word) (p : StringBuffer) : Prop :=
  ∀ reported, call.reported c.mem = some reported → (call.string c ptr p).taken ≤ reported

/-- if a string can be read after a success, its limit is no more than what is reported, or one of
the first bytes is zero -/
def Fits (call : StringCall) (c : ItemContext) (ptr : Word) : Prop :=
  ∀ reported, call.reported c.mem = some reported → c.hasResultValue = true →
    StringReadable c.mem ptr call.sizePar →
      limit call.sizePar ≤ reported ∨ ∃ k ≤ reported, c.mem (ptr + UInt64.ofNat k) = some 0

end StringCall

section
variable {m : Memory} {a : UInt64}

/-- the string has at most so many bytes if its limit is no more, or if it is terminated by then -/
theorem length_extent_le_iff (n r : Nat) {x : Extent} (h : extent m .char true n a = some x) :
    x.elements.length ≤ r ↔ n ≤ r ∨ ∃ k ≤ r, m (a + UInt64.ofNat k) = some 0 := by
  induction n generalizing a r x with
  | zero =>
    cases h
    exact iff_of_true (Nat.zero_le r) (Or.inl (Nat.zero_le r))
  | succ n ih =>
    have hzero : a + UInt64.ofNat 0 = a := UInt64.add_zero a
    have hnext : ∀ k, a + UInt64.ofNat (k + 1) = a + UInt64.ofNat 1 + UInt64.ofNat k := by
      intro k
      rw [ofNat_add_assoc, Nat.add_comm]
    cases hb : m a with
    | none =>
      have hitem : bytesAt m a Elem.char.size = none := by
        show bytesAt m a 1 = none
        rw [bytesAt, hb]
        rfl
      rw [extent, hitem] at h
      cases h
    | some b =>
      have hitem : bytesAt m a Elem.char.size = some [b] := by
        show bytesAt m a 1 = some [b]
        rw [bytesAt, hb]
        rfl
      by_cases h0 : b = 0
      · -- the terminator is the first byte
        subst h0
        rw [extent_zero hitem (by decide)] at h
        cases h
        refine iff_of_true (Nat.zero_le r) (Or.inr ⟨0, Nat.zero_le r, ?_⟩)
        rw [hzero]
        exact hb
      · have hz : ¬ (true && isZero [b]) = true := by simpa [isZero] using h0
        rw [extent_succ hitem hz] at h
        obtain ⟨rest, hrest, rfl⟩ := Option.map_eq_some_iff.mp h
        have hrec := fun r => ih r hrest
        rw [List.length_cons]
        cases r with
        | zero =>
          refine iff_of_false (by omega) ?_
          rintro (hn | ⟨k, hk, hkz⟩)
          · omega
          · obtain rfl : k = 0 := Nat.le_zero.mp hk
            rw [hzero, hb] at hkz
            exact h0 (Option.some.inj hkz)
        | succ r =>
          rw [Nat.add_le_add_iff_right, hrec r]
          constructor
          · rintro (hn | ⟨k, hk, hkz⟩)
            · exact Or.inl (by omega)
            · refine Or.inr ⟨k + 1, by omega, ?_⟩
              rw [hnext]
              exact hkz
          · rintro (hn | ⟨k, hk, hkz⟩)
            · exact Or.inl (by omega)
            · cases k with
              | zero =>
                rw [hzero, hb] at hkz
                exact absurd (Option.some.inj hkz) h0
              | succ k =>
                rw [hnext] at hkz
                exact Or.inr ⟨k, by omega, hkz⟩

/-- a string that can be read is the one that is asked for -/
theorem readString_eq (max : Word) : (readString m a max).toOption =
    (extent m .char true (limit max) a).bind fun x =>
      if (bytesAt m a (words x.bytes)).isSome then some x.elements else none :=
  readVector_eq .char a max true

end

namespace StringCall

/-- for each call, buffer, memory and outcome -/
theorem takesReported_iff (call : StringCall) (c : ItemContext) (ptr : Word) (p : StringBuffer) :
    call.TakesReported c ptr p ↔ call.Fits c ptr := by
  unfold TakesReported Fits string StringBuffer.updateData StringBuffer.processData
  refine forall_congr' fun reported => imp_congr_right fun _ => ?_
  cases hok : c.hasResultValue with
  | false =>
    rw [if_neg Bool.false_ne_true]
    exact iff_of_true (Nat.zero_le _) fun h => nomatch h
  | true =>
    rw [if_pos rfl]
    unfold StringBuffer.fetch StringBuffer.taken StringReadable
    dsimp only
    rw [readString_eq, forall_prop_of_true rfl]
    cases hx : extent c.mem .char true (limit call.sizePar) ptr with
    | none => simp
    | some x =>
      rw [Option.bind_some, ← length_extent_le_iff _ _ hx]
      by_cases hw : (bytesAt c.mem ptr (words x.bytes)).isSome = true
      · rw [if_pos hw]
        constructor
        · exact fun h _ => h
        · exact fun h => h ⟨x, rfl, hw⟩
      · rw [if_neg hw]
        refine iff_of_true (Nat.zero_le _) ?_
        rintro ⟨y, hy, hw'⟩
        cases hy
        exact absurd hw' hw

/-- an option of 4 bytes at 8192 without a terminator, with other characters behind it; the length
is at 4096 -/
def shortOption : Memory := fun a =>
  if a = 4096 then some 4 else if 8192 ≤ a ∧ a < 8200 then some 97 else some 0

/-- the pointer to the length is taken for the length -/
theorem takesReported_fails : ¬ ∀ (call : StringCall) (c : ItemContext) (ptr : Word)
    (p : StringBuffer), call.TakesReported c ptr p := by
  intro h
  let c : ItemContext :=
    { mem := shortOption
      maxBufferPrefetch := 0
      is32BitEmulationABI := false
      hasResultValue := true }
  have hle := h (.getsockopt 4096) c 8192 {} 4 (by decide +kernel)
  revert hle
  decide +kernel

end StringCall

end Clues
