import Clues.Lib.Digits
import Clues.Lib.Escapes
import Mathlib.Tactic.IntervalCases

/-!
# Texts of buffers

`format::buffer()` shows printing characters as they are, also a backslash.

* `HexDigits`                two digits for each byte, as cosmos makes them;
* `format.buffer`            the text of a buffer, with and without the flag `BINARY`;
* `format.legible_buffer`    which buffers can be told by their texts.
-/

namespace Clues

open Lib Lib.Digits Lib.Escapes

/-! ## bytes -/

/-- `std::isprint()` and `std::isspace()` of the locale "C" -/
def isPrint (ch : UInt8) : Bool := 32 ≤ ch && ch ≤ 126

def isSpaceChar (ch : UInt8) : Bool := ch = 32 || (9 ≤ ch && ch ≤ 13)

def hexLetters : Text := "0123456789abcdef".toList

/-- the digits that `cosmos::FormattedNumber` makes of a byte: two of them -/
structure HexDigits (digits : UInt8 → Text) : Prop where
  length : ∀ ch, (digits ch).length = 2
  letters : ∀ ch, ∀ c ∈ digits ch, c ∈ hexLetters
  injective : Function.Injective digits

namespace format

variable (digits : UInt8 → Text)

/-- `HexChar` -/
def hexChar (ch : UInt8) : Text := '\\' :: 'x' :: digits ch

def controlChar (ch : UInt8) : Text :=
  match ch.toNat with
  | 10 => "\\n".toList
  | 13 => "\\r".toList
  | 11 => "\\v".toList
  | 9 => "\\t".toList
  | 12 => "\\f".toList
  | 8 => "\\b".toList
  | _ => "\\?".toList

/-- one round of the loop in `format::buffer()` -/
def bufferChar (binary : Bool) (ch : UInt8) : Text :=
  if binary then hexChar digits ch
  else if isPrint ch then [Char.ofUInt8 ch]
  else if isSpaceChar ch then controlChar ch
  else hexChar digits ch

def buffer (binary : Bool) (data : List UInt8) : Text :=
  '"' :: encode (bufferChar digits binary) data ++ ['"']

variable {digits}

theorem buffer_eq_iff {binary : Bool} {xs ys : List UInt8} :
    buffer digits binary xs = buffer digits binary ys ↔
      encode (bufferChar digits binary) xs = encode (bufferChar digits binary) ys := by
  unfold buffer
  rw [List.append_left_inj, List.cons_inj_right]

/-! ## escapes -/

/-- the letters of all escapes -/
def escapeLetters : Text := '\\' :: 'x' :: "nrvtf".toList ++ hexLetters

theorem bufferChar_print {ch : UInt8} (h : isPrint ch = true) :
    bufferChar digits false ch = [Char.ofUInt8 ch] := by
  unfold bufferChar
  rw [if_neg Bool.false_ne_true, if_pos h]

theorem bufferChar_space {ch : UInt8} (h : isPrint ch = false) (hs : isSpaceChar ch = true) :
    bufferChar digits false ch = controlChar ch := by
  unfold bufferChar
  rw [if_neg Bool.false_ne_true, h, if_neg Bool.false_ne_true, if_pos hs]

theorem bufferChar_hex {ch : UInt8} (h : isPrint ch = false) (hs : isSpaceChar ch = false) :
    bufferChar digits false ch = hexChar digits ch := by
  unfold bufferChar
  rw [if_neg Bool.false_ne_true, h, if_neg Bool.false_ne_true, hs, if_neg Bool.false_ne_true]

/-- what is not printed as it is -/
def controls : List UInt8 := [9, 10, 11, 12, 13]

theorem mem_controls {ch : UInt8} (h : isPrint ch = false) (hs : isSpaceChar ch = true) :
    ch ∈ controls := by
  have hrange : ch = 32 ∨ 9 ≤ ch ∧ ch ≤ 13 := by simpa [isSpaceChar] using hs
  rcases hrange with rfl | ⟨hlo, hhi⟩
  · exact absurd h (by decide)
  · have hnat : 9 ≤ ch.toNat ∧ ch.toNat ≤ 13 :=
      ⟨UInt8.le_iff_toNat_le.mp hlo, UInt8.le_iff_toNat_le.mp hhi⟩
    have hmem : ch.toNat ∈ controls.map UInt8.toNat := by
      obtain ⟨hlo', hhi'⟩ := hnat
      interval_cases ch.toNat <;> decide
    obtain ⟨ch', hch', he⟩ := List.mem_map.mp hmem
    exact UInt8.toNat_inj.mp he ▸ hch'

theorem length_controlChar : ∀ ch ∈ controls, (controlChar ch).length = 2 := by
  have hall : controls.all (fun ch => (controlChar ch).length == 2) = true := by decide
  intro ch hch
  exact eq_of_beq (List.all_eq_true.mp hall ch hch)

theorem controlChar_letters : ∀ ch ∈ controls, ∀ c ∈ controlChar ch, c ∈ escapeLetters := by
  have hall : controls.all (fun ch => (controlChar ch).all escapeLetters.contains) = true := by
    decide
  intro ch hch c hc
  have hletters := List.all_eq_true.mp hall ch hch
  exact List.contains_iff_mem.mp (List.all_eq_true.mp hletters c hc)

theorem controlChar_inj : ∀ ch ∈ controls, ∀ ch' ∈ controls, controlChar ch = controlChar ch' →
    ch = ch' := by
  have hall : controls.all (fun ch => controls.all fun ch' =>
      decide (controlChar ch = controlChar ch' → ch = ch')) = true := by decide
  intro ch hch ch' hch'
  exact of_decide_eq_true (List.all_eq_true.mp (List.all_eq_true.mp hall ch hch) ch' hch')

/-- the letters of escapes are printed as they are -/
theorem print_escapeLetters : ∀ c ∈ escapeLetters, isPrint c.toUInt8 = true ∧
    Char.ofUInt8 c.toUInt8 = c := by
  have hall : escapeLetters.all (fun c =>
      decide (isPrint c.toUInt8 = true ∧ Char.ofUInt8 c.toUInt8 = c)) = true := by decide
  intro c hc
  exact of_decide_eq_true (List.all_eq_true.mp hall c hc)

theorem ofUInt8_injective : Function.Injective Char.ofUInt8 := by
  intro ch ch' h
  have hval : ch.toUInt32 = ch'.toUInt32 := congrArg Char.val h
  have hnat := congrArg UInt32.toNat hval
  rw [UInt8.toNat_toUInt32, UInt8.toNat_toUInt32] at hnat
  exact UInt8.toNat_inj.mp hnat

variable (hdigits : HexDigits digits)
include hdigits

theorem length_hexChar (ch : UInt8) : (hexChar digits ch).length = 4 :=
  congrArg (· + 2) (hdigits.length ch)

theorem hexChar_letters (ch : UInt8) : ∀ c ∈ hexChar digits ch, c ∈ escapeLetters := by
  intro c hc
  rcases List.mem_cons.mp hc with rfl | hc
  · decide
  rcases List.mem_cons.mp hc with rfl | hc
  · decide
  have hhex := hdigits.letters ch c hc
  exact List.mem_append_right ('\\' :: 'x' :: "nrvtf".toList) hhex

theorem hexChar_injective : Function.Injective (hexChar digits) := by
  intro ch ch' h
  exact hdigits.injective (List.cons.inj (List.cons.inj h).2).2

/-- a letter, an escape of two letters or one of four -/
theorem length_bufferChar (ch : UInt8) : (bufferChar digits false ch).length
    = if isPrint ch then 1 else if isSpaceChar ch then 2 else 4 := by
  cases hp : isPrint ch with
  | true => rw [bufferChar_print hp]; rfl
  | false =>
    cases hs : isSpaceChar ch with
    | true => rw [bufferChar_space hp hs, length_controlChar ch (mem_controls hp hs)]; rfl
    | false => rw [bufferChar_hex hp hs, length_hexChar hdigits]; rfl

theorem bufferChar_injective : Function.Injective (bufferChar digits false) := by
  intro ch ch' h
  have hlen := congrArg List.length h
  rw [length_bufferChar hdigits, length_bufferChar hdigits] at hlen
  -- codes of one length are of one kind
  have hkinds : ∀ p p' s s' : Bool, (if p then 1 else if s then 2 else 4)
      = (if p' then 1 else if s' then 2 else 4) → p = p' ∧ (p = false → s = s') := by decide
  obtain ⟨hprint, hspace⟩ := hkinds _ _ _ _ hlen
  cases hp : isPrint ch with
  | true =>
    rw [bufferChar_print hp, bufferChar_print (hprint.symm.trans hp)] at h
    exact ofUInt8_injective (List.cons.inj h).1
  | false =>
    have hp' : isPrint ch' = false := hprint.symm.trans hp
    cases hs : isSpaceChar ch with
    | true =>
      have hs' : isSpaceChar ch' = true := (hspace hp).symm.trans hs
      rw [bufferChar_space hp hs, bufferChar_space hp' hs'] at h
      exact controlChar_inj ch (mem_controls hp hs) ch' (mem_controls hp' hs') h
    | false =>
      have hs' : isSpaceChar ch' = false := (hspace hp).symm.trans hs
      rw [bufferChar_hex hp hs, bufferChar_hex hp' hs'] at h
      exact hexChar_injective hdigits h

theorem bufferChar_letters {ch : UInt8} (hp : isPrint ch = false) :
    ∀ c ∈ bufferChar digits false ch, c ∈ escapeLetters := by
  cases hs : isSpaceChar ch with
  | true =>
    rw [bufferChar_space hp hs]
    exact controlChar_letters ch (mem_controls hp hs)
  | false =>
    rw [bufferChar_hex hp hs]
    exact hexChar_letters hdigits ch

/-- a backslash and the letters behind it are printed as they are, too -/
theorem escaping_bufferChar :
    Escaping (bufferChar digits false) fun ch => isPrint ch = true where
  injective := bufferChar_injective hdigits
  single ch h := by
    rw [bufferChar_print h]
    rfl
  long ch h := by
    rw [length_bufferChar hdigits, if_neg h]
    split_ifs <;> decide
  letters ch c hc := by
    cases hp : isPrint ch with
    | true =>
      rw [bufferChar_print hp] at hc
      exact ⟨ch, hp, by rw [bufferChar_print hp, List.mem_singleton.mp hc]⟩
    | false =>
      obtain ⟨hprint, hc'⟩ := print_escapeLetters c (bufferChar_letters hdigits hp c hc)
      exact ⟨c.toUInt8, hprint, by rw [bufferChar_print hprint, hc']⟩

/-- with the flag `BINARY` each buffer can be told by its text; without it one can be told iff its
text does not show the escape of a byte anywhere, even if the buffer has these letters -/
theorem legible_buffer (data : List UInt8) :
    (∀ other, buffer digits true other = buffer digits true data → other = data) ∧
    ((∀ other, buffer digits false other = buffer digits false data → other = data) ↔
      ∀ ch, isPrint ch = false →
        ¬ bufferChar digits false ch <:+: encode (bufferChar digits false) data) := by
  constructor
  · intro other h
    have hinj : Function.Injective (bufferChar digits true) := hexChar_injective hdigits
    have hlen : ∀ ch, (bufferChar digits true ch).length = 4 := length_hexChar hdigits
    exact encode_injective (by decide) hlen hinj (buffer_eq_iff.mp h)
  · have hlegible := (escaping_bufferChar hdigits).legible_iff data
    simp only [Bool.not_eq_true] at hlegible
    rw [← hlegible]
    exact forall_congr' fun other => by rw [buffer_eq_iff]

omit hdigits

/-- the digits of a byte, the higher ones first -/
def twoDigits (ch : UInt8) : Text :=
  [hexLetters.getD (ch.toNat / 16) '0', hexLetters.getD (ch.toNat % 16) '0']

theorem hexDigits_twoDigits : HexDigits twoDigits where
  length _ := rfl
  letters ch c hc := by
    have hlow : ∀ i < 16, hexLetters.getD i '0' ∈ hexLetters := by decide
    have hlt : ch.toNat < 256 := ch.toNat_lt
    rcases List.mem_cons.mp hc with rfl | hc
    · exact hlow _ (by omega)
    · obtain rfl := List.mem_singleton.mp hc
      exact hlow _ (by omega)
  injective ch ch' h := by
    have hinj : ∀ i < 16, ∀ j < 16, hexLetters.getD i '0' = hexLetters.getD j '0' → i = j := by
      decide
    have hlt : ch.toNat < 256 := ch.toNat_lt
    have hlt' : ch'.toNat < 256 := ch'.toNat_lt
    obtain ⟨hhigh, hrest⟩ := List.cons.inj h
    have hdiv := hinj _ (by omega) _ (by omega) hhigh
    have hmod := hinj _ (by omega) _ (by omega) (List.cons.inj hrest).1
    exact UInt8.toNat_inj.mp (by omega)

/-- a newline is shown like a backslash and an `n` -/
theorem legible_buffer_newline :
    buffer twoDigits false [97, 10] = buffer twoDigits false [97, 92, 110] ∧
    ¬ (∀ other, buffer twoDigits false other = buffer twoDigits false [97, 92, 110] →
      other = [97, 92, 110]) ∧
    ∀ other, buffer twoDigits true other = buffer twoDigits true [97, 10] → other = [97, 10] :=
  ⟨by decide,
    fun h => (legible_buffer hexDigits_twoDigits [97, 92, 110]).2.mp h 10 (by decide) (by decide),
    (legible_buffer hexDigits_twoDigits [97, 10]).1⟩

end format

end Clues
