import Mathlib.Data.List.TakeWhile
import Mathlib.Tactic.IntervalCases

/-!
# Numbers and lines in texts

* `natural base`   the number that the digits at the front of a text make;
* `integer base`   the same behind white space and a sign, as `strtol()` reads it;
* `lines`          the lines of a text that end with a newline, as `getline()` yields them.

What is printed to a base of at most ten is read back: `integer_toDigits`.
-/

namespace Lib.Digits

abbrev Text := List Char

def isDigit (base : Nat) (c : Char) : Bool := c.isDigit && decide (c.toNat - '0'.toNat < base)

def isSpace (c : Char) : Bool := c == ' ' || decide ('\t'.toNat ≤ c.toNat ∧ c.toNat ≤ '\r'.toNat)

/-- no number without a digit; what stands behind the digits is ignored -/
def natural (base : Nat) (s : Text) : Option Nat :=
  match s.takeWhile (isDigit base) with
  | [] => none
  | ds => some (Nat.ofDigitChars base ds 0)

def integer (base : Nat) (s : Text) : Option Int :=
  match s.dropWhile isSpace with
  | '-' :: s' => (natural base s').map fun n => -(n : Int)
  | '+' :: s' => (natural base s').map fun n => (n : Int)
  | s' => (natural base s').map fun n => (n : Int)

/-- text behind the last newline is no line -/
def lines : Text → List Text
  | [] => []
  | c :: s =>
    if c = '\n' then [] :: lines s
    else
      match lines s with
      | [] => []
      | l :: ls => (c :: l) :: ls

section
variable {base n : Nat}

/-! ## digits -/

theorem isDigit_digitChar (h : n < base) (hb : base ≤ 10) : isDigit base n.digitChar = true := by
  have hn : n < 10 := lt_of_lt_of_le h hb
  have hval : n.digitChar.toNat - '0'.toNat = n := Nat.toNat_digitChar_sub_48_of_lt_ten hn
  have hdigit : n.digitChar.isDigit = true := by
    interval_cases n <;> rfl
  unfold isDigit
  rw [hval, hdigit, decide_eq_true h]
  rfl

theorem isDigit_of_mem_toDigits (hb' : 1 < base) (hb : base ≤ 10) (n : Nat) :
    ∀ c ∈ Nat.toDigits base n, isDigit base c = true := by
  induction n using Nat.strongRecOn with
  | ind n ih =>
    intro c hc
    rw [Nat.toDigits_eq_if hb'] at hc
    split_ifs at hc with hlt
    · rw [List.mem_singleton.mp hc]
      exact isDigit_digitChar hlt hb
    · have hdiv : n / base < n := Nat.div_lt_self (by omega) hb'
      rcases List.mem_append.mp hc with hc | hc
      · exact ih (n / base) hdiv c hc
      · rw [List.mem_singleton.mp hc]
        exact isDigit_digitChar (Nat.mod_lt n (by omega)) hb

theorem natural_digits {ds : Text} (hds : ∀ c ∈ ds, isDigit base c = true) (hne : ds ≠ []) :
    natural base ds = some (Nat.ofDigitChars base ds 0) := by
  unfold natural
  rw [List.takeWhile_eq_self_iff.mpr hds]
  split
  · exact absurd rfl hne
  · rfl

theorem digit_ne {c : Char} (h : isDigit base c = true) :
    isSpace c = false ∧ c ≠ '-' ∧ c ≠ '+' ∧ c ≠ '\n' ∧ c ≠ '[' ∧ c ≠ ']' ∧ c ≠ ':' ∧ c ≠ '.' := by
  have hd : c.isDigit = true := (Bool.and_eq_true_iff.mp h).1
  have hne : ∀ e : Char, e.isDigit = false → c ≠ e := by
    intro e he heq
    rw [heq, he] at hd
    cases hd
  have hlow : 48 ≤ c.toNat := by
    unfold Char.isDigit at hd
    have := (Bool.and_eq_true_iff.mp hd).1
    exact UInt32.le_iff_toNat_le.mp (of_decide_eq_true this)
  have hspace : isSpace c = false := by
    unfold isSpace
    have h1 : (c == ' ') = false := beq_eq_false_iff_ne.mpr (hne ' ' rfl)
    have h2 : ¬ ('\t'.toNat ≤ c.toNat ∧ c.toNat ≤ '\r'.toNat) := by
      intro hr
      have hr2 : c.toNat ≤ 13 := hr.2
      omega
    rw [h1, decide_eq_false h2]
    rfl
  exact ⟨hspace, hne _ rfl, hne _ rfl, hne _ rfl, hne _ rfl, hne _ rfl, hne _ rfl, hne _ rfl⟩

/-- neither white space nor a sign comes first -/
theorem integer_digits {ds : Text} (hds : ∀ c ∈ ds, isDigit base c = true) (hne : ds ≠ []) :
    integer base ds = some (Nat.ofDigitChars base ds 0 : Int) := by
  have hnat := natural_digits hds hne
  cases ds with
  | nil => exact absurd rfl hne
  | cons c s =>
    obtain ⟨hspace, hminus, hplus, -⟩ := digit_ne (hds c List.mem_cons_self)
    unfold integer
    rw [List.dropWhile_cons_of_neg (by rw [hspace]; exact Bool.false_ne_true)]
    split
    · rename_i heq
      exact absurd (List.cons.inj heq).1 hminus
    · rename_i heq
      exact absurd (List.cons.inj heq).1 hplus
    · rw [hnat]
      rfl

/-- reading what was printed -/
theorem integer_toDigits (base : Nat) (hb' : 1 < base) (hb : base ≤ 10) (n : Nat) :
    integer base (Nat.toDigits base n) = some (n : Int) := by
  rw [integer_digits (isDigit_of_mem_toDigits hb' hb n) Nat.toDigits_ne_nil,
    Nat.ofDigitChars_toDigits hb' hb]

/-- a zero in front, as octal numbers have it -/
theorem integer_zero_toDigits (base : Nat) (hb' : 1 < base) (hb : base ≤ 10) (n : Nat) :
    integer base ('0' :: Nat.toDigits base n) = some (n : Int) := by
  have hzero : isDigit base '0' = true := isDigit_digitChar (n := 0) (by omega) hb
  have hds : ∀ c ∈ '0' :: Nat.toDigits base n, isDigit base c = true := by
    intro c hc
    rcases List.mem_cons.mp hc with rfl | hc
    · exact hzero
    · exact isDigit_of_mem_toDigits hb' hb n c hc
  rw [integer_digits hds (List.cons_ne_nil _ _), Nat.ofDigitChars_cons]
  show some ((Nat.ofDigitChars base (Nat.toDigits base n) (base * 0 + 0) : Nat) : Int) = _
  rw [Nat.mul_zero, Nat.ofDigitChars_toDigits hb' hb]

/-! ## lines -/

theorem lines_append {l : Text} (h : '\n' ∉ l) (s : Text) :
    lines (l ++ '\n' :: s) = l :: lines s := by
  induction l with
  | nil =>
    show (if '\n' = '\n' then [] :: lines s else _) = _
    rw [if_pos rfl]
  | cons c l ih =>
    have hc : c ≠ '\n' := fun heq => h (by rw [heq]; exact List.mem_cons_self)
    have hl : '\n' ∉ l := fun hm => h (List.mem_cons_of_mem _ hm)
    rw [List.cons_append, lines, if_neg hc, ih hl]

end

end Lib.Digits
