import Clues.Lib.Digits
import Clues.Lib.Separated
import Clues.Types
import Mathlib.Data.List.Sort

/-!
# Texts for signals

* `format.signal`, `format.signalSet`   of `format.cxx`;
* `SigSet.Lists`   a text has the members of a set that are signals, in ascending order;
* `signalSet_lists_iff`   when the text of a set is such a text.
-/

namespace Clues

open Lib Lib.Digits Lib.Separated

/-! ## signals -/

namespace Signal

/-- `SIGRTMIN` and `SIGRTMAX` of the tracer's C library -/
def rtMin : Signal := 34
def rtMax : Signal := 64

end Signal

/-- the signals of a set, the lowest bit is signal 1 -/
structure SigSet where
  mask : UInt64
  deriving DecidableEq, Repr

def SigSet.isSet (set : SigSet) (signum : Signal) : Bool :=
  0 < signum && set.mask.toNat.testBit (signum - 1)

namespace format

def signalLabel (raw : Signal) : Text :=
  match raw with
  | 1 => "SIGHUP".toList
  | 2 => "SIGINT".toList
  | 3 => "SIGQUIT".toList
  | 4 => "SIGILL".toList
  | 5 => "SIGTRAP".toList
  | 6 => "SIGABRT".toList
  | 7 => "SIGBUS".toList
  | 8 => "SIGFPE".toList
  | 9 => "SIGKILL".toList
  | 10 => "SIGUSR1".toList
  | 11 => "SIGSEGV".toList
  | 12 => "SIGUSR2".toList
  | 13 => "SIGPIPE".toList
  | 14 => "SIGALRM".toList
  | 15 => "SIGTERM".toList
  | 16 => "SIGSTKFLT".toList
  | 17 => "SIGCHLD".toList
  | 18 => "SIGCONT".toList
  | 19 => "SIGSTOP".toList
  | 20 => "SIGTSTP".toList
  | 21 => "SIGTTIN".toList
  | 22 => "SIGTTOU".toList
  | 23 => "SIGURG".toList
  | 24 => "SIGXCPU".toList
  | 25 => "SIGXFSZ".toList
  | 26 => "SIGVTALRM".toList
  | 27 => "SIGPROF".toList
  | 28 => "SIGWINCH".toList
  | 29 => "SIGIO".toList
  | 30 => "SIGPWR".toList
  | 31 => "SIGSYS".toList
  | raw => "unknown (".toList ++ Nat.toDigits 10 raw ++ [')']

/-- `format::signal()` without the verbose name -/
def signal (raw : Signal) : Text :=
  let rtMinPriv := Signal.rtMin - 2
  if raw < rtMinPriv ∨ Signal.rtMax < raw then signalLabel raw
  else if rtMinPriv ≤ raw ∧ raw < Signal.rtMin then "glibc internal signal".toList
  else "SIGRT".toList ++ Nat.toDigits 10 (raw - Signal.rtMin)

/-- the loop of `format::signal_set()` for `n` signals from `signum` on -/
def signalLoop (set : SigSet) : Nat → Signal → Text → Text
  | 0, _, ret => ret
  | n + 1, signum, ret =>
    signalLoop set n (signum + 1)
      (if set.isSet signum then ret ++ (signal signum ++ [',', ' ']) else ret)

def signalSet (set : SigSet) : Text :=
  let ret := signalLoop set (Signal.rtMax - 1) 1 []
  let ret := if [',', ' '].isSuffixOf ret then ret.take (ret.length - 2) else ret
  '{' :: ret ++ ['}']

end format

/-! ## the members of a set -/

/-- the text has the signals of the set from 1 to `SIGRTMAX`, each one once and in ascending order,
with a comma between each two -/
def SigSet.Lists (set : SigSet) (text : Text) : Prop :=
  ∃ signals : List Signal, signals.Pairwise (· < ·) ∧
    (∀ s, s ∈ signals ↔ 1 ≤ s ∧ s ≤ Signal.rtMax ∧ set.isSet s = true) ∧
    text = '{' :: [',', ' '].intercalate (signals.map format.signal) ++ ['}']

namespace SigSet

/-- the members among `n` signals from `s` on -/
def members (set : SigSet) (s n : Nat) : List Signal := (List.range' s n).filter set.isSet

variable {set : SigSet} {s n : Nat}

theorem members_sorted (set : SigSet) (s n : Nat) : (set.members s n).Pairwise (· < ·) :=
  List.Pairwise.filter _ List.pairwise_lt_range'

theorem mem_members {x : Signal} : x ∈ set.members s n ↔ s ≤ x ∧ x < s + n ∧ set.isSet x = true := by
  unfold members
  rw [List.mem_filter, List.mem_range'_1]
  tauto

/-- no other list is sorted and has these members -/
theorem eq_members {signals : List Signal} (hsorted : signals.Pairwise (· < ·))
    (hmem : ∀ x, x ∈ signals ↔ s ≤ x ∧ x < s + n ∧ set.isSet x = true) :
    signals = set.members s n := by
  apply hsorted.eq_of_mem_iff (members_sorted set s n)
  intro x
  rw [hmem, mem_members]

theorem members_succ (set : SigSet) (s n : Nat) :
    set.members s (n + 1) = set.members s n ++ if set.isSet (s + n) then [s + n] else [] := by
  unfold members
  rw [List.range'_concat, List.filter_append, Nat.one_mul, List.filter_singleton]
  by_cases h : set.isSet (s + n) = true
  · rw [if_pos h, h]
    rfl
  · rw [if_neg h, Bool.eq_false_iff.mpr h]
    rfl

end SigSet

/-! ## the loop -/

namespace format

variable {set : SigSet}

theorem signalLoop_eq (set : SigSet) (n : Nat) (signum : Signal) (ret : Text) :
    signalLoop set n signum ret
      = ret ++ terminated [',', ' '] ((set.members signum n).map signal) := by
  induction n generalizing signum ret with
  | zero => exact (List.append_nil ret).symm
  | succ n ih =>
    show signalLoop set n (signum + 1) _ = _
    rw [ih]
    unfold SigSet.members
    rw [List.range'_succ, List.filter_cons]
    by_cases h : set.isSet signum = true
    · rw [if_pos h, if_pos h, List.map_cons, terminated_cons, List.append_assoc]
    · rw [if_neg h, if_neg h]

/-- the last separator is taken off again -/
theorem signalSet_eq (set : SigSet) :
    signalSet set = '{' :: [',', ' '].intercalate
      ((set.members 1 (Signal.rtMax - 1)).map signal) ++ ['}'] := by
  unfold signalSet
  rw [signalLoop_eq, List.nil_append]
  generalize (set.members 1 (Signal.rtMax - 1)).map signal = parts
  by_cases hparts : parts = []
  · subst hparts
    rfl
  · rw [terminated_eq hparts]
    have hsuffix : [',', ' '].isSuffixOf ([',', ' '].intercalate parts ++ [',', ' ']) = true :=
      List.isSuffixOf_iff_suffix.mpr (List.suffix_append _ _)
    have htake : ([',', ' '].intercalate parts ++ [',', ' ']).take
        (([',', ' '].intercalate parts ++ [',', ' ']).length - 2) = [',', ' '].intercalate parts := by
      rw [List.length_append]
      exact List.take_left
    simp only [hsuffix, if_true, htake]

theorem signal_rtMax : signal Signal.rtMax ≠ [] := by decide

theorem members_rtMax (set : SigSet) : set.members 1 Signal.rtMax =
    set.members 1 (Signal.rtMax - 1) ++ if set.isSet Signal.rtMax then [Signal.rtMax] else [] :=
  set.members_succ 1 (Signal.rtMax - 1)

theorem mem_members_rtMax (set : SigSet) (x : Signal) :
    x ∈ set.members 1 Signal.rtMax ↔ 1 ≤ x ∧ x ≤ Signal.rtMax ∧ set.isSet x = true := by
  rw [SigSet.mem_members, Nat.add_comm, Nat.lt_succ_iff]

/-- the loop ends before the last signal -/
theorem not_lists_of_rtMax (hset : set.isSet Signal.rtMax = true) : ¬ set.Lists (signalSet set) := by
  rintro ⟨signals, hsorted, hmem, htext⟩
  have hall : signals = set.members 1 Signal.rtMax := by
    apply SigSet.eq_members hsorted
    intro x
    rw [hmem, ← mem_members_rtMax, SigSet.mem_members]
  rw [members_rtMax, if_pos hset] at hall
  rw [signalSet_eq] at htext
  have hbody := List.append_cancel_right (List.cons.inj htext).2
  rw [hall, List.map_append] at hbody
  exact intercalate_ne_append _ signal_rtMax hbody.symm

/-- for all sets: the members are listed if and only if `SIGRTMAX` is not among them -/
theorem signalSet_lists_iff (set : SigSet) :
    set.Lists (signalSet set) ↔ set.isSet Signal.rtMax = false := by
  constructor
  · intro h
    rw [Bool.eq_false_iff]
    exact fun hset => not_lists_of_rtMax hset h
  · intro hset
    have hlast := members_rtMax set
    rw [hset] at hlast
    refine ⟨set.members 1 Signal.rtMax, set.members_sorted _ _, mem_members_rtMax set, ?_⟩
    rw [signalSet_eq, hlast]
    simp

/-- the set of `SIGRTMAX` alone has the text of the empty set -/
theorem signalSet_fails : ¬ ∀ set : SigSet, set.Lists (signalSet set) := by
  intro h
  exact not_lists_of_rtMax (by decide) (h ⟨0x8000000000000000⟩)

end format

example : format.signalSet ⟨0x80000001⟩ = "{SIGHUP, glibc internal signal}".toList := by decide

end Clues
