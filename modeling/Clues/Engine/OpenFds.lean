import Clues.Engine.Event
import Clues.Tracee.ProcFds
import Mathlib.Data.Finset.Insert
import Mathlib.Data.List.Chain

/-!
# Descriptors after execve

* `getCurrentlyOpenFds`   `get_currently_open_fds()` of `utils.cxx`, over what `/proc` lists;
* `ProcDir.Lists`         `/proc` lists the descriptors that are open;
* `dropClosed_eq_filter_iff`   when the loop of `syncFDsAfterExec()` drops what it should: it does
                               not look at the entry behind one it has erased.
-/

namespace Clues

open Lib

/-- names that are no numbers are left out -/
def getCurrentlyOpenFds (dir : ProcDir) : List FileNum :=
  dir.entries.filterMap fun entry => if entry.isDotEntry then none else stoi 10 entry.name

/-- the directory has an entry for each open descriptor, and no other ones -/
structure ProcDir.Lists (dir : ProcDir) (opened : Finset FileNum) : Prop where
  listed : ∀ entry ∈ dir.entries, entry.isDotEntry = true ∨
    ∃ fd ∈ opened, entry.name = fdName fd
  complete : ∀ fd ∈ opened, ∃ entry ∈ dir.entries, entry.name = fdName fd
  range : ∀ fd ∈ opened, 0 ≤ fd ∧ fd.toNat < 2 ^ 31

theorem mem_getCurrentlyOpenFds {dir : ProcDir} {opened : Finset FileNum} (hd : dir.Lists opened)
    (fd : FileNum) : fd ∈ getCurrentlyOpenFds dir ↔ fd ∈ opened := by
  have hread : ∀ {entry : ProcEntry} {fd : FileNum}, fd ∈ opened → entry.name = fdName fd →
      (if entry.isDotEntry then none else stoi 10 entry.name) = some fd := by
    intro entry fd hfd hname
    rw [isDotEntry_fdName hname, if_neg Bool.false_ne_true, hname]
    exact stoi_fdName (hd.range fd hfd)
  unfold getCurrentlyOpenFds
  rw [List.mem_filterMap]
  constructor
  · rintro ⟨entry, he, hfd⟩
    rcases hd.listed entry he with hdot | ⟨fd', hfd', hname⟩
    · rw [if_pos hdot] at hfd
      cases hfd
    · rw [hread hfd' hname] at hfd
      rwa [← Option.some.inj hfd]
  · intro hfd
    obtain ⟨entry, he, hname⟩ := hd.complete fd hfd
    exact ⟨entry, he, hread hfd hname⟩

/-! ## the loop -/

/-- of two entries next to each other one is still open -/
def NoneSkipped (left : List FileNum) (es : List (FileNum × FDInfo)) : Prop :=
  es.IsChain fun e e' => e.1 ∈ left ∨ e'.1 ∈ left

theorem dropClosed_eq_filter_iff (left : List FileNum) (es : List (FileNum × FDInfo)) :
    dropClosed left es = es.filter (fun e => e.1 ∈ left) ↔ NoneSkipped left es := by
  unfold NoneSkipped
  fun_induction dropClosed left es with
  | case1 => simp
  | case2 e h => simp [h]
  | case3 e h => simp [h]
  | case4 e e' es h ih =>
    rw [List.filter_cons_of_pos (by simpa using h), List.cons_inj_right, ih,
      List.isChain_cons_cons]
    exact (and_iff_right (Or.inl h)).symm
  | case5 e e' es h ih =>
    -- the second entry is kept, closed or not
    rw [List.filter_cons_of_neg (by simpa using h), List.isChain_cons_cons]
    by_cases h' : e'.1 ∈ left
    · rw [List.filter_cons_of_pos (by simpa using h'), List.cons_inj_right, ih]
      have hrest : (e' :: es).IsChain (fun a b => a.1 ∈ left ∨ b.1 ∈ left)
          ↔ es.IsChain (fun a b => a.1 ∈ left ∨ b.1 ∈ left) := by
        rw [List.isChain_cons]
        exact and_iff_right fun _ _ => Or.inl h'
      rw [hrest]
      exact (and_iff_right (Or.inr h')).symm
    · refine iff_of_false (fun heq => ?_) fun hc => ?_
      · have hm : e' ∈ (e' :: es).filter (fun e => decide (e.1 ∈ left)) := by
          rw [← heq]
          exact List.mem_cons_self
        exact h' (of_decide_eq_true (List.mem_filter.mp hm).2)
      · rcases hc.1 with hl | hl
        · exact h hl
        · exact h' hl

theorem syncFDsAfterExec_eq_restrict_iff (left : List FileNum) (m : FDInfoMap) :
    syncFDsAfterExec left m = m.restrict (· ∈ left) ↔ NoneSkipped left m.entries := by
  rw [← dropClosed_eq_filter_iff]
  constructor
  · intro h
    exact congrArg OrdMap.entries h
  · intro h
    unfold syncFDsAfterExec OrdMap.restrict
    congr

/-- `execve()` leaves exactly the entries of the descriptors that are still open -/
theorem keepsOpen_iff {dir : ProcDir} {opened : Finset FileNum} (hd : dir.Lists opened)
    (m : FDInfoMap) :
    (∀ fd, (syncFDsAfterExec (getCurrentlyOpenFds dir) m).find? fd
      = if fd ∈ opened then m.find? fd else none)
    ↔ m.keys.IsChain fun fd fd' => fd ∈ opened ∨ fd' ∈ opened := by
  have hfind : (∀ fd, (syncFDsAfterExec (getCurrentlyOpenFds dir) m).find? fd
        = if fd ∈ opened then m.find? fd else none)
      ↔ syncFDsAfterExec (getCurrentlyOpenFds dir) m
        = m.restrict (· ∈ getCurrentlyOpenFds dir) := by
    constructor
    · intro h
      apply OrdMap.ext_find
      intro fd
      rw [h fd, OrdMap.find?_restrict]
      exact (if_congr (mem_getCurrentlyOpenFds hd fd) rfl rfl).symm
    · intro h fd
      rw [h, OrdMap.find?_restrict]
      exact if_congr (mem_getCurrentlyOpenFds hd fd) rfl rfl
  rw [hfind, syncFDsAfterExec_eq_restrict_iff]
  unfold NoneSkipped OrdMap.keys
  rw [List.isChain_map]
  apply List.IsChain.iff
  intro e e'
  exact or_congr (mem_getCurrentlyOpenFds hd e.1) (mem_getCurrentlyOpenFds hd e'.1)

/-! ## two closed descriptors -/

/-- `/proc` lists the descriptors 0 and 1 -/
def stdDir : ProcDir where
  entries := [⟨".".toList, none⟩, ⟨"0".toList, none⟩, ⟨"1".toList, none⟩]
  fdinfo := fun _ => none

theorem stdDir_lists : stdDir.Lists {0, 1} where
  listed := by decide
  complete := by decide
  range := by decide

/-- descriptors up to `n`, without further data -/
def mapTo (n : Nat) : FDInfoMap :=
  initialMap ((List.range n).map fun fd => { fd := fd })

theorem keepsOpen_stdDir : (mapTo 3).find? 2 ≠ none ∧ ∀ fd,
    (syncFDsAfterExec (getCurrentlyOpenFds stdDir) (mapTo 3)).find? fd
      = if fd ∈ ({0, 1} : Finset FileNum) then (mapTo 3).find? fd else none :=
  ⟨by decide, (keepsOpen_iff stdDir_lists (mapTo 3)).mpr (by decide)⟩

/-- the descriptors 2 and 3 are closed, and 3 stays in the map -/
theorem keepsOpen_fails : ¬ ∀ fd,
    (syncFDsAfterExec (getCurrentlyOpenFds stdDir) (mapTo 4)).find? fd
      = if fd ∈ ({0, 1} : Finset FileNum) then (mapTo 4).find? fd else none := by
  intro h
  exact absurd (h 3) (by decide)

end Clues
