import Clues.Lib.Digits
import Clues.Lib.Separated
import Clues.Types

/-!
# The parameters of a system call

The terminal tracer prints the first parameters of a system call when it is entered, the others when
it returns.

* `printParsOnEntry`, `printParsOnExit`   the two loops;
* `Updated`         the parameters at exit: their values may have changed;
* `PrintsOnce`      both texts together have each parameter once, with a separator between each two;
* `printsOnce_of_last`   this is so if the last parameter is used.
-/

namespace Clues

open Lib Lib.Digits Lib.Separated

/-- what is printed of a `SystemCallItem`; a character is a byte of the text -/
structure SystemCallItem where
  type : ItemType
  isUnused : Bool := false
  label : Text
  desc : Text := []
  str : Text
  deriving DecidableEq, Repr

namespace SystemCallItem

def isIn (par : SystemCallItem) : Bool := par.type = .paramIn

def description (par : SystemCallItem) : Text := if par.desc.isEmpty then par.label else par.desc

/-- the items of two stops of a system call -/
def Updated (par par' : SystemCallItem) : Prop :=
  par'.type = par.type ∧ par'.isUnused = par.isUnused

instance (par par' : SystemCallItem) : Decidable (par.Updated par') :=
  inferInstanceAs (Decidable (_ ∧ _))

end SystemCallItem

/-- the options for parameters -/
structure ParConfig where
  verbose : Bool := false
  /-- `m_print_pars` -/
  printPars : Bool := true
  /-- `m_par_truncation_len` -/
  truncationLen : Nat := 64

namespace TermTracer

variable (cfg : ParConfig)

/-- a quoted value keeps its quotes -/
def truncate (value : Text) : Text :=
  if cfg.truncationLen < value.length then
    let value := value.take cfg.truncationLen
    (if value.head? = some '"' then value ++ ['"'] else value) ++ ['.', '.', '.']
  else value

def printPar (par : SystemCallItem) : Text :=
  (if cfg.verbose then par.description else par.label) ++
    if cfg.printPars then '=' :: truncate cfg par.str else []

/-- the separator, unless this is the last parameter -/
def separator (behind : List SystemCallItem) : Text := if behind.isEmpty then [] else [',', ' ']

/-- up to the first parameter that is not an input parameter -/
def printParsOnEntry : List SystemCallItem → Text
  | [] => []
  | par :: pars =>
    if par.isUnused then printParsOnEntry pars
    else if !par.isIn then []
    else printPar cfg par ++ separator pars ++ printParsOnEntry pars

/-- the loop of `printParsOnExit()` -/
def printParsFrom : Bool → List SystemCallItem → Text
  | _, [] => []
  | seenNonInput, par :: pars =>
    if par.isUnused then printParsFrom seenNonInput pars
    else if !seenNonInput && par.isIn then printParsFrom seenNonInput pars
    else printPar cfg par ++ separator pars ++ printParsFrom true pars

def printParsOnExit (pars : List SystemCallItem) : Text := printParsFrom cfg false pars

/-! ## both texts -/

/-- the parameters at both stops that are not unused -/
def used (pars pars' : List SystemCallItem) : List (SystemCallItem × SystemCallItem) :=
  (pars.zip pars').filter fun par => !par.1.isUnused

/-- the text has each parameter once, as it was at one of the two stops, in the order of the list
and with a separator between each two -/
def PrintsOnce (pars pars' : List SystemCallItem) (text : Text) : Prop :=
  ∃ texts, List.Forall₂ (fun par text => text = printPar cfg par.1 ∨ text = printPar cfg par.2)
    (used pars pars') texts ∧ text = [',', ' '].intercalate texts

/-- the last parameter, if there is one, is used -/
def LastUsed (pars : List SystemCallItem) : Prop := ∀ par ∈ pars.getLast?, par.isUnused = false

instance (pars : List SystemCallItem) : Decidable (LastUsed pars) :=
  inferInstanceAs (Decidable (∀ par ∈ pars.getLast?, par.isUnused = false))

variable {cfg : ParConfig} {par par' : SystemCallItem} {pars pars' : List SystemCallItem}

theorem LastUsed.tail (h : LastUsed (par :: pars)) : LastUsed pars := by
  intro last hlast
  apply h last
  rw [List.getLast?_cons, Option.mem_def.mp hlast]
  rfl

theorem LastUsed.ne_nil (h : LastUsed (par :: pars)) (hu : par.isUnused = true) : pars ≠ [] := by
  rintro rfl
  have hused := h par rfl
  rw [hu] at hused
  cases hused

/-- a parameter is printed behind the ones before it -/
theorem used_ne_nil (hup : List.Forall₂ SystemCallItem.Updated pars pars') (hl : LastUsed pars)
    (hne : pars ≠ []) : used pars pars' ≠ [] := by
  induction hup with
  | nil => exact absurd rfl hne
  | @cons par par' pars pars' hpar hup ih =>
    unfold used
    rw [List.zip_cons_cons, List.filter_cons]
    by_cases hu : par.isUnused = true
    · rw [if_neg (by simp [hu])]
      exact ih hl.tail (hl.ne_nil hu)
    · rw [if_pos (by simp [hu])]
      exact List.cons_ne_nil _ _

theorem used_cons_of_unused (hu : par.isUnused = true) :
    used (par :: pars) (par' :: pars') = used pars pars' := by
  unfold used
  rw [List.zip_cons_cons, List.filter_cons, if_neg (by simp [hu])]

theorem used_cons_of_used (hu : par.isUnused = false) :
    used (par :: pars) (par' :: pars') = (par, par') :: used pars pars' := by
  unfold used
  rw [List.zip_cons_cons, List.filter_cons, if_pos (by simp [hu])]

/-- one parameter before the others -/
theorem PrintsOnce.cons {t text : Text} (hup : List.Forall₂ SystemCallItem.Updated pars pars')
    (hl : LastUsed pars) (hu : par.isUnused = false)
    (ht : t = printPar cfg par ∨ t = printPar cfg par') (h : PrintsOnce cfg pars pars' text) :
    PrintsOnce cfg (par :: pars) (par' :: pars') (t ++ separator pars ++ text) := by
  obtain ⟨texts, htexts, rfl⟩ := h
  refine ⟨t :: texts, ?_, ?_⟩
  · rw [used_cons_of_used hu]
    exact List.Forall₂.cons ht htexts
  · by_cases hne : pars = []
    · subst hne
      cases hup
      cases htexts
      simp [separator]
    · have htne : texts ≠ [] := by
        rintro rfl
        have hnone : used pars pars' = [] := by
          cases hused : used pars pars' with
          | nil => rfl
          | cons =>
            rw [hused] at htexts
            cases htexts
        exact used_ne_nil hup hl hne hnone
      have hsep : separator pars = [',', ' '] := by
        unfold separator
        rw [if_neg (by simp [hne])]
      rw [List.intercalate_cons_of_ne_nil htne, hsep]

theorem PrintsOnce.skip {text : Text} (hu : par.isUnused = true)
    (h : PrintsOnce cfg pars pars' text) : PrintsOnce cfg (par :: pars) (par' :: pars') text := by
  obtain ⟨texts, htexts, rfl⟩ := h
  refine ⟨texts, ?_, rfl⟩
  rw [used_cons_of_unused hu]
  exact htexts

theorem separator_updated (hup : List.Forall₂ SystemCallItem.Updated pars pars') :
    separator pars' = separator pars := by
  cases hup with
  | nil => rfl
  | cons => rfl

/-- from the first parameter that is not an input parameter on, all are printed at exit -/
theorem printsOnce_rest (hup : List.Forall₂ SystemCallItem.Updated pars pars')
    (hl : LastUsed pars) : PrintsOnce cfg pars pars' (printParsFrom cfg true pars') := by
  induction hup with
  | nil => exact ⟨[], List.Forall₂.nil, rfl⟩
  | @cons par par' pars pars' hpar hup ih =>
    have hrest := ih hl.tail
    unfold printParsFrom
    by_cases hu : par.isUnused = true
    · rw [if_pos (hpar.2.trans hu)]
      exact hrest.skip hu
    · have hu' : par.isUnused = false := Bool.eq_false_iff.mpr hu
      rw [if_neg (by rw [hpar.2]; exact hu), if_neg (by simp), separator_updated hup]
      exact PrintsOnce.cons hup hl.tail hu' (Or.inr rfl) hrest

/-- for every list of parameters whose last one is used: what is printed at entry, and behind it
what is printed at exit, has each used parameter once and in order -/
theorem printsOnce_of_last (hup : List.Forall₂ SystemCallItem.Updated pars pars')
    (hl : LastUsed pars) :
    PrintsOnce cfg pars pars' (printParsOnEntry cfg pars ++ printParsOnExit cfg pars') := by
  unfold printParsOnExit
  induction hup with
  | nil => exact ⟨[], List.Forall₂.nil, rfl⟩
  | @cons par par' pars pars' hpar hup ih =>
    have hrest := ih hl.tail
    unfold printParsOnEntry printParsFrom
    by_cases hu : par.isUnused = true
    · rw [if_pos hu, if_pos (hpar.2.trans hu)]
      exact hrest.skip hu
    · have hu' : par.isUnused = false := Bool.eq_false_iff.mpr hu
      have hin : par'.isIn = par.isIn := by
        unfold SystemCallItem.isIn
        rw [hpar.1]
      have hu2 : ¬ par'.isUnused = true := by
        rw [hpar.2]
        exact hu
      rw [if_neg hu, if_neg hu2, hin]
      by_cases hi : par.isIn = true
      · -- the input parameters in front are printed at entry only
        rw [if_neg (by simp [hi]), if_pos (by simp [hi]), List.append_assoc]
        exact PrintsOnce.cons hup hl.tail hu' (Or.inl rfl) hrest
      · rw [if_pos (by simp [hi]), if_neg (by simp [hi]), List.nil_append, separator_updated hup]
        exact PrintsOnce.cons hup hl.tail hu' (Or.inr rfl) (printsOnce_rest hup hl.tail)

/-- `read()`: the buffer is filled by the kernel, its size is printed behind it -/
def readPars (buf : Text) : List SystemCallItem :=
  [{ type := .paramIn, label := "fd".toList, str := ['3'] },
    { type := .paramOut, label := "buf".toList, str := buf },
    { type := .paramIn, label := "count".toList, str := ['8'] }]

theorem printsOnce_read : PrintsOnce {} (readPars []) (readPars ['"', 'a', '"'])
    "fd=3, buf=\"a\", count=8".toList :=
  printsOnce_of_last (by decide) (by decide)

end TermTracer

end Clues
