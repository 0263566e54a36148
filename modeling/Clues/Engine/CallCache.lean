import Clues.Engine.Settling
import Clues.Engine.Ledger

/-!
# The cache of system call objects

A tracee keeps one system call object for each number (`SystemCallDB`), and an object knows the ABI
that it was last used under.

* `lastUse num us nr`   the ABI of the last use of an object that was made for `nr`;
* `World.Own`           of some tracees only one refers to the object, and finds it under its number;
* `Indexed H P w`       the tracees `P` refer to own objects, and those in their databases know the
                        ABIs of the uses `H`;
* `Aware`               what this relies on, whatever the system call objects are.
-/

set_option linter.unusedSectionVars false

namespace Clues

open Lib Lib.Exec Step

/-! ## uses -/

/-- the objects that were used and the ABIs, the last one first -/
abbrev Uses := List (CallId × ABI)

/-- the system calls that are not cached have no last use -/
def lastUse (num : Numbering) (us : Uses) (nr : SystemCallNr) : Option ABI :=
  if isMultiSys nr then none else (us.find? fun u => num u.1 = some nr).map Prod.snd

section
variable {num num' : Numbering} {us : Uses} {c : CallId} {abi : ABI} {nr : SystemCallNr}

theorem lastUse_nil : lastUse num [] nr = none := by
  unfold lastUse
  split_ifs
  · rfl
  · rfl

theorem lastUse_multi (h : isMultiSys nr = true) : lastUse num us nr = none := if_pos h

theorem lastUse_cons_self (hm : isMultiSys nr = false) (h : num c = some nr) :
    lastUse num ((c, abi) :: us) nr = some abi := by
  unfold lastUse
  rw [hm, if_neg Bool.false_ne_true]
  simp [h]

theorem lastUse_cons_of_ne (h : num c ≠ some nr) :
    lastUse num ((c, abi) :: us) nr = lastUse num us nr := by
  unfold lastUse
  simp [h]

/-- numbers that were known stay -/
theorem lastUse_extend (hn : Extends num num') (h : ∀ u ∈ us, ∃ n, num u.1 = some n) :
    lastUse num' us nr = lastUse num us nr := by
  induction us with
  | nil => rw [lastUse_nil, lastUse_nil]
  | cons u us ih =>
    have ih := ih fun v hv => h v (List.mem_cons_of_mem u hv)
    obtain ⟨n, hu⟩ := h u List.mem_cons_self
    have hu' : num' u.1 = some n := hn _ _ hu
    by_cases hm : isMultiSys nr = true
    · rw [lastUse_multi hm, lastUse_multi hm]
    · rw [Bool.not_eq_true] at hm
      by_cases hnr : n = nr
      · subst hnr
        rw [lastUse_cons_self hm hu, lastUse_cons_self hm hu']
      · have hne : ∀ {m : Numbering}, m u.1 = some n → m u.1 ≠ some nr := fun hm' he =>
          hnr (Option.some.inj (hm'.symm.trans he))
        rw [lastUse_cons_of_ne (hne hu), lastUse_cons_of_ne (hne hu'), ih]

theorem mem_of_lastUse {a : ABI} (h : lastUse num us nr = some a) : ∃ u ∈ us, u.2 = a := by
  unfold lastUse at h
  split_ifs at h
  obtain ⟨u, hu, ha⟩ := Option.map_eq_some_iff.mp h
  exact ⟨u, List.mem_of_find?_eq_some hu, ha⟩

end

/-! ## who refers to an object -/

variable {SC : Type} [SyscallOps SC] {env : Env}

def Shelf.Has (s : Shelf) (c : CallId) : Prop :=
  (∃ nr, s.db nr = some c) ∨ s.current = some c ∨ s.interrupted = some c

theorem Shelf.not_has_empty (c : CallId) : ¬ Shelf.Has {} c := by
  rintro (⟨nr, h⟩ | h | h)
  · cases h
  · cases h
  · cases h

/-- of the tracees `P` only `a` refers to the object, and finds it under its number -/
structure World.Own (w : World SC) (P : TraceeId → Prop) (a : TraceeId) (c : CallId) : Prop where
  filed : ∃ nr, w.requested c = some nr ∧
    (isMultiSys nr = false → (w.objs a).syscallDb nr = some c)
  alone : ∀ b, P b → b ≠ a → ¬ (w.objs b).shelf.Has c

/-- the ABI that the object in the database knows -/
def World.cachedAbi (w : World SC) (id : TraceeId) (nr : SystemCallNr) : ABI :=
  (((w.objs id).syscallDb nr).bind w.calls).elim .unknown fun call => SyscallOps.abi call.obj

structure Indexed (H : TraceeId → Uses) (P : TraceeId → Prop) (w : World SC) : Prop where
  fresh : ∀ c, w.nextCall ≤ c → w.calls c = none
  unborn : ∀ b, P b → w.nextObj ≤ b → H b = []
  real : ∀ b, P b → ∀ u ∈ H b, u.2 ≠ .unknown ∧ ∃ n, w.requested u.1 = some n
  db : ∀ b, P b → ∀ nr c, (w.objs b).syscallDb nr = some c →
    w.requested c = some nr ∧ isMultiSys nr = false
  own : ∀ b, P b → ∀ c, (w.objs b).shelf.Has c → w.Own P b c
  known : ∀ b, P b → ∀ nr, w.cachedAbi b nr = (lastUse w.requested (H b) nr).getD .unknown

variable {H H' : TraceeId → Uses} {P P' : TraceeId → Prop} {w w' : World SC} {a : TraceeId}
  {c : CallId} {call : CallObj SC} {sc : SC}

theorem World.Own.mono (h : w.Own P a c) (hP : ∀ b, P' b → P b) : w.Own P' a c :=
  ⟨h.filed, fun b hb => h.alone b (hP b hb)⟩

/-- fewer tracees, with the same uses -/
theorem Indexed.mono (h : Indexed H P w) (hP : ∀ b, P' b → P b) (hH : ∀ b, P' b → H' b = H b) :
    Indexed H' P' w where
  fresh := h.fresh
  unborn b hb hn := (hH b hb).trans (h.unborn b (hP b hb) hn)
  real b hb := by
    rw [hH b hb]
    exact h.real b (hP b hb)
  db b hb := h.db b (hP b hb)
  own b hb c hc := (h.own b (hP b hb) c hc).mono hP
  known b hb nr := by
    rw [hH b hb]
    exact h.known b (hP b hb) nr

theorem requested_of_calls (h : w'.calls = w.calls) : w'.requested = w.requested := by
  funext c
  unfold World.requested
  rw [h]

theorem cachedAbi_of_same (hc : w'.calls = w.calls)
    (hd : (w'.objs a).syscallDb = (w.objs a).syscallDb) : w'.cachedAbi a = w.cachedAbi a := by
  funext nr
  unfold World.cachedAbi
  rw [hc, hd]

theorem Indexed.still (h : Indexed H P w) (hs : Still w w') (hn : w.nextObj ≤ w'.nextObj) :
    Indexed H P w' := by
  have hreq : w'.requested = w.requested := requested_of_calls hs.calls
  have hhas : ∀ {b c}, (w'.objs b).shelf.Has c →
      (w'.objs b).shelf = (w.objs b).shelf ∧ (w.objs b).shelf.Has c := by
    intro b c hc
    obtain he | ⟨-, he⟩ := hs.shelf b
    · exact ⟨he, he ▸ hc⟩
    · rw [he] at hc
      exact absurd hc (Shelf.not_has_empty c)
  refine ⟨fun c hc => ?_, fun b hb hle => h.unborn b hb (hn.trans hle), fun b hb => ?_,
    fun b hb nr c hc => ?_, fun b hb c hc => ?_, fun b hb nr => ?_⟩
  · rw [hs.calls]
    exact h.fresh c (hs.nextCall ▸ hc)
  · rw [hreq]
    exact h.real b hb
  · have he : (w'.objs b).shelf = (w.objs b).shelf := (hhas (Or.inl ⟨nr, hc⟩)).1
    rw [hreq]
    exact h.db b hb nr c ((congrFun (congrArg Shelf.db he) nr).symm.trans hc)
  · obtain ⟨he, hc⟩ := hhas hc
    obtain ⟨⟨nr, hnr, hdb⟩, halone⟩ := h.own b hb c hc
    refine ⟨⟨nr, hreq.symm ▸ hnr, fun hm => ?_⟩, fun b' hb' hne hc' => ?_⟩
    · exact (congrFun (congrArg Shelf.db he) nr).trans (hdb hm)
    · exact halone b' hb' hne (hhas hc').2
  · rw [hreq]
    obtain he | ⟨hle, he⟩ := hs.shelf b
    · rw [cachedAbi_of_same hs.calls (congrArg Shelf.db he)]
      exact h.known b hb nr
    · rw [h.unborn b hb hle, lastUse_nil]
      have hdb : (w'.objs b).syscallDb nr = none := congrFun (congrArg Shelf.db he) nr
      unfold World.cachedAbi
      rw [hdb]
      rfl

/-! ## what the tracee refers to -/

theorem World.Own.setObj (h : w.Own P a c) {t : Tracee}
    (hdb : t.syscallDb = (w.objs a).syscallDb) : (w.setObj a t).Own P a c := by
  obtain ⟨⟨nr, hnr, hc⟩, halone⟩ := h
  refine ⟨⟨nr, hnr, fun hm => ?_⟩, fun b hb hne => ?_⟩
  · rw [World.setObj_self, hdb]
    exact hc hm
  · rw [World.setObj_of_ne w t hne]
    exact halone b hb hne

/-- the tracee refers to other objects that are its own -/
theorem Indexed.shelve (h : Indexed H P w) (ha : P a) {t : Tracee}
    (hdb : t.syscallDb = (w.objs a).syscallDb)
    (hc : ∀ c, t.currentSyscall = some c ∨ t.interruptedSyscall = some c → w.Own P a c) :
    Indexed H P (w.setObj a t) := by
  have hown : ∀ c, t.shelf.Has c → w.Own P a c := by
    rintro c (⟨nr, hnr⟩ | hc')
    · refine h.own a ha c (Or.inl ⟨nr, ?_⟩)
      rw [← hnr]
      exact congrFun hdb.symm nr
    · exact hc c hc'
  refine ⟨h.fresh, h.unborn, h.real, fun b hb nr c hdb' => ?_, fun b hb c hc' => ?_,
    fun b hb nr => ?_⟩
  · by_cases hba : b = a
    · subst hba
      rw [World.setObj_self, hdb] at hdb'
      exact h.db b hb nr c hdb'
    · rw [World.setObj_of_ne w t hba] at hdb'
      exact h.db b hb nr c hdb'
  · by_cases hba : b = a
    · subst hba
      rw [World.setObj_self] at hc'
      exact (hown c hc').setObj hdb
    · rw [World.setObj_of_ne w t hba] at hc'
      obtain ⟨⟨nr, hnr, hdb'⟩, halone⟩ := h.own b hb c hc'
      refine ⟨⟨nr, hnr, fun hm => ?_⟩, fun b' hb' hne hc'' => ?_⟩
      · rw [World.setObj_of_ne w t hba]
        exact hdb' hm
      · by_cases hb'a : b' = a
        · subst hb'a
          rw [World.setObj_self] at hc''
          exact (hown c hc'').alone b hb hba hc'
        · rw [World.setObj_of_ne w t hb'a] at hc''
          exact halone b' hb' hne hc''
  · show (w.setObj a t).cachedAbi b nr = (lastUse w.requested (H b) nr).getD .unknown
    rw [← h.known b hb nr]
    have hcalls : (w.setObj a t).calls = w.calls := rfl
    by_cases hba : b = a
    · have hsame : ((w.setObj a t).objs b).syscallDb = (w.objs b).syscallDb := by
        rw [hba, World.setObj_self, hdb]
      exact congrFun (cachedAbi_of_same hcalls hsame) nr
    · have hsame : ((w.setObj a t).objs b).syscallDb = (w.objs b).syscallDb := by
        rw [World.setObj_of_ne w t hba]
      exact congrFun (cachedAbi_of_same hcalls hsame) nr

/-! ## the objects -/

/-- an object is replaced -/
theorem calls_putCall (hc : w.calls c = some call) (c' : CallId) :
    (putCall c sc w).2.calls c' = if c' = c then some { call with obj := sc } else w.calls c' := by
  show Function.update w.calls c _ c' = _
  rw [Function.update_apply, hc]
  rfl

/-- what stays when an object is replaced -/
theorem Indexed.putCall (h : Indexed H P w) (hc : w.calls c = some call)
    (hu : ∀ b, P b → w.nextObj ≤ b → H' b = [])
    (hr : ∀ b, P b → ∀ u ∈ H' b, u.2 ≠ .unknown ∧ ∃ n, w.requested u.1 = some n)
    (hk : ∀ b, P b → ∀ nr,
      (putCall c sc w).2.cachedAbi b nr = (lastUse w.requested (H' b) nr).getD .unknown) :
    Indexed H' P (putCall c sc w).2 := by
  have hreq : (Clues.putCall c sc w).2.requested = w.requested :=
    funext fun q => requested_putCall c sc w q
  refine ⟨fun q hq => ?_, hu, fun b hb => ?_, fun b hb => ?_, fun b hb q hq => ?_,
    fun b hb => ?_⟩
  · have hq' : w.calls q = none := h.fresh q hq
    rw [calls_putCall hc, if_neg, hq']
    rintro rfl
    rw [hc] at hq'
    cases hq'
  · rw [hreq]
    exact hr b hb
  · rw [hreq]
    exact h.db b hb
  · obtain ⟨hf, halone⟩ := h.own b hb q hq
    refine ⟨?_, halone⟩
    rw [hreq]
    exact hf
  · rw [hreq]
    exact hk b hb

/-- the object keeps its ABI -/
theorem Indexed.replace (h : Indexed H P w) (hc : w.calls c = some call)
    (habi : SyscallOps.abi sc = SyscallOps.abi call.obj) :
    Indexed H P (Clues.putCall c sc w).2 := by
  refine h.putCall hc h.unborn h.real fun b hb nr => ?_
  rw [← h.known b hb nr]
  unfold World.cachedAbi
  show ((((w.objs b).syscallDb nr).bind _).elim _ _) = _
  cases hdb : (w.objs b).syscallDb nr with
  | none => rfl
  | some q =>
    rw [Option.bind_some, Option.bind_some, calls_putCall hc]
    split_ifs with hq
    · rw [hq, hc]
      exact habi
    · rfl

/-- the object is used under an ABI -/
theorem Indexed.use (h : Indexed H P w) (ha : P a) (hlt : a < w.nextObj) (ho : w.Own P a c)
    (hc : w.calls c = some call) (hreal : SyscallOps.abi sc ≠ .unknown) :
    Indexed (Function.update H a ((c, SyscallOps.abi sc) :: H a)) P (Clues.putCall c sc w).2 := by
  obtain ⟨⟨n, hn, hdb⟩, halone⟩ := ho
  refine h.putCall hc (fun b hb hle => ?_) (fun b hb u hu => ?_) fun b hb nr => ?_
  · rw [Function.update_of_ne (ne_of_gt (lt_of_lt_of_le hlt hle))]
    exact h.unborn b hb hle
  · by_cases hba : b = a
    · subst hba
      rw [Function.update_self] at hu
      obtain rfl | hu := List.mem_cons.mp hu
      · exact ⟨hreal, n, hn⟩
      · exact h.real b hb u hu
    · rw [Function.update_of_ne hba] at hu
      exact h.real b hb u hu
  · have hcached : (Clues.putCall c sc w).2.cachedAbi b nr =
        if (w.objs b).syscallDb nr = some c then SyscallOps.abi sc else w.cachedAbi b nr := by
      unfold World.cachedAbi
      show ((((w.objs b).syscallDb nr).bind _).elim _ _) = _
      cases hq : (w.objs b).syscallDb nr with
      | none => rfl
      | some q =>
        rw [Option.bind_some, Option.bind_some, calls_putCall hc]
        by_cases hqc : q = c
        · rw [if_pos hqc, if_pos (congrArg some hqc)]
          rfl
        · rw [if_neg hqc, if_neg fun he => hqc (Option.some.inj he)]
    rw [hcached]
    by_cases hba : b = a
    · subst hba
      rw [Function.update_self]
      by_cases hnr : n = nr
      · subst hnr
        by_cases hm : isMultiSys n = true
        · rw [lastUse_multi hm, if_neg, h.known b hb, lastUse_multi hm]
          intro he
          rw [(h.db b hb n c he).2] at hm
          cases hm
        · rw [Bool.not_eq_true] at hm
          rw [lastUse_cons_self hm hn, if_pos (hdb hm)]
          rfl
      · have hne : w.requested c ≠ some nr := by
          rw [hn]
          exact fun he => hnr (Option.some.inj he)
        rw [lastUse_cons_of_ne hne, if_neg fun he => hne (h.db b hb nr c he).1]
        exact h.known b hb nr
    · have hne : (w.objs b).syscallDb nr ≠ some c := fun he =>
        halone b hb hba (Or.inl ⟨nr, he⟩)
      rw [Function.update_of_ne hba, if_neg hne]
      exact h.known b hb nr

theorem Indexed.lt_of_requested (h : Indexed H P w) {n : SystemCallNr}
    (hc : w.requested c = some n) : c < w.nextCall := by
  by_contra hlt
  unfold World.requested at hc
  rw [h.fresh c (not_lt.mp hlt)] at hc
  cases hc

theorem calls_newCall (hc : c ≠ w.nextCall) : (newCall call w).2.calls c = w.calls c :=
  Function.update_of_ne hc ..

theorem Indexed.extends_newCall (h : Indexed H P w) :
    Extends w.requested (newCall call w).2.requested := by
  intro q n hq
  have hne : q ≠ w.nextCall := ne_of_lt (h.lt_of_requested hq)
  unfold World.requested
  rw [calls_newCall hne]
  exact hq

/-- nobody refers to the object that is made next -/
theorem Indexed.not_has_next (h : Indexed H P w) {b : TraceeId} (hb : P b) :
    ¬ (w.objs b).shelf.Has w.nextCall := by
  intro hc
  obtain ⟨n, hn, -⟩ := (h.own b hb _ hc).filed
  exact lt_irrefl _ (h.lt_of_requested hn)

/-- an object is made; it was not used yet -/
theorem Indexed.create (h : Indexed H P w) : Indexed H P (newCall call w).2 := by
  have hext : Extends w.requested (newCall call w).2.requested := h.extends_newCall
  refine ⟨fun q hq => ?_, h.unborn, fun b hb u hu => ?_, fun b hb nr q hq => ?_,
    fun b hb q hq => ?_, fun b hb nr => ?_⟩
  · have hlt : w.nextCall < q := hq
    rw [calls_newCall (ne_of_gt hlt)]
    exact h.fresh q hlt.le
  · obtain ⟨hu1, n, hn⟩ := h.real b hb u hu
    exact ⟨hu1, n, hext _ _ hn⟩
  · obtain ⟨hn, hm⟩ := h.db b hb nr q hq
    exact ⟨hext _ _ hn, hm⟩
  · obtain ⟨⟨n, hn, hdb⟩, halone⟩ := h.own b hb q hq
    exact ⟨⟨n, hext _ _ hn, hdb⟩, halone⟩
  · rw [lastUse_extend hext fun u hu => (h.real b hb u hu).2, ← h.known b hb nr]
    unfold World.cachedAbi
    show ((((w.objs b).syscallDb nr).bind _).elim _ _) = _
    cases hq : (w.objs b).syscallDb nr with
    | none => rfl
    | some q =>
      have hne : q ≠ w.nextCall := ne_of_lt (h.lt_of_requested (h.db b hb nr q hq).1)
      rw [Option.bind_some, Option.bind_some, calls_newCall hne]

/-- the new object is put into the database -/
theorem Indexed.cache (h : Indexed H P w) (ha : P a) (hc : w.calls c = some call)
    (habi : SyscallOps.abi call.obj = .unknown) (hm : isMultiSys call.requested = false)
    (hnone : (w.objs a).syscallDb call.requested = none)
    (hfree : ∀ b, P b → ¬ (w.objs b).shelf.Has c) :
    Indexed H P (w.setObj a { w.objs a with
      syscallDb := Function.update (w.objs a).syscallDb call.requested (some c) }) := by
  generalize hv : w.setObj a { w.objs a with
    syscallDb := Function.update (w.objs a).syscallDb call.requested (some c) } = v
  have hother : ∀ {b}, b ≠ a → v.objs b = w.objs b := fun hb => hv ▸ World.setObj_of_ne w _ hb
  have hcalls : v.calls = w.calls := hv ▸ rfl
  have hnextCall : v.nextCall = w.nextCall := hv ▸ rfl
  have hnextObj : v.nextObj = w.nextObj := hv ▸ rfl
  have hreq : v.requested = w.requested := requested_of_calls hcalls
  have hreqc : w.requested c = some call.requested := by
    unfold World.requested
    rw [hc]
    rfl
  have hdb : ∀ nr, (v.objs a).syscallDb nr
      = if nr = call.requested then some c else (w.objs a).syscallDb nr := by
    intro nr
    rw [← hv, World.setObj_self]
    exact Function.update_apply ..
  -- what the tracee refers to now is the new object, or was referred to before
  have hhas : ∀ q, (v.objs a).shelf.Has q → q = c ∨ (w.objs a).shelf.Has q := by
    rintro q (⟨nr, hq⟩ | hq)
    · rw [show (v.objs a).shelf.db nr = (v.objs a).syscallDb nr from rfl, hdb] at hq
      split_ifs at hq
      · exact Or.inl (Option.some.inj hq).symm
      · exact Or.inr (Or.inl ⟨nr, hq⟩)
    · right
      right
      rwa [← hv, World.setObj_self] at hq
  have hown : ∀ q, (v.objs a).shelf.Has q → v.Own P a q := by
    intro q hq
    obtain rfl | hq := hhas q hq
    · refine ⟨⟨call.requested, hreq ▸ hreqc, fun _ => ?_⟩, fun b hb hne hq' => ?_⟩
      · rw [hdb, if_pos rfl]
      · rw [hother hne] at hq'
        exact hfree b hb hq'
    · obtain ⟨⟨nr, hnr, hnrdb⟩, halone⟩ := h.own a ha q hq
      refine ⟨⟨nr, hreq ▸ hnr, fun hmulti => ?_⟩, fun b hb hne hq' => ?_⟩
      · rw [hdb, if_neg]
        · exact hnrdb hmulti
        · rintro rfl
          rw [hnone] at hnrdb
          exact nomatch hnrdb hmulti
      · rw [hother hne] at hq'
        exact halone b hb hne hq'
  refine ⟨fun q hq => ?_, fun b hb hle => h.unborn b hb ?_, fun b hb => ?_,
    fun b hb nr q hq => ?_, fun b hb q hq => ?_, fun b hb nr => ?_⟩
  · rw [hcalls]
    exact h.fresh q (hnextCall ▸ hq)
  · exact hnextObj ▸ hle
  · rw [hreq]
    exact h.real b hb
  · rw [hreq]
    by_cases hba : b = a
    · subst hba
      rw [hdb] at hq
      split_ifs at hq with hnr
      · cases hq
        rw [hnr]
        exact ⟨hreqc, hm⟩
      · exact h.db b hb nr q hq
    · rw [hother hba] at hq
      exact h.db b hb nr q hq
  · by_cases hba : b = a
    · subst hba
      exact hown q hq
    · rw [hother hba] at hq
      obtain ⟨⟨nr, hnr, hnrdb⟩, halone⟩ := h.own b hb q hq
      refine ⟨⟨nr, hreq ▸ hnr, fun hmulti => ?_⟩, fun b' hb' hne hq' => ?_⟩
      · rw [hother hba]
        exact hnrdb hmulti
      · by_cases hb'a : b' = a
        · subst hb'a
          obtain rfl | hq' := hhas q hq'
          · exact hfree b hb hq
          · exact halone b' hb' hne hq'
        · rw [hother hb'a] at hq'
          exact halone b' hb' hne hq'
  · rw [hreq, ← h.known b hb nr]
    unfold World.cachedAbi
    rw [hcalls]
    by_cases hba : b = a
    · subst hba
      rw [hdb]
      split_ifs with hnr
      · rw [hnr, hnone, Option.bind_some, hc]
        exact habi
      · rfl
    · rw [hother hba]

/-! ## what moves to another tracee -/

/-- each tracee refers to the objects that the tracee `f b` referred to -/
theorem Indexed.transfer (h : Indexed H P w) {f : TraceeId → TraceeId}
    (hf : ∀ b, P' b → P (f b) ∧ (w'.objs b).shelf = (w.objs (f b)).shelf ∧ H' b = H (f b))
    (hinj : ∀ b b', P' b → P' b' → f b = f b' → b = b')
    (hcalls : w'.calls = w.calls) (hnext : w'.nextCall = w.nextCall)
    (hu : ∀ b, P' b → w'.nextObj ≤ b → H' b = []) : Indexed H' P' w' := by
  have hreq : w'.requested = w.requested := requested_of_calls hcalls
  have hdb : ∀ {b}, P' b → (w'.objs b).syscallDb = (w.objs (f b)).syscallDb := fun hb =>
    congrArg Shelf.db (hf _ hb).2.1
  refine ⟨fun q hq => ?_, hu, fun b hb => ?_, fun b hb nr q hq => ?_, fun b hb q hq => ?_,
    fun b hb nr => ?_⟩
  · rw [hcalls]
    exact h.fresh q (hnext ▸ hq)
  · rw [hreq, (hf b hb).2.2]
    exact h.real _ (hf b hb).1
  · rw [hreq]
    rw [hdb hb] at hq
    exact h.db _ (hf b hb).1 nr q hq
  · rw [(hf b hb).2.1] at hq
    obtain ⟨⟨nr, hnr, hnrdb⟩, halone⟩ := h.own _ (hf b hb).1 q hq
    refine ⟨⟨nr, hreq ▸ hnr, fun hm => ?_⟩, fun b' hb' hne hq' => ?_⟩
    · rw [hdb hb]
      exact hnrdb hm
    · rw [(hf b' hb').2.1] at hq'
      exact halone _ (hf b' hb').1 (fun he => hne (hinj b' b hb' hb he)) hq'
  · rw [hreq, (hf b hb).2.2, ← h.known _ (hf b hb).1 nr]
    unfold World.cachedAbi
    rw [hcalls, hdb hb]

/-! ## laws -/

/-- an object that was not used has no ABI, an entry sets it, and an exit keeps it -/
structure Aware (SC : Type) [SyscallOps SC] : Prop where
  created : ∀ {de : DecodeEnv} {info : SystemCallInfo} {r : SC × Bool},
    SyscallOps.createSyscall de info = .ok r →
      SyscallOps.abi r.1 = .unknown ∧ r.2 = !isMultiSys info.sysNr
  entry : ∀ (de : DecodeEnv) (info : SystemCallInfo) (sc : SC),
    SyscallOps.abi (SyscallOps.setEntryInfo de info sc).2 = info.abi
  exit : ∀ (de : DecodeEnv) (info : SystemCallInfo) (sc : SC) (ps : ProcState),
    SyscallOps.abi (SyscallOps.setExitInfo de info sc ps).2.1 = SyscallOps.abi sc

theorem aware_systemCall {I : Type} [CallItems I] : Aware (SystemCall I) where
  created := by
    intro de info r h
    obtain ⟨items, rfl⟩ := createSyscall_eq_ok h
    exact ⟨rfl, rfl⟩
  entry := by
    intro de info sc
    show (SystemCall.setEntryInfo de info sc).2.abi = info.abi
    unfold SystemCall.setEntryInfo
    cases info.stop <;> rfl
  exit := by
    intro de info sc ps
    show (SystemCall.setExitInfo de info sc ps).2.1.abi = sc.abi
    unfold SystemCall.setExitInfo
    cases info.stop <;> rfl

end Clues
