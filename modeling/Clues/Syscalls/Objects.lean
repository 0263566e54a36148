import Clues.Lib.Members
import Clues.SystemCall

/-!
# System call objects and their parameters

The objects are cached, and decode one system call after the other.  Some specialisations arrange
their parameters anew for each one.

* `CallClass ι`     a specialisation with members `ι`: the constructor and the virtual functions;
* `CallObject ι`    an object of it: its members, its parameters and the outcome of the call;
* `Used c o`        what can become of an object, also if decoding was aborted by exceptions;
* `Regular c`       what the virtual functions have to do for the objects to be reusable;
* `similar_call`, `sound_of_used`   what follows from it.
-/

namespace Clues

open Lib.Members

/-! ## classes -/

inductive ItemKind where
  | par (type : ItemType)
  | retval
  deriving DecidableEq, Repr

/-- `needsUpdate()` of parameters -/
def ItemKind.needsUpdate : ItemKind → Bool
  | .par .paramIn => false
  | _ => true

/-- the members of an object, `m_pars` and `m_return`; the datum is `m_is_native_64` -/
abbrev Layout (ι : Type) := Shape ι ItemKind Bool

structure CallClass (ι : Type) where
  /-- what the constructor makes -/
  layout : Layout ι
  /-- the content of the item is in the memory of the tracee -/
  reads : ι → Bool
  prepareNewSystemCall : ABI → Layout ι → Except Exc (Layout ι)
  /-- this sees the words in the fixed parameters -/
  check2ndPass : ABI → (ι → Word) → Layout ι → Except Exc (Layout ι × Bool)
  /-- the optional members that `updateFDTracking()` dereferences -/
  tracked : (ι → Word) → List ι

structure CallObject (ι : Type) where
  obj : Obj ι ItemKind Bool Word
  abi : ABI := .unknown
  error : Option ErrnoResult := none

/-- what an object gets to see at entry; members that read from memory may throw there -/
structure CallEntry (ι : Type) where
  abi : ABI
  args : Fin 6 → Word
  first : ι → Option Exc
  second : ι → Option Exc

structure CallExitStop (ι : Type) where
  info : ExitInfo
  fails : ι → Option Exc

section
variable {ι : Type} [DecidableEq ι]

def CallClass.new (c : CallClass ι) : CallObject ι := { obj := { shape := c.layout, value := fun _ => 0 } }

/-- only members that read from memory throw -/
def CallClass.throws (c : CallClass ι) (fails : ι → Option Exc) (i : ι) : Option Exc :=
  if c.reads i then fails i else none

def CallObject.fillParameters (fails : ι → Option Exc) (args : Fin 6 → Word) (o : CallObject ι) :
    Except (Fault Exc) Unit × CallObject ι :=
  let r := o.obj.fill fails o.obj.shape.slots (List.ofFn args)
  (r.1, { o with obj := r.2 })

def CallObject.arrange (s : Layout ι) (o : CallObject ι) : CallObject ι :=
  { o with obj := { o.obj with shape := s } }

/-- the second half of `setEntryInfo()` -/
def CallClass.secondPass (c : CallClass ι) (e : CallEntry ι) (o : CallObject ι) :
    Except (Fault Exc) Unit × CallObject ι :=
  match c.check2ndPass e.abi o.obj.value o.obj.shape with
  | .error x => (.error (.error x), o)
  | .ok (s, again) =>
    if again then (o.arrange s).fillParameters (c.throws e.second) e.args
    else (.ok (), o.arrange s)

/-- until the exit the object reports a synthesized error -/
def CallObject.enter (abi : ABI) (o : CallObject ι) : CallObject ι :=
  { o with abi := abi, error := some ⟨Errno.noData⟩ }

/-- `setEntryInfo()` after `prepareNewSystemCall()` -/
def CallClass.decode (c : CallClass ι) (e : CallEntry ι) (o : CallObject ι) :
    Except (Fault Exc) Unit × CallObject ι :=
  match o.fillParameters (c.throws e.first) e.args with
  | (.error f, o) => (.error f, o)
  | (.ok (), o) => c.secondPass e o

def CallClass.setEntryInfo (c : CallClass ι) (e : CallEntry ι) (o : CallObject ι) :
    Except (Fault Exc) Unit × CallObject ι :=
  match c.prepareNewSystemCall e.abi o.obj.shape with
  | .error x => (.error (.error x), o.enter e.abi)
  | .ok s => c.decode e ((o.enter e.abi).arrange s)

/-- the return value, or that there is none -/
def CallObject.setResult (x : ExitInfo) (r : ι) (o : CallObject ι) : CallObject ι :=
  match x with
  | .retVal w => { o with error := none, obj := o.obj.set r w }
  | .errVal e => { o with error := some ⟨e⟩, obj := o.obj.set r 0 }

/-- only parameters with `needsUpdate()` are updated -/
def CallObject.updates (fails : ι → Option Exc) (o : CallObject ι) (i : ι) : Option Exc :=
  if (o.obj.shape.live i).any ItemKind.needsUpdate then fails i else none

/-- `setExitInfo()` after the result was set -/
def CallClass.finish (c : CallClass ι) (x : CallExitStop ι) (o : CallObject ι) :
    Except (Fault Exc) Unit :=
  match Obj.use (o.updates (c.throws x.fails)) o.obj.shape o.obj.shape.items with
  | .error f => .error f
  | .ok () =>
    match x.info with
    | .errVal _ => .ok ()
    | .retVal _ => Obj.use (fun _ => none) o.obj.shape (c.tracked o.obj.value)

def CallClass.setExitInfo (c : CallClass ι) (x : CallExitStop ι) (o : CallObject ι) :
    Except (Fault Exc) Unit × CallObject ι :=
  match o.obj.shape.out with
  | none => (.error .undefined, o)
  | some r =>
    if (o.obj.shape.live r).isNone then (.error .undefined, o)
    else (c.finish x (o.setResult x.info r), o.setResult x.info r)

/-! ## objects in use -/

/-- objects that decoded system calls of an x86 machine, completely or not -/
inductive CallClass.Used (c : CallClass ι) : CallObject ι → Prop
  | first (e : CallEntry ι) : e.abi ≠ .aarch64 → c.Used (c.setEntryInfo e c.new).2
  | entry (e : CallEntry ι) {o : CallObject ι} : e.abi ≠ .aarch64 → c.Used o →
      c.Used (c.setEntryInfo e o).2
  | exit (x : CallExitStop ι) {o : CallObject ι} : c.Used o → c.Used (c.setExitInfo x o).2

/-- the same to those who look at the parameters, the result and the error -/
structure CallObject.Similar (o o' : CallObject ι) : Prop where
  obj : o.obj.Similar o'.obj
  abi : o.abi = o'.abi
  error : o.error = o'.error
  result : o.error = none → ∀ r, o.obj.shape.out = some r → o.obj.value r = o'.obj.value r

/-- the parameters exist and fit into the registers, and the return item is one -/
structure Proper (s : Layout ι) : Prop where
  sound : s.Sound 6
  out : s.out.any (fun i => s.live i = some .retval && decide (i ∉ s.items)) = true

instance (s : Layout ι) : Decidable (Proper s) :=
  decidable_of_iff
    (s.Sound 6 ∧ s.out.any (fun i => s.live i = some .retval && decide (i ∉ s.items)) = true)
    ⟨fun ⟨h1, h2⟩ => ⟨h1, h2⟩, fun h => ⟨h.sound, h.out⟩⟩

/-- `prepareNewSystemCall()` makes the same of all layouts that an object can have, and
`check2ndPass()` looks at the parameters that this leaves only -/
structure CallClass.Regular (c : CallClass ι) (Kept : Layout ι → Prop) (base : ABI → Layout ι) :
    Prop where
  new : Kept c.layout
  prepare : ∀ abi, abi ≠ .aarch64 →
    (∀ s, Kept s → c.prepareNewSystemCall abi s = .ok (base abi)) ∨
    Proper c.layout ∧ (∀ w, c.tracked w = []) ∧
      ∃ x, ∀ s, Kept s → c.prepareNewSystemCall abi s = .error x
  kept : ∀ abi, Kept (base abi)
  proper : ∀ abi, Proper (base abi)
  second : ∀ abi w s again, c.check2ndPass abi w (base abi) = .ok (s, again) →
    Kept s ∧ Proper s ∧ (base abi).slots <+: s.slots ∧ (again = false → s = base abi)
  depends : ∀ abi w w', (∀ i ∈ (base abi).items, w i = w' i) →
    c.check2ndPass abi w (base abi) = c.check2ndPass abi w' (base abi)
  /-- what `updateFDTracking()` dereferences is there, however far decoding came -/
  tracked : (∀ w, c.tracked w = []) ∨
    (∀ abi, ∀ i ∈ (base abi).items, c.reads i = false) ∧
    (∀ abi w, ∃ s, c.check2ndPass abi w (base abi) = .ok (s, true) ∧
      ∀ w', (∀ i ∈ (base abi).items, w i = w' i) → ∀ i ∈ c.tracked w', (s.live i).isSome = true)

/-- parameters that are always there decide how the others are arranged, and all of them are filled
anew -/
theorem CallClass.Regular.of_decides {β : Type} {c : CallClass ι} {Kept : Layout ι → Prop}
    {l : Layout ι} (oper : (ι → Word) → β) (arrange : β → Layout ι → Layout ι)
    (hnew : Kept c.layout) (hl : Kept l ∧ Proper l)
    (hoper : ∀ w w', (∀ i ∈ l.items, w i = w' i) → oper w = oper w')
    (hprepare : ∀ abi s, Kept s → c.prepareNewSystemCall abi s = .ok l)
    (hsecond : ∀ abi w, c.check2ndPass abi w l = .ok (arrange (oper w) l, true))
    (harrange : ∀ x, Kept (arrange x l) ∧ Proper (arrange x l) ∧ l.slots <+: (arrange x l).slots)
    (htracked : (∀ w, c.tracked w = []) ∨ (∀ i ∈ l.items, c.reads i = false) ∧
      ∀ w, ∀ i ∈ c.tracked w, ((arrange (oper w) l).live i).isSome = true) :
    c.Regular Kept fun _ => l where
  new := hnew
  prepare abi _ := Or.inl (hprepare abi)
  kept _ := hl.1
  proper _ := hl.2
  second abi w s again h := by
    rw [hsecond] at h
    obtain ⟨rfl, rfl⟩ := Prod.mk.inj (Except.ok.inj h)
    obtain ⟨hk, hp, hpre⟩ := harrange (oper w)
    exact ⟨hk, hp, hpre, nofun⟩
  depends abi w w' h := by rw [hsecond, hsecond, hoper w w' h]
  tracked := by
    refine htracked.imp id fun ⟨hreads, hlive⟩ => ⟨fun _ => hreads, fun abi w => ?_⟩
    refine ⟨_, hsecond abi w, fun w' h => ?_⟩
    rw [hoper w w' h]
    exact hlive w'

/-! ## one entry -/

variable {c : CallClass ι} {Kept : Layout ι → Prop} {base : ABI → Layout ι} {o o' : CallObject ι}
  {args : Fin 6 → Word} {fails : ι → Option Exc} {e : CallEntry ι}

theorem shape_fillParameters :
    (o.fillParameters fails args).2.obj.shape = o.obj.shape := Obj.fill_shape

theorem fillParameters_congr (h : o.obj.shape = o'.obj.shape) :
    (o.fillParameters fails args).1 = (o'.fillParameters fails args).1 := by
  unfold CallObject.fillParameters
  rw [h]
  exact Obj.fill_congr h

theorem fillParameters_defined (h : Proper o.obj.shape) :
    (o.fillParameters fails args).1 ≠ .error .undefined :=
  Obj.fill_defined h.sound.slots (by rw [List.length_ofFn]; exact h.sound.length)

theorem fillParameters_similar (h : Proper o.obj.shape) (hs : o.obj.shape = o'.obj.shape)
    (hok : (o.fillParameters fails args).1 = .ok ()) :
    (o.fillParameters fails args).2.obj.Similar (o'.fillParameters fails args).2.obj := by
  unfold CallObject.fillParameters at hok ⊢
  rw [← hs]
  exact Obj.fill_similar hs rfl h.sound.nodup hok

/-- the words that were filled in stay when the parameters are filled again -/
theorem secondPass_value {s : Layout ι} {again : Bool} (hP : Proper s)
    (hc : c.check2ndPass e.abi o.obj.value o.obj.shape = .ok (s, again))
    (hpre : o.obj.shape.slots <+: s.slots)
    (hval : ∀ (n : Nat) (i : ι), o.obj.shape.slots[n]? = some (some i) →
      (List.ofFn e.args)[n]? = some (o.obj.value i)) {i : ι} (hi : i ∈ o.obj.shape.items) :
    (c.secondPass e o).2.obj.value i = o.obj.value i := by
  unfold CallClass.secondPass
  rw [hc]
  cases again with
  | false => rfl
  | true =>
    refine Obj.fill_keeps (o := (o.arrange s).obj) (P := fun i => i ∈ o.obj.shape.items)
      (fun n j hn hj => ?_) hi
    obtain ⟨m, hm⟩ := List.getElem?_of_mem (mem_members.mp hj)
    have hms : s.slots[m]? = some (some j) := by
      obtain ⟨t, ht⟩ := hpre
      rw [← ht, List.getElem?_append_left (List.getElem?_eq_some_iff.mp hm).1, hm]
    obtain rfl := slot_unique hP.sound.nodup hn hms
    exact hval n j hm

/-- what holds of an object between two stops -/
structure CallClass.Fit (c : CallClass ι) (Kept : Layout ι → Prop) (o : CallObject ι) : Prop where
  kept : Kept o.obj.shape
  proper : Proper o.obj.shape
  tracked : ∀ w, (∀ i ∈ o.obj.shape.items, o.obj.value i = w i) →
    ∀ i ∈ c.tracked w, (o.obj.shape.live i).isSome = true

/-- each parameter holds the register at its place -/
def CallObject.Holds (args : Fin 6 → Word) (o : CallObject ι) : Prop :=
  ∀ (n : Nat) (i : ι), o.obj.shape.slots[n]? = some (some i) →
    (List.ofFn args)[n]? = some (o.obj.value i)

theorem holds_fillParameters (h : Proper o.obj.shape)
    (hok : (o.fillParameters fails args).1 = .ok ()) :
    (o.fillParameters fails args).2.Holds args := by
  intro n i hn
  rw [shape_fillParameters] at hn
  exact Obj.fill_value hok h.sound.nodup hn

theorem secondPass_defined (hR : c.Regular Kept base) (ho : o.obj.shape = base e.abi) :
    (c.secondPass e o).1 ≠ .error .undefined := by
  unfold CallClass.secondPass
  rw [ho]
  cases hs : c.check2ndPass e.abi o.obj.value (base e.abi) with
  | error x => exact nofun
  | ok r =>
    obtain ⟨s, again⟩ := r
    cases again with
    | false => exact nofun
    | true => exact fillParameters_defined (o := o.arrange s) (hR.second _ _ _ _ hs).2.1

theorem secondPass_kept (hR : c.Regular Kept base) (ho : o.obj.shape = base e.abi) :
    Kept (c.secondPass e o).2.obj.shape ∧ Proper (c.secondPass e o).2.obj.shape := by
  unfold CallClass.secondPass
  rw [ho]
  cases hs : c.check2ndPass e.abi o.obj.value (base e.abi) with
  | error x =>
    show Kept o.obj.shape ∧ Proper o.obj.shape
    rw [ho]
    exact ⟨hR.kept _, hR.proper _⟩
  | ok r =>
    obtain ⟨s, again⟩ := r
    obtain ⟨hk, hp, -, -⟩ := hR.second _ _ _ _ hs
    cases again with
    | false => exact ⟨hk, hp⟩
    | true =>
      have hshape : ((o.arrange s).fillParameters (c.throws e.second) e.args).2.obj.shape = s :=
        shape_fillParameters
      exact ⟨hshape.symm ▸ hk, hshape.symm ▸ hp⟩

theorem secondPass_holds (hR : c.Regular Kept base) (ho : o.obj.shape = base e.abi)
    (hval : o.Holds e.args) (hok : (c.secondPass e o).1 = .ok ()) :
    (c.secondPass e o).2.Holds e.args := by
  unfold CallClass.secondPass at hok ⊢
  rw [ho] at hok ⊢
  cases hs : c.check2ndPass e.abi o.obj.value (base e.abi) with
  | error x =>
    rw [hs] at hok
    cases hok
  | ok r =>
    obtain ⟨s, again⟩ := r
    rw [hs] at hok
    obtain ⟨-, hp, -, hsame⟩ := hR.second _ _ _ _ hs
    cases again with
    | false =>
      rw [hsame rfl, ← ho]
      exact hval
    | true => exact holds_fillParameters (o := o.arrange s) hp hok

/-- `check2ndPass()` of objects that look the same -/
theorem secondPass_similar (hR : c.Regular Kept base) (ho : o.obj.shape = base e.abi)
    (h : o.obj.Similar o'.obj) : (c.secondPass e o).1 = (c.secondPass e o').1 ∧
      ((c.secondPass e o).1 = .ok () →
        (c.secondPass e o).2.obj.Similar (c.secondPass e o').2.obj) := by
  have hdep : c.check2ndPass e.abi o.obj.value (base e.abi)
      = c.check2ndPass e.abi o'.obj.value (base e.abi) :=
    hR.depends _ _ _ fun i hi => h.value i (ho ▸ hi)
  unfold CallClass.secondPass
  rw [← h.shape, ho, ← hdep]
  cases hs : c.check2ndPass e.abi o.obj.value (base e.abi) with
  | error x => exact ⟨rfl, nofun⟩
  | ok r =>
    obtain ⟨s, again⟩ := r
    obtain ⟨-, hp, -, hsame⟩ := hR.second _ _ _ _ hs
    have hshape : (o.arrange s).obj.shape = (o'.arrange s).obj.shape := rfl
    cases again with
    | false =>
      refine ⟨rfl, fun _ => ⟨hshape, fun i hi => h.value i ?_⟩⟩
      rw [ho, ← hsame rfl]
      exact hi
    | true =>
      exact ⟨fillParameters_congr hshape, fillParameters_similar (o := o.arrange s) hp hshape⟩

/-- what `updateFDTracking()` will dereference -/
theorem secondPass_tracked (hR : c.Regular Kept base) (ho : o.obj.shape = base e.abi)
    (hval : o.Holds e.args) (w : ι → Word)
    (hw : ∀ i ∈ (c.secondPass e o).2.obj.shape.items, (c.secondPass e o).2.obj.value i = w i) :
    ∀ i ∈ c.tracked w, ((c.secondPass e o).2.obj.shape.live i).isSome = true := by
  rcases hR.tracked with hn | ⟨-, ht⟩
  · rw [hn]
    exact nofun
  · obtain ⟨s, hs, hlive⟩ := ht e.abi o.obj.value
    obtain ⟨-, hp, hpre, -⟩ := hR.second _ _ _ _ hs
    rw [← ho] at hs hpre hlive
    have hshape : (c.secondPass e o).2.obj.shape = s := by
      unfold CallClass.secondPass
      rw [hs]
      exact shape_fillParameters (o := o.arrange s)
    rw [hshape] at hw ⊢
    refine hlive w fun i hi => ?_
    have hmem : i ∈ s.items := mem_members.mpr (hpre.subset (mem_members.mp hi))
    exact (secondPass_value hp hs hpre hval hi).symm.trans (hw i hmem)

theorem decode_eq_secondPass
    (h : (o.fillParameters (c.throws e.first) e.args).1 = .ok ()) :
    c.decode e o = c.secondPass e (o.fillParameters (c.throws e.first) e.args).2 := by
  unfold CallClass.decode
  cases hf : o.fillParameters (c.throws e.first) e.args with
  | mk r o1 =>
    rw [hf] at h
    obtain rfl : r = .ok () := h
    rfl

theorem decode_eq_fillParameters {f : Fault Exc}
    (h : (o.fillParameters (c.throws e.first) e.args).1 = .error f) :
    c.decode e o = (.error f, (o.fillParameters (c.throws e.first) e.args).2) := by
  unfold CallClass.decode
  cases hf : o.fillParameters (c.throws e.first) e.args with
  | mk r o1 =>
    rw [hf] at h
    obtain rfl : r = .error f := h
    rfl

/-- decoding follows no reference that dangles, and leaves none behind -/
theorem decode_sound (hR : c.Regular Kept base) (ho : o.obj.shape = base e.abi) :
    (c.decode e o).1 ≠ .error .undefined ∧ c.Fit Kept (c.decode e o).2 := by
  have hp : Proper o.obj.shape := ho ▸ hR.proper e.abi
  have hshape : (o.fillParameters (c.throws e.first) e.args).2.obj.shape = base e.abi :=
    shape_fillParameters.trans ho
  cases hf : (o.fillParameters (c.throws e.first) e.args).1 with
  | error f =>
    rw [decode_eq_fillParameters hf]
    refine ⟨fun h => ?_, hshape.symm ▸ hR.kept _, hshape.symm ▸ hR.proper _, fun w _ => ?_⟩
    · cases h
      exact fillParameters_defined hp hf
    · rcases hR.tracked with hn | ⟨hreads, -⟩
      · rw [hn]
        exact nofun
      · -- the fixed parameters are in registers
        have hok : (o.fillParameters (c.throws e.first) e.args).1 = .ok () := by
          refine Obj.fill_ok hp.sound.slots (by rw [List.length_ofFn]; exact hp.sound.length) ?_
          intro i hi
          unfold CallClass.throws
          rw [hreads e.abi i (ho ▸ hi)]
          rfl
        rw [hok] at hf
        cases hf
  | ok u =>
    have hval := holds_fillParameters hp hf
    rw [decode_eq_secondPass hf]
    obtain ⟨hk, hp'⟩ := secondPass_kept (e := e) hR hshape
    exact ⟨secondPass_defined hR hshape, hk, hp', secondPass_tracked hR hshape hval⟩

theorem decode_holds (hR : c.Regular Kept base) (ho : o.obj.shape = base e.abi)
    (hok : (c.decode e o).1 = .ok ()) : (c.decode e o).2.Holds e.args := by
  have hp : Proper o.obj.shape := ho ▸ hR.proper e.abi
  cases hf : (o.fillParameters (c.throws e.first) e.args).1 with
  | error f =>
    rw [decode_eq_fillParameters hf] at hok
    cases hok
  | ok u =>
    rw [decode_eq_secondPass hf] at hok ⊢
    exact secondPass_holds hR (shape_fillParameters.trans ho) (holds_fillParameters hp hf) hok

theorem decode_similar (hR : c.Regular Kept base) (ho : o.obj.shape = base e.abi)
    (ho' : o'.obj.shape = base e.abi) : (c.decode e o).1 = (c.decode e o').1 ∧
      ((c.decode e o).1 = .ok () → (c.decode e o).2.obj.Similar (c.decode e o').2.obj) := by
  have hp : Proper o.obj.shape := ho ▸ hR.proper e.abi
  have hs : o.obj.shape = o'.obj.shape := ho.trans ho'.symm
  have hcongr : (o.fillParameters (c.throws e.first) e.args).1
      = (o'.fillParameters (c.throws e.first) e.args).1 := fillParameters_congr hs
  cases hf : (o.fillParameters (c.throws e.first) e.args).1 with
  | error f =>
    rw [decode_eq_fillParameters hf, decode_eq_fillParameters (hcongr ▸ hf)]
    exact ⟨rfl, nofun⟩
  | ok u =>
    rw [decode_eq_secondPass hf, decode_eq_secondPass (hcongr ▸ hf)]
    exact secondPass_similar hR (shape_fillParameters.trans ho) (fillParameters_similar hp hs hf)

/-- decoding is about the members only -/
theorem decode_frame : (c.decode e o).2.abi = o.abi ∧ (c.decode e o).2.error = o.error := by
  have hsecond : ∀ o : CallObject ι, (c.secondPass e o).2.abi = o.abi ∧
      (c.secondPass e o).2.error = o.error := fun o => by
    unfold CallClass.secondPass
    cases c.check2ndPass e.abi o.obj.value o.obj.shape with
    | error x => exact ⟨rfl, rfl⟩
    | ok r =>
      obtain ⟨s, again⟩ := r
      cases again <;> exact ⟨rfl, rfl⟩
  cases hf : (o.fillParameters (c.throws e.first) e.args).1 with
  | error f =>
    rw [decode_eq_fillParameters hf]
    exact ⟨rfl, rfl⟩
  | ok u =>
    rw [decode_eq_secondPass hf]
    exact hsecond _

theorem setEntryInfo_eq_decode {s : Layout ι}
    (h : c.prepareNewSystemCall e.abi o.obj.shape = .ok s) :
    c.setEntryInfo e o = c.decode e ((o.enter e.abi).arrange s) := by
  unfold CallClass.setEntryInfo
  rw [h]

theorem setEntryInfo_eq_enter {x : Exc}
    (h : c.prepareNewSystemCall e.abi o.obj.shape = .error x) :
    c.setEntryInfo e o = (.error (.error x), o.enter e.abi) := by
  unfold CallClass.setEntryInfo
  rw [h]

theorem setEntryInfo_sound (hR : c.Regular Kept base) (he : e.abi ≠ .aarch64)
    (ho : Kept o.obj.shape) (hnew : Proper o.obj.shape ∨ o.obj.shape = c.layout) :
    (c.setEntryInfo e o).1 ≠ .error .undefined ∧ c.Fit Kept (c.setEntryInfo e o).2 := by
  rcases hR.prepare e.abi he with hp | ⟨hc, ht, x, hx⟩
  · rw [setEntryInfo_eq_decode (hp _ ho)]
    exact decode_sound hR rfl
  · rw [setEntryInfo_eq_enter (hx _ ho)]
    refine ⟨nofun, ho, ?_, fun w _ => ?_⟩
    · rcases hnew with hpr | heq
      · exact hpr
      · exact heq ▸ hc
    · rw [ht]
      exact nofun

theorem setEntryInfo_holds (hR : c.Regular Kept base) (he : e.abi ≠ .aarch64)
    (ho : Kept o.obj.shape) (hok : (c.setEntryInfo e o).1 = .ok ()) :
    (c.setEntryInfo e o).2.Holds e.args := by
  rcases hR.prepare e.abi he with hp | ⟨-, -, x, hx⟩
  · rw [setEntryInfo_eq_decode (hp _ ho)] at hok ⊢
    exact decode_holds hR rfl hok
  · rw [setEntryInfo_eq_enter (hx _ ho)] at hok
    cases hok

theorem setEntryInfo_error (hok : (c.setEntryInfo e o).1 = .ok ()) :
    (c.setEntryInfo e o).2.abi = e.abi ∧
      (c.setEntryInfo e o).2.error = some ⟨Errno.noData⟩ := by
  cases hp : c.prepareNewSystemCall e.abi o.obj.shape with
  | error x =>
    rw [setEntryInfo_eq_enter hp] at hok
    cases hok
  | ok s =>
    rw [setEntryInfo_eq_decode hp]
    exact decode_frame

theorem setEntryInfo_similar (hR : c.Regular Kept base) (he : e.abi ≠ .aarch64)
    (ho : Kept o.obj.shape) (ho' : Kept o'.obj.shape) :
    (c.setEntryInfo e o).1 = (c.setEntryInfo e o').1 ∧
      ((c.setEntryInfo e o).1 = .ok () →
        (c.setEntryInfo e o).2.Similar (c.setEntryInfo e o').2) := by
  rcases hR.prepare e.abi he with hp | ⟨-, -, x, hx⟩
  · have hshape : ∀ o : CallObject ι,
        ((o.enter e.abi).arrange (base e.abi)).obj.shape = base e.abi := fun _ => rfl
    obtain ⟨h1, h2⟩ := decode_similar hR (hshape o) (hshape o')
    rw [← setEntryInfo_eq_decode (hp _ ho), ← setEntryInfo_eq_decode (hp _ ho')] at h1 h2
    refine ⟨h1, fun hok => ?_⟩
    obtain ⟨ha, he1⟩ := setEntryInfo_error hok
    obtain ⟨ha', he1'⟩ := setEntryInfo_error (h1 ▸ hok)
    refine ⟨h2 hok, ha.trans ha'.symm, he1.trans he1'.symm, fun hn => ?_⟩
    rw [he1] at hn
    cases hn
  · rw [setEntryInfo_eq_enter (hx _ ho), setEntryInfo_eq_enter (hx _ ho')]
    exact ⟨rfl, nofun⟩

/-! ## one exit -/

variable {x : CallExitStop ι}

theorem setExitInfo_eq (hp : Proper o.obj.shape) : ∃ r, o.obj.shape.out = some r ∧
    r ∉ o.obj.shape.items ∧
    c.setExitInfo x o = (c.finish x (o.setResult x.info r), o.setResult x.info r) := by
  have ho := hp.out
  unfold CallClass.setExitInfo
  cases hr : o.obj.shape.out with
  | none =>
    rw [hr] at ho
    cases ho
  | some r =>
    rw [hr] at ho
    obtain ⟨hlive, hmem⟩ : o.obj.shape.live r = some .retval ∧ r ∉ o.obj.shape.items := by
      simpa using ho
    refine ⟨r, rfl, hmem, ?_⟩
    show (if (o.obj.shape.live r).isNone = true then _ else _) = _
    rw [hlive]
    rfl

theorem shape_setResult (x : ExitInfo) (r : ι) (o : CallObject ι) :
    (o.setResult x r).obj.shape = o.obj.shape := by
  cases x <;> rfl

theorem value_setResult_ne (x : ExitInfo) {r i : ι} (h : i ≠ r) (o : CallObject ι) :
    (o.setResult x r).obj.value i = o.obj.value i := by
  cases x <;> exact Obj.set_value_ne h _ _

theorem fit_setResult (h : c.Fit Kept o) {r : ι} (hr : r ∉ o.obj.shape.items) :
    c.Fit Kept (o.setResult x.info r) := by
  have hs := shape_setResult x.info r o
  refine ⟨hs.symm ▸ h.kept, hs.symm ▸ h.proper, fun w hw => ?_⟩
  rw [hs] at hw ⊢
  refine h.tracked w fun i hi => ?_
  have hne : i ≠ r := fun hir => hr (hir ▸ hi)
  rw [← hw i hi, value_setResult_ne _ hne]

theorem finish_defined (h : c.Fit Kept o) : c.finish x o ≠ .error .undefined := by
  unfold CallClass.finish
  have hu : Obj.use (o.updates (c.throws x.fails)) o.obj.shape o.obj.shape.items
      ≠ .error .undefined := Obj.use_defined h.proper.sound.slots
  cases hr : Obj.use (o.updates (c.throws x.fails)) o.obj.shape o.obj.shape.items with
  | error f =>
    rw [hr] at hu
    exact hu
  | ok u =>
    dsimp only
    cases x.info with
    | errVal e => exact nofun
    | retVal w => exact Obj.use_defined (h.tracked _ fun _ _ => rfl)

theorem setExitInfo_sound (h : c.Fit Kept o) :
    (c.setExitInfo x o).1 ≠ .error .undefined ∧ c.Fit Kept (c.setExitInfo x o).2 := by
  obtain ⟨r, -, hr, heq⟩ := setExitInfo_eq (c := c) (x := x) h.proper
  rw [heq]
  have hfit := fit_setResult (x := x) h hr
  exact ⟨finish_defined hfit, hfit⟩

/-- whether an exit succeeds is up to the members that read from memory -/
theorem finish_congr (h : c.Fit Kept o) (h' : c.Fit Kept o') (hs : o.obj.shape = o'.obj.shape) :
    c.finish x o = c.finish x o' := by
  have hup : o.updates (c.throws x.fails) = o'.updates (c.throws x.fails) := by
    unfold CallObject.updates
    rw [hs]
  have htrack : ∀ {o : CallObject ι}, c.Fit Kept o →
      Obj.use (fun _ => none) o.obj.shape (c.tracked o.obj.value)
        = (.ok () : Except (Fault Exc) Unit) :=
    fun h => Obj.use_ok (h.tracked _ fun _ _ => rfl) fun _ _ => rfl
  unfold CallClass.finish
  rw [hup, hs, ← hs, htrack h, hs, htrack h']

theorem setExitInfo_similar (h : c.Fit Kept o) (h' : c.Fit Kept o') (hs : o.Similar o') :
    (c.setExitInfo x o).1 = (c.setExitInfo x o').1 ∧
      (c.setExitInfo x o).2.Similar (c.setExitInfo x o').2 := by
  obtain ⟨r, hout, hr, heq⟩ := setExitInfo_eq (c := c) (x := x) h.proper
  obtain ⟨r', hout', hr', heq'⟩ := setExitInfo_eq (c := c) (x := x) h'.proper
  obtain rfl : r = r' := by
    rw [hs.obj.shape, hout'] at hout
    exact (Option.some.inj hout).symm
  rw [heq, heq']
  have hshape : (o.setResult x.info r).obj.shape = (o'.setResult x.info r).obj.shape := by
    rw [shape_setResult, shape_setResult, hs.obj.shape]
  refine ⟨finish_congr (fit_setResult h hr) (fit_setResult h' hr') hshape,
    ⟨hshape, fun i hi => ?_⟩, ?_, ?_, fun _ q hq => ?_⟩
  · rw [shape_setResult] at hi
    have hne : i ≠ r := fun hir => hr (hir ▸ hi)
    rw [value_setResult_ne _ hne, value_setResult_ne _ hne]
    exact hs.obj.value i hi
  · cases x.info <;> exact hs.abi
  · cases x.info <;> rfl
  · rw [shape_setResult, hout] at hq
    obtain rfl := Option.some.inj hq
    cases x.info with
    | retVal w => exact (Obj.set_value_self r w o.obj).trans (Obj.set_value_self r w o'.obj).symm
    | errVal e => exact (Obj.set_value_self r 0 o.obj).trans (Obj.set_value_self r 0 o'.obj).symm

/-! ## any use -/

theorem fit_of_used (hR : c.Regular Kept base) (h : c.Used o) : c.Fit Kept o := by
  induction h with
  | first e he => exact (setEntryInfo_sound hR he hR.new (Or.inr rfl)).2
  | entry e he _ ih => exact (setEntryInfo_sound hR he ih.kept (Or.inl ih.proper)).2
  | exit x _ ih => exact (setExitInfo_sound ih).2

/-- an object decodes a system call like a new one -/
theorem similar_call (hR : c.Regular Kept base) (hu : c.Used o) (he : e.abi ≠ .aarch64) :
    (c.setEntryInfo e o).1 = (c.setEntryInfo e c.new).1 ∧
      ((c.setEntryInfo e o).1 = .ok () →
        (c.setEntryInfo e o).2.Similar (c.setEntryInfo e c.new).2 ∧
        ∀ x, (c.setExitInfo x (c.setEntryInfo e o).2).1
            = (c.setExitInfo x (c.setEntryInfo e c.new).2).1 ∧
          (c.setExitInfo x (c.setEntryInfo e o).2).2.Similar
            (c.setExitInfo x (c.setEntryInfo e c.new).2).2) := by
  have hfit := fit_of_used hR hu
  have hnew : Kept c.new.obj.shape := hR.new
  obtain ⟨h1, h2⟩ := setEntryInfo_similar hR he hfit.kept hnew
  refine ⟨h1, fun hok => ⟨h2 hok, fun x => ?_⟩⟩
  exact setExitInfo_similar (setEntryInfo_sound hR he hfit.kept (Or.inl hfit.proper)).2
    (setEntryInfo_sound hR he hR.new (Or.inr rfl)).2 (h2 hok)

end

end Clues
