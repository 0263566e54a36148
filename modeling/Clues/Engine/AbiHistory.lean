import Clues.Engine.CallCache
import Clues.Engine.Numbers

/-!
# What the log tells of the ABIs

An entry is reported with `StatusFlag::ABI_CHANGED` if the system call object that is looked up for
its number was used under another ABI the last time.

* `abis env log`   the entries that were told of each tracee, with their numbers and ABIs;
* `AbiFlagged`     the flag says whether the ABI differs from that of the entry told before;
* `AbiAgrees`      the entry told last with the same number answers this as the last entry does;
* `Looked`         the flag says whether the ABI differs from that of the last use for the number;
* `abiFlagged_iff_of_looked`   then the flags are right iff these answers agree.
-/

set_option linter.unusedSectionVars false

namespace Clues

open Lib Lib.Exec Lib.History Step

/-! ## the entries that were told -/

/-- an entry that the consumer was told of -/
structure EntryTold where
  /-- the number that was reported for it, see `Numbers.decoded` -/
  nr : Option SystemCallNr
  call : CallId
  abi : ABI
  deriving DecidableEq, Repr

/-- its number; that of a call which was entered before tracing began is not reported -/
def EntryTold.number (num : Numbering) (e : EntryTold) : Option SystemCallNr := e.nr.or (num e.call)

/-- the number and the ABI at the last stop, and the entries that were told, the last one first -/
structure Abis where
  nr : SystemCallNr := .unknown
  entered : ABI := .unknown
  told : List EntryTold := []

namespace Abis

def last (α : Abis) : Option ABI := α.told.head?.map EntryTold.abi

/-- the ABI of the entry that was told last with this number, if such calls are cached -/
def lastOf (num : Numbering) (α : Abis) (nr : SystemCallNr) : Option ABI :=
  if isMultiSys nr then none else (α.told.find? fun e => e.number num = some nr).map EntryTold.abi

/-- the objects that were used for them -/
def uses (α : Abis) : Uses := α.told.map fun e => (e.call, e.abi)

end Abis

/-- there was an ABI, and it is another one now -/
def Switched (last : Option ABI) (abi : ABI) : Prop := ∃ a, last = some a ∧ a ≠ abi

instance (last : Option ABI) (abi : ABI) : Decidable (Switched last abi) :=
  decidable_of_iff (last.any fun a => a ≠ abi) <| by
    unfold Switched
    cases last with
    | none => simp
    | some a => simp

section
variable (env : Env)

/-- the ABI of the system call that is entered -/
def SystemCallInfo.enteredAbi (info : SystemCallInfo) : ABI :=
  match info.updateSysNr env with
  | .ok info => info.abi
  | .error _ => .unknown

/-- after `execve()` a tracee may go on as the thread of another one -/
def abiStep (p : Log) (abis : TraceeId → Abis) : Entry → TraceeId → Abis
  | .request id (.getSyscallInfo pid) none =>
      Function.update abis id { abis id with
        nr := (env.report p pid).enteredNr env
        entered := (env.report p pid).enteredAbi env }
  | .callback (.syscallEntry id c flags) =>
      Function.update abis id { abis id with
        told := ⟨(numbers p).decoded id c flags, c, (abis id).entered⟩ :: (abis id).told }
  | .execed id _ old => Function.update abis id (abis (old.getD id))
  | _ => abis

def abis (log : Log) : TraceeId → Abis := trail (abiStep env) (fun _ => {}) log

/-! ## flags -/

/-- an entry is told with the flag iff it has another ABI than the entry told before -/
def Flagged (p : Log) : Entry → Prop
  | .callback (.syscallEntry id _ flags) =>
      flags.abiChanged = true ↔ Switched (abis env p id).last (abis env p id).entered
  | _ => True

def AbiFlagged {SC : Type} (w : World SC) : Prop := Always (Flagged env) w.log

/-- of the entries told before, the last one with the same number has another ABI iff the last one
has -/
def AbiAgrees (num : Numbering) (p : Log) : Entry → Prop
  | .callback (.syscallEntry id _ _) =>
      Switched ((abis env p id).lastOf num (abis env p id).nr) (abis env p id).entered ↔
        Switched (abis env p id).last (abis env p id).entered
  | _ => True

/-- an entry is told with the flag iff it has another ABI than the last use for its number -/
def Looked (num : Numbering) (p : Log) : Entry → Prop
  | .callback (.syscallEntry id _ flags) =>
      (∀ u ∈ (abis env p id).uses, ∃ n, num u.1 = some n) ∧
        (flags.abiChanged = true ↔
          Switched (lastUse num (abis env p id).uses (abis env p id).nr) (abis env p id).entered)
  | _ => True

end

/-- the entries that they depend on, and those that end the handling of a stop -/
def Entry.isMark : Entry → Bool
  | .callback (.syscallEntry _ _ _) | .request _ (.getSyscallInfo _) _
  | .request _ (.restart _ _ _) _ | .execed _ _ _ => true
  | _ => false

instance : Rare Entry.isMark where
  rare e h := by
    unfold Entry.isMark at h
    split at h
    · rfl
    · rfl
    · rfl
    · rfl
    · cases h

variable {env : Env} {num num' : Numbering} {log es p : Log} {e : Entry} {a b : TraceeId}

theorem enteredAbi_of_ok {info info' : SystemCallInfo} (h : info.updateSysNr env = .ok info') :
    info.enteredAbi env = info'.abi := by
  unfold SystemCallInfo.enteredAbi
  rw [h]

theorem enteredNr_of_ok {info info' : SystemCallInfo} (h : info.updateSysNr env = .ok info') :
    info.enteredNr env = info'.sysNr := by
  unfold SystemCallInfo.enteredNr
  rw [h]

theorem abis_snoc (log : Log) (e : Entry) :
    abis env (log ++ [e]) = abiStep env log (abis env log) e := trail_snoc log e

theorem abiStep_of_not_mark {α : TraceeId → Abis} (h : e.isMark = false) :
    abiStep env p α e = α := by
  unfold abiStep
  split
  · cases h
  · cases h
  · cases h
  · rfl

theorem abis_append (h : ∀ e ∈ es, e.isMark = false) : abis env (log ++ es) = abis env log :=
  trail_append (fun α : TraceeId → Abis => α) h fun _ _ _ he _ => abiStep_of_not_mark he

theorem looked_of_not_mark (h : e.isMark = false) : Looked env num p e := by
  unfold Looked
  split
  · cases h
  · trivial

theorem Looked.extend (h : Looked env num p e) (hn : Extends num num') : Looked env num' p e := by
  unfold Looked at h ⊢
  split at h
  · obtain ⟨hu, hf⟩ := h
    refine ⟨fun u hu' => ?_, ?_⟩
    · obtain ⟨n, hn'⟩ := hu u hu'
      exact ⟨n, hn _ _ hn'⟩
    · rw [lastUse_extend hn hu]
      exact hf
  · trivial

/-! ## the numbers of the objects are those of the entries -/

theorem lastOf_eq {α : Abis} (h : ∀ e ∈ α.told, e.number num = num e.call) (nr : SystemCallNr) :
    α.lastOf num nr = lastUse num α.uses nr := by
  have hfind : ∀ told : List EntryTold, (∀ e ∈ told, e.number num = num e.call) →
      (told.find? fun e => e.number num = some nr).map EntryTold.abi
        = ((told.map fun e => (e.call, e.abi)).find? fun u => num u.1 = some nr).map Prod.snd := by
    intro told
    induction told with
    | nil => exact fun _ => rfl
    | cons e told ih =>
      intro h
      have hrest := ih fun e' he' => h e' (List.mem_cons_of_mem e he')
      rw [List.map_cons, List.find?_cons, List.find?_cons, h e List.mem_cons_self]
      by_cases hn : num e.call = some nr
      · rw [decide_eq_true hn]
        rfl
      · rw [decide_eq_false hn]
        exact hrest
  unfold Abis.lastOf lastUse
  rw [hfind α.told h]
  rfl

theorem number_eq (h : Always (Named num) log) :
    ∀ b, ∀ e ∈ (abis env log b).told, e.number num = num e.call := by
  induction log using List.reverseRecOn with
  | nil => exact fun _ _ he => nomatch he
  | append_singleton log e ih =>
    obtain ⟨hlog, he⟩ := always_snoc_iff.mp h
    have ih := ih hlog
    rw [abis_snoc]
    unfold abiStep
    split
    · intro b e' he'
      rw [Function.update_apply] at he'
      split_ifs at he' with hb
      · exact ih _ e' he'
      · exact ih b e' he'
    · rename_i id c flags
      intro b e' he'
      rw [Function.update_apply] at he'
      split_ifs at he' with hb
      · obtain rfl | he' := List.mem_cons.mp he'
        · obtain ⟨n, hn, hm⟩ : ∃ n, num c = some n ∧
            ∀ m, (numbers log).decoded id c flags = some m → m = n := he
          show ((numbers log).decoded id c flags).or (num c) = num c
          cases hd : (numbers log).decoded id c flags with
          | none => rfl
          | some m =>
            rw [hm m hd, hn]
            rfl
        · exact ih _ e' he'
      · exact ih b e' he'
    · intro b e' he'
      rw [Function.update_apply] at he'
      split_ifs at he' with hb
      · exact ih _ e' he'
      · exact ih b e' he'
    · exact ih

/-- the flags are right iff the last entry with the same number answers as the last entry does -/
theorem abiFlagged_iff_of_looked (hn : Always (Named num) log) (hl : Always (Looked env num) log) :
    Always (Flagged env) log ↔ Always (AbiAgrees env num) log := by
  have hstep : ∀ p e, At log p e → (Flagged env p e ↔ AbiAgrees env num p e) := by
    intro p e hp
    have hlook := hl p e hp
    unfold Looked at hlook
    unfold Flagged AbiAgrees
    split at hlook
    · rename_i id c flags
      rw [hlook.2, lastOf_eq (number_eq (hn.mono hp.start) id)]
    · exact Iff.rfl
  exact forall₂_congr fun p e => forall_congr' fun hp => hstep p e hp

/-! ## tracees whose stops are not handled -/

/-- the tracer has finished with the last stop of the tracee -/
def Idle (log : Log) (b : TraceeId) : Prop := stage log b = .idle ∧ ¬ Departed log b

/-- this is so when the tracee `a` is restarted -/
def Restartable (log : Log) (a b : TraceeId) : Prop :=
  Idle log b ∨ b = a ∧ stage log a = .handling ∧ ¬ Departed log a

theorem stageStep_of_not_mark {stages : TraceeId → Stage} (h : e.isMark = false)
    (hs : stageStep p stages e b ≠ .lost) : stageStep p stages e b = stages b := by
  generalize hr : stageStep p stages e b = s at hs ⊢
  unfold stageStep at hr
  split at hr
  · cases h
  · rename_i id data
    by_cases hb : b = id
    · subst hb
      rw [Function.update_self] at hr
      split_ifs at hr
      · exact absurd hr.symm hs
      · exact hr.symm
    · rw [Function.update_of_ne hb] at hr
      exact hr.symm
  · cases h
  · cases h
  · exact hr.symm

/-- a stage that was not left -/
theorem stage_of_append {s : Stage} (hs : s ≠ .lost) (h : ∀ e ∈ es, e.isMark = false)
    (hstage : stage (log ++ es) b = s) : stage log b = s := by
  induction es using List.reverseRecOn with
  | nil => rwa [List.append_nil] at hstage
  | append_singleton es e ih =>
    apply ih fun e' he' => h e' (by simp [he'])
    rw [← List.append_assoc, stage_snoc] at hstage
    rw [← hstage]
    refine (stageStep_of_not_mark (h e (by simp)) ?_).symm
    rw [hstage]
    exact hs

theorem Idle.of_append (h : ∀ e ∈ es, e.isMark = false) (hi : Idle (log ++ es) b) :
    Idle log b :=
  ⟨stage_of_append (fun h => nomatch h) h hi.1, fun hd => hi.2 (hd.append es)⟩

theorem Restartable.of_append (h : ∀ e ∈ es, e.isMark = false) (hr : Restartable (log ++ es) a b) :
    Restartable log a b := by
  obtain hi | ⟨hb, hs, hd⟩ := hr
  · exact Or.inl (hi.of_append h)
  · exact Or.inr ⟨hb, stage_of_append (fun h => nomatch h) h hs, fun hd' => hd (hd'.append es)⟩

end Clues
