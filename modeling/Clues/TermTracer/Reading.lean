import Clues.Lib.History
import Clues.TermTracer.Interleaving

/-!
# Reading the output

The text of a system call is cut into pieces by the lines of other tracees, and is put together
again by a reader of the output, who is also told when a thread goes on under another PID and when a
tracee is gone.

* `Page`            what the reader remembers: the call whose text was written last and is not
                    finished, and the calls that are told to be unfinished;
* `Output.Follows`  the output that may follow;
* `Writes own s s'` the output between two states of the tracer may follow, and the reader ends up
                    with the records of the tracer;
* `Session.Legible` all output of a run may follow.

Where each exit is that of the call that is open (`Session.Owns`), a result is the result of the
very call whose text it stands behind: `own`.
-/

namespace Clues

open Lib Lib.Exec Lib.History TermTracer

/-! ## the reader -/

structure Page where
  line : Option (ProcessID × Sys) := none
  suspended : Opened := fun _ => none

/-- a result stands behind the text of a call of the tracee, which is its own call if `own`, calls are
resumed that were told to be unfinished, and no other text starts behind that of a call -/
def Output.Follows (own : Prop) (p : Page) : Output → Prop
  | .entry pid _ => p.line = none ∧ p.suspended pid = none
  | .exit pid sc => ∃ sc', p.line = some (pid, sc') ∧ (own → sc' = sc)
  | .success pid | .aborted pid => ∃ sc, p.line = some (pid, sc)
  | .resuming pid sc => p.line = none ∧ p.suspended pid = some sc
  | .unfinished => p.line ≠ none
  | .restarting _ _ | .tag _ | .onlyRemaining _ | .note _ _ => p.line = none

def Page.read (p : Page) : Output → Page
  | .entry pid sc => { p with line := some (pid, sc) }
  | .exit _ _ | .success _ | .aborted _ => { p with line := none }
  | .resuming pid sc => ⟨some (pid, sc), Function.update p.suspended pid none⟩
  | .unfinished =>
    match p.line with
    | some (pid, sc) => ⟨none, Function.update p.suspended pid (some sc)⟩
    | none => p
  | .restarting _ _ | .tag _ | .onlyRemaining _ | .note _ _ => p

abbrev Page.Accepts (own : Prop) (p : Page) (outs : List Output) : Prop :=
  History.Accepts (Output.Follows own) Page.read p outs

/-- the calls of `old` go on under `pid` -/
def Page.move (p : Page) (pid old : ProcessID) : Page :=
  if p.line.any fun a => a.1 = old then { p with line := p.line.map fun a => (pid, a.2) }
  else
    match p.suspended old with
    | some sc =>
      { p with suspended := Function.update (Function.update p.suspended pid (some sc)) old none }
    | none => p

/-- a tracee that is gone has no call -/
def Page.leave (p : Page) (pid : ProcessID) : Page :=
  { p with suspended := Function.update p.suspended pid none }

namespace TermTracer.Consumer

def movingPage (p : Page) : Consumer → Page
  | .newExecutionContext t (some old) _ => p.move t.pid old
  | _ => p

def leavingPage (p : Page) : Consumer → Page
  | .exited t _ _ => p.leave t.pid
  | .disappeared t _ => p.leave t.pid
  | _ => p

end TermTracer.Consumer

namespace Session

variable (own : Prop) (cfg : Config)

/-- what a callback prints -/
def printed (s : Session) (c : Consumer) : List Output := (s.outcome cfg c).2.printed

/-- the reader behind a callback -/
def turn (s : Session) (p : Page) (c : Consumer) : Page :=
  c.leavingPage (replay Page.read (c.movingPage p) (s.printed cfg c))

/-- the reader, who starts with the page, can read the whole output, and remembers at the end what
the tracer has recorded -/
def Legible (s : Session) (p : Page) : List Consumer → Prop
  | [] => p = ⟨s.tracer.activeSyscall, s.tracer.unfinishedSyscalls.find?⟩
  | c :: cs => (c.movingPage p).Accepts own (s.printed cfg c) ∧
      Legible (s.tell cfg c) (s.turn cfg p c) cs

end Session

namespace TermTracer

variable {own : Prop} {cfg : Config} {s s' t : TermTracer} {pid : ProcessID} {sc : Sys}

def page (s : TermTracer) : Page := ⟨s.activeSyscall, s.unfinishedSyscalls.find?⟩

/-- the output in between may follow, and leads the reader from the records to the page -/
def Reaches (own : Prop) (s s' : TermTracer) (p : Page) : Prop :=
  ∃ outs, s'.printed = s.printed ++ outs ∧ s.page.Accepts own outs ∧ replay Page.read s.page outs = p

/-- it leads the reader from records to records -/
abbrev Writes (own : Prop) (s s' : TermTracer) : Prop := Reaches own s s' s'.page

theorem Reaches.print {p : Page} {out : Output} (h : Reaches own s t p)
    (hp : s'.printed = t.printed ++ [out]) (hf : out.Follows own p) :
    Reaches own s s' (p.read out) := by
  obtain ⟨outs, ho, ha, hr⟩ := h
  refine ⟨outs ++ [out], by rw [hp, ho, List.append_assoc], ?_, ?_⟩
  · rw [Page.Accepts, accepts_append_iff, hr]
    exact ⟨ha, hf, trivial⟩
  · rw [replay_append, hr]
    rfl

theorem Writes.trans {p : Page} (h : Writes own s t) (h' : Reaches own t s' p) :
    Reaches own s s' p := by
  obtain ⟨outs, hp, ha, hr⟩ := h
  obtain ⟨outs', hp', ha', hr'⟩ := h'
  refine ⟨outs ++ outs', by rw [hp', hp, List.append_assoc], ?_, ?_⟩
  · rw [Page.Accepts, accepts_append_iff, hr]
    exact ⟨ha, ha'⟩
  · rw [replay_append, hr]
    exact hr'

/-- the records and the output stay the same -/
theorem Writes.of_same (hp : s'.printed = s.printed) (ha : s'.activeSyscall = s.activeSyscall)
    (hu : s'.unfinishedSyscalls = s.unfinishedSyscalls) : Writes own s s' := by
  refine ⟨[], by rw [hp, List.append_nil], trivial, ?_⟩
  show s.page = s'.page
  unfold page
  rw [ha, hu]

theorem Writes.refl (s : TermTracer) : Writes own s s := Writes.of_same rfl rfl rfl

/-- the call whose text was written last is one that is printed -/
def PrintsActive (cfg : Config) (s : TermTracer) : Prop :=
  ∀ pid sc, s.activeSyscall = some (pid, sc) → isEnabled cfg (some sc) = true

theorem PrintsActive.of_same (h : PrintsActive cfg s) (ha : s'.activeSyscall = s.activeSyscall) :
    PrintsActive cfg s' := fun pid sc hs => h pid sc (ha ▸ hs)

/-! ### lines -/

/-- what is written may follow -/
def Writing {α : Type} (own : Prop) (cfg : Config) (x : Act α) : Prop :=
  ∀ s₀, Triple (fun s => Writes own s₀ s ∧ PrintsActive cfg s) x
    (fun _ s => Writes own s₀ s ∧ PrintsActive cfg s) fun _ _ => False

theorem Writing.when {c : Prop} [Decidable c] {x : Act Unit} (hx : c → Writing own cfg x) :
    Writing own cfg (when c x) := fun s₀ => Triple.when (fun h => hx h s₀) fun _ _ hs => hs

theorem Writing.bind {α β : Type} {x : Act α} {f : α → Act β} (hx : Writing own cfg x)
    (hf : ∀ a, Writing own cfg (f a)) : Writing own cfg (x >>= f) :=
  fun s₀ => Triple.bind (hx s₀) fun a => hf a s₀

theorem Writing.ite {c : Prop} [Decidable c] {x y : Act Unit} (hx : Writing own cfg x)
    (hy : Writing own cfg y) : Writing own cfg (if c then x else y) :=
  fun s₀ => Triple.ite (fun _ => hx s₀) fun _ => hy s₀

theorem Writing.read_bind {f : TermTracer → Act Unit} (h : ∀ s, Writing own cfg (f s)) :
    Writing own cfg (read >>= f) := fun s₀ => Triple.read_bind fun s =>
  Triple.weaken (h s s₀) (fun _ hs => hs.2) (fun _ _ hs => hs) fun _ _ he => he

theorem Reaches.ends (h : Reaches own s t ⟨some (pid, sc), t.unfinishedSyscalls.find?⟩)
    (out : Output)
    (hf : ∀ p : Page, p.line = some (pid, sc) →
      out.Follows own p ∧ p.read out = { p with line := none })
    (hs : s' = { t with printed := t.printed ++ [out], activeSyscall := none }) :
    Writes own s s' := by
  subst hs
  obtain ⟨hfollow, hread⟩ := hf ⟨some (pid, sc), t.unfinishedSyscalls.find?⟩ rfl
  have hr : Reaches own s { t with printed := t.printed ++ [out], activeSyscall := none } _ :=
    h.print rfl hfollow
  rwa [hread] at hr

end TermTracer

/-! ## sessions -/

namespace Session

variable {own : Prop} {cfg : Config} {s : Session} {c : Consumer}

/-- an exit that is printed is that of the open call -/
def Owns (cfg : Config) (s : Session) : Consumer → Prop
  | .syscallExit t sc hasResult =>
      isEnabled cfg (some sc) → ¬ (isExecSyscall sc && hasResult) → s.opened t.pid = some sc
  | _ => True

end Session

end Clues
