import Mathlib.Data.List.Induction
import Mathlib.Tactic.Common

/-!
# Histories

A history is a list of entries that only grows at its end.

* `At log p e`       the entry `e` came after the entries `p`;
* `Always A log`     every entry met `A` at the time it came;
* `Sometime A log`   some entry met `A` at the time it came;
* `replay f s log`   the state of a machine that has seen all entries;
* `trail f s log`    the same for a machine that knows at each entry what came before.
-/

namespace Lib.History

variable {ε σ : Type}

/-! ## entries and what came before them -/

/-- the entry `e` came after the entries `p` -/
def At (log p : List ε) (e : ε) : Prop := p ++ [e] <+: log

theorem at_snoc (log : List ε) (e : ε) : At (log ++ [e]) log e := List.prefix_rfl

theorem At.mono {log log' p : List ε} {e : ε} (h : At log p e) (hl : log <+: log') :
    At log' p e := List.IsPrefix.trans h hl

theorem At.append {log p : List ε} {e : ε} (h : At log p e) (es : List ε) : At (log ++ es) p e :=
  h.mono (List.prefix_append _ _)

theorem at_snoc_iff {log p : List ε} {e e' : ε} :
    At (log ++ [e']) p e ↔ At log p e ∨ p = log ∧ e = e' := by
  unfold At
  rw [List.prefix_concat_iff]
  constructor
  · rintro (h | h)
    · exact Or.inr (List.append_inj' h rfl |>.imp_right fun he => List.singleton_inj.mp he)
    · exact Or.inl h
  · rintro (h | ⟨rfl, rfl⟩)
    · exact Or.inr h
    · exact Or.inl rfl

theorem not_at_nil {p : List ε} {e : ε} : ¬ At [] p e := fun h => by
  have hn := List.prefix_nil.mp h
  simp at hn

theorem At.mem {log p : List ε} {e : ε} (h : At log p e) : e ∈ log :=
  List.IsPrefix.subset h (List.mem_append_right _ (List.mem_singleton_self e))

theorem At.start {log p : List ε} {e : ε} (h : At log p e) : p <+: log :=
  (List.prefix_append _ _).trans h

theorem At.length_lt {log p : List ε} {e : ε} (h : At log p e) : p.length < log.length := by
  have hl := List.IsPrefix.length_le h
  rw [List.length_append] at hl
  exact hl

/-- the entries of a history that grew are the old ones and the ones behind them -/
theorem at_append_iff {log es p : List ε} {e : ε} :
    At (log ++ es) p e ↔ At log p e ∨ ∃ q, p = log ++ q ∧ At es q e := by
  induction es using List.reverseRecOn with
  | nil => simp [not_at_nil]
  | append_singleton es e' ih =>
    rw [← List.append_assoc, at_snoc_iff, ih, or_assoc]
    refine or_congr_right ⟨?_, ?_⟩
    · rintro (⟨q, rfl, hq⟩ | ⟨rfl, rfl⟩)
      · exact ⟨q, rfl, hq.append _⟩
      · exact ⟨es, rfl, at_snoc es e⟩
    · rintro ⟨q, rfl, hq⟩
      obtain hq | ⟨rfl, rfl⟩ := at_snoc_iff.mp hq
      · exact Or.inl ⟨q, rfl, hq⟩
      · exact Or.inr ⟨rfl, rfl⟩

theorem exists_at_of_mem {log : List ε} {e : ε} (h : e ∈ log) : ∃ p, At log p e := by
  obtain ⟨p, q, rfl⟩ := List.append_of_mem h
  exact ⟨p, q, by simp⟩

/-! ## always and sometime -/

/-- every entry met `A` at the time it came -/
def Always (A : List ε → ε → Prop) (log : List ε) : Prop := ∀ p e, At log p e → A p e

/-- some entry met `A` at the time it came -/
def Sometime (A : List ε → ε → Prop) (log : List ε) : Prop := ∃ p e, At log p e ∧ A p e

section
variable {A : List ε → ε → Prop} {log : List ε} {e : ε}

theorem always_nil : Always A [] := fun _ _ h => absurd h not_at_nil

theorem always_snoc_iff : Always A (log ++ [e]) ↔ Always A log ∧ A log e := by
  constructor
  · exact fun h => ⟨fun p e' h' => h p e' (h'.append _), h log e (at_snoc log e)⟩
  · rintro ⟨h, he⟩ p e' h'
    obtain h' | ⟨rfl, rfl⟩ := at_snoc_iff.mp h'
    · exact h p e' h'
    · exact he

theorem Always.mono {log' : List ε} (h : Always A log') (hl : log <+: log') : Always A log :=
  fun p e he => h p e (he.mono hl)

/-- entries that meet `A` at any time may be added -/
theorem Always.append {es : List ε} (h : Always A log) (he : ∀ e ∈ es, ∀ p, A p e) :
    Always A (log ++ es) := by
  intro p e h'
  obtain h' | ⟨q, -, hq⟩ := at_append_iff.mp h'
  · exact h p e h'
  · exact he e hq.mem p

theorem not_sometime_nil : ¬ Sometime A [] := fun ⟨_, _, h, _⟩ => not_at_nil h

theorem sometime_snoc_iff : Sometime A (log ++ [e]) ↔ Sometime A log ∨ A log e := by
  constructor
  · rintro ⟨p, e', h, hA⟩
    obtain h | ⟨rfl, rfl⟩ := at_snoc_iff.mp h
    · exact Or.inl ⟨p, e', h, hA⟩
    · exact Or.inr hA
  · rintro (⟨p, e', h, hA⟩ | hA)
    · exact ⟨p, e', h.append _, hA⟩
    · exact ⟨log, e, at_snoc log e, hA⟩

theorem Sometime.mono {log' : List ε} (h : Sometime A log) (hl : log <+: log') :
    Sometime A log' := by
  obtain ⟨p, e, hp, hA⟩ := h
  exact ⟨p, e, hp.mono hl, hA⟩

/-- entries that never meet `A` change nothing -/
theorem sometime_append_iff {es : List ε} (he : ∀ e ∈ es, ∀ p, ¬ A p e) :
    Sometime A (log ++ es) ↔ Sometime A log := by
  constructor
  · rintro ⟨p, e, hp, hA⟩
    obtain hp | ⟨q, -, hq⟩ := at_append_iff.mp hp
    · exact ⟨p, e, hp, hA⟩
    · exact absurd hA (he e hq.mem p)
  · exact fun h => h.mono (List.prefix_append _ _)

end

/-! ### positions -/

theorem at_iff_get {log p : List ε} {e : ε} :
    At log p e ↔ ∃ i : Fin log.length, p = log.take i ∧ e = log.get i := by
  constructor
  · intro h
    have hp : p = log.take p.length := List.prefix_iff_eq_take.mp h.start
    obtain ⟨t, ht⟩ := h
    refine ⟨⟨p.length, At.length_lt ⟨t, ht⟩⟩, hp, ?_⟩
    simp [← ht]
  · rintro ⟨i, rfl, rfl⟩
    refine ⟨log.drop (i + 1), ?_⟩
    rw [List.append_assoc]
    show log.take i ++ log[i.1] :: log.drop (i + 1) = log
    rw [List.getElem_cons_drop, List.take_append_drop]

instance {A : List ε → ε → Prop} [∀ p e, Decidable (A p e)] (log : List ε) :
    Decidable (Always A log) :=
  decidable_of_iff (∀ i : Fin log.length, A (log.take i) (log.get i))
    ⟨fun h p e hp => by
      obtain ⟨i, rfl, rfl⟩ := at_iff_get.mp hp
      exact h i,
    fun h i => h _ _ (at_iff_get.mpr ⟨i, rfl, rfl⟩)⟩

instance {A : List ε → ε → Prop} [∀ p e, Decidable (A p e)] (log : List ε) :
    Decidable (Sometime A log) :=
  decidable_of_iff (∃ i : Fin log.length, A (log.take i) (log.get i))
    ⟨fun ⟨i, hi⟩ => ⟨_, _, at_iff_get.mpr ⟨i, rfl, rfl⟩, hi⟩,
    fun ⟨p, e, hp, hA⟩ => by
      obtain ⟨i, rfl, rfl⟩ := at_iff_get.mp hp
      exact ⟨i, hA⟩⟩

/-- the entry at the position is the first one that meets `A`, when the history gets there -/
def FirstAt (A : List ε → ε → Prop) (i : Nat) : List ε → Prop :=
  Always fun p e => (A p e → i ≤ p.length) ∧ (p.length = i → A p e)

theorem FirstAt.sometime_iff {A : List ε → ε → Prop} {i : Nat} {log : List ε}
    (h : FirstAt A i log) : Sometime A log ↔ i < log.length := by
  constructor
  · rintro ⟨p, e, hp, hA⟩
    exact Nat.lt_of_le_of_lt ((h p e hp).1 hA) hp.length_lt
  · intro hi
    have hp : At log (log.take i) (log.get ⟨i, hi⟩) := at_iff_get.mpr ⟨⟨i, hi⟩, rfl, rfl⟩
    exact ⟨_, _, hp, (h _ _ hp).2 (List.length_take_of_le (Nat.le_of_lt hi))⟩

/-! ## machines that see a history -/

/-- the state of a machine that has seen all entries -/
def replay (f : σ → ε → σ) (s : σ) (log : List ε) : σ := log.foldl f s

section
variable {f : σ → ε → σ} {s : σ}

@[simp] theorem replay_nil : replay f s [] = s := rfl

@[simp] theorem replay_snoc (log : List ε) (e : ε) :
    replay f s (log ++ [e]) = f (replay f s log) e := by
  unfold replay
  rw [List.foldl_append]
  rfl

/-- entries that the machine does not react to -/
theorem replay_append_of_idle {log es : List ε} (h : ∀ e ∈ es, ∀ t, f t e = t) :
    replay f s (log ++ es) = replay f s log := by
  induction es using List.reverseRecOn with
  | nil => rw [List.append_nil]
  | append_singleton es e ih =>
    rw [← List.append_assoc, replay_snoc, h e (by simp)]
    exact ih fun e' he' => h e' (by simp [he'])

/-- an invariant of the machine, as long as the entries meet `A` -/
theorem Always.replay {A : List ε → ε → Prop} {I : List ε → σ → Prop} {log : List ε}
    (h : Always A log) (h0 : I [] s)
    (hs : ∀ p e, A p e → I p (History.replay f s p) →
      I (p ++ [e]) (f (History.replay f s p) e)) :
    I log (History.replay f s log) := by
  induction log using List.reverseRecOn with
  | nil => exact h0
  | append_singleton log e ih =>
    obtain ⟨h, he⟩ := always_snoc_iff.mp h
    rw [replay_snoc]
    exact hs log e he (ih h)

end

/-- the machine admits one entry after the other -/
def Accepts (A : σ → ε → Prop) (f : σ → ε → σ) (s : σ) : List ε → Prop
  | [] => True
  | e :: es => A s e ∧ Accepts A f (f s e) es

section
variable {A : σ → ε → Prop} {f : σ → ε → σ} {s : σ}

theorem accepts_append_iff {es es' : List ε} :
    Accepts A f s (es ++ es') ↔ Accepts A f s es ∧ Accepts A f (replay f s es) es' := by
  induction es generalizing s with
  | nil => exact (true_and _).to_iff.symm
  | cons e es ih =>
    show A s e ∧ Accepts A f (f s e) (es ++ es') ↔ (A s e ∧ Accepts A f (f s e) es) ∧ _
    rw [ih, and_assoc]
    rfl

theorem replay_append (es es' : List ε) : replay f s (es ++ es') = replay f (replay f s es) es' :=
  List.foldl_append

/-- entries that are admitted and leave the machine as it is -/
theorem accepts_of_idle {es : List ε} (h : ∀ e ∈ es, A s e ∧ f s e = s) :
    Accepts A f s es ∧ replay f s es = s := by
  induction es with
  | nil => exact ⟨trivial, rfl⟩
  | cons e es ih =>
    obtain ⟨hA, hf⟩ := h e List.mem_cons_self
    obtain ⟨hes, hr⟩ := ih fun e' he' => h e' (List.mem_cons_of_mem _ he')
    refine ⟨⟨hA, ?_⟩, ?_⟩
    · rw [hf]
      exact hes
    · show replay f (f s e) es = s
      rw [hf]
      exact hr

/-- a history is accepted if every entry was admitted at the time it came -/
theorem always_replay_iff {log : List ε} :
    Always (fun p e => A (replay f s p) e) log ↔ Accepts A f s log := by
  induction log using List.reverseRecOn with
  | nil => exact iff_of_true always_nil trivial
  | append_singleton log e ih =>
    rw [always_snoc_iff, ih, accepts_append_iff]
    show _ ↔ _ ∧ A (replay f s log) e ∧ True
    rw [and_true]

end

/-- the state of a machine that sees each entry together with the ones before it -/
def trail (f : List ε → σ → ε → σ) (s : σ) (log : List ε) : σ :=
  (replay (fun st e => (st.1 ++ [e], f st.1 st.2 e)) ([], s) log).2

section
variable {f : List ε → σ → ε → σ} {s : σ}

@[simp] theorem trail_nil : trail f s [] = s := rfl

/-- the machine has kept all entries -/
theorem replay_kept (log : List ε) :
    (replay (fun (st : List ε × σ) e => (st.1 ++ [e], f st.1 st.2 e)) ([], s) log).1 = log := by
  induction log using List.reverseRecOn with
  | nil => rfl
  | append_singleton log e ih =>
    rw [replay_snoc]
    show (replay _ ([], s) log).1 ++ [e] = log ++ [e]
    rw [ih]

@[simp] theorem trail_snoc (log : List ε) (e : ε) :
    trail f s (log ++ [e]) = f log (trail f s log) e := by
  unfold trail
  rw [replay_snoc]
  show f (replay _ ([], s) log).1 _ e = _
  rw [replay_kept]

/-- a part of the state that entries which meet `A` leave alone -/
theorem trail_append {τ : Type} {A : ε → Prop} (g : σ → τ) {log es : List ε} (h : ∀ e ∈ es, A e)
    (hs : ∀ p t e, A e → g t = g (trail f s log) → g (f p t e) = g t) :
    g (trail f s (log ++ es)) = g (trail f s log) := by
  induction es using List.reverseRecOn with
  | nil => rw [List.append_nil]
  | append_singleton es e ih =>
    have hl : g (trail f s (log ++ es)) = g (trail f s log) := ih fun e' he' => h e' (by simp [he'])
    rw [← List.append_assoc, trail_snoc, hs _ _ e (h e (by simp)) hl]
    exact hl

end

end Lib.History
