/-
  Runs of a deterministic event system.

  A system is a step function `σ → α → σ`; a run feeds it a list of events.  Nothing here depends on
  what states and events are.  Five things are said about runs, each once:

    * `Reachable s₀ s` — some run leads from `s₀` to `s`.  `reachable_invariant` carries an
      invariant there.
    * `Meets ok s as` — every step of the run satisfies `ok` (a condition on the state BEFORE the
      step and on the event).  `run_invariant` carries an invariant through such runs.
    * `steps s as` — the steps themselves, each event with the state it finds.
    * `Always P s as` — `P` holds after every prefix of the run.  `P` sees the events so far as
      well as the state, so it can speak about "since the last ...".
    * `since reset as` — the events after the last one satisfying `reset`.

  Each has an append or a snoc lemma (`run_append`, `meets_snoc`, `steps_snoc`, `always_snoc`,
  `since_snoc`), because histories are read from their last event: the inductions over runs in this
  development take the last event off, not the first.
-/
import Mathlib.Data.List.DropRight

namespace Runs

variable {σ α : Type} (step : σ → α → σ)

/-- The state after the events `as`. -/
def run (s : σ) (as : List α) : σ := as.foldl step s

@[simp] theorem run_nil (s : σ) : run step s [] = s := rfl

@[simp] theorem run_cons (s : σ) (a : α) (as : List α) :
    run step s (a :: as) = run step (step s a) as := rfl

/-- A run can be cut anywhere. -/
theorem run_append (s : σ) (as bs : List α) :
    run step s (as ++ bs) = run step (run step s as) bs :=
  List.foldl_append

/-- The last event is a step from where the others end. -/
@[simp] theorem run_snoc (s : σ) (as : List α) (a : α) :
    run step s (as ++ [a]) = step (run step s as) a := by
  rw [run_append]; rfl

/-- A run stopped just after one of its events, and taken up again. -/
theorem run_append_cons (s : σ) (as bs : List α) (a : α) :
    run step s (as ++ a :: bs) = run step (run step s (as ++ [a])) bs := by
  rw [run_append, run_snoc, run_cons]

/-- A state some run from `s₀` ends in. -/
def Reachable (s₀ s : σ) : Prop := ∃ as, run step s₀ as = s

/-- The start is reachable. -/
theorem Reachable.refl (s₀ : σ) : Reachable step s₀ s₀ := ⟨[], rfl⟩

/-- Runs from a reachable state stay reachable. -/
theorem Reachable.run {s₀ s : σ} (h : Reachable step s₀ s) (as : List α) :
    Reachable step s₀ (run step s as) := by
  obtain ⟨pre, rfl⟩ := h
  exact ⟨pre ++ as, run_append step _ _ _⟩

/-! ## Conditions on the steps of a run -/

/-- Every step of the run meets `ok` at the state before it. -/
def Meets (ok : σ → α → Prop) : σ → List α → Prop
  | _, [] => True
  | s, a :: as => ok s a ∧ Meets ok (step s a) as

/-- A condition on the steps is one on both parts of a run. -/
theorem meets_append {ok : σ → α → Prop} {s : σ} {as bs : List α} :
    Meets step ok s (as ++ bs) ↔ Meets step ok s as ∧ Meets step ok (run step s as) bs := by
  induction as generalizing s with
  | nil => simp [Meets]
  | cons a as ih => simp [Meets, ih, and_assoc]

/-- A run meets a condition if the run before its last step does and that step satisfies it. -/
theorem meets_snoc {ok : σ → α → Prop} {s : σ} {as : List α} {a : α} :
    Meets step ok s (as ++ [a]) ↔ Meets step ok s as ∧ ok (run step s as) a := by
  rw [meets_append]
  simp [Meets]

/-- **The run rule**: what one admissible step preserves, every admissible run preserves. -/
theorem run_invariant {ok : σ → α → Prop} {Inv : σ → Prop}
    (hstep : ∀ s a, Inv s → ok s a → Inv (step s a)) {s : σ} (hs : Inv s) {as : List α}
    (h : Meets step ok s as) : Inv (run step s as) := by
  induction as generalizing s with
  | nil => exact hs
  | cons a as ih => exact ih (hstep s a hs h.1) h.2

/-- The run rule with no condition on the steps. -/
theorem reachable_invariant {Inv : σ → Prop} (hstep : ∀ s a, Inv s → Inv (step s a)) {s₀ s : σ}
    (hs : Inv s₀) (h : Reachable step s₀ s) : Inv s := by
  obtain ⟨as, rfl⟩ := h
  induction as generalizing s₀ with
  | nil => exact hs
  | cons a as ih => exact ih (hstep _ a hs)

/-- The steps of a run: each event with the state it finds. -/
def steps : σ → List α → List (σ × α)
  | _, [] => []
  | s, a :: as => (s, a) :: steps (step s a) as

/-- The last step finds the state the others end in. -/
theorem steps_snoc (s : σ) (as : List α) (a : α) :
    steps step s (as ++ [a]) = steps step s as ++ [(run step s as, a)] := by
  induction as generalizing s with
  | nil => rfl
  | cons b as ih => exact congrArg ((s, b) :: ·) (ih _)

/-! ## What holds at every moment of a run -/

/-- `P` holds after every prefix of the run. -/
def Always (P : List α → σ → Prop) (s : σ) (as : List α) : Prop :=
  ∀ pre, pre <+: as → P pre (run step s pre)

/-- The empty run has one state. -/
theorem always_nil {P : List α → σ → Prop} {s : σ} : Always step P s [] ↔ P [] s := by
  simp [Always]

/-- Every state of a run is one of the run before its last event, or the last. -/
theorem always_snoc {P : List α → σ → Prop} {s : σ} {as : List α} {a : α} :
    Always step P s (as ++ [a]) ↔
      Always step P s as ∧ P (as ++ [a]) (step (run step s as) a) := by
  constructor
  · intro h
    refine ⟨fun pre hpre => h pre (hpre.trans (List.prefix_append _ _)), ?_⟩
    have := h (as ++ [a]) List.prefix_rfl
    rwa [run_snoc] at this
  · rintro ⟨h, ha⟩ pre hpre
    rcases List.prefix_concat_iff.mp hpre with rfl | hpre
    · rw [run_snoc]; exact ha
    · exact h pre hpre

/-! ## The events since the last reset -/

/-- The events after the last one that satisfies `reset` (all of them if none does). -/
def since (reset : α → Bool) (as : List α) : List α := as.rtakeWhile fun a => !reset a

/-- A reset leaves nothing since it. -/
theorem since_snoc_reset {reset : α → Bool} {as : List α} {a : α} (h : reset a = true) :
    since reset (as ++ [a]) = [] := by
  simp [since, h]

/-- An event that is no reset is one more since the last reset. -/
theorem since_snoc {reset : α → Bool} {as : List α} {a : α} (h : reset a = false) :
    since reset (as ++ [a]) = since reset as ++ [a] := by
  simp [since, h]

end Runs
