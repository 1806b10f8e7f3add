/-
  Registers of an event system, and runs that carry out commands.

  1. **Registers** — a register is a part of the state that a step either overwrites or leaves
     alone. `writes s a` is what the step writes, if it does; `step_get`, a field, says there is no
     other way to change it.

  2. **The register rule (`run_get`)** — after a run the register holds what was written last.
     Where what is written depends on the event alone, that is read off the history
     (`lastWrite_of_events`).  Read backwards, what the register holds was there from the start, or
     some step wrote it and no step after that wrote anything (`run_get_cases`).

  3. **Commands** — one system may carry out another's operations: each step of the first issues a
     list of commands for the second.  `run_carries_out` is the rule for such pairs, from the steps
     to the runs.  `issued` is the list of all commands of a run; a command in it comes from one of
     the steps (`issued_eq_append_cons` splits the list there).
-/
import Jaglink.Lib.Runs

namespace Runs

variable {σ τ α β γ : Type} {step : σ → α → σ}

/-! ## Conditions on steps -/

/-- A weaker condition is met by the same runs. -/
theorem Meets.imp {ok ok' : σ → α → Prop} {s : σ} {as : List α} (h : Meets step ok s as)
    (himp : ∀ s a, ok s a → ok' s a) : Meets step ok' s as := by
  induction as generalizing s with
  | nil => trivial
  | cons a as ih => exact ⟨himp s a h.1, ih h.2⟩

/-- A condition on the events alone. -/
theorem meets_const (step : σ → α → σ) {P : α → Prop} {s : σ} {as : List α} :
    Meets step (fun _ a => P a) s as ↔ ∀ a ∈ as, P a := by
  induction as generalizing s with
  | nil => simp [Meets]
  | cons a as ih => simp only [Meets, ih, List.forall_mem_cons]

/-- What holds at the end of a run and not at its start, some step has brought about. -/
theorem exists_step_of_run (step : σ → α → σ) {P : σ → Prop} {s : σ} {as : List α} (hs : ¬P s)
    (h : P (run step s as)) :
    ∃ pre a post, as = pre ++ a :: post ∧ ¬P (run step s pre) ∧ P (step (run step s pre) a) := by
  induction as using List.reverseRecOn with
  | nil => exact absurd h hs
  | append_singleton as a ih =>
    by_cases hbefore : P (run step s as)
    · obtain ⟨pre, a', post, rfl, hpre, hstep⟩ := ih hbefore
      exact ⟨pre, a', post ++ [a], by simp, hpre, hstep⟩
    · rw [run_snoc] at h
      exact ⟨as, a, [], rfl, hbefore, h⟩

/-! ## Registers -/

/-- A part of the state that some steps write and all others leave. -/
structure Register (step : σ → α → σ) (β : Type) where
  get : σ → β
  writes : σ → α → Option β
  step_get : ∀ s a, get (step s a) = (writes s a).getD (get s)

namespace Register

variable (r : Register step β) {s : σ} {as bs : List α} {a : α} {b : β}

/-- The step leaves the register alone. -/
def Leaves (s : σ) (a : α) : Prop := r.writes s a = none

/-- What the run writes last. -/
def lastWrite (s : σ) (as : List α) : Option β :=
  ((steps step s as).filterMap fun st => r.writes st.1 st.2).getLast?

/-- A step of the run writes `b`, and no step after it writes. -/
def WrittenLast (s : σ) (as : List α) (b : β) : Prop :=
  ∃ pre a post, as = pre ++ a :: post ∧ r.writes (run step s pre) a = some b ∧
    Meets step r.Leaves (run step s (pre ++ [a])) post

/-- A step that writes is the last to have written. -/
theorem lastWrite_snoc_writes (h : r.writes (run step s as) a = some b) :
    r.lastWrite s (as ++ [a]) = some b := by
  rw [lastWrite, steps_snoc, List.filterMap_append]
  simp [h]

/-- A step that leaves the register changes nothing about its last write. -/
theorem lastWrite_snoc_leaves (h : r.Leaves (run step s as) a) :
    r.lastWrite s (as ++ [a]) = r.lastWrite s as := by
  have hnone : r.writes (run step s as) a = none := h
  rw [lastWrite, steps_snoc, List.filterMap_append]
  simp [hnone, lastWrite]

/-- **A register holds what was written last.** -/
theorem run_get (s : σ) (as : List α) : r.get (run step s as) = (r.lastWrite s as).getD (r.get s) := by
  induction as using List.reverseRecOn with
  | nil => rfl
  | append_singleton as a ih =>
    rw [run_snoc, r.step_get]
    cases hwrites : r.writes (run step s as) a with
    | some b => rw [r.lastWrite_snoc_writes hwrites, Option.getD_some, Option.getD_some]
    | none => rw [r.lastWrite_snoc_leaves hwrites, Option.getD_none, ih]

/-- A step keeps what holds of everything that is written. -/
theorem step_get_of_writes {P : β → Prop} (hwrites : ∀ b, r.writes s a = some b → P b)
    (hs : P (r.get s)) : P (r.get (step s a)) := by
  rw [r.step_get]
  cases hwritten : r.writes s a with
  | none => exact hs
  | some b => exact hwrites b hwritten

/-- What is written last, if the events alone decide what is written. -/
theorem lastWrite_of_events {w : α → Option β} (h : ∀ s a, r.writes s a = w a) (s : σ) (as : List α) :
    r.lastWrite s as = (as.filterMap w).getLast? := by
  have hwritten : ∀ s, (steps step s as).filterMap (fun st => r.writes st.1 st.2) = as.filterMap w := by
    induction as with
    | nil => exact fun _ => rfl
    | cons a as ih =>
      intro s
      rw [steps, List.filterMap_cons, List.filterMap_cons, ih, h]
  rw [lastWrite, hwritten]

/-- A register nobody writes keeps its value. -/
theorem run_get_of_leaves (h : Meets step r.Leaves s as) : r.get (run step s as) = r.get s := by
  induction as generalizing s with
  | nil => rfl
  | cons a as ih =>
    have hleaves : r.writes s a = none := h.1
    rw [run_cons, ih h.2, r.step_get, hleaves, Option.getD_none]

/-- A register holds what was written last. -/
theorem run_get_of_writtenLast (h : r.WrittenLast s as b) : r.get (run step s as) = b := by
  obtain ⟨pre, a, post, rfl, hwrites, hleaves⟩ := h
  rw [run_append_cons, r.run_get_of_leaves hleaves, run_snoc, r.step_get, hwrites, Option.getD_some]

/-- Either no step of the run writes, or one of them is the last to. -/
theorem leaves_or_writtenLast (s : σ) (as : List α) :
    Meets step r.Leaves s as ∨ ∃ b, r.WrittenLast s as b := by
  induction as using List.reverseRecOn with
  | nil => exact Or.inl trivial
  | append_singleton as a ih =>
    cases hwrites : r.writes (run step s as) a with
    | some b => exact Or.inr ⟨b, as, a, [], rfl, hwrites, trivial⟩
    | none =>
      rcases ih with hleaves | ⟨b, pre, a', post, rfl, hb, hpost⟩
      · exact Or.inl ((meets_snoc step).mpr ⟨hleaves, hwrites⟩)
      · refine Or.inr ⟨b, pre, a', post ++ [a], by simp, hb, (meets_snoc step).mpr ⟨hpost, ?_⟩⟩
        rwa [run_append_cons] at hwrites

/-- **Where a register's contents come from.** -/
theorem run_get_cases (s : σ) (as : List α) :
    (Meets step r.Leaves s as ∧ r.get (run step s as) = r.get s) ∨
      r.WrittenLast s as (r.get (run step s as)) := by
  rcases r.leaves_or_writtenLast s as with hleaves | ⟨b, hwritten⟩
  · exact Or.inl ⟨hleaves, r.run_get_of_leaves hleaves⟩
  · rw [r.run_get_of_writtenLast hwritten]
    exact Or.inr hwritten

end Register

/-! ## Commands -/

section Commands

variable (step) (execute : τ → γ → τ) (commands : σ → α → List γ)

/-- The commands issued in a run. -/
def issued (s : σ) (as : List α) : List γ :=
  (steps step s as).flatMap fun st => commands st.1 st.2

@[simp] theorem issued_nil (s : σ) : issued step commands s [] = [] := rfl

@[simp] theorem issued_cons (s : σ) (a : α) (as : List α) :
    issued step commands s (a :: as) = commands s a ++ issued step commands (step s a) as := rfl

/-- Something said of every command of a run is said of the commands of every step. -/
theorem forall_issued {P : γ → Prop} {s : σ} {as : List α} :
    (∀ c ∈ issued step commands s as, P c) ↔
      Meets step (fun s a => ∀ c ∈ commands s a, P c) s as := by
  induction as generalizing s with
  | nil => simp [Meets]
  | cons a as ih => simp only [issued_cons, List.forall_mem_append, ih, Meets]

/-- **From steps to runs**: if each step carries out the commands it issues, so does each run. -/
theorem run_carries_out {Shows : σ → τ → Prop}
    (hstep : ∀ s t a, Shows s t → Shows (step s a) (run execute t (commands s a))) {s : σ} {t : τ}
    (hs : Shows s t) (as : List α) :
    Shows (run step s as) (run execute t (issued step commands s as)) := by
  induction as generalizing s t with
  | nil => exact hs
  | cons a as ih =>
    rw [run_cons, issued_cons, run_append]
    exact ih (hstep s t a hs)

/-- A command of the run is issued by one of its steps. -/
theorem issued_eq_append_cons {s : σ} {as : List α} {before after : List γ} {c : γ}
    (h : issued step commands s as = before ++ c :: after) :
    ∃ pre a post rest, as = pre ++ a :: post ∧
      (∃ early, commands (run step s pre) a = early ++ c :: rest) ∧
      after = rest ++ issued step commands (run step s (pre ++ [a])) post := by
  induction as generalizing s before with
  | nil =>
    rw [issued_nil] at h
    exact absurd h.symm (List.append_ne_nil_of_right_ne_nil _ (List.cons_ne_nil _ _))
  | cons a as ih =>
    rw [issued_cons] at h
    -- `c` is among the commands of the first step or in what the other steps issue
    rcases List.append_eq_append_iff.mp h with ⟨mid, hbefore, hrest⟩ | ⟨mid, hcommands, hrest⟩
    · obtain ⟨pre, a', post, rest, rfl, hearly, hafter⟩ := ih hrest
      exact ⟨a :: pre, a', post, rest, rfl, hearly, hafter⟩
    · cases mid with
      | nil =>
        have hfirst : issued step commands (step s a) as = [] ++ c :: after := hrest.symm
        obtain ⟨pre, a', post, rest, rfl, hearly, hafter⟩ := ih hfirst
        exact ⟨a :: pre, a', post, rest, rfl, hearly, hafter⟩
      | cons c' mid =>
        obtain ⟨rfl, rfl⟩ := List.cons.inj hrest
        exact ⟨[], a, as, mid, rfl, ⟨before, hcommands⟩, rfl⟩

end Commands

end Runs
