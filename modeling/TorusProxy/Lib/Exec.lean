import Mathlib.Logic.Relation

/-! Runs of a partial step function. An action that is not enabled has no
result; a guard singles out the steps a statement is about. -/
namespace Exec

variable {σ α : Type}

/-- One step that meets the guard. -/
def Step (step : σ → α → Option σ) (ok : σ → α → Prop) (s t : σ) : Prop :=
  ∃ a, ok s a ∧ step s a = some t

/-- Every step of the run meets the guard. -/
abbrev Run (step : σ → α → Option σ) (ok : σ → α → Prop) : σ → σ → Prop :=
  Relation.ReflTransGen (Step step ok)

/-- Take the actions in order, as long as each is enabled and meets the guard. -/
def execWhile (step : σ → α → Option σ) (ok : σ → α → Prop) [∀ s a, Decidable (ok s a)] :
    σ → List α → Option σ
  | s, [] => some s
  | s, a :: as => if ok s a then (step s a).bind (execWhile step ok · as) else none

variable {step : σ → α → Option σ} {ok ok' : σ → α → Prop} {s t u : σ}

/-- What holds at the start and is kept by every step from a reached state
holds wherever the run ends. -/
theorem Run.invariant (I : σ → Prop) (h : Run step ok s t) (init : I s)
    (keep : ∀ a u v, Run step ok s u → I u → ok u a → step u a = some v → I v) : I t := by
  induction h with
  | refl => exact init
  | tail reached hstep ih =>
    obtain ⟨a, hok, hs⟩ := hstep
    exact keep a _ _ reached ih hok hs

theorem Run.mono (h : Run step ok s t) (imp : ∀ u a, ok u a → ok' u a) : Run step ok' s t := by
  have weaker : ∀ u v, Step step ok u v → Step step ok' u v := by
    rintro u v ⟨a, hok, hs⟩
    exact ⟨a, imp u a hok, hs⟩
  exact Relation.ReflTransGen.mono weaker _ _ h

theorem Run.snoc {a : α} (h : Run step ok s t) (hok : ok t a) (hs : step t a = some u) :
    Run step ok s u :=
  h.tail ⟨a, hok, hs⟩

theorem run_of_execWhile [∀ s a, Decidable (ok s a)] (as : List α)
    (h : execWhile step ok s as = some t) : Run step ok s t := by
  induction as generalizing s with
  | nil =>
    simp only [execWhile, Option.some.injEq] at h
    exact h ▸ .refl
  | cons a as ih =>
    simp only [execWhile] at h
    split at h
    · rename_i hok
      obtain ⟨v, hv, rest⟩ := Option.bind_eq_some_iff.mp h
      exact .head ⟨a, hok, hv⟩ (ih rest)
    · cases h

/-- Enabled actions, in two parts with a guard each, whose ends have a decidable
property exhibit two runs, the second from where the first ends. -/
theorem exists_runs_of_execWhile (step : σ → α → Option σ) (ok ok' : σ → α → Prop)
    [∀ s a, Decidable (ok s a)] [∀ s a, Decidable (ok' s a)] (s : σ) (as bs : List α)
    (good : σ → σ → Prop) [∀ t u, Decidable (good t u)]
    (h : ((execWhile step ok s as).any fun t =>
      (execWhile step ok' t bs).any fun u => decide (good t u)) = true) :
    ∃ t u, Run step ok s t ∧ Run step ok' t u ∧ good t u := by
  cases ht : execWhile step ok s as with
  | none => simp [ht] at h
  | some t =>
    cases hu : execWhile step ok' t bs with
    | none => simp [ht, hu] at h
    | some u => exact ⟨t, u, run_of_execWhile as ht, run_of_execWhile bs hu, by simpa [ht, hu] using h⟩

theorem exists_run_of_execWhile (step : σ → α → Option σ) (ok : σ → α → Prop)
    [∀ s a, Decidable (ok s a)] (s : σ) (as : List α) (good : σ → Prop) [DecidablePred good]
    (h : (execWhile step ok s as).any (fun t => decide (good t)) = true) :
    ∃ t, Run step ok s t ∧ good t := by
  obtain ⟨t, u, r, -, hg⟩ := exists_runs_of_execWhile step ok ok s as [] (fun t _ => good t)
    (by simpa [execWhile] using h)
  exact ⟨t, r, hg⟩

end Exec
