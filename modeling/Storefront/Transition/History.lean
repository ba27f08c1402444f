import Storefront.Transition.Machine

set_option autoImplicit false

/-!
# Histories

What an observer of a run knows after it, learnt from its moves one by one.
-/

namespace Transition

variable {σ ℓ η : Type} {learn : η → Move σ ℓ → η} {known : η}

def history (learn : η → Move σ ℓ → η) (known : η) (moves : List (Move σ ℓ)) : η := moves.foldl learn known

@[simp] theorem history_nil : history learn known [] = known := rfl

@[simp] theorem history_snoc (moves : List (Move σ ℓ)) (move : Move σ ℓ) :
    history learn known (moves ++ [move]) = learn (history learn known moves) move := by
  simp [history]

/-- A state that each step changes as the observer learns agrees with the history of its run. -/
theorem Machine.Run.agrees {m : Machine σ ℓ} {R : η → σ → Prop} (start : ∀ s, m.Start s → R known s)
    (step : ∀ h s l s', R h s → m.step s l = some s' → R (learn h ⟨s, l, s'⟩) s') {s₀ s : σ}
    {moves : List (Move σ ℓ)} (run : m.Run s₀ moves s) : R (history learn known moves) s := by
  induction run with
  | start initial => exact start _ initial
  | step _ taken ih =>
    rw [history_snoc]
    exact step _ _ _ _ ih taken

/-- What is known in the end and was not at first was learnt by some move, and known ever since. -/
theorem history_learnt {P : η → Prop} (unknown : ¬ P known) {moves : List (Move σ ℓ)}
    (knows : P (history learn known moves)) :
    ∃ earlier move later, moves = earlier ++ move :: later ∧ ¬ P (history learn known earlier) ∧
      P (learn (history learn known earlier) move) ∧
      ∀ since rest, later = since ++ rest → P (history learn known (earlier ++ move :: since)) := by
  induction moves using List.reverseRecOn with
  | nil => exact absurd knows unknown
  | append_singleton moves last ih =>
    by_cases before : P (history learn known moves)
    · obtain ⟨earlier, move, later, rfl, fresh, learnt, kept⟩ := ih before
      refine ⟨earlier, move, later ++ [last], by simp, fresh, learnt, fun since rest parts => ?_⟩
      rcases List.eq_nil_or_concat rest with rfl | ⟨rest, l, rfl⟩
      · rw [List.append_nil] at parts
        subst parts
        simpa using knows
      · rw [List.concat_eq_append, ← List.append_assoc] at parts
        exact kept since rest (List.append_inj' parts rfl).1
    · rw [history_snoc] at knows
      refine ⟨moves, last, [], rfl, before, knows, fun since rest parts => ?_⟩
      obtain ⟨rfl, rfl⟩ := List.append_eq_nil_iff.mp parts.symm
      simpa using knows

end Transition
