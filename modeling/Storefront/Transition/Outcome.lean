import Mathlib.Tactic

set_option autoImplicit false

/-!
# Computations that return a value or raise

The inversion lemmas peel a successful computation apart without unfolding
the functions it calls.
-/

namespace Transition

variable {ε α β σ : Type}

theorem bind_eq_ok {x : Except ε α} {f : α → Except ε β} {b : β} :
    (x >>= f) = .ok b ↔ ∃ a, x = .ok a ∧ f a = .ok b := by
  cases x <;> simp [bind, Except.bind]

theorem bind_eq_error {x : Except ε α} {f : α → Except ε β} {e : ε} :
    (x >>= f) = .error e ↔ x = .error e ∨ ∃ a, x = .ok a ∧ f a = .error e := by
  cases x <;> simp [bind, Except.bind]

theorem map_eq_ok {x : Except ε α} {f : α → β} {b : β} :
    (f <$> x) = .ok b ↔ ∃ a, x = .ok a ∧ f a = b := by
  cases x <;> simp [Functor.map, Except.map]

@[simp] theorem pure_eq_ok {a b : α} : (pure a : Except ε α) = .ok b ↔ a = b := by
  simp [pure, Except.pure]

@[simp] theorem throw_ne_ok {e : ε} {a : α} : (throw e : Except ε α) ≠ .ok a := by
  simp [throw, throwThe, MonadExceptOf.throw]

def orRaise (e : ε) : Option α → Except ε α
  | some a => .ok a
  | none => .error e

@[simp] theorem orRaise_eq_ok {e : ε} {x : Option α} {a : α} : orRaise e x = .ok a ↔ x = some a := by
  cases x <;> simp [orRaise]

def require (p : Prop) [Decidable p] (e : ε) : Except ε Unit :=
  if p then .ok () else .error e

@[simp] theorem require_eq_ok {p : Prop} [Decidable p] {e : ε} {u : Unit} :
    require p e = .ok u ↔ p := by
  unfold require
  split <;> simp_all

theorem require_eq_error {p : Prop} [Decidable p] {e e' : ε} :
    require p e = .error e' ↔ ¬ p ∧ e = e' := by
  unfold require
  split <;> simp_all

def raisedBy : Except ε α → Option ε
  | .ok _ => none
  | .error e => some e

theorem raisedBy_eq_some {x : Except ε α} {e : ε} : raisedBy x = some e ↔ x = .error e := by
  cases x <;> simp [raisedBy]

def Avoids (bad : ε → Prop) (x : Except ε α) : Prop := ∀ e, x = .error e → ¬ bad e

namespace Avoids

variable {bad : ε → Prop}

theorem bind {x : Except ε α} {f : α → Except ε β} (first : Avoids bad x) (rest : ∀ a, x = .ok a → Avoids bad (f a)) :
    Avoids bad (x >>= f) := by
  intro e raised
  rcases bind_eq_error.mp raised with here | ⟨a, done, later⟩
  · exact first e here
  · exact rest a done e later

theorem map {x : Except ε α} (f : α → β) (avoids : Avoids bad x) : Avoids bad (f <$> x) := by
  intro e raised
  cases x with
  | ok a => cases raised
  | error e' =>
    cases raised
    exact avoids e rfl

theorem pure (a : α) : Avoids bad (Pure.pure a : Except ε α) := by
  intro e raised
  cases raised

theorem orRaise {e : ε} (fine : ¬ bad e) (x : Option α) : Avoids bad (orRaise e x) := by
  intro e' raised
  cases x with
  | some a => cases raised
  | none =>
    cases raised
    exact fine

theorem require {p : Prop} [Decidable p] {e : ε} (fine : ¬ bad e) : Avoids bad (require p e) := by
  intro e' raised
  obtain ⟨_, rfl⟩ := require_eq_error.mp raised
  exact fine

end Avoids

theorem ok_get {x : Except ε α} (h : x.toOption.isSome) : x = .ok (x.toOption.get h) := by
  cases x with
  | ok a => rfl
  | error e => simp [Except.toOption] at h

theorem foldlM_cons_eq_ok {f : σ → α → Except ε σ} {a : α} {rest : List α} {s s' : σ} :
    (a :: rest).foldlM f s = .ok s' ↔ ∃ mid, f s a = .ok mid ∧ rest.foldlM f mid = .ok s' := by
  rw [List.foldlM_cons]
  exact bind_eq_ok

theorem foldlM_relation {f : σ → α → Except ε σ} {R : σ → σ → Prop} (refl : ∀ s, R s s)
    (trans : ∀ {a b c}, R a b → R b c → R a c) {l : List α}
    (step : ∀ a ∈ l, ∀ s s', f s a = .ok s' → R s s') {s s' : σ} (h : l.foldlM f s = .ok s') :
    R s s' := by
  induction l generalizing s with
  | nil =>
    obtain rfl : s = s' := by simpa using h
    exact refl s
  | cons a rest ih =>
    obtain ⟨mid, first, tail⟩ := foldlM_cons_eq_ok.mp h
    exact trans (step a (by simp) s mid first)
      (ih (fun b inside => step b (List.mem_cons_of_mem _ inside)) tail)

theorem foldlM_succeeds {f : σ → α → Except ε σ} {Good : σ → Prop} {l : List α}
    (step : ∀ a ∈ l, ∀ s, Good s → ∃ s', f s a = .ok s' ∧ Good s') {s : σ} (good : Good s) :
    ∃ s', l.foldlM f s = .ok s' ∧ Good s' := by
  induction l generalizing s with
  | nil => exact ⟨s, by simp, good⟩
  | cons a rest ih =>
    obtain ⟨mid, first, goodMid⟩ := step a (by simp) s good
    obtain ⟨s', tail, goodEnd⟩ := ih (fun b inside => step b (List.mem_cons_of_mem _ inside)) goodMid
    exact ⟨s', foldlM_cons_eq_ok.mpr ⟨mid, first, tail⟩, goodEnd⟩

end Transition
