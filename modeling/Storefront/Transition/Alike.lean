import Storefront.Transition.Outcome

set_option autoImplicit false

/-!
# Two computations that end alike

Both return, with related values, or both raise the same.
-/

namespace Transition

inductive Alike {ε α β : Type} (R : α → β → Prop) : Except ε α → Except ε β → Prop
  | ok {a : α} {b : β} (related : R a b) : Alike R (.ok a) (.ok b)
  | error (e : ε) : Alike R (.error e) (.error e)

namespace Alike

variable {ε α β γ δ σ τ ι : Type} {R : α → β → Prop} {S : γ → δ → Prop} {x : Except ε α} {y : Except ε β}

theorem pure {a : α} {b : β} (related : R a b) : Alike R (Pure.pure a : Except ε α) (Pure.pure b) := .ok related

theorem bind {f : α → Except ε γ} {g : β → Except ε δ} (first : Alike R x y)
    (rest : ∀ a b, R a b → Alike S (f a) (g b)) : Alike S (x >>= f) (y >>= g) := by
  cases first with
  | ok related => exact rest _ _ related
  | error e => exact .error e

theorem after {f : α → Except ε γ} {g : α → Except ε δ} (rest : ∀ a, x = .ok a → Alike S (f a) (g a)) :
    Alike S (x >>= f) (x >>= g) := by
  cases x with
  | ok a => exact rest a rfl
  | error e => exact .error e

theorem map {f : α → γ} {g : β → δ} (alike : Alike R x y) (related : ∀ a b, R a b → S (f a) (g b)) :
    Alike S (f <$> x) (g <$> y) := by
  cases alike with
  | ok here => exact .ok (related _ _ here)
  | error e => exact .error e

theorem cut {f : α → Except ε γ} {g : β → Except ε δ} {e : ε} (first : Alike R x y)
    (rest : ∀ a b, R a b → f a = g b >>= fun _ => .error e) : (x >>= f) = (y >>= g) >>= fun _ => .error e := by
  cases first with
  | ok related => exact rest _ _ related
  | error e => rfl

theorem after_cut {f : α → Except ε γ} {g : α → Except ε δ} {e : ε} (rest : ∀ a, f a = g a >>= fun _ => .error e) :
    (x >>= f) = (x >>= g) >>= fun _ => .error e := by
  cases x with
  | ok a => exact rest a
  | error e => rfl

theorem foldlM {R : σ → τ → Prop} {f : σ → ι → Except ε σ} {g : τ → ι → Except ε τ} {l : List ι}
    (step : ∀ i ∈ l, ∀ s t, R s t → Alike R (f s i) (g t i)) {s : σ} {t : τ} (start : R s t) :
    Alike R (l.foldlM f s) (l.foldlM g t) := by
  induction l generalizing s t with
  | nil => exact .ok start
  | cons i rest ih =>
    simp only [List.foldlM_cons]
    refine (step i (by simp) s t start).bind fun s' t' next => ?_
    exact ih (fun j inside => step j (List.mem_cons_of_mem _ inside)) next

end Alike

end Transition
