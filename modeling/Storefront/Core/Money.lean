import Storefront.Core.Values

set_option autoImplicit false

/-!
# Amounts in cents

Rounding leaves them alone, and sums, multiples and minima of them are amounts in
cents again.
-/

namespace Storefront

theorem roundHalfEven_intCast (n : ℤ) : roundHalfEven (n : ℚ) = n := by
  have below : (n : ℚ).floor = n := Rat.floor_intCast n
  simp only [roundHalfEven, below, sub_self]
  norm_num

theorem roundHalfEven_le {x : ℚ} {n : ℤ} (below : x ≤ n) : roundHalfEven x ≤ n := by
  have floor : x.floor ≤ n := by
    have le : (x.floor : ℚ) ≤ n := le_trans (Rat.floor_le x) below
    exact_mod_cast le
  rcases lt_or_eq_of_le floor with room | same
  · unfold roundHalfEven
    simp only
    split
    · omega
    · split
      · omega
      · split <;> omega
  · have whole : x - x.floor < 1 / 2 := by
      rw [same]
      linarith
    simp only [roundHalfEven, whole, if_true]
    exact floor

theorem le_roundHalfEven {x : ℚ} {n : ℤ} (above : (n : ℚ) ≤ x) : n ≤ roundHalfEven x := by
  have floor : n ≤ x.floor := Rat.le_floor_iff.mpr above
  unfold roundHalfEven
  simp only
  split
  · exact floor
  · split
    · omega
    · split <;> omega

theorem roundHalfEven_near (x : ℚ) : x - 1 / 2 ≤ roundHalfEven x ∧ (roundHalfEven x : ℚ) ≤ x + 1 / 2 := by
  have low : (x.floor : ℚ) ≤ x := Rat.floor_le x
  have high : x < x.floor + 1 := by exact_mod_cast Rat.lt_floor_add_one x
  unfold roundHalfEven
  simp only
  split
  · constructor <;> linarith
  · split
    · push_cast
      constructor <;> linarith
    · split
      · constructor <;> linarith
      · push_cast
        constructor <;> linarith

/-- Two roundings are no further apart than a whole number their arguments stay within.
Ties make the strict bound necessary: one half goes down and three halves go up. -/
theorem roundHalfEven_le_add {x y : ℚ} {k : ℤ} (less : y < x + k) : roundHalfEven y ≤ roundHalfEven x + k := by
  have upper := (roundHalfEven_near y).2
  have lower := (roundHalfEven_near x).1
  have between : (roundHalfEven y : ℚ) < roundHalfEven x + k + 1 := by linarith
  have whole : roundHalfEven y < roundHalfEven x + k + 1 := by exact_mod_cast between
  omega

theorem quantize_cents (n : ℤ) : quantize ((n : ℚ) / 100) = (n : ℚ) / 100 := by
  have scaled : (n : ℚ) / 100 * 100 = n := by ring
  rw [quantize, scaled, roundHalfEven_intCast]

theorem inCents_iff {x : ℚ} : InCents x ↔ ∃ n : ℤ, x = (n : ℚ) / 100 := by
  constructor
  · intro cents
    exact ⟨roundHalfEven (x * 100), cents.symm⟩
  · rintro ⟨n, rfl⟩
    exact quantize_cents n

theorem inCents_quantize (x : ℚ) : InCents (quantize x) := inCents_iff.mpr ⟨roundHalfEven (x * 100), rfl⟩

theorem quantize_le {x y : ℚ} (cents : InCents y) (below : x ≤ y) : quantize x ≤ y := by
  obtain ⟨n, rfl⟩ := inCents_iff.mp cents
  have scaled : x * 100 ≤ n := by linarith
  have rounded : (roundHalfEven (x * 100) : ℚ) ≤ n := by exact_mod_cast roundHalfEven_le scaled
  rw [quantize]
  linarith

theorem le_quantize {x y : ℚ} (cents : InCents x) (below : x ≤ y) : x ≤ quantize y := by
  obtain ⟨n, rfl⟩ := inCents_iff.mp cents
  have scaled : (n : ℚ) ≤ y * 100 := by linarith
  have rounded : (n : ℚ) ≤ roundHalfEven (y * 100) := by exact_mod_cast le_roundHalfEven scaled
  rw [quantize]
  linarith

theorem inCents_zero : InCents 0 := inCents_iff.mpr ⟨0, by norm_num⟩

namespace InCents

variable {x y : ℚ}

theorem add (left : InCents x) (right : InCents y) : InCents (x + y) := by
  obtain ⟨m, rfl⟩ := inCents_iff.mp left
  obtain ⟨n, rfl⟩ := inCents_iff.mp right
  refine inCents_iff.mpr ⟨m + n, ?_⟩
  push_cast
  ring

theorem sub (left : InCents x) (right : InCents y) : InCents (x - y) := by
  obtain ⟨m, rfl⟩ := inCents_iff.mp left
  obtain ⟨n, rfl⟩ := inCents_iff.mp right
  refine inCents_iff.mpr ⟨m - n, ?_⟩
  push_cast
  ring

theorem mul_int (cents : InCents x) (quantity : Int) : InCents (x * (quantity : ℚ)) := by
  obtain ⟨n, rfl⟩ := inCents_iff.mp cents
  refine inCents_iff.mpr ⟨n * quantity, ?_⟩
  push_cast
  ring

theorem min (left : InCents x) (right : InCents y) : InCents (Min.min x y) := by
  rcases min_choice x y with first | second
  · rw [first]
    exact left
  · rw [second]
    exact right

end InCents

theorem inCents_sum {amounts : List ℚ} (cents : ∀ x ∈ amounts, InCents x) : InCents amounts.sum := by
  induction amounts with
  | nil => exact inCents_zero
  | cons x rest ih =>
    rw [List.sum_cons]
    exact (cents x List.mem_cons_self).add (ih fun y member => cents y (List.mem_cons_of_mem x member))

end Storefront
