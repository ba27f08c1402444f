import Storefront.Coupons.Discounts

set_option autoImplicit false

/-!
# More in the cart

What a cart costs when lines are added to it or quantities raised. With one
percentage among the coupons the grand total follows the subtotal.
-/

namespace Storefront

namespace Coupon

variable {coupon : Coupon} {s s' : ℚ}

theorem computeDiscount_all (fixed : coupon.discount_type = .fixed) (covers : s ≤ coupon.discount_value)
    (cents : InCents s) : coupon.computeDiscount s = s := by
  simp only [computeDiscount, fixed, min_eq_right covers]
  exact cents

theorem computeDiscount_fixed (fixed : coupon.discount_type = .fixed) (below : coupon.discount_value < s)
    (more : s ≤ s') : coupon.computeDiscount s' = coupon.computeDiscount s := by
  have below' : coupon.discount_value < s' := lt_of_lt_of_le below more
  simp only [computeDiscount, fixed, min_eq_left below.le, min_eq_left below'.le]

theorem computeDiscount_percentage (percentage : coupon.discount_type = .percentage)
    (capped : coupon.discount_value ≤ 100) (nonneg : 0 ≤ s) (cents : InCents s) (cents' : InCents s')
    (more : s ≤ s') : coupon.computeDiscount s' ≤ coupon.computeDiscount s + (s' - s) := by
  have part {t : ℚ} (positive : 0 ≤ t) : t * coupon.discount_value / 100 ≤ t := by nlinarith
  simp only [computeDiscount, percentage, min_eq_left (part nonneg), min_eq_left (part (nonneg.trans more))]
  obtain ⟨n, rfl⟩ := inCents_iff.mp cents
  obtain ⟨n', rfl⟩ := inCents_iff.mp cents'
  rcases lt_or_eq_of_le more with grows | same
  · rcases lt_or_eq_of_le capped with less | whole
    · have within : (n' : ℚ) / 100 * coupon.discount_value / 100 * 100 <
          (n : ℚ) / 100 * coupon.discount_value / 100 * 100 + ((n' - n : ℤ) : ℚ) := by
        push_cast
        nlinarith
      have rounded := roundHalfEven_le_add within
      have cast : (roundHalfEven ((n' : ℚ) / 100 * coupon.discount_value / 100 * 100) : ℚ) ≤
          roundHalfEven ((n : ℚ) / 100 * coupon.discount_value / 100 * 100) + (n' - n) := by
        exact_mod_cast rounded
      rw [quantize, quantize]
      linarith
    · have unit (t : ℚ) : t * coupon.discount_value / 100 = t := by
        rw [whole]
        ring
      rw [unit, unit, quantize_cents, quantize_cents]
      linarith
  · rw [← same]
    linarith

end Coupon

section Totals

variable {items items' : List CartItem} {coupons : List Coupon} {s s' : ℚ}

def isPercentage (coupon : Coupon) : Bool := coupon.discount_type == .percentage

-- Each percentage follows the subtotal, the fixed amounts below it stay.
theorem discounts_step (sound : ∀ c ∈ coupons, c.Sound) (nonneg : 0 ≤ s) (cents : InCents s) (cents' : InCents s')
    (more : s ≤ s') (below : ∀ c ∈ coupons, c.discount_type = .fixed → c.discount_value < s) :
    (coupons.map fun c => c.computeDiscount s').sum ≤
      (coupons.map fun c => c.computeDiscount s).sum + coupons.countP isPercentage * (s' - s) := by
  induction coupons with
  | nil => simp
  | cons c rest ih =>
    have others := ih (fun c inside => sound c (List.mem_cons_of_mem _ inside)) fun c inside =>
      below c (List.mem_cons_of_mem _ inside)
    rw [List.map_cons, List.sum_cons, List.map_cons, List.sum_cons, List.countP_cons]
    cases kind : c.discount_type with
    | percentage =>
      have step := Coupon.computeDiscount_percentage kind ((sound c List.mem_cons_self).capped kind) nonneg cents
        cents' more
      simp only [isPercentage, kind, BEq.rfl, if_true]
      push_cast
      linarith
    | fixed =>
      have same := Coupon.computeDiscount_fixed kind (below c List.mem_cons_self kind) more
      have other : isPercentage c = false := by
        rw [isPercentage, kind]
        rfl
      rw [same]
      simp only [other, Bool.false_eq_true, if_false, add_zero]
      linarith

theorem le_discounts (sound : ∀ c ∈ coupons, c.Sound) (nonneg : 0 ≤ s) {c : Coupon} (inside : c ∈ coupons) :
    c.computeDiscount s ≤ (coupons.map fun c => c.computeDiscount s).sum := by
  refine List.single_le_sum (fun x listed => ?_) _ (List.mem_map_of_mem inside)
  obtain ⟨other, present, rfl⟩ := List.mem_map.mp listed
  exact (sound other present).computeDiscount_nonneg nonneg

theorem computeSubtotal_grows {added : List CartItem}
    (priced : ∀ item ∈ items' ++ added, 0 ≤ item.unit_price_snapshot)
    (positive : ∀ item ∈ added, 1 ≤ item.quantity)
    (raised : List.Forall₂ (fun item item' => item'.unit_price_snapshot = item.unit_price_snapshot ∧
      item.quantity ≤ item'.quantity) items items') :
    computeSubtotal items ≤ computeSubtotal (items' ++ added) := by
  have extra : 0 ≤ computeSubtotal added :=
    computeSubtotal_nonneg (fun item inside => priced item (List.mem_append_right _ inside)) positive
  have kept : computeSubtotal items ≤ computeSubtotal items' := by
    replace priced := fun item inside => priced item (List.mem_append_left added inside)
    induction raised with
    | nil => exact le_rfl
    | @cons item item' _ _ one _ ih =>
      have price := priced item' List.mem_cons_self
      have quantity : (item.quantity : ℚ) ≤ item'.quantity := by exact_mod_cast one.2
      have line : item.unit_price_snapshot * (item.quantity : ℚ) ≤ item'.unit_price_snapshot * item'.quantity := by
        rw [one.1] at price ⊢
        exact mul_le_mul_of_nonneg_left quantity price
      have rest := ih fun other inside => priced other (List.mem_cons_of_mem _ inside)
      simp only [computeSubtotal, List.map_cons, List.sum_cons] at rest ⊢
      linarith
  simp only [computeSubtotal, List.map_append, List.sum_append] at extra kept ⊢
  linarith

theorem grand_total_monotone (cents : ∀ item ∈ items ++ items', InCents item.unit_price_snapshot)
    (sound : ∀ c ∈ coupons, c.Sound) (one : coupons.countP isPercentage ≤ 1) (nonneg : 0 ≤ computeSubtotal items)
    (more : computeSubtotal items ≤ computeSubtotal items') (currency : String) :
    (computeTotals items coupons currency).grand_total ≤ (computeTotals items' coupons currency).grand_total := by
  have cents₁ : ∀ item ∈ items, InCents item.unit_price_snapshot := fun item inside =>
    cents item (List.mem_append_left _ inside)
  have cents₂ : ∀ item ∈ items', InCents item.unit_price_snapshot := fun item inside =>
    cents item (List.mem_append_right _ inside)
  rw [computeTotals_eq cents₁, computeTotals_eq cents₂]
  simp only [computeDiscounts]
  have whole : InCents (computeSubtotal items) := computeSubtotal_cents cents₁
  have whole' : InCents (computeSubtotal items') := computeSubtotal_cents cents₂
  generalize computeSubtotal items = s at *
  generalize computeSubtotal items' = s' at *
  by_cases covered : ∃ c ∈ coupons, c.discount_type = .fixed ∧ s ≤ c.discount_value
  · -- The smaller cart costs nothing.
    obtain ⟨c, inside, fixed, covers⟩ := covered
    have all := le_discounts sound nonneg inside
    rw [Coupon.computeDiscount_all fixed covers whole] at all
    rw [min_eq_right all, sub_self]
    exact sub_nonneg.mpr (min_le_right _ _)
  · have below : ∀ c ∈ coupons, c.discount_type = .fixed → c.discount_value < s := by
      intro c inside fixed
      by_contra reaches
      exact covered ⟨c, inside, fixed, not_lt.mp reaches⟩
    have step := discounts_step sound nonneg whole whole' more below
    have count : (coupons.countP isPercentage : ℚ) * (s' - s) ≤ s' - s := by
      have atMost : (coupons.countP isPercentage : ℚ) ≤ 1 := by exact_mod_cast one
      nlinarith
    rcases min_choice (coupons.map fun c => c.computeDiscount s).sum s with uncapped | capped
    · rw [uncapped]
      have cap' := min_le_left (coupons.map fun c => c.computeDiscount s').sum s'
      linarith
    · rw [capped, sub_self]
      exact sub_nonneg.mpr (min_le_right _ _)

end Totals

namespace Sample

def pen : CartItem := { item with id := 44, quantity := 1, unit_price_snapshot := 35 / 100 }

def thirdOff : Coupon :=
  { id := 70, tenant := 1, code := "THIRD", discount_type := .percentage, discount_value := 3333 / 100
    currency := "", min_cart_subtotal := none, allowed_countries := [], customer_type_restriction := .any
    max_uses := none, uses_count := 0, valid_from := none, valid_until := none, is_active := true }

def halfOff : Coupon := { thirdOff with id := 72, code := "HALF", discount_value := 50 }

def clip : CartItem := { pen with id := 45, unit_price_snapshot := 1 / 100 }

def tenHalalas : Coupon :=
  { thirdOff with id := 71, code := "TEN", discount_type := .fixed, discount_value := 10 / 100, currency := "SAR" }

theorem coupons_sound : ∀ c ∈ [thirdOff, tenHalalas], c.Sound := by
  intro c inside
  simp only [List.mem_cons, List.not_mem_nil, or_false] at inside
  rcases inside with rfl | rfl
  · exact ⟨by norm_num [thirdOff], fun _ => by norm_num [thirdOff]⟩
  · exact ⟨by norm_num [tenHalalas, thirdOff], by simp [tenHalalas]⟩

end Sample

theorem grand_total_monotone_pen :
    (computeTotals [Sample.pen] [Sample.thirdOff, Sample.tenHalalas] "SAR").grand_total = 13 / 100 ∧
    (computeTotals [Sample.pen] [Sample.thirdOff, Sample.tenHalalas] "SAR").grand_total ≤
      (computeTotals [{ Sample.pen with quantity := 2 }, Sample.item] [Sample.thirdOff, Sample.tenHalalas]
        "SAR").grand_total := by
  refine ⟨by decide +kernel, ?_⟩
  apply grand_total_monotone _ Sample.coupons_sound
  · decide +kernel
  · decide +kernel
  · have raised : computeSubtotal [Sample.pen] ≤
        computeSubtotal ([{ Sample.pen with quantity := 2 }] ++ [Sample.item]) :=
      computeSubtotal_grows (by decide +kernel) (by decide +kernel) (by simp [Sample.pen])
    exact raised
  · decide +kernel

-- Two halves leave more of one cent than of two.
example :
    (computeTotals [Sample.clip] [Sample.halfOff, Sample.halfOff] "SAR").grand_total = 1 / 100 ∧
    (computeTotals [{ Sample.clip with quantity := 2 }] [Sample.halfOff, Sample.halfOff] "SAR").grand_total = 0 := by
  decide +kernel

end Storefront
