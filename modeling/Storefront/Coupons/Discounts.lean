import Storefront.Carts.Service
import Storefront.Coupons.Admin

set_option autoImplicit false

/-!
# What coupons take off

Discounts stay between zero and the subtotal because the serializers of the admin
check amounts and percentages of the row a request leads to.
-/

namespace Storefront

open Relational Transition

/-- What the serializers promise of a coupon. -/
structure Coupon.Sound (coupon : Coupon) : Prop where
  positive : 1 / 100 ≤ coupon.discount_value
  capped : coupon.discount_type = .percentage → coupon.discount_value ≤ 100

namespace Coupon

variable {coupon : Coupon} {subtotal : ℚ}

theorem Sound.computeDiscount_nonneg (sound : coupon.Sound) (positive : 0 ≤ subtotal) :
    0 ≤ coupon.computeDiscount subtotal := by
  have value : 0 ≤ coupon.discount_value := le_trans (by norm_num) sound.positive
  refine le_quantize inCents_zero (le_min ?_ positive)
  cases coupon.discount_type with
  | percentage => exact div_nonneg (mul_nonneg positive value) (by norm_num)
  | fixed => exact value

theorem computeDiscount_le (coupon : Coupon) (cents : InCents subtotal) : coupon.computeDiscount subtotal ≤ subtotal :=
  quantize_le cents (min_le_right _ _)

theorem computeDiscount_cents (coupon : Coupon) (subtotal : ℚ) : InCents (coupon.computeDiscount subtotal) :=
  inCents_quantize _

end Coupon

/-! ## Totals -/

/-- Amounts in cents, none of them negative, that add up. -/
structure CartTotals.Exact (totals : CartTotals) : Prop where
  cents : InCents totals.subtotal ∧ InCents totals.discount_total ∧ InCents totals.grand_total
  subtotal : 0 ≤ totals.subtotal
  discount_total : 0 ≤ totals.discount_total
  grand_total : 0 ≤ totals.grand_total
  bounded : totals.discount_total ≤ totals.subtotal
  adds_up : totals.subtotal = totals.discount_total + totals.grand_total

section Totals

variable {items : List CartItem} {coupons : List Coupon}

theorem computeSubtotal_nonneg (priced : ∀ item ∈ items, 0 ≤ item.unit_price_snapshot)
    (positive : ∀ item ∈ items, 1 ≤ item.quantity) : 0 ≤ computeSubtotal items := by
  refine List.sum_nonneg fun x listed => ?_
  obtain ⟨item, inside, rfl⟩ := List.mem_map.mp listed
  have quantity : (0 : ℚ) ≤ item.quantity := by
    exact_mod_cast le_trans zero_le_one (positive item inside)
  exact mul_nonneg (priced item inside) quantity

theorem discounts_nonneg {subtotal : ℚ} (sound : ∀ c ∈ coupons, c.Sound) (positive : 0 ≤ subtotal) :
    0 ≤ (coupons.map fun c => c.computeDiscount subtotal).sum := by
  refine List.sum_nonneg fun x listed => ?_
  obtain ⟨coupon, inside, rfl⟩ := List.mem_map.mp listed
  exact (sound coupon inside).computeDiscount_nonneg positive

theorem computeTotals_sound (cents : ∀ item ∈ items, InCents item.unit_price_snapshot)
    (priced : ∀ item ∈ items, 0 ≤ item.unit_price_snapshot) (positive : ∀ item ∈ items, 1 ≤ item.quantity)
    (sound : ∀ c ∈ coupons, c.Sound) (currency : String) : (computeTotals items coupons currency).Exact := by
  have subtotal := computeSubtotal_nonneg priced positive
  have discounts := discounts_nonneg sound subtotal
  have nonneg : 0 ≤ computeDiscounts items coupons := le_min discounts subtotal
  have bounded : computeDiscounts items coupons ≤ computeSubtotal items := min_le_right _ _
  have discount : InCents (computeDiscounts items coupons) := computeDiscounts_cents coupons cents
  rw [computeTotals_eq cents coupons]
  exact {
    cents := ⟨computeSubtotal_cents cents, discount, (computeSubtotal_cents cents).sub discount⟩
    subtotal
    discount_total := nonneg
    grand_total := sub_nonneg.mpr bounded
    bounded
    adds_up := (add_sub_cancel _ _).symm }

end Totals

/-! ## The coupon page -/

section Admin

variable {tenant : Id} {db db' : Db}

theorem createCoupon_sound {id : Id} {data : CouponCreate} (done : createCoupon tenant id data db = .ok db')
    (sound : ∀ c ∈ db.coupons.rows, c.Sound) : ∀ c ∈ db'.coupons.rows, c.Sound := by
  simp only [createCoupon, validateDiscountValue, validateCrossFields, bind_eq_ok, require_eq_ok] at done
  obtain ⟨_, _, _, positive, _, _, _, _, _, ⟨_, _, capped⟩, inserted⟩ := done
  obtain ⟨_, put, rfl⟩ := stored_eq_ok.mp inserted
  intro c member
  simp only [Table.insert_rows put] at member
  rcases List.mem_append.mp member with old | new
  · exact sound c old
  · rw [List.mem_singleton.mp new]
    exact ⟨positive, capped⟩

theorem patchCoupon_sound {coupon : Id} {data : CouponUpdate} {now : Time}
    (done : patchCoupon tenant coupon data now db = .ok db') (sound : ∀ c ∈ db.coupons.rows, c.Sound) :
    ∀ c ∈ db'.coupons.rows, c.Sound := by
  simp only [patchCoupon, validateDiscountValue, validateCrossFields, bind_eq_ok, require_eq_ok, orRaise_eq_ok,
    pure_eq_ok] at done
  obtain ⟨row, found, _, positive, _, _, _, _, _, ⟨_, _, capped⟩, _, _, _, _, _, _, rfl⟩ := done
  have picked := List.find?_some found
  simp only [Bool.and_eq_true, beq_iff_eq] at picked
  have member := List.mem_of_find?_eq_some found
  intro c inside
  simp only [Db.modifyCoupons, Table.modify_rows] at inside
  obtain ⟨old, present, rfl⟩ := List.mem_map.mp inside
  unfold Table.updated
  split
  next here =>
    simp only [Bool.and_eq_true, beq_iff_eq] at here
    obtain rfl := db.coupons.eq_of_key present member (here.2.trans picked.2.symm)
    refine ⟨?_, capped⟩
    unfold CouponUpdate.apply
    cases changed : data.discount_value with
    | none => exact (sound old present).positive
    | some value =>
      rw [changed] at positive
      exact positive
  · exact sound old present

theorem deactivateCoupon_sound {coupon : Id} (done : deactivateCoupon tenant coupon db = .ok db')
    (sound : ∀ c ∈ db.coupons.rows, c.Sound) : ∀ c ∈ db'.coupons.rows, c.Sound := by
  simp only [deactivateCoupon, bind_eq_ok, pure_eq_ok] at done
  obtain ⟨_, _, rfl⟩ := done
  intro c inside
  simp only [Db.modifyCoupons, Table.modify_rows] at inside
  obtain ⟨old, present, rfl⟩ := List.mem_map.mp inside
  have checked := sound old present
  unfold Table.updated
  split
  · exact ⟨checked.positive, checked.capped⟩
  · exact checked

end Admin

end Storefront
