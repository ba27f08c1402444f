import Storefront.System.CouponPages

set_option autoImplicit false

/-!
# The totals of every cart

Whatever sequence of requests made its coupons.
-/

namespace Storefront

open Relational Transition

/-- Made by the admin: a row that some run leads to from a shop without coupons. -/
def Coupon.Made (settings : Settings) (lib : WebhookLibrary) (c : Coupon) : Prop :=
  ∃ s₀ s moves, (storefront settings lib).Run s₀ moves s ∧ s₀.db.coupons.rows = [] ∧ c ∈ s.db.coupons.rows

section Totals

variable {settings : Settings} {lib : WebhookLibrary} {items : List CartItem} {coupons : List Coupon}

theorem Coupon.Made.sound {c : Coupon} (made : c.Made settings lib) : c.Sound := by
  obtain ⟨s₀, s, moves, run, none_yet, member⟩ := made
  refine Run.coupons_sound run (fun c member => ?_) c member
  rw [none_yet] at member
  cases member

/-- Exact amounts that add up, and no coupon takes off more than there is. -/
theorem totals_exact (cents : ∀ item ∈ items, InCents item.unit_price_snapshot)
    (priced : ∀ item ∈ items, 0 ≤ item.unit_price_snapshot) (positive : ∀ item ∈ items, 1 ≤ item.quantity)
    (made : ∀ c ∈ coupons, c.Made settings lib) (currency : String) :
    (computeTotals items coupons currency).Exact ∧
      ∀ c ∈ coupons, 0 ≤ c.computeDiscount (computeSubtotal items) ∧
        c.computeDiscount (computeSubtotal items) ≤ computeSubtotal items := by
  have sound (c : Coupon) (inside : c ∈ coupons) : c.Sound := (made c inside).sound
  refine ⟨computeTotals_sound cents priced positive sound currency, fun c inside => ⟨?_, ?_⟩⟩
  · exact (sound c inside).computeDiscount_nonneg (computeSubtotal_nonneg priced positive)
  · exact c.computeDiscount_le (computeSubtotal_cents cents)

end Totals

namespace Sample

def third : CouponCreate where
  code := "THIRD"
  discount_type := .percentage
  discount_value := 3333 / 100
  customer_type_restriction := .any

-- The second coupon becomes one of fixed amount.
def couponsMade : List Event :=
  [.createCoupon 1 90 third, .createCoupon 1 91 { third with code := "FIVE" },
    .patchCoupon 1 91 { discount_type := some .fixed, discount_value := some (2015 / 100), currency := some "SAR" }]

def offering : Sys := (floor.exec opening couponsMade).get (by decide +kernel)

def oddItem : CartItem := { item with id := 43, product := 31, quantity := 3, unit_price_snapshot := 335 / 100 }

theorem offering_made : ∀ c ∈ offering.db.coupons.rows, c.Made settings library := by
  intro c member
  have ends : floor.exec opening couponsMade = some offering := (Option.some_get _).symm
  obtain ⟨moves, run⟩ := Machine.exec_run opening_opens ends
  exact ⟨opening, offering, moves, run, rfl, member⟩

end Sample

theorem totals_exact_odd :
    computeTotals [Sample.item, Sample.oddItem] Sample.offering.db.coupons.rows "SAR" =
      { subtotal := 3005 / 100, discount_total := 3005 / 100, grand_total := 0, currency := "SAR" } ∧
    (computeTotals [Sample.item, Sample.oddItem] Sample.offering.db.coupons.rows "SAR").Exact := by
  refine ⟨by decide +kernel, (totals_exact ?_ ?_ ?_ Sample.offering_made "SAR").1⟩
  · decide +kernel
  · decide +kernel
  · decide +kernel

end Storefront
