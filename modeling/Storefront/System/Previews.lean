import Storefront.Carts.Preview
import Storefront.Carts.Prices
import Storefront.System.CartContents
import Storefront.System.CouponPages

set_option autoImplicit false

/-!
# Previews in the running storefront
-/

namespace Storefront

open Relational Transition

section Runs

variable {settings : Settings} {lib : WebhookLibrary} {s s' : Sys}

theorem shop_linesPriced {e : Event} (priced : s.db.LinesPriced) (taken : shop settings lib s e = some s') :
    s'.db.LinesPriced := by
  cases e with
  | shopper tenant customer request draw =>
    simp only [shop] at taken
    split at taken
    · obtain ⟨db', done, rfl⟩ := commits_eq_some taken
      obtain ⟨⟨answer, _⟩, returned, rfl⟩ := map_eq_ok.mp done
      exact CartRequest.run_priced priced returned
    · cases taken
  | _ =>
    cases shop_carts taken with
    | restated restated _ => exact priced.of_items restated.items
    | unslotted _ unslots => exact priced.of_items (by rw [unslots.frame])
    | turned _ _ _ _ _ _ shopper _ => cases shopper

theorem Run.lines_priced {s₀ : Sys} {moves : List (Move Sys Event)} (run : (storefront settings lib).Run s₀ moves s) :
    s.db.LinesPriced := by
  have start (t : Sys) (opening : t.Opening) : t.db.LinesPriced := by
    intro i member
    rw [opening.cartItems] at member
    cases member
  have step (t : Sys) (e : Event) (t' : Sys) (priced : t.db.LinesPriced) (taken : shop settings lib t e = some t') :
      t'.db.LinesPriced := shop_linesPriced priced taken
  exact run.invariant start step

end Runs

/-- Whenever a customer asks, preview and application agree. -/
theorem preview_agrees (settings : Settings) (lib : WebhookLibrary) {s₀ s : Sys} {moves : List (Move Sys Event)}
    (run : (storefront settings lib).Run s₀ moves s) (sound : ∀ c ∈ s₀.db.coupons.rows, c.Sound)
    {tenant customer id : Id} (code : String) (known : (s.db.customer tenant customer).isSome = true)
    (fresh : ∀ a ∈ s.db.appliedCoupons.rows, a.id ≠ id) :
    CartService.PreviewAgrees (CartService.previewCoupon tenant customer code s.now s.db)
      (CartService.applyCoupon tenant customer code s.now id s.db) :=
  CartService.previewCoupon_agrees known (Run.locked_in run).filed fresh (Run.coupons_sound run sound) (Run.lines_priced run)

/-- The figure of a preview is the saving exactly where it is not cut off at the subtotal. -/
theorem preview_saves_iff (settings : Settings) (lib : WebhookLibrary) {s₀ s : Sys} {moves : List (Move Sys Event)}
    (run : (storefront settings lib).Run s₀ moves s) (sound : ∀ c ∈ s₀.db.coupons.rows, c.Sound)
    {tenant customer id : Id} {code : String} (known : (s.db.customer tenant customer).isSome = true)
    (fresh : ∀ a ∈ s.db.appliedCoupons.rows, a.id ≠ id) {p : CartService.CouponPreview}
    (previewed : CartService.previewCoupon tenant customer code s.now s.db = .ok p) (free : p.already_applied = false) :
    ∃ coupon before after db', s.db.couponOfCode tenant code = some coupon ∧
      CartService.getCart tenant customer s.db = .ok before ∧
      CartService.applyCoupon tenant customer code s.now id s.db = .ok (after, db') ∧
      (p.discount = after.totals.discount_total - before.totals.discount_total ↔
        CartService.LeavesRoom before.items before.coupons coupon) :=
  CartService.previewCoupon_saves_iff known (Run.locked_in run).filed fresh (Run.coupons_sound run sound)
    (Run.lines_priced run) previewed free

namespace Sample

def sixty : CouponCreate where
  code := "SIXTY"
  discount_type := .percentage
  discount_value := 60
  customer_type_restriction := .any

-- Together the coupons are worth more than the two mugs.
def stacking : List Event :=
  [.createCoupon 1 90 sixty,
    .createCoupon 1 91 { sixty with code := "TWELVE", discount_type := .fixed, discount_value := 12, currency := "SAR" },
    shopper (.addItem 30 2), shopper (.applyCoupon "SIXTY")]

def stacked : Sys := (floor.exec opening stacking).get (by decide +kernel)

theorem stacked_run : ∃ moves, floor.Run opening moves stacked := by
  have ends : floor.exec opening stacking = some stacked := (Option.some_get _).symm
  exact Machine.exec_run opening_opens ends

theorem opening_coupons_sound : ∀ c ∈ opening.db.coupons.rows, c.Sound := by
  intro c member
  cases member

end Sample

theorem preview_agrees_stacked : ∃ moves, Sample.floor.Run Sample.opening moves Sample.stacked ∧
    ((CartService.previewCoupon 1 10 "TWELVE" Sample.stacked.now Sample.stacked.db).toOption.map fun p =>
      (p.already_applied, p.discount, p.projected_discount_total, p.projected_grand_total)) = some (false, 12, 20, 0) ∧
    CartService.PreviewAgrees (CartService.previewCoupon 1 10 "TWELVE" Sample.stacked.now Sample.stacked.db)
      (CartService.applyCoupon 1 10 "TWELVE" Sample.stacked.now 45 Sample.stacked.db) := by
  obtain ⟨moves, run⟩ := Sample.stacked_run
  refine ⟨moves, run, by decide +kernel, preview_agrees _ _ run Sample.opening_coupons_sound "TWELVE" (by decide +kernel) ?_⟩
  decide +kernel

namespace Sample

def stackedPreview : CartService.CouponPreview :=
  (CartService.previewCoupon 1 10 "TWELVE" stacked.now stacked.db).toOption.get (by decide +kernel)

end Sample

theorem preview_saves_stacked : ∃ coupon before after db',
    Sample.stacked.db.couponOfCode 1 "TWELVE" = some coupon ∧
      CartService.getCart 1 10 Sample.stacked.db = .ok before ∧
      CartService.applyCoupon 1 10 "TWELVE" Sample.stacked.now 45 Sample.stacked.db = .ok (after, db') ∧
      (Sample.stackedPreview.discount = after.totals.discount_total - before.totals.discount_total ↔
        CartService.LeavesRoom before.items before.coupons coupon) := by
  obtain ⟨moves, run⟩ := Sample.stacked_run
  exact preview_saves_iff _ _ run Sample.opening_coupons_sound (by decide +kernel) (by decide +kernel)
    (ok_get (by decide +kernel : (CartService.previewCoupon 1 10 "TWELVE" Sample.stacked.now
      Sample.stacked.db).toOption.isSome = true)) (by decide +kernel)

/-- Two mugs at ten, sixty per cent off: the preview of another twelve promises twelve where only eight are left. -/
theorem preview_promises_twelve : ∃ moves, Sample.floor.Run Sample.opening moves Sample.stacked ∧
    ((CartService.previewCoupon 1 10 "TWELVE" Sample.stacked.now Sample.stacked.db).toOption.map fun p =>
      (p.already_applied, p.discount)) = some (false, 12) ∧
    ((CartService.getCart 1 10 Sample.stacked.db).toOption.map fun before => before.totals.discount_total) = some 12 ∧
    ((CartService.applyCoupon 1 10 "TWELVE" Sample.stacked.now 45 Sample.stacked.db).toOption.map fun after =>
      after.1.totals.discount_total) = some 20 ∧
    (12 : ℚ) ≠ 20 - 12 := by
  obtain ⟨moves, run⟩ := Sample.stacked_run
  refine ⟨moves, run, by decide +kernel, by decide +kernel, by decide +kernel, by norm_num⟩

end Storefront
