import Storefront.Coupons.Discounts
import Storefront.System.Offers
import Storefront.System.Shopping

set_option autoImplicit false

/-!
# The coupon pages among everything else

Coupons come and change by the requests of the admin. All that happens to them
besides is that checkouts count their uses.
-/

namespace Storefront

open Relational Transition

def Event.toCouponPage : Event → Bool
  | .createCoupon .. | .patchCoupon .. | .deactivateCoupon .. => true
  | _ => false

inductive CouponPage (s s' : Sys) : Event → Prop
  | created {tenant id : Id} {data : CouponCreate} (done : createCoupon tenant id data s.db = .ok s'.db) :
      CouponPage s s' (.createCoupon tenant id data)
  | patched {tenant coupon : Id} {data : CouponUpdate} (done : patchCoupon tenant coupon data s.now s.db = .ok s'.db) :
      CouponPage s s' (.patchCoupon tenant coupon data)
  | deactivated {tenant coupon : Id} (done : deactivateCoupon tenant coupon s.db = .ok s'.db) :
      CouponPage s s' (.deactivateCoupon tenant coupon)

section Steps

variable {settings : Settings} {lib : WebhookLibrary} {s s' : Sys}

theorem shop_counts_coupons {R : Db → Db → Prop} (counting : Counting R)
    (only : ∀ {db db' : Db}, db'.coupons = db.coupons → R db db') {e : Event}
    (taken : shop settings lib s e = some s') : CouponPage s s' e ∨ e.toCouponPage = false ∧ R s.db s'.db := by
  have leaves {db' : Db} (same : db'.coupons = s.db.coupons) : R s.db (s.withDb db').db := only same
  cases shop_cases taken with
  | shopper _ done => exact .inr ⟨rfl, leaves (by rw [(CartRequest.run_leaves done).frame])⟩
  | abandonStale _ done => exact .inr ⟨rfl, leaves (by rw [(abandonStaleCarts_leaves done).frame])⟩
  | createCoupon done => exact .inl (.created done)
  | patchCoupon done => exact .inl (.patched done)
  | deactivateCoupon done => exact .inl (.deactivated done)
  | deleteAddress done => exact .inr ⟨rfl, leaves (by rw [(deleteAddress_unslots done).frame])⟩
  | deletePaymentMethod done => exact .inr ⟨rfl, leaves (by rw [(deletePaymentMethod_unslots done).frame])⟩
  | editProfiles _ => exact .inr ⟨rfl, leaves rfl⟩
  | run apart stepped => exact .inr ⟨rfl, step_counts_coupons counting only stepped apart⟩

/-! ## Sound coupons -/

theorem sound_of_offers {db db' : Db} (same : db'.couponOffers = db.couponOffers)
    (sound : ∀ c ∈ db.coupons.rows, c.Sound) : ∀ c ∈ db'.coupons.rows, c.Sound := by
  intro c member
  have image : c.offer ∈ db.couponOffers := same ▸ List.mem_map_of_mem member
  obtain ⟨old, present, equal⟩ := List.mem_map.mp image
  have checked := sound old present
  have value := congrArg Coupon.discount_value equal
  have kind := congrArg Coupon.discount_type equal
  simp only [Coupon.offer] at value kind
  exact ⟨value ▸ checked.positive, fun percentage => value ▸ checked.capped (kind.trans percentage)⟩

theorem shop_sound {e : Event} (sound : ∀ c ∈ s.db.coupons.rows, c.Sound) (taken : shop settings lib s e = some s') :
    ∀ c ∈ s'.db.coupons.rows, c.Sound := by
  rcases shop_counts_coupons couponOffering couponOffers_of_coupons taken with page | ⟨_, same⟩
  · cases page with
    | created done => exact createCoupon_sound done sound
    | patched done => exact patchCoupon_sound done sound
    | deactivated done => exact deactivateCoupon_sound done sound
  · exact sound_of_offers same sound

theorem Run.coupons_sound {s₀ : Sys} {moves : List (Move Sys Event)} (run : (storefront settings lib).Run s₀ moves s)
    (sound : ∀ c ∈ s₀.db.coupons.rows, c.Sound) : ∀ c ∈ s.db.coupons.rows, c.Sound := by
  induction run with
  | start _ => exact sound
  | step _ taken ih => exact shop_sound ih taken

end Steps

end Storefront
