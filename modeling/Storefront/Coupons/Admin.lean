import Storefront.Catalog.Products

set_option autoImplicit false

/-!
# Coupons in the admin
-/

namespace Storefront

open Relational Transition

-- validated_data of AdminCouponCreateSerializer; the code is stripped and upper-cased.
structure CouponCreate where
  code : String
  discount_type : DiscountType
  discount_value : ℚ
  currency : String := ""
  min_cart_subtotal : Option ℚ := none
  allowed_countries : List String := []
  customer_type_restriction : CustomerTypeRestriction
  max_uses : Option Int := none
  uses_count : Int := 0
  valid_from : Option Time := none
  valid_until : Option Time := none
  is_active : Bool := true

-- validated_data of AdminCouponUpdateSerializer; a field may be absent, or present and null.
structure CouponUpdate where
  discount_type : Option DiscountType := none
  discount_value : Option ℚ := none
  currency : Option String := none
  min_cart_subtotal : Option (Option ℚ) := none
  allowed_countries : Option (List String) := none
  customer_type_restriction : Option CustomerTypeRestriction := none
  max_uses : Option (Option Int) := none
  uses_count : Option Int := none
  valid_from : Option (Option Time) := none
  valid_until : Option (Option Time) := none
  is_active : Option Bool := none

def CouponUpdate.apply (data : CouponUpdate) (c : Coupon) : Coupon :=
  { c with
    discount_type := data.discount_type.getD c.discount_type
    discount_value := data.discount_value.getD c.discount_value
    currency := data.currency.getD c.currency
    min_cart_subtotal := data.min_cart_subtotal.getD c.min_cart_subtotal
    allowed_countries := data.allowed_countries.getD c.allowed_countries
    customer_type_restriction := data.customer_type_restriction.getD c.customer_type_restriction
    max_uses := data.max_uses.getD c.max_uses
    uses_count := data.uses_count.getD c.uses_count
    valid_from := data.valid_from.getD c.valid_from
    valid_until := data.valid_until.getD c.valid_until
    is_active := data.is_active.getD c.is_active }

def validateCurrency (currency : String) : Outcome Unit :=
  require (currency = "" ∨ isCurrencyCode currency = true) (.validationError "currency" currencyMessage)

-- min_value of the DecimalField
def validateDiscountValue (discount_value : ℚ) : Outcome Unit :=
  require (1 / 100 ≤ discount_value)
    (.validationError "discount_value" "Ensure this value is greater than or equal to 0.01.")

-- ISO 3166-1 alpha-2
def isCountryCode (text : String) : Bool :=
  text.toList.length == 2 && text.toList.all fun c => 'A' ≤ c && c ≤ 'Z'

def validateAllowedCountries (countries : List String) : Outcome Unit :=
  countries.zipIdx.forM fun entry => require (isCountryCode entry.1 = true)
    (.validationError "allowed_countries"
      s!"Item {entry.2} ('{entry.1}') is not a valid ISO 3166-1 alpha-2 code (two uppercase letters, e.g. SA, AE).")

def validateCrossFields (discount_type : DiscountType) (discount_value : ℚ) (currency : String) :
    Outcome Unit := do
  require (discount_type = .fixed → currency ≠ "")
    (.validationError "currency" "Currency is required for fixed-amount coupons.")
  require (discount_type = .percentage → discount_value ≤ 100)
    (.validationError "discount_value" "Percentage discount cannot exceed 100.")

-- AdminCouponListCreateView.post
def createCoupon (tenant id : Id) (data : CouponCreate) (db : Db) : Outcome Db := do
  require (∀ c ∈ db.coupons.rows, ¬ (c.tenant = tenant ∧ c.code = data.code))
    (.validationError "code" s!"Coupon code '{data.code}' already exists.")
  validateDiscountValue data.discount_value
  validateCurrency data.currency
  validateAllowedCountries data.allowed_countries
  validateCrossFields data.discount_type data.discount_value data.currency
  stored (db.coupons.insert
    { id
      tenant
      code := data.code
      discount_type := data.discount_type
      discount_value := data.discount_value
      currency := data.currency
      min_cart_subtotal := data.min_cart_subtotal
      allowed_countries := data.allowed_countries
      customer_type_restriction := data.customer_type_restriction
      max_uses := data.max_uses
      uses_count := data.uses_count
      valid_from := data.valid_from
      valid_until := data.valid_until
      is_active := data.is_active }) fun coupons => { db with coupons }

-- The cart statuses _ACTIVE_CART_STATUSES joins through the applied coupon.
def couponInUse (db : Db) (tenant coupon : Id) : Bool :=
  db.appliedCoupons.rows.any fun a => a.tenant == tenant && a.coupon == coupon &&
    db.carts.rows.any fun c => c.id == a.cart && (c.status == .active || c.status == .checkingOut)

-- AdminCouponDetailView.patch
def patchCoupon (tenant coupon : Id) (data : CouponUpdate) (now : Time) (db : Db) : Outcome Db := do
  let c ← orRaise (.couponNotFound "Coupon not found")
    (db.coupons.rows.find? fun c => c.tenant == tenant && c.id == coupon)
  let updated := data.apply c
  validateDiscountValue (data.discount_value.getD (1 / 100))
  validateCurrency (data.currency.getD "")
  validateAllowedCountries (data.allowed_countries.getD [])
  validateCrossFields updated.discount_type updated.discount_value updated.currency
  require (∀ new_max_uses ∈ updated.max_uses, c.uses_count ≤ new_max_uses)
    (.validationError "max_uses"
      s!"Cannot set max_uses ({updated.max_uses.getD 0}) below the current uses_count ({c.uses_count}).")
  require (∀ new_valid_until ∈ data.valid_until.join, now ≤ new_valid_until)
    (.validationError "valid_until"
      "Cannot set valid_until to a past timestamp. To stop new applications immediately, set is_active=false.")
  let field := if updated.currency = c.currency then "discount_type" else "currency"
  require (updated.currency = c.currency ∧ updated.discount_type = c.discount_type ∨
      couponInUse db tenant coupon = false)
    (.validationError field
      s!"Cannot change {field} while the coupon is applied to any active or in-flight cart.")
  return db.modifyCoupons (fun row => row.tenant == tenant && row.id == coupon) data.apply

-- AdminCouponDetailView.delete
def deactivateCoupon (tenant coupon : Id) (db : Db) : Outcome Db := do
  let _ ← orRaise (.couponNotFound "Coupon not found")
    (db.coupons.rows.find? fun c => c.tenant == tenant && c.id == coupon)
  return db.modifyCoupons (fun row => row.tenant == tenant && row.id == coupon) fun c =>
    { c with is_active := false }

/-! ## Accepted requests -/

section Frames

variable {tenant : Id} {db db' : Db}

theorem createCoupon_frame {id : Id} {data : CouponCreate} (done : createCoupon tenant id data db = .ok db') :
    db' = { db with coupons := db'.coupons } := by
  simp only [createCoupon, bind_eq_ok, stored_eq_ok] at done
  obtain ⟨_, _, _, _, _, _, _, _, _, _, _, _, rfl⟩ := done
  rfl

theorem patchCoupon_saves {coupon : Id} {data : CouponUpdate} {now : Time}
    (done : patchCoupon tenant coupon data now db = .ok db') :
    db.modifyCoupons (fun row => row.tenant == tenant && row.id == coupon) data.apply = db' := by
  simp only [patchCoupon, bind_eq_ok, pure_eq_ok] at done
  obtain ⟨_, _, _, _, _, _, _, _, _, _, _, _, _, _, _, _, saved⟩ := done
  exact saved

theorem deactivateCoupon_saves {coupon : Id} (done : deactivateCoupon tenant coupon db = .ok db') :
    db.modifyCoupons (fun row => row.tenant == tenant && row.id == coupon) (fun c => { c with is_active := false }) =
      db' := by
  simp only [deactivateCoupon, bind_eq_ok, pure_eq_ok] at done
  obtain ⟨_, _, saved⟩ := done
  exact saved

theorem patchCoupon_frame {coupon : Id} {data : CouponUpdate} {now : Time}
    (done : patchCoupon tenant coupon data now db = .ok db') : db' = { db with coupons := db'.coupons } := by
  rw [← patchCoupon_saves done]
  rfl

theorem deactivateCoupon_frame {coupon : Id} (done : deactivateCoupon tenant coupon db = .ok db') :
    db' = { db with coupons := db'.coupons } := by
  rw [← deactivateCoupon_saves done]
  rfl

end Frames

end Storefront
