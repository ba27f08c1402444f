import Storefront.Core.Exn
import Storefront.Models.Rows
import Storefront.Transition.Outcome

set_option autoImplicit false

namespace Storefront

open Transition

namespace Coupon

def validate (coupon : Coupon) (now : Time) (cartSubtotal : ℚ) (cartCurrency : String)
    (shippingCountry : Option String) (customerType : CustomerType) : Except Exn Unit := do
  require (coupon.is_active = true) (.couponInvalid "Coupon is not active")
  require (∀ start ∈ coupon.valid_from, start ≤ now) (.couponInvalid "Coupon is not yet valid")
  match coupon.valid_until with
  | some validUntil => require (now ≤ validUntil) (.couponExpired validUntil)
  | none => pure ()
  require (∀ cap ∈ coupon.max_uses, coupon.uses_count < cap)
    (.couponExhausted "This coupon has reached its usage limit")
  require (coupon.discount_type = .fixed → coupon.currency = cartCurrency)
    (.couponInvalid
      s!"Coupon currency {coupon.currency} does not match cart currency {cartCurrency}")
  match coupon.min_cart_subtotal with
  | some required => require (required ≤ cartSubtotal) (.couponMinNotMet required cartSubtotal)
  | none => pure ()
  require (coupon.allowed_countries = [] ∨
      ∃ country ∈ shippingCountry, country ≠ "" ∧
        country.toUpper ∈ coupon.allowed_countries.map String.toUpper)
    (.couponCountryRestricted "This coupon is not valid for the shipping country")
  require (coupon.customer_type_restriction.admits customerType = true)
    (.couponInvalid
      s!"This coupon requires customer type {coupon.customer_type_restriction.value}")

def computeDiscount (coupon : Coupon) (subtotal : ℚ) : ℚ :=
  let raw := match coupon.discount_type with
    | .percentage => subtotal * coupon.discount_value / 100
    | .fixed => coupon.discount_value
  quantize (min raw subtotal)

-- The limit re-checked under the row lock of the order transaction.
def exhausted (coupon : Coupon) : Bool :=
  match coupon.max_uses with
  | some cap => decide (cap ≤ coupon.uses_count)
  | none => false

end Coupon

end Storefront
