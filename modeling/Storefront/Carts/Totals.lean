import Storefront.Core.Money
import Storefront.Coupons.Coupon
import Storefront.Models.Database

set_option autoImplicit false

namespace Storefront

open Relational

/-- A cart row with the related rows its query joins and prefetches. What the
table's constraints promise about the lines travels with them. -/
structure CartView where
  cart : Cart
  customer : Customer
  items : List CartItem
  products : List Product
  coupons : List Coupon
  shippingAddress : Option Address
  billingAddress : Option Address
  paymentMethod : Option PaymentMethod
  positive : ∀ item ∈ items, 1 ≤ item.quantity
  distinct : (items.map CartItem.product).Nodup

structure CartTotals where
  subtotal : ℚ
  discount_total : ℚ
  grand_total : ℚ
  currency : String
  deriving DecidableEq, Repr

namespace Db

def cartLines (db : Db) (tenant cart : Id) : List CartItem :=
  db.cartItems.rows.filter fun i => i.tenant == tenant && i.cart == cart

def appliedTo (db : Db) (tenant cart : Id) : List AppliedCoupon :=
  db.appliedCoupons.rows.filter fun a => a.tenant == tenant && a.cart == cart

theorem cartLines_positive (db : Db) (tenant cart : Id) :
    ∀ item ∈ db.cartLines tenant cart, 1 ≤ item.quantity := by
  intro item member
  exact (CartItem.check_iff.mp (db.cartItems.checked item (List.mem_of_mem_filter member))).1

theorem cartLines_cents (db : Db) (tenant cart : Id) :
    ∀ item ∈ db.cartLines tenant cart, InCents item.unit_price_snapshot := by
  intro item member
  exact (CartItem.check_iff.mp (db.cartItems.checked item (List.mem_of_mem_filter member))).2

theorem cartLines_distinct (db : Db) (tenant cart : Id) :
    ((db.cartLines tenant cart).map CartItem.product).Nodup := by
  refine List.Nodup.map_on ?_ (db.cartItems.nodup.filter _)
  intro i left j right same
  obtain ⟨presentI, scopeI⟩ := List.mem_filter.mp left
  obtain ⟨presentJ, scopeJ⟩ := List.mem_filter.mp right
  simp only [Bool.and_eq_true, beq_iff_eq] at scopeI scopeJ
  refine db.cartItems.eq_of_entry presentI presentJ (e := .pair i.cart i.product) ?_ ?_
  · simp [Schema.entries]
  · simp [Schema.entries, scopeI.2, scopeJ.2, same]

-- The customer join is an inner one: a cart without its customer is not found.
def cartView (db : Db) (tenant : Id) (cart : Cart) : Option CartView :=
  (db.customers.rows.find? fun c => c.tenant == tenant && c.id == cart.customer).map fun customer =>
    let items := db.cartLines tenant cart.id
    { cart
      customer
      items
      products := items.filterMap fun i =>
        db.products.rows.find? fun p => p.tenant == tenant && p.id == i.product
      coupons := (db.appliedTo tenant cart.id).filterMap fun a =>
        db.coupons.rows.find? fun c => c.tenant == tenant && c.id == a.coupon
      shippingAddress := cart.shipping_address.bind fun id =>
        db.addresses.rows.find? fun a => a.tenant == tenant && a.id == id
      billingAddress := cart.billing_address.bind fun id =>
        db.addresses.rows.find? fun a => a.tenant == tenant && a.id == id
      paymentMethod := cart.selected_payment_method.bind fun id =>
        db.paymentMethods.rows.find? fun m => m.tenant == tenant && m.id == id
      positive := db.cartLines_positive tenant cart.id
      distinct := db.cartLines_distinct tenant cart.id }

end Db

def computeSubtotal (items : List CartItem) : ℚ :=
  (items.map fun item => item.unit_price_snapshot * (item.quantity : ℚ)).sum

def computeTotals (items : List CartItem) (coupons : List Coupon) (currency : String) : CartTotals :=
  let subtotal := computeSubtotal items
  let discount := min (coupons.map fun c => c.computeDiscount subtotal).sum subtotal
  { subtotal := quantize subtotal
    discount_total := quantize discount
    grand_total := quantize (subtotal - discount)
    currency }

-- The sum of what the coupons take off, and no more than there is.
def computeDiscounts (items : List CartItem) (coupons : List Coupon) : ℚ :=
  min (coupons.map fun c => c.computeDiscount (computeSubtotal items)).sum (computeSubtotal items)

section Totals

variable {items : List CartItem}

theorem computeSubtotal_cents (cents : ∀ item ∈ items, InCents item.unit_price_snapshot) :
    InCents (computeSubtotal items) := by
  refine inCents_sum fun x listed => ?_
  obtain ⟨item, inside, rfl⟩ := List.mem_map.mp listed
  exact (cents item inside).mul_int item.quantity

theorem discounts_cents (coupons : List Coupon) (subtotal : ℚ) :
    InCents (coupons.map fun c => c.computeDiscount subtotal).sum := by
  refine inCents_sum fun x listed => ?_
  obtain ⟨coupon, _, rfl⟩ := List.mem_map.mp listed
  exact inCents_quantize _

theorem computeDiscounts_cents (coupons : List Coupon) (cents : ∀ item ∈ items, InCents item.unit_price_snapshot) :
    InCents (computeDiscounts items coupons) :=
  (discounts_cents coupons _).min (computeSubtotal_cents cents)

theorem computeTotals_eq (cents : ∀ item ∈ items, InCents item.unit_price_snapshot) (coupons : List Coupon)
    (currency : String) :
    computeTotals items coupons currency =
      { subtotal := computeSubtotal items
        discount_total := computeDiscounts items coupons
        grand_total := computeSubtotal items - computeDiscounts items coupons
        currency } := by
  have subtotal : InCents (computeSubtotal items) := computeSubtotal_cents cents
  have discount : InCents (computeDiscounts items coupons) := computeDiscounts_cents coupons cents
  have grand : InCents (computeSubtotal items - computeDiscounts items coupons) := subtotal.sub discount
  rw [InCents] at subtotal discount grand
  simp only [computeTotals, subtotal]
  rw [computeDiscounts] at discount grand ⊢
  rw [discount, grand]

end Totals

namespace CartView

def computeSubtotal (view : CartView) : ℚ := Storefront.computeSubtotal view.items

def computeTotals (view : CartView) : CartTotals :=
  Storefront.computeTotals view.items view.coupons view.cart.currency

def discount (view : CartView) : ℚ := computeDiscounts view.items view.coupons

theorem computeTotals_exact {view : CartView} (cents : ∀ item ∈ view.items, InCents item.unit_price_snapshot) :
    view.computeTotals.subtotal = view.computeSubtotal ∧ view.computeTotals.discount_total = view.discount ∧
      view.computeTotals.grand_total = view.computeSubtotal - view.discount := by
  rw [computeTotals, computeTotals_eq cents]
  exact ⟨rfl, rfl, rfl⟩

end CartView

end Storefront
