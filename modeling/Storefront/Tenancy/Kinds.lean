import Storefront.Relational.Components
import Storefront.Tenancy.Records

set_option autoImplicit false

/-!
# The database that the rows make up
-/

namespace Storefront

open Relational

namespace Record

def cart? : Record → Option Cart
  | cart row => some row
  | _ => none

def cartItem? : Record → Option CartItem
  | cartItem row => some row
  | _ => none

def appliedCoupon? : Record → Option AppliedCoupon
  | appliedCoupon row => some row
  | _ => none

def product? : Record → Option Product
  | product row => some row
  | _ => none

def customer? : Record → Option Customer
  | customer row _ => some row
  | _ => none

def address? : Record → Option Address
  | address row => some row
  | _ => none

def coupon? : Record → Option Coupon
  | coupon row => some row
  | _ => none

def order? : Record → Option Order
  | order row => some row
  | _ => none

def orderItem? : Record → Option OrderItem
  | orderItem row => some row
  | _ => none

def inventoryReservation? : Record → Option InventoryReservation
  | inventoryReservation row => some row
  | _ => none

def paymentGatewayConfig? : Record → Option PaymentGatewayConfig
  | paymentGatewayConfig row => some row
  | _ => none

def paymentMethod? : Record → Option PaymentMethod
  | paymentMethod row => some row
  | _ => none

def payment? : Record → Option Payment
  | payment row => some row
  | _ => none

def kind {α : Type} [Schema α] (db_table : String) (row? : Record → Option α) (index : Schema.Entry α → IndexEntry)
    (injective : Function.Injective index)
    (stored : ∀ r a, row? r = some a →
      r.db_table = db_table ∧ r.indexes = (Schema.entries a).map index ∧ Schema.check r = Schema.check a)
    (other : ∀ r, row? r = none → r.db_table ≠ db_table) : Component Record α where
  row?
  into e := (db_table, index e)
  injective _ _ same := injective (Prod.ext_iff.mp same).2
  entries_eq r a found := by
    obtain ⟨rfl, indexes, _⟩ := stored r a found
    simp [Schema.entries, indexes]
  check_eq r a found := (stored r a found).2.2
  apart r missing e inside := by
    obtain ⟨_, _, same⟩ := List.mem_map.mp inside
    exact other r missing (Prod.ext_iff.mp same).1

def carts : Component Record Cart :=
  kind "carts_cart" cart? (fun e => e) (fun _ _ same => same)
    (by intro r a found; cases r <;> cases found; exact ⟨rfl, (List.map_id _).symm, rfl⟩)
    (by intro r missing; cases r <;> simp [cart?] at missing <;> simp [db_table])

def cartItems : Component Record CartItem :=
  kind "carts_cartitem" cartItem? (fun e => e) (fun _ _ same => same)
    (by intro r a found; cases r <;> cases found; exact ⟨rfl, (List.map_id _).symm, rfl⟩)
    (by intro r missing; cases r <;> simp [cartItem?] at missing <;> simp [db_table])

def appliedCoupons : Component Record AppliedCoupon :=
  kind "carts_appliedcoupon" appliedCoupon? (fun e => e) (fun _ _ same => same)
    (by intro r a found; cases r <;> cases found; exact ⟨rfl, (List.map_id _).symm, rfl⟩)
    (by intro r missing; cases r <;> simp [appliedCoupon?] at missing <;> simp [db_table])

def products : Component Record Product :=
  kind "catalog_product" product? (fun e => e) (fun _ _ same => same)
    (by intro r a found; cases r <;> cases found; exact ⟨rfl, (List.map_id _).symm, rfl⟩)
    (by intro r missing; cases r <;> simp [product?] at missing <;> simp [db_table])

def customers : Component Record Customer :=
  kind "customers_customer" customer? (fun e => e) (fun _ _ same => same)
    (by intro r a found; cases r <;> cases found; exact ⟨rfl, (List.map_id _).symm, rfl⟩)
    (by intro r missing; cases r <;> simp [customer?] at missing <;> simp [db_table])

def addresses : Component Record Address :=
  kind "customers_address" address? (fun e => e) (fun _ _ same => same)
    (by intro r a found; cases r <;> cases found; exact ⟨rfl, (List.map_id _).symm, rfl⟩)
    (by intro r missing; cases r <;> simp [address?] at missing <;> simp [db_table])

def coupons : Component Record Coupon :=
  kind "coupons_coupon" coupon? (fun e => e) (fun _ _ same => same)
    (by intro r a found; cases r <;> cases found; exact ⟨rfl, (List.map_id _).symm, rfl⟩)
    (by intro r missing; cases r <;> simp [coupon?] at missing <;> simp [db_table])

def orders : Component Record Order :=
  kind "orders_order" order? (fun e => e) (fun _ _ same => same)
    (by intro r a found; cases r <;> cases found; exact ⟨rfl, (List.map_id _).symm, rfl⟩)
    (by intro r missing; cases r <;> simp [order?] at missing <;> simp [db_table])

def orderItems : Component Record OrderItem :=
  kind "orders_orderitem" orderItem? (fun e => e) (fun _ _ same => same)
    (by intro r a found; cases r <;> cases found; exact ⟨rfl, (List.map_id _).symm, rfl⟩)
    (by intro r missing; cases r <;> simp [orderItem?] at missing <;> simp [db_table])

def reservations : Component Record InventoryReservation :=
  kind "orders_inventoryreservation" inventoryReservation? (fun e => e) (fun _ _ same => same)
    (by intro r a found; cases r <;> cases found; exact ⟨rfl, (List.map_id _).symm, rfl⟩)
    (by intro r missing; cases r <;> simp [inventoryReservation?] at missing <;> simp [db_table])

def gatewayConfigs : Component Record PaymentGatewayConfig :=
  kind "payments_paymentgatewayconfig" paymentGatewayConfig? (fun e => e) (fun _ _ same => same)
    (by intro r a found; cases r <;> cases found; exact ⟨rfl, (List.map_id _).symm, rfl⟩)
    (by intro r missing; cases r <;> simp [paymentGatewayConfig?] at missing <;> simp [db_table])

def paymentMethods : Component Record PaymentMethod :=
  kind "payments_paymentmethod" paymentMethod? (fun e => e) (fun _ _ same => same)
    (by intro r a found; cases r <;> cases found; exact ⟨rfl, (List.map_id _).symm, rfl⟩)
    (by intro r missing; cases r <;> simp [paymentMethod?] at missing <;> simp [db_table])

def payments : Component Record Payment :=
  kind "payments_payment" payment? (fun e => e) (fun _ _ same => same)
    (by intro r a found; cases r <;> cases found; exact ⟨rfl, (List.map_id _).symm, rfl⟩)
    (by intro r missing; cases r <;> simp [payment?] at missing <;> simp [db_table])

end Record

-- The webhook ledger is not tenant-scoped.
def Db.ofRecords (webhookEvents : Table ProcessedWebhookEvent) (t : Table Record) : Db where
  customers := Record.customers.table t
  addresses := Record.addresses.table t
  products := Record.products.table t
  coupons := Record.coupons.table t
  carts := Record.carts.table t
  cartItems := Record.cartItems.table t
  appliedCoupons := Record.appliedCoupons.table t
  gatewayConfigs := Record.gatewayConfigs.table t
  paymentMethods := Record.paymentMethods.table t
  orders := Record.orders.table t
  orderItems := Record.orderItems.table t
  reservations := Record.reservations.table t
  payments := Record.payments.table t
  webhookEvents

end Storefront
