import Storefront.Orders.InvoiceTask
import Storefront.Relational.RowSecurity

set_option autoImplicit false

/-!
# The rows of the tenant-scoped tables

One type for the rows of every `TenantScopedModel`, and the tables on which the
last migration puts the policy `tenant_isolation`.
-/

namespace Storefront

open Relational

inductive Record
  | cart (row : Cart)
  | cartItem (row : CartItem)
  | appliedCoupon (row : AppliedCoupon)
  | product (row : Product)
  | customer (row : Customer) (is_active : Bool)
  | address (row : Address)
  | coupon (row : Coupon)
  | order (row : Order)
  | orderItem (row : OrderItem)
  | inventoryReservation (row : InventoryReservation)
  | invoice (row : Invoice)
  | paymentGatewayConfig (row : PaymentGatewayConfig)
  | paymentMethod (row : PaymentMethod)
  | payment (row : Payment)

def TENANT_TABLES : List String :=
  ["carts_cart", "carts_cartitem", "carts_appliedcoupon", "catalog_product", "customers_customer", "customers_address",
    "coupons_coupon", "orders_order", "orders_orderitem", "orders_inventoryreservation", "orders_invoice",
    "payments_paymentgatewayconfig", "payments_paymentmethod", "payments_payment"]

namespace Record

def db_table : Record → String
  | cart _ => "carts_cart"
  | cartItem _ => "carts_cartitem"
  | appliedCoupon _ => "carts_appliedcoupon"
  | product _ => "catalog_product"
  | customer _ _ => "customers_customer"
  | address _ => "customers_address"
  | coupon _ => "coupons_coupon"
  | order _ => "orders_order"
  | orderItem _ => "orders_orderitem"
  | inventoryReservation _ => "orders_inventoryreservation"
  | invoice _ => "orders_invoice"
  | paymentGatewayConfig _ => "payments_paymentgatewayconfig"
  | paymentMethod _ => "payments_paymentmethod"
  | payment _ => "payments_payment"

def id : Record → Id
  | cart row => row.id
  | cartItem row => row.id
  | appliedCoupon row => row.id
  | product row => row.id
  | customer row _ => row.id
  | address row => row.id
  | coupon row => row.id
  | order row => row.id
  | orderItem row => row.id
  | inventoryReservation row => row.id
  | invoice row => row.id
  | paymentGatewayConfig row => row.id
  | paymentMethod row => row.id
  | payment row => row.id

def tenant_id : Record → Id
  | cart row => row.tenant
  | cartItem row => row.tenant
  | appliedCoupon row => row.tenant
  | product row => row.tenant
  | customer row _ => row.tenant
  | address row => row.tenant
  | coupon row => row.tenant
  | order row => row.tenant
  | orderItem row => row.tenant
  | inventoryReservation row => row.tenant
  | invoice row => row.tenant
  | paymentGatewayConfig row => row.tenant
  | paymentMethod row => row.tenant
  | payment row => row.tenant

def indexes : Record → List IndexEntry
  | cart row => Schema.entries row
  | cartItem row => Schema.entries row
  | appliedCoupon row => Schema.entries row
  | product row => Schema.entries row
  | customer row _ => Schema.entries row
  | address row => Schema.entries row
  | coupon row => Schema.entries row
  | order row => Schema.entries row
  | orderItem row => Schema.entries row
  | inventoryReservation row => Schema.entries row
  | invoice row => Schema.entries row
  | paymentGatewayConfig row => Schema.entries row
  | paymentMethod row => Schema.entries row
  | payment row => Schema.entries row

def check : Record → Bool
  | cart row => Schema.check row
  | cartItem row => Schema.check row
  | appliedCoupon row => Schema.check row
  | product row => Schema.check row
  | customer row _ => Schema.check row
  | address row => Schema.check row
  | coupon row => Schema.check row
  | order row => Schema.check row
  | orderItem row => Schema.check row
  | inventoryReservation row => Schema.check row
  | invoice row => Schema.check row
  | paymentGatewayConfig row => Schema.check row
  | paymentMethod row => Schema.check row
  | payment row => Schema.check row

instance : Schema Record where
  Entry := String × IndexEntry
  decEntry := inferInstance
  entries r := r.indexes.map (r.db_table, ·)
  check := check

def same (r s : Record) : Bool := r.db_table == s.db_table && r.id == s.id

theorem primary_mem (r : Record) : (r.db_table, IndexEntry.primary r.id) ∈ Schema.entries r := by
  cases r <;> simp [Schema.entries, indexes, id, db_table]

theorem same_iff {r s : Record} : r.same s = true ↔ r.db_table = s.db_table ∧ r.id = s.id := by
  simp [same]

theorem eq_of_same {t : Table Record} {r s : Record} (left : r ∈ t.rows) (right : s ∈ t.rows) (same : r.same s = true) :
    r = s := by
  obtain ⟨table, key⟩ := same_iff.mp same
  refine t.eq_of_entry left right r.primary_mem ?_
  rw [table, key]
  exact s.primary_mem

theorem db_table_secured (r : Record) : r.db_table ∈ TENANT_TABLES := by
  cases r <;> simp [db_table, TENANT_TABLES]

end Record

end Storefront
