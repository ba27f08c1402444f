import Storefront.Core.Values
import Storefront.Models.Statuses
import Storefront.Relational.Table

set_option autoImplicit false

/-!
# Rows

One structure for each table the storefront writes, with the columns some
modelled function reads, and the unique indexes and CHECK constraints its
`Meta` declares. Every table but the webhook ledger is tenant-scoped.
-/

namespace Storefront

open Relational

structure Customer where
  id : Id
  tenant : Id
  email : String := ""
  customer_type : CustomerType
  tax_id : String
  company_name : String := ""
  deriving DecidableEq, Repr

def Customer.is_b2b (c : Customer) : Bool := c.customer_type == .b2b

structure Address where
  id : Id
  tenant : Id
  customer : Id
  country : String
  city : String
  street : String
  postal_code : String
  deriving DecidableEq, Repr

structure AddressSnapshot where
  country : String
  city : String
  street : String
  postal_code : String
  deriving DecidableEq, Repr

def Address.toSnapshot (a : Address) : AddressSnapshot :=
  ⟨a.country, a.city, a.street, a.postal_code⟩

structure Product where
  id : Id
  tenant : Id
  sku : String
  name : String
  description : String
  price : ℚ
  currency : String
  stock_quantity : Int
  reserved_quantity : Int
  is_active : Bool
  deriving DecidableEq, Repr

def Product.availableQuantity (p : Product) : Int := p.stock_quantity - p.reserved_quantity

structure Coupon where
  id : Id
  tenant : Id
  code : String
  discount_type : DiscountType
  discount_value : ℚ
  currency : String
  min_cart_subtotal : Option ℚ
  allowed_countries : List String
  customer_type_restriction : CustomerTypeRestriction
  max_uses : Option Int
  uses_count : Int
  valid_from : Option Time
  valid_until : Option Time
  is_active : Bool
  deriving DecidableEq, Repr

structure Cart where
  id : Id
  tenant : Id
  customer : Id
  status : CartStatus
  currency : String
  version : Int
  shipping_address : Option Id
  billing_address : Option Id
  selected_payment_method : Option Id
  updated_at : Time
  deriving DecidableEq, Repr

structure CartItem where
  id : Id
  tenant : Id
  cart : Id
  product : Id
  quantity : Int
  unit_price_snapshot : ℚ
  currency : String
  deriving DecidableEq, Repr

structure AppliedCoupon where
  id : Id
  tenant : Id
  cart : Id
  coupon : Id
  deriving DecidableEq, Repr

structure GatewayCredentials where
  public_key : Option String
  secret_key : Option String
  webhook_secret : Option String
  deriving DecidableEq, Repr

structure PaymentGatewayConfig where
  id : Id
  tenant : Id
  gateway_name : String
  credentials : GatewayCredentials
  is_active : Bool
  deriving DecidableEq, Repr

structure PaymentMethod where
  id : Id
  tenant : Id
  customer : Id
  method_type : PaymentMethodType
  gateway_config : Option Id
  token : String
  payment_terms : String
  deriving DecidableEq, Repr

structure Order where
  id : Id
  tenant : Id
  customer : Id
  cart : Option Id
  order_number : Nat
  status : OrderStatus
  subtotal : ℚ
  discount_total : ℚ
  grand_total : ℚ
  currency : String
  shipping_address : AddressSnapshot
  billing_address : AddressSnapshot
  is_b2b : Bool
  tax_id : String
  payment_terms : String
  -- Days since the epoch.
  payment_due_date : Option Nat
  idempotency_key : String
  deriving DecidableEq, Repr

structure OrderItem where
  id : Id
  tenant : Id
  order : Id
  product : Option Id
  product_sku_snapshot : String
  product_name_snapshot : String
  quantity : Int
  unit_price : ℚ
  line_total : ℚ
  currency : String
  deriving DecidableEq, Repr

structure InventoryReservation where
  id : Id
  tenant : Id
  cart : Id
  order : Option Id
  product : Id
  quantity : Int
  expires_at : Time
  status : ReservationStatus
  deriving DecidableEq, Repr

structure Payment where
  id : Id
  tenant : Id
  order : Id
  gateway_config : Option Id
  status : PaymentStatus
  amount : ℚ
  currency : String
  gateway_transaction_id : String
  idempotency_key : String
  gateway_response : Json
  created_at : Time
  updated_at : Time

structure ProcessedWebhookEvent where
  gateway_name : String
  event_id : String
  event_type : String
  deriving DecidableEq, Repr

inductive IndexEntry
  | primary (id : Id)
  | pair (left right : Id)
  | text (value : String)
  | scoped (scope : Id) (value : String)
  | owner (id : Id)
  | webhook (gateway event : String)
  deriving DecidableEq, Repr

-- Every table has its primary key, further unique indexes and a row check.
abbrev keyedBy {α : Type} (key : α → Id) (indexes : α → List IndexEntry) (check : α → Bool) :
    Keyed α where
  Entry := IndexEntry
  decEntry := inferInstance
  entries row := .primary (key row) :: indexes row
  check := check
  key := key
  primary := .primary
  primary_mem := by simp

-- uniq_customer_email_per_tenant
instance : Keyed Customer := keyedBy Customer.id (fun c => [.scoped c.tenant c.email]) fun _ => true

instance : Keyed Address := keyedBy Address.id (fun _ => []) fun _ => true

-- uniq_product_sku_per_tenant, stock_gte_reserved, price_non_negative; the price has two decimal places
instance : Keyed Product :=
  keyedBy Product.id (fun p => [.scoped p.tenant p.sku]) fun p =>
    decide (p.reserved_quantity ≤ p.stock_quantity) && (decide (0 ≤ p.price) && decide (InCents p.price))

theorem Product.check_iff {p : Product} :
    Schema.check p = true ↔ p.reserved_quantity ≤ p.stock_quantity ∧ 0 ≤ p.price ∧ InCents p.price := by
  simp [Schema.check]

-- uniq_coupon_code_per_tenant
instance : Keyed Coupon := keyedBy Coupon.id (fun c => [.scoped c.tenant c.code]) fun _ => true

-- one_active_cart_per_customer is partial: only active carts occupy it.
instance : Keyed Cart :=
  keyedBy Cart.id (fun c => if c.status = .active then [.owner c.customer] else []) fun _ => true

-- uniq_product_per_cart, cart_item_quantity_positive; the price has two decimal places
instance : Keyed CartItem :=
  keyedBy CartItem.id (fun i => [.pair i.cart i.product]) fun i =>
    decide (1 ≤ i.quantity) && decide (InCents i.unit_price_snapshot)

theorem CartItem.check_iff {i : CartItem} :
    Schema.check i = true ↔ 1 ≤ i.quantity ∧ InCents i.unit_price_snapshot := by
  simp [Schema.check]

-- uniq_coupon_per_cart
instance : Keyed AppliedCoupon :=
  keyedBy AppliedCoupon.id (fun a => [.pair a.cart a.coupon]) fun _ => true

-- uniq_gateway_per_tenant
instance : Keyed PaymentGatewayConfig :=
  keyedBy PaymentGatewayConfig.id (fun c => [.scoped c.tenant c.gateway_name]) fun _ => true

-- paymentmethod_gateway_matches_type
instance : Keyed PaymentMethod :=
  keyedBy PaymentMethod.id (fun _ => []) fun m => match m.method_type with
    | .card => m.gateway_config.isSome
    | .purchaseOrder => m.gateway_config.isNone

-- idempotency_key is unique across tenants; uniq_order_number_per_tenant
instance : Keyed Order :=
  keyedBy Order.id (fun o => [.text o.idempotency_key, .pair o.tenant o.order_number]) fun _ => true

instance : Keyed OrderItem := keyedBy OrderItem.id (fun _ => []) fun _ => true
instance : Keyed InventoryReservation := keyedBy InventoryReservation.id (fun _ => []) fun _ => true
instance : Keyed Payment := keyedBy Payment.id (fun p => [.text p.idempotency_key]) fun _ => true

-- uniq_webhook_event_per_gateway
instance : Schema ProcessedWebhookEvent where
  Entry := IndexEntry
  decEntry := inferInstance
  entries e := [.webhook e.gateway_name e.event_id]
  check _ := true

end Storefront
