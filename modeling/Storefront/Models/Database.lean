import Storefront.Core.Exn
import Storefront.Models.Rows
import Storefront.Transition.Outcome

set_option autoImplicit false

namespace Storefront

open Relational Transition

structure Db where
  customers : Table Customer
  addresses : Table Address
  products : Table Product
  coupons : Table Coupon
  carts : Table Cart
  cartItems : Table CartItem
  appliedCoupons : Table AppliedCoupon
  gatewayConfigs : Table PaymentGatewayConfig
  paymentMethods : Table PaymentMethod
  orders : Table Order
  orderItems : Table OrderItem
  reservations : Table InventoryReservation
  payments : Table Payment
  webhookEvents : Table ProcessedWebhookEvent

abbrev Outcome (α : Type) := Except Exn α

-- A statement the indexes or checks of its table refuse raises IntegrityError.
def stored {τ : Type} (table : Option τ) (put : τ → Db) : Outcome Db :=
  match table with
  | some t => .ok (put t)
  | none => .error .integrityError

@[simp] theorem stored_eq_ok {τ : Type} {table : Option τ} {put : τ → Db} {db : Db} :
    stored table put = .ok db ↔ ∃ t, table = some t ∧ put t = db := by
  cases table <;> simp [stored]

theorem stored_eq_error {τ : Type} {table : Option τ} {put : τ → Db} {e : Exn}
    (refused : stored table put = .error e) : e = .integrityError := by
  cases table <;> simp_all [stored]

theorem stored_refused {τ : Type} {table : Option τ} {put : τ → Db} {e : Exn}
    (refused : stored table put = .error e) : table = none := by
  cases table with
  | none => rfl
  | some _ => cases refused

namespace Db

def insertProduct (db : Db) (row : Product) : Outcome Db :=
  stored (db.products.insert row) fun products => { db with products }

def updateProducts (db : Db) (p : Product → Bool) (f : Product → Product) : Outcome Db :=
  stored (db.products.update p f) fun products => { db with products }

def insertCart (db : Db) (row : Cart) : Outcome Db :=
  stored (db.carts.insert row) fun carts => { db with carts }

def updateCarts (db : Db) (p : Cart → Bool) (f : Cart → Cart) : Outcome Db :=
  stored (db.carts.update p f) fun carts => { db with carts }

def insertCartItem (db : Db) (row : CartItem) : Outcome Db :=
  stored (db.cartItems.insert row) fun cartItems => { db with cartItems }

def updateCartItems (db : Db) (p : CartItem → Bool) (f : CartItem → CartItem) : Outcome Db :=
  stored (db.cartItems.update p f) fun cartItems => { db with cartItems }

def insertAppliedCoupon (db : Db) (row : AppliedCoupon) : Outcome Db :=
  stored (db.appliedCoupons.insert row) fun appliedCoupons => { db with appliedCoupons }

def insertOrder (db : Db) (row : Order) : Outcome Db :=
  stored (db.orders.insert row) fun orders => { db with orders }

def insertOrderItem (db : Db) (row : OrderItem) : Outcome Db :=
  stored (db.orderItems.insert row) fun orderItems => { db with orderItems }

def insertReservation (db : Db) (row : InventoryReservation) : Outcome Db :=
  stored (db.reservations.insert row) fun reservations => { db with reservations }

def insertPayment (db : Db) (row : Payment) : Outcome Db :=
  stored (db.payments.insert row) fun payments => { db with payments }

def insertWebhookEvent (db : Db) (row : ProcessedWebhookEvent) : Outcome Db :=
  stored (db.webhookEvents.insert row) fun webhookEvents => { db with webhookEvents }

-- Updates of columns that no index and no check reads cannot be refused.
def modifyCoupons (db : Db) (p : Coupon → Bool) (f : Coupon → Coupon)
    (inert : Table.Inert f := by exact ⟨fun _ => rfl, fun _ => rfl⟩) : Db :=
  { db with coupons := db.coupons.modify p f inert }

def modifyCarts (db : Db) (p : Cart → Bool) (f : Cart → Cart)
    (inert : Table.Inert f := by exact ⟨fun _ => rfl, fun _ => rfl⟩) : Db :=
  { db with carts := db.carts.modify p f inert }

def modifyOrders (db : Db) (p : Order → Bool) (f : Order → Order)
    (inert : Table.Inert f := by exact ⟨fun _ => rfl, fun _ => rfl⟩) : Db :=
  { db with orders := db.orders.modify p f inert }

def modifyReservations (db : Db) (p : InventoryReservation → Bool)
    (f : InventoryReservation → InventoryReservation)
    (inert : Table.Inert f := by exact ⟨fun _ => rfl, fun _ => rfl⟩) : Db :=
  { db with reservations := db.reservations.modify p f inert }

def modifyPayments (db : Db) (p : Payment → Bool) (f : Payment → Payment)
    (inert : Table.Inert f := by exact ⟨fun _ => rfl, fun _ => rfl⟩) : Db :=
  { db with payments := db.payments.modify p f inert }

-- An instance saved by primary key.
def saveReservationStatus (db : Db) (id : Id) (status : ReservationStatus) : Db :=
  db.modifyReservations (fun r => r.id == id) fun r => { r with status }

def saveOrderStatus (db : Db) (id : Id) (status : OrderStatus) : Db :=
  db.modifyOrders (fun o => o.id == id) fun o => { o with status }

-- Row-level security: a session sees the rows of its tenant only.
def reservation (db : Db) (tenant id : Id) : Outcome InventoryReservation :=
  orRaise (.doesNotExist "InventoryReservation")
    (db.reservations.rows.find? fun r => r.tenant == tenant && r.id == id)

def order (db : Db) (tenant id : Id) : Outcome Order :=
  orRaise (.doesNotExist "Order") (db.orders.rows.find? fun o => o.tenant == tenant && o.id == id)

def payment (db : Db) (tenant id : Id) : Outcome Payment :=
  orRaise (.doesNotExist "Payment")
    (db.payments.rows.find? fun p => p.tenant == tenant && p.id == id)

end Db

-- A shop with one customer, one product, one filled cart and two gateways.
namespace Sample

def customer : Customer :=
  { id := 10, tenant := 1, customer_type := .b2c, tax_id := "" }

def address : Address :=
  { id := 20, tenant := 1, customer := 10, country := "SA", city := "Riyadh"
    street := "King Fahd Road", postal_code := "11564" }

def product : Product :=
  { id := 30, tenant := 1, sku := "MUG", name := "Mug", description := "", price := 10
    currency := "SAR", stock_quantity := 5, reserved_quantity := 0, is_active := true }

def mockConfig : PaymentGatewayConfig :=
  { id := 50, tenant := 1, gateway_name := "mock", is_active := true
    credentials := { public_key := none, secret_key := none, webhook_secret := none } }

def stripeConfig : PaymentGatewayConfig :=
  { id := 51, tenant := 1, gateway_name := "stripe", is_active := true
    credentials := { public_key := some "pk_test_1", secret_key := some "sk_test_1",
                     webhook_secret := some "whsec_1" } }

def card : PaymentMethod :=
  { id := 60, tenant := 1, customer := 10, method_type := .card, gateway_config := some 50
    token := "tok_mock_1", payment_terms := "" }

def purchaseOrder : PaymentMethod :=
  { id := 61, tenant := 1, customer := 10, method_type := .purchaseOrder, gateway_config := none
    token := "", payment_terms := "net_30" }

def cart : Cart :=
  { id := 40, tenant := 1, customer := 10, status := .active, currency := "SAR", version := 3
    shipping_address := some 20, billing_address := some 20, selected_payment_method := some 60
    updated_at := 0 }

def item : CartItem :=
  { id := 41, tenant := 1, cart := 40, product := 30, quantity := 2, unit_price_snapshot := 10
    currency := "SAR" }

def shop : Db where
  customers := ⟨[customer], by decide +kernel, by decide +kernel⟩
  addresses := ⟨[address], by decide +kernel, by decide +kernel⟩
  products := ⟨[product], by decide +kernel, by decide +kernel⟩
  coupons := ∅
  carts := ⟨[cart], by decide +kernel, by decide +kernel⟩
  cartItems := ⟨[item], by decide +kernel, by decide +kernel⟩
  appliedCoupons := ∅
  gatewayConfigs := ⟨[mockConfig, stripeConfig], by decide +kernel, by decide +kernel⟩
  paymentMethods := ⟨[card, purchaseOrder], by decide +kernel, by decide +kernel⟩
  orders := ∅
  orderItems := ∅
  reservations := ∅
  payments := ∅
  webhookEvents := ∅

end Sample

end Storefront
