import Storefront.Orders.Inventory
import Storefront.Payments.Service

set_option autoImplicit false

/-!
# CheckoutService.checkout

Every phase commits on its own. The phases come first, each as one transaction,
then the saga that runs them and undoes the earlier ones.
-/

namespace Storefront

open Relational Transition

structure Request where
  tenant : Id
  customer : Id
  idempotency_key : String
  expected_version : Option Int
  deriving DecidableEq, Repr

structure CheckoutResult where
  order : Id
  payment_status : String
  next_action : Option Json

/-- What a block draws from outside: the clock, the uuid4 values and the sequence
number, the gateway's answer, and a database error that rolls the block back. -/
structure Oracle where
  now : Time
  draw : Nat → Id
  order_number : Nat
  answer : Except Exn PaymentIntent
  fault : Option String

def Oracle.guard {α : Type} (oracle : Oracle) (block : Outcome α) : Outcome α :=
  match oracle.fault with
  | some detail => .error (.other detail)
  | none => block

def nextActionOf (payment : Payment) : Option Json := payment.gateway_response.field? "next_action"

def findExistingCheckout (req : Request) (db : Db) : Option CheckoutResult :=
  (db.orders.rows.find? fun o => o.tenant == req.tenant && o.idempotency_key == req.idempotency_key).map
    fun order =>
      match latestPayment (db.payments.rows.filter fun p => p.tenant == req.tenant && p.order == order.id) with
      | none => { order := order.id, payment_status := "pending", next_action := none }
      | some payment =>
        { order := order.id
          payment_status := payment.status.value
          next_action := nextActionOf payment }

def lockAndValidateCart (req : Request) (db : Db) : Outcome CartView := do
  let view ← orRaise (.cartNotFound "No active cart for this customer")
    ((db.carts.rows.find? fun c =>
      c.tenant == req.tenant && c.customer == req.customer && c.status == .active).bind
        (db.cartView req.tenant))
  require (∀ expected ∈ req.expected_version, view.cart.version = expected)
    (.cartVersionConflict (req.expected_version.getD 0) view.cart.version)
  return view

-- Phase 1
def lockCart (req : Request) (now : Time) (db : Db) : Outcome (CartView × Db) := do
  let view ← lockAndValidateCart req db
  let db ← db.updateCarts (fun c => c.id == view.cart.id) fun c =>
    { c with status := .checkingOut, updated_at := now }
  return (view, db)

-- Phase 2
def validatePreconditions (now : Time) (view : CartView) : Outcome Unit := do
  require (view.items ≠ []) (.cartNotCheckoutReady "Cart is empty")
  require (view.cart.shipping_address.isSome = true) (.cartNotCheckoutReady "Shipping address required")
  require (view.cart.billing_address.isSome = true) (.cartNotCheckoutReady "Billing address required")
  require (view.cart.selected_payment_method.isSome = true)
    (.cartNotCheckoutReady "Payment method required")
  let totals := view.computeTotals
  view.coupons.forM fun coupon =>
    coupon.validate now totals.subtotal view.cart.currency (view.shippingAddress.map Address.country)
      view.customer.customer_type

-- Each applied coupon's limit is checked again under its row lock.
def useCoupon (tenant : Id) (db : Db) (applied : AppliedCoupon) : Outcome Db := do
  let locked ← orRaise (.doesNotExist "Coupon")
    (db.coupons.rows.find? fun c => c.tenant == tenant && c.id == applied.coupon)
  require (locked.exhausted = false)
    (.couponExhausted s!"Coupon {locked.code} reached its usage limit during checkout")
  return db.modifyCoupons (fun c => c.tenant == tenant && c.id == locked.id) fun c =>
    { c with uses_count := c.uses_count + 1 }

def newOrder (req : Request) (oracle : Oracle) (view : CartView) (shipping billing : AddressSnapshot) :
    Order :=
  let totals := view.computeTotals
  { id := oracle.draw 0
    tenant := req.tenant
    customer := view.customer.id
    cart := none
    order_number := oracle.order_number
    status := .pending
    subtotal := totals.subtotal
    discount_total := totals.discount_total
    grand_total := totals.grand_total
    currency := view.cart.currency
    shipping_address := shipping
    billing_address := billing
    is_b2b := view.customer.is_b2b
    tax_id := if view.customer.is_b2b then view.customer.tax_id else ""
    payment_terms := ""
    payment_due_date := none
    idempotency_key := req.idempotency_key }

def newOrderItem (order : Order) (cartTenant id : Id) (item : CartItem) (product : Product) : OrderItem :=
  { id
    tenant := cartTenant
    order := order.id
    product := some product.id
    product_sku_snapshot := product.sku
    product_name_snapshot := product.name
    quantity := item.quantity
    unit_price := item.unit_price_snapshot
    line_total := item.unit_price_snapshot * (item.quantity : ℚ)
    currency := item.currency }

def createOrderItem (oracle : Oracle) (view : CartView) (order : Order) (db : Db)
    (entry : CartItem × Nat) : Outcome Db := do
  let product ← orRaise (.doesNotExist "Product")
    (view.products.find? fun p => p.id == entry.1.product)
  db.insertOrderItem (newOrderItem order view.cart.tenant (oracle.draw (entry.2 + 1)) entry.1 product)

def snapshotOf (address : Option Address) : Outcome AddressSnapshot :=
  orRaise (.attributeError "'NoneType' object has no attribute 'to_snapshot'")
    (address.map Address.toSnapshot)

-- Phase 4
def createOrder (req : Request) (oracle : Oracle) (view : CartView) (db : Db) : Outcome (Order × Db) := do
  let db ← (db.appliedTo req.tenant view.cart.id).foldlM (useCoupon req.tenant) db
  let shipping ← snapshotOf view.shippingAddress
  let billing ← snapshotOf view.billingAddress
  let order := newOrder req oracle view shipping billing
  fits order.idempotency_key 128
  let db ← db.insertOrder order
  let db ← view.items.zipIdx.foldlM (createOrderItem oracle view order) db
  return (order, db)

/-- The locals of a checkout once it has its order. -/
structure Placed where
  view : CartView
  reservations : List Id
  order : Order

def invoicePayment (req : Request) (oracle : Oracle) (placed : Placed) : Payment :=
  newPayment req.tenant (oracle.draw 0) placed.order.id none .invoicePending placed.order.grand_total
    placed.order.currency (req.idempotency_key ++ ":po") oracle.now

def cardPayment (req : Request) (oracle : Oracle) (placed : Placed) (config : PaymentGatewayConfig) :
    Payment :=
  newPayment req.tenant (oracle.draw 0) placed.order.id (some config.id) .pending
    placed.order.grand_total placed.order.currency (req.idempotency_key ++ ":auth") oracle.now

def poTermsToDays : List (String × Nat) :=
  [("net_15", 15), ("net_30", 30), ("net_60", 60), ("net_90", 90)]

def convertCart (tenant cart : Id) (now : Time) (db : Db) : Outcome Db := do
  let cart ← orRaise (.doesNotExist "Cart")
    (db.carts.rows.find? fun c => c.tenant == tenant && c.id == cart)
  db.updateCarts (fun c => c.id == cart.id) fun c => { c with status := .converted, updated_at := now }

def linkReservations (reservations : List Id) (order : Id) (db : Db) : Db :=
  db.modifyReservations (fun r => reservations.contains r.id) fun r => { r with order := some order }

-- The last transaction of a purchase order: the stock leaves before the money comes.
def convertInvoiced (req : Request) (now : Time) (placed : Placed) (db : Db) : Outcome Db := do
  let order ← db.order req.tenant placed.order.id
  let written := (placed.view.paymentMethod.map PaymentMethod.payment_terms).getD ""
  let terms := if written = "" then "net_30" else written
  let due_days := ((poTermsToDays.find? (·.1 == terms)).map Prod.snd).getD 30
  let db := db.modifyOrders (fun o => o.id == order.id) fun o =>
    { o with
      payment_terms := terms
      payment_due_date := some ((now + days due_days) / days 1)
      cart := some placed.view.cart.id }
  let db ← convertCart req.tenant placed.view.cart.id now db
  commitReservations req.tenant placed.reservations
    (linkReservations placed.reservations placed.order.id db)

-- Phase 6
def commitCart (req : Request) (now : Time) (placed : Placed) (db : Db) : Outcome Db := do
  let db ← convertCart req.tenant placed.view.cart.id now db
  let db := db.modifyOrders (fun o => o.id == placed.order.id) fun o =>
    { o with cart := some placed.view.cart.id }
  return linkReservations placed.reservations placed.order.id db

def Placed.linked (placed : Placed) : Placed :=
  { placed with order := { placed.order with cart := some placed.view.cart.id } }

-- The transaction of phase 7
def markCaptured (req : Request) (placed : Placed) (db : Db) : Outcome Db := do
  let order ← db.order req.tenant placed.order.id
  commitReservations req.tenant placed.reservations (db.saveOrderStatus order.id .paid)

def cancelOwnOrder (tenant order : Id) (db : Db) : Outcome Db := do
  let order ← db.order tenant order
  return if order.status = .pending ∨ order.status = .paid then db.saveOrderStatus order.id .cancelled
    else db

def revertCartToActive (tenant cart : Id) (db : Db) : Outcome Db :=
  db.updateCarts (fun c => c.tenant == tenant && c.id == cart && c.status == .checkingOut) fun c =>
    { c with status := .active }

-- The compensating actions, in the words of the except clauses.
inductive Undo
  | cancelOrder | releaseReservations | revertCart
  deriving DecidableEq, Repr

/-- The locals an except clause still knows. -/
structure Frame where
  reservations : List Id := []
  order : Option Order := none
  payment : Option Payment := none

def Undo.run (req : Request) (cart : Id) (frame : Frame) (db : Db) : Undo → Outcome Db
  | .cancelOrder => match frame.order with
    | some order => cancelOwnOrder req.tenant order.id db
    | none => .ok db
  | .releaseReservations => Storefront.releaseReservations req.tenant frame.reservations db
  | .revertCart => revertCartToActive req.tenant cart db

def undoReserved : List Undo := [.releaseReservations, .revertCart]
def undoOrdered : List Undo := [.cancelOrder, .releaseReservations, .revertCart]

def isPurchaseOrder (method : PaymentMethod) : Bool := method.method_type == .purchaseOrder

def gatewayError (e : Exn) : Exn := .paymentFailed s!"Gateway error: {e.str}" none

def pendingResult (placed : Placed) (payment : Payment) : CheckoutResult :=
  { order := placed.order.id, payment_status := "pending", next_action := nextActionOf payment }

def Placed.result (placed : Placed) (payment_status : String) : CheckoutResult :=
  { order := placed.order.id, payment_status, next_action := none }

def unexpectedStatus (payment : Payment) : Exn :=
  .paymentFailed s!"Unexpected payment status: {payment.status.value}" none

end Storefront
