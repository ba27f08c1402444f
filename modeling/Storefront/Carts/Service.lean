import Storefront.Carts.Totals

set_option autoImplicit false

/-!
# CartService

Every operation is one transaction on the customer's single active cart, found
by the customer and the status: there is no cart id among the arguments.
-/

namespace Storefront

open Relational Transition

structure LoadedCart where
  cart : Cart
  items : List CartItem
  products : List Product
  coupons : List Coupon
  shippingAddress : Option Address
  billingAddress : Option Address
  paymentMethod : Option PaymentMethod
  totals : CartTotals

namespace Db

def cartProducts (db : Db) (tenant cart : Id) : List Product :=
  (db.cartLines tenant cart).filterMap fun i =>
    db.products.rows.find? fun p => p.tenant == tenant && p.id == i.product

def cartCoupons (db : Db) (tenant cart : Id) : List Coupon :=
  (db.appliedTo tenant cart).filterMap fun a =>
    db.coupons.rows.find? fun c => c.tenant == tenant && c.id == a.coupon

def address (db : Db) (tenant id : Id) : Option Address :=
  db.addresses.rows.find? fun a => a.tenant == tenant && a.id == id

def paymentMethod (db : Db) (tenant id : Id) : Option PaymentMethod :=
  db.paymentMethods.rows.find? fun m => m.tenant == tenant && m.id == id

def customer (db : Db) (tenant id : Id) : Option Customer :=
  db.customers.rows.find? fun c => c.tenant == tenant && c.id == id

def couponOfCode (db : Db) (tenant : Id) (code : String) : Option Coupon :=
  db.coupons.rows.find? fun c => c.tenant == tenant && c.code == code

def activeCart (db : Db) (tenant customer : Id) : Option Cart :=
  db.carts.rows.find? fun c => c.tenant == tenant && c.customer == customer && c.status == .active

def loadCart (db : Db) (tenant : Id) (cart : Cart) : LoadedCart :=
  let items := db.cartLines tenant cart.id
  let coupons := db.cartCoupons tenant cart.id
  { cart
    items
    products := db.cartProducts tenant cart.id
    coupons
    shippingAddress := cart.shipping_address.bind (db.address tenant)
    billingAddress := cart.billing_address.bind (db.address tenant)
    paymentMethod := cart.selected_payment_method.bind (db.paymentMethod tenant)
    totals := computeTotals items coupons cart.currency }

-- A cart instance saved by primary key, in columns no index reads.
def saveCart (db : Db) (tenant cart : Id) (f : Cart → Cart) (inert : Table.Inert f) : Db :=
  db.modifyCarts (fun c => c.tenant == tenant && c.id == cart) f inert

end Db

def lockActiveCart (tenant customer : Id) (db : Db) : Outcome Cart :=
  orRaise (.cartNotFound "No active cart for this customer") (db.activeCart tenant customer)

def bumpAndReturn (tenant cart : Id) (db : Db) : Outcome (LoadedCart × Db) := do
  let db := db.modifyCarts (fun c => c.tenant == tenant && c.id == cart) fun c =>
    { c with version := c.version + 1 }
  let row ← orRaise (.doesNotExist "Cart")
    (db.carts.rows.find? fun c => c.tenant == tenant && c.id == cart)
  return (db.loadCart tenant row, db)

def newCart (tenant customer id : Id) (now : Time) : Cart :=
  { id
    tenant
    customer
    status := .active
    currency := ""
    version := 0
    shipping_address := none
    billing_address := none
    selected_payment_method := none
    updated_at := now }

-- get_or_create(customer_id=..., status=ACTIVE)
def getOrCreateCart (tenant customer id : Id) (now : Time) (db : Db) : Outcome (Cart × Db) :=
  match db.activeCart tenant customer with
  | some cart => .ok (cart, db)
  | none => (db.insertCart (newCart tenant customer id now)).map (newCart tenant customer id now, ·)

def lockInCurrency (cart : Cart) (product : Product) (now : Time) (db : Db) : Outcome Db :=
  if cart.currency = "" then
    .ok (db.saveCart cart.tenant cart.id
      (fun c => { c with currency := product.currency, updated_at := now }) ⟨fun _ => rfl, fun _ => rfl⟩)
  else if cart.currency = product.currency then .ok db
  else .error (.currencyMismatch cart.currency product.currency)

def putItem (cart : Cart) (product : Product) (existing_item : Option CartItem) (quantity : Int) (id : Id)
    (db : Db) : Outcome Db :=
  match existing_item with
  | some item => db.updateCartItems (fun i => i.tenant == cart.tenant && i.id == item.id) fun i =>
      { i with quantity := i.quantity + quantity }
  | none => db.insertCartItem
      { id
        tenant := cart.tenant
        cart := cart.id
        product := product.id
        quantity
        unit_price_snapshot := product.price
        currency := product.currency }

namespace CartService

-- The uuid4 values go to the cart, if it is new, and to the line, if it is new.
def addItem (tenant customer product : Id) (quantity : Int) (now : Time) (draw : Nat → Id) (db : Db) :
    Outcome (LoadedCart × Db) := do
  let (cart, db) ← getOrCreateCart tenant customer (draw 0) now db
  let product ← orRaise (.productNotFound product)
    (db.products.rows.find? fun p => p.tenant == tenant && p.id == product && p.is_active)
  let db ← lockInCurrency cart product now db
  let existing_item := (db.cartLines tenant cart.id).find? fun i => i.product == product.id
  let new_total := (existing_item.map CartItem.quantity).getD 0 + quantity
  require (new_total ≤ product.availableQuantity)
    (.onlyAvailable product.id product.availableQuantity new_total)
  let db ← putItem cart product existing_item quantity (draw 1) db
  bumpAndReturn tenant cart.id db

def removeItem (tenant customer item : Id) (now : Time) (db : Db) : Outcome (LoadedCart × Db) := do
  let cart ← lockActiveCart tenant customer db
  require (∃ i ∈ db.cartLines tenant cart.id, i.id = item) (.cartNotFound "Cart item not found")
  let db := { db with
    cartItems := db.cartItems.delete fun i => i.tenant == tenant && i.cart == cart.id && i.id == item }
  let db := if db.cartLines tenant cart.id = [] then
      db.saveCart tenant cart.id (fun c => { c with currency := "", updated_at := now })
        ⟨fun _ => rfl, fun _ => rfl⟩
    else db
  bumpAndReturn tenant cart.id db

-- The item is read with its product, which the session must see too.
def updateItemQuantity (tenant customer item : Id) (quantity : Int) (db : Db) : Outcome (LoadedCart × Db) := do
  let cart ← lockActiveCart tenant customer db
  let item ← orRaise (.cartNotFound "Cart item not found")
    ((db.cartLines tenant cart.id).find? fun i => i.id == item)
  let product ← orRaise (.cartNotFound "Cart item not found")
    (db.products.rows.find? fun p => p.tenant == tenant && p.id == item.product)
  require (quantity ≤ product.availableQuantity)
    (.onlyAvailable item.product product.availableQuantity quantity)
  let db ← db.updateCartItems (fun i => i.tenant == tenant && i.id == item.id) fun i => { i with quantity }
  bumpAndReturn tenant cart.id db

def abandoned (now : Time) (c : Cart) : Cart :=
  { c with
    shipping_address := none
    billing_address := none
    selected_payment_method := none
    currency := ""
    status := .abandoned
    updated_at := now }

def clearCart (tenant customer : Id) (now : Time) (db : Db) : Outcome Db :=
  match db.activeCart tenant customer with
  | none => .ok db
  | some cart =>
    { db with
      cartItems := db.cartItems.delete fun i => i.tenant == tenant && i.cart == cart.id
      appliedCoupons := db.appliedCoupons.delete fun a => a.tenant == tenant && a.cart == cart.id
    }.updateCarts (fun c => c.tenant == tenant && c.id == cart.id) (abandoned now)

-- The related rows are fetched when `validate` is given them.
def validateFor (tenant : Id) (cart : Cart) (coupon : Coupon) (now : Time) (db : Db) : Outcome Unit := do
  let country ← match cart.shipping_address with
    | some id => (fun a => some a.country) <$> orRaise (.doesNotExist "Address") (db.address tenant id)
    | none => pure none
  let customer ← orRaise (.doesNotExist "Customer") (db.customer tenant cart.customer)
  coupon.validate now (computeSubtotal (db.cartLines tenant cart.id)) cart.currency country
    customer.customer_type

def applyCoupon (tenant customer : Id) (code : String) (now : Time) (id : Id) (db : Db) :
    Outcome (LoadedCart × Db) := do
  let cart ← lockActiveCart tenant customer db
  let coupon ← orRaise (.couponNotFound "Invalid coupon code") (db.couponOfCode tenant code)
  validateFor tenant cart coupon now db
  require (∀ a ∈ db.appliedTo tenant cart.id, a.coupon ≠ coupon.id)
    (.couponAlreadyApplied s!"Coupon {code} is already applied to this cart")
  let db ← db.insertAppliedCoupon { id, tenant, cart := cart.id, coupon := coupon.id }
  bumpAndReturn tenant cart.id db

def getCart (tenant customer : Id) (db : Db) : Outcome LoadedCart := do
  let cart ← orRaise (.cartNotFound "No active cart for this customer") (db.activeCart tenant customer)
  let _ ← orRaise (.cartNotFound "No active cart for this customer") (db.customer tenant cart.customer)
  return db.loadCart tenant cart

def removeCoupon (tenant customer : Id) (code : String) (db : Db) : Outcome (LoadedCart × Db) := do
  let cart ← lockActiveCart tenant customer db
  let coupon ← orRaise (.couponNotFound s!"Coupon {code} not found") (db.couponOfCode tenant code)
  if ∃ a ∈ db.appliedTo tenant cart.id, a.coupon = coupon.id then
    bumpAndReturn tenant cart.id { db with
      appliedCoupons := db.appliedCoupons.delete fun a =>
        a.tenant == tenant && a.cart == cart.id && a.coupon == coupon.id }
  else (·, db) <$> getCart tenant customer db

-- The texts of the amounts are left as numbers.
structure CouponPreview where
  code : String
  already_applied : Bool
  discount : ℚ
  projected_discount_total : ℚ
  projected_grand_total : ℚ
  currency : String

def previewCoupon (tenant customer : Id) (code : String) (now : Time) (db : Db) : Outcome CouponPreview := do
  let loaded ← getCart tenant customer db
  let coupon ← orRaise (.couponNotFound "Invalid coupon code") (db.couponOfCode tenant code)
  validateFor tenant loaded.cart coupon now db
  let subtotal := computeSubtotal loaded.items
  let already_applied := (db.appliedTo tenant loaded.cart.id).any fun a => a.coupon == coupon.id
  let marginal_discount := if already_applied then 0 else coupon.computeDiscount subtotal
  let projected_discount := min (loaded.totals.discount_total + marginal_discount) subtotal
  return {
    code := coupon.code
    already_applied
    discount := quantize marginal_discount
    projected_discount_total := projected_discount
    projected_grand_total := quantize (subtotal - projected_discount)
    currency := loaded.cart.currency }

def setSlot (tenant customer : Id) (check : Outcome Unit) (f : Cart → Cart) (inert : Table.Inert f) (db : Db) :
    Outcome (LoadedCart × Db) := do
  let cart ← lockActiveCart tenant customer db
  check
  bumpAndReturn tenant cart.id (db.saveCart tenant cart.id f inert)

def ownAddress (tenant customer address : Id) (db : Db) : Outcome Unit :=
  require (∃ a ∈ db.addresses.rows, a.tenant = tenant ∧ a.id = address ∧ a.customer = customer)
    (.addressNotFound address)

def ownPaymentMethod (tenant customer payment_method : Id) (db : Db) : Outcome Unit :=
  require (∃ m ∈ db.paymentMethods.rows, m.tenant = tenant ∧ m.id = payment_method ∧ m.customer = customer)
    (.paymentMethodNotFound payment_method)

def setShippingAddress (tenant customer address : Id) (now : Time) (db : Db) : Outcome (LoadedCart × Db) :=
  setSlot tenant customer (ownAddress tenant customer address db)
    (fun c => { c with shipping_address := some address, updated_at := now }) ⟨fun _ => rfl, fun _ => rfl⟩ db

def setBillingAddress (tenant customer address : Id) (now : Time) (db : Db) : Outcome (LoadedCart × Db) :=
  setSlot tenant customer (ownAddress tenant customer address db)
    (fun c => { c with billing_address := some address, updated_at := now }) ⟨fun _ => rfl, fun _ => rfl⟩ db

def setPaymentMethod (tenant customer payment_method : Id) (now : Time) (db : Db) :
    Outcome (LoadedCart × Db) :=
  setSlot tenant customer (ownPaymentMethod tenant customer payment_method db)
    (fun c => { c with selected_payment_method := some payment_method, updated_at := now })
    ⟨fun _ => rfl, fun _ => rfl⟩ db

end CartService

-- The requests of the cart views.
inductive CartRequest
  | addItem (product : Id) (quantity : Int)
  | removeItem (item : Id)
  | updateItemQuantity (item : Id) (quantity : Int)
  | clearCart
  | applyCoupon (code : String)
  | removeCoupon (code : String)
  | previewCoupon (code : String)
  | setShippingAddress (address : Id)
  | setBillingAddress (address : Id)
  | setPaymentMethod (payment_method : Id)
  | getCart

inductive CartAnswer
  | cart (loaded : LoadedCart)
  | preview (preview : CartService.CouponPreview)
  | nothing

def CartRequest.run (tenant customer : Id) (now : Time) (draw : Nat → Id) (db : Db) :
    CartRequest → Outcome (CartAnswer × Db)
  | .addItem product quantity =>
    Prod.map .cart id <$> CartService.addItem tenant customer product quantity now draw db
  | .removeItem item => Prod.map .cart id <$> CartService.removeItem tenant customer item now db
  | .updateItemQuantity item quantity =>
    Prod.map .cart id <$> CartService.updateItemQuantity tenant customer item quantity db
  | .clearCart => (.nothing, ·) <$> CartService.clearCart tenant customer now db
  | .applyCoupon code => Prod.map .cart id <$> CartService.applyCoupon tenant customer code now (draw 0) db
  | .removeCoupon code => Prod.map .cart id <$> CartService.removeCoupon tenant customer code db
  | .previewCoupon code => (.preview ·, db) <$> CartService.previewCoupon tenant customer code now db
  | .setShippingAddress address =>
    Prod.map .cart id <$> CartService.setShippingAddress tenant customer address now db
  | .setBillingAddress address =>
    Prod.map .cart id <$> CartService.setBillingAddress tenant customer address now db
  | .setPaymentMethod payment_method =>
    Prod.map .cart id <$> CartService.setPaymentMethod tenant customer payment_method now db
  | .getCart => (.cart ·, db) <$> CartService.getCart tenant customer db

-- abandon_stale_carts, over every tenant; `update` leaves updated_at alone.
def abandonStaleCarts (cutoff : Time) (db : Db) : Outcome Db :=
  db.updateCarts (fun c => c.status == .active && decide (c.updated_at < cutoff)) fun c =>
    { c with status := .abandoned }

end Storefront
