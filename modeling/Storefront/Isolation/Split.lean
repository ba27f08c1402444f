import Storefront.Carts.Service
import Storefront.Orders.Checkout
import Storefront.Relational.Parts
import Storefront.Transition.Alike

set_option autoImplicit false

/-!
# One tenant's rows beside everybody else's

Webhook events belong to no tenant and to no part.
-/

namespace Storefront

open Relational Transition

namespace Db

def part (owner : Id → Bool) (db : Db) : Db where
  customers := db.customers.part fun r => owner r.tenant
  addresses := db.addresses.part fun r => owner r.tenant
  products := db.products.part fun r => owner r.tenant
  coupons := db.coupons.part fun r => owner r.tenant
  carts := db.carts.part fun r => owner r.tenant
  cartItems := db.cartItems.part fun r => owner r.tenant
  appliedCoupons := db.appliedCoupons.part fun r => owner r.tenant
  gatewayConfigs := db.gatewayConfigs.part fun r => owner r.tenant
  paymentMethods := db.paymentMethods.part fun r => owner r.tenant
  orders := db.orders.part fun r => owner r.tenant
  orderItems := db.orderItems.part fun r => owner r.tenant
  reservations := db.reservations.part fun r => owner r.tenant
  payments := db.payments.part fun r => owner r.tenant
  webhookEvents := ∅

def own (tenant : Id) (db : Db) : Db := db.part (· == tenant)

def others (tenant : Id) (db : Db) : Db := db.part (· != tenant)

section Reads

variable (db : Db) (tenant : Id)

@[simp] theorem own_cartLines (cart : Id) : (db.own tenant).cartLines tenant cart = db.cartLines tenant cart :=
  Table.filter_part fun _ => Bool.and_elim_left

@[simp] theorem own_appliedTo (cart : Id) : (db.own tenant).appliedTo tenant cart = db.appliedTo tenant cart :=
  Table.filter_part fun _ => Bool.and_elim_left

@[simp] theorem own_product (id : Id) :
    (db.own tenant).products.rows.find? (fun p => p.tenant == tenant && p.id == id) =
      db.products.rows.find? fun p => p.tenant == tenant && p.id == id :=
  Table.find_part fun _ => Bool.and_elim_left

@[simp] theorem own_coupon (id : Id) :
    (db.own tenant).coupons.rows.find? (fun c => c.tenant == tenant && c.id == id) =
      db.coupons.rows.find? fun c => c.tenant == tenant && c.id == id :=
  Table.find_part fun _ => Bool.and_elim_left

@[simp] theorem own_cart (id : Id) :
    (db.own tenant).carts.rows.find? (fun c => c.tenant == tenant && c.id == id) =
      db.carts.rows.find? fun c => c.tenant == tenant && c.id == id :=
  Table.find_part fun _ => Bool.and_elim_left

@[simp] theorem own_address (id : Id) : (db.own tenant).address tenant id = db.address tenant id :=
  Table.find_part fun _ => Bool.and_elim_left

@[simp] theorem own_paymentMethod (id : Id) : (db.own tenant).paymentMethod tenant id = db.paymentMethod tenant id :=
  Table.find_part fun _ => Bool.and_elim_left

@[simp] theorem own_customer (id : Id) : (db.own tenant).customer tenant id = db.customer tenant id :=
  Table.find_part fun _ => Bool.and_elim_left

@[simp] theorem own_couponOfCode (code : String) :
    (db.own tenant).couponOfCode tenant code = db.couponOfCode tenant code :=
  Table.find_part fun _ => Bool.and_elim_left

@[simp] theorem own_activeCart (customer : Id) :
    (db.own tenant).activeCart tenant customer = db.activeCart tenant customer :=
  Table.find_part fun _ picked => Bool.and_elim_left (Bool.and_elim_left picked)

@[simp] theorem own_cartProducts (cart : Id) :
    (db.own tenant).cartProducts tenant cart = db.cartProducts tenant cart := by
  simp only [cartProducts, own_cartLines, own_product]

@[simp] theorem own_cartCoupons (cart : Id) :
    (db.own tenant).cartCoupons tenant cart = db.cartCoupons tenant cart := by
  simp only [cartCoupons, own_appliedTo, own_coupon]

@[simp] theorem own_loadCart (cart : Cart) : (db.own tenant).loadCart tenant cart = db.loadCart tenant cart := by
  have address : (db.own tenant).address tenant = db.address tenant := funext (db.own_address tenant)
  have method : (db.own tenant).paymentMethod tenant = db.paymentMethod tenant := funext (db.own_paymentMethod tenant)
  simp only [loadCart, own_cartLines, own_cartProducts, own_cartCoupons, address, method]

@[simp] theorem own_cartView (cart : Cart) : (db.own tenant).cartView tenant cart = db.cartView tenant cart := by
  have customer := db.own_customer tenant cart.customer
  have address := db.own_address tenant
  have method := db.own_paymentMethod tenant
  simp only [Db.customer, Db.address, Db.paymentMethod] at customer address method
  simp only [cartView, customer, own_cartLines, own_appliedTo, own_product, own_coupon, address, method]

@[simp] theorem own_reservation (id : Id) : (db.own tenant).reservation tenant id = db.reservation tenant id :=
  congrArg _ (Table.find_part fun _ => Bool.and_elim_left)

@[simp] theorem own_order (id : Id) : (db.own tenant).order tenant id = db.order tenant id :=
  congrArg _ (Table.find_part fun _ => Bool.and_elim_left)

@[simp] theorem own_payment (id : Id) : (db.own tenant).payment tenant id = db.payment tenant id :=
  congrArg _ (Table.find_part fun _ => Bool.and_elim_left)

@[simp] theorem own_reservationsOf (order : Id) (status : ReservationStatus) :
    reservationsOf (db.own tenant) tenant order status = reservationsOf db tenant order status :=
  Table.filter_part fun _ picked => Bool.and_elim_left (Bool.and_elim_left picked)

@[simp] theorem own_productsToReserve (view : CartView) :
    productsToReserve tenant view (db.own tenant) = productsToReserve tenant view db :=
  congrArg (List.insertionSort _) (Table.filter_part fun _ => Bool.and_elim_left)

@[simp] theorem own_findExistingCheckout (req : Request) :
    findExistingCheckout req (db.own req.tenant) = findExistingCheckout req db := by
  have order : (db.own req.tenant).orders.rows.find?
        (fun o => o.tenant == req.tenant && o.idempotency_key == req.idempotency_key) =
      db.orders.rows.find? fun o => o.tenant == req.tenant && o.idempotency_key == req.idempotency_key :=
    Table.find_part fun _ => Bool.and_elim_left
  have payments (o : Order) :
      (db.own req.tenant).payments.rows.filter (fun p => p.tenant == req.tenant && p.order == o.id) =
        db.payments.rows.filter fun p => p.tenant == req.tenant && p.order == o.id :=
    Table.filter_part fun _ => Bool.and_elim_left
  simp only [findExistingCheckout, order, payments]

end Reads

end Db

end Storefront
