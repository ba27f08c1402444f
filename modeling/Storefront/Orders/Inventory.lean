import Mathlib.Data.List.Sort
import Storefront.Carts.Totals
import Storefront.Ledger.Holds

set_option autoImplicit false

/-!
# Stock reservations

The helpers of the checkout, the loops of the payment tasks and the expiry sweep
write the same two updates for each reservation, under a different selection of
rows and a different pair of statuses.
-/

namespace Storefront

open Relational Transition

instance : Ledger.Phases ReservationStatus where
  held := (· == .active)
  taken := (· == .committed)
  rank
    | .active => 0
    | .committed => 1
    | .released => 2

abbrev Settlement := Ledger.Transfer ReservationStatus

namespace Settlement

def release : Settlement where
  expects := .active
  becomes := .released
  stock := 0
  reserved := -1
  forward := by decide
  reserved_eq := by decide
  stock_eq := by decide

def commit : Settlement where
  expects := .active
  becomes := .committed
  stock := -1
  reserved := -1
  forward := by decide
  reserved_eq := by decide
  stock_eq := by decide

def reverse : Settlement where
  expects := .committed
  becomes := .released
  stock := 1
  reserved := 0
  forward := by decide
  reserved_eq := by decide
  stock_eq := by decide

end Settlement

-- `objects` sees one tenant, `all_objects` every one.
abbrev Scope := Option Id

def Scope.sees : Scope → Id → Bool
  | none, _ => true
  | some tenant, row => row == tenant

def counted (t : Settlement) (quantity : Int) (p : Product) : Product :=
  { p with
    stock_quantity := p.stock_quantity + t.stock * quantity
    reserved_quantity := p.reserved_quantity + t.reserved * quantity }

-- The body every settlement loop shares.
def settle (t : Settlement) (scope : Scope) (db : Db) (res : InventoryReservation) : Outcome Db := do
  let db ← db.updateProducts (fun p => scope.sees p.tenant && p.id == res.product)
    (counted t res.quantity)
  return db.saveReservationStatus res.id t.becomes

-- Each instance is refreshed and skipped when its status moved on.
def settleReservation (t : Settlement) (tenant : Id) (db : Db) (id : Id) : Outcome Db := do
  let res ← db.reservation tenant id
  if res.status ≠ t.expects then return db
  settle t (some tenant) db res

def settleReservations (t : Settlement) (tenant : Id) (reservations : List Id) (db : Db) : Outcome Db :=
  reservations.foldlM (settleReservation t tenant) db

def releaseReservations := settleReservations .release
def commitReservations := settleReservations .commit
def reverseCommittedReservations := settleReservations .reverse

def reservationsOf (db : Db) (tenant order : Id) (status : ReservationStatus) :
    List InventoryReservation :=
  db.reservations.rows.filter fun r => r.tenant == tenant && r.order == some order && r.status == status

-- The payment tasks select the ACTIVE rows and do not look at them again.
def settleForOrder (t : Settlement) (tenant order : Id) (db : Db) : Outcome Db :=
  (reservationsOf db tenant order .active).foldlM (settle t (some tenant)) db

def commitReservationsForOrder := settleForOrder .commit
def releaseReservationsForOrder := settleForOrder .release

-- Postgres returns the rows of an unordered query in some order.
structure Scan where
  order : List InventoryReservation → List InventoryReservation
  perm : ∀ rows, (order rows).Perm rows

def Scan.plain : Scan := ⟨id, fun rows => .refl rows⟩

def expired (now : Time) (db : Db) : List InventoryReservation :=
  db.reservations.rows.filter fun r => r.status == .active && decide (r.expires_at < now)

def releaseExpiredOne (db : Db) (res : InventoryReservation) : Outcome Db := do
  let db ← settle .release none db res
  db.updateCarts (fun c => c.id == res.cart && c.status == .checkingOut) fun c =>
    { c with status := .active }

-- One transaction of the sweep.
def releaseExpiredBatch (scan : Scan) (now : Time) (db : Db) : Outcome Db :=
  ((scan.order (expired now db)).take 100).foldlM releaseExpiredOne db

-- A batch that raises leaves the earlier ones committed.
def releaseExpiredLoop (scan : Scan) (now : Time) : Nat → Db → Db × Except Exn Unit
  | 0, db => (db, .ok ())
  | fuel + 1, db =>
    if expired now db = [] then (db, .ok ())
    else match releaseExpiredBatch scan now db with
      | .ok db' => releaseExpiredLoop scan now fuel db'
      | .error e => (db, .error e)

def releaseExpiredReservations (scan : Scan) (now : Time) (db : Db) : Db × Except Exn Unit :=
  releaseExpiredLoop scan now ((expired now db).length + 1) db

def itemQuantity (view : CartView) (product : Id) : Int :=
  ((view.items.find? fun i => i.product == product).map CartItem.quantity).getD 0

def productsToReserve (tenant : Id) (view : CartView) (db : Db) : List Product :=
  (db.products.rows.filter fun p => p.tenant == tenant && (view.items.map CartItem.product).contains p.id)
    |>.insertionSort fun p q => p.id ≤ q.id

def insufficient (view : CartView) (products : List Product) : List (Id × Int × Int) :=
  (products.filter fun p => p.availableQuantity < itemQuantity view p.id).map fun p =>
    (p.id, p.availableQuantity, itemQuantity view p.id)

def newReservation (tenant : Id) (now : Time) (view : CartView) (product id : Id) :
    InventoryReservation :=
  { id
    tenant
    cart := view.cart.id
    order := none
    product
    quantity := itemQuantity view product
    expires_at := now + minutes 15
    status := .active }

def reserveOne (tenant : Id) (now : Time) (view : CartView) (draw : Nat → Id) (db : Db)
    (entry : Product × Nat) : Outcome Db := do
  let res := newReservation tenant now view entry.1.id (draw entry.2)
  let db ← db.insertReservation res
  db.updateProducts (fun p => p.tenant == tenant && p.id == entry.1.id) fun p =>
    { p with reserved_quantity := p.reserved_quantity + res.quantity }

def reserveStock (tenant : Id) (now : Time) (draw : Nat → Id) (view : CartView) (db : Db) :
    Outcome (List Id × Db) := do
  let products := productsToReserve tenant view db
  require (insufficient view products = []) (.insufficientStock (insufficient view products))
  let db ← products.zipIdx.foldlM (reserveOne tenant now view draw) db
  return (products.zipIdx.map fun entry => draw entry.2, db)

-- Payments a cancellation still closes.
def openPayment : PaymentStatus → Bool
  | .authorized | .pending | .invoicePending => true
  | _ => false

def cancelOrder (tenant customer order : Id) (db : Db) : Outcome Db := do
  let order ← orRaise (.resourceNotFound "Order not found")
    (db.orders.rows.find? fun o => o.tenant == tenant && o.customer == customer && o.id == order)
  if order.status = .cancelled then return db
  require (order.status = .pending)
    (.orderNotCancellable s!"Cannot cancel order in status '{order.status.value}'")
  let db ← releaseReservations tenant
    ((reservationsOf db tenant order.id .active).map InventoryReservation.id) db
  let db ← reverseCommittedReservations tenant
    ((reservationsOf db tenant order.id .committed).map InventoryReservation.id) db
  let db := db.modifyPayments
    (fun p => p.tenant == tenant && p.order == order.id && openPayment p.status) fun p =>
    { p with status := .cancelled }
  return db.saveOrderStatus order.id .cancelled

end Storefront
