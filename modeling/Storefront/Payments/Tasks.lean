import Storefront.Orders.Inventory
import Storefront.Payments.Service

set_option autoImplicit false

/-!
# Webhook ingestion and the reconciliation sweep
-/

namespace Storefront

open Relational Transition

-- The arguments of process_webhook_event, as the view enqueues them.
structure WebhookTask where
  tenant : Id
  payment : Id
  event_type : Json
  new_status : GatewayStatus
  raw_payload : Json
  gateway_name : String
  event_id : Json

def Json.isText (value : Json) (text : String) : Bool :=
  match value with
  | .str other => other == text
  | _ => false

def revertCartIfCheckingOut (order : Order) (db : Db) : Outcome Db :=
  match order.cart with
  | none => .ok db
  | some cart => db.updateCarts (fun c => c.id == cart && c.status == .checkingOut) fun c =>
      { c with status := .active }

def applyOrderPaid (tenant : Id) (order : Order) (db : Db) : Outcome Db :=
  if order.status = .pending then
    commitReservationsForOrder tenant order.id (db.saveOrderStatus order.id .paid)
  else .ok db

def applyOrderCancelled (tenant : Id) (order : Order) (db : Db) : Outcome Db := do
  if order.status = .pending then
    let db ← releaseReservationsForOrder tenant order.id (db.saveOrderStatus order.id .cancelled)
    revertCartIfCheckingOut order db
  else return db

def ledgerRow (lib : WebhookLibrary) (task : WebhookTask) : Outcome ProcessedWebhookEvent := do
  let event_id ← orRaise .integrityError (lib.text task.event_id)
  let event_type ← orRaise .integrityError (lib.text task.event_type)
  fits task.gateway_name 32
  fits event_id 255
  fits event_type 64
  return { gateway_name := task.gateway_name, event_id, event_type }

def applyToOrder (tenant : Id) (event_type : Json) (order : Order) (db : Db) : Outcome Db :=
  if event_type.isText "payment.captured" then applyOrderPaid tenant order db
  else if event_type.isText "payment.failed" || event_type.isText "payment.cancelled" then
    applyOrderCancelled tenant order db
  else if event_type.isText "payment.refunded" then .ok (db.saveOrderStatus order.id .refunded)
  else .ok db

def storeWebhookStatus (payment : Id) (task : WebhookTask) (now : Time) (db : Db) : Db :=
  db.modifyPayments (fun p => p.id == payment) fun p =>
    { p with
      status := mapGatewayStatus task.new_status
      gateway_response := task.raw_payload
      updated_at := now }

-- The transaction of process_webhook_event.
def applyWebhookEvent (lib : WebhookLibrary) (task : WebhookTask) (now : Time) (db : Db) :
    Outcome Db := do
  let row ← ledgerRow lib task
  let db ← db.insertWebhookEvent row
  let payment ← db.payment task.tenant task.payment
  let db := storeWebhookStatus payment.id task now db
  let order ← db.order task.tenant payment.order
  applyToOrder task.tenant task.event_type order db

-- A duplicate raises IntegrityError, which the task takes for "already done".
def processWebhookEvent (lib : WebhookLibrary) (task : WebhookTask) (now : Time) (db : Db) :
    Outcome Db :=
  match applyWebhookEvent lib task now db with
  | .error .integrityError => .ok db
  | result => result

inductive ReconcileOutcome
  | converged | cancelled | stillPending
  deriving DecidableEq, Repr

-- The ids a sweep scans: the first hundred stale ones, oldest first.
def reconcileCandidates (now : Time) (db : Db) : List Id :=
  (((db.payments.rows.filter fun p => p.status == .pending && decide (p.updated_at + minutes 10 < now))
    |>.insertionSort fun p q => p.updated_at ≤ q.updated_at).take 100).map Payment.id

def storeReconciled (payment : Id) (status : PaymentStatus) (note : String) (value : Json) (now : Time)
    (db : Db) : Db :=
  db.modifyPayments (fun p => p.id == payment) fun p =>
    { p with
      status
      gateway_response := (p.gateway_response.withField "reconciled" (.bool true)).withField note value
      updated_at := now }

-- The order is read with `all_objects`; the helpers run as the payment's tenant.
def orderUnscoped (db : Db) (order : Id) : Outcome Order :=
  orRaise (.doesNotExist "Order") (db.orders.rows.find? fun o => o.id == order)

def markOrderPaid (tenant order : Id) (db : Db) : Outcome Db := do
  let order ← orderUnscoped db order
  applyOrderPaid tenant order db

def markOrderCancelledAndRelease (tenant order : Id) (db : Db) : Outcome Db := do
  let order ← orderUnscoped db order
  applyOrderCancelled tenant order db

def reconcileKnownIntent (payment : Payment) (answer : Except Exn (Option PaymentIntent)) (now : Time)
    (db : Db) : Outcome (ReconcileOutcome × Db) := do
  let config ← gatewayConfigOf db payment.gateway_config
  let _ ← Adapter.get config.gateway_name
  match answer with
  | .error _ | .ok none => return (.stillPending, db)
  | .ok (some intent) =>
    if intent.status = .pending then return (.stillPending, db)
    let new_status := mapGatewayStatus intent.status
    let db := storeReconciled payment.id new_status "reconciled_intent" (rawResponse intent) now db
    if new_status = .captured then
      return (.converged, ← markOrderPaid payment.tenant payment.order db)
    if new_status = .failed ∨ new_status = .cancelled then
      return (.cancelled, ← markOrderCancelledAndRelease payment.tenant payment.order db)
    return (.converged, db)

def reconcileUnknownIntent (payment : Payment) (now : Time) (db : Db) :
    Outcome (ReconcileOutcome × Db) := do
  let db := storeReconciled payment.id .failed "reconcile_reason" (.str "no_gateway_transaction_id")
    now db
  return (.cancelled, ← markOrderCancelledAndRelease payment.tenant payment.order db)

def reconcileOne (payment : Id) (answer : Except Exn (Option PaymentIntent)) (now : Time) (db : Db) :
    Outcome (ReconcileOutcome × Db) :=
  match db.payments.rows.find? fun p => p.id == payment && p.status == .pending with
  | none => .ok (.stillPending, db)
  | some payment =>
    if payment.gateway_transaction_id = "" then reconcileUnknownIntent payment now db
    else reconcileKnownIntent payment answer now db

end Storefront
