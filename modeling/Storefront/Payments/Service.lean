import Mathlib.Data.List.Sort
import Storefront.Models.Database
import Storefront.Payments.Gateways

set_option autoImplicit false

/-!
# PaymentService

No transaction is open across a gateway call, so each operation is the list of
its stages: the read, the call, which the gateway answers, and the write.
-/

namespace Storefront

open Relational Transition

structure Settings where
  payments_allow_mock_gateway : Bool

def resolveGatewayConfig (settings : Settings) (tenant : Id) (gateway_name : String) (db : Db) :
    Outcome PaymentGatewayConfig := do
  require (gateway_name = "mock" → settings.payments_allow_mock_gateway = true)
    (.gatewayNotConfigured s!"Gateway '{gateway_name}' is not available in this environment")
  orRaise (.gatewayNotConfigured s!"Gateway '{gateway_name}' is not configured for this tenant")
    (db.gatewayConfigs.rows.find? fun c =>
      c.tenant == tenant && c.gateway_name == gateway_name && c.is_active)

def gatewayConfigOf (db : Db) (config : Option Id) : Outcome PaymentGatewayConfig :=
  orRaise (.attributeError "'NoneType' object has no attribute 'gateway_name'")
    (config.bind db.gatewayConfigs.get)

-- authorize_payment up to the PENDING row.
def authorizeTarget (settings : Settings) (tenant payment_method : Id) (currency : String) (db : Db) :
    Outcome PaymentGatewayConfig := do
  let method ← orRaise (.doesNotExist "PaymentMethod")
    (db.paymentMethods.rows.find? fun m => m.tenant == tenant && m.id == payment_method)
  let saved ← gatewayConfigOf db method.gateway_config
  let config ← resolveGatewayConfig settings tenant saved.gateway_name db
  let gateway ← Adapter.get config.gateway_name
  require (gateway.supportsCurrency currency = true)
    (.gatewayUnsupportedCurrency gateway.name currency)
  return config

-- A value too long for its CharField.
def fits (text : String) (max_length : Nat) : Outcome Unit :=
  require (text.length ≤ max_length) .dataError

def newPayment (tenant id order : Id) (gateway_config : Option Id) (status : PaymentStatus)
    (amount : ℚ) (currency idempotency_key : String) (now : Time) : Payment :=
  { id
    tenant
    order
    gateway_config
    status
    amount
    currency
    gateway_transaction_id := ""
    idempotency_key
    gateway_response := .obj []
    created_at := now
    updated_at := now }

def createPayment (row : Payment) (db : Db) : Outcome Db := do
  fits row.idempotency_key 128
  db.insertPayment row

-- dict(intent.raw_response or {}), with the next action when there is one.
def gatewayResponse (intent : PaymentIntent) : Json :=
  let response := if intent.raw_response.truthy then intent.raw_response else .obj []
  match intent.next_action with
  | some action => if action.truthy then response.withField "next_action" action else response
  | none => response

def rawResponse (intent : PaymentIntent) : Json :=
  if intent.raw_response.truthy then intent.raw_response else .obj []

def recordPaymentResult (tenant payment : Id) (intent : PaymentIntent) (db : Db) : Outcome Db := do
  fits intent.gateway_transaction_id 255
  return db.modifyPayments (fun p => p.tenant == tenant && p.id == payment) fun p =>
    { p with
      gateway_transaction_id := intent.gateway_transaction_id
      status := mapGatewayStatus intent.status
      gateway_response := gatewayResponse intent }

def recordPaymentError (tenant payment : Id) (message : String) (db : Db) : Db :=
  db.modifyPayments (fun p => p.tenant == tenant && p.id == payment) fun p =>
    { p with gateway_response := p.gateway_response.withField "exception" (.str message) }

-- The in-memory row after authorize_payment.
def authorized (payment : Payment) (intent : PaymentIntent) : Payment :=
  { payment with
    gateway_transaction_id := intent.gateway_transaction_id
    status := mapGatewayStatus intent.status
    gateway_response := gatewayResponse intent }

def declined (intent : PaymentIntent) : Exn :=
  let text (key : String) : Option String := match intent.raw_response.field? key with
    | some (.str value) => some value
    | _ => none
  .paymentFailed ((text "failure_message").getD "Payment declined") (text "failure_code")

-- What capture_payment reads: nothing is left to do for a captured payment.
def captureRead (tenant payment : Id) (db : Db) : Outcome (Option Payment) := do
  let payment ← db.payment tenant payment
  if payment.status = .captured then return none
  require (payment.status = .authorized)
    (.paymentFailed s!"Cannot capture payment in status {payment.status.value}" none)
  let config ← gatewayConfigOf db payment.gateway_config
  let _ ← Adapter.get config.gateway_name
  return some payment

-- The WHERE clause guards against a webhook that came first.
def captureWrite (tenant payment : Id) (intent : PaymentIntent) (db : Db) : Db :=
  db.modifyPayments (fun p => p.tenant == tenant && p.id == payment && p.status == .authorized) fun p =>
    { p with
      status := mapGatewayStatus intent.status
      gateway_response := rawResponse intent }

def refundRead (tenant payment : Id) (db : Db) : Outcome Payment := do
  let payment ← db.payment tenant payment
  require (payment.status = .captured)
    (.paymentFailed s!"Cannot refund payment in status {payment.status.value}" none)
  require (payment.gateway_config.isSome = true)
    (.paymentFailed "Cannot refund a purchase-order payment via gateway" none)
  let config ← gatewayConfigOf db payment.gateway_config
  let _ ← Adapter.get config.gateway_name
  return payment

def refundWrite (tenant payment : Id) (intent : PaymentIntent) (db : Db) : Db :=
  db.modifyPayments (fun p => p.tenant == tenant && p.id == payment) fun p =>
    { p with
      status := mapGatewayStatus intent.status
      gateway_response := rawResponse intent }

def markInvoicePaid (tenant payment : Id) (reference : String) (now : Time) (db : Db) : Outcome Db := do
  let payment ← db.payment tenant payment
  if payment.status = .captured then return db
  require (payment.status = .invoicePending)
    (.paymentFailed s!"Cannot mark paid: payment is in status {payment.status.value}" none)
  return db.modifyPayments (fun p => p.id == payment.id) fun p =>
    { p with
      status := .captured
      gateway_response := p.gateway_response.withField "marked_paid_reference" (.str reference)
      updated_at := now }

-- order.payments.order_by("-created_at").first()
def latestPayment (payments : List Payment) : Option Payment :=
  (payments.insertionSort fun p q => q.created_at ≤ p.created_at).head?

-- AdminOrderMarkPaidView.post up to its transaction; `none` when already paid.
def markPaidRead (tenant order : Id) (db : Db) : Outcome (Option Id) := do
  let order ← orRaise (.resourceNotFound "Order not found")
    (db.orders.rows.find? fun o => o.tenant == tenant && o.id == order)
  if order.status = .paid then return none
  require (order.status = .pending)
    (.orderNotCancellable s!"Cannot mark paid: order is in status '{order.status.value}'")
  let payment ← orRaise
    (.orderNotCancellable "Order has no invoice-pending payment; not a PO order.")
    (latestPayment (db.payments.rows.filter fun p =>
      p.tenant == tenant && p.order == order.id && p.status == .invoicePending))
  return some payment.id

def markPaidWrite (tenant order payment : Id) (reference : String) (now : Time) (db : Db) :
    Outcome Db := do
  let db ← markInvoicePaid tenant payment reference now db
  let order ← db.order tenant order
  return if order.status = .paid then db else db.saveOrderStatus order.id .paid

end Storefront
