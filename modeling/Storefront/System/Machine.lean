import Storefront.Catalog.Products
import Storefront.Orders.Saga
import Storefront.Payments.Webhook
import Storefront.Transition.Machine

set_option autoImplicit false

/-!
# The running system

Any number of checkouts, webhook deliveries, sweeps and admin requests over one
database. Each transaction and each gateway call is one step, and every request
may stop between two of its steps for good.
-/

namespace Storefront

open Relational Transition

structure Call where
  req : Request
  pc : Pc

-- A mark-paid request between its reads and its transaction.
structure MarkPaid where
  tenant : Id
  order : Id
  payment : Id
  reference : String

inductive RefundStage
  | call
  | write (intent : PaymentIntent)
  | ended

structure Refund where
  row : Payment
  amount : Option String
  stage : RefundStage

structure Sys where
  db : Db
  now : Time
  calls : Nat → Option Call
  queue : List WebhookTask
  candidates : List Id
  marks : List MarkPaid
  refunds : List Refund
  gatewayLog : List GatewayCall

-- What checkouts read and do not own: the storefront and the admin edit it at any time.
structure ShopTables where
  customers : Table Customer
  addresses : Table Address
  coupons : Table Coupon
  carts : Table Cart
  cartItems : Table CartItem
  appliedCoupons : Table AppliedCoupon
  gatewayConfigs : Table PaymentGatewayConfig
  paymentMethods : Table PaymentMethod

def Db.withShop (db : Db) (shop : ShopTables) : Db :=
  { db with
    customers := shop.customers
    addresses := shop.addresses
    coupons := shop.coupons
    carts := shop.carts
    cartItems := shop.cartItems
    appliedCoupons := shop.appliedCoupons
    gatewayConfigs := shop.gatewayConfigs
    paymentMethods := shop.paymentMethods }

inductive Label
  | tick (seconds : Nat)
  | shop (tables : ShopTables)
  | createProduct (tenant id : Id) (data : ProductCreate)
  | patchProduct (tenant product : Id) (data : ProductUpdate)
  | deactivateProduct (tenant product : Id)
  | begin (call : Nat) (req : Request)
  | advance (call : Nat) (oracle : Oracle)
  | cancelOrder (tenant customer order : Id)
  | receive (post : WebhookPost)
  | process (task : Nat)
  | sweep
  | reconcile (payment : Id) (answer : Except Exn (Option PaymentIntent))
  | expire (scan : Scan) (cutoff : Time)
  | markPaidRead (tenant order : Id) (reference : String)
  | markPaidWrite (request : Nat)
  | refundRead (tenant payment : Id) (amount : Option String)
  | refundCall (request : Nat) (answer : Except Exn PaymentIntent)
  | refundWrite (request : Nat)

-- The admin's requests for the catalog may write `stock_quantity` outright.
def Label.editsProducts : Label → Bool
  | .createProduct .. | .patchProduct .. | .deactivateProduct .. => true
  | _ => false

namespace Sys

def withDb (s : Sys) (db : Db) : Sys := { s with db }

-- A transaction that raises leaves no trace.
def commits (s : Sys) (block : Outcome Db) : Option Sys :=
  match block with
  | .ok db => some (s.withDb db)
  | .error _ => none

def setCall (s : Sys) (i : Nat) (call : Call) : Sys :=
  { s with calls := Function.update s.calls i (some call) }

end Sys

/-- A queued task stays in the queue: the broker delivers it at least once, and
retries it when it raised. -/
def step (settings : Settings) (lib : WebhookLibrary) (s : Sys) : Label → Option Sys
  | .tick seconds => some { s with now := s.now + seconds }
  | .shop tables => some (s.withDb (s.db.withShop tables))
  | .createProduct tenant id data => s.commits (createProduct tenant id data s.db)
  | .patchProduct tenant product data => s.commits (patchProduct tenant product data s.db)
  | .deactivateProduct tenant product => s.commits (deactivateProduct tenant product s.db)
  | .begin i req => match s.calls i with
    | none => some (s.setCall i ⟨req, .find⟩)
    | some _ => none
  | .advance i oracle => match s.calls i with
    | none => none
    | some call =>
      if call.pc.ended then none
      else
        let result := Storefront.advance settings call.req { oracle with now := s.now } s.db call.pc
        some { (s.withDb result.2.1).setCall i ⟨call.req, result.1⟩ with
          gatewayLog := s.gatewayLog ++ result.2.2 }
  | .cancelOrder tenant customer order => s.commits (cancelOrder tenant customer order s.db)
  | .receive post => match receiveWebhook lib s.db post with
    | .ok (.accepted task) => some { s with queue := s.queue ++ [task] }
    | _ => none
  | .process k => match s.queue[k]? with
    | some task => s.commits (processWebhookEvent lib task s.now s.db)
    | none => none
  | .sweep => some { s with candidates := s.candidates ++ reconcileCandidates s.now s.db }
  | .reconcile payment answer =>
    if s.candidates.contains payment then
      s.commits (Prod.snd <$> reconcileOne payment answer s.now s.db)
    else none
  | .expire scan cutoff =>
    if cutoff ≤ s.now then s.commits (releaseExpiredBatch scan cutoff s.db) else none
  | .markPaidRead tenant order reference => match markPaidRead tenant order s.db with
    | .ok (some payment) => some { s with marks := s.marks ++ [⟨tenant, order, payment, reference⟩] }
    | _ => none
  | .markPaidWrite k => match s.marks[k]? with
    | some mark => s.commits (markPaidWrite mark.tenant mark.order mark.payment mark.reference s.now s.db)
    | none => none
  | .refundRead tenant payment amount => match refundRead tenant payment s.db with
    | .ok row => some { s with refunds := s.refunds ++ [⟨row, amount, .call⟩] }
    | .error _ => none
  | .refundCall k answer => match s.refunds[k]? with
    | some ⟨row, amount, .call⟩ =>
      let key := row.idempotency_key ++ ":refund:" ++ amount.getD "full"
      let stage := match answer with
        | .ok intent => .write intent
        | .error _ => .ended
      some { s with
        refunds := s.refunds.set k ⟨row, amount, stage⟩
        gatewayLog := s.gatewayLog ++ [⟨.refund, key⟩] }
    | _ => none
  | .refundWrite k => match s.refunds[k]? with
    | some ⟨row, amount, .write intent⟩ =>
      some { s.withDb (refundWrite row.tenant row.id intent s.db) with
        refunds := s.refunds.set k ⟨row, amount, .ended⟩ }
    | _ => none

-- Nothing was ordered yet and nobody is at work.
structure Sys.Initial (s : Sys) : Prop where
  orders : s.db.orders.rows = []
  orderItems : s.db.orderItems.rows = []
  reservations : s.db.reservations.rows = []
  payments : s.db.payments.rows = []
  products : ∀ p ∈ s.db.products.rows, p.reserved_quantity = 0
  calls : ∀ i, s.calls i = none
  queue : s.queue = []
  candidates : s.candidates = []
  marks : s.marks = []
  refunds : s.refunds = []
  gatewayLog : s.gatewayLog = []

def machine (settings : Settings) (lib : WebhookLibrary) : Machine Sys Label where
  Start := Sys.Initial
  step := step settings lib

namespace Sample

def start : Sys :=
  { db := shop, now := 1000, calls := fun _ => none, queue := [], candidates := [], marks := []
    refunds := [], gatewayLog := [] }

theorem start_initial : start.Initial :=
  ⟨rfl, rfl, rfl, rfl, by decide +kernel, fun _ => rfl, rfl, rfl, rfl, rfl, rfl⟩

-- The first call, up to one of its blocks.
def blocks (points : List Point) : List Label := points.map fun point => .advance 0 (oracle point)

def placing : List Point := [.find, .lock, .validate, .reserve, .create]
def authorizing : List Point := placing ++ [.resolve, .insertPayment, .authorize]
def capturing : List Point := authorizing ++ [.recordResult, .convert, .captureRead, .capture, .captureWrite]

abbrev lab : Machine Sys Label := machine settings library

end Sample

end Storefront
