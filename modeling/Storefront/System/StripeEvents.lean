import Storefront.System.Effects

set_option autoImplicit false

/-!
# Stripe events

The adapter reads the event's type and its status from different fields. The task
writes the payment from the one and the order from the other.
-/

namespace Storefront

open Relational Transition

-- The fields of a body that the adapter looks at.
structure StripeBody where
  type : Json
  object : Json

def StripeBody.of (event : Json) : Option StripeBody := do
  let type ← event.field? "type"
  let data ← event.field? "data"
  let object ← data.field? "object"
  return { type, object }

namespace StripeBody

def isCharge (body : StripeBody) : Bool :=
  match body.object.field? "object" with
  | some (.str text) => text == "charge"
  | _ => false

def status (body : StripeBody) : Json := (body.object.field? "status").getD .null

-- The tables, as `dict.get` reads them.
def get {α : Type} (table : List (String × α)) (default : α) : Json → α
  | .str text => ((table.find? (·.1 == text)).map Prod.snd).getD default
  | _ => default

def eventType (body : StripeBody) : String := get Adapter.stripeEventTypes "payment.unknown" body.type

def paymentStatus (body : StripeBody) : GatewayStatus :=
  if body.isCharge && body.eventType == "payment.refunded" then .refunded
  else get Adapter.stripeStatus .pending body.status

-- A type the adapter has no entry for.
def Unknown (body : StripeBody) : Prop :=
  ∃ text, body.type = .str text ∧ ∀ entry ∈ Adapter.stripeEventTypes, entry.1 ≠ text

end StripeBody

theorem tableGet_ok {α : Type} {table : List (String × α)} {key : Json} {default value : α}
    (found : Adapter.tableGet table key default = .ok value) : value = StripeBody.get table default key := by
  cases key <;> simp_all [Adapter.tableGet, StripeBody.get]

theorem item_eq_ok {value found : Json} {key : String} :
    Adapter.item value key = .ok found ↔ value.field? key = some found := by
  simp [Adapter.item]

theorem lookup_ok {value found : Json} {key : String} (done : Adapter.lookup value key = .ok found) :
    found = (value.field? key).getD .null := by
  simp only [Adapter.lookup, bind_eq_ok, pure_eq_ok] at done
  obtain ⟨_, _, same⟩ := done
  exact same.symm

theorem isCharge_eq (type object : Json) : (match (object.field? "object").getD .null with
    | .str text => text == "charge"
    | _ => false) = StripeBody.isCharge ⟨type, object⟩ := by
  unfold StripeBody.isCharge
  cases object.field? "object" with
  | none => rfl
  | some value => cases value <;> rfl

theorem parseStripe_end {json type obj parent : Json} {normalized : String} {charge : Bool}
    {event : WebhookEvent} (rest : (do
      let gateway_transaction_id ← if charge && parent.truthy then pure parent else Adapter.item obj "id"
      let state ← Adapter.lookup obj "status"
      let status ← if charge && normalized == "payment.refunded" then pure .refunded
        else Adapter.tableGet Adapter.stripeStatus state .pending
      let event_id ← Adapter.item json "id"
      return { event_type := .str normalized, event_id, gateway_transaction_id, status,
               raw_payload := json } : Except Exn WebhookEvent) = .ok event)
    (isCharge : charge = StripeBody.isCharge ⟨type, obj⟩)
    (eventType : normalized = StripeBody.eventType ⟨type, obj⟩) :
    event.event_type = .str (StripeBody.eventType ⟨type, obj⟩) ∧
      event.status = StripeBody.paymentStatus ⟨type, obj⟩ := by
  -- Neither the transaction id nor the event id matters here.
  have rest : ∃ state status, Adapter.lookup obj "status" = .ok state ∧
      (if charge && normalized == "payment.refunded" then .ok .refunded
        else Adapter.tableGet Adapter.stripeStatus state .pending) = Except.ok status ∧
      event.event_type = .str normalized ∧ event.status = status := by
    have stored {status : GatewayStatus} {transaction event_id : Json}
        (same : (⟨.str normalized, event_id, transaction, status, json⟩ : WebhookEvent) = event) :
        event.event_type = .str normalized ∧ event.status = status := by
      subst same
      exact ⟨rfl, rfl⟩
    cases parentGiven : charge && parent.truthy <;>
      cases refunded : charge && normalized == "payment.refunded" <;>
      simp only [parentGiven, refunded, if_true, Bool.false_eq_true, if_false, bind_eq_ok, pure_eq_ok] at rest ⊢
    · obtain ⟨_, _, state, stateAt, status, statusAt, _, _, same⟩ := rest
      exact ⟨state, status, stateAt, statusAt, stored same⟩
    · obtain ⟨_, _, state, stateAt, status, statusAt, _, _, same⟩ := rest
      exact ⟨state, status, stateAt, congrArg _ statusAt, stored same⟩
    · obtain ⟨_, _, state, stateAt, status, statusAt, _, _, same⟩ := rest
      exact ⟨state, status, stateAt, statusAt, stored same⟩
    · obtain ⟨_, _, state, stateAt, status, statusAt, _, _, same⟩ := rest
      exact ⟨state, status, stateAt, congrArg _ statusAt, stored same⟩
  obtain ⟨state, status, stateAt, statusAt, type, result⟩ := rest
  refine ⟨type.trans (congrArg Json.str eventType), result.trans ?_⟩
  rw [StripeBody.paymentStatus, ← eventType, ← isCharge]
  split at statusAt
  · next refunded => rw [if_pos refunded, Except.ok.inj statusAt]
  · next other =>
    rw [if_neg other, tableGet_ok statusAt, lookup_ok stateAt]
    rfl

theorem parseStripe_ok {lib : WebhookLibrary} {raw_body : String} {event : WebhookEvent}
    (parsed : Adapter.parseStripe lib raw_body = .ok event) :
    ∃ json body, lib.loads raw_body = some json ∧ StripeBody.of json = some body ∧
      event.event_type = .str body.eventType ∧ event.status = body.paymentStatus := by
  simp only [Adapter.parseStripe] at parsed
  obtain ⟨json, loaded, parsed⟩ := bind_eq_ok.mp parsed
  obtain ⟨data, dataAt, parsed⟩ := bind_eq_ok.mp parsed
  obtain ⟨obj, objAt, parsed⟩ := bind_eq_ok.mp parsed
  obtain ⟨type, typeAt, parsed⟩ := bind_eq_ok.mp parsed
  obtain ⟨normalized, normalizedAt, parsed⟩ := bind_eq_ok.mp parsed
  obtain ⟨kind, kindAt, parsed⟩ := bind_eq_ok.mp parsed
  obtain ⟨parent, _, rest⟩ := bind_eq_ok.mp parsed
  rw [item_eq_ok] at dataAt objAt typeAt
  obtain rfl := lookup_ok kindAt
  exact ⟨json, ⟨type, obj⟩, orRaise_eq_ok.mp loaded, by simp [StripeBody.of, dataAt, objAt, typeAt],
    parseStripe_end rest (isCharge_eq type obj) (tableGet_ok normalizedAt)⟩

-- A payment that still waits for its money, with its order.
def Waiting (payment : PaymentStatus) (order : OrderStatus) : Prop :=
  (payment = .authorized ∨ payment = .pending) ∧ order = .pending

/-- Payment and order end where the event's type says. -/
structure StripeAgrees (body : StripeBody) (payment : PaymentStatus) (order : OrderStatus)
    (payment' : PaymentStatus) (order' : OrderStatus) : Prop where
  succeeded : body.type = .str "payment_intent.succeeded" → body.status = .str "succeeded" →
    Waiting payment order → payment' = .captured ∧ order' = .paid
  failed : (body.type = .str "payment_intent.payment_failed" ∧ body.status = .str "requires_payment_method") ∨
      (body.type = .str "payment_intent.canceled" ∧ body.status = .str "canceled") →
    Waiting payment order → (payment' = .failed ∨ payment' = .cancelled) ∧ order' = .cancelled
  refunded : body.type = .str "charge.refunded" → payment = .captured → order = .paid →
    payment' = .refunded ∧ order' = .refunded
  other : body.Unknown → Waiting payment order → payment' = payment ∧ order' = order

/-- No declined card, no refund of anything but a charge, and an unknown type only
with the status the payment has. -/
structure StripeTablesAgree (body : StripeBody) (payment : PaymentStatus) (order : OrderStatus) : Prop where
  failed : body.type = .str "payment_intent.payment_failed" →
    body.status = .str "requires_payment_method" → ¬ Waiting payment order
  refunded : body.type = .str "charge.refunded" → payment = .captured → order = .paid →
    body.isCharge = true
  other : body.Unknown → Waiting payment order →
    mapGatewayStatus (StripeBody.get Adapter.stripeStatus .pending body.status) = payment

/-- A body some Stripe adapter accepted, applied to a payment and its order. -/
structure StripeApplied (lib : WebhookLibrary) (body : StripeBody) (p : Payment) (o : Order) (db db' : Db) :
    Prop where
  accepted : ∃ adapter raw_body json event task now, adapter ≠ Adapter.mock ∧
    lib.loads raw_body = some json ∧ StripeBody.of json = some body ∧
    adapter.parseWebhook lib raw_body = .ok event ∧ task.event_type = event.event_type ∧
    task.new_status = event.status ∧ task.payment = p.id ∧ applyWebhookEvent lib task now db = .ok db'
  payment : p ∈ db.payments.rows
  order : o ∈ db.orders.rows
  linked : o.id = p.order

theorem StripeApplied.statuses {lib : WebhookLibrary} {body : StripeBody} {p : Payment} {o : Order}
    {db db' : Db} (applied : StripeApplied lib body p o db db') :
    db'.paymentStatus p.id = some (mapGatewayStatus body.paymentStatus) ∧
      db'.orderStatus o.id = some (eventTarget (.str body.eventType) o.status) := by
  obtain ⟨adapter, raw_body, json, event, task, now, stripe, loaded, read, parsed, type, status, aimed, done⟩ :=
    applied.accepted
  have parsed : Adapter.parseStripe lib raw_body = .ok event := by
    cases adapter with
    | mock => exact absurd rfl stripe
    | stripe => exact parsed
    | stripeLive => exact parsed
  obtain ⟨json', body', loaded', read', eventType, paymentStatus⟩ := parseStripe_ok parsed
  obtain rfl : json = json' := Option.some.inj (loaded.symm.trans loaded')
  obtain rfl : body = body' := Option.some.inj (read.symm.trans read')
  obtain ⟨q, inside, named, _, o', present, mine, _, touch⟩ := applyWebhookEvent_touch done
  obtain rfl : q = p := db.payments.eq_of_key inside applied.payment (named.trans aimed)
  obtain rfl : o' = o := db.orders.eq_of_key present applied.order (mine.trans applied.linked.symm)
  rw [touch.paymentStatus inside, touch.orderStatus present]
  simp [PaymentStatus.at, OrderStatus.at, status, paymentStatus, type, eventType]

theorem StripeBody.eventType_unknown {body : StripeBody} (unknown : body.Unknown) :
    body.eventType = "payment.unknown" := by
  obtain ⟨text, type, other⟩ := unknown
  have absent : Adapter.stripeEventTypes.find? (·.1 == text) = none := by
    rw [List.find?_eq_none]
    intro entry member same
    exact other entry member (beq_iff_eq.mp same)
  simp [eventType, get, type, absent]

theorem stripeStatus_ne_refunded (state : Json) : StripeBody.get Adapter.stripeStatus .pending state ≠ .refunded := by
  cases state with
  | str text =>
    simp only [StripeBody.get]
    cases found : Adapter.stripeStatus.find? (·.1 == text) with
    | none => simp
    | some entry =>
      have member := List.mem_of_find?_eq_some found
      have never : ∀ entry ∈ Adapter.stripeStatus, entry.2 ≠ .refunded := by decide
      simpa using never entry member
  | _ => simp [StripeBody.get]

theorem StripeBody.paymentStatus_of {body : StripeBody} (other : body.eventType ≠ "payment.refunded") :
    body.paymentStatus = get Adapter.stripeStatus .pending body.status := by
  simp [paymentStatus, other]

theorem stripeStatuses_agree_iff (body : StripeBody) (payment : PaymentStatus) (order : OrderStatus) :
    StripeAgrees body payment order (mapGatewayStatus body.paymentStatus)
        (eventTarget (.str body.eventType) order) ↔ StripeTablesAgree body payment order := by
  constructor
  · intro agrees
    refine ⟨?_, ?_, ?_⟩
    · intro type status waiting
      -- The status table keeps a declined card pending.
      have declined : mapGatewayStatus body.paymentStatus = .pending := by
        rw [StripeBody.paymentStatus_of (by rw [StripeBody.eventType, type]; decide), status]
        rfl
      have ended := (agrees.failed (.inl ⟨type, status⟩) waiting).1
      rw [declined] at ended
      simp at ended
    · intro type captured paid
      cases charge : body.isCharge with
      | true => rfl
      | false =>
        have ended := (agrees.refunded type captured paid).1
        have table : body.paymentStatus = StripeBody.get Adapter.stripeStatus .pending body.status := by
          simp [StripeBody.paymentStatus, charge]
        have never := stripeStatus_ne_refunded body.status
        rw [table] at ended
        generalize StripeBody.get Adapter.stripeStatus .pending body.status = status at ended never
        cases status <;> simp_all [mapGatewayStatus]
    · intro unknown waiting
      rw [← StripeBody.paymentStatus_of (by rw [StripeBody.eventType_unknown unknown]; decide)]
      exact (agrees.other unknown waiting).1
  · intro agree
    refine ⟨?_, ?_, ?_, ?_⟩
    · intro type status waiting
      have event : body.eventType = "payment.captured" := by rw [StripeBody.eventType, type]; decide
      rw [StripeBody.paymentStatus_of (by rw [event]; decide), event, status, waiting.2]
      decide
    · intro ends waiting
      rcases ends with ⟨type, status⟩ | ⟨type, status⟩
      · exact absurd waiting (agree.failed type status)
      have event : body.eventType = "payment.cancelled" := by rw [StripeBody.eventType, type]; decide
      rw [StripeBody.paymentStatus_of (by rw [event]; decide), event, status, waiting.2]
      decide
    · intro type captured paid
      have event : body.eventType = "payment.refunded" := by rw [StripeBody.eventType, type]; decide
      have refunded : body.paymentStatus = .refunded := by
        simp [StripeBody.paymentStatus, agree.refunded type captured paid, event]
      rw [refunded, event, paid]
      decide
    · intro unknown waiting
      have event := StripeBody.eventType_unknown unknown
      rw [StripeBody.paymentStatus_of (by rw [event]; decide), event, waiting.2]
      exact ⟨agree.other unknown waiting, by decide⟩

theorem stripe_agrees_iff {lib : WebhookLibrary} {body : StripeBody} {p : Payment} {o : Order} {db db' : Db}
    (applied : StripeApplied lib body p o db db') :
    (∀ payment' order', db'.paymentStatus p.id = some payment' → db'.orderStatus o.id = some order' →
      StripeAgrees body p.status o.status payment' order') ↔
      StripeTablesAgree body p.status o.status := by
  obtain ⟨payment, order⟩ := applied.statuses
  rw [← stripeStatuses_agree_iff]
  constructor
  · exact fun agrees => agrees _ _ payment order
  · intro agrees payment' order' read read'
    obtain rfl := Option.some.inj (payment.symm.trans read)
    obtain rfl := Option.some.inj (order.symm.trans read')
    exact agrees

namespace Sample

def stripeOrder : Order :=
  { id := 70, tenant := 1, customer := 10, cart := none, order_number := 1, status := .pending
    subtotal := 20, discount_total := 0, grand_total := 20, currency := "SAR"
    shipping_address := address.toSnapshot, billing_address := address.toSnapshot, is_b2b := false
    tax_id := "", payment_terms := "", payment_due_date := none, idempotency_key := "k1" }

def orderedAtStripe : Db :=
  { paidByStripe with orders := ⟨[stripeOrder], by decide +kernel, by decide +kernel⟩ }

def declinedIntent : Json :=
  .obj [("id", .str "pi_1"), ("object", .str "payment_intent"), ("status", .str "requires_payment_method")]

def declinedBody : StripeBody := ⟨.str "payment_intent.payment_failed", declinedIntent⟩

def declinedEvent : Json :=
  .obj [("id", .str "evt_1"), ("type", declinedBody.type), ("data", .obj [("object", declinedIntent)])]

def declinedText : String :=
  "\x7b\"id\": \"evt_1\", \"type\": \"payment_intent.payment_failed\", \"data\": \x7b\"object\": " ++
    "\x7b\"id\": \"pi_1\", \"object\": \"payment_intent\", " ++
    "\"status\": \"requires_payment_method\"\x7d\x7d\x7d"

def stripeLibrary : WebhookLibrary :=
  { library with loads := fun text => if text == declinedText then some declinedEvent else none }

def declinedTask : WebhookTask :=
  { tenant := 1, payment := 80, event_type := .str "payment.failed", new_status := .pending
    raw_payload := declinedEvent, gateway_name := "stripe", event_id := .str "evt_1" }

def declined : Db := (applyWebhookEvent stripeLibrary declinedTask 200 orderedAtStripe).toOption.get (by decide +kernel)

theorem declined_loads : stripeLibrary.loads declinedText = some declinedEvent := by
  simp only [stripeLibrary, beq_self_eq_true, if_true]

theorem declined_applied :
    StripeApplied stripeLibrary declinedBody stripePayment stripeOrder orderedAtStripe declined where
  accepted := by
    have parsed : Adapter.parseStripe stripeLibrary declinedText =
        .ok ⟨.str "payment.failed", .str "evt_1", .str "pi_1", .pending, declinedEvent⟩ := by
      simp only [Adapter.parseStripe, declined_loads]
      rfl
    exact ⟨.stripe, declinedText, declinedEvent, _, declinedTask, 200, by decide, declined_loads, by rfl, parsed,
      rfl, rfl, rfl, ok_get _⟩
  payment := List.mem_singleton.mpr rfl
  order := List.mem_singleton.mpr rfl
  linked := rfl

end Sample

theorem stripe_agrees_unless_declined :
    (∀ payment order, Sample.declined.paymentStatus 80 = some payment → Sample.declined.orderStatus 70 = some order →
      StripeAgrees Sample.declinedBody .authorized .pending payment order) ↔
      StripeTablesAgree Sample.declinedBody .authorized .pending :=
  stripe_agrees_iff Sample.declined_applied

/-- A declined card leaves its payment pending beside a cancelled order. -/
theorem stripe_declined : ¬ ∀ (lib : WebhookLibrary) (body : StripeBody) (p : Payment) (o : Order) (db db' : Db)
    payment order, StripeApplied lib body p o db db' → db'.paymentStatus p.id = some payment →
      db'.orderStatus o.id = some order → StripeAgrees body p.status o.status payment order := by
  intro agree
  have agrees := agree _ _ _ _ _ _ .pending .cancelled Sample.declined_applied (by decide +kernel) (by decide +kernel)
  obtain ⟨pending | pending, _⟩ := agrees.failed (.inl ⟨rfl, rfl⟩) ⟨.inl rfl, rfl⟩ <;> cases pending

end Storefront
