import Storefront.Payments.Tasks

set_option autoImplicit false

/-!
# The webhook endpoint
-/

namespace Storefront

open Relational Transition

structure WebhookPost where
  gateway_name : String
  raw_body : String
  http_stripe_signature : Option String
  http_x_gateway_signature : Option String

-- The first header that is present and not empty.
def WebhookPost.signature (post : WebhookPost) : String :=
  let given := post.http_stripe_signature.getD ""
  if given = "" then post.http_x_gateway_signature.getD "" else given

inductive WebhookResponse
  | notFound
  | badRequest
  | unauthorized
  | accepted (task : WebhookTask)

-- all_objects.filter(gateway_transaction_id=...).first(): the smallest primary key.
def paymentOfTransaction (lib : WebhookLibrary) (db : Db) (transaction : Json) : Option Payment :=
  ((db.payments.rows.filter fun p => lib.text transaction == some p.gateway_transaction_id)
    |>.insertionSort fun p q => p.id ≤ q.id).head?

-- PaymentWebhookView.post
def receiveWebhook (lib : WebhookLibrary) (db : Db) (post : WebhookPost) : Outcome WebhookResponse :=
  match Adapter.get post.gateway_name with
  | .error _ => .ok .notFound
  | .ok gateway =>
    match gateway.parseWebhook lib post.raw_body with
    | .error _ => .ok .badRequest
    | .ok event =>
      match paymentOfTransaction lib db event.gateway_transaction_id with
      | none => .ok .notFound
      | some payment => do
        let config ← gatewayConfigOf db payment.gateway_config
        let verified ← gateway.verifyWebhook lib config.credentials post.raw_body post.signature
        return if verified then .accepted {
            tenant := payment.tenant
            payment := payment.id
            event_type := event.event_type
            new_status := event.status
            raw_payload := event.raw_payload
            gateway_name := post.gateway_name
            event_id := event.event_id }
          else .unauthorized

theorem paymentOfTransaction_mem {lib : WebhookLibrary} {db : Db} {transaction : Json} {p : Payment}
    (found : paymentOfTransaction lib db transaction = some p) :
    p ∈ db.payments.rows ∧ lib.text transaction = some p.gateway_transaction_id := by
  have member := List.mem_of_mem_head? found
  rw [List.mem_insertionSort, List.mem_filter, beq_iff_eq] at member
  exact member

theorem receiveWebhook_accepted {lib : WebhookLibrary} {db : Db} {post : WebhookPost}
    {task : WebhookTask} :
    receiveWebhook lib db post = .ok (.accepted task) ↔ ∃ gateway event payment config,
      Adapter.get post.gateway_name = .ok gateway ∧
      gateway.parseWebhook lib post.raw_body = .ok event ∧
      paymentOfTransaction lib db event.gateway_transaction_id = some payment ∧
      gatewayConfigOf db payment.gateway_config = .ok config ∧
      gateway.verifyWebhook lib config.credentials post.raw_body post.signature = .ok true ∧
      task = ⟨payment.tenant, payment.id, event.event_type, event.status, event.raw_payload,
        post.gateway_name, event.event_id⟩ := by
  unfold receiveWebhook
  cases registered : Adapter.get post.gateway_name with
  | error e => simp
  | ok gateway =>
    cases parsed : gateway.parseWebhook lib post.raw_body with
    | error e => simp [parsed]
    | ok event =>
      cases found : paymentOfTransaction lib db event.gateway_transaction_id with
      | none => simp [parsed, found]
      | some payment =>
        simp only [parsed, found, bind_eq_ok, pure_eq_ok, Except.ok.injEq]
        constructor
        · rintro ⟨config, configured, verified, checked, answer⟩
          cases verified with
          | false => simp at answer
          | true =>
            simp only [if_true, WebhookResponse.accepted.injEq] at answer
            exact ⟨gateway, event, payment, config, rfl, parsed, found, configured, checked,
              answer.symm⟩
        · rintro ⟨_, event', payment', config, rfl, parsed', found', configured, checked, rfl⟩
          obtain rfl : event = event' := by simpa [parsed] using parsed'
          obtain rfl : payment = payment' := by simpa [found] using found'
          exact ⟨config, configured, true, checked, by simp⟩

/-- The enqueued event was vouched for by the payment's own gateway. -/
def Authentic (lib : WebhookLibrary) (db : Db) (post : WebhookPost) (task : WebhookTask) : Prop :=
  ∃ payment ∈ db.payments.rows, ∃ config gateway event, payment.id = task.payment ∧
    gatewayConfigOf db payment.gateway_config = .ok config ∧
    config.gateway_name = post.gateway_name ∧
    Adapter.get post.gateway_name = .ok gateway ∧
    gateway.parseWebhook lib post.raw_body = .ok event ∧
    gateway.verifyWebhook lib config.credentials post.raw_body post.signature = .ok true ∧
    lib.text event.gateway_transaction_id = some payment.gateway_transaction_id ∧
    payment.gateway_transaction_id ≠ ""

/-- The URL's gateway accepts the body for no payment but a named one of its own. -/
def VouchesForOwn (lib : WebhookLibrary) (db : Db) (post : WebhookPost) : Prop :=
  ∀ gateway event payment config, Adapter.get post.gateway_name = .ok gateway →
    gateway.parseWebhook lib post.raw_body = .ok event →
    paymentOfTransaction lib db event.gateway_transaction_id = some payment →
    gatewayConfigOf db payment.gateway_config = .ok config →
    gateway.verifyWebhook lib config.credentials post.raw_body post.signature = .ok true →
    config.gateway_name = gateway.name ∧ payment.gateway_transaction_id ≠ ""

theorem webhook_authentic_iff (lib : WebhookLibrary) (db : Db) (post : WebhookPost) :
    (∀ task, receiveWebhook lib db post = .ok (.accepted task) → Authentic lib db post task) ↔
      VouchesForOwn lib db post := by
  constructor
  · intro authentic gateway event payment config registered parsed found configured verified
    have accepted := receiveWebhook_accepted.mpr
      ⟨gateway, event, payment, config, registered, parsed, found, configured, verified, rfl⟩
    obtain ⟨payment', member, config', gateway', event', same, configured', own, _, _, _, _, named⟩ :=
      authentic _ accepted
    obtain rfl : payment' = payment :=
      db.payments.eq_of_key member (paymentOfTransaction_mem found).1 same
    obtain rfl : config = config' := by simpa [configured] using configured'
    exact ⟨own.trans (Adapter.get_name registered).symm, named⟩
  · intro own task accepted
    obtain ⟨gateway, event, payment, config, registered, parsed, found, configured, verified, rfl⟩ :=
      receiveWebhook_accepted.mp accepted
    obtain ⟨member, text⟩ := paymentOfTransaction_mem found
    obtain ⟨name, named⟩ := own gateway event payment config registered parsed found configured verified
    exact ⟨payment, member, config, gateway, event, rfl, configured,
      name.trans (Adapter.get_name registered), registered, parsed, verified, text, named⟩

namespace Sample

-- A card payment taken through Stripe.
def stripePayment : Payment :=
  { id := 80, tenant := 1, order := 70, gateway_config := some 51, status := .authorized, amount := 20
    currency := "SAR", gateway_transaction_id := "pi_1", idempotency_key := "k1:auth"
    gateway_response := .obj [], created_at := 100, updated_at := 100 }

def paidByStripe : Db :=
  { shop with payments := ⟨[stripePayment], by decide +kernel, by decide +kernel⟩ }

-- An event as the mock gateway delivers it.
structure Mail where
  event_id : String
  event_type : String
  transaction_id : String
  status : String
  deriving DecidableEq

def Mail.body (mail : Mail) : String :=
  "\x7b\"event_id\": \"" ++ mail.event_id ++ "\", \"event_type\": \"" ++ mail.event_type ++
    "\", \"transaction_id\": \"" ++ mail.transaction_id ++ "\", \"status\": \"" ++ mail.status ++ "\"\x7d"

def Mail.json (mail : Mail) : Json :=
  .obj [("event_id", .str mail.event_id), ("event_type", .str mail.event_type),
    ("transaction_id", .str mail.transaction_id), ("status", .str mail.status)]

def Mail.post (mail : Mail) : WebhookPost :=
  { gateway_name := "mock", raw_body := mail.body, http_stripe_signature := none
    http_x_gateway_signature := some "mock-signature" }

def forged : Mail := ⟨"e1", "payment.captured", "pi_1", "captured"⟩
def authorizedMail : Mail := ⟨"e2", "payment.authorized", "mock_txn_1", "authorized"⟩
def capturedMail : Mail := ⟨"e3", "payment.captured", "mock_txn_1", "captured"⟩
def refundedMail : Mail := ⟨"e4", "payment.refunded", "mock_txn_1", "refunded"⟩
def failedMail : Mail := ⟨"e5", "payment.failed", "mock_txn_1", "failed"⟩

-- json.loads, as far as these bodies go.
def library : WebhookLibrary where
  loads text := ([forged, authorizedMail, capturedMail, refundedMail, failedMail].find? (·.body == text)).map Mail.json
  sha256 text := text
  construct_event _ _ _ := .ok false
  str _ := ""

end Sample

/-- The mock gateway's fixed signature vouches for a payment of another gateway. -/
theorem webhook_forged : ¬ ∀ task,
    receiveWebhook Sample.library Sample.paidByStripe Sample.forged.post = .ok (.accepted task) →
      Authentic Sample.library Sample.paidByStripe Sample.forged.post task := by
  rw [webhook_authentic_iff]
  intro own
  have named := own .mock
    ⟨.str "payment.captured", .str "e1", .str "pi_1", .captured, Sample.forged.json⟩
    Sample.stripePayment Sample.stripeConfig (by rfl) (by rfl) (by rfl) (by rfl) (by rfl)
  revert named
  decide +kernel

end Storefront
