import Storefront.Core.Exn
import Storefront.Models.Rows
import Storefront.Transition.Outcome

set_option autoImplicit false

/-!
# Gateway adapters
-/

namespace Storefront

open Transition

structure PaymentIntent where
  gateway_transaction_id : String
  status : GatewayStatus
  next_action : Option Json
  raw_response : Json

-- A json.loads value in every field the adapter does not convert.
structure WebhookEvent where
  event_type : Json
  event_id : Json
  gateway_transaction_id : Json
  status : GatewayStatus
  raw_payload : Json

/-- The library calls the adapters make on a webhook body: `json.loads`, the hex
digest of `sha256`, Stripe's `construct_event` (`false` where it raises
`SignatureVerificationError`) and `str` of a JSON array or object. -/
structure WebhookLibrary where
  loads : String → Option Json
  sha256 : String → String
  construct_event : String → String → Option String → Except Exn Bool
  str : Json → String

-- A value compared with, or stored in, a CharField; NULL matches no row.
def WebhookLibrary.text (lib : WebhookLibrary) : Json → Option String
  | .null => none
  | .str value => some value
  | .int value => some (toString value)
  | .bool value => some (if value then "True" else "False")
  | .float repr => some repr
  | other => some (lib.str other)

inductive Adapter
  | mock | stripe | stripeLive
  deriving DecidableEq, Repr

namespace Adapter

def name : Adapter → String
  | .mock => "mock"
  | .stripe => "stripe"
  | .stripeLive => "stripe_live"

-- registry.get
def get (gateway_name : String) : Except Exn Adapter :=
  orRaise (.valueError s!"Unknown payment gateway '{gateway_name}'")
    ([.mock, .stripe, .stripeLive].find? (·.name == gateway_name))

theorem get_name {gateway_name : String} {adapter : Adapter} (found : get gateway_name = .ok adapter) :
    adapter.name = gateway_name := by
  simp only [get, orRaise_eq_ok] at found
  simpa using List.find?_some found

def supportedCurrencies : List String := ["USD", "EUR", "GBP", "SAR", "AED", "JPY", "AUD", "CAD"]

def supportsCurrency (adapter : Adapter) (currency : String) : Bool :=
  match adapter with
  | .mock => true
  | .stripe | .stripeLive => supportedCurrencies.contains currency.toUpper

-- value[key]
def item (value : Json) (key : String) : Except Exn Json :=
  orRaise (.keyError key) (value.field? key)

-- value.get(key)
def lookup (value : Json) (key : String) : Except Exn Json := do
  require (value.isObject = true) (.attributeError "get")
  return (value.field? key).getD .null

def stripeStatus : List (String × GatewayStatus) :=
  [("requires_payment_method", .pending), ("requires_action", .pending),
    ("requires_confirmation", .pending), ("processing", .pending),
    ("requires_capture", .authorized), ("succeeded", .captured), ("canceled", .cancelled)]

-- table.get(key, default), which raises on an unhashable key.
def tableGet {α : Type} (table : List (String × α)) (key : Json) (default : α) : Except Exn α :=
  match key with
  | .str text => .ok (((table.find? (·.1 == text)).map Prod.snd).getD default)
  | .arr _ | .obj _ => .error (.other "TypeError: unhashable type")
  | _ => .ok default

def stripeEventTypes : List (String × String) :=
  [("payment_intent.succeeded", "payment.captured"),
    ("payment_intent.payment_failed", "payment.failed"),
    ("payment_intent.canceled", "payment.cancelled"), ("charge.refunded", "payment.refunded")]

def parseMock (lib : WebhookLibrary) (raw_body : String) : Except Exn WebhookEvent := do
  let payload ← orRaise (.valueError "JSONDecodeError") (lib.loads raw_body)
  let given ← lookup payload "event_id"
  let event_id := if given.truthy then given
    else .str ("mock_evt_" ++ ((lib.sha256 raw_body).take 16).toString)
  let event_type ← item payload "event_type"
  let gateway_transaction_id ← item payload "transaction_id"
  let status ← item payload "status"
  let status ← match status with
    | .str text => orRaise (.valueError "not a valid PaymentStatus") (GatewayStatus.ofValue? text)
    | _ => throw (.valueError "not a valid PaymentStatus")
  return { event_type, event_id, gateway_transaction_id, status, raw_payload := payload }

def parseStripe (lib : WebhookLibrary) (raw_body : String) : Except Exn WebhookEvent := do
  let event ← orRaise (.valueError "JSONDecodeError") (lib.loads raw_body)
  let data ← item event "data"
  let obj ← item data "object"
  let type ← item event "type"
  let normalized_type ← tableGet stripeEventTypes type "payment.unknown"
  let object ← lookup obj "object"
  let charge := match object with
    | .str text => text == "charge"
    | _ => false
  -- A Charge names its PaymentIntent; a refunded one still says "succeeded".
  let parent ← lookup obj "payment_intent"
  let gateway_transaction_id ← if charge && parent.truthy then pure parent else item obj "id"
  let state ← lookup obj "status"
  let status ← if charge && normalized_type == "payment.refunded" then pure .refunded
    else tableGet stripeStatus state .pending
  let event_id ← item event "id"
  return { event_type := .str normalized_type, event_id, gateway_transaction_id, status,
           raw_payload := event }

def parseWebhook (lib : WebhookLibrary) : Adapter → String → Except Exn WebhookEvent
  | .mock => parseMock lib
  | .stripe | .stripeLive => parseStripe lib

def verifyWebhook (lib : WebhookLibrary) (adapter : Adapter) (credentials : GatewayCredentials)
    (raw_body signature_header : String) : Except Exn Bool :=
  match adapter with
  | .mock => .ok (signature_header == "mock-signature")
  | .stripe | .stripeLive => lib.construct_event raw_body signature_header credentials.webhook_secret

end Adapter

end Storefront
