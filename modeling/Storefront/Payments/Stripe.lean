import Storefront.Core.Money
import Storefront.Payments.Gateways

set_option autoImplicit false

/-!
# Amounts sent to Stripe

The Stripe API counts in the smallest unit of a currency. The adapter counts in
hundredths throughout.
-/

namespace Storefront

open Transition

-- int(x), for a Decimal.
def toInt (x : ℚ) : Int := x.num.tdiv x.den

theorem toInt_intCast (n : ℤ) : toInt (n : ℚ) = n := by simp [toInt]

-- Amounts have at most twelve digits, so the decimal context rounds neither products nor quotients.
theorem toInt_cents {amount : ℚ} (cents : InCents amount) : (toInt (amount * 100) : ℚ) = amount * 100 := by
  obtain ⟨n, rfl⟩ := inCents_iff.mp cents
  have scaled : (n : ℚ) / 100 * 100 = n := by ring
  rw [scaled, toInt_intCast]

/-! ## The adapter -/

-- The keyword arguments of PaymentIntent.create, without the labels for the dashboard.
structure CreateIntent where
  amount : Int
  currency : String
  payment_method : String
  confirm : Bool
  capture_method : String
  api_key : Option String
  idempotency_key : String
  deriving DecidableEq

structure CaptureIntent where
  api_key : Option String
  idempotency_key : String
  amount_to_capture : Option Int
  deriving DecidableEq

structure CreateRefund where
  payment_intent : String
  api_key : Option String
  idempotency_key : String
  amount : Option Int
  reason : Option String
  deriving DecidableEq

-- What the adapter reads of the SDK's objects.
structure StripeIntent where
  id : String
  status : String
  amount : Int
  amount_received : Int
  currency : String
  next_action : Option Json
  raw : Json

structure StripeRefund where
  amount : Int
  currency : String
  raw : Json

/-- The SDK's calls. `retrieve` returns `none` for an InvalidRequestError. -/
structure StripeSdk where
  create : CreateIntent → Except Exn StripeIntent
  capture : String → CaptureIntent → Except Exn StripeIntent
  refund : CreateRefund → Except Exn StripeRefund
  retrieve : String → Option String → Except Exn (Option StripeIntent)

structure StripePayment extends PaymentIntent where
  amount : ℚ
  currency : String

namespace StripeGateway

def statusOf (state : String) (default : GatewayStatus) : GatewayStatus :=
  ((Adapter.stripeStatus.find? (·.1 == state)).map Prod.snd).getD default

def extractNextAction (intent : StripeIntent) : Option Json :=
  if intent.status = "requires_action" then intent.next_action else none

def authorizeRequest (credentials : GatewayCredentials) (amount : ℚ)
    (currency payment_method_token idempotency_key : String) : CreateIntent where
  amount := toInt (amount * 100)
  currency := currency.toLower
  payment_method := payment_method_token
  confirm := true
  capture_method := "manual"
  api_key := credentials.secret_key
  idempotency_key

def authorize (sdk : StripeSdk) (credentials : GatewayCredentials) (amount : ℚ)
    (currency payment_method_token idempotency_key : String) : Except Exn StripePayment := do
  let intent ← sdk.create (authorizeRequest credentials amount currency payment_method_token idempotency_key)
  return {
    gateway_transaction_id := intent.id
    status := statusOf intent.status .pending
    amount := intent.amount / 100
    currency := intent.currency.toUpper
    next_action := extractNextAction intent
    raw_response := intent.raw }

def captureRequest (credentials : GatewayCredentials) (idempotency_key : String) (amount : Option ℚ) :
    CaptureIntent where
  api_key := credentials.secret_key
  idempotency_key
  amount_to_capture := amount.map fun amount => toInt (amount * 100)

def capture (sdk : StripeSdk) (credentials : GatewayCredentials) (gateway_transaction_id idempotency_key : String)
    (amount : Option ℚ) : Except Exn StripePayment := do
  let intent ← sdk.capture gateway_transaction_id (captureRequest credentials idempotency_key amount)
  return {
    gateway_transaction_id := intent.id
    status := statusOf intent.status .failed
    amount := intent.amount_received / 100
    currency := intent.currency.toUpper
    next_action := none
    raw_response := intent.raw }

def refundRequest (credentials : GatewayCredentials) (gateway_transaction_id idempotency_key : String)
    (amount : Option ℚ) (reason : Option String) : CreateRefund where
  payment_intent := gateway_transaction_id
  api_key := credentials.secret_key
  idempotency_key
  amount := amount.map fun amount => toInt (amount * 100)
  reason := reason.filter (· ≠ "")

def refund (sdk : StripeSdk) (credentials : GatewayCredentials) (gateway_transaction_id idempotency_key : String)
    (amount : Option ℚ) (reason : Option String) : Except Exn StripePayment := do
  let refund ← sdk.refund (refundRequest credentials gateway_transaction_id idempotency_key amount reason)
  return {
    gateway_transaction_id
    status := .refunded
    amount := refund.amount / 100
    currency := refund.currency.toUpper
    next_action := none
    raw_response := refund.raw }

def retrievePayment (sdk : StripeSdk) (credentials : GatewayCredentials) (gateway_transaction_id : String) :
    Except Exn (Option StripePayment) := do
  let found ← sdk.retrieve gateway_transaction_id credentials.secret_key
  return found.map fun intent => {
    gateway_transaction_id := intent.id
    status := statusOf intent.status .pending
    amount := intent.amount / 100
    currency := intent.currency.toUpper
    next_action := extractNextAction intent
    raw_response := intent.raw }

end StripeGateway

/-! ## The smallest unit -/

-- ISO 4217
def isoExponents : List (String × Nat) :=
  [("USD", 2), ("EUR", 2), ("GBP", 2), ("SAR", 2), ("AED", 2), ("JPY", 0), ("AUD", 2), ("CAD", 2)]

def inSmallestUnit (code : String) (amount : ℚ) : Option ℚ :=
  (isoExponents.lookup code).map fun exponent => amount * 10 ^ exponent

theorem inSmallestUnit_yen (amount : ℚ) : inSmallestUnit "JPY" amount = some amount := by
  have exponent : isoExponents.lookup "JPY" = some 0 := by decide
  simp [inSmallestUnit, exponent]

theorem inSmallestUnit_hundredths {code : String} (supported : Adapter.supportedCurrencies.contains code = true)
    (other : code ≠ "JPY") (amount : ℚ) : inSmallestUnit code amount = some (amount * 100) := by
  have exponents : ∀ c ∈ Adapter.supportedCurrencies, c ≠ "JPY" → isoExponents.lookup c = some 2 := by decide
  rw [inSmallestUnit, exponents code (List.contains_iff_mem.mp supported) other]
  norm_num

namespace StripeGateway

variable {sdk : StripeSdk} {credentials : GatewayCredentials} {amount : ℚ} {currency token key transaction : String}
  {reason : Option String}

/-- The integer that is sent is read back as the amount, whichever operation answers with it. -/
structure ReadsBack (sdk : StripeSdk) (credentials : GatewayCredentials) (amount : ℚ) (sent : Int) : Prop where
  authorized : ∀ currency token key intent,
    sdk.create (authorizeRequest credentials amount currency token key) = .ok intent → intent.amount = sent →
    (authorize sdk credentials amount currency token key).map StripePayment.amount = .ok amount
  captured : ∀ transaction key intent, sdk.capture transaction (captureRequest credentials key (some amount)) =
    .ok intent →
    intent.amount_received = sent →
    (capture sdk credentials transaction key (some amount)).map StripePayment.amount = .ok amount
  refunded : ∀ transaction key reason refund,
    sdk.refund (refundRequest credentials transaction key (some amount) reason) = .ok refund → refund.amount = sent →
    (StripeGateway.refund sdk credentials transaction key (some amount) reason).map StripePayment.amount = .ok amount
  retrieved : ∀ transaction intent, sdk.retrieve transaction credentials.secret_key = .ok (some intent) →
    intent.amount = sent →
    (retrievePayment sdk credentials transaction).map (Option.map StripePayment.amount) = .ok (some amount)

theorem readsBack (sdk : StripeSdk) (credentials : GatewayCredentials) (cents : InCents amount) :
    ReadsBack sdk credentials amount (toInt (amount * 100)) := by
  have decoded : (toInt (amount * 100) : ℚ) / 100 = amount := by
    rw [toInt_cents cents]
    ring
  constructor
  · intro currency token key intent created answered
    simp only [authorize, created, bind, Except.bind, pure, Except.pure, Except.map, answered, decoded]
  · intro transaction key intent taken answered
    simp only [capture, taken, bind, Except.bind, pure, Except.pure, Except.map, answered, decoded]
  · intro transaction key reason refund given answered
    simp only [StripeGateway.refund, given, bind, Except.bind, pure, Except.pure, Except.map, answered, decoded]
  · intro transaction intent found answered
    simp only [retrievePayment, found, bind, Except.bind, pure, Except.pure, Except.map, Option.map, answered, decoded]

end StripeGateway

/-- Amounts go out in the smallest unit of every supported currency but the one without decimals. -/
theorem stripe_amounts_iff (upper : String → String) (sdk : StripeSdk) (credentials : GatewayCredentials)
    {currency : String} (supported : Adapter.supportedCurrencies.contains (upper currency) = true) {amount : ℚ}
    (cents : InCents amount) (token key transaction : String) (reason : Option String) :
    ∃ sent : Int, (StripeGateway.authorizeRequest credentials amount currency token key).amount = sent ∧
      (StripeGateway.captureRequest credentials key (some amount)).amount_to_capture = some sent ∧
      (StripeGateway.refundRequest credentials transaction key (some amount) reason).amount = some sent ∧
      StripeGateway.ReadsBack sdk credentials amount sent ∧
      (inSmallestUnit (upper currency) amount = some (sent : ℚ) ↔ upper currency ≠ "JPY" ∨ amount = 0) := by
  refine ⟨toInt (amount * 100), rfl, rfl, rfl, StripeGateway.readsBack sdk credentials cents, ?_⟩
  rw [toInt_cents cents]
  by_cases yen : upper currency = "JPY"
  · rw [yen, inSmallestUnit_yen, Option.some.injEq]
    constructor
    · intro same
      right
      linarith
    · rintro (other | rfl)
      · exact absurd rfl other
      · norm_num
  · exact iff_of_true (inSmallestUnit_hundredths supported yen amount) (.inl yen)

namespace Sample

-- An SDK that takes everything and answers with the integers it was sent.
def sdk : StripeSdk where
  create request := .ok
    { id := "pi_1", status := "requires_capture", amount := request.amount, amount_received := 0
      currency := request.currency, next_action := none, raw := .obj [] }
  capture transaction request := .ok
    { id := transaction, status := "succeeded", amount := request.amount_to_capture.getD 0
      amount_received := request.amount_to_capture.getD 0, currency := "sar", next_action := none, raw := .obj [] }
  refund request := .ok { amount := request.amount.getD 0, currency := "sar", raw := .obj [] }
  retrieve _ _ := .ok none

def keys : GatewayCredentials := { public_key := none, secret_key := some "sk_test_1", webhook_secret := none }

end Sample

theorem stripe_amounts_riyal : Adapter.stripe.supportsCurrency "sar" = true ∧
    ∃ sent : Int, (StripeGateway.authorizeRequest Sample.keys (1999 / 100) "sar" "pm_1" "k1:auth").amount = sent ∧
      inSmallestUnit "SAR" (1999 / 100) = some (sent : ℚ) ∧
      (StripeGateway.authorize Sample.sdk Sample.keys (1999 / 100) "sar" "pm_1" "k1:auth").map StripePayment.amount =
        .ok (1999 / 100) := by
  have accepted : Adapter.stripe.supportsCurrency "sar" = true := by decide +kernel
  have upper : "sar".toUpper = "SAR" := by decide +kernel
  obtain ⟨sent, authorized, _, _, reads, smallest⟩ :=
    stripe_amounts_iff String.toUpper Sample.sdk Sample.keys accepted (by decide +kernel : InCents (1999 / 100)) "pm_1"
      "k1:auth" "pi_1" none
  rw [upper] at smallest
  exact ⟨accepted, sent, authorized, smallest.mpr (.inl (by decide)), reads.authorized _ _ _ _ rfl authorized⟩

/-- Fifteen hundred yen are sent as a hundred and fifty thousand. -/
theorem stripe_hundredfold : Adapter.stripe.supportsCurrency "JPY" = true ∧ InCents 1500 ∧
    (StripeGateway.authorizeRequest Sample.keys 1500 "JPY" "pm_1" "k1:auth").amount = 150000 ∧
    inSmallestUnit "JPY" 1500 = some 1500 ∧ (150000 : ℚ) ≠ 1500 := by
  decide +kernel

end Storefront
