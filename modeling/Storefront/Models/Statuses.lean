import Mathlib.Tactic

set_option autoImplicit false

namespace Storefront

inductive CartStatus
  | active | checkingOut | converted | abandoned
  deriving DecidableEq, Repr

inductive OrderStatus
  | pending | paid | fulfilled | cancelled | refunded
  deriving DecidableEq, Repr

namespace OrderStatus

def value : OrderStatus → String
  | .pending => "pending"
  | .paid => "paid"
  | .fulfilled => "fulfilled"
  | .cancelled => "cancelled"
  | .refunded => "refunded"

end OrderStatus

inductive ReservationStatus
  | active | committed | released
  deriving DecidableEq, Repr

inductive PaymentStatus
  | pending | invoicePending | authorized | captured | failed | refunded | cancelled
  deriving DecidableEq, Repr

namespace PaymentStatus

def value : PaymentStatus → String
  | .pending => "pending"
  | .invoicePending => "invoice_pending"
  | .authorized => "authorized"
  | .captured => "captured"
  | .failed => "failed"
  | .refunded => "refunded"
  | .cancelled => "cancelled"

end PaymentStatus

-- The gateways' own PaymentStatus, a second enumeration under the same name.
inductive GatewayStatus
  | pending | authorized | captured | failed | refunded | cancelled
  deriving DecidableEq, Repr

namespace GatewayStatus

def value : GatewayStatus → String
  | .pending => "pending"
  | .authorized => "authorized"
  | .captured => "captured"
  | .failed => "failed"
  | .refunded => "refunded"
  | .cancelled => "cancelled"

-- PaymentStatus(text)
def ofValue? (text : String) : Option GatewayStatus :=
  [.pending, .authorized, .captured, .failed, .refunded, .cancelled].find? (·.value == text)

end GatewayStatus

def mapGatewayStatus : GatewayStatus → PaymentStatus
  | .pending => .pending
  | .authorized => .authorized
  | .captured => .captured
  | .failed => .failed
  | .refunded => .refunded
  | .cancelled => .cancelled

inductive CustomerType
  | b2c | b2b
  deriving DecidableEq, Repr

inductive CustomerTypeRestriction
  | b2cOnly | b2bOnly | any
  deriving DecidableEq, Repr

namespace CustomerTypeRestriction

def value : CustomerTypeRestriction → String
  | .b2cOnly => "B2C"
  | .b2bOnly => "B2B"
  | .any => "any"

-- The two enumerations share their text for the two customer types.
def admits : CustomerTypeRestriction → CustomerType → Bool
  | .any, _ | .b2cOnly, .b2c | .b2bOnly, .b2b => true
  | _, _ => false

end CustomerTypeRestriction

inductive DiscountType
  | percentage | fixed
  deriving DecidableEq, Repr

inductive PaymentMethodType
  | card | purchaseOrder
  deriving DecidableEq, Repr

end Storefront
