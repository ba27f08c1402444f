import Storefront.Carts.Service
import Storefront.Orders.Checkout
import Storefront.Models.Fields

set_option autoImplicit false

/-!
# Customers and their saved payment methods

The admin creates and edits customers, the customer saves payment methods. Each
request reads and checks first and writes a whole row in the end. No lock is held
in between.
-/

namespace Storefront

open Relational Transition Text

-- A CharField that may be left blank.
def blankCharField (field : String) (max_length : Nat) (raw : String) : Outcome String := do
  let value := strip raw.toList
  require (value.length ≤ max_length)
    (.validationError field s!"Ensure this field has no more than {max_length} characters.")
  require (Char.ofNat 0 ∉ value) (.validationError field "Null characters are not allowed.")
  return String.ofList value

-- A ChoiceField that may be left blank.
def blankChoiceField (field : String) (choices : List String) (value : String) : Outcome Unit :=
  require (value = "" ∨ value ∈ choices) (.validationError field s!"\"{value}\" is not a valid choice.")

/-! ## The admin's requests -/

-- Python reports every missing field; the first of them stands for the error.
def validateB2bFields (customer_type : Option CustomerType) (tax_id company_name : String) : Outcome Unit := do
  require (customer_type = some .b2b → tax_id ≠ "") (.validationError "tax_id" "Required for B2B customers.")
  require (customer_type = some .b2b → company_name ≠ "")
    (.validationError "company_name" "Required for B2B customers.")

structure CustomerCreate where
  email : String
  customer_type : Option CustomerType := none
  tax_id : Option String := none
  company_name : Option String := none

structure CustomerUpdate where
  customer_type : Option CustomerType := none
  tax_id : Option String := none
  company_name : Option String := none

-- `lower` is str.lower.
def AdminCustomerCreateSerializer.validateEmail (lower : String → String) (tenant : Id) (value : String) (db : Db) :
    Outcome String := do
  let normalized := lower (String.ofList (strip value.toList))
  require (normalized ≠ "") (.validationError "email" "Email is required.")
  require (∀ c ∈ db.customers.rows, c.tenant = tenant → c.email ≠ normalized)
    (.validationError "email" s!"A customer with email '{normalized}' already exists on this tenant.")
  return normalized

-- AdminCustomerListCreateView.post up to the INSERT
def createCustomer (lower : String → String) (tenant id : Id) (data : CustomerCreate) (db : Db) :
    Outcome Customer := do
  let email ← AdminCustomerCreateSerializer.validateEmail lower tenant data.email db
  let tax_id ← data.tax_id.mapM (blankCharField "tax_id" 64)
  let company_name ← data.company_name.mapM (blankCharField "company_name" 255)
  validateB2bFields data.customer_type (tax_id.getD "") (company_name.getD "")
  return { id
           tenant
           email
           customer_type := data.customer_type.getD .b2c
           tax_id := tax_id.getD ""
           company_name := company_name.getD "" }

-- AdminCustomerDetailView.patch up to the UPDATE, which writes every column of the instance.
def patchCustomer (tenant customer : Id) (data : CustomerUpdate) (db : Db) : Outcome Customer := do
  let c ← orRaise (.customerNotFound "Customer not found") (db.customer tenant customer)
  let tax_id ← data.tax_id.mapM (blankCharField "tax_id" 64)
  let company_name ← data.company_name.mapM (blankCharField "company_name" 255)
  let merged := { c with
    customer_type := data.customer_type.getD c.customer_type
    tax_id := tax_id.getD c.tax_id
    company_name := company_name.getD c.company_name }
  validateB2bFields (some merged.customer_type) merged.tax_id merged.company_name
  return merged

/-! ## The customer's payment methods -/

-- A blank text stands for an absent one too.
structure PaymentMethodCreate where
  method_type : PaymentMethodType := .card
  gateway_name : String := ""
  token : String := ""
  payment_terms : String := ""

def GATEWAY_NAMES : List String := ["mock", "stripe", "stripe_live", "hyperpay", "tap"]

def CreatePaymentMethodSerializer.validate (data : PaymentMethodCreate) : Outcome PaymentMethodCreate := do
  blankChoiceField "gateway_name" GATEWAY_NAMES data.gateway_name
  let token := strip data.token.toList
  require (Char.ofNat 0 ∉ token) (.validationError "token" "Null characters are not allowed.")
  blankChoiceField "payment_terms" ["net_15", "net_30", "net_60", "net_90"] data.payment_terms
  require (data.method_type = .card → data.gateway_name ≠ "")
    (.validationError "gateway_name" "Required for card payment methods.")
  require (data.method_type = .purchaseOrder → data.payment_terms ≠ "")
    (.validationError "payment_terms" "Required for purchase_order payment methods.")
  return { data with token := String.ofList token }

-- The customer's own token, or the one the gateway answers with.
def tokenOf (gateway_config : PaymentGatewayConfig) (token : String) (tokenize : Adapter → Except Exn String) :
    Outcome String :=
  if token = "" then Adapter.get gateway_config.gateway_name >>= tokenize else .ok token

-- CustomerPaymentMethodListCreateView.create up to its transaction
def createPaymentMethod (settings : Settings) (tenant user customer_id id : Id) (data : PaymentMethodCreate)
    (tokenize : Adapter → Except Exn String) (db : Db) : Outcome PaymentMethod := do
  require (user = customer_id) (.forbidden "You can only access your own payment methods")
  let v ← CreatePaymentMethodSerializer.validate data
  match v.method_type with
  | .purchaseOrder => do
    let customer ← orRaise (.doesNotExist "Customer") (db.customer tenant customer_id)
    require (customer.is_b2b = true)
      (.forbidden "Purchase-order payment methods are restricted to B2B customers")
    return { id
             tenant
             customer := customer_id
             method_type := .purchaseOrder
             gateway_config := none
             token := ""
             payment_terms := if v.payment_terms = "" then "net_30" else v.payment_terms }
  | .card => do
    let gateway_config ← resolveGatewayConfig settings tenant v.gateway_name db
    let token ← tokenOf gateway_config v.token tokenize
    return { id
             tenant
             customer := customer_id
             method_type := .card
             gateway_config := some gateway_config.id
             token
             payment_terms := "" }

/-! ## Writes -/

inductive Draft
  | newCustomer (row : Customer)
  | customer (row : Customer)
  | paymentMethod (row : PaymentMethod)

def Draft.save (db : Db) : Draft → Outcome Db
  | .newCustomer row => stored (db.customers.insert row) fun customers => { db with customers }
  | .customer row =>
    stored (db.customers.update (fun c => c.id == row.id) fun _ => row) fun customers => { db with customers }
  | .paymentMethod row => do
    fits row.token 255
    stored (db.paymentMethods.insert row) fun paymentMethods => { db with paymentMethods }

/-! ## Who buys on credit -/

def Db.MayOwe (db : Db) (customer : Id) : Prop := ∃ c ∈ db.customers.rows, c.id = customer ∧ c.customer_type = .b2b

def Draft.KeepsCredit (db : Db) : Draft → Prop
  | .newCustomer _ => True
  | .customer row => row.customer_type = .b2b ∨
      ∀ m ∈ db.paymentMethods.rows, m.customer = row.id → isPurchaseOrder m = false
  | .paymentMethod row => isPurchaseOrder row = true → db.MayOwe row.customer

instance (db : Db) (customer : Id) : Decidable (db.MayOwe customer) :=
  inferInstanceAs (Decidable (∃ c ∈ db.customers.rows, c.id = customer ∧ c.customer_type = .b2b))

instance (db : Db) : (draft : Draft) → Decidable (draft.KeepsCredit db)
  | .newCustomer _ => .isTrue trivial
  | .customer row => inferInstanceAs (Decidable (row.customer_type = .b2b ∨
      ∀ m ∈ db.paymentMethods.rows, m.customer = row.id → isPurchaseOrder m = false))
  | .paymentMethod row => inferInstanceAs (Decidable (isPurchaseOrder row = true → db.MayOwe row.customer))

def Db.CreditB2b (db : Db) : Prop := ∀ m ∈ db.paymentMethods.rows, isPurchaseOrder m = true → db.MayOwe m.customer

theorem Draft.save_credit {draft : Draft} {db db' : Db} (done : draft.save db = .ok db')
    (known : ∀ row, draft = .customer row → ∃ c ∈ db.customers.rows, c.id = row.id) (credit : db.CreditB2b) :
    db'.CreditB2b ↔ draft.KeepsCredit db := by
  cases draft with
  | newCustomer row =>
    obtain ⟨customers, inserted, rfl⟩ := stored_eq_ok.mp done
    refine iff_of_true (fun m member owed => ?_) trivial
    obtain ⟨c, present, named, b2b⟩ := credit m member owed
    exact ⟨c, by simp [Table.insert_rows inserted, present], named, b2b⟩
  | customer row =>
    obtain ⟨customers, updated, rfl⟩ := stored_eq_ok.mp done
    obtain ⟨old, there, same⟩ := known row rfl
    have rows := Table.update_rows updated
    have written : row ∈ customers.rows := by
      rw [rows]
      exact List.mem_map.mpr ⟨old, there, by simp [Table.updated, same]⟩
    constructor
    · intro after
      by_cases b2b : row.customer_type = .b2b
      · exact .inl b2b
      · refine .inr fun m member mine => ?_
        by_contra owed
        obtain ⟨c, present, named, type⟩ := after m member (by simpa using owed)
        obtain rfl := customers.eq_of_key present written (named.trans mine)
        exact b2b type
    · intro keeps m member owed
      obtain ⟨c, present, named, type⟩ := credit m member owed
      by_cases mine : c.id = row.id
      · rcases keeps with b2b | none
        · exact ⟨row, written, mine.symm.trans named, b2b⟩
        · rw [none m member (named.symm.trans mine)] at owed
          cases owed
      · refine ⟨c, ?_, named, type⟩
        rw [rows]
        exact List.mem_map.mpr ⟨c, present, by simp [Table.updated, mine]⟩
  | paymentMethod row =>
    simp only [Draft.save, bind_eq_ok] at done
    obtain ⟨_, _, saved⟩ := done
    obtain ⟨methods, inserted, rfl⟩ := stored_eq_ok.mp saved
    simp only [Db.CreditB2b, Draft.KeepsCredit, Table.insert_rows inserted, List.mem_append, List.mem_singleton]
    constructor
    · intro after owed
      exact after row (.inr rfl) owed
    · rintro keeps m (old | rfl) owed
      · exact credit m old owed
      · exact keeps owed

end Storefront
