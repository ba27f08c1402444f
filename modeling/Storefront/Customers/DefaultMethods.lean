import Storefront.Customers.Accounts
import Storefront.Transition.History

set_option autoImplicit false

/-!
# The default payment method

A customer marks one saved method as the default. A unique index stands behind the
requests that write the mark, each of which is one transaction.
-/

namespace Relational

open Schema Keyed

variable {β : Type} [Keyed β]

theorem Table.update_apart {t : Table β} {p : β → Bool} {f : β → β}
    (each : ∀ row ∈ t.rows, (entries (Table.updated p f row)).Nodup ∧ check (Table.updated p f row) = true)
    (apart : ∀ r ∈ t.rows, ∀ s ∈ t.rows, r ≠ s →
      List.Disjoint (entries (Table.updated p f r)) (entries (Table.updated p f s))) :
    ∃ t', t.update p f = some t' := by
  refine ⟨_, dif_pos ⟨List.nodup_flatMap.mpr ⟨?_, ?_⟩, ?_⟩⟩
  · intro row member
    obtain ⟨old, present, rfl⟩ := List.mem_map.mp member
    exact (each old present).1
  · rw [List.pairwise_map]
    exact t.nodup.pairwise_of_forall_ne apart
  · intro row member
    obtain ⟨old, present, rfl⟩ := List.mem_map.mp member
    exact (each old present).2

end Relational

namespace Storefront

open Relational Transition Text

-- What the customer is shown of a method.
structure MethodLabels where
  brand : String := ""
  last_four : String := ""
  po_account_label : String := ""
  deriving DecidableEq

-- The lengths of the columns
def MethodLabels.Fit (labels : MethodLabels) : Prop :=
  labels.brand.length ≤ 32 ∧ labels.last_four.length ≤ 4 ∧ labels.po_account_label.length ≤ 128

instance (labels : MethodLabels) : Decidable labels.Fit :=
  inferInstanceAs (Decidable (labels.brand.length ≤ 32 ∧ labels.last_four.length ≤ 4 ∧
    labels.po_account_label.length ≤ 128))

structure SavedMethod where
  method : PaymentMethod
  labels : MethodLabels
  is_default : Bool
  deriving DecidableEq

-- one_default_method_per_customer
instance : Keyed SavedMethod :=
  keyedBy (fun m => m.method.id) (fun m => if m.is_default then [.owner m.method.customer] else [])
    fun m => Schema.check m.method

namespace PaymentMethods

-- PaymentMethod.objects.filter(customer_id=.., is_default=True).exclude(id=..).update(is_default=False)
def clearDefault (tenant customer_id : Id) (exclude : Option Id) (methods : Table SavedMethod) :
    Outcome (Table SavedMethod) :=
  orRaise .integrityError (methods.update
    (fun m => m.method.tenant == tenant && m.method.customer == customer_id && m.is_default &&
      some m.method.id != exclude)
    fun m => { m with is_default := false })

-- The transaction of CustomerPaymentMethodListCreateView.create
def save (row : PaymentMethod) (labels : MethodLabels) (is_default : Bool) (methods : Table SavedMethod) :
    Outcome (Table SavedMethod) := do
  let methods ← if is_default then clearDefault row.tenant row.customer none methods else pure methods
  fits row.token 255
  require labels.Fit .dataError
  orRaise .integrityError (methods.insert ⟨row, labels, is_default⟩)

-- CustomerPaymentMethodDefaultView.put
def setDefault (tenant user customer_id method_id : Id) (methods : Table SavedMethod) :
    Outcome (Table SavedMethod) := do
  require (user = customer_id) (.forbidden "You can only access your own payment methods")
  let target ← orRaise (.resourceNotFound "Payment method not found") (methods.rows.find? fun m =>
    m.method.tenant == tenant && m.method.customer == customer_id && m.method.id == method_id)
  let methods ← clearDefault tenant customer_id (some target.method.id) methods
  if target.is_default then return methods
  else orRaise .integrityError (methods.update (fun m => m.method.id == target.method.id) fun m =>
    { m with is_default := true })

-- CustomerPaymentMethodDetailView.delete
def destroy (tenant user customer_id method_id : Id) (methods : Table SavedMethod) : Outcome (Table SavedMethod) := do
  require (user = customer_id) (.forbidden "You can only access your own payment methods")
  require (∃ m ∈ methods.rows, m.method.tenant = tenant ∧ m.method.customer = customer_id ∧ m.method.id = method_id)
    (.doesNotExist "PaymentMethod")
  return methods.delete fun m => m.method.tenant == tenant && m.method.id == method_id

end PaymentMethods

structure TokenizedPaymentMethod where
  gateway_token : String
  brand : String
  last_four : String

-- A gateway is handed a brand and the last four digits.
abbrev Tokenize := Adapter → String → String → Except Exn TokenizedPaymentMethod

namespace MethodLabels

def textField (field raw : String) : Outcome String := do
  let value := strip raw.toList
  require (Char.ofNat 0 ∉ value) (.validationError field "Null characters are not allowed.")
  return String.ofList value

def validate (labels : MethodLabels) : Outcome MethodLabels := do
  let brand ← textField "brand" labels.brand
  let last_four ← textField "last_four" labels.last_four
  let po_account_label ← textField "po_account_label" labels.po_account_label
  return { brand, last_four, po_account_label }

def tokenized (labels : MethodLabels) (tokenize : Tokenize) (adapter : Adapter) : Except Exn TokenizedPaymentMethod :=
  tokenize adapter (if labels.brand = "" then "visa" else labels.brand)
    (if labels.last_four = "" then "4242" else labels.last_four)

-- A purchase order has its label only, a card what the customer or the gateway says of it.
def written (settings : Settings) (tenant : Id) (v : PaymentMethodCreate) (labels : MethodLabels) (tokenize : Tokenize)
    (db : Db) : Outcome MethodLabels :=
  match v.method_type with
  | .purchaseOrder => return { po_account_label := labels.po_account_label }
  | .card => do
    if v.token = "" then
      let gateway_config ← resolveGatewayConfig settings tenant v.gateway_name db
      let card ← Adapter.get gateway_config.gateway_name >>= labels.tokenized tokenize
      return { brand := card.brand, last_four := card.last_four }
    else return { brand := labels.brand, last_four := labels.last_four }

end MethodLabels

inductive MethodRequest
  -- With what the request finds in the tables of the customers and the gateways.
  | create (db : Db) (id : Id) (data : PaymentMethodCreate) (labels : MethodLabels) (is_default : Bool)
    (tokenize : Tokenize)
  | setDefault (method_id : Id)
  | destroy (method_id : Id)

structure MethodCall where
  tenant : Id
  user : Id
  customer_id : Id
  request : MethodRequest

def MethodCall.run (settings : Settings) (call : MethodCall) (methods : Table SavedMethod) :
    Outcome (Table SavedMethod) :=
  match call.request with
  | .create db id data labels is_default tokenize => do
    require (call.user = call.customer_id) (.forbidden "You can only access your own payment methods")
    let labels ← labels.validate
    let row ← createPaymentMethod settings call.tenant call.user call.customer_id id data
      (fun adapter => TokenizedPaymentMethod.gateway_token <$> labels.tokenized tokenize adapter) db
    let v ← CreatePaymentMethodSerializer.validate data
    let written ← labels.written settings call.tenant v tokenize db
    PaymentMethods.save row written is_default methods
  | .setDefault method_id => PaymentMethods.setDefault call.tenant call.user call.customer_id method_id methods
  | .destroy method_id => PaymentMethods.destroy call.tenant call.user call.customer_id method_id methods

/-- The requests of customers, whom CustomerAuthMiddleware lets into their own tenants only. -/
def saving (settings : Settings) (home : Id → Id) : Machine (Table SavedMethod) MethodCall where
  Start methods := methods.rows = []
  step methods call := if home call.user = call.tenant then (call.run settings methods).toOption else none

-- Whose default is what, as the answered requests tell.
def learnDefault (known : Id → Option Id) (move : Move (Table SavedMethod) MethodCall) : Id → Option Id :=
  match move.label.request with
  | .create _ id _ _ is_default _ =>
    if is_default then Function.update known move.label.customer_id (some id) else known
  | .setDefault method_id => Function.update known move.label.customer_id (some method_id)
  | .destroy method_id =>
    if known move.label.customer_id = some method_id then Function.update known move.label.customer_id none else known

/-! ## The unique index -/

section Index

theorem SavedMethod.entries_apart {m m' : SavedMethod} (id : m.method.id ≠ m'.method.id)
    (alone : m.is_default = true → m'.is_default = true → m.method.customer ≠ m'.method.customer) :
    List.Disjoint (Schema.entries m) (Schema.entries m') := by
  intro (e : IndexEntry) inLeft inRight
  change e ∈ IndexEntry.primary m.method.id :: (if m.is_default then [.owner m.method.customer] else []) at inLeft
  change e ∈ IndexEntry.primary m'.method.id :: (if m'.is_default then [.owner m'.method.customer] else []) at inRight
  cases left : m.is_default <;> cases right : m'.is_default <;>
    simp only [left, right, if_true, Bool.false_eq_true, if_false, List.mem_cons, List.not_mem_nil, or_false]
      at inLeft inRight
  · exact id (IndexEntry.primary.inj (inLeft.symm.trans inRight))
  · rcases inRight with same | owner
    · exact id (IndexEntry.primary.inj (inLeft.symm.trans same))
    · cases inLeft.symm.trans owner
  · rcases inLeft with same | owner
    · exact id (IndexEntry.primary.inj (same.symm.trans inRight))
    · cases owner.symm.trans inRight
  · rcases inLeft with same | owner <;> rcases inRight with same' | owner'
    · exact id (IndexEntry.primary.inj (same.symm.trans same'))
    · cases same.symm.trans owner'
    · cases owner.symm.trans same'
    · exact alone left right (IndexEntry.owner.inj (owner.symm.trans owner'))

theorem SavedMethod.entries_nodup (m : SavedMethod) : (Schema.entries m).Nodup := by
  change (IndexEntry.primary m.method.id :: (if m.is_default then [.owner m.method.customer] else [])).Nodup
  cases m.is_default <;> simp

-- No two defaults of a customer are stored.
theorem default_alone {methods : Table SavedMethod} {m m' : SavedMethod} (left : m ∈ methods.rows)
    (right : m' ∈ methods.rows) (default_ : m.is_default = true) (default' : m'.is_default = true)
    (same : m.method.customer = m'.method.customer) : m = m' := by
  refine methods.eq_of_entry left right (e := IndexEntry.owner m.method.customer) ?_ ?_
  · change _ ∈ IndexEntry.primary m.method.id :: (if m.is_default then [.owner m.method.customer] else [])
    simp [default_]
  · change _ ∈ IndexEntry.primary m'.method.id :: (if m'.is_default then [.owner m'.method.customer] else [])
    simp [default', same]

theorem update_marks (methods : Table SavedMethod) (mark : Bool) {p : SavedMethod → Bool}
    (alone : ∀ m ∈ methods.rows, ∀ m' ∈ methods.rows, m ≠ m' →
      (Table.updated p (fun m => { m with is_default := mark }) m).is_default = true →
      (Table.updated p (fun m => { m with is_default := mark }) m').is_default = true →
        m.method.customer ≠ m'.method.customer) :
    ∃ methods', methods.update p (fun m => { m with is_default := mark }) = some methods' := by
  have method (m : SavedMethod) : (Table.updated p (fun m => { m with is_default := mark }) m).method = m.method := by
    unfold Table.updated
    split <;> rfl
  refine Table.update_apart (fun m member => ⟨SavedMethod.entries_nodup _, ?_⟩) fun m left m' right other => ?_
  · change Schema.check (Table.updated p (fun m => { m with is_default := mark }) m).method = true
    rw [method]
    exact methods.checked m member
  · refine SavedMethod.entries_apart ?_ ?_
    · rw [method, method]
      exact fun same => other (methods.eq_of_key left right same)
    · rw [method, method]
      exact alone m left m' right other

end Index

/-! ## What the requests write -/

namespace PaymentMethods

section Requests

variable {tenant user customer_id method_id : Id} {methods methods' : Table SavedMethod}

theorem clearDefault_accepted (tenant customer_id : Id) (exclude : Option Id) (methods : Table SavedMethod) :
    ∃ methods', clearDefault tenant customer_id exclude methods = .ok methods' := by
  have kept {p : SavedMethod → Bool} {m : SavedMethod}
      (marked : (Table.updated p (fun m => { m with is_default := false }) m).is_default = true) :
      m.is_default = true := by
    unfold Table.updated at marked
    split at marked
    · cases marked
    · exact marked
  obtain ⟨methods', updated⟩ := update_marks methods false
    (p := fun m => m.method.tenant == tenant && m.method.customer == customer_id && m.is_default &&
      some m.method.id != exclude)
    fun m left m' right other marked marked' same => other (default_alone left right (kept marked) (kept marked') same)
  exact ⟨methods', orRaise_eq_ok.mpr updated⟩

theorem clearDefault_rows {exclude : Option Id} (done : clearDefault tenant customer_id exclude methods = .ok methods')
    (own : ∀ m ∈ methods.rows, m.method.customer = customer_id → m.method.tenant = tenant) :
    methods'.rows = methods.rows.map fun m => { m with
      is_default := m.is_default && !(m.method.customer == customer_id && some m.method.id != exclude) } := by
  rw [Table.update_rows (orRaise_eq_ok.mp done)]
  refine List.map_congr_left fun m member => ?_
  obtain ⟨method, labels, marked⟩ := m
  by_cases mine : method.customer = customer_id
  · have home : method.tenant = tenant := own _ member mine
    cases marked <;> simp [Table.updated, mine, home]
    split <;> simp_all
  · simp [Table.updated, mine]

theorem setDefault_rows (done : setDefault tenant user customer_id method_id methods = .ok methods')
    (own : ∀ m ∈ methods.rows, m.method.customer = customer_id → m.method.tenant = tenant) :
    user = customer_id ∧ (∃ m ∈ methods.rows, m.method.customer = customer_id ∧ m.method.id = method_id) ∧
      methods'.rows = methods.rows.map fun m => { m with
        is_default := if m.method.customer = customer_id then m.method.id == method_id else m.is_default } := by
  simp only [setDefault, bind_eq_ok, require_eq_ok, orRaise_eq_ok] at done
  obtain ⟨_, mine, target, found, cleared, clears, marks⟩ := done
  have picked := List.find?_some found
  simp only [Bool.and_eq_true, beq_iff_eq] at picked
  obtain ⟨⟨_, whose⟩, named⟩ := picked
  have member := List.mem_of_find?_eq_some found
  have rows := clearDefault_rows clears own
  have only {m : SavedMethod} (inside : m ∈ methods.rows) (same : m.method.id = method_id) : m = target :=
    methods.eq_of_key inside member (same.trans named.symm)
  refine ⟨mine, ⟨target, member, whose, named⟩, ?_⟩
  split at marks
  next already =>
    obtain rfl := Except.ok.inj marks
    rw [rows]
    refine List.map_congr_left fun m inside => ?_
    by_cases same : m.method.id = method_id
    · obtain rfl := only inside same
      simp [whose, named, already]
    · have other : (some m.method.id != some target.method.id) = true :=
        bne_iff_ne.mpr fun equal => same ((Option.some.inj equal).trans named)
      by_cases his : m.method.customer = customer_id <;> simp [his, beq_false_of_ne same, other]
  · rw [Table.update_rows (orRaise_eq_ok.mp marks), rows, List.map_map]
    refine List.map_congr_left fun m inside => ?_
    by_cases same : m.method.id = method_id
    · obtain rfl := only inside same
      simp [Table.updated, whose, named]
    · have other : m.method.id ≠ target.method.id := fun equal => same (equal.trans named)
      have unlike : (some m.method.id != some target.method.id) = true :=
        bne_iff_ne.mpr fun equal => other (Option.some.inj equal)
      by_cases his : m.method.customer = customer_id <;>
        simp [Table.updated, his, beq_false_of_ne same, other, unlike]

theorem setDefault_accepted (own : ∀ m ∈ methods.rows, m.method.customer = customer_id → m.method.tenant = tenant) :
    (∃ methods', setDefault tenant user customer_id method_id methods = .ok methods') ↔
      user = customer_id ∧ ∃ m ∈ methods.rows, m.method.customer = customer_id ∧ m.method.id = method_id := by
  constructor
  · rintro ⟨methods', done⟩
    obtain ⟨mine, known, _⟩ := setDefault_rows done own
    exact ⟨mine, known⟩
  · rintro ⟨mine, target, member, whose, named⟩
    have found : methods.rows.find? (fun m => m.method.tenant == tenant && m.method.customer == customer_id &&
        m.method.id == method_id) = some target := by
      rw [← named]
      exact methods.find_of_mem (q := fun m => m.method.tenant == tenant && m.method.customer == customer_id) member
        (by simp [own target member whose, whose])
    obtain ⟨cleared, clears⟩ := clearDefault_accepted tenant customer_id (some target.method.id) methods
    simp only [setDefault, bind_eq_ok, require_eq_ok, orRaise_eq_ok]
    by_cases already : target.is_default = true
    · exact ⟨cleared, (), mine, target, found, cleared, clears, by rw [if_pos already]; rfl⟩
    · have rows := clearDefault_rows clears own
      have unmarked {m : SavedMethod} (inside : m ∈ cleared.rows) (his : m.method.customer = customer_id)
          (other : m.method.id ≠ target.method.id) : m.is_default = false := by
        rw [rows] at inside
        obtain ⟨before, _, rfl⟩ := List.mem_map.mp inside
        simp only at his other
        simp [his, other]
      have at_target {m : SavedMethod} (inside : m ∈ cleared.rows) (its : m.method.id = target.method.id) :
          m.method.customer = customer_id := by
        rw [rows] at inside
        obtain ⟨before, there, rfl⟩ := List.mem_map.mp inside
        obtain rfl := methods.eq_of_key there member its
        exact whose
      have after {m : SavedMethod} (marked : (Table.updated (fun m => m.method.id == target.method.id)
          (fun m => { m with is_default := true }) m).is_default = true) :
          m.method.id = target.method.id ∨ m.is_default = true := by
        unfold Table.updated at marked
        split at marked
        next its => exact .inl (beq_iff_eq.mp its)
        · exact .inr marked
      have one {m m' : SavedMethod} (left : m ∈ cleared.rows) (right : m' ∈ cleared.rows) (other : m ≠ m')
          (same : m.method.customer = m'.method.customer) (its : m.method.id = target.method.id) :
          m'.method.id ≠ target.method.id ∧ m'.is_default = false := by
        have apart : m'.method.id ≠ target.method.id := fun its' =>
          other (cleared.eq_of_key left right (its.trans its'.symm))
        exact ⟨apart, unmarked right (same.symm.trans (at_target left its)) apart⟩
      obtain ⟨methods', updated⟩ := update_marks cleared true
        (p := fun m => m.method.id == target.method.id) fun m left m' right other marked marked' same => by
          rcases after marked with its | default_
          · obtain ⟨apart, none_⟩ := one left right other same its
            rcases after marked' with its' | default'
            · exact apart its'
            · rw [none_] at default'
              cases default'
          · rcases after marked' with its' | default'
            · rw [(one right left other.symm same.symm its').2] at default_
              cases default_
            · exact other (default_alone left right default_ default' same)
      refine ⟨methods', (), mine, target, found, cleared, clears, ?_⟩
      rw [if_neg already]
      exact orRaise_eq_ok.mpr updated

theorem save_rows {row : PaymentMethod} {labels : MethodLabels} {is_default : Bool}
    (done : save row labels is_default methods = .ok methods')
    (own : ∀ m ∈ methods.rows, m.method.customer = row.customer → m.method.tenant = row.tenant) :
    row.token.length ≤ 255 ∧ labels.Fit ∧ (∀ m ∈ methods.rows, m.method.id ≠ row.id) ∧
      methods'.rows = (methods.rows.map fun m => { m with
        is_default := m.is_default && !(is_default && m.method.customer == row.customer) }) ++
          [⟨row, labels, is_default⟩] := by
  cases is_default with
  | false =>
    simp only [save, Bool.false_eq_true, if_false, bind_eq_ok, pure_eq_ok, orRaise_eq_ok, fits, require_eq_ok] at done
    obtain ⟨_, rfl, _, short, _, fit, inserted⟩ := done
    refine ⟨short, fit, fun m member => Table.insert_key_fresh inserted member, ?_⟩
    simpa using Table.insert_rows inserted
  | true =>
    simp only [save, if_true, bind_eq_ok, orRaise_eq_ok, fits, require_eq_ok] at done
    obtain ⟨cleared, clears, _, short, _, fit, inserted⟩ := done
    have rows := clearDefault_rows clears own
    refine ⟨short, fit, fun m member => ?_, ?_⟩
    · obtain ⟨m', member', same⟩ : ∃ m' ∈ cleared.rows, m'.method = m.method := by
        rw [rows]
        exact ⟨_, List.mem_map_of_mem member, rfl⟩
      exact same ▸ Table.insert_key_fresh inserted member'
    · have unlike (id : Id) : (some id != none) = true := rfl
      rw [Table.insert_rows inserted, rows]
      simp [unlike]

theorem save_accepted {row : PaymentMethod} {labels : MethodLabels} {is_default : Bool}
    (checked : Schema.check row = true)
    (own : ∀ m ∈ methods.rows, m.method.customer = row.customer → m.method.tenant = row.tenant) :
    (∃ methods', save row labels is_default methods = .ok methods') ↔
      row.token.length ≤ 255 ∧ labels.Fit ∧ ∀ m ∈ methods.rows, m.method.id ≠ row.id := by
  constructor
  · rintro ⟨methods', done⟩
    obtain ⟨short, fit, fresh, _⟩ := save_rows done own
    exact ⟨short, fit, fresh⟩
  · rintro ⟨short, fit, fresh⟩
    have inserts {before : Table SavedMethod} (ids : ∀ m ∈ before.rows, m.method.id ≠ row.id)
        (free : is_default = true → ∀ m ∈ before.rows, m.is_default = true → m.method.customer ≠ row.customer) :
        ∃ after, before.insert ⟨row, labels, is_default⟩ = some after := by
      refine Table.insert_isSome (fun m member e new old => ?_) (SavedMethod.entries_nodup _) checked
      refine SavedMethod.entries_apart (ids m member) (fun marked default_ => ?_) old new
      exact free default_ m member marked
    cases is_default with
    | false =>
      obtain ⟨after, inserted⟩ := inserts fresh fun marked => by cases marked
      refine ⟨after, ?_⟩
      simp only [save, Bool.false_eq_true, if_false, bind_eq_ok, pure_eq_ok, orRaise_eq_ok, fits, require_eq_ok]
      exact ⟨methods, rfl, (), short, (), fit, inserted⟩
    | true =>
      obtain ⟨cleared, clears⟩ := clearDefault_accepted row.tenant row.customer none methods
      have rows := clearDefault_rows clears own
      have before {m : SavedMethod} (inside : m ∈ cleared.rows) : m.method.id ≠ row.id ∧
          (m.is_default = true → m.method.customer ≠ row.customer) := by
        rw [rows] at inside
        obtain ⟨old, there, rfl⟩ := List.mem_map.mp inside
        refine ⟨fresh old there, fun marked same => ?_⟩
        simp only at same
        simp [same] at marked
      obtain ⟨after, inserted⟩ := inserts (fun m inside => (before inside).1) fun _ m inside => (before inside).2
      refine ⟨after, ?_⟩
      simp only [save, if_true, bind_eq_ok, orRaise_eq_ok, fits, require_eq_ok]
      exact ⟨cleared, clears, (), short, (), fit, inserted⟩

end Requests

end PaymentMethods

theorem createPaymentMethod_row {settings : Settings} {tenant user customer_id id : Id} {data : PaymentMethodCreate}
    {tokenize : Adapter → Except Exn String} {db : Db} {row : PaymentMethod}
    (done : createPaymentMethod settings tenant user customer_id id data tokenize db = .ok row) :
    user = customer_id ∧ row.id = id ∧ row.tenant = tenant ∧ row.customer = customer_id := by
  simp only [createPaymentMethod, bind_eq_ok, require_eq_ok] at done
  obtain ⟨_, mine, v, _, rest⟩ := done
  split at rest
  · simp only [bind_eq_ok, orRaise_eq_ok, require_eq_ok, pure_eq_ok] at rest
    obtain ⟨_, _, _, _, rfl⟩ := rest
    exact ⟨mine, rfl, rfl, rfl⟩
  · simp only [bind_eq_ok, pure_eq_ok] at rest
    obtain ⟨_, _, _, _, rfl⟩ := rest
    exact ⟨mine, rfl, rfl, rfl⟩

/-! ## Runs -/

/-- The marks are what the requests were answered. -/
structure DefaultsKnown (home : Id → Id) (known : Id → Option Id) (methods : Table SavedMethod) : Prop where
  own : ∀ m ∈ methods.rows, m.method.tenant = home m.method.customer
  flagged : ∀ m ∈ methods.rows, m.is_default = true ↔ known m.method.customer = some m.method.id
  stored : ∀ customer id, known customer = some id → ∃ m ∈ methods.rows, m.method.customer = customer ∧ m.method.id = id

section Steps

variable {settings : Settings} {home : Id → Id} {known : Id → Option Id} {methods methods' : Table SavedMethod}
  {call : MethodCall}

theorem DefaultsKnown.own_of (sound : DefaultsKnown home known methods) {tenant customer : Id}
    (homed : home customer = tenant) : ∀ m ∈ methods.rows, m.method.customer = customer → m.method.tenant = tenant :=
  fun m member his => (sound.own m member).trans ((congrArg home his).trans homed)

theorem DefaultsKnown.still_stored (sound : DefaultsKnown home known methods)
    (kept : ∀ m ∈ methods.rows, ∃ m' ∈ methods'.rows, m'.method = m.method) {customer id : Id}
    (holds : known customer = some id) : ∃ m ∈ methods'.rows, m.method.customer = customer ∧ m.method.id = id := by
  obtain ⟨m, before, his, its⟩ := sound.stored customer id holds
  obtain ⟨m', there, method⟩ := kept m before
  exact ⟨m', there, by rw [method, his], by rw [method, its]⟩

theorem DefaultsKnown.rewritten (sound : DefaultsKnown home known methods) (customer id : Id)
    (marks : SavedMethod → Bool)
    (theirs : ∀ m ∈ methods.rows, m.method.customer ≠ customer → marks m = m.is_default)
    (his : ∀ m ∈ methods.rows, m.method.customer = customer → (marks m = true ↔ m.method.id = id)) :
    ∀ m' ∈ methods.rows.map fun m => { m with is_default := marks m }, m'.method.tenant = home m'.method.customer ∧
      (m'.is_default = true ↔ Function.update known customer (some id) m'.method.customer = some m'.method.id) := by
  intro m' inside
  obtain ⟨m, member, rfl⟩ := List.mem_map.mp inside
  refine ⟨sound.own m member, ?_⟩
  by_cases mine : m.method.customer = customer
  · simp only [mine, Function.update_self, his m member mine, Option.some.injEq, eq_comm]
  · simp only [theirs m member mine, Function.update_of_ne mine, sound.flagged m member]

theorem DefaultsKnown.setDefault (sound : DefaultsKnown home known methods) {tenant user customer_id method_id : Id}
    (homed : home user = tenant)
    (done : PaymentMethods.setDefault tenant user customer_id method_id methods = .ok methods') :
    DefaultsKnown home (Function.update known customer_id (some method_id)) methods' := by
  have mine : user = customer_id := by
    simp only [PaymentMethods.setDefault, bind_eq_ok, require_eq_ok] at done
    obtain ⟨_, mine, _⟩ := done
    exact mine
  subst mine
  obtain ⟨_, ⟨target, member, whose, named⟩, rows⟩ := PaymentMethods.setDefault_rows done (sound.own_of homed)
  have after := sound.rewritten user method_id
    (fun m => if m.method.customer = user then m.method.id == method_id else m.is_default)
    (fun m _ other => if_neg other) fun m _ same => by simp [same]
  refine ⟨fun m inside => (after m (rows ▸ inside)).1, fun m inside => (after m (rows ▸ inside)).2, ?_⟩
  have kept (m : SavedMethod) (there : m ∈ methods.rows) : ∃ m' ∈ methods'.rows, m'.method = m.method := by
    rw [rows]
    exact ⟨_, List.mem_map_of_mem there, rfl⟩
  intro customer id holds
  by_cases same : customer = user
  · subst same
    rw [Function.update_self] at holds
    obtain ⟨m', there, method⟩ := kept target member
    exact ⟨m', there, by rw [method, whose], by rw [method, named, Option.some.inj holds]⟩
  · rw [Function.update_of_ne same] at holds
    exact sound.still_stored kept holds

theorem DefaultsKnown.save (sound : DefaultsKnown home known methods) {row : PaymentMethod}
    {labels : MethodLabels} {is_default : Bool} (homed : home row.customer = row.tenant)
    (done : PaymentMethods.save row labels is_default methods = .ok methods') :
    DefaultsKnown home (if is_default then Function.update known row.customer (some row.id) else known) methods' := by
  obtain ⟨_, _, fresh, rows⟩ := PaymentMethods.save_rows done (sound.own_of homed)
  have old {m' : SavedMethod} (inside : m' ∈ methods.rows.map fun m => { m with
      is_default := m.is_default && !(is_default && m.method.customer == row.customer) }) :
      ∃ m ∈ methods.rows, m'.method = m.method ∧
        m'.is_default = (m.is_default && !(is_default && m.method.customer == row.customer)) := by
    obtain ⟨m, member, rfl⟩ := List.mem_map.mp inside
    exact ⟨m, member, rfl, rfl⟩
  have kept (m : SavedMethod) (there : m ∈ methods.rows) : ∃ m' ∈ methods'.rows, m'.method = m.method := by
    rw [rows]
    exact ⟨_, List.mem_append_left _ (List.mem_map_of_mem there), rfl⟩
  have new : (⟨row, labels, is_default⟩ : SavedMethod) ∈ methods'.rows := by simp [rows]
  refine ⟨fun m' inside => ?_, fun m' inside => ?_, fun customer id holds => ?_⟩
  · rw [rows, List.mem_append, List.mem_singleton] at inside
    rcases inside with before | rfl
    · obtain ⟨m, member, method, _⟩ := old before
      rw [method]
      exact sound.own m member
    · exact homed.symm
  · rw [rows, List.mem_append, List.mem_singleton] at inside
    rcases inside with before | rfl
    · obtain ⟨m, member, method, marks⟩ := old before
      rw [marks, method]
      have flagged := sound.flagged m member
      cases is_default with
      | false => simpa using flagged
      | true =>
        by_cases mine : m.method.customer = row.customer
        · simp [mine, (fresh m member).symm]
        · simp [mine, flagged]
    · cases is_default with
      | false =>
        have unknown : known row.customer ≠ some row.id := fun holds => by
          obtain ⟨m, member, _, its⟩ := sound.stored _ _ holds
          exact fresh m member its
        simp [unknown]
      | true => simp
  · cases is_default with
    | false => exact sound.still_stored kept (by simpa using holds)
    | true =>
      rw [if_pos rfl] at holds
      by_cases same : customer = row.customer
      · subst same
        rw [Function.update_self] at holds
        exact ⟨_, new, rfl, Option.some.inj holds⟩
      · exact sound.still_stored kept (by rwa [Function.update_of_ne same] at holds)

theorem DefaultsKnown.destroy (sound : DefaultsKnown home known methods) {tenant user customer_id method_id : Id}
    (done : PaymentMethods.destroy tenant user customer_id method_id methods = .ok methods') :
    DefaultsKnown home
      (if known customer_id = some method_id then Function.update known customer_id none else known) methods' := by
  simp only [PaymentMethods.destroy, bind_eq_ok, require_eq_ok, pure_eq_ok] at done
  obtain ⟨_, rfl, _, ⟨target, there, its, whose, named⟩, rfl⟩ := done
  have left {m : SavedMethod} :
      m ∈ (methods.delete fun m => m.method.tenant == tenant && m.method.id == method_id).rows ↔
      m ∈ methods.rows ∧ m.method.id ≠ method_id := by
    simp only [Table.delete_rows, List.mem_filter, Bool.not_eq_true', Bool.and_eq_false_iff, beq_eq_false_iff_ne]
    refine and_congr_right fun member => ⟨fun apart same => ?_, .inr⟩
    obtain rfl := methods.eq_of_key member there (same.trans named.symm)
    exact apart.elim (· its) (· named)
  refine ⟨fun m inside => sound.own m (left.mp inside).1, fun m inside => ?_, fun customer id holds => ?_⟩
  · obtain ⟨member, other⟩ := left.mp inside
    have flagged := sound.flagged m member
    split
    next was =>
      by_cases mine : m.method.customer = user
      · rw [mine] at flagged ⊢
        simp [flagged, was, other.symm]
      · rw [Function.update_of_ne mine]
        exact flagged
    · exact flagged
  · have earlier (before : known customer = some id) (apart : ¬ (customer = user ∧ id = method_id)) :
        ∃ m ∈ (methods.delete fun m => m.method.tenant == tenant && m.method.id == method_id).rows,
          m.method.customer = customer ∧ m.method.id = id := by
      obtain ⟨m, member, his, its'⟩ := sound.stored customer id before
      refine ⟨m, left.mpr ⟨member, fun same => apart ?_⟩, his, its'⟩
      obtain rfl := methods.eq_of_key member there (same.trans named.symm)
      exact ⟨his.symm.trans whose, its'.symm.trans named⟩
    split at holds
    next was =>
      by_cases same : customer = user
      · rw [same, Function.update_self] at holds
        cases holds
      · rw [Function.update_of_ne same] at holds
        exact earlier holds fun both => same both.1
    next other =>
      refine earlier holds fun both => other ?_
      rw [← both.1, ← both.2]
      exact holds

theorem DefaultsKnown.step (sound : DefaultsKnown home known methods)
    (taken : (saving settings home).step methods call = some methods') :
    DefaultsKnown home (learnDefault known ⟨methods, call, methods'⟩) methods' := by
  simp only [saving] at taken
  split at taken
  next homed =>
    obtain ⟨tenant, user, customer_id, request⟩ := call
    have done : MethodCall.run settings ⟨tenant, user, customer_id, request⟩ methods = .ok methods' := by
      cases ran : MethodCall.run settings ⟨tenant, user, customer_id, request⟩ methods with
      | ok written =>
        rw [ran] at taken
        exact congrArg Except.ok (Option.some.inj taken)
      | error =>
        rw [ran] at taken
        cases taken
    cases request with
    | create db id data labels is_default tokenize =>
      simp only [MethodCall.run, bind_eq_ok] at done
      obtain ⟨_, _, _, _, row, created, _, _, _, _, saved⟩ := done
      obtain ⟨rfl, rfl, rfl, rfl⟩ := createPaymentMethod_row created
      exact sound.save homed saved
    | setDefault method_id => exact sound.setDefault homed done
    | destroy method_id => exact sound.destroy done
  · cases taken

end Steps

/-- What a customer's default is, and which requests are refused. -/
structure DefaultMethods (home : Id → Id) (known : Id → Option Id) (methods : Table SavedMethod) : Prop where
  -- The one default is what the customer's last answered request made it.
  default_ : ∀ customer, (methods.rows.filter fun m => m.method.customer = customer ∧ m.is_default = true).map
    (fun m => m.method.id) = (known customer).toList
  -- The index refuses nobody.
  sets : ∀ user customer_id method_id,
    (∃ methods', PaymentMethods.setDefault (home user) user customer_id method_id methods = .ok methods') ↔
      user = customer_id ∧ ∃ m ∈ methods.rows, m.method.customer = customer_id ∧ m.method.id = method_id
  saves : ∀ (row : PaymentMethod) labels is_default, home row.customer = row.tenant → Schema.check row = true →
    ((∃ methods', PaymentMethods.save row labels is_default methods = .ok methods') ↔
      row.token.length ≤ 255 ∧ labels.Fit ∧ ∀ m ∈ methods.rows, m.method.id ≠ row.id)

theorem DefaultsKnown.default_ {home : Id → Id} {known : Id → Option Id} {methods : Table SavedMethod}
    (sound : DefaultsKnown home known methods) (customer : Id) :
    (methods.rows.filter fun m => m.method.customer = customer ∧ m.is_default = true).map (fun m => m.method.id) =
      (known customer).toList := by
  cases holds : known customer with
  | none =>
    rw [Option.toList_none, List.map_eq_nil_iff, List.filter_eq_nil_iff]
    intro m member picked
    obtain ⟨his, marked⟩ := of_decide_eq_true picked
    have flagged := (sound.flagged m member).mp marked
    rw [his, holds] at flagged
    cases flagged
  | some id =>
    obtain ⟨m, member, his, its⟩ := sound.stored customer id holds
    have one : (methods.rows.filter fun m => m.method.customer = customer ∧ m.is_default = true) =
        methods.rows.filter fun m' => Keyed.key m' == Keyed.key m := by
      refine List.filter_congr fun m' inside => ?_
      rw [Bool.eq_iff_iff, decide_eq_true_eq, beq_iff_eq]
      constructor
      · rintro ⟨same, marked⟩
        have flagged := (sound.flagged m' inside).mp marked
        rw [same, holds] at flagged
        exact (Option.some.inj flagged).symm.trans its.symm
      · intro same
        obtain rfl := methods.eq_of_key inside member same
        exact ⟨his, (sound.flagged m' inside).mpr (by rw [his, holds, its])⟩
    rw [one, filter_key methods.keys_nodup member]
    simp [its]

theorem default_methods (settings : Settings) (home : Id → Id) {methods₀ methods : Table SavedMethod}
    {moves : List (Move (Table SavedMethod) MethodCall)} (run : (saving settings home).Run methods₀ moves methods) :
    DefaultMethods home (history learnDefault (fun _ => none) moves) methods := by
  have sound : DefaultsKnown home (history learnDefault (fun _ => none) moves) methods :=
    run.agrees (R := DefaultsKnown home) (fun t (empty : t.rows = []) => ⟨by simp [empty], by simp [empty], by simp⟩)
      fun _ _ _ _ sound taken => sound.step taken
  refine ⟨sound.default_, fun user customer_id method_id => ?_, fun row labels is_default homed checked => ?_⟩
  · by_cases mine : user = customer_id
    · subst mine
      exact PaymentMethods.setDefault_accepted (sound.own_of rfl)
    · refine iff_of_false (fun accepted => ?_) fun both => mine both.1
      obtain ⟨_, done⟩ := accepted
      simp only [PaymentMethods.setDefault, bind_eq_ok, require_eq_ok] at done
      obtain ⟨_, same, _⟩ := done
      exact mine same
  · exact PaymentMethods.save_accepted checked (sound.own_of homed)

namespace Sample

def saveCard (id : Id) (is_default : Bool) : MethodCall :=
  { tenant := 1, user := 10, customer_id := 10
    request := .create shop id { gateway_name := "mock" } {} is_default fun _ brand last_four =>
      .ok ⟨"tok_mock", brand, last_four⟩ }

def wallet : Machine (Table SavedMethod) MethodCall := saving { payments_allow_mock_gateway := true } fun _ => 1

-- The second card takes the mark, and the first gets it back.
def markedTwice : List MethodCall :=
  [saveCard 80 true, saveCard 81 true, { tenant := 1, user := 10, customer_id := 10, request := .setDefault 80 }]

def afterMarks : Table SavedMethod := (wallet.exec ∅ markedTwice).get (by decide +kernel)

theorem markedTwice_run : wallet.exec ∅ markedTwice = some afterMarks := (Option.some_get _).symm

end Sample

theorem default_methods_twice : ∃ moves, Sample.wallet.Run ∅ moves Sample.afterMarks ∧
    DefaultMethods (fun _ => 1) (history learnDefault (fun _ => none) moves) Sample.afterMarks ∧
      Sample.afterMarks.rows.map (fun m => (m.method.id, m.is_default)) = [(80, true), (81, false)] := by
  have start : Sample.wallet.Start ∅ := Table.rows_empty
  obtain ⟨moves, run⟩ := Machine.exec_run start Sample.markedTwice_run
  exact ⟨moves, run, default_methods _ _ run, by decide +kernel⟩

end Storefront
