import Storefront.Orders.Checkout

set_option autoImplicit false

/-!
# The saga

`checkout` runs the phases of one call in the order of the source. `advance`
takes the same call one block at a time, so that other work may come between.
-/

namespace Storefront

open Relational Transition

-- Where a call is between two of its blocks, with the locals it holds there.
inductive Pc
  | find
  | lock
  | validate (view : CartView)
  | reserve (view : CartView)
  | create (view : CartView) (reservations : List Id)
  | invoice (placed : Placed)
  | convertInvoiced (placed : Placed) (payment : Payment)
  | resolve (placed : Placed)
  | insertPayment (placed : Placed) (config : PaymentGatewayConfig)
  | authorize (placed : Placed) (payment : Payment)
  | recordError (placed : Placed) (payment : Payment) (e : Exn)
  | recordResult (placed : Placed) (payment : Payment) (intent : PaymentIntent)
  | convert (placed : Placed) (payment : Payment)
  | captureRead (placed : Placed) (payment : Payment)
  | capture (placed : Placed) (row : Payment)
  | captureWrite (placed : Placed) (row : Payment) (intent : PaymentIntent)
  | paid (placed : Placed) (payment : Payment)
  | undo (todo : List Undo) (cart : Id) (frame : Frame) (e : Exn)
  | done (frame : Frame) (result : Except Exn CheckoutResult)
  -- An exception inside an except clause: the rest of it never runs.
  | crashed (todo : List Undo) (frame : Frame) (e : Exn)

-- The blocks, to name the oracle each of them consults.
inductive Point
  | find | lock | validate | reserve | create | invoice | convertInvoiced | resolve | insertPayment
  | authorize | recordError | recordResult | convert | captureRead | capture | captureWrite | paid
  | undo (action : Undo)
  deriving DecidableEq, Repr

inductive GatewayOperation
  | authorize | capture | refund
  deriving DecidableEq, Repr

structure GatewayCall where
  operation : GatewayOperation
  idempotency_key : String
  deriving DecidableEq, Repr

def Placed.frame (placed : Placed) (payment : Option Payment) : Frame :=
  { reservations := placed.reservations, order := some placed.order, payment }

namespace Pc

def frame : Pc → Frame
  | find | lock | validate _ | reserve _ => {}
  | create _ reservations => { reservations }
  | invoice placed | resolve placed | insertPayment placed _ => placed.frame none
  | convertInvoiced placed payment | authorize placed payment | recordError placed payment _
  | recordResult placed payment _ | convert placed payment | captureRead placed payment
  | capture placed payment | captureWrite placed payment _ | paid placed payment =>
    placed.frame (some payment)
  | undo _ _ frame _ | done frame _ | crashed _ frame _ => frame

def ended : Pc → Bool
  | done .. | crashed .. => true
  | _ => false

def point : Pc → Point
  | find => .find
  | lock => .lock
  | validate _ => .validate
  | reserve _ => .reserve
  | create .. => .create
  | invoice _ => .invoice
  | convertInvoiced .. => .convertInvoiced
  | resolve _ => .resolve
  | insertPayment .. => .insertPayment
  | authorize .. => .authorize
  | recordError .. => .recordError
  | recordResult .. => .recordResult
  | convert .. => .convert
  | captureRead .. => .captureRead
  | capture .. => .capture
  | captureWrite .. => .captureWrite
  | paid .. => .paid
  | undo (action :: _) _ _ _ => .undo action
  | undo [] _ _ _ | done .. | crashed .. => .find

end Pc

-- `except PaymentFailed` around authorize_payment.
def authorizeRaised (placed : Placed) (payment : Option Payment) (e : Exn) : Pc :=
  if e.isPaymentFailed then .undo undoOrdered placed.view.cart.id (placed.frame payment) e
  else .done (placed.frame payment) (.error e)

-- The branch on the payment method, once the order stands.
def afterOrder (placed : Placed) : Pc :=
  match placed.view.paymentMethod with
  | none =>
    .done (placed.frame none)
      (.error (.attributeError "'NoneType' object has no attribute 'method_type'"))
  | some method => if isPurchaseOrder method then .invoice placed else .resolve placed

-- The branch on the authorized payment's status, once the cart is converted.
def afterConvert (placed : Placed) (payment : Payment) : Pc :=
  if payment.status = .authorized then .captureRead placed payment
  else if payment.status = .pending then
    .done (placed.frame (some payment)) (.ok (pendingResult placed payment))
  else .done (placed.frame (some payment)) (.error (unexpectedStatus payment))

def capturePending (placed : Placed) (payment : Payment) : Pc :=
  .done (placed.frame (some payment)) (.ok (placed.result "capture_pending"))

/-- One block of a call: the next program counter, the database, and the calls
the gateway received. -/
def advance (settings : Settings) (req : Request) (oracle : Oracle) (db : Db) :
    Pc → Pc × Db × List GatewayCall
  | .find => match oracle.guard (.ok (findExistingCheckout req db)) with
    | .ok none => (.lock, db, [])
    | .ok (some existing) => (.done {} (.ok existing), db, [])
    | .error e => (.done {} (.error e), db, [])
  | .lock => match oracle.guard (lockCart req oracle.now db) with
    | .ok (view, db') => (.validate view, db', [])
    | .error e => (.done {} (.error e), db, [])
  | .validate view => match oracle.guard (validatePreconditions oracle.now view) with
    | .ok _ => (.reserve view, db, [])
    | .error e => (.undo [.revertCart] view.cart.id {} e, db, [])
  | .reserve view => match oracle.guard (reserveStock req.tenant oracle.now oracle.draw view db) with
    | .ok (reservations, db') => (.create view reservations, db', [])
    | .error e => (.undo [.revertCart] view.cart.id {} e, db, [])
  | .create view reservations => match oracle.guard (createOrder req oracle view db) with
    | .ok (order, db') => (afterOrder ⟨view, reservations, order⟩, db', [])
    | .error e => (.undo undoReserved view.cart.id { reservations } e, db, [])
  | .invoice placed =>
    let payment := invoicePayment req oracle placed
    match oracle.guard (createPayment payment db) with
    | .ok db' => (.convertInvoiced placed payment, db', [])
    | .error e => (.undo undoOrdered placed.view.cart.id (placed.frame none) e, db, [])
  | .convertInvoiced placed payment => match oracle.guard (convertInvoiced req oracle.now placed db) with
    | .ok db' =>
      (.done (placed.linked.frame (some payment)) (.ok (placed.result "invoice_pending")), db', [])
    | .error e => (.done (placed.frame (some payment)) (.error e), db, [])
  | .resolve placed =>
    let method := placed.view.cart.selected_payment_method.getD 0
    match oracle.guard (authorizeTarget settings req.tenant method placed.order.currency db) with
    | .ok config => (.insertPayment placed config, db, [])
    | .error e => (authorizeRaised placed none e, db, [])
  | .insertPayment placed config =>
    let payment := cardPayment req oracle placed config
    match oracle.guard (createPayment payment db) with
    | .ok db' => (.authorize placed payment, db', [])
    | .error e => (authorizeRaised placed none e, db, [])
  | .authorize placed payment =>
    let call := ⟨.authorize, payment.idempotency_key⟩
    match oracle.answer with
    | .ok intent => (.recordResult placed payment intent, db, [call])
    | .error e => (.recordError placed payment e, db, [call])
  | .recordError placed payment e =>
    match oracle.guard (.ok (recordPaymentError req.tenant payment.id e.str db)) with
    | .ok db' => (authorizeRaised placed (some payment) (gatewayError e), db', [])
    | .error e' => (authorizeRaised placed (some payment) e', db, [])
  | .recordResult placed payment intent =>
    match oracle.guard (recordPaymentResult req.tenant payment.id intent db) with
    | .ok db' =>
      if intent.status = .failed then (authorizeRaised placed (some payment) (declined intent), db', [])
      else (.convert placed (authorized payment intent), db', [])
    | .error e => (authorizeRaised placed (some payment) e, db, [])
  | .convert placed payment => match oracle.guard (commitCart req oracle.now placed db) with
    | .ok db' => (afterConvert placed.linked payment, db', [])
    | .error e => (.done (placed.frame (some payment)) (.error e), db, [])
  | .captureRead placed payment => match oracle.guard (captureRead req.tenant payment.id db) with
    | .ok none => (.paid placed payment, db, [])
    | .ok (some row) => (.capture placed row, db, [])
    | .error _ => (capturePending placed payment, db, [])
  | .capture placed row =>
    let call := ⟨.capture, row.idempotency_key ++ ":capture"⟩
    match oracle.answer with
    | .ok intent => (.captureWrite placed row intent, db, [call])
    | .error _ => (capturePending placed row, db, [call])
  | .captureWrite placed row intent =>
    match oracle.guard (.ok (captureWrite req.tenant row.id intent db)) with
    | .ok db' => (.paid placed row, db', [])
    | .error _ => (capturePending placed row, db, [])
  | .paid placed payment => match oracle.guard (markCaptured req placed db) with
    | .ok db' => (.done (placed.frame (some payment)) (.ok (placed.result "captured")), db', [])
    | .error _ => (capturePending placed payment, db, [])
  | .undo (action :: rest) cart frame e => match oracle.guard (action.run req cart frame db) with
    | .ok db' => (.undo rest cart frame e, db', [])
    | .error e' => (.crashed (action :: rest) frame e', db, [])
  | .undo [] _ frame e => (.done frame (.error e), db, [])
  | .done frame result => (.done frame result, db, [])
  | .crashed todo frame e => (.crashed todo frame e, db, [])

/-- Statements that raise or return, over a database whose committed blocks stay. -/
abbrev Saga (α : Type) := ExceptT Exn (StateM Db) α

namespace Saga

-- One transaction: it commits, or raises and leaves the database alone.
def block {α : Type} (oracle : Oracle) (body : Db → Outcome (α × Db)) : Saga α := fun db =>
  match oracle.guard (body db) with
  | .ok (a, db') => (.ok a, db')
  | .error e => (.error e, db)

def read {α : Type} (oracle : Oracle) (body : Db → Outcome α) : Saga α :=
  block oracle fun db => (·, db) <$> body db

def write (oracle : Oracle) (body : Db → Outcome Db) : Saga Unit :=
  block oracle fun db => ((), ·) <$> body db

end Saga

section Checkout

variable (settings : Settings) (req : Request) (oracle : Point → Oracle)

def undoAll (cart : Id) (frame : Frame) : List Undo → Saga Unit
  | [] => pure ()
  | action :: rest => do
    Saga.write (oracle (.undo action)) fun db => action.run req cart frame db
    undoAll cart frame rest

def undoing {α : Type} (todo : List Undo) (cart : Id) (frame : Frame) (body : Saga α) : Saga α :=
  tryCatch body fun e => do
    undoAll req oracle cart frame todo
    throw e

-- PaymentService.authorize_payment
def authorizePayment (placed : Placed) : Saga Payment := do
  let method := placed.view.cart.selected_payment_method.getD 0
  let config ← Saga.read (oracle .resolve)
    (authorizeTarget settings req.tenant method placed.order.currency)
  let payment := cardPayment req (oracle .insertPayment) placed config
  Saga.write (oracle .insertPayment) (createPayment payment)
  match (oracle .authorize).answer with
  | .error e =>
    Saga.write (oracle .recordError) fun db =>
      .ok (recordPaymentError req.tenant payment.id e.str db)
    throw (gatewayError e)
  | .ok intent =>
    Saga.write (oracle .recordResult) (recordPaymentResult req.tenant payment.id intent)
    if intent.status = .failed then throw (declined intent)
    return authorized payment intent

-- PaymentService.capture_payment; the caller does not look at the row it returns.
def capturePayment (payment : Payment) : Saga Unit := do
  match ← Saga.read (oracle .captureRead) (captureRead req.tenant payment.id) with
  | none => return
  | some row =>
    match (oracle .capture).answer with
    | .error e => throw e
    | .ok intent =>
      Saga.write (oracle .captureWrite) fun db => .ok (captureWrite req.tenant row.id intent db)

-- Phases 5 to 7 of an invoiced order
def checkoutInvoiced (placed : Placed) : Saga CheckoutResult := do
  let payment := invoicePayment req (oracle .invoice) placed
  undoing req oracle undoOrdered placed.view.cart.id (placed.frame none)
    (Saga.write (oracle .invoice) (createPayment payment))
  Saga.write (oracle .convertInvoiced) (convertInvoiced req (oracle .convertInvoiced).now placed)
  return placed.result "invoice_pending"

-- Only PaymentFailed is compensated here.
def undoPaymentFailed {α : Type} (placed : Placed) (e : Exn) : Saga α := do
  if e.isPaymentFailed then
    undoAll req oracle placed.view.cart.id (placed.frame none) undoOrdered
  throw e

-- Phases 6 and 7: whatever the capture raises is left to reconciliation.
def convertAndCapture (placed : Placed) (payment : Payment) : Saga CheckoutResult := do
  Saga.write (oracle .convert) (commitCart req (oracle .convert).now placed)
  if payment.status = .authorized then
    tryCatch
      (do
        capturePayment req oracle payment
        Saga.write (oracle .paid) (markCaptured req placed)
        return placed.result "captured")
      fun _ => return placed.result "capture_pending"
  else if payment.status = .pending then return pendingResult placed payment
  else throw (unexpectedStatus payment)

-- Phases 5 to 7 of a card payment
def checkoutCard (placed : Placed) : Saga CheckoutResult := do
  let payment ← tryCatch (authorizePayment settings req oracle placed)
    (undoPaymentFailed req oracle placed)
  convertAndCapture req oracle placed payment

-- Phases 5 to 7, by the cart's payment method
def afterPlaced (placed : Placed) : Saga CheckoutResult :=
  match placed.view.paymentMethod with
  | none => throw (.attributeError "'NoneType' object has no attribute 'method_type'")
  | some method =>
    if isPurchaseOrder method then checkoutInvoiced req oracle placed
    else checkoutCard settings req oracle placed

def checkout : Saga CheckoutResult := do
  match ← Saga.read (oracle .find) (fun db => .ok (findExistingCheckout req db)) with
  | some existing => return existing
  | none =>
    let view ← Saga.block (oracle .lock) (lockCart req (oracle .lock).now)
    let cart := view.cart.id
    undoing req oracle [.revertCart] cart {}
      (Saga.read (oracle .validate) fun _ => validatePreconditions (oracle .validate).now view)
    let reservations ← undoing req oracle [.revertCart] cart {}
      (Saga.block (oracle .reserve)
        (reserveStock req.tenant (oracle .reserve).now (oracle .reserve).draw view))
    let order ← undoing req oracle undoReserved cart { reservations }
      (Saga.block (oracle .create) (createOrder req (oracle .create) view))
    afterPlaced settings req oracle ⟨view, reservations, order⟩

end Checkout

namespace Saga

variable {α β : Type}

@[simp] theorem bind_apply (x : Saga α) (f : α → Saga β) (db : Db) :
    (x >>= f) db = match x db with
      | (.ok a, db') => f a db'
      | (.error e, db') => (.error e, db') := by
  simp only [bind, ExceptT.bind, ExceptT.mk, StateT.bind]
  rcases x db with ⟨_ | a, db'⟩ <;> rfl

@[simp] theorem pure_apply (a : α) (db : Db) : (pure a : Saga α) db = (.ok a, db) := rfl

@[simp] theorem throw_apply (e : Exn) (db : Db) : (throw e : Saga α) db = (.error e, db) := rfl

@[simp] theorem tryCatch_apply (x : Saga α) (f : Exn → Saga α) (db : Db) :
    (tryCatch x f : Saga α) db = match x db with
      | (.ok a, db') => (.ok a, db')
      | (.error e, db') => f e db' := by
  simp only [tryCatch, tryCatchThe, MonadExceptOf.tryCatch, ExceptT.tryCatch, ExceptT.mk, bind,
    StateT.bind]
  rcases x db with ⟨_ | a, db'⟩ <;> rfl

theorem block_apply (oracle : Oracle) (body : Db → Outcome (α × Db)) (db : Db) :
    block oracle body db = match oracle.guard (body db) with
      | .ok (a, db') => (.ok a, db')
      | .error e => (.error e, db) := rfl

theorem read_apply (oracle : Oracle) (body : Db → Outcome α) (db : Db) :
    read oracle body db = match oracle.guard (body db) with
      | .ok a => (.ok a, db)
      | .error e => (.error e, db) := by
  simp only [read, block, Oracle.guard]
  cases oracle.fault <;> cases body db <;> simp [Functor.map, Except.map]

theorem write_apply (oracle : Oracle) (body : Db → Outcome Db) (db : Db) :
    write oracle body db = match oracle.guard (body db) with
      | .ok db' => (.ok (), db')
      | .error e => (.error e, db) := by
  simp only [write, block, Oracle.guard]
  cases oracle.fault <;> cases body db <;> simp [Functor.map, Except.map]

end Saga

section Alone

variable (settings : Settings) (req : Request) (oracle : Point → Oracle)

inductive Alone : Pc → Db → Except Exn CheckoutResult × Db → Prop
  | done (frame : Frame) (result : Except Exn CheckoutResult) (db : Db) :
    Alone (.done frame result) db (result, db)
  | crashed (todo : List Undo) (frame : Frame) (e : Exn) (db : Db) :
    Alone (.crashed todo frame e) db (.error e, db)
  | step {pc pc' : Pc} {db db' : Db} {calls : List GatewayCall}
      {ends : Except Exn CheckoutResult × Db} (running : pc.ended = false)
      (taken : advance settings req (oracle pc.point) db pc = (pc', db', calls))
      (rest : Alone pc' db' ends) : Alone pc db ends

variable {settings req oracle}

theorem Alone.unique {pc : Pc} {db : Db} {ends ends' : Except Exn CheckoutResult × Db}
    (left : Alone settings req oracle pc db ends) (right : Alone settings req oracle pc db ends') :
    ends = ends' := by
  induction left with
  | done frame result db =>
    cases right with
    | done => rfl
    | step running => cases running
  | crashed todo frame e db =>
    cases right with
    | crashed => rfl
    | step running => cases running
  | step running taken _ ih =>
    cases right with
    | done => cases running
    | crashed => cases running
    | step _ taken' rest' =>
      rw [taken] at taken'
      cases taken'
      exact ih rest'

variable (settings req oracle)

def Implements (pc : Pc) (rest : Saga CheckoutResult) : Prop :=
  ∀ db, Alone settings req oracle pc db (rest db)

/-- A statement, what follows it and what an exception in it leads to. -/
def Saga.handled {α β : Type} (x : Saga α) (next : α → Saga β) (handler : Exn → Saga β) : Saga β :=
  fun db => match x db with
    | (.ok a, db') => next a db'
    | (.error e, db') => handler e db'

variable {settings req oracle}

theorem implements_done (frame : Frame) (result : Except Exn CheckoutResult) :
    Implements settings req oracle (.done frame result) (ExceptT.mk (pure result)) :=
  fun db => .done frame result db

theorem implements_block {α : Type} {pc : Pc} {body : Db → Outcome (α × Db)} {next : α → Pc}
    {handler : Exn → Pc} {rest : α → Saga CheckoutResult} {caught : Exn → Saga CheckoutResult}
    (running : pc.ended = false)
    (steps : ∀ db, advance settings req (oracle pc.point) db pc =
      match (oracle pc.point).guard (body db) with
      | .ok (a, db') => (next a, db', [])
      | .error e => (handler e, db, []))
    (onOk : ∀ a, Implements settings req oracle (next a) (rest a))
    (onError : ∀ e, Implements settings req oracle (handler e) (caught e)) :
    Implements settings req oracle pc (Saga.handled (Saga.block (oracle pc.point) body) rest caught) := by
  intro db
  have taken := steps db
  simp only [Saga.handled, Saga.block_apply]
  cases ran : (oracle pc.point).guard (body db) with
  | error e =>
    rw [ran] at taken
    exact .step running taken (onError e db)
  | ok result =>
    rw [ran] at taken
    exact .step running taken (onOk result.1 result.2)

theorem implements_read {α : Type} {pc : Pc} {body : Db → Outcome α} {next : α → Pc}
    {handler : Exn → Pc} {rest : α → Saga CheckoutResult} {caught : Exn → Saga CheckoutResult}
    (running : pc.ended = false)
    (steps : ∀ db, advance settings req (oracle pc.point) db pc =
      match (oracle pc.point).guard (body db) with
      | .ok a => (next a, db, [])
      | .error e => (handler e, db, []))
    (onOk : ∀ a, Implements settings req oracle (next a) (rest a))
    (onError : ∀ e, Implements settings req oracle (handler e) (caught e)) :
    Implements settings req oracle pc (Saga.handled (Saga.read (oracle pc.point) body) rest caught) := by
  intro db
  have taken := steps db
  simp only [Saga.handled, Saga.read_apply]
  cases ran : (oracle pc.point).guard (body db) with
  | error e =>
    rw [ran] at taken
    exact .step running taken (onError e db)
  | ok a =>
    rw [ran] at taken
    exact .step running taken (onOk a db)

theorem implements_write {pc next : Pc} {body : Db → Outcome Db} {handler : Exn → Pc}
    {rest : Saga CheckoutResult} {caught : Exn → Saga CheckoutResult} (running : pc.ended = false)
    (steps : ∀ db, advance settings req (oracle pc.point) db pc =
      match (oracle pc.point).guard (body db) with
      | .ok db' => (next, db', [])
      | .error e => (handler e, db, []))
    (onOk : Implements settings req oracle next rest)
    (onError : ∀ e, Implements settings req oracle (handler e) (caught e)) :
    Implements settings req oracle pc
      (Saga.handled (Saga.write (oracle pc.point) body) (fun _ => rest) caught) := by
  intro db
  have taken := steps db
  simp only [Saga.handled, Saga.write_apply]
  cases ran : (oracle pc.point).guard (body db) with
  | error e =>
    rw [ran] at taken
    exact .step running taken (onError e db)
  | ok db' =>
    rw [ran] at taken
    exact .step running taken (onOk db')

theorem implements_undo (cart : Id) (frame : Frame) (e : Exn) (todo : List Undo) :
    Implements settings req oracle (.undo todo cart frame e) (do
      undoAll req oracle cart frame todo
      throw e) := by
  induction todo with
  | nil =>
    intro db
    exact .step rfl rfl (.done frame (.error e) db)
  | cons action rest ih =>
    have crashes (e' : Exn) : Implements settings req oracle (.crashed (action :: rest) frame e')
        (throw e') := fun db => .crashed _ frame e' db
    have first := @implements_write settings req oracle (.undo (action :: rest) cart frame e) _
      (fun db => action.run req cart frame db) _ _ _ rfl (fun db => rfl) ih crashes
    intro db
    have run := first db
    simp only [Pc.point, Saga.handled, Saga.write_apply] at run
    simp only [undoAll, Saga.bind_apply, Saga.write_apply]
    cases ran : (oracle (.undo action)).guard (action.run req cart frame db) with
    | error e' => simpa [ran] using run
    | ok db' => simpa [ran] using run

theorem undoAll_frame (cart : Id) (placed : Placed) (payment : Option Payment) (todo : List Undo) :
    undoAll req oracle cart (placed.frame payment) todo =
      undoAll req oracle cart (placed.frame none) todo := by
  induction todo with
  | nil => rfl
  | cons action rest ih =>
    have same : (fun db => action.run req cart (placed.frame payment) db) =
        fun db => action.run req cart (placed.frame none) db := by
      cases action <;> rfl
    simp only [undoAll, ih, same]

theorem implements_authorizeRaised (placed : Placed) (payment : Option Payment) (e : Exn) :
    Implements settings req oracle (authorizeRaised placed payment e)
      (undoPaymentFailed req oracle placed e) := by
  unfold authorizeRaised undoPaymentFailed
  by_cases failed : e.isPaymentFailed = true
  · simp only [failed, if_true]
    rw [← undoAll_frame _ placed payment]
    exact implements_undo _ _ e undoOrdered
  · simp only [failed]
    exact implements_done _ _

theorem implements_capturePending (placed : Placed) (payment : Payment) :
    Implements settings req oracle (capturePending placed payment)
      (pure (placed.result "capture_pending")) :=
  implements_done _ _

-- What is left of phase 7 from its transaction, and from the answer to the capture.
def paying (req : Request) (oracle : Point → Oracle) (placed : Placed) : Saga CheckoutResult :=
  Saga.handled (Saga.write (oracle .paid) (markCaptured req placed))
    (fun _ => pure (placed.result "captured")) fun _ => pure (placed.result "capture_pending")

def capturing (req : Request) (oracle : Point → Oracle) (placed : Placed) (row : Payment) :
    Saga CheckoutResult :=
  match (oracle .capture).answer with
  | .ok intent => Saga.handled
      (Saga.write (oracle .captureWrite) fun db => .ok (captureWrite req.tenant row.id intent db))
      (fun _ => paying req oracle placed) fun _ => pure (placed.result "capture_pending")
  | .error _ => pure (placed.result "capture_pending")

theorem implements_paid (placed : Placed) (payment : Payment) :
    Implements settings req oracle (.paid placed payment) (paying req oracle placed) :=
  implements_write rfl (fun _ => rfl) (implements_done _ _) fun _ => implements_capturePending placed _

theorem Implements.congr {pc : Pc} {rest same : Saga CheckoutResult}
    (implements : Implements settings req oracle pc rest) (equal : ∀ db, same db = rest db) :
    Implements settings req oracle pc same := by
  intro db
  rw [equal]
  exact implements db

theorem implements_capture (placed : Placed) (row : Payment) :
    Implements settings req oracle (.capture placed row) (capturing req oracle placed row) := by
  intro db
  unfold capturing
  cases answer : (oracle .capture).answer with
  | error e =>
    have taken : advance settings req (oracle .capture) db (.capture placed row) =
        (capturePending placed row, db, [⟨.capture, row.idempotency_key ++ ":capture"⟩]) := by
      simp [advance, answer]
    exact .step rfl taken (implements_capturePending placed row db)
  | ok intent =>
    have taken : advance settings req (oracle .capture) db (.capture placed row) =
        (.captureWrite placed row intent, db, [⟨.capture, row.idempotency_key ++ ":capture"⟩]) := by
      simp [advance, answer]
    have writing := @implements_write settings req oracle (.captureWrite placed row intent) _ _ _ _ _
      rfl (fun _ => rfl) (implements_paid placed row) fun _ => implements_capturePending placed row
    exact .step rfl taken (writing db)

theorem implements_captureRead (placed : Placed) (payment : Payment) :
    Implements settings req oracle (.captureRead placed payment)
      (tryCatch
        (do
          capturePayment req oracle payment
          Saga.write (oracle .paid) (markCaptured req placed)
          return placed.result "captured")
        fun _ => return placed.result "capture_pending") := by
  have reading := @implements_read settings req oracle _ (.captureRead placed payment)
    (captureRead req.tenant payment.id)
    (fun found => found.elim (.paid placed payment) (.capture placed)) _
    (fun found => found.elim (paying req oracle placed) (capturing req oracle placed)) _ rfl
    (by
      intro db
      simp only [advance, Pc.point]
      cases (oracle .captureRead).guard (captureRead req.tenant payment.id db) with
      | error e => rfl
      | ok found => cases found <;> rfl)
    (by
      intro found
      cases found with
      | none => exact implements_paid placed payment
      | some row => exact implements_capture placed row)
    (fun _ => implements_capturePending placed payment)
  refine reading.congr fun db => ?_
  simp only [Pc.point, Saga.tryCatch_apply, Saga.handled, Saga.read_apply, capturePayment,
    Saga.bind_apply, Saga.pure_apply]
  cases (oracle .captureRead).guard (captureRead req.tenant payment.id db) with
  | error e => rfl
  | ok found =>
    cases found with
    | none =>
      simp only [Option.elim, paying, Saga.handled, Saga.pure_apply, Saga.write_apply]
      cases (oracle .paid).guard (markCaptured req placed db) <;> rfl
    | some row =>
      simp only [Option.elim, capturing]
      cases (oracle .capture).answer with
      | error e => rfl
      | ok intent =>
        simp only [paying, Saga.handled, Saga.write_apply]
        cases (oracle .captureWrite).guard (.ok (captureWrite req.tenant row.id intent db)) with
        | error e => rfl
        | ok db' =>
          simp only
          cases (oracle .paid).guard (markCaptured req placed db') <;> rfl

theorem implements_convert (placed : Placed) (payment : Payment) :
    Implements settings req oracle (.convert placed payment)
      (convertAndCapture req oracle placed payment) := by
  have after : Implements settings req oracle (afterConvert placed.linked payment) (
      if payment.status = .authorized then
        tryCatch
          (do
            capturePayment req oracle payment
            Saga.write (oracle .paid) (markCaptured req placed)
            return placed.result "captured")
          fun _ => return placed.result "capture_pending"
      else if payment.status = .pending then return pendingResult placed payment
      else throw (unexpectedStatus payment)) := by
    unfold afterConvert
    by_cases authorized : payment.status = .authorized
    · simp only [authorized, if_true]
      exact implements_captureRead placed.linked payment
    · by_cases pending : payment.status = .pending
      · simp only [pending, if_true]
        exact implements_done _ _
      · simp only [authorized, pending, if_false]
        exact implements_done _ _
  have converting := @implements_write settings req oracle (.convert placed payment) _ _ _ _ _
    rfl (fun db => rfl) after fun e => implements_done _ (.error e)
  refine converting.congr fun db => ?_
  simp only [convertAndCapture, Saga.handled, Saga.bind_apply, Pc.point]
  rcases (Saga.write (oracle .convert) (commitCart req (oracle .convert).now placed) db) with
    ⟨_ | _, _⟩ <;> rfl

theorem implements_recordError (placed : Placed) (payment : Payment) (e : Exn) :
    Implements settings req oracle (.recordError placed payment e)
      (Saga.handled (Saga.write (oracle .recordError) fun db =>
          .ok (recordPaymentError req.tenant payment.id e.str db))
        (fun _ => undoPaymentFailed req oracle placed (gatewayError e))
        (undoPaymentFailed req oracle placed)) :=
  implements_write rfl (fun _ => rfl) (implements_authorizeRaised placed _ _)
    (fun _ => implements_authorizeRaised placed _ _)

theorem implements_recordResult (placed : Placed) (payment : Payment) (intent : PaymentIntent) :
    Implements settings req oracle (.recordResult placed payment intent)
      (Saga.handled
        (Saga.write (oracle .recordResult) (recordPaymentResult req.tenant payment.id intent))
        (fun _ => if intent.status = .failed then undoPaymentFailed req oracle placed (declined intent)
          else convertAndCapture req oracle placed (authorized payment intent))
        (undoPaymentFailed req oracle placed)) := by
  refine @implements_write settings req oracle _ (if intent.status = .failed then
      authorizeRaised placed (some payment) (declined intent)
    else .convert placed (authorized payment intent)) _ (authorizeRaised placed (some payment)) _ _
    rfl ?_ ?_ (fun _ => implements_authorizeRaised placed _ _)
  · intro db
    simp only [advance, Pc.point]
    by_cases failed : intent.status = .failed <;> simp [failed]
  · by_cases failed : intent.status = .failed
    · simp only [failed, if_true]
      exact implements_authorizeRaised placed _ _
    · simp only [failed, if_false]
      exact implements_convert placed _

-- authorize_payment from the gateway call on, with the handler of its caller.
def authorizing (req : Request) (oracle : Point → Oracle) (placed : Placed) (payment : Payment) :
    Saga CheckoutResult :=
  match (oracle .authorize).answer with
  | .error e => Saga.handled
      (Saga.write (oracle .recordError) fun db => .ok (recordPaymentError req.tenant payment.id e.str db))
      (fun _ => undoPaymentFailed req oracle placed (gatewayError e)) (undoPaymentFailed req oracle placed)
  | .ok intent => Saga.handled
      (Saga.write (oracle .recordResult) (recordPaymentResult req.tenant payment.id intent))
      (fun _ => if intent.status = .failed then undoPaymentFailed req oracle placed (declined intent)
        else convertAndCapture req oracle placed (authorized payment intent))
      (undoPaymentFailed req oracle placed)

theorem implements_authorize (placed : Placed) (payment : Payment) :
    Implements settings req oracle (.authorize placed payment)
      (authorizing req oracle placed payment) := by
  intro db
  unfold authorizing
  cases answer : (oracle .authorize).answer with
  | error e =>
    have taken : advance settings req (oracle .authorize) db (.authorize placed payment) =
        (.recordError placed payment e, db, [⟨.authorize, payment.idempotency_key⟩]) := by
      simp [advance, answer]
    exact .step rfl taken (implements_recordError placed payment e db)
  | ok intent =>
    have taken : advance settings req (oracle .authorize) db (.authorize placed payment) =
        (.recordResult placed payment intent, db, [⟨.authorize, payment.idempotency_key⟩]) := by
      simp [advance, answer]
    exact .step rfl taken (implements_recordResult placed payment intent db)

theorem implements_insertPayment (placed : Placed) (config : PaymentGatewayConfig) :
    Implements settings req oracle (.insertPayment placed config)
      (Saga.handled
        (Saga.write (oracle .insertPayment)
          (createPayment (cardPayment req (oracle .insertPayment) placed config)))
        (fun _ => authorizing req oracle placed (cardPayment req (oracle .insertPayment) placed config))
        (undoPaymentFailed req oracle placed)) :=
  implements_write rfl (fun _ => rfl) (implements_authorize placed _)
    (fun _ => implements_authorizeRaised placed none _)

theorem handled_undoing {α : Type} (todo : List Undo) (cart : Id) (frame : Frame) (x : Saga α)
    (next : α → Saga CheckoutResult) (db : Db) :
    (undoing req oracle todo cart frame x >>= next) db =
      Saga.handled x next (fun e => do undoAll req oracle cart frame todo; throw e) db := by
  simp only [undoing, Saga.handled, Saga.bind_apply, Saga.tryCatch_apply]
  rcases x db with ⟨e | a, db'⟩
  · simp only
    rcases undoAll req oracle cart frame todo db' with ⟨_ | _, _⟩ <;> rfl
  · rfl

theorem handled_authorize {α : Type} (placed : Placed) (x : Saga α) (next : α → Saga CheckoutResult)
    (db : Db) :
    (tryCatch x (undoPaymentFailed req oracle placed) >>= next) db =
      Saga.handled x next (undoPaymentFailed req oracle placed) db := by
  simp only [Saga.handled, Saga.bind_apply, Saga.tryCatch_apply]
  rcases x db with ⟨e | a, db'⟩
  · simp only [undoPaymentFailed]
    by_cases failed : e.isPaymentFailed = true
    · simp only [failed, if_true, Saga.bind_apply]
      rcases undoAll req oracle placed.view.cart.id (placed.frame none) undoOrdered db' with
        ⟨_ | _, _⟩ <;> rfl
    · simp only [failed]
      rfl
  · rfl

theorem implements_resolve (placed : Placed) :
    Implements settings req oracle (.resolve placed) (checkoutCard settings req oracle placed) := by
  have reading := @implements_read settings req oracle _ (.resolve placed)
    (authorizeTarget settings req.tenant (placed.view.cart.selected_payment_method.getD 0)
      placed.order.currency) _ _ _ _ rfl
    (by
      intro db
      simp only [advance, Pc.point]
      cases (oracle .resolve).guard (authorizeTarget settings req.tenant
        (placed.view.cart.selected_payment_method.getD 0) placed.order.currency db) <;> rfl)
    (fun config => implements_insertPayment placed config)
    (fun e => implements_authorizeRaised placed none e)
  refine reading.congr fun db => ?_
  simp only [checkoutCard, handled_authorize]
  simp only [authorizePayment, Saga.handled, Saga.bind_apply, Saga.read_apply, Saga.write_apply, Pc.point]
  cases (oracle .resolve).guard (authorizeTarget settings req.tenant
      (placed.view.cart.selected_payment_method.getD 0) placed.order.currency db) with
  | error e => rfl
  | ok config =>
    simp only
    cases (oracle .insertPayment).guard
        (createPayment (cardPayment req (oracle .insertPayment) placed config) db) with
    | error e => rfl
    | ok db' =>
      simp only [authorizing]
      cases (oracle .authorize).answer with
      | error e =>
        simp only [Saga.handled, Saga.bind_apply, Saga.write_apply, Saga.throw_apply]
        cases (oracle .recordError).guard (.ok (recordPaymentError req.tenant
            (cardPayment req (oracle .insertPayment) placed config).id e.str db')) <;> rfl
      | ok intent =>
        simp only [Saga.handled, Saga.bind_apply, Saga.write_apply]
        cases (oracle .recordResult).guard (recordPaymentResult req.tenant
            (cardPayment req (oracle .insertPayment) placed config).id intent db') with
        | error e => rfl
        | ok recorded =>
          by_cases failed : intent.status = .failed <;> simp [failed]

theorem implements_invoice (placed : Placed) :
    Implements settings req oracle (.invoice placed) (checkoutInvoiced req oracle placed) := by
  let payment := invoicePayment req (oracle .invoice) placed
  have converting : Implements settings req oracle (.convertInvoiced placed payment)
      (Saga.handled
        (Saga.write (oracle .convertInvoiced) (convertInvoiced req (oracle .convertInvoiced).now placed))
        (fun _ => pure (placed.result "invoice_pending")) throw) :=
    implements_write rfl (fun _ => rfl) (implements_done _ _) (fun e => implements_done _ (.error e))
  have inserting := @implements_write settings req oracle (.invoice placed) _ (createPayment payment)
    _ _ _ rfl (fun _ => rfl) converting
    (fun e => implements_undo _ _ e undoOrdered)
  refine inserting.congr fun db => ?_
  simp only [checkoutInvoiced, undoing, Saga.handled, Saga.bind_apply, Saga.tryCatch_apply,
    Saga.write_apply, Pc.point, payment]
  cases (oracle .invoice).guard (createPayment (invoicePayment req (oracle .invoice) placed) db) with
  | error e =>
    simp only
    rcases undoAll req oracle placed.view.cart.id (placed.frame none) undoOrdered db with
      ⟨_ | _, _⟩ <;> rfl
  | ok db' =>
    simp only
    cases (oracle .convertInvoiced).guard
      (convertInvoiced req (oracle .convertInvoiced).now placed db') <;> rfl

theorem implements_afterOrder (placed : Placed) :
    Implements settings req oracle (afterOrder placed) (afterPlaced settings req oracle placed) := by
  unfold afterOrder afterPlaced
  cases placed.view.paymentMethod with
  | none => exact implements_done _ _
  | some method =>
    by_cases invoiced : isPurchaseOrder method = true
    · simp only [invoiced, if_true]
      exact implements_invoice placed
    · simp only [invoiced]
      exact implements_resolve placed

theorem implements_create (view : CartView) (reservations : List Id) :
    Implements settings req oracle (.create view reservations)
      (undoing req oracle undoReserved view.cart.id { reservations }
        (Saga.block (oracle .create) (createOrder req (oracle .create) view)) >>=
          fun order => afterPlaced settings req oracle ⟨view, reservations, order⟩) := by
  have creating := @implements_block settings req oracle _ (.create view reservations)
    (createOrder req (oracle .create) view) _ _ _ _ rfl
    (by
      intro db
      simp only [advance, Pc.point]
      cases (oracle .create).guard (createOrder req (oracle .create) view db) <;> rfl)
    (fun order => implements_afterOrder ⟨view, reservations, order⟩)
    (fun e => implements_undo view.cart.id { reservations } e undoReserved)
  exact creating.congr fun db => handled_undoing _ _ _ _ _ db

theorem implements_reserve (view : CartView) :
    Implements settings req oracle (.reserve view)
      (undoing req oracle [.revertCart] view.cart.id {}
        (Saga.block (oracle .reserve)
          (reserveStock req.tenant (oracle .reserve).now (oracle .reserve).draw view)) >>=
        fun reservations => undoing req oracle undoReserved view.cart.id { reservations }
          (Saga.block (oracle .create) (createOrder req (oracle .create) view)) >>=
            fun order => afterPlaced settings req oracle ⟨view, reservations, order⟩) := by
  have reserving := @implements_block settings req oracle _ (.reserve view)
    (reserveStock req.tenant (oracle .reserve).now (oracle .reserve).draw view) _ _ _ _ rfl
    (by
      intro db
      simp only [advance, Pc.point]
      cases (oracle .reserve).guard
        (reserveStock req.tenant (oracle .reserve).now (oracle .reserve).draw view db) <;> rfl)
    (fun reservations => implements_create view reservations)
    (fun e => implements_undo view.cart.id {} e [.revertCart])
  exact reserving.congr fun db => handled_undoing _ _ _ _ _ db

/-- A call that nobody interrupts ends as the saga does. -/
theorem checkout_alone (settings : Settings) (req : Request) (oracle : Point → Oracle) :
    Implements settings req oracle .find (checkout settings req oracle) := by
  let reserving (view : CartView) : Saga CheckoutResult :=
    undoing req oracle [.revertCart] view.cart.id {}
      (Saga.block (oracle .reserve)
        (reserveStock req.tenant (oracle .reserve).now (oracle .reserve).draw view)) >>=
      fun reservations => undoing req oracle undoReserved view.cart.id { reservations }
        (Saga.block (oracle .create) (createOrder req (oracle .create) view)) >>=
          fun order => afterPlaced settings req oracle ⟨view, reservations, order⟩
  have validating (view : CartView) := @implements_read settings req oracle _ (.validate view)
    (fun _ => validatePreconditions (oracle .validate).now view) _ _ _ _ rfl
    (by
      intro db
      simp only [advance, Pc.point]
      cases (oracle .validate).guard (validatePreconditions (oracle .validate).now view) <;> rfl)
    (fun _ => implements_reserve view) (fun e => implements_undo view.cart.id {} e [.revertCart])
  have locking := @implements_block settings req oracle _ .lock (lockCart req (oracle .lock).now)
    _ _ _ _ rfl
    (by
      intro db
      simp only [advance, Pc.point]
      cases (oracle .lock).guard (lockCart req (oracle .lock).now db) <;> rfl)
    validating
    (fun e => implements_done {} (.error e))
  have finding := @implements_read settings req oracle _ .find
    (fun db => .ok (findExistingCheckout req db))
    (fun found => found.elim .lock fun existing => .done {} (.ok existing))
    (fun e => .done {} (.error e))
    (fun found => found.elim
      (Saga.handled (Saga.block (oracle .lock) (lockCart req (oracle .lock).now))
        (fun view => Saga.handled (Saga.read (oracle .validate) fun _ =>
            validatePreconditions (oracle .validate).now view)
          (fun _ => reserving view)
          fun e => do undoAll req oracle view.cart.id {} [.revertCart]; throw e) throw)
      pure)
    throw rfl
    (by
      intro db
      simp only [advance, Pc.point]
      cases (oracle .find).guard (.ok (findExistingCheckout req db)) with
      | error e => rfl
      | ok found => cases found <;> rfl)
    (by
      intro found
      cases found with
      | none => exact locking
      | some existing => exact implements_done _ _)
    (fun e => implements_done _ _)
  refine finding.congr fun db => ?_
  simp only [checkout, Saga.handled, Saga.bind_apply, Pc.point]
  rcases Saga.read (oracle .find) (fun db => .ok (findExistingCheckout req db)) db with
    ⟨e | _ | existing, db'⟩
  · rfl
  · simp only [Option.elim, Saga.handled, Saga.bind_apply, reserving]
    rcases Saga.block (oracle .lock) (lockCart req (oracle .lock).now) db' with ⟨e | view, locked⟩
    · rfl
    · simp only
      rw [undoing, Saga.tryCatch_apply]
      rcases Saga.read (oracle .validate) (fun _ => validatePreconditions (oracle .validate).now view)
        locked with ⟨e | _, db''⟩
      · simp only [Saga.bind_apply]
        rcases undoAll req oracle view.cart.id {} [.revertCart] db'' with ⟨_ | _, _⟩ <;> rfl
      · rfl
  · rfl

end Alone

namespace Sample

def request : Request :=
  { tenant := 1, customer := 10, idempotency_key := "k1", expected_version := none }

def intent (status : GatewayStatus) : PaymentIntent :=
  { gateway_transaction_id := "mock_txn_1", status, next_action := none
    raw_response := .obj [("mock", .bool true)] }

-- Fresh ids for each block, a quiet database and a willing gateway.
def oracle : Point → Oracle
  | .reserve => { now := 1000, draw := (100 + ·), order_number := 1, answer := .ok (intent .authorized)
                  fault := none }
  | .create => { now := 1000, draw := (200 + ·), order_number := 1, answer := .ok (intent .authorized)
                 fault := none }
  | .capture => { now := 1000, draw := (300 + ·), order_number := 1, answer := .ok (intent .captured)
                  fault := none }
  | _ => { now := 1000, draw := (300 + ·), order_number := 1, answer := .ok (intent .authorized)
           fault := none }

def settings : Settings := { payments_allow_mock_gateway := true }

end Sample

end Storefront
