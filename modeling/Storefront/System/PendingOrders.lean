import Storefront.System.PaidOrders

set_option autoImplicit false

/-!
# Pending orders and who looks at them

A PENDING order is in the hands of its checkout, or its payment waits for the
reconcile sweep or for an invoice to be paid.
-/

namespace Storefront

open Relational Transition

-- What the candidate filter of the sweep selects, or an open invoice.
def PaymentStatus.waits (status : PaymentStatus) : Bool := status == .pending || status == .invoicePending

def Waits (db : Db) (order : Id) : Prop :=
  ∃ p ∈ db.payments.rows, p.order = order ∧ p.status.waits = true

def Sys.InHand (s : Sys) (order : Id) : Prop :=
  ∃ i call, s.calls i = some call ∧ call.pc.ended = false ∧ call.pc.claim.orderId = some order

/-- With no checkout under way, each PENDING order has a payment that waits. -/
def NothingEscapes (s : Sys) : Prop :=
  (∀ i call, s.calls i = some call → call.pc.ended = true) →
    ∀ o ∈ s.db.orders.rows, o.status = .pending → Waits s.db o.id

-- An exception that no except clause of the checkout undoes.
def Raises {α : Type} (block : Outcome α) : Prop := ∃ e, block = .error e ∧ e.isPaymentFailed = false

/-- The branches on which a card checkout stops without having paid or cancelled its order. -/
def Abandons (settings : Settings) (req : Request) (oracle : Oracle) (db : Db) : Pc → Prop
  | .resolve placed => Raises (oracle.guard
      (authorizeTarget settings req.tenant (placed.view.cart.selected_payment_method.getD 0) placed.order.currency db))
  | .insertPayment placed config => Raises (oracle.guard (createPayment (cardPayment req oracle placed config) db))
  | .recordError .. | .captureWrite .. => oracle.fault ≠ none
  | .recordResult _ payment intent =>
    Raises (oracle.guard (recordPaymentResult req.tenant payment.id intent db))
  | .convert placed payment =>
    payment.status = .authorized → ∃ e, oracle.guard (commitCart req oracle.now placed db) = .error e
  | .captureRead _ payment => ∃ e, oracle.guard (captureRead req.tenant payment.id db) = .error e
  | .capture .. => ∃ e, oracle.answer = .error e
  | .paid placed _ => ∃ e, oracle.guard (markCaptured req placed db) = .error e
  | .undo (.cancelOrder :: _) cart frame _ => ∃ e, oracle.guard (Undo.run req cart frame db .cancelOrder) = .error e
  | _ => False

/-- The steps that move a waiting payment and leave its PENDING order as it is. -/
inductive Takes (lib : WebhookLibrary) (s : Sys) (p : Payment) : Label → Prop
  | applied (k : Nat) (task : WebhookTask) (queued : s.queue[k]? = some task) (named : p.id = task.payment)
      (commits : Commits (applyWebhookEvent lib task s.now s.db))
      (still : eventTarget task.event_type .pending = .pending) (other : task.new_status ≠ .pending) :
      Takes lib s p (.process k)
  | reconciled (intent : PaymentIntent) (sent : p.gateway_transaction_id ≠ "") (stale : p.status = .pending)
      (other : intent.status = .authorized ∨ intent.status = .refunded) :
      Takes lib s p (.reconcile p.id (.ok (some intent)))
  | refunded (k : Nat) (row : Payment) (amount : Option String) (intent : PaymentIntent)
      (listed : s.refunds[k]? = some ⟨row, amount, .write intent⟩) (named : p.id = row.id)
      (other : intent.status ≠ .pending) : Takes lib s p (.refundWrite k)

/-- A checkout has its payment method when it orders, a card checkout lets go of a PENDING
order only while its payment waits, and nobody takes the waiting payment of an order that
is not in hand. -/
structure KeepsInSight (settings : Settings) (lib : WebhookLibrary) (move : Move Sys Label) : Prop where
  placed : ∀ i oracle req view reservations, move.label = .advance i oracle →
    move.before.calls i = some ⟨req, .create view reservations⟩ → view.paymentMethod.isSome = true
  left : ∀ i oracle req pc id, move.label = .advance i oracle → move.before.calls i = some ⟨req, pc⟩ →
    Abandons settings req { oracle with now := move.before.now } move.before.db pc →
    pc.claim.orderId = some id → move.before.db.orderStatus id = some .pending → Waits move.before.db id
  spared : ∀ p ∈ move.before.db.payments.rows, p.status.waits = true →
    move.before.db.orderStatus p.order = some .pending → Takes lib move.before p move.label →
    move.before.InHand p.order

def Sys.Invoices (s : Sys) : Prop :=
  ∀ p ∈ s.db.payments.rows, p.gateway_config = none → s.db.orderStatus p.order = some .pending →
    p.status = .invoicePending

def Sys.Undoing (s : Sys) : Prop :=
  ∀ i req todo cart frame e id, s.calls i = some ⟨req, .undo todo cart frame e⟩ →
    frame.claim.orderId = some id →
      todo.head? = some .cancelOrder ∨ s.db.orderStatus id ≠ some .pending

def Sys.InSight (s : Sys) : Prop :=
  ∀ o ∈ s.db.orders.rows, o.status = .pending → Waits s.db o.id ∨ s.InHand o.id

section Advance

variable {settings : Settings} {req : Request} {oracle : Oracle} {db db' : Db} {pc pc' : Pc} {log : List GatewayCall}
  {id : Id}

theorem authorizeRaised_hand (placed : Placed) (payment : Option Payment) (e : Exn) :
    e.isPaymentFailed = false ∨ (authorizeRaised placed payment e).ended = false ∧
      (authorizeRaised placed payment e).claim.orderId = some placed.order.id := by
  cases kind : e.isPaymentFailed with
  | false => exact .inl rfl
  | true => exact .inr ⟨by simp [authorizeRaised, kind, Pc.ended], by rw [authorizeRaised_claim]; rfl⟩

/-- A step of a call keeps its order in hand, or stops in one of the branches above,
or leaves the order closed. -/
theorem advance_hand (taken : advance settings req oracle db pc = (pc', db', log)) (live : pc.ended = false)
    (mine : pc.claim.orderId = some id) :
    (pc'.ended = false ∧ pc'.claim.orderId = some id) ∨ Abandons settings req oracle db pc ∨
      db'.orderStatus id ≠ some .pending ∨
      (∃ todo cart frame e, pc = .undo todo cart frame e ∧ todo.head? ≠ some .cancelOrder) ∨
      ∃ placed payment, pc = .convertInvoiced placed payment := by
  have handed {placed : Placed} (payment : Option Payment) {α : Type} {block : Outcome α} {e : Exn}
      (named : (placed.frame payment).claim.orderId = some id) (fails : oracle.guard block = .error e) :
      (authorizeRaised placed payment e).ended = false ∧
        (authorizeRaised placed payment e).claim.orderId = some id ∨ Raises (oracle.guard block) := by
    rcases authorizeRaised_hand placed payment e with other | ⟨running, same⟩
    · exact .inr ⟨e, fails, other⟩
    · exact .inl ⟨running, same.trans named⟩
  cases pc with
  | find | lock | validate _ | reserve _ | create _ _ => cases mine
  | invoice placed =>
    simp only [Storefront.advance] at taken
    split at taken <;> cases taken <;> exact .inl ⟨rfl, mine⟩
  | convertInvoiced placed payment => exact .inr (.inr (.inr (.inr ⟨placed, payment, rfl⟩)))
  | resolve placed =>
    simp only [Storefront.advance] at taken
    split at taken
    · cases taken
      exact .inl ⟨rfl, mine⟩
    next e fails =>
      cases taken
      rcases handed none mine fails with kept | raises
      · exact .inl kept
      · exact .inr (.inl raises)
  | insertPayment placed config =>
    simp only [Storefront.advance] at taken
    split at taken
    · cases taken
      exact .inl ⟨rfl, mine⟩
    next e fails =>
      cases taken
      rcases handed none mine fails with kept | raises
      · exact .inl kept
      · exact .inr (.inl raises)
  | authorize placed payment =>
    simp only [Storefront.advance] at taken
    split at taken <;> cases taken <;> exact .inl ⟨rfl, mine⟩
  | recordError placed payment e =>
    simp only [Storefront.advance] at taken
    split at taken
    · cases taken
      have undone : (authorizeRaised placed (some payment) (gatewayError e)).ended = false := rfl
      exact .inl ⟨undone, mine⟩
    next e' fails =>
      refine .inr (.inl fun quiet => ?_)
      rw [guard_unfaulted quiet] at fails
      cases fails
  | recordResult placed payment intent =>
    simp only [Storefront.advance] at taken
    split at taken
    · split at taken
      · cases taken
        have undone : (authorizeRaised placed (some payment) (declined intent)).ended = false := rfl
        exact .inl ⟨undone, mine⟩
      · cases taken
        exact .inl ⟨rfl, mine⟩
    next e fails =>
      cases taken
      rcases handed (some payment) mine fails with kept | raises
      · exact .inl kept
      · exact .inr (.inl raises)
  | convert placed payment =>
    by_cases status : payment.status = .authorized
    · simp only [Storefront.advance] at taken
      split at taken
      · cases taken
        rw [afterConvert, if_pos status]
        exact .inl ⟨rfl, mine⟩
      next e fails => exact .inr (.inl fun _ => ⟨e, fails⟩)
    · exact .inr (.inl fun same => absurd same status)
  | captureRead placed payment =>
    simp only [Storefront.advance] at taken
    split at taken
    · cases taken
      exact .inl ⟨rfl, mine⟩
    · cases taken
      exact .inl ⟨rfl, mine⟩
    next e fails => exact .inr (.inl ⟨e, fails⟩)
  | capture placed row =>
    simp only [Storefront.advance] at taken
    split at taken
    · cases taken
      exact .inl ⟨rfl, mine⟩
    next e answered => exact .inr (.inl ⟨e, answered⟩)
  | captureWrite placed row intent =>
    simp only [Storefront.advance] at taken
    split at taken
    · cases taken
      exact .inl ⟨rfl, mine⟩
    next e' fails =>
      refine .inr (.inl fun quiet => ?_)
      rw [guard_unfaulted quiet] at fails
      cases fails
  | paid placed payment =>
    simp only [Storefront.advance] at taken
    split at taken
    next last done =>
      cases taken
      have touch := markCaptured_touch (guard_ok done)
      obtain ⟨⟨o, member, named, _⟩, _⟩ := markCaptured_eq_ok.mp (guard_ok done)
      obtain rfl : placed.order.id = id := Option.some.inj mine
      refine .inr (.inr (.inl ?_))
      rw [← named, touch.orderStatus member]
      simp [OrderStatus.at, named]
    next e fails => exact .inr (.inl ⟨e, fails⟩)
  | undo todo cart frame e =>
    cases todo with
    | nil => exact .inr (.inr (.inr (.inl ⟨[], cart, frame, e, rfl, by simp⟩)))
    | cons action rest =>
      simp only [Storefront.advance] at taken
      split at taken
      · cases taken
        exact .inl ⟨rfl, mine⟩
      next e' fails =>
        cases action with
        | cancelOrder => exact .inr (.inl ⟨e', fails⟩)
        | releaseReservations => exact .inr (.inr (.inr (.inl ⟨_, cart, frame, e, rfl, by simp⟩)))
        | revertCart => exact .inr (.inr (.inr (.inl ⟨_, cart, frame, e, rfl, by simp⟩)))
  | done frame result | crashed todo frame e => cases live

-- A call gets its order from `_create_order`, and keeps it.
theorem advance_claims (taken : advance settings req oracle db pc = (pc', db', log)) (mine : pc'.claim.orderId = some id) :
    pc.claim.orderId = some id ∨ ∃ view reservations order, pc = .create view reservations ∧
      pc' = afterOrder ⟨view, reservations, order⟩ ∧ createOrder req oracle view db = .ok (order, db') := by
  cases pc with
  | find | lock | validate _ | reserve _ =>
    simp only [Storefront.advance] at taken
    split at taken <;> cases taken <;> cases mine
  | create view reservations =>
    simp only [Storefront.advance] at taken
    split at taken
    next order last done =>
      cases taken
      exact .inr ⟨view, reservations, order, rfl, rfl, guard_ok done⟩
    · cases taken
      cases mine
  | invoice _ | convertInvoiced _ _ | authorize _ _ | captureRead _ _ | capture _ _ | captureWrite _ _ _ | paid _ _ =>
    simp only [Storefront.advance] at taken
    split at taken <;> cases taken <;> exact .inl mine
  | resolve placed | insertPayment placed config =>
    simp only [Storefront.advance] at taken
    split at taken <;> cases taken
    · exact .inl mine
    · rw [authorizeRaised_claim] at mine
      exact .inl mine
  | recordError placed payment e =>
    simp only [Storefront.advance] at taken
    split at taken <;> cases taken <;> rw [authorizeRaised_claim] at mine <;> exact .inl mine
  | recordResult placed payment intent =>
    simp only [Storefront.advance] at taken
    split at taken
    · split at taken <;> cases taken
      · rw [authorizeRaised_claim] at mine
        exact .inl mine
      · exact .inl mine
    · cases taken
      rw [authorizeRaised_claim] at mine
      exact .inl mine
  | convert placed payment =>
    simp only [Storefront.advance] at taken
    split at taken <;> cases taken
    · rw [afterConvert_claim] at mine
      exact .inl mine
    · exact .inl mine
  | undo todo cart frame e =>
    cases todo with
    | nil =>
      cases taken
      exact .inl mine
    | cons action rest =>
      simp only [Storefront.advance] at taken
      split at taken <;> cases taken <;> exact .inl mine
  | done frame result | crashed todo frame e =>
    cases taken
    exact .inl mine

theorem authorizeRaised_todo {placed : Placed} {payment : Option Payment} {error e : Exn} {todo : List Undo}
    {cart : Id} {frame : Frame} (undo : authorizeRaised placed payment error = .undo todo cart frame e) :
    todo = undoOrdered := by
  unfold authorizeRaised at undo
  split at undo
  · exact (Pc.undo.inj undo).1.symm
  · cases undo

/-- The undo of an order begins with its cancellation, and goes on once it is closed. -/
theorem advance_undo_head {todo : List Undo} {cart : Id} {frame : Frame} {e : Exn}
    (taken : advance settings req oracle db pc = (.undo todo cart frame e, db', log))
    (mine : frame.claim.orderId = some id) :
    todo.head? = some .cancelOrder ∨ db'.orderStatus id ≠ some .pending ∨
      ∃ action, action ≠ .cancelOrder ∧ pc = .undo (action :: todo) cart frame e := by
  have ordered {placed : Placed} {payment : Option Payment} {error : Exn}
      (undo : authorizeRaised placed payment error = .undo todo cart frame e) : todo.head? = some .cancelOrder := by
    rw [authorizeRaised_todo undo]
    rfl
  cases pc with
  | validate _ | reserve _ =>
    simp only [Storefront.advance] at taken
    split at taken <;> cases taken
    cases mine
  | create view reservations =>
    simp only [Storefront.advance] at taken
    split at taken
    · exact absurd (Prod.mk.inj taken).1 afterOrder_undo
    · cases taken
      cases mine
  | invoice placed =>
    simp only [Storefront.advance] at taken
    split at taken <;> cases taken
    exact .inl rfl
  | resolve placed | insertPayment placed config =>
    simp only [Storefront.advance] at taken
    split at taken
    · cases taken
    · exact .inl (ordered (Prod.mk.inj taken).1)
  | recordError placed payment error =>
    simp only [Storefront.advance] at taken
    split at taken <;> exact .inl (ordered (Prod.mk.inj taken).1)
  | recordResult placed payment intent =>
    simp only [Storefront.advance] at taken
    split at taken
    · split at taken
      · exact .inl (ordered (Prod.mk.inj taken).1)
      · cases taken
    · exact .inl (ordered (Prod.mk.inj taken).1)
  | convert placed payment =>
    simp only [Storefront.advance] at taken
    split at taken
    · exact absurd (Prod.mk.inj taken).1 afterConvert_undo
    · cases taken
  | undo todo' cart' frame' e' =>
    cases todo' with
    | nil => cases taken
    | cons action rest =>
      simp only [Storefront.advance] at taken
      split at taken
      next last done =>
        cases taken
        by_cases closes : action = .cancelOrder
        · subst closes
          obtain ⟨order, found, rfl⟩ : ∃ order, frame.order = some order ∧ order.id = id := by
            simpa [Claim.orderId, Frame.claim, Order.core] using mine
          simp only [Undo.run, found] at done
          obtain ⟨o, member, named, _⟩ := cancelOwnOrder_eq_ok.mp (guard_ok done)
          have status := (cancelOwnOrder_touch (guard_ok done)).orderStatus member
          refine .inr (.inl ?_)
          rw [← named, status, OrderStatus.at, if_pos named]
          cases o.status <;> decide
        · exact .inr (.inr ⟨action, closes, rfl⟩)
      · cases taken
  | find | lock | convertInvoiced _ _ | authorize _ _ | captureRead _ _ | capture _ _ | captureWrite _ _ _ | paid _ _ =>
    simp only [Storefront.advance] at taken
    split at taken <;> cases taken
  | done frame result | crashed todo frame e => cases taken

end Advance

theorem OrderStatus.at_pending {o : Order} {id : Id} {next : OrderStatus → OrderStatus}
    (pending : OrderStatus.at id next o = .pending) (closes : next o.status = .pending → o.status = .pending) :
    o.status = .pending := by
  unfold OrderStatus.at at pending
  split at pending
  · exact closes pending
  · exact pending

theorem eventTarget_pending {value : Json} {s : OrderStatus} (pending : eventTarget value s = .pending) :
    s = .pending := by
  unfold eventTarget at pending
  split at pending
  · revert pending
    cases s <;> decide
  · split at pending
    · revert pending
      cases s <;> decide
    · split at pending
      · cases pending
      · exact pending

theorem reconcileTarget_pending {status : PaymentStatus} {s : OrderStatus}
    (pending : reconcileTarget status s = .pending) :
    s = .pending ∧ status ≠ .captured ∧ status ≠ .failed ∧ status ≠ .cancelled := by
  revert pending
  cases status <;> cases s <;> decide

theorem Change.pending_old {lib : WebhookLibrary} {s : Sys} {l : Label} {db' : Db} (change : Change lib s l db')
    {o : Order} (member : o ∈ s.db.orders.rows) (pending : db'.orderStatus o.id = some .pending) :
    o.status = .pending := by
  have touched {f : Order → OrderStatus} {g : Payment → PaymentStatus} {h : InventoryReservation → ReservationStatus}
      (touch : Touch s.db db' f g h) (closes : f o = .pending → o.status = .pending) : o.status = .pending :=
    closes (Option.some.inj ((touch.orderStatus member).symm.trans pending))
  have at_ {id : Id} {next : OrderStatus → OrderStatus} {g : Payment → PaymentStatus}
      {h : InventoryReservation → ReservationStatus} (touch : Touch s.db db' (OrderStatus.at id next) g h)
      (closes : next o.status = .pending → o.status = .pending) : o.status = .pending :=
    touched touch fun still => OrderStatus.at_pending still closes
  cases change with
  | frees frees =>
    obtain ⟨_, touch, _⟩ := frees
    exact touched touch id
  | stocked new orders =>
    rw [Db.orderStatus, orders] at pending
    exact Option.some.inj ((Db.orderStatus_of_mem member).symm.trans pending)
  | ordered i oracle order items rows =>
    have member' : o ∈ db'.orders.rows := by rw [rows]; exact List.mem_append_left _ member
    have kept := Db.orderStatus_of_mem member'
    exact Option.some.inj (kept.symm.trans pending)
  | billed i oracle req pc placed row at_i bills named rows orders =>
    rw [Db.orderStatus, orders] at pending
    exact Option.some.inj ((Db.orderStatus_of_mem member).symm.trans pending)
  | linked i oracle req pc placed h at_i converts links =>
    obtain ⟨o', there, named, _, _, status⟩ := links.order_kept member
    rw [← named, Db.orderStatus_of_mem there] at pending
    exact status ▸ Option.some.inj pending
  | recorded i oracle req placed payment intent at_i done =>
    exact touched (recordPaymentResult_touch (guard_ok done)) id
  | captured => exact touched (captureWrite_touch _ _ _ _) id
  | paid i oracle req placed payment at_i done =>
    exact at_ (markCaptured_touch (guard_ok done)) fun still => by cases still
  | cancelledOwn i oracle req rest cart frame e order at_i mine done =>
    refine at_ (cancelOwnOrder_touch (guard_ok done)) fun still => ?_
    revert still
    cases o.status <;> decide
  | cancelled tenant customer order done =>
    rcases cancelOrder_touch done with same | ⟨_, _, _, _, _, _, touch, _⟩
    · rw [same] at pending
      exact Option.some.inj ((Db.orderStatus_of_mem member).symm.trans pending)
    · exact at_ touch fun still => by cases still
  | applied k task queued done =>
    obtain ⟨_, _, _, _, _, _, _, _, touch⟩ := applyWebhookEvent_touch done
    exact at_ touch eventTarget_pending
  | reconciled payment answer outcome done =>
    rcases reconcileOne_touch done with ⟨same, _⟩ | ⟨_, _, _, _, _, _, _, ⟨_, _, _, touch⟩ | ⟨_, _, _, touch⟩⟩
    · rw [same] at pending
      exact Option.some.inj ((Db.orderStatus_of_mem member).symm.trans pending)
    · exact touched touch id
    · exact at_ touch fun still => (reconcileTarget_pending still).1
  | marked k mark listed done =>
    obtain ⟨_, _, _, _, _, _, _, _, touch⟩ := markPaidWrite_touch done
    exact at_ touch fun still => by cases still
  | refunded => exact touched (refundWrite_touch _ _ _ _) id

theorem mapGatewayStatus_open {status : GatewayStatus} (unsettled : mapGatewayStatus status ≠ .captured)
    (unfailed : mapGatewayStatus status ≠ .failed) (uncancelled : mapGatewayStatus status ≠ .cancelled)
    (other : status ≠ .pending) : status = .authorized ∨ status = .refunded := by
  revert unsettled unfailed uncancelled other
  cases status <;> decide

theorem reconciledStatus_open {p : Payment} {answer : Except Exn (Option PaymentIntent)} {status : PaymentStatus}
    (written : reconciledStatus p answer = some status) (uncaptured : status ≠ .captured)
    (unfailed : status ≠ .failed) (uncancelled : status ≠ .cancelled) :
    p.gateway_transaction_id ≠ "" ∧ ∃ intent, answer = .ok (some intent) ∧
      (intent.status = .authorized ∨ intent.status = .refunded) := by
  unfold reconciledStatus at written
  split at written
  · exact absurd (Option.some.inj written).symm unfailed
  next sent =>
    split at written
    next intent =>
      split at written
      · cases written
      next other =>
        obtain rfl := Option.some.inj written
        exact ⟨sent, intent, rfl, mapGatewayStatus_open uncaptured unfailed uncancelled other⟩
    · cases written

theorem Sys.Owned.order_of_payment {s : Sys} (owned : s.Owned) {p : Payment} (member : p ∈ s.db.payments.rows) :
    ∃ o ∈ s.db.orders.rows, o.id = p.order := by
  obtain ⟨core, known, named⟩ := owned.payments p.core (List.mem_map_of_mem member)
  obtain ⟨o, present, rfl⟩ := List.mem_map.mp known
  exact ⟨o, present, named⟩

theorem Change.pending_before {lib : WebhookLibrary} {s : Sys} {l : Label} {db' : Db} (change : Change lib s l db')
    (owned : s.Owned) {p : Payment} (member : p ∈ s.db.payments.rows)
    (pending : db'.orderStatus p.order = some .pending) : s.db.orderStatus p.order = some .pending := by
  obtain ⟨o, present, named⟩ := owned.order_of_payment member
  rw [← named] at pending ⊢
  rw [Db.orderStatus_of_mem present, change.pending_old present pending]

/-- A waiting payment keeps waiting while its order is PENDING, unless its own checkout
writes the gateway's result or one of the steps above takes it. -/
theorem Change.stays_waiting {lib : WebhookLibrary} {s : Sys} {l : Label} {db' : Db} (change : Change lib s l db')
    (kept : s.Kept) {p : Payment} (member : p ∈ s.db.payments.rows) (waits : p.status.waits = true)
    (pending : db'.orderStatus p.order = some .pending)
    (unrecorded : ∀ i oracle req placed payment intent, l = .advance i oracle →
      s.calls i = some ⟨req, .recordResult placed payment intent⟩ →
      Commits (oracle.guard (recordPaymentResult req.tenant payment.id intent s.db)) → p.id ≠ payment.id)
    (spared : ¬ Takes lib s p l) :
    ∃ p' ∈ db'.payments.rows, p'.core = p.core ∧
      (p'.status = p.status ∨ p'.status = .pending ∧ p.gateway_config.isSome = true) := by
  have moved {f : Order → OrderStatus} {g : Payment → PaymentStatus} {h : InventoryReservation → ReservationStatus}
      (touch : Touch s.db db' f g h) (now : g p = p.status ∨ g p = .pending ∧ p.gateway_config.isSome = true) :
      ∃ p' ∈ db'.payments.rows, p'.core = p.core ∧
        (p'.status = p.status ∨ p'.status = .pending ∧ p.gateway_config.isSome = true) := by
    obtain ⟨p', inside, core, status⟩ := touch.payment member
    exact ⟨p', inside, core, status ▸ now⟩
  have unmoved {f : Order → OrderStatus} {g : Payment → PaymentStatus} {h : InventoryReservation → ReservationStatus}
      (touch : Touch s.db db' f g h) (same : g p = p.status) := moved touch (.inl same)
  have carded {q : PaymentCore} (known : q ∈ s.db.skeleton.payments) (named : p.id = q.id)
      (card : q.gateway_config.isSome = true) : p.gateway_config.isSome = true := by
    obtain ⟨row, stored, rfl⟩ := List.mem_map.mp known
    obtain rfl := s.db.payments.eq_of_key member stored named
    exact card
  have unpaid : ∀ o ∈ s.db.orders.rows, o.id = p.order → o.status = .pending := fun o present named =>
    change.pending_old present (by rw [named]; exact pending)
  cases change with
  | frees frees =>
    obtain ⟨_, touch, _⟩ := frees
    exact unmoved touch rfl
  | stocked new orders items payments => exact ⟨p, payments ▸ member, rfl, .inl rfl⟩
  | ordered i oracle order items rows status unlinked lines mine payments =>
    exact ⟨p, payments ▸ member, rfl, .inl rfl⟩
  | billed i oracle req pc placed row at_i bills named rows =>
    exact ⟨p, rows ▸ List.mem_append_left _ member, rfl, .inl rfl⟩
  | linked i oracle req pc placed h at_i converts links => exact ⟨p, links.payments ▸ member, rfl, .inl rfl⟩
  | recorded i oracle req placed payment intent at_i done =>
    refine unmoved (recordPaymentResult_touch (guard_ok done)) ?_
    rw [if_neg fun same => unrecorded i oracle req placed payment intent rfl at_i ⟨_, done⟩ same.2]
  | captured i oracle req placed row intent at_i quiet =>
    refine unmoved (captureWrite_touch _ _ _ _) ?_
    refine if_neg fun guarded => ?_
    rw [guarded.2] at waits
    cases waits
  | paid i oracle req placed payment at_i done => exact unmoved (markCaptured_touch (guard_ok done)) rfl
  | cancelledOwn i oracle req rest cart frame e order at_i mine done =>
    exact unmoved (cancelOwnOrder_touch (guard_ok done)) rfl
  | cancelled tenant customer order done =>
    rcases cancelOrder_touch done with same | ⟨o, present, named, _, _, h, touch, _⟩
    · exact ⟨p, same ▸ member, rfl, .inl rfl⟩
    · refine unmoved touch ?_
      have other : p.order ≠ order := by
        intro mine
        have closed := touch.orderStatus present
        rw [named, ← mine, pending] at closed
        simp [OrderStatus.at, named, mine] at closed
      rw [closedWith, if_neg fun closes => other closes.1.2]
  | applied k task queued done =>
    obtain ⟨q, inside, named, _, o, present, linked, _, touch⟩ := applyWebhookEvent_touch done
    by_cases mine : p.id = q.id
    · obtain rfl := s.db.payments.eq_of_key member inside mine
      have target : eventTarget task.event_type .pending = .pending := by
        have written := touch.orderStatus present
        rw [linked, pending, OrderStatus.at, if_pos linked, unpaid o present linked] at written
        exact (Option.some.inj written).symm
      have same : task.new_status = .pending := by
        by_contra other
        exact spared (.applied k task queued named ⟨_, done⟩ target other)
      obtain ⟨r, known, id, card⟩ := kept.2.tasks task (List.mem_of_getElem? queued)
      refine moved touch (.inr ⟨?_, carded known (named.trans id.symm) card⟩)
      simp [PaymentStatus.at, same, mapGatewayStatus]
    · exact unmoved touch (by simp [PaymentStatus.at, mine])
  | reconciled payment answer outcome done =>
    rcases reconcileOne_touch done with ⟨same, _⟩ | ⟨q, inside, rfl, stale, status, written, _, either⟩
    · exact ⟨p, same ▸ member, rfl, .inl rfl⟩
    · by_cases mine : p.id = q.id
      · obtain rfl := s.db.payments.eq_of_key member inside mine
        have left : status ≠ .captured ∧ status ≠ .failed ∧ status ≠ .cancelled := by
          rcases either with ⟨uncaptured, unfailed, uncancelled, _⟩ | ⟨o, present, linked, touch⟩
          · exact ⟨uncaptured, unfailed, uncancelled⟩
          · have moved := touch.orderStatus present
            rw [linked, pending, OrderStatus.at, if_pos linked] at moved
            exact (reconcileTarget_pending (Option.some.inj moved).symm).2
        obtain ⟨sent, intent, rfl, other⟩ := reconciledStatus_open written left.1 left.2.1 left.2.2
        exact absurd (.reconciled intent sent stale other) spared
      · rcases either with ⟨_, _, _, touch⟩ | ⟨_, _, _, touch⟩ <;>
          exact unmoved touch (by simp [PaymentStatus.at, mine])
  | marked k mark listed done =>
    obtain ⟨_, _, _, _, o, present, same, _, touch⟩ := markPaidWrite_touch done
    obtain ⟨q, inside, named, filed, _⟩ := kept.2.marks mark (List.mem_of_getElem? listed)
    refine unmoved touch ?_
    have other : p.id ≠ mark.payment := by
      intro mine
      obtain rfl := s.db.payments.eq_of_key member inside (mine.trans named.symm)
      have written := touch.orderStatus present
      rw [same, ← filed, pending] at written
      simp [OrderStatus.at, same, filed] at written
    simp [PaymentStatus.at, other]
  | refunded k row amount intent listed =>
    by_cases mine : p.tenant = row.tenant ∧ p.id = row.id
    · have same : intent.status = .pending := by
        by_contra other
        exact spared (.refunded k row amount intent listed mine.2 other)
      obtain ⟨known, card⟩ := kept.2.refunds _ (List.mem_of_getElem? listed)
      refine moved (refundWrite_touch _ _ _ _) (.inr ⟨?_, carded known mine.2 card⟩)
      rw [if_pos mine, same]
      rfl
    · exact unmoved (refundWrite_touch _ _ _ _) (if_neg mine)

theorem Change.payment_source {lib : WebhookLibrary} {s : Sys} {l : Label} {db' : Db} (change : Change lib s l db')
    {p' : Payment} (member : p' ∈ db'.payments.rows) :
    (∃ p ∈ s.db.payments.rows, p'.core = p.core) ∨ ∃ i req pc placed, s.calls i = some ⟨req, pc⟩ ∧
      Bills placed p' pc ∧ p'.order = placed.order.id := by
  cases change.shape with
  | touched touch =>
    obtain ⟨p, inside, core, _⟩ := touch.payment_of member
    exact .inl ⟨p, inside, core⟩
  | stocked new orders items payments => exact .inl ⟨p', payments ▸ member, rfl⟩
  | ordered i oracle order items at_l rows status payments => exact .inl ⟨p', payments ▸ member, rfl⟩
  | billed i oracle req pc placed row at_l at_i bills named rows orders reservations =>
    rw [rows] at member
    rcases List.mem_append.mp member with old | now
    · exact .inl ⟨p', old, rfl⟩
    · obtain rfl := List.mem_singleton.mp now
      exact .inr ⟨i, req, pc, placed, at_i, bills, named⟩
  | linked i oracle req pc placed h at_l at_i converts links => exact .inl ⟨p', links.payments ▸ member, rfl⟩

section Step

variable {settings : Settings} {lib : WebhookLibrary} {s s' : Sys} {l : Label}

theorem Sys.Invoices.start (initial : s.Initial) : s.Invoices := by
  simp [Sys.Invoices, initial.payments]

theorem Sys.Undoing.start (initial : s.Initial) : s.Undoing := by
  simp [Sys.Undoing, initial.calls]

theorem Sys.InSight.start (initial : s.Initial) : s.InSight := by
  simp [Sys.InSight, initial.orders]

theorem Sys.Owned.pending_before (owned : s.Owned) (taken : Storefront.step settings lib s l = some s') {i : Nat} {call : Call}
    (at_i : s.calls i = some call) {id : Id} (mine : call.pc.claim.orderId = some id)
    (pending : s'.db.orderStatus id = some .pending) :
    ∃ o ∈ s.db.orders.rows, o.id = id ∧ o.status = .pending := by
  obtain ⟨core, claimed, rfl⟩ := Option.map_eq_some_iff.mp mine
  obtain ⟨o, member, rfl⟩ := List.mem_map.mp ((owned.registered i call at_i).order_mem claimed)
  exact ⟨o, member, rfl, (step_change taken).pending_old member pending⟩

theorem Sys.Owned.recording_hand (owned : s.Owned) {i : Nat} {req : Request} {placed : Placed} {payment : Payment}
    {intent : PaymentIntent} (at_i : s.calls i = some ⟨req, .recordResult placed payment intent⟩) {p : Payment}
    (member : p ∈ s.db.payments.rows) (named : p.id = payment.id) : s.InHand p.order := by
  have registered := owned.registered i _ at_i
  obtain ⟨q, inside, core⟩ := List.mem_map.mp (registered.payment_mem rfl)
  obtain rfl := s.db.payments.eq_of_key member inside (named.trans (congrArg PaymentCore.id core).symm)
  have order : placed.order.id = payment.order := Option.some.inj (registered.billed _ rfl).2
  have filed : p.order = payment.order := congrArg PaymentCore.order core
  exact ⟨i, _, at_i, rfl, congrArg some (order.trans filed.symm)⟩

theorem invoice_untaken (kept : s.Kept) {p : Payment} (member : p ∈ s.db.payments.rows)
    (invoice : p.gateway_config = none) (waiting : p.status = .invoicePending) : ¬ Takes lib s p l := by
  intro takes
  cases takes with
  | applied k task queued named =>
    obtain ⟨q, known, same, card⟩ := kept.2.tasks task (List.mem_of_getElem? queued)
    exact (kept.1.invoice_apart member invoice known card).1 (named.trans same.symm)
  | reconciled intent sent stale =>
    rw [waiting] at stale
    cases stale
  | refunded k row amount intent listed named =>
    obtain ⟨known, card⟩ := kept.2.refunds _ (List.mem_of_getElem? listed)
    exact (kept.1.invoice_apart member invoice known card).1 named

theorem Sys.Invoices.step (invoices : s.Invoices) (kept : s.Kept) (taken : Storefront.step settings lib s l = some s') :
    s'.Invoices := by
  have change : Change lib s l s'.db := step_change taken
  intro p' inside config pending
  rcases change.payment_source inside with ⟨p, member, core⟩ | ⟨_, _, _, _, _, bills, _⟩
  · have order : p'.order = p.order := congrArg PaymentCore.order core
    have invoice : p.gateway_config = none := (congrArg PaymentCore.gateway_config core).symm.trans config
    have pending' : s'.db.orderStatus p.order = some .pending := order ▸ pending
    have open_ : s.db.orderStatus p.order = some .pending := change.pending_before kept.1 member pending'
    have waiting := invoices p member invoice open_
    have unrecorded (i : Nat) (oracle : Oracle) (req : Request) (placed : Placed) (payment : Payment)
        (intent : PaymentIntent) (_ : l = .advance i oracle)
        (at_i : s.calls i = some ⟨req, .recordResult placed payment intent⟩)
        (_ : Commits (oracle.guard (recordPaymentResult req.tenant payment.id intent s.db))) : p.id ≠ payment.id := by
      have card : Card req payment := (kept.1.stage i _ at_i).2
      have known : payment.core ∈ s.db.skeleton.payments := (kept.1.registered i _ at_i).payment_mem rfl
      exact (kept.1.invoice_apart member invoice known card.1).1
    obtain ⟨q, there, same, status⟩ := change.stays_waiting kept member (by simp [waiting, PaymentStatus.waits])
      pending' unrecorded (invoice_untaken kept member invoice waiting)
    obtain rfl := s'.db.payments.eq_of_key there inside (congrArg PaymentCore.id (same.trans core.symm))
    rcases status with unmoved | ⟨_, card⟩
    · rw [unmoved, waiting]
    · rw [invoice] at card
      cases card
  · cases bills with
    | invoice status _ => exact status
    | card gateway _ named =>
      rw [config] at named
      cases named

theorem Sys.Invoices.waiting (invoices : s.Invoices) (owned : s.Owned) {i : Nat} {req : Request} {placed : Placed}
    {payment : Payment} (at_i : s.calls i = some ⟨req, .convertInvoiced placed payment⟩) {id : Id}
    (mine : (Pc.convertInvoiced placed payment).claim.orderId = some id)
    (pending : s.db.orderStatus id = some .pending) :
    ∃ p ∈ s.db.payments.rows, p.order = id ∧ p.status = .invoicePending := by
  have registered := owned.registered i _ at_i
  have invoice : payment.gateway_config = none := (owned.stage i _ at_i).2
  obtain ⟨p, inside, core⟩ := List.mem_map.mp (registered.payment_mem rfl)
  have order : some id = some payment.order := mine.symm.trans (registered.billed _ rfl).2
  have filed : p.order = id := (congrArg PaymentCore.order core).trans (Option.some.inj order).symm
  have config : p.gateway_config = payment.gateway_config := congrArg PaymentCore.gateway_config core
  exact ⟨p, inside, filed, invoices p inside (config.trans invoice) (filed ▸ pending)⟩

theorem afterOrder_running {placed : Placed} (chosen : placed.view.paymentMethod.isSome = true) :
    (afterOrder placed).ended = false := by
  obtain ⟨method, found⟩ := Option.isSome_iff_exists.mp chosen
  simp only [afterOrder, found]
  split <;> rfl

theorem Sys.Undoing.step (undoing : s.Undoing) (kept : s.Kept) (taken : Storefront.step settings lib s l = some s') :
    s'.Undoing := by
  intro i req todo cart frame e id at_i mine
  have closed {call : Call} (earlier : s.calls i = some call) (claims : call.pc.claim.orderId = some id)
      (before : s.db.orderStatus id ≠ some .pending) : s'.db.orderStatus id ≠ some .pending := by
    intro pending
    obtain ⟨o, member, rfl, open_⟩ := kept.1.pending_before taken earlier claims pending
    exact before (by rw [Db.orderStatus_of_mem member, open_])
  rcases step_calls taken at_i with same | ⟨_, fresh⟩ | ⟨oracle, pc, rfl, earlier, live, moved⟩
  · exact (undoing i req todo cart frame e id same mine).imp_right (closed same mine)
  · cases fresh
  · have db' := step_advance taken earlier
    rcases advance_undo_head (Prod.ext moved.symm rfl) mine with head | after | ⟨action, other, was⟩
    · exact .inl head
    · exact .inr (db' ▸ after)
    · subst was
      rcases undoing i req _ cart frame e id earlier mine with head | before
      · exact absurd (Option.some.inj head) other
      · exact .inr (closed earlier mine before)

theorem Sys.InSight.step (sight : s.InSight) (kept : s.Kept) (invoices : s.Invoices) (undoing : s.Undoing)
    (taken : Storefront.step settings lib s l = some s') (keeps : KeepsInSight settings lib ⟨s, l, s'⟩) :
    s'.InSight := by
  intro o' present pending
  have change : Change lib s l s'.db := step_change taken
  have after : s'.db.orderStatus o'.id = some .pending := by rw [Db.orderStatus_of_mem present, pending]
  obtain ⟨j, call, at_j, claimed⟩ := (kept.1.step taken).owned o'.core (List.mem_map_of_mem present)
  have mine : call.pc.claim.orderId = some o'.id := congrArg (Option.map OrderCore.id) claimed
  cases ended : call.pc.ended with
  | false => exact .inr ⟨j, call, at_j, ended, mine⟩
  | true => ?_
  refine .inl ?_
  have stays {p : Payment} (member : p ∈ s.db.payments.rows) (filed : p.order = o'.id) (waits : p.status.waits = true)
      (unrecorded : ∀ i oracle req placed payment intent, l = .advance i oracle →
        s.calls i = some ⟨req, .recordResult placed payment intent⟩ →
        Commits (oracle.guard (recordPaymentResult req.tenant payment.id intent s.db)) → p.id ≠ payment.id)
      (spared : ¬ Takes lib s p l) : Waits s'.db o'.id := by
    obtain ⟨p', inside, core, status⟩ :=
      change.stays_waiting kept member waits (by rw [filed]; exact after) unrecorded spared
    refine ⟨p', inside, (congrArg PaymentCore.order core).trans filed, ?_⟩
    rcases status with same | ⟨same, _⟩
    · rw [same, waits]
    · rw [same]
      rfl
  rcases step_calls taken at_j with same | ⟨_, fresh⟩ | ⟨oracle, pc, rfl, earlier, live, moved⟩
  · obtain ⟨o, member, named, open_⟩ := kept.1.pending_before taken same mine after
    have unheld : ¬ s.InHand o'.id := by
      rintro ⟨i, other, at_i, live, claims⟩
      by_cases equal : i = j
      · subst equal
        rw [at_i] at same
        rw [Option.some.inj same, ended] at live
        cases live
      · exact (kept.1.apart i j _ _ at_i same equal).orders _ claims mine
    obtain ⟨p, inside, filed, waits⟩ := (sight o member open_).resolve_right (named ▸ unheld)
    rw [named] at filed
    refine stays inside filed waits ?_ fun takes => unheld ?_
    · rintro i oracle req placed payment intent rfl at_i _ aimed
      exact unheld (filed ▸ kept.1.recording_hand at_i inside aimed)
    · refine filed ▸ keeps.spared p inside waits ?_ takes
      dsimp only
      rw [filed, ← named, Db.orderStatus_of_mem member, open_]
  · rw [fresh] at mine
    cases mine
  · have db' := step_advance taken earlier
    have claims := advance_claims (Prod.ext moved.symm rfl) mine
    rcases claims with claims | ⟨view, reservations, order, rfl, next, _⟩
    · obtain ⟨o, member, named, open_⟩ := kept.1.pending_before taken earlier claims after
      have before : s.db.orderStatus o'.id = some .pending := by rw [← named, Db.orderStatus_of_mem member, open_]
      have untaken {p : Payment} : ¬ Takes lib s p (.advance j oracle) := fun takes => by cases takes
      rcases advance_hand (Prod.ext moved.symm rfl) live claims with
        ⟨running, _⟩ | abandons | closed | ⟨todo, cart, frame, e, rfl, head⟩ | ⟨placed, payment, rfl⟩
      · rw [ended] at running
        cases running
      · obtain ⟨p, inside, filed, waits⟩ := keeps.left j oracle _ pc _ rfl earlier abandons claims before
        refine stays inside filed waits ?_ untaken
        rintro i oracle' req placed payment intent same at_i ⟨_, done⟩
        cases same
        obtain ⟨rfl, rfl⟩ := Call.mk.inj (Option.some.inj (earlier.symm.trans at_i))
        obtain ⟨e, fails, _⟩ := abandons
        have equal := done.symm.trans fails
        cases equal
      · exact absurd after (db' ▸ closed)
      · exact absurd before ((undoing j _ todo cart frame e _ earlier claims).resolve_left head)
      · obtain ⟨p, inside, filed, waiting⟩ := invoices.waiting kept.1 earlier claims before
        refine stays inside filed (by simp [waiting, PaymentStatus.waits]) ?_ untaken
        rintro i oracle' req placed' payment' intent same at_i _
        cases same
        cases earlier.symm.trans at_i
    · have running : (afterOrder ⟨view, reservations, order⟩).ended = false :=
        afterOrder_running (keeps.placed j oracle _ view reservations rfl earlier)
      rw [← next, ended] at running
      cases running

end Step

/-- In a run that meets the condition no PENDING order escapes. -/
theorem nothing_escapes (settings : Settings) (lib : WebhookLibrary) {s₀ s : Sys} {moves : List (Move Sys Label)}
    (run : (machine settings lib).Run s₀ moves s) (keeps : ∀ move ∈ moves, KeepsInSight settings lib move) :
    NothingEscapes s := by
  have start (s : Sys) (initial : s.Initial) : s.Kept ∧ s.Invoices ∧ s.Undoing ∧ s.InSight :=
    ⟨.start initial, .start initial, .start initial, .start initial⟩
  have step (s : Sys) (l : Label) (s' : Sys) (inv : s.Kept ∧ s.Invoices ∧ s.Undoing ∧ s.InSight)
      (taken : (machine settings lib).step s l = some s') (keeps : KeepsInSight settings lib ⟨s, l, s'⟩) :
      s'.Kept ∧ s'.Invoices ∧ s'.Undoing ∧ s'.InSight := by
    obtain ⟨kept, invoices, undoing, sight⟩ := inv
    exact ⟨kept.step taken, invoices.step kept taken, undoing.step kept taken,
      sight.step kept invoices undoing taken keeps⟩
  obtain ⟨_, _, _, sight⟩ := run.invariant_when start step keeps
  intro ended o member pending
  refine (sight o member pending).resolve_right ?_
  rintro ⟨i, call, at_i, live, _⟩
  rw [ended i call at_i] at live
  cases live

namespace Sample

def invoiced : Sys :=
  { start with
    db := { shop with
      carts := ⟨[{ cart with selected_payment_method := some 61 }], by decide +kernel, by decide +kernel⟩ } }

theorem invoiced_initial : invoiced.Initial :=
  ⟨rfl, rfl, rfl, rfl, by decide +kernel, fun _ => rfl, rfl, rfl, rfl, rfl, rfl⟩

-- A purchase order, from its start to its result.
def invoicing : List Label := .begin 0 request :: blocks (placing ++ [.invoice, .convertInvoiced])

def afterInvoicing : Sys := (lab.exec invoiced invoicing).get (by decide +kernel)

theorem invoicing_runs : lab.exec invoiced invoicing = some afterInvoicing := (Option.some_get _).symm

def billing (s : Sys) : Label → Bool
  | .begin .. => true
  | .advance i _ => match s.calls i with
    | some ⟨_, .create view _⟩ => view.paymentMethod.isSome
    | some ⟨_, .find⟩ | some ⟨_, .lock⟩ | some ⟨_, .validate _⟩ | some ⟨_, .reserve _⟩
    | some ⟨_, .invoice _⟩ | some ⟨_, .convertInvoiced ..⟩ => true
    | _ => false
  | _ => false

theorem billing_keeps {move : Move Sys Label} (bills : billing move.before move.label = true) :
    KeepsInSight settings library move := by
  refine ⟨?_, ?_, ?_⟩
  · intro i oracle req view reservations moved at_i
    simpa [billing, moved, at_i] using bills
  · intro i oracle req pc id moved at_i abandons
    rw [moved] at bills
    cases pc <;> simp_all [billing, Abandons]
  · intro p member waits pending takes
    cases moved : move.label <;> rw [moved] at bills takes <;> cases takes <;> cases bills

-- The gateway raises on the capture of an authorized card.
def raising : List Label :=
  .begin 0 request :: blocks (authorizing ++ [.recordResult, .convert, .captureRead]) ++
    [.advance 0 { oracle .capture with answer := .error (.other "timeout") }]

def afterRaising : Sys := (lab.exec start raising).get (by decide +kernel)

theorem raising_runs : lab.exec start raising = some afterRaising := (Option.some_get _).symm

def beginsFirst (_ : Sys) : Label → Bool
  | .begin i _ => i == 0
  | _ => true

-- Only the first call was ever begun.
theorem first_only {settings : Settings} {lib : WebhookLibrary} {s₀ s : Sys} {moves : List (Move Sys Label)}
    (run : (machine settings lib).Run s₀ moves s)
    (only : ∀ move ∈ moves, beginsFirst move.before move.label = true) {i : Nat} {call : Call}
    (at_i : s.calls i = some call) : i = 0 := by
  have start (s : Sys) (initial : s.Initial) : ∀ i call, s.calls i = some call → i = 0 := by
    intro i call at_i
    rw [initial.calls i] at at_i
    cases at_i
  have step (s : Sys) (l : Label) (s' : Sys) (ih : ∀ i call, s.calls i = some call → i = 0)
      (taken : (machine settings lib).step s l = some s') (ok : beginsFirst s l = true) :
      ∀ i call, s'.calls i = some call → i = 0 := by
    intro i call at_i
    rcases step_calls taken at_i with same | ⟨begun, _⟩ | ⟨_, _, _, earlier, _⟩
    · exact ih i call same
    · subst begun
      exact beq_iff_eq.mp ok
    · exact ih i _ earlier
  exact run.invariant_when start step only i call at_i

end Sample

theorem nothing_escapes_invoiced : ∃ moves, Sample.lab.Run Sample.invoiced moves Sample.afterInvoicing ∧
    NothingEscapes Sample.afterInvoicing := by
  obtain ⟨moves, run, bills⟩ := Machine.exec_passes Sample.invoiced_initial Sample.invoicing_runs
    (show Sample.lab.passes Sample.billing _ _ = true by decide +kernel)
  exact ⟨moves, run, nothing_escapes _ _ run fun move member => Sample.billing_keeps (bills move member)⟩

/-- After a capture that raises the order is PENDING and its payment AUTHORIZED. -/
theorem capture_escapes : ¬ ∀ moves s, Sample.lab.Run Sample.start moves s → NothingEscapes s := by
  intro seen
  obtain ⟨moves, run, only⟩ := Machine.exec_passes Sample.start_initial Sample.raising_runs
    (show Sample.lab.passes Sample.beginsFirst _ _ = true by decide +kernel)
  have stopped : (Sample.afterRaising.calls 0).all (fun call => call.pc.ended) = true := by decide +kernel
  have ended (i : Nat) (call : Call) (at_i : Sample.afterRaising.calls i = some call) : call.pc.ended = true := by
    obtain rfl := Sample.first_only run only at_i
    simpa [at_i] using stopped
  have open_ : ∃ o ∈ Sample.afterRaising.db.orders.rows, o.status = .pending := by decide +kernel
  have unseen : ∀ p ∈ Sample.afterRaising.db.payments.rows, p.status.waits = false := by decide +kernel
  obtain ⟨o, member, pending⟩ := open_
  obtain ⟨p, inside, _, waits⟩ := seen moves _ run ended o member pending
  rw [unseen p inside] at waits
  cases waits

end Storefront
