import Storefront.System.Idempotency
import Storefront.System.PendingOrders
import Storefront.Transition.History

set_option autoImplicit false

/-!
# Who asks for an invoice

A checkout asks for the invoice of its order after its last transaction. The webhook task
and the sweep ask when they pay an order, in a callback of their transaction. What is
asked may get lost: the broker may refuse it, or the process die after the commit.
-/

namespace Storefront

open Relational Transition

-- _enqueue_post_payment_tasks, _enqueue_invoice_on_commit
inductive Enqueuer
  | postPayment | onCommit
  deriving DecidableEq, Repr

/-- generate_invoice.delay(tenant_id, order_id) -/
structure InvoiceAsk where
  enqueuer : Enqueuer
  tenant : Id
  order : Id
  deriving DecidableEq, Repr

def askFor (enqueuer : Enqueuer) (order : Order) : InvoiceAsk := ⟨enqueuer, order.tenant, order.id⟩

theorem askFor_congr {enqueuer : Enqueuer} {o o' : Order} (id : o.id = o'.id) (tenant : o.tenant = o'.tenant) :
    askFor enqueuer o = askFor enqueuer o' := by
  rw [askFor, askFor, id, tenant]

-- The callback of _apply_order_paid
def paidAsks (order : Order) : List InvoiceAsk := if order.status = .pending then [askFor .onCommit order] else []

-- A transaction that is rolled back runs no callback.
def webhookAsks (lib : WebhookLibrary) (task : WebhookTask) (now : Time) (db : Db) : List InvoiceAsk :=
  let found : Outcome Order := do
    let _ ← applyWebhookEvent lib task now db
    let payment ← db.payment task.tenant task.payment
    db.order task.tenant payment.order
  match found with
  | .ok order => if task.event_type.isText "payment.captured" then paidAsks order else []
  | .error _ => []

def reconcileAsks (payment : Id) (answer : Except Exn (Option PaymentIntent)) (now : Time) (db : Db) :
    List InvoiceAsk :=
  match reconcileOne payment answer now db, db.payments.rows.find? fun p => p.id == payment && p.status == .pending with
  | .ok _, some payment =>
    if reconciledStatus payment answer = some .captured then
      match orderUnscoped db payment.order with
      | .ok order => paidAsks order
      | .error _ => []
    else []
  | _, _ => []

def checkoutAsks (req : Request) (oracle : Oracle) (db : Db) : Pc → List InvoiceAsk
  | .convertInvoiced placed _ => match oracle.guard (convertInvoiced req oracle.now placed db) with
    | .ok _ => [askFor .postPayment placed.order]
    | .error _ => []
  | .paid placed _ => match oracle.guard (markCaptured req placed db) with
    | .ok _ => [askFor .postPayment placed.order]
    | .error _ => []
  | _ => []

def newAsks (lib : WebhookLibrary) (s : Sys) : Label → List InvoiceAsk
  | .advance i oracle => match s.calls i with
    | some call => checkoutAsks call.req { oracle with now := s.now } s.db call.pc
    | none => []
  | .process k => match s.queue[k]? with
    | some task => webhookAsks lib task s.now s.db
    | none => []
  | .reconcile payment answer => reconcileAsks payment answer s.now s.db
  | _ => []

/-! ## Who pays an order -/

inductive Pays (lib : WebhookLibrary) (s : Sys) : Label → Order → Prop
  | captured {i : Nat} {oracle : Oracle} {req : Request} {placed : Placed} {payment : Payment} {o : Order}
      (at_i : s.calls i = some ⟨req, .paid placed payment⟩)
      (done : Commits (oracle.guard (markCaptured req placed s.db)))
      (mine : placed.order.id = o.id) : Pays lib s (.advance i oracle) o
  | applied {k : Nat} {task : WebhookTask} {p : Payment} {o : Order} (queued : s.queue[k]? = some task)
      (done : Commits (applyWebhookEvent lib task s.now s.db))
      (event : task.event_type.isText "payment.captured" = true)
      (member : p ∈ s.db.payments.rows) (named : p.id = task.payment) (owner : p.tenant = task.tenant)
      (its : o.id = p.order) (visible : o.tenant = task.tenant) (pending : o.status = .pending) :
      Pays lib s (.process k) o
  | reconciled {payment : Id} {answer : Except Exn (Option PaymentIntent)} {p : Payment} {o : Order}
      (done : ∃ outcome db', reconcileOne payment answer s.now s.db = .ok (outcome, db'))
      (member : p ∈ s.db.payments.rows)
      (named : p.id = payment) (waits : p.status = .pending) (captured : reconciledStatus p answer = some .captured)
      (its : o.id = p.order) (pending : o.status = .pending) : Pays lib s (.reconcile payment answer) o
  | marked {k : Nat} {mark : MarkPaid} {o : Order} (listed : s.marks[k]? = some mark) (its : o.id = mark.order) :
      Pays lib s (.markPaidWrite k) o

theorem Sys.Owned.order_row {s : Sys} (owned : s.Owned) {i : Nat} {call : Call} (at_i : s.calls i = some call)
    {o row : Order} (claims : call.pc.claim.order = some o.core) (member : row ∈ s.db.orders.rows) (same : row.id = o.id) :
    row.core = o.core := by
  obtain ⟨row', member', core⟩ := List.mem_map.mp ((owned.registered i call at_i).order_mem claims)
  obtain rfl := s.db.orders.eq_of_key member member' (same.trans (congrArg OrderCore.id core).symm)
  exact core

section Paying

variable {lib : WebhookLibrary} {s : Sys} {l : Label} {db' : Db}

theorem Change.newly_paid (change : Change lib s l db') {o : Order} (member : o ∈ s.db.orders.rows)
    (other : o.status ≠ .paid) (paid : db'.orderStatus o.id = some .paid) : Pays lib s l o := by
  have touched {f : Order → OrderStatus} {g : Payment → PaymentStatus} {h : InventoryReservation → ReservationStatus}
      (touch : Touch s.db db' f g h) : f o = .paid := Option.some.inj ((touch.orderStatus member).symm.trans paid)
  have kept (same : db'.orderStatus o.id = s.db.orderStatus o.id) : Pays lib s l o :=
    absurd (Option.some.inj ((Db.orderStatus_of_mem member).symm.trans (same.symm.trans paid))) other
  cases change with
  | frees frees =>
    obtain ⟨_, touch, _⟩ := frees
    exact absurd (touched touch) other
  | stocked new orders => exact kept (by rw [Db.orderStatus, orders, Db.orderStatus])
  | ordered i oracle order items rows =>
    refine kept ?_
    rw [Db.orderStatus_of_mem member]
    exact Db.orderStatus_of_mem (by rw [rows]; exact List.mem_append_left _ member)
  | billed i oracle req pc placed row at_i bills named rows orders =>
    exact kept (by rw [Db.orderStatus, orders, Db.orderStatus])
  | linked i oracle req pc placed h at_i converts links =>
    obtain ⟨o', there, named, _, _, status⟩ := links.order_kept member
    refine kept ?_
    rw [← named, Db.orderStatus_of_mem there, status, named, Db.orderStatus_of_mem member]
  | recorded i oracle req placed payment intent at_i done =>
    exact absurd (touched (recordPaymentResult_touch (guard_ok done))) other
  | captured => exact absurd (touched (captureWrite_touch _ _ _ _)) other
  | paid i oracle req placed payment at_i done =>
    obtain ⟨same, _⟩ := OrderStatus.at_paid (touched (markCaptured_touch (guard_ok done))) other
    exact .captured at_i ⟨_, done⟩ same.symm
  | cancelledOwn i oracle req rest cart frame e order at_i mine done =>
    have written := (OrderStatus.at_paid (touched (cancelOwnOrder_touch (guard_ok done))) other).2
    unfold OrderStatus.cancelOwn at written
    split at written
    · cases written
    · exact absurd written other
  | cancelled tenant customer order done =>
    rcases cancelOrder_touch done with same | ⟨_, _, _, _, _, _, touch, _⟩
    · exact kept (by rw [same])
    · cases (OrderStatus.at_paid (touched touch) other).2
  | applied k task queued done =>
    obtain ⟨p, inside, named, owner, o', present, its, visible, touch⟩ := applyWebhookEvent_touch done
    obtain ⟨same, written⟩ := OrderStatus.at_paid (touched touch) other
    obtain rfl := s.db.orders.eq_of_key member present same
    obtain ⟨event, pending⟩ := eventTarget_paid other written
    exact .applied queued ⟨_, done⟩ event inside named owner its visible pending
  | reconciled payment answer outcome done =>
    rcases reconcileOne_touch done with ⟨same, _⟩ | ⟨p, inside, named, waits, status, reads, _, either⟩
    · exact kept (by rw [same])
    · rcases either with ⟨_, _, _, touch⟩ | ⟨o', present, its, touch⟩
      · exact absurd (touched touch) other
      · obtain ⟨same, written⟩ := OrderStatus.at_paid (touched touch) other
        obtain rfl := s.db.orders.eq_of_key member present same
        have captured := reconcileTarget_paid other written
        subst captured
        have pending : o.status = .pending := by
          rw [reconcileTarget, if_pos rfl] at written
          exact OrderStatus.pay_eq_paid other written
        exact .reconciled ⟨_, _, done⟩ inside named waits reads its pending
  | marked k mark listed done =>
    obtain ⟨_, _, _, _, _, _, _, _, touch⟩ := markPaidWrite_touch done
    exact .marked listed (OrderStatus.at_paid (touched touch) other).1
  | refunded => exact absurd (touched (refundWrite_touch _ _ _ _)) other

theorem Pays.asks {o : Order} (pays : Pays lib s l o) (member : o ∈ s.db.orders.rows) (owned : s.Owned) :
    (∃ enqueuer, askFor enqueuer o ∈ newAsks lib s l) ∨
      ∃ k mark, l = .markPaidWrite k ∧ s.marks[k]? = some mark ∧ o.id = mark.order := by
  cases pays with
  | @captured i oracle req placed payment o at_i done mine =>
    refine .inl ⟨.postPayment, ?_⟩
    have row := owned.order_row at_i (o := placed.order) rfl member mine.symm
    have job : askFor .postPayment placed.order = askFor .postPayment o :=
      askFor_congr mine (congrArg OrderCore.tenant row).symm
    obtain ⟨db', done⟩ := done
    have ran : ({ oracle with now := s.now } : Oracle).guard (markCaptured req placed s.db) = .ok db' := done
    simp only [newAsks, at_i, checkoutAsks, ran, job, List.mem_singleton]
  | @applied k task p o queued done event inside named owner its visible pending =>
    refine .inl ⟨.onCommit, ?_⟩
    obtain ⟨db', done⟩ := done
    have payment : s.db.payment task.tenant task.payment = .ok p := payment_eq_ok.mpr ⟨inside, named, owner⟩
    have order : s.db.order task.tenant p.order = .ok o := order_eq_ok.mpr ⟨member, its, visible⟩
    have found : (do
        let _ ← applyWebhookEvent lib task s.now s.db
        let payment ← s.db.payment task.tenant task.payment
        s.db.order task.tenant payment.order : Outcome Order) = .ok o := by
      simp only [bind_eq_ok]
      exact ⟨_, done, _, payment, order⟩
    simp only [newAsks, queued, webhookAsks, found, event, if_true, paidAsks, pending, List.mem_singleton]
  | @reconciled payment answer p o done inside named waits captured its pending =>
    refine .inl ⟨.onCommit, ?_⟩
    obtain ⟨outcome, db', done⟩ := done
    have found : (s.db.payments.rows.find? fun q => q.id == payment && q.status == .pending) = some p := by
      have got : s.db.payments.get payment = some p := named ▸ Table.get_of_mem inside
      have swap : (fun q : Payment => q.id == payment && q.status == .pending) =
          fun q => q.status == .pending && q.id == payment := funext fun _ => Bool.and_comm ..
      rw [swap]
      exact (s.db.payments.find_key (fun q => q.status == .pending) payment).trans (by simp [got, Option.filter, waits])
    have order : orderUnscoped s.db p.order = .ok o := by
      have got : s.db.orders.get p.order = some o := its ▸ Table.get_of_mem member
      exact orRaise_eq_ok.mpr got
    simp only [newAsks, reconcileAsks, done, found, captured, if_true, order, paidAsks, pending, List.mem_singleton]
  | @marked k mark o listed its => exact .inr ⟨k, mark, rfl, listed, its⟩

end Paying

/-! ## What a step asks for -/

def OnInvoice (db : Db) (o : Order) : Prop := ∃ p ∈ db.payments.rows, p.order = o.id ∧ p.gateway_config = none

def LinkedInvoice (db : Db) (order : Id) : Prop :=
  ∃ o ∈ db.orders.rows, o.id = order ∧ o.cart.isSome ∧ OnInvoice db o

def Earns (db : Db) (order : Id) : Prop := db.orderStatus order = some .paid ∨ LinkedInvoice db order

inductive Asking (s s' : Sys) (l : Label) : List InvoiceAsk → Prop
  | nothing : Asking s s' l []
  | onCommit {o : Order} (member : o ∈ s.db.orders.rows) (pending : o.status = .pending)
      (paid : s'.db.orderStatus o.id = some .paid) : Asking s s' l [askFor .onCommit o]
  | postPayment {o : Order} {i : Nat} {oracle : Oracle} {call call' : Call} (member : o ∈ s.db.orders.rows)
      (at_l : l = .advance i oracle) (at_i : s.calls i = some call) (running : call.pc.ended = false)
      (its : call.pc.claim.orderId = some o.id) (at_i' : s'.calls i = some call') (ended : call'.pc.ended = true)
      (its' : call'.pc.claim.orderId = some o.id)
      (earned : Earns s'.db o.id) : Asking s s' l [askFor .postPayment o]

section Steps

variable {settings : Settings} {lib : WebhookLibrary} {s s' : Sys} {l : Label}

theorem Links.order_linked {reservations : List Id} {order cart : Id} {h : InventoryReservation → ReservationStatus}
    {db db' : Db} (links : Links reservations order cart h db db') {o : Order} (member : o ∈ db.orders.rows)
    (its : o.id = order) : ∃ o' ∈ db'.orders.rows, o'.id = o.id ∧ o'.cart.isSome = true := by
  have image : (if o.core.id = order then { o.core with cart := some cart } else o.core, o.status) ∈
      db'.orders.rows.map fun o => (o.core, o.status) := links.orders ▸ List.mem_map_of_mem member
  rw [if_pos (show o.core.id = order from its)] at image
  obtain ⟨o', there, same⟩ := List.mem_map.mp image
  have core := (Prod.mk.inj same).1
  exact ⟨o', there, congrArg OrderCore.id core, by rw [show o'.cart = some cart from congrArg OrderCore.cart core]; rfl⟩

theorem paidAsks_asking {o : Order} (member : o ∈ s.db.orders.rows)
    (paid : o.status = .pending → s'.db.orderStatus o.id = some .paid) : Asking s s' l (paidAsks o) := by
  unfold paidAsks
  split
  next pending => exact .onCommit member pending (paid pending)
  · exact .nothing

theorem asking_postPayment (owned : s.Owned) {i : Nat} {oracle : Oracle} {call call' : Call} {placed : Placed}
    (at_i : s.calls i = some call) (running : call.pc.ended = false)
    (claims : call.pc.claim.order = some placed.order.core)
    (at_i' : s'.calls i = some call') (ended : call'.pc.ended = true)
    (claims' : call'.pc.claim.orderId = some placed.order.id) (earned : Earns s'.db placed.order.id) :
    Asking s s' (.advance i oracle) [askFor .postPayment placed.order] := by
  obtain ⟨o, member, core⟩ := List.mem_map.mp ((owned.registered i call at_i).order_mem claims)
  have id : placed.order.id = o.id := (congrArg OrderCore.id core).symm
  have mine : call.pc.claim.orderId = some placed.order.id := by rw [Claim.orderId, claims]; rfl
  rw [askFor_congr id (congrArg OrderCore.tenant core).symm]
  rw [id] at mine claims' earned
  exact .postPayment member rfl at_i running mine at_i' ended claims' earned

theorem step_asking (owned : s.Owned) (taken : step settings lib s l = some s') : Asking s s' l (newAsks lib s l) := by
  cases l with
  | advance i oracle =>
    cases at_i : s.calls i with
    | none =>
      simp only [newAsks, at_i]
      exact .nothing
    | some call =>
      obtain ⟨req, pc⟩ := call
      have at_i' := step_advance_call taken at_i
      have db := step_advance taken at_i
      simp only [newAsks, at_i]
      cases pc with
      | convertInvoiced placed payment =>
        simp only [checkoutAsks]
        split
        next db' done =>
          simp only [Storefront.advance, done] at at_i' db
          refine asking_postPayment owned at_i rfl rfl at_i' rfl rfl (.inr ?_)
          have links := convertInvoiced_links (guard_ok done)
          have registered := owned.registered i _ at_i
          have stage : placed.order.cart = none ∧ payment.gateway_config = none := owned.stage i _ at_i
          obtain ⟨o, member, core⟩ := List.mem_map.mp (registered.order_mem (o := placed.order.core) rfl)
          obtain ⟨p, billed, same⟩ := List.mem_map.mp (registered.payment_mem (p := payment.core) rfl)
          have id : o.id = placed.order.id := congrArg OrderCore.id core
          have order : placed.order.id = payment.order := Option.some.inj (registered.billed payment.core rfl).2
          obtain ⟨o', member', id', linked⟩ := links.order_linked member id
          rw [db]
          refine ⟨o', member', id'.trans id, linked, p, links.payments ▸ billed, ?_, ?_⟩
          · exact (congrArg PaymentCore.order same).trans (order.symm.trans (id'.trans id).symm)
          · exact (congrArg PaymentCore.gateway_config same).trans stage.2
        · exact .nothing
      | paid placed payment =>
        simp only [checkoutAsks]
        split
        next db' done =>
          simp only [Storefront.advance, done] at at_i' db
          refine asking_postPayment owned at_i rfl rfl at_i' rfl rfl (.inl ?_)
          have registered := owned.registered i _ at_i
          obtain ⟨o, member, core⟩ := List.mem_map.mp (registered.order_mem (o := placed.order.core) rfl)
          have id : o.id = placed.order.id := congrArg OrderCore.id core
          rw [db, ← id, (markCaptured_touch (guard_ok done)).orderStatus member, OrderStatus.at, if_pos id]
        · exact .nothing
      | _ => exact .nothing
  | process k =>
    simp only [step] at taken
    split at taken
    next task queued =>
      obtain ⟨db', done, rfl⟩ := commits_eq_some taken
      simp only [newAsks, queued, webhookAsks]
      split
      next order found =>
        split
        next event =>
          simp only [bind_eq_ok] at found
          obtain ⟨last, applied, p, payment, order⟩ := found
          have same : last = db' := by
            rw [processWebhookEvent, applied] at done
            exact Except.ok.inj done
          subst same
          obtain ⟨inside, named, _⟩ := payment_eq_ok.mp payment
          obtain ⟨member, its, _⟩ := order_eq_ok.mp order
          refine paidAsks_asking member fun pending => ?_
          obtain ⟨q, inside', named', _, o', member', its', _, touch⟩ := applyWebhookEvent_touch applied
          obtain rfl := s.db.payments.eq_of_key inside inside' (named.trans named'.symm)
          obtain rfl := s.db.orders.eq_of_key member member' (its.trans its'.symm)
          refine (touch.orderStatus member).trans ?_
          simp [OrderStatus.at, eventTarget, event, OrderStatus.pay, pending]
        · exact .nothing
      · exact .nothing
    · cases taken
  | reconcile payment answer =>
    simp only [step] at taken
    split at taken
    · obtain ⟨db', done, rfl⟩ := commits_eq_some taken
      obtain ⟨⟨outcome, _⟩, reconciled, rfl⟩ := map_eq_ok.mp done
      simp only [newAsks, reconcileAsks, reconciled]
      split
      next p _ found =>
        split
        next captured =>
          split
          next order read =>
            obtain ⟨member, its⟩ := orderUnscoped_eq_ok read
            have picked := List.find?_some found
            simp only [Bool.and_eq_true, beq_iff_eq] at picked
            refine paidAsks_asking member fun pending => ?_
            obtain ⟨named, waits⟩ := picked
            have inside := List.mem_of_find?_eq_some found
            rcases reconcileOne_touch reconciled with ⟨_, unread⟩ | ⟨q, inside', named', _, status, reads, _, either⟩
            · rw [unread p inside named waits] at captured
              cases captured
            · obtain rfl := s.db.payments.eq_of_key inside inside' (named.trans named'.symm)
              obtain rfl := Option.some.inj (reads.symm.trans captured)
              rcases either with ⟨other, _⟩ | ⟨o', member', its', touch⟩
              · exact absurd rfl other
              · obtain rfl := s.db.orders.eq_of_key member member' (its.trans its'.symm)
                refine (touch.orderStatus member).trans ?_
                simp [OrderStatus.at, reconcileTarget, OrderStatus.pay, pending]
          · exact .nothing
        · exact .nothing
      · exact .nothing
    · cases taken
  | _ => exact .nothing

theorem Asking.paid {asks : List InvoiceAsk} (asking : Asking s s' l asks) {o : Order}
    (listed : askFor .onCommit o ∈ asks) : s'.db.orderStatus o.id = some .paid := by
  cases asking with
  | nothing => cases listed
  | @onCommit placed _ _ paid =>
    have id : o.id = placed.id := congrArg InvoiceAsk.order (List.mem_singleton.mp listed)
    rw [id]
    exact paid
  | postPayment => cases congrArg InvoiceAsk.enqueuer (List.mem_singleton.mp listed)

theorem Asking.ended {asks : List InvoiceAsk} (asking : Asking s s' l asks) {o : Order}
    (listed : askFor .postPayment o ∈ asks) :
    ∃ i call, s'.calls i = some call ∧ call.pc.ended = true ∧ call.pc.claim.orderId = some o.id := by
  cases asking with
  | nothing => cases listed
  | onCommit => cases congrArg InvoiceAsk.enqueuer (List.mem_singleton.mp listed)
  | @postPayment placed i _ _ call _ _ _ _ _ at_i ended claims =>
    have id : o.id = placed.id := congrArg InvoiceAsk.order (List.mem_singleton.mp listed)
    rw [id]
    exact ⟨i, call, at_i, ended, claims⟩

theorem Asking.known {asks : List InvoiceAsk} (asking : Asking s s' l asks) {ask : InvoiceAsk} (listed : ask ∈ asks) :
    ∃ o ∈ s.db.orders.rows, askFor ask.enqueuer o = ask := by
  cases asking with
  | nothing => cases listed
  | onCommit member | postPayment member =>
    obtain rfl := List.mem_singleton.mp listed
    exact ⟨_, member, rfl⟩

theorem step_ended (taken : step settings lib s l = some s') {i : Nat} {call : Call} (at_i : s.calls i = some call)
    (ended : call.pc.ended = true) : s'.calls i = some call := by
  cases l with
  | begin j req =>
    simp only [step] at taken
    split at taken
    next free =>
      cases taken
      have other : i ≠ j := by
        rintro rfl
        simp [at_i] at free
      simpa [Sys.setCall, other] using at_i
    · cases taken
  | advance j oracle =>
    simp only [step] at taken
    split at taken
    · cases taken
    next before at_j =>
      split at taken
      · cases taken
      next running =>
        cases taken
        have other : i ≠ j := by
          rintro rfl
          obtain rfl := Option.some.inj (at_i.symm.trans at_j)
          exact running ended
        simpa [Sys.setCall, other, Sys.withDb] using at_i
  | createProduct | patchProduct | deactivateProduct | cancelOrder =>
    exact (commits_logs taken).2.2.2.1 ▸ at_i
  | tick | shop | sweep => cases taken; exact at_i
  | process | reconcile | expire | markPaidWrite =>
    simp only [step] at taken
    split at taken
    · exact (commits_logs taken).2.2.2.1 ▸ at_i
    · cases taken
  | _ =>
    simp only [step] at taken
    split at taken <;> cases taken
    exact at_i

theorem Shape.order_from {db' : Db} (shape : Shape s l db') {o' : Order} (member : o' ∈ db'.orders.rows) :
    (o'.status = .pending ∧ o'.cart = none) ∨ ∃ o ∈ s.db.orders.rows, o.id = o'.id ∧ o.tenant = o'.tenant ∧
      (o'.cart = o.cart ∨ ∃ i oracle req pc placed h, l = .advance i oracle ∧ s.calls i = some ⟨req, pc⟩ ∧
        Converts placed pc h ∧ placed.order.id = o'.id ∧ db'.payments = s.db.payments) := by
  cases shape with
  | touched touch =>
    obtain ⟨o, before, core, _⟩ := touch.order_of member
    exact .inr ⟨o, before, (congrArg OrderCore.id core).symm, (congrArg OrderCore.tenant core).symm,
      .inl (congrArg OrderCore.cart core)⟩
  | stocked new orders => exact .inr ⟨o', orders ▸ member, rfl, rfl, .inl rfl⟩
  | ordered i oracle order items at_l rows status payments reservations unlinked =>
    rw [rows, List.mem_append, List.mem_singleton] at member
    rcases member with before | rfl
    · exact .inr ⟨o', before, rfl, rfl, .inl rfl⟩
    · exact .inl ⟨status, unlinked⟩
  | billed i oracle req pc placed row at_l at_i bills named rows orders =>
    exact .inr ⟨o', orders ▸ member, rfl, rfl, .inl rfl⟩
  | linked i oracle req pc placed h at_l at_i converts links =>
    have image : (o'.core, o'.status) ∈ s.db.orders.rows.map fun o => (if o.core.id = placed.order.id then
        { o.core with cart := some placed.view.cart.id } else o.core, o.status) :=
      links.orders ▸ List.mem_map_of_mem member
    obtain ⟨o, before, same⟩ := List.mem_map.mp image
    have core := (Prod.mk.inj same).1
    refine .inr ⟨o, before, ?_⟩
    split at core
    next its =>
      have id : o.id = o'.id := congrArg OrderCore.id core
      exact ⟨id, congrArg OrderCore.tenant core, .inr ⟨i, oracle, req, pc, placed, h, at_l, at_i, converts,
        its.symm.trans id, links.payments⟩⟩
    · exact ⟨congrArg OrderCore.id core, congrArg OrderCore.tenant core, .inl (congrArg OrderCore.cart core).symm⟩

theorem Shape.link_kept {db' : Db} (shape : Shape s l db') {o : Order} (member : o ∈ s.db.orders.rows)
    (linked : o.cart.isSome = true) : ∃ o' ∈ db'.orders.rows, o'.id = o.id ∧ o'.cart.isSome = true := by
  cases shape with
  | touched touch =>
    obtain ⟨o', there, core, _⟩ := touch.order member
    exact ⟨o', there, congrArg OrderCore.id core, (show o'.cart = o.cart from congrArg OrderCore.cart core) ▸ linked⟩
  | stocked new orders => exact ⟨o, orders ▸ member, rfl, linked⟩
  | ordered i oracle order items at_l rows => exact ⟨o, rows ▸ List.mem_append_left _ member, rfl, linked⟩
  | billed i oracle req pc placed row at_l at_i bills named rows orders => exact ⟨o, orders ▸ member, rfl, linked⟩
  | linked i oracle req pc placed h at_l at_i converts links =>
    by_cases its : o.id = placed.order.id
    · exact links.order_linked member its
    · have image : (if o.core.id = placed.order.id then { o.core with cart := some placed.view.cart.id } else o.core,
          o.status) ∈ db'.orders.rows.map fun o => (o.core, o.status) := links.orders ▸ List.mem_map_of_mem member
      rw [if_neg (show o.core.id ≠ placed.order.id from its)] at image
      obtain ⟨o', there, same⟩ := List.mem_map.mp image
      have core := (Prod.mk.inj same).1
      exact ⟨o', there, congrArg OrderCore.id core, (show o'.cart = o.cart from congrArg OrderCore.cart core) ▸ linked⟩

theorem Shape.payment_from {db' : Db} (shape : Shape s l db') {p' : Payment} (member : p' ∈ db'.payments.rows) :
    (∃ p ∈ s.db.payments.rows, p.core = p'.core) ∨ ∃ i oracle req pc placed, l = .advance i oracle ∧
      s.calls i = some ⟨req, pc⟩ ∧ Bills placed p' pc ∧ p'.order = placed.order.id := by
  cases shape with
  | touched touch =>
    obtain ⟨p, before, core, _⟩ := touch.payment_of member
    exact .inl ⟨p, before, core.symm⟩
  | stocked new orders items payments => exact .inl ⟨p', payments ▸ member, rfl⟩
  | ordered i oracle order items at_l rows status payments => exact .inl ⟨p', payments ▸ member, rfl⟩
  | billed i oracle req pc placed row at_l at_i bills named rows =>
    rw [rows, List.mem_append, List.mem_singleton] at member
    rcases member with before | rfl
    · exact .inl ⟨p', before, rfl⟩
    · exact .inr ⟨i, oracle, req, pc, placed, at_l, at_i, bills, named⟩
  | linked i oracle req pc placed h at_l at_i converts links => exact .inl ⟨p', links.payments ▸ member, rfl⟩

theorem converts_asks (taken : step settings lib s l = some s') {i : Nat} {oracle : Oracle}
    (at_l : l = .advance i oracle) {req : Request} {placed : Placed} {payment : Payment}
    (at_i : s.calls i = some ⟨req, .convertInvoiced placed payment⟩) :
    s'.db = s.db ∨ askFor .postPayment placed.order ∈ newAsks lib s l := by
  subst at_l
  cases done : ({ oracle with now := s.now } : Oracle).guard (convertInvoiced req s.now placed s.db) with
  | ok db' => exact .inr (by simp [newAsks, at_i, checkoutAsks, done])
  | error e =>
    refine .inl ((step_advance taken at_i).trans ?_)
    simp only [advance, done]

end Steps

/-! ## What was asked for -/

structure JobsHeld (asks : List InvoiceAsk) (s : Sys) : Prop where
  known : ∀ ask ∈ asks, ∃ o ∈ s.db.orders.rows, askFor ask.enqueuer o = ask
  converted : ∀ o ∈ s.db.orders.rows, o.cart.isSome → OnInvoice s.db o → askFor .postPayment o ∈ asks
  paid : ∀ o ∈ s.db.orders.rows, o.status = .paid →
    (∃ enqueuer, askFor enqueuer o ∈ asks) ∨ o.cart = none ∧ OnInvoice s.db o
  -- What is behind each of the two asks, so that it does not come twice
  settled : ∀ o ∈ s.db.orders.rows, askFor .onCommit o ∈ asks → o.status ≠ .pending
  ended : ∀ o ∈ s.db.orders.rows, askFor .postPayment o ∈ asks →
    ∃ i call, s.calls i = some call ∧ call.pc.ended = true ∧ call.pc.claim.orderId = some o.id
  once : asks.Nodup

section Held

variable {settings : Settings} {lib : WebhookLibrary} {s s' : Sys} {l : Label} {asks : List InvoiceAsk}

theorem OnInvoice.step {o o' : Order} (change : Change lib s l s'.db) (invoice : OnInvoice s.db o) (id : o.id = o'.id) :
    OnInvoice s'.db o' := by
  obtain ⟨p, member, its, config⟩ := invoice
  obtain ⟨p', member', same⟩ := List.mem_map.mp (change.payments (List.mem_map_of_mem member))
  exact ⟨p', member', ((congrArg PaymentCore.order same).trans its).trans id,
    (congrArg PaymentCore.gateway_config same).trans config⟩

theorem LinkedInvoice.step (taken : Storefront.step settings lib s l = some s') {order : Id}
    (linked : LinkedInvoice s.db order) : LinkedInvoice s'.db order := by
  obtain ⟨o, member, id, cart, invoice⟩ := linked
  obtain ⟨o', member', id', cart'⟩ := (step_change taken).shape.link_kept member cart
  exact ⟨o', member', id'.trans id, cart', invoice.step (step_change taken) id'.symm⟩

theorem JobsHeld.known_step (held : JobsHeld asks s) (kept : s.Kept) (taken : step settings lib s l = some s') :
    ∀ ask ∈ asks ++ newAsks lib s l, ∃ o ∈ s'.db.orders.rows, askFor ask.enqueuer o = ask := by
  have after {ask : InvoiceAsk} (before : ∃ o ∈ s.db.orders.rows, askFor ask.enqueuer o = ask) :
      ∃ o ∈ s'.db.orders.rows, askFor ask.enqueuer o = ask := by
    obtain ⟨o, member, same⟩ := before
    obtain ⟨o', member', body⟩ := (step_change taken).shape.order_kept member
    exact ⟨o', member', (askFor_congr (congrArg OrderCore.id body) (congrArg OrderCore.tenant body)).trans same⟩
  intro ask inside
  rcases List.mem_append.mp inside with old | new
  · exact after (held.known ask old)
  · exact after ((step_asking kept.1 taken).known new)

theorem JobsHeld.converted_step (held : JobsHeld asks s) (kept : s.Kept) (taken : step settings lib s l = some s') :
    ∀ o ∈ s'.db.orders.rows, o.cart.isSome → OnInvoice s'.db o → askFor .postPayment o ∈ asks ++ newAsks lib s l := by
  have owned : s.Owned := kept.1
  have shape := (step_change taken).shape
  intro o' member linked ⟨p', billed, its, config⟩
  rcases shape.order_from member with ⟨_, none⟩ | ⟨o, before, id, tenant, cart⟩
  · simp [none] at linked
  have asked (earlier : o.cart.isSome) (invoice : OnInvoice s.db o) :
      askFor .postPayment o' ∈ asks ++ newAsks lib s l :=
    List.mem_append_left _ (askFor_congr id tenant ▸ held.converted o before earlier invoice)
  rcases cart with same | ⟨i, oracle, req, pc, placed, h, at_l, at_i, converts, mine, payments⟩
  · refine asked (same ▸ linked) ?_
    rcases shape.payment_from billed with ⟨p, old, core⟩ | ⟨i, oracle, req, pc, placed, at_l, at_i, bills, named⟩
    · exact ⟨p, old, ((congrArg PaymentCore.order core).trans its).trans id.symm,
        (congrArg PaymentCore.gateway_config core).trans config⟩
    · -- The order that gets its payment is not linked yet.
      cases bills with
      | invoice =>
        have stage : placed.order.cart = none := owned.stage i _ at_i
        have row := owned.order_row at_i (o := placed.order) rfl before (id.trans (its.symm.trans named))
        rw [same, show o.cart = placed.order.cart from congrArg OrderCore.cart row, stage] at linked
        cases linked
      | card _ _ gateway =>
        rw [config] at gateway
        cases gateway
  · cases converts with
    | card payment =>
      have stage : placed.order.cart = none ∧ Card req payment := owned.stage i _ at_i
      have registered := owned.registered i _ at_i
      have known := registered.payment_mem (p := payment.core) rfl
      have order : some placed.order.id = some payment.order := (registered.billed payment.core rfl).2
      have apart := owned.invoice_apart (payments ▸ billed) config known stage.2.1
      exact absurd (its.trans (mine.symm.trans (Option.some.inj order))) apart.2
    | invoice payment =>
      have row := owned.order_row at_i (o := placed.order) rfl before (id.trans mine.symm)
      rcases converts_asks taken at_l at_i with unchanged | asked'
      · rw [unchanged] at member billed
        exact List.mem_append_left _ (held.converted o' member linked ⟨p', billed, its, config⟩)
      · have same : askFor .postPayment placed.order = askFor .postPayment o' :=
          askFor_congr mine ((congrArg OrderCore.tenant row).symm.trans tenant)
        exact List.mem_append_right _ (same ▸ asked')

theorem JobsHeld.paid_step (held : JobsHeld asks s) (kept : s.Kept) (taken : step settings lib s l = some s') :
    ∀ o ∈ s'.db.orders.rows, o.status = .paid →
      (∃ enqueuer, askFor enqueuer o ∈ asks ++ newAsks lib s l) ∨ o.cart = none ∧ OnInvoice s'.db o := by
  have change : Change lib s l s'.db := step_change taken
  intro o' member paid
  have billed (invoice : OnInvoice s'.db o') :
      (∃ enqueuer, askFor enqueuer o' ∈ asks ++ newAsks lib s l) ∨ o'.cart = none ∧ OnInvoice s'.db o' := by
    cases cart : o'.cart with
    | none => exact .inr ⟨rfl, invoice⟩
    | some id => exact .inl ⟨.postPayment, held.converted_step kept taken o' member (by simp [cart]) invoice⟩
  rcases change.shape.order_from member with ⟨pending, _⟩ | ⟨o, before, id, tenant, _⟩
  · rw [pending] at paid
    cases paid
  by_cases earlier : o.status = .paid
  · rcases held.paid o before earlier with ⟨enqueuer, asked⟩ | ⟨_, invoice⟩
    · exact .inl ⟨enqueuer, List.mem_append_left _ (askFor_congr id tenant ▸ asked)⟩
    · exact billed (invoice.step change id)
  · have now_paid : s'.db.orderStatus o.id = some .paid := by
      rw [id, Db.orderStatus_of_mem member, paid]
    rcases (change.newly_paid before earlier now_paid).asks before kept.1 with
      ⟨enqueuer, asked⟩ | ⟨k, mark, _, listed, its⟩
    · exact .inl ⟨enqueuer, List.mem_append_right _ (askFor_congr id tenant ▸ asked)⟩
    · obtain ⟨p, there, _, order, _, config, _⟩ := kept.2.marks mark (List.mem_of_getElem? listed)
      exact billed (OnInvoice.step change ⟨p, there, order.trans its.symm, config⟩ id)

theorem JobsHeld.settled_step (held : JobsHeld asks s) (kept : s.Kept) (taken : step settings lib s l = some s') :
    ∀ o ∈ s'.db.orders.rows, askFor .onCommit o ∈ asks ++ newAsks lib s l → o.status ≠ .pending := by
  intro o' member asked pending
  rcases List.mem_append.mp asked with old | new
  · obtain ⟨o, before, same⟩ := held.known _ old
    have id : o.id = o'.id := congrArg InvoiceAsk.order same
    have still : s'.db.orderStatus o.id = some .pending := by rw [id, Db.orderStatus_of_mem member, pending]
    exact held.settled o before (same ▸ old) ((step_change taken).pending_old before still)
  · have paid := (step_asking kept.1 taken).paid new
    rw [Db.orderStatus_of_mem member, pending] at paid
    cases paid

theorem JobsHeld.ended_step (held : JobsHeld asks s) (kept : s.Kept) (taken : step settings lib s l = some s') :
    ∀ o ∈ s'.db.orders.rows, askFor .postPayment o ∈ asks ++ newAsks lib s l →
      ∃ i call, s'.calls i = some call ∧ call.pc.ended = true ∧ call.pc.claim.orderId = some o.id := by
  intro o' member asked
  rcases List.mem_append.mp asked with old | new
  · obtain ⟨o, before, same⟩ := held.known _ old
    obtain ⟨i, call, at_i, ended, claims⟩ := held.ended o before (same ▸ old)
    have id : o.id = o'.id := congrArg InvoiceAsk.order same
    exact ⟨i, call, step_ended taken at_i ended, ended, id ▸ claims⟩
  · exact (step_asking kept.1 taken).ended new

theorem JobsHeld.once_step (held : JobsHeld asks s) (kept : s.Kept) (taken : step settings lib s l = some s') :
    (asks ++ newAsks lib s l).Nodup := by
  have asking := step_asking kept.1 taken
  generalize newAsks lib s l = asked at asking
  cases asking with
  | nothing => simpa using held.once
  | onCommit member pending =>
    refine List.Nodup.append held.once (List.nodup_singleton _) (List.disjoint_singleton.mpr fun earlier => ?_)
    exact held.settled _ member earlier pending
  | @postPayment o i _ call _ member _ at_i running claims =>
    refine List.Nodup.append held.once (List.nodup_singleton _) (List.disjoint_singleton.mpr fun earlier => ?_)
    obtain ⟨j, other, at_j, ended, claims'⟩ := held.ended _ member earlier
    by_cases same : j = i
    · subst same
      rw [Option.some.inj (at_j.symm.trans at_i), running] at ended
      cases ended
    · exact (kept.1.apart j i other call at_j at_i same).orders o.id claims' claims

theorem JobsHeld.step (held : JobsHeld asks s) (kept : s.Kept) (taken : Storefront.step settings lib s l = some s') :
    JobsHeld (asks ++ newAsks lib s l) s' where
  known := held.known_step kept taken
  converted := held.converted_step kept taken
  paid := held.paid_step kept taken
  settled := held.settled_step kept taken
  ended := held.ended_step kept taken
  once := held.once_step kept taken

end Held

/-! ## Runs -/

theorem JobsHeld.start {s : Sys} (initial : s.Initial) : JobsHeld [] s where
  known := by simp
  converted := by simp [initial.orders]
  paid := by simp [initial.orders]
  settled := by simp
  ended := by simp
  once := List.nodup_nil

section Runs

variable {settings : Settings} {lib : WebhookLibrary} {s₀ s : Sys} {moves : List (Move Sys Label)}

end Runs

end Storefront
