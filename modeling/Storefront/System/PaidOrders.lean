import Storefront.System.OrderLife

set_option autoImplicit false

/-!
# Paid orders and their money
-/

namespace Storefront

open Relational Transition

def CapturedFor (db : Db) (order : Id) : Prop :=
  ∃ p ∈ db.payments.rows, p.order = order ∧ p.status = .captured

/-- An order that becomes PAID has a CAPTURED payment by then. -/
def PaidByCapture (move : Move Sys Label) : Prop :=
  ∀ id, move.after.db.orderStatus id = some .paid → move.before.db.orderStatus id ≠ some .paid →
    CapturedFor move.after.db id

/-- A checkout that marks its order PAID finds its own payment CAPTURED, and an event
of a capture carries that status. -/
structure CaptureStands (lib : WebhookLibrary) (move : Move Sys Label) : Prop where
  paid : ∀ i oracle req placed payment, move.label = .advance i oracle →
    move.before.calls i = some ⟨req, .paid placed payment⟩ →
    Commits (oracle.guard (markCaptured req placed move.before.db)) →
    move.before.db.orderStatus placed.order.id ≠ some .paid →
    ∀ p ∈ move.before.db.payments.rows, p.id = payment.id → p.status = .captured
  applied : ∀ k task, move.label = .process k → move.before.queue[k]? = some task →
    Commits (applyWebhookEvent lib task move.before.now move.before.db) →
    task.event_type.isText "payment.captured" = true →
    ∀ p ∈ move.before.db.payments.rows, p.id = task.payment →
    move.before.db.orderStatus p.order = some .pending → task.new_status = .captured

theorem PaidByCapture.of_same {s s' : Sys} {l : Label}
    (same : ∀ id, s'.db.orderStatus id = some .paid → s.db.orderStatus id = some .paid) :
    PaidByCapture ⟨s, l, s'⟩ :=
  fun id after before => absurd (same id after) before

theorem OrdersProceed.paid_before {s s' : Sys} {l : Label} (proceed : OrdersProceed ⟨s, l, s'⟩)
    (still : ∀ o ∈ s.db.orders.rows, s'.db.orderStatus o.id = some o.status) :
    PaidByCapture ⟨s, l, s'⟩ := by
  refine .of_same fun id paid => ?_
  cases found : s.db.orderStatus id with
  | none => cases proceed.created id _ found paid
  | some status =>
    obtain ⟨o, member, rfl, rfl⟩ := Db.orderStatus_eq_some.mp found
    exact (still o member).symm.trans paid

theorem Touch.paid_by {s s' : Sys} {l : Label} {f : Order → OrderStatus} {g : Payment → PaymentStatus}
    {h : InventoryReservation → ReservationStatus} (touch : Touch s.db s'.db f g h)
    (captured : ∀ o ∈ s.db.orders.rows, f o = .paid → o.status ≠ .paid → CapturedFor s'.db o.id) :
    PaidByCapture ⟨s, l, s'⟩ := by
  intro id after before
  obtain ⟨o', member, rfl, paid⟩ := Db.orderStatus_eq_some.mp after
  obtain ⟨o, present, core, status⟩ := touch.order_of member
  have named : o'.id = o.id := congrArg OrderCore.id core
  rw [named] at before ⊢
  refine captured o present (status.symm.trans paid) fun earlier => before ?_
  rw [← earlier]
  exact Db.orderStatus_of_mem present

theorem Touch.captured_for {a b : Db} {f : Order → OrderStatus} {g : Payment → PaymentStatus}
    {h : InventoryReservation → ReservationStatus} (touch : Touch a b f g h) {p : Payment} {order : Id}
    (member : p ∈ a.payments.rows) (mine : p.order = order) (captured : g p = .captured) :
    CapturedFor b order := by
  obtain ⟨p', inside, core, status⟩ := touch.payment member
  exact ⟨p', inside, (congrArg PaymentCore.order core).trans mine, status.trans captured⟩

theorem OrderStatus.pay_eq_paid {s : OrderStatus} (other : s ≠ .paid) (paid : s.pay = .paid) :
    s = .pending := by
  revert other paid
  cases s <;> decide

theorem OrderStatus.close_ne_paid {s : OrderStatus} (other : s ≠ .paid) : s.close ≠ .paid := by
  revert other
  cases s <;> decide

-- Among the events only a capture makes an order PAID.
theorem eventTarget_paid {value : Json} {s : OrderStatus} (other : s ≠ .paid)
    (paid : eventTarget value s = .paid) : value.isText "payment.captured" = true ∧ s = .pending := by
  unfold eventTarget at paid
  split at paid
  next captured => exact ⟨captured, OrderStatus.pay_eq_paid other paid⟩
  · split at paid
    · exact absurd paid (OrderStatus.close_ne_paid other)
    · split at paid
      · cases paid
      · exact absurd paid other

theorem reconcileTarget_paid {status : PaymentStatus} {s : OrderStatus} (other : s ≠ .paid)
    (paid : reconcileTarget status s = .paid) : status = .captured := by
  unfold reconcileTarget at paid
  split at paid
  next captured => exact captured
  · split at paid
    · exact absurd paid (OrderStatus.close_ne_paid other)
    · exact absurd paid other

theorem OrderStatus.at_paid {o : Order} {id : Id} {next : OrderStatus → OrderStatus}
    (paid : OrderStatus.at id next o = .paid) (other : o.status ≠ .paid) :
    o.id = id ∧ next o.status = .paid := by
  unfold OrderStatus.at at paid
  split at paid
  next same => exact ⟨same, paid⟩
  · exact absurd paid other

theorem Sys.Owned.payment_row {s : Sys} (owned : s.Owned) {i : Nat} {req : Request} {placed : Placed}
    {payment : Payment} (at_i : s.calls i = some ⟨req, .paid placed payment⟩) :
    ∃ p ∈ s.db.payments.rows, p.id = payment.id ∧ p.order = placed.order.id := by
  have registered := owned.registered i _ at_i
  obtain ⟨p, member, core⟩ := List.mem_map.mp (registered.payment_mem rfl)
  refine ⟨p, member, congrArg PaymentCore.id core, ?_⟩
  have order : placed.order.id = payment.order := Option.some.inj (registered.billed _ rfl).2
  exact (congrArg PaymentCore.order core).trans order.symm

theorem Change.paid_by {lib : WebhookLibrary} {s s' : Sys} {l : Label} (change : Change lib s l s'.db)
    (kept : s.Kept) (stands : CaptureStands lib ⟨s, l, s'⟩) : PaidByCapture ⟨s, l, s'⟩ := by
  generalize after : s'.db = db' at change
  have never {f : Order → OrderStatus} {g : Payment → PaymentStatus}
      {h : InventoryReservation → ReservationStatus} (touch : Touch s.db db' f g h)
      (open_ : ∀ o ∈ s.db.orders.rows, o.status ≠ .paid → f o ≠ .paid) : PaidByCapture ⟨s, l, s'⟩ :=
    (after ▸ touch).paid_by fun o member paid other => absurd paid (open_ o member other)
  cases change with
  | frees frees =>
    obtain ⟨_, touch, _⟩ := frees
    exact never touch fun _ _ other => other
  | stocked new orders =>
    exact .of_same fun id paid => by rwa [Db.orderStatus, after, orders] at paid
  | ordered i oracle order items rows status =>
    refine OrdersProceed.paid_before (.ordered (after ▸ rows) status) fun o member => ?_
    exact Db.orderStatus_of_mem (by rw [after, rows]; exact List.mem_append_left _ member)
  | billed i oracle req pc placed row at_i bills named rows orders =>
    exact .of_same fun id paid => by rwa [Db.orderStatus, after, orders] at paid
  | linked i oracle req pc placed h at_i converts links =>
    have moved : Links placed.reservations placed.order.id placed.view.cart.id h s.db s'.db := after ▸ links
    refine OrdersProceed.paid_before (.linked moved) fun o member => ?_
    obtain ⟨o', there, named, _, _, status⟩ := moved.order_kept member
    rw [← named, ← status]
    exact Db.orderStatus_of_mem there
  | recorded i oracle req placed payment intent at_i done =>
    exact never (recordPaymentResult_touch (guard_ok done)) fun _ _ other => other
  | captured => exact never (captureWrite_touch _ _ _ _) fun _ _ other => other
  | paid i oracle req placed payment at_i done =>
    have touch := after ▸ markCaptured_touch (guard_ok done)
    refine touch.paid_by fun o member paid other => ?_
    have same := (OrderStatus.at_paid paid other).1
    obtain ⟨p, inside, named, order⟩ := kept.1.payment_row at_i
    refine touch.captured_for inside (order.trans same.symm) ?_
    refine stands.paid i oracle req placed payment rfl at_i ⟨_, done⟩ ?_ p inside named
    dsimp only
    rw [← same, Db.orderStatus_of_mem member]
    simpa using other
  | cancelledOwn i oracle req rest cart frame e order at_i mine done =>
    refine never (cancelOwnOrder_touch (guard_ok done)) fun o _ other paid => ?_
    have written := (OrderStatus.at_paid paid other).2
    unfold OrderStatus.cancelOwn at written
    split at written
    · cases written
    · exact other written
  | cancelled tenant customer order done =>
    rcases cancelOrder_touch done with same | ⟨_, _, _, _, _, _, touch, _⟩
    · exact .of_same fun id paid => by rwa [after, same] at paid
    · exact never touch fun o _ other paid => by cases (OrderStatus.at_paid paid other).2
  | applied k task queued done =>
    obtain ⟨p, member, named, _, o', _, linked, _, touch⟩ := applyWebhookEvent_touch done
    have touch := after ▸ touch
    refine touch.paid_by fun o inside paid other => ?_
    obtain ⟨same, written⟩ := OrderStatus.at_paid paid other
    obtain ⟨captured, pending⟩ := eventTarget_paid other written
    refine touch.captured_for member (linked.symm.trans same.symm) ?_
    have status : task.new_status = .captured := by
      refine stands.applied k task rfl queued ⟨_, done⟩ captured p member named ?_
      dsimp only
      rw [← linked, ← same, Db.orderStatus_of_mem inside, pending]
    simp [PaymentStatus.at, status, mapGatewayStatus]
  | reconciled payment answer outcome done =>
    rcases reconcileOne_touch done with ⟨same, _⟩ | ⟨p, member, _, _, status, _, _, either⟩
    · exact .of_same fun id paid => by rwa [after, same] at paid
    · rcases either with ⟨_, _, _, touch⟩ | ⟨o', _, linked, touch⟩
      · exact never touch fun _ _ other => other
      · have touch := after ▸ touch
        refine touch.paid_by fun o _ paid other => ?_
        obtain ⟨same, written⟩ := OrderStatus.at_paid paid other
        refine touch.captured_for member (linked.symm.trans same.symm) ?_
        simp [PaymentStatus.at, reconcileTarget_paid other written]
  | marked k mark listed done =>
    obtain ⟨p, member, named, _, _, _, _, _, touch⟩ := markPaidWrite_touch done
    obtain ⟨q, inside, same, order, _⟩ := kept.2.marks mark (List.mem_of_getElem? listed)
    obtain rfl := s.db.payments.eq_of_key member inside (named.trans same.symm)
    have touch := after ▸ touch
    refine touch.paid_by fun o _ paid other => ?_
    refine touch.captured_for member (order.trans (OrderStatus.at_paid paid other).1.symm) ?_
    simp [PaymentStatus.at, named]
  | refunded => exact never (refundWrite_touch _ _ _ _) fun _ _ other => other

theorem Sys.Owned.only_payment {s : Sys} (owned : s.Owned) {p q : Payment}
    (left : p ∈ s.db.payments.rows) (right : q ∈ s.db.payments.rows) (same : p.order = q.order) :
    p = q := by
  have core := owned.payment_unique (List.mem_map_of_mem left) (List.mem_map_of_mem right) same
  exact s.db.payments.eq_of_key left right (congrArg PaymentCore.id core)

theorem Touch.captured_only {s s' : Sys} {f : Order → OrderStatus} {g : Payment → PaymentStatus}
    {h : InventoryReservation → ReservationStatus} (touch : Touch s.db s'.db f g h) (owned : s.Owned)
    {order : Id} (captured : CapturedFor s'.db order) {p : Payment} (member : p ∈ s.db.payments.rows)
    (mine : p.order = order) : g p = .captured := by
  obtain ⟨q', inside, filed, status⟩ := captured
  obtain ⟨q, before, core, written⟩ := touch.payment_of inside
  have order : q'.order = q.order := congrArg PaymentCore.order core
  obtain rfl := owned.only_payment member before (mine.trans (filed.symm.trans order))
  exact written.symm.trans status

theorem CaptureStands.of_paid_by {settings : Settings} {lib : WebhookLibrary} {s s' : Sys} {l : Label}
    (owned : s.Owned) (taken : step settings lib s l = some s') (paid_by : PaidByCapture ⟨s, l, s'⟩) :
    CaptureStands lib ⟨s, l, s'⟩ := by
  refine ⟨?_, ?_⟩
  · rintro i oracle req placed payment rfl at_i ⟨db', done⟩ unpaid p member named
    have touch := markCaptured_touch (guard_ok done)
    rw [← step_paid taken at_i done] at touch
    obtain ⟨⟨o, present, same, _⟩, _⟩ := markCaptured_eq_ok.mp (guard_ok done)
    have paid : s'.db.orderStatus placed.order.id = some .paid := by
      rw [← same, touch.orderStatus present]
      simp [OrderStatus.at, same]
    obtain ⟨q, inside, id, order⟩ := owned.payment_row at_i
    obtain rfl := s.db.payments.eq_of_key member inside (named.trans id.symm)
    exact touch.captured_only owned (paid_by _ paid unpaid) member order
  · rintro k task rfl queued ⟨db', done⟩ captured p member named pending
    obtain ⟨q, inside, same, _, o, present, linked, _, touch⟩ := applyWebhookEvent_touch done
    rw [← step_process taken queued done] at touch
    obtain rfl := s.db.payments.eq_of_key member inside (named.trans same.symm)
    dsimp only at pending
    have open_ : o.status = .pending := by
      rw [← linked, Db.orderStatus_of_mem present] at pending
      exact Option.some.inj pending
    have paid : s'.db.orderStatus p.order = some .paid := by
      rw [← linked, touch.orderStatus present]
      simp [OrderStatus.at, eventTarget_captured captured, OrderStatus.pay, open_]
    have status := touch.captured_only owned (paid_by _ paid (by simp [pending])) member rfl
    rw [PaymentStatus.at, if_pos rfl] at status
    cases carried : task.new_status <;> simp_all [mapGatewayStatus]

/-- Along a run, orders are paid by captured money exactly when a checkout marks its
order PAID over a CAPTURED payment and capture events carry that status. -/
theorem paid_by_capture_iff (settings : Settings) (lib : WebhookLibrary) {s₀ s : Sys}
    {moves : List (Move Sys Label)} (run : (machine settings lib).Run s₀ moves s) :
    (∀ move ∈ moves, PaidByCapture move) ↔ ∀ move ∈ moves, CaptureStands lib move := by
  refine run.forall_iff (fun _ initial => Sys.Kept.start initial)
    (fun _ _ _ kept taken => Sys.Kept.step kept taken) ?_
  intro s l s' kept taken
  exact ⟨CaptureStands.of_paid_by kept.1 taken, (step_change taken).paid_by kept⟩

namespace Sample

-- The gateway answers the capture without an error: the money could not be taken.
def refused : Oracle := { oracle .capture with answer := .ok (intent .failed) }

def unfunded : List Label :=
  .begin 0 request :: blocks (authorizing ++ [.recordResult, .convert, .captureRead]) ++
    [.advance 0 refused, .advance 0 (oracle .captureWrite)]

def beforeUnfunded : Sys := (lab.exec start unfunded).get (by decide +kernel)
def afterUnfunded : Sys := (step settings library beforeUnfunded marking).get (by decide +kernel)

theorem unfunded_runs : lab.exec start unfunded = some beforeUnfunded := (Option.some_get _).symm
theorem unfunded_taken : lab.step beforeUnfunded marking = some afterUnfunded := (Option.some_get _).symm

end Sample

theorem paid_by_capture_until_refused : ∃ moves,
    Sample.lab.Run Sample.start moves Sample.beforeUnfunded ∧
    ((∀ move ∈ moves, PaidByCapture move) ↔ ∀ move ∈ moves, CaptureStands Sample.library move) := by
  obtain ⟨moves, run⟩ := Machine.exec_run Sample.start_initial Sample.unfunded_runs
  exact ⟨moves, run, paid_by_capture_iff _ _ run⟩

theorem paid_without_capture : ¬ ∀ moves s, Sample.lab.Run Sample.start moves s →
    ∀ move ∈ moves, PaidByCapture move := by
  intro paid_by
  obtain ⟨moves, run, member⟩ :=
    Machine.exec_last Sample.start_initial Sample.unfunded_runs Sample.unfunded_taken
  have unpaid : Sample.beforeUnfunded.db.orderStatus 200 = some .pending := by decide +kernel
  have paid : Sample.afterUnfunded.db.orderStatus 200 = some .paid := by decide +kernel
  have uncaptured : ∀ p ∈ Sample.afterUnfunded.db.payments.rows, p.status ≠ .captured := by decide +kernel
  obtain ⟨p, inside, _, captured⟩ := paid_by moves _ run _ member 200 paid (by simp [unpaid])
  exact uncaptured p inside captured

end Storefront
