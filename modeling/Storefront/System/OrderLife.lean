import Storefront.System.Invoices
import Storefront.System.PaymentLife

set_option autoImplicit false

/-!
# The life of an order
-/

namespace Storefront

open Relational Transition

abbrev Sys.Kept (s : Sys) : Prop := s.Owned ∧ s.Invoiced

theorem Sys.Kept.start {s : Sys} (initial : s.Initial) : s.Kept :=
  ⟨.start initial, .start initial⟩

theorem Sys.Kept.step {settings : Settings} {lib : WebhookLibrary} {s s' : Sys} {l : Label}
    (kept : s.Kept) (taken : Storefront.step settings lib s l = some s') : s'.Kept :=
  ⟨kept.1.step taken, kept.2.step kept.1 taken⟩

-- PENDING to PAID, PENDING to CANCELLED, PAID to REFUNDED.
def OrderStatus.Proceeds (old new : OrderStatus) : Prop :=
  new = old ∨ (old = .pending ∧ (new = .paid ∨ new = .cancelled)) ∨ (old = .paid ∧ new = .refunded)

instance (old new : OrderStatus) : Decidable (old.Proceeds new) := by
  unfold OrderStatus.Proceeds; infer_instance

theorem OrderStatus.Proceeds.refl (s : OrderStatus) : s.Proceeds s := .inl rfl

/-- No order disappears, new ones are PENDING, and statuses only proceed. -/
structure OrdersProceed (move : Move Sys Label) : Prop where
  kept : ∀ id old, move.before.db.orderStatus id = some old →
    ∃ new, move.after.db.orderStatus id = some new ∧ old.Proceeds new
  created : ∀ id new, move.before.db.orderStatus id = none → move.after.db.orderStatus id = some new →
    new = .pending

/-- The three writers that do not look at the order's status find one that may proceed. -/
structure FindsOpen (lib : WebhookLibrary) (move : Move Sys Label) : Prop where
  paid : ∀ i oracle req placed payment, move.label = .advance i oracle →
    move.before.calls i = some ⟨req, .paid placed payment⟩ →
    Commits (oracle.guard (markCaptured req placed move.before.db)) →
    ∀ o ∈ move.before.db.orders.rows, o.id = placed.order.id → o.status = .pending ∨ o.status = .paid
  undone : ∀ i oracle req rest cart frame e order, move.label = .advance i oracle →
    move.before.calls i = some ⟨req, .undo (.cancelOrder :: rest) cart frame e⟩ →
    frame.order = some order → Commits (oracle.guard (cancelOwnOrder req.tenant order.id move.before.db)) →
    ∀ o ∈ move.before.db.orders.rows, o.id = order.id → o.status ≠ .paid
  refunded : ∀ k task, move.label = .process k → move.before.queue[k]? = some task →
    Commits (applyWebhookEvent lib task move.before.now move.before.db) →
    task.event_type.isText "payment.refunded" = true →
    ∀ p ∈ move.before.db.payments.rows, p.id = task.payment →
    ∀ o ∈ move.before.db.orders.rows, o.id = p.order → o.status = .paid ∨ o.status = .refunded

theorem Touch.proceed {s s' : Sys} {l : Label} {f : Order → OrderStatus} {g : Payment → PaymentStatus}
    {h : InventoryReservation → ReservationStatus} (touch : Touch s.db s'.db f g h)
    (proceeds : ∀ o ∈ s.db.orders.rows, o.status.Proceeds (f o)) : OrdersProceed ⟨s, l, s'⟩ := by
  constructor
  · intro id old found
    obtain ⟨o, member, rfl, rfl⟩ := Db.orderStatus_eq_some.mp found
    exact ⟨f o, touch.orderStatus member, proceeds o member⟩
  · intro id new absent found
    obtain ⟨o', member, rfl, _⟩ := Db.orderStatus_eq_some.mp found
    obtain ⟨o, before, core, _⟩ := touch.order_of member
    have named : o'.id = o.id := congrArg OrderCore.id core
    dsimp only at absent
    rw [named, Db.orderStatus_of_mem before] at absent
    cases absent

theorem OrdersProceed.of_table {s s' : Sys} {l : Label} (same : s'.db.orders = s.db.orders) :
    OrdersProceed ⟨s, l, s'⟩ := by
  have statuses : ∀ id, s'.db.orderStatus id = s.db.orderStatus id := by
    intro id
    rw [Db.orderStatus, Db.orderStatus, same]
  constructor
  · intro id old found
    exact ⟨old, (statuses id).trans found, .refl old⟩
  · intro id new absent found
    dsimp only at absent found
    rw [statuses, absent] at found
    cases found

theorem OrdersProceed.ordered {s s' : Sys} {l : Label} {order : Order}
    (rows : s'.db.orders.rows = s.db.orders.rows ++ [order]) (pending : order.status = .pending) :
    OrdersProceed ⟨s, l, s'⟩ := by
  constructor
  · intro id old found
    obtain ⟨o, member, rfl, rfl⟩ := Db.orderStatus_eq_some.mp found
    refine ⟨o.status, Db.orderStatus_of_mem ?_, .refl _⟩
    rw [rows]
    exact List.mem_append_left _ member
  · intro id new absent found
    obtain ⟨o, member, rfl, rfl⟩ := Db.orderStatus_eq_some.mp found
    dsimp only at absent member
    rw [rows] at member
    rcases List.mem_append.mp member with old | now
    · rw [Db.orderStatus_of_mem old] at absent
      cases absent
    · rw [List.mem_singleton.mp now, pending]

theorem OrdersProceed.linked {s s' : Sys} {l : Label} {reservations : List Id} {order cart : Id}
    {h : InventoryReservation → ReservationStatus} (links : Links reservations order cart h s.db s'.db) :
    OrdersProceed ⟨s, l, s'⟩ := by
  constructor
  · intro id old found
    obtain ⟨o, member, rfl, rfl⟩ := Db.orderStatus_eq_some.mp found
    obtain ⟨o', there, named, _, _, status⟩ := links.order_kept member
    exact ⟨o.status, by rw [← named, ← status]; exact Db.orderStatus_of_mem there, .refl _⟩
  · intro id new absent found
    obtain ⟨o', member, rfl, _⟩ := Db.orderStatus_eq_some.mp found
    obtain ⟨o, before, named, _⟩ := links.order_of member
    dsimp only at absent
    rw [← named, Db.orderStatus_of_mem before] at absent
    cases absent

theorem isText_eq {value : Json} {a b : String} (left : value.isText a = true)
    (right : value.isText b = true) : a = b := by
  cases value <;> simp_all [Json.isText]

theorem eventTarget_captured {value : Json} (captured : value.isText "payment.captured" = true)
    (s : OrderStatus) : eventTarget value s = s.pay := by
  simp [eventTarget, captured]

theorem eventTarget_refunded {value : Json} (refunded : value.isText "payment.refunded" = true)
    (s : OrderStatus) : eventTarget value s = .refunded := by
  have other {text : String} (different : text ≠ "payment.refunded") : value.isText text = false := by
    by_contra same
    exact different (isText_eq (by simpa using same) refunded)
  simp [eventTarget, refunded, other]

theorem OrderStatus.proceeds_pay (s : OrderStatus) : s.Proceeds s.pay := by
  cases s <;> decide

theorem OrderStatus.proceeds_close (s : OrderStatus) : s.Proceeds s.close := by
  cases s <;> decide

-- Only a refund event ignores the order's status.
theorem eventTarget_proceeds {value : Json} {s : OrderStatus}
    (refund : value.isText "payment.refunded" = true → s = .paid ∨ s = .refunded) :
    s.Proceeds (eventTarget value s) := by
  unfold eventTarget
  split
  · exact s.proceeds_pay
  · split
    · exact s.proceeds_close
    · split
      next refunded => rcases refund refunded with rfl | rfl <;> decide
      · exact .refl s

theorem reconcileTarget_proceeds (status : PaymentStatus) (s : OrderStatus) :
    s.Proceeds (reconcileTarget status s) := by
  unfold reconcileTarget
  split
  · exact s.proceeds_pay
  · split
    · exact s.proceeds_close
    · exact .refl s

theorem OrderStatus.at_proceeds {o : Order} {id : Id} {next : OrderStatus → OrderStatus}
    (proceeds : o.id = id → o.status.Proceeds (next o.status)) :
    o.status.Proceeds (OrderStatus.at id next o) := by
  unfold OrderStatus.at
  split
  next same => exact proceeds same
  · exact .refl _

theorem Change.proceed {lib : WebhookLibrary} {s s' : Sys} {l : Label} (change : Change lib s l s'.db)
    (kept : s.Kept) (opens : FindsOpen lib ⟨s, l, s'⟩) : OrdersProceed ⟨s, l, s'⟩ := by
  generalize after : s'.db = db' at change
  cases change with
  | frees frees =>
    obtain ⟨_, touch, _⟩ := frees
    exact (after ▸ touch).proceed fun o _ => .refl o.status
  | stocked new orders => exact .of_table (after ▸ orders)
  | ordered i oracle order items rows status => exact .ordered (after ▸ rows) status
  | billed i oracle req pc placed row at_i bills named rows orders => exact .of_table (after ▸ orders)
  | linked i oracle req pc placed h at_i converts links => exact .linked (after ▸ links)
  | recorded i oracle req placed payment intent at_i done =>
    exact (after ▸ recordPaymentResult_touch (guard_ok done)).proceed fun o _ => .refl o.status
  | captured =>
    exact (after ▸ captureWrite_touch _ _ _ _).proceed fun o _ => .refl o.status
  | paid i oracle req placed payment at_i done =>
    refine (after ▸ markCaptured_touch (guard_ok done)).proceed fun o member => OrderStatus.at_proceeds
      fun same => ?_
    rcases opens.paid i oracle req placed payment rfl at_i ⟨_, done⟩ o member same with status | status <;>
      simp [status, OrderStatus.Proceeds]
  | cancelledOwn i oracle req rest cart frame e order at_i mine done =>
    refine (after ▸ cancelOwnOrder_touch (guard_ok done)).proceed fun o member => OrderStatus.at_proceeds
      fun same => ?_
    have unpaid := opens.undone i oracle req rest cart frame e order rfl at_i mine ⟨_, done⟩ o member same
    by_cases pending : o.status = .pending <;> simp [OrderStatus.cancelOwn, pending, unpaid, OrderStatus.Proceeds]
  | cancelled tenant customer order done =>
    rcases cancelOrder_touch done with same | ⟨o', present, named, _, pending, _, touch, _⟩
    · exact .of_table (by rw [after, same])
    · refine (after ▸ touch).proceed fun o member => OrderStatus.at_proceeds fun same => ?_
      rw [s.db.orders.eq_of_key member present (same.trans named.symm), pending]
      decide
  | applied k task queued done =>
    obtain ⟨p, member, named, _, o', _, linked, _, touch⟩ := applyWebhookEvent_touch done
    refine (after ▸ touch).proceed fun o inside => OrderStatus.at_proceeds fun same => ?_
    exact eventTarget_proceeds fun refund =>
      opens.refunded k task rfl queued ⟨_, done⟩ refund p member named o inside (same.trans linked)
  | reconciled payment answer outcome done =>
    rcases reconcileOne_touch done with ⟨same, _⟩ | ⟨_, _, _, _, status, _, _, ⟨_, _, _, touch⟩ | ⟨_, _, _, touch⟩⟩
    · exact .of_table (by rw [after, same])
    · exact (after ▸ touch).proceed fun o _ => .refl o.status
    · exact (after ▸ touch).proceed fun o _ => OrderStatus.at_proceeds fun _ => reconcileTarget_proceeds _ _
  | marked k mark listed done =>
    obtain ⟨p, member, named, status, _, _, _, _, touch⟩ := markPaidWrite_touch done
    obtain ⟨q, inside, same, _, _, _, o', present, id, _, billing⟩ :=
      kept.2.marks mark (List.mem_of_getElem? listed)
    obtain rfl := s.db.payments.eq_of_key member inside (named.trans same.symm)
    refine (after ▸ touch).proceed fun o inside => OrderStatus.at_proceeds fun same => ?_
    rw [s.db.orders.eq_of_key inside present (same.trans id.symm)]
    rcases billing with ⟨_, pending⟩ | ⟨_, paid⟩ | ⟨closed, _⟩
    · simp [pending, OrderStatus.Proceeds]
    · simp [paid, OrderStatus.Proceeds]
    · simp [closed] at status
  | refunded => exact (after ▸ refundWrite_touch _ _ _ _).proceed fun o _ => .refl o.status

theorem FindsOpen.of_proceed {settings : Settings} {lib : WebhookLibrary} {s s' : Sys} {l : Label}
    (taken : step settings lib s l = some s') (proceed : OrdersProceed ⟨s, l, s'⟩) :
    FindsOpen lib ⟨s, l, s'⟩ := by
  have proceeds {o : Order} {new : OrderStatus} (member : o ∈ s.db.orders.rows)
      (written : s'.db.orderStatus o.id = some new) : o.status.Proceeds new := by
    obtain ⟨status, found, proceeds⟩ := proceed.kept o.id o.status (Db.orderStatus_of_mem member)
    obtain rfl : status = new := Option.some.inj (found.symm.trans written)
    exact proceeds
  refine ⟨?_, ?_, ?_⟩
  · rintro i oracle req placed payment rfl at_i ⟨db', done⟩ o member same
    have touch := markCaptured_touch (guard_ok done)
    rw [← step_paid taken at_i done] at touch
    have moved := proceeds member (touch.orderStatus member)
    simp only [OrderStatus.at, same, if_true] at moved
    cases status : o.status <;> simp_all [OrderStatus.Proceeds]
  · rintro i oracle req rest cart frame e order rfl at_i mine ⟨db', done⟩ o member same paid
    have touch := cancelOwnOrder_touch (guard_ok done)
    rw [← step_cancelOwn taken at_i mine done] at touch
    have moved := proceeds member (touch.orderStatus member)
    simp [OrderStatus.at, same, paid, OrderStatus.cancelOwn, OrderStatus.Proceeds] at moved
  · rintro k task rfl queued ⟨db', done⟩ refund p member named o inside linked
    obtain ⟨q, inside', same, _, o', present, linked', _, touch⟩ := applyWebhookEvent_touch done
    rw [← step_process taken queued done] at touch
    obtain rfl := s.db.payments.eq_of_key member inside' (named.trans same.symm)
    have moved := proceeds inside (touch.orderStatus inside)
    simp only [OrderStatus.at, linked.trans linked'.symm, if_true, eventTarget_refunded refund] at moved
    cases status : o.status <;> simp_all [OrderStatus.Proceeds]

/-- Along a run, orders only proceed exactly when the writers that ignore an order's
status find one that may proceed. -/
theorem orders_proceed_iff (settings : Settings) (lib : WebhookLibrary) {s₀ s : Sys}
    {moves : List (Move Sys Label)} (run : (machine settings lib).Run s₀ moves s) :
    (∀ move ∈ moves, OrdersProceed move) ↔ ∀ move ∈ moves, FindsOpen lib move := by
  refine run.forall_iff (fun _ initial => Sys.Kept.start initial)
    (fun _ _ _ kept taken => Sys.Kept.step kept taken) ?_
  intro s l s' kept taken
  exact ⟨FindsOpen.of_proceed taken, (step_change taken).proceed kept⟩

namespace Sample

-- The customer cancels while the captured order waits to be marked paid.
def crossed : List Label :=
  .begin 0 request :: blocks capturing ++ [.cancelOrder 1 10 200]

def marking : Label := .advance 0 (oracle .paid)

def beforeRevival : Sys := (lab.exec start crossed).get (by decide +kernel)
def afterRevival : Sys := (step settings library beforeRevival marking).get (by decide +kernel)

theorem crossed_runs : lab.exec start crossed = some beforeRevival := (Option.some_get _).symm
theorem revival_taken : lab.step beforeRevival marking = some afterRevival := (Option.some_get _).symm

end Sample

theorem orders_proceed_until_crossed : ∃ moves, Sample.lab.Run Sample.start moves Sample.beforeRevival ∧
    ((∀ move ∈ moves, OrdersProceed move) ↔ ∀ move ∈ moves, FindsOpen Sample.library move) := by
  obtain ⟨moves, run⟩ := Machine.exec_run Sample.start_initial Sample.crossed_runs
  exact ⟨moves, run, orders_proceed_iff _ _ run⟩

theorem cancelled_order_revived : ¬ ∀ moves s, Sample.lab.Run Sample.start moves s →
    ∀ move ∈ moves, OrdersProceed move := by
  intro proceed
  obtain ⟨moves, run, member⟩ :=
    Machine.exec_last Sample.start_initial Sample.crossed_runs Sample.revival_taken
  have cancelled : Sample.beforeRevival.db.orderStatus 200 = some .cancelled := by decide +kernel
  obtain ⟨new, found, proceeds⟩ := (proceed moves _ run _ member).kept 200 .cancelled cancelled
  have revived : Sample.afterRevival.db.orderStatus 200 = some .paid := by decide +kernel
  obtain rfl : new = .paid := Option.some.inj (found.symm.trans revived)
  revert proceeds
  decide

end Storefront
