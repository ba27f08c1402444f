import Storefront.System.PaidOrders

set_option autoImplicit false

/-!
# Cancelled orders and captured money
-/

namespace Storefront

open Relational Transition

def NoCancelledCapture (s : Sys) : Prop :=
  ∀ o ∈ s.db.orders.rows, o.status = .cancelled → ∀ p ∈ s.db.payments.rows, p.order = o.id →
    p.status ≠ .captured

/-- A cancellation finds no captured payment, and a capture that is written finds no
cancelled order. -/
structure KeepsCancelledApart (lib : WebhookLibrary) (move : Move Sys Label) : Prop where
  closed : ∀ tenant customer order, move.label = .cancelOrder tenant customer order →
    Commits (cancelOrder tenant customer order move.before.db) →
    ∀ p ∈ move.before.db.payments.rows, p.order = order → p.status ≠ .captured
  undone : ∀ i oracle req rest cart frame e order, move.label = .advance i oracle →
    move.before.calls i = some ⟨req, .undo (.cancelOrder :: rest) cart frame e⟩ →
    frame.order = some order → Commits (oracle.guard (cancelOwnOrder req.tenant order.id move.before.db)) →
    (move.before.db.orderStatus order.id = some .pending ∨
      move.before.db.orderStatus order.id = some .paid) →
    ∀ p ∈ move.before.db.payments.rows, p.order = order.id → p.status ≠ .captured
  recorded : ∀ i oracle req placed payment intent, move.label = .advance i oracle →
    move.before.calls i = some ⟨req, .recordResult placed payment intent⟩ →
    Commits (oracle.guard (recordPaymentResult req.tenant payment.id intent move.before.db)) →
    intent.status = .captured →
    ∀ p ∈ move.before.db.payments.rows, p.tenant = req.tenant ∧ p.id = payment.id →
      move.before.db.orderStatus p.order ≠ some .cancelled
  captured : ∀ i oracle req placed row intent, move.label = .advance i oracle →
    move.before.calls i = some ⟨req, .captureWrite placed row intent⟩ → oracle.fault = none →
    intent.status = .captured →
    ∀ p ∈ move.before.db.payments.rows, (p.tenant = req.tenant ∧ p.id = row.id) ∧ p.status = .authorized →
      move.before.db.orderStatus p.order ≠ some .cancelled
  applied : ∀ k task, move.label = .process k → move.before.queue[k]? = some task →
    Commits (applyWebhookEvent lib task move.before.now move.before.db) → task.new_status = .captured →
    ∀ p ∈ move.before.db.payments.rows, p.id = task.payment →
      (move.before.db.orderStatus p.order = some .cancelled →
        task.event_type.isText "payment.refunded" = true) ∧
      (move.before.db.orderStatus p.order = some .pending →
        (task.event_type.isText "payment.failed" || task.event_type.isText "payment.cancelled") = false)
  reconciled : ∀ payment intent, move.label = .reconcile payment (.ok (some intent)) →
    Commits (Prod.snd <$> reconcileOne payment (.ok (some intent)) move.before.now move.before.db) →
    intent.status = .captured →
    ∀ p ∈ move.before.db.payments.rows, p.id = payment → p.status = .pending →
      p.gateway_transaction_id ≠ "" → move.before.db.orderStatus p.order ≠ some .cancelled
  refunded : ∀ k row amount intent, move.label = .refundWrite k →
    move.before.refunds[k]? = some ⟨row, amount, .write intent⟩ → intent.status = .captured →
    ∀ p ∈ move.before.db.payments.rows, p.tenant = row.tenant ∧ p.id = row.id →
      move.before.db.orderStatus p.order ≠ some .cancelled

theorem Touch.apart_iff {s s' : Sys} {f : Order → OrderStatus} {g : Payment → PaymentStatus}
    {h : InventoryReservation → ReservationStatus} (touch : Touch s.db s'.db f g h) :
    NoCancelledCapture s' ↔ ∀ o ∈ s.db.orders.rows, f o = .cancelled → ∀ p ∈ s.db.payments.rows,
      p.order = o.id → g p ≠ .captured := by
  constructor
  · intro apart o member cancelled p inside mine
    obtain ⟨o', present, core, status⟩ := touch.order member
    obtain ⟨p', there, core', status'⟩ := touch.payment inside
    rw [← status']
    refine apart o' present (status.trans cancelled) p' there ?_
    exact (congrArg PaymentCore.order core').trans (mine.trans (congrArg OrderCore.id core).symm)
  · intro apart o' member cancelled p' inside mine
    obtain ⟨o, present, core, status⟩ := touch.order_of member
    obtain ⟨p, there, core', status'⟩ := touch.payment_of inside
    rw [status']
    refine apart o present (status.symm.trans cancelled) p there ?_
    exact (congrArg PaymentCore.order core').symm.trans (mine.trans (congrArg OrderCore.id core))

theorem eventTarget_cancelled {value : Json} {s : OrderStatus} : eventTarget value s = .cancelled ↔
    (s = .cancelled ∧ value.isText "payment.refunded" = false) ∨
      (s = .pending ∧ (value.isText "payment.failed" || value.isText "payment.cancelled") = true) := by
  have distinct {a b : String} (different : a ≠ b) (left : value.isText a = true) :
      value.isText b = false := by
    by_contra right
    exact different (isText_eq left (by simpa using right))
  unfold eventTarget
  split
  next captured =>
    have others := distinct (b := "payment.refunded") (by decide) captured
    have failed := distinct (b := "payment.failed") (by decide) captured
    have closed := distinct (b := "payment.cancelled") (by decide) captured
    cases s <;> simp [OrderStatus.pay, others, failed, closed]
  · split
    next closed =>
      have other : value.isText "payment.refunded" = false := by
        rcases Bool.or_eq_true_iff.mp closed with failed | cancelled
        · exact distinct (by decide) failed
        · exact distinct (by decide) cancelled
      cases s <;> simp [OrderStatus.close, other, closed]
    next open_ =>
      split
      next refunded => simp [refunded, open_]
      next other => simp [open_, other]

theorem mapGatewayStatus_captured {status : GatewayStatus} :
    mapGatewayStatus status = .captured ↔ status = .captured := by
  cases status <;> simp [mapGatewayStatus]

theorem reconciledStatus_captured {p : Payment} {answer : Except Exn (Option PaymentIntent)} :
    reconciledStatus p answer = some .captured ↔ p.gateway_transaction_id ≠ "" ∧
      ∃ intent, answer = .ok (some intent) ∧ intent.status = .captured := by
  unfold reconciledStatus
  split
  next unnamed => simp [unnamed]
  next named =>
    rcases answer with e | _ | intent
    · simp
    · simp
    · by_cases waiting : intent.status = .pending
      · simp [waiting]
      · simp [waiting, named, mapGatewayStatus_captured]

theorem apart_of_same {s s' : Sys} (apart : NoCancelledCapture s)
    (orders : ∀ o' ∈ s'.db.orders.rows, o'.status = .cancelled →
      ∃ o ∈ s.db.orders.rows, o.id = o'.id ∧ o.status = .cancelled)
    (payments : ∀ p ∈ s'.db.payments.rows, p ∈ s.db.payments.rows ∨ p.status ≠ .captured) :
    NoCancelledCapture s' := by
  intro o' member cancelled p inside mine
  obtain ⟨o, present, named, status⟩ := orders o' member cancelled
  rcases payments p inside with before | open_
  · exact apart o present status p before (mine.trans named.symm)
  · exact open_

theorem orderStatus_ne {db : Db} {p : Payment} {status : OrderStatus} (other : db.orderStatus p.order ≠ some status)
    {o : Order} (member : o ∈ db.orders.rows) (mine : p.order = o.id) : o.status ≠ status := by
  intro same
  rw [mine, Db.orderStatus_of_mem member, same] at other
  exact other rfl

section Writers

variable {s s' : Sys}

theorem Touch.write_apart_iff {picked : Payment → Prop} [DecidablePred picked] {status : GatewayStatus}
    {h : InventoryReservation → ReservationStatus}
    (touch : Touch s.db s'.db Order.status
      (fun p => if picked p then mapGatewayStatus status else p.status) h)
    (apart : NoCancelledCapture s) : NoCancelledCapture s' ↔
      (status = .captured → ∀ p ∈ s.db.payments.rows, picked p →
        s.db.orderStatus p.order ≠ some .cancelled) := by
  rw [touch.apart_iff]
  constructor
  · intro safe captured p inside chosen cancelled
    obtain ⟨o, member, named, status⟩ := Db.orderStatus_eq_some.mp cancelled
    exact safe o member status p inside named.symm (by simp [chosen, captured, mapGatewayStatus])
  · intro spared o member cancelled p inside mine
    split
    next chosen =>
      rw [ne_eq, mapGatewayStatus_captured]
      intro captured
      exact orderStatus_ne (spared captured p inside chosen) member mine cancelled
    · exact apart o member cancelled p inside mine

theorem Touch.quiet_apart {f : Order → OrderStatus} {h : InventoryReservation → ReservationStatus}
    (touch : Touch s.db s'.db f Payment.status h) (apart : NoCancelledCapture s)
    (never : ∀ o ∈ s.db.orders.rows, f o = .cancelled → o.status = .cancelled) : NoCancelledCapture s' := by
  rw [touch.apart_iff]
  exact fun o member cancelled => apart o member (never o member cancelled)

theorem OrderStatus.at_cancelled {o : Order} {id : Id} {next : OrderStatus → OrderStatus}
    (cancelled : OrderStatus.at id next o = .cancelled) :
    (o.id = id ∧ next o.status = .cancelled) ∨ (o.id ≠ id ∧ o.status = .cancelled) := by
  unfold OrderStatus.at at cancelled
  split at cancelled
  next same => exact .inl ⟨same, cancelled⟩
  next other => exact .inr ⟨other, cancelled⟩

end Writers

theorem Change.apart {lib : WebhookLibrary} {s s' : Sys} {l : Label} (change : Change lib s l s'.db)
    (kept : s.Kept) (apart : NoCancelledCapture s) (spares : KeepsCancelledApart lib ⟨s, l, s'⟩) :
    NoCancelledCapture s' := by
  generalize after : s'.db = db' at change
  cases change with
  | frees frees =>
    obtain ⟨_, touch, _⟩ := frees
    exact (after ▸ touch).quiet_apart apart fun _ _ => id
  | stocked new orders items payments =>
    exact apart_of_same apart (fun o member cancelled => ⟨o, by rwa [after, orders] at member, rfl, cancelled⟩)
      fun p member => .inl (by rwa [after, payments] at member)
  | ordered i oracle order items rows status unlinked lines mine payments =>
    refine apart_of_same apart (fun o member cancelled => ?_) fun p member => .inl (by
      rwa [after, payments] at member)
    rw [after, rows] at member
    rcases List.mem_append.mp member with old | new
    · exact ⟨o, old, rfl, cancelled⟩
    · rw [List.mem_singleton.mp new, status] at cancelled
      cases cancelled
  | billed i oracle req pc placed row at_i bills named rows orders =>
    refine apart_of_same apart
      (fun o member cancelled => ⟨o, by rwa [after, orders] at member, rfl, cancelled⟩) fun p member => ?_
    rw [after, rows] at member
    rcases List.mem_append.mp member with old | new
    · exact .inl old
    · rw [List.mem_singleton.mp new]
      cases bills with
      | invoice status => exact .inr (by simp [status])
      | card _ status => exact .inr (by simp [status])
  | linked i oracle req pc placed h at_i converts links =>
    refine apart_of_same apart (fun o' member cancelled => ?_) fun p member => .inl (by
      rwa [after, links.payments] at member)
    obtain ⟨o, before, named, status⟩ := links.order_of (after ▸ member)
    exact ⟨o, before, named, status.trans cancelled⟩
  | recorded i oracle req placed payment intent at_i done =>
    exact ((after ▸ recordPaymentResult_touch (guard_ok done)).write_apart_iff apart).mpr
      (spares.recorded i oracle req placed payment intent rfl at_i ⟨_, done⟩)
  | captured i oracle req placed row intent at_i quiet =>
    exact ((after ▸ captureWrite_touch req.tenant row.id intent s.db).write_apart_iff apart).mpr
      (spares.captured i oracle req placed row intent rfl at_i quiet)
  | paid i oracle req placed payment at_i done =>
    refine (after ▸ markCaptured_touch (guard_ok done)).quiet_apart apart fun o _ cancelled => ?_
    rcases OrderStatus.at_cancelled cancelled with ⟨_, written⟩ | ⟨_, still⟩
    · cases written
    · exact still
  | cancelledOwn i oracle req rest cart frame e order at_i mine done =>
    refine (after ▸ cancelOwnOrder_touch (guard_ok done)).apart_iff.mpr fun o member cancelled p inside own => ?_
    rcases OrderStatus.at_cancelled cancelled with ⟨same, written⟩ | ⟨_, still⟩
    · by_cases live : o.status = .pending ∨ o.status = .paid
      · refine spares.undone i oracle req rest cart frame e order rfl at_i mine ⟨_, done⟩ ?_ p inside
          (own.trans same)
        simpa [← same, Db.orderStatus_of_mem member] using live
      · rw [OrderStatus.cancelOwn, if_neg live] at written
        exact apart o member written p inside own
    · exact apart o member still p inside own
  | cancelled tenant customer order done =>
    have spared := spares.closed tenant customer order rfl ⟨_, done⟩
    rcases cancelOrder_touch done with same | ⟨_, _, _, _, _, _, touch, _⟩
    · intro o member cancelled p inside
      rw [after, same] at member inside
      exact apart o member cancelled p inside
    · refine (after ▸ touch).apart_iff.mpr fun o member cancelled p inside own => ?_
      unfold closedWith
      split
      · simp
      · rcases OrderStatus.at_cancelled cancelled with ⟨same, _⟩ | ⟨_, still⟩
        · exact spared p inside (own.trans same)
        · exact apart o member still p inside own
  | applied k task queued done =>
    obtain ⟨q, there, named, _, o', present, linked, _, touch⟩ := applyWebhookEvent_touch done
    refine (after ▸ touch).apart_iff.mpr fun o member cancelled p inside own => ?_
    unfold PaymentStatus.at
    split
    next same =>
      obtain rfl := s.db.payments.eq_of_key inside there same
      have here : o.id = o'.id := own.symm.trans linked.symm
      rw [OrderStatus.at, if_pos here, eventTarget_cancelled] at cancelled
      rw [ne_eq, mapGatewayStatus_captured]
      intro carried
      have spared := spares.applied k task rfl queued ⟨_, done⟩ carried p inside named
      dsimp only at spared
      rw [own, Db.orderStatus_of_mem member] at spared
      rcases cancelled with ⟨status, other⟩ | ⟨status, closes⟩
      · simp [spared.1 (congrArg some status)] at other
      · simp [spared.2 (congrArg some status)] at closes
    next other =>
      have foreign : o.id ≠ o'.id := by
        intro same
        have equal := kept.1.only_payment inside there (own.trans (same.trans linked))
        exact other (by rw [equal])
      rw [OrderStatus.at, if_neg foreign] at cancelled
      exact apart o member cancelled p inside own
  | reconciled payment answer outcome done =>
    have committed : Commits (Prod.snd <$> reconcileOne payment answer s.now s.db) := ⟨db', by rw [done]; rfl⟩
    rcases reconcileOne_touch done with ⟨same, _⟩ | ⟨q, there, named, pending, status, written, _, either⟩
    · intro o member cancelled p inside
      rw [after, same] at member inside
      exact apart o member cancelled p inside
    · rcases either with ⟨uncaptured, _, _, touch⟩ | ⟨o', present, linked, touch⟩
      · refine (after ▸ touch).apart_iff.mpr fun o member cancelled p inside own => ?_
        unfold PaymentStatus.at
        split
        · exact uncaptured
        · exact apart o member cancelled p inside own
      · refine (after ▸ touch).apart_iff.mpr fun o member cancelled p inside own => ?_
        unfold PaymentStatus.at
        split
        next same =>
          obtain rfl := s.db.payments.eq_of_key inside there same
          have here : o.id = o'.id := own.symm.trans linked.symm
          rintro rfl
          obtain ⟨unnamed, intent, rfl, captured⟩ := reconciledStatus_captured.mp written
          have spared := spares.reconciled payment intent rfl committed captured p inside named pending unnamed
          rw [OrderStatus.at, if_pos here, reconcileTarget, if_pos rfl] at cancelled
          have closed : o.status = .cancelled := by
            revert cancelled
            cases o.status <;> decide
          exact orderStatus_ne spared member own closed
        next other =>
          have foreign : o.id ≠ o'.id := by
            intro same
            have equal := kept.1.only_payment inside there (own.trans (same.trans linked))
            exact other (by rw [equal])
          rw [OrderStatus.at, if_neg foreign] at cancelled
          exact apart o member cancelled p inside own
  | marked k mark listed done =>
    obtain ⟨p', there, named, _, _, _, _, _, touch⟩ := markPaidWrite_touch done
    obtain ⟨q, stored, same, order, _⟩ := kept.2.marks mark (List.mem_of_getElem? listed)
    obtain rfl := s.db.payments.eq_of_key there stored (named.trans same.symm)
    refine (after ▸ touch).apart_iff.mpr fun o member cancelled p inside own => ?_
    rcases OrderStatus.at_cancelled cancelled with ⟨_, written⟩ | ⟨foreign, still⟩
    · cases written
    · have other : p.id ≠ mark.payment := by
        intro here
        obtain rfl := s.db.payments.eq_of_key inside there (here.trans named.symm)
        exact foreign (own.symm.trans order)
      rw [PaymentStatus.at, if_neg other]
      exact apart o member still p inside own
  | refunded k row amount intent listed =>
    exact ((after ▸ refundWrite_touch row.tenant row.id intent s.db).write_apart_iff apart).mpr
      (spares.refunded k row amount intent rfl listed)

theorem cancelOrder_closes {tenant customer order : Id} {db db' : Db}
    (done : cancelOrder tenant customer order db = .ok db') : db'.orderStatus order = some .cancelled := by
  rcases cancelOrder_touch done with rfl | ⟨o, member, named, _, _, _, touch, _⟩
  · simp only [cancelOrder, bind_eq_ok, orRaise_eq_ok] at done
    obtain ⟨o, found, rest⟩ := done
    have member := List.mem_of_find?_eq_some found
    have named := List.find?_some found
    simp only [Bool.and_eq_true, beq_iff_eq] at named
    split at rest
    next cancelled => rw [← named.2, Db.orderStatus_of_mem member, cancelled]
    · simp only [bind_eq_ok, pure_eq_ok] at rest
      obtain ⟨_, _, mid, released, last, reversed, written⟩ := rest
      have kept : last.orders = db'.orders := by
        rw [(settleReservations_settled reversed).1.orders, (settleReservations_settled released).1.orders]
      have saved : db'.orders.rows = last.orders.rows.map
          (Table.updated (fun r => r.id == o.id) fun r => { r with status := .cancelled }) := by
        rw [← written]
        rfl
      have inside : Table.updated (fun r : Order => r.id == o.id) (fun r => { r with status := .cancelled }) o ∈
          db'.orders.rows := by
        rw [saved, kept]
        exact List.mem_map_of_mem member
      have status := Db.orderStatus_of_mem inside
      simpa [Table.updated, named.2] using status
  · rw [← named, touch.orderStatus member]
    simp [OrderStatus.at, named]

theorem KeepsCancelledApart.of_apart {settings : Settings} {lib : WebhookLibrary} {s s' : Sys} {l : Label}
    (taken : step settings lib s l = some s') (before : NoCancelledCapture s) (apart : NoCancelledCapture s') :
    KeepsCancelledApart lib ⟨s, l, s'⟩ := by
  refine ⟨?_, ?_, ?_, ?_, ?_, ?_, ?_⟩
  · rintro tenant customer order rfl ⟨db', done⟩ p inside mine captured
    obtain ⟨o', present, named, status⟩ := Db.orderStatus_eq_some.mp (cancelOrder_closes done)
    rw [← step_cancelOrder taken done] at present
    rcases cancelOrder_touch done with same | ⟨_, _, _, _, _, _, touch, _⟩
    · rw [step_cancelOrder taken done, same] at present
      exact before o' present status p inside (mine.trans named.symm) captured
    · obtain ⟨p', there, core, status'⟩ := touch.payment inside
      rw [← step_cancelOrder taken done] at there
      have order : p'.order = p.order := congrArg PaymentCore.order core
      refine apart o' present status p' there (order.trans (mine.trans named.symm)) ?_
      rw [status', closedWith, if_neg (by simp [captured, openPayment]), captured]
  · rintro i oracle req rest cart frame e order rfl at_i mine ⟨db', done⟩ live p inside own
    have touch := cancelOwnOrder_touch (guard_ok done)
    rw [← step_cancelOwn taken at_i mine done] at touch
    obtain ⟨o, member, named, status⟩ : ∃ o ∈ s.db.orders.rows, o.id = order.id ∧
        (o.status = .pending ∨ o.status = .paid) := by
      rcases live with pending | paid
      · obtain ⟨o, member, named, status⟩ := Db.orderStatus_eq_some.mp pending
        exact ⟨o, member, named, .inl status⟩
      · obtain ⟨o, member, named, status⟩ := Db.orderStatus_eq_some.mp paid
        exact ⟨o, member, named, .inr status⟩
    refine touch.apart_iff.mp apart o member ?_ p inside (own.trans named.symm)
    simp [OrderStatus.at, named, OrderStatus.cancelOwn, status]
  · rintro i oracle req placed payment intent rfl at_i ⟨db', done⟩
    have touch := recordPaymentResult_touch (guard_ok done)
    rw [← step_recordResult taken at_i done] at touch
    exact (touch.write_apart_iff before).mp apart
  · rintro i oracle req placed row intent rfl at_i quiet
    have touch := captureWrite_touch req.tenant row.id intent s.db
    rw [← step_captureWrite taken at_i quiet] at touch
    exact (touch.write_apart_iff before).mp apart
  · rintro k task rfl queued ⟨db', done⟩ carried p inside named
    obtain ⟨q, there, same, _, o, present, linked, _, touch⟩ := applyWebhookEvent_touch done
    rw [← step_process taken queued done] at touch
    obtain rfl := s.db.payments.eq_of_key inside there (named.trans same.symm)
    have kept := touch.apart_iff.mp apart o present
    dsimp only
    rw [← linked, Db.orderStatus_of_mem present]
    have closes : eventTarget task.event_type o.status ≠ .cancelled := by
      intro closed
      refine kept ?_ p inside linked.symm ?_
      · simpa [OrderStatus.at] using closed
      · simp [PaymentStatus.at, carried, mapGatewayStatus]
    rw [ne_eq, eventTarget_cancelled, not_or, not_and, not_and] at closes
    exact ⟨fun cancelled => by simpa using closes.1 (Option.some.inj cancelled),
      fun pending => by simpa using closes.2 (Option.some.inj pending)⟩
  · rintro payment intent rfl ⟨db', done⟩ captured p inside named pending unnamed cancelled
    obtain ⟨⟨outcome, last⟩, reconciled, rfl⟩ := map_eq_ok.mp done
    have written : reconciledStatus p (.ok (some intent)) = some .captured :=
      reconciledStatus_captured.mpr ⟨unnamed, intent, rfl, captured⟩
    rcases reconcileOne_touch reconciled with ⟨_, nothing⟩ | ⟨q, there, same, _, status, found, _, either⟩
    · rw [nothing p inside named pending] at written
      cases written
    · obtain rfl := s.db.payments.eq_of_key inside there (named.trans same.symm)
      obtain rfl : status = .captured := Option.some.inj (found.symm.trans written)
      rcases either with ⟨other, _⟩ | ⟨o, present, linked, touch⟩
      · exact other rfl
      · have committed : s'.db = last := step_reconcile taken done
        dsimp only at cancelled present touch
        rw [← committed] at touch
        rw [← linked, Db.orderStatus_of_mem present] at cancelled
        refine touch.apart_iff.mp apart o present ?_ p inside linked.symm (by simp [PaymentStatus.at])
        simp [OrderStatus.at, reconcileTarget, Option.some.inj cancelled, OrderStatus.pay]
  · rintro k row amount intent rfl listed
    have touch := refundWrite_touch row.tenant row.id intent s.db
    rw [← step_refundWrite taken listed] at touch
    exact (touch.write_apart_iff before).mp apart

/-- Along a run, no cancelled order ever owns a captured payment exactly when no
cancellation meets captured money and no capture is written over a cancelled order. -/
theorem no_cancelled_capture_iff (settings : Settings) (lib : WebhookLibrary) {s₀ s : Sys}
    {moves : List (Move Sys Label)} (run : (machine settings lib).Run s₀ moves s) :
    (∀ move ∈ moves, NoCancelledCapture move.after) ↔ ∀ move ∈ moves, KeepsCancelledApart lib move := by
  have start (s : Sys) (initial : s.Initial) : s.Kept ∧ NoCancelledCapture s :=
    ⟨.start initial, by simp [NoCancelledCapture, initial.orders]⟩
  refine run.safe_iff start (fun _ _ _ kept taken => Sys.Kept.step kept taken) ?_
  intro s l s' kept apart taken
  exact ⟨KeepsCancelledApart.of_apart taken apart, (step_change taken).apart kept apart⟩

namespace Sample

-- Phase 7 captures and then fails; the customer cancels the order left PENDING.
def unmarked : Oracle := { oracle .paid with fault := some "connection lost" }

def stranded : List Label := .begin 0 request :: blocks capturing ++ [.advance 0 unmarked]

def cancelling : Label := .cancelOrder 1 10 200

def beforeStranded : Sys := (lab.exec start stranded).get (by decide +kernel)
def afterStranded : Sys := (step settings library beforeStranded cancelling).get (by decide +kernel)

theorem stranded_runs : lab.exec start stranded = some beforeStranded := (Option.some_get _).symm
theorem stranded_taken : lab.step beforeStranded cancelling = some afterStranded := (Option.some_get _).symm

end Sample

theorem no_cancelled_capture_until_stranded : ∃ moves,
    Sample.lab.Run Sample.start moves Sample.beforeStranded ∧
    ((∀ move ∈ moves, NoCancelledCapture move.after) ↔
      ∀ move ∈ moves, KeepsCancelledApart Sample.library move) := by
  obtain ⟨moves, run⟩ := Machine.exec_run Sample.start_initial Sample.stranded_runs
  exact ⟨moves, run, no_cancelled_capture_iff _ _ run⟩

theorem cancelled_with_capture : ¬ ∀ moves s, Sample.lab.Run Sample.start moves s →
    ∀ move ∈ moves, NoCancelledCapture move.after := by
  intro apart
  obtain ⟨moves, run, member⟩ :=
    Machine.exec_last Sample.start_initial Sample.stranded_runs Sample.stranded_taken
  have cancelled : Sample.afterStranded.db.orderStatus 200 = some .cancelled := by decide +kernel
  have captured : Sample.afterStranded.db.paymentStatus 300 = some .captured := by decide +kernel
  obtain ⟨o, present, named, status⟩ := Db.orderStatus_eq_some.mp cancelled
  obtain ⟨p, inside, _, taken⟩ := Db.paymentStatus_eq_some.mp captured
  have mine : ∀ p ∈ Sample.afterStranded.db.payments.rows, p.order = 200 := by decide +kernel
  exact apart moves _ run _ member o present status p inside ((mine p inside).trans named.symm) taken

end Storefront
