import Storefront.System.Lines

set_option autoImplicit false

/-!
# What an order was placed with

The later transactions of an order write its status, its cart and its terms of payment;
number, amounts, addresses and the rest stay as the checkout wrote them.
-/

namespace Storefront

open Relational Transition

def Order.placed (o : Order) : Order :=
  { o with status := .pending, cart := none, payment_terms := "", payment_due_date := none }

def Db.placedOrders (db : Db) : List Order := db.orders.rows.map Order.placed

section Blocks

variable {db db' : Db}

theorem placedOrders_of_orders (same : db'.orders = db.orders) : db'.placedOrders = db.placedOrders := by
  rw [Db.placedOrders, same, Db.placedOrders]

theorem modifyOrders_placed {p : Order → Bool} {f : Order → Order} (same : ∀ o, (f o).placed = o.placed)
    (inert : Table.Inert f := by exact ⟨fun _ => rfl, fun _ => rfl⟩) :
    (db.modifyOrders p f inert).placedOrders = db.placedOrders :=
  Table.map_updated _ _ _ _ fun o _ _ => same o

theorem saveOrderStatus_placed (id : Id) (status : OrderStatus) :
    (db.saveOrderStatus id status).placedOrders = db.placedOrders :=
  modifyOrders_placed (by exact fun _ => rfl)

theorem updateCarts_orders {p : Cart → Bool} {f : Cart → Cart} (done : db.updateCarts p f = .ok db') :
    db'.orders = db.orders := by
  obtain ⟨_, _, rfl⟩ := stored_eq_ok.mp done
  rfl

theorem convertCart_orders {tenant cart : Id} {now : Time} (done : convertCart tenant cart now db = .ok db') :
    db'.orders = db.orders := by
  rw [convertCart_frame done]

theorem settle_orders {t : Settlement} {scope : Scope} {res : InventoryReservation}
    (done : settle t scope db res = .ok db') : db'.orders = db.orders := by
  simp only [settle, bind_eq_ok, pure_eq_ok, Db.updateProducts, stored_eq_ok] at done
  obtain ⟨_, ⟨_, _, rfl⟩, rfl⟩ := done
  rfl

theorem settleReservations_orders {t : Settlement} {tenant : Id} {ids : List Id}
    (done : settleReservations t tenant ids db = .ok db') : db'.orders = db.orders := by
  rw [(settleReservations_settled done).1.frame]

theorem settleForOrder_orders {t : Settlement} {tenant order : Id}
    (done : settleForOrder t tenant order db = .ok db') : db'.orders = db.orders := by
  rw [(settleForOrder_settled done).1.frame]

theorem releaseExpiredBatch_orders {scan : Scan} {cutoff : Time}
    (done : releaseExpiredBatch scan cutoff db = .ok db') : db'.orders = db.orders := by
  refine foldlM_relation (R := fun a b : Db => b.orders = a.orders) (fun _ => rfl)
    (fun first second => second.trans first) (fun res _ a b step => ?_) done
  simp only [releaseExpiredOne, bind_eq_ok] at step
  obtain ⟨mid, settled, reverted⟩ := step
  exact (updateCarts_orders reverted).trans (settle_orders settled)

theorem convertInvoiced_placed {req : Request} {now : Time} {placed : Placed}
    (done : convertInvoiced req now placed db = .ok db') : db'.placedOrders = db.placedOrders := by
  simp only [convertInvoiced, bind_eq_ok] at done
  obtain ⟨_, _, mid, converted, committed⟩ := done
  have first : mid.placedOrders = db.placedOrders :=
    (placedOrders_of_orders (convertCart_orders converted)).trans
      (modifyOrders_placed (by exact fun _ => rfl))
  exact (placedOrders_of_orders (settleReservations_orders committed)).trans first

theorem commitCart_placed {req : Request} {now : Time} {placed : Placed}
    (done : commitCart req now placed db = .ok db') : db'.placedOrders = db.placedOrders := by
  simp only [commitCart, bind_eq_ok, pure_eq_ok] at done
  obtain ⟨mid, converted, rfl⟩ := done
  have linked : (mid.modifyOrders (fun o => o.id == placed.order.id)
      fun o => { o with cart := some placed.view.cart.id }).placedOrders = mid.placedOrders :=
    modifyOrders_placed (by exact fun _ => rfl)
  refine Eq.trans ?_ (linked.trans (placedOrders_of_orders (convertCart_orders converted)))
  rfl

theorem markCaptured_placed {req : Request} {placed : Placed} (done : markCaptured req placed db = .ok db') :
    db'.placedOrders = db.placedOrders := by
  rw [placedOrders_of_orders (settleReservations_orders (markCaptured_eq_ok.mp done).2)]
  exact saveOrderStatus_placed _ _

theorem undo_placed {action : Undo} {req : Request} {cart : Id} {frame : Frame}
    (done : action.run req cart frame db = .ok db') : db'.placedOrders = db.placedOrders := by
  cases action with
  | cancelOrder =>
    simp only [Undo.run] at done
    split at done
    · obtain ⟨_, _, _, _, rfl⟩ := cancelOwnOrder_eq_ok.mp done
      split
      · exact saveOrderStatus_placed _ _
      · rfl
    · cases done
      rfl
  | releaseReservations => exact placedOrders_of_orders (settleReservations_orders done)
  | revertCart => exact placedOrders_of_orders (updateCarts_orders done)

theorem applyOrderPaid_placed {tenant : Id} {order : Order} (done : applyOrderPaid tenant order db = .ok db') :
    db'.placedOrders = db.placedOrders := by
  unfold applyOrderPaid at done
  split at done
  · rw [placedOrders_of_orders (settleForOrder_orders done)]
    exact saveOrderStatus_placed _ _
  · cases done
    rfl

theorem applyOrderCancelled_placed {tenant : Id} {order : Order}
    (done : applyOrderCancelled tenant order db = .ok db') : db'.placedOrders = db.placedOrders := by
  unfold applyOrderCancelled at done
  split at done
  · obtain ⟨mid, released, reverted⟩ := bind_eq_ok.mp done
    have first : mid.placedOrders = db.placedOrders :=
      (placedOrders_of_orders (settleForOrder_orders released)).trans (saveOrderStatus_placed _ _)
    unfold revertCartIfCheckingOut at reverted
    split at reverted
    · cases reverted
      exact first
    · exact (placedOrders_of_orders (updateCarts_orders reverted)).trans first
  · cases done
    rfl

theorem applyWebhookEvent_placed {lib : WebhookLibrary} {task : WebhookTask} {now : Time}
    (done : applyWebhookEvent lib task now db = .ok db') : db'.placedOrders = db.placedOrders := by
  simp only [applyWebhookEvent, bind_eq_ok] at done
  obtain ⟨_, _, _, recorded, _, _, order, _, applied⟩ := done
  obtain ⟨_, _, rfl⟩ := stored_eq_ok.mp recorded
  unfold applyToOrder at applied
  split at applied
  · exact (applyOrderPaid_placed applied).trans rfl
  · split at applied
    · exact (applyOrderCancelled_placed applied).trans rfl
    · split at applied <;> cases applied
      · exact (saveOrderStatus_placed _ _).trans rfl
      · rfl

theorem reconcileOne_placed {payment : Id} {answer : Except Exn (Option PaymentIntent)} {now : Time}
    {outcome : ReconcileOutcome} (done : reconcileOne payment answer now db = .ok (outcome, db')) :
    db'.placedOrders = db.placedOrders := by
  unfold reconcileOne at done
  split at done
  · cases done
    rfl
  · split at done
    · simp only [reconcileUnknownIntent, markOrderCancelledAndRelease, bind_eq_ok, pure_eq_ok, Prod.mk.injEq] at done
      obtain ⟨_, ⟨_, _, applied⟩, _, rfl⟩ := done
      exact (applyOrderCancelled_placed applied).trans rfl
    · simp only [reconcileKnownIntent, bind_eq_ok] at done
      obtain ⟨_, _, _, _, rest⟩ := done
      split at rest
      · cases rest
        rfl
      · cases rest
        rfl
      · split at rest
        · cases rest
          rfl
        · split at rest
          · simp only [markOrderPaid, bind_eq_ok, pure_eq_ok, Prod.mk.injEq] at rest
            obtain ⟨_, ⟨_, _, applied⟩, _, rfl⟩ := rest
            exact (applyOrderPaid_placed applied).trans rfl
          · split at rest
            · simp only [markOrderCancelledAndRelease, bind_eq_ok, pure_eq_ok, Prod.mk.injEq] at rest
              obtain ⟨_, ⟨_, _, applied⟩, _, rfl⟩ := rest
              exact (applyOrderCancelled_placed applied).trans rfl
            · rw [pure_eq_ok, Prod.mk.injEq] at rest
              obtain ⟨_, rfl⟩ := rest
              rfl

theorem cancelOrder_placed {tenant customer order : Id} (done : cancelOrder tenant customer order db = .ok db') :
    db'.placedOrders = db.placedOrders := by
  simp only [cancelOrder, bind_eq_ok] at done
  obtain ⟨o, _, rest⟩ := done
  split at rest
  · rw [pure_eq_ok] at rest
    rw [rest]
  · simp only [bind_eq_ok, pure_eq_ok] at rest
    obtain ⟨_, _, mid, released, last, reversed, rfl⟩ := rest
    refine (saveOrderStatus_placed _ _).trans (placedOrders_of_orders ?_)
    exact (settleReservations_orders reversed).trans (settleReservations_orders released)

theorem markPaidWrite_placed {tenant order payment : Id} {reference : String} {now : Time}
    (done : markPaidWrite tenant order payment reference now db = .ok db') : db'.placedOrders = db.placedOrders := by
  simp only [markPaidWrite, markInvoicePaid, bind_eq_ok, pure_eq_ok] at done
  obtain ⟨mid, ⟨p, _, written⟩, o, _, rfl⟩ := done
  have first : mid.placedOrders = db.placedOrders := by
    split at written
    · rw [pure_eq_ok] at written
      rw [written]
    · simp only [bind_eq_ok, pure_eq_ok] at written
      obtain ⟨_, _, rfl⟩ := written
      rfl
  split
  · exact first
  · exact (saveOrderStatus_placed _ _).trans first

end Blocks

inductive Places (req : Request) (oracle : Oracle) (db db' : Db) : Pc → Prop
  | keeps {pc : Pc} (same : db'.placedOrders = db.placedOrders) : Places req oracle db db' pc
  | adds {view : CartView} {reservations : List Id} {order : Order}
      (done : createOrder req oracle view db = .ok (order, db')) : Places req oracle db db' (.create view reservations)

theorem advance_places {settings : Settings} {req : Request} {oracle : Oracle} {db db' : Db} {pc pc' : Pc}
    {log : List GatewayCall} (taken : advance settings req oracle db pc = (pc', db', log)) :
    Places req oracle db db' pc := by
  cases pc with
  | find | validate _ | resolve _ | authorize _ _ | captureRead _ _ | capture _ _ =>
    simp only [advance] at taken
    split at taken <;> cases taken <;> exact .keeps rfl
  | lock =>
    simp only [advance] at taken
    split at taken
    next done =>
      cases taken
      obtain ⟨_, _, locked⟩ := bind_eq_ok.mp (guard_ok done)
      simp only [bind_eq_ok, pure_eq_ok, Prod.mk.injEq] at locked
      obtain ⟨_, updated, _, rfl⟩ := locked
      exact .keeps (placedOrders_of_orders (updateCarts_orders updated))
    · cases taken
      exact .keeps rfl
  | reserve view =>
    simp only [advance] at taken
    split at taken
    next done =>
      cases taken
      obtain ⟨_, _, orders, _⟩ := reserveStock_grows (guard_ok done)
      exact .keeps (placedOrders_of_orders orders)
    · cases taken
      exact .keeps rfl
  | create view reservations =>
    simp only [advance] at taken
    split at taken
    next done =>
      cases taken
      exact .adds (guard_ok done)
    · cases taken
      exact .keeps rfl
  | invoice placed | insertPayment placed config =>
    simp only [advance] at taken
    split at taken
    next done =>
      cases taken
      exact .keeps (placedOrders_of_orders (by rw [(createPayment_grows (guard_ok done)).1]))
    · cases taken
      exact .keeps rfl
  | convertInvoiced placed payment =>
    simp only [advance] at taken
    split at taken
    next done =>
      cases taken
      exact .keeps (convertInvoiced_placed (guard_ok done))
    · cases taken
      exact .keeps rfl
  | recordError placed payment e | captureWrite placed row intent =>
    simp only [advance] at taken
    split at taken
    next done =>
      cases taken
      exact .keeps (congrArg Db.placedOrders (Except.ok.inj (guard_ok done))).symm
    · cases taken
      exact .keeps rfl
  | recordResult placed payment intent =>
    simp only [advance] at taken
    split at taken
    next done =>
      obtain ⟨_, rfl⟩ := recordPaymentResult_eq_ok.mp (guard_ok done)
      split at taken <;> cases taken <;> exact .keeps rfl
    · cases taken
      exact .keeps rfl
  | convert placed payment =>
    simp only [advance] at taken
    split at taken
    next done =>
      cases taken
      exact .keeps (commitCart_placed (guard_ok done))
    · cases taken
      exact .keeps rfl
  | paid placed payment =>
    simp only [advance] at taken
    split at taken
    next done =>
      cases taken
      exact .keeps (markCaptured_placed (guard_ok done))
    · cases taken
      exact .keeps rfl
  | undo todo cart frame e =>
    cases todo with
    | nil =>
      cases taken
      exact .keeps rfl
    | cons action rest =>
      simp only [advance] at taken
      split at taken
      next done =>
        cases taken
        exact .keeps (undo_placed (guard_ok done))
      · cases taken
        exact .keeps rfl
  | done frame result | crashed todo frame e =>
    cases taken
    exact .keeps rfl

theorem step_places {settings : Settings} {lib : WebhookLibrary} {s s' : Sys} {l : Label}
    (taken : step settings lib s l = some s') : s'.db.placedOrders = s.db.placedOrders ∨
      ∃ i oracle req view reservations order, l = .advance i oracle ∧
        s.calls i = some ⟨req, .create view reservations⟩ ∧
          createOrder req { oracle with now := s.now } view s.db = .ok (order, s'.db) := by
  cases l with
  | tick seconds | sweep =>
    cases taken
    exact .inl rfl
  | shop tables =>
    cases taken
    exact .inl rfl
  | createProduct tenant id data =>
    obtain ⟨db', done, rfl⟩ := commits_eq_some taken
    exact .inl (placedOrders_of_orders (by rw [Sys.withDb, (createProduct_grows done).1]))
  | patchProduct tenant product data =>
    obtain ⟨db', done, rfl⟩ := commits_eq_some taken
    exact .inl (placedOrders_of_orders (by rw [Sys.withDb, patchProduct_frame done]))
  | deactivateProduct tenant product =>
    obtain ⟨db', done, rfl⟩ := commits_eq_some taken
    exact .inl (placedOrders_of_orders (by rw [Sys.withDb, deactivateProduct_frame done]))
  | begin | receive | markPaidRead | refundRead | refundCall =>
    simp only [step] at taken
    split at taken <;> cases taken
    exact .inl rfl
  | refundWrite =>
    simp only [step] at taken
    split at taken <;> cases taken
    exact .inl rfl
  | advance i oracle =>
    simp only [step] at taken
    split at taken
    · cases taken
    next call at_i =>
      split at taken <;> cases taken
      obtain ⟨req, pc⟩ := call
      cases (advance_places rfl : Places req { oracle with now := s.now } s.db _ pc) with
      | keeps same => exact .inl same
      | adds done => exact .inr ⟨i, oracle, req, _, _, _, rfl, at_i, done⟩
  | cancelOrder tenant customer order =>
    obtain ⟨db', done, rfl⟩ := commits_eq_some taken
    exact .inl (cancelOrder_placed done)
  | process k =>
    simp only [step] at taken
    split at taken
    next task queued =>
      obtain ⟨db', done, rfl⟩ := commits_eq_some taken
      rcases processWebhookEvent_cases done with unchanged | applied
      · exact .inl (congrArg Db.placedOrders unchanged)
      · exact .inl (applyWebhookEvent_placed applied)
    · cases taken
  | reconcile payment answer =>
    simp only [step] at taken
    split at taken
    · obtain ⟨db', done, rfl⟩ := commits_eq_some taken
      obtain ⟨⟨outcome, _⟩, reconciled, rfl⟩ := map_eq_ok.mp done
      exact .inl (reconcileOne_placed reconciled)
    · cases taken
  | expire scan cutoff =>
    simp only [step] at taken
    split at taken
    · obtain ⟨db', done, rfl⟩ := commits_eq_some taken
      exact .inl (placedOrders_of_orders (releaseExpiredBatch_orders done))
    · cases taken
  | markPaidWrite k =>
    simp only [step] at taken
    split at taken
    next mark listed =>
      obtain ⟨db', done, rfl⟩ := commits_eq_some taken
      exact .inl (markPaidWrite_placed done)
    · cases taken

end Storefront
