import Storefront.System.CartLife

set_option autoImplicit false

/-!
# What is offered

Checkouts, deliveries and sweeps count products and the uses of coupons, and write
nothing else of them.
-/

namespace Storefront

open Relational Transition

-- A product without its counters, a coupon without its count.
def Product.offer (p : Product) : Product := { p with stock_quantity := 0, reserved_quantity := 0 }
def Coupon.offer (c : Coupon) : Coupon := { c with uses_count := 0 }

structure Offered where
  products : List Product
  coupons : List Coupon

def Db.offers (db : Db) : List Product := db.products.rows.map Product.offer

def Db.offered (db : Db) : Offered := ⟨db.offers, db.coupons.rows.map Coupon.offer⟩

def Db.offeredTables (db : Db) : Table Product × Table Coupon := (db.products, db.coupons)

theorem Db.offered_of_tables {db db' : Db} (same : db'.offeredTables = db.offeredTables) : db'.offered = db.offered := by
  simp only [offeredTables, Prod.mk.injEq] at same
  rw [offered, offers, same.1, same.2]
  rfl

structure Counting (R : Db → Db → Prop) : Prop where
  tables : ∀ {db db' : Db}, db'.offeredTables = db.offeredTables → R db db'
  trans : ∀ {a b c : Db}, R a b → R b c → R a c
  products : ∀ {db db' : Db} {p : Product → Bool} {f : Product → Product}, db.updateProducts p f = .ok db' →
    (∀ p, (f p).offer = p.offer) → R db db'
  coupons : ∀ {db db' : Db} {tenant : Id} {applied : AppliedCoupon}, useCoupon tenant db applied = .ok db' → R db db'

namespace Counting

variable {R : Db → Db → Prop}

theorem refl (counting : Counting R) (db : Db) : R db db := counting.tables rfl

theorem after (counting : Counting R) {db mid db' : Db} (rest : R mid db')
    (same : mid.offeredTables = db.offeredTables) : R db db' :=
  counting.trans (counting.tables same) rest

end Counting

section Offering

variable {db db' : Db}

theorem updateProducts_offered {p : Product → Bool} {f : Product → Product} (done : db.updateProducts p f = .ok db')
    (counts : ∀ p, (f p).offer = p.offer) : db'.offered = db.offered := by
  obtain ⟨products, updated, rfl⟩ := stored_eq_ok.mp done
  have rows : (products.rows.map Product.offer) = db.products.rows.map Product.offer := by
    rw [Table.update_rows updated]
    exact Table.map_updated _ _ _ _ fun p _ _ => counts p
  simp only [Db.offered, Db.offers, rows]

theorem useCoupon_offered {tenant : Id} {applied : AppliedCoupon} (done : useCoupon tenant db applied = .ok db') :
    db'.offered = db.offered := by
  simp only [useCoupon, bind_eq_ok, pure_eq_ok] at done
  obtain ⟨_, _, _, _, rfl⟩ := done
  have rows (tenant id : Id) : (db.coupons.rows.map (Table.updated (fun c => c.tenant == tenant && c.id == id)
      fun c => { c with uses_count := c.uses_count + 1 })).map Coupon.offer = db.coupons.rows.map Coupon.offer :=
    Table.map_updated _ _ _ _ fun _ _ _ => rfl
  simp only [Db.offered, Db.modifyCoupons, Table.modify_rows, rows]
  rfl

theorem offering : Counting fun db db' => db'.offered = db.offered where
  tables same := Db.offered_of_tables same
  trans first second := second.trans first
  products done counts := updateProducts_offered done counts
  coupons done := useCoupon_offered done

end Offering

section Blocks

variable {R : Db → Db → Prop} (counting : Counting R) {db db' : Db}

include counting

theorem settle_counts {t : Settlement} {scope : Scope} {res : InventoryReservation}
    (done : settle t scope db res = .ok db') : R db db' := by
  simp only [settle, bind_eq_ok, pure_eq_ok] at done
  obtain ⟨mid, updated, rfl⟩ := done
  exact counting.trans (counting.products updated fun _ => rfl) (counting.tables rfl)

theorem foldlM_counts {α : Type} {f : Db → α → Outcome Db} {l : List α}
    (step : ∀ a ∈ l, ∀ db db', f db a = .ok db' → R db db') (done : l.foldlM f db = .ok db') : R db db' :=
  foldlM_relation counting.refl counting.trans step done

theorem settleReservations_counts {t : Settlement} {tenant : Id} {ids : List Id}
    (done : settleReservations t tenant ids db = .ok db') : R db db' := by
  refine foldlM_counts counting (fun id _ a b step => ?_) done
  simp only [settleReservation, bind_eq_ok] at step
  obtain ⟨res, _, rest⟩ := step
  split at rest
  · rw [pure_eq_ok] at rest
    exact rest ▸ counting.refl a
  · exact settle_counts counting rest

theorem settleForOrder_counts {t : Settlement} {tenant order : Id}
    (done : settleForOrder t tenant order db = .ok db') : R db db' :=
  foldlM_counts counting (fun _ _ _ _ step => settle_counts counting step) done

theorem updateCarts_counts {p : Cart → Bool} {f : Cart → Cart} (done : db.updateCarts p f = .ok db') : R db db' := by
  obtain ⟨_, _, rfl⟩ := stored_eq_ok.mp done
  exact counting.tables rfl

theorem releaseExpiredBatch_counts {scan : Scan} {cutoff : Time}
    (done : releaseExpiredBatch scan cutoff db = .ok db') : R db db' := by
  refine foldlM_counts counting (fun res _ a b step => ?_) done
  simp only [releaseExpiredOne, bind_eq_ok] at step
  obtain ⟨mid, settled, reverted⟩ := step
  exact counting.trans (settle_counts counting settled) (updateCarts_counts counting reverted)

theorem reserveStock_counts {tenant : Id} {now : Time} {draw : Nat → Id} {view : CartView} {ids : List Id}
    (done : reserveStock tenant now draw view db = .ok (ids, db')) : R db db' := by
  simp only [reserveStock, bind_eq_ok, pure_eq_ok, Prod.mk.injEq] at done
  obtain ⟨_, _, last, held, _, rfl⟩ := done
  refine foldlM_counts counting (fun entry _ a b step => ?_) held
  simp only [reserveOne, bind_eq_ok] at step
  obtain ⟨mid, inserted, updated⟩ := step
  obtain ⟨_, _, rfl⟩ := stored_eq_ok.mp inserted
  exact counting.after (counting.products updated fun _ => rfl) rfl

theorem createOrder_counts {req : Request} {oracle : Oracle} {view : CartView} {order : Order}
    (done : createOrder req oracle view db = .ok (order, db')) : R db db' := by
  simp only [createOrder, bind_eq_ok, pure_eq_ok, Prod.mk.injEq, Db.insertOrder, stored_eq_ok] at done
  obtain ⟨used, counted, _, _, _, _, _, _, mid, ⟨_, _, rfl⟩, _, listed, rfl, rfl⟩ := done
  have coupons : R db used := foldlM_counts counting (fun _ _ _ _ step => counting.coupons step) counted
  refine counting.trans coupons (counting.tables ?_)
  rw [(createOrderItems_lines listed).frame]
  rfl

theorem convertInvoiced_counts {req : Request} {now : Time} {placed : Placed}
    (done : convertInvoiced req now placed db = .ok db') : R db db' := by
  simp only [convertInvoiced, bind_eq_ok] at done
  obtain ⟨_, _, mid, converted, committed⟩ := done
  refine counting.after (settleReservations_counts counting committed) ?_
  rw [convertCart_frame converted]
  rfl

theorem undo_counts {action : Undo} {req : Request} {cart : Id} {frame : Frame}
    (done : action.run req cart frame db = .ok db') : R db db' := by
  cases action with
  | cancelOrder =>
    simp only [Undo.run] at done
    split at done
    · obtain ⟨_, _, _, _, rfl⟩ := cancelOwnOrder_eq_ok.mp done
      split <;> exact counting.tables rfl
    · cases done
      exact counting.refl db
  | releaseReservations => exact settleReservations_counts counting done
  | revertCart => exact updateCarts_counts counting done

theorem applyOrderPaid_counts {tenant : Id} {order : Order} (done : applyOrderPaid tenant order db = .ok db') :
    R db db' := by
  unfold applyOrderPaid at done
  split at done
  · exact counting.after (settleForOrder_counts counting done) rfl
  · cases done
    exact counting.refl db

theorem applyOrderCancelled_counts {tenant : Id} {order : Order} (done : applyOrderCancelled tenant order db = .ok db') :
    R db db' := by
  unfold applyOrderCancelled at done
  split at done
  · obtain ⟨mid, released, reverted⟩ := bind_eq_ok.mp done
    refine counting.trans (counting.after (settleForOrder_counts counting released) rfl) ?_
    unfold revertCartIfCheckingOut at reverted
    split at reverted
    · cases reverted
      exact counting.refl _
    · exact updateCarts_counts counting reverted
  · cases done
    exact counting.refl db

theorem applyWebhookEvent_counts {lib : WebhookLibrary} {task : WebhookTask} {now : Time}
    (done : applyWebhookEvent lib task now db = .ok db') : R db db' := by
  simp only [applyWebhookEvent, bind_eq_ok] at done
  obtain ⟨_, _, _, recorded, _, _, order, _, applied⟩ := done
  obtain ⟨_, _, rfl⟩ := stored_eq_ok.mp recorded
  unfold applyToOrder at applied
  split at applied
  · exact counting.after (applyOrderPaid_counts counting applied) rfl
  · split at applied
    · exact counting.after (applyOrderCancelled_counts counting applied) rfl
    · split at applied <;> cases applied <;> exact counting.tables rfl

theorem reconcileOne_counts {payment : Id} {answer : Except Exn (Option PaymentIntent)} {now : Time}
    {outcome : ReconcileOutcome} (done : reconcileOne payment answer now db = .ok (outcome, db')) : R db db' := by
  unfold reconcileOne at done
  split at done
  · cases done
    exact counting.refl db
  · split at done
    · simp only [reconcileUnknownIntent, markOrderCancelledAndRelease, bind_eq_ok, pure_eq_ok, Prod.mk.injEq] at done
      obtain ⟨_, ⟨_, _, applied⟩, _, rfl⟩ := done
      exact counting.after (applyOrderCancelled_counts counting applied) rfl
    · simp only [reconcileKnownIntent, bind_eq_ok] at done
      obtain ⟨_, _, _, _, rest⟩ := done
      split at rest
      · cases rest
        exact counting.refl db
      · cases rest
        exact counting.refl db
      · split at rest
        · cases rest
          exact counting.refl db
        · split at rest
          · simp only [markOrderPaid, bind_eq_ok, pure_eq_ok, Prod.mk.injEq] at rest
            obtain ⟨_, ⟨_, _, applied⟩, _, rfl⟩ := rest
            exact counting.after (applyOrderPaid_counts counting applied) rfl
          · split at rest
            · simp only [markOrderCancelledAndRelease, bind_eq_ok, pure_eq_ok, Prod.mk.injEq] at rest
              obtain ⟨_, ⟨_, _, applied⟩, _, rfl⟩ := rest
              exact counting.after (applyOrderCancelled_counts counting applied) rfl
            · rw [pure_eq_ok, Prod.mk.injEq] at rest
              obtain ⟨_, rfl⟩ := rest
              exact counting.tables rfl

theorem cancelOrder_counts {tenant customer order : Id} (done : cancelOrder tenant customer order db = .ok db') :
    R db db' := by
  simp only [cancelOrder, bind_eq_ok] at done
  obtain ⟨o, _, rest⟩ := done
  split at rest
  · rw [pure_eq_ok] at rest
    exact rest ▸ counting.refl db
  · simp only [bind_eq_ok, pure_eq_ok] at rest
    obtain ⟨_, _, mid, released, last, reversed, rfl⟩ := rest
    refine counting.trans (settleReservations_counts counting released) ?_
    exact counting.trans (settleReservations_counts counting reversed) (counting.tables rfl)

theorem markPaidWrite_counts {tenant order payment : Id} {reference : String} {now : Time}
    (done : markPaidWrite tenant order payment reference now db = .ok db') : R db db' := by
  simp only [markPaidWrite, markInvoicePaid, bind_eq_ok, pure_eq_ok] at done
  obtain ⟨mid, ⟨p, _, written⟩, o, _, rfl⟩ := done
  have first : mid.offeredTables = db.offeredTables := by
    split at written
    · rw [pure_eq_ok] at written
      rw [written]
    · simp only [bind_eq_ok, pure_eq_ok] at written
      obtain ⟨_, _, rfl⟩ := written
      rfl
  split
  · exact counting.tables first
  · exact counting.tables first

theorem advance_counts {settings : Settings} {req : Request} {oracle : Oracle} {pc pc' : Pc}
    {log : List GatewayCall} (taken : advance settings req oracle db pc = (pc', db', log)) : R db db' := by
  cases pc with
  | find | validate _ | resolve _ | authorize _ _ | captureRead _ _ | capture _ _ =>
    simp only [advance] at taken
    split at taken <;> cases taken <;> exact counting.refl db
  | lock =>
    simp only [advance] at taken
    split at taken
    next done =>
      cases taken
      obtain ⟨_, _, locked⟩ := bind_eq_ok.mp (guard_ok done)
      simp only [bind_eq_ok, pure_eq_ok, Prod.mk.injEq] at locked
      obtain ⟨_, updated, _, rfl⟩ := locked
      exact updateCarts_counts counting updated
    · cases taken
      exact counting.refl db
  | reserve view =>
    simp only [advance] at taken
    split at taken
    next done =>
      cases taken
      exact reserveStock_counts counting (guard_ok done)
    · cases taken
      exact counting.refl db
  | create view reservations =>
    simp only [advance] at taken
    split at taken
    next done =>
      cases taken
      exact createOrder_counts counting (guard_ok done)
    · cases taken
      exact counting.refl db
  | invoice placed | insertPayment placed config =>
    simp only [advance] at taken
    split at taken
    next done =>
      cases taken
      exact counting.tables (by rw [(createPayment_grows (guard_ok done)).1]; rfl)
    · cases taken
      exact counting.refl db
  | convertInvoiced placed payment =>
    simp only [advance] at taken
    split at taken
    next done =>
      cases taken
      exact convertInvoiced_counts counting (guard_ok done)
    · cases taken
      exact counting.refl db
  | recordError placed payment e =>
    simp only [advance] at taken
    split at taken
    next done =>
      cases taken
      exact counting.tables (congrArg Db.offeredTables (Except.ok.inj (guard_ok done))).symm
    · cases taken
      exact counting.refl db
  | recordResult placed payment intent =>
    simp only [advance] at taken
    split at taken
    next done =>
      obtain ⟨_, rfl⟩ := recordPaymentResult_eq_ok.mp (guard_ok done)
      split at taken <;> cases taken <;> exact counting.tables rfl
    · cases taken
      exact counting.refl db
  | convert placed payment =>
    simp only [advance] at taken
    split at taken
    next done =>
      cases taken
      have committed := guard_ok done
      simp only [commitCart, bind_eq_ok, pure_eq_ok] at committed
      obtain ⟨mid, converted, rfl⟩ := committed
      have frame := convertCart_frame converted
      exact counting.tables (by rw [frame]; rfl)
    · cases taken
      exact counting.refl db
  | captureWrite placed row intent =>
    simp only [advance] at taken
    split at taken
    next done =>
      cases taken
      exact counting.tables (congrArg Db.offeredTables (Except.ok.inj (guard_ok done))).symm
    · cases taken
      exact counting.refl db
  | paid placed payment =>
    simp only [advance] at taken
    split at taken
    next done =>
      cases taken
      exact counting.after (settleReservations_counts counting (markCaptured_eq_ok.mp (guard_ok done)).2) rfl
    · cases taken
      exact counting.refl db
  | undo todo cart frame e =>
    cases todo with
    | nil =>
      cases taken
      exact counting.refl db
    | cons action rest =>
      simp only [advance] at taken
      split at taken
      next done =>
        cases taken
        exact undo_counts counting (guard_ok done)
      · cases taken
        exact counting.refl db
  | done frame result | crashed todo frame e =>
    cases taken
    exact counting.refl db

theorem step_counts {settings : Settings} {lib : WebhookLibrary} {s s' : Sys} {l : Label}
    (taken : step settings lib s l = some s') (catalog : l.editsProducts = false) (apart : l.editsCarts = false) :
    R s.db s'.db := by
  cases l with
  | createProduct | patchProduct | deactivateProduct => cases catalog
  | shop tables => cases apart
  | tick seconds | sweep =>
    cases taken
    exact counting.refl _
  | begin | receive | markPaidRead | refundRead | refundCall =>
    simp only [step] at taken
    split at taken <;> cases taken
    exact counting.refl _
  | refundWrite =>
    simp only [step] at taken
    split at taken <;> cases taken
    exact counting.tables rfl
  | advance i oracle =>
    simp only [step] at taken
    split at taken
    · cases taken
    next call at_i =>
      split at taken <;> cases taken
      exact advance_counts counting rfl
  | cancelOrder tenant customer order =>
    obtain ⟨db', done, rfl⟩ := commits_eq_some taken
    exact cancelOrder_counts counting done
  | process k =>
    simp only [step] at taken
    split at taken
    next task queued =>
      obtain ⟨db', done, rfl⟩ := commits_eq_some taken
      rcases processWebhookEvent_cases done with unchanged | applied
      · exact counting.tables (congrArg Db.offeredTables unchanged)
      · exact applyWebhookEvent_counts counting applied
    · cases taken
  | reconcile payment answer =>
    simp only [step] at taken
    split at taken
    · obtain ⟨db', done, rfl⟩ := commits_eq_some taken
      obtain ⟨⟨outcome, _⟩, reconciled, rfl⟩ := map_eq_ok.mp done
      exact reconcileOne_counts counting reconciled
    · cases taken
  | expire scan cutoff =>
    simp only [step] at taken
    split at taken
    · obtain ⟨db', done, rfl⟩ := commits_eq_some taken
      exact releaseExpiredBatch_counts counting done
    · cases taken
  | markPaidWrite k =>
    simp only [step] at taken
    split at taken
    next mark listed =>
      obtain ⟨db', done, rfl⟩ := commits_eq_some taken
      exact markPaidWrite_counts counting done
    · cases taken

end Blocks

theorem step_offered {settings : Settings} {lib : WebhookLibrary} {s s' : Sys} {l : Label}
    (taken : step settings lib s l = some s') (catalog : l.editsProducts = false) (apart : l.editsCarts = false) :
    s'.db.offered = s.db.offered :=
  step_counts offering taken catalog apart

theorem step_offers {settings : Settings} {lib : WebhookLibrary} {s s' : Sys} {l : Label}
    (taken : step settings lib s l = some s') (catalog : l.editsProducts = false) : s'.db.offers = s.db.offers := by
  cases l with
  | shop tables =>
    cases taken
    rfl
  | _ => exact congrArg Offered.products (step_offered taken catalog rfl)

theorem step_counts_coupons {R : Db → Db → Prop} (counting : Counting R)
    (only : ∀ {db db' : Db}, db'.coupons = db.coupons → R db db') {settings : Settings} {lib : WebhookLibrary}
    {s s' : Sys} {l : Label} (taken : step settings lib s l = some s') (apart : l.editsCarts = false) :
    R s.db s'.db := by
  cases l with
  | createProduct tenant id data =>
    obtain ⟨db', done, rfl⟩ := commits_eq_some taken
    exact only (by rw [createProduct_frame done]; rfl)
  | patchProduct tenant product data =>
    obtain ⟨db', done, rfl⟩ := commits_eq_some taken
    exact only (by rw [patchProduct_frame done]; rfl)
  | deactivateProduct tenant product =>
    obtain ⟨db', done, rfl⟩ := commits_eq_some taken
    exact only (by rw [deactivateProduct_frame done]; rfl)
  | _ => exact step_counts counting taken rfl apart

def Db.couponOffers (db : Db) : List Coupon := db.coupons.rows.map Coupon.offer

theorem couponOffering : Counting fun db db' => db'.couponOffers = db.couponOffers where
  tables same := congrArg Offered.coupons (offering.tables same)
  trans first second := second.trans first
  products done counts := congrArg Offered.coupons (offering.products done counts)
  coupons done := congrArg Offered.coupons (offering.coupons done)

theorem couponOffers_of_coupons {db db' : Db} (same : db'.coupons = db.coupons) : db'.couponOffers = db.couponOffers :=
  congrArg (fun coupons : Table Coupon => coupons.rows.map Coupon.offer) same

theorem step_coupons {settings : Settings} {lib : WebhookLibrary} {s s' : Sys} {l : Label}
    (taken : step settings lib s l = some s') (apart : l.editsCarts = false) :
    s'.db.couponOffers = s.db.couponOffers :=
  step_counts_coupons couponOffering couponOffers_of_coupons taken apart

end Storefront
