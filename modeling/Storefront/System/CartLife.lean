import Storefront.Carts.Closed
import Storefront.System.Changes

set_option autoImplicit false

/-!
# What happens to a cart outside CartService

Checkouts, deliveries and sweeps move the status of a cart and leave its contents
alone. CONVERTED is final, and ABANDONED leads nowhere else.
-/

namespace Storefront

open Relational Transition

def CartStatus.live : CartStatus → Bool
  | .active | .checkingOut => true
  | .converted | .abandoned => false

def CartStatus.Goes (s s' : CartStatus) : Prop := s' = s ∨ s' = .converted ∨ s.live = true

theorem CartStatus.Goes.trans {a b c : CartStatus} (first : a.Goes b) (second : b.Goes c) : a.Goes c := by
  rcases first with rfl | rfl | live
  · exact second
  · rcases second with rfl | rfl | live
    · exact .inr (.inl rfl)
    · exact .inr (.inl rfl)
    · cases live
  · exact .inr (.inr live)

def Cart.restated (c : Cart) (status : CartStatus) (time : Time) : Cart := { c with status, updated_at := time }

structure Restated (db db' : Db) : Prop where
  items : db'.cartItems = db.cartItems
  applied : db'.appliedCoupons = db.appliedCoupons
  carts : ∀ c ∈ db.carts.rows, ∃ status time, c.status.Goes status ∧ c.restated status time ∈ db'.carts.rows
  only : ∀ c' ∈ db'.carts.rows, ∃ c ∈ db.carts.rows, ∃ status time, c.status.Goes status ∧
    c' = c.restated status time

theorem Restated.of_tables {db db' : Db} (carts : db'.carts = db.carts) (items : db'.cartItems = db.cartItems)
    (applied : db'.appliedCoupons = db.appliedCoupons) : Restated db db' where
  items
  applied
  carts c member := ⟨c.status, c.updated_at, .inl rfl, carts ▸ member⟩
  only c member := ⟨c, carts ▸ member, c.status, c.updated_at, .inl rfl, rfl⟩

def Db.cartTables (db : Db) : Table Cart × Table CartItem × Table AppliedCoupon :=
  (db.carts, db.cartItems, db.appliedCoupons)

theorem Restated.unchanged {db db' : Db} (same : db'.cartTables = db.cartTables) : Restated db db' := by
  simp only [Db.cartTables, Prod.mk.injEq] at same
  exact .of_tables same.1 same.2.1 same.2.2

theorem Restated.refl (db : Db) : Restated db db := .of_tables rfl rfl rfl

theorem Restated.trans {a b c : Db} (first : Restated a b) (second : Restated b c) : Restated a c where
  items := second.items.trans first.items
  applied := second.applied.trans first.applied
  carts row member := by
    obtain ⟨status, time, goes, present⟩ := first.carts row member
    obtain ⟨status', time', goes', present'⟩ := second.carts _ present
    exact ⟨status', time', goes.trans goes', present'⟩
  only row member := by
    obtain ⟨mid, present, status, time, goes, rfl⟩ := second.only row member
    obtain ⟨old, before, status', time', goes', rfl⟩ := first.only mid present
    exact ⟨old, before, status, time, goes'.trans goes, rfl⟩

def Db.ConvertedCart (db : Db) (cart : Id) : Prop :=
  ∃ c ∈ db.carts.rows, c.id = cart ∧ c.status = .converted

theorem Restated.converted {db db' : Db} (restated : Restated db db') {cart : Id}
    (converted : db.ConvertedCart cart) : db'.ConvertedCart cart := by
  obtain ⟨c, member, named, final⟩ := converted
  obtain ⟨status, time, goes, present⟩ := restated.carts c member
  refine ⟨_, present, named, ?_⟩
  rw [final] at goes
  rcases goes with same | same | live
  · exact same
  · exact same
  · cases live

theorem LeavesClosed.converted {db db' : Db} (leaves : LeavesClosed db db') {cart : Id}
    (converted : db.ConvertedCart cart) : db'.ConvertedCart cart := by
  obtain ⟨c, member, named, final⟩ := converted
  exact ⟨c, leaves.closed c member (by simp [final]), named, final⟩

theorem updateCarts_restates {p : Cart → Bool} {f : Cart → Cart} {db db' : Db} (done : db.updateCarts p f = .ok db')
    (goes : ∀ c ∈ db.carts.rows, p c = true → ∃ status time, c.status.Goes status ∧ f c = c.restated status time) :
    Restated db db' := by
  obtain ⟨carts, updated, rfl⟩ := stored_eq_ok.mp done
  have rows := Table.update_rows updated
  have moved (c : Cart) (member : c ∈ db.carts.rows) : ∃ status time, c.status.Goes status ∧
      Table.updated p f c = c.restated status time := by
    by_cases picked : p c = true
    · obtain ⟨status, time, step, same⟩ := goes c member picked
      exact ⟨status, time, step, by simp [Table.updated, picked, same]⟩
    · exact ⟨c.status, c.updated_at, .inl rfl, by simp [Table.updated, picked, Cart.restated]⟩
  refine ⟨rfl, rfl, fun c member => ?_, fun c' member => ?_⟩
  · obtain ⟨status, time, step, same⟩ := moved c member
    exact ⟨status, time, step, rows ▸ same ▸ List.mem_map_of_mem member⟩
  · obtain ⟨c, present, rfl⟩ := List.mem_map.mp (rows ▸ member)
    exact ⟨c, present, moved c present⟩

def Db.accounts (db : Db) : Table Customer × Table Address × Table PaymentGatewayConfig × Table PaymentMethod :=
  (db.customers, db.addresses, db.gatewayConfigs, db.paymentMethods)

def Db.sideTables (db : Db) := (db.cartTables, db.accounts)

structure Restating (now : Time) (R : Db → Db → Prop) : Prop where
  unchanged : ∀ {db db' : Db}, db'.sideTables = db.sideTables → R db db'
  trans : ∀ {a b c : Db}, R a b → R b c → R a c
  moves : ∀ {db db' : Db} {p : Cart → Bool} {f : Cart → Cart}, db.updateCarts p f = .ok db' →
    (∀ c ∈ db.carts.rows, p c = true → ∃ status, c.status.Goes status ∧
      (f c = { c with status } ∨ f c = c.restated status now)) → R db db'

theorem restating (now : Time) : Restating now Restated where
  unchanged same := .unchanged (congrArg Prod.fst same)
  trans := Restated.trans
  moves done goes := by
    refine updateCarts_restates done fun c member picked => ?_
    obtain ⟨status, step, same | stamped⟩ := goes c member picked
    · exact ⟨status, c.updated_at, step, same⟩
    · exact ⟨status, now, step, stamped⟩

namespace Restating

variable {now : Time} {R : Db → Db → Prop}

theorem refl (restating : Restating now R) (db : Db) : R db db := restating.unchanged rfl

theorem after (restating : Restating now R) {db mid db' : Db} (rest : R mid db')
    (same : mid.sideTables = db.sideTables) : R db db' :=
  restating.trans (restating.unchanged same) rest

theorem settled (restating : Restating now R) {t : Settlement} {picked : InventoryReservation → Bool} {db db' : Db}
    (settled : Settled t picked db db' ∧ db'.carts = db.carts) : R db db' := by
  refine restating.unchanged ?_
  rw [Db.sideTables, Db.cartTables, settled.2, settled.1.frame]
  rfl

end Restating

section Blocks

variable {now : Time} {R : Db → Db → Prop} (restating : Restating now R) {db db' : Db}

include restating

theorem revert_respects {p : Cart → Bool} (done : db.updateCarts p (fun c => { c with status := .active }) = .ok db')
    (checking : ∀ c, p c = true → c.status = .checkingOut) : R db db' :=
  restating.moves done fun c _ picked => ⟨.active, .inr (.inr (by simp [checking c picked, CartStatus.live])), .inl rfl⟩

theorem abandonStaleCarts_respects {cutoff : Time} (done : abandonStaleCarts cutoff db = .ok db') : R db db' := by
  refine restating.moves done fun c _ picked => ⟨.abandoned, .inr (.inr ?_), .inl rfl⟩
  simp only [Bool.and_eq_true, beq_iff_eq] at picked
  simp [picked.1, CartStatus.live]

theorem lockCart_respects {req : Request} {view : CartView} (done : lockCart req now db = .ok (view, db')) :
    R db db' := by
  simp only [lockCart, lockAndValidateCart, bind_eq_ok, orRaise_eq_ok, pure_eq_ok, Prod.mk.injEq,
    Option.bind_eq_some_iff] at done
  obtain ⟨_, ⟨view, ⟨cart, found, joined⟩, _, _, rfl⟩, _, locked, rfl, rfl⟩ := done
  have active := List.find?_some found
  simp only [Bool.and_eq_true, beq_iff_eq] at active
  simp only [Db.cartView, Option.map_eq_some_iff] at joined
  obtain ⟨_, _, rfl⟩ := joined
  refine restating.moves locked fun c member picked => ⟨.checkingOut, .inr (.inr ?_), .inr rfl⟩
  obtain rfl := db.carts.eq_of_key member (List.mem_of_find?_eq_some found) (beq_iff_eq.mp picked)
  simp [active.2, CartStatus.live]

theorem convertCart_respects {tenant cart : Id} (done : convertCart tenant cart now db = .ok db') : R db db' := by
  simp only [convertCart, bind_eq_ok] at done
  obtain ⟨c, _, updated⟩ := done
  exact restating.moves updated fun _ _ _ => ⟨.converted, .inr (.inl rfl), .inr rfl⟩

theorem commitCart_respects {req : Request} {placed : Placed} (done : commitCart req now placed db = .ok db') :
    R db db' := by
  simp only [commitCart, bind_eq_ok, pure_eq_ok] at done
  obtain ⟨mid, converted, rfl⟩ := done
  exact restating.trans (convertCart_respects restating converted) (restating.unchanged rfl)

theorem settleReservations_respects {t : Settlement} {tenant : Id} {ids : List Id}
    (done : settleReservations t tenant ids db = .ok db') : R db db' :=
  restating.settled (settleReservations_settled done)

theorem settleForOrder_respects {t : Settlement} {tenant order : Id}
    (done : settleForOrder t tenant order db = .ok db') : R db db' :=
  restating.settled (settleForOrder_settled done)

theorem convertInvoiced_respects {req : Request} {placed : Placed}
    (done : convertInvoiced req now placed db = .ok db') : R db db' := by
  simp only [convertInvoiced, bind_eq_ok] at done
  obtain ⟨o, _, mid, converted, committed⟩ := done
  have first := convertCart_respects restating converted
  have last := settleReservations_respects restating committed
  exact restating.after (restating.trans first (restating.after last rfl)) rfl

theorem undo_respects {action : Undo} {req : Request} {cart : Id} {frame : Frame}
    (done : action.run req cart frame db = .ok db') : R db db' := by
  cases action with
  | cancelOrder =>
    simp only [Undo.run] at done
    split at done
    · obtain ⟨_, _, _, _, rfl⟩ := cancelOwnOrder_eq_ok.mp done
      split <;> exact restating.unchanged rfl
    · cases done
      exact restating.refl db
  | releaseReservations => exact settleReservations_respects restating done
  | revertCart => exact revert_respects restating done fun c picked => by simp_all

theorem applyOrderPaid_respects {tenant : Id} {order : Order}
    (done : applyOrderPaid tenant order db = .ok db') : R db db' := by
  unfold applyOrderPaid at done
  split at done
  · exact restating.after (settleForOrder_respects restating done) rfl
  · cases done
    exact restating.refl db

theorem applyOrderCancelled_respects {tenant : Id} {order : Order}
    (done : applyOrderCancelled tenant order db = .ok db') : R db db' := by
  unfold applyOrderCancelled at done
  split at done
  · obtain ⟨mid, released, reverted⟩ := bind_eq_ok.mp done
    have first : R db mid := restating.after (settleForOrder_respects restating released) rfl
    unfold revertCartIfCheckingOut at reverted
    split at reverted
    · cases reverted
      exact first
    · exact restating.trans first (revert_respects restating reverted fun c picked => by simp_all)
  · cases done
    exact restating.refl db

theorem applyToOrder_respects {tenant : Id} {event_type : Json} {order : Order}
    (done : applyToOrder tenant event_type order db = .ok db') : R db db' := by
  unfold applyToOrder at done
  split at done
  · exact applyOrderPaid_respects restating done
  · split at done
    · exact applyOrderCancelled_respects restating done
    · split at done <;> cases done <;> exact restating.unchanged rfl

theorem applyWebhookEvent_respects {lib : WebhookLibrary} {task : WebhookTask} {at_ : Time}
    (done : applyWebhookEvent lib task at_ db = .ok db') : R db db' := by
  simp only [applyWebhookEvent, bind_eq_ok] at done
  obtain ⟨_, _, _, recorded, _, _, order, _, applied⟩ := done
  obtain ⟨_, _, rfl⟩ := stored_eq_ok.mp recorded
  exact restating.after (applyToOrder_respects restating applied) rfl

theorem reconcileOne_respects {payment : Id} {answer : Except Exn (Option PaymentIntent)} {at_ : Time}
    {outcome : ReconcileOutcome} (done : reconcileOne payment answer at_ db = .ok (outcome, db')) : R db db' := by
  have stored {p : Payment} {status : PaymentStatus} {note : String} {value : Json} :
      R db (storeReconciled p.id status note value at_ db) := restating.unchanged rfl
  have closing {p : Payment} {mid last : Db} (stands : R db mid)
      (marked : markOrderCancelledAndRelease p.tenant p.order mid = .ok last) : R db last := by
    obtain ⟨_, _, applied⟩ := bind_eq_ok.mp marked
    exact restating.trans stands (applyOrderCancelled_respects restating applied)
  unfold reconcileOne at done
  split at done
  · cases done
    exact restating.refl db
  · split at done
    · simp only [reconcileUnknownIntent, bind_eq_ok, pure_eq_ok, Prod.mk.injEq] at done
      obtain ⟨_, marked, _, rfl⟩ := done
      exact closing stored marked
    · simp only [reconcileKnownIntent, bind_eq_ok] at done
      obtain ⟨_, _, _, _, rest⟩ := done
      split at rest
      · cases rest
        exact restating.refl db
      · cases rest
        exact restating.refl db
      · split at rest
        · cases rest
          exact restating.refl db
        · split at rest
          · simp only [markOrderPaid, bind_eq_ok, pure_eq_ok, Prod.mk.injEq] at rest
            obtain ⟨_, ⟨_, _, applied⟩, _, rfl⟩ := rest
            exact restating.trans stored (applyOrderPaid_respects restating applied)
          · split at rest
            · simp only [bind_eq_ok, pure_eq_ok, Prod.mk.injEq] at rest
              obtain ⟨_, marked, _, rfl⟩ := rest
              exact closing stored marked
            · rw [pure_eq_ok, Prod.mk.injEq] at rest
              obtain ⟨_, rfl⟩ := rest
              exact stored

theorem releaseExpiredBatch_respects {scan : Scan} {cutoff : Time}
    (done : releaseExpiredBatch scan cutoff db = .ok db') : R db db' := by
  refine foldlM_relation restating.refl restating.trans ?_ done
  intro res _ a b released
  simp only [releaseExpiredOne, bind_eq_ok] at released
  obtain ⟨mid, settled, reverted⟩ := released
  refine restating.trans (restating.settled (settle_settled settled)) ?_
  exact revert_respects restating reverted fun c picked => by simp_all

theorem cancelOrder_respects {tenant customer order : Id}
    (done : cancelOrder tenant customer order db = .ok db') : R db db' := by
  simp only [cancelOrder, bind_eq_ok] at done
  obtain ⟨o, _, rest⟩ := done
  split at rest
  · rw [pure_eq_ok] at rest
    exact rest ▸ restating.refl db
  · simp only [bind_eq_ok, pure_eq_ok] at rest
    obtain ⟨_, _, mid, released, last, reversed, rfl⟩ := rest
    refine restating.trans (settleReservations_respects restating released) ?_
    exact restating.trans (settleReservations_respects restating reversed) (restating.unchanged rfl)

theorem markPaidWrite_respects {tenant order payment : Id} {reference : String} {at_ : Time}
    (done : markPaidWrite tenant order payment reference at_ db = .ok db') : R db db' := by
  simp only [markPaidWrite, markInvoicePaid, bind_eq_ok, pure_eq_ok] at done
  obtain ⟨mid, ⟨p, _, written⟩, o, _, rfl⟩ := done
  have first : mid.sideTables = db.sideTables := by
    split at written
    · rw [pure_eq_ok] at written
      rw [written]
    · simp only [bind_eq_ok, pure_eq_ok] at written
      obtain ⟨_, _, rfl⟩ := written
      rfl
  split
  · exact restating.unchanged first
  · exact restating.unchanged first

theorem patched_respects {p : Product → Bool} {f : Product → Product} (done : db.updateProducts p f = .ok db') :
    R db db' := by
  obtain ⟨_, _, rfl⟩ := stored_eq_ok.mp done
  exact restating.unchanged rfl

theorem advance_respects {settings : Settings} {req : Request} {oracle : Oracle} (clock : oracle.now = now)
    {pc pc' : Pc} {log : List GatewayCall} (taken : advance settings req oracle db pc = (pc', db', log)) : R db db' := by
  subst clock
  cases pc with
  | find | validate _ | resolve _ | authorize _ _ | captureRead _ _ | capture _ _ =>
    simp only [advance] at taken
    split at taken <;> cases taken <;> exact restating.refl db
  | lock =>
    simp only [advance] at taken
    split at taken
    next done =>
      cases taken
      exact lockCart_respects restating (guard_ok done)
    · cases taken
      exact restating.refl db
  | reserve view =>
    simp only [advance] at taken
    split at taken
    next done =>
      cases taken
      have frame := (reserveStock_reserved (guard_ok done)).1.frame
      exact restating.unchanged (by rw [frame]; rfl)
    · cases taken
      exact restating.refl db
  | create view reservations =>
    simp only [advance] at taken
    split at taken
    next done =>
      cases taken
      have frame := (createOrder_creates (guard_ok done)).frame
      exact restating.unchanged (by rw [frame]; rfl)
    · cases taken
      exact restating.refl db
  | invoice placed | insertPayment placed config =>
    simp only [advance] at taken
    split at taken
    next done =>
      cases taken
      exact restating.unchanged (by rw [(createPayment_grows (guard_ok done)).1]; rfl)
    · cases taken
      exact restating.refl db
  | convertInvoiced placed payment =>
    simp only [advance] at taken
    split at taken
    next done =>
      cases taken
      exact convertInvoiced_respects restating (guard_ok done)
    · cases taken
      exact restating.refl db
  | recordError placed payment e =>
    simp only [advance] at taken
    split at taken
    next done =>
      cases taken
      exact restating.unchanged (congrArg Db.sideTables (Except.ok.inj (guard_ok done))).symm
    · cases taken
      exact restating.refl db
  | recordResult placed payment intent =>
    simp only [advance] at taken
    split at taken
    next done =>
      obtain ⟨_, written⟩ := recordPaymentResult_eq_ok.mp (guard_ok done)
      have same := (congrArg Db.sideTables written).symm
      split at taken <;> cases taken <;> exact restating.unchanged same
    · cases taken
      exact restating.refl db
  | convert placed payment =>
    simp only [advance] at taken
    split at taken
    next done =>
      cases taken
      exact commitCart_respects restating (guard_ok done)
    · cases taken
      exact restating.refl db
  | captureWrite placed row intent =>
    simp only [advance] at taken
    split at taken
    next done =>
      cases taken
      exact restating.unchanged (congrArg Db.sideTables (Except.ok.inj (guard_ok done))).symm
    · cases taken
      exact restating.refl db
  | paid placed payment =>
    simp only [advance] at taken
    split at taken
    next done =>
      cases taken
      exact restating.after (settleReservations_respects restating (markCaptured_eq_ok.mp (guard_ok done)).2) rfl
    · cases taken
      exact restating.refl db
  | undo todo cart frame e =>
    cases todo with
    | nil =>
      cases taken
      exact restating.refl db
    | cons action rest =>
      simp only [advance] at taken
      split at taken
      next done =>
        cases taken
        exact undo_respects restating (guard_ok done)
      · cases taken
        exact restating.refl db
  | done frame result | crashed todo frame e =>
    cases taken
    exact restating.refl db

end Blocks

def Label.editsCarts : Label → Bool
  | .shop _ => true
  | _ => false

theorem step_respects {R : Db → Db → Prop} {settings : Settings} {lib : WebhookLibrary} {s s' : Sys} {l : Label}
    (restating : Restating s.now R) (taken : step settings lib s l = some s') (apart : l.editsCarts = false) :
    R s.db s'.db := by
  cases l with
  | shop tables => cases apart
  | tick seconds | sweep =>
    cases taken
    exact restating.refl _
  | createProduct tenant id data =>
    obtain ⟨db', done, rfl⟩ := commits_eq_some taken
    exact restating.unchanged (by rw [createProduct_frame done]; rfl)
  | patchProduct tenant product data =>
    obtain ⟨db', done, rfl⟩ := commits_eq_some taken
    exact patched_respects restating (patchProduct_updates done)
  | deactivateProduct tenant product =>
    obtain ⟨db', done, rfl⟩ := commits_eq_some taken
    exact patched_respects restating (deactivateProduct_updates done)
  | begin | receive | markPaidRead | refundRead | refundCall =>
    simp only [step] at taken
    split at taken <;> cases taken
    exact restating.refl _
  | refundWrite k =>
    simp only [step] at taken
    split at taken <;> cases taken
    exact restating.unchanged rfl
  | advance i oracle =>
    simp only [step] at taken
    split at taken
    · cases taken
    next call at_i =>
      split at taken <;> cases taken
      exact advance_respects restating rfl rfl
  | cancelOrder tenant customer order =>
    obtain ⟨db', done, rfl⟩ := commits_eq_some taken
    exact cancelOrder_respects restating done
  | process k =>
    simp only [step] at taken
    split at taken
    next task queued =>
      obtain ⟨db', done, rfl⟩ := commits_eq_some taken
      rcases processWebhookEvent_cases done with unchanged | applied
      · exact restating.unchanged (congrArg Db.sideTables unchanged)
      · exact applyWebhookEvent_respects restating applied
    · cases taken
  | reconcile payment answer =>
    simp only [step] at taken
    split at taken
    · obtain ⟨db', done, rfl⟩ := commits_eq_some taken
      obtain ⟨⟨outcome, _⟩, reconciled, rfl⟩ := map_eq_ok.mp done
      exact reconcileOne_respects restating reconciled
    · cases taken
  | expire scan cutoff =>
    simp only [step] at taken
    split at taken
    · obtain ⟨db', done, rfl⟩ := commits_eq_some taken
      exact releaseExpiredBatch_respects restating done
    · cases taken
  | markPaidWrite k =>
    simp only [step] at taken
    split at taken
    next mark listed =>
      obtain ⟨db', done, rfl⟩ := commits_eq_some taken
      exact markPaidWrite_respects restating done
    · cases taken

theorem step_restates {settings : Settings} {lib : WebhookLibrary} {s s' : Sys} {l : Label}
    (taken : step settings lib s l = some s') (apart : l.editsCarts = false) : Restated s.db s'.db :=
  step_respects (restating s.now) taken apart

theorem accounting (now : Time) : Restating now fun db db' => db'.accounts = db.accounts where
  unchanged same := congrArg Prod.snd same
  trans first second := second.trans first
  moves done _ := by
    obtain ⟨carts, _, rfl⟩ := stored_eq_ok.mp done
    rfl

theorem step_accounts {settings : Settings} {lib : WebhookLibrary} {s s' : Sys} {l : Label}
    (taken : step settings lib s l = some s') (apart : l.editsCarts = false) : s'.db.accounts = s.db.accounts :=
  step_respects (accounting s.now) taken apart

/-! ## Converted carts -/

section Converted

variable {db db' : Db}

theorem convertCart_converts {tenant cart : Id} {now : Time} (done : convertCart tenant cart now db = .ok db') :
    db'.ConvertedCart cart := by
  simp only [convertCart, bind_eq_ok, orRaise_eq_ok] at done
  obtain ⟨c, found, updated⟩ := done
  have named := List.find?_some found
  simp only [Bool.and_eq_true, beq_iff_eq] at named
  obtain ⟨carts, written, rfl⟩ := stored_eq_ok.mp updated
  refine ⟨{ c with status := .converted, updated_at := now }, ?_, named.2, rfl⟩
  rw [Table.update_rows written]
  refine List.mem_map.mpr ⟨c, List.mem_of_find?_eq_some found, ?_⟩
  simp [Table.updated]

theorem commitCart_converts {req : Request} {now : Time} {placed : Placed}
    (done : commitCart req now placed db = .ok db') : db'.ConvertedCart placed.view.cart.id := by
  simp only [commitCart, bind_eq_ok, pure_eq_ok] at done
  obtain ⟨mid, converted, rfl⟩ := done
  have named := convertCart_converts converted
  exact named

theorem convertInvoiced_converts {req : Request} {now : Time} {placed : Placed}
    (done : convertInvoiced req now placed db = .ok db') : db'.ConvertedCart placed.view.cart.id := by
  simp only [convertInvoiced, bind_eq_ok] at done
  obtain ⟨o, _, mid, converted, committed⟩ := done
  have last : Restated mid db' := (restating now).after (settleReservations_respects (restating now) committed) rfl
  exact last.converted (convertCart_converts converted)

theorem advance_converts {settings : Settings} {req : Request} {oracle : Oracle} {pc pc' : Pc}
    {log : List GatewayCall} (taken : advance settings req oracle db pc = (pc', db', log)) {placed : Placed}
    {payment : Payment} (phase : pc = .convert placed payment ∨ pc = .convertInvoiced placed payment) :
    db' = db ∨ db'.ConvertedCart placed.view.cart.id := by
  rcases phase with rfl | rfl
  · simp only [advance] at taken
    split at taken
    next done =>
      cases taken
      exact .inr (commitCart_converts (guard_ok done))
    · cases taken
      exact .inl rfl
  · simp only [advance] at taken
    split at taken
    next done =>
      cases taken
      exact .inr (convertInvoiced_converts (guard_ok done))
    · cases taken
      exact .inl rfl

end Converted

theorem step_converts {settings : Settings} {lib : WebhookLibrary} {s s' : Sys} {i : Nat} {oracle : Oracle}
    {req : Request} {pc : Pc} {placed : Placed} {h : InventoryReservation → ReservationStatus}
    (taken : step settings lib s (.advance i oracle) = some s') (at_i : s.calls i = some ⟨req, pc⟩)
    (converts : Converts placed pc h) : s'.db = s.db ∨ s'.db.ConvertedCart placed.view.cart.id := by
  have phase : ∃ payment, pc = .convert placed payment ∨ pc = .convertInvoiced placed payment := by
    cases converts with
    | card payment => exact ⟨payment, .inl rfl⟩
    | invoice payment => exact ⟨payment, .inr rfl⟩
  obtain ⟨payment, phase⟩ := phase
  have written := step_advance taken at_i
  rcases result : advance settings req { oracle with now := s.now } s.db pc with ⟨pc', db', log⟩
  rw [result] at written
  rw [written]
  exact advance_converts result phase

theorem Change.order_carts {lib : WebhookLibrary} {s : Sys} {l : Label} {db' : Db} (change : Change lib s l db')
    {o' : Order} (member : o' ∈ db'.orders.rows) {cart : Id} (named : o'.cart = some cart) :
    (∃ o ∈ s.db.orders.rows, o.cart = some cart) ∨ ∃ i oracle req pc placed h, l = .advance i oracle ∧
      s.calls i = some ⟨req, pc⟩ ∧ Converts placed pc h ∧ placed.view.cart.id = cart := by
  rcases change.shape with touch | ⟨_, orders, _⟩ | ⟨_, _, order, _, _, rows, _, _, _, unlinked⟩ |
    ⟨_, _, _, _, _, _, _, _, _, _, _, orders, _⟩ | ⟨i, oracle, req, pc, placed, h, rfl, at_i, converts, links⟩
  · obtain ⟨o, present, core, _⟩ := touch.order_of member
    exact .inl ⟨o, present, (congrArg OrderCore.cart core).symm.trans named⟩
  · exact .inl ⟨o', orders ▸ member, named⟩
  · rw [rows] at member
    rcases List.mem_append.mp member with old | new
    · exact .inl ⟨o', old, named⟩
    · rw [List.mem_singleton.mp new, unlinked] at named
      cases named
  · exact .inl ⟨o', orders ▸ member, named⟩
  · have image : (o'.core, o'.status) ∈ s.db.orders.rows.map fun o =>
        (if o.core.id = placed.order.id then { o.core with cart := some placed.view.cart.id } else o.core,
          o.status) := links.orders ▸ List.mem_map_of_mem member
    obtain ⟨o, present, same⟩ := List.mem_map.mp image
    have core := congrArg (OrderCore.cart ∘ Prod.fst) same
    simp only [Function.comp_apply] at core
    split at core
    · have cart := core.trans named
      exact .inr ⟨i, oracle, req, pc, placed, h, rfl, at_i, converts, Option.some.inj cart⟩
    · exact .inl ⟨o, present, core.trans named⟩

end Storefront
