import Storefront.System.Crashes
import Storefront.System.HeldCarts

set_option autoImplicit false

/-!
# What a dead worker leaves for good

The phases of the checkout commit separately. A cart under checkout is given back by its
own checkout or through an active reservation of it, and a pending order moves with its
payment. A worker that dies before it wrote the reservation, or the payment, leaves nobody
to do either.
-/

namespace Storefront

open Relational Transition

/-- The cart is under checkout, and no active reservation leads to it. -/
structure Stranded (cart : Id) (db : Db) : Prop where
  held : db.CheckingOut cart
  unreserved : ∀ r ∈ db.reservations.rows, r.cart = cart → r.status ≠ .active

section Tables

variable {cart : Id} {db mid db' : Db}

theorem Stranded.of_tables (stranded : Stranded cart db) (carts : db'.carts = db.carts)
    (reservations : db'.reservations = db.reservations) : Stranded cart db' := by
  obtain ⟨held, unreserved⟩ := stranded
  rw [Db.CheckingOut, ← carts] at held
  rw [← reservations] at unreserved
  exact ⟨held, unreserved⟩

-- Which carts reservations hold is not written again, and none becomes active.
theorem Stranded.mapped {picked : InventoryReservation → Bool} {f : InventoryReservation → InventoryReservation}
    (stranded : Stranded cart db) (carts : db'.carts = db.carts)
    (rows : db'.reservations.rows = db.reservations.rows.map (Table.updated picked f))
    (named : ∀ r, (f r).cart = r.cart) (closed : ∀ r, r.status ≠ .active → (f r).status ≠ .active) :
    Stranded cart db' := by
  refine ⟨by rw [Db.CheckingOut, carts]; exact stranded.held, fun r' member mine => ?_⟩
  rw [rows] at member
  obtain ⟨r, inside, rfl⟩ := List.mem_map.mp member
  unfold Table.updated at mine ⊢
  split at mine
  next now =>
    rw [if_pos now]
    exact closed r (stranded.unreserved r inside ((named r).symm.trans mine))
  next out =>
    rw [if_neg out]
    exact stranded.unreserved r inside mine

theorem Stranded.settled {t : Settlement} {picked : InventoryReservation → Bool} (stranded : Stranded cart db)
    (done : Settled t picked db db' ∧ db'.carts = db.carts) : Stranded cart db' :=
  stranded.mapped done.2 done.1.rows (fun _ => rfl) fun _ _ => settlement_closes t

theorem Stranded.moved {p : Cart → Bool} {f : Cart → Cart} (stranded : Stranded cart db)
    (done : db.updateCarts p f = .ok db')
    (other : ∀ c ∈ db.carts.rows, c.id = cart → c.status = .checkingOut → p c = false) : Stranded cart db' := by
  obtain ⟨carts, updated, rfl⟩ := stored_eq_ok.mp done
  obtain ⟨c, member, named, held⟩ := stranded.held
  refine ⟨⟨c, ?_, named, held⟩, stranded.unreserved⟩
  rw [Table.update_rows updated]
  exact List.mem_map.mpr ⟨c, member, by simp [Table.updated, other c member named held]⟩

end Tables

section Blocks

variable {cart : Id} {db db' : Db}

theorem Stranded.locked {req : Request} {now : Time} {view : CartView} (stranded : Stranded cart db)
    (done : lockCart req now db = .ok (view, db')) : Stranded cart db' := by
  have active := (lockCart_view done).active
  simp only [lockCart, bind_eq_ok, pure_eq_ok, Prod.mk.injEq] at done
  obtain ⟨_, _, _, updated, rfl, rfl⟩ := done
  refine stranded.moved updated fun c member _ held => beq_false_of_ne fun same => ?_
  obtain ⟨present, _, _, open_⟩ := activeCart_some active
  rw [db.carts.eq_of_key member present same, open_] at held
  cases held

theorem Stranded.reserved {tenant : Id} {now : Time} {draw : Nat → Id} {view : CartView} {ids : List Id}
    (stranded : Stranded cart db) (done : reserveStock tenant now draw view db = .ok (ids, db'))
    (other : view.cart.id ≠ cart) : Stranded cart db' := by
  obtain ⟨_, rows, _, _, _⟩ := reserveStock_grows done
  have frame := (reserveStock_reserved done).1.frame
  refine ⟨by rw [frame]; exact stranded.held, fun r member mine => ?_⟩
  rw [rows] at member
  rcases List.mem_append.mp member with old | new
  · exact stranded.unreserved r old mine
  · obtain ⟨_, _, rfl⟩ := List.mem_map.mp new
    exact absurd mine other

theorem Stranded.converted {tenant other : Id} {now : Time} (stranded : Stranded cart db)
    (done : convertCart tenant other now db = .ok db') (apart : other ≠ cart) : Stranded cart db' := by
  simp only [convertCart, bind_eq_ok, orRaise_eq_ok] at done
  obtain ⟨found, picked, updated⟩ := done
  have named := List.find?_some picked
  simp only [Bool.and_eq_true, beq_iff_eq] at named
  refine stranded.moved updated fun c _ mine _ => beq_false_of_ne fun same => ?_
  exact apart (named.2.symm.trans (same.symm.trans mine))

theorem Stranded.linked {reservations : List Id} {order : Id} (stranded : Stranded cart db) :
    Stranded cart (linkReservations reservations order db) :=
  stranded.mapped rfl rfl (fun _ => rfl) fun _ shut => shut

theorem Stranded.committed {req : Request} {now : Time} {placed : Placed} (stranded : Stranded cart db)
    (done : commitCart req now placed db = .ok db') (apart : placed.view.cart.id ≠ cart) : Stranded cart db' := by
  simp only [commitCart, bind_eq_ok, pure_eq_ok] at done
  obtain ⟨mid, converted, rfl⟩ := done
  refine Stranded.linked ?_
  exact (stranded.converted converted apart).of_tables rfl rfl

theorem Stranded.invoiced {req : Request} {now : Time} {placed : Placed} (stranded : Stranded cart db)
    (done : convertInvoiced req now placed db = .ok db') (apart : placed.view.cart.id ≠ cart) : Stranded cart db' := by
  simp only [convertInvoiced, bind_eq_ok] at done
  obtain ⟨_, _, mid, converted, committed⟩ := done
  have turned : Stranded cart mid := by
    refine Stranded.converted ?_ converted apart
    exact stranded.of_tables rfl rfl
  exact turned.linked.settled (settleReservations_settled committed)

theorem Stranded.undone {action : Undo} {req : Request} {other : Id} {frame : Frame} (stranded : Stranded cart db)
    (done : action.run req other frame db = .ok db') (apart : other ≠ cart) : Stranded cart db' := by
  cases action with
  | cancelOrder =>
    simp only [Undo.run] at done
    split at done
    · obtain ⟨_, _, _, _, rfl⟩ := cancelOwnOrder_eq_ok.mp done
      split <;> exact stranded.of_tables rfl rfl
    · cases done
      exact stranded
  | releaseReservations => exact stranded.settled (settleReservations_settled done)
  | revertCart =>
    refine stranded.moved done fun c _ mine _ => ?_
    simp [show c.id ≠ other from fun same => apart (same.symm.trans mine)]

theorem Stranded.spared (stranded : Stranded cart db) (spares : Spares db db') : Stranded cart db' where
  held := by
    rw [Db.CheckingOut, spares.carts]
    exact stranded.held
  unreserved r member mine active := stranded.unreserved r (spares.active r member active) mine active

theorem Stranded.applied {lib : WebhookLibrary} {task : WebhookTask} {now : Time} (stranded : Stranded cart db)
    (receptive : db.Receptive) (done : applyWebhookEvent lib task now db = .ok db') : Stranded cart db' := by
  simp only [applyWebhookEvent, bind_eq_ok, payment_eq_ok, order_eq_ok, Db.insertWebhookEvent, stored_eq_ok] at done
  obtain ⟨_, _, _, ⟨events, _, rfl⟩, p, _, order, ⟨present, _, _⟩, applied⟩ := done
  let stored := storeWebhookStatus p.id task now { db with webhookEvents := events }
  have still : Stranded cart stored := stranded.of_tables rfl rfl
  have touch : Touch db stored Order.status (PaymentStatus.at p.id (mapGatewayStatus task.new_status))
      InventoryReservation.status := by
    have wrote := storeWebhookStatus_touch p.id task now { db with webhookEvents := events }
    exact ⟨wrote.orders, wrote.items, wrote.holds, wrote.payments, wrote.places, wrote.reaches⟩
  unfold applyToOrder at applied
  split at applied
  · exact still.spared (applyOrderPaid_spares applied)
  · split at applied
    · have receptive := receptive.touched touch (.of_tables rfl rfl rfl)
      exact still.spared (applyOrderCancelled_spares receptive present applied)
    · split at applied <;> cases applied <;> exact still.of_tables rfl rfl

theorem Stranded.withdrawn {tenant customer order : Id} (stranded : Stranded cart db)
    (done : cancelOrder tenant customer order db = .ok db') : Stranded cart db' := by
  simp only [cancelOrder, bind_eq_ok] at done
  obtain ⟨o, _, rest⟩ := done
  split at rest
  · rw [pure_eq_ok] at rest
    exact rest ▸ stranded
  · simp only [bind_eq_ok, pure_eq_ok] at rest
    obtain ⟨_, _, mid, released, last, reversed, rfl⟩ := rest
    have freed := stranded.settled (settleReservations_settled released)
    exact (freed.settled (settleReservations_settled reversed)).of_tables rfl rfl

theorem Stranded.marked {tenant order payment : Id} {reference : String} {now : Time} (stranded : Stranded cart db)
    (done : markPaidWrite tenant order payment reference now db = .ok db') : Stranded cart db' := by
  simp only [markPaidWrite, markInvoicePaid, bind_eq_ok, pure_eq_ok] at done
  obtain ⟨mid, ⟨p, _, written⟩, o, _, rfl⟩ := done
  have first : Stranded cart mid := by
    split at written
    · rw [pure_eq_ok] at written
      exact written ▸ stranded
    · simp only [bind_eq_ok, pure_eq_ok] at written
      obtain ⟨_, _, rfl⟩ := written
      exact stranded.of_tables rfl rfl
  split
  · exact first
  · exact first.of_tables rfl rfl

theorem Stranded.released {scan : Scan} {cutoff : Time} (stranded : Stranded cart db)
    (done : releaseExpiredBatch scan cutoff db = .ok db') : Stranded cart db' := by
  have gave := releaseEach_gives done
  have other : ∀ r ∈ (scan.order (expired cutoff db)).take 100, r.cart ≠ cart := by
    intro r inside mine
    obtain ⟨member, late⟩ := List.mem_filter.mp ((scan.perm _).mem_iff.mp (List.mem_of_mem_take inside))
    simp only [Bool.and_eq_true, beq_iff_eq] at late
    exact stranded.unreserved r member mine late.1
  obtain ⟨c, member, named, held⟩ := stranded.held
  refine ⟨⟨c, ?_, named, held⟩, fun r' there mine => ?_⟩
  · rw [gave.carts]
    refine List.mem_map.mpr ⟨c, member, if_neg fun picked => ?_⟩
    simp only [Bool.and_eq_true, List.contains_iff_mem, List.mem_map] at picked
    obtain ⟨⟨r, inside, same⟩, _⟩ := picked
    exact other r inside (same.trans named)
  · rw [gave.reservations] at there
    obtain ⟨r, inside, rfl⟩ := List.mem_map.mp there
    unfold Table.updated at mine ⊢
    split
    · simp
    next kept =>
      rw [if_neg kept] at mine
      exact stranded.unreserved r inside mine

end Blocks

section Advancing

variable {settings : Settings} {req : Request} {oracle : Oracle} {db db' : Db} {pc pc' : Pc} {log : List GatewayCall}
  {cart : Id}

theorem Stranded.advanced (stranded : Stranded cart db) (taken : advance settings req oracle db pc = (pc', db', log))
    (apart : pc.cart? ≠ some cart) : Stranded cart db' := by
  cases pc with
  | find | validate _ | resolve _ | authorize _ _ | captureRead _ _ | capture _ _ =>
    simp only [advance] at taken
    split at taken <;> cases taken <;> exact stranded
  | lock =>
    simp only [advance] at taken
    split at taken <;> cases taken
    next done => exact stranded.locked (guard_ok done)
    · exact stranded
  | reserve view =>
    simp only [advance] at taken
    split at taken <;> cases taken
    next done => exact stranded.reserved (guard_ok done) fun same => apart (congrArg some same)
    · exact stranded
  | create view reservations =>
    simp only [advance] at taken
    split at taken <;> cases taken
    next done =>
      have frame := (createOrder_creates (guard_ok done)).frame
      exact stranded.of_tables (by rw [frame]) (by rw [frame])
    · exact stranded
  | invoice placed | insertPayment placed config =>
    simp only [advance] at taken
    split at taken <;> cases taken
    next done =>
      have frame := (createPayment_grows (guard_ok done)).1
      exact stranded.of_tables (by rw [frame]) (by rw [frame])
    · exact stranded
  | convertInvoiced placed payment =>
    simp only [advance] at taken
    split at taken <;> cases taken
    next done => exact stranded.invoiced (guard_ok done) fun same => apart (congrArg some same)
    · exact stranded
  | recordError placed payment e =>
    simp only [advance] at taken
    split at taken <;> cases taken
    next done =>
      have written := Except.ok.inj (guard_ok done)
      exact stranded.of_tables (congrArg Db.carts written).symm (congrArg Db.reservations written).symm
    · exact stranded
  | recordResult placed payment intent =>
    simp only [advance] at taken
    split at taken
    next done =>
      obtain ⟨_, written⟩ := recordPaymentResult_eq_ok.mp (guard_ok done)
      have same := stranded.of_tables (congrArg Db.carts written).symm (congrArg Db.reservations written).symm
      split at taken <;> cases taken <;> exact same
    · cases taken
      exact stranded
  | convert placed payment =>
    simp only [advance] at taken
    split at taken <;> cases taken
    next done => exact stranded.committed (guard_ok done) fun same => apart (congrArg some same)
    · exact stranded
  | captureWrite placed row intent =>
    simp only [advance] at taken
    split at taken <;> cases taken
    next done =>
      have written := Except.ok.inj (guard_ok done)
      exact stranded.of_tables (congrArg Db.carts written).symm (congrArg Db.reservations written).symm
    · exact stranded
  | paid placed payment =>
    simp only [advance] at taken
    split at taken <;> cases taken
    next done =>
      have saved : Stranded cart (db.saveOrderStatus placed.order.id .paid) := stranded.of_tables rfl rfl
      exact saved.settled (settleReservations_settled (markCaptured_eq_ok.mp (guard_ok done)).2)
    · exact stranded
  | undo todo other frame e =>
    cases todo with
    | nil => cases taken; exact stranded
    | cons action rest =>
      simp only [advance] at taken
      split at taken <;> cases taken
      next done => exact stranded.undone (guard_ok done) fun same => apart (congrArg some same)
      · exact stranded
  | done frame result | crashed todo frame e => cases taken; exact stranded

end Advancing

section Events

variable {settings : Settings} {lib : WebhookLibrary} {s s' : Sys} {cart : Id}

theorem Stranded.step {l : Label} (stranded : Stranded cart s.db) (taken : step settings lib s l = some s')
    (receptive : s.db.Receptive) (edits : l.editsCarts = false)
    (apart : ∀ i oracle call, l = .advance i oracle → s.calls i = some call → call.pc.cart? ≠ some cart) :
    Stranded cart s'.db := by
  cases l with
  | shop tables => cases edits
  | tick seconds | sweep =>
    cases taken
    exact stranded
  | createProduct tenant id data =>
    obtain ⟨db', done, rfl⟩ := commits_eq_some taken
    have frame := createProduct_frame done
    exact stranded.of_tables (by rw [frame]; rfl) (by rw [frame]; rfl)
  | patchProduct tenant product data =>
    obtain ⟨db', done, rfl⟩ := commits_eq_some taken
    have frame := patchProduct_frame done
    exact stranded.of_tables (by rw [frame]; rfl) (by rw [frame]; rfl)
  | deactivateProduct tenant product =>
    obtain ⟨db', done, rfl⟩ := commits_eq_some taken
    have frame := deactivateProduct_frame done
    exact stranded.of_tables (by rw [frame]; rfl) (by rw [frame]; rfl)
  | begin | receive | markPaidRead | refundRead | refundCall =>
    simp only [Storefront.step] at taken
    split at taken <;> cases taken
    exact stranded
  | refundWrite k =>
    simp only [Storefront.step] at taken
    split at taken <;> cases taken
    exact stranded.of_tables rfl rfl
  | advance i oracle =>
    simp only [Storefront.step] at taken
    split at taken
    · cases taken
    next call at_i =>
      split at taken <;> cases taken
      exact stranded.advanced rfl (apart i oracle call rfl at_i)
  | cancelOrder tenant customer order =>
    obtain ⟨db', done, rfl⟩ := commits_eq_some taken
    exact stranded.withdrawn done
  | process k =>
    simp only [Storefront.step] at taken
    split at taken
    next task queued =>
      obtain ⟨db', done, rfl⟩ := commits_eq_some taken
      rcases processWebhookEvent_cases done with unchanged | applied
      · exact unchanged ▸ stranded
      · exact stranded.applied receptive applied
    · cases taken
  | reconcile payment answer =>
    simp only [Storefront.step] at taken
    split at taken
    · obtain ⟨db', done, rfl⟩ := commits_eq_some taken
      obtain ⟨⟨outcome, _⟩, reconciled, rfl⟩ := map_eq_ok.mp done
      exact stranded.spared (reconcileOne_spares receptive reconciled)
    · cases taken
  | expire scan cutoff =>
    simp only [Storefront.step] at taken
    split at taken
    · obtain ⟨db', done, rfl⟩ := commits_eq_some taken
      exact stranded.released done
    · cases taken
  | markPaidWrite k =>
    simp only [Storefront.step] at taken
    split at taken
    next mark listed =>
      obtain ⟨db', done, rfl⟩ := commits_eq_some taken
      exact stranded.marked done
    · cases taken

theorem Stranded.event {e : Event} (stranded : Stranded cart s.db) (taken : shop settings lib s e = some s')
    (receptive : s.db.Receptive)
    (apart : ∀ i oracle call, e = .run (.advance i oracle) → s.calls i = some call → call.pc.cart? ≠ some cart) :
    Stranded cart s'.db := by
  have aside (spares : e.spares 0 cart s = true) (away : ∀ l, e ≠ .run l) : Stranded cart s'.db := by
    rcases shop_edits taken with ⟨l, rfl, _⟩ | ⟨db', rfl, frame⟩
    · exact absurd rfl (away l)
    · obtain ⟨c, member, named, held⟩ := stranded.held
      refine ⟨shop_keeps_checkout taken spares (fun oracle => away _) member named held, ?_⟩
      have reservations : db'.reservations = s.db.reservations := by rw [frame]; rfl
      rw [Sys.withDb, reservations]
      exact stranded.unreserved
  cases e with
  | run l =>
    cases shop_cases taken with
    | run edits stepped =>
      exact stranded.step stepped receptive edits fun i oracle call same => apart i oracle call (congrArg _ same)
  | _ => exact aside rfl fun _ same => by cases same

theorem Stranded.apart {e : Event} (stranded : Stranded cart s.db) (taken : shop settings lib s e = some s') {j : Nat}
    (apart : ∀ call, s.calls j = some call → call.pc.cart? ≠ some cart) :
    ∀ call, s'.calls j = some call → call.pc.cart? ≠ some cart := by
  intro call at_j held
  rcases shop_edits taken with ⟨l, rfl, _, stepped⟩ | ⟨db', rfl, _⟩
  · rcases step_calls stepped at_j with same | ⟨_, fresh⟩ | ⟨oracle, pc, _, before, _, moved⟩
    · exact apart call same held
    · rw [fresh] at held
      cases held
    · rcases advance_cart (Prod.ext moved.symm rfl) held with earlier | ⟨view, _, done, named⟩
      · exact apart _ before earlier
      · obtain ⟨c, member, mine, held⟩ := stranded.held
        obtain ⟨present, _, _, open_⟩ := activeCart_some (lockCart_view done).active
        rw [s.db.carts.eq_of_key member present (mine.trans named.symm), open_] at held
        cases held
  · exact apart call at_j held

-- Only its own blocks move a call on.
theorem step_waits {l : Label} (taken : Storefront.step settings lib s l = some s') {i : Nat} {call : Call}
    (at_i : s.calls i = some call) (dead : ∀ oracle, l ≠ .advance i oracle) : s'.calls i = some call := by
  cases l with
  | begin j req =>
    simp only [Storefront.step] at taken
    split at taken
    next free =>
      cases taken
      have other : i ≠ j := by
        rintro rfl
        rw [free] at at_i
        cases at_i
      exact (Function.update_of_ne other _ _).trans at_i
    · cases taken
  | advance j oracle =>
    simp only [Storefront.step] at taken
    split at taken
    · cases taken
    · split at taken <;> cases taken
      have other : i ≠ j := fun same => dead oracle (congrArg (Label.advance · oracle) same.symm)
      exact (Function.update_of_ne other _ _).trans at_i
  | tick seconds | shop tables | sweep =>
    cases taken
    exact at_i
  | createProduct | patchProduct | deactivateProduct | cancelOrder =>
    obtain ⟨db', _, rfl⟩ := commits_eq_some taken
    exact at_i
  | receive | markPaidRead | refundRead | refundCall | refundWrite =>
    simp only [Storefront.step] at taken
    split at taken <;> cases taken
    exact at_i
  | process | reconcile | expire | markPaidWrite =>
    simp only [Storefront.step] at taken
    split at taken
    · obtain ⟨db', _, rfl⟩ := commits_eq_some taken
      exact at_i
    · cases taken

theorem shop_waits {e : Event} (taken : shop settings lib s e = some s') {i : Nat} {call : Call}
    (at_i : s.calls i = some call) (dead : ∀ oracle, e ≠ .run (.advance i oracle)) : s'.calls i = some call := by
  rcases shop_edits taken with ⟨l, rfl, _, stepped⟩ | ⟨_, rfl, _⟩
  · exact step_waits stepped at_i fun oracle same => dead oracle (congrArg _ same)
  · exact at_i

/-- A call has locked its cart and reserved nothing, and nobody else can free the cart. -/
structure Sys.Strands (s : Sys) (i : Nat) (view : CartView) : Prop where
  locked : ∃ call, s.calls i = some call ∧ call.pc.locked? = some view
  stranded : Stranded view.cart.id s.db
  alone : ∀ j ≠ i, ∀ call, s.calls j = some call → call.pc.cart? ≠ some view.cart.id

/-- A cart whose worker died before it reserved anything stays under checkout, whatever happens. -/
theorem dead_checkout_strands_cart (settings : Settings) (lib : WebhookLibrary) {s₀ : Sys}
    {earlier later : List (Move Sys Event)} (run : (storefront settings lib).Run s₀ earlier s)
    (on : (storefront settings lib).Run s₀ (earlier ++ later) s') {i : Nat}
    (dead : ∀ move ∈ later, ∀ oracle, move.label ≠ .run (.advance i oracle)) {view : CartView}
    (strands : s.Strands i view) : s'.Strands i view := by
  induction later using List.reverseRecOn generalizing s' with
  | nil =>
    rw [List.append_nil] at on
    exact on.end_unique run ▸ strands
  | append_singleton later move ih =>
    rw [← List.append_assoc] at on
    obtain ⟨before, taken, rfl⟩ := on.append_end
    obtain ⟨⟨call, at_i, locked⟩, still, others⟩ := ih before fun m member => dead m (List.mem_append_left _ member)
    have away (oracle : Oracle) : move.label ≠ .run (.advance i oracle) := dead move (by simp) oracle
    refine ⟨⟨call, shop_waits taken at_i away, locked⟩, ?_, fun j other => still.apart taken (others j other)⟩
    refine still.event taken (Run.receptive before) fun j oracle call same at_j => others j ?_ call at_j
    rintro rfl
    exact away oracle same

end Events

section Orders

variable {settings : Settings} {lib : WebhookLibrary} {s s' : Sys} {i : Nat} {req : Request} {pc : Pc} {o : Order}

theorem cancelOrder_own {tenant customer order : Id} {db db' : Db} (done : cancelOrder tenant customer order db = .ok db') :
    ∃ o ∈ db.orders.rows, o.id = order ∧ o.tenant = tenant ∧ o.customer = customer := by
  simp only [cancelOrder, bind_eq_ok, orRaise_eq_ok] at done
  obtain ⟨o, found, _⟩ := done
  have named := List.find?_some found
  simp only [Bool.and_eq_true, beq_iff_eq] at named
  exact ⟨o, List.mem_of_find?_eq_some found, named.2, named.1.1, named.1.2⟩

theorem Change.orphan {l : Label} {db' : Db} (change : Change lib s l db') (kept : s.Kept)
    (at_i : s.calls i = some ⟨req, pc⟩) (mine : o ∈ pc.frame.order) (unbilled : pc.frame.payment = none)
    (dead : ∀ oracle, l ≠ .advance i oracle) : db'.orderStatus o.id = s.db.orderStatus o.id ∨
      l = .cancelOrder o.tenant o.customer o.id ∧ db'.orderStatus o.id = some .cancelled := by
  obtain ⟨owned, invoiced⟩ := kept
  have claimed : pc.claim.orderId = some o.id := by
    simp [Pc.claim, Frame.claim, Claim.orderId, Option.mem_def.mp mine, Order.core]
  obtain ⟨row, present, core⟩ : ∃ row ∈ s.db.orders.rows, row.core = o.core := by
    have order : pc.claim.order = some o.core := by simp [Pc.claim, Frame.claim, Option.mem_def.mp mine]
    exact List.mem_map.mp ((owned.registered i _ at_i).order_mem order)
  have named : row.id = o.id := congrArg OrderCore.id core
  have unpaid {p : Payment} (member : p ∈ s.db.payments.rows) : p.order ≠ o.id := by
    intro same
    obtain ⟨billed, known, _⟩ := (owned.billed at_i mine member).mp same
    rw [unbilled] at known
    cases known
  have others {j : Nat} {oracle : Oracle} {call : Call} (moves : l = .advance j oracle) (at_j : s.calls j = some call) :
      call.pc.claim.orderId ≠ some o.id := by
    have distinct : i ≠ j := by
      rintro rfl
      exact dead oracle moves
    exact (owned.apart i j _ _ at_i at_j distinct).orders o.id claimed
  have still {f : Order → OrderStatus} {g : Payment → PaymentStatus} {h : InventoryReservation → ReservationStatus}
      (touch : Touch s.db db' f g h) (same : f row = row.status) : db'.orderStatus o.id = s.db.orderStatus o.id := by
    rw [← named, touch.orderStatus present, Db.orderStatus_of_mem present, same]
  have elsewhere {id : Id} {next : OrderStatus → OrderStatus} {g : Payment → PaymentStatus}
      {h : InventoryReservation → ReservationStatus} (touch : Touch s.db db' (OrderStatus.at id next) g h)
      (other : id ≠ o.id) : db'.orderStatus o.id = s.db.orderStatus o.id :=
    still touch (if_neg fun same => other (same.symm.trans named))
  cases change with
  | frees frees =>
    obtain ⟨_, touch, _⟩ := frees
    exact .inl (still touch rfl)
  | stocked new orders => exact .inl (by rw [Db.orderStatus, orders]; rfl)
  | ordered j oracle order items rows =>
    have kept : row ∈ db'.orders.rows := by rw [rows]; exact List.mem_append_left _ present
    exact .inl (by rw [← named, Db.orderStatus_of_mem kept, Db.orderStatus_of_mem present])
  | billed j oracle req pc placed row at_j bills filed rows orders => exact .inl (by rw [Db.orderStatus, orders]; rfl)
  | linked j oracle req pc placed h at_j converts links =>
    obtain ⟨row', there, same, _, _, status⟩ := links.order_kept present
    have after := Db.orderStatus_of_mem there
    rw [same, status, named] at after
    exact .inl (after.trans (named ▸ (Db.orderStatus_of_mem present).symm))
  | recorded j oracle req placed payment intent at_j done =>
    exact .inl (still (recordPaymentResult_touch (guard_ok done)) rfl)
  | captured => exact .inl (still (captureWrite_touch _ _ _ _) rfl)
  | paid j oracle req placed payment at_j done =>
    exact .inl (elsewhere (markCaptured_touch (guard_ok done)) fun same => others rfl at_j (congrArg some same))
  | cancelledOwn j oracle req rest cart frame e order at_j known done =>
    refine .inl (elsewhere (cancelOwnOrder_touch (guard_ok done)) fun same => others rfl at_j ?_)
    simp [Pc.claim, Pc.frame, Frame.claim, Claim.orderId, known, Order.core, same]
  | cancelled tenant customer order done =>
    rcases cancelOrder_touch done with same | ⟨_, _, _, _, _, _, touch, _⟩
    · exact .inl (by rw [same])
    · by_cases own : order = o.id
      · obtain ⟨row', found, id, rfl, rfl⟩ := cancelOrder_own done
        obtain rfl := s.db.orders.eq_of_key found present (id.trans (own.trans named.symm))
        refine .inr ⟨?_, ?_⟩
        · rw [own, show row'.tenant = o.tenant from congrArg OrderCore.tenant core,
            show row'.customer = o.customer from congrArg OrderCore.customer core]
        rw [← named, touch.orderStatus present]
        simp [OrderStatus.at, named, own]
      · exact .inl (elsewhere touch own)
  | applied k task queued done =>
    obtain ⟨p, member, _, _, o', _, linked, _, touch⟩ := applyWebhookEvent_touch done
    exact .inl (elsewhere touch fun same => unpaid member (linked.symm.trans same))
  | reconciled payment answer outcome done =>
    rcases reconcileOne_touch done with ⟨same, _⟩ | ⟨p, member, _, _, status, _, _, either⟩
    · exact .inl (by rw [same])
    · rcases either with ⟨_, _, _, touch⟩ | ⟨o', _, linked, touch⟩
      · exact .inl (still touch rfl)
      · exact .inl (elsewhere touch fun same => unpaid member (linked.symm.trans same))
  | marked k mark listed done =>
    obtain ⟨_, _, _, _, _, _, _, _, touch⟩ := markPaidWrite_touch done
    obtain ⟨q, inside, _, filed, _⟩ := invoiced.marks mark (List.mem_of_getElem? listed)
    exact .inl (elsewhere touch fun same => unpaid inside (filed.trans same))
  | refunded => exact .inl (still (refundWrite_touch _ _ _ _) rfl)

/-- An order whose worker died before its payment was written is never paid: it waits, or its customer cancels it. -/
theorem dead_checkout_strands_order (settings : Settings) (lib : WebhookLibrary) {s₀ : Sys}
    {earlier later : List (Move Sys Event)} (run : (storefront settings lib).Run s₀ earlier s)
    (on : (storefront settings lib).Run s₀ (earlier ++ later) s') (at_i : s.calls i = some ⟨req, pc⟩)
    (dead : ∀ move ∈ later, ∀ oracle, move.label ≠ .run (.advance i oracle)) (mine : o ∈ pc.frame.order)
    (unbilled : pc.frame.payment = none) (pending : s.db.orderStatus o.id = some .pending) :
    s'.db.orderStatus o.id = some .pending ∨ s'.db.orderStatus o.id = some .cancelled ∧
      ∃ move ∈ later, move.label = .run (.cancelOrder o.tenant o.customer o.id) := by
  suffices s'.calls i = some ⟨req, pc⟩ ∧ (s'.db.orderStatus o.id = some .pending ∨
      s'.db.orderStatus o.id = some .cancelled ∧
        ∃ move ∈ later, move.label = .run (.cancelOrder o.tenant o.customer o.id)) from this.2
  induction later using List.reverseRecOn generalizing s' with
  | nil =>
    rw [List.append_nil] at on
    exact on.end_unique run ▸ ⟨at_i, .inl pending⟩
  | append_singleton later move ih =>
    rw [← List.append_assoc] at on
    obtain ⟨before, taken, rfl⟩ := on.append_end
    obtain ⟨waits, status⟩ := ih before fun m member => dead m (List.mem_append_left _ member)
    have away (oracle : Oracle) : move.label ≠ .run (.advance i oracle) := dead move (by simp) oracle
    have moved : move.after.db.orderStatus o.id = move.before.db.orderStatus o.id ∨
        move.label = .run (.cancelOrder o.tenant o.customer o.id) ∧
          move.after.db.orderStatus o.id = some .cancelled := by
      rcases shop_edits taken with ⟨l, named, _, stepped⟩ | ⟨db', same, frame⟩
      · obtain ⟨_, within⟩ := Run.running before
        have kept : move.before.Kept := @Machine.Run.invariant _ _ _ Sys.Kept (fun _ initial => .start initial)
          (fun _ _ _ kept stepped => Sys.Kept.step kept stepped) _ _ _ within
        have dead (oracle : Oracle) : l ≠ .advance i oracle := by
          rintro rfl
          exact away oracle named
        rcases (step_change stepped).orphan kept waits mine unbilled dead with stays | ⟨rfl, closed⟩
        · exact .inl stays
        · exact .inr ⟨named, closed⟩
      · rw [same]
        have orders : db'.orders = move.before.db.orders := by rw [frame]; rfl
        exact .inl (by rw [Db.orderStatus, Sys.withDb, orders]; rfl)
    refine ⟨shop_waits taken waits away, ?_⟩
    rcases moved with stays | ⟨named, closed⟩
    · rw [stays]
      rcases status with waiting | ⟨closed, cancel, member, by_customer⟩
      · exact .inl waiting
      · exact .inr ⟨closed, cancel, List.mem_append_left _ member, by_customer⟩
    · exact .inr ⟨closed, move, by simp, named⟩

end Orders

namespace Sample

-- The worker dies with the cart locked; the customer goes on shopping, and the sweep comes by.
def locking : List Event := filling ++ calling [.find, .lock]

def afterLocking : List Event :=
  [.shopper 1 10 (.addItem 30 1) (90 + ·), .run (.tick 100000), .run (.expire .plain 100000)]

def lost : Sys := (floor.exec opening locking).get (by decide +kernel)
def longLost : Sys := (floor.exec lost afterLocking).get (by decide +kernel)

theorem locking_runs : floor.exec opening locking = some lost := (Option.some_get _).symm
theorem afterLocking_runs : floor.exec lost afterLocking = some longLost := (Option.some_get _).symm

def lostView : CartView := ((lost.calls 0).bind fun call => call.pc.locked?).get (by decide +kernel)

theorem lost_locked : ∃ call, lost.calls 0 = some call ∧ call.pc.locked? = some lostView :=
  Option.bind_eq_some_iff.mp (Option.some_get _).symm

theorem lost_stranded : Stranded lostView.cart.id lost.db where
  held := by unfold Db.CheckingOut; decide +kernel
  unreserved := by decide +kernel

theorem lost_alone : ∀ j ≠ 0, lost.calls j = none := by
  refine @Machine.exec_keeps _ _ floor (fun s => ∀ j ≠ 0, s.calls j = none) _ ?_ _ _ locking_runs
    fun j _ => opening_opens.calls j
  intro e member s s' idle taken j other
  cases at_j : s'.calls j with
  | none => rfl
  | some call =>
    rcases shop_edits taken with ⟨l, rfl, _, stepped⟩ | ⟨db', rfl, _⟩
    · rcases step_calls stepped at_j with same | ⟨begun, _⟩ | ⟨_, pc, _, before, _⟩
      · exact (Option.some_ne_none _ (same.symm.trans (idle j other))).elim
      · rw [begun] at member
        simp [locking, filling, calling, blocks, shopper] at member
        exact absurd member.1 other
      · exact (Option.some_ne_none _ (before.symm.trans (idle j other))).elim
    · exact (Option.some_ne_none _ (at_j.symm.trans (idle j other))).elim

-- The worker dies before the payment; the customer gives up.
def placed : List Event := filling ++ calling placing

def afterPlaced : List Event :=
  [.run (.tick 100000), .run (.expire .plain 100000), .run .sweep, .run (.cancelOrder 1 10 200)]

def unpaid : Sys := (floor.exec opening placed).get (by decide +kernel)
def longUnpaid : Sys := (floor.exec unpaid afterPlaced).get (by decide +kernel)

theorem placed_runs : floor.exec opening placed = some unpaid := (Option.some_get _).symm
theorem afterPlaced_runs : floor.exec unpaid afterPlaced = some longUnpaid := (Option.some_get _).symm

def unpaidCall : Call := (unpaid.calls 0).get (by decide +kernel)
def unpaidOrder : Order := unpaidCall.pc.frame.order.get (by decide +kernel)

theorem unpaid_called : unpaid.calls 0 = some ⟨unpaidCall.req, unpaidCall.pc⟩ := (Option.some_get _).symm
theorem unpaidOrder_placed : unpaidOrder ∈ unpaidCall.pc.frame.order := (Option.some_get _).symm

end Sample

theorem dead_checkout_strands_cart_lost : Sample.longLost.Strands 0 Sample.lostView := by
  obtain ⟨_, run⟩ := Machine.exec_run Sample.opening_opens Sample.locking_runs
  obtain ⟨later, on, named⟩ := run.of_exec_labels Sample.afterLocking_runs
  have dead : ∀ move ∈ later, ∀ oracle, move.label ≠ .run (.advance 0 oracle) := by
    intro move member oracle same
    have listed : move.label ∈ Sample.afterLocking := named ▸ List.mem_map_of_mem member
    rw [same] at listed
    simp [Sample.afterLocking] at listed
  refine dead_checkout_strands_cart Sample.settings Sample.library run on dead
    ⟨Sample.lost_locked, Sample.lost_stranded, ?_⟩
  intro j other call at_j
  rw [Sample.lost_alone j other] at at_j
  cases at_j

theorem dead_checkout_strands_order_unpaid : ∃ earlier later,
    Sample.floor.Run Sample.opening (earlier ++ later) Sample.longUnpaid ∧
    (Sample.longUnpaid.db.orderStatus Sample.unpaidOrder.id = some .pending ∨
      Sample.longUnpaid.db.orderStatus Sample.unpaidOrder.id = some .cancelled ∧ ∃ move ∈ later,
        move.label = .run (.cancelOrder Sample.unpaidOrder.tenant Sample.unpaidOrder.customer Sample.unpaidOrder.id)) := by
  obtain ⟨earlier, run⟩ := Machine.exec_run Sample.opening_opens Sample.placed_runs
  obtain ⟨later, on, named⟩ := run.of_exec_labels Sample.afterPlaced_runs
  have dead : ∀ move ∈ later, ∀ oracle, move.label ≠ .run (.advance 0 oracle) := by
    intro move member oracle same
    have listed : move.label ∈ Sample.afterPlaced := named ▸ List.mem_map_of_mem member
    rw [same] at listed
    simp [Sample.afterPlaced] at listed
  refine ⟨earlier, later, on, ?_⟩
  exact dead_checkout_strands_order Sample.settings Sample.library run on Sample.unpaid_called dead
    Sample.unpaidOrder_placed (by decide +kernel) (by decide +kernel)

end Storefront
