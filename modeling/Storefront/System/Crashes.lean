import Storefront.Relational.Parts
import Storefront.System.CartHolds
import Storefront.System.ExpirySweep
import Storefront.System.Sweeps

set_option autoImplicit false

/-!
# A worker that dies inside a checkout

The phases of the checkout commit separately. What a dead worker leaves is up to the two
sweeps. The expiry sweep finds a cart by its expired reservations, and reconciliation
finds an order by its PENDING payment.
-/

namespace Storefront

open Relational Transition

/-- The gateway still reports the order's payment as pending. -/
def Db.Awaits (db : Db) (answer : Id → Except Exn (Option PaymentIntent)) (order : Id) : Prop :=
  ∃ p ∈ db.payments.rows, p.order = order ∧ p.gateway_transaction_id ≠ "" ∧
    ∃ intent, answer p.id = .ok (some intent) ∧ intent.status = .pending

/-- A payment whose reconciliation moves its order. -/
def Payment.Closes (db : Db) (answer : Except Exn (Option PaymentIntent)) (p : Payment) : Prop :=
  p.stays db answer = false ∧ ∃ status, reconciledStatus p answer = some status ∧
    (status = .captured ∨ status = .failed ∨ status = .cancelled)

section Sweeping

variable {scan : Scan} {now : Time} {db db' : Db}

theorem releaseExpiredLoop_gives {fuel : Nat} (ends : releaseExpiredLoop scan now fuel db = (db', .ok ()))
    (enough : (expired now db).length ≤ 100 * fuel) : GaveBack (expired now db) db db' := by
  induction fuel generalizing db with
  | zero =>
    have none : expired now db = [] := List.eq_nil_of_length_eq_zero (by omega)
    cases ends
    rw [none]
    exact .refl _
  | succ fuel ih =>
    unfold releaseExpiredLoop at ends
    split at ends
    next none =>
      cases ends
      rw [none]
      exact .refl _
    next some =>
      cases batch : releaseExpiredBatch scan now db with
      | error e =>
        rw [batch] at ends
        cases ends
      | ok mid =>
        rw [batch] at ends
        have left := releaseExpiredBatch_leaves batch
        have fewer : (expired now mid).length = (expired now db).length - 100 := by
          rw [left.length_eq, List.length_drop, (scan.perm _).length_eq]
        have whole := left.append_left ((scan.order (expired now db)).take 100)
        rw [List.take_append_drop] at whole
        exact ((releaseEach_gives batch).trans (ih ends (by omega))).perm (whole.trans (scan.perm _))

/-- Whatever it met, a sweep that ends without an error does exactly what it is for. -/
theorem ended_swept (ends : releaseExpiredReservations scan now db = (db', .ok ())) : Swept now db db' :=
  (releaseExpiredLoop_gives ends (by omega)).swept

end Sweeping

section Reconciling

variable {db last : Db} {answer : Id → Except Exn (Option PaymentIntent)} {now : Time}

structure Spares (db last : Db) : Prop where
  carts : last.carts = db.carts
  active : ∀ r ∈ last.reservations.rows, r.status = .active → r ∈ db.reservations.rows
  unlinked : ∀ r ∈ db.reservations.rows, r.order = none → r ∈ last.reservations.rows

theorem Spares.of_tables {db last : Db} (carts : last.carts = db.carts)
    (reservations : last.reservations = db.reservations) : Spares db last :=
  ⟨carts, fun _ member _ => reservations ▸ member, fun _ member _ => reservations ▸ member⟩

theorem Spares.trans {db mid last : Db} (first : Spares db mid) (second : Spares mid last) : Spares db last where
  carts := second.carts.trans first.carts
  active r member active := first.active r (second.active r member active) active
  unlinked r member free := second.unlinked r (first.unlinked r member free) free

theorem settlement_closes (t : Settlement) : t.becomes ≠ .active := by
  intro same
  have forward := t.forward
  rw [same] at forward
  exact absurd forward (Nat.not_lt_zero _)

theorem settleForOrder_spares {t : Settlement} {tenant order : Id} {db last : Db}
    (done : settleForOrder t tenant order db = .ok last) : Spares db last := by
  obtain ⟨settled, carts⟩ := settleForOrder_settled done
  refine ⟨carts, fun r' member active => ?_, fun r member free => ?_⟩
  · rw [settled.rows] at member
    obtain ⟨r, inside, rfl⟩ := List.mem_map.mp member
    unfold Table.updated at active ⊢
    split at active
    · exact absurd active (settlement_closes t)
    next kept =>
      rw [if_neg kept]
      exact inside
  · rw [settled.rows]
    exact List.mem_map.mpr ⟨r, member, by simp [Table.updated, ofOrder, free]⟩

structure Reconciled (answer : Id → Except Exn (Option PaymentIntent)) (payments : List Id) (db last : Db) : Prop where
  spares : Spares db last
  orders : ∀ id, last.orderStatus id = some .pending ↔ db.orderStatus id = some .pending ∧
    ¬ ∃ p ∈ db.pendingPayments, p.id ∈ payments ∧ p.order = id ∧ p.Closes db (answer p.id)
  awaits : ∀ id, last.Awaits answer id ↔ db.Awaits answer id

-- The carts of orders are converted, and a revert that finds none under checkout writes nothing.
theorem revertCartIfCheckingOut_carts {order : Order} {db' : Db}
    (converted : ∀ cart, order.cart = some cart → db.ConvertedCart cart)
    (done : revertCartIfCheckingOut order db = .ok db') : db'.carts = db.carts := by
  unfold revertCartIfCheckingOut at done
  cases linked : order.cart with
  | none =>
    rw [linked] at done
    cases done
    rfl
  | some cart =>
    rw [linked] at done
    obtain ⟨carts, updated, rfl⟩ := stored_eq_ok.mp done
    obtain ⟨row, member, named, final⟩ := converted cart linked
    refine Table.ext_rows ((Table.update_rows updated).trans (Table.map_updated_out fun c inside => ?_))
    by_contra picked
    simp only [Bool.not_eq_false, Bool.and_eq_true, beq_iff_eq] at picked
    rw [db.carts.eq_of_key inside member (picked.1.trans named.symm), final] at picked
    cases picked.2

theorem applyOrderPaid_spares {tenant : Id} {order : Order} {db' : Db}
    (done : applyOrderPaid tenant order db = .ok db') : Spares db db' := by
  have paid : Spares db (db.saveOrderStatus order.id .paid) := .of_tables rfl rfl
  unfold applyOrderPaid at done
  split at done
  · exact paid.trans (settleForOrder_spares done)
  · cases done
    exact .of_tables rfl rfl

theorem applyOrderCancelled_spares {tenant : Id} {order : Order} {db' : Db} (receptive : db.Receptive)
    (present : order ∈ db.orders.rows) (done : applyOrderCancelled tenant order db = .ok db') : Spares db db' := by
  have cancelled : Spares db (db.saveOrderStatus order.id .cancelled) := .of_tables rfl rfl
  unfold applyOrderCancelled at done
  split at done
  · obtain ⟨mid, released, reverted⟩ := bind_eq_ok.mp done
    have spares := cancelled.trans (settleForOrder_spares released)
    have carts := revertCartIfCheckingOut_carts (fun cart linked => ?_) reverted
    · have reservations : db'.reservations = mid.reservations := by
        unfold revertCartIfCheckingOut at reverted
        split at reverted
        · cases reverted
          rfl
        · obtain ⟨_, _, rfl⟩ := stored_eq_ok.mp reverted
          rfl
      exact spares.trans (.of_tables carts reservations)
    · unfold Db.ConvertedCart
      rw [spares.carts]
      exact receptive.linked order present cart linked
  · cases done
    exact .of_tables rfl rfl

theorem reconcileOne_spares {payment : Id} {intent : Except Exn (Option PaymentIntent)} {outcome : ReconcileOutcome}
    (receptive : db.Receptive) (done : reconcileOne payment intent now db = .ok (outcome, last)) : Spares db last := by
  have stored {p : Payment} {status : PaymentStatus} {note : String} {value : Json} :
      Spares db (storeReconciled p.id status note value now db) := .of_tables rfl rfl
  have closing {p : Payment} {status : PaymentStatus} {note : String} {value : Json} {last : Db}
      (marked : markOrderCancelledAndRelease p.tenant p.order (storeReconciled p.id status note value now db) =
        .ok last) : Spares db last := by
    have still := receptive.touched (storeReconciled_touch p.id status note value now db) (.of_tables rfl rfl rfl)
    obtain ⟨o, found, applied⟩ := bind_eq_ok.mp marked
    exact stored.trans (applyOrderCancelled_spares still (orderUnscoped_eq_ok found).1 applied)
  unfold reconcileOne at done
  split at done
  · cases done
    exact .of_tables rfl rfl
  · split at done
    · simp only [reconcileUnknownIntent, bind_eq_ok, pure_eq_ok, Prod.mk.injEq] at done
      obtain ⟨_, marked, _, rfl⟩ := done
      exact closing marked
    · simp only [reconcileKnownIntent, bind_eq_ok] at done
      obtain ⟨_, _, _, _, rest⟩ := done
      split at rest
      · cases rest
        exact .of_tables rfl rfl
      · cases rest
        exact .of_tables rfl rfl
      · split at rest
        · cases rest
          exact .of_tables rfl rfl
        · split at rest
          · simp only [markOrderPaid, bind_eq_ok, pure_eq_ok, Prod.mk.injEq] at rest
            obtain ⟨_, ⟨_, _, applied⟩, _, rfl⟩ := rest
            exact stored.trans (applyOrderPaid_spares applied)
          · split at rest
            · simp only [bind_eq_ok, pure_eq_ok, Prod.mk.injEq] at rest
              obtain ⟨_, marked, _, rfl⟩ := rest
              exact closing marked
            · rw [pure_eq_ok, Prod.mk.injEq] at rest
              obtain ⟨_, rfl⟩ := rest
              exact stored

theorem Touch.pending_iff {a b : Db} {f : Order → OrderStatus} {g : Payment → PaymentStatus}
    {h : InventoryReservation → ReservationStatus} (touch : Touch a b f g h) {id : Id} :
    b.orderStatus id = some .pending ↔ ∃ o ∈ a.orders.rows, o.id = id ∧ f o = .pending := by
  rw [Db.orderStatus_eq_some]
  constructor
  · rintro ⟨o', there, rfl, pending⟩
    obtain ⟨o, member, core, status⟩ := touch.order_of there
    exact ⟨o, member, (congrArg OrderCore.id core).symm, status.symm.trans pending⟩
  · rintro ⟨o, member, rfl, pending⟩
    obtain ⟨o', there, core, status⟩ := touch.order member
    exact ⟨o', there, congrArg OrderCore.id core, status.trans pending⟩

theorem Db.holdStatus_eq_some {id : Id} {s : ReservationStatus} :
    db.holdStatus id = some s ↔ ∃ r ∈ db.reservations.rows, r.id = id ∧ r.status = s := by
  constructor
  · intro found
    obtain ⟨r, got, rfl⟩ := Option.map_eq_some_iff.mp found
    obtain ⟨member, named⟩ := Table.mem_of_get got
    exact ⟨r, member, named, rfl⟩
  · rintro ⟨r, member, rfl, rfl⟩
    simp [Db.holdStatus, show db.reservations.get r.id = some r from Table.get_of_mem member]

def Payment.asked (p : Payment) : Id × Id × String := (p.id, p.order, p.gateway_transaction_id)

theorem Db.awaits_iff {id : Id} : db.Awaits answer id ↔ ∃ row ∈ db.payments.rows.map Payment.asked,
    row.2.1 = id ∧ row.2.2 ≠ "" ∧ ∃ intent, answer row.1 = .ok (some intent) ∧ intent.status = .pending := by
  simp [Db.Awaits, Payment.asked]

theorem Moves.awaits {payment : Id} {status : PaymentStatus} (moved : Moves payment status now db last) (id : Id) :
    last.Awaits answer id ↔ db.Awaits answer id := by
  obtain ⟨note, value, payments⟩ := moved.payments
  have asked : last.payments.rows.map Payment.asked = db.payments.rows.map Payment.asked := by
    rw [payments]
    exact Table.map_updated _ _ _ _ fun _ _ _ => rfl
  rw [Db.awaits_iff, Db.awaits_iff, asked]

theorem reconcileTarget_pending_iff {status : PaymentStatus} {s : OrderStatus} :
    reconcileTarget status s = .pending ↔
      s = .pending ∧ ¬ (status = .captured ∨ status = .failed ∨ status = .cancelled) := by
  cases status <;> cases s <;> decide

theorem reconcileOne_idle {payment : Id} {intent : Except Exn (Option PaymentIntent)}
    (stay : ∀ q ∈ db.pendingPayments, q.id = payment → q.stays db intent = true) :
    rolledBack db (Prod.snd <$> reconcileOne payment intent now db) = db := by
  by_cases waits : ∃ p ∈ db.pendingPayments, p.id = payment
  · obtain ⟨p, inside, rfl⟩ := waits
    obtain ⟨member, pending⟩ := List.mem_filter.mp inside
    exact reconcileOne_stays member (by simpa using pending) (stay p inside rfl)
  · have absent : db.payments.rows.find? (fun q => q.id == payment && q.status == .pending) = none := by
      refine List.find?_eq_none.mpr fun q member picked => waits ⟨q, ?_⟩
      simp only [Bool.and_eq_true, beq_iff_eq] at picked
      exact ⟨List.mem_filter.mpr ⟨member, by simp [picked.2]⟩, picked.1⟩
    rw [reconcileOne, absent]
    rfl

theorem reconcileOne_reconciled (answer : Id → Except Exn (Option PaymentIntent)) (now : Time)
    (receptive : db.Receptive) (payment : Id) :
    Reconciled answer [payment] db (rolledBack db (Prod.snd <$> reconcileOne payment (answer payment) now db)) := by
  by_cases idle : ∀ q ∈ db.pendingPayments, q.id = payment → q.stays db (answer payment) = true
  · rw [reconcileOne_idle idle]
    refine ⟨.of_tables rfl rfl, fun id => (and_iff_left ?_).symm, fun _ => .rfl⟩
    rintro ⟨q, there, named, _, closes, _⟩
    rw [List.mem_singleton.mp named, idle q there (List.mem_singleton.mp named)] at closes
    cases closes
  · simp only [not_forall, Bool.not_eq_true] at idle
    obtain ⟨p, inside, rfl, moves⟩ := idle
    obtain ⟨member, pending⟩ := List.mem_filter.mp inside
    have pending : p.status = .pending := by simpa using pending
    have only {q : Payment} (there : q ∈ db.payments.rows) (named : q.id = p.id) : q = p :=
      db.payments.eq_of_key there member named
    obtain ⟨outcome, last, _, done, _, moved⟩ := reconcileOne_moves receptive member pending moves
    rw [show rolledBack db (Prod.snd <$> reconcileOne p.id (answer p.id) now db) = last by rw [done]; rfl]
    have spares := reconcileOne_spares receptive done
    rcases reconcileOne_touch done with ⟨_, unwritten⟩ | ⟨q, there, named, _, status, written, _, touched⟩
    · have settled := unwritten p member rfl pending
      simp only [reconciledStatus, Payment.stays, Bool.and_eq_false_iff, bne_eq_false_iff_eq] at settled moves
      rcases moves with unsent | moves
      · simp [unsent] at settled
      · split at moves
        next answered =>
          simp only [answered, beq_eq_false_iff_ne.mp moves, if_false] at settled
          split at settled <;> cases settled
        · cases moves
    · obtain rfl := only there named
      have closes : q.Closes db (answer q.id) ↔ status = .captured ∨ status = .failed ∨ status = .cancelled := by
        simp [Payment.Closes, moves, written]
      rcases touched with ⟨uncaptured, unfailed, uncancelled, touch⟩ | ⟨o, present, ordered, touch⟩
      · refine ⟨spares, fun id => ?_, moved.awaits⟩
        rw [touch.pending_iff, Db.orderStatus_eq_some]
        refine (and_iff_left ?_).symm
        rintro ⟨q', there', named', _, closing⟩
        obtain rfl := only (List.mem_of_mem_filter there') (List.mem_singleton.mp named')
        simp [closes, uncaptured, unfailed, uncancelled] at closing
      · refine ⟨spares, fun id => ?_, moved.awaits⟩
        rw [touch.pending_iff, Db.orderStatus_eq_some]
        constructor
        · rintro ⟨o', inside', rfl, still⟩
          have was := OrderStatus.at_pending still fun open_ => (reconcileTarget_pending_iff.mp open_).1
          refine ⟨⟨o', inside', rfl, was⟩, ?_⟩
          rintro ⟨q', there', named', mine, closing⟩
          obtain rfl := only (List.mem_of_mem_filter there') (List.mem_singleton.mp named')
          rw [OrderStatus.at, if_pos (mine.symm.trans ordered.symm)] at still
          exact (reconcileTarget_pending_iff.mp still).2 (closes.mp closing)
        · rintro ⟨⟨o', inside', rfl, was⟩, unclosed⟩
          refine ⟨o', inside', rfl, ?_⟩
          unfold OrderStatus.at
          split
          next mine =>
            refine reconcileTarget_pending_iff.mpr ⟨was, fun closed => unclosed ⟨q, inside, ?_, ?_, closes.mpr closed⟩⟩
            · exact List.mem_singleton_self _
            · exact (mine.trans ordered).symm
          · exact was

theorem Payment.closes_congr {p : Payment} {intent : Except Exn (Option PaymentIntent)}
    (same : last.gatewayConfigs = db.gatewayConfigs) : p.Closes last intent ↔ p.Closes db intent := by
  unfold Payment.Closes
  rw [Payment.stays_congr same]

theorem reconcile_reconciled (answer : Id → Except Exn (Option PaymentIntent)) (now : Time) (receptive : db.Receptive)
    (payments : List Id) (handed : payments.foldl
      (fun db payment => rolledBack db (Prod.snd <$> reconcileOne payment (answer payment) now db)) db = last) :
    Reconciled answer payments db last := by
  induction payments generalizing db with
  | nil =>
    obtain rfl : db = last := handed
    exact ⟨.of_tables rfl rfl, fun id => by simp, fun _ => .rfl⟩
  | cons payment rest ih =>
    have first := reconcileOne_reconciled answer now receptive payment
    obtain ⟨still, configs, left⟩ := reconcileOne_handed answer now receptive payment rfl
    have second := ih still handed
    refine ⟨first.spares.trans second.spares, fun id => ?_, fun id => (second.awaits id).trans (first.awaits id)⟩
    rw [second.orders, first.orders, left, and_assoc, ← not_or]
    refine and_congr_right fun _ => not_congr ⟨?_, ?_⟩
    · rintro (⟨p, inside, named, mine, closes⟩ | ⟨p, inside, named, mine, closes⟩)
      · exact ⟨p, inside, List.mem_cons.mpr (.inl (List.mem_singleton.mp named)), mine, closes⟩
      · refine ⟨p, List.mem_of_mem_filter inside, List.mem_cons_of_mem _ named, mine, ?_⟩
        exact (Payment.closes_congr configs).mp closes
    · rintro ⟨p, inside, named, mine, closes⟩
      by_cases front : p.id = payment
      · exact .inl ⟨p, inside, List.mem_singleton.mpr front, mine, closes⟩
      · have left : p.id ∈ rest := (List.mem_cons.mp named).resolve_left front
        refine .inr ⟨p, List.mem_filter.mpr ⟨inside, by simp [front]⟩, left, mine, ?_⟩
        exact (Payment.closes_congr configs).mpr closes

end Reconciling

/-- Both sweeps, in either order. -/
inductive BothSweeps (scan : Scan) (answer : Id → Except Exn (Option PaymentIntent)) (t t' : Time) (db : Db) : Db → Prop
  | releaseFirst {released : Db} (ends : releaseExpiredReservations scan t db = (released, .ok ())) :
    BothSweeps scan answer t t' db (reconcilePendingPayments answer t' released)
  | reconcileFirst {last : Db}
    (ends : releaseExpiredReservations scan t (reconcilePendingPayments answer t' db) = (last, .ok ())) :
    BothSweeps scan answer t t' db last

/-- The sweeps can see what the call left: the cart through a reservation that has expired, the order through
its payment. -/
structure Seen (answer : Id → Except Exn (Option PaymentIntent)) (t t' : Time) (pc : Pc) (db : Db) : Prop where
  cart : ∀ id ∈ pc.cart?, db.CheckingOut id → ∃ r ∈ expired t db, r.cart = id
  order : ∀ o ∈ pc.frame.order, db.orderStatus o.id = some .pending → db.Awaits answer o.id ∨
    ∃ billed ∈ pc.frame.payment, ∃ p ∈ db.pendingPayments, p.id = billed.id ∧ p.id ∈ reconcileCandidates t' db ∧
      p.Closes db (answer p.id)

section Sweeps

variable {scan : Scan} {answer : Id → Except Exn (Option PaymentIntent)} {t t' : Time} {db mid last : Db}

theorem Swept.checkingOut (done : Swept t db mid) (id : Id) :
    mid.CheckingOut id ↔ db.CheckingOut id ∧ ¬ ∃ r ∈ expired t db, r.cart = id := by
  unfold Db.CheckingOut
  rw [done.carts]
  constructor
  · rintro ⟨c', member, rfl, held⟩
    obtain ⟨c, inside, rfl⟩ := List.mem_map.mp member
    split at held
    · cases held
    next kept =>
      rw [if_neg kept]
      exact ⟨⟨c, inside, rfl, held⟩, fun owned => kept ⟨held, owned⟩⟩
  · rintro ⟨⟨c, inside, rfl, held⟩, unowned⟩
    refine ⟨c, List.mem_map.mpr ⟨c, inside, if_neg fun picked => unowned picked.2⟩, rfl, held⟩

theorem Swept.held (done : Swept t db mid) {id : Id} (active : mid.holdStatus id = some .active) :
    ∃ r ∈ db.reservations.rows, r.id = id ∧ r.status = .active ∧ ¬ r.expires_at < t := by
  obtain ⟨r', member, named, open_⟩ := Db.holdStatus_eq_some.mp active
  rw [done.reservations] at member
  obtain ⟨r, inside, rfl⟩ := List.mem_map.mp member
  split at open_
  · cases open_
  next kept =>
    rw [if_neg kept] at named
    exact ⟨r, inside, named, open_, fun late => kept ⟨open_, late⟩⟩

theorem Swept.receptive (done : Swept t db mid) (receptive : db.Receptive) : mid.Receptive := by
  have payments : mid.payments = db.payments := by rw [done.frame]
  have orders : mid.orders = db.orders := by rw [done.frame]
  refine ⟨by rw [payments, orders]; exact receptive.filed, fun r' member => ?_, fun o member cart linked => ?_⟩
  · rw [done.reservations] at member
    obtain ⟨r, inside, rfl⟩ := List.mem_map.mp member
    have counted := receptive.counted r inside
    split
    · exact counted
    · exact counted
  · obtain ⟨c, inside, named, final⟩ := receptive.linked o (orders ▸ member) cart linked
    refine ⟨c, ?_, named, final⟩
    rw [done.carts]
    exact List.mem_map.mpr ⟨c, inside, if_neg fun picked => by simp [final] at picked⟩

structure Settles (answer : Id → Except Exn (Option PaymentIntent)) (t t' : Time) (db last : Db) : Prop where
  carts : ∀ id, last.CheckingOut id ↔ db.CheckingOut id ∧ ¬ ∃ r ∈ expired t db, r.cart = id
  orders : ∀ id, last.orderStatus id = some .pending ↔ db.orderStatus id = some .pending ∧
    ¬ ∃ p ∈ db.pendingPayments, p.id ∈ reconcileCandidates t' db ∧ p.order = id ∧ p.Closes db (answer p.id)
  awaits : ∀ id, last.Awaits answer id ↔ db.Awaits answer id
  held : ∀ id, last.holdStatus id = some .active →
    ∃ r ∈ db.reservations.rows, r.id = id ∧ r.status = .active ∧ ¬ r.expires_at < t

theorem Spares.expired_iff (spares : Spares db mid) {id : Id}
    (unlinked : ∀ r ∈ db.reservations.rows, r.cart = id → r.order = none) :
    (∃ r ∈ expired t mid, r.cart = id) ↔ ∃ r ∈ expired t db, r.cart = id := by
  constructor
  · rintro ⟨r, member, mine⟩
    obtain ⟨inside, late⟩ := List.mem_filter.mp member
    have active : r.status = .active := by
      simp only [Bool.and_eq_true, beq_iff_eq] at late
      exact late.1
    exact ⟨r, List.mem_filter.mpr ⟨spares.active r inside active, late⟩, mine⟩
  · rintro ⟨r, member, mine⟩
    obtain ⟨inside, late⟩ := List.mem_filter.mp member
    exact ⟨r, List.mem_filter.mpr ⟨spares.unlinked r inside (unlinked r inside mine), late⟩, mine⟩

theorem BothSweeps.settles (both : BothSweeps scan answer t t' db last) (receptive : db.Receptive)
    (unlinked : ∀ r ∈ db.reservations.rows, db.CheckingOut r.cart → r.order = none) : Settles answer t t' db last := by
  cases both with
  | @releaseFirst released ends =>
    have done := ended_swept ends
    have payments : released.payments = db.payments := by rw [done.frame]
    have orders : released.orders = db.orders := by rw [done.frame]
    have configs : released.gatewayConfigs = db.gatewayConfigs := by rw [done.frame]
    have pending : released.pendingPayments = db.pendingPayments := by rw [Db.pendingPayments, payments]; rfl
    have candidates : reconcileCandidates t' released = reconcileCandidates t' db := by
      unfold reconcileCandidates
      rw [payments]
    have after := reconcile_reconciled answer t' (done.receptive receptive) (reconcileCandidates t' released) rfl
    refine ⟨fun id => ?_, fun id => ?_, fun id => ?_, fun id active => ?_⟩
    · rw [← done.checkingOut]
      unfold Db.CheckingOut
      rw [reconcilePendingPayments, after.spares.carts]
    · rw [reconcilePendingPayments, after.orders, pending, candidates]
      simp only [Payment.closes_congr configs, Db.orderStatus, orders]
    · rw [reconcilePendingPayments, after.awaits]
      unfold Db.Awaits
      rw [payments]
    · obtain ⟨r, member, named, open_⟩ := Db.holdStatus_eq_some.mp active
      exact done.held (Db.holdStatus_eq_some.mpr ⟨r, after.spares.active r member open_, named, open_⟩)
  | reconcileFirst ends =>
    have done := ended_swept ends
    have first := reconcile_reconciled answer t' receptive (reconcileCandidates t' db) rfl
    have payments : last.payments = (reconcilePendingPayments answer t' db).payments := by rw [done.frame]
    have orders : last.orders = (reconcilePendingPayments answer t' db).orders := by rw [done.frame]
    refine ⟨fun id => ?_, fun id => ?_, fun id => ?_, fun id active => ?_⟩
    · have carts : (reconcilePendingPayments answer t' db).CheckingOut id ↔ db.CheckingOut id := by
        unfold Db.CheckingOut
        rw [reconcilePendingPayments, first.spares.carts]
      rw [done.checkingOut, carts]
      exact and_congr_right fun held => not_congr (first.spares.expired_iff fun r member mine =>
        unlinked r member (mine ▸ held))
    · rw [Db.orderStatus, orders]
      exact first.orders id
    · unfold Db.Awaits
      rw [payments]
      exact first.awaits id
    · obtain ⟨r, member, named, open_, late⟩ := done.held active
      exact ⟨r, first.spares.active r member open_, named, open_, late⟩

end Sweeps

section Runs

variable {settings : Settings} {lib : WebhookLibrary} {s : Sys} {i : Nat} {req : Request} {pc : Pc}

theorem Sys.Owned.billed (owned : s.Owned) (at_i : s.calls i = some ⟨req, pc⟩) {o : Order} (mine : o ∈ pc.frame.order)
    {p : Payment} (member : p ∈ s.db.payments.rows) :
    p.order = o.id ↔ ∃ billed ∈ pc.frame.payment, p.id = billed.id := by
  have registered := (owned.registered i _ at_i).payments
  have order : pc.claim.orderId = some o.id := by
    simp [Pc.claim, Frame.claim, Claim.orderId, Option.mem_def.mp mine, Order.core]
  have payment : pc.claim.payment = pc.frame.payment.map Payment.core := rfl
  simp only [Skeleton.own, order, payment] at registered
  constructor
  · intro same
    have listed : p.core ∈ (s.db.skeleton.payments.filter fun q => some q.order == some o.id) :=
      List.mem_filter.mpr ⟨List.mem_map_of_mem member, by simpa [Payment.core] using same⟩
    rw [registered] at listed
    obtain ⟨billed, mine, core⟩ := Option.map_eq_some_iff.mp (Option.mem_toList.mp listed)
    exact ⟨billed, mine, (congrArg PaymentCore.id core).symm⟩
  · rintro ⟨billed, mine, named⟩
    have listed : billed.core ∈ (s.db.skeleton.payments.filter fun q => some q.order == some o.id) := by
      rw [registered, Option.mem_def.mp mine]
      simp
    obtain ⟨known, same⟩ := List.mem_filter.mp listed
    obtain ⟨q, there, core⟩ := List.mem_map.mp known
    obtain rfl := s.db.payments.eq_of_key there member ((congrArg PaymentCore.id core).trans named.symm)
    rw [← core] at same
    simpa [Payment.core] using same

end Runs

namespace Sample

-- The worker dies while the gateway authorizes.
def sending : List Event := filling ++ calling (placing ++ [.resolve, .insertPayment])

def dying : Sys := (floor.exec opening sending).get (by decide +kernel)
def dead : Call := (dying.calls 0).get (by decide +kernel)

-- The worker dies with the cart locked, and a day goes by.
def drifting : List Event := filling ++ calling [.find, .lock] ++ [.run (.tick 100000)]

def adrift : Sys := (floor.exec opening drifting).get (by decide +kernel)
def swept : Db := (releaseExpiredReservations .plain adrift.now adrift.db).1

end Sample

end Storefront
