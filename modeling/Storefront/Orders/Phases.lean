import Storefront.Orders.Checkout
import Storefront.Orders.Reservations

set_option autoImplicit false

/-!
# What the phases write
-/

namespace Storefront

open Relational Transition

theorem guard_unfaulted {α : Type} {oracle : Oracle} (quiet : oracle.fault = none) (block : Outcome α) :
    oracle.guard block = block := by
  simp [Oracle.guard, quiet]

theorem guard_ok {α : Type} {oracle : Oracle} {block : Outcome α} {a : α}
    (done : oracle.guard block = .ok a) : block = .ok a := by
  unfold Oracle.guard at done
  split at done
  · cases done
  · exact done

theorem guard_quiet {α : Type} {oracle : Oracle} {block : Outcome α} {a : α}
    (done : oracle.guard block = .ok a) : oracle.fault = none := by
  unfold Oracle.guard at done
  split at done
  · cases done
  next quiet => exact quiet

theorem useCoupon_frame {tenant : Id} {db db' : Db} {applied : AppliedCoupon}
    (done : useCoupon tenant db applied = .ok db') : db' = { db with coupons := db'.coupons } := by
  simp only [useCoupon, bind_eq_ok, pure_eq_ok] at done
  obtain ⟨_, _, _, _, rfl⟩ := done
  rfl

theorem useCoupons_frame {tenant : Id} {l : List AppliedCoupon} {db db' : Db}
    (done : l.foldlM (useCoupon tenant) db = .ok db') : db' = { db with coupons := db'.coupons } := by
  refine foldlM_relation (R := fun a b : Db => b = { a with coupons := b.coupons }) (fun _ => rfl) ?_
    (fun _ _ _ _ step => useCoupon_frame step) done
  intro a b c first second
  rw [first] at second
  exact second

structure Lines (view : CartView) (order : Id) (entries : List (CartItem × Nat)) (db db' : Db) : Prop
    where
  frame : db' = { db with orderItems := db'.orderItems }
  written : ∃ new : List OrderItem, db'.orderItems.rows = db.orderItems.rows ++ new ∧
    (∀ i ∈ new, i.order = order) ∧
    new.map (fun i => (i.product, i.quantity)) = entries.map fun e => (some e.1.product, e.1.quantity)
  known : ∀ e ∈ entries, ∃ p ∈ view.products, p.id = e.1.product

theorem createOrderItems_lines {oracle : Oracle} {view : CartView} {order : Order}
    {entries : List (CartItem × Nat)} {db db' : Db}
    (done : entries.foldlM (createOrderItem oracle view order) db = .ok db') :
    Lines view order.id entries db db' := by
  induction entries generalizing db with
  | nil =>
    obtain rfl : db = db' := by simpa using done
    exact ⟨rfl, ⟨[], by simp, by simp, rfl⟩, by simp⟩
  | cons e rest ih =>
    obtain ⟨mid, first, tail⟩ := foldlM_cons_eq_ok.mp done
    simp only [createOrderItem, bind_eq_ok, orRaise_eq_ok, Db.insertOrderItem, stored_eq_ok] at first
    obtain ⟨p, found, orderItems, inserted, rfl⟩ := first
    have named : p.id = e.1.product := by simpa using List.find?_some found
    obtain ⟨frame, ⟨new, rows, mine, lines⟩, known⟩ := ih tail
    refine ⟨frame, ⟨newOrderItem order view.cart.tenant (oracle.draw (e.2 + 1)) e.1 p :: new, ?_, ?_, ?_⟩,
      ?_⟩
    · rw [rows]
      simp [Table.insert_rows inserted]
    · intro i inside
      rcases List.mem_cons.mp inside with rfl | later
      · rfl
      · exact mine i later
    · simp [newOrderItem, named, lines]
    · intro e' inside
      rcases List.mem_cons.mp inside with rfl | later
      · exact ⟨p, List.mem_of_find?_eq_some found, named⟩
      · exact known e' later

structure Creates (req : Request) (view : CartView) (order : Order) (db db' : Db) : Prop where
  frame : db' = { db with coupons := db'.coupons, orders := db'.orders, orderItems := db'.orderItems }
  orders : db'.orders.rows = db.orders.rows ++ [order]
  fresh : ∀ o ∈ db.orders.rows, o.id ≠ order.id ∧ o.idempotency_key ≠ order.idempotency_key
  lines : ∃ new : List OrderItem, db'.orderItems.rows = db.orderItems.rows ++ new ∧
    (∀ i ∈ new, i.order = order.id) ∧
    new.map (fun i => (i.product, i.quantity)) = view.items.map fun i => (some i.product, i.quantity)
  known : ∀ item ∈ view.items, ∃ p ∈ view.products, p.id = item.product
  tenant : order.tenant = req.tenant
  key : order.idempotency_key = req.idempotency_key
  status : order.status = .pending
  cart : order.cart = none

theorem createOrder_creates {req : Request} {oracle : Oracle} {view : CartView} {order : Order}
    {db db' : Db} (done : createOrder req oracle view db = .ok (order, db')) :
    Creates req view order db db' := by
  simp only [createOrder, bind_eq_ok, pure_eq_ok, Prod.mk.injEq, Db.insertOrder, stored_eq_ok] at done
  obtain ⟨used, coupons, shipping, _, billing, _, _, _, _, ⟨orders, inserted, rfl⟩, last, listed, rfl,
    rfl⟩ := done
  have frame := useCoupons_frame coupons
  obtain ⟨itemsFrame, ⟨new, rows, mine, lines⟩, known⟩ := createOrderItems_lines listed
  have usedOrders : used.orders = db.orders := by rw [frame]
  have usedItems : used.orderItems = db.orderItems := by rw [frame]
  refine ⟨?_, ?_, ?_, ⟨new, ?_, mine, ?_⟩, ?_, rfl, rfl, rfl, rfl⟩
  · rw [itemsFrame, frame]
  · rw [itemsFrame]
    simp only [Table.insert_rows inserted, usedOrders]
  · intro o member
    rw [← usedOrders] at member
    refine ⟨Table.insert_key_fresh inserted member, fun same => ?_⟩
    refine Table.insert_fresh inserted member (e := .text o.idempotency_key) ?_ ?_
    · rw [same]
      simp [Schema.entries]
    · simp [Schema.entries]
  · rw [rows]
    simp only [usedItems]
  · rw [lines]
    conv_rhs => rw [← List.zipIdx_map_fst 0 view.items, List.map_map]
    rfl
  · intro item member
    rw [← List.zipIdx_map_fst 0 view.items] at member
    obtain ⟨e, inside, rfl⟩ := List.mem_map.mp member
    exact known e inside

theorem convertCart_frame {tenant cart : Id} {now : Time} {db db' : Db}
    (done : convertCart tenant cart now db = .ok db') : db' = { db with carts := db'.carts } := by
  simp only [convertCart, bind_eq_ok, Db.updateCarts, stored_eq_ok] at done
  obtain ⟨_, _, carts, _, rfl⟩ := done
  rfl

theorem createPayment_eq_ok {row : Payment} {db db' : Db} :
    createPayment row db = .ok db' ↔ row.idempotency_key.length ≤ 128 ∧
      ∃ payments, db.payments.insert row = some payments ∧ { db with payments } = db' := by
  simp only [createPayment, fits, bind_eq_ok, require_eq_ok, Db.insertPayment, stored_eq_ok]
  constructor
  · rintro ⟨_, short, inserted⟩
    exact ⟨short, inserted⟩
  · rintro ⟨short, inserted⟩
    exact ⟨(), short, inserted⟩

theorem recordPaymentResult_eq_ok {tenant payment : Id} {intent : PaymentIntent} {db db' : Db} :
    recordPaymentResult tenant payment intent db = .ok db' ↔
      intent.gateway_transaction_id.length ≤ 255 ∧
      db.modifyPayments (fun p => p.tenant == tenant && p.id == payment) (fun p =>
        { p with
          gateway_transaction_id := intent.gateway_transaction_id
          status := mapGatewayStatus intent.status
          gateway_response := gatewayResponse intent }) = db' := by
  simp only [recordPaymentResult, fits, bind_eq_ok, require_eq_ok, pure_eq_ok]
  constructor
  · rintro ⟨_, short, written⟩
    exact ⟨short, written⟩
  · rintro ⟨short, written⟩
    exact ⟨(), short, written⟩

-- Row-level security hides the other tenants' rows; keys tell the rest apart.
theorem order_eq_ok {db : Db} {tenant id : Id} {o : Order} :
    db.order tenant id = .ok o ↔ o ∈ db.orders.rows ∧ o.id = id ∧ o.tenant = tenant := by
  simp only [Db.order, orRaise_eq_ok]
  constructor
  · intro found
    have same := List.find?_some found
    simp only [Bool.and_eq_true, beq_iff_eq] at same
    exact ⟨List.mem_of_find?_eq_some found, same.2, same.1⟩
  · rintro ⟨member, rfl, rfl⟩
    cases found : db.orders.rows.find? (fun r => r.tenant == o.tenant && r.id == o.id) with
    | none =>
      have absent := List.find?_eq_none.mp found o member
      simp at absent
    | some other =>
      have same := List.find?_some found
      simp only [Bool.and_eq_true, beq_iff_eq] at same
      rw [db.orders.eq_of_key (List.mem_of_find?_eq_some found) member same.2]

theorem payment_eq_ok {db : Db} {tenant id : Id} {p : Payment} :
    db.payment tenant id = .ok p ↔ p ∈ db.payments.rows ∧ p.id = id ∧ p.tenant = tenant := by
  simp only [Db.payment, orRaise_eq_ok]
  constructor
  · intro found
    have same := List.find?_some found
    simp only [Bool.and_eq_true, beq_iff_eq] at same
    exact ⟨List.mem_of_find?_eq_some found, same.2, same.1⟩
  · rintro ⟨member, rfl, rfl⟩
    cases found : db.payments.rows.find? (fun r => r.tenant == p.tenant && r.id == p.id) with
    | none =>
      have absent := List.find?_eq_none.mp found p member
      simp at absent
    | some other =>
      have same := List.find?_some found
      simp only [Bool.and_eq_true, beq_iff_eq] at same
      rw [db.payments.eq_of_key (List.mem_of_find?_eq_some found) member same.2]

theorem captureRead_some {tenant payment : Id} {db : Db} {row : Payment}
    (done : captureRead tenant payment db = .ok (some row)) :
    row ∈ db.payments.rows ∧ row.id = payment ∧ row.tenant = tenant ∧ row.status = .authorized := by
  simp only [captureRead, bind_eq_ok, payment_eq_ok] at done
  obtain ⟨p, ⟨member, named, owned⟩, rest⟩ := done
  split at rest
  · simp at rest
  · simp only [bind_eq_ok, require_eq_ok, pure_eq_ok, Option.some.injEq] at rest
    obtain ⟨_, status, _, _, _, _, rfl⟩ := rest
    exact ⟨member, named, owned, status⟩

theorem cancelOwnOrder_eq_ok {tenant id : Id} {db db' : Db} :
    cancelOwnOrder tenant id db = .ok db' ↔ ∃ o ∈ db.orders.rows, o.id = id ∧ o.tenant = tenant ∧
      (if o.status = .pending ∨ o.status = .paid then db.saveOrderStatus id .cancelled else db) = db' := by
  simp only [cancelOwnOrder, bind_eq_ok, order_eq_ok, pure_eq_ok]
  constructor
  · rintro ⟨o, ⟨member, rfl, owned⟩, written⟩
    exact ⟨o, member, rfl, owned, written⟩
  · rintro ⟨o, member, rfl, owned, written⟩
    exact ⟨o, ⟨member, rfl, owned⟩, written⟩

theorem markCaptured_eq_ok {req : Request} {placed : Placed} {db db' : Db} :
    markCaptured req placed db = .ok db' ↔
      (∃ o ∈ db.orders.rows, o.id = placed.order.id ∧ o.tenant = req.tenant) ∧
      commitReservations req.tenant placed.reservations (db.saveOrderStatus placed.order.id .paid) =
        .ok db' := by
  simp only [markCaptured, bind_eq_ok, order_eq_ok]
  constructor
  · rintro ⟨o, ⟨member, same, owned⟩, committed⟩
    exact ⟨⟨o, member, same, owned⟩, same ▸ committed⟩
  · rintro ⟨⟨o, member, same, owned⟩, committed⟩
    exact ⟨o, ⟨member, same, owned⟩, same.symm ▸ committed⟩

end Storefront
