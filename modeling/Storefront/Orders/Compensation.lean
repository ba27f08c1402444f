import Storefront.Orders.Phases
import Storefront.Orders.Saga
import Storefront.Orders.StockLedger

set_option autoImplicit false

/-!
# What a failed checkout leaves behind
-/

namespace Storefront

open Relational Transition Ledger

/-- The rows a call found are as it found them, and the ones it wrote are closed. -/
structure Compensated (req : Request) (db db' : Db) : Prop where
  cart : ∀ cart ∈ db.carts.rows, cart.tenant = req.tenant → cart.customer = req.customer →
    cart.status = .active → ∃ cart' ∈ db'.carts.rows, cart' = { cart with updated_at := cart'.updated_at }
  items : db'.cartItems = db.cartItems
  coupons : db'.appliedCoupons = db.appliedCoupons
  products : ∀ p ∈ db.products.rows, ∃ p' ∈ db'.products.rows, p'.id = p.id ∧
    p'.stock_quantity = p.stock_quantity ∧ p'.reserved_quantity = p.reserved_quantity
  reservations : ∀ r ∈ db'.reservations.rows, r.id ∉ db.reservations.rows.map InventoryReservation.id →
    r.status ≠ .active
  orders : ∀ o ∈ db'.orders.rows, o.id ∉ db.orders.rows.map Order.id → o.status ≠ .pending

section Covers

variable (settings : Settings) (req : Request) (oracle : Point → Oracle)

def Unfaulted (todo : List Undo) : Prop := ∀ action ∈ todo, (oracle (.undo action)).fault = none

def Succeeds {α : Type} (block : Outcome α) : Prop := ∃ a, block = .ok a

-- Only the insert of the invoice payment is undone.
def InvoiceCovers (placed : Placed) (db : Db) : Prop :=
  match (oracle .invoice).guard (createPayment (invoicePayment req (oracle .invoice) placed) db) with
  | .error _ => Unfaulted oracle undoOrdered
  | .ok db => Succeeds ((oracle .convertInvoiced).guard
      (convertInvoiced req (oracle .convertInvoiced).now placed db))

-- A refused card is undone; every other failure after the order is not.
def CardCovers (placed : Placed) (db : Db) : Prop :=
  match (oracle .resolve).guard (authorizeTarget settings req.tenant
      (placed.view.cart.selected_payment_method.getD 0) placed.order.currency db) with
  | .error _ => False
  | .ok config =>
    let payment := cardPayment req (oracle .insertPayment) placed config
    match (oracle .insertPayment).guard (createPayment payment db) with
    | .error _ => False
    | .ok db => match (oracle .authorize).answer with
      | .error _ => (oracle .recordError).fault = none ∧ Unfaulted oracle undoOrdered
      | .ok intent =>
        match (oracle .recordResult).guard (recordPaymentResult req.tenant payment.id intent db) with
        | .error _ => False
        | .ok db =>
          if intent.status = .failed then Unfaulted oracle undoOrdered
          else (intent.status = .authorized ∨ intent.status = .pending) ∧
            Succeeds ((oracle .convert).guard (commitCart req (oracle .convert).now placed db))

def PlacedCovers (placed : Placed) (db : Db) : Prop :=
  match placed.view.paymentMethod with
  | none => False
  | some method =>
    if isPurchaseOrder method then InvoiceCovers req oracle placed db
    else CardCovers settings req oracle placed db

/-- No compensating action fails, and once the order stands nothing fails but a
payment row of an invoice, the gateway's call or the card. -/
def UndoCovers (db : Db) : Prop :=
  match (oracle .find).guard (.ok (findExistingCheckout req db)) with
  | .error _ | .ok (some _) => True
  | .ok none => match (oracle .lock).guard (lockCart req (oracle .lock).now db) with
    | .error _ => True
    | .ok (view, db) => match (oracle .validate).guard (validatePreconditions (oracle .validate).now view) with
      | .error _ => Unfaulted oracle [.revertCart]
      | .ok _ =>
        match (oracle .reserve).guard
          (reserveStock req.tenant (oracle .reserve).now (oracle .reserve).draw view db) with
        | .error _ => Unfaulted oracle [.revertCart]
        | .ok (reservations, db) => match (oracle .create).guard (createOrder req (oracle .create) view db) with
          | .error _ => Unfaulted oracle undoReserved
          | .ok (order, db) => PlacedCovers settings req oracle ⟨view, reservations, order⟩ db

end Covers

structure CartTaken (req : Request) (db : Db) (view : CartView) (cur : Db) : Prop where
  member : view.cart ∈ db.carts.rows
  tenant : view.cart.tenant = req.tenant
  customer : view.cart.customer = req.customer
  active : view.cart.status = .active
  carts : ∃ now, cur.carts.rows = db.carts.rows.map (Table.updated (fun c => c.id == view.cart.id)
    fun c => { c with status := .checkingOut, updated_at := now })
  items : cur.cartItems = db.cartItems
  coupons : cur.appliedCoupons = db.appliedCoupons

structure StockHeld (req : Request) (db : Db) (reservations : List Id) (cur : Db) : Prop where
  opened : ∃ new : List InventoryReservation, cur.reservations.rows = db.reservations.rows ++ new ∧
    reservations = new.map InventoryReservation.id ∧
    ∀ r ∈ new, r.tenant = req.tenant ∧ r.status = .active ∧ 0 ≤ r.quantity ∧
      ∃ p ∈ cur.products.rows, p.id = r.product ∧ p.tenant = req.tenant
  moves : Relation.ReflTransGen Book.Opening db.book cur.book
  places : cur.products.rows.map Product.place = db.products.rows.map Product.place

/-- The stock is what it was, and nothing the call opened is still open. -/
structure StockReturned (db cur : Db) : Prop where
  products : ∀ p ∈ db.products.rows, ∃ p' ∈ cur.products.rows, p'.id = p.id ∧
    p'.stock_quantity = p.stock_quantity ∧ p'.reserved_quantity = p.reserved_quantity
  reservations : ∀ r ∈ cur.reservations.rows, r.id ∉ db.reservations.rows.map InventoryReservation.id →
    r.status ≠ .active

theorem StockReturned.refl (db : Db) : StockReturned db db :=
  ⟨fun p member => ⟨p, member, rfl, rfl, rfl⟩,
    fun _ member fresh => absurd (List.mem_map_of_mem member) fresh⟩

theorem lockCart_taken {req : Request} {now : Time} {db cur : Db} {view : CartView}
    (done : lockCart req now db = .ok (view, cur)) :
    CartTaken req db view cur ∧ cur = { db with carts := cur.carts } := by
  simp only [lockCart, lockAndValidateCart, bind_eq_ok, orRaise_eq_ok, pure_eq_ok, Prod.mk.injEq,
    Option.bind_eq_some_iff, Db.updateCarts, stored_eq_ok] at done
  obtain ⟨_, ⟨view, ⟨cart, found, joined⟩, _, _, rfl⟩, _, ⟨carts, updated, rfl⟩, rfl, rfl⟩ := done
  have same : view.cart = cart := by
    simp only [Db.cartView, Option.map_eq_some_iff] at joined
    obtain ⟨_, _, rfl⟩ := joined
    rfl
  have scope := List.find?_some found
  simp only [Bool.and_eq_true, beq_iff_eq] at scope
  refine ⟨⟨?_, ?_, ?_, ?_, ⟨now, ?_⟩, rfl, rfl⟩, rfl⟩
  · rw [same]
    exact List.mem_of_find?_eq_some found
  · rw [same]
    exact scope.1.1
  · rw [same]
    exact scope.1.2
  · rw [same]
    exact scope.2
  · exact Table.update_rows updated

theorem revertCart_restores {req : Request} {db cur : Db} {view : CartView}
    (taken : CartTaken req db view cur) :
    ∃ cur', revertCartToActive req.tenant view.cart.id cur = .ok cur' ∧
      cur' = { cur with carts := cur'.carts } ∧
      ∀ cart ∈ db.carts.rows, ∃ cart' ∈ cur'.carts.rows,
        cart' = { cart with updated_at := cart'.updated_at } := by
  obtain ⟨now, rows⟩ := taken.carts
  have unique : ∀ c ∈ db.carts.rows, c.id = view.cart.id → c = view.cart := fun c member same =>
    db.carts.eq_of_key member taken.member same
  -- The two updates leave every cart as it was, but for a time stamp.
  have back : cur.carts.rows.map (Table.updated
      (fun c => c.tenant == req.tenant && c.id == view.cart.id && c.status == .checkingOut)
      fun c => { c with status := .active }) =
      db.carts.rows.map (Table.updated (fun c => c.id == view.cart.id)
        fun c => { c with status := .active, updated_at := now }) := by
    rw [rows, List.map_map]
    apply List.map_congr_left
    intro c member
    by_cases same : c.id = view.cart.id
    · obtain rfl := unique c member same
      simp [Table.updated, taken.tenant]
    · simp [Table.updated, same]
  have entries : (cur.carts.rows.map (Table.updated
      (fun c => c.tenant == req.tenant && c.id == view.cart.id && c.status == .checkingOut)
      fun c => { c with status := .active })).flatMap Schema.entries =
      db.carts.rows.flatMap Schema.entries := by
    rw [back]
    apply Table.flatMap_updated
    intro c member same
    obtain rfl := unique c member (by simpa using same)
    simp [Schema.entries, taken.active]
  obtain ⟨carts, updated⟩ := Table.update_restores entries (fun _ _ => rfl)
  refine ⟨{ cur with carts }, ?_, rfl, ?_⟩
  · simp [revertCartToActive, Db.updateCarts, updated, stored]
  · intro cart member
    simp only [Table.update_rows updated, back]
    refine ⟨_, List.mem_map_of_mem member, ?_⟩
    by_cases same : cart.id = view.cart.id
    · obtain rfl := unique cart member same
      simp only [Table.updated, beq_self_eq_true, if_true]
      rw [← taken.active]
    · simp [Table.updated, same]

theorem release_returns {req : Request} {db cur : Db} {reservations : List Id}
    (held : StockHeld req db reservations cur) :
    ∃ cur', releaseReservations req.tenant reservations cur = .ok cur' ∧
      cur' = { cur with products := cur'.products, reservations := cur'.reservations } ∧
      StockReturned db cur' := by
  obtain ⟨new, rows, rfl, mine⟩ := held.opened
  have present : Held cur req.tenant (new.map InventoryReservation.id) := by
    intro id inside
    obtain ⟨r, member, rfl⟩ := List.mem_map.mp inside
    exact ⟨r, by rw [rows]; exact List.mem_append_right _ member, rfl, (mine r member).1,
      (mine r member).2.2.1⟩
  obtain ⟨cur', done⟩ := releaseReservations_succeeds present
  obtain ⟨settled, carts⟩ := settleReservations_settled done
  have keys := cur.reservations.keys_nodup
  rw [rows, List.map_append, List.nodup_append] at keys
  have fresh : ∀ r ∈ db.reservations.rows, r.id ∉ new.map InventoryReservation.id :=
    fun r member inside => keys.2.2 _ (List.mem_map_of_mem member) _ inside rfl
  have after : cur'.reservations.rows =
      db.reservations.rows ++ new.map fun r => { r with status := .released } := by
    rw [settled.rows, rows, List.map_append]
    congr 1
    · calc db.reservations.rows.map _ = db.reservations.rows.map id := by
            apply List.map_congr_left
            intro r member
            simp [Table.updated, fresh r member]
        _ = db.reservations.rows := List.map_id _
    · apply List.map_congr_left
      intro r member
      have named : r.id ∈ new.map InventoryReservation.id := List.mem_map_of_mem member
      simp [Table.updated, (mine r member).2.1, Settlement.release, named]
  have housed : HousedAt cur req.tenant (new.map InventoryReservation.id) := by
    intro r member named _
    rw [rows] at member
    rcases List.mem_append.mp member with old | mineToo
    · exact absurd named (fresh r old)
    · exact (mine r mineToo).2.2.2
  have moves : Book.Moves db.book cur'.book :=
    .trans (Relation.ReflTransGen.mono (fun _ _ => Or.inr) _ _ held.moves)
      (Relation.ReflTransGen.mono (fun _ _ settles => Or.inl settles.settling) _ _
      (settleReservations_settling done housed))
  have totals (w : ReservationStatus → Bool) (closed : w .released = false) (i : Id) :
      cur'.book.total w i = db.book.total w i := by
    have zero : (new.map fun r => if r.product = i then weight (w .released) * r.quantity else 0).sum =
        0 := by
      apply List.sum_eq_zero
      intro x inside
      obtain ⟨r, _, rfl⟩ := List.mem_map.mp inside
      simp [closed, weight]
    simp only [Book.total, Db.book, after, List.map_append, List.sum_append, List.map_map]
    have tail := zero
    simp only [Function.comp_def, InventoryReservation.hold]
    omega
  have frame := settled.frame
  rw [carts] at frame
  refine ⟨cur', done, frame, ?_, ?_⟩
  · intro p member
    obtain ⟨p', inside, named, _⟩ := places_kept (settled.places.trans held.places) member
    have supply := moves.supply p.id
    have slack := moves.slack p.id
    simp only [Book.supply, Book.slack, totals Phases.taken rfl, totals Phases.held rfl] at supply slack
    have stock : cur'.stockOf p.id = db.stockOf p.id := by
      change cur'.stockOf p.id + _ = db.stockOf p.id + _ at supply
      omega
    have reserved : cur'.reservedOf p.id = db.reservedOf p.id := by
      change cur'.reservedOf p.id - _ = db.reservedOf p.id - _ at slack
      omega
    rw [Db.stockOf_eq member, ← named, Db.stockOf_eq inside] at stock
    rw [Db.reservedOf_eq member, ← named, Db.reservedOf_eq inside] at reserved
    exact ⟨p', inside, named, stock, reserved⟩
  · intro r member absent
    rw [after] at member
    rcases List.mem_append.mp member with old | closed
    · exact absurd (List.mem_map_of_mem old) absent
    · obtain ⟨_, _, rfl⟩ := List.mem_map.mp closed
      simp

section Undoing

variable {req : Request} {oracle : Point → Oracle}

-- The cart is reverted last: a failing action leaves it as it was.
theorem undoAll_faulted (cart : Id) (frame : Frame) (first : List Undo)
    (others : ∀ action ∈ first, action ≠ .revertCart) (db : Db)
    (faulted : ¬ Unfaulted oracle (first ++ [.revertCart])) :
    (undoAll req oracle cart frame (first ++ [.revertCart]) db).2.carts = db.carts := by
  induction first generalizing db with
  | nil =>
    simp only [Unfaulted, List.nil_append, List.mem_singleton, forall_eq] at faulted
    simp only [List.nil_append, undoAll, Saga.bind_apply, Saga.write_apply, Oracle.guard]
    cases fault : (oracle (.undo .revertCart)).fault with
    | none => exact absurd fault faulted
    | some detail => rfl
  | cons action rest ih =>
    simp only [List.cons_append, undoAll, Saga.bind_apply, Saga.write_apply]
    cases ran : (oracle (.undo action)).guard (action.run req cart frame db) with
    | error e => rfl
    | ok db' =>
      have quiet : (oracle (.undo action)).fault = none := by
        cases fault : (oracle (.undo action)).fault with
        | none => rfl
        | some detail => simp [Oracle.guard, fault] at ran
      have later : ¬ Unfaulted oracle (rest ++ [.revertCart]) := by
        intro unfaulted
        apply faulted
        intro a member
        rcases List.mem_cons.mp member with rfl | member
        · exact quiet
        · exact unfaulted a member
      have same : db'.carts = db.carts := by
        rw [guard_unfaulted quiet] at ran
        cases action with
        | cancelOrder =>
          simp only [Undo.run] at ran
          cases known : frame.order with
          | none =>
            obtain rfl : db = db' := by simpa [known] using ran
            rfl
          | some order =>
            rw [known] at ran
            obtain ⟨_, _, _, _, rfl⟩ := cancelOwnOrder_eq_ok.mp ran
            split <;> rfl
        | releaseReservations => exact (settleReservations_settled ran).2
        | revertCart => exact absurd rfl (others .revertCart (by simp))
      rw [← same]
      exact ih (fun a member => others a (by simp [member])) db' later

-- A cart still being checked out is not the ACTIVE cart the call found.
theorem CartTaken.not_compensated {db cur last : Db} {view : CartView} (taken : CartTaken req db view cur)
    (carts : last.carts = cur.carts) : ¬ Compensated req db last := by
  intro compensated
  obtain ⟨now, rows⟩ := taken.carts
  obtain ⟨cart', member, same⟩ := compensated.cart view.cart taken.member taken.tenant taken.customer
    taken.active
  rw [carts, rows] at member
  obtain ⟨old, _, rfl⟩ := List.mem_map.mp member
  by_cases here : old.id = view.cart.id
  · have status := congrArg Cart.status same
    simp [Table.updated, here, taken.active] at status
  · have named := congrArg Cart.id same
    simp [Table.updated, here] at named

theorem CartTaken.keeps {db cur last : Db} {view : CartView} (taken : CartTaken req db view cur)
    (carts : last.carts = cur.carts) (items : last.cartItems = cur.cartItems)
    (coupons : last.appliedCoupons = cur.appliedCoupons) : CartTaken req db view last :=
  ⟨taken.member, taken.tenant, taken.customer, taken.active, by rw [carts]; exact taken.carts,
    items.trans taken.items, coupons.trans taken.coupons⟩

theorem revert_compensates {db cur : Db} {view : CartView} {frame : Frame}
    (taken : CartTaken req db view cur) (returned : StockReturned db cur)
    (orders : ∀ o ∈ cur.orders.rows, o.id ∉ db.orders.rows.map Order.id → o.status ≠ .pending)
    (unfaulted : Unfaulted oracle [.revertCart]) :
    Compensated req db (undoAll req oracle view.cart.id frame [.revertCart] cur).2 := by
  obtain ⟨last, reverted, rest, carts⟩ := revertCart_restores taken
  have quiet := unfaulted .revertCart (by simp)
  have ends : (undoAll req oracle view.cart.id frame [.revertCart] cur).2 = last := by
    simp [undoAll, Saga.write_apply, guard_unfaulted quiet, Undo.run, reverted]
  rw [ends]
  have products : last.products = cur.products := by rw [rest]
  have reservations : last.reservations = cur.reservations := by rw [rest]
  have sameOrders : last.orders = cur.orders := by rw [rest]
  refine ⟨fun cart member _ _ _ => carts cart member, ?_, ?_, ?_, ?_, ?_⟩
  · rw [rest]
    exact taken.items
  · rw [rest]
    exact taken.coupons
  · rw [products]
    exact returned.products
  · rw [reservations]
    exact returned.reservations
  · rw [sameOrders]
    exact orders

theorem release_compensates {db cur : Db} {view : CartView} {frame : Frame}
    (taken : CartTaken req db view cur) (held : StockHeld req db frame.reservations cur)
    (orders : ∀ o ∈ cur.orders.rows, o.id ∉ db.orders.rows.map Order.id → o.status ≠ .pending)
    (unfaulted : Unfaulted oracle undoReserved) :
    Compensated req db (undoAll req oracle view.cart.id frame undoReserved cur).2 := by
  obtain ⟨mid, released, rest, returned⟩ := release_returns held
  have quiet := unfaulted .releaseReservations (by simp [undoReserved])
  have first : (undoAll req oracle view.cart.id frame undoReserved cur).2 =
      (undoAll req oracle view.cart.id frame [.revertCart] mid).2 := by
    simp only [undoReserved, undoAll, Saga.bind_apply, Saga.write_apply, guard_unfaulted quiet, Undo.run,
      released]
  rw [first]
  refine revert_compensates (taken.keeps ?_ ?_ ?_) returned ?_ fun action member =>
    unfaulted action (List.mem_cons_of_mem _ member)
  · rw [rest]
  · rw [rest]
  · rw [rest]
  · rw [rest]
    exact orders

structure OrderOpen (req : Request) (db : Db) (order : Order) (cur : Db) : Prop where
  orders : cur.orders.rows = db.orders.rows ++ [order]
  fresh : ∀ o ∈ db.orders.rows, o.id ≠ order.id
  tenant : order.tenant = req.tenant
  status : order.status = .pending

theorem OrderOpen.mem {db cur : Db} {order : Order} (placed : OrderOpen req db order cur) :
    order ∈ cur.orders.rows := by
  rw [placed.orders]
  simp

theorem OrderOpen.not_compensated {db cur last : Db} {order : Order} (placed : OrderOpen req db order cur)
    (left : ∃ o ∈ last.orders.rows, o.id = order.id ∧ o.status = .pending) :
    ¬ Compensated req db last := by
  intro compensated
  obtain ⟨o, member, same, pending⟩ := left
  refine compensated.orders o member ?_ pending
  intro inside
  obtain ⟨old, present, named⟩ := List.mem_map.mp inside
  exact placed.fresh old present (named.trans same)

theorem cancel_compensates {db cur : Db} {view : CartView} {frame : Frame} {order : Order}
    (named : frame.order.map Order.id = some order.id)
    (taken : CartTaken req db view cur) (held : StockHeld req db frame.reservations cur)
    (placed : OrderOpen req db order cur) (unfaulted : Unfaulted oracle undoOrdered) :
    Compensated req db (undoAll req oracle view.cart.id frame undoOrdered cur).2 := by
  have quiet := unfaulted .cancelOrder (by simp [undoOrdered])
  obtain ⟨own, known, same⟩ := Option.map_eq_some_iff.mp named
  have cancelled : cancelOwnOrder req.tenant own.id cur =
      .ok (cur.saveOrderStatus own.id .cancelled) := by
    refine cancelOwnOrder_eq_ok.mpr ⟨order, ?_, same.symm, placed.tenant, by simp [placed.status]⟩
    rw [placed.orders]
    simp
  have first : (undoAll req oracle view.cart.id frame undoOrdered cur).2 =
      (undoAll req oracle view.cart.id frame undoReserved (cur.saveOrderStatus own.id .cancelled)).2 := by
    simp only [undoOrdered, undoReserved, undoAll, Saga.bind_apply, Saga.write_apply,
      guard_unfaulted quiet, Undo.run, known, cancelled]
  rw [first]
  refine release_compensates (taken.keeps rfl rfl rfl) ⟨held.opened, held.moves, held.places⟩ ?_
    fun action member => unfaulted action (List.mem_cons_of_mem _ member)
  intro o member absent
  simp only [Db.saveOrderStatus, Db.modifyOrders, Table.modify_rows, placed.orders] at member
  obtain ⟨old, present, rfl⟩ := List.mem_map.mp member
  rcases List.mem_append.mp present with before | mine
  · exfalso
    apply absent
    have kept : (Table.updated (fun o => o.id == own.id) (fun o => { o with status := .cancelled })
        old).id = old.id := by
      unfold Table.updated
      split <;> rfl
    rw [kept]
    exact List.mem_map_of_mem before
  · obtain rfl := List.mem_singleton.mp mine
    simp [Table.updated, same]

/-- If the run raised, it left nothing behind. -/
def Clean (req : Request) (db : Db) (run : Except Exn CheckoutResult × Db) : Prop :=
  ∀ e, run.1 = .error e → Compensated req db run.2

theorem clean_ok {db last : Db} {result : CheckoutResult} : Clean req db (.ok result, last) :=
  fun _ raised => by cases raised

theorem clean_error {db last : Db} {e : Exn} :
    Clean req db (.error e, last) ↔ Compensated req db last :=
  ⟨fun clean => clean e rfl, fun compensated _ _ => compensated⟩

theorem undo_clean_iff {db cur : Db} {view : CartView} {frame : Frame} (first : List Undo)
    (others : ∀ action ∈ first, action ≠ .revertCart) (taken : CartTaken req db view cur)
    (compensates : Unfaulted oracle (first ++ [.revertCart]) →
      Compensated req db (undoAll req oracle view.cart.id frame (first ++ [.revertCart]) cur).2)
    (e : Exn) :
    Clean req db ((do
      undoAll req oracle view.cart.id frame (first ++ [.revertCart])
      throw e : Saga CheckoutResult) cur) ↔ Unfaulted oracle (first ++ [.revertCart]) := by
  have raises : Clean req db ((do
      undoAll req oracle view.cart.id frame (first ++ [.revertCart])
      throw e : Saga CheckoutResult) cur) ↔
      Compensated req db (undoAll req oracle view.cart.id frame (first ++ [.revertCart]) cur).2 := by
    simp only [Saga.bind_apply]
    cases undoAll req oracle view.cart.id frame (first ++ [.revertCart]) cur with
    | mk result last =>
      cases result with
      | error e' => exact clean_error
      | ok _ => exact clean_error
  rw [raises]
  constructor
  · intro compensated
    by_contra faulted
    exact taken.not_compensated (undoAll_faulted _ _ first others cur faulted) compensated
  · exact compensates

structure Begun (req : Request) (db : Db) (placed : Placed) (cur : Db) : Prop where
  taken : CartTaken req db placed.view cur
  held : StockHeld req db placed.reservations cur
  placed : OrderOpen req db placed.order cur

theorem Begun.keeps {db cur last : Db} {placed : Placed} (begun : Begun req db placed cur)
    (frame : last = { cur with payments := last.payments }) : Begun req db placed last := by
  rw [frame]
  exact ⟨begun.taken.keeps rfl rfl rfl, ⟨begun.held.opened, begun.held.moves, begun.held.places⟩,
    ⟨begun.placed.orders, begun.placed.fresh, begun.placed.tenant, begun.placed.status⟩⟩

theorem Begun.not_clean {db cur last : Db} {placed : Placed} (begun : Begun req db placed cur)
    (orders : last.orders = cur.orders) (e : Exn) : ¬ Clean req db (.error e, last) := by
  rw [clean_error]
  exact begun.placed.not_compensated
    ⟨placed.order, orders ▸ begun.placed.mem, rfl, begun.placed.status⟩

theorem Begun.undo_iff {db cur : Db} {placed : Placed} (begun : Begun req db placed cur) (e : Exn) :
    Clean req db ((do
      undoAll req oracle placed.view.cart.id (placed.frame none) undoOrdered
      throw e : Saga CheckoutResult) cur) ↔ Unfaulted oracle undoOrdered :=
  undo_clean_iff [.cancelOrder, .releaseReservations] (by simp) begun.taken
    (cancel_compensates (show _ = some placed.order.id from rfl) begun.taken begun.held begun.placed) e

theorem commitCart_keeps {now : Time} {placed : Placed} {db db' : Db}
    (done : commitCart req now placed db = .ok db') {o : Order} (member : o ∈ db.orders.rows) :
    ∃ o' ∈ db'.orders.rows, o'.id = o.id ∧ o'.status = o.status := by
  simp only [commitCart, bind_eq_ok, pure_eq_ok] at done
  obtain ⟨mid, converted, rfl⟩ := done
  rw [convertCart_frame converted]
  refine ⟨_, List.mem_map_of_mem member, ?_⟩
  unfold Table.updated
  split <;> exact ⟨rfl, rfl⟩

theorem Begun.convert_iff {db cur : Db} {placed : Placed} (begun : Begun req db placed cur)
    (payment : Payment) :
    Clean req db (convertAndCapture req oracle placed payment cur) ↔
      (payment.status = .authorized ∨ payment.status = .pending) ∧
        Succeeds ((oracle .convert).guard (commitCart req (oracle .convert).now placed cur)) := by
  simp only [convertAndCapture, Saga.bind_apply, Saga.write_apply]
  cases ran : (oracle .convert).guard (commitCart req (oracle .convert).now placed cur) with
  | error e =>
    simp [Succeeds, begun.not_clean rfl e]
  | ok last =>
    have succeeds : Succeeds (Except.ok last : Outcome Db) := ⟨last, rfl⟩
    simp only [succeeds, and_true]
    by_cases authorized : payment.status = .authorized
    · simp only [authorized, if_true, true_or, iff_true]
      -- Whatever phase 7 raises is caught.
      simp only [Saga.tryCatch_apply]
      split
      · exact clean_ok
      · exact clean_ok
    · by_cases pending : payment.status = .pending
      · simp only [pending, reduceCtorEq, if_true, if_false, or_true, iff_true]
        exact clean_ok
      · simp only [authorized, pending, if_false, or_self, iff_false, Saga.throw_apply]
        rw [clean_error]
        obtain ⟨o, inside, same, status⟩ := commitCart_keeps (guard_ok ran) begun.placed.mem
        exact begun.placed.not_compensated ⟨o, inside, same, status.trans begun.placed.status⟩

theorem createPayment_frame {row : Payment} {oracle : Oracle} {db db' : Db}
    (done : oracle.guard (createPayment row db) = .ok db') : db' = { db with payments := db'.payments } := by
  obtain ⟨_, payments, _, rfl⟩ := createPayment_eq_ok.mp (guard_ok done)
  rfl

theorem recordPaymentResult_frame {tenant payment : Id} {intent : PaymentIntent} {oracle : Oracle}
    {db db' : Db} (done : oracle.guard (recordPaymentResult tenant payment intent db) = .ok db') :
    db' = { db with payments := db'.payments } := by
  obtain ⟨_, rfl⟩ := recordPaymentResult_eq_ok.mp (guard_ok done)
  rfl

theorem Begun.invoice_iff {db cur : Db} {placed : Placed} (begun : Begun req db placed cur) :
    Clean req db (checkoutInvoiced req oracle placed cur) ↔ InvoiceCovers req oracle placed cur := by
  simp only [checkoutInvoiced, InvoiceCovers, handled_undoing]
  simp only [Saga.handled, Saga.write_apply]
  cases ran : (oracle .invoice).guard
      (createPayment (invoicePayment req (oracle .invoice) placed) cur) with
  | error e => exact begun.undo_iff e
  | ok charged =>
    have begun := begun.keeps (createPayment_frame ran)
    simp only [Saga.bind_apply, Saga.write_apply]
    cases (oracle .convertInvoiced).guard
        (convertInvoiced req (oracle .convertInvoiced).now placed charged) with
    | error e => simp [Succeeds, begun.not_clean rfl e]
    | ok last => exact iff_of_true clean_ok ⟨last, rfl⟩

-- What authorize_payment raises before the gateway call is no PaymentFailed.
theorem guard_not_failed {α : Type} {oracle : Oracle} {block : Outcome α} {e : Exn}
    (raised : oracle.guard block = .error e) (never : ∀ e, block = .error e → e.isPaymentFailed = false) :
    e.isPaymentFailed = false := by
  unfold Oracle.guard at raised
  split at raised
  · cases raised
    rfl
  · exact never e raised

theorem orRaise_never {α : Type} {e : Exn} {x : Option α} (other : e.isPaymentFailed = false) :
    ∀ e', orRaise e x = .error e' → e'.isPaymentFailed = false := by
  intro e' raised
  cases x with
  | none =>
    cases raised
    exact other
  | some a => cases raised

theorem require_never {p : Prop} [Decidable p] {e : Exn} (other : e.isPaymentFailed = false) :
    ∀ e', require p e = .error e' → e'.isPaymentFailed = false := by
  intro e' raised
  unfold require at raised
  split at raised
  · cases raised
  · cases raised
    exact other

theorem bind_never {α β : Type} {x : Outcome α} {f : α → Outcome β}
    (first : ∀ e, x = .error e → e.isPaymentFailed = false)
    (next : ∀ a e, f a = .error e → e.isPaymentFailed = false) :
    ∀ e, (x >>= f) = .error e → e.isPaymentFailed = false := by
  intro e raised
  cases ran : x with
  | error e' =>
    rw [ran] at raised
    cases raised
    exact first e ran
  | ok a =>
    rw [ran] at raised
    exact next a e raised

theorem stored_never {τ : Type} {table : Option τ} {put : τ → Db} :
    ∀ e, stored table put = .error e → e.isPaymentFailed = false := by
  intro e raised
  cases table with
  | none =>
    cases raised
    rfl
  | some t => cases raised

theorem authorizeTarget_never {settings : Settings} {tenant method : Id} {currency : String} {db : Db} :
    ∀ e, authorizeTarget settings tenant method currency db = .error e → e.isPaymentFailed = false := by
  unfold authorizeTarget resolveGatewayConfig gatewayConfigOf Adapter.get
  refine bind_never (orRaise_never rfl) fun _ => bind_never (orRaise_never rfl) fun _ =>
    bind_never (bind_never (require_never rfl) fun _ => orRaise_never rfl) fun _ =>
      bind_never (orRaise_never rfl) fun _ => bind_never (require_never rfl) fun _ => ?_
  intro e raised
  cases raised

theorem createPayment_never {row : Payment} {db : Db} :
    ∀ e, createPayment row db = .error e → e.isPaymentFailed = false :=
  bind_never (require_never rfl) fun _ => stored_never

theorem recordPaymentResult_never {tenant payment : Id} {intent : PaymentIntent} {db : Db} :
    ∀ e, recordPaymentResult tenant payment intent db = .error e → e.isPaymentFailed = false := by
  refine bind_never (require_never rfl) fun _ => ?_
  intro e raised
  cases raised

theorem Begun.uncaught {db cur : Db} {placed : Placed} (begun : Begun req db placed cur) {e : Exn}
    (other : e.isPaymentFailed = false) :
    ¬ Clean req db (undoPaymentFailed req oracle placed e cur) := by
  have raised : (undoPaymentFailed req oracle placed e : Saga CheckoutResult) cur = (.error e, cur) := by
    simp [undoPaymentFailed, other]
  rw [raised]
  exact begun.not_clean rfl e

theorem Begun.caught_iff {db cur : Db} {placed : Placed} (begun : Begun req db placed cur) {e : Exn}
    (failed : e.isPaymentFailed = true) :
    Clean req db (undoPaymentFailed req oracle placed e cur) ↔ Unfaulted oracle undoOrdered := by
  simp only [undoPaymentFailed, failed, if_true]
  exact begun.undo_iff e

theorem mapGatewayStatus_authorized {intent : PaymentIntent} {payment : Payment} :
    ((authorized payment intent).status = .authorized ∨ (authorized payment intent).status = .pending) ↔
      (intent.status = .authorized ∨ intent.status = .pending) := by
  unfold authorized
  cases intent.status <;> simp [mapGatewayStatus]

theorem Begun.card_iff {settings : Settings} {db cur : Db} {placed : Placed}
    (begun : Begun req db placed cur) :
    Clean req db (checkoutCard settings req oracle placed cur) ↔
      CardCovers settings req oracle placed cur := by
  simp only [checkoutCard, CardCovers, handled_authorize]
  simp only [Saga.handled, authorizePayment, Saga.bind_apply, Saga.read_apply, Saga.write_apply]
  cases resolved : (oracle .resolve).guard (authorizeTarget settings req.tenant
      (placed.view.cart.selected_payment_method.getD 0) placed.order.currency cur) with
  | error e =>
    simp only [iff_false]
    exact begun.uncaught (guard_not_failed resolved authorizeTarget_never)
  | ok config =>
    simp only
    cases inserted : (oracle .insertPayment).guard
        (createPayment (cardPayment req (oracle .insertPayment) placed config) cur) with
    | error e =>
      simp only [iff_false]
      exact begun.uncaught (guard_not_failed inserted createPayment_never)
    | ok charged =>
      have begun := begun.keeps (createPayment_frame inserted)
      simp only
      cases (oracle .authorize).answer with
      | error e =>
        simp only [Saga.bind_apply, Saga.write_apply, Saga.throw_apply]
        cases fault : (oracle .recordError).fault with
        | some detail =>
          simp only [Oracle.guard, fault, reduceCtorEq, false_and, iff_false]
          exact begun.uncaught rfl
        | none =>
          simp only [Oracle.guard, fault, true_and]
          exact (begun.keeps rfl).caught_iff rfl
      | ok intent =>
        simp only [Saga.bind_apply, Saga.write_apply]
        cases recorded : (oracle .recordResult).guard (recordPaymentResult req.tenant
            (cardPayment req (oracle .insertPayment) placed config).id intent charged) with
        | error e =>
          simp only [iff_false]
          exact begun.uncaught (guard_not_failed recorded recordPaymentResult_never)
        | ok written =>
          have begun := begun.keeps (recordPaymentResult_frame recorded)
          by_cases failed : intent.status = .failed
          · simp only [failed, if_true, Saga.throw_apply, Saga.bind_apply]
            exact begun.caught_iff rfl
          · simp only [failed, if_false, Saga.pure_apply]
            rw [begun.convert_iff, mapGatewayStatus_authorized]

theorem Begun.placed_iff {settings : Settings} {db cur : Db} {placed : Placed}
    (begun : Begun req db placed cur) :
    Clean req db (afterPlaced settings req oracle placed cur) ↔
      PlacedCovers settings req oracle placed cur := by
  unfold afterPlaced PlacedCovers
  cases placed.view.paymentMethod with
  | none =>
    simp only [iff_false]
    exact begun.not_clean rfl _
  | some method =>
    by_cases invoiced : isPurchaseOrder method = true
    · simp only [invoiced, if_true]
      exact begun.invoice_iff
    · simp only [invoiced]
      exact begun.card_iff

end Undoing

theorem reserveStock_held {req : Request} {oracle : Oracle} {view : CartView} {db cur : Db}
    {carts : Table Cart} {ids : List Id}
    (done : reserveStock req.tenant oracle.now oracle.draw view { db with carts } = .ok (ids, cur)) :
    StockHeld req db ids cur ∧ cur = { db with
      carts, products := cur.products, reservations := cur.reservations } := by
  obtain ⟨reserved, moves, named⟩ := reserveStock_reserved done
  refine ⟨⟨⟨_, reserved.rows, named, ?_⟩, moves, reserved.places⟩, reserved.frame⟩
  intro r member
  obtain ⟨e, inside, rfl⟩ := List.mem_map.mp member
  obtain ⟨present, owned, _⟩ := mem_productsToReserve.mp (List.fst_mem_of_mem_zipIdx inside)
  obtain ⟨p, there, same, tenant⟩ := places_kept reserved.places present
  exact ⟨rfl, rfl, itemQuantity_nonnegative view _, p, there, same, tenant.trans owned⟩

/-- A call running alone that raises has undone its earlier phases exactly when
the exception was raised where an except clause undoes them, and the undoing itself
did not fail. -/
theorem checkout_compensates_iff (settings : Settings) (req : Request) (oracle : Point → Oracle)
    (db : Db) :
    (∀ e, (checkout settings req oracle db).1 = .error e →
      Compensated req db (checkout settings req oracle db).2) ↔ UndoCovers settings req oracle db := by
  change Clean req db (checkout settings req oracle db) ↔ _
  have untouched (e : Exn) : Clean req db (.error e, db) := by
    rw [clean_error]
    exact ⟨fun cart member _ _ _ => ⟨cart, member, rfl⟩, rfl, rfl, (StockReturned.refl db).products,
      (StockReturned.refl db).reservations,
      fun _ member fresh => absurd (List.mem_map_of_mem member) fresh⟩
  rw [checkout, Saga.bind_apply, Saga.read_apply, UndoCovers]
  cases (oracle .find).guard (.ok (findExistingCheckout req db)) with
  | error e => exact iff_of_true (untouched e) trivial
  | ok found =>
    cases found with
    | some existing => exact iff_of_true clean_ok trivial
    | none =>
      simp only
      rw [Saga.bind_apply, Saga.block_apply]
      cases locked : (oracle .lock).guard (lockCart req (oracle .lock).now db) with
      | error e => exact iff_of_true (untouched e) trivial
      | ok result =>
        obtain ⟨view, cur⟩ := result
        obtain ⟨taken, frame⟩ := lockCart_taken (guard_ok locked)
        generalize cur.carts = carts at frame
        subst frame
        have returned : StockReturned db { db with carts } :=
          ⟨(StockReturned.refl db).products, (StockReturned.refl db).reservations⟩
        have reverting (e : Exn) := @undo_clean_iff req oracle db _ view {} [] (by simp) taken
          (revert_compensates taken returned
            fun _ member fresh => absurd (List.mem_map_of_mem member) fresh) e
        simp only
        rw [handled_undoing, Saga.handled, Saga.read_apply]
        cases (oracle .validate).guard (validatePreconditions (oracle .validate).now view) with
        | error e => exact reverting e
        | ok _ =>
          simp only
          rw [handled_undoing, Saga.handled, Saga.block_apply]
          cases reserved : (oracle .reserve).guard (reserveStock req.tenant (oracle .reserve).now
              (oracle .reserve).draw view { db with carts }) with
          | error e => exact reverting e
          | ok result =>
            obtain ⟨reservations, cur⟩ := result
            obtain ⟨held, frame⟩ := reserveStock_held (guard_ok reserved)
            have taken : CartTaken req db view cur := taken.keeps (by rw [frame]) (by rw [frame])
              (by rw [frame])
            have orders : cur.orders = db.orders := by rw [frame]
            simp only
            rw [handled_undoing, Saga.handled, Saga.block_apply]
            cases created : (oracle .create).guard (createOrder req (oracle .create) view cur) with
            | error e =>
              refine undo_clean_iff [.releaseReservations] (by simp) taken
                (release_compensates taken held ?_) e
              rw [orders]
              exact fun _ member fresh => absurd (List.mem_map_of_mem member) fresh
            | ok result =>
              obtain ⟨order, last⟩ := result
              have creates := createOrder_creates (guard_ok created)
              change Clean req db (afterPlaced settings req oracle ⟨view, reservations, order⟩ last) ↔ _
              apply Begun.placed_iff
              have rest := creates.frame
              refine ⟨taken.keeps (by rw [rest]) (by rw [rest]) (by rw [rest]), ?_, ?_⟩
              · rw [rest]
                exact ⟨held.opened, held.moves, held.places⟩
              · exact ⟨by rw [creates.orders, orders], orders ▸ fun o member => (creates.fresh o member).1,
                  creates.tenant, creates.status⟩

namespace Sample

-- The gateway was switched off after the customer saved the card.
def deactivated : Db :=
  { shop with
    gatewayConfigs := ⟨[{ mockConfig with is_active := false }], by decide +kernel, by decide +kernel⟩ }

end Sample

theorem checkout_uncompensated : ¬ ∀ e,
    (checkout Sample.settings Sample.request Sample.oracle Sample.deactivated).1 = .error e →
      Compensated Sample.request Sample.deactivated
        (checkout Sample.settings Sample.request Sample.oracle Sample.deactivated).2 := by
  intro compensated
  have raised : raisedBy (checkout Sample.settings Sample.request Sample.oracle Sample.deactivated).1 =
      some (.gatewayNotConfigured "Gateway 'mock' is not configured for this tenant") := by
    decide +kernel
  have left := (compensated _ (raisedBy_eq_some.mp raised)).orders
  revert left
  decide +kernel

end Storefront
