import Storefront.Orders.Phases
import Storefront.Orders.StockLedger
import Storefront.System.Machine

set_option autoImplicit false

/-!
# What a transaction does to orders, payments and reservations

The skeleton holds the columns that are written once. Beside it a transaction
writes statuses, each a function of the row it finds.
-/

namespace Storefront

open Relational Transition

structure OrderCore where
  id : Id
  tenant : Id
  customer : Id
  idempotency_key : String
  cart : Option Id
  subtotal : ℚ
  discount_total : ℚ
  grand_total : ℚ
  currency : String
  deriving DecidableEq

structure HoldCore where
  id : Id
  tenant : Id
  cart : Id
  order : Option Id
  product : Id
  quantity : Int
  deriving DecidableEq

structure PaymentCore where
  id : Id
  tenant : Id
  order : Id
  gateway_config : Option Id
  idempotency_key : String
  amount : ℚ
  currency : String
  deriving DecidableEq

def Order.core (o : Order) : OrderCore :=
  ⟨o.id, o.tenant, o.customer, o.idempotency_key, o.cart, o.subtotal, o.discount_total, o.grand_total, o.currency⟩

def InventoryReservation.core (r : InventoryReservation) : HoldCore :=
  ⟨r.id, r.tenant, r.cart, r.order, r.product, r.quantity⟩

def Payment.core (p : Payment) : PaymentCore :=
  ⟨p.id, p.tenant, p.order, p.gateway_config, p.idempotency_key, p.amount, p.currency⟩

structure Skeleton where
  orders : List OrderCore
  items : List OrderItem
  holds : List HoldCore
  payments : List PaymentCore
  places : List (Id × Id)

namespace Db

def skeleton (db : Db) : Skeleton where
  orders := db.orders.rows.map Order.core
  items := db.orderItems.rows
  holds := db.reservations.rows.map InventoryReservation.core
  payments := db.payments.rows.map Payment.core
  places := db.products.rows.map Product.place

def orderStatus (db : Db) (id : Id) : Option OrderStatus := (db.orders.get id).map Order.status

def paymentStatus (db : Db) (id : Id) : Option PaymentStatus := (db.payments.get id).map Payment.status

def holdStatus (db : Db) (id : Id) : Option ReservationStatus :=
  (db.reservations.get id).map InventoryReservation.status

theorem orderStatus_of_mem {db : Db} {o : Order} (member : o ∈ db.orders.rows) :
    db.orderStatus o.id = some o.status := by
  simp [orderStatus, show db.orders.get o.id = some o from Table.get_of_mem member]

theorem paymentStatus_of_mem {db : Db} {p : Payment} (member : p ∈ db.payments.rows) :
    db.paymentStatus p.id = some p.status := by
  simp [paymentStatus, show db.payments.get p.id = some p from Table.get_of_mem member]

theorem orderStatus_eq_some {db : Db} {id : Id} {s : OrderStatus} :
    db.orderStatus id = some s ↔ ∃ o ∈ db.orders.rows, o.id = id ∧ o.status = s := by
  constructor
  · intro found
    obtain ⟨o, got, rfl⟩ := Option.map_eq_some_iff.mp found
    obtain ⟨member, named⟩ := Table.mem_of_get got
    exact ⟨o, member, named, rfl⟩
  · rintro ⟨o, member, rfl, rfl⟩
    exact orderStatus_of_mem member

theorem paymentStatus_eq_some {db : Db} {id : Id} {s : PaymentStatus} :
    db.paymentStatus id = some s ↔ ∃ p ∈ db.payments.rows, p.id = id ∧ p.status = s := by
  constructor
  · intro found
    obtain ⟨p, got, rfl⟩ := Option.map_eq_some_iff.mp found
    obtain ⟨member, named⟩ := Table.mem_of_get got
    exact ⟨p, member, named, rfl⟩
  · rintro ⟨p, member, rfl, rfl⟩
    exact paymentStatus_of_mem member

end Db

def ReservationStatus.Reaches (s s' : ReservationStatus) : Prop := s' = s ∨ s.Follows s'

theorem ReservationStatus.Reaches.trans {a b c : ReservationStatus} (first : a.Reaches b)
    (second : b.Reaches c) : a.Reaches c := by
  revert first second
  cases a <;> cases b <;> cases c <;> simp [Reaches, Follows]

/-- Nothing is added and the skeleton stays; the new statuses are functions of the old rows. -/
structure Touch (db db' : Db) (f : Order → OrderStatus) (g : Payment → PaymentStatus)
    (h : InventoryReservation → ReservationStatus) : Prop where
  orders : db'.orders.rows.map (fun o => (o.core, o.status)) = db.orders.rows.map fun o => (o.core, f o)
  items : db'.orderItems.rows = db.orderItems.rows
  holds : db'.reservations.rows.map (fun r => (r.core, r.status)) =
    db.reservations.rows.map fun r => (r.core, h r)
  payments : db'.payments.rows.map (fun p => (p.core, p.status)) =
    db.payments.rows.map fun p => (p.core, g p)
  places : db'.products.rows.map Product.place = db.products.rows.map Product.place
  reaches : ∀ r ∈ db.reservations.rows, r.status.Reaches (h r)

abbrev Leaves (db db' : Db) : Prop :=
  Touch db db' Order.status Payment.status InventoryReservation.status

theorem map_transport {α β γ δ : Type} {l : List α} {l' : List β} {view : β → γ} {image : α → γ}
    {read : β → δ} {target : α → δ} (same : l'.map view = l.map image)
    (agree : ∀ a ∈ l, ∀ b ∈ l', view b = image a → read b = target a) : l'.map read = l.map target := by
  induction l generalizing l' with
  | nil => simpa using same
  | cons a rest ih =>
    cases l' with
    | nil => simp at same
    | cons b rest' =>
      simp only [List.map_cons, List.cons.injEq] at same ⊢
      exact ⟨agree a (by simp) b (by simp) same.1, ih same.2 fun x inside y inside' =>
        agree x (by simp [inside]) y (by simp [inside'])⟩

namespace Touch

variable {a b c : Db} {f f' : Order → OrderStatus} {g g' : Payment → PaymentStatus}
  {h h' : InventoryReservation → ReservationStatus}

theorem skeleton (t : Touch a b f g h) : b.skeleton = a.skeleton := by
  have orders : b.orders.rows.map Order.core = a.orders.rows.map Order.core :=
    map_transport t.orders fun _ _ _ _ same => congrArg Prod.fst same
  have holds : b.reservations.rows.map InventoryReservation.core =
      a.reservations.rows.map InventoryReservation.core :=
    map_transport t.holds fun _ _ _ _ same => congrArg Prod.fst same
  have payments : b.payments.rows.map Payment.core = a.payments.rows.map Payment.core :=
    map_transport t.payments fun _ _ _ _ same => congrArg Prod.fst same
  simp [Db.skeleton, orders, holds, payments, t.items, t.places]

theorem order (t : Touch a b f g h) {o : Order} (member : o ∈ a.orders.rows) :
    ∃ o' ∈ b.orders.rows, o'.core = o.core ∧ o'.status = f o := by
  have image : (o.core, f o) ∈ b.orders.rows.map fun o => (o.core, o.status) :=
    t.orders ▸ List.mem_map_of_mem member
  simpa [Prod.ext_iff] using image

theorem order_of (t : Touch a b f g h) {o' : Order} (member : o' ∈ b.orders.rows) :
    ∃ o ∈ a.orders.rows, o'.core = o.core ∧ o'.status = f o := by
  have image : (o'.core, o'.status) ∈ a.orders.rows.map fun o => (o.core, f o) :=
    t.orders ▸ List.mem_map_of_mem member
  simpa [Prod.ext_iff, eq_comm] using image

theorem payment (t : Touch a b f g h) {p : Payment} (member : p ∈ a.payments.rows) :
    ∃ p' ∈ b.payments.rows, p'.core = p.core ∧ p'.status = g p := by
  have image : (p.core, g p) ∈ b.payments.rows.map fun p => (p.core, p.status) :=
    t.payments ▸ List.mem_map_of_mem member
  simpa [Prod.ext_iff] using image

theorem payment_of (t : Touch a b f g h) {p' : Payment} (member : p' ∈ b.payments.rows) :
    ∃ p ∈ a.payments.rows, p'.core = p.core ∧ p'.status = g p := by
  have image : (p'.core, p'.status) ∈ a.payments.rows.map fun p => (p.core, g p) :=
    t.payments ▸ List.mem_map_of_mem member
  simpa [Prod.ext_iff, eq_comm] using image

theorem hold (t : Touch a b f g h) {r : InventoryReservation} (member : r ∈ a.reservations.rows) :
    ∃ r' ∈ b.reservations.rows, r'.core = r.core ∧ r'.status = h r := by
  have image : (r.core, h r) ∈ b.reservations.rows.map fun r => (r.core, r.status) :=
    t.holds ▸ List.mem_map_of_mem member
  simpa [Prod.ext_iff] using image

theorem hold_of (t : Touch a b f g h) {r' : InventoryReservation} (member : r' ∈ b.reservations.rows) :
    ∃ r ∈ a.reservations.rows, r'.core = r.core ∧ r'.status = h r := by
  have image : (r'.core, r'.status) ∈ a.reservations.rows.map fun r => (r.core, h r) :=
    t.holds ▸ List.mem_map_of_mem member
  simpa [Prod.ext_iff, eq_comm] using image

theorem trans {f'' : Order → OrderStatus} {g'' : Payment → PaymentStatus}
    {h'' : InventoryReservation → ReservationStatus} (first : Touch a b f g h)
    (second : Touch b c f' g' h')
    (orders : ∀ o ∈ a.orders.rows, ∀ o', o'.core = o.core → o'.status = f o → f' o' = f'' o)
    (payments : ∀ p ∈ a.payments.rows, ∀ p', p'.core = p.core → p'.status = g p → g' p' = g'' p)
    (holds : ∀ r ∈ a.reservations.rows, ∀ r', r'.core = r.core → r'.status = h r → h' r' = h'' r) :
    Touch a c f'' g'' h'' := by
  refine ⟨second.orders.trans ?_, second.items.trans first.items, second.holds.trans ?_,
    second.payments.trans ?_, second.places.trans first.places, fun r member => ?_⟩
  · exact map_transport first.orders fun o member o' _ same => by
      obtain ⟨core, status⟩ := Prod.mk.inj same
      rw [core, orders o member o' core status]
  · exact map_transport first.holds fun r member r' _ same => by
      obtain ⟨core, status⟩ := Prod.mk.inj same
      rw [core, holds r member r' core status]
  · exact map_transport first.payments fun p member p' _ same => by
      obtain ⟨core, status⟩ := Prod.mk.inj same
      rw [core, payments p member p' core status]
  · obtain ⟨r', present, core, status⟩ := first.hold member
    rw [← holds r member r' core status]
    exact (first.reaches r member).trans (status ▸ second.reaches r' present)

theorem congr (t : Touch a b f g h) (orders : ∀ o ∈ a.orders.rows, f o = f' o)
    (payments : ∀ p ∈ a.payments.rows, g p = g' p) (holds : ∀ r ∈ a.reservations.rows, h r = h' r) :
    Touch a b f' g' h' := by
  refine ⟨t.orders.trans ?_, t.items, t.holds.trans ?_, t.payments.trans ?_, t.places, ?_⟩
  · exact List.map_congr_left fun o member => by rw [orders o member]
  · exact List.map_congr_left fun r member => by rw [holds r member]
  · exact List.map_congr_left fun p member => by rw [payments p member]
  · exact fun r member => holds r member ▸ t.reaches r member

theorem leaves (first : Touch a b f g h) (rest : Leaves b c) : Touch a c f g h :=
  first.trans rest (fun _ _ _ _ status => status) (fun _ _ _ _ status => status)
    fun _ _ _ _ status => status

theorem orderStatus (t : Touch a b f g h) {o : Order} (member : o ∈ a.orders.rows) :
    b.orderStatus o.id = some (f o) := by
  obtain ⟨o', present, core, status⟩ := t.order member
  have named : o'.id = o.id := congrArg OrderCore.id core
  rw [← named, Db.orderStatus_of_mem present, status]

theorem paymentStatus (t : Touch a b f g h) {p : Payment} (member : p ∈ a.payments.rows) :
    b.paymentStatus p.id = some (g p) := by
  obtain ⟨p', present, core, status⟩ := t.payment member
  have named : p'.id = p.id := congrArg PaymentCore.id core
  rw [← named, Db.paymentStatus_of_mem present, status]

end Touch

theorem Leaves.of_tables {db db' : Db} (orders : db'.orders = db.orders)
    (orderItems : db'.orderItems = db.orderItems) (reservations : db'.reservations = db.reservations)
    (payments : db'.payments = db.payments)
    (places : db'.products.rows.map Product.place = db.products.rows.map Product.place) :
    Leaves db db' :=
  ⟨by rw [orders], by rw [orderItems], by rw [reservations], by rw [payments], places,
    fun _ _ => .inl rfl⟩

theorem Leaves.refl (db : Db) : Leaves db db := .of_tables rfl rfl rfl rfl rfl

def settledStatus (t : Settlement) (picked : InventoryReservation → Bool) (r : InventoryReservation) :
    ReservationStatus :=
  if picked r then t.becomes else r.status

theorem Settled.touch {t : Settlement} {picked : InventoryReservation → Bool} {db db' : Db}
    (s : Settled t picked db db')
    (expected : ∀ r ∈ db.reservations.rows, picked r = true → r.status = t.expects) :
    Touch db db' Order.status Payment.status (settledStatus t picked) := by
  refine ⟨by rw [s.orders], by rw [s.orderItems], ?_, by rw [s.payments], s.places, ?_⟩
  · rw [s.rows, List.map_map]
    apply List.map_congr_left
    intro r _
    by_cases now : picked r = true <;>
      simp [Table.updated, settledStatus, now, InventoryReservation.core]
  · intro r member
    unfold settledStatus
    split
    · exact .inr (expected r member ‹_› ▸ rank_follows t.forward)
    · exact .inl rfl

theorem modifyPayments_touch {db : Db} {q : Payment → Bool} {f : Payment → Payment}
    {inert : Table.Inert f} {g : Payment → PaymentStatus} (core : ∀ p, (f p).core = p.core)
    (status : ∀ p, g p = if q p then (f p).status else p.status) :
    Touch db (db.modifyPayments q f inert) Order.status g InventoryReservation.status := by
  refine ⟨rfl, rfl, rfl, ?_, rfl, fun _ _ => .inl rfl⟩
  simp only [Db.modifyPayments, Table.modify_rows, List.map_map]
  apply List.map_congr_left
  intro p _
  by_cases now : q p = true <;> simp [Table.updated, status, now, core]

theorem modifyOrders_touch {db : Db} {q : Order → Bool} {f : Order → Order} {inert : Table.Inert f}
    {g : Order → OrderStatus} (core : ∀ o, (f o).core = o.core)
    (status : ∀ o, g o = if q o then (f o).status else o.status) :
    Touch db (db.modifyOrders q f inert) g Payment.status InventoryReservation.status := by
  refine ⟨?_, rfl, rfl, rfl, rfl, fun _ _ => .inl rfl⟩
  simp only [Db.modifyOrders, Table.modify_rows, List.map_map]
  apply List.map_congr_left
  intro o _
  by_cases now : q o = true <;> simp [Table.updated, status, now, core]

def OrderStatus.at (id : Id) (next : OrderStatus → OrderStatus) (o : Order) : OrderStatus :=
  if o.id = id then next o.status else o.status

def PaymentStatus.at (id : Id) (next : PaymentStatus) (p : Payment) : PaymentStatus :=
  if p.id = id then next else p.status

theorem OrderStatus.at_congr {id : Id} {next : OrderStatus → OrderStatus} {o o' : Order}
    (core : o'.core = o.core) (status : o'.status = o.status) :
    OrderStatus.at id next o' = OrderStatus.at id next o := by
  have named : o'.id = o.id := congrArg OrderCore.id core
  simp [OrderStatus.at, named, status]

theorem saveOrderStatus_touch (db : Db) (id : Id) (status : OrderStatus) :
    Touch db (db.saveOrderStatus id status) (OrderStatus.at id fun _ => status) Payment.status
      InventoryReservation.status :=
  modifyOrders_touch (fun _ => rfl) fun o => by simp [OrderStatus.at]

def Frees (db db' : Db) : Prop :=
  ∃ h, Touch db db' Order.status Payment.status h ∧
    ∀ r ∈ db.reservations.rows, h r = r.status ∨ h r = .released

theorem settleReservations_touch {t : Settlement} {tenant : Id} {ids : List Id} {db db' : Db}
    (done : settleReservations t tenant ids db = .ok db') :
    Touch db db' Order.status Payment.status
      (settledStatus t fun r => ids.contains r.id && r.status == t.expects) :=
  (settleReservations_settled done).1.touch fun r _ picked => by
    simp only [Bool.and_eq_true, beq_iff_eq] at picked
    exact picked.2

theorem settleForOrder_touch {t : Settlement} (active : t.expects = .active) {tenant order : Id}
    {db db' : Db} (done : settleForOrder t tenant order db = .ok db') :
    Touch db db' Order.status Payment.status (settledStatus t (ofOrder tenant order .active)) :=
  (settleForOrder_settled done).1.touch fun r _ picked => by
    simp only [ofOrder, Bool.and_eq_true, beq_iff_eq] at picked
    exact picked.2.trans active.symm

theorem settledStatus_frees {t : Settlement} (frees : t.becomes = .released)
    (picked : InventoryReservation → Bool) (r : InventoryReservation) :
    settledStatus t picked r = r.status ∨ settledStatus t picked r = .released := by
  unfold settledStatus
  split
  · exact .inr frees
  · exact .inl rfl

theorem releaseReservations_frees {tenant : Id} {ids : List Id} {db db' : Db}
    (done : releaseReservations tenant ids db = .ok db') : Frees db db' :=
  ⟨_, settleReservations_touch done, fun r _ => settledStatus_frees rfl _ r⟩

theorem releaseExpiredBatch_frees {scan : Scan} {now : Time} {db db' : Db}
    (done : releaseExpiredBatch scan now db = .ok db') : Frees db db' := by
  refine ⟨_, (settling_releaseExpiredOne.foldlM_settled done).touch ?_,
    fun r _ => settledStatus_frees rfl _ r⟩
  intro r member picked
  rw [List.contains_iff_mem] at picked
  obtain ⟨other, inside, same⟩ := List.mem_map.mp picked
  have listed := (scan.perm _).mem_iff.mp (List.mem_of_mem_take inside)
  obtain ⟨present, old⟩ := List.mem_filter.mp listed
  obtain rfl : other = r := db.reservations.eq_of_key present member same
  simp only [Bool.and_eq_true, beq_iff_eq] at old
  exact old.1

theorem updateCarts_leaves {q : Cart → Bool} {f : Cart → Cart} {db db' : Db}
    (done : db.updateCarts q f = .ok db') : Leaves db db' := by
  simp only [Db.updateCarts, stored_eq_ok] at done
  obtain ⟨carts, _, rfl⟩ := done
  exact .of_tables rfl rfl rfl rfl rfl

theorem updateProducts_leaves {q : Product → Bool} {f : Product → Product} {db db' : Db}
    (done : db.updateProducts q f = .ok db') (keeps : ∀ p, (f p).place = p.place) : Leaves db db' := by
  simp only [Db.updateProducts, stored_eq_ok] at done
  obtain ⟨products, updated, rfl⟩ := done
  refine .of_tables rfl rfl rfl rfl ?_
  simp only [Table.update_rows updated]
  exact Table.map_updated _ _ _ _ fun p _ _ => keeps p

theorem lockCart_leaves {req : Request} {now : Time} {view : CartView} {db db' : Db}
    (done : lockCart req now db = .ok (view, db')) : Leaves db db' := by
  simp only [lockCart, bind_eq_ok, pure_eq_ok, Prod.mk.injEq] at done
  obtain ⟨_, _, mid, updated, rfl, rfl⟩ := done
  exact updateCarts_leaves updated

theorem recordPaymentError_leaves (tenant payment : Id) (message : String) (db : Db) :
    Leaves db (recordPaymentError tenant payment message db) :=
  modifyPayments_touch (fun _ => rfl) fun p => by split <;> rfl

theorem patchProduct_leaves {tenant product : Id} {data : ProductUpdate} {db db' : Db}
    (done : patchProduct tenant product data db = .ok db') : Leaves db db' :=
  updateProducts_leaves (patchProduct_updates done) fun _ => rfl

theorem deactivateProduct_leaves {tenant product : Id} {db db' : Db}
    (done : deactivateProduct tenant product db = .ok db') : Leaves db db' :=
  updateProducts_leaves (deactivateProduct_updates done) fun _ => rfl

def OrderStatus.cancelOwn (s : OrderStatus) : OrderStatus :=
  if s = .pending ∨ s = .paid then .cancelled else s

theorem at_congr_of_mem {db : Db} {o : Order} (member : o ∈ db.orders.rows)
    {next next' : OrderStatus → OrderStatus} (same : next o.status = next' o.status) :
    ∀ r ∈ db.orders.rows, OrderStatus.at o.id next r = OrderStatus.at o.id next' r := by
  intro r inside
  by_cases named : r.id = o.id
  · rw [db.orders.eq_of_key inside member named]
    simp [OrderStatus.at, same]
  · simp [OrderStatus.at, named]

theorem at_self {db : Db} {o : Order} (member : o ∈ db.orders.rows) {next : OrderStatus → OrderStatus}
    (same : next o.status = o.status) : ∀ r ∈ db.orders.rows, r.status = OrderStatus.at o.id next r := by
  intro r inside
  rw [← @at_congr_of_mem db o member id next same.symm r inside]
  simp [OrderStatus.at]

theorem cancelOwnOrder_touch {tenant id : Id} {db db' : Db}
    (done : cancelOwnOrder tenant id db = .ok db') :
    Touch db db' (OrderStatus.at id OrderStatus.cancelOwn) Payment.status InventoryReservation.status := by
  obtain ⟨o, member, rfl, _, rfl⟩ := cancelOwnOrder_eq_ok.mp done
  split
  next live =>
    exact (saveOrderStatus_touch db o.id .cancelled).congr
      (at_congr_of_mem member (by simp [OrderStatus.cancelOwn, live])) (fun _ _ => rfl) fun _ _ => rfl
  next closed =>
    exact (Leaves.refl db).congr (at_self member (by simp [OrderStatus.cancelOwn, closed]))
      (fun _ _ => rfl) fun _ _ => rfl

theorem markCaptured_touch {req : Request} {placed : Placed} {db db' : Db}
    (done : markCaptured req placed db = .ok db') :
    Touch db db' (OrderStatus.at placed.order.id fun _ => .paid) Payment.status
      (settledStatus .commit fun r => placed.reservations.contains r.id && r.status == .active) := by
  have committed := settleReservations_touch (markCaptured_eq_ok.mp done).2
  refine (saveOrderStatus_touch db _ .paid).trans committed (fun _ _ _ _ status => status)
    (fun _ _ _ _ status => status) fun r _ r' core status => ?_
  have named : r'.id = r.id := congrArg HoldCore.id core
  simp [settledStatus, named, status, Settlement.commit]

theorem recordPaymentResult_touch {tenant payment : Id} {intent : PaymentIntent} {db db' : Db}
    (done : recordPaymentResult tenant payment intent db = .ok db') :
    Touch db db' Order.status (fun p =>
      if p.tenant = tenant ∧ p.id = payment then mapGatewayStatus intent.status else p.status)
      InventoryReservation.status := by
  obtain ⟨_, rfl⟩ := recordPaymentResult_eq_ok.mp done
  exact modifyPayments_touch (fun _ => rfl) fun p => by simp

theorem captureWrite_touch (tenant payment : Id) (intent : PaymentIntent) (db : Db) :
    Touch db (captureWrite tenant payment intent db) Order.status (fun p =>
      if (p.tenant = tenant ∧ p.id = payment) ∧ p.status = .authorized then
        mapGatewayStatus intent.status else p.status) InventoryReservation.status :=
  modifyPayments_touch (fun _ => rfl) fun p => by simp

theorem refundWrite_touch (tenant payment : Id) (intent : PaymentIntent) (db : Db) :
    Touch db (refundWrite tenant payment intent db) Order.status (fun p =>
      if p.tenant = tenant ∧ p.id = payment then mapGatewayStatus intent.status else p.status)
      InventoryReservation.status :=
  modifyPayments_touch (fun _ => rfl) fun p => by simp

theorem Touch.both {a b c : Db} {f : Order → OrderStatus} {g : Payment → PaymentStatus}
    {h : InventoryReservation → ReservationStatus}
    (first : Touch a b Order.status g InventoryReservation.status) (orders : b.orders = a.orders)
    (reservations : b.reservations = a.reservations) (second : Touch b c f Payment.status h) :
    Touch a c f g h :=
  ⟨orders ▸ second.orders, second.items.trans first.items, reservations ▸ second.holds,
    second.payments.trans (map_transport first.payments fun _ _ _ _ same => same),
    second.places.trans first.places, reservations ▸ second.reaches⟩

def closedWith (tenant order : Id) (p : Payment) : PaymentStatus :=
  if (p.tenant = tenant ∧ p.order = order) ∧ openPayment p.status = true then .cancelled else p.status

theorem release_reverse_frees {tenant : Id} {ids ids' : List Id} {a b c : Db}
    (released : releaseReservations tenant ids a = .ok b)
    (reversed : reverseCommittedReservations tenant ids' b = .ok c) : Frees a c := by
  let kept := settledStatus .release fun r => ids.contains r.id && r.status == .active
  refine ⟨fun r => if ids'.contains r.id && kept r == .committed then .released else kept r,
    (settleReservations_touch released).trans (settleReservations_touch reversed)
      (fun _ _ _ _ status => status) (fun _ _ _ _ status => status) fun r _ r' core status => ?_,
    fun r _ => ?_⟩
  · have named : r'.id = r.id := congrArg HoldCore.id core
    change r'.status = kept r at status
    simp [settledStatus, named, status, Settlement.reverse]
  · dsimp only
    split
    · exact .inr rfl
    · exact settledStatus_frees rfl _ r

theorem cancelOrder_touch {tenant customer order : Id} {db db' : Db}
    (done : cancelOrder tenant customer order db = .ok db') :
    db' = db ∨ ∃ o ∈ db.orders.rows, o.id = order ∧ o.tenant = tenant ∧ o.status = .pending ∧ ∃ h,
      Touch db db' (OrderStatus.at order fun _ => .cancelled) (closedWith tenant order) h ∧
        ∀ r ∈ db.reservations.rows, h r = r.status ∨ h r = .released := by
  simp only [cancelOrder, bind_eq_ok, orRaise_eq_ok] at done
  obtain ⟨o, found, rest⟩ := done
  have member := List.mem_of_find?_eq_some found
  have named := List.find?_some found
  simp only [Bool.and_eq_true, beq_iff_eq] at named
  split at rest
  · rw [pure_eq_ok] at rest
    exact .inl rest.symm
  · simp only [bind_eq_ok, require_eq_ok, pure_eq_ok] at rest
    obtain ⟨_, pending, mid, released, last, reversed, rfl⟩ := rest
    rw [named.2] at released reversed ⊢
    obtain ⟨h, freed, frees⟩ := release_reverse_frees released reversed
    refine .inr ⟨o, member, named.2, named.1.1, pending, h, ?_, frees⟩
    let close (p : Payment) : Payment := { p with status := .cancelled }
    have closing : Touch last (last.modifyPayments
        (fun p => p.tenant == tenant && p.order == order && openPayment p.status) close
        ⟨fun _ => rfl, fun _ => rfl⟩) Order.status (closedWith tenant order) InventoryReservation.status :=
      modifyPayments_touch (fun _ => rfl) fun p => by simp [closedWith, close]
    have closed := closing.both rfl rfl (saveOrderStatus_touch _ order .cancelled)
    refine freed.trans closed (fun _ _ _ core status => OrderStatus.at_congr core status)
      (fun p _ p' core status => ?_) fun _ _ _ _ status => status
    have tenant : p'.tenant = p.tenant := congrArg PaymentCore.tenant core
    have order : p'.order = p.order := congrArg PaymentCore.order core
    simp [closedWith, tenant, order, status]

def OrderStatus.pay (s : OrderStatus) : OrderStatus := if s = .pending then .paid else s
def OrderStatus.close (s : OrderStatus) : OrderStatus := if s = .pending then .cancelled else s

-- What the order's own tasks do to its reservations while the order is pending.
def heldStatus (t : Settlement) (tenant : Id) (o : Order) (r : InventoryReservation) : ReservationStatus :=
  if o.status = .pending then settledStatus t (ofOrder tenant o.id .active) r else r.status

theorem settle_saved {t : Settlement} (active : t.expects = .active) {tenant : Id} {order : Order}
    {status : OrderStatus} {db db' : Db}
    (done : settleForOrder t tenant order.id (db.saveOrderStatus order.id status) = .ok db') :
    Touch db db' (OrderStatus.at order.id fun _ => status) Payment.status
      (settledStatus t (ofOrder tenant order.id .active)) := by
  refine (saveOrderStatus_touch db order.id status).trans (settleForOrder_touch active done)
    (fun _ _ _ _ status => status) (fun _ _ _ _ status => status) fun r _ r' core status => ?_
  have tenant : r'.tenant = r.tenant := congrArg HoldCore.tenant core
  have order : r'.order = r.order := congrArg HoldCore.order core
  simp [settledStatus, ofOrder, tenant, order, status]

theorem applyOrderPaid_touch {tenant : Id} {order : Order} {db db' : Db}
    (member : order ∈ db.orders.rows) (done : applyOrderPaid tenant order db = .ok db') :
    Touch db db' (OrderStatus.at order.id OrderStatus.pay) Payment.status
      (heldStatus .commit tenant order) := by
  unfold applyOrderPaid at done
  split at done
  next pending =>
    exact (settle_saved rfl done).congr (at_congr_of_mem member (by simp [OrderStatus.pay, pending]))
      (fun _ _ => rfl) fun _ _ => by simp [heldStatus, pending]
  next other =>
    cases done
    exact (Leaves.refl db).congr (at_self member (by simp [OrderStatus.pay, other]))
      (fun _ _ => rfl) fun _ _ => by simp [heldStatus, other]

theorem revertCartIfCheckingOut_leaves {order : Order} {db db' : Db}
    (done : revertCartIfCheckingOut order db = .ok db') : Leaves db db' := by
  unfold revertCartIfCheckingOut at done
  split at done
  · cases done; exact .refl db
  · exact updateCarts_leaves done

theorem applyOrderCancelled_touch {tenant : Id} {order : Order} {db db' : Db}
    (member : order ∈ db.orders.rows) (done : applyOrderCancelled tenant order db = .ok db') :
    Touch db db' (OrderStatus.at order.id OrderStatus.close) Payment.status
      (heldStatus .release tenant order) := by
  unfold applyOrderCancelled at done
  split at done
  next pending =>
    obtain ⟨mid, released, reverted⟩ := bind_eq_ok.mp done
    exact ((settle_saved rfl released).leaves (revertCartIfCheckingOut_leaves reverted)).congr
      (at_congr_of_mem member (by simp [OrderStatus.close, pending])) (fun _ _ => rfl)
      fun _ _ => by simp [heldStatus, pending]
  next other =>
    rw [pure_eq_ok] at done
    subst done
    exact (Leaves.refl db).congr (at_self member (by simp [OrderStatus.close, other]))
      (fun _ _ => rfl) fun _ _ => by simp [heldStatus, other]

-- What an event of this type makes of its order, and of the reservations.
def eventTarget (event_type : Json) (s : OrderStatus) : OrderStatus :=
  if event_type.isText "payment.captured" then s.pay
  else if event_type.isText "payment.failed" || event_type.isText "payment.cancelled" then s.close
  else if event_type.isText "payment.refunded" then .refunded
  else s

def eventHeld (event_type : Json) (tenant : Id) (o : Order) (r : InventoryReservation) :
    ReservationStatus :=
  if event_type.isText "payment.captured" then heldStatus .commit tenant o r
  else if event_type.isText "payment.failed" || event_type.isText "payment.cancelled" then
    heldStatus .release tenant o r
  else r.status

theorem applyToOrder_touch {tenant : Id} {event_type : Json} {order : Order} {db db' : Db}
    (member : order ∈ db.orders.rows) (done : applyToOrder tenant event_type order db = .ok db') :
    Touch db db' (OrderStatus.at order.id (eventTarget event_type)) Payment.status
      (eventHeld event_type tenant order) := by
  unfold applyToOrder at done
  split at done
  next captured =>
    exact (applyOrderPaid_touch member done).congr (fun _ _ => by simp [OrderStatus.at, eventTarget, captured])
      (fun _ _ => rfl) fun _ _ => by simp [eventHeld, captured]
  next uncaptured =>
    split at done
    next closed =>
      exact (applyOrderCancelled_touch member done).congr
        (fun _ _ => by simp only [OrderStatus.at, eventTarget, uncaptured, closed]; rfl)
        (fun _ _ => rfl) fun _ _ => by simp only [eventHeld, uncaptured, closed]; rfl
    next unclosed =>
      split at done
      next refunded =>
        cases done
        exact (saveOrderStatus_touch db order.id .refunded).congr
          (fun _ _ => by simp only [OrderStatus.at, eventTarget, uncaptured, unclosed, refunded]; rfl)
          (fun _ _ => rfl) fun _ _ => by simp only [eventHeld, uncaptured, unclosed]; rfl
      next other =>
        cases done
        exact (Leaves.refl db).congr
          (at_self member (by simp only [eventTarget, uncaptured, unclosed, other]; rfl))
          (fun _ _ => rfl) fun _ _ => by simp only [eventHeld, uncaptured, unclosed]; rfl

theorem storeWebhookStatus_touch (payment : Id) (task : WebhookTask) (now : Time) (db : Db) :
    Touch db (storeWebhookStatus payment task now db) Order.status
      (PaymentStatus.at payment (mapGatewayStatus task.new_status)) InventoryReservation.status :=
  modifyPayments_touch (fun _ => rfl) fun p => by simp [PaymentStatus.at]

theorem applyWebhookEvent_touch {lib : WebhookLibrary} {task : WebhookTask} {now : Time} {db db' : Db}
    (done : applyWebhookEvent lib task now db = .ok db') :
    ∃ p ∈ db.payments.rows, p.id = task.payment ∧ p.tenant = task.tenant ∧
      ∃ o ∈ db.orders.rows, o.id = p.order ∧ o.tenant = task.tenant ∧
      Touch db db' (OrderStatus.at o.id (eventTarget task.event_type))
        (PaymentStatus.at p.id (mapGatewayStatus task.new_status))
        (eventHeld task.event_type task.tenant o) := by
  simp only [applyWebhookEvent, bind_eq_ok, payment_eq_ok, order_eq_ok, Db.insertWebhookEvent,
    stored_eq_ok] at done
  obtain ⟨_, _, mid, ⟨events, _, rfl⟩, p, ⟨member, named, owned⟩, o, ⟨present, same, visible⟩, applied⟩ :=
    done
  refine ⟨p, member, named, owned, o, present, same, visible, ?_⟩
  -- The ledger row is outside the skeleton.
  have touch := (storeWebhookStatus_touch p.id task now { db with webhookEvents := events }).both rfl rfl
    (applyToOrder_touch present applied)
  exact ⟨touch.orders, touch.items, touch.holds, touch.payments, touch.places, touch.reaches⟩

theorem processWebhookEvent_cases {lib : WebhookLibrary} {task : WebhookTask} {now : Time} {db db' : Db}
    (done : processWebhookEvent lib task now db = .ok db') :
    db' = db ∨ applyWebhookEvent lib task now db = .ok db' := by
  unfold processWebhookEvent at done
  split at done
  · cases done; exact .inl rfl
  · exact .inr done

-- What a reconciled status makes of the order, and of the reservations.
def reconcileTarget (status : PaymentStatus) (s : OrderStatus) : OrderStatus :=
  if status = .captured then s.pay else if status = .failed ∨ status = .cancelled then s.close else s

def reconcileHeld (status : PaymentStatus) (tenant : Id) (o : Order) (r : InventoryReservation) :
    ReservationStatus :=
  if status = .captured then heldStatus .commit tenant o r
  else if status = .failed ∨ status = .cancelled then heldStatus .release tenant o r
  else r.status

theorem storeReconciled_touch (payment : Id) (status : PaymentStatus) (note : String) (value : Json)
    (now : Time) (db : Db) : Touch db (storeReconciled payment status note value now db) Order.status
      (PaymentStatus.at payment status) InventoryReservation.status :=
  modifyPayments_touch (fun _ => rfl) fun p => by simp [PaymentStatus.at]

theorem orderUnscoped_eq_ok {db : Db} {id : Id} {o : Order} (found : orderUnscoped db id = .ok o) :
    o ∈ db.orders.rows ∧ o.id = id := by
  simp only [orderUnscoped, orRaise_eq_ok] at found
  exact ⟨List.mem_of_find?_eq_some found, by simpa using List.find?_some found⟩

-- The status a reconciliation writes to a pending payment, if any.
def reconciledStatus (payment : Payment) (answer : Except Exn (Option PaymentIntent)) :
    Option PaymentStatus :=
  if payment.gateway_transaction_id = "" then some .failed
  else match answer with
    | .ok (some intent) =>
      if intent.status = .pending then none else some (mapGatewayStatus intent.status)
    | _ => none

theorem reconcileOne_touch {payment : Id} {answer : Except Exn (Option PaymentIntent)} {now : Time}
    {db db' : Db} {outcome : ReconcileOutcome}
    (done : reconcileOne payment answer now db = .ok (outcome, db')) :
    (db' = db ∧ ∀ p ∈ db.payments.rows, p.id = payment → p.status = .pending →
        reconciledStatus p answer = none) ∨
      ∃ p ∈ db.payments.rows, p.id = payment ∧ p.status = .pending ∧ ∃ status,
      reconciledStatus p answer = some status ∧ status ≠ .invoicePending ∧
      ((status ≠ .captured ∧ status ≠ .failed ∧ status ≠ .cancelled ∧
          Touch db db' Order.status (PaymentStatus.at p.id status) InventoryReservation.status) ∨
        ∃ o ∈ db.orders.rows, o.id = p.order ∧
          Touch db db' (OrderStatus.at o.id (reconcileTarget status)) (PaymentStatus.at p.id status)
            (reconcileHeld status p.tenant o)) := by
  have closing {p : Payment} {status : PaymentStatus} {note : String} {value : Json} {last : Db}
      (failed : status ≠ .captured) (closed : status = .failed ∨ status = .cancelled)
      (marked : markOrderCancelledAndRelease p.tenant p.order
        (storeReconciled p.id status note value now db) = .ok last) :
      ∃ o ∈ db.orders.rows, o.id = p.order ∧ Touch db last (OrderStatus.at o.id (reconcileTarget status))
        (PaymentStatus.at p.id status) (reconcileHeld status p.tenant o) := by
    obtain ⟨o, found, applied⟩ := bind_eq_ok.mp marked
    obtain ⟨member, named⟩ := orderUnscoped_eq_ok found
    refine ⟨o, member, named, ((storeReconciled_touch _ _ _ _ _ _).both rfl rfl
      (applyOrderCancelled_touch member applied)).congr (fun _ _ => ?_) (fun _ _ => rfl) fun _ _ => ?_⟩
    · simp [OrderStatus.at, reconcileTarget, failed, closed]
    · simp [reconcileHeld, failed, closed]
  unfold reconcileOne at done
  split at done
  next absent =>
    cases done
    refine .inl ⟨rfl, fun p member named pending => ?_⟩
    have missed := List.find?_eq_none.mp absent p member
    simp [named, pending] at missed
  next p found =>
    have member := List.mem_of_find?_eq_some found
    have picked := List.find?_some found
    simp only [Bool.and_eq_true, beq_iff_eq] at picked
    have only {q : Payment} (inside : q ∈ db.payments.rows) (named : q.id = payment) : q = p :=
      db.payments.eq_of_key inside member (named.trans picked.1.symm)
    split at done
    next unnamed =>
      simp only [reconcileUnknownIntent, bind_eq_ok, pure_eq_ok, Prod.mk.injEq] at done
      obtain ⟨last, marked, _, rfl⟩ := done
      exact .inr ⟨p, member, picked.1, picked.2, .failed, by simp [reconciledStatus, unnamed], by simp,
        .inr (closing (by simp) (by simp) marked)⟩
    next named =>
      simp only [reconcileKnownIntent, bind_eq_ok] at done
      obtain ⟨_, _, _, _, rest⟩ := done
      split at rest
      · cases rest
        exact .inl ⟨rfl, fun q inside same _ => by simp [only inside same, reconciledStatus, named]⟩
      · cases rest
        exact .inl ⟨rfl, fun q inside same _ => by simp [only inside same, reconciledStatus, named]⟩
      next intent =>
        have unsettled : mapGatewayStatus intent.status ≠ .invoicePending := by
          cases intent.status <;> simp [mapGatewayStatus]
        split at rest
        next waiting =>
          cases rest
          exact .inl ⟨rfl, fun q inside same _ => by simp [only inside same, reconciledStatus, named, waiting]⟩
        next settled =>
          have written : reconciledStatus p (.ok (some intent)) = some (mapGatewayStatus intent.status) := by
            simp [reconciledStatus, named, settled]
          split at rest
          next captured =>
            simp only [markOrderPaid, bind_eq_ok, pure_eq_ok, Prod.mk.injEq] at rest
            obtain ⟨last, ⟨o, seen, applied⟩, _, rfl⟩ := rest
            obtain ⟨present, named⟩ := orderUnscoped_eq_ok seen
            refine .inr ⟨p, member, picked.1, picked.2, _, written, unsettled, .inr ⟨o, present, named, ?_⟩⟩
            refine ((storeReconciled_touch _ _ _ _ _ _).both rfl rfl
              (applyOrderPaid_touch present applied)).congr (fun _ _ => ?_) (fun _ _ => rfl) fun _ _ => ?_
            · simp [OrderStatus.at, reconcileTarget, captured]
            · simp [reconcileHeld, captured]
          next other =>
            split at rest
            next closed =>
              simp only [bind_eq_ok, pure_eq_ok, Prod.mk.injEq] at rest
              obtain ⟨last, marked, _, rfl⟩ := rest
              exact .inr ⟨p, member, picked.1, picked.2, _, written, unsettled, .inr (closing other closed marked)⟩
            next neither =>
              rw [pure_eq_ok, Prod.mk.injEq] at rest
              obtain ⟨_, rfl⟩ := rest
              rw [not_or] at neither
              exact .inr ⟨p, member, picked.1, picked.2, _, written, unsettled,
                .inl ⟨other, neither.1, neither.2, storeReconciled_touch _ _ _ _ _ _⟩⟩

theorem markPaidWrite_touch {tenant order payment : Id} {reference : String} {now : Time} {db db' : Db}
    (done : markPaidWrite tenant order payment reference now db = .ok db') :
    ∃ p ∈ db.payments.rows, p.id = payment ∧ (p.status = .captured ∨ p.status = .invoicePending) ∧
      ∃ o ∈ db.orders.rows, o.id = order ∧ o.tenant = tenant ∧
      Touch db db' (OrderStatus.at order fun _ => .paid) (PaymentStatus.at payment .captured)
        InventoryReservation.status := by
  simp only [markPaidWrite, markInvoicePaid, bind_eq_ok, payment_eq_ok, order_eq_ok, pure_eq_ok] at done
  obtain ⟨mid, ⟨p, ⟨member, rfl, _⟩, written⟩, o, ⟨present, rfl, owned⟩, last⟩ := done
  have first : (p.status = .captured ∨ p.status = .invoicePending) ∧ mid.orders = db.orders ∧
      mid.reservations = db.reservations ∧
      Touch db mid Order.status (PaymentStatus.at p.id .captured) InventoryReservation.status := by
    split at written
    next captured =>
      rw [pure_eq_ok] at written
      subst written
      refine ⟨.inl captured, rfl, rfl, (Leaves.refl db).congr (fun _ _ => rfl) (fun r inside => ?_)
        fun _ _ => rfl⟩
      by_cases same : r.id = p.id
      · rw [db.payments.eq_of_key inside member same]
        simp [PaymentStatus.at, captured]
      · simp [PaymentStatus.at, same]
    next uncaptured =>
      simp only [bind_eq_ok, require_eq_ok, pure_eq_ok] at written
      obtain ⟨_, pending, rfl⟩ := written
      exact ⟨.inr pending, rfl, rfl, modifyPayments_touch (fun _ => rfl) fun r => by
        simp [PaymentStatus.at]⟩
  obtain ⟨status, orders, reservations, stored⟩ := first
  have there : o ∈ db.orders.rows := orders ▸ present
  refine ⟨p, member, rfl, status, o, there, rfl, owned, ?_⟩
  split at last
  next paid =>
    subst last
    exact stored.congr (at_self there (by simp [paid])) (fun _ _ => rfl) fun _ _ => rfl
  next unpaid =>
    subst last
    exact stored.both orders reservations (saveOrderStatus_touch mid o.id .paid)

end Storefront
