import Storefront.System.Ownership

set_option autoImplicit false

/-!
# Every step keeps the owners
-/

namespace Storefront

open Relational Transition

structure Links (reservations : List Id) (order cart : Id) (h : InventoryReservation → ReservationStatus)
    (db db' : Db) : Prop where
  orders : db'.orders.rows.map (fun o => (o.core, o.status)) = db.orders.rows.map fun o =>
    (if o.core.id = order then { o.core with cart := some cart } else o.core, o.status)
  items : db'.orderItems = db.orderItems
  holds : db'.reservations.rows.map (fun r => (r.core, r.status)) = db.reservations.rows.map fun r =>
    (if reservations.contains r.core.id then { r.core with order := some order } else r.core, h r)
  payments : db'.payments = db.payments
  places : db'.products.rows.map Product.place = db.products.rows.map Product.place

theorem Links.skeleton {reservations : List Id} {order cart : Id}
    {h : InventoryReservation → ReservationStatus} {db db' : Db}
    (links : Links reservations order cart h db db') :
    db'.skeleton = db.skeleton.link reservations order cart := by
  have orders : db'.orders.rows.map Order.core = db.orders.rows.map fun o =>
      if o.core.id = order then { o.core with cart := some cart } else o.core :=
    map_transport links.orders fun _ _ _ _ same => congrArg Prod.fst same
  have holds : db'.reservations.rows.map InventoryReservation.core = db.reservations.rows.map fun r =>
      if reservations.contains r.core.id then { r.core with order := some order } else r.core :=
    map_transport links.holds fun _ _ _ _ same => congrArg Prod.fst same
  simp only [Db.skeleton, Skeleton.link, orders, holds, links.items, links.payments, links.places,
    List.map_map]
  rfl

theorem linkReservations_links {reservations : List Id} {order : Id} {db : Db} :
    (linkReservations reservations order db).reservations.rows.map (fun r => (r.core, r.status)) =
      db.reservations.rows.map fun r => (if reservations.contains r.core.id then
        { r.core with order := some order } else r.core, r.status) := by
  simp only [linkReservations, Db.modifyReservations, Table.modify_rows, List.map_map]
  apply List.map_congr_left
  intro r _
  by_cases named : r.id ∈ reservations <;> simp [Table.updated, InventoryReservation.core, named]

theorem modifyOrders_links {db : Db} {order cart : Id} {f : Order → Order} (inert : Table.Inert f)
    (linked : ∀ o, (f o).core = { o.core with cart := some cart } ∧ (f o).status = o.status) :
    (db.modifyOrders (fun o => o.id == order) f inert).orders.rows.map (fun o => (o.core, o.status)) =
      db.orders.rows.map fun o =>
        (if o.core.id = order then { o.core with cart := some cart } else o.core, o.status) := by
  simp only [Db.modifyOrders, Table.modify_rows, List.map_map]
  apply List.map_congr_left
  intro o _
  have id : o.core.id = o.id := rfl
  by_cases named : o.id = order <;> simp [Table.updated, linked, named, id]

theorem commitCart_links {req : Request} {now : Time} {placed : Placed} {db db' : Db}
    (done : commitCart req now placed db = .ok db') :
    Links placed.reservations placed.order.id placed.view.cart.id InventoryReservation.status db db' := by
  simp only [commitCart, bind_eq_ok, pure_eq_ok] at done
  obtain ⟨mid, converted, rfl⟩ := done
  have frame := convertCart_frame converted
  have orders : mid.orders = db.orders := by rw [frame]
  have reservations : mid.reservations = db.reservations := by rw [frame]
  refine ⟨?_, ?_, ?_, ?_, ?_⟩
  · rw [← orders]
    refine modifyOrders_links ?_ fun _ => ?_
    · exact ⟨fun _ => rfl, fun _ => rfl⟩
    · exact ⟨rfl, rfl⟩
  · rw [frame]; rfl
  · rw [linkReservations_links]
    simp only [Db.modifyOrders, reservations]
  · rw [frame]; rfl
  · rw [frame]; rfl

theorem convertInvoiced_links {req : Request} {now : Time} {placed : Placed} {db db' : Db}
    (done : convertInvoiced req now placed db = .ok db') :
    Links placed.reservations placed.order.id placed.view.cart.id
      (settledStatus .commit fun r => placed.reservations.contains r.id && r.status == .active) db db' := by
  simp only [convertInvoiced, bind_eq_ok, order_eq_ok] at done
  obtain ⟨o, ⟨member, named, owned⟩, mid, converted, committed⟩ := done
  have frame := convertCart_frame converted
  have settled := (settleReservations_settled committed).1
  have orders : db'.orders = mid.orders := settled.orders
  have payments : db'.payments = mid.payments := settled.payments
  have items : db'.orderItems = mid.orderItems := settled.orderItems
  have reservations : mid.reservations = db.reservations := by rw [frame]; rfl
  refine ⟨?_, ?_, ?_, ?_, ?_⟩
  · rw [orders, frame, ← named]
    refine modifyOrders_links ?_ fun _ => ?_
    · exact ⟨fun _ => rfl, fun _ => rfl⟩
    · exact ⟨rfl, rfl⟩
  · rw [items, frame]; rfl
  · have touch := settleReservations_touch committed
    refine touch.holds.trans (map_transport linkReservations_links fun r _ r' _ same => ?_) |>.trans
      (by rw [reservations])
    obtain ⟨core, status⟩ := Prod.mk.inj same
    have id : r'.id = r.id := (congrArg HoldCore.id core).trans (by split <;> rfl)
    simp only [core, settledStatus, id, status, Settlement.commit]
  · rw [payments, frame]; rfl
  · rw [settled.places, frame]; rfl

theorem createProduct_grows {tenant id : Id} {data : ProductCreate} {db db' : Db}
    (done : createProduct tenant id data db = .ok db') :
    db' = { db with products := db'.products } ∧
      db'.skeleton = db.skeleton.addPlace (id, tenant) := by
  simp only [createProduct, bind_eq_ok, Db.insertProduct, stored_eq_ok] at done
  obtain ⟨_, _, _, _, products, inserted, rfl⟩ := done
  refine ⟨rfl, ?_⟩
  simp [Db.skeleton, Skeleton.addPlace, Table.insert_rows inserted, Product.place]

theorem createPayment_grows {row : Payment} {db db' : Db} (done : createPayment row db = .ok db') :
    db' = { db with payments := db'.payments } ∧ db'.payments.rows = db.payments.rows ++ [row] ∧
      db'.skeleton = db.skeleton.addPayment row.core := by
  obtain ⟨_, payments, inserted, rfl⟩ := createPayment_eq_ok.mp done
  refine ⟨rfl, Table.insert_rows inserted, ?_⟩
  simp [Db.skeleton, Skeleton.addPayment, Table.insert_rows inserted]

theorem Creates.grows {req : Request} {view : CartView} {order : Order} {db db' : Db}
    (creates : Creates req view order db db') :
    ∃ items : List OrderItem, db'.skeleton = db.skeleton.addOrder order.core items ∧
      (∀ i ∈ items, i.order = order.id) ∧
      items.map (fun i => (i.product, i.quantity)) =
        view.items.map fun i => (some i.product, i.quantity) := by
  obtain ⟨items, rows, mine, lines⟩ := creates.lines
  refine ⟨items, ?_, mine, lines⟩
  have reservations : db'.reservations = db.reservations := by rw [creates.frame]
  have payments : db'.payments = db.payments := by rw [creates.frame]
  have products : db'.products = db.products := by rw [creates.frame]
  simp [Db.skeleton, Skeleton.addOrder, creates.orders, rows, reservations, payments, products]

def reservedRows (tenant : Id) (now : Time) (view : CartView) (draw : Nat → Id) (db : Db) :
    List InventoryReservation :=
  (productsToReserve tenant view db).zipIdx.map fun e => newReservation tenant now view e.1.id (draw e.2)

theorem reserveStock_grows {tenant : Id} {now : Time} {draw : Nat → Id} {view : CartView} {db db' : Db}
    {ids : List Id} (done : reserveStock tenant now draw view db = .ok (ids, db')) :
    db'.skeleton = db.skeleton.addHolds ((reservedRows tenant now view draw db).map
        InventoryReservation.core) ∧
      db'.reservations.rows = db.reservations.rows ++ reservedRows tenant now view draw db ∧
      db'.orders = db.orders ∧ db'.payments = db.payments ∧
      ids = ((reservedRows tenant now view draw db).map InventoryReservation.core).map HoldCore.id := by
  obtain ⟨reserved, _, rfl⟩ := reserveStock_reserved done
  have orders : db'.orders = db.orders := by rw [reserved.frame]
  have payments : db'.payments = db.payments := by rw [reserved.frame]
  have items : db'.orderItems = db.orderItems := by rw [reserved.frame]
  refine ⟨?_, reserved.rows, orders, payments, ?_⟩
  · simp [Db.skeleton, Skeleton.addHolds, orders, payments, items, reserved.places, reserved.rows,
      reservedRows]
  · simp only [reservedRows, List.map_map]
    rfl

theorem itemQuantity_of_mem {view : CartView} {item : CartItem} (member : item ∈ view.items) :
    itemQuantity view item.product = item.quantity := by
  have only := filter_key view.distinct member
  have found : view.items.find? (fun i => i.product == item.product) = some item := by
    rw [← List.head?_filter, only]
    rfl
  simp [itemQuantity, found]

theorem reservedRows_supply {tenant : Id} {now : Time} {view : CartView} {draw : Nat → Id} {db : Db}
    {item : CartItem} (member : item ∈ view.items) (sold : (item.product, tenant) ∈ db.skeleton.places) :
    supply ((reservedRows tenant now view draw db).map InventoryReservation.core) item.product =
      item.quantity := by
  obtain ⟨p, inside, place⟩ := List.mem_map.mp sold
  obtain ⟨named, owned⟩ := Prod.mk.inj place
  have wanted : p ∈ productsToReserve tenant view db :=
    mem_productsToReserve.mpr ⟨inside, owned, item, member, named.symm⟩
  have nodup : ((productsToReserve tenant view db).map Product.id).Nodup := by
    refine ((List.perm_insertionSort _ _).map Product.id).nodup_iff.mpr ?_
    exact db.products.keys_nodup.sublist (List.filter_sublist.map _)
  have picked := filter_key nodup wanted
  have quantities : supply ((reservedRows tenant now view draw db).map InventoryReservation.core)
      item.product = (((productsToReserve tenant view db).filter fun q => q.id == p.id).map fun q =>
        itemQuantity view q.id).sum := by
    rw [← named]
    simp only [supply, reservedRows]
    conv_rhs => rw [← List.zipIdx_map_fst 0 (productsToReserve tenant view db)]
    simp only [List.filter_map, List.map_map]
    rfl
  rw [quantities, picked, ← itemQuantity_of_mem member]
  simp [named]

theorem lockCart_products {req : Request} {now : Time} {view : CartView} {db db' : Db}
    (done : lockCart req now db = .ok (view, db')) :
    ∀ p ∈ view.products, (p.id, req.tenant) ∈ db.skeleton.places := by
  simp only [lockCart, lockAndValidateCart, bind_eq_ok, orRaise_eq_ok, pure_eq_ok, Prod.mk.injEq,
    Option.bind_eq_some_iff] at done
  obtain ⟨_, ⟨view, ⟨cart, _, joined⟩, _, _, rfl⟩, _, _, rfl, rfl⟩ := done
  simp only [Db.cartView, Option.map_eq_some_iff] at joined
  obtain ⟨_, _, rfl⟩ := joined
  intro p member
  obtain ⟨_, _, found⟩ := List.mem_filterMap.mp member
  have owned := List.find?_some found
  simp only [Bool.and_eq_true, beq_iff_eq] at owned
  rw [← owned.1]
  exact List.mem_map_of_mem (List.mem_of_find?_eq_some found)

theorem undo_touch {action : Undo} {req : Request} {cart : Id} {frame : Frame} {db db' : Db}
    (done : action.run req cart frame db = .ok db') :
    Frees db db' ∨ ∃ o, action = .cancelOrder ∧ frame.order = some o ∧ Touch db db'
      (OrderStatus.at o.id OrderStatus.cancelOwn) Payment.status InventoryReservation.status := by
  cases action with
  | cancelOrder =>
    simp only [Undo.run] at done
    split at done
    next o order => exact .inr ⟨o, rfl, order, cancelOwnOrder_touch done⟩
    · cases done
      exact .inl ⟨_, Leaves.refl db, fun _ _ => .inl rfl⟩
  | releaseReservations => exact .inl (releaseReservations_frees done)
  | revertCart => exact .inl ⟨_, updateCarts_leaves done, fun _ _ => .inl rfl⟩

theorem undo_skeleton {action : Undo} {req : Request} {cart : Id} {frame : Frame} {db db' : Db}
    (done : action.run req cart frame db = .ok db') : db'.skeleton = db.skeleton := by
  rcases undo_touch done with ⟨_, touch, _⟩ | ⟨_, _, _, touch⟩
  · exact touch.skeleton
  · exact touch.skeleton

section Advance

variable {settings : Settings} {req : Request} {oracle : Oracle} {db db' : Db} {pc pc' : Pc}
  {log : List GatewayCall} {calls : Nat → Option Call} {i : Nat}

theorem Ownership.quiet (ownership : Ownership db.skeleton calls) (at_i : calls i = some ⟨req, pc⟩)
    (same : db'.skeleton = db.skeleton) (claim : pc'.claim = pc.claim)
    (stage : Stage db.skeleton req pc') :
    Ownership db'.skeleton (Function.update calls i (some ⟨req, pc'⟩)) := by
  rw [same]
  exact ownership.next at_i claim stage

theorem authorizeRaised_claim (placed : Placed) (payment : Option Payment) (e : Exn) :
    (authorizeRaised placed payment e).claim = (placed.frame payment).claim := by
  unfold authorizeRaised
  split <;> rfl

theorem authorizeRaised_stage (sk : Skeleton) (placed : Placed) (payment : Option Payment) (e : Exn) :
    Stage sk req (authorizeRaised placed payment e) := by
  unfold authorizeRaised
  split <;> trivial

theorem afterOrder_cases (placed : Placed) :
    (∃ e, afterOrder placed = .done (placed.frame none) (.error e)) ∨
      afterOrder placed = .invoice placed ∨ afterOrder placed = .resolve placed := by
  unfold afterOrder
  split
  · exact .inl ⟨_, rfl⟩
  · split
    · exact .inr (.inl rfl)
    · exact .inr (.inr rfl)

theorem afterOrder_claim (placed : Placed) :
    (afterOrder placed).claim = (placed.frame none).claim := by
  rcases afterOrder_cases placed with ⟨e, ended⟩ | invoiced | card
  · rw [ended]; rfl
  · rw [invoiced]; rfl
  · rw [card]; rfl

theorem afterOrder_stage (sk : Skeleton) {placed : Placed} (unlinked : placed.order.cart = none) :
    Stage sk req (afterOrder placed) := by
  rcases afterOrder_cases placed with ⟨e, ended⟩ | invoiced | card
  · rw [ended]; trivial
  · rw [invoiced]; exact unlinked
  · rw [card]; exact unlinked

theorem afterConvert_claim (placed : Placed) (payment : Payment) :
    (afterConvert placed payment).claim = (placed.frame (some payment)).claim := by
  unfold afterConvert
  split
  · rfl
  · split <;> rfl

theorem Registered.result {sk : Skeleton} {c : Claim} (registered : Registered sk req c) {o : OrderCore}
    (mine : c.order = some o) : ∃ o' ∈ sk.orders, o'.id = o.id ∧ o'.tenant = req.tenant ∧
      o'.idempotency_key = req.idempotency_key :=
  ⟨o, registered.order_mem mine, rfl, registered.mine o mine⟩

theorem Ownership.advance (ownership : Ownership db.skeleton calls) (at_i : calls i = some ⟨req, pc⟩)
    (taken : Storefront.advance settings req oracle db pc = (pc', db', log)) :
    Ownership db'.skeleton (Function.update calls i (some ⟨req, pc'⟩)) := by
  have stage := ownership.stage i _ at_i
  have registered := ownership.registered i _ at_i
  cases pc with
  | find =>
    simp only [Storefront.advance] at taken
    split at taken
    · cases taken
      exact ownership.quiet at_i rfl rfl trivial
    next existing found =>
      cases taken
      refine ownership.quiet at_i rfl rfl ?_
      have found := guard_ok found
      simp only [findExistingCheckout, Except.ok.injEq, Option.map_eq_some_iff] at found
      obtain ⟨o, seen, rfl⟩ := found
      have same := List.find?_some seen
      simp only [Bool.and_eq_true, beq_iff_eq] at same
      refine ⟨o.core, List.mem_map_of_mem (List.mem_of_find?_eq_some seen), ?_, same.1, same.2⟩
      split <;> rfl
    · cases taken
      exact ownership.quiet at_i rfl rfl trivial
  | lock =>
    simp only [Storefront.advance] at taken
    split at taken
    next view last done =>
      cases taken
      exact ownership.quiet at_i (lockCart_leaves (guard_ok done)).skeleton rfl
        (lockCart_products (guard_ok done))
    · cases taken
      exact ownership.quiet at_i rfl rfl trivial
  | validate view =>
    simp only [Storefront.advance] at taken
    split at taken <;> cases taken
    · exact ownership.quiet at_i rfl rfl stage
    · exact ownership.quiet at_i rfl rfl trivial
  | reserve view =>
    simp only [Storefront.advance] at taken
    split at taken
    next ids last done =>
      cases taken
      obtain ⟨grown, rows, _, _, rfl⟩ := reserveStock_grows (guard_ok done)
      rw [grown]
      have keys := db'.reservations.keys_nodup
      rw [rows, List.map_append, List.nodup_append] at keys
      refine ownership.addHolds at_i rfl rfl ?_ ?_ ?_
      · intro h inside h' member
        obtain ⟨r, new, rfl⟩ := List.mem_map.mp inside
        obtain ⟨r', old, rfl⟩ := List.mem_map.mp member
        exact keys.2.2 _ (List.mem_map_of_mem old) _ (List.mem_map_of_mem new)
      · intro h inside
        obtain ⟨r, new, rfl⟩ := List.mem_map.mp inside
        obtain ⟨e, _, rfl⟩ := List.mem_map.mp new
        exact ⟨rfl, rfl⟩
      · intro own item member known
        rw [own]
        obtain ⟨p, inside, named⟩ := known
        exact reservedRows_supply member (named ▸ stage p inside)
    · cases taken
      exact ownership.quiet at_i rfl rfl trivial
  | create view reservations =>
    simp only [Storefront.advance] at taken
    split at taken
    next order last done =>
      cases taken
      have creates := createOrder_creates (guard_ok done)
      obtain ⟨items, grown, mine, lines⟩ := creates.grows
      rw [grown]
      refine ownership.addOrder at_i rfl (afterOrder_claim _) ?_ creates.cart
        ⟨creates.tenant, creates.key⟩ ?_ (afterOrder_stage _ creates.cart)
      · intro o' member
        obtain ⟨o, old, rfl⟩ := List.mem_map.mp member
        exact (creates.fresh o old).1
      · intro line inside
        refine ⟨mine line inside, ?_⟩
        have image : (line.product, line.quantity) ∈
            view.items.map fun item => (some item.product, item.quantity) :=
          lines ▸ List.mem_map_of_mem inside
        obtain ⟨item, member, same⟩ := List.mem_map.mp image
        obtain ⟨product, quantity⟩ := Prod.mk.inj same
        exact ⟨item.product, product.symm, (stage item member (creates.known item member)).trans quantity⟩
    · cases taken
      exact ownership.quiet at_i rfl rfl trivial
  | invoice placed =>
    simp only [Storefront.advance] at taken
    split at taken
    next last done =>
      cases taken
      rw [(createPayment_grows (guard_ok done)).2.2]
      exact ownership.addPayment at_i rfl rfl ⟨rfl, rfl⟩ ⟨stage, rfl⟩
    · cases taken
      exact ownership.quiet at_i rfl rfl trivial
  | convertInvoiced placed payment =>
    simp only [Storefront.advance] at taken
    split at taken
    next last done =>
      cases taken
      rw [(convertInvoiced_links (guard_ok done)).skeleton]
      exact ownership.link at_i stage.1 rfl rfl fun kept => kept.result rfl
    · cases taken
      exact ownership.quiet at_i rfl rfl trivial
  | resolve placed =>
    simp only [Storefront.advance] at taken
    split at taken <;> cases taken
    · exact ownership.quiet at_i rfl rfl stage
    · exact ownership.quiet at_i rfl (authorizeRaised_claim _ _ _) (authorizeRaised_stage _ _ _ _)
  | insertPayment placed config =>
    simp only [Storefront.advance] at taken
    split at taken
    next last done =>
      cases taken
      rw [(createPayment_grows (guard_ok done)).2.2]
      exact ownership.addPayment at_i rfl rfl ⟨rfl, rfl⟩ ⟨stage, ⟨rfl, rfl⟩, rfl⟩
    · cases taken
      exact ownership.quiet at_i rfl (authorizeRaised_claim _ _ _) (authorizeRaised_stage _ _ _ _)
  | authorize placed payment =>
    simp only [Storefront.advance] at taken
    split at taken <;> cases taken
    · exact ownership.quiet at_i rfl rfl ⟨stage.1, stage.2.1⟩
    · exact ownership.quiet at_i rfl rfl ⟨stage.1, stage.2.1⟩
  | recordError placed payment e =>
    simp only [Storefront.advance] at taken
    split at taken
    next last done =>
      cases taken
      obtain rfl := Except.ok.inj (guard_ok done)
      exact ownership.quiet at_i (recordPaymentError_leaves _ _ _ _).skeleton (authorizeRaised_claim _ _ _)
        (authorizeRaised_stage _ _ _ _)
    · cases taken
      exact ownership.quiet at_i rfl (authorizeRaised_claim _ _ _) (authorizeRaised_stage _ _ _ _)
  | recordResult placed payment intent =>
    simp only [Storefront.advance] at taken
    split at taken
    next last done =>
      have same := (recordPaymentResult_touch (guard_ok done)).skeleton
      split at taken <;> cases taken
      · exact ownership.quiet at_i same (authorizeRaised_claim _ _ _) (authorizeRaised_stage _ _ _ _)
      · exact ownership.quiet at_i same rfl stage
    · cases taken
      exact ownership.quiet at_i rfl (authorizeRaised_claim _ _ _) (authorizeRaised_stage _ _ _ _)
  | convert placed payment =>
    simp only [Storefront.advance] at taken
    split at taken
    next last done =>
      cases taken
      rw [(commitCart_links (guard_ok done)).skeleton]
      refine ownership.link at_i stage.1 rfl (afterConvert_claim _ _) fun kept => ?_
      rw [afterConvert_claim] at kept
      unfold afterConvert
      split
      · exact ⟨rfl, stage.2⟩
      · split
        · exact kept.result rfl
        · trivial
    · cases taken
      exact ownership.quiet at_i rfl rfl trivial
  | captureRead placed payment =>
    simp only [Storefront.advance] at taken
    have returned := registered.result rfl
    split at taken
    · cases taken
      exact ownership.quiet at_i rfl rfl stage
    next row done =>
      cases taken
      obtain ⟨member, named, owned, status⟩ := captureRead_some (guard_ok done)
      have claimed := registered.payment_mem rfl
      obtain ⟨p, inside, same⟩ := List.mem_map.mp claimed
      have id : p.id = payment.id := congrArg PaymentCore.id same
      obtain rfl : row = p := db.payments.eq_of_key member inside (named.trans id.symm)
      refine ownership.quiet at_i rfl ?_ ⟨stage.1, ?_, status⟩
      · simp only [Pc.claim, Pc.frame, Placed.frame, Frame.claim, Option.map_some, same]
      · have config : row.gateway_config = payment.gateway_config := congrArg PaymentCore.gateway_config same
        have key : row.idempotency_key = payment.idempotency_key := congrArg PaymentCore.idempotency_key same
        exact ⟨config ▸ stage.2.1, key ▸ stage.2.2⟩
    · cases taken
      exact ownership.quiet at_i rfl rfl returned
  | capture placed row =>
    simp only [Storefront.advance] at taken
    split at taken <;> cases taken
    · exact ownership.quiet at_i rfl rfl stage
    · exact ownership.quiet at_i rfl rfl (registered.result rfl)
  | captureWrite placed row intent =>
    simp only [Storefront.advance] at taken
    split at taken
    next last done =>
      cases taken
      obtain rfl := Except.ok.inj (guard_ok done)
      exact ownership.quiet at_i (captureWrite_touch _ _ _ _).skeleton rfl ⟨stage.1, stage.2.1⟩
    · cases taken
      exact ownership.quiet at_i rfl rfl (registered.result rfl)
  | paid placed payment =>
    simp only [Storefront.advance] at taken
    split at taken
    next last done =>
      cases taken
      exact ownership.quiet at_i (markCaptured_touch (guard_ok done)).skeleton rfl (registered.result rfl)
    · cases taken
      exact ownership.quiet at_i rfl rfl (registered.result rfl)
  | undo todo cart frame e =>
    cases todo with
    | nil =>
      cases taken
      exact ownership.quiet at_i rfl rfl trivial
    | cons action rest =>
      simp only [Storefront.advance] at taken
      split at taken
      next last done =>
        cases taken
        exact ownership.quiet at_i (undo_skeleton (guard_ok done)) rfl trivial
      · cases taken
        exact ownership.quiet at_i rfl rfl trivial
  | done frame result =>
    cases taken
    exact ownership.quiet at_i rfl rfl stage
  | crashed todo frame e =>
    cases taken
    exact ownership.quiet at_i rfl rfl trivial

end Advance

theorem commits_eq_some {s s' : Sys} {block : Outcome Db} (taken : s.commits block = some s') :
    ∃ db', block = .ok db' ∧ s' = s.withDb db' := by
  unfold Sys.commits at taken
  split at taken
  next db' => exact ⟨db', rfl, by simpa [eq_comm] using taken⟩
  · cases taken

abbrev Sys.Owned (s : Sys) : Prop := Ownership s.db.skeleton s.calls

theorem Sys.Owned.start {s : Sys} (initial : s.Initial) : s.Owned := by
  refine ⟨?_, ?_, ?_, ?_, ?_, ?_, ?_⟩ <;>
    simp [initial.calls, initial.orders, initial.orderItems, initial.reservations, initial.payments,
      Db.skeleton]

theorem Ownership.same {sk sk' : Skeleton} {calls : Nat → Option Call} (ownership : Ownership sk calls)
    (same : sk' = sk) : Ownership sk' calls := same ▸ ownership

theorem Sys.Owned.step {settings : Settings} {lib : WebhookLibrary} {s s' : Sys} {l : Label}
    (owned : s.Owned) (taken : Storefront.step settings lib s l = some s') : s'.Owned := by
  cases l with
  | tick seconds => cases taken; exact owned
  | shop tables => cases taken; exact owned
  | createProduct tenant id data =>
    obtain ⟨db', done, rfl⟩ := commits_eq_some taken
    exact (owned.addPlace (id, tenant)).same (createProduct_grows done).2
  | patchProduct tenant product data =>
    obtain ⟨db', done, rfl⟩ := commits_eq_some taken
    exact Ownership.same owned (patchProduct_leaves done).skeleton
  | deactivateProduct tenant product =>
    obtain ⟨db', done, rfl⟩ := commits_eq_some taken
    exact Ownership.same owned (deactivateProduct_leaves done).skeleton
  | begin i req =>
    simp only [Storefront.step] at taken
    split at taken
    next free =>
      cases taken
      exact Ownership.begun owned free
    · cases taken
  | advance i oracle =>
    simp only [Storefront.step] at taken
    split at taken
    · cases taken
    next call at_i =>
      split at taken
      · cases taken
      · cases taken
        obtain ⟨req, pc⟩ := call
        exact Ownership.advance owned at_i rfl
  | cancelOrder tenant customer order =>
    obtain ⟨db', done, rfl⟩ := commits_eq_some taken
    rcases cancelOrder_touch done with same | ⟨_, _, _, _, _, _, touch, _⟩
    · exact Ownership.same owned (congrArg Db.skeleton same)
    · exact Ownership.same owned touch.skeleton
  | receive post =>
    simp only [Storefront.step] at taken
    split at taken
    · cases taken; exact owned
    · cases taken
  | process k =>
    simp only [Storefront.step] at taken
    split at taken
    · obtain ⟨db', done, rfl⟩ := commits_eq_some taken
      rcases processWebhookEvent_cases done with same | applied
      · exact Ownership.same owned (congrArg Db.skeleton same)
      · obtain ⟨_, _, _, _, _, _, _, _, touch⟩ := applyWebhookEvent_touch applied
        exact Ownership.same owned touch.skeleton
    · cases taken
  | sweep => cases taken; exact owned
  | reconcile payment answer =>
    simp only [Storefront.step] at taken
    split at taken
    · obtain ⟨db', done, rfl⟩ := commits_eq_some taken
      obtain ⟨⟨_, _⟩, reconciled, rfl⟩ := map_eq_ok.mp done
      rcases reconcileOne_touch reconciled with ⟨same, _⟩ | ⟨_, _, _, _, _, _, _, ⟨_, _, _, touch⟩ | ⟨_, _, _, touch⟩⟩
      · exact Ownership.same owned (congrArg Db.skeleton same)
      · exact Ownership.same owned touch.skeleton
      · exact Ownership.same owned touch.skeleton
    · cases taken
  | expire scan cutoff =>
    simp only [Storefront.step] at taken
    split at taken
    · obtain ⟨db', done, rfl⟩ := commits_eq_some taken
      obtain ⟨_, touch, _⟩ := releaseExpiredBatch_frees done
      exact Ownership.same owned touch.skeleton
    · cases taken
  | markPaidRead tenant order reference =>
    simp only [Storefront.step] at taken
    split at taken
    · cases taken; exact owned
    · cases taken
  | markPaidWrite k =>
    simp only [Storefront.step] at taken
    split at taken
    · obtain ⟨db', done, rfl⟩ := commits_eq_some taken
      obtain ⟨_, _, _, _, _, _, _, _, touch⟩ := markPaidWrite_touch done
      exact Ownership.same owned touch.skeleton
    · cases taken
  | refundRead tenant payment amount =>
    simp only [Storefront.step] at taken
    split at taken
    · cases taken; exact owned
    · cases taken
  | refundCall k answer =>
    simp only [Storefront.step] at taken
    split at taken
    · cases taken; exact owned
    · cases taken
  | refundWrite k =>
    simp only [Storefront.step] at taken
    split at taken
    · cases taken
      exact Ownership.same owned (refundWrite_touch _ _ _ _).skeleton
    · cases taken

end Storefront
