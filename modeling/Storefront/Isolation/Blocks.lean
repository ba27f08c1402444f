import Storefront.Isolation.CartRequests
import Storefront.Orders.Phases

set_option autoImplicit false

/-!
# The blocks of a checkout beside other tenants
-/

namespace Storefront

open Relational Transition

section Keys

variable {β : Type} [Keyed β] {t : Table β} {owner : β → Id} {tenant : Id}

theorem key_apart {row : β} (member : row ∈ t.rows) (own : owner row = tenant) :
    ∀ r ∈ (t.part fun r => owner r != tenant).rows, Keyed.key r ≠ Keyed.key row := by
  intro r there same
  obtain ⟨present, out⟩ := List.mem_filter.mp there
  rw [t.eq_of_key present member same, own] at out
  simp at out

theorem keyed_inside {row : β} (member : row ∈ t.rows) (own : owner row = tenant) :
    ∀ r ∈ t.rows, (Keyed.key r == Keyed.key row) = true → owner r = tenant := by
  intro r there same
  rw [t.eq_of_key there member (beq_iff_eq.mp same)]
  exact own

theorem owner_of_key {p : β → Bool} (apart : ∀ r ∈ (t.part fun r => owner r != tenant).rows, p r = false) :
    ∀ r ∈ t.rows, p r = true → owner r = tenant := by
  intro r member picked
  by_contra away
  rw [apart r (List.mem_filter.mpr ⟨member, by simpa using away⟩)] at picked
  cases picked

end Keys

section Blocks

variable {tenant : Id} {foreign db solo : Db} {now : Time}

theorem saveReservationStatus_alike (sees : Sees tenant foreign db solo) {id : Id}
    (apart : ∀ r ∈ foreign.reservations.rows, r.id ≠ id) (status : ReservationStatus) :
    Sees tenant foreign (db.saveReservationStatus id status) (solo.saveReservationStatus id status) := by
  obtain ⟨beside, rfl⟩ := sees
  obtain rfl := beside.others
  exact beside.modifyReservations (owner_of_key fun r there => by simpa using apart r there) fun _ => rfl

theorem saveOrderStatus_alike (sees : Sees tenant foreign db solo) {id : Id}
    (apart : ∀ o ∈ foreign.orders.rows, o.id ≠ id) (status : OrderStatus) :
    Sees tenant foreign (db.saveOrderStatus id status) (solo.saveOrderStatus id status) := by
  obtain ⟨beside, rfl⟩ := sees
  obtain rfl := beside.others
  exact beside.modifyOrders (owner_of_key fun o there => by simpa using apart o there) fun _ => rfl

theorem reservation_apart (sees : Sees tenant foreign db solo) {id : Id} {res : InventoryReservation}
    (found : db.reservation tenant id = .ok res) : ∀ r ∈ foreign.reservations.rows, r.id ≠ res.id := by
  have picked := List.find?_some (orRaise_eq_ok.mp found)
  obtain rfl := sees.beside.others
  have own : res.tenant = tenant := tenant_of picked
  exact key_apart (List.mem_of_find?_eq_some (orRaise_eq_ok.mp found)) own

theorem order_apart (sees : Sees tenant foreign db solo) {id : Id} {order : Order}
    (found : db.order tenant id = .ok order) : ∀ o ∈ foreign.orders.rows, o.id ≠ order.id := by
  obtain ⟨member, _, own⟩ := order_eq_ok.mp found
  obtain rfl := sees.beside.others
  exact key_apart member own

theorem settle_alike (sees : Sees tenant foreign db solo) (t : Settlement) {res : InventoryReservation}
    (apart : ∀ r ∈ foreign.reservations.rows, r.id ≠ res.id) :
    Alike (Sees tenant foreign) (settle t (some tenant) db res) (settle t (some tenant) solo res) := by
  obtain ⟨beside, rfl⟩ := sees
  refine Alike.bind (R := Sees tenant foreign) ?_ fun _ _ counted => .pure (saveReservationStatus_alike counted apart _)
  exact beside.updateProducts (fun _ _ => tenant_of) fun _ => ⟨rfl, rfl⟩

theorem settleReservation_alike (sees : Sees tenant foreign db solo) (t : Settlement) (id : Id) :
    Alike (Sees tenant foreign) (settleReservation t tenant db id) (settleReservation t tenant solo id) := by
  have read : solo.reservation tenant id = db.reservation tenant id := by rw [sees.own, Db.own_reservation]
  simp only [settleReservation, read]
  refine Alike.after fun res found => ?_
  split
  · exact .ok sees
  · exact settle_alike sees t (reservation_apart sees found)

theorem settleReservations_alike (sees : Sees tenant foreign db solo) (t : Settlement) (reservations : List Id) :
    Alike (Sees tenant foreign) (settleReservations t tenant reservations db)
      (settleReservations t tenant reservations solo) :=
  Alike.foldlM (fun id _ _ _ here => settleReservation_alike here t id) sees

theorem cancelOrder_alike (sees : Sees tenant foreign db solo) (customer order : Id) :
    Alike (Sees tenant foreign) (cancelOrder tenant customer order db) (cancelOrder tenant customer order solo) := by
  have read : solo.orders.rows.find? (fun o => o.tenant == tenant && o.customer == customer && o.id == order) =
      db.orders.rows.find? fun o => o.tenant == tenant && o.customer == customer && o.id == order := by
    rw [sees.own]
    exact Table.find_part fun _ picked => Bool.and_elim_left (Bool.and_elim_left picked)
  simp only [cancelOrder, read]
  refine Alike.after fun o found => ?_
  have picked := List.find?_some (orRaise_eq_ok.mp found)
  have apart : ∀ r ∈ foreign.orders.rows, r.id ≠ o.id := by
    obtain rfl := sees.beside.others
    have own : o.tenant = tenant := tenant_of (Bool.and_elim_left picked)
    exact key_apart (List.mem_of_find?_eq_some (orRaise_eq_ok.mp found)) own
  split
  · exact .ok sees
  · refine Alike.after fun _ _ => ?_
    have active : reservationsOf solo tenant o.id .active = reservationsOf db tenant o.id .active := by
      rw [sees.own, Db.own_reservationsOf]
    rw [active]
    refine (settleReservations_alike sees .release _).bind fun a b released => ?_
    have committed : reservationsOf b tenant o.id .committed = reservationsOf a tenant o.id .committed := by
      rw [released.own, Db.own_reservationsOf]
    rw [committed]
    refine (settleReservations_alike released .reverse _).bind fun c d reversed => .pure ?_
    obtain ⟨beside, rfl⟩ := reversed
    refine saveOrderStatus_alike ?_ apart _
    exact beside.modifyPayments (fun _ _ picked => tenant_of (Bool.and_elim_left picked)) fun _ => ⟨rfl, rfl⟩

structure CartView.Within (view : CartView) (tenant : Id) : Prop where
  tenant : view.cart.tenant = tenant
  known : ∀ item ∈ view.items, ∃ p ∈ view.products, p.id = item.product

def Db.LinesKnown (tenant : Id) (db : Db) : Prop :=
  ∀ i ∈ db.cartItems.rows, i.tenant = tenant → ∃ p ∈ db.products.rows, p.id = i.product ∧ p.tenant = tenant

theorem cartView_within {cart : Cart} {view : CartView} (lines : db.LinesKnown tenant) (own : cart.tenant = tenant)
    (found : db.cartView tenant cart = some view) : view.Within tenant := by
  obtain ⟨customer, _, rfl⟩ := Option.map_eq_some_iff.mp found
  refine ⟨own, fun item inside => ?_⟩
  obtain ⟨member, picked⟩ := List.mem_filter.mp inside
  obtain ⟨p, there, named, home⟩ := lines item member (tenant_of picked)
  have seen : db.products.rows.find? (fun p => p.tenant == tenant && p.id == item.product) = some p := by
    have found := db.products.find_of_mem (q := fun p => p.tenant == tenant) there (beq_iff_eq.mpr home)
    change db.products.rows.find? (fun r => r.tenant == tenant && r.id == p.id) = some p at found
    rwa [named] at found
  exact ⟨p, List.mem_filterMap.mpr ⟨item, inside, seen⟩, named⟩

variable {req : Request}

theorem lockAndValidateCart_alike (sees : Sees req.tenant foreign db solo) :
    lockAndValidateCart req solo = lockAndValidateCart req db := by
  obtain ⟨_, rfl⟩ := sees
  have cart := db.own_activeCart req.tenant req.customer
  have view := funext (db.own_cartView req.tenant)
  simp only [Db.activeCart] at cart
  simp only [lockAndValidateCart, cart, view]

theorem lockAndValidateCart_found {view : CartView} (found : lockAndValidateCart req db = .ok view) :
    ∃ cart ∈ db.carts.rows, cart.tenant = req.tenant ∧ db.cartView req.tenant cart = some view ∧ view.cart = cart := by
  simp only [lockAndValidateCart, bind_eq_ok, orRaise_eq_ok, Option.bind_eq_some_iff, pure_eq_ok] at found
  obtain ⟨_, ⟨cart, active, viewed⟩, _, _, rfl⟩ := found
  obtain ⟨member, own, _⟩ := activeCart_found active
  refine ⟨cart, member, own, viewed, ?_⟩
  obtain ⟨_, _, rfl⟩ := Option.map_eq_some_iff.mp viewed
  rfl

theorem lockCart_alike (sees : Sees req.tenant foreign db solo) (now : Time) (lines : db.LinesKnown req.tenant) :
    Alike (fun x y => Agrees req.tenant foreign x y ∧ x.1.Within req.tenant) (lockCart req now db)
      (lockCart req now solo) := by
  simp only [lockCart, lockAndValidateCart_alike sees]
  refine Alike.after fun view found => ?_
  obtain ⟨cart, member, own, viewed, rfl⟩ := lockAndValidateCart_found found
  obtain ⟨beside, rfl⟩ := sees
  refine Alike.bind (R := Sees req.tenant foreign) ?_ fun _ _ locked =>
    .pure ⟨⟨rfl, locked⟩, cartView_within lines own viewed⟩
  exact beside.updateCarts (fun c there same => keyed_inside member own c there same) fun _ => ⟨rfl, rfl, rfl⟩

theorem reserveOne_alike (sees : Sees tenant foreign db solo) (now : Time) (view : CartView) {draw : Nat → Id}
    (unused : ∀ k, foreign.Unused (draw k)) (entry : Product × Nat) :
    Alike (Sees tenant foreign) (reserveOne tenant now view draw db entry)
      (reserveOne tenant now view draw solo entry) := by
  obtain ⟨beside, rfl⟩ := sees
  refine Alike.bind (R := Sees tenant foreign) (beside.insertReservation rfl (unused entry.2).reservations) ?_
  rintro a _ ⟨beside, rfl⟩
  exact beside.updateProducts (fun _ _ => tenant_of) fun _ => ⟨rfl, rfl⟩

theorem reserveStock_alike (sees : Sees tenant foreign db solo) (now : Time) (view : CartView) {draw : Nat → Id}
    (unused : ∀ k, foreign.Unused (draw k)) :
    Alike (fun x y => Agrees tenant foreign x y ∧ ∀ id ∈ x.1, foreign.Unused id) (reserveStock tenant now draw view db)
      (reserveStock tenant now draw view solo) := by
  have products : productsToReserve tenant view solo = productsToReserve tenant view db := by
    rw [sees.own, Db.own_productsToReserve]
  simp only [reserveStock, products]
  have reserving := Alike.foldlM (l := (productsToReserve tenant view db).zipIdx)
    (fun entry _ _ _ here => reserveOne_alike here now view unused entry) sees
  refine Alike.after fun _ _ => reserving.bind fun _ _ reserved => .pure ⟨⟨rfl, reserved⟩, fun id listed => ?_⟩
  obtain ⟨entry, _, rfl⟩ := List.mem_map.mp listed
  exact unused entry.2

theorem useCoupon_alike (sees : Sees tenant foreign db solo) (applied : AppliedCoupon) :
    Alike (Sees tenant foreign) (useCoupon tenant db applied) (useCoupon tenant solo applied) := by
  obtain ⟨beside, rfl⟩ := sees
  simp only [useCoupon, Db.own_coupon]
  refine Alike.after fun locked _ => Alike.after fun _ _ => .pure ?_
  exact beside.modifyCoupons (fun _ _ => tenant_of) fun _ => rfl

theorem createOrderItem_alike (sees : Sees tenant foreign db solo) {oracle : Oracle} {view : CartView}
    (within : view.Within tenant) (unused : ∀ k, foreign.Unused (oracle.draw k)) (order : Order)
    (entry : CartItem × Nat) :
    Alike (Sees tenant foreign) (createOrderItem oracle view order db entry)
      (createOrderItem oracle view order solo entry) := by
  obtain ⟨beside, rfl⟩ := sees
  exact Alike.after fun product _ => beside.insertOrderItem within.tenant (unused (entry.2 + 1)).orderItems

def Db.OrderKey (foreign : Db) (key : String) : Prop := ∃ o ∈ foreign.orders.rows, o.idempotency_key = key

def Db.PaymentKey (foreign : Db) (key : String) : Prop := ∃ p ∈ foreign.payments.rows, p.idempotency_key = key

theorem createOrder_alike (sees : Sees req.tenant foreign db solo) {oracle : Oracle} {view : CartView}
    (within : view.Within req.tenant) (unused : ∀ k, foreign.Unused (oracle.draw k))
    (free : ¬ foreign.OrderKey req.idempotency_key) :
    Alike (fun x y => Agrees req.tenant foreign x y ∧ foreign.Unused x.1.id) (createOrder req oracle view db)
      (createOrder req oracle view solo) := by
  have applied : solo.appliedTo req.tenant view.cart.id = db.appliedTo req.tenant view.cart.id := by
    rw [sees.own, Db.own_appliedTo]
  simp only [createOrder, applied]
  refine (Alike.foldlM (fun a _ _ _ here => useCoupon_alike here a) sees).bind ?_
  rintro a _ ⟨beside, rfl⟩
  refine Alike.after fun shipping _ => Alike.after fun billing _ => Alike.after fun _ _ => ?_
  refine Alike.bind (R := Sees req.tenant foreign) ?_ fun _ _ inserted =>
    (Alike.foldlM (fun entry _ _ _ here => createOrderItem_alike here within unused _ entry) inserted).bind
      fun _ _ listed => .pure ⟨⟨rfl, listed⟩, unused 0⟩
  exact beside.insertOrder rfl (unused 0).orders fun r there same => free ⟨r, there, same⟩

theorem createOrderItems_raise {oracle : Oracle} {view : CartView} {order : Order} {e : Exn}
    {entries : List (CartItem × Nat)} (known : ∀ entry ∈ entries, ∃ p ∈ view.products, p.id = entry.1.product)
    (raised : entries.foldlM (createOrderItem oracle view order) db = .error e) : e = .integrityError := by
  induction entries generalizing db with
  | nil => cases raised
  | cons entry rest ih =>
    rw [List.foldlM_cons] at raised
    rcases bind_eq_error.mp raised with first | ⟨mid, _, tail⟩
    · rcases bind_eq_error.mp first with missing | ⟨_, _, refused⟩
      · obtain ⟨p, listed, named⟩ := known entry (by simp)
        cases found : view.products.find? (fun p => p.id == entry.1.product) with
        | none =>
          have absent := List.find?_eq_none.mp found p listed
          simp [named] at absent
        | some _ =>
          rw [found] at missing
          cases missing
      · exact stored_eq_error refused
    · exact ih (fun other inside => known other (List.mem_cons_of_mem _ inside)) tail

theorem createOrder_taken (sees : Sees req.tenant foreign db solo) {oracle : Oracle} {view : CartView}
    (within : view.Within req.tenant) (taken : foreign.OrderKey req.idempotency_key) :
    createOrder req oracle view db = createOrder req oracle view solo >>= fun _ => .error .integrityError := by
  have applied : solo.appliedTo req.tenant view.cart.id = db.appliedTo req.tenant view.cart.id := by
    rw [sees.own, Db.own_appliedTo]
  have counting := Alike.foldlM (l := db.appliedTo req.tenant view.cart.id)
    (fun a _ _ _ here => useCoupon_alike here a) sees
  simp only [createOrder, applied]
  refine Alike.cut counting fun a b here => Alike.after_cut fun shipping => Alike.after_cut fun billing =>
    Alike.after_cut fun _ => ?_
  have known (entry : CartItem × Nat) (inside : entry ∈ view.items.zipIdx) :
      ∃ p ∈ view.products, p.id = entry.1.product := within.known entry.1 (List.fst_mem_of_mem_zipIdx inside)
  have refused : a.insertOrder (newOrder req oracle view shipping billing) = .error .integrityError :=
    here.beside.insertOrder_taken taken
  rw [refused]
  cases inserted : b.insertOrder (newOrder req oracle view shipping billing) with
  | error e =>
    obtain rfl := stored_eq_error inserted
    rfl
  | ok c =>
    simp only [bind, Except.bind]
    generalize newOrder req oracle view shipping billing = order
    cases listed : view.items.zipIdx.foldlM (createOrderItem oracle view order) c with
    | error e =>
      obtain rfl := createOrderItems_raise known listed
      rfl
    | ok last => rfl

theorem createPayment_alike (sees : Sees tenant foreign db solo) (row : Payment) (mine : row.tenant = tenant)
    (unused : foreign.Unused row.id) (free : ¬ foreign.PaymentKey row.idempotency_key)
    (config : ∀ g ∈ row.gateway_config, ∀ c ∈ foreign.gatewayConfigs.rows, c.id ≠ g) :
    Alike (Sees tenant foreign) (createPayment row db) (createPayment row solo) := by
  obtain ⟨beside, rfl⟩ := sees
  exact Alike.after fun _ _ =>
    beside.insertPayment mine unused.payments (fun r there same => free ⟨r, there, same⟩) config

theorem createPayment_taken (sees : Sees tenant foreign db solo) (row : Payment)
    (taken : foreign.PaymentKey row.idempotency_key) :
    createPayment row db = createPayment row solo >>= fun _ => .error .integrityError := by
  refine Alike.after_cut fun _ => ?_
  rw [sees.beside.insertPayment_taken taken]
  cases inserted : solo.insertPayment row with
  | error e =>
    obtain rfl := stored_eq_error inserted
    rfl
  | ok _ => rfl

theorem gatewayConfigOf_alike (sees : Sees tenant foreign db solo) {config : Option Id}
    (clear : ∀ g ∈ config, ∀ c ∈ foreign.gatewayConfigs.rows, c.id ≠ g) :
    gatewayConfigOf solo config = gatewayConfigOf db config := by
  obtain ⟨beside, rfl⟩ := sees
  obtain rfl := beside.others
  cases config with
  | none => rfl
  | some g =>
    have found : (db.own tenant).gatewayConfigs.get g = db.gatewayConfigs.get g :=
      Table.get_part fun c member named => by
      by_contra away
      exact clear g rfl c (List.mem_filter.mpr ⟨member, by simpa using away⟩) named
    simp only [gatewayConfigOf, Option.bind_some, found]

theorem authorizeTarget_alike (sees : Sees tenant foreign db solo) (settings : Settings) (payment_method : Id)
    (currency : String) :
    authorizeTarget settings tenant payment_method currency solo =
      authorizeTarget settings tenant payment_method currency db := by
  have methods := db.own_paymentMethod tenant payment_method
  simp only [Db.paymentMethod] at methods
  have configs (name : String) :
      solo.gatewayConfigs.rows.find? (fun c => c.tenant == tenant && c.gateway_name == name && c.is_active) =
        db.gatewayConfigs.rows.find? fun c => c.tenant == tenant && c.gateway_name == name && c.is_active := by
    rw [sees.own]
    exact Table.find_part fun _ picked => Bool.and_elim_left (Bool.and_elim_left picked)
  rw [← sees.own] at methods
  simp only [authorizeTarget, methods, resolveGatewayConfig, configs]
  cases found : db.paymentMethods.rows.find? (fun m => m.tenant == tenant && m.id == payment_method) with
  | none => rfl
  | some method =>
    have picked := List.find?_some found
    have clear := sees.beside.methods method (List.mem_of_find?_eq_some found) (tenant_of picked)
    have saved := gatewayConfigOf_alike sees clear
    simp only [orRaise, bind, Except.bind, saved]

theorem authorizeTarget_apart (sees : Sees tenant foreign db solo) {settings : Settings} {payment_method : Id}
    {currency : String} {config : PaymentGatewayConfig}
    (done : authorizeTarget settings tenant payment_method currency db = .ok config) :
    ∀ c ∈ foreign.gatewayConfigs.rows, c.id ≠ config.id := by
  simp only [authorizeTarget, resolveGatewayConfig, bind_eq_ok, orRaise_eq_ok, pure_eq_ok] at done
  obtain ⟨_, _, _, _, _, ⟨_, _, found⟩, _, _, _, _, rfl⟩ := done
  have picked := List.find?_some found
  obtain rfl := sees.beside.others
  exact key_apart (List.mem_of_find?_eq_some found) (tenant_of (Bool.and_elim_left picked))

theorem recordPaymentError_alike (sees : Sees tenant foreign db solo) (payment : Id) (message : String) :
    Sees tenant foreign (recordPaymentError tenant payment message db)
      (recordPaymentError tenant payment message solo) := by
  obtain ⟨beside, rfl⟩ := sees
  exact beside.modifyPayments (fun _ _ => tenant_of) fun _ => ⟨rfl, rfl⟩

theorem recordPaymentResult_alike (sees : Sees tenant foreign db solo) (payment : Id) (intent : PaymentIntent) :
    Alike (Sees tenant foreign) (recordPaymentResult tenant payment intent db)
      (recordPaymentResult tenant payment intent solo) := by
  obtain ⟨beside, rfl⟩ := sees
  refine Alike.after fun _ _ => .pure ?_
  exact beside.modifyPayments (fun _ _ => tenant_of) fun _ => ⟨rfl, rfl⟩

theorem captureRead_alike (sees : Sees tenant foreign db solo) (payment : Id) :
    captureRead tenant payment solo = captureRead tenant payment db := by
  have read : solo.payment tenant payment = db.payment tenant payment := by rw [sees.own, Db.own_payment]
  simp only [captureRead, read]
  cases found : db.payment tenant payment with
  | error e => rfl
  | ok row =>
    obtain ⟨member, _, own⟩ := payment_eq_ok.mp found
    simp only [bind, Except.bind, gatewayConfigOf_alike sees (sees.beside.payments row member own)]

theorem captureWrite_alike (sees : Sees tenant foreign db solo) (payment : Id) (intent : PaymentIntent) :
    Sees tenant foreign (captureWrite tenant payment intent db) (captureWrite tenant payment intent solo) := by
  obtain ⟨beside, rfl⟩ := sees
  exact beside.modifyPayments (fun _ _ picked => tenant_of (Bool.and_elim_left picked)) fun _ => ⟨rfl, rfl⟩

theorem convertCart_alike (sees : Sees tenant foreign db solo) (cart : Id) :
    Alike (Sees tenant foreign) (convertCart tenant cart now db) (convertCart tenant cart now solo) := by
  obtain ⟨beside, rfl⟩ := sees
  simp only [convertCart, Db.own_cart]
  refine Alike.after fun row found => ?_
  have found := orRaise_eq_ok.mp found
  have picked := List.find?_some found
  have inside := keyed_inside (List.mem_of_find?_eq_some found) (tenant_of picked)
  exact beside.updateCarts (fun c there same => inside c there same) fun _ => ⟨rfl, rfl, rfl⟩

theorem linkReservations_alike (sees : Sees tenant foreign db solo) {reservations : List Id}
    (unused : ∀ id ∈ reservations, foreign.Unused id) (order : Id) :
    Sees tenant foreign (linkReservations reservations order db) (linkReservations reservations order solo) := by
  obtain ⟨beside, rfl⟩ := sees
  obtain rfl := beside.others
  refine beside.modifyReservations (owner_of_key fun r there => ?_) fun _ => rfl
  by_contra listed
  simp only [List.contains_eq_mem, decide_eq_true_eq, Bool.not_eq_false] at listed
  exact (unused r.id listed).reservations r there rfl

structure Placed.Apart (placed : Placed) (tenant : Id) (foreign : Db) : Prop where
  view : placed.view.Within tenant
  reservations : ∀ id ∈ placed.reservations, foreign.Unused id
  order : foreign.Unused placed.order.id

theorem commitCart_alike (sees : Sees req.tenant foreign db solo) (now : Time) {placed : Placed}
    (apart : placed.Apart req.tenant foreign) :
    Alike (Sees req.tenant foreign) (commitCart req now placed db) (commitCart req now placed solo) := by
  refine (convertCart_alike sees placed.view.cart.id).bind ?_
  rintro a _ ⟨beside, rfl⟩
  refine .pure (linkReservations_alike ?_ apart.reservations placed.order.id)
  obtain rfl := beside.others
  exact beside.modifyOrders (owner_of_key fun o there => by simpa using apart.order.orders o there) fun _ => rfl

theorem convertInvoiced_alike (sees : Sees req.tenant foreign db solo) (now : Time) {placed : Placed}
    (apart : placed.Apart req.tenant foreign) :
    Alike (Sees req.tenant foreign) (convertInvoiced req now placed db) (convertInvoiced req now placed solo) := by
  have read : solo.order req.tenant placed.order.id = db.order req.tenant placed.order.id := by
    rw [sees.own, Db.own_order]
  simp only [convertInvoiced, read]
  refine Alike.after fun order found => ?_
  have own := order_apart sees found
  refine Alike.bind (R := Sees req.tenant foreign) (convertCart_alike ?_ _) fun a b converted =>
    settleReservations_alike (linkReservations_alike converted apart.reservations _) .commit _
  obtain ⟨beside, rfl⟩ := sees
  obtain rfl := beside.others
  exact beside.modifyOrders (owner_of_key fun o there => by simpa using own o there) fun _ => rfl

theorem markCaptured_alike (sees : Sees req.tenant foreign db solo) (placed : Placed) :
    Alike (Sees req.tenant foreign) (markCaptured req placed db) (markCaptured req placed solo) := by
  have read : solo.order req.tenant placed.order.id = db.order req.tenant placed.order.id := by
    rw [sees.own, Db.own_order]
  simp only [markCaptured, read]
  exact Alike.after fun order found =>
    settleReservations_alike (saveOrderStatus_alike sees (order_apart sees found) _) .commit _

theorem cancelOwnOrder_alike (sees : Sees tenant foreign db solo) (order : Id) :
    Alike (Sees tenant foreign) (cancelOwnOrder tenant order db) (cancelOwnOrder tenant order solo) := by
  have read : solo.order tenant order = db.order tenant order := by rw [sees.own, Db.own_order]
  simp only [cancelOwnOrder, read]
  refine Alike.after fun o found => .pure ?_
  split
  · exact saveOrderStatus_alike sees (order_apart sees found) _
  · exact sees

theorem undo_alike (sees : Sees req.tenant foreign db solo) (cart : Id) (frame : Frame) (action : Undo) :
    Alike (Sees req.tenant foreign) (action.run req cart frame db) (action.run req cart frame solo) := by
  cases action with
  | cancelOrder =>
    simp only [Undo.run]
    cases frame.order with
    | some order => exact cancelOwnOrder_alike sees order.id
    | none => exact .ok sees
  | releaseReservations => exact settleReservations_alike sees .release frame.reservations
  | revertCart =>
    obtain ⟨beside, rfl⟩ := sees
    exact beside.updateCarts (fun _ _ picked => tenant_of (Bool.and_elim_left picked)) fun _ => ⟨rfl, rfl, rfl⟩

end Blocks

end Storefront
