import Storefront.Orders.Inventory

set_option autoImplicit false

/-!
# What a settlement loop writes
-/

namespace Storefront

open Relational Transition

def Product.place (p : Product) : Id × Id := (p.id, p.tenant)

/-- The picked reservations moved to the new status. Besides them only product
counters and cart statuses may differ. -/
structure Settled (t : Settlement) (picked : InventoryReservation → Bool) (db db' : Db) : Prop where
  frame : db' = { db with
    products := db'.products, carts := db'.carts, reservations := db'.reservations }
  rows : db'.reservations.rows =
    db.reservations.rows.map (Table.updated picked fun r => { r with status := t.becomes })
  places : db'.products.rows.map Product.place = db.products.rows.map Product.place

namespace Settled

variable {t : Settlement} {picked again : InventoryReservation → Bool} {db mid db' : Db}

theorem congr (s : Settled t picked db db')
    (same : ∀ r ∈ db.reservations.rows, picked r = again r) : Settled t again db db' := by
  refine ⟨s.frame, ?_, s.places⟩
  rw [s.rows]
  apply List.map_congr_left
  intro r member
  simp [Table.updated, same r member]

theorem none (t : Settlement) (db : Db) : Settled t (fun _ => false) db db := by
  refine ⟨rfl, ?_, rfl⟩
  calc db.reservations.rows = db.reservations.rows.map id := (List.map_id _).symm
    _ = _ := List.map_congr_left fun _ _ => by simp [Table.updated]

theorem trans (first : Settled t picked db mid) (second : Settled t again mid db')
    {both : InventoryReservation → Bool}
    (union : ∀ r ∈ db.reservations.rows, both r = (picked r ||
      again (Table.updated picked (fun r => { r with status := t.becomes }) r))) :
    Settled t both db db' := by
  refine ⟨?_, ?_, second.places.trans first.places⟩
  · have outer := second.frame
    rw [first.frame] at outer
    exact outer
  · rw [second.rows, first.rows, List.map_map]
    apply List.map_congr_left
    intro r member
    have split := union r member
    by_cases now : picked r = true
    · by_cases later : again { r with status := t.becomes } = true <;>
        simp_all [Table.updated]
    · simp_all [Table.updated]

theorem orders (s : Settled t picked db db') : db'.orders = db.orders := by rw [s.frame]
theorem orderItems (s : Settled t picked db db') : db'.orderItems = db.orderItems := by rw [s.frame]
theorem payments (s : Settled t picked db db') : db'.payments = db.payments := by rw [s.frame]

end Settled

theorem settle_eq_ok {t : Settlement} {scope : Scope} {db db' : Db} {res : InventoryReservation} :
    settle t scope db res = .ok db' ↔
      ∃ products, db.products.update (fun p => scope.sees p.tenant && p.id == res.product)
          (counted t res.quantity) = some products ∧
        ({ db with products } : Db).saveReservationStatus res.id t.becomes = db' := by
  simp only [settle, bind_eq_ok, Db.updateProducts, stored_eq_ok, pure_eq_ok]
  constructor
  · rintro ⟨_, ⟨products, updated, rfl⟩, rfl⟩
    exact ⟨products, updated, rfl⟩
  · rintro ⟨products, updated, rfl⟩
    exact ⟨_, ⟨products, updated, rfl⟩, rfl⟩

theorem settle_settled {t : Settlement} {scope : Scope} {db db' : Db} {res : InventoryReservation}
    (done : settle t scope db res = .ok db') :
    Settled t (fun r => r.id == res.id) db db' ∧ db'.carts = db.carts := by
  obtain ⟨products, updated, rfl⟩ := settle_eq_ok.mp done
  refine ⟨⟨rfl, rfl, ?_⟩, rfl⟩
  simp only [Db.saveReservationStatus, Db.modifyReservations, Table.update_rows updated]
  exact Table.map_updated _ _ _ _ fun _ _ _ => rfl

theorem settle_succeeds_iff {t : Settlement} {scope : Scope} {db : Db} {res : InventoryReservation} :
    (∃ db', settle t scope db res = .ok db') ↔ ∀ p ∈ db.products.rows, scope.sees p.tenant = true → p.id = res.product →
      p.reserved_quantity + t.reserved * res.quantity ≤ p.stock_quantity + t.stock * res.quantity := by
  constructor
  · rintro ⟨db', done⟩ p member seen named
    obtain ⟨products, updated, _⟩ := settle_eq_ok.mp done
    have inside : counted t res.quantity p ∈ products.rows := by
      rw [Table.update_rows updated]
      refine List.mem_map.mpr ⟨p, member, ?_⟩
      simp [Table.updated, seen, named]
    exact (Product.check_iff.mp (products.checked _ inside)).1
  · intro room
    have fits (p : Product) (member : p ∈ db.products.rows) (picked : (scope.sees p.tenant && p.id == res.product) = true) :
        Schema.check (counted t res.quantity p) = true := by
      simp only [Bool.and_eq_true, beq_iff_eq] at picked
      have priced := (Product.check_iff.mp (db.products.checked p member)).2
      exact Product.check_iff.mpr ⟨room p member picked.1 picked.2, priced⟩
    obtain ⟨products, updated⟩ := Table.update_isSome (f := counted t res.quantity) (fun _ _ _ => rfl) fits
    exact ⟨_, settle_eq_ok.mpr ⟨products, updated, rfl⟩⟩

theorem settle_release_succeeds (scope : Scope) (db : Db) {res : InventoryReservation}
    (nonnegative : 0 ≤ res.quantity) : ∃ db', settle .release scope db res = .ok db' := by
  refine settle_succeeds_iff.mpr fun p member _ _ => ?_
  have within := (Product.check_iff.mp (db.products.checked p member)).1
  simp only [Settlement.release]
  omega

theorem settle_commit_succeeds (scope : Scope) (db : Db) (res : InventoryReservation) :
    ∃ db', settle .commit scope db res = .ok db' := by
  refine settle_succeeds_iff.mpr fun p member _ _ => ?_
  have within := (Product.check_iff.mp (db.products.checked p member)).1
  simp only [Settlement.commit]
  omega

def Settling (t : Settlement) (scope : Scope)
    (body : Db → InventoryReservation → Outcome Db) : Prop :=
  ∀ db res db', body db res = .ok db' → ∃ mid, settle t scope db res = .ok mid ∧
    db' = { mid with carts := db'.carts }

theorem settling_settle (t : Settlement) (scope : Scope) : Settling t scope (settle t scope) :=
  fun _ _ db' done => ⟨db', done, rfl⟩

theorem settling_releaseExpiredOne : Settling .release none releaseExpiredOne := by
  intro db res db' done
  simp only [releaseExpiredOne, bind_eq_ok, Db.updateCarts, stored_eq_ok] at done
  obtain ⟨mid, settled, carts, _, rfl⟩ := done
  exact ⟨mid, settled, rfl⟩

theorem Settling.settled {t : Settlement} {scope : Scope}
    {body : Db → InventoryReservation → Outcome Db}
    (settling : Settling t scope body) {db db' : Db} {res : InventoryReservation}
    (done : body db res = .ok db') : Settled t (fun r => r.id == res.id) db db' := by
  obtain ⟨mid, first, rest⟩ := settling db res db' done
  obtain ⟨inner, _⟩ := settle_settled first
  rw [rest]
  refine ⟨?_, inner.rows, inner.places⟩
  rw [inner.frame]

theorem Settling.foldlM_settled {t : Settlement} {scope : Scope}
    {body : Db → InventoryReservation → Outcome Db}
    (settling : Settling t scope body) {l : List InventoryReservation} {db db' : Db}
    (done : l.foldlM body db = .ok db') :
    Settled t (fun r => (l.map InventoryReservation.id).contains r.id) db db' := by
  induction l generalizing db with
  | nil =>
    obtain rfl : db = db' := by simpa using done
    exact (Settled.none t db).congr (by simp)
  | cons res rest ih =>
    obtain ⟨mid, first, tail⟩ := foldlM_cons_eq_ok.mp done
    refine (settling.settled first).trans (ih tail) ?_
    intro r _
    by_cases same : r.id = res.id <;> simp [Table.updated, same]

theorem foldlM_settle_carts {t : Settlement} {scope : Scope} {l : List InventoryReservation}
    {db db' : Db} (done : l.foldlM (settle t scope) db = .ok db') : db'.carts = db.carts := by
  refine foldlM_relation (R := fun a b : Db => b.carts = a.carts) (fun _ => rfl)
    (fun first second => second.trans first) ?_ done
  intro res _ a b step
  exact (settle_settled step).2

theorem mem_ids_iff (db : Db) (p : InventoryReservation → Bool) {r : InventoryReservation}
    (member : r ∈ db.reservations.rows) :
    ((db.reservations.rows.filter p).map InventoryReservation.id).contains r.id = p r := by
  cases holds : p r with
  | true =>
    rw [List.contains_iff_mem]
    exact List.mem_map_of_mem (List.mem_filter.mpr ⟨member, holds⟩)
  | false =>
    by_contra named
    rw [Bool.not_eq_false, List.contains_iff_mem] at named
    obtain ⟨other, inside, same⟩ := List.mem_map.mp named
    obtain ⟨present, picked⟩ := List.mem_filter.mp inside
    obtain rfl : other = r := db.reservations.eq_of_key present member same
    simp [holds] at picked

def ofOrder (tenant order : Id) (status : ReservationStatus) (r : InventoryReservation) : Bool :=
  r.tenant == tenant && r.order == some order && r.status == status

theorem settleForOrder_settled {t : Settlement} {tenant order : Id} {db db' : Db}
    (done : settleForOrder t tenant order db = .ok db') :
    Settled t (ofOrder tenant order .active) db db' ∧ db'.carts = db.carts := by
  refine ⟨((settling_settle t _).foldlM_settled done).congr ?_, foldlM_settle_carts done⟩
  intro r member
  exact mem_ids_iff db _ member

theorem settleReservation_settled {t : Settlement} {tenant id : Id} {db db' : Db}
    (done : settleReservation t tenant db id = .ok db') :
    Settled t (fun r => r.id == id && r.status == t.expects) db db' ∧ db'.carts = db.carts ∧
      ∃ r ∈ db.reservations.rows, r.id = id ∧ r.tenant = tenant := by
  simp only [settleReservation, bind_eq_ok, Db.reservation, orRaise_eq_ok] at done
  obtain ⟨res, found, rest⟩ := done
  have member := List.mem_of_find?_eq_some found
  have named := List.find?_some found
  simp only [Bool.and_eq_true, beq_iff_eq] at named
  have unique : ∀ r ∈ db.reservations.rows, r.id = id → r = res :=
    fun r inside same => db.reservations.eq_of_key inside member (same.trans named.2.symm)
  by_cases expected : res.status = t.expects
  · simp only [expected, ne_eq, not_true_eq_false, if_false] at rest
    obtain ⟨settled, carts⟩ := settle_settled rest
    refine ⟨settled.congr ?_, carts, res, member, named.2, named.1⟩
    intro r inside
    by_cases same : r.id = id
    · obtain rfl := unique r inside same
      simp [expected, same]
    · simp [named.2, same]
  · simp only [expected, ne_eq, not_false_eq_true, if_true, pure_eq_ok] at rest
    subst rest
    refine ⟨(Settled.none t db).congr ?_, rfl, res, member, named.2, named.1⟩
    intro r inside
    by_cases same : r.id = id
    · obtain rfl := unique r inside same
      simp [expected]
    · simp [same]

theorem settleReservations_settled {t : Settlement} {tenant : Id} {ids : List Id} {db db' : Db}
    (done : settleReservations t tenant ids db = .ok db') :
    Settled t (fun r => ids.contains r.id && r.status == t.expects) db db' ∧ db'.carts = db.carts := by
  unfold settleReservations at done
  induction ids generalizing db with
  | nil =>
    obtain rfl : db = db' := by simpa using done
    exact ⟨(Settled.none t db).congr (by simp), rfl⟩
  | cons id rest ih =>
    obtain ⟨mid, first, tail⟩ := foldlM_cons_eq_ok.mp done
    obtain ⟨settled, carts, _⟩ := settleReservation_settled first
    obtain ⟨others, carts'⟩ := ih tail
    refine ⟨settled.trans others ?_, carts'.trans carts⟩
    intro r _
    by_cases same : r.id = id <;> by_cases expected : r.status = t.expects <;>
      simp [Table.updated, same, expected]

def Held (db : Db) (tenant : Id) (ids : List Id) : Prop :=
  ∀ id ∈ ids, ∃ r ∈ db.reservations.rows, r.id = id ∧ r.tenant = tenant ∧ 0 ≤ r.quantity

theorem Settled.held {t : Settlement} {picked : InventoryReservation → Bool} {db db' : Db}
    (s : Settled t picked db db') {tenant : Id} {ids : List Id} (held : Held db tenant ids) :
    Held db' tenant ids := by
  intro id inside
  obtain ⟨r, member, named, owned, nonnegative⟩ := held id inside
  refine ⟨_, s.rows ▸ List.mem_map_of_mem member, ?_⟩
  unfold Table.updated
  split <;> exact ⟨named, owned, nonnegative⟩

theorem settleReservation_release_succeeds {tenant id : Id} {db : Db}
    (held : ∃ r ∈ db.reservations.rows, r.id = id ∧ r.tenant = tenant ∧ 0 ≤ r.quantity) :
    ∃ db', settleReservation .release tenant db id = .ok db' := by
  obtain ⟨r, member, named, owned, nonnegative⟩ := held
  have found : db.reservation tenant id = .ok r := by
    simp only [Db.reservation, orRaise_eq_ok]
    cases seen : db.reservations.rows.find? (fun r => r.tenant == tenant && r.id == id) with
    | none =>
      have absent := List.find?_eq_none.mp seen r member
      simp [owned, named] at absent
    | some other =>
      have same := List.find?_some seen
      simp only [Bool.and_eq_true, beq_iff_eq] at same
      rw [db.reservations.eq_of_key (List.mem_of_find?_eq_some seen) member
        (same.2.trans named.symm)]
  unfold settleReservation
  by_cases expected : r.status = Settlement.release.expects
  · obtain ⟨db', settled⟩ := settle_release_succeeds (some tenant) db nonnegative
    exact ⟨db', by simp [found, bind, Except.bind, expected, settled]⟩
  · exact ⟨db, by simp [found, bind, Except.bind, expected, pure, Except.pure]⟩

theorem releaseReservations_succeeds {tenant : Id} {ids : List Id} {db : Db}
    (held : Held db tenant ids) : ∃ db', releaseReservations tenant ids db = .ok db' := by
  have step : ∀ id ∈ ids, ∀ db : Db, Held db tenant ids →
      ∃ db', settleReservation .release tenant db id = .ok db' ∧ Held db' tenant ids := by
    intro id inside db held
    obtain ⟨db', done⟩ := settleReservation_release_succeeds (held id inside)
    exact ⟨db', done, (settleReservation_settled done).1.held held⟩
  obtain ⟨db', done, _⟩ := foldlM_succeeds step held
  exact ⟨db', done⟩

theorem mem_productsToReserve {tenant : Id} {view : CartView} {db : Db} {p : Product} :
    p ∈ productsToReserve tenant view db ↔ p ∈ db.products.rows ∧ p.tenant = tenant ∧
      ∃ item ∈ view.items, item.product = p.id := by
  simp [productsToReserve, List.mem_insertionSort]

/-- One hold for each product, in the order the products were locked. -/
structure Reserved (tenant : Id) (now : Time) (view : CartView) (draw : Nat → Id)
    (entries : List (Product × Nat)) (db db' : Db) : Prop where
  frame : db' = { db with products := db'.products, reservations := db'.reservations }
  rows : db'.reservations.rows = db.reservations.rows ++
    entries.map fun e => newReservation tenant now view e.1.id (draw e.2)
  places : db'.products.rows.map Product.place = db.products.rows.map Product.place

theorem reserveOne_eq_ok {tenant : Id} {now : Time} {view : CartView} {draw : Nat → Id} {db db' : Db}
    {entry : Product × Nat} :
    reserveOne tenant now view draw db entry = .ok db' ↔ ∃ reservations products,
      db.reservations.insert (newReservation tenant now view entry.1.id (draw entry.2)) =
        some reservations ∧
      db.products.update (fun p => Scope.sees (some tenant) p.tenant && p.id == entry.1.id)
        (fun p => { p with
          reserved_quantity := p.reserved_quantity + itemQuantity view entry.1.id }) = some products ∧
      ({ db with reservations, products } : Db) = db' := by
  simp only [reserveOne, bind_eq_ok, Db.insertReservation, Db.updateProducts, stored_eq_ok]
  constructor
  · rintro ⟨_, ⟨reservations, inserted, rfl⟩, products, updated, rfl⟩
    exact ⟨reservations, products, inserted, updated, rfl⟩
  · rintro ⟨reservations, products, inserted, updated, rfl⟩
    exact ⟨_, ⟨reservations, inserted, rfl⟩, products, updated, rfl⟩

theorem reserveEach_reserved {tenant : Id} {now : Time} {view : CartView} {draw : Nat → Id}
    {entries : List (Product × Nat)} {db db' : Db}
    (done : entries.foldlM (reserveOne tenant now view draw) db = .ok db') :
    Reserved tenant now view draw entries db db' := by
  induction entries generalizing db with
  | nil =>
    obtain rfl : db = db' := by simpa using done
    exact ⟨rfl, by simp, rfl⟩
  | cons entry rest ih =>
    obtain ⟨mid, first, tail⟩ := foldlM_cons_eq_ok.mp done
    obtain ⟨reservations, products, inserted, updated, rfl⟩ := reserveOne_eq_ok.mp first
    obtain ⟨frame, rows, places⟩ := ih tail
    refine ⟨frame, ?_, ?_⟩
    · rw [rows, Table.insert_rows inserted]
      simp
    · rw [places, Table.update_rows updated]
      exact Table.map_updated _ _ _ _ fun _ _ _ => rfl

theorem reserveStock_eq_ok {tenant : Id} {now : Time} {view : CartView} {draw : Nat → Id}
    {db db' : Db} {ids : List Id} :
    reserveStock tenant now draw view db = .ok (ids, db') ↔
      insufficient view (productsToReserve tenant view db) = [] ∧
      (productsToReserve tenant view db).zipIdx.foldlM (reserveOne tenant now view draw) db =
        .ok db' ∧
      (productsToReserve tenant view db).zipIdx.map (fun e => draw e.2) = ids := by
  simp only [reserveStock, bind_eq_ok, require_eq_ok, pure_eq_ok, Prod.mk.injEq]
  constructor
  · rintro ⟨_, enough, _, looped, rfl, rfl⟩
    exact ⟨enough, looped, rfl⟩
  · rintro ⟨enough, looped, rfl⟩
    exact ⟨(), enough, _, looped, rfl, rfl⟩

end Storefront
