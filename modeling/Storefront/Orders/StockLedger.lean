import Storefront.Catalog.Products
import Storefront.Orders.Reservations
import Storefront.Transition.Machine

set_option autoImplicit false

/-!
# The stock ledger

Every operation on products and reservations moves the book that abstracts the
two tables, so its conservation laws hold along every run.
-/

namespace Storefront

open Relational Transition Ledger

def InventoryReservation.hold (r : InventoryReservation) : Hold Id Id ReservationStatus :=
  ⟨r.id, r.product, r.quantity, r.status⟩

namespace Db

def stockOf (db : Db) (product : Id) : Int :=
  ((db.products.get product).map Product.stock_quantity).getD 0

def reservedOf (db : Db) (product : Id) : Int :=
  ((db.products.get product).map Product.reserved_quantity).getD 0

def book (db : Db) : Book Id Id ReservationStatus where
  stock := db.stockOf
  reserved := db.reservedOf
  holds := db.reservations.rows.map InventoryReservation.hold
  keyed := by
    rw [List.map_map]
    exact db.reservations.keys_nodup

def Housed (db : Db) : Prop :=
  ∀ r ∈ db.reservations.rows, ∃ p ∈ db.products.rows, p.id = r.product ∧ p.tenant = r.tenant

theorem stockOf_eq {db : Db} {p : Product} (member : p ∈ db.products.rows) :
    db.stockOf p.id = p.stock_quantity := by
  have found : db.products.get p.id = some p := Table.get_of_mem member
  simp [stockOf, found]

theorem reservedOf_eq {db : Db} {p : Product} (member : p ∈ db.products.rows) :
    db.reservedOf p.id = p.reserved_quantity := by
  have found : db.products.get p.id = some p := Table.get_of_mem member
  simp [reservedOf, found]

theorem hold_mem {db : Db} {r : InventoryReservation} (member : r ∈ db.reservations.rows) :
    r.hold ∈ db.book.holds := List.mem_map_of_mem member

end Db

theorem counters_update {db : Db} {products : Table Product} {scope : Scope} {k : Id}
    {f : Product → Product} (updated : db.products.update (fun p => scope.sees p.tenant && p.id == k) f =
      some products) (keeps : ∀ p, (f p).id = p.id)
    (housed : ∃ p ∈ db.products.rows, p.id = k ∧ scope.sees p.tenant = true) (i : Id) :
    (i ≠ k → products.get i = db.products.get i) ∧
      (i = k → ∃ p ∈ db.products.rows, p.id = k ∧ db.products.get i = some p ∧
        products.get i = some (f p)) := by
  obtain ⟨p, member, rfl, seen⟩ := housed
  have found : db.products.get p.id = some p := Table.get_of_mem member
  have image := Table.get_updated_key (k := p.id) (Table.update_rows updated) keeps
    fun q picked => beq_iff_eq.mp (Bool.and_eq_true_iff.mp picked).2
  rw [image]
  constructor
  · exact fun other => Function.update_of_ne other ..
  · rintro rfl
    exact ⟨p, member, rfl, found, by simp [found, Table.updated, seen]⟩

theorem settle_settles {t : Settlement} {scope : Scope} {db db' : Db} {res : InventoryReservation}
    (done : settle t scope db res = .ok db') (member : res ∈ db.reservations.rows)
    (expected : res.status = t.expects)
    (housed : ∃ p ∈ db.products.rows, p.id = res.product ∧ scope.sees p.tenant = true) :
    Book.Settles t res.hold db.book db'.book := by
  obtain ⟨products, updated, rfl⟩ := settle_eq_ok.mp done
  have counters := counters_update updated (fun _ => rfl) housed
  constructor
  · exact Db.hold_mem member
  · exact expected
  · intro i
    by_cases here : res.product = i
    · obtain ⟨p, _, _, before, after⟩ := (counters i).2 here.symm
      simp [Db.book, Db.stockOf, Db.saveReservationStatus, Db.modifyReservations,
        InventoryReservation.hold, before, after, here, counted]
    · have same := (counters i).1 (Ne.symm here)
      simp [Db.book, Db.stockOf, Db.saveReservationStatus, Db.modifyReservations,
        InventoryReservation.hold, same, here]
  · intro i
    by_cases here : res.product = i
    · obtain ⟨p, _, _, before, after⟩ := (counters i).2 here.symm
      simp [Db.book, Db.reservedOf, Db.saveReservationStatus, Db.modifyReservations,
        InventoryReservation.hold, before, after, here, counted]
    · have same := (counters i).1 (Ne.symm here)
      simp [Db.book, Db.reservedOf, Db.saveReservationStatus, Db.modifyReservations,
        InventoryReservation.hold, same, here]
  · simp only [Db.book, Db.saveReservationStatus, Db.modifyReservations, Table.modify_rows,
      List.map_map]
    apply List.map_congr_left
    intro r _
    by_cases same : r.id = res.id <;>
      simp [InventoryReservation.hold, Hold.moved, Table.updated, same]

theorem places_kept {db db' : Db}
    (places : db'.products.rows.map Product.place = db.products.rows.map Product.place) {p : Product}
    (member : p ∈ db.products.rows) : ∃ p' ∈ db'.products.rows, p'.id = p.id ∧ p'.tenant = p.tenant := by
  have kept : p.place ∈ db'.products.rows.map Product.place := places ▸ List.mem_map_of_mem member
  obtain ⟨p', inside, same⟩ := List.mem_map.mp kept
  simp only [Product.place, Prod.mk.injEq] at same
  exact ⟨p', inside, same⟩

theorem Db.Housed.keeps {db db' : Db} (housed : db.Housed)
    (places : db'.products.rows.map Product.place = db.products.rows.map Product.place)
    (rows : ∀ r ∈ db'.reservations.rows,
      (∃ old ∈ db.reservations.rows, r.product = old.product ∧ r.tenant = old.tenant) ∨
        ∃ p ∈ db.products.rows, p.id = r.product ∧ p.tenant = r.tenant) : db'.Housed := by
  intro r member
  have home : ∃ p ∈ db.products.rows, p.id = r.product ∧ p.tenant = r.tenant := by
    rcases rows r member with ⟨old, present, product, tenant⟩ | home
    · obtain ⟨p, inside, named, owned⟩ := housed old present
      exact ⟨p, inside, named.trans product.symm, owned.trans tenant.symm⟩
    · exact home
  obtain ⟨p, inside, named, owned⟩ := home
  obtain ⟨q, present, same, tenant⟩ := places_kept places inside
  exact ⟨q, present, same.trans named, tenant.trans owned⟩

theorem Settled.housed {t : Settlement} {picked : InventoryReservation → Bool} {db db' : Db}
    (s : Settled t picked db db') (housed : db.Housed) : db'.Housed := by
  apply housed.keeps s.places
  intro r member
  rw [s.rows] at member
  obtain ⟨old, present, rfl⟩ := List.mem_map.mp member
  refine .inl ⟨old, present, ?_⟩
  unfold Table.updated
  split <;> exact ⟨rfl, rfl⟩

theorem Settling.settles {t : Settlement} {scope : Scope}
    {body : Db → InventoryReservation → Outcome Db} (settling : Settling t scope body) {db db' : Db}
    {res : InventoryReservation} (done : body db res = .ok db') (housed : db.Housed)
    (member : res ∈ db.reservations.rows) (expected : res.status = t.expects)
    (seen : scope.sees res.tenant = true) : Book.Settles t res.hold db.book db'.book := by
  obtain ⟨mid, first, rest⟩ := settling db res db' done
  obtain ⟨p, inside, named, owned⟩ := housed res member
  have settles := settle_settles first member expected ⟨p, inside, named, owned ▸ seen⟩
  rw [rest]
  exact settles

theorem Settling.foldlM_moves {t : Settlement} {scope : Scope}
    {body : Db → InventoryReservation → Outcome Db} (settling : Settling t scope body)
    {l : List InventoryReservation} (nodup : (l.map InventoryReservation.id).Nodup) {db db' : Db}
    (housed : db.Housed)
    (selected : ∀ res ∈ l, res ∈ db.reservations.rows ∧ res.status = t.expects ∧
      scope.sees res.tenant = true)
    (done : l.foldlM body db = .ok db') :
    Relation.ReflTransGen (Book.SettlingBy t) db.book db'.book := by
  induction l generalizing db with
  | nil =>
    obtain rfl : db = db' := by simpa using done
    exact .refl
  | cons res rest ih =>
    obtain ⟨mid, first, tail⟩ := foldlM_cons_eq_ok.mp done
    obtain ⟨absent, nodup⟩ := List.nodup_cons.mp nodup
    obtain ⟨member, expected, seen⟩ := selected res (by simp)
    have settled := settling.settled first
    have head : Relation.ReflTransGen (Book.SettlingBy t) db.book mid.book :=
      .single ⟨_, settling.settles first housed member expected seen⟩
    refine head.trans (ih nodup (settled.housed housed) ?_ tail)
    intro later inside
    obtain ⟨present, still, visible⟩ := selected later (by simp [inside])
    refine ⟨?_, still, visible⟩
    rw [settled.rows]
    have other : later.id ≠ res.id := fun same =>
      absent (same ▸ List.mem_map_of_mem inside)
    exact List.mem_map.mpr ⟨later, present, by simp [Table.updated, other]⟩

abbrev StockBook := Book Id Id ReservationStatus

structure Ledgered (kind : StockBook → StockBook → Prop) (db db' : Db) : Prop where
  places : db'.products.rows.map Product.place = db.products.rows.map Product.place
  moves : db.Housed → db'.Housed ∧ Relation.ReflTransGen kind db.book db'.book

variable {kind : StockBook → StockBook → Prop}

theorem Ledgered.refl (db : Db) : Ledgered kind db db := ⟨rfl, fun housed => ⟨housed, .refl⟩⟩

theorem Ledgered.trans {a b c : Db} (first : Ledgered kind a b) (second : Ledgered kind b c) :
    Ledgered kind a c := by
  refine ⟨second.places.trans first.places, fun housed => ?_⟩
  obtain ⟨mid, moves⟩ := first.moves housed
  obtain ⟨last, moves'⟩ := second.moves mid
  exact ⟨last, Relation.ReflTransGen.trans moves moves'⟩

theorem Ledgered.mono {kind' : StockBook → StockBook → Prop} {db db' : Db} (ledgered : Ledgered kind db db')
    (within : ∀ b b', kind b b' → kind' b b') : Ledgered kind' db db' := by
  refine ⟨ledgered.places, fun housed => ?_⟩
  obtain ⟨kept, moves⟩ := ledgered.moves housed
  exact ⟨kept, Relation.ReflTransGen.mono within _ _ moves⟩

theorem Ledgered.settling {t : Settlement} {db db' : Db} (ledgered : Ledgered (Book.SettlingBy t) db db') :
    Ledgered Book.Settling db db' :=
  ledgered.mono fun _ _ => Book.SettlingBy.settling

def HousedAt (db : Db) (tenant : Id) (ids : List Id) : Prop :=
  ∀ r ∈ db.reservations.rows, r.id ∈ ids → r.tenant = tenant →
    ∃ p ∈ db.products.rows, p.id = r.product ∧ p.tenant = tenant

theorem Settled.housedAt {t : Settlement} {picked : InventoryReservation → Bool} {db db' : Db}
    (s : Settled t picked db db') {tenant : Id} {ids : List Id} (housed : HousedAt db tenant ids) :
    HousedAt db' tenant ids := by
  intro r member named owned
  rw [s.rows] at member
  obtain ⟨old, present, rfl⟩ := List.mem_map.mp member
  have kept : (Table.updated picked (fun r => { r with status := t.becomes }) old).id = old.id ∧
      (Table.updated picked (fun r => { r with status := t.becomes }) old).tenant = old.tenant ∧
      (Table.updated picked (fun r => { r with status := t.becomes }) old).product = old.product := by
    unfold Table.updated
    split <;> exact ⟨rfl, rfl, rfl⟩
  obtain ⟨p, inside, home, whose⟩ := housed old present (kept.1 ▸ named) (kept.2.1 ▸ owned)
  obtain ⟨p', there, same, tenant'⟩ := places_kept s.places inside
  exact ⟨p', there, by rw [same, home, kept.2.2], tenant'.trans whose⟩

theorem settleReservation_settling {t : Settlement} {tenant id : Id} {db db' : Db}
    (done : settleReservation t tenant db id = .ok db') (housed : HousedAt db tenant [id]) :
    Relation.ReflTransGen (Book.SettlingBy t) db.book db'.book := by
  simp only [settleReservation, bind_eq_ok, Db.reservation, orRaise_eq_ok] at done
  obtain ⟨res, found, rest⟩ := done
  have member := List.mem_of_find?_eq_some found
  have named := List.find?_some found
  simp only [Bool.and_eq_true, beq_iff_eq] at named
  by_cases expected : res.status = t.expects
  · simp only [expected, ne_eq, not_true_eq_false, if_false] at rest
    obtain ⟨p, inside, home, owned⟩ := housed res member (by simp [named.2]) named.1
    exact .single ⟨_, settle_settles rest member expected ⟨p, inside, home, by
      simp [Scope.sees, owned]⟩⟩
  · simp only [expected, ne_eq, not_false_eq_true, if_true, pure_eq_ok] at rest
    rw [rest]

theorem settleReservations_settling {t : Settlement} {tenant : Id} {ids : List Id} {db db' : Db}
    (done : settleReservations t tenant ids db = .ok db') (housed : HousedAt db tenant ids) :
    Relation.ReflTransGen (Book.SettlingBy t) db.book db'.book := by
  unfold settleReservations at done
  induction ids generalizing db with
  | nil =>
    obtain rfl : db = db' := by simpa using done
    exact .refl
  | cons id rest ih =>
    obtain ⟨mid, first, tail⟩ := foldlM_cons_eq_ok.mp done
    have settled := (settleReservation_settled first).1
    have head := settleReservation_settling first fun r member named =>
      housed r member (by simp [List.mem_singleton.mp named])
    refine head.trans (ih tail ?_)
    exact settled.housedAt fun r member named => housed r member (List.mem_cons_of_mem _ named)

theorem settleReservations_ledgered {t : Settlement} {tenant : Id} {ids : List Id} {db db' : Db}
    (done : settleReservations t tenant ids db = .ok db') : Ledgered (Book.SettlingBy t) db db' := by
  have settled := (settleReservations_settled done).1
  refine ⟨settled.places, fun housed => ⟨settled.housed housed, settleReservations_settling done ?_⟩⟩
  intro r member _ owned
  obtain ⟨p, inside, home, whose⟩ := housed r member
  exact ⟨p, inside, home, whose.trans owned⟩

theorem nodup_filter_ids (db : Db) (p : InventoryReservation → Bool) :
    ((db.reservations.rows.filter p).map InventoryReservation.id).Nodup :=
  db.reservations.keys_nodup.sublist (List.filter_sublist.map _)

theorem settleForOrder_ledgered {t : Settlement} (active : t.expects = .active) {tenant order : Id}
    {db db' : Db} (done : settleForOrder t tenant order db = .ok db') : Ledgered (Book.SettlingBy t) db db' := by
  have settled := (settleForOrder_settled done).1
  refine ⟨settled.places, fun housed => ⟨settled.housed housed, ?_⟩⟩
  refine (settling_settle t (some tenant)).foldlM_moves (nodup_filter_ids db _) housed ?_ done
  intro res inside
  obtain ⟨present, picked⟩ := List.mem_filter.mp inside
  simp only [Bool.and_eq_true, beq_iff_eq] at picked
  exact ⟨present, picked.2.trans active.symm, by simp [Scope.sees, picked.1.1]⟩

theorem releaseExpiredBatch_ledgered {scan : Scan} {now : Time} {db db' : Db}
    (done : releaseExpiredBatch scan now db = .ok db') : Ledgered (Book.SettlingBy Settlement.release) db db' := by
  have settling := settling_releaseExpiredOne
  have settled := settling.foldlM_settled done
  refine ⟨settled.places, fun housed => ⟨settled.housed housed, ?_⟩⟩
  have listed := scan.perm (expired now db)
  refine settling.foldlM_moves ?_ housed ?_ done
  · refine List.Nodup.sublist ((List.take_sublist 100 _).map _) ?_
    exact (listed.map _).nodup_iff.mpr (nodup_filter_ids db _)
  · intro res inside
    obtain ⟨present, picked⟩ := List.mem_filter.mp (listed.mem_iff.mp (List.mem_of_mem_take inside))
    simp only [Bool.and_eq_true, beq_iff_eq] at picked
    exact ⟨present, picked.1, rfl⟩

theorem releaseExpiredLoop_ledgered (scan : Scan) (now : Time) (fuel : Nat) (db : Db) :
    Ledgered (Book.SettlingBy Settlement.release) db (releaseExpiredLoop scan now fuel db).1 := by
  induction fuel generalizing db with
  | zero => exact Ledgered.refl db
  | succ fuel ih =>
    unfold releaseExpiredLoop
    split
    · exact Ledgered.refl db
    · cases batch : releaseExpiredBatch scan now db with
      | ok db' => exact (releaseExpiredBatch_ledgered batch).trans (ih db')
      | error e => exact Ledgered.refl db

theorem itemQuantity_nonnegative (view : CartView) (product : Id) : 0 ≤ itemQuantity view product := by
  unfold itemQuantity
  cases found : view.items.find? (fun i => i.product == product) with
  | none => simp
  | some item =>
    have positive := view.positive item (List.mem_of_find?_eq_some found)
    simp only [Option.map_some, Option.getD_some]
    omega

theorem reserveOne_opens {tenant : Id} {now : Time} {view : CartView} {draw : Nat → Id} {db db' : Db}
    {entry : Product × Nat} (done : reserveOne tenant now view draw db entry = .ok db')
    (home : ∃ p ∈ db.products.rows, p.id = entry.1.id ∧ p.tenant = tenant) :
    Book.Opens (newReservation tenant now view entry.1.id (draw entry.2)).hold db.book db'.book := by
  obtain ⟨reservations, products, inserted, updated, rfl⟩ := reserveOne_eq_ok.mp done
  obtain ⟨p, inside, named, owned⟩ := home
  have counters := counters_update updated (fun _ => rfl)
    ⟨p, inside, named, by simp [Scope.sees, owned]⟩
  constructor
  · rfl
  · rfl
  · exact itemQuantity_nonnegative view _
  · intro i
    by_cases here : i = entry.1.id
    · obtain ⟨q, _, _, before, after⟩ := (counters i).2 here
      simp [Db.book, Db.stockOf, before, after]
    · simp [Db.book, Db.stockOf, (counters i).1 here]
  · intro i
    by_cases here : i = entry.1.id
    · obtain ⟨q, _, _, before, after⟩ := (counters i).2 here
      subst here
      simp [Db.book, Db.reservedOf, before, after, newReservation, InventoryReservation.hold]
    · simp [Db.book, Db.reservedOf, (counters i).1 here, newReservation, InventoryReservation.hold,
        Ne.symm here]
  · simp [Db.book, Table.insert_rows inserted]

theorem reserveEach_opening {tenant : Id} {now : Time} {view : CartView} {draw : Nat → Id}
    {entries : List (Product × Nat)} {db db' : Db}
    (homes : ∀ e ∈ entries, ∃ p ∈ db.products.rows, p.id = e.1.id ∧ p.tenant = tenant)
    (done : entries.foldlM (reserveOne tenant now view draw) db = .ok db') :
    Relation.ReflTransGen Book.Opening db.book db'.book := by
  induction entries generalizing db with
  | nil =>
    obtain rfl : db = db' := by simpa using done
    exact .refl
  | cons entry rest ih =>
    obtain ⟨mid, first, tail⟩ := foldlM_cons_eq_ok.mp done
    have step : Reserved tenant now view draw [entry] db mid :=
      reserveEach_reserved (foldlM_cons_eq_ok.mpr ⟨mid, first, by simp⟩)
    have opens := reserveOne_opens first (homes entry (by simp))
    refine .head ⟨_, opens⟩ (ih ?_ tail)
    intro e inside
    obtain ⟨p, present, named, owned⟩ := homes e (by simp [inside])
    obtain ⟨q, there, same, tenant⟩ := places_kept step.places present
    exact ⟨q, there, same.trans named, tenant.trans owned⟩

theorem reserveStock_reserved {tenant : Id} {now : Time} {view : CartView} {draw : Nat → Id}
    {db db' : Db} {ids : List Id} (done : reserveStock tenant now draw view db = .ok (ids, db')) :
    Reserved tenant now view draw (productsToReserve tenant view db).zipIdx db db' ∧
      Relation.ReflTransGen Book.Opening db.book db'.book ∧
      ids = ((productsToReserve tenant view db).zipIdx.map fun e =>
        newReservation tenant now view e.1.id (draw e.2)).map InventoryReservation.id := by
  obtain ⟨_, looped, rfl⟩ := reserveStock_eq_ok.mp done
  refine ⟨reserveEach_reserved looped, reserveEach_opening ?_ looped, ?_⟩
  · intro e inside
    obtain ⟨present, owned, _⟩ := mem_productsToReserve.mp (List.fst_mem_of_mem_zipIdx inside)
    exact ⟨e.1, present, rfl, owned⟩
  · simp [newReservation, Function.comp_def]

theorem reserveStock_ledgered {tenant : Id} {now : Time} {view : CartView} {draw : Nat → Id}
    {db db' : Db} {ids : List Id} (done : reserveStock tenant now draw view db = .ok (ids, db')) :
    Ledgered Book.Opening db db' := by
  obtain ⟨reserved, moves, _⟩ := reserveStock_reserved done
  refine ⟨reserved.places, fun housed => ⟨housed.keeps reserved.places ?_, moves⟩⟩
  intro r member
  rw [reserved.rows] at member
  rcases List.mem_append.mp member with old | new
  · exact .inl ⟨r, old, rfl, rfl⟩
  · obtain ⟨e, inside, rfl⟩ := List.mem_map.mp new
    obtain ⟨present, owned, _⟩ := mem_productsToReserve.mp (List.fst_mem_of_mem_zipIdx inside)
    exact .inr ⟨e.1, present, rfl, owned⟩

theorem cancelOrder_ledgered {tenant customer order : Id} {db db' : Db}
    (done : cancelOrder tenant customer order db = .ok db') : Ledgered Book.Settling db db' := by
  simp only [cancelOrder, bind_eq_ok, orRaise_eq_ok] at done
  obtain ⟨row, _, rest⟩ := done
  split at rest
  next =>
    obtain rfl : db = db' := by simpa using rest
    exact Ledgered.refl db
  next =>
    simp only [bind_eq_ok, pure_eq_ok] at rest
    obtain ⟨_, _, mid, released, last, reversed, rfl⟩ := rest
    -- Payments and orders are outside the book.
    have settled := (settleReservations_ledgered released).settling.trans (settleReservations_ledgered reversed).settling
    exact ⟨settled.places, settled.moves⟩

-- The operations on stock, each run as one transaction.
inductive StockOp
  | reserveStock (tenant : Id) (now : Time) (draw : Nat → Id) (cart : CartView)
  | releaseReservations (tenant : Id) (reservations : List Id)
  | commitReservations (tenant : Id) (reservations : List Id)
  | reverseCommittedReservations (tenant : Id) (reservations : List Id)
  | commitReservationsForOrder (tenant order : Id)
  | releaseReservationsForOrder (tenant order : Id)
  | releaseExpiredReservations (scan : Scan) (now : Time)
  | cancelOrder (tenant customer order : Id)
  | createProduct (tenant id : Id) (data : ProductCreate)
  | patchProduct (tenant product : Id) (data : ProductUpdate)

def rolledBack (db : Db) : Outcome Db → Db
  | .ok db' => db'
  | .error _ => db

namespace StockOp

def run (db : Db) : StockOp → Db
  | reserveStock tenant now draw cart =>
    rolledBack db (Prod.snd <$> Storefront.reserveStock tenant now draw cart db)
  | releaseReservations tenant ids => rolledBack db (Storefront.releaseReservations tenant ids db)
  | commitReservations tenant ids => rolledBack db (Storefront.commitReservations tenant ids db)
  | reverseCommittedReservations tenant ids =>
    rolledBack db (Storefront.reverseCommittedReservations tenant ids db)
  | commitReservationsForOrder tenant order =>
    rolledBack db (Storefront.commitReservationsForOrder tenant order db)
  | releaseReservationsForOrder tenant order =>
    rolledBack db (Storefront.releaseReservationsForOrder tenant order db)
  | releaseExpiredReservations scan now => (Storefront.releaseExpiredReservations scan now db).1
  | cancelOrder tenant customer order =>
    rolledBack db (Storefront.cancelOrder tenant customer order db)
  | createProduct tenant id data => rolledBack db (Storefront.createProduct tenant id data db)
  | patchProduct tenant product data =>
    rolledBack db (Storefront.patchProduct tenant product data db)

def isAdmin : StockOp → Bool
  | createProduct .. | patchProduct .. => true
  | _ => false

end StockOp

def stockMachine : Machine Db StockOp where
  Start db := db.reservations.rows = [] ∧ ∀ p ∈ db.products.rows, p.reserved_quantity = 0
  step db op := some (op.run db)

theorem rolledBack_ledgered {db : Db} {o : Outcome Db}
    (steps : ∀ db', o = .ok db' → Ledgered kind db db') : Ledgered kind db (rolledBack db o) := by
  cases o with
  | ok db' => exact steps db' rfl
  | error e => exact Ledgered.refl db

theorem StockOp.run_ledgered (db : Db) (op : StockOp) (shop : op.isAdmin = false) :
    Ledgered Book.Settling db (op.run db) ∨ Ledgered Book.Opening db (op.run db) := by
  cases op with
  | reserveStock tenant now draw cart =>
    right
    apply rolledBack_ledgered
    intro db' done
    obtain ⟨⟨ids, _⟩, reserved, rfl⟩ := map_eq_ok.mp done
    exact reserveStock_ledgered reserved
  | releaseReservations tenant ids =>
    exact .inl (rolledBack_ledgered fun _ done => (settleReservations_ledgered done).settling)
  | commitReservations tenant ids =>
    exact .inl (rolledBack_ledgered fun _ done => (settleReservations_ledgered done).settling)
  | reverseCommittedReservations tenant ids =>
    exact .inl (rolledBack_ledgered fun _ done => (settleReservations_ledgered done).settling)
  | commitReservationsForOrder tenant order =>
    exact .inl (rolledBack_ledgered fun _ done => (settleForOrder_ledgered rfl done).settling)
  | releaseReservationsForOrder tenant order =>
    exact .inl (rolledBack_ledgered fun _ done => (settleForOrder_ledgered rfl done).settling)
  | releaseExpiredReservations scan now => exact .inl (releaseExpiredLoop_ledgered scan now _ db).settling
  | cancelOrder tenant customer order =>
    exact .inl (rolledBack_ledgered fun _ done => cancelOrder_ledgered done)
  | createProduct | patchProduct => cases shop

theorem Ledgered.advances {db db' : Db} (either : Ledgered Book.Settling db db' ∨
    Ledgered Book.Opening db db') (housed : db.Housed) :
    db'.Housed ∧ Book.Moves db.book db'.book ∧ ∃ f opened, Book.Advances db.book db'.book f opened := by
  rcases either with settling | opening
  · obtain ⟨kept, moves⟩ := settling.moves housed
    obtain ⟨f, adv⟩ := Book.settling_advances moves
    exact ⟨kept, Relation.ReflTransGen.mono (fun _ _ => Or.inl) _ _ moves, f, [], adv⟩
  · obtain ⟨kept, moves⟩ := opening.moves housed
    obtain ⟨opened, adv⟩ := Book.opening_advances moves
    exact ⟨kept, Relation.ReflTransGen.mono (fun _ _ => Or.inr) _ _ moves, id, opened, adv⟩

theorem createProduct_restocks {tenant id : Id} {data : ProductCreate} {db db' : Db}
    (done : createProduct tenant id data db = .ok db') :
    Book.Restocks db.book db'.book ∧ (db.Housed → db'.Housed) := by
  simp only [createProduct, bind_eq_ok, Db.insertProduct, stored_eq_ok] at done
  obtain ⟨_, _, _, _, products, inserted, rfl⟩ := done
  refine ⟨⟨?_, rfl⟩, ?_⟩
  · funext i
    simp only [Db.book, Db.reservedOf, Table.get_insert inserted]
    split
    next same =>
      have absent : db.products.get i = none := by
        cases found : db.products.get i with
        | none => rfl
        | some row =>
          obtain ⟨member, named⟩ := Table.mem_of_get found
          exact absurd (named.trans same.symm) (Table.insert_key_fresh inserted member)
      simp [absent]
    next => rfl
  · intro housed r member
    obtain ⟨p, inside, home⟩ := housed r member
    refine ⟨p, ?_, home⟩
    simp only [Table.insert_rows inserted]
    exact List.mem_append_left _ inside

theorem updateProducts_restocks {p : Product → Bool} {f : Product → Product} {db db' : Db}
    (done : db.updateProducts p f = .ok db')
    (keeps : ∀ row, (f row).place = row.place ∧ (f row).reserved_quantity = row.reserved_quantity) :
    Book.Restocks db.book db'.book ∧ (db.Housed → db'.Housed) := by
  simp only [Db.updateProducts, stored_eq_ok] at done
  obtain ⟨products, updated, rfl⟩ := done
  refine ⟨⟨?_, rfl⟩, fun housed => housed.keeps ?_ fun r member => .inl ⟨r, member, rfl, rfl⟩⟩
  · funext i
    have image := Table.get_updated (Table.update_rows updated)
      (fun row => congrArg Prod.fst (keeps row).1) i
    simp only [Db.book, Db.reservedOf, image]
    cases db.products.get i with
    | none => rfl
    | some row =>
      simp only [Option.map_some, Option.getD_some, Table.updated]
      split <;> simp [keeps]
  · simp only [Table.update_rows updated]
    exact Table.map_updated _ _ _ _ fun row _ _ => (keeps row).1

theorem StockOp.run_restocks (db : Db) (op : StockOp) (admin : op.isAdmin = true) :
    Book.Restocks db.book (op.run db).book ∧ (db.Housed → (op.run db).Housed) := by
  have same : Book.Restocks db.book db.book ∧ (db.Housed → db.Housed) := ⟨⟨rfl, rfl⟩, id⟩
  cases op with
  | createProduct tenant id data =>
    cases done : Storefront.createProduct tenant id data db with
    | error e => simpa [StockOp.run, rolledBack, done] using same
    | ok db' => simpa [StockOp.run, rolledBack, done] using createProduct_restocks done
  | patchProduct tenant product data =>
    cases done : Storefront.patchProduct tenant product data db with
    | error e => simpa [StockOp.run, rolledBack, done] using same
    | ok db' =>
      simp only [StockOp.run, rolledBack, done]
      simp only [Storefront.patchProduct, bind_eq_ok] at done
      obtain ⟨_, _, _, _, _, _, _, _, updated⟩ := done
      exact updateProducts_restocks updated fun row => ⟨rfl, rfl⟩
  | _ => cases admin

structure StockInvariant (db : Db) : Prop where
  housed : db.Housed
  balanced : db.book.Balanced
  nonnegative : ∀ h ∈ db.book.holds, 0 ≤ h.quantity

theorem StockInvariant.start {db : Db} (started : stockMachine.Start db) : StockInvariant db := by
  obtain ⟨empty, unreserved⟩ := started
  refine ⟨by simp [Db.Housed, empty], ?_, by simp [Db.book, empty]⟩
  intro i
  have total : db.book.total Phases.held i = 0 := by simp [Book.total, Db.book, empty]
  rw [total]
  simp only [Db.book, Db.reservedOf]
  cases found : db.products.get i with
  | none => rfl
  | some p => simpa using unreserved p (Table.mem_of_get found).1

theorem StockInvariant.run {db : Db} (inv : StockInvariant db) (op : StockOp) :
    StockInvariant (op.run db) := by
  by_cases admin : op.isAdmin = true
  · obtain ⟨restocks, houses⟩ := op.run_restocks db admin
    refine ⟨houses inv.housed, restocks.balanced inv.balanced, ?_⟩
    rw [restocks.holds]
    exact inv.nonnegative
  · obtain ⟨housed, moves, _⟩ := Ledgered.advances (op.run_ledgered db (by simpa using admin)) inv.housed
    exact ⟨housed, moves.balanced inv.balanced, moves.nonnegative inv.nonnegative⟩

def movedQuantity (before after : Db) (source target : ReservationStatus) (product : Id) : Int :=
  ((before.reservations.rows.filter fun r => r.product == product && r.status == source &&
      (after.reservations.get r.id).map InventoryReservation.status == some target).map
    InventoryReservation.quantity).sum

def activeQuantity (db : Db) (product : Id) : Int :=
  ((db.reservations.rows.filter fun r => r.product == product && r.status == .active).map
    InventoryReservation.quantity).sum

abbrev ReservationStatus.Follows (s s' : ReservationStatus) : Prop :=
  (s, s') ∈ [(.active, .committed), (.active, .released), (.committed, .released)]

theorem sum_filter {α : Type} (l : List α) (p : α → Bool) (g : α → Int) :
    ((l.filter p).map g).sum = (l.map fun x => if p x then g x else 0).sum := by
  induction l with
  | nil => rfl
  | cons x rest ih =>
    by_cases picked : p x = true <;> simp [picked, ih]

theorem activeQuantity_eq (db : Db) (product : Id) :
    activeQuantity db product = db.book.total Phases.held product := by
  simp only [activeQuantity, sum_filter, Book.total, Db.book, List.map_map]
  congr 1
  apply List.map_congr_left
  intro r _
  by_cases here : r.product = product <;>
    by_cases active : r.status = .active <;>
      simp [InventoryReservation.hold, Phases.held, weight, here, active]

theorem rank_follows {s s' : ReservationStatus} (later : Phases.rank s < Phases.rank s') :
    s.Follows s' := by
  cases s <;> cases s' <;> first | (simp [Phases.rank] at later; done) | decide

theorem Advances.found {db db' : Db} {f : Hold Id Id ReservationStatus → Hold Id Id ReservationStatus}
    {opened : List (Hold Id Id ReservationStatus)} (adv : Book.Advances db.book db'.book f opened)
    {r : InventoryReservation} (member : r ∈ db.reservations.rows) :
    ∃ r' ∈ db'.reservations.rows, r'.id = r.id ∧ r'.product = r.product ∧ r'.quantity = r.quantity ∧
      r'.status = (f r.hold).phase ∧ (r'.status = r.status ∨ r.status.Follows r'.status) := by
  have present : f r.hold ∈ db'.book.holds := by
    rw [adv.holds]
    exact List.mem_append_left _ (List.mem_map_of_mem (Db.hold_mem member))
  obtain ⟨r', inside, same⟩ := List.mem_map.mp present
  have phase : r'.status = (f r.hold).phase := congrArg Hold.phase same
  refine ⟨r', inside, ?_, ?_, ?_, phase, ?_⟩
  · exact (congrArg Hold.key same).trans (adv.key _)
  · exact (congrArg Hold.item same).trans (adv.item _)
  · exact (congrArg Hold.quantity same).trans (adv.quantity _)
  · rcases adv.forward _ (Db.hold_mem member) with still | later
    · exact .inl (phase.trans still)
    · exact .inr (phase ▸ rank_follows later)

theorem Advances.stockOf {db db' : Db} {f : Hold Id Id ReservationStatus → Hold Id Id ReservationStatus}
    {opened : List (Hold Id Id ReservationStatus)} (adv : Book.Advances db.book db'.book f opened)
    (moves : Book.Moves db.book db'.book) (product : Id) :
    db'.stockOf product = db.stockOf product - movedQuantity db db' .active .committed product +
      movedQuantity db db' .committed .released product := by
  have stock := adv.stock product (moves.supply product)
  change db'.stockOf product = db.stockOf product - _ at stock
  have termwise : (db.book.holds.map fun g => if g.item = product then
      (weight (Phases.taken (f g).phase) - weight (Phases.taken g.phase)) * g.quantity else 0).sum =
      movedQuantity db db' .active .committed product -
        movedQuantity db db' .committed .released product := by
    simp only [movedQuantity, sum_filter, Db.book, List.map_map]
    rw [eq_sub_iff_add_eq, ← List.sum_map_add]
    congr 1
    apply List.map_congr_left
    intro r member
    obtain ⟨r', inside, named, _, _, phase, follows⟩ := Advances.found adv member
    have found : db'.reservations.get r.id = some r' := by
      rw [← named]
      exact Table.get_of_mem inside
    have item : r.hold.item = r.product := rfl
    have quantity : r.hold.quantity = r.quantity := rfl
    have before : r.hold.phase = r.status := rfl
    simp only [Function.comp_apply, found, Option.map_some, ← phase, item, quantity, before]
    by_cases here : r.product = product
    · rcases follows with still | step
      · rw [still]
        cases r.status <;> simp [here, Phases.taken, weight]
      · revert step
        cases r.status <;> cases r'.status <;>
          simp [here, Phases.taken, weight, ReservationStatus.Follows]
    · simp [here]
  rw [stock, termwise]
  ring

/-- In every reached state the counters are explained by the reservations, and
every move of the run keeps the life cycle of a reservation and accounts for the stock. -/
theorem stock_ledger {db₀ db : Db} {moves : List (Move Db StockOp)}
    (run : stockMachine.Run db₀ moves db) :
    (∀ p ∈ db.products.rows, p.reserved_quantity = activeQuantity db p.id ∧
      0 ≤ p.reserved_quantity ∧ p.reserved_quantity ≤ p.stock_quantity) ∧
    ∀ move ∈ moves,
      (∀ r ∈ move.before.reservations.rows, ∃ r' ∈ move.after.reservations.rows, r'.id = r.id ∧
        r'.product = r.product ∧ r'.quantity = r.quantity ∧
        (r'.status = r.status ∨ r.status.Follows r'.status)) ∧
      (move.label.isAdmin = false → ∀ p ∈ move.before.products.rows,
        ∃ p' ∈ move.after.products.rows, p'.id = p.id ∧
          p'.stock_quantity = p.stock_quantity -
            movedQuantity move.before move.after .active .committed p.id +
            movedQuantity move.before move.after .committed .released p.id) := by
  have invariant {db : Db} {moves : List (Move Db StockOp)} (run : stockMachine.Run db₀ moves db) :
      StockInvariant db := by
    refine run.invariant (fun _ => StockInvariant.start) ?_
    intro s op s' inv taken
    obtain rfl : op.run s = s' := by simpa [stockMachine] using taken
    exact inv.run op
  constructor
  · intro p member
    have inv := invariant run
    have balanced := inv.balanced p.id
    change db.reservedOf p.id = _ at balanced
    rw [Db.reservedOf_eq member, ← activeQuantity_eq] at balanced
    refine ⟨balanced, ?_, (Product.check_iff.mp (db.products.checked p member)).1⟩
    rw [balanced, activeQuantity_eq]
    exact db.book.total_nonnegative _ _ inv.nonnegative
  · intro move member
    obtain ⟨taken, _, earlier⟩ := run.reached move member
    have inv := invariant earlier
    obtain ⟨before, op, after⟩ := move
    obtain rfl : op.run before = after := by simpa [stockMachine] using taken
    by_cases admin : op.isAdmin = true
    · obtain ⟨restocks, _⟩ := op.run_restocks before admin
      refine ⟨fun r present => ?_, by simp [admin]⟩
      have kept : r.hold ∈ (op.run before).book.holds := restocks.holds ▸ Db.hold_mem present
      obtain ⟨r', inside, same⟩ := List.mem_map.mp kept
      exact ⟨r', inside, congrArg Hold.key same, congrArg Hold.item same, congrArg Hold.quantity same,
        .inl (congrArg Hold.phase same)⟩
    · have shop : op.isAdmin = false := by simpa using admin
      have ledgered := op.run_ledgered before shop
      obtain ⟨_, steps, f, opened, adv⟩ := Ledgered.advances ledgered inv.housed
      have places := ledgered.elim Ledgered.places Ledgered.places
      refine ⟨fun r present => ?_, fun _ p present => ?_⟩
      · obtain ⟨r', inside, named, product, quantity, _, follows⟩ := Advances.found adv present
        exact ⟨r', inside, named, product, quantity, follows⟩
      · obtain ⟨p', inside, named, _⟩ := places_kept places present
        refine ⟨p', inside, named, ?_⟩
        have stock := Advances.stockOf adv steps p.id
        rw [Db.stockOf_eq present, ← named, Db.stockOf_eq inside] at stock
        rw [stock, named]

namespace Sample

def view : CartView := (shop.cartView 1 cart).get (by decide +kernel)

-- A hold is taken, paid for while the admin restocks, and given back.
def stockOps : List StockOp :=
  [.reserveStock 1 1000 (100 + ·) view, .commitReservations 1 [100],
    .patchProduct 1 30 { stock_quantity := some 9 }, .reverseCommittedReservations 1 [100]]

def restocked : Db := stockOps.foldl StockOp.run shop

end Sample

theorem stock_ledger_restocked : ∃ moves, stockMachine.Run Sample.shop moves Sample.restocked ∧
    ∀ p ∈ Sample.restocked.products.rows, p.reserved_quantity = activeQuantity Sample.restocked p.id ∧
      0 ≤ p.reserved_quantity ∧ p.reserved_quantity ≤ p.stock_quantity := by
  have started : stockMachine.Start Sample.shop := ⟨rfl, by decide +kernel⟩
  have ends : stockMachine.exec Sample.shop Sample.stockOps = some Sample.restocked := rfl
  obtain ⟨moves, run⟩ := (Machine.Run.start started).of_exec ends
  exact ⟨moves, run, (stock_ledger run).1⟩

example : Sample.restocked.products.rows.map (fun p => (p.stock_quantity, p.reserved_quantity)) =
    [(11, 0)] := by decide +kernel

end Storefront
