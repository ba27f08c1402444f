import Storefront.System.CartReturns

set_option autoImplicit false

/-!
# The expiry sweep, run alone

A sweep takes its reservations in batches, in the order in which the query returns
them, and ends at the first batch that finds none.
-/

namespace Storefront

open Relational Transition

def heldOf (product : Id) (reservations : List InventoryReservation) : Int :=
  ((reservations.filter fun r => r.product == product).map InventoryReservation.quantity).sum

structure GaveBack (given : List InventoryReservation) (db db' : Db) : Prop where
  frame : db' = { db with products := db'.products, carts := db'.carts, reservations := db'.reservations }
  reservations : db'.reservations.rows = db.reservations.rows.map
    (Table.updated (fun r => (given.map InventoryReservation.id).contains r.id) fun r => { r with status := .released })
  products : db'.products.rows = db.products.rows.map fun p =>
    { p with reserved_quantity := p.reserved_quantity - heldOf p.id given }
  carts : db'.carts.rows = db.carts.rows.map
    (Table.updated (fun c => (given.map InventoryReservation.cart).contains c.id && c.status == .checkingOut)
      Cart.reopened)

section GivingBack

variable {given more : List InventoryReservation} {db mid db' : Db} {res : InventoryReservation}

theorem heldOf_append (product : Id) (given more : List InventoryReservation) :
    heldOf product (given ++ more) = heldOf product given + heldOf product more := by
  simp [heldOf]

theorem heldOf_perm {product : Id} (same : given.Perm more) : heldOf product given = heldOf product more :=
  ((same.filter _).map _).sum_eq

theorem GaveBack.refl (db : Db) : GaveBack [] db db := by
  constructor
  · rfl
  · exact (List.map_id _).symm.trans (List.map_congr_left fun r _ => by simp [Table.updated])
  · exact (List.map_id _).symm.trans (List.map_congr_left fun p _ => by simp [heldOf])
  · exact (List.map_id _).symm.trans (List.map_congr_left fun c _ => by simp [Table.updated])

theorem GaveBack.trans (first : GaveBack given db mid) (second : GaveBack more mid db') :
    GaveBack (given ++ more) db db' := by
  constructor
  · rw [second.frame, first.frame]
  · rw [second.reservations, first.reservations, List.map_map]
    refine List.map_congr_left fun r _ => ?_
    simp only [Function.comp_apply, List.map_append, List.contains_append]
    cases now : (given.map InventoryReservation.id).contains r.id <;>
      cases later : (more.map InventoryReservation.id).contains r.id <;>
        simp only [Table.updated, now, later, Bool.or_true, Bool.or_false, Bool.or_self, Bool.false_eq_true, if_true,
          if_false]
  · rw [second.products, first.products, List.map_map]
    refine List.map_congr_left fun p _ => ?_
    simp only [Function.comp_apply, heldOf_append]
    congr 1
    omega
  · rw [second.carts, first.carts, List.map_map]
    refine List.map_congr_left fun c _ => ?_
    simp only [Function.comp_apply, List.map_append, List.contains_append]
    have left : (CartStatus.active == .checkingOut) = false := rfl
    cases running : c.status == .checkingOut <;>
      cases now : (given.map InventoryReservation.cart).contains c.id <;>
        cases later : (more.map InventoryReservation.cart).contains c.id <;>
          simp only [Table.updated, Cart.reopened, now, later, running, left, Bool.and_true, Bool.and_false,
            Bool.or_true, Bool.or_false, Bool.or_self, Bool.false_eq_true, if_true, if_false]

theorem GaveBack.perm (gave : GaveBack given db db') (same : given.Perm more) : GaveBack more db db' := by
  have ids (id : Id) : (given.map InventoryReservation.id).contains id =
      (more.map InventoryReservation.id).contains id := by
    rw [Bool.eq_iff_iff, List.contains_iff_mem, List.contains_iff_mem, (same.map _).mem_iff]
  have carts (id : Id) : (given.map InventoryReservation.cart).contains id =
      (more.map InventoryReservation.cart).contains id := by
    rw [Bool.eq_iff_iff, List.contains_iff_mem, List.contains_iff_mem, (same.map _).mem_iff]
  refine ⟨gave.frame, ?_, ?_, ?_⟩
  · simpa only [ids] using gave.reservations
  · simpa only [heldOf_perm same] using gave.products
  · simpa only [carts] using gave.carts

theorem releaseExpiredOne_gives (done : releaseExpiredOne db res = .ok db') : GaveBack [res] db db' := by
  simp only [releaseExpiredOne, bind_eq_ok] at done
  obtain ⟨mid, settled, reverted⟩ := done
  obtain ⟨products, updated, rfl⟩ := settle_eq_ok.mp settled
  obtain ⟨carts, reopened, rfl⟩ := stored_eq_ok.mp reverted
  constructor
  · rfl
  · refine List.map_congr_left fun r _ => ?_
    simp [Table.updated, Settlement.release]
  · refine (Table.update_rows updated).trans (List.map_congr_left fun p _ => ?_)
    by_cases named : p.id = res.product
    · simp [Table.updated, Scope.sees, named, counted, Settlement.release, heldOf, sub_eq_add_neg]
    · simp [Table.updated, named, Ne.symm named, heldOf]
  · refine (Table.update_rows reopened).trans (List.map_congr_left fun c _ => ?_)
    simp [Table.updated, Cart.reopened]

theorem releaseEach_gives (done : given.foldlM releaseExpiredOne db = .ok db') : GaveBack given db db' := by
  induction given generalizing db with
  | nil =>
    obtain rfl : db = db' := by simpa using done
    exact .refl db
  | cons res rest ih =>
    obtain ⟨mid, first, tail⟩ := foldlM_cons_eq_ok.mp done
    exact (releaseExpiredOne_gives first).trans (ih tail)

theorem Db.OneLive.gaveBack (one : db.OneLive) (gave : GaveBack given db db') : db'.OneLive := by
  intro c' left d' right live live' same
  rw [gave.carts] at left right
  obtain ⟨c, inC, rfl⟩ := List.mem_map.mp left
  obtain ⟨d, inD, rfl⟩ := List.mem_map.mp right
  have was_live (e : Cart) (open_ : (Table.updated (fun c => (given.map InventoryReservation.cart).contains c.id &&
      c.status == .checkingOut) Cart.reopened e).status.live = true) : e.status.live = true := by
    unfold Table.updated at open_
    split at open_
    next picked =>
      simp only [Bool.and_eq_true, beq_iff_eq] at picked
      simp [picked.2, CartStatus.live]
    · exact open_
  rw [(updated_reopened _ c).2, (updated_reopened _ d).2] at same
  rw [one c inC d inD (was_live c live) (was_live d live') same]

theorem releaseExpiredOne_succeeds (one : db.OneLive) (nonnegative : 0 ≤ res.quantity) :
    ∃ db', releaseExpiredOne db res = .ok db' ∧ db'.OneLive := by
  obtain ⟨mid, settled⟩ := settle_release_succeeds none db nonnegative
  have same : mid.OneLive := by
    unfold Db.OneLive
    rw [(settle_settled settled).2]
    exact one
  obtain ⟨db', reverted⟩ := revert_succeeds same (p := fun c => c.id == res.cart && c.status == .checkingOut)
    fun c picked => by simpa using (Bool.and_eq_true_iff.mp picked).2
  have done : releaseExpiredOne db res = .ok db' := bind_eq_ok.mpr ⟨mid, settled, reverted⟩
  exact ⟨db', done, one.gaveBack (releaseExpiredOne_gives done)⟩

end GivingBack

section Loop

variable {given : List InventoryReservation} {scan : Scan} {now : Time} {db db' : Db}

theorem GaveBack.expired_eq (gave : GaveBack given db db') : expired now db' =
    (expired now db).filter fun r => !(given.map InventoryReservation.id).contains r.id := by
  unfold expired
  rw [gave.reservations, Table.filter_updated_out fun r _ _ => by simp]

theorem expired_ids_nodup (scan : Scan) (now : Time) (db : Db) :
    ((scan.order (expired now db)).map InventoryReservation.id).Nodup :=
  ((scan.perm _).map _).nodup_iff.mpr (nodup_filter_ids db _)

theorem releaseExpiredBatch_leaves (done : releaseExpiredBatch scan now db = .ok db') :
    (expired now db').Perm ((scan.order (expired now db)).drop 100) := by
  rw [(releaseEach_gives done).expired_eq]
  have distinct := expired_ids_nodup scan now db
  refine ((scan.perm (expired now db)).filter _).symm.trans (List.Perm.of_eq ?_)
  generalize scan.order (expired now db) = listed at distinct
  have parted := distinct
  rw [← List.take_append_drop 100 listed, List.map_append] at parted
  have apart := (List.nodup_append.mp parted).2.2
  conv_lhs => rw [← List.take_append_drop 100 listed, List.filter_append]
  rw [List.take_append_drop]
  have first :
      (listed.take 100).filter (fun r => !((listed.take 100).map InventoryReservation.id).contains r.id) = [] := by
    rw [List.filter_eq_nil_iff]
    intro r member
    simp only [Bool.not_eq_true', Bool.not_eq_false, List.contains_iff_mem]
    exact List.mem_map_of_mem member
  have rest : (listed.drop 100).filter (fun r => !((listed.take 100).map InventoryReservation.id).contains r.id) =
      listed.drop 100 := by
    rw [List.filter_eq_self]
    intro r member
    simp only [Bool.not_eq_true', ← Bool.not_eq_true, List.contains_iff_mem]
    intro again
    exact apart r.id again r.id (List.mem_map_of_mem member) rfl
  rw [first, rest, List.nil_append]

theorem releaseExpiredBatch_succeeds (scan : Scan) (one : db.OneLive)
    (nonnegative : ∀ r ∈ expired now db, 0 ≤ r.quantity) :
    ∃ db', releaseExpiredBatch scan now db = .ok db' ∧ db'.OneLive :=
  foldlM_succeeds (fun _ member _ one => releaseExpiredOne_succeeds one
    (nonnegative _ ((scan.perm _).mem_iff.mp (List.mem_of_mem_take member)))) one

inductive SweepRounds (scan : Scan) (now : Time) : Db → Nat → Db → Prop
  | stop {db : Db} (none : expired now db = []) : SweepRounds scan now db 0 db
  | batch {db mid db' : Db} {rounds : Nat} (some : expired now db ≠ [])
    (done : releaseExpiredBatch scan now db = .ok mid)
      (rest : SweepRounds scan now mid rounds db') : SweepRounds scan now db (rounds + 1) db'

/-- The loop ends after one batch for each hundred reservations, and gives back what was expired. -/
theorem releaseExpiredLoop_ends (scan : Scan) (fuel : Nat) (one : db.OneLive)
    (nonnegative : ∀ r ∈ expired now db, 0 ≤ r.quantity)
    (enough : (expired now db).length ≤ 100 * fuel) :
    ∃ db', SweepRounds scan now db (((expired now db).length + 99) / 100) db' ∧
      releaseExpiredLoop scan now fuel db = (db', .ok ()) ∧ GaveBack (expired now db) db db' := by
  induction fuel generalizing db with
  | zero =>
    have none : expired now db = [] := List.eq_nil_of_length_eq_zero (by omega)
    rw [none]
    exact ⟨db, .stop none, rfl, .refl db⟩
  | succ fuel ih =>
    unfold releaseExpiredLoop
    by_cases none : expired now db = []
    · rw [if_pos none, none]
      exact ⟨db, .stop none, rfl, .refl db⟩
    · obtain ⟨mid, batch, stays⟩ := releaseExpiredBatch_succeeds scan one nonnegative
      have leaves := releaseExpiredBatch_leaves batch
      have fewer : (expired now mid).length = (expired now db).length - 100 := by
        rw [leaves.length_eq, List.length_drop, (scan.perm _).length_eq]
      have counted : ∀ r ∈ expired now mid, 0 ≤ r.quantity := fun r member =>
        nonnegative r ((scan.perm _).mem_iff.mp (List.mem_of_mem_drop (leaves.mem_iff.mp member)))
      obtain ⟨db', rounds, ends, gave⟩ := ih stays counted (by omega)
      have one_more : ((expired now db).length + 99) / 100 = ((expired now mid).length + 99) / 100 + 1 := by
        have positive := List.length_pos_of_ne_nil none
        omega
      have whole : ((scan.order (expired now db)).take 100 ++ expired now mid).Perm (expired now db) := by
        have parts := leaves.append_left ((scan.order (expired now db)).take 100)
        rw [List.take_append_drop] at parts
        exact parts.trans (scan.perm _)
      refine ⟨db', one_more ▸ .batch none batch rounds, ?_, ((releaseEach_gives batch).trans gave).perm whole⟩
      rw [if_neg none, batch]
      exact ends

end Loop

/-- The expired reservations are released, what they held is free, and their carts are open again. -/
structure Swept (now : Time) (db db' : Db) : Prop where
  frame : db' = { db with products := db'.products, carts := db'.carts, reservations := db'.reservations }
  reservations : db'.reservations.rows = db.reservations.rows.map fun r =>
    if r.status = .active ∧ r.expires_at < now then { r with status := .released } else r
  products : db'.products.rows = db.products.rows.map fun p =>
    { p with reserved_quantity := p.reserved_quantity - heldOf p.id (expired now db) }
  carts : db'.carts.rows = db.carts.rows.map fun c =>
    if c.status = .checkingOut ∧ ∃ r ∈ expired now db, r.cart = c.id then { c with status := .active } else c

theorem GaveBack.swept {now : Time} {db db' : Db} (gave : GaveBack (expired now db) db db') : Swept now db db' := by
  refine ⟨gave.frame, ?_, gave.products, ?_⟩
  · rw [gave.reservations]
    refine List.map_congr_left fun r member => ?_
    have listed := mem_ids_iff db (fun r => r.status == .active && decide (r.expires_at < now)) member
    change ((expired now db).map InventoryReservation.id).contains r.id = _ at listed
    simp only [Table.updated, listed, Bool.and_eq_true, beq_iff_eq, decide_eq_true_eq]
  · rw [gave.carts]
    refine List.map_congr_left fun c _ => ?_
    have owns : (((expired now db).map InventoryReservation.cart).contains c.id && c.status == .checkingOut) = true ↔
        c.status = .checkingOut ∧ ∃ r ∈ expired now db, r.cart = c.id := by
      rw [Bool.and_eq_true, List.contains_iff_mem, List.mem_map, beq_iff_eq, and_comm]
    simp only [Table.updated, Cart.reopened, owns]

/-- Alone, the sweep ends, and does exactly what it is for. -/
theorem sweep_exact (scan : Scan) (now : Time) (db : Db) (one : db.OneLive)
    (nonnegative : ∀ r ∈ expired now db, 0 ≤ r.quantity) :
    ∃ db', SweepRounds scan now db (((expired now db).length + 99) / 100) db' ∧
      releaseExpiredReservations scan now db = (db', .ok ()) ∧ Swept now db db' := by
  obtain ⟨db', rounds, ends, gave⟩ := releaseExpiredLoop_ends scan ((expired now db).length + 1) one nonnegative
    (by omega)
  exact ⟨db', rounds, ends, gave.swept⟩

namespace Sample

def leftover : InventoryReservation :=
  { id := 71, tenant := 1, cart := 40, order := none, product := 30, quantity := 2, expires_at := 900
    status := .active }

def owed : InventoryReservation := { leftover with quantity := -1 }

-- A checkout that was left, and what it still holds.
def lapsing (res : InventoryReservation) : Db :=
  { shop with
    products := ⟨[{ product with reserved_quantity := 5 }], by decide +kernel, by decide +kernel⟩
    carts := ⟨[{ cart with status := .checkingOut }], by decide +kernel, by decide +kernel⟩
    reservations := ⟨[res], by simp [Schema.entries], by simp [Schema.check]⟩ }

theorem lapsing_oneLive (res : InventoryReservation) : (lapsing res).OneLive := by
  intro c left d right _ _ _
  rw [List.mem_singleton.mp left, List.mem_singleton.mp right]

end Sample

theorem sweep_exact_leftover : ∃ db', SweepRounds .plain 1000 (Sample.lapsing Sample.leftover) 1 db' ∧
    releaseExpiredReservations .plain 1000 (Sample.lapsing Sample.leftover) = (db', .ok ()) ∧
      Swept 1000 (Sample.lapsing Sample.leftover) db' :=
  sweep_exact .plain 1000 (Sample.lapsing Sample.leftover) (Sample.lapsing_oneLive _) (by decide +kernel)

/-- Nothing in the table keeps a quantity from being negative, and giving one back reserves. -/
theorem sweep_stopped : ¬ ∀ (scan : Scan) (now : Time) (db : Db), db.OneLive →
    ∃ db', releaseExpiredReservations scan now db = (db', .ok ()) ∧ Swept now db db' := by
  intro ends
  obtain ⟨db', done, _⟩ := ends .plain 1000 (Sample.lapsing Sample.owed) (Sample.lapsing_oneLive _)
  have raised : raisedBy (releaseExpiredReservations .plain 1000 (Sample.lapsing Sample.owed)).2 =
      some .integrityError := by decide +kernel
  rw [done] at raised
  cases raised

end Storefront
