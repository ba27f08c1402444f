import Storefront.System.CartContents

set_option autoImplicit false

/-!
# The coupons a cart holds on to

Coupons are edited and counted, and never removed: what a cart applies exists.
-/

namespace Storefront

open Relational Transition

def KeepsCoupons (db db' : Db) : Prop :=
  ∀ coupon ∈ db.coupons.rows, ∃ coupon' ∈ db'.coupons.rows, coupon'.id = coupon.id ∧ coupon'.tenant = coupon.tenant

theorem KeepsCoupons.of_tables {db db' : Db} (coupons : db'.coupons = db.coupons) : KeepsCoupons db db' :=
  fun coupon member => ⟨coupon, coupons ▸ member, rfl, rfl⟩

theorem KeepsCoupons.trans {a b c : Db} (first : KeepsCoupons a b) (second : KeepsCoupons b c) : KeepsCoupons a c := by
  intro coupon member
  obtain ⟨mid, present, id, tenant⟩ := first coupon member
  obtain ⟨last, there, id', tenant'⟩ := second mid present
  exact ⟨last, there, id'.trans id, tenant'.trans tenant⟩

theorem KeepsCoupons.of_offers {db db' : Db}
    (same : db'.coupons.rows.map Coupon.offer = db.coupons.rows.map Coupon.offer) : KeepsCoupons db db' := by
  intro coupon member
  have image : coupon.offer ∈ db'.coupons.rows.map Coupon.offer := same ▸ List.mem_map_of_mem member
  obtain ⟨coupon', present, offer⟩ := List.mem_map.mp image
  have id := congrArg Coupon.id offer
  have tenant := congrArg Coupon.tenant offer
  exact ⟨coupon', present, id, tenant⟩

theorem LeavesClosed.coupons {db db' : Db} (leaves : LeavesClosed db db') : KeepsCoupons db db' :=
  .of_tables (by rw [leaves.frame])

theorem Unslots.coupons {db db' : Db} (unslots : Unslots db db') : KeepsCoupons db db' :=
  .of_tables (by rw [unslots.frame])

/-- The admin was at the coupons: what carts hold on to keeps its kind and its currency. -/
structure CouponsEdited (db db' : Db) : Prop where
  carts : db'.carts = db.carts
  items : db'.cartItems = db.cartItems
  applied : db'.appliedCoupons = db.appliedCoupons
  kept : KeepsCoupons db db'
  guarded : ∀ coupon' ∈ db'.coupons.rows, (∀ coupon ∈ db.coupons.rows, coupon.id ≠ coupon'.id) ∨
    ∃ coupon ∈ db.coupons.rows, coupon.id = coupon'.id ∧ coupon.tenant = coupon'.tenant ∧
      (coupon'.discount_type = coupon.discount_type ∧ coupon'.currency = coupon.currency ∨
        couponInUse db coupon.tenant coupon.id = false)

section Edits

variable {db db' : Db} {tenant : Id}

theorem CouponsEdited.of_tables (carts : db'.carts = db.carts) (items : db'.cartItems = db.cartItems)
    (applied : db'.appliedCoupons = db.appliedCoupons) (coupons : db'.coupons = db.coupons) : CouponsEdited db db' where
  carts
  items
  applied
  kept := .of_tables coupons
  guarded coupon member := .inr ⟨coupon, coupons ▸ member, rfl, rfl, .inl ⟨rfl, rfl⟩⟩

theorem CouponsEdited.of_products (frame : db' = { db with products := db'.products }) : CouponsEdited db db' := by
  rw [frame]
  exact .of_tables rfl rfl rfl rfl

theorem createCoupon_edits {id : Id} {data : CouponCreate} (done : createCoupon tenant id data db = .ok db') :
    CouponsEdited db db' := by
  simp only [createCoupon, bind_eq_ok, stored_eq_ok] at done
  obtain ⟨_, _, _, _, _, _, _, _, _, _, _, inserted, rfl⟩ := done
  have rows := Table.insert_rows inserted
  refine ⟨rfl, rfl, rfl, fun coupon member => ⟨coupon, by simp [rows, member], rfl, rfl⟩, fun coupon' member => ?_⟩
  simp only [rows] at member
  rcases List.mem_append.mp member with old | new
  · exact .inr ⟨coupon', old, rfl, rfl, .inl ⟨rfl, rfl⟩⟩
  · rw [List.mem_singleton.mp new]
    exact .inl fun coupon present => Table.insert_key_fresh inserted present

theorem modifyCoupons_edits {id : Id} {f : Coupon → Coupon} {inert : Table.Inert f}
    (same : ∀ c, (f c).id = c.id ∧ (f c).tenant = c.tenant)
    (guarded : ∀ c ∈ db.coupons.rows, c.tenant = tenant → c.id = id → ((f c).discount_type = c.discount_type ∧
      (f c).currency = c.currency) ∨ couponInUse db tenant id = false) :
    CouponsEdited db (db.modifyCoupons (fun row => row.tenant == tenant && row.id == id) f inert) := by
  refine ⟨rfl, rfl, rfl, fun coupon member => ⟨_, List.mem_map_of_mem member, ?_⟩, fun coupon' member => ?_⟩
  · unfold Table.updated
    split
    · exact same coupon
    · exact ⟨rfl, rfl⟩
  · obtain ⟨coupon, present, rfl⟩ := List.mem_map.mp member
    refine .inr ⟨coupon, present, ?_⟩
    by_cases picked : (coupon.tenant == tenant && coupon.id == id) = true
    · have scope := picked
      simp only [Bool.and_eq_true, beq_iff_eq] at scope
      simp only [Table.updated, picked, if_true, (same coupon).1, (same coupon).2, true_and]
      rw [scope.1, scope.2]
      exact guarded coupon present scope.1 scope.2
    · simp [Table.updated, picked]

theorem patchCoupon_edits {coupon : Id} {data : CouponUpdate} {now : Time}
    (done : patchCoupon tenant coupon data now db = .ok db') : CouponsEdited db db' := by
  simp only [patchCoupon, bind_eq_ok, pure_eq_ok] at done
  obtain ⟨c, found, _, _, _, _, _, _, _, _, _, _, _, _, _, guard, rfl⟩ := done
  have found := orRaise_eq_ok.mp found
  have picked := List.find?_some found
  simp only [Bool.and_eq_true, beq_iff_eq] at picked
  refine modifyCoupons_edits (fun _ => ⟨rfl, rfl⟩) fun c' member _ named => ?_
  obtain rfl := db.coupons.eq_of_key member (List.mem_of_find?_eq_some found) (named.trans picked.2.symm)
  rcases require_eq_ok.mp guard with ⟨currency, kind⟩ | free
  · exact .inl ⟨kind, currency⟩
  · exact .inr free

theorem deactivateCoupon_edits {coupon : Id} (done : deactivateCoupon tenant coupon db = .ok db') :
    CouponsEdited db db' := by
  rw [← deactivateCoupon_saves done]
  exact modifyCoupons_edits (fun _ => ⟨rfl, rfl⟩) fun _ _ _ _ => .inl ⟨rfl, rfl⟩

theorem CouponsEdited.cartRows (edited : CouponsEdited db db') (c : Cart) : db'.cartRows c = db.cartRows c := by
  simp only [Db.cartRows, Db.cartLines, Db.appliedTo, edited.items, edited.applied]

end Edits

def CartRows.Known (coupons : Table Coupon) (b : CartRows) : Prop :=
  ∀ a ∈ b.applied, ∃ coupon ∈ coupons.rows, coupon.id = a.coupon

theorem CartRows.Known.keeps {db db' : Db} {b : CartRows} (known : b.Known db.coupons) (keeps : KeepsCoupons db db') :
    b.Known db'.coupons := by
  intro a inside
  obtain ⟨coupon, present, named⟩ := known a inside
  obtain ⟨coupon', there, id, _⟩ := keeps coupon present
  exact ⟨coupon', there, id.trans named⟩

theorem Turn.known {db : Db} {now : Time} {b b' : CartRows} {request : CartRequest} (turn : Turn db now b request b')
    (known : b.Known db.coupons) : b'.Known db.coupons := by
  cases turn with
  | cleared => exact fun a inside => by cases inside
  | applied coupon a there names _ =>
    intro a' inside
    rcases List.mem_append.mp inside with old | new
    · exact known a' old
    · rw [List.mem_singleton.mp new]
      exact ⟨coupon, there, names.symm⟩
  | unapplied => exact fun a inside => known a (List.mem_of_mem_filter inside)
  | _ => exact known

section Events

variable {settings : Settings} {lib : WebhookLibrary} {s s' : Sys}

theorem shop_coupons {e : Event} (taken : shop settings lib s e = some s') : KeepsCoupons s.db s'.db := by
  cases shop_cases taken with
  | shopper _ done => exact (CartRequest.run_leaves done).coupons
  | abandonStale _ done => exact (abandonStaleCarts_leaves done).coupons
  | createCoupon done => exact (createCoupon_edits done).kept
  | patchCoupon done => exact (patchCoupon_edits done).kept
  | deactivateCoupon done => exact (deactivateCoupon_edits done).kept
  | deleteAddress done => exact (deleteAddress_unslots done).coupons
  | deletePaymentMethod done => exact (deletePaymentMethod_unslots done).coupons
  | editProfiles _ => exact .of_tables rfl
  | run apart stepped => exact .of_offers (step_coupons stepped apart)

def Db.CouponsKnown (db : Db) : Prop := ∀ c ∈ db.carts.rows, (db.cartRows c).Known db.coupons

theorem Db.CouponsKnown.opened {db : Db} (known : db.CouponsKnown) (filed : db.Filed) {tenant customer : Id}
    {request : CartRequest} {row : Cart} (opened : Opened db tenant customer request row) :
    (db.cartRows row).Known db.coupons := by
  rcases filed.opened opened with present | ⟨_, applied, _⟩
  · exact known row present
  · rw [CartRows.Known, applied]
    exact fun a inside => by cases inside

theorem Db.CouponsKnown.step {e : Event} (known : s.db.CouponsKnown) (filed : s.db.Filed)
    (taken : shop settings lib s e = some s') : s'.db.CouponsKnown := by
  have keeps := shop_coupons taken
  cases shop_carts taken with
  | restated restated _ =>
    intro c' member
    obtain ⟨c, present, status, time, _, rfl⟩ := restated.only c' member
    rw [restated.cartRows]
    exact CartRows.Known.keeps (known c present) keeps
  | unslotted _ unslots =>
    intro c' member
    obtain ⟨c, present, core⟩ := unslots.row_of member
    have applied : (s'.db.cartRows c').applied = (s.db.cartRows c).applied := by
      have id : c'.id = c.id := congrArg CartCore.id core
      have tenant : c'.tenant = c.tenant := congrArg CartCore.tenant core
      rw [Db.cartRows, id, tenant, Db.appliedTo, unslots.frame]
      rfl
    rw [CartRows.Known, applied]
    exact CartRows.Known.keeps (known c present) keeps
  | turned tenant customer request draw row row' _ turned =>
    intro c member
    rcases turned.row_of member with rfl | ⟨present, other⟩
    · exact CartRows.Known.keeps (turned.turn.known (known.opened filed turned.opened)) keeps
    · rw [turned.others other]
      exact CartRows.Known.keeps (known c present) keeps

theorem Run.coupons_known {s₀ : Sys} {moves : List (Move Sys Event)} (run : (storefront settings lib).Run s₀ moves s) :
    s.db.CouponsKnown := by
  have start (t : Sys) (opening : t.Opening) : t.LockedIn ∧ t.db.CouponsKnown := by
    refine ⟨Run.locked_in (.start opening : (storefront settings lib).Run t [] t), ?_⟩
    simp [Db.CouponsKnown, opening.carts]
  have step (t : Sys) (e : Event) (t' : Sys) (inv : t.LockedIn ∧ t.db.CouponsKnown)
      (taken : shop settings lib t e = some t') : t'.LockedIn ∧ t'.db.CouponsKnown :=
    ⟨inv.1.step taken, inv.2.step inv.1.filed taken⟩
  exact (run.invariant start step).2

end Events

end Storefront
