import Storefront.System.CouponPages

set_option autoImplicit false

/-!
# Coupons and how often they may be used

Checkouts count a coupon only below its limit, and the coupon page keeps a limit
above the stored count. The counts the admin writes are compared with nothing.
-/

namespace Storefront

open Relational Transition

def Coupon.Limited (c : Coupon) : Prop := ∀ cap ∈ c.max_uses, c.uses_count ≤ cap

def Db.CouponsLimited (db : Db) : Prop := ∀ c ∈ db.coupons.rows, c.Limited

theorem couponsLimited_of_coupons {db db' : Db} (same : db'.coupons = db.coupons) (limited : db.CouponsLimited) :
    db'.CouponsLimited := by
  rw [Db.CouponsLimited, same]
  exact limited

-- The limit is read under the row lock of the order transaction.
theorem useCoupon_limited {tenant : Id} {applied : AppliedCoupon} {db db' : Db}
    (done : useCoupon tenant db applied = .ok db') (limited : db.CouponsLimited) : db'.CouponsLimited := by
  simp only [useCoupon, bind_eq_ok, orRaise_eq_ok, require_eq_ok, pure_eq_ok] at done
  obtain ⟨locked, found, _, usable, rfl⟩ := done
  have member := List.mem_of_find?_eq_some found
  intro c' inside
  simp only [Db.modifyCoupons, Table.modify_rows] at inside
  obtain ⟨c, present, rfl⟩ := List.mem_map.mp inside
  unfold Table.updated
  split
  next here =>
    simp only [Bool.and_eq_true, beq_iff_eq] at here
    obtain rfl := db.coupons.eq_of_key present member here.2
    intro cap known
    have room : c.uses_count < cap := by
      have max : c.max_uses = some cap := known
      simpa [Coupon.exhausted, max] using usable
    exact room
  · exact limited c present

theorem countingLimited : Counting fun db db' => db.CouponsLimited → db'.CouponsLimited where
  tables same := couponsLimited_of_coupons (congrArg Prod.snd same)
  trans first second := second ∘ first
  products done _ := by
    obtain ⟨_, _, rfl⟩ := stored_eq_ok.mp done
    exact id
  coupons := useCoupon_limited

def Event.writesWithin (db : Db) : Event → Bool
  | .createCoupon _ _ data => data.max_uses.all fun cap => data.uses_count ≤ cap
  | .patchCoupon tenant coupon data =>
    (db.coupons.rows.find? fun c => c.tenant == tenant && c.id == coupon).all fun c =>
      data.uses_count.all fun uses => (data.max_uses.getD c.max_uses).all fun cap => uses ≤ cap
  | _ => true

section Requests

variable {tenant : Id} {db db' : Db}

theorem createCoupon_limited {id : Id} {data : CouponCreate} (limited : db.CouponsLimited)
    (done : createCoupon tenant id data db = .ok db') :
    db'.CouponsLimited ↔ (Event.createCoupon tenant id data).writesWithin db = true := by
  simp only [Event.writesWithin, Option.all_eq_true, decide_eq_true_eq]
  simp only [createCoupon, bind_eq_ok, require_eq_ok] at done
  obtain ⟨_, _, _, _, _, _, _, _, _, _, inserted⟩ := done
  obtain ⟨_, put, rfl⟩ := stored_eq_ok.mp inserted
  have rows := Table.insert_rows put
  constructor
  · intro after cap known
    exact after _ (by rw [rows]; exact List.mem_append_right _ (List.mem_singleton_self _)) cap known
  · intro within c member
    simp only [rows] at member
    rcases List.mem_append.mp member with old | new
    · exact limited c old
    · rw [List.mem_singleton.mp new]
      exact within

/-- The page compares the new limit with the stored count, and the count it writes with nothing. -/
theorem patchCoupon_limited {coupon : Id} {data : CouponUpdate} {now : Time} (limited : db.CouponsLimited)
    (done : patchCoupon tenant coupon data now db = .ok db') :
    db'.CouponsLimited ↔ (Event.patchCoupon tenant coupon data).writesWithin db = true := by
  simp only [patchCoupon, bind_eq_ok, require_eq_ok, orRaise_eq_ok, pure_eq_ok] at done
  obtain ⟨row, found, _, _, _, _, _, _, _, _, _, capped, _, _, _, _, rfl⟩ := done
  have picked := List.find?_some found
  simp only [Bool.and_eq_true, beq_iff_eq] at picked
  have member := List.mem_of_find?_eq_some found
  have named : (row.tenant == tenant && row.id == coupon) = true := by simp [picked]
  simp only [Event.writesWithin, found, Option.all_some, Option.all_eq_true, decide_eq_true_eq]
  constructor
  · intro after uses written cap known
    have saved : data.apply row ∈ (db.modifyCoupons (fun c => c.tenant == tenant && c.id == coupon) data.apply).coupons.rows := by
      refine List.mem_map.mpr ⟨row, member, ?_⟩
      rw [Table.updated, if_pos named]
    have within := after _ saved cap known
    have count : (data.apply row).uses_count = uses := by
      rw [CouponUpdate.apply, written]
      rfl
    rwa [count] at within
  · intro within c' inside
    simp only [Db.modifyCoupons, Table.modify_rows] at inside
    obtain ⟨c, present, rfl⟩ := List.mem_map.mp inside
    unfold Table.updated
    split
    next here =>
      simp only [Bool.and_eq_true, beq_iff_eq] at here
      obtain rfl := db.coupons.eq_of_key present member (here.2.trans picked.2.symm)
      intro cap known
      cases written : data.uses_count with
      | none =>
        have count : (data.apply c).uses_count = c.uses_count := by
          rw [CouponUpdate.apply, written]
          rfl
        rw [count]
        exact capped cap known
      | some uses =>
        have count : (data.apply c).uses_count = uses := by
          rw [CouponUpdate.apply, written]
          rfl
        rw [count]
        exact within uses written cap known
    · exact limited c present

theorem deactivateCoupon_limited {coupon : Id} (limited : db.CouponsLimited)
    (done : deactivateCoupon tenant coupon db = .ok db') : db'.CouponsLimited := by
  rw [← deactivateCoupon_saves done]
  intro c' inside
  simp only [Db.modifyCoupons, Table.modify_rows] at inside
  obtain ⟨c, present, rfl⟩ := List.mem_map.mp inside
  unfold Table.updated
  split <;> exact limited c present

end Requests

section Runs

variable {settings : Settings} {lib : WebhookLibrary} {s s' : Sys}

theorem shop_limited {e : Event} (limited : s.db.CouponsLimited) (taken : shop settings lib s e = some s') :
    s'.db.CouponsLimited ↔ e.writesWithin s.db = true := by
  rcases shop_counts_coupons countingLimited couponsLimited_of_coupons taken with page | ⟨apart, keeps⟩
  · cases page with
    | created done => exact createCoupon_limited limited done
    | patched done => exact patchCoupon_limited limited done
    | deactivated done => exact iff_of_true (deactivateCoupon_limited limited done) rfl
  · refine iff_of_true (keeps limited) ?_
    cases e with
    | createCoupon | patchCoupon | deactivateCoupon => cases apart
    | _ => rfl

/-- Coupons stay within their limits exactly as long as the counts the admin writes do. -/
theorem coupons_limited_iff (settings : Settings) (lib : WebhookLibrary) {s₀ s : Sys} {moves : List (Move Sys Event)}
    (run : (storefront settings lib).Run s₀ moves s) (limited : s₀.db.CouponsLimited) :
    (∀ move ∈ moves, move.after.db.CouponsLimited) ↔
      ∀ move ∈ moves, move.label.writesWithin move.before.db = true := by
  have agree (s : Sys) (e : Event) (s' : Sys) (_ : True) (limited : s.db.CouponsLimited)
      (taken : shop settings lib s e = some s') : s'.db.CouponsLimited ↔ e.writesWithin s.db = true :=
    shop_limited limited taken
  exact @Machine.Run.safe_iff_from Sys Event (storefront settings lib) (fun _ => True) (fun s => s.db.CouponsLimited)
    (fun move => move.label.writesWithin move.before.db = true) s₀ ⟨trivial, limited⟩ (fun _ _ _ _ _ => trivial) agree
    s moves run

end Runs

namespace Sample

def welcome : CouponCreate where
  code := "WELCOME10"
  discount_type := .percentage
  discount_value := 10
  customer_type_restriction := .any
  max_uses := some 5

-- The limit goes down, and the count is corrected.
def withinLimits : List Event :=
  [.createCoupon 1 90 welcome, .patchCoupon 1 90 { max_uses := some (some 3) }, .patchCoupon 1 90 { uses_count := some 3 }]

def overLimit : List Event := [.createCoupon 1 90 welcome, .patchCoupon 1 90 { uses_count := some 10 }]

def corrected : Sys := (floor.exec opening withinLimits).get (by decide +kernel)

theorem opening_limited : opening.db.CouponsLimited := by
  intro c member
  cases member

end Sample

theorem coupons_limited_corrected : ∃ moves, Sample.floor.Run Sample.opening moves Sample.corrected ∧
    (∃ c ∈ Sample.corrected.db.coupons.rows, c.max_uses = some 3 ∧ c.uses_count = 3) ∧
    ∀ move ∈ moves, move.after.db.CouponsLimited := by
  have ends : Sample.floor.exec Sample.opening Sample.withinLimits = some Sample.corrected := (Option.some_get _).symm
  obtain ⟨moves, run, passed⟩ := @Machine.exec_passes _ _ Sample.floor (fun s e => e.writesWithin s.db) _ _ _
    Sample.opening_opens ends (by decide +kernel)
  exact ⟨moves, run, by decide +kernel, (coupons_limited_iff _ _ run Sample.opening_limited).mpr passed⟩

namespace Sample

def overused : Sys := (floor.exec opening overLimit).get (by decide +kernel)

end Sample

theorem coupon_over_limit : ∃ moves, Sample.floor.Run Sample.opening moves Sample.overused ∧
    Sample.opening.db.CouponsLimited ∧ ¬ Sample.overused.db.CouponsLimited := by
  have ends : Sample.floor.exec Sample.opening Sample.overLimit = some Sample.overused := (Option.some_get _).symm
  obtain ⟨moves, run⟩ := Machine.exec_run Sample.opening_opens ends
  refine ⟨moves, run, Sample.opening_limited, fun limited => ?_⟩
  have exceeded : ∃ c ∈ Sample.overused.db.coupons.rows, c.max_uses = some 5 ∧ c.uses_count = 10 := by decide +kernel
  obtain ⟨c, member, max, uses⟩ := exceeded
  have within := limited c member 5 max
  omega

end Storefront
