import Storefront.Carts.Contents
import Storefront.Coupons.Discounts

set_option autoImplicit false

/-!
# Previewing a coupon

`preview_coupon` makes the checks of `apply_coupon` and adds the new discount to the
totals there are, where `apply_coupon` computes the totals anew.
-/

namespace Storefront

open Relational Transition

-- The sum is capped at the subtotal; adding to a capped sum and capping again is the same.
theorem min_add_capped {sum subtotal more : ℚ} (nonneg : 0 ≤ more) :
    min (min sum subtotal + more) subtotal = min (sum + more) subtotal := by
  rcases le_total sum subtotal with below | above
  · rw [min_eq_left below]
  · rw [min_eq_right above, min_eq_right (by linarith), min_eq_right (by linarith)]

theorem computeDiscounts_concat {items : List CartItem} {coupons : List Coupon} {coupon : Coupon}
    (nonneg : 0 ≤ coupon.computeDiscount (computeSubtotal items)) : computeDiscounts items (coupons ++ [coupon]) =
      min (computeDiscounts items coupons + coupon.computeDiscount (computeSubtotal items)) (computeSubtotal items) := by
  simp only [computeDiscounts, List.map_append, List.sum_append, List.map_cons, List.map_nil, List.sum_singleton]
  exact (min_add_capped nonneg).symm

-- The CouponAlreadyApplied of `apply_coupon`.
def Exn.IsAlreadyApplied (e : Exn) : Prop := ∃ detail, e = .couponAlreadyApplied detail

-- What `Coupon.validate` raises.
def Exn.isCouponRule : Exn → Bool
  | .couponInvalid _ | .couponExpired _ | .couponExhausted _ | .couponMinNotMet .. | .couponCountryRestricted _ => true
  | _ => false

theorem Coupon.validate_avoids {bad : Exn → Prop} (rules : ∀ e, e.isCouponRule = true → ¬ bad e) (coupon : Coupon)
    (now : Time) (subtotal : ℚ) (currency : String) (country : Option String) (customer_type : CustomerType) :
    Avoids bad (coupon.validate now subtotal currency country customer_type) := by
  have rule {p : Prop} [Decidable p] {e : Exn} (named : e.isCouponRule = true) : Avoids bad (require p e) :=
    .require (rules e named)
  unfold Coupon.validate
  have checks {p : Prop} [Decidable p] {e : Exn} {rest : Unit → Outcome Unit} (named : e.isCouponRule = true)
      (later : Avoids bad (rest ())) : Avoids bad (require p e >>= rest) := .bind (rule named) fun _ _ => later
  refine checks rfl (checks rfl ?_)
  cases coupon.valid_until <;> cases coupon.min_cart_subtotal
  · exact checks rfl (checks rfl (checks rfl (rule rfl)))
  · exact checks rfl (checks rfl (checks rfl (checks rfl (rule rfl))))
  · exact checks rfl (checks rfl (checks rfl (checks rfl (rule rfl))))
  · exact checks rfl (checks rfl (checks rfl (checks rfl (checks rfl (rule rfl)))))

namespace CartService

variable {db : Db} {tenant customer id : Id} {code : String} {now : Time}

theorem validateFor_avoids {bad : Exn → Prop} (rules : ∀ e, e.isCouponRule = true → ¬ bad e)
    (missing : ∀ model, ¬ bad (.doesNotExist model)) (tenant : Id) (cart : Cart) (coupon : Coupon) (now : Time) (db : Db) :
    Avoids bad (validateFor tenant cart coupon now db) := by
  unfold validateFor
  have checks (country : Option String) : Avoids bad (do
      let customer ← orRaise (.doesNotExist "Customer") (db.customer tenant cart.customer)
      coupon.validate now (computeSubtotal (db.cartLines tenant cart.id)) cart.currency country
        customer.customer_type) :=
    .bind (.orRaise (missing _) _) fun _ _ => Coupon.validate_avoids rules _ _ _ _ _ _
  cases cart.shipping_address with
  | none => exact checks none
  | some address =>
    apply Avoids.bind (.map _ (.orRaise (missing _) _))
    intro country _
    exact checks country

theorem validateFor_raises {cart : Cart} {coupon : Coupon} {e : Exn}
    (raised : validateFor tenant cart coupon now db = .error e) : ¬ e.IsAlreadyApplied := by
  refine validateFor_avoids ?_ ?_ tenant cart coupon now db e raised
  · rintro e rule ⟨detail, rfl⟩
    cases rule
  · rintro model ⟨detail, other⟩
    cases other

/-- The same errors but one, which the preview tells by its flag, and the same totals. -/
structure PreviewAgrees (preview : Outcome CouponPreview) (applied : Outcome (LoadedCart × Db)) : Prop where
  raises : ∀ e, preview = .error e ↔ applied = .error e ∧ ¬ e.IsAlreadyApplied
  flags : (∃ p, preview = .ok p ∧ p.already_applied = true) ↔ ∃ e, applied = .error e ∧ e.IsAlreadyApplied
  projects : ∀ p, preview = .ok p → p.already_applied = false → ∃ loaded db', applied = .ok (loaded, db') ∧
    p.projected_discount_total = loaded.totals.discount_total ∧ p.projected_grand_total = loaded.totals.grand_total

theorem PreviewAgrees.raising {e : Exn} (other : ¬ e.IsAlreadyApplied) : PreviewAgrees (.error e) (.error e) where
  raises e' := by
    constructor
    · intro same
      cases same
      exact ⟨rfl, other⟩
    · rintro ⟨same, _⟩
      cases same
      rfl
  flags := by
    constructor
    · rintro ⟨p, none, _⟩
      cases none
    · rintro ⟨e', same, already⟩
      cases same
      exact absurd already other
  projects p none := by cases none

theorem PreviewAgrees.already {p : CouponPreview} {detail : String} (flag : p.already_applied = true) :
    PreviewAgrees (.ok p) (.error (.couponAlreadyApplied detail)) where
  raises e := by
    constructor
    · intro none
      cases none
    · rintro ⟨same, other⟩
      cases same
      exact absurd ⟨detail, rfl⟩ other
  flags := iff_of_true ⟨p, rfl, flag⟩ ⟨_, rfl, detail, rfl⟩
  projects q same fresh := by
    cases same
    rw [flag] at fresh
    cases fresh

theorem PreviewAgrees.applying {p : CouponPreview} {loaded : LoadedCart} {db' : Db} (flag : p.already_applied = false)
    (discount : p.projected_discount_total = loaded.totals.discount_total)
    (grand : p.projected_grand_total = loaded.totals.grand_total) :
    PreviewAgrees (.ok p) (.ok (loaded, db')) where
  raises e := by
    constructor
    · intro none
      cases none
    · rintro ⟨none, _⟩
      cases none
  flags := by
    constructor
    · rintro ⟨q, same, set⟩
      cases same
      rw [flag] at set
      cases set
    · rintro ⟨e, none, _⟩
      cases none
  projects q same _ := by
    cases same
    exact ⟨loaded, db', rfl, discount, grand⟩

theorem bumpAndReturn_succeeds {db' : Db} {cart : Cart} (same : db'.carts = db.carts) (member : cart ∈ db.carts.rows)
    (owner : cart.tenant = tenant) : ∃ loaded last, bumpAndReturn tenant cart.id db' = .ok (loaded, last) := by
  have bumped : cart.bumped ∈ (db'.saveCart tenant cart.id Cart.bumped ⟨fun _ => rfl, fun _ => rfl⟩).carts.rows := by
    rw [← owner]
    exact saveCart_mem (same ▸ member)
  have found := Table.find_of_mem (q := fun c => c.tenant == tenant) _ bumped (by simp [owner])
  exact ⟨_, _, bind_eq_ok.mpr ⟨cart.bumped, orRaise_eq_ok.mpr found, rfl⟩⟩

theorem insertAppliedCoupon_succeeds {row : Cart} {coupon : Coupon} (filed : db.Filed) (member : row ∈ db.carts.rows)
    (fresh : ∀ a ∈ db.appliedCoupons.rows, a.id ≠ id)
    (free : ∀ a ∈ db.appliedTo row.tenant row.id, a.coupon ≠ coupon.id) :
    ∃ db', db.insertAppliedCoupon { id, tenant := row.tenant, cart := row.id, coupon := coupon.id } = .ok db' := by
  have accepted : ∃ table, db.appliedCoupons.insert
      { id, tenant := row.tenant, cart := row.id, coupon := coupon.id } = some table := by
    refine Table.insert_isSome (fun a inside entry new old => ?_) (by simp [Schema.entries]) rfl
    simp only [Schema.entries, List.mem_cons, List.not_mem_nil, or_false] at new old
    rcases new with rfl | rfl
    · rcases old with same | other
      · exact fresh a inside (IndexEntry.primary.inj same).symm
      · cases other
    · rcases old with other | same
      · cases other
      · injection same with cart named
        obtain ⟨c, present, id, owner⟩ := filed.applied a inside
        obtain rfl := db.carts.eq_of_key present member (id.trans cart.symm)
        refine free a (List.mem_filter.mpr ⟨inside, ?_⟩) named.symm
        simp [owner, cart]
  obtain ⟨table, inserted⟩ := accepted
  exact ⟨_, stored_eq_ok.mpr ⟨table, inserted, rfl⟩⟩

theorem cartCoupons_concat {db' : Db} {coupon : Coupon} {a : AppliedCoupon} {cart : Id} (member : coupon ∈ db.coupons.rows)
    (owner : coupon.tenant = tenant) (named : a.coupon = coupon.id) (coupons : db'.coupons = db.coupons)
    (applied : db'.appliedTo tenant cart = db.appliedTo tenant cart ++ [a]) :
    db'.cartCoupons tenant cart = db.cartCoupons tenant cart ++ [coupon] := by
  have found : db.coupons.rows.find? (fun c => c.tenant == tenant && c.id == a.coupon) = some coupon := by
    rw [named]
    exact db.coupons.find_of_mem (q := fun c => c.tenant == tenant) member (by simp [owner])
  simp only [Db.cartCoupons, applied, coupons, List.filterMap_append, List.filterMap_cons, found, List.filterMap_nil]

def projection (tenant : Id) (cart : Cart) (coupon : Coupon) (db : Db) : CouponPreview :=
  let items := db.cartLines tenant cart.id
  let already_applied := (db.appliedTo tenant cart.id).any fun a => a.coupon == coupon.id
  let marginal_discount := if already_applied then 0 else coupon.computeDiscount (computeSubtotal items)
  let current := computeTotals items (db.cartCoupons tenant cart.id) cart.currency
  let projected_discount := min (current.discount_total + marginal_discount) (computeSubtotal items)
  { code := coupon.code
    already_applied
    discount := quantize marginal_discount
    projected_discount_total := projected_discount
    projected_grand_total := quantize (computeSubtotal items - projected_discount)
    currency := cart.currency }

def fileCoupon (tenant : Id) (cart : Cart) (coupon : Coupon) (code : String) (id : Id) (db : Db) :
    Outcome (LoadedCart × Db) := do
  require (∀ a ∈ db.appliedTo tenant cart.id, a.coupon ≠ coupon.id)
    (.couponAlreadyApplied s!"Coupon {code} is already applied to this cart")
  let db ← db.insertAppliedCoupon { id, tenant, cart := cart.id, coupon := coupon.id }
  bumpAndReturn tenant cart.id db

section Found

variable {who : Customer} {cart : Cart} {coupon : Coupon}

theorem previewCoupon_found (found : db.activeCart tenant customer = some cart)
    (account : db.customer tenant cart.customer = some who) (named : db.couponOfCode tenant code = some coupon) :
    previewCoupon tenant customer code now db =
      (validateFor tenant cart coupon now db).bind fun _ => .ok (projection tenant cart coupon db) := by
  have loaded : getCart tenant customer db = .ok (db.loadCart tenant cart) :=
    bind_eq_ok.mpr ⟨cart, orRaise_eq_ok.mpr found, bind_eq_ok.mpr ⟨who, orRaise_eq_ok.mpr account, rfl⟩⟩
  rw [previewCoupon, loaded, named]
  rfl

theorem applyCoupon_found (found : db.activeCart tenant customer = some cart)
    (named : db.couponOfCode tenant code = some coupon) : applyCoupon tenant customer code now id db =
      (validateFor tenant cart coupon now db).bind fun _ => fileCoupon tenant cart coupon code id db := by
  rw [applyCoupon, lockActiveCart, found, named]
  rfl

theorem applied_totals {db' last : Db} {loaded : LoadedCart} (owner : coupon.tenant = tenant)
    (member : coupon ∈ db.coupons.rows) (sound : ∀ c ∈ db.coupons.rows, c.Sound)
    (priced : ∀ i ∈ db.cartItems.rows, 0 ≤ i.unit_price_snapshot)
    (free : ∀ a ∈ db.appliedTo tenant cart.id, a.coupon ≠ coupon.id)
    (filed : db.insertAppliedCoupon { id, tenant, cart := cart.id, coupon := coupon.id } = .ok db')
    (bumped : bumpAndReturn tenant cart.id db' = .ok (loaded, last)) :
    (projection tenant cart coupon db).already_applied = false ∧
      (projection tenant cart coupon db).projected_discount_total = loaded.totals.discount_total ∧
      (projection tenant cart coupon db).projected_grand_total = loaded.totals.grand_total := by
  have flag : ((db.appliedTo tenant cart.id).any fun a => a.coupon == coupon.id) = false := by
    simpa using free
  have cents := db.cartLines_cents tenant cart.id
  have positive : 0 ≤ computeSubtotal (db.cartLines tenant cart.id) :=
    computeSubtotal_nonneg (fun i inside => priced i (List.mem_of_mem_filter inside)) (db.cartLines_positive tenant cart.id)
  have more := (sound coupon member).computeDiscount_nonneg positive
  obtain ⟨_, _, items, applied⟩ := insertAppliedCoupon_within rfl rfl filed
  have coupons : db'.coupons = db.coupons := by
    obtain ⟨_, _, rfl⟩ := stored_eq_ok.mp filed
    rfl
  simp only [bumpAndReturn, bind_eq_ok, orRaise_eq_ok, pure_eq_ok, Prod.mk.injEq] at bumped
  obtain ⟨row, found, rfl, rfl⟩ := bumped
  have named : row.id = cart.id := by
    have picked := List.find?_some found
    simp only [Bool.and_eq_true, beq_iff_eq] at picked
    exact picked.2
  have lines : db'.cartLines tenant row.id = db.cartLines tenant cart.id := by
    rw [Db.cartLines, items, named]
    rfl
  have listed : db'.cartCoupons tenant row.id = db.cartCoupons tenant cart.id ++ [coupon] := by
    rw [named]
    exact cartCoupons_concat member owner rfl coupons applied
  have totals := computeTotals_eq cents (db.cartCoupons tenant cart.id ++ [coupon]) row.currency
  rw [computeDiscounts_concat more] at totals
  have current := computeTotals_eq cents (db.cartCoupons tenant cart.id) cart.currency
  refine ⟨flag, ?_, ?_⟩
  · simp only [projection, flag, current]
    change _ = (computeTotals (db'.cartLines tenant row.id) (db'.cartCoupons tenant row.id) row.currency).discount_total
    rw [lines, listed, totals]
    simp
  · simp only [projection, flag, current]
    change _ = (computeTotals (db'.cartLines tenant row.id) (db'.cartCoupons tenant row.id) row.currency).grand_total
    rw [lines, listed, totals]
    have grand := (computeSubtotal_cents cents).sub
      (computeDiscounts_cents (db.cartCoupons tenant cart.id ++ [coupon]) cents)
    rw [computeDiscounts_concat more] at grand
    exact grand

end Found

/-- Preview and application agree wherever the coupons are sound and the prices not negative. -/
theorem previewCoupon_agrees (known : (db.customer tenant customer).isSome = true) (filed : db.Filed)
    (fresh : ∀ a ∈ db.appliedCoupons.rows, a.id ≠ id) (sound : ∀ c ∈ db.coupons.rows, c.Sound)
    (priced : ∀ i ∈ db.cartItems.rows, 0 ≤ i.unit_price_snapshot) :
    PreviewAgrees (previewCoupon tenant customer code now db) (applyCoupon tenant customer code now id db) := by
  obtain ⟨who, account⟩ := Option.isSome_iff_exists.mp known
  cases found : db.activeCart tenant customer with
  | none =>
    have preview : previewCoupon tenant customer code now db = .error (.cartNotFound "No active cart for this customer") := by
      rw [previewCoupon, getCart, found]
      rfl
    have apply : applyCoupon tenant customer code now id db = .error (.cartNotFound "No active cart for this customer") := by
      rw [applyCoupon, lockActiveCart, found]
      rfl
    rw [preview, apply]
    exact .raising (by simp [Exn.IsAlreadyApplied])
  | some cart =>
    obtain ⟨member, owner, mine, _⟩ := activeCart_some found
    have account : db.customer tenant cart.customer = some who := mine ▸ account
    cases named : db.couponOfCode tenant code with
    | none =>
      have loaded : getCart tenant customer db = .ok (db.loadCart tenant cart) :=
        bind_eq_ok.mpr ⟨cart, orRaise_eq_ok.mpr found, bind_eq_ok.mpr ⟨who, orRaise_eq_ok.mpr account, rfl⟩⟩
      have preview : previewCoupon tenant customer code now db = .error (.couponNotFound "Invalid coupon code") := by
        rw [previewCoupon, loaded, named]
        rfl
      have apply : applyCoupon tenant customer code now id db = .error (.couponNotFound "Invalid coupon code") := by
        rw [applyCoupon, lockActiveCart, found, named]
        rfl
      rw [preview, apply]
      exact .raising (by simp [Exn.IsAlreadyApplied])
    | some coupon =>
      rw [previewCoupon_found found account named, applyCoupon_found found named]
      cases valid : validateFor tenant cart coupon now db with
      | error e => exact .raising (validateFor_raises valid)
      | ok _ =>
        obtain ⟨coded, scope⟩ : coupon ∈ db.coupons.rows ∧ coupon.tenant = tenant := by
          have picked := List.find?_some named
          simp only [Bool.and_eq_true, beq_iff_eq] at picked
          exact ⟨List.mem_of_find?_eq_some named, picked.1⟩
        by_cases free : ∀ a ∈ db.appliedTo tenant cart.id, a.coupon ≠ coupon.id
        · obtain ⟨db', inserted⟩ := insertAppliedCoupon_succeeds filed member fresh (owner.symm ▸ free)
          rw [owner] at inserted
          obtain ⟨loaded, last, bumped⟩ := bumpAndReturn_succeeds (insertAppliedCoupon_within rfl rfl inserted).2.1 member owner
          obtain ⟨flag, discount, grand⟩ := applied_totals scope coded sound priced free inserted bumped
          have applied : fileCoupon tenant cart coupon code id db = .ok (loaded, last) :=
            bind_eq_ok.mpr ⟨(), require_eq_ok.mpr free, bind_eq_ok.mpr ⟨db', inserted, bumped⟩⟩
          simp only [Except.bind, applied]
          exact .applying flag discount grand
        · have refused : fileCoupon tenant cart coupon code id db =
              .error (.couponAlreadyApplied s!"Coupon {code} is already applied to this cart") :=
            bind_eq_error.mpr (.inl (require_eq_error.mpr ⟨free, rfl⟩))
          simp only [Except.bind, refused]
          exact .already (by simpa [projection] using free)

/-- The coupons of a cart leave room for another one: its own discount is not cut off. -/
def LeavesRoom (items : List CartItem) (coupons : List Coupon) (coupon : Coupon) : Prop :=
  computeDiscounts items coupons + coupon.computeDiscount (computeSubtotal items) ≤ computeSubtotal items

/-- What a preview calls the discount is what the cart saves, as long as there is room. -/
theorem previewCoupon_saves_iff (known : (db.customer tenant customer).isSome = true) (filed : db.Filed)
    (fresh : ∀ a ∈ db.appliedCoupons.rows, a.id ≠ id) (sound : ∀ c ∈ db.coupons.rows, c.Sound)
    (priced : ∀ i ∈ db.cartItems.rows, 0 ≤ i.unit_price_snapshot) {p : CouponPreview}
    (previewed : previewCoupon tenant customer code now db = .ok p) (free : p.already_applied = false) :
    ∃ coupon before after db', db.couponOfCode tenant code = some coupon ∧ getCart tenant customer db = .ok before ∧
      applyCoupon tenant customer code now id db = .ok (after, db') ∧
      (p.discount = after.totals.discount_total - before.totals.discount_total ↔
        LeavesRoom before.items before.coupons coupon) := by
  have agrees : PreviewAgrees (previewCoupon tenant customer code now db) (applyCoupon tenant customer code now id db) :=
    previewCoupon_agrees known filed fresh sound priced
  obtain ⟨after, db', applied, projected, _⟩ := agrees.projects p previewed free
  unfold previewCoupon at previewed
  simp only [bind_eq_ok, orRaise_eq_ok, pure_eq_ok] at previewed
  obtain ⟨before, loaded, coupon, named, _, _, rfl⟩ := previewed
  refine ⟨coupon, before, after, db', named, loaded, applied, ?_⟩
  simp only [getCart, bind_eq_ok, orRaise_eq_ok, pure_eq_ok] at loaded
  obtain ⟨cart, _, _, _, rfl⟩ := loaded
  have cents := db.cartLines_cents tenant cart.id
  have current : (db.loadCart tenant cart).totals.discount_total =
      computeDiscounts (db.cartLines tenant cart.id) (db.cartCoupons tenant cart.id) := by
    simp only [Db.loadCart, computeTotals_eq cents]
  have alone := coupon.computeDiscount_cents (computeSubtotal (db.cartLines tenant cart.id))
  rw [InCents] at alone
  simp only at free projected
  simp only [free, current, Bool.false_eq_true, if_false] at projected ⊢
  simp only [Db.loadCart, LeavesRoom] at projected ⊢
  rw [alone, ← projected]
  constructor
  · intro same
    have capped := min_le_right (computeDiscounts (db.cartLines tenant cart.id) (db.cartCoupons tenant cart.id) +
      coupon.computeDiscount (computeSubtotal (db.cartLines tenant cart.id)))
      (computeSubtotal (db.cartLines tenant cart.id))
    linarith
  · intro room
    rw [min_eq_left room]
    ring

end CartService

end Storefront
