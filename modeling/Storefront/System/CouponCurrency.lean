import Storefront.System.CartCoupons

set_option autoImplicit false

/-!
# Fixed-amount coupons and the currency of their cart

The currency is checked when a coupon is applied. An emptied cart gives its
currency up and keeps its coupons.
-/

namespace Storefront

open Relational Transition

-- Shoppers at their carts, the admin at products, coupons and profiles.
def Event.atTheCounter : Event → Bool
  | .shopper .. | .createCoupon .. | .patchCoupon .. | .deactivateCoupon .. | .editProfiles .. => true
  | .run (.tick _) | .run (.createProduct ..) | .run (.patchProduct ..) | .run (.deactivateProduct ..) => true
  | _ => false

abbrev counter (settings : Settings) (lib : WebhookLibrary) : Machine Sys Event :=
  (storefront settings lib).only Event.atTheCounter

/-- What `compute_totals` subtracts from the lines of a cart is in their currency. -/
def Db.FixedFits (db : Db) (c : Cart) : Prop :=
  db.cartLines c.tenant c.id ≠ [] → ∀ coupon ∈ db.cartCoupons c.tenant c.id, coupon.discount_type = .fixed →
    coupon.currency = c.currency ∧ ∀ i ∈ db.cartLines c.tenant c.id, i.currency = coupon.currency

theorem Db.mem_cartCoupons {db : Db} {tenant cart : Id} {coupon : Coupon} : coupon ∈ db.cartCoupons tenant cart ↔
    coupon ∈ db.coupons.rows ∧ coupon.tenant = tenant ∧ ∃ a ∈ db.appliedTo tenant cart, a.coupon = coupon.id := by
  simp only [Db.cartCoupons, List.mem_filterMap]
  constructor
  · rintro ⟨a, inside, found⟩
    have picked := List.find?_some found
    simp only [Bool.and_eq_true, beq_iff_eq] at picked
    exact ⟨List.mem_of_find?_eq_some found, picked.1, a, inside, picked.2.symm⟩
  · rintro ⟨member, owner, a, inside, named⟩
    refine ⟨a, inside, ?_⟩
    rw [named]
    exact db.coupons.find_of_mem (q := fun c => c.tenant == tenant) member (by simp [owner])

def CartRows.Carries (coupons : Table Coupon) (b : CartRows) (currency : String) : Prop :=
  ∀ a ∈ b.applied, ∀ coupon ∈ coupons.rows, coupon.tenant = b.row.tenant → a.coupon = coupon.id →
    coupon.discount_type = .fixed → coupon.currency = currency

def CartRows.FixedFits (coupons : Table Coupon) (b : CartRows) : Prop := b.items ≠ [] → b.Carries coupons b.row.currency

theorem Db.carries_iff {db : Db} {c : Cart} {currency : String} : (db.cartRows c).Carries db.coupons currency ↔
    ∀ coupon ∈ db.cartCoupons c.tenant c.id, coupon.discount_type = .fixed → coupon.currency = currency := by
  constructor
  · intro carries coupon listed fixed
    obtain ⟨member, owner, a, inside, named⟩ := Db.mem_cartCoupons.mp listed
    exact carries a inside coupon member owner named fixed
  · intro fits a inside coupon member owner named fixed
    exact fits coupon (Db.mem_cartCoupons.mpr ⟨member, owner, a, inside, named⟩) fixed

theorem Db.fixedFits_iff {db : Db} {c : Cart} (locked : (db.cartRows c).Locked) :
    db.FixedFits c ↔ (db.cartRows c).FixedFits db.coupons := by
  rw [Db.FixedFits, CartRows.FixedFits, Db.carries_iff]
  refine forall_congr' fun _ => forall₃_congr fun coupon _ _ => and_iff_left_of_imp fun same i inside => ?_
  exact (locked.same i inside).trans same.symm

section Turns

variable {db : Db} {now : Time} {b b' : CartRows} {request : CartRequest}

/-- The line that decides the currency must agree with the coupons the cart has kept. -/
theorem Turn.fixedFits (turn : Turn db now b request b') (locked : b.Locked) (fits : b.FixedFits db.coupons)
    (free : ∀ p ∈ db.products.rows, ∀ quantity, request = .addItem p.id quantity → b.row.currency = "" →
      b.Carries db.coupons p.currency) : b'.FixedFits db.coupons := by
  -- A cart that has a currency has a line.
  have sold (p : Product) (quantity : Int) (member : p ∈ db.products.rows) (adds : request = .addItem p.id quantity)
      (locks : b.row.currency = "" ∨ b.row.currency = p.currency) : b.Carries db.coupons p.currency := by
    by_cases unlocked : b.row.currency = ""
    · exact free p member quantity adds unlocked
    · have filled : b.items ≠ [] := fun none_left => unlocked (locked.empty.mpr none_left)
      have carries := fits filled
      rwa [locks.resolve_left unlocked] at carries
  cases turn with
  | added quantity p line member locks priced =>
    intro _ a inside coupon known owner named fixed
    rw [Cart.bumped_currency, Cart.lockedIn_currency now locks]
    exact sold p quantity member rfl locks a inside coupon known (by simpa using owner) named fixed
  | increased quantity p line member locks listed =>
    intro _ a inside coupon known owner named fixed
    rw [Cart.bumped_currency, Cart.lockedIn_currency now locks]
    exact sold p quantity member rfl locks a inside coupon known (by simpa using owner) named fixed
  | removed line listed =>
    intro rest a inside coupon known owner named fixed
    rw [Cart.bumped_currency, Cart.unlocked, if_neg rest]
    exact fits (List.ne_nil_of_mem listed) a inside coupon known (by simpa using owner) named fixed
  | requantified line quantity listed =>
    intro _
    exact fits (List.ne_nil_of_mem listed)
  | cleared => exact fun filled => absurd rfl filled
  | applied coupon a known names valid =>
    intro filled a' inside coupon' known' owner named fixed
    rcases List.mem_append.mp inside with old | new
    · exact fits filled a' old coupon' known' owner named fixed
    · obtain rfl := List.mem_singleton.mp new
      obtain rfl := db.coupons.eq_of_key known known' (names.symm.trans named)
      exact valid fixed
  | unapplied code coupon known was =>
    intro filled a inside
    exact fits filled a (List.mem_of_mem_filter inside)
  | shipped | billed | paid => exact fits

theorem Turn.carries (turn : Turn db now b request b') {p : Product} {quantity : Int} (member : p ∈ db.products.rows)
    (adds : request = .addItem p.id quantity) (fits : b'.FixedFits db.coupons) : b.Carries db.coupons p.currency := by
  cases turn with
  | added _ p' line member' locks priced =>
    injection adds with same
    obtain rfl := db.products.eq_of_key member' member same
    intro a inside coupon known owner named fixed
    have agrees := fits (by simp) a inside coupon known (by simpa using owner) named fixed
    rwa [Cart.bumped_currency, Cart.lockedIn_currency now locks] at agrees
  | increased _ p' line member' locks listed =>
    injection adds with same
    obtain rfl := db.products.eq_of_key member' member same
    intro a inside coupon known owner named fixed
    have filled : b.items ≠ [] := List.ne_nil_of_mem listed
    have agrees := fits (by simpa using filled) a inside coupon known (by simpa using owner) named fixed
    rwa [Cart.bumped_currency, Cart.lockedIn_currency now locks] at agrees
  | _ => cases adds

def CartRows.Open (b : CartRows) : Prop := b.items ≠ [] → b.row.status = .active

theorem Turn.opens (turn : Turn db now b request b') (active : b.row.status = .active) : b'.Open := by
  rcases turn.counted with ⟨_, _, kept⟩ | ⟨cleared, _⟩
  · exact fun _ => kept.trans active
  · cases turn with
    | cleared => exact fun filled => absurd rfl filled
    | _ => cases cleared

end Turns

section Edits

variable {db db' : Db}

/-- The guard of the coupon page covers every cart that has lines. -/
theorem CouponsEdited.carries (edited : CouponsEdited db db') {c : Cart} (member : c ∈ db.carts.rows)
    (active : c.status = .active) (known : (db.cartRows c).Known db.coupons)
    {currency : String} (carries : (db.cartRows c).Carries db.coupons currency) :
    (db'.cartRows c).Carries db'.coupons currency := by
  rw [edited.cartRows]
  intro a inside coupon' there owner named fixed
  rcases edited.guarded coupon' there with fresh | ⟨coupon, present, same, sameTenant, kept⟩
  · obtain ⟨coupon, present, is⟩ := known a inside
    exact absurd (is.trans named) (fresh coupon present)
  · rcases kept with ⟨kind, priced⟩ | free
    · rw [priced]
      exact carries a inside coupon present (sameTenant.trans owner) (named.trans same.symm) (kind ▸ fixed)
    · obtain ⟨listed, scope⟩ := List.mem_filter.mp inside
      simp only [Bool.and_eq_true, beq_iff_eq] at scope
      simp only [couponInUse, List.any_eq_false] at free
      have unused := free a listed
      have in_tenant : a.tenant = coupon.tenant := scope.1.trans (owner.symm.trans sameTenant.symm)
      have one : a.coupon = coupon.id := named.trans same.symm
      have used : (a.tenant == coupon.tenant && a.coupon == coupon.id &&
          db.carts.rows.any fun c => c.id == a.cart && (c.status == .active || c.status == .checkingOut)) = true := by
        simp only [in_tenant, one, beq_self_eq_true, Bool.true_and, List.any_eq_true]
        exact ⟨c, member, by simp [scope.2, active]⟩
      exact absurd used unused

end Edits

inductive CounterEffect (s s' : Sys) (e : Event) : Prop
  | edited (edited : CouponsEdited s.db s'.db)
      (idle : ∀ tenant customer request draw, e = .shopper tenant customer request draw →
        request.Idle s.db tenant customer)
  | turned (tenant customer : Id) (request : CartRequest) (draw : Nat → Id) (row row' : Cart)
      (shopper : e = .shopper tenant customer request draw) (coupons : s'.db.coupons = s.db.coupons)
      (turned : Turned s.db tenant customer s.now request s'.db row row')

structure Sys.AtTheCounter (s : Sys) : Prop where
  lockedIn : s.LockedIn
  known : s.db.CouponsKnown
  opens : ∀ c ∈ s.db.carts.rows, (s.db.cartRows c).Open

/-- A line that decides the currency of an emptied cart agrees with the FIXED coupons the cart has kept. -/
def AgreesWithKept (move : Move Sys Event) : Prop :=
  ∀ tenant customer product quantity draw c p, move.label = .shopper tenant customer (.addItem product quantity) draw →
    move.before.db.activeCart tenant customer = some c → c.currency = "" → p ∈ move.before.db.products.rows →
    p.id = product → ∀ coupon ∈ move.before.db.cartCoupons tenant c.id, coupon.discount_type = .fixed →
      coupon.currency = p.currency

section Counter

variable {settings : Settings} {lib : WebhookLibrary} {s s' : Sys}

theorem counter_effect {e : Event} (taken : (counter settings lib).step s e = some s') : CounterEffect s s' e := by
  obtain ⟨here, taken⟩ := Machine.only_step taken
  cases shop_cases taken with
  | @shopper tenant customer request draw _ _ _ done =>
    rcases CartRequest.run_turns done with ⟨same, idle⟩ | ⟨row, row', turned⟩
    · refine .edited (same ▸ .of_tables rfl rfl rfl rfl) fun _ _ _ _ is => ?_
      cases is
      exact idle
    · have coupons := congrArg Db.coupons (CartRequest.run_leaves done).frame
      exact .turned tenant customer request draw row row' rfl coupons turned
  | createCoupon done => exact .edited (createCoupon_edits done) (by simp)
  | patchCoupon done => exact .edited (patchCoupon_edits done) (by simp)
  | deactivateCoupon done => exact .edited (deactivateCoupon_edits done) (by simp)
  | editProfiles _ => exact .edited (.of_tables rfl rfl rfl rfl) (by simp)
  | @run label _ _ stepped =>
    cases label with
    | tick seconds =>
      cases stepped
      exact .edited (.of_tables rfl rfl rfl rfl) (by simp)
    | createProduct tenant id data =>
      obtain ⟨db', done, rfl⟩ := commits_eq_some stepped
      exact .edited (.of_products (createProduct_frame done)) (by simp)
    | patchProduct tenant product data =>
      obtain ⟨db', done, rfl⟩ := commits_eq_some stepped
      exact .edited (.of_products (patchProduct_frame done)) (by simp)
    | deactivateProduct tenant product =>
      obtain ⟨db', done, rfl⟩ := commits_eq_some stepped
      exact .edited (.of_products (deactivateProduct_frame done)) (by simp)
    | _ => cases here
  | _ => cases here

theorem Sys.AtTheCounter.opened (inv : s.AtTheCounter) {tenant customer : Id} {request : CartRequest} {row : Cart}
    (opened : Opened s.db tenant customer request row) : (s.db.cartRows row).Locked := by
  rcases inv.lockedIn.filed.opened opened with present | ⟨items, _, currency⟩
  · exact inv.lockedIn.locked row present
  · refine ⟨iff_of_true currency items, ?_⟩
    simp [items]

theorem Sys.AtTheCounter.step {e : Event} (inv : s.AtTheCounter) (taken : (counter settings lib).step s e = some s') :
    s'.AtTheCounter := by
  have shopped := (Machine.only_step taken).2
  refine ⟨inv.lockedIn.step shopped, inv.known.step inv.lockedIn.filed shopped, fun c member => ?_⟩
  cases counter_effect taken with
  | edited edited _ =>
    rw [edited.cartRows]
    exact inv.opens c (edited.carts ▸ member)
  | turned tenant customer request draw row row' _ _ turned =>
    rcases turned.row_of member with rfl | ⟨present, other⟩
    · exact turned.turn.opens turned.opened.active.2.2
    · rw [turned.others other]
      exact inv.opens c present

/-- The coupons fit after a step exactly if the line it adds agrees with those kept. -/
theorem Sys.AtTheCounter.agree {e : Event} (inv : s.AtTheCounter) (fits : ∀ c ∈ s.db.carts.rows, s.db.FixedFits c)
    (taken : (counter settings lib).step s e = some s') :
    (∀ c ∈ s'.db.carts.rows, s'.db.FixedFits c) ↔ AgreesWithKept ⟨s, e, s'⟩ := by
  have after := inv.step taken
  have before (c : Cart) (member : c ∈ s.db.carts.rows) : (s.db.cartRows c).FixedFits s.db.coupons :=
    (Db.fixedFits_iff (inv.lockedIn.locked c member)).mp (fits c member)
  cases counter_effect taken with
  | edited edited idle =>
    refine iff_of_true (fun c member => ?_) fun tenant customer product quantity draw c p label => ?_
    · have present : c ∈ s.db.carts.rows := edited.carts ▸ member
      refine (Db.fixedFits_iff (after.lockedIn.locked c member)).mpr fun filled => ?_
      have filled : (s.db.cartRows c).items ≠ [] := edited.cartRows c ▸ filled
      exact edited.carries present (inv.opens c present filled) (inv.known c present) (before c present filled)
    · exact absurd (idle tenant customer _ draw label) (by simp [CartRequest.Idle])
  | turned tenant customer request draw row row' shopper coupons turned =>
    have locked := inv.opened turned.opened
    constructor
    · intro fits' tenant' customer' product quantity draw' c p label active _ member named
      cases shopper.symm.trans label
      cases turned.opened with
      | created none_active => exact absurd (none_active.symm.trans active) (by simp)
      | found found =>
        obtain rfl := Option.some.inj (found.symm.trans active)
        have fitting := (Db.fixedFits_iff (after.lockedIn.locked row' turned.present)).mp (fits' row' turned.present)
        rw [coupons] at fitting
        have carries := turned.turn.carries member (congrArg (CartRequest.addItem · quantity) named.symm) fitting
        have owner := (activeCart_some found).2.1
        exact owner ▸ Db.carries_iff.mp carries
    · intro agrees c member
      refine (Db.fixedFits_iff (after.lockedIn.locked c member)).mpr ?_
      rw [coupons]
      rcases turned.row_of member with rfl | ⟨present, other⟩
      · refine turned.turn.fixedFits locked ?_ fun p sold quantity adds unlocked => ?_
        · rcases inv.lockedIn.filed.opened turned.opened with present | ⟨items, _, _⟩
          · exact before row present
          · exact fun filled => absurd items filled
        · refine Db.carries_iff.mpr ?_
          cases turned.opened with
          | found found =>
            obtain ⟨_, owner, _⟩ := activeCart_some found
            rw [owner]
            exact agrees tenant customer p.id quantity draw row p (adds ▸ shopper) found unlocked sold rfl
          | created _ _ _ _ _ _ fresh new =>
            have opened := inv.lockedIn.filed.opened turned.opened
            rcases opened with present | ⟨_, applied, _⟩
            · exact absurd (congrArg Cart.id new) (fresh row present)
            · exact Db.carries_iff.mp (by simp [CartRows.Carries, applied])
      · rw [turned.others other]
        exact before c present

/-- FIXED coupons stay in the currency of their cart exactly as long as no line is added against them. -/
theorem fixed_coupons_fit_iff (settings : Settings) (lib : WebhookLibrary) {s₀ s : Sys} {moves : List (Move Sys Event)}
    (run : (counter settings lib).Run s₀ moves s) :
    (∀ move ∈ moves, ∀ c ∈ move.after.db.carts.rows, move.after.db.FixedFits c) ↔
      ∀ move ∈ moves, AgreesWithKept move := by
  have start (t : Sys) (opening : t.Opening) : t.AtTheCounter ∧ ∀ c ∈ t.db.carts.rows, t.db.FixedFits c := by
    have still : (storefront settings lib).Run t [] t := .start opening
    refine ⟨⟨Run.locked_in still, Run.coupons_known still, ?_⟩, ?_⟩ <;>
      simp [opening.carts]
  have step (t : Sys) (e : Event) (t' : Sys) (inv : t.AtTheCounter)
      (taken : (counter settings lib).step t e = some t') : t'.AtTheCounter := inv.step taken
  have agree (t : Sys) (e : Event) (t' : Sys) (inv : t.AtTheCounter) (fits : ∀ c ∈ t.db.carts.rows, t.db.FixedFits c)
      (taken : (counter settings lib).step t e = some t') :
      (∀ c ∈ t'.db.carts.rows, t'.db.FixedFits c) ↔ AgreesWithKept ⟨t, e, t'⟩ := inv.agree fits taken
  exact run.safe_iff start step agree

end Counter

namespace Sample

abbrev desk : Machine Sys Event := counter settings library

def fixedOff : CouponCreate :=
  { code := "SAVE5", discount_type := .fixed, discount_value := 5, currency := "SAR", customer_type_restriction := .any }

def dollarMug : ProductCreate := { sku := "CUP", name := "Cup", price := 8, currency := "USD", stock_quantity := 5 }

-- A coupon of 5 SAR on a mug of 10 SAR; the mug goes back.
def tradingIn : List Event :=
  [.createCoupon 1 80 fixedOff, .run (.createProduct 1 31 dollarMug)] ++
    [.addItem 30 1, .applyCoupon "SAVE5", .removeItem 41].map shopper

def addingCup : Event := shopper (.addItem 31 1)

def beforeCup : Sys := (desk.exec opening tradingIn).get (by decide +kernel)
def afterCup : Sys := (desk.step beforeCup addingCup).get (by decide +kernel)

theorem tradingIn_runs : desk.exec opening tradingIn = some beforeCup := (Option.some_get _).symm
theorem addingCup_taken : desk.step beforeCup addingCup = some afterCup := (Option.some_get _).symm

end Sample

theorem fixed_coupons_fit_trading : ∃ moves, Sample.desk.Run Sample.opening moves Sample.afterCup ∧
    ((∀ move ∈ moves, ∀ c ∈ move.after.db.carts.rows, move.after.db.FixedFits c) ↔
      ∀ move ∈ moves, AgreesWithKept move) := by
  obtain ⟨moves, run, _⟩ := Machine.exec_last (m := Sample.desk) Sample.opening_opens Sample.tradingIn_runs
    Sample.addingCup_taken
  exact ⟨moves, run, fixed_coupons_fit_iff Sample.settings Sample.library run⟩

/-- 5 SAR off a cup of 8 USD. -/
theorem fixed_coupon_across_currencies : ¬ ∀ moves s, Sample.desk.Run Sample.opening moves s →
    ∀ move ∈ moves, ∀ c ∈ move.after.db.carts.rows, move.after.db.FixedFits c := by
  intro fits
  obtain ⟨moves, run, member⟩ := Machine.exec_last (m := Sample.desk) Sample.opening_opens Sample.tradingIn_runs
    Sample.addingCup_taken
  have unfit : ∃ c ∈ Sample.afterCup.db.carts.rows, Sample.afterCup.db.cartLines c.tenant c.id ≠ [] ∧
      ∃ coupon ∈ Sample.afterCup.db.cartCoupons c.tenant c.id, coupon.discount_type = .fixed ∧
        coupon.currency ≠ c.currency := by decide +kernel
  obtain ⟨c, inside, filled, coupon, listed, fixed, other⟩ := unfit
  exact other (fits moves _ run _ member c inside filled coupon listed fixed).1

end Storefront
