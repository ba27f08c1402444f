import Storefront.Carts.Closed

set_option autoImplicit false

/-!
# The rows of a cart

A cart, its lines and its applied coupons. Every operation of CartService turns the
rows of one active cart into others and keeps its hands off the rest.
-/

namespace Storefront

open Relational Transition

structure CartRows where
  row : Cart
  items : List CartItem
  applied : List AppliedCoupon

def Db.cartRows (db : Db) (row : Cart) : CartRows :=
  ⟨row, db.cartLines row.tenant row.id, db.appliedTo row.tenant row.id⟩

structure Db.Filed (db : Db) : Prop where
  items : ∀ i ∈ db.cartItems.rows, ∃ c ∈ db.carts.rows, c.id = i.cart ∧ c.tenant = i.tenant
  applied : ∀ a ∈ db.appliedCoupons.rows, ∃ c ∈ db.carts.rows, c.id = a.cart ∧ c.tenant = a.tenant

structure Within (tenant cart : Id) (db db' : Db) : Prop where
  others : ∀ c ∈ db.carts.rows, c.id ≠ cart → c ∈ db'.carts.rows
  only : ∀ c ∈ db'.carts.rows, c.id ≠ cart → c ∈ db.carts.rows
  lines : ∀ owner other, other ≠ cart → db'.cartLines owner other = db.cartLines owner other
  applied : ∀ owner other, other ≠ cart → db'.appliedTo owner other = db.appliedTo owner other
  itemKeys : ∀ i ∈ db'.cartItems.rows, (i.tenant = tenant ∧ i.cart = cart) ∨
    ∃ old ∈ db.cartItems.rows, old.tenant = i.tenant ∧ old.cart = i.cart
  appliedKeys : ∀ a ∈ db'.appliedCoupons.rows, (a.tenant = tenant ∧ a.cart = cart) ∨
    ∃ old ∈ db.appliedCoupons.rows, old.tenant = a.tenant ∧ old.cart = a.cart

theorem Within.trans {tenant cart : Id} {a b c : Db} (first : Within tenant cart a b)
    (second : Within tenant cart b c) : Within tenant cart a c where
  others row member other := second.others row (first.others row member other) other
  only row member other := first.only row (second.only row member other) other
  lines owner cart' other := (second.lines owner cart' other).trans (first.lines owner cart' other)
  applied owner cart' other := (second.applied owner cart' other).trans (first.applied owner cart' other)
  itemKeys i member := by
    rcases second.itemKeys i member with mine | ⟨mid, present, tenant, cart⟩
    · exact .inl mine
    · rw [← tenant, ← cart]
      exact first.itemKeys mid present
  appliedKeys i member := by
    rcases second.appliedKeys i member with mine | ⟨mid, present, tenant, cart⟩
    · exact .inl mine
    · rw [← tenant, ← cart]
      exact first.appliedKeys mid present

theorem Within.of_carts {tenant cart : Id} {db db' : Db} (items : db'.cartItems = db.cartItems)
    (applied : db'.appliedCoupons = db.appliedCoupons)
    (others : ∀ c ∈ db.carts.rows, c.id ≠ cart → c ∈ db'.carts.rows)
    (only : ∀ c ∈ db'.carts.rows, c.id ≠ cart → c ∈ db.carts.rows) : Within tenant cart db db' where
  others
  only
  lines owner other _ := by rw [Db.cartLines, items]; rfl
  applied owner other _ := by rw [Db.appliedTo, applied]; rfl
  itemKeys i member := .inr ⟨i, items ▸ member, rfl, rfl⟩
  appliedKeys a member := .inr ⟨a, applied ▸ member, rfl, rfl⟩

theorem Within.refl (tenant cart : Id) (db : Db) : Within tenant cart db db :=
  .of_carts rfl rfl (fun _ member _ => member) fun _ member _ => member

section Blocks

variable {db db' : Db} {row : Cart}

theorem saveCart_within {tenant cart : Id} {f : Cart → Cart} {inert : Table.Inert f} (same : ∀ c, (f c).id = c.id) :
    Within tenant cart db (db.saveCart tenant cart f inert) := by
  refine .of_carts rfl rfl (fun c member other => ?_) fun c' member other => ?_
  · refine List.mem_map.mpr ⟨c, member, ?_⟩
    simp [Table.updated, other]
  · obtain ⟨c, present, rfl⟩ := List.mem_map.mp member
    by_cases picked : (c.tenant == tenant && c.id == cart) = true
    · simp only [Table.updated, picked, if_true, same] at other
      simp only [Bool.and_eq_true, beq_iff_eq] at picked
      exact absurd picked.2 other
    · simpa [Table.updated, picked] using present

theorem saveCart_mem {f : Cart → Cart} {inert : Table.Inert f} (member : row ∈ db.carts.rows) :
    f row ∈ (db.saveCart row.tenant row.id f inert).carts.rows := by
  refine List.mem_map.mpr ⟨row, member, ?_⟩
  simp [Table.updated]

def Cart.bumped (c : Cart) : Cart := { c with version := c.version + 1 }

@[simp] theorem Cart.bumped_id (c : Cart) : c.bumped.id = c.id := rfl
@[simp] theorem Cart.bumped_tenant (c : Cart) : c.bumped.tenant = c.tenant := rfl
@[simp] theorem Cart.bumped_customer (c : Cart) : c.bumped.customer = c.customer := rfl
@[simp] theorem Cart.bumped_status (c : Cart) : c.bumped.status = c.status := rfl
@[simp] theorem Cart.bumped_currency (c : Cart) : c.bumped.currency = c.currency := rfl
@[simp] theorem Cart.bumped_version (c : Cart) : c.bumped.version = c.version + 1 := rfl

theorem bumpAndReturn_within {tenant cart : Id} {loaded : LoadedCart}
    (done : bumpAndReturn tenant cart db = .ok (loaded, db')) : Within tenant cart db db' := by
  simp only [bumpAndReturn, bind_eq_ok, pure_eq_ok, Prod.mk.injEq] at done
  obtain ⟨_, _, _, rfl⟩ := done
  exact saveCart_within fun _ => rfl

theorem bumpAndReturn_mem {loaded : LoadedCart} (member : row ∈ db.carts.rows)
    (done : bumpAndReturn row.tenant row.id db = .ok (loaded, db')) : row.bumped ∈ db'.carts.rows ∧
      db'.cartItems = db.cartItems ∧ db'.appliedCoupons = db.appliedCoupons := by
  simp only [bumpAndReturn, bind_eq_ok, pure_eq_ok, Prod.mk.injEq] at done
  obtain ⟨_, _, _, rfl⟩ := done
  exact ⟨saveCart_mem member, rfl, rfl⟩

theorem updateCartItems_within {tenant cart : Id} {item : CartItem} {f : CartItem → CartItem}
    (member : item ∈ db.cartLines tenant cart)
    (done : db.updateCartItems (fun i => i.tenant == tenant && i.id == item.id) f = .ok db')
    (same : ∀ i, (f i).id = i.id ∧ (f i).tenant = i.tenant ∧ (f i).cart = i.cart) :
    Within tenant cart db db' ∧ db'.carts = db.carts ∧ db'.appliedCoupons = db.appliedCoupons ∧
      db'.cartLines tenant cart = (db.cartLines tenant cart).map (Table.updated (fun i => i.id == item.id) f) := by
  obtain ⟨cartItems, updated, rfl⟩ := stored_eq_ok.mp done
  obtain ⟨present, scope⟩ := List.mem_filter.mp member
  simp only [Bool.and_eq_true, beq_iff_eq] at scope
  have rows := Table.update_rows updated
  have one {i : CartItem} (inside : i ∈ db.cartItems.rows) (picked : (i.tenant == tenant && i.id == item.id) = true) :
      i = item := by
    simp only [Bool.and_eq_true, beq_iff_eq] at picked
    exact db.cartItems.eq_of_key inside present picked.2
  refine ⟨⟨fun _ inside _ => inside, fun _ inside _ => inside, fun owner other apart => ?_, fun _ _ _ => rfl, ?_,
    fun a inside => .inr ⟨a, inside, rfl, rfl⟩⟩, rfl, rfl, ?_⟩
  · simp only [Db.cartLines, rows]
    refine Table.filter_updated_apart fun i inside picked => ?_
    rw [one inside picked, (same item).2.1, (same item).2.2, scope.2]
    simp [Ne.symm apart]
  · intro i' inside
    simp only [rows] at inside
    obtain ⟨i, old, rfl⟩ := List.mem_map.mp inside
    refine .inr ⟨i, old, ?_⟩
    unfold Table.updated
    split
    · exact ⟨(same i).2.1.symm, (same i).2.2.symm⟩
    · exact ⟨rfl, rfl⟩
  · simp only [Db.cartLines, rows]
    rw [Table.filter_updated fun i _ _ => by rw [(same i).2.1, (same i).2.2]]
    refine List.map_congr_left fun i inside => ?_
    have owner := (List.mem_filter.mp inside).2
    simp only [Bool.and_eq_true, beq_iff_eq] at owner
    simp [Table.updated, owner.1]

theorem insertCartItem_within {tenant cart : Id} {line : CartItem} (owner : line.tenant = tenant)
    (named : line.cart = cart) (done : db.insertCartItem line = .ok db') :
    Within tenant cart db db' ∧ db'.carts = db.carts ∧ db'.appliedCoupons = db.appliedCoupons ∧
      db'.cartLines tenant cart = db.cartLines tenant cart ++ [line] := by
  obtain ⟨cartItems, inserted, rfl⟩ := stored_eq_ok.mp done
  have rows := Table.insert_rows inserted
  subst owner named
  refine ⟨⟨fun _ inside _ => inside, fun _ inside _ => inside, fun owner other apart => ?_, fun _ _ _ => rfl, ?_,
    fun a inside => .inr ⟨a, inside, rfl, rfl⟩⟩, rfl, rfl, ?_⟩
  · simp [Db.cartLines, rows, Ne.symm apart]
  · intro i inside
    simp only [rows] at inside
    rcases List.mem_append.mp inside with old | new
    · exact .inr ⟨i, old, rfl, rfl⟩
    · rw [List.mem_singleton.mp new]
      exact .inl ⟨rfl, rfl⟩
  · simp [Db.cartLines, rows]

theorem deleteCartItems_within {tenant cart : Id} (p : CartItem → Bool) :
    Within tenant cart db
      { db with cartItems := db.cartItems.delete fun i => i.tenant == tenant && i.cart == cart && p i } := by
  refine ⟨fun _ inside _ => inside, fun _ inside _ => inside, fun owner other apart => ?_, fun _ _ _ => rfl, ?_,
    fun a inside => .inr ⟨a, inside, rfl, rfl⟩⟩
  · simp only [Db.cartLines, Table.delete_rows, List.filter_filter]
    refine List.filter_congr fun i _ => ?_
    by_cases here : i.cart = other
    · simp [here, apart]
    · simp [here]
  · intro i inside
    exact .inr ⟨i, List.mem_of_mem_filter inside, rfl, rfl⟩

theorem deleteApplied_within {tenant cart : Id} (p : AppliedCoupon → Bool) :
    Within tenant cart db
      { db with appliedCoupons := db.appliedCoupons.delete fun a => a.tenant == tenant && a.cart == cart && p a } := by
  refine ⟨fun _ inside _ => inside, fun _ inside _ => inside, fun _ _ _ => rfl, fun owner other apart => ?_,
    fun i inside => .inr ⟨i, inside, rfl, rfl⟩, ?_⟩
  · simp only [Db.appliedTo, Table.delete_rows, List.filter_filter]
    refine List.filter_congr fun a _ => ?_
    by_cases here : a.cart = other
    · simp [here, apart]
    · simp [here]
  · intro a inside
    exact .inr ⟨a, List.mem_of_mem_filter inside, rfl, rfl⟩

theorem insertAppliedCoupon_within {tenant cart : Id} {a : AppliedCoupon} (owner : a.tenant = tenant)
    (named : a.cart = cart) (done : db.insertAppliedCoupon a = .ok db') :
    Within tenant cart db db' ∧ db'.carts = db.carts ∧ db'.cartItems = db.cartItems ∧
      db'.appliedTo tenant cart = db.appliedTo tenant cart ++ [a] := by
  obtain ⟨appliedCoupons, inserted, rfl⟩ := stored_eq_ok.mp done
  have rows := Table.insert_rows inserted
  subst owner named
  refine ⟨⟨fun _ inside _ => inside, fun _ inside _ => inside, fun _ _ _ => rfl, fun owner other apart => ?_,
    fun i inside => .inr ⟨i, inside, rfl, rfl⟩, ?_⟩, rfl, rfl, ?_⟩
  · simp [Db.appliedTo, rows, Ne.symm apart]
  · intro i inside
    simp only [rows] at inside
    rcases List.mem_append.mp inside with old | new
    · exact .inr ⟨i, old, rfl, rfl⟩
    · rw [List.mem_singleton.mp new]
      exact .inl ⟨rfl, rfl⟩
  · simp [Db.appliedTo, rows]

end Blocks

-- The first line decides the currency of the cart.
def Cart.lockedIn (c : Cart) (currency : String) (now : Time) : Cart :=
  if c.currency = "" then { c with currency, updated_at := now } else c

@[simp] theorem Cart.lockedIn_id (c : Cart) (currency : String) (now : Time) :
    (c.lockedIn currency now).id = c.id := by
  unfold lockedIn; split <;> rfl

@[simp] theorem Cart.lockedIn_tenant (c : Cart) (currency : String) (now : Time) :
    (c.lockedIn currency now).tenant = c.tenant := by
  unfold lockedIn; split <;> rfl

@[simp] theorem Cart.lockedIn_customer (c : Cart) (currency : String) (now : Time) :
    (c.lockedIn currency now).customer = c.customer := by
  unfold lockedIn; split <;> rfl

@[simp] theorem Cart.lockedIn_status (c : Cart) (currency : String) (now : Time) :
    (c.lockedIn currency now).status = c.status := by
  unfold lockedIn; split <;> rfl

@[simp] theorem Cart.lockedIn_version (c : Cart) (currency : String) (now : Time) :
    (c.lockedIn currency now).version = c.version := by
  unfold lockedIn; split <;> rfl

-- The last line to go gives the currency up.
def Cart.unlocked (c : Cart) (items : List CartItem) (now : Time) : Cart :=
  if items = [] then { c with currency := "", updated_at := now } else c

@[simp] theorem Cart.unlocked_id (c : Cart) (items : List CartItem) (now : Time) :
    (c.unlocked items now).id = c.id := by
  unfold unlocked; split <;> rfl

@[simp] theorem Cart.unlocked_tenant (c : Cart) (items : List CartItem) (now : Time) :
    (c.unlocked items now).tenant = c.tenant := by
  unfold unlocked; split <;> rfl

@[simp] theorem Cart.unlocked_customer (c : Cart) (items : List CartItem) (now : Time) :
    (c.unlocked items now).customer = c.customer := by
  unfold unlocked; split <;> rfl

@[simp] theorem Cart.unlocked_status (c : Cart) (items : List CartItem) (now : Time) :
    (c.unlocked items now).status = c.status := by
  unfold unlocked; split <;> rfl

@[simp] theorem Cart.unlocked_version (c : Cart) (items : List CartItem) (now : Time) :
    (c.unlocked items now).version = c.version := by
  unfold unlocked; split <;> rfl

/-- What an operation makes of the rows of the cart it works on. -/
inductive Turn (db : Db) (now : Time) (b : CartRows) : CartRequest → CartRows → Prop
  | added (quantity : Int) (p : Product) (line : CartItem) (sold : p ∈ db.products.rows)
      (locks : b.row.currency = "" ∨ b.row.currency = p.currency) (priced : line.currency = p.currency) :
      Turn db now b (.addItem p.id quantity)
        ⟨(b.row.lockedIn p.currency now).bumped, b.items ++ [line], b.applied⟩
  | increased (quantity : Int) (p : Product) (line : CartItem) (sold : p ∈ db.products.rows)
      (locks : b.row.currency = "" ∨ b.row.currency = p.currency) (listed : line ∈ b.items) :
      Turn db now b (.addItem p.id quantity)
        ⟨(b.row.lockedIn p.currency now).bumped,
          b.items.map (Table.updated (fun i => i.id == line.id) fun i => { i with quantity := i.quantity + quantity }),
          b.applied⟩
  | removed (line : CartItem) (listed : line ∈ b.items) : Turn db now b (.removeItem line.id)
      ⟨(b.row.unlocked (b.items.filter fun i => i.id != line.id) now).bumped,
        b.items.filter fun i => i.id != line.id, b.applied⟩
  | requantified (line : CartItem) (quantity : Int) (listed : line ∈ b.items) :
      Turn db now b (.updateItemQuantity line.id quantity)
        ⟨b.row.bumped, b.items.map (Table.updated (fun i => i.id == line.id) fun i => { i with quantity }), b.applied⟩
  | cleared : Turn db now b .clearCart ⟨CartService.abandoned now b.row, [], []⟩
  | applied (coupon : Coupon) (a : AppliedCoupon) (known : coupon ∈ db.coupons.rows) (names : a.coupon = coupon.id)
      (valid : coupon.discount_type = .fixed → coupon.currency = b.row.currency) :
      Turn db now b (.applyCoupon coupon.code) ⟨b.row.bumped, b.items, b.applied ++ [a]⟩
  | unapplied (code : String) (coupon : Coupon) (known : db.couponOfCode b.row.tenant code = some coupon)
      (was : ∃ a ∈ b.applied, a.coupon = coupon.id) : Turn db now b (.removeCoupon code)
        ⟨b.row.bumped, b.items, b.applied.filter fun a => a.coupon != coupon.id⟩
  | shipped (address : Id) : Turn db now b (.setShippingAddress address)
      ⟨{ b.row with shipping_address := some address, updated_at := now }.bumped, b.items, b.applied⟩
  | billed (address : Id) : Turn db now b (.setBillingAddress address)
      ⟨{ b.row with billing_address := some address, updated_at := now }.bumped, b.items, b.applied⟩
  | paid (payment_method : Id) : Turn db now b (.setPaymentMethod payment_method)
      ⟨{ b.row with selected_payment_method := some payment_method, updated_at := now }.bumped, b.items, b.applied⟩

theorem Turn.identity {db : Db} {now : Time} {b b' : CartRows} {request : CartRequest} (turn : Turn db now b request b') :
    b'.row.id = b.row.id ∧ b'.row.tenant = b.row.tenant ∧ b'.row.customer = b.row.customer := by
  cases turn <;> simp [CartService.abandoned]

theorem Turn.counted {db : Db} {now : Time} {b b' : CartRows} {request : CartRequest} (turn : Turn db now b request b') :
    (request ≠ .clearCart ∧ b'.row.version = b.row.version + 1 ∧ b'.row.status = b.row.status) ∨
      (request = .clearCart ∧ b'.row.version = b.row.version ∧ b'.row.status = .abandoned) := by
  cases turn with
  | cleared => exact .inr ⟨rfl, rfl, rfl⟩
  | _ => exact .inl (by simp)

/-- The cart an operation works on: the active one, or the one it creates. -/
inductive Opened (db : Db) (tenant customer : Id) (request : CartRequest) (row : Cart) : Prop
  | found (active : db.activeCart tenant customer = some row)
  | created (none_active : db.activeCart tenant customer = none) (product : Id) (quantity : Int)
      (adds : request = .addItem product quantity) (id : Id) (now : Time) (fresh : ∀ c ∈ db.carts.rows, c.id ≠ id)
      (new : row = newCart tenant customer id now)

-- The requests that read only, and those that find nothing to change.
def CartRequest.Idle (db : Db) (tenant customer : Id) : CartRequest → Prop
  | .previewCoupon _ | .getCart => True
  | .clearCart => db.activeCart tenant customer = none
  | .removeCoupon code => ∀ cart coupon, db.activeCart tenant customer = some cart →
      db.couponOfCode tenant code = some coupon → ∀ a ∈ db.appliedTo tenant cart.id, a.coupon ≠ coupon.id
  | _ => False

structure Turned (db : Db) (tenant customer : Id) (now : Time) (request : CartRequest) (db' : Db)
    (row row' : Cart) : Prop where
  opened : Opened db tenant customer request row
  present : row' ∈ db'.carts.rows
  within : Within tenant row.id db db'
  turn : Turn db now (db.cartRows row) request (db'.cartRows row')

theorem activeCart_some {db : Db} {tenant customer : Id} {row : Cart} (found : db.activeCart tenant customer = some row) :
    row ∈ db.carts.rows ∧ row.tenant = tenant ∧ row.customer = customer ∧ row.status = .active := by
  have picked := List.find?_some found
  simp only [Bool.and_eq_true, beq_iff_eq] at picked
  exact ⟨List.mem_of_find?_eq_some found, picked.1.1, picked.1.2, picked.2⟩

theorem lockActiveCart_found {db : Db} {tenant customer : Id} {row : Cart}
    (locked : lockActiveCart tenant customer db = .ok row) : db.activeCart tenant customer = some row :=
  orRaise_eq_ok.mp locked

theorem Coupon.validate_currency {coupon : Coupon} {now : Time} {subtotal : ℚ} {currency : String}
    {country : Option String} {customer_type : CustomerType}
    (done : coupon.validate now subtotal currency country customer_type = .ok ()) :
    coupon.discount_type = .fixed → coupon.currency = currency := by
  unfold Coupon.validate at done
  cases ends : coupon.valid_until <;> simp only [ends, bind_eq_ok, require_eq_ok] at done
  · obtain ⟨_, _, _, _, _, _, _, same, _⟩ := done
    exact same
  · obtain ⟨_, _, _, _, _, _, _, _, _, same, _⟩ := done
    exact same

namespace CartService

variable {db db' : Db} {tenant customer : Id} {now : Time} {loaded : LoadedCart}

theorem getOrCreateCart_opened {id : Id} {row : Cart} (done : getOrCreateCart tenant customer id now db = .ok (row, db'))
    (product : Id) (quantity : Int) :
    Opened db tenant customer (.addItem product quantity) row ∧ row ∈ db'.carts.rows ∧ row.tenant = tenant ∧
      Within tenant row.id db db' ∧
      db' = { db with carts := db'.carts } := by
  unfold getOrCreateCart at done
  split at done
  next found =>
    cases done
    obtain ⟨member, owner, _⟩ := activeCart_some found
    exact ⟨.found found, member, owner, .refl .., rfl⟩
  next none_active =>
    obtain ⟨last, inserted, pair⟩ := map_eq_ok.mp done
    cases pair
    obtain ⟨carts, put, rfl⟩ := stored_eq_ok.mp inserted
    have rows := Table.insert_rows put
    refine ⟨.created none_active product quantity rfl id now (fun c member => Table.insert_key_fresh put member) rfl, ?_, rfl, ?_, rfl⟩
    · simp [rows]
    · refine .of_carts rfl rfl (fun c member _ => by simp [rows, member]) fun c member other => ?_
      simp only [rows] at member
      rcases List.mem_append.mp member with old | new
      · exact old
      · rw [List.mem_singleton.mp new] at other
        exact absurd rfl other

theorem lockInCurrency_locked {row : Cart} {product : Product} (member : row ∈ db.carts.rows)
    (done : lockInCurrency row product now db = .ok db') :
    row.lockedIn product.currency now ∈ db'.carts.rows ∧ Within row.tenant row.id db db' ∧
      (row.currency = "" ∨ row.currency = product.currency) ∧ db' = { db with carts := db'.carts } := by
  unfold lockInCurrency at done
  split at done
  next empty =>
    cases done
    refine ⟨?_, saveCart_within fun _ => rfl, .inl empty, rfl⟩
    rw [Cart.lockedIn, if_pos empty]
    exact saveCart_mem member
  next locked =>
    split at done <;> cases done
    next same =>
      refine ⟨?_, .refl .., .inr same, rfl⟩
      rw [Cart.lockedIn, if_neg locked]
      exact member

theorem bumped_turned {row saved : Cart} {mid : Db} {request : CartRequest} {items : List CartItem}
    {applied : List AppliedCoupon} (opened : Opened db row.tenant customer request row) (member : saved ∈ mid.carts.rows)
    (owner : saved.tenant = row.tenant) (named : saved.id = row.id) (within : Within row.tenant row.id db mid)
    (lines : mid.cartLines row.tenant row.id = items) (coupons : mid.appliedTo row.tenant row.id = applied)
    (bumped : bumpAndReturn row.tenant row.id mid = .ok (loaded, db'))
    (turn : Turn db now (db.cartRows row) request ⟨saved.bumped, items, applied⟩) :
    ∃ row' saved', Turned db row.tenant customer now request db' row' saved' := by
  obtain ⟨present, sameItems, sameApplied⟩ := bumpAndReturn_mem member (by rw [owner, named]; exact bumped)
  refine ⟨row, saved.bumped, opened, present, within.trans (bumpAndReturn_within bumped), ?_⟩
  have items : db'.cartLines saved.tenant saved.id = items := by
    rw [owner, named, ← lines, Db.cartLines, sameItems]
    rfl
  have coupons : db'.appliedTo saved.tenant saved.id = applied := by
    rw [owner, named, ← coupons, Db.appliedTo, sameApplied]
    rfl
  have cartRows : db'.cartRows saved.bumped = ⟨saved.bumped, _, _⟩ := rfl
  rw [cartRows, Cart.bumped_tenant, Cart.bumped_id, items, coupons]
  exact turn

theorem addItem_turned {product : Id} {quantity : Int} {draw : Nat → Id}
    (done : addItem tenant customer product quantity now draw db = .ok (loaded, db')) :
    ∃ row row', Turned db tenant customer now (.addItem product quantity) db' row row' := by
  simp only [addItem, bind_eq_ok] at done
  obtain ⟨⟨row, created⟩, opens, p, sold, priced, locked, _, _, lined, put, bumped⟩ := done
  obtain ⟨opened, member, rfl, first, frame⟩ := getOrCreateCart_opened opens product quantity
  obtain ⟨here, second, locks, frame'⟩ := lockInCurrency_locked member locked
  have found := orRaise_eq_ok.mp sold
  have picked := List.find?_some found
  simp only [Bool.and_eq_true, beq_iff_eq] at picked
  obtain rfl := picked.1.2
  have products : created.products = db.products := by rw [frame]
  have offered : p ∈ db.products.rows := products ▸ List.mem_of_find?_eq_some found
  have lines : priced.cartLines row.tenant row.id = db.cartLines row.tenant row.id := by rw [frame', frame]; rfl
  have coupons : priced.appliedTo row.tenant row.id = db.appliedTo row.tenant row.id := by rw [frame', frame]; rfl
  have guards : (db.cartRows row).row.currency = "" ∨ (db.cartRows row).row.currency = p.currency := locks
  have finish {items : List CartItem} (third : Within row.tenant row.id priced lined) (carts : lined.carts = priced.carts)
      (applied : lined.appliedCoupons = priced.appliedCoupons) (listed : lined.cartLines row.tenant row.id = items)
      (turn : Turn db now (db.cartRows row) (.addItem p.id quantity)
        ⟨(row.lockedIn p.currency now).bumped, items, db.appliedTo row.tenant row.id⟩) :
      ∃ row' saved', Turned db row.tenant customer now (.addItem p.id quantity) db' row' saved' := by
    refine bumped_turned opened (carts ▸ here) (by simp) (by simp) ((first.trans second).trans third) listed ?_ bumped turn
    rw [← coupons, Db.appliedTo, applied]
    rfl
  unfold putItem at put
  split at put
  next line found =>
    have listed : line ∈ priced.cartLines row.tenant row.id := List.mem_of_find?_eq_some found
    obtain ⟨third, carts, applied, items⟩ := updateCartItems_within listed put fun _ => ⟨rfl, rfl, rfl⟩
    rw [lines] at listed items
    exact finish third carts applied items (.increased quantity p line offered guards listed)
  · obtain ⟨third, carts, applied, items⟩ := insertCartItem_within rfl rfl put
    rw [lines] at items
    exact finish third carts applied items (.added quantity p _ offered guards rfl)

theorem removeItem_turned {item : Id} (done : removeItem tenant customer item now db = .ok (loaded, db')) :
    ∃ row row', Turned db tenant customer now (.removeItem item) db' row row' := by
  simp only [removeItem, bind_eq_ok, require_eq_ok] at done
  obtain ⟨row, locked, _, ⟨line, listed, rfl⟩, bumped⟩ := done
  have found := lockActiveCart_found locked
  obtain ⟨member, rfl, _⟩ := activeCart_some found
  have within : Within row.tenant row.id db { db with cartItems := db.cartItems.delete fun i =>
      i.tenant == row.tenant && i.cart == row.id && i.id == line.id } := deleteCartItems_within _
  have lines : Db.cartLines { db with cartItems := db.cartItems.delete fun i =>
      i.tenant == row.tenant && i.cart == row.id && i.id == line.id } row.tenant row.id =
        (db.cartLines row.tenant row.id).filter fun i => i.id != line.id := by
    simp only [Db.cartLines, Table.delete_rows, List.filter_filter]
    refine List.filter_congr fun i _ => ?_
    by_cases here : (i.tenant == row.tenant && i.cart == row.id) = true
    · simp [here, bne]
    · simp [here]
  have turn : Turn db now (db.cartRows row) (.removeItem line.id)
      ⟨(row.unlocked ((db.cartLines row.tenant row.id).filter fun i => i.id != line.id) now).bumped,
        (db.cartLines row.tenant row.id).filter fun i => i.id != line.id, db.appliedTo row.tenant row.id⟩ :=
    .removed line listed
  rw [lines] at bumped
  split at bumped
  next empty =>
    have saved : { row with currency := "", updated_at := now } ∈ (Db.saveCart
        { db with cartItems := db.cartItems.delete fun i => i.tenant == row.tenant && i.cart == row.id && i.id == line.id }
        row.tenant row.id (fun c => { c with currency := "", updated_at := now })
        ⟨fun _ => rfl, fun _ => rfl⟩).carts.rows := saveCart_mem member
    refine bumped_turned (.found found) saved rfl rfl (within.trans (saveCart_within fun _ => rfl)) lines rfl bumped ?_
    · rw [Cart.unlocked, if_pos empty] at turn
      exact turn
  next rest =>
    refine bumped_turned (.found found) ?_ rfl rfl within lines rfl bumped ?_
    · exact member
    · rw [Cart.unlocked, if_neg rest] at turn
      exact turn

theorem updateItemQuantity_turned {item : Id} {quantity : Int}
    (done : updateItemQuantity tenant customer item quantity db = .ok (loaded, db')) :
    ∃ row row', Turned db tenant customer now (.updateItemQuantity item quantity) db' row row' := by
  simp only [updateItemQuantity, bind_eq_ok] at done
  obtain ⟨row, locked, line, listed, _, _, _, _, written, stored, bumped⟩ := done
  have found := lockActiveCart_found locked
  obtain ⟨member, rfl, _⟩ := activeCart_some found
  have picked := orRaise_eq_ok.mp listed
  have inside := List.mem_of_find?_eq_some picked
  obtain rfl : line.id = item := by simpa using List.find?_some picked
  obtain ⟨within, carts, applied, lines⟩ := updateCartItems_within inside stored fun _ => ⟨rfl, rfl, rfl⟩
  refine bumped_turned (.found found) (carts ▸ member) rfl rfl within lines ?_ bumped (.requantified line quantity inside)
  rw [Db.appliedTo, applied]
  rfl

theorem clearCart_turned (done : clearCart tenant customer now db = .ok db') :
    (db' = db ∧ CartRequest.clearCart.Idle db tenant customer) ∨
      ∃ row row', Turned db tenant customer now .clearCart db' row row' := by
  unfold clearCart at done
  split at done
  next none_active =>
    cases done
    exact .inl ⟨rfl, none_active⟩
  next row found =>
    obtain ⟨member, rfl, _⟩ := activeCart_some found
    obtain ⟨carts, updated, rfl⟩ := stored_eq_ok.mp done
    have rows := Table.update_rows updated
    refine .inr ⟨row, abandoned now row, .found found, ?_, ?_, ?_⟩
    · rw [rows]
      refine List.mem_map.mpr ⟨row, member, ?_⟩
      simp [Table.updated]
    · have emptied : Within row.tenant row.id db _ := (deleteCartItems_within fun _ => true).trans
        (deleteApplied_within fun _ => true)
      simp only [Bool.and_true] at emptied
      refine emptied.trans (.of_carts rfl rfl (fun c inside other => ?_) fun c inside other => ?_)
      · rw [rows]
        refine List.mem_map.mpr ⟨c, inside, ?_⟩
        simp [Table.updated, other]
      · rw [rows] at inside
        obtain ⟨c', old, rfl⟩ := List.mem_map.mp inside
        by_cases picked : (c'.tenant == row.tenant && c'.id == row.id) = true
        · simp only [Bool.and_eq_true, beq_iff_eq] at picked
          simp [Table.updated, picked, abandoned] at other
        · simpa [Table.updated, picked] using old
    · have none_left {α : Type} (rows : List α) (p : α → Bool) : (rows.filter fun a => !p a).filter p = [] := by
        simp [List.filter_filter]
      have cartRows : Db.cartRows { db with
          carts
          cartItems := db.cartItems.delete fun i => i.tenant == row.tenant && i.cart == row.id
          appliedCoupons := db.appliedCoupons.delete fun a => a.tenant == row.tenant && a.cart == row.id }
          (abandoned now row) = ⟨abandoned now row, [], []⟩ := by
        simp only [Db.cartRows, Db.cartLines, Db.appliedTo, Table.delete_rows, abandoned, none_left]
      rw [cartRows]
      exact .cleared

theorem validateFor_currency {cart : Cart} {coupon : Coupon} (done : validateFor tenant cart coupon now db = .ok ()) :
    coupon.discount_type = .fixed → coupon.currency = cart.currency := by
  unfold validateFor at done
  cases shipping : cart.shipping_address <;> simp only [shipping, bind_eq_ok] at done <;>
  · obtain ⟨_, _, _, _, valid⟩ := done
    exact Coupon.validate_currency valid

theorem applyCoupon_turned {code : String} {id : Id}
    (done : applyCoupon tenant customer code now id db = .ok (loaded, db')) :
    ∃ row row', Turned db tenant customer now (.applyCoupon code) db' row row' := by
  simp only [applyCoupon, bind_eq_ok] at done
  obtain ⟨row, locked, coupon, named, _, valid, _, _, written, stored, bumped⟩ := done
  have found := lockActiveCart_found locked
  obtain ⟨member, rfl, _⟩ := activeCart_some found
  have picked := orRaise_eq_ok.mp named
  obtain ⟨_, rfl⟩ : coupon.tenant = row.tenant ∧ coupon.code = code := by simpa using List.find?_some picked
  obtain ⟨within, carts, items, applied⟩ := insertAppliedCoupon_within rfl rfl stored
  refine bumped_turned (.found found) (carts ▸ member) rfl rfl within ?_ applied bumped
    (.applied coupon _ (List.mem_of_find?_eq_some picked) rfl (validateFor_currency valid))
  rw [Db.cartLines, items]
  rfl

theorem removeCoupon_turned {code : String} (done : removeCoupon tenant customer code db = .ok (loaded, db')) :
    (db' = db ∧ (CartRequest.removeCoupon code).Idle db tenant customer) ∨
      ∃ row row', Turned db tenant customer now (.removeCoupon code) db' row row' := by
  simp only [removeCoupon, bind_eq_ok] at done
  obtain ⟨row, locked, coupon, named, rest⟩ := done
  have found := lockActiveCart_found locked
  obtain ⟨member, rfl, _⟩ := activeCart_some found
  have picked := orRaise_eq_ok.mp named
  split at rest
  next was =>
    refine .inr (bumped_turned (.found found) ?_ rfl rfl (deleteApplied_within _) rfl ?_ rest
      (.unapplied code coupon picked was))
    · exact member
    · simp only [Db.appliedTo, Db.cartRows, Table.delete_rows, List.filter_filter]
      refine List.filter_congr fun a _ => ?_
      by_cases here : (a.tenant == row.tenant && a.cart == row.id) = true
      · simp [here, bne]
      · simp [here]
  next never =>
    obtain ⟨_, _, pair⟩ := map_eq_ok.mp rest
    cases pair
    refine .inl ⟨rfl, fun cart coupon' found' picked' a inside same => ?_⟩
    obtain rfl := Option.some.inj (found.symm.trans found')
    obtain rfl := Option.some.inj (picked.symm.trans picked')
    exact never ⟨a, inside, same⟩

theorem setSlot_turned {check : Outcome Unit} {f : Cart → Cart} {inert : Table.Inert f} {request : CartRequest}
    (done : setSlot tenant customer check f inert db = .ok (loaded, db'))
    (same : ∀ c, (f c).id = c.id ∧ (f c).tenant = c.tenant)
    (turn : ∀ row, Turn db now (db.cartRows row) request
      ⟨(f row).bumped, db.cartLines row.tenant row.id, db.appliedTo row.tenant row.id⟩) :
    ∃ row row', Turned db tenant customer now request db' row row' := by
  simp only [setSlot, bind_eq_ok] at done
  obtain ⟨row, locked, _, _, bumped⟩ := done
  have found := lockActiveCart_found locked
  obtain ⟨member, rfl, _⟩ := activeCart_some found
  exact bumped_turned (.found found) (saveCart_mem member) (same row).2 (same row).1
    (saveCart_within fun c => (same c).1) rfl rfl bumped (turn row)

end CartService

theorem CartRequest.run_turns {tenant customer : Id} {now : Time} {draw : Nat → Id} {db db' : Db}
    {request : CartRequest} {answer : CartAnswer}
    (done : request.run tenant customer now draw db = .ok (answer, db')) :
    (db' = db ∧ request.Idle db tenant customer) ∨ ∃ row row', Turned db tenant customer now request db' row row' := by
  have loads {block : Outcome (LoadedCart × Db)} {P : Prop} (mapped : Prod.map CartAnswer.cart id <$> block = .ok (answer, db'))
      (turned : ∀ loaded, block = .ok (loaded, db') → P) : P := by
    obtain ⟨⟨loaded, last⟩, returned, pair⟩ := map_eq_ok.mp mapped
    cases pair
    exact turned loaded returned
  have reads {α : Type} {block : Outcome α} {f : α → CartAnswer} (mapped : (f ·, db) <$> block = .ok (answer, db')) :
      db' = db := by
    obtain ⟨_, _, pair⟩ := map_eq_ok.mp mapped
    cases pair
    rfl
  cases request with
  | addItem product quantity => exact loads done fun _ added => .inr (CartService.addItem_turned added)
  | removeItem item => exact loads done fun _ removed => .inr (CartService.removeItem_turned removed)
  | updateItemQuantity item quantity => exact loads done fun _ set => .inr (CartService.updateItemQuantity_turned set)
  | clearCart =>
    obtain ⟨_, returned, pair⟩ := map_eq_ok.mp done
    cases pair
    exact CartService.clearCart_turned returned
  | applyCoupon code => exact loads done fun _ applied => .inr (CartService.applyCoupon_turned applied)
  | removeCoupon code => exact loads done fun _ removed => CartService.removeCoupon_turned removed
  | previewCoupon code => exact .inl ⟨reads done, trivial⟩
  | setShippingAddress address =>
    exact loads done fun _ set => .inr (CartService.setSlot_turned set (fun _ => ⟨rfl, rfl⟩) fun _ => .shipped address)
  | setBillingAddress address =>
    exact loads done fun _ set => .inr (CartService.setSlot_turned set (fun _ => ⟨rfl, rfl⟩) fun _ => .billed address)
  | setPaymentMethod payment_method =>
    exact loads done fun _ set => .inr (CartService.setSlot_turned set (fun _ => ⟨rfl, rfl⟩) fun _ => .paid payment_method)
  | getCart => exact .inl ⟨reads done, trivial⟩

end Storefront
