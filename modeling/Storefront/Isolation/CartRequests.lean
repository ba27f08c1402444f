import Storefront.Isolation.Beside

set_option autoImplicit false

/-!
# CartService beside other tenants
-/

namespace Storefront

open Relational Transition

theorem tenant_of {row tenant : Id} {q : Bool} (picked : (row == tenant && q) = true) : row = tenant :=
  beq_iff_eq.mp (Bool.and_elim_left picked)

def Agrees {α : Type} (tenant : Id) (foreign : Db) (x y : α × Db) : Prop := x.1 = y.1 ∧ Sees tenant foreign x.2 y.2

def Db.HasCart (tenant cart : Id) (db : Db) : Prop := ∃ c ∈ db.carts.rows, c.id = cart ∧ c.tenant = tenant

section CartRequests

variable {tenant customer : Id} {foreign db solo : Db} {now : Time}

theorem activeCart_found {cart : Cart} (found : db.activeCart tenant customer = some cart) :
    cart ∈ db.carts.rows ∧ cart.tenant = tenant ∧ cart.customer = customer := by
  have picked := List.find?_some found
  simp only [Bool.and_eq_true, beq_iff_eq] at picked
  exact ⟨List.mem_of_find?_eq_some found, picked.1.1, picked.1.2⟩

theorem saveCart_alike (sees : Sees tenant foreign db solo) {cart : Id} {f : Cart → Cart} {inert : Table.Inert f}
    (keeps : ∀ c, (f c).tenant = c.tenant ∧ (f c).customer = c.customer) :
    Sees tenant foreign (db.saveCart tenant cart f inert) (solo.saveCart tenant cart f inert) := by
  obtain ⟨beside, rfl⟩ := sees
  exact beside.modifyCarts (fun _ _ => tenant_of) keeps

theorem bumpAndReturn_alike (sees : Sees tenant foreign db solo) (cart : Id) :
    Alike (Agrees tenant foreign) (bumpAndReturn tenant cart db) (bumpAndReturn tenant cart solo) := by
  obtain ⟨beside, rfl⟩ := sees
  obtain ⟨written, own⟩ := @Db.Beside.modifyCarts _ _ _ beside (fun c => c.tenant == tenant && c.id == cart)
    (fun c => { c with version := c.version + 1 }) ⟨fun _ => rfl, fun _ => rfl⟩ (fun _ _ => tenant_of)
    fun _ => ⟨rfl, rfl⟩
  simp only [bumpAndReturn, own, Db.own_cart, Db.own_loadCart]
  exact Alike.after fun row _ => .pure ⟨rfl, written, rfl⟩

theorem lockActiveCart_alike (sees : Sees tenant foreign db solo) :
    lockActiveCart tenant customer solo = lockActiveCart tenant customer db := by
  obtain ⟨_, rfl⟩ := sees
  simp only [lockActiveCart, Db.own_activeCart]

theorem getOrCreateCart_alike (sees : Sees tenant foreign db solo) {id : Id} (unused : foreign.Unused id)
    (apart : ∀ d ∈ foreign.carts.rows, d.customer ≠ customer) :
    Alike (fun x y => Agrees tenant foreign x y ∧ x.1.tenant = tenant ∧ x.2.HasCart tenant x.1.id)
      (getOrCreateCart tenant customer id now db) (getOrCreateCart tenant customer id now solo) := by
  obtain ⟨beside, rfl⟩ := sees
  simp only [getOrCreateCart, Db.own_activeCart]
  cases found : db.activeCart tenant customer with
  | some cart =>
    obtain ⟨member, own, _⟩ := activeCart_found found
    exact .ok ⟨⟨rfl, beside, rfl⟩, own, cart, member, rfl, own⟩
  | none =>
    have inserted := beside.insertCart (newCart tenant customer id now) rfl
      fun d there => ⟨unused.carts d there, apart d there⟩
    cases done : db.insertCart (newCart tenant customer id now) with
    | error e =>
      rw [done] at inserted
      generalize (db.own tenant).insertCart (newCart tenant customer id now) = other at inserted ⊢
      cases inserted
      exact .error e
    | ok db' =>
      rw [done] at inserted
      generalize (db.own tenant).insertCart (newCart tenant customer id now) = other at inserted ⊢
      cases inserted with
      | ok here =>
        obtain ⟨carts, added, rfl⟩ := stored_eq_ok.mp done
        refine .ok ⟨⟨rfl, here⟩, rfl, newCart tenant customer id now, ?_, rfl, rfl⟩
        simp [Table.insert_rows added]

theorem lockInCurrency_alike (sees : Sees tenant foreign db solo) {cart : Cart} (own : cart.tenant = tenant)
    (has : db.HasCart tenant cart.id) (product : Product) :
    Alike (fun x y => Sees tenant foreign x y ∧ x.HasCart tenant cart.id) (lockInCurrency cart product now db)
      (lockInCurrency cart product now solo) := by
  unfold lockInCurrency
  split
  · rw [own]
    refine .ok ⟨saveCart_alike sees fun _ => ⟨rfl, rfl⟩, ?_⟩
    obtain ⟨c, member, named, mine⟩ := has
    refine ⟨_, List.mem_map_of_mem member, ?_⟩
    unfold Table.updated
    split <;> exact ⟨named, mine⟩
  · split
    · exact .ok ⟨sees, has⟩
    · exact .error _

theorem putItem_alike (sees : Sees tenant foreign db solo) {cart : Cart} (own : cart.tenant = tenant)
    (has : db.HasCart tenant cart.id) (product : Product) (existing_item : Option CartItem) (quantity : Int) {id : Id}
    (unused : foreign.Unused id) :
    Alike (Sees tenant foreign) (putItem cart product existing_item quantity id db)
      (putItem cart product existing_item quantity id solo) := by
  obtain ⟨beside, rfl⟩ := sees
  cases existing_item with
  | some item =>
    simp only [putItem, own]
    exact beside.updateCartItems (fun _ _ => tenant_of) fun _ => ⟨rfl, rfl⟩
  | none => exact beside.insertCartItem own unused.items has

namespace CartService

theorem addItem_alike (sees : Sees tenant foreign db solo) {draw : Nat → Id} (unused : ∀ k, foreign.Unused (draw k))
    (apart : ∀ d ∈ foreign.carts.rows, d.customer ≠ customer) (product : Id) (quantity : Int) :
    Alike (Agrees tenant foreign) (addItem tenant customer product quantity now draw db)
      (addItem tenant customer product quantity now draw solo) := by
  refine (getOrCreateCart_alike sees (unused 0) apart).bind ?_
  rintro ⟨cart, db⟩ ⟨_, solo⟩ ⟨⟨rfl, sees⟩, own, has⟩
  dsimp only at sees own has ⊢
  have product_found : solo.products.rows.find? (fun p => p.tenant == tenant && p.id == product && p.is_active) =
      db.products.rows.find? fun p => p.tenant == tenant && p.id == product && p.is_active := by
    rw [sees.own]
    exact Table.find_part fun _ picked => Bool.and_elim_left (Bool.and_elim_left picked)
  simp only [product_found]
  refine Alike.after fun product _ => (lockInCurrency_alike sees own has product).bind ?_
  rintro db solo ⟨sees, has⟩
  have lines : solo.cartLines tenant cart.id = db.cartLines tenant cart.id := by rw [sees.own, Db.own_cartLines]
  simp only [lines]
  exact Alike.after fun _ _ => (putItem_alike sees own has product _ quantity (unused 1)).bind
    fun _ _ written => bumpAndReturn_alike written cart.id

theorem unlocked_alike (sees : Sees tenant foreign db solo) (cart : Id) {f : Cart → Cart} {inert : Table.Inert f}
    (keeps : ∀ c, (f c).tenant = c.tenant ∧ (f c).customer = c.customer) :
    Alike (Agrees tenant foreign)
      (bumpAndReturn tenant cart (if db.cartLines tenant cart = [] then db.saveCart tenant cart f inert else db))
      (bumpAndReturn tenant cart
        (if solo.cartLines tenant cart = [] then solo.saveCart tenant cart f inert else solo)) := by
  have lines : solo.cartLines tenant cart = db.cartLines tenant cart := by rw [sees.own, Db.own_cartLines]
  rw [lines]
  split
  · exact bumpAndReturn_alike (saveCart_alike sees keeps) cart
  · exact bumpAndReturn_alike sees cart

theorem removeItem_alike (sees : Sees tenant foreign db solo) (item : Id) :
    Alike (Agrees tenant foreign) (removeItem tenant customer item now db)
      (removeItem tenant customer item now solo) := by
  simp only [removeItem, lockActiveCart_alike sees]
  refine Alike.after fun cart _ => ?_
  obtain ⟨beside, rfl⟩ := sees
  simp only [Db.own_cartLines]
  exact Alike.after fun _ _ => unlocked_alike
    (beside.deleteCartItems fun _ _ picked => tenant_of (Bool.and_elim_left picked)) cart.id fun _ => ⟨rfl, rfl⟩

theorem updateItemQuantity_alike (sees : Sees tenant foreign db solo) (item : Id) (quantity : Int) :
    Alike (Agrees tenant foreign) (updateItemQuantity tenant customer item quantity db)
      (updateItemQuantity tenant customer item quantity solo) := by
  simp only [updateItemQuantity, lockActiveCart_alike sees]
  obtain ⟨beside, rfl⟩ := sees
  simp only [Db.own_cartLines, Db.own_product]
  refine Alike.after fun cart _ => Alike.after fun item _ => Alike.after fun product _ => Alike.after fun _ _ => ?_
  refine Alike.bind (R := Sees tenant foreign) ?_ fun _ _ written => bumpAndReturn_alike written cart.id
  exact beside.updateCartItems (fun _ _ => tenant_of) fun _ => ⟨rfl, rfl⟩

theorem clearCart_alike (sees : Sees tenant foreign db solo) :
    Alike (Sees tenant foreign) (clearCart tenant customer now db) (clearCart tenant customer now solo) := by
  obtain ⟨beside, rfl⟩ := sees
  simp only [clearCart, Db.own_activeCart]
  cases db.activeCart tenant customer with
  | none => exact .ok ⟨beside, rfl⟩
  | some cart =>
    obtain ⟨items, own⟩ := beside.deleteCartItems (p := fun i => i.tenant == tenant && i.cart == cart.id)
      fun _ _ => tenant_of
    obtain ⟨applied, own'⟩ := items.deleteAppliedCoupons (p := fun a => a.tenant == tenant && a.cart == cart.id)
      fun _ _ => tenant_of
    have cleared := applied.updateCarts (p := fun c => c.tenant == tenant && c.id == cart.id) (f := abandoned now)
      (fun _ _ => tenant_of) fun _ => ⟨rfl, rfl, rfl⟩
    rw [← own', ← own] at cleared
    exact cleared

theorem validateFor_alike (sees : Sees tenant foreign db solo) (cart : Cart) (coupon : Coupon) :
    validateFor tenant cart coupon now solo = validateFor tenant cart coupon now db := by
  obtain ⟨_, rfl⟩ := sees
  simp only [validateFor, Db.own_address, Db.own_customer, Db.own_cartLines]

theorem applyCoupon_alike (sees : Sees tenant foreign db solo) {id : Id} (unused : foreign.Unused id) (code : String) :
    Alike (Agrees tenant foreign) (applyCoupon tenant customer code now id db)
      (applyCoupon tenant customer code now id solo) := by
  simp only [applyCoupon, lockActiveCart_alike sees, validateFor_alike sees]
  refine Alike.after fun cart locked => ?_
  obtain ⟨member, own, _⟩ := activeCart_found (orRaise_eq_ok.mp locked)
  obtain ⟨beside, rfl⟩ := sees
  simp only [Db.own_couponOfCode, Db.own_appliedTo]
  refine Alike.after fun coupon _ => Alike.after fun _ _ => Alike.after fun _ _ => ?_
  exact (beside.insertAppliedCoupon rfl unused.applied ⟨cart, member, rfl, own⟩).bind
    fun _ _ written => bumpAndReturn_alike written cart.id

theorem getCart_alike (sees : Sees tenant foreign db solo) :
    getCart tenant customer solo = getCart tenant customer db := by
  obtain ⟨_, rfl⟩ := sees
  simp only [getCart, Db.own_activeCart, Db.own_customer, Db.own_loadCart]

theorem removeCoupon_alike (sees : Sees tenant foreign db solo) (code : String) :
    Alike (Agrees tenant foreign) (removeCoupon tenant customer code db) (removeCoupon tenant customer code solo) := by
  simp only [removeCoupon, lockActiveCart_alike sees, getCart_alike sees]
  obtain ⟨beside, rfl⟩ := sees
  simp only [Db.own_couponOfCode, Db.own_appliedTo]
  refine Alike.after fun cart _ => Alike.after fun coupon _ => ?_
  split
  · refine bumpAndReturn_alike ?_ cart.id
    exact beside.deleteAppliedCoupons fun _ _ picked => tenant_of (Bool.and_elim_left picked)
  · cases getCart tenant customer db with
    | ok loaded => exact .ok ⟨rfl, beside, rfl⟩
    | error e => exact .error e

theorem previewCoupon_alike (sees : Sees tenant foreign db solo) (code : String) :
    previewCoupon tenant customer code now solo = previewCoupon tenant customer code now db := by
  simp only [previewCoupon, getCart_alike sees, validateFor_alike sees]
  obtain ⟨_, rfl⟩ := sees
  simp only [Db.own_couponOfCode, Db.own_appliedTo]

theorem setSlot_alike (sees : Sees tenant foreign db solo) (check : Outcome Unit) {f : Cart → Cart}
    {inert : Table.Inert f}
    (keeps : ∀ c, (f c).tenant = c.tenant ∧ (f c).customer = c.customer) :
    Alike (Agrees tenant foreign) (setSlot tenant customer check f inert db)
      (setSlot tenant customer check f inert solo) := by
  simp only [setSlot, lockActiveCart_alike sees]
  exact Alike.after fun cart _ => Alike.after fun _ _ => bumpAndReturn_alike (saveCart_alike sees keeps) cart.id

theorem ownAddress_alike (sees : Sees tenant foreign db solo) (address : Id) :
    ownAddress tenant customer address solo = ownAddress tenant customer address db := by
  obtain ⟨_, rfl⟩ := sees
  have same : (∃ a ∈ (db.own tenant).addresses.rows, a.tenant = tenant ∧ a.id = address ∧ a.customer = customer) ↔
      ∃ a ∈ db.addresses.rows, a.tenant = tenant ∧ a.id = address ∧ a.customer = customer := by
    simp [Db.own, Db.part]
    grind
  simp only [ownAddress, require, same]

theorem ownPaymentMethod_alike (sees : Sees tenant foreign db solo) (payment_method : Id) :
    ownPaymentMethod tenant customer payment_method solo = ownPaymentMethod tenant customer payment_method db := by
  obtain ⟨_, rfl⟩ := sees
  have same : (∃ m ∈ (db.own tenant).paymentMethods.rows, m.tenant = tenant ∧ m.id = payment_method ∧ m.customer =
    customer) ↔
      ∃ m ∈ db.paymentMethods.rows, m.tenant = tenant ∧ m.id = payment_method ∧ m.customer = customer := by
    simp [Db.own, Db.part]
    grind
  simp only [ownPaymentMethod, require, same]

end CartService

theorem CartRequest.run_alike (sees : Sees tenant foreign db solo) (now : Time) {draw : Nat → Id}
    (unused : ∀ k, foreign.Unused (draw k))
    (apart : ∀ d ∈ foreign.carts.rows, d.customer ≠ customer) (request : CartRequest) :
    Alike (Agrees tenant foreign) (request.run tenant customer now draw db)
      (request.run tenant customer now draw solo) := by
  have mapped {α β : Type} {f : α → β} {x y : α × Db} (here : Agrees tenant foreign x y) :
      Agrees tenant foreign (Prod.map f id x) (Prod.map f id y) := ⟨congrArg f here.1, here.2⟩
  cases request with
  | addItem product quantity =>
    exact (CartService.addItem_alike sees unused apart product quantity).map fun _ _ => mapped
  | removeItem item => exact (CartService.removeItem_alike sees item).map fun _ _ => mapped
  | updateItemQuantity item quantity =>
    exact (CartService.updateItemQuantity_alike sees item quantity).map fun _ _ => mapped
  | clearCart => exact (CartService.clearCart_alike sees).map fun _ _ here => ⟨rfl, here⟩
  | applyCoupon code => exact (CartService.applyCoupon_alike sees (unused 0) code).map fun _ _ => mapped
  | removeCoupon code => exact (CartService.removeCoupon_alike sees code).map fun _ _ => mapped
  | previewCoupon code =>
    simp only [CartRequest.run, CartService.previewCoupon_alike sees]
    cases CartService.previewCoupon tenant customer code now db with
    | ok preview => exact .ok ⟨rfl, sees⟩
    | error e => exact .error e
  | setShippingAddress address =>
    simp only [CartRequest.run, CartService.setShippingAddress, CartService.ownAddress_alike sees]
    refine Alike.map (R := Agrees tenant foreign) ?_ fun _ _ => mapped
    exact CartService.setSlot_alike sees _ fun _ => ⟨rfl, rfl⟩
  | setBillingAddress address =>
    simp only [CartRequest.run, CartService.setBillingAddress, CartService.ownAddress_alike sees]
    refine Alike.map (R := Agrees tenant foreign) ?_ fun _ _ => mapped
    exact CartService.setSlot_alike sees _ fun _ => ⟨rfl, rfl⟩
  | setPaymentMethod payment_method =>
    simp only [CartRequest.run, CartService.setPaymentMethod, CartService.ownPaymentMethod_alike sees]
    refine Alike.map (R := Agrees tenant foreign) ?_ fun _ _ => mapped
    exact CartService.setSlot_alike sees _ fun _ => ⟨rfl, rfl⟩
  | getCart =>
    simp only [CartRequest.run, CartService.getCart_alike sees]
    cases CartService.getCart tenant customer db with
    | ok loaded => exact .ok ⟨rfl, sees⟩
    | error e => exact .error e

end CartRequests

end Storefront
