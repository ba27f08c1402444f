import Storefront.Carts.Service

set_option autoImplicit false

/-!
# Carts the operations no longer reach

An operation works on an active cart. A cart under checkout, converted or
abandoned keeps its row.
-/

namespace Storefront

open Relational Transition

structure LeavesClosed (db db' : Db) : Prop where
  frame : db' = { db with
    carts := db'.carts, cartItems := db'.cartItems, appliedCoupons := db'.appliedCoupons }
  closed : ∀ c ∈ db.carts.rows, c.status ≠ .active → c ∈ db'.carts.rows

theorem LeavesClosed.refl (db : Db) : LeavesClosed db db := ⟨rfl, fun _ member _ => member⟩

theorem LeavesClosed.trans {a b c : Db} (first : LeavesClosed a b) (second : LeavesClosed b c) :
    LeavesClosed a c := by
  refine ⟨?_, fun row member shut => second.closed row (first.closed row member shut) shut⟩
  have rest := second.frame
  rw [first.frame] at rest
  exact rest

theorem LeavesClosed.of_carts {db db' : Db} (carts : db'.carts = db.carts) (frame : db' = { db with
    carts := db'.carts, cartItems := db'.cartItems, appliedCoupons := db'.appliedCoupons }) :
    LeavesClosed db db' :=
  ⟨frame, fun _ member _ => carts ▸ member⟩

def OpenAt (db : Db) (cart : Id) : Prop := ∀ c ∈ db.carts.rows, c.id = cart → c.status = .active

section Writes

variable {db db' : Db} {tenant customer cart : Id}

theorem activeCart_open {row : Cart} (found : db.activeCart tenant customer = some row) : OpenAt db row.id := by
  intro c member same
  have active := List.find?_some found
  simp only [Bool.and_eq_true, beq_iff_eq] at active
  rw [db.carts.eq_of_key member (List.mem_of_find?_eq_some found) same]
  exact active.2

theorem lockActiveCart_open {row : Cart} (locked : lockActiveCart tenant customer db = .ok row) :
    OpenAt db row.id :=
  activeCart_open (orRaise_eq_ok.mp locked)

theorem OpenAt.of_carts (at_cart : OpenAt db cart) (carts : db'.carts = db.carts) : OpenAt db' cart := by
  unfold OpenAt
  rw [carts]
  exact at_cart

theorem saveCart_leaves {f : Cart → Cart} {inert : Table.Inert f} (at_cart : OpenAt db cart) :
    LeavesClosed db (db.saveCart tenant cart f inert) := by
  refine ⟨rfl, fun c member shut => ?_⟩
  have unpicked : (c.tenant == tenant && c.id == cart) = false := by
    by_contra picked
    simp only [Bool.not_eq_false, Bool.and_eq_true, beq_iff_eq] at picked
    exact shut (at_cart c member picked.2)
  refine List.mem_map.mpr ⟨c, member, ?_⟩
  simp [Table.updated, unpicked]

theorem saveCart_open {f : Cart → Cart} {inert : Table.Inert f} (at_cart : OpenAt db cart)
    (same : ∀ c, (f c).id = c.id) (status : ∀ c, (f c).status = c.status) :
    OpenAt (db.saveCart tenant cart f inert) cart := by
  intro c' member named
  obtain ⟨c, present, rfl⟩ := List.mem_map.mp member
  unfold Table.updated at named ⊢
  split
  next picked =>
    rw [if_pos picked, same] at named
    rw [status]
    exact at_cart c present named
  next unpicked =>
    rw [if_neg unpicked] at named
    exact at_cart c present named

theorem bumpAndReturn_leaves {loaded : LoadedCart} (done : bumpAndReturn tenant cart db = .ok (loaded, db'))
    (at_cart : OpenAt db cart) : LeavesClosed db db' := by
  simp only [bumpAndReturn, bind_eq_ok, pure_eq_ok, Prod.mk.injEq] at done
  obtain ⟨_, _, _, rfl⟩ := done
  exact saveCart_leaves at_cart

theorem LeavesClosed.bumped {mid : Db} {loaded : LoadedCart}
    (done : bumpAndReturn tenant cart mid = .ok (loaded, db')) (first : LeavesClosed db mid)
    (at_cart : OpenAt mid cart) : LeavesClosed db db' :=
  first.trans (bumpAndReturn_leaves done at_cart)

theorem getOrCreateCart_leaves {id : Id} {now : Time} {row : Cart}
    (done : getOrCreateCart tenant customer id now db = .ok (row, db')) :
    LeavesClosed db db' ∧ OpenAt db' row.id := by
  unfold getOrCreateCart at done
  split at done
  next found =>
    cases done
    exact ⟨.refl db, activeCart_open found⟩
  · obtain ⟨last, inserted, pair⟩ := map_eq_ok.mp done
    cases pair
    obtain ⟨carts, put, rfl⟩ := stored_eq_ok.mp inserted
    refine ⟨⟨rfl, fun c member _ => ?_⟩, fun c member same => ?_⟩
    · simp [Table.insert_rows put, member]
    · rw [Table.insert_rows put] at member
      rcases List.mem_append.mp member with old | new
      · exact absurd same (Table.insert_key_fresh put old)
      · rw [List.mem_singleton.mp new]
        rfl

theorem lockInCurrency_leaves {row : Cart} {product : Product} {now : Time} (at_cart : OpenAt db row.id)
    (done : lockInCurrency row product now db = .ok db') : LeavesClosed db db' ∧ OpenAt db' row.id := by
  unfold lockInCurrency at done
  split at done
  · cases done
    exact ⟨saveCart_leaves at_cart, saveCart_open at_cart (fun _ => rfl) fun _ => rfl⟩
  · split at done <;> cases done
    exact ⟨.refl db, at_cart⟩

theorem putItem_carts {row : Cart} {product : Product} {existing : Option CartItem} {quantity : Int} {id : Id}
    (done : putItem row product existing quantity id db = .ok db') :
    db'.carts = db.carts ∧ db' = { db with cartItems := db'.cartItems } := by
  unfold putItem at done
  split at done <;>
  · obtain ⟨_, _, rfl⟩ := stored_eq_ok.mp done
    exact ⟨rfl, rfl⟩

end Writes

namespace CartService

variable {db db' : Db} {tenant customer : Id} {now : Time} {loaded : LoadedCart}

theorem addItem_leaves {product : Id} {quantity : Int} {draw : Nat → Id}
    (done : addItem tenant customer product quantity now draw db = .ok (loaded, db')) : LeavesClosed db db' := by
  simp only [addItem, bind_eq_ok] at done
  obtain ⟨⟨row, created⟩, found, _, _, priced, locked, _, _, lined, put, bumped⟩ := done
  obtain ⟨first, at_row⟩ := getOrCreateCart_leaves found
  obtain ⟨second, still⟩ := lockInCurrency_leaves at_row locked
  obtain ⟨carts, frame⟩ := putItem_carts put
  have third : LeavesClosed priced lined := .of_carts carts (by rw [frame])
  exact .bumped bumped ((first.trans second).trans third) (still.of_carts carts)

theorem removeItem_leaves {item : Id} (done : removeItem tenant customer item now db = .ok (loaded, db')) :
    LeavesClosed db db' := by
  simp only [removeItem, bind_eq_ok] at done
  obtain ⟨row, locked, _, _, bumped⟩ := done
  have at_row := lockActiveCart_open locked
  have unlined : LeavesClosed db { db with cartItems := db.cartItems.delete fun i =>
      i.tenant == tenant && i.cart == row.id && i.id == item } := .of_carts rfl rfl
  split at bumped
  · exact .bumped bumped (unlined.trans (saveCart_leaves (at_row.of_carts rfl)))
      (saveCart_open (at_row.of_carts rfl) (fun _ => rfl) fun _ => rfl)
  · exact .bumped bumped unlined (at_row.of_carts rfl)

theorem updateItemQuantity_leaves {item : Id} {quantity : Int}
    (done : updateItemQuantity tenant customer item quantity db = .ok (loaded, db')) : LeavesClosed db db' := by
  simp only [updateItemQuantity, bind_eq_ok] at done
  obtain ⟨row, locked, _, _, _, _, _, _, written, stored, bumped⟩ := done
  obtain ⟨_, _, rfl⟩ := stored_eq_ok.mp stored
  have at_row := lockActiveCart_open locked
  exact .bumped bumped (.of_carts rfl rfl) (at_row.of_carts rfl)

theorem clearCart_leaves (done : clearCart tenant customer now db = .ok db') : LeavesClosed db db' := by
  unfold clearCart at done
  split at done
  · cases done
    exact .refl db
  next row found =>
    obtain ⟨carts, updated, rfl⟩ := stored_eq_ok.mp done
    refine ⟨rfl, fun c member shut => ?_⟩
    rw [Table.update_rows updated]
    have unpicked : (c.tenant == tenant && c.id == row.id) = false := by
      by_contra picked
      simp only [Bool.not_eq_false, Bool.and_eq_true, beq_iff_eq] at picked
      exact shut (activeCart_open found c member picked.2)
    refine List.mem_map.mpr ⟨c, member, ?_⟩
    simp [Table.updated, unpicked]

theorem applyCoupon_leaves {code : String} {id : Id}
    (done : applyCoupon tenant customer code now id db = .ok (loaded, db')) : LeavesClosed db db' := by
  simp only [applyCoupon, bind_eq_ok] at done
  obtain ⟨row, locked, _, _, _, _, _, _, written, stored, bumped⟩ := done
  obtain ⟨_, _, rfl⟩ := stored_eq_ok.mp stored
  have at_row := lockActiveCart_open locked
  exact .bumped bumped (.of_carts rfl rfl) (at_row.of_carts rfl)

theorem removeCoupon_leaves {code : String} (done : removeCoupon tenant customer code db = .ok (loaded, db')) :
    LeavesClosed db db' := by
  simp only [removeCoupon, bind_eq_ok] at done
  obtain ⟨row, locked, _, _, rest⟩ := done
  split at rest
  · have at_row := lockActiveCart_open locked
    exact .bumped rest (.of_carts rfl rfl) (at_row.of_carts rfl)
  · obtain ⟨_, _, pair⟩ := map_eq_ok.mp rest
    cases pair
    exact .refl db

theorem setSlot_leaves {check : Outcome Unit} {f : Cart → Cart} {inert : Table.Inert f}
    (done : setSlot tenant customer check f inert db = .ok (loaded, db')) (same : ∀ c, (f c).id = c.id)
    (status : ∀ c, (f c).status = c.status) : LeavesClosed db db' := by
  simp only [setSlot, bind_eq_ok] at done
  obtain ⟨row, locked, _, _, bumped⟩ := done
  have at_row := lockActiveCart_open locked
  exact .bumped bumped (saveCart_leaves at_row) (saveCart_open at_row same status)

end CartService

theorem CartRequest.run_leaves {tenant customer : Id} {now : Time} {draw : Nat → Id} {db db' : Db}
    {request : CartRequest} {answer : CartAnswer}
    (done : request.run tenant customer now draw db = .ok (answer, db')) : LeavesClosed db db' := by
  have loads {block : Outcome (LoadedCart × Db)}
      (mapped : Prod.map CartAnswer.cart id <$> block = .ok (answer, db'))
      (leaves : ∀ loaded last, block = .ok (loaded, last) → LeavesClosed db last) : LeavesClosed db db' := by
    obtain ⟨⟨loaded, last⟩, returned, pair⟩ := map_eq_ok.mp mapped
    cases pair
    exact leaves loaded last returned
  cases request with
  | addItem product quantity => exact loads done fun _ _ => CartService.addItem_leaves
  | removeItem item => exact loads done fun _ _ => CartService.removeItem_leaves
  | updateItemQuantity item quantity => exact loads done fun _ _ => CartService.updateItemQuantity_leaves
  | clearCart =>
    obtain ⟨_, returned, pair⟩ := map_eq_ok.mp done
    cases pair
    exact CartService.clearCart_leaves returned
  | applyCoupon code => exact loads done fun _ _ => CartService.applyCoupon_leaves
  | removeCoupon code => exact loads done fun _ _ => CartService.removeCoupon_leaves
  | previewCoupon code =>
    obtain ⟨_, _, pair⟩ := map_eq_ok.mp done
    cases pair
    exact .refl db
  | setShippingAddress address =>
    exact loads done fun _ _ set => CartService.setSlot_leaves set (fun _ => rfl) fun _ => rfl
  | setBillingAddress address =>
    exact loads done fun _ _ set => CartService.setSlot_leaves set (fun _ => rfl) fun _ => rfl
  | setPaymentMethod payment_method =>
    exact loads done fun _ _ set => CartService.setSlot_leaves set (fun _ => rfl) fun _ => rfl
  | getCart =>
    obtain ⟨_, _, pair⟩ := map_eq_ok.mp done
    cases pair
    exact .refl db

theorem abandonStaleCarts_leaves {cutoff : Time} {db db' : Db} (done : abandonStaleCarts cutoff db = .ok db') :
    LeavesClosed db db' := by
  obtain ⟨carts, updated, rfl⟩ := stored_eq_ok.mp done
  refine ⟨rfl, fun c member shut => ?_⟩
  rw [Table.update_rows updated]
  refine List.mem_map.mpr ⟨c, member, ?_⟩
  simp [Table.updated, shut]

end Storefront
