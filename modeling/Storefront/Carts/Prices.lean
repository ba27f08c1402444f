import Storefront.Carts.Contents

set_option autoImplicit false

/-!
# The prices on the lines of carts

A line keeps the price its product had when it was added, and no product has a
negative one.
-/

namespace Storefront

open Relational Transition

def Db.LinesPriced (db : Db) : Prop := ∀ i ∈ db.cartItems.rows, 0 ≤ i.unit_price_snapshot

theorem product_priced {db : Db} {p : Product} (member : p ∈ db.products.rows) : 0 ≤ p.price :=
  (Product.check_iff.mp (db.products.checked p member)).2.1

section Lines

variable {db db' : Db}

theorem Db.LinesPriced.of_items (priced : db.LinesPriced) (same : db'.cartItems = db.cartItems) : db'.LinesPriced := by
  rw [Db.LinesPriced, same]
  exact priced

theorem Db.LinesPriced.updated (priced : db.LinesPriced) {p : CartItem → Bool} {f : CartItem → CartItem}
    (done : db.updateCartItems p f = .ok db') (same : ∀ i, (f i).unit_price_snapshot = i.unit_price_snapshot) :
    db'.LinesPriced := by
  obtain ⟨_, updated, rfl⟩ := stored_eq_ok.mp done
  intro i' member
  simp only [Table.update_rows updated] at member
  obtain ⟨i, present, rfl⟩ := List.mem_map.mp member
  unfold Table.updated
  split
  · rw [same i]
    exact priced i present
  · exact priced i present

theorem Db.LinesPriced.deleted (priced : db.LinesPriced) (p : CartItem → Bool) :
    { db with cartItems := db.cartItems.delete p }.LinesPriced :=
  fun i member => priced i (List.mem_of_mem_filter member)

theorem putItem_priced {cart : Cart} {product : Product} {existing : Option CartItem} {quantity : Int} {id : Id}
    (priced : db.LinesPriced) (positive : 0 ≤ product.price)
    (done : putItem cart product existing quantity id db = .ok db') : db'.LinesPriced := by
  unfold putItem at done
  split at done
  · exact priced.updated done fun _ => rfl
  · obtain ⟨_, inserted, rfl⟩ := stored_eq_ok.mp done
    intro i member
    simp only [Table.insert_rows inserted] at member
    rcases List.mem_append.mp member with old | new
    · exact priced i old
    · rw [List.mem_singleton.mp new]
      exact positive

end Lines

namespace CartService

variable {db db' : Db} {tenant customer : Id} {now : Time} {loaded : LoadedCart}

theorem bumpAndReturn_items {cart : Id} (done : bumpAndReturn tenant cart db = .ok (loaded, db')) :
    db'.cartItems = db.cartItems := by
  simp only [bumpAndReturn, bind_eq_ok, pure_eq_ok, Prod.mk.injEq] at done
  obtain ⟨_, _, _, rfl⟩ := done
  rfl

theorem addItem_priced {product : Id} {quantity : Int} {draw : Nat → Id} (priced : db.LinesPriced)
    (done : addItem tenant customer product quantity now draw db = .ok (loaded, db')) : db'.LinesPriced := by
  simp only [addItem, bind_eq_ok, orRaise_eq_ok] at done
  obtain ⟨⟨row, created⟩, opens, p, sold, locked, locks, _, _, lined, put, bumped⟩ := done
  obtain ⟨_, member, _, _, frame⟩ := getOrCreateCart_opened opens product quantity
  obtain ⟨_, _, _, frame'⟩ := lockInCurrency_locked member locks
  have items : locked.cartItems = db.cartItems := by rw [frame', frame]
  have positive : 0 ≤ p.price := product_priced (List.mem_of_find?_eq_some sold)
  exact (putItem_priced (priced.of_items items) positive put).of_items (bumpAndReturn_items bumped)

theorem removeItem_priced {item : Id} (priced : db.LinesPriced)
    (done : removeItem tenant customer item now db = .ok (loaded, db')) : db'.LinesPriced := by
  simp only [removeItem, bind_eq_ok] at done
  obtain ⟨row, _, _, _, bumped⟩ := done
  refine Db.LinesPriced.of_items ?_ (bumpAndReturn_items bumped)
  split <;> exact priced.deleted _

theorem updateItemQuantity_priced {item : Id} {quantity : Int} (priced : db.LinesPriced)
    (done : updateItemQuantity tenant customer item quantity db = .ok (loaded, db')) : db'.LinesPriced := by
  simp only [updateItemQuantity, bind_eq_ok] at done
  obtain ⟨_, _, _, _, _, _, _, _, _, updated, bumped⟩ := done
  exact (priced.updated updated fun _ => rfl).of_items (bumpAndReturn_items bumped)

theorem clearCart_priced (priced : db.LinesPriced) (done : clearCart tenant customer now db = .ok db') :
    db'.LinesPriced := by
  unfold clearCart at done
  split at done
  · cases done
    exact priced
  · obtain ⟨_, _, rfl⟩ := stored_eq_ok.mp done
    exact priced.deleted _

theorem applyCoupon_items {code : String} {id : Id} (done : applyCoupon tenant customer code now id db = .ok (loaded, db')) :
    db'.cartItems = db.cartItems := by
  simp only [applyCoupon, bind_eq_ok] at done
  obtain ⟨_, _, _, _, _, _, _, _, _, inserted, bumped⟩ := done
  obtain ⟨_, _, rfl⟩ := stored_eq_ok.mp inserted
  have same := bumpAndReturn_items bumped
  exact same

theorem removeCoupon_items {code : String} (done : removeCoupon tenant customer code db = .ok (loaded, db')) :
    db'.cartItems = db.cartItems := by
  simp only [removeCoupon, bind_eq_ok] at done
  obtain ⟨_, _, _, _, rest⟩ := done
  split at rest
  · have same := bumpAndReturn_items rest
    exact same
  · obtain ⟨_, _, pair⟩ := map_eq_ok.mp rest
    cases pair
    rfl

theorem setSlot_items {check : Outcome Unit} {f : Cart → Cart} {inert : Table.Inert f}
    (done : setSlot tenant customer check f inert db = .ok (loaded, db')) : db'.cartItems = db.cartItems := by
  simp only [setSlot, bind_eq_ok] at done
  obtain ⟨_, _, _, _, bumped⟩ := done
  have same := bumpAndReturn_items bumped
  exact same

end CartService

theorem CartRequest.run_priced {tenant customer : Id} {now : Time} {draw : Nat → Id} {db db' : Db}
    {request : CartRequest} {answer : CartAnswer} (priced : db.LinesPriced)
    (done : request.run tenant customer now draw db = .ok (answer, db')) : db'.LinesPriced := by
  have loads {block : Outcome (LoadedCart × Db)} (mapped : Prod.map CartAnswer.cart id <$> block = .ok (answer, db'))
      (keeps : ∀ loaded last, block = .ok (loaded, last) → last.LinesPriced) : db'.LinesPriced := by
    obtain ⟨⟨loaded, last⟩, returned, pair⟩ := map_eq_ok.mp mapped
    cases pair
    exact keeps loaded last returned
  cases request with
  | addItem product quantity => exact loads done fun _ _ => CartService.addItem_priced priced
  | removeItem item => exact loads done fun _ _ => CartService.removeItem_priced priced
  | updateItemQuantity item quantity => exact loads done fun _ _ => CartService.updateItemQuantity_priced priced
  | clearCart =>
    obtain ⟨_, returned, pair⟩ := map_eq_ok.mp done
    cases pair
    exact CartService.clearCart_priced priced returned
  | applyCoupon code => exact loads done fun _ _ applied => priced.of_items (CartService.applyCoupon_items applied)
  | removeCoupon code => exact loads done fun _ _ removed => priced.of_items (CartService.removeCoupon_items removed)
  | setShippingAddress | setBillingAddress | setPaymentMethod =>
    exact loads done fun _ _ set => priced.of_items (CartService.setSlot_items set)
  | previewCoupon | getCart =>
    obtain ⟨_, _, pair⟩ := map_eq_ok.mp done
    cases pair
    exact priced

end Storefront
