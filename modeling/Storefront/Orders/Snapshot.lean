import Storefront.Carts.Service
import Storefront.Orders.Phases

set_option autoImplicit false

/-!
# What an order takes over from the cart
-/

namespace Storefront

open Relational Transition

/-- A line as the customer pays for it. -/
structure Sale where
  product : Option Id
  quantity : Int
  unit_price : ℚ
  line_total : ℚ
  currency : String

def CartItem.sale (i : CartItem) : Sale :=
  ⟨some i.product, i.quantity, i.unit_price_snapshot, i.unit_price_snapshot * (i.quantity : ℚ), i.currency⟩

def OrderItem.sale (i : OrderItem) : Sale := ⟨i.product, i.quantity, i.unit_price, i.line_total, i.currency⟩

theorem createOrderItems_sell {oracle : Oracle} {view : CartView} {order : Order} {entries : List (CartItem × Nat)}
    {db db' : Db} (done : entries.foldlM (createOrderItem oracle view order) db = .ok db') :
    ∃ new : List OrderItem, db'.orderItems.rows = db.orderItems.rows ++ new ∧ (∀ i ∈ new, i.order = order.id) ∧
      new.map OrderItem.sale = entries.map fun e => e.1.sale := by
  induction entries generalizing db with
  | nil =>
    obtain rfl : db = db' := by simpa using done
    exact ⟨[], by simp, by simp, rfl⟩
  | cons e rest ih =>
    obtain ⟨mid, first, tail⟩ := foldlM_cons_eq_ok.mp done
    simp only [createOrderItem, bind_eq_ok, orRaise_eq_ok, Db.insertOrderItem, stored_eq_ok] at first
    obtain ⟨p, found, orderItems, inserted, rfl⟩ := first
    have named : p.id = e.1.product := by simpa using List.find?_some found
    obtain ⟨new, rows, mine, sales⟩ := ih tail
    refine ⟨newOrderItem order view.cart.tenant (oracle.draw (e.2 + 1)) e.1 p :: new, ?_, ?_, ?_⟩
    · rw [rows]
      simp [Table.insert_rows inserted]
    · intro i inside
      rcases List.mem_cons.mp inside with rfl | later
      · rfl
      · exact mine i later
    · simp [newOrderItem, OrderItem.sale, CartItem.sale, named, sales]

theorem createOrder_sells {req : Request} {oracle : Oracle} {view : CartView} {order : Order} {db db' : Db}
    (done : createOrder req oracle view db = .ok (order, db')) :
    (∃ shipping billing, order = newOrder req oracle view shipping billing) ∧
      ∃ new : List OrderItem, db'.orderItems.rows = db.orderItems.rows ++ new ∧ (∀ i ∈ new, i.order = order.id) ∧
        new.map OrderItem.sale = view.items.map CartItem.sale := by
  simp only [createOrder, bind_eq_ok, pure_eq_ok, Prod.mk.injEq, Db.insertOrder, stored_eq_ok] at done
  obtain ⟨used, coupons, shipping, _, billing, _, _, _, _, ⟨orders, inserted, rfl⟩, last, listed, rfl, rfl⟩ := done
  have usedItems : used.orderItems = db.orderItems := by rw [useCoupons_frame coupons]
  obtain ⟨new, rows, mine, sales⟩ := createOrderItems_sell listed
  refine ⟨⟨shipping, billing, rfl⟩, new, ?_, mine, ?_⟩
  · rw [rows]
    simp only [usedItems]
  · rw [sales]
    conv_rhs => rw [← List.zipIdx_map_fst 0 view.items, List.map_map]
    rfl

/-- The phase-1 lock takes the customer's active cart as it stands. -/
structure LockedView (req : Request) (db : Db) (view : CartView) : Prop where
  active : db.activeCart req.tenant req.customer = some view.cart
  viewed : db.cartView req.tenant view.cart = some view
  version : ∀ expected ∈ req.expected_version, view.cart.version = expected

theorem lockCart_view {req : Request} {now : Time} {db db' : Db} {view : CartView}
    (done : lockCart req now db = .ok (view, db')) : LockedView req db view := by
  simp only [lockCart, lockAndValidateCart, bind_eq_ok, pure_eq_ok, orRaise_eq_ok, require_eq_ok, Prod.mk.injEq,
    Option.bind_eq_some_iff] at done
  obtain ⟨_, ⟨seen, ⟨cart, found, joined⟩, _, version, rfl⟩, _, _, rfl, _⟩ := done
  obtain rfl : seen.cart = cart := by
    simp only [Db.cartView, Option.map_eq_some_iff] at joined
    obtain ⟨_, _, rfl⟩ := joined
    rfl
  exact ⟨found, joined, version⟩

theorem cartView_items {db : Db} {tenant : Id} {cart : Cart} {view : CartView}
    (viewed : db.cartView tenant cart = some view) : view.cart = cart ∧ view.items = db.cartLines tenant cart.id ∧
      view.coupons = (db.appliedTo tenant cart.id).filterMap fun a =>
        db.coupons.rows.find? fun c => c.tenant == tenant && c.id == a.coupon := by
  simp only [Db.cartView, Option.map_eq_some_iff] at viewed
  obtain ⟨_, _, rfl⟩ := viewed
  exact ⟨rfl, rfl, rfl⟩

end Storefront
