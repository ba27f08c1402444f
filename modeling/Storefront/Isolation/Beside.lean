import Storefront.Isolation.Split

set_option autoImplicit false

/-!
# Statements beside the rows of other tenants

What a statement of the tenant does to the whole state it does to the tenant's own
rows, if no index entry of another tenant stands in its way.
-/

namespace Storefront

open Relational Transition

section Statements

variable {α : Type} [Schema α] {t : Table α} {tenant : Id} {R : Db → Db → Prop} {put put' : Table α → Db}

theorem stored_insert_alike (owner : α → Id) {row : α} (mine : owner row = tenant)
    (free : ∀ r ∈ (t.part fun r => owner r != tenant).rows, ∀ e ∈ Schema.entries row, e ∉ Schema.entries r)
    (each : ∀ t', (t'.part fun r => owner r != tenant) = (t.part fun r => owner r != tenant) →
      t'.rows = t.rows ++ [row] → R (put t') (put' (t'.part fun r => owner r == tenant))) :
    Alike R (stored (t.insert row) put) (stored ((t.part fun r => owner r == tenant).insert row) put') := by
  have clear (r : α) (member : r ∈ t.rows) (out : (owner r == tenant) = false) :
      ∀ e ∈ Schema.entries row, e ∉ Schema.entries r :=
    free r (List.mem_filter.mpr ⟨member, by simpa using out⟩)
  rw [Table.insert_part (by simpa using mine) clear]
  cases inserted : t.insert row with
  | none => exact .error _
  | some t' => exact .ok (each t' (Table.part_insert_out inserted (by simpa using mine)) (Table.insert_rows inserted))

theorem stored_update_alike (owner : α → Id) {p : α → Bool} {f : α → α}
    (inside : ∀ row ∈ t.rows, p row = true → owner row = tenant) (keeps : ∀ row, owner (f row) = owner row)
    (free : ∀ row ∈ t.rows, p row = true → ∀ r ∈ (t.part fun r => owner r != tenant).rows,
      ∀ e ∈ Schema.entries (f row), e ∉ Schema.entries r)
    (each : ∀ t', (t'.part fun r => owner r != tenant) = (t.part fun r => owner r != tenant) →
      t'.rows = t.rows.map (Table.updated p f) → R (put t') (put' (t'.part fun r => owner r == tenant))) :
    Alike R (stored (t.update p f) put) (stored ((t.part fun r => owner r == tenant).update p f) put') := by
  have own (row : α) (member : row ∈ t.rows) (picked : p row = true) : owner (f row) = tenant :=
    (keeps row).trans (inside row member picked)
  have clear (row : α) (member : row ∈ t.rows) (picked : p row = true) (r : α) (there : r ∈ t.rows)
      (out : (owner r == tenant) = false) : ∀ e ∈ Schema.entries (f row), e ∉ Schema.entries r :=
    free row member picked r (List.mem_filter.mpr ⟨there, by simpa using out⟩)
  rw [Table.update_part (fun row member picked => by simp [inside row member picked, own row member picked]) clear]
  cases written : t.update p f with
  | none => exact .error _
  | some t' =>
    refine .ok (each t' (Table.part_update_out written fun row member picked => ?_) (Table.update_rows written))
    simp [inside row member picked, own row member picked]

theorem picked_in {p : α → Bool} {f : α → α} {owner : α → Id}
    (inside : ∀ row ∈ t.rows, p row = true → owner row = tenant)
    (keeps : ∀ row, owner (f row) = owner row) : ∀ row ∈ t.rows, p row = true →
      (owner row != tenant) = false ∧ (owner (f row) != tenant) = false := by
  intro row member picked
  simp [keeps row, inside row member picked]

theorem entries_kept {p : α → Bool} {f : α → α} {owner : α → Id}
    (inside : ∀ row ∈ t.rows, p row = true → owner row = tenant)
    (fewer : ∀ row, Schema.entries (f row) ⊆ Schema.entries row) : ∀ row ∈ t.rows, p row = true →
      ∀ r ∈ (t.part fun r => owner r != tenant).rows, ∀ e ∈ Schema.entries (f row), e ∉ Schema.entries r := by
  intro row member picked r there e inRow inOther
  obtain ⟨present, out⟩ := List.mem_filter.mp there
  rw [← t.eq_of_entry member present (fewer row inRow) inOther, inside row member picked] at out
  simp at out

end Statements

theorem Cart.entries_apart {c d : Cart} (id : d.id ≠ c.id) (customer : d.customer ≠ c.customer) :
    ∀ e ∈ Schema.entries c, e ∉ Schema.entries d := by
  intro (e : IndexEntry) inC inD
  change e ∈ IndexEntry.primary c.id :: (if c.status = .active then [.owner c.customer] else []) at inC
  change e ∈ IndexEntry.primary d.id :: (if d.status = .active then [.owner d.customer] else []) at inD
  split at inC <;> split at inD <;> simp only [List.mem_cons, List.not_mem_nil, or_false] at inC inD <;> grind

theorem CartItem.entries_apart {i j : CartItem} (id : j.id ≠ i.id) (cart : j.cart ≠ i.cart) :
    ∀ e ∈ Schema.entries i, e ∉ Schema.entries j := by
  intro (e : IndexEntry) inI inJ
  change e ∈ [IndexEntry.primary i.id, .pair i.cart i.product] at inI
  change e ∈ [IndexEntry.primary j.id, .pair j.cart j.product] at inJ
  simp only [List.mem_cons, List.not_mem_nil, or_false] at inI inJ
  grind

theorem AppliedCoupon.entries_apart {a b : AppliedCoupon} (id : b.id ≠ a.id) (cart : b.cart ≠ a.cart) :
    ∀ e ∈ Schema.entries a, e ∉ Schema.entries b := by
  intro (e : IndexEntry) inA inB
  change e ∈ [IndexEntry.primary a.id, .pair a.cart a.coupon] at inA
  change e ∈ [IndexEntry.primary b.id, .pair b.cart b.coupon] at inB
  simp only [List.mem_cons, List.not_mem_nil, or_false] at inA inB
  grind

theorem OrderItem.entries_apart {i j : OrderItem} (id : j.id ≠ i.id) :
    ∀ e ∈ Schema.entries i, e ∉ Schema.entries j := by
  intro (e : IndexEntry) inI inJ
  change e ∈ [IndexEntry.primary i.id] at inI
  change e ∈ [IndexEntry.primary j.id] at inJ
  grind

theorem InventoryReservation.entries_apart {r s : InventoryReservation} (id : s.id ≠ r.id) :
    ∀ e ∈ Schema.entries r, e ∉ Schema.entries s := by
  intro (e : IndexEntry) inR inS
  change e ∈ [IndexEntry.primary r.id] at inR
  change e ∈ [IndexEntry.primary s.id] at inS
  grind

theorem Order.entries_apart {o o' : Order} (id : o'.id ≠ o.id) (key : o'.idempotency_key ≠ o.idempotency_key)
    (tenant : o'.tenant ≠ o.tenant) : ∀ e ∈ Schema.entries o, e ∉ Schema.entries o' := by
  intro (e : IndexEntry) inO inO'
  change e ∈ [IndexEntry.primary o.id, .text o.idempotency_key, .pair o.tenant o.order_number] at inO
  change e ∈ [IndexEntry.primary o'.id, .text o'.idempotency_key, .pair o'.tenant o'.order_number] at inO'
  simp only [List.mem_cons, List.not_mem_nil, or_false] at inO inO'
  grind

theorem Payment.entries_apart {p p' : Payment} (id : p'.id ≠ p.id) (key : p'.idempotency_key ≠ p.idempotency_key) :
    ∀ e ∈ Schema.entries p, e ∉ Schema.entries p' := by
  intro (e : IndexEntry) inP inP'
  change e ∈ [IndexEntry.primary p.id, .text p.idempotency_key] at inP
  change e ∈ [IndexEntry.primary p'.id, .text p'.idempotency_key] at inP'
  simp only [List.mem_cons, List.not_mem_nil, or_false] at inP inP'
  grind

/-- The other tenants have the given rows, and the tenant's rows keep clear of them. -/
structure Db.Beside (tenant : Id) (db foreign : Db) : Prop where
  others : db.others tenant = foreign
  items : ∀ i ∈ foreign.cartItems.rows, ∃ c ∈ foreign.carts.rows, c.id = i.cart
  applied : ∀ a ∈ foreign.appliedCoupons.rows, ∃ c ∈ foreign.carts.rows, c.id = a.cart
  carts : ∀ c ∈ db.carts.rows, c.tenant = tenant → ∀ d ∈ foreign.carts.rows, d.customer ≠ c.customer
  methods : ∀ m ∈ db.paymentMethods.rows, m.tenant = tenant → ∀ g ∈ m.gateway_config,
    ∀ c ∈ foreign.gatewayConfigs.rows, c.id ≠ g
  payments : ∀ p ∈ db.payments.rows, p.tenant = tenant → ∀ g ∈ p.gateway_config,
    ∀ c ∈ foreign.gatewayConfigs.rows, c.id ≠ g

/-- The same state with nobody else's rows. -/
structure Sees (tenant : Id) (foreign db solo : Db) : Prop where
  beside : db.Beside tenant foreign
  own : solo = db.own tenant

structure Db.Unused (foreign : Db) (id : Id) : Prop where
  carts : ∀ r ∈ foreign.carts.rows, r.id ≠ id
  items : ∀ r ∈ foreign.cartItems.rows, r.id ≠ id
  applied : ∀ r ∈ foreign.appliedCoupons.rows, r.id ≠ id
  orders : ∀ r ∈ foreign.orders.rows, r.id ≠ id
  orderItems : ∀ r ∈ foreign.orderItems.rows, r.id ≠ id
  reservations : ∀ r ∈ foreign.reservations.rows, r.id ≠ id
  payments : ∀ r ∈ foreign.payments.rows, r.id ≠ id

namespace Db.Beside

variable {tenant : Id} {foreign db : Db}

theorem mem_others {c : Cart} (beside : db.Beside tenant foreign) (member : c ∈ foreign.carts.rows) :
    c ∈ db.carts.rows ∧ c.tenant ≠ tenant := by
  rw [← beside.others] at member
  obtain ⟨present, out⟩ := List.mem_filter.mp member
  exact ⟨present, by simpa using out⟩

section Tables

variable (beside : db.Beside tenant foreign)

include beside

theorem withCarts {carts : Table Cart}
    (out : (carts.part fun r => r.tenant != tenant) = db.carts.part fun r => r.tenant != tenant)
    (clear : ∀ c ∈ carts.rows, c.tenant = tenant → ∀ d ∈ foreign.carts.rows, d.customer ≠ c.customer) :
    ({ db with carts } : Db).Beside tenant foreign :=
  { beside with
    others := by
      rw [← beside.others]
      exact congrArg (fun t => { db.others tenant with carts := t }) out
    carts := clear }

theorem withPayments {payments : Table Payment}
    (out : (payments.part fun r => r.tenant != tenant) = db.payments.part fun r => r.tenant != tenant)
    (clear : ∀ p ∈ payments.rows, p.tenant = tenant → ∀ g ∈ p.gateway_config,
      ∀ c ∈ foreign.gatewayConfigs.rows, c.id ≠ g) :
    ({ db with payments } : Db).Beside tenant foreign :=
  { beside with
    others := by
      rw [← beside.others]
      exact congrArg (fun t => { db.others tenant with payments := t }) out
    payments := clear }

theorem withProducts {products : Table Product}
    (out : (products.part fun r => r.tenant != tenant) = db.products.part fun r => r.tenant != tenant) :
    ({ db with products } : Db).Beside tenant foreign :=
  { beside with
    others := by
      rw [← beside.others]
      exact congrArg (fun t => { db.others tenant with products := t }) out }

theorem withCoupons {coupons : Table Coupon}
    (out : (coupons.part fun r => r.tenant != tenant) = db.coupons.part fun r => r.tenant != tenant) :
    ({ db with coupons } : Db).Beside tenant foreign :=
  { beside with
    others := by
      rw [← beside.others]
      exact congrArg (fun t => { db.others tenant with coupons := t }) out }

theorem withCartItems {cartItems : Table CartItem}
    (out : (cartItems.part fun r => r.tenant != tenant) = db.cartItems.part fun r => r.tenant != tenant) :
    ({ db with cartItems } : Db).Beside tenant foreign :=
  { beside with
    others := by
      rw [← beside.others]
      exact congrArg (fun t => { db.others tenant with cartItems := t }) out }

theorem withAppliedCoupons {appliedCoupons : Table AppliedCoupon}
    (out : (appliedCoupons.part fun r => r.tenant != tenant) = db.appliedCoupons.part fun r => r.tenant != tenant) :
    ({ db with appliedCoupons } : Db).Beside tenant foreign :=
  { beside with
    others := by
      rw [← beside.others]
      exact congrArg (fun t => { db.others tenant with appliedCoupons := t }) out }

theorem withOrders {orders : Table Order}
    (out : (orders.part fun r => r.tenant != tenant) = db.orders.part fun r => r.tenant != tenant) :
    ({ db with orders } : Db).Beside tenant foreign :=
  { beside with
    others := by
      rw [← beside.others]
      exact congrArg (fun t => { db.others tenant with orders := t }) out }

theorem withOrderItems {orderItems : Table OrderItem}
    (out : (orderItems.part fun r => r.tenant != tenant) = db.orderItems.part fun r => r.tenant != tenant) :
    ({ db with orderItems } : Db).Beside tenant foreign :=
  { beside with
    others := by
      rw [← beside.others]
      exact congrArg (fun t => { db.others tenant with orderItems := t }) out }

theorem withReservations {reservations : Table InventoryReservation}
    (out : (reservations.part fun r => r.tenant != tenant) = db.reservations.part fun r => r.tenant != tenant) :
    ({ db with reservations } : Db).Beside tenant foreign :=
  { beside with
    others := by
      rw [← beside.others]
      exact congrArg (fun t => { db.others tenant with reservations := t }) out }

theorem insertCart (row : Cart) (mine : row.tenant = tenant)
    (free : ∀ r ∈ foreign.carts.rows, r.id ≠ row.id ∧ r.customer ≠ row.customer) :
    Alike (Sees tenant foreign) (db.insertCart row) ((db.own tenant).insertCart row) := by
  obtain rfl := beside.others
  refine stored_insert_alike Cart.tenant mine (fun r member => Cart.entries_apart (free r member).1 (free r member).2)
    fun carts out rows => ⟨beside.withCarts out fun c inside own d there => ?_, rfl⟩
  · rw [rows] at inside
    rcases List.mem_append.mp inside with old | new
    · exact beside.carts c old own d there
    · rw [List.mem_singleton.mp new]
      exact (free d there).2

theorem updateCarts {p : Cart → Bool} {f : Cart → Cart} (inside : ∀ c ∈ db.carts.rows, p c = true → c.tenant = tenant)
    (keeps : ∀ c, (f c).id = c.id ∧ (f c).tenant = c.tenant ∧ (f c).customer = c.customer) :
    Alike (Sees tenant foreign) (db.updateCarts p f) ((db.own tenant).updateCarts p f) := by
  obtain rfl := beside.others
  refine stored_update_alike Cart.tenant inside (fun c => (keeps c).2.1) (fun c member picked d there => ?_)
    fun carts out rows => ⟨beside.withCarts out fun c member own d there => ?_, rfl⟩
  · have mine := inside c member picked
    have apart : d.customer ≠ c.customer := beside.carts c member mine d there
    obtain ⟨present, out⟩ := List.mem_filter.mp there
    have distinct : d.id ≠ c.id := by
      intro same
      rw [db.carts.eq_of_key present member same, mine] at out
      simp at out
    exact Cart.entries_apart ((keeps c).1 ▸ distinct) ((keeps c).2.2 ▸ apart)
  · rw [rows] at member
    obtain ⟨old, present, rfl⟩ := List.mem_map.mp member
    unfold Table.updated at own ⊢
    split
    next picked =>
      rw [(keeps old).2.2]
      exact beside.carts old present (inside old present picked) d there
    next skipped =>
      rw [if_neg skipped] at own
      exact beside.carts old present own d there

theorem modifyCarts {p : Cart → Bool} {f : Cart → Cart} {inert : Table.Inert f}
    (inside : ∀ c ∈ db.carts.rows, p c = true → c.tenant = tenant)
    (keeps : ∀ c, (f c).tenant = c.tenant ∧ (f c).customer = c.customer) :
    Sees tenant foreign (db.modifyCarts p f inert) ((db.own tenant).modifyCarts p f inert) where
  beside := by
    refine beside.withCarts (Table.part_modify_out (picked_in inside fun c => (keeps c).1))
      fun c member own d there => ?_
    obtain ⟨old, present, rfl⟩ := List.mem_map.mp member
    unfold Table.updated at own ⊢
    split
    next picked =>
      rw [(keeps old).2]
      exact beside.carts old present (inside old present picked) d there
    next skipped =>
      rw [if_neg skipped] at own
      exact beside.carts old present own d there
  own := congrArg (fun t => { db.own tenant with carts := t })
    (Table.part_modify fun c _ _ => by rw [(keeps c).1])

theorem insertCartItem {row : CartItem} (mine : row.tenant = tenant)
    (unused : ∀ r ∈ foreign.cartItems.rows, r.id ≠ row.id)
    (held : ∃ c ∈ db.carts.rows, c.id = row.cart ∧ c.tenant = tenant) :
    Alike (Sees tenant foreign) (db.insertCartItem row) ((db.own tenant).insertCartItem row) := by
  obtain rfl := beside.others
  refine stored_insert_alike CartItem.tenant mine (fun r member => ?_) fun _ out _ =>
    ⟨beside.withCartItems out, rfl⟩
  obtain ⟨c, present, named, own⟩ := held
  obtain ⟨d, there, filed⟩ := beside.items r member
  obtain ⟨placed, away⟩ := beside.mem_others there
  have apart : r.cart ≠ row.cart := by
    intro same
    rw [db.carts.eq_of_key placed present (filed.trans (same.trans named.symm))] at away
    exact away own
  exact CartItem.entries_apart (unused r member) apart

theorem updateCartItems {p : CartItem → Bool} {f : CartItem → CartItem}
    (inside : ∀ i ∈ db.cartItems.rows, p i = true → i.tenant = tenant)
    (keeps : ∀ i, (f i).tenant = i.tenant ∧ Schema.entries (f i) = Schema.entries i) :
    Alike (Sees tenant foreign) (db.updateCartItems p f) ((db.own tenant).updateCartItems p f) :=
  stored_update_alike CartItem.tenant inside (fun i => (keeps i).1)
    (entries_kept inside fun i => (keeps i).2 ▸ List.Subset.refl _) fun _ out _ => ⟨beside.withCartItems out, rfl⟩

theorem deleteCartItems {p : CartItem → Bool} (inside : ∀ i ∈ db.cartItems.rows, p i = true → i.tenant = tenant) :
    Sees tenant foreign { db with cartItems := db.cartItems.delete p }
      { db.own tenant with cartItems := (db.own tenant).cartItems.delete p } where
  beside := beside.withCartItems (Table.part_delete_out fun i member picked => by simp [inside i member picked])
  own := congrArg (fun t => { db.own tenant with cartItems := t }) Table.part_delete

theorem insertAppliedCoupon {row : AppliedCoupon} (mine : row.tenant = tenant)
    (unused : ∀ r ∈ foreign.appliedCoupons.rows, r.id ≠ row.id)
    (held : ∃ c ∈ db.carts.rows, c.id = row.cart ∧ c.tenant = tenant) :
    Alike (Sees tenant foreign) (db.insertAppliedCoupon row) ((db.own tenant).insertAppliedCoupon row) := by
  obtain rfl := beside.others
  refine stored_insert_alike AppliedCoupon.tenant mine (fun r member => ?_) fun _ out _ =>
    ⟨beside.withAppliedCoupons out, rfl⟩
  obtain ⟨c, present, named, own⟩ := held
  obtain ⟨d, there, filed⟩ := beside.applied r member
  obtain ⟨placed, away⟩ := beside.mem_others there
  have apart : r.cart ≠ row.cart := by
    intro same
    rw [db.carts.eq_of_key placed present (filed.trans (same.trans named.symm))] at away
    exact away own
  exact AppliedCoupon.entries_apart (unused r member) apart

theorem deleteAppliedCoupons {p : AppliedCoupon → Bool}
    (inside : ∀ a ∈ db.appliedCoupons.rows, p a = true → a.tenant = tenant) :
    Sees tenant foreign { db with appliedCoupons := db.appliedCoupons.delete p }
      { db.own tenant with appliedCoupons := (db.own tenant).appliedCoupons.delete p } where
  beside := beside.withAppliedCoupons (Table.part_delete_out fun a member picked => by simp [inside a member picked])
  own := congrArg (fun t => { db.own tenant with appliedCoupons := t }) Table.part_delete

theorem updateProducts {p : Product → Bool} {f : Product → Product}
    (inside : ∀ row ∈ db.products.rows, p row = true → row.tenant = tenant)
    (keeps : ∀ row, (f row).tenant = row.tenant ∧ Schema.entries (f row) = Schema.entries row) :
    Alike (Sees tenant foreign) (db.updateProducts p f) ((db.own tenant).updateProducts p f) :=
  stored_update_alike Product.tenant inside (fun row => (keeps row).1)
    (entries_kept inside fun row => (keeps row).2 ▸ List.Subset.refl _) fun _ out _ => ⟨beside.withProducts out, rfl⟩

theorem insertReservation {row : InventoryReservation} (mine : row.tenant = tenant)
    (unused : ∀ r ∈ foreign.reservations.rows, r.id ≠ row.id) :
    Alike (Sees tenant foreign) (db.insertReservation row) ((db.own tenant).insertReservation row) := by
  obtain rfl := beside.others
  exact stored_insert_alike InventoryReservation.tenant mine
    (fun r member => InventoryReservation.entries_apart (unused r member))
    fun _ out _ => ⟨beside.withReservations out, rfl⟩

theorem insertOrderItem {row : OrderItem} (mine : row.tenant = tenant)
    (unused : ∀ r ∈ foreign.orderItems.rows, r.id ≠ row.id) :
    Alike (Sees tenant foreign) (db.insertOrderItem row) ((db.own tenant).insertOrderItem row) := by
  obtain rfl := beside.others
  exact stored_insert_alike OrderItem.tenant mine (fun r member => OrderItem.entries_apart (unused r member))
    fun _ out _ => ⟨beside.withOrderItems out, rfl⟩

theorem insertOrder {row : Order} (mine : row.tenant = tenant) (unused : ∀ r ∈ foreign.orders.rows, r.id ≠ row.id)
    (free : ∀ r ∈ foreign.orders.rows, r.idempotency_key ≠ row.idempotency_key) :
    Alike (Sees tenant foreign) (db.insertOrder row) ((db.own tenant).insertOrder row) := by
  obtain rfl := beside.others
  refine stored_insert_alike Order.tenant mine (fun r member => ?_) fun _ out _ => ⟨beside.withOrders out, rfl⟩
  have away : r.tenant ≠ row.tenant := by
    rw [mine]
    simpa using (List.mem_filter.mp member).2
  exact Order.entries_apart (unused r member) (free r member) away

theorem insertOrder_taken {row : Order} (taken : ∃ r ∈ foreign.orders.rows, r.idempotency_key = row.idempotency_key) :
    db.insertOrder row = .error .integrityError := by
  obtain ⟨r, member, key⟩ := taken
  obtain rfl := beside.others
  have refused : db.orders.insert row = none := Table.insert_clash
    ⟨r, List.mem_of_mem_filter member, .text row.idempotency_key, by simp [Schema.entries],
      by simp [Schema.entries, key]⟩
  rw [Db.insertOrder, refused]
  rfl

theorem insertPayment {row : Payment} (mine : row.tenant = tenant) (unused : ∀ r ∈ foreign.payments.rows, r.id ≠ row.id)
    (free : ∀ r ∈ foreign.payments.rows, r.idempotency_key ≠ row.idempotency_key)
    (config : ∀ g ∈ row.gateway_config, ∀ c ∈ foreign.gatewayConfigs.rows, c.id ≠ g) :
    Alike (Sees tenant foreign) (db.insertPayment row) ((db.own tenant).insertPayment row) := by
  obtain rfl := beside.others
  refine stored_insert_alike Payment.tenant mine
    (fun r member => Payment.entries_apart (unused r member) (free r member))
    fun payments out rows => ⟨beside.withPayments out fun p member own => ?_, rfl⟩
  rw [rows] at member
  rcases List.mem_append.mp member with old | new
  · exact beside.payments p old own
  · rw [List.mem_singleton.mp new]
    exact config

theorem insertPayment_taken {row : Payment}
    (taken : ∃ r ∈ foreign.payments.rows, r.idempotency_key = row.idempotency_key) :
    db.insertPayment row = .error .integrityError := by
  obtain ⟨r, member, key⟩ := taken
  obtain rfl := beside.others
  have refused : db.payments.insert row = none := Table.insert_clash
    ⟨r, List.mem_of_mem_filter member, .text row.idempotency_key, by simp [Schema.entries],
      by simp [Schema.entries, key]⟩
  rw [Db.insertPayment, refused]
  rfl

theorem modifyCoupons {p : Coupon → Bool} {f : Coupon → Coupon} {inert : Table.Inert f}
    (inside : ∀ row ∈ db.coupons.rows, p row = true → row.tenant = tenant)
    (keeps : ∀ row, (f row).tenant = row.tenant) :
    Sees tenant foreign (db.modifyCoupons p f inert) ((db.own tenant).modifyCoupons p f inert) where
  beside := beside.withCoupons (Table.part_modify_out (picked_in inside keeps))
  own := congrArg (fun t => { db.own tenant with coupons := t }) (Table.part_modify fun row _ _ => by rw [keeps row])

theorem modifyOrders {p : Order → Bool} {f : Order → Order} {inert : Table.Inert f}
    (inside : ∀ row ∈ db.orders.rows, p row = true → row.tenant = tenant) (keeps : ∀ row, (f row).tenant = row.tenant) :
    Sees tenant foreign (db.modifyOrders p f inert) ((db.own tenant).modifyOrders p f inert) where
  beside := beside.withOrders (Table.part_modify_out (picked_in inside keeps))
  own := congrArg (fun t => { db.own tenant with orders := t }) (Table.part_modify fun row _ _ => by rw [keeps row])

theorem modifyReservations {p : InventoryReservation → Bool} {f : InventoryReservation → InventoryReservation}
    {inert : Table.Inert f} (inside : ∀ row ∈ db.reservations.rows, p row = true → row.tenant = tenant)
    (keeps : ∀ row, (f row).tenant = row.tenant) :
    Sees tenant foreign (db.modifyReservations p f inert) ((db.own tenant).modifyReservations p f inert) where
  beside := beside.withReservations (Table.part_modify_out (picked_in inside keeps))
  own := congrArg (fun t => { db.own tenant with reservations := t })
    (Table.part_modify fun row _ _ => by rw [keeps row])

theorem modifyPayments {p : Payment → Bool} {f : Payment → Payment} {inert : Table.Inert f}
    (inside : ∀ row ∈ db.payments.rows, p row = true → row.tenant = tenant)
    (keeps : ∀ row, (f row).tenant = row.tenant ∧ (f row).gateway_config = row.gateway_config) :
    Sees tenant foreign (db.modifyPayments p f inert) ((db.own tenant).modifyPayments p f inert) where
  beside := by
    refine beside.withPayments (Table.part_modify_out (picked_in inside fun row => (keeps row).1))
      fun row member own => ?_
    obtain ⟨old, present, rfl⟩ := List.mem_map.mp member
    unfold Table.updated at own ⊢
    split
    next picked =>
      rw [(keeps old).2]
      exact beside.payments old present (inside old present picked)
    next skipped =>
      rw [if_neg skipped] at own
      exact beside.payments old present own
  own := congrArg (fun t => { db.own tenant with payments := t })
    (Table.part_modify fun row _ _ => by rw [(keeps row).1])

end Tables

end Db.Beside

end Storefront
