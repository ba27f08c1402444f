import Storefront.Orders.CouponUse
import Storefront.System.HeldCarts

set_option autoImplicit false

/-!
# One snapshot of the cart

Lines, totals, reservations, coupons and payment of an order all come from the cart
as phase 1 locked it, although they are read and written in different transactions.
-/

namespace Storefront

open Relational Transition

section Coupons

variable {db db' : Db} {tenant : Id}

theorem useCoupons_owned {l : List AppliedCoupon} (done : l.foldlM (useCoupon tenant) db = .ok db') :
    ∀ a ∈ l, ∃ coupon ∈ db.coupons.rows, coupon.id = a.coupon ∧ coupon.tenant = tenant := by
  induction l generalizing db with
  | nil => simp
  | cons a rest ih =>
    obtain ⟨mid, first, tail⟩ := foldlM_cons_eq_ok.mp done
    have back : KeepsCoupons mid db := .of_offers (congrArg Offered.coupons (useCoupon_offered first)).symm
    intro b inside
    rcases List.mem_cons.mp inside with rfl | later
    · simp only [useCoupon, bind_eq_ok, orRaise_eq_ok] at first
      obtain ⟨locked, found, _⟩ := first
      have picked := List.find?_some found
      simp only [Bool.and_eq_true, beq_iff_eq] at picked
      exact ⟨locked, List.mem_of_find?_eq_some found, picked.2, picked.1⟩
    · obtain ⟨coupon, present, named, owner⟩ := ih tail b later
      obtain ⟨coupon', there, id, same⟩ := back coupon present
      exact ⟨coupon', there, id.trans named, same.trans owner⟩

-- uniq_coupon_per_cart
theorem appliedTo_distinct (db : Db) (tenant cart : Id) :
    ((db.appliedTo tenant cart).map AppliedCoupon.coupon).Nodup := by
  refine List.Nodup.map_on ?_ (db.appliedCoupons.nodup.filter _)
  intro a left b right same
  obtain ⟨presentA, scopeA⟩ := List.mem_filter.mp left
  obtain ⟨presentB, scopeB⟩ := List.mem_filter.mp right
  simp only [Bool.and_eq_true, beq_iff_eq] at scopeA scopeB
  refine db.appliedCoupons.eq_of_entry presentA presentB (e := .pair a.cart a.coupon) ?_ ?_
  · simp [Schema.entries]
  · simp [Schema.entries, scopeA.2, scopeB.2, same]

theorem cartCoupons_ids {cart : Id} (owned : ∀ a ∈ db.appliedTo tenant cart, ∃ coupon ∈ db.coupons.rows,
    coupon.id = a.coupon ∧ coupon.tenant = tenant) :
    (db.cartCoupons tenant cart).map Coupon.id = (db.appliedTo tenant cart).map AppliedCoupon.coupon := by
  rw [Db.cartCoupons]
  generalize db.appliedTo tenant cart = l at owned
  induction l with
  | nil => rfl
  | cons a rest ih =>
    obtain ⟨coupon, present, named, owner⟩ := owned a List.mem_cons_self
    have got : db.coupons.get coupon.id = some coupon := Table.get_of_mem present
    have found : db.coupons.rows.find? (fun c => c.tenant == tenant && c.id == a.coupon) = some coupon := by
      rw [← named]
      exact (db.coupons.find_key (fun c => c.tenant == tenant) coupon.id).trans (by simp [got, Option.filter, owner])
    simp only [List.filterMap_cons, found, List.map_cons, named]
    rw [ih fun b inside => owned b (List.mem_cons_of_mem _ inside)]

/-- Phase 4 counts the coupons that phase 1 read, each once. -/
theorem HeldCart.counts {req : Request} {oracle : Oracle} {view : CartView} {order : Order} {locked : Db}
    (held : HeldCart req.tenant view locked db) (known : (locked.cartRows view.cart).Known locked.coupons)
    (owner : view.cart.tenant = req.tenant) (done : createOrder req oracle view db = .ok (order, db')) (coupon : Id) :
    db'.uses coupon = (db.uses coupon).map
      (· + if coupon ∈ (locked.cartCoupons req.tenant view.cart.id).map Coupon.id then 1 else 0) := by
  simp only [createOrder, bind_eq_ok, pure_eq_ok, Prod.mk.injEq, Db.insertOrder, stored_eq_ok] at done
  obtain ⟨used, counted, _, _, _, _, _, _, _, ⟨_, _, rfl⟩, last, listed, _, rfl⟩ := done
  have mine := useCoupons_owned counted
  rw [held.applied] at counted mine
  have ids : (locked.cartCoupons req.tenant view.cart.id).map Coupon.id =
      (locked.appliedTo req.tenant view.cart.id).map AppliedCoupon.coupon := by
    refine cartCoupons_ids fun a inside => ?_
    obtain ⟨coupon, present, named⟩ := known a (by rw [Db.cartRows, owner]; exact inside)
    obtain ⟨now, there, id, tenant⟩ := held.coupons coupon present
    obtain ⟨now', there', id', tenant'⟩ := mine a inside
    obtain rfl := db.coupons.eq_of_key there there' ((id.trans named).trans id'.symm)
    exact ⟨coupon, present, named, tenant.symm.trans tenant'⟩
  have after : last.uses coupon = used.uses coupon := by
    rw [Db.uses, (createOrderItems_lines listed).frame]
    rfl
  rw [after, (useCoupons_uses counted).2 coupon, ids, (appliedTo_distinct locked req.tenant view.cart.id).count]
  split <;> rfl

end Coupons

def Db.linesOf (db : Db) (order : Id) : List OrderItem := db.orderItems.rows.filter fun i => i.order == order

def Sys.Priced (s : Sys) : Prop :=
  ∀ p ∈ s.db.payments.rows, ∀ o ∈ s.db.orders.rows, p.order = o.id → p.amount = o.grand_total ∧ p.currency = o.currency

structure Sys.Ordering (s : Sys) : Prop where
  owned : s.Owned
  one : s.OneLineEach
  lined : s.Lined
  priced : s.Priced

/-- What an order is at its creation it still is. -/
structure Sys.Standing (s : Sys) (i : Nat) (req : Request) (reservations : List Id) (order : OrderCore)
    (items : List OrderItem) : Prop where
  call : ∃ pc, s.calls i = some ⟨req, pc⟩ ∧ pc.claim.reservations = reservations ∧ pc.claim.orderId = some order.id
  row : ∃ o ∈ s.db.orders.rows, o.body = order
  lines : s.db.linesOf order.id = items

section Steps

variable {settings : Settings} {lib : WebhookLibrary} {s s' : Sys} {l : Label}

theorem Bills.claims {placed : Placed} {row : Payment} {pc : Pc} (bills : Bills placed row pc) :
    pc.claim.order = some placed.order.core ∧ row.amount = placed.order.grand_total ∧
      row.currency = placed.order.currency := by
  cases bills with
  | invoice _ _ due => exact ⟨rfl, due⟩
  | card _ _ _ due => exact ⟨rfl, due⟩

theorem Sys.Priced.step (priced : s.Priced) (owned : s.Owned) (taken : Storefront.step settings lib s l = some s') :
    s'.Priced := by
  have change := step_change taken
  intro p' member o' present names
  have matched {o : Order} (inside : o ∈ s.db.orders.rows) (id : o.id = p'.order) :
      o'.grand_total = o.grand_total ∧ o'.currency = o.currency := by
    obtain ⟨o'', there, body⟩ := change.shape.order_kept inside
    have same : o''.id = o.id := congrArg OrderCore.id body
    obtain rfl := s'.db.orders.eq_of_key there present (same.trans (id.trans names))
    exact ⟨congrArg OrderCore.grand_total body, congrArg OrderCore.currency body⟩
  rcases change.payment_source member with ⟨p, inside, core⟩ | ⟨i, req, pc, placed, at_i, bills, named⟩
  · have order : p'.order = p.order := congrArg PaymentCore.order core
    have amount : p'.amount = p.amount := congrArg PaymentCore.amount core
    have currency : p'.currency = p.currency := congrArg PaymentCore.currency core
    obtain ⟨o, there, id⟩ := owned.order_of_payment inside
    obtain ⟨total, code⟩ := matched there (id.trans order.symm)
    obtain ⟨due, coded⟩ := priced p inside o there id.symm
    exact ⟨amount.trans (due.trans total.symm), currency.trans (coded.trans code.symm)⟩
  · obtain ⟨claimed, amount, currency⟩ := bills.claims
    obtain ⟨o, there, core⟩ := List.mem_map.mp ((owned.registered i _ at_i).order_mem claimed)
    have id : o.id = placed.order.id := congrArg OrderCore.id core
    have due : o.grand_total = placed.order.grand_total := congrArg OrderCore.grand_total core
    have coded : o.currency = placed.order.currency := congrArg OrderCore.currency core
    obtain ⟨total, code⟩ := matched there (id.trans named.symm)
    exact ⟨amount.trans (due.symm.trans total.symm), currency.trans (coded.symm.trans code.symm)⟩

theorem Sys.Ordering.start (initial : s.Initial) : s.Ordering where
  owned := .start initial
  one := .start initial
  lined := .start initial
  priced := by simp [Sys.Priced, initial.payments]

theorem Sys.Ordering.step (inv : s.Ordering) (taken : Storefront.step settings lib s l = some s') : s'.Ordering where
  owned := inv.owned.step taken
  one := inv.one.step inv.owned taken
  lined := inv.lined.step inv.owned taken
  priced := inv.priced.step inv.owned taken

theorem Sys.Standing.step {i : Nat} {req : Request} {reservations : List Id} {order : OrderCore} {items : List OrderItem}
    (standing : s.Standing i req reservations order items) (owned : s.Owned)
    (taken : Storefront.step settings lib s l = some s') : s'.Standing i req reservations order items := by
  obtain ⟨o, present, body⟩ := standing.row
  have named : o.id = order.id := congrArg OrderCore.id body
  refine ⟨?_, ?_, Eq.trans ?_ standing.lines⟩
  · obtain ⟨pc, at_i, listed, claims⟩ := standing.call
    rcases step_goes_on taken at_i with same | ⟨oracle, _, _, moved⟩
    · exact ⟨pc, same, listed, claims⟩
    · rcases result : advance settings req { oracle with now := s.now } s.db pc with ⟨pc', db', log⟩
      rw [result] at moved
      refine ⟨pc', moved, ?_, advance_order result claims⟩
      rcases advance_reserves result with same | ⟨view, rfl, _⟩
      · exact same.trans listed
      · cases claims
  · obtain ⟨o', there, same⟩ := (step_change taken).shape.order_kept present
    exact ⟨o', there, same.trans body⟩
  · rcases owned.lines taken with same | ⟨_, _, view, _, new, _, _, creates⟩
    · rw [Db.linesOf, same]
      rfl
    · obtain ⟨added, rows, mine, _⟩ := creates.lines
      have none : added.filter (fun i => i.order == order.id) = [] := by
        refine List.filter_eq_nil_iff.mpr fun i inside filed => (creates.fresh o present).1 ?_
        rw [named, ← mine i inside]
        exact (beq_iff_eq.mp filed).symm
      rw [Db.linesOf, rows, List.filter_append, none, List.append_nil]
      rfl

end Steps

/-- The move that writes the order. -/
structure Creating (i : Nat) (req : Request) (view : CartView) (reservations : List Id) (order : Order)
    (move : Move Sys Event) : Prop where
  label : ∃ oracle, move.label = .run (.advance i oracle)
  before : move.before.calls i = some ⟨req, .create view reservations⟩
  ordered : move.after.db.orders.rows = move.before.db.orders.rows ++ [order]

-- The coupons applied to a cart, at its lock the ones that enter the discount.
def couponsAt (lock : Move Sys Event) (req : Request) (cart : Id) : List Coupon :=
  lock.before.db.cartCoupons req.tenant cart

/-- An order, and what goes with it, against the cart of phase 1. -/
structure FromCart (lock create : Move Sys Event) (req : Request) (cart : Cart) (reservations : List Id) (db : Db)
    (o : Order) : Prop where
  active : lock.before.db.activeCart req.tenant req.customer = some cart
  items : (db.linesOf o.id).map OrderItem.sale = (lock.before.db.cartLines req.tenant cart.id).map CartItem.sale
  subtotal : ((db.linesOf o.id).map OrderItem.line_total).sum = o.subtotal
  grand_total : o.grand_total = o.subtotal - o.discount_total
  discount_total : o.discount_total =
    min ((couponsAt lock req cart.id).map fun c => c.computeDiscount o.subtotal).sum o.subtotal
  counted : ∀ coupon, create.after.db.uses coupon = (create.before.db.uses coupon).map
    (· + if coupon ∈ (couponsAt lock req cart.id).map Coupon.id then 1 else 0)
  reserved : ∀ product, db.heldBy reservations product = db.orderedFor o.id product
  paid : ∀ p ∈ db.payments.rows, p.order = o.id → p.amount = o.grand_total ∧ p.currency = o.currency

section Snapshot

variable {settings : Settings} {lib : WebhookLibrary} {s s' : Sys} {i : Nat} {req : Request} {view : CartView}
  {reservations : List Id} {order : Order}

theorem Creating.created {oracle : Oracle}
    (taken : step settings lib s (.advance i oracle) = some s')
    (at_i : s.calls i = some ⟨req, .create view reservations⟩)
    (ordered : s'.db.orders.rows = s.db.orders.rows ++ [order]) :
    createOrder req { oracle with now := s.now } view s.db = .ok (order, s'.db) ∧
      s'.calls i = some ⟨req, afterOrder ⟨view, reservations, order⟩⟩ := by
  have out := step_advance taken at_i
  have moved := step_advance_call taken at_i
  simp only [advance] at out moved
  split at out
  next order' db' done =>
    simp only [done] at moved
    have creates := createOrder_creates (guard_ok done)
    have rows := creates.orders
    rw [← show s'.db = db' from out, ordered] at rows
    obtain rfl := List.singleton_injective (List.append_cancel_left rows)
    exact ⟨out ▸ guard_ok done, moved⟩
  · rw [out] at ordered
    simp at ordered

-- The lines add up to what the totals of the view were computed from.
theorem sales_total {items : List OrderItem} (sales : items.map OrderItem.sale = view.items.map CartItem.sale) :
    (items.map OrderItem.line_total).sum = view.computeSubtotal := by
  have totals := congrArg (List.map Sale.line_total) sales
  simp only [List.map_map] at totals
  exact congrArg List.sum totals

theorem newOrder_amounts {oracle : Oracle} {shipping billing : AddressSnapshot}
    (cents : ∀ item ∈ view.items, InCents item.unit_price_snapshot)
    (snapshot : order = newOrder req oracle view shipping billing) : order.subtotal = view.computeSubtotal ∧
      order.discount_total = view.discount ∧ order.grand_total = view.computeSubtotal - view.discount := by
  rw [snapshot]
  exact CartView.computeTotals_exact cents

theorem Run.ordering {s₀ : Sys} {moves : List (Move Sys Event)} (run : (storefront settings lib).Run s₀ moves s) :
    s.Ordering := by
  obtain ⟨_, within⟩ := Run.running run
  have start (t : Sys) (initial : t.Initial) : t.Ordering := .start initial
  have keeps (t : Sys) (l : Label) (t' : Sys) (inv : t.Ordering) (taken : step settings lib t l = some t') :
      t'.Ordering := inv.step taken
  exact within.invariant start keeps

theorem Run.stands_since {s₀ t : Sys} {earlier later : List (Move Sys Event)}
    (reached : (storefront settings lib).Run s₀ earlier t) {core : OrderCore} {items : List OrderItem}
    (standing : t.Standing i req reservations core items) (run : (storefront settings lib).Run s₀ (earlier ++ later) s) :
    s.Standing i req reservations core items := by
  have start (t : Sys) (opening : t.Opening) : t.Owned := .start opening.toInitial
  have step (t : Sys) (e : Event) (t' : Sys) (owned : t.Owned) (taken : shop settings lib t e = some t') :
      t'.Owned := by
    obtain ⟨_, stepped⟩ := shop_steps taken
    exact owned.step stepped
  have keeps (moves : List (Move Sys Event)) (t : Sys) (e : Event) (t' : Sys) (owned : t.Owned)
      (standing : t.Standing i req reservations core items) (taken : shop settings lib t e = some t') :
      t'.Standing i req reservations core items := by
    obtain ⟨_, stepped⟩ := shop_steps taken
    exact standing.step owned stepped
  exact reached.since (P := fun _ t => t.Standing i req reservations core items) start step standing keeps run

end Snapshot

def OrdersFromOneCart (i : Nat) (moves : List (Move Sys Event)) (s : Sys) : Prop :=
  ∀ create ∈ moves, ∀ req view reservations order, Creating i req view reservations order create →
    ∃ lock ∈ moves, Locks i req view lock ∧ ∃ o ∈ s.db.orders.rows, o.id = order.id ∧
      FromCart lock create req view.cart reservations s.db o

/-- Whatever goes on beside a checkout, its order comes from the cart it locked. -/
theorem order_from_one_snapshot (settings : Settings) (lib : WebhookLibrary) {s₀ s : Sys}
    {moves : List (Move Sys Event)} (run : (storefront settings lib).Run s₀ moves s) {i : Nat}
    (undisturbed : ∀ move ∈ moves, beside i move.before move.label = true) : OrdersFromOneCart i moves s := by
  intro create member req view reservations order creating
  obtain ⟨earlier, later, rfl⟩ := List.append_of_mem member
  obtain ⟨reached, taken⟩ := run.split
  obtain ⟨lock, inside, locks, locked, held⟩ :=
    Run.held reached (fun move listed => undisturbed move (List.mem_append_left _ listed)) req _ view creating.before rfl
  obtain ⟨oracle, label⟩ := creating.label
  have stepped : step settings lib create.before (.advance i oracle) = some create.after := by
    rw [label] at taken
    exact taken
  obtain ⟨done, moved⟩ := Creating.created stepped creating.before creating.ordered
  obtain ⟨⟨shipping, billing, snapshot⟩, new, rows, mine, sales⟩ := createOrder_sells done
  have creates := createOrder_creates done
  have standing : create.after.Standing i req reservations order.body new := by
    refine ⟨⟨_, moved, ?_, ?_⟩, ⟨order, ?_, rfl⟩, ?_⟩
    · rw [afterOrder_claim]
      rfl
    · rw [afterOrder_claim]
      rfl
    · rw [creates.orders]
      exact List.mem_append_right _ (List.mem_singleton_self _)
    · have none : create.before.db.orderItems.rows.filter (fun i => i.order == order.id) = [] := by
        refine List.filter_eq_nil_iff.mpr fun i old filed => ?_
        obtain ⟨core, there, same⟩ := (Run.ordering reached).owned.items i old
        obtain ⟨o, present, rfl⟩ := List.mem_map.mp there
        exact (creates.fresh o present).1 (same.trans (beq_iff_eq.mp filed))
      have all : new.filter (fun i => i.order == order.id) = new :=
        List.filter_eq_self.mpr fun i inside => by simp [mine i inside]
      rw [Db.linesOf, rows, List.filter_append]
      exact (congrArg₂ _ none all).trans (List.nil_append _)
  have whole : (storefront settings lib).Run s₀ ((earlier ++ [create]) ++ later) s := by
    rw [List.append_assoc]
    exact run
  obtain ⟨⟨pc, at_i, listed, claims⟩, ⟨o, present, body⟩, lines⟩ := Run.stands_since (reached.step taken) standing whole
  obtain ⟨_, items, coupons⟩ := cartView_items locked.viewed
  have inv := Run.ordering run
  have cents : ∀ item ∈ view.items, InCents item.unit_price_snapshot := by
    rw [items]
    exact lock.before.db.cartLines_cents req.tenant view.cart.id
  obtain ⟨subtotal, discount, grand⟩ := newOrder_amounts cents snapshot
  have named : o.id = order.id := congrArg OrderCore.id body
  have sub : o.subtotal = view.computeSubtotal := (congrArg OrderCore.subtotal body).trans subtotal
  have less : o.discount_total = view.discount := (congrArg OrderCore.discount_total body).trans discount
  have total : o.grand_total = view.computeSubtotal - view.discount := (congrArg OrderCore.grand_total body).trans grand
  have itemized : s.db.linesOf o.id = new := named ▸ lines
  obtain ⟨_, before⟩ := (reached.reached lock inside).2
  have known := Run.coupons_known before view.cart (activeCart_some locked.active).1
  refine ⟨lock, List.mem_append_left _ inside, locks, o, present, named, ?_⟩
  exact {
    active := locked.active
    items := by rw [itemized, sales, items]
    subtotal := by rw [itemized, sales_total sales, sub]
    grand_total := by rw [total, sub, less]
    discount_total := by
      rw [less, sub, CartView.discount, coupons]
      rfl
    counted := held.counts known (activeCart_some locked.active).2.1 done
    reserved := fun product => by
      rw [← listed, named]
      exact inv.owned.reserves inv.one inv.lined at_i claims product
    paid := fun p billed names => inv.priced p billed o present names }

namespace Sample

def tenOff : CouponCreate :=
  { code := "TEN", discount_type := .percentage, discount_value := 10, customer_type_restriction := .any }

-- Between the phases the mug gets dearer, the coupon better, and the customer begins another cart.
def bargaining : List Event :=
  filling ++ [.createCoupon 1 80 tenOff, shopper (.applyCoupon "TEN")] ++ calling [.find, .lock] ++
    [.run (.patchProduct 1 30 { price := some 12 }), .shopper 1 10 (.addItem 30 1) (90 + ·)] ++
    (blocks [.validate, .reserve]).map .run ++
    [.patchCoupon 1 80 { discount_value := some 50 }, .run (.tick 60), .run (.expire .plain 1060)] ++
    (blocks [.create, .resolve, .insertPayment]).map .run

def afterBargaining : Sys := (floor.exec opening bargaining).get (by decide +kernel)

theorem bargaining_runs : floor.exec opening bargaining = some afterBargaining := (Option.some_get _).symm

example : afterBargaining.db.orders.rows.map (fun o => (o.subtotal, o.discount_total, o.grand_total)) = [(20, 2, 18)] ∧
    afterBargaining.db.payments.rows.map Payment.amount = [18] := by decide +kernel

end Sample

theorem order_from_one_snapshot_bargaining : ∃ moves, Sample.floor.Run Sample.opening moves Sample.afterBargaining ∧
    OrdersFromOneCart 0 moves Sample.afterBargaining := by
  have passed : Sample.floor.passes (beside 0) Sample.opening Sample.bargaining = true := by decide +kernel
  obtain ⟨moves, run, undisturbed⟩ := Machine.exec_passes Sample.opening_opens Sample.bargaining_runs passed
  exact ⟨moves, run, order_from_one_snapshot Sample.settings Sample.library run undisturbed⟩

end Storefront
