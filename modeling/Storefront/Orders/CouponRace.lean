import Storefront.Locking.Sessions
import Storefront.Orders.CouponUse

set_option autoImplicit false

/-!
# The order transaction, statement by statement

`_create_order` counts each applied coupon under its row lock before it inserts the order.
-/

namespace Storefront

open Relational Transition Locking

abbrev CouponRow (_ : Id) := Option Coupon

abbrev OrderProgram := Program Id CouponRow Order Exn

def couponVisible (tenant : Id) (row : Option Coupon) : Bool := row.any fun c => c.tenant == tenant

def counts (row : Option Coupon) : Option Coupon :=
  row.map fun c => { c with uses_count := c.uses_count + 1 }

/-- One call, with the applied coupons of its cart in the order the database returns
them. `refused` is what the database raises at the inserts, if it does. -/
structure Block where
  req : Request
  oracle : Oracle
  view : CartView
  coupons : List Id
  refused : Option Exn
  distinct : coupons.Nodup

namespace Block

variable (b : Block)

-- What follows `select_for_update().get(id=...)`.
def useLocked (tenant id : Id) (next : OrderProgram) : Option Coupon → OrderProgram
  | none => .raise (.doesNotExist "Coupon")
  | some locked =>
    if locked.exhausted then
      .raise (.couponExhausted s!"Coupon {locked.code} reached its usage limit during checkout")
    else .update id (couponVisible tenant) (fun row => .ok (counts row)) next

def useOne (tenant : Id) (next : OrderProgram) (id : Id) : OrderProgram :=
  .select id (couponVisible tenant) false fun row => useLocked tenant id next row.join

def useCoupons (tenant : Id) (next : OrderProgram) : List Id → OrderProgram
  | [] => next
  | id :: rest => useOne tenant (useCoupons tenant next rest) id

-- The statements after the coupons.
def placing : Outcome Order := do
  let shipping ← snapshotOf b.view.shippingAddress
  let billing ← snapshotOf b.view.billingAddress
  let order := newOrder b.req b.oracle b.view shipping billing
  fits order.idempotency_key 128
  match b.refused with
  | none => return order
  | some e => throw e

-- _create_order
def create : OrderProgram :=
  useCoupons b.req.tenant
    (match b.placing with
      | .ok order => .insert order .commit
      | .error e => .raise e)
    b.coupons

end Block

def unused (_ : Id) (row : Option Coupon) : Option Coupon := row.map fun c => { c with uses_count := 0 }

theorem couponVisible_unused {tenant id : Id} {row row' : Option Coupon}
    (same : unused id row = unused id row') : couponVisible tenant row = couponVisible tenant row' := by
  have shown (row : Option Coupon) : couponVisible tenant row = couponVisible tenant (unused id row) := by
    cases row <;> rfl
  rw [shown row, shown row', same]

@[simp] theorem counts_unused (id : Id) (row : Option Coupon) : unused id (counts row) = unused id row := by
  cases row <;> rfl

namespace Block

variable {b : Block}

theorem useLocked_disciplined {tenant id : Id} {next : OrderProgram} (good : next.Disciplined unused)
    (locked : Option Coupon) : (useLocked tenant id next locked).Disciplined unused := by
  cases locked with
  | none => trivial
  | some locked =>
    have counted : (Program.update id (couponVisible tenant) (fun row => .ok (counts row)) next :
        OrderProgram).Disciplined unused := by
      refine ⟨fun _ _ => couponVisible_unused, fun row row' set => ?_, good⟩
      cases set
      exact counts_unused id row
    by_cases full : locked.exhausted = true
    · rw [useLocked, if_pos full]
      trivial
    · rw [useLocked, if_neg full]
      exact counted

theorem useCoupons_disciplined {tenant : Id} {next : OrderProgram} (good : next.Disciplined unused) (ids : List Id) :
    (useCoupons tenant next ids).Disciplined unused := by
  induction ids with
  | nil => exact good
  | cons id rest ih => exact ⟨rfl, fun _ _ => couponVisible_unused, fun row => useLocked_disciplined ih row.join⟩

theorem create_disciplined (b : Block) : b.create.Disciplined unused := by
  refine useCoupons_disciplined ?_ _
  cases b.placing <;> trivial

def Usable (tenant : Id) (row : Option Coupon) : Prop :=
  ∃ c, row = some c ∧ c.tenant = tenant ∧ c.exhausted = false

theorem useCoupons_alone {tenant : Id} {next : OrderProgram} {base : ∀ id, CouponRow id} {ids : List Id}
    {work : Work Id CouponRow} {rows : List Order} {done : Work Id CouponRow × List Order}
    (distinct : ids.Nodup) (ends : (useCoupons tenant next ids).alone base work rows = .ok done) :
    ∃ after, next.alone base after rows = .ok done ∧ (∀ id ∈ ids, Usable tenant (overlay work base id)) ∧
      ∀ id, overlay after base id =
        if id ∈ ids then counts (overlay work base id) else overlay work base id := by
  induction ids generalizing work with
  | nil => exact ⟨work, ends, by simp, fun id => by simp⟩
  | cons id rest ih =>
    obtain ⟨fresh, distinct⟩ := List.nodup_cons.mp distinct
    simp only [useCoupons, useOne, Program.alone] at ends
    cases seen : couponVisible tenant (overlay work base id) with
    | false =>
      rw [if_neg (by simp [seen])] at ends
      cases ends
    | true =>
      rw [if_pos seen] at ends
      rcases Option.eq_none_or_eq_some (overlay work base id) with row | ⟨locked, row⟩
      · rw [row] at seen
        cases seen
      · have owned : locked.tenant = tenant := by simpa [couponVisible, row] using seen
        rw [row] at ends
        simp only [Option.join_some, useLocked] at ends
        by_cases full : locked.exhausted = true
        · rw [if_pos full] at ends
          cases ends
        · have own := overlay_update work base id (some locked)
          rw [if_neg full, Program.alone, own, Function.update_self, if_pos (by simp [couponVisible, owned])] at ends
          simp only [Function.update_idem] at ends
          obtain ⟨after, runs, usable, shows⟩ := ih distinct ends
          have shown := overlay_update work base id (counts (some locked))
          rw [shown] at usable shows
          refine ⟨after, runs, fun other inside => ?_, fun other => ?_⟩
          · rcases List.mem_cons.mp inside with rfl | later
            · exact ⟨locked, row, owned, by simpa using full⟩
            · have apart : other ≠ id := fun same => fresh (same ▸ later)
              simpa [apart] using usable other later
          · rw [shows]
            by_cases here : other = id
            · subst here
              simp [fresh, row]
            · simp [here]

theorem create_alone {base : ∀ id, CouponRow id} {work : Work Id CouponRow} {rows : List Order}
    (ends : b.create.alone base (fun _ => none) [] = .ok (work, rows)) :
    (∀ id ∈ b.coupons, Usable b.req.tenant (base id)) ∧
      (∀ id, overlay work base id = if id ∈ b.coupons then counts (base id) else base id) ∧
      ∃ order, b.placing = .ok order ∧ rows = [order] := by
  obtain ⟨after, runs, usable, shows⟩ := useCoupons_alone b.distinct ends
  cases placed : b.placing with
  | error e =>
    rw [placed] at runs
    cases runs
  | ok order =>
    rw [placed] at runs
    cases runs
    exact ⟨usable, shows, order, rfl, rfl⟩

theorem find_visible {coupons : Table Coupon} {tenant id : Id} :
    coupons.rows.find? (fun c => c.tenant == tenant && c.id == id) =
      if couponVisible tenant (coupons.get id) then coupons.get id else none := by
  refine (coupons.find_key (fun c => c.tenant == tenant) id).trans ?_
  cases coupons.get id <;> simp [couponVisible, Option.filter]

theorem useCoupon_alone {tenant : Id} {next : OrderProgram} {base : ∀ id, CouponRow id} {applied : AppliedCoupon}
    {db : Db} {work : Work Id CouponRow} {rows : List Order} (seen : overlay work base = db.coupons.get) :
    (∀ db', useCoupon tenant db applied = .ok db' → ∃ after, overlay after base = db'.coupons.get ∧
      (useOne tenant next applied.coupon).alone base work rows = next.alone base after rows) ∧
    (∀ e, useCoupon tenant db applied = .error e →
      (useOne tenant next applied.coupon).alone base work rows = .error e) := by
  simp only [useOne, Program.alone, seen, useCoupon]
  rw [find_visible]
  cases shown : couponVisible tenant (db.coupons.get applied.coupon) with
  | false => simp [orRaise, bind, Except.bind, useLocked, Program.alone]
  | true =>
    rcases Option.eq_none_or_eq_some (db.coupons.get applied.coupon) with row | ⟨locked, row⟩
    · simp [row, couponVisible] at shown
    · by_cases full : locked.exhausted = true
      · simp [row, orRaise, require, bind, Except.bind, useLocked, Program.alone, full]
      · have owned : locked.tenant = tenant := by simpa [couponVisible, row] using shown
        have own := overlay_update work base applied.coupon (some locked)
        have counted := overlay_update work base applied.coupon (counts (some locked))
        rw [seen] at counted
        replace counted := counted.trans (modifyCoupons_get row owned).symm
        simp only [row, if_true, orRaise, require, full, bind, Except.bind, useLocked, Option.join_some]
        refine ⟨fun db' done => ?_, fun e raised => by cases raised⟩
        cases done
        refine ⟨_, counted, ?_⟩
        rw [if_neg (by simp), Program.alone, own, Function.update_self, if_pos (by simp [couponVisible, owned])]
        simp only [Function.update_idem]

theorem useCoupons_foldlM {tenant : Id} {next : OrderProgram} {base : ∀ id, CouponRow id} {l : List AppliedCoupon}
    {db : Db} {work : Work Id CouponRow} {rows : List Order} (seen : overlay work base = db.coupons.get) :
    (∀ db', l.foldlM (useCoupon tenant) db = .ok db' → ∃ after, overlay after base = db'.coupons.get ∧
      (useCoupons tenant next (l.map AppliedCoupon.coupon)).alone base work rows = next.alone base after rows) ∧
    (∀ e, l.foldlM (useCoupon tenant) db = .error e →
      (useCoupons tenant next (l.map AppliedCoupon.coupon)).alone base work rows = .error e) := by
  induction l generalizing db work with
  | nil =>
    refine ⟨fun db' done => ?_, fun e raised => by cases raised⟩
    obtain rfl : db = db' := by simpa using done
    exact ⟨work, seen, rfl⟩
  | cons applied rest ih =>
    obtain ⟨uses, raises⟩ := @useCoupon_alone tenant (useCoupons tenant next (rest.map AppliedCoupon.coupon)) base
      applied db work rows seen
    rw [List.foldlM_cons, List.map_cons, useCoupons]
    constructor
    · intro db' done
      obtain ⟨mid, first, tail⟩ := bind_eq_ok.mp done
      obtain ⟨middle, shows, runs⟩ := uses mid first
      obtain ⟨after, ends, later⟩ := (ih shows).1 db' tail
      exact ⟨after, ends, runs.trans later⟩
    · intro e raised
      rcases bind_eq_error.mp raised with first | ⟨mid, first, tail⟩
      · exact raises e first
      · obtain ⟨middle, shows, runs⟩ := uses mid first
        exact runs.trans ((ih shows).2 e tail)

-- uniq_coupon_per_cart
theorem applied_nodup (db : Db) (tenant cart : Id) : ((db.appliedTo tenant cart).map AppliedCoupon.coupon).Nodup := by
  refine List.Nodup.map_on (fun a inside a' inside' same => ?_) (db.appliedCoupons.nodup.filter _)
  obtain ⟨left, at_⟩ := List.mem_filter.mp inside
  obtain ⟨right, at_'⟩ := List.mem_filter.mp inside'
  simp only [Bool.and_eq_true, beq_iff_eq] at at_ at_'
  exact db.appliedCoupons.eq_of_entry (e := .pair cart a.coupon) left right
    (by simp [Schema.entries, at_.2]) (by simp [Schema.entries, at_'.2, same])

def call (req : Request) (oracle : Oracle) (view : CartView) (db : Db) (refused : Option Exn) : Block :=
  { req, oracle, view, coupons := (db.appliedTo req.tenant view.cart.id).map AppliedCoupon.coupon, refused
    distinct := applied_nodup db req.tenant view.cart.id }

section Call

variable {req : Request} {oracle : Oracle} {view : CartView} {db : Db}

-- What the block does once its coupons are counted, `refused` standing for the inserts.
theorem createOrder_placing :
    (∀ order db', createOrder req oracle view db = .ok (order, db') → ∃ used,
      (db.appliedTo req.tenant view.cart.id).foldlM (useCoupon req.tenant) db = .ok used ∧
      used.coupons = db'.coupons ∧ (call req oracle view db none).placing = .ok order) ∧
    (∀ e, createOrder req oracle view db = .error e →
      (db.appliedTo req.tenant view.cart.id).foldlM (useCoupon req.tenant) db = .error e ∨ ∃ used refused,
        (db.appliedTo req.tenant view.cart.id).foldlM (useCoupon req.tenant) db = .ok used ∧
        (call req oracle view db refused).placing = .error e) := by
  constructor
  · intro order db' done
    simp only [createOrder, bind_eq_ok, pure_eq_ok, Prod.mk.injEq, Db.insertOrder, stored_eq_ok] at done
    obtain ⟨used, counted, shipping, ships, billing, bills, _, fitted, _, ⟨_, _, rfl⟩, last, listed, rfl, rfl⟩ := done
    refine ⟨used, counted, by rw [(createOrderItems_lines listed).frame], ?_⟩
    simp only [placing, bind_eq_ok]
    exact ⟨shipping, ships, billing, bills, _, fitted, rfl⟩
  · intro e raised
    simp only [createOrder, bind_eq_error] at raised
    rcases raised with counting | ⟨used, counted, rest⟩
    · exact .inl counting
    · refine .inr ⟨used, some e, counted, ?_⟩
      simp only [placing, bind_eq_error]
      rcases rest with ships | ⟨shipping, ships, bills | ⟨billing, bills, long | ⟨_, fitted, _⟩⟩⟩
      · exact .inl ships
      · exact .inr ⟨shipping, ships, .inl bills⟩
      · exact .inr ⟨shipping, ships, .inr ⟨billing, bills, .inl long⟩⟩
      · exact .inr ⟨shipping, ships, .inr ⟨billing, bills, .inr ⟨_, fitted, rfl⟩⟩⟩

/-- The program, alone, ends as the call of the model does, whatever the database
refuses. -/
theorem createOrder_alone :
    (∀ order db', createOrder req oracle view db = .ok (order, db') → ∃ work,
      overlay work db.coupons.get = db'.coupons.get ∧
      (call req oracle view db none).create.alone db.coupons.get (fun _ => none) [] = .ok (work, [order])) ∧
    (∀ e, createOrder req oracle view db = .error e → ∃ refused,
      (call req oracle view db refused).create.alone db.coupons.get (fun _ => none) [] = .error e) := by
  have loops (refused : Option Exn) := @useCoupons_foldlM req.tenant
    (match (call req oracle view db refused).placing with
      | .ok order => .insert order .commit
      | .error e => .raise e) db.coupons.get (db.appliedTo req.tenant view.cart.id) db (fun _ => none) [] rfl
  obtain ⟨commits, raises⟩ := @createOrder_placing req oracle view db
  constructor
  · intro order db' done
    obtain ⟨used, counted, same, placed⟩ := commits order db' done
    obtain ⟨after, shows, runs⟩ := (loops none).1 used counted
    refine ⟨after, same ▸ shows, runs.trans ?_⟩
    rw [placed]
    rfl
  · intro e raised
    rcases raises e raised with counting | ⟨used, refused, counted, placed⟩
    · exact ⟨none, (loops none).2 e counting⟩
    · obtain ⟨after, _, runs⟩ := (loops refused).1 used counted
      refine ⟨refused, runs.trans ?_⟩
      rw [placed]
      rfl

end Call

end Block

section Race

abbrev CouponRace (τ : Type) := Sessions τ Id CouponRow Order Exn

variable {τ : Type} (blocks : τ → Block)

def usedBy (calls : List τ) (id : Id) : Int := (calls.countP fun t => id ∈ (blocks t).coupons : Nat)

def creating [DecidableEq τ] : Machine (CouponRace τ) (Action τ) := Sessions.machine fun t => (blocks t).create

/-- The committed blocks, and no others, count their coupons, within every cap, and
place one order each; the steps of any other block write nothing. -/
structure Capped (s₀ : CouponRace τ) (moves : List (Move (CouponRace τ) (Action τ))) (s : CouponRace τ) : Prop where
  uses : ∀ id, s.base id = (s₀.base id).map fun c => { c with uses_count := c.uses_count + usedBy blocks s.log id }
  capped : ∀ id c₀ c cap, s₀.base id = some c₀ → s.base id = some c → c₀.max_uses = some cap →
    c₀.uses_count ≤ cap → c.uses_count ≤ cap
  orders : ∃ orders, s.table = s₀.table ++ orders ∧
    List.Forall₂ (fun t order => (blocks t).placing = .ok order) s.log orders
  once : s.log.Nodup
  committed : ∀ t, t ∈ s.log ↔ s.ended t = some .committed
  undone : ∀ t, s.ended t ≠ some .committed → ∀ move ∈ moves, move.label = .run t ∨ move.label = .kill t →
    move.after.base = move.before.base ∧ move.after.table = move.before.table

variable {blocks}

theorem serial_uses {base₀ base : ∀ id, CouponRow id} {table₀ table : List Order} {log : List τ}
    (serial : Serial (fun t => (blocks t).create) base₀ table₀ log base table) :
    (∀ id, base id = (base₀ id).map fun c => { c with uses_count := c.uses_count + usedBy blocks log id }) ∧
      (∀ id c₀ c cap, base₀ id = some c₀ → base id = some c → c₀.max_uses = some cap →
        c₀.uses_count ≤ cap → c.uses_count ≤ cap) ∧
      ∃ orders, table = table₀ ++ orders ∧ List.Forall₂ (fun t order => (blocks t).placing = .ok order) log orders := by
  induction serial with
  | nil =>
    refine ⟨fun id => by simp [usedBy], fun id c₀ c cap row row' _ within => ?_, [], by simp, .nil⟩
    rw [row] at row'
    exact Option.some.inj row' ▸ within
  | @snoc log base table t work rows before alone ih =>
    obtain ⟨counted, capped, orders, listed, placed⟩ := ih
    obtain ⟨usable, shows, order, ends, rfl⟩ := Block.create_alone alone
    have after (id : Id) : overlay work base id = (base₀ id).map fun c =>
        { c with uses_count := c.uses_count + usedBy blocks (log ++ [t]) id } := by
      rw [shows, counted]
      by_cases inside : id ∈ (blocks t).coupons
      · cases base₀ id <;> simp [usedBy, inside, counts, add_assoc]
      · cases base₀ id <;> simp [usedBy, inside]
    refine ⟨after, fun id c₀ c cap row row' limit within => ?_, orders ++ [order], ?_, ?_⟩
    · rw [shows] at row'
      by_cases inside : id ∈ (blocks t).coupons
      · rw [if_pos inside] at row'
        obtain ⟨c', seen, _, open_⟩ := usable id inside
        have limit' : c'.max_uses = some cap := by
          rw [counted, row] at seen
          obtain rfl := Option.some.inj seen
          exact limit
        rw [seen] at row'
        obtain rfl := Option.some.inj row'
        simp only [Coupon.exhausted, limit', decide_eq_false_iff_not] at open_
        simp only
        omega
      · rw [if_neg inside] at row'
        exact capped id c₀ c cap row row' limit within
    · rw [listed, List.append_assoc]
    · exact List.rel_append placed (.cons ends .nil)

variable [DecidableEq τ]

/-- Any interleaving of order transactions keeps the caps of the coupons. -/
theorem coupons_capped {s₀ s : CouponRace τ} {moves : List (Move (CouponRace τ) (Action τ))}
    (run : (creating blocks).Run s₀ moves s) : Capped blocks s₀ moves s := by
  obtain ⟨_, logged⟩ := Sessions.serializable (fun t => (blocks t).create_disciplined) run
  obtain ⟨uses, capped, orders⟩ := serial_uses logged.serial
  exact ⟨uses, capped, orders, logged.nodup, logged.mem, fun t => Sessions.unwritten run⟩

end Race

namespace Sample

-- Two carts share a coupon with one use; the second also has another.
def block (second : Bool) : Block where
  req := request
  oracle := oracle .create
  view :=
    { cart, customer, items := [item], products := [product], coupons := [coupon]
      shippingAddress := some address, billingAddress := some address, paymentMethod := some card
      positive := by decide +kernel, distinct := by decide +kernel }
  coupons := if second then [92, 90] else [90]
  refused := none
  distinct := by cases second <;> decide +kernel

def couponRace : CouponRace Bool where
  base id := if id = 90 then some { coupon with max_uses := some 1 } else
    if id = 92 then some { coupon with id := 92, code := "EXTRA" } else none
  table := []
  owner _ := none
  session second := .start (block second).create
  ended _ := none
  log := []

-- The second counts its own coupon first, then waits for the shared one.
def couponActions : List (Action Bool) :=
  [.run false, .run true, .run true, .run false, .run false, .run false, .run true, .run true]

def couponsRaced : CouponRace Bool := ((creating block).exec couponRace couponActions).get (by decide +kernel)

end Sample

theorem coupons_capped_shared : ∃ moves, (creating Sample.block).Run Sample.couponRace moves Sample.couponsRaced ∧
    Sample.couponsRaced.log = [false] ∧
    Sample.couponsRaced.ended true =
      some (.raised (.couponExhausted "Coupon TEN reached its usage limit during checkout")) ∧
    Capped Sample.block Sample.couponRace moves Sample.couponsRaced := by
  have initial : (creating Sample.block).Start Sample.couponRace := ⟨fun _ => rfl, fun _ => rfl, fun _ => rfl, rfl⟩
  have ends : (creating Sample.block).exec Sample.couponRace Sample.couponActions = some Sample.couponsRaced :=
    (Option.some_get _).symm
  obtain ⟨moves, run⟩ := Machine.exec_run initial ends
  exact ⟨moves, run, by decide +kernel, by decide +kernel, coupons_capped run⟩

end Storefront
