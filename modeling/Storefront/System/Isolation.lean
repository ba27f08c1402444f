import Storefront.Isolation.Checkouts
import Storefront.System.Idempotency

set_option autoImplicit false

/-!
# What one tenant can learn of the others

Two states with the same rows of a tenant, and the same request in both.
-/

namespace Storefront

open Relational Transition

structure Db.Tenanted (db : Db) : Prop where
  carts : ∀ c ∈ db.carts.rows, ∃ u ∈ db.customers.rows, u.id = c.customer ∧ u.tenant = c.tenant
  items : ∀ i ∈ db.cartItems.rows, ∃ c ∈ db.carts.rows, c.id = i.cart ∧ c.tenant = i.tenant
  products : ∀ i ∈ db.cartItems.rows, ∃ p ∈ db.products.rows, p.id = i.product ∧ p.tenant = i.tenant
  applied : ∀ a ∈ db.appliedCoupons.rows, ∃ c ∈ db.carts.rows, c.id = a.cart ∧ c.tenant = a.tenant
  methods : ∀ m ∈ db.paymentMethods.rows, ∀ g ∈ m.gateway_config,
    ∃ c ∈ db.gatewayConfigs.rows, c.id = g ∧ c.tenant = m.tenant
  payments : ∀ p ∈ db.payments.rows, ∀ g ∈ p.gateway_config,
    ∃ c ∈ db.gatewayConfigs.rows, c.id = g ∧ c.tenant = p.tenant

def Db.HasCustomer (tenant customer : Id) (db : Db) : Prop :=
  ∃ u ∈ db.customers.rows, u.id = customer ∧ u.tenant = tenant

namespace Db.Tenanted

variable {db : Db} {tenant : Id}

theorem customer_apart (tenanted : db.Tenanted) {customer : Id} (mine : db.HasCustomer tenant customer) :
    ∀ d ∈ (db.others tenant).carts.rows, d.customer ≠ customer := by
  intro d there same
  obtain ⟨present, out⟩ := List.mem_filter.mp there
  obtain ⟨v, placed, named, home⟩ := tenanted.carts d present
  obtain ⟨u, member, known, own⟩ := mine
  have one : v = u := db.customers.eq_of_key placed member (named.trans (same.trans known.symm))
  rw [← home, one, own] at out
  simp at out

theorem config_apart {config : Id} (mine : ∃ c ∈ db.gatewayConfigs.rows, c.id = config ∧ c.tenant = tenant) :
    ∀ c ∈ (db.others tenant).gatewayConfigs.rows, c.id ≠ config := by
  obtain ⟨c, member, rfl, own⟩ := mine
  exact key_apart member own

theorem cart_apart {cart owner : Id} (away : (owner != tenant) = true)
    (kept : ∃ c ∈ db.carts.rows, c.id = cart ∧ c.tenant = owner) :
    ∃ c ∈ (db.others tenant).carts.rows, c.id = cart := by
  obtain ⟨c, member, named, rfl⟩ := kept
  exact ⟨c, List.mem_filter.mpr ⟨member, away⟩, named⟩

theorem beside (tenanted : db.Tenanted) : db.Beside tenant (db.others tenant) where
  others := rfl
  items i there := by
    obtain ⟨member, away⟩ := List.mem_filter.mp there
    exact cart_apart away (tenanted.items i member)
  applied a there := by
    obtain ⟨member, away⟩ := List.mem_filter.mp there
    exact cart_apart away (tenanted.applied a member)
  carts c member own := tenanted.customer_apart (own ▸ tenanted.carts c member)
  methods m member own g saved := config_apart (own ▸ tenanted.methods m member g saved)
  payments p member own g saved := config_apart (own ▸ tenanted.payments p member g saved)

theorem lines (tenanted : db.Tenanted) : db.LinesKnown tenant :=
  fun i member own => own ▸ tenanted.products i member

end Db.Tenanted

section Keys

variable {settings : Settings} {req : Request} {oracle : Oracle} {db : Db} {pc : Pc}

theorem map_ok {α : Type} {x : Outcome α} (done : (fun _ => ()) <$> x = .ok ()) : ∃ a, x = .ok a := by
  cases x with
  | ok a => exact ⟨a, rfl⟩
  | error e => cases done

theorem inserts_own (settings : Settings) (inserts : pc.Inserts req oracle db) :
    pc.Taken req ((advance settings req oracle db pc).2.1.own req.tenant) := by
  have billed {row : Payment} {db' : Db} (mine : row.tenant = req.tenant) (done : createPayment row db = .ok db') :
      (db'.own req.tenant).PaymentKey row.idempotency_key := by
    obtain ⟨_, payments, added, rfl⟩ := createPayment_eq_ok.mp done
    exact ⟨row, List.mem_filter.mpr ⟨by simp [Table.insert_rows added], by simp [mine]⟩, rfl⟩
  cases pc with
  | create view reservations =>
    obtain ⟨⟨order, db'⟩, done⟩ := map_ok (Option.some.inj inserts)
    simp only [advance, done]
    have creates := createOrder_creates (guard_ok done)
    exact ⟨order, List.mem_filter.mpr ⟨by simp [creates.orders], by simp [creates.tenant]⟩, creates.key⟩
  | invoice placed =>
    obtain ⟨db', done⟩ := map_ok (Option.some.inj inserts)
    simp only [advance, done]
    exact @billed (invoicePayment req oracle placed) db' rfl (guard_ok done)
  | insertPayment placed config =>
    obtain ⟨db', done⟩ := map_ok (Option.some.inj inserts)
    simp only [advance, done]
    exact @billed (cardPayment req oracle placed config) db' rfl (guard_ok done)
  | _ => cases inserts

theorem entry_once {β : Type} [Schema β] {t : Table β} {tenant : Id} {r r' : β} (owner : β → Id) (e : Schema.Entry β)
    (own : r ∈ (t.part fun r => owner r == tenant).rows)
    (foreign : r' ∈ (t.part fun r => owner r != tenant).rows) (listed : e ∈ Schema.entries r)
    (listed' : e ∈ Schema.entries r') : False := by
  obtain ⟨member, inside⟩ := List.mem_filter.mp own
  obtain ⟨member', outside⟩ := List.mem_filter.mp foreign
  rw [t.eq_of_entry member' member listed' listed, beq_iff_eq.mp inside] at outside
  simp at outside

theorem taken_once (own : pc.Taken req (db.own req.tenant)) (foreign : pc.Taken req (db.others req.tenant)) :
    False := by
  have billed {key : String} (own : (db.own req.tenant).PaymentKey key)
      (foreign : (db.others req.tenant).PaymentKey key) : False := by
    obtain ⟨p, here, mine⟩ := own
    obtain ⟨p', there, theirs⟩ := foreign
    exact entry_once Payment.tenant (IndexEntry.text key) here there (by simp [Schema.entries, mine])
      (by simp [Schema.entries, theirs])
  cases pc with
  | create =>
    obtain ⟨o, here, mine⟩ := own
    obtain ⟨o', there, theirs⟩ := foreign
    exact entry_once Order.tenant (IndexEntry.text req.idempotency_key) here there
      (by simp [Schema.entries, mine]) (by simp [Schema.entries, theirs])
  | invoice | insertPayment => exact billed own foreign
  | _ => exact own

variable {oracle : Point → Oracle} {ends : Except Exn CheckoutResult × Db}

theorem Alone.keeps (alone : Alone settings req oracle pc db ends) :
    (∀ o ∈ db.orders.rows, ∃ o' ∈ ends.2.orders.rows, o'.tenant = o.tenant ∧ o'.idempotency_key = o.idempotency_key) ∧
      db.skeleton.payments ⊆ ends.2.skeleton.payments := by
  induction alone with
  | done | crashed => exact ⟨fun o member => ⟨o, member, rfl, rfl⟩, fun _ => id⟩
  | @step pc pc' db db' calls ends running taken rest ih =>
    -- The block as a step of a system with this call only; what a webhook library does is no matter.
    let lib : WebhookLibrary := ⟨fun _ => none, id, fun _ _ _ => .ok true, fun _ => ""⟩
    let s : Sys :=
      { db, now := (oracle pc.point).now, calls := fun _ => some ⟨req, pc⟩, queue := [], candidates := [], marks := []
        refunds := [], gatewayLog := [] }
    have change : Change lib s (.advance 0 (oracle pc.point)) db' := advance_change rfl taken
    obtain ⟨orders, payments⟩ := ih
    refine ⟨fun o member => ?_, fun p known => payments (change.payments known)⟩
    obtain ⟨o', there, body⟩ := change.shape.order_kept member
    obtain ⟨o'', standing, tenant, key⟩ := orders o' there
    exact ⟨o'', standing, tenant.trans (congrArg OrderCore.tenant body),
      key.trans (congrArg OrderCore.idempotency_key body)⟩

theorem Alone.keeps_own {last : Pc} (alone : Alone settings req oracle pc db ends)
    (own : last.Taken req (db.own req.tenant)) : last.Taken req (ends.2.own req.tenant) := by
  have billed {key : String} (own : (db.own req.tenant).PaymentKey key) : (ends.2.own req.tenant).PaymentKey key := by
    obtain ⟨p, here, mine⟩ := own
    obtain ⟨member, inside⟩ := List.mem_filter.mp here
    obtain ⟨p', there, core⟩ := List.mem_map.mp (alone.keeps.2 (List.mem_map_of_mem member))
    have tenant : p'.tenant = p.tenant := congrArg PaymentCore.tenant core
    exact ⟨p', List.mem_filter.mpr ⟨there, tenant ▸ inside⟩, (congrArg PaymentCore.idempotency_key core).trans mine⟩
  cases last with
  | create =>
    obtain ⟨o, here, mine⟩ := own
    obtain ⟨member, inside⟩ := List.mem_filter.mp here
    obtain ⟨o', there, tenant, key⟩ := alone.keeps.1 o member
    exact ⟨o', List.mem_filter.mpr ⟨there, tenant ▸ inside⟩, key.trans mine⟩
  | invoice | insertPayment => exact billed own
  | _ => exact own

theorem Visits.leaves {last : Pc} {mid : Db} (visits : Visits settings req oracle pc db last mid)
    (inserts : last.Inserts req (oracle last.point) mid) (alone : Alone settings req oracle pc db ends) :
    last.Taken req (ends.2.own req.tenant) := by
  have tail := visits.ends alone
  cases tail with
  | done | crashed => cases inserts
  | step running taken rest =>
    have own := inserts_own settings inserts
    rw [taken] at own
    exact rest.keeps_own own

end Keys

/-- What a customer can ask of a tenant's storefront. -/
inductive StorefrontOp
  | cart (request : CartRequest) (now : Time) (draw : Nat → Id)
  | checkout (idempotency_key : String) (expected_version : Option Int) (oracle : Point → Oracle)
  | cancelOrder (order : Id)

inductive StorefrontAnswer
  | cart (answer : CartAnswer)
  | checkout (result : CheckoutResult)
  | order (order : Order)

namespace StorefrontOp

-- transaction.atomic
def atomic (body : Db → Outcome (StorefrontAnswer × Db)) (db : Db) : Except Exn StorefrontAnswer × Db :=
  match body db with
  | .ok (answer, db') => (.ok answer, db')
  | .error e => (.error e, db)

-- cancel_order returns the row it saved.
def cancelling (tenant customer order : Id) (db : Db) : Outcome (StorefrontAnswer × Db) := do
  let db ← Storefront.cancelOrder tenant customer order db
  let order ← db.order tenant order
  return (.order order, db)

def run (settings : Settings) (tenant customer : Id) (db : Db) : StorefrontOp → Except Exn StorefrontAnswer × Db
  | cart request now draw => atomic (fun db => Prod.map .cart id <$> request.run tenant customer now draw db) db
  | checkout idempotency_key expected_version oracle =>
    Prod.map (StorefrontAnswer.checkout <$> ·) id
      (Storefront.checkout settings ⟨tenant, customer, idempotency_key, expected_version⟩ oracle db)
  | cancelOrder order => atomic (cancelling tenant customer order) db

def Draws (id : Id) : StorefrontOp → Prop
  | cart _ _ draw => ∃ k, draw k = id
  | checkout _ _ oracle => ∃ point k, (oracle point).draw k = id
  | cancelOrder _ => False

/-- From the first state, a checkout inserts a row under a key that another tenant of the second holds. -/
def Collides (settings : Settings) (tenant customer : Id) (x y : Db) : StorefrontOp → Prop
  | checkout idempotency_key expected_version oracle => ∃ last mid,
      Visits settings ⟨tenant, customer, idempotency_key, expected_version⟩ oracle .find x last mid ∧
        last.Inserts ⟨tenant, customer, idempotency_key, expected_version⟩ (oracle last.point) mid ∧
          last.Taken ⟨tenant, customer, idempotency_key, expected_version⟩ (y.others tenant)
  | _ => False

/-- The same answer or the same exception, and the same rows of the tenant afterwards. -/
def Same (settings : Settings) (tenant customer : Id) (x y : Db) (op : StorefrontOp) : Prop :=
  (op.run settings tenant customer x).1 = (op.run settings tenant customer y).1 ∧
    (op.run settings tenant customer x).2.own tenant = (op.run settings tenant customer y).2.own tenant

/-- The customer is the tenant's, as the middleware sees to, and uuid4 gives ids that no other tenant's row has. -/
structure Ready (tenant customer : Id) (db : Db) (op : StorefrontOp) : Prop where
  tenanted : db.Tenanted
  customer : db.HasCustomer tenant customer
  unused : ∀ id, op.Draws id → (db.others tenant).Unused id

section Same

variable {settings : Settings} {tenant customer : Id} {foreign foreign' x y solo : Db}

theorem atomic_same {body : Db → Outcome (StorefrontAnswer × Db)} (own : x.own tenant = y.own tenant)
    (left : Alike (Agrees tenant foreign) (body x) (body solo))
    (right : Alike (Agrees tenant foreign') (body y) (body solo)) :
    (atomic body x).1 = (atomic body y).1 ∧ (atomic body x).2.own tenant = (atomic body y).2.own tenant := by
  unfold atomic
  generalize body x = a at left ⊢
  generalize body y = b at right ⊢
  generalize body solo = c at left right
  cases left with
  | error e =>
    cases right
    exact ⟨rfl, own⟩
  | ok here =>
    cases right with
    | ok there => exact ⟨congrArg Except.ok (here.1.trans there.1.symm), here.2.own.symm.trans there.2.own⟩

theorem cart_same (own : x.own tenant = y.own tenant) {request : CartRequest} {now : Time} {draw : Nat → Id}
    (left : (cart request now draw).Ready tenant customer x) (right : (cart request now draw).Ready tenant customer y) :
    (cart request now draw).Same settings tenant customer x y := by
  have mapped {foreign : Db} (a b : CartAnswer × Db) (here : Agrees tenant foreign a b) :
      Agrees tenant foreign (Prod.map StorefrontAnswer.cart id a) (Prod.map .cart id b) :=
    ⟨congrArg StorefrontAnswer.cart here.1, here.2⟩
  have seen {z : Db} (ready : (cart request now draw).Ready tenant customer z) (same : x.own tenant = z.own tenant) :=
    (CartRequest.run_alike ⟨ready.tenanted.beside, same⟩ now (fun k => ready.unused _ ⟨k, rfl⟩)
      (ready.tenanted.customer_apart ready.customer) request).map mapped
  exact atomic_same own (seen left rfl) (seen right own)

theorem cancelOrder_same (own : x.own tenant = y.own tenant) {order : Id} (left : x.Tenanted) (right : y.Tenanted) :
    (cancelOrder order).Same settings tenant customer x y := by
  have seen {z : Db} (tenanted : z.Tenanted) (same : x.own tenant = z.own tenant) :
      Alike (Agrees tenant (z.others tenant)) (cancelling tenant customer order z)
        (cancelling tenant customer order (x.own tenant)) := by
    refine (cancelOrder_alike ⟨tenanted.beside, same⟩ customer order).bind fun a b here => ?_
    have read : b.order tenant order = a.order tenant order := by rw [here.own, Db.own_order]
    rw [read]
    exact Alike.after fun row _ => .pure ⟨rfl, here⟩
  exact atomic_same own (seen left rfl) (seen right own)

theorem checkout_same (own : x.own tenant = y.own tenant) {key : String} {version : Option Int}
    {oracle : Point → Oracle}
    (left : (checkout key version oracle).Ready tenant customer x)
    (right : (checkout key version oracle).Ready tenant customer y)
    (clear : ¬ (checkout key version oracle).Collides settings tenant customer x y)
    (clear' : ¬ (checkout key version oracle).Collides settings tenant customer y x) :
    (checkout key version oracle).Same settings tenant customer x y := by
  have pair : Pair ⟨tenant, customer, key, version⟩ (x.others tenant) (y.others tenant) .find x y :=
    ⟨own, left.tenanted.beside, right.tenanted.beside, left.tenanted.lines, right.tenanted.lines⟩
  obtain ⟨answer, rows⟩ := pair.alone (fun point k => left.unused _ ⟨point, k, rfl⟩)
    (fun point k => right.unused _ ⟨point, k, rfl⟩) (checkout_alone settings _ oracle x)
    (checkout_alone settings _ oracle y)
    (fun last mid visits inserts taken => clear ⟨last, mid, visits, inserts, taken⟩)
    fun last mid visits inserts taken => clear' ⟨last, mid, visits, inserts, taken⟩
  exact ⟨congrArg (StorefrontAnswer.checkout <$> ·) answer, rows⟩

theorem collides_apart {op : StorefrontOp} (right : op.Ready tenant customer y)
    (collides : op.Collides settings tenant customer x y) :
    (op.run settings tenant customer x).2.own tenant ≠ (op.run settings tenant customer y).2.own tenant := by
  intro same
  cases op with
  | cart | cancelOrder => exact collides
  | checkout key version oracle =>
    obtain ⟨last, mid, visits, inserts, taken⟩ := collides
    have own := visits.leaves inserts (checkout_alone settings ⟨tenant, customer, key, version⟩ oracle x)
    have ended := (checkout_alone settings ⟨tenant, customer, key, version⟩ oracle y).beside
      (fun point k => right.unused _ ⟨point, k, rfl⟩) right.tenanted.beside right.tenanted.lines
    change Db.own tenant (Storefront.checkout settings ⟨tenant, customer, key, version⟩ oracle x).2 =
      Db.own tenant (Storefront.checkout settings ⟨tenant, customer, key, version⟩ oracle y).2 at same
    rw [same] at own
    rw [← ended.others] at taken
    exact taken_once own taken

theorem free_keys {key : String} {version : Option Int} {oracle : Point → Oracle}
    (order : ¬ (y.others tenant).OrderKey key) (auth : ¬ (y.others tenant).PaymentKey (key ++ ":auth"))
    (po : ¬ (y.others tenant).PaymentKey (key ++ ":po")) :
    ¬ (checkout key version oracle).Collides settings tenant customer x y := by
  rintro ⟨last, _, _, _, taken⟩
  cases last with
  | create => exact order taken
  | invoice => exact po taken
  | insertPayment => exact auth taken
  | _ => exact taken

end Same

end StorefrontOp

namespace Sample

-- An order of another tenant.
def distant (key : String) : Order :=
  { id := 5, tenant := 2, customer := 6, cart := none, order_number := 1, status := .paid, subtotal := 30
    discount_total := 0, grand_total := 30, currency := "SAR"
    shipping_address := ⟨"SA", "Jeddah", "Corniche Road", "23415"⟩
    billing_address := ⟨"SA", "Jeddah", "Corniche Road", "23415"⟩, is_b2b := false, tax_id := "", payment_terms := ""
    payment_due_date := none, idempotency_key := key }

def beside (key : String) : Db :=
  { shop with orders := ⟨[distant key], by simp [Schema.entries, distant], by simp [Schema.check]⟩ }

def purchase : StorefrontOp := .checkout request.idempotency_key request.expected_version oracle

theorem draws_from (point : Point) (k : Nat) : 100 ≤ (oracle point).draw k := by
  cases point <;> exact Nat.le_trans (by decide) (Nat.le_add_right _ k)

theorem beside_own (key : String) : shop.own 1 = (beside key).own 1 := by
  have orders : (shop.own 1).orders = ((beside key).own 1).orders := Table.ext_rows rfl
  exact congrArg (fun t => { shop.own 1 with orders := t }) orders

theorem shop_ready : purchase.Ready 1 10 shop where
  tenanted := ⟨by decide +kernel, by decide +kernel, by decide +kernel, by decide +kernel, by decide +kernel,
    by decide +kernel⟩
  customer := ⟨customer, by decide +kernel, rfl, rfl⟩
  unused _ _ := by constructor <;> simp [Db.others, Db.part, shop, cart, item]

theorem beside_ready (key : String) : purchase.Ready 1 10 (beside key) where
  tenanted := { shop_ready.tenanted with }
  customer := shop_ready.customer
  unused := by
    rintro _ ⟨point, k, rfl⟩
    refine { shop_ready.unused _ ⟨point, k, rfl⟩ with orders := fun o there => ?_ }
    obtain rfl : o = distant key := List.mem_singleton.mp (List.mem_filter.mp there).1
    exact Nat.ne_of_lt (Nat.lt_of_lt_of_le (show 5 < 100 by decide) (draws_from point k))

end Sample

/-- The other tenants' rows show in what a request does exactly where a key of theirs refuses a row the tenant would
get beside the rows of the other state. -/
theorem tenants_do_not_interfere (settings : Settings) {tenant customer : Id} {x y : Db} (op : StorefrontOp)
    (own : x.own tenant = y.own tenant) (left : op.Ready tenant customer x) (right : op.Ready tenant customer y) :
    op.Same settings tenant customer x y ↔
      ¬ op.Collides settings tenant customer x y ∧ ¬ op.Collides settings tenant customer y x := by
  constructor
  · intro same
    exact ⟨fun collides => StorefrontOp.collides_apart right collides same.2,
      fun collides => StorefrontOp.collides_apart left collides same.2.symm⟩
  · rintro ⟨clear, clear'⟩
    cases op with
    | cart request now draw => exact StorefrontOp.cart_same own left right
    | checkout key version oracle => exact StorefrontOp.checkout_same own left right clear clear'
    | cancelOrder order => exact StorefrontOp.cancelOrder_same own left.tenanted right.tenanted

/-- Another tenant's order with another key does not show. -/
theorem purchase_beside_other_key : Sample.purchase.Same Sample.settings 1 10 Sample.shop (Sample.beside "k0") := by
  refine (tenants_do_not_interfere Sample.settings Sample.purchase (Sample.beside_own "k0") Sample.shop_ready
    (Sample.beside_ready "k0")).mpr ⟨StorefrontOp.free_keys ?_ ?_ ?_, StorefrontOp.free_keys ?_ ?_ ?_⟩ <;>
    simp [Db.OrderKey, Db.PaymentKey, Db.others, Db.part, Sample.beside, Sample.shop, Sample.distant, Sample.request]

/-- Another tenant's order with the same key does. -/
theorem purchase_beside_same_key :
    Sample.shop.own 1 = (Sample.beside "k1").own 1 ∧ Sample.purchase.Ready 1 10 Sample.shop ∧
    Sample.purchase.Ready 1 10 (Sample.beside "k1") ∧
    ¬ Sample.purchase.Same Sample.settings 1 10 Sample.shop (Sample.beside "k1") := by
  refine ⟨Sample.beside_own "k1", Sample.shop_ready, Sample.beside_ready "k1", fun same => ?_⟩
  have placed : (Sample.purchase.run Sample.settings 1 10 Sample.shop).1.toOption.isSome = true := by decide +kernel
  have refused : (Sample.purchase.run Sample.settings 1 10 (Sample.beside "k1")).1.toOption.isSome = false := by
    decide +kernel
  rw [same.1, refused] at placed
  cases placed

end Storefront
