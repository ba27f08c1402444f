import Storefront.System.PendingOrders

set_option autoImplicit false

/-!
# Paid orders and their stock
-/

namespace Storefront

open Relational Transition

def Db.committedFor (db : Db) (order product : Id) : Int :=
  ((db.reservations.rows.filter fun r =>
    r.order == some order && r.product == product && r.status == .committed).map
      InventoryReservation.quantity).sum

/-- An order that becomes PAID has its COMMITTED reservations, item by item. -/
def PaidWithStock (move : Move Sys Label) : Prop :=
  ∀ id, move.after.db.orderStatus id = some .paid → move.before.db.orderStatus id ≠ some .paid →
    ∀ item ∈ move.after.db.orderItems.rows, item.order = id →
      ∃ product, item.product = some product ∧ move.after.db.committedFor id product = item.quantity

-- Phase 6 is through, and no hold of the order was given back.
structure StockAtHand (db : Db) (o : Order) : Prop where
  linked : o.cart.isSome = true
  unreleased : ∀ r ∈ db.reservations.rows, r.order = some o.id → r.status ≠ .released

/-- An order that becomes PAID was linked, and none of its reservations was RELEASED. -/
def PaysHeld (move : Move Sys Label) : Prop :=
  ∀ o ∈ move.before.db.orders.rows, o.status ≠ .paid → move.after.db.orderStatus o.id = some .paid →
    StockAtHand move.before.db o

-- The stock of an invoiced order left when the cart was converted.
def Sys.Shipped (s : Sys) : Prop :=
  ∀ p ∈ s.db.payments.rows, p.gateway_config = none →
    ∀ r ∈ s.db.reservations.rows, r.order = some p.order → r.status ≠ .active

section Owners

variable {s : Sys} {i : Nat} {call : Call} {r : InventoryReservation} {id : Id}

theorem own_hold (member : r ∈ s.db.reservations.rows) (linked : r.order = some id)
    (mine : call.pc.claim.orderId = some id) :
    r.core ∈ (s.db.skeleton.own call.pc.claim.orderId call.pc.claim.reservations).holds := by
  refine List.mem_filter.mpr ⟨List.mem_map_of_mem member, ?_⟩
  simp [mine, InventoryReservation.core, linked]

theorem Sys.Owned.hold_listed (owned : s.Owned) (at_i : s.calls i = some call) (member : r ∈ s.db.reservations.rows)
    (linked : r.order = some id) (mine : call.pc.claim.orderId = some id) :
    r.id ∈ call.pc.claim.reservations ∧ r.tenant = call.req.tenant := by
  have registered := owned.registered i call at_i
  have inside := own_hold member linked mine
  refine ⟨?_, (registered.linked _ inside).1⟩
  rw [← registered.holds]
  exact List.mem_map_of_mem (f := HoldCore.id) inside

theorem Sys.Owned.hold_tenant (owned : s.Owned) {o : Order} (present : o ∈ s.db.orders.rows)
    (member : r ∈ s.db.reservations.rows) (linked : r.order = some o.id) : r.tenant = o.tenant := by
  obtain ⟨j, call, at_j, claimed⟩ := owned.owned o.core (List.mem_map_of_mem present)
  have mine : call.pc.claim.orderId = some o.id := congrArg (Option.map OrderCore.id) claimed
  have tenant := ((owned.registered j call at_j).mine o.core claimed).1
  exact (owned.hold_listed at_j member linked mine).2.trans tenant.symm

theorem Sys.Owned.payment_tenant (owned : s.Owned) {o : Order} (present : o ∈ s.db.orders.rows) {p : Payment}
    (member : p ∈ s.db.payments.rows) (filed : o.id = p.order) : p.tenant = o.tenant := by
  obtain ⟨j, call, at_j, claimed⟩ := owned.owned o.core (List.mem_map_of_mem present)
  have mine : call.pc.claim.orderId = some p.core.order := by
    rw [Claim.orderId, claimed]
    exact congrArg some filed
  have registered := owned.registered j call at_j
  have billed := registered.billed _ (owned.payment_of_order at_j (List.mem_map_of_mem member) mine)
  exact billed.1.trans (registered.mine o.core claimed).1.symm

theorem Sys.Owned.unlinked (owned : s.Owned) {req : Request} {pc : Pc} (at_i : s.calls i = some ⟨req, pc⟩)
    {placed : Placed} {row : Payment} (bills : Bills placed row pc) : pc.claim.link = none := by
  have stage := owned.stage i _ at_i
  cases bills with
  | invoice status config =>
    have cart : placed.order.cart = none := stage
    simp [Pc.claim, Pc.frame, Placed.frame, Frame.claim, Claim.link, Order.core, cart]
  | card config status named =>
    have cart : placed.order.cart = none := stage
    simp [Pc.claim, Pc.frame, Placed.frame, Frame.claim, Claim.link, Order.core, cart]

theorem Sys.Owned.bills_unlinked (owned : s.Owned) {req : Request} {pc : Pc} (at_i : s.calls i = some ⟨req, pc⟩)
    {placed : Placed} {row : Payment} (bills : Bills placed row pc) (named : row.order = placed.order.id)
    (member : r ∈ s.db.reservations.rows) : r.order ≠ some row.order := by
  intro linked
  have mine : pc.claim.orderId = some row.order := by
    cases bills <;> exact congrArg some named.symm
  have own : r.core ∈ (s.db.skeleton.own pc.claim.orderId pc.claim.reservations).holds :=
    @own_hold _ ⟨req, pc⟩ _ _ member linked mine
  have order := ((owned.registered i _ at_i).linked _ own).2
  rw [owned.unlinked at_i bills] at order
  cases linked.symm.trans order

theorem Registered.holds_linked {sk : Skeleton} {req : Request} {c : Claim} (registered : Registered sk req c)
    (link : c.link = some id) :
    (sk.own c.orderId c.reservations).holds = sk.holds.filter fun h => h.order == some id := by
  have order : c.orderId = some id := by
    obtain ⟨o, claimed, linked⟩ := Option.bind_eq_some_iff.mp link
    obtain ⟨_, _, rfl⟩ := Option.map_eq_some_iff.mp linked
    simp [Claim.orderId, claimed]
  refine List.filter_congr fun h member => ?_
  by_cases carries : h.order = some id
  · simp [carries, order]
  · have foreign : h.id ∉ c.reservations := by
      intro listed
      have own : h ∈ (sk.own c.orderId c.reservations).holds := List.mem_filter.mpr ⟨member, by simp [listed]⟩
      exact carries ((registered.linked h own).2.trans link)
    simp [carries, foreign, order]

theorem Sys.Owned.committed (owned : s.Owned) {o : Order} (present : o ∈ s.db.orders.rows)
    (linked : o.cart.isSome = true)
    (committed : ∀ r ∈ s.db.reservations.rows, r.order = some o.id → r.status = .committed) :
    ∀ item ∈ s.db.orderItems.rows, item.order = o.id →
      ∃ product, item.product = some product ∧ s.db.committedFor o.id product = item.quantity := by
  intro item inside filed
  obtain ⟨j, call, at_j, claimed⟩ := owned.owned o.core (List.mem_map_of_mem present)
  have mine : call.pc.claim.orderId = some o.id := congrArg (Option.map OrderCore.id) claimed
  have registered := owned.registered j call at_j
  have own : item ∈ (s.db.skeleton.own call.pc.claim.orderId call.pc.claim.reservations).items :=
    List.mem_filter.mpr ⟨inside, by simp [mine, filed]⟩
  obtain ⟨product, named, supplied⟩ := registered.supplied item own
  refine ⟨product, named, supplied ▸ ?_⟩
  have link : call.pc.claim.link = some o.id := by
    obtain ⟨cart, set⟩ := Option.isSome_iff_exists.mp linked
    simp [Claim.link, claimed, Order.core, set]
  rw [registered.holds_linked link, supply, List.filter_filter, Db.skeleton, List.filter_map, List.map_map,
    Db.committedFor]
  congr 2
  refine List.filter_congr fun r member => ?_
  by_cases carries : r.order = some o.id
  · simp [InventoryReservation.core, carries, committed r member carries]
  · have other : (r.order == some o.id) = false := beq_eq_false_iff_ne.mpr carries
    simp [InventoryReservation.core, other]

end Owners

theorem Links.hold_of {reservations : List Id} {order cart : Id} {h : InventoryReservation → ReservationStatus}
    {db db' : Db} (links : Links reservations order cart h db db') {r' : InventoryReservation}
    (member : r' ∈ db'.reservations.rows) :
    ∃ r ∈ db.reservations.rows, r'.status = h r ∧
      r'.core = if reservations.contains r.id then { r.core with order := some order } else r.core := by
  have image : (r'.core, r'.status) ∈ db.reservations.rows.map fun r =>
      (if reservations.contains r.core.id then { r.core with order := some order } else r.core, h r) :=
    links.holds ▸ List.mem_map_of_mem member
  obtain ⟨r, inside, same⟩ := List.mem_map.mp image
  exact ⟨r, inside, (congrArg Prod.snd same).symm, (congrArg Prod.fst same).symm⟩

theorem Sys.Shipped.start {s : Sys} (initial : s.Initial) : s.Shipped := by
  simp [Sys.Shipped, initial.payments]

theorem Touch.shipped {s s' : Sys} {f : Order → OrderStatus} {g : Payment → PaymentStatus}
    {h : InventoryReservation → ReservationStatus} (touch : Touch s.db s'.db f g h) (shipped : s.Shipped) :
    s'.Shipped := by
  intro p' inside config r' member linked
  obtain ⟨p, before, pay, _⟩ := touch.payment_of inside
  obtain ⟨r, held, core, status⟩ := touch.hold_of member
  have invoice : p.gateway_config = none := (congrArg PaymentCore.gateway_config pay).symm.trans config
  have order : r.order = some p.order := by
    rw [← show r'.order = r.order from congrArg HoldCore.order core, linked]
    exact congrArg (fun c => some c.order) pay
  rw [status]
  rcases touch.reaches r held with same | moved
  · rw [same]
    exact shipped p before invoice r held order
  · intro active
    rw [active] at moved
    revert moved
    cases r.status <;> decide

theorem Sys.Shipped.of_tables {s s' : Sys} (shipped : s.Shipped) (payments : s'.db.payments = s.db.payments)
    (reservations : ∀ r ∈ s'.db.reservations.rows, r ∈ s.db.reservations.rows ∨ r.order = none) : s'.Shipped := by
  intro p inside config r member linked
  rw [payments] at inside
  rcases reservations r member with old | fresh
  · exact shipped p inside config r old linked
  · rw [fresh] at linked
    cases linked

theorem Sys.Shipped.step {settings : Settings} {lib : WebhookLibrary} {s s' : Sys} {l : Label} (shipped : s.Shipped)
    (kept : s.Kept) (taken : Storefront.step settings lib s l = some s') : s'.Shipped := by
  have change : Change lib s l s'.db := step_change taken
  cases change.shape with
  | touched touch => exact touch.shipped shipped
  | stocked new orders items payments rows opened =>
    refine shipped.of_tables payments fun r member => ?_
    rw [rows] at member
    exact (List.mem_append.mp member).imp_right fun fresh => (opened r fresh).2.1
  | ordered i oracle order items at_l rows status payments reservations =>
    exact shipped.of_tables payments fun r member => .inl (reservations ▸ member)
  | billed i oracle req pc placed row at_l at_i bills named rows orders reservations =>
    intro p inside config r member linked
    rw [rows] at inside
    rw [reservations] at member
    rcases List.mem_append.mp inside with old | now
    · exact shipped p old config r member linked
    · obtain rfl := List.mem_singleton.mp now
      exact absurd linked (kept.1.bills_unlinked at_i bills named member)
  | linked i oracle req pc placed h at_l at_i converts links =>
    intro p inside config r' member linked
    rw [links.payments] at inside
    obtain ⟨r, held, status, core⟩ := links.hold_of member
    by_cases listed : r.id ∈ placed.reservations
    · cases converts with
      | card payment =>
        -- A card order has no invoice.
        have filed : p.order = placed.order.id := by
          rw [if_pos (by simpa using listed)] at core
          exact Option.some.inj (linked.symm.trans (congrArg HoldCore.order core))
        have card : Card req payment := (kept.1.stage i _ at_i).2
        have claimed := kept.1.payment_of_order at_i (List.mem_map_of_mem inside) (congrArg some filed.symm)
        have same : payment.gateway_config = p.gateway_config :=
          congrArg PaymentCore.gateway_config (Option.some.inj claimed)
        have named := card.1
        rw [same, config] at named
        cases named
      | invoice payment =>
        rw [status, settledStatus]
        cases active : r.status <;> simp [listed, Settlement.commit]
    · have order : r.order = some p.order := by
        rw [if_neg (by simpa using listed)] at core
        exact (congrArg HoldCore.order core).symm.trans linked
      have earlier := shipped p inside config r held order
      cases converts with
      | card payment => exact status ▸ earlier
      | invoice payment => rwa [status, settledStatus, if_neg (by simp [listed])]

theorem Change.commits_holds {lib : WebhookLibrary} {s : Sys} {l : Label} {db' : Db} (change : Change lib s l db')
    (kept : s.Kept) (shipped : s.Shipped) {o : Order} (present : o ∈ s.db.orders.rows) (unpaid : o.status ≠ .paid)
    (paid : db'.orderStatus o.id = some .paid) : ∃ f g h, Touch s.db db' f g h ∧
      ∀ r ∈ s.db.reservations.rows, r.order = some o.id → r.status ≠ .released → h r = .committed := by
  have touched {f : Order → OrderStatus} {g : Payment → PaymentStatus} {h : InventoryReservation → ReservationStatus}
      (touch : Touch s.db db' f g h) : f o = .paid :=
    Option.some.inj ((touch.orderStatus present).symm.trans paid)
  have never {f : Order → OrderStatus} {g : Payment → PaymentStatus} {h : InventoryReservation → ReservationStatus}
      (touch : Touch s.db db' f g h) (open_ : f o ≠ .paid) : False := open_ (touched touch)
  have same (unchanged : db'.orders = s.db.orders) : False := by
    rw [Db.orderStatus, unchanged] at paid
    exact unpaid (Option.some.inj ((Db.orderStatus_of_mem present).symm.trans paid))
  -- The order's own tasks look the reservations up by tenant and order.
  have taken {tenant : Id} (owner : o.tenant = tenant) (pending : o.status = .pending) :
      ∀ r ∈ s.db.reservations.rows, r.order = some o.id → r.status ≠ .released →
        heldStatus .commit tenant o r = .committed := by
    intro r member linked unreleased
    have tenancy := kept.1.hold_tenant present member linked
    cases status : r.status <;>
      simp_all [heldStatus, settledStatus, ofOrder, Settlement.commit]
  cases change with
  | frees frees =>
    obtain ⟨_, touch, _⟩ := frees
    exact absurd (touched touch) unpaid
  | stocked new orders => exact (same orders).elim
  | ordered i oracle order items rows =>
    have present' : o ∈ db'.orders.rows := by rw [rows]; exact List.mem_append_left _ present
    have still := Db.orderStatus_of_mem present'
    exact absurd (Option.some.inj (still.symm.trans paid)) unpaid
  | billed i oracle req pc placed row at_i bills named rows orders => exact (same orders).elim
  | linked i oracle req pc placed h at_i converts links =>
    obtain ⟨o', there, named, _, _, status⟩ := links.order_kept present
    rw [← named, Db.orderStatus_of_mem there, status] at paid
    exact absurd (Option.some.inj paid) unpaid
  | recorded i oracle req placed payment intent at_i done =>
    exact absurd (touched (recordPaymentResult_touch (guard_ok done))) unpaid
  | captured => exact absurd (touched (captureWrite_touch _ _ _ _)) unpaid
  | paid i oracle req placed payment at_i done =>
    have touch := markCaptured_touch (guard_ok done)
    refine ⟨_, _, _, touch, fun r member linked unreleased => ?_⟩
    have mine := (OrderStatus.at_paid (touched touch) unpaid).1
    have listed := (kept.1.hold_listed at_i member linked (congrArg some mine.symm)).1
    have listed : r.id ∈ placed.reservations := listed
    cases status : r.status <;> simp_all [settledStatus, Settlement.commit]
  | cancelledOwn i oracle req rest cart frame e order at_i mine done =>
    have written := (OrderStatus.at_paid (touched (cancelOwnOrder_touch (guard_ok done))) unpaid).2
    unfold OrderStatus.cancelOwn at written
    split at written
    · cases written
    · exact absurd written unpaid
  | cancelled tenant customer order done =>
    rcases cancelOrder_touch done with unchanged | ⟨_, _, _, _, _, _, touch, _⟩
    · exact (same (congrArg Db.orders unchanged)).elim
    · cases (OrderStatus.at_paid (touched touch) unpaid).2
  | applied k task queued done =>
    obtain ⟨_, _, _, _, o', there, _, owner, touch⟩ := applyWebhookEvent_touch done
    obtain ⟨mine, written⟩ := OrderStatus.at_paid (touched touch) unpaid
    obtain rfl := s.db.orders.eq_of_key present there mine
    obtain ⟨captured, pending⟩ := eventTarget_paid unpaid written
    refine ⟨_, _, _, touch, fun r member linked unreleased => ?_⟩
    rw [eventHeld, if_pos captured]
    exact taken owner pending r member linked unreleased
  | reconciled payment answer outcome done =>
    rcases reconcileOne_touch done with ⟨unchanged, _⟩ | ⟨p, inside, _, _, _, _, _, either⟩
    · exact (same (congrArg Db.orders unchanged)).elim
    · rcases either with ⟨_, _, _, touch⟩ | ⟨o', there, filed, touch⟩
      · exact absurd (touched touch) unpaid
      · obtain ⟨mine, written⟩ := OrderStatus.at_paid (touched touch) unpaid
        obtain rfl := s.db.orders.eq_of_key present there mine
        have captured := reconcileTarget_paid unpaid written
        refine ⟨_, _, _, touch, fun r member linked unreleased => ?_⟩
        rw [captured, reconcileTarget, if_pos rfl] at written
        rw [reconcileHeld, if_pos captured]
        exact taken (kept.1.payment_tenant present inside filed).symm (OrderStatus.pay_eq_paid unpaid written) r member
          linked unreleased
  | marked k mark listed done =>
    obtain ⟨_, _, _, _, _, _, _, _, touch⟩ := markPaidWrite_touch done
    obtain ⟨p, inside, _, filed, _, invoice, _⟩ := kept.2.marks mark (List.mem_of_getElem? listed)
    have mine := (OrderStatus.at_paid (touched touch) unpaid).1
    refine ⟨_, _, _, touch, fun r member linked unreleased => ?_⟩
    have inactive := shipped p inside invoice r member (linked.trans (congrArg some (mine.trans filed.symm)))
    revert inactive unreleased
    cases r.status <;> decide
  | refunded => exact absurd (touched (refundWrite_touch _ _ _ _)) unpaid

/-- A step that pays only linked orders with their holds leaves each with its stock. -/
theorem PaysHeld.with_stock {settings : Settings} {lib : WebhookLibrary} {s s' : Sys} {l : Label} (kept : s.Kept)
    (shipped : s.Shipped) (taken : step settings lib s l = some s') (held : PaysHeld ⟨s, l, s'⟩) :
    PaidWithStock ⟨s, l, s'⟩ := by
  have change : Change lib s l s'.db := step_change taken
  have owned : s'.Owned := kept.1.step taken
  intro id paid unpaid
  obtain ⟨o', present, rfl, status⟩ := Db.orderStatus_eq_some.mp paid
  dsimp only at unpaid
  by_cases known : ∃ o ∈ s.db.orders.rows, o.id = o'.id
  · obtain ⟨o, before, named⟩ := known
    rw [← named, Db.orderStatus_of_mem before] at unpaid
    have other : o.status ≠ .paid := fun same => unpaid (congrArg some same)
    have holds := held o before other (by rw [named]; exact paid)
    obtain ⟨f, g, h, touch, commits⟩ := change.commits_holds kept shipped before other (by rw [named]; exact paid)
    obtain ⟨o'', there, core, _⟩ := touch.order before
    obtain rfl := s'.db.orders.eq_of_key there present ((congrArg OrderCore.id core).trans named)
    have linked : o''.cart = o.cart := congrArg OrderCore.cart core
    refine owned.committed present (linked ▸ holds.linked) fun r' member carries => ?_
    obtain ⟨r, inside, same, status⟩ := touch.hold_of member
    have order : r.order = some o.id := by
      rw [named, ← carries]
      exact (congrArg HoldCore.order same).symm
    rw [status]
    exact commits r inside order (holds.unreleased r inside order)
  · -- A new order is PENDING.
    cases change.shape with
    | touched touch =>
      obtain ⟨o, before, core, _⟩ := touch.order_of present
      exact absurd ⟨o, before, (congrArg OrderCore.id core).symm⟩ known
    | stocked new orders => exact absurd ⟨o', orders ▸ present, rfl⟩ known
    | ordered i oracle order items at_l rows pending =>
      rw [rows] at present
      rcases List.mem_append.mp present with old | now
      · exact absurd ⟨o', old, rfl⟩ known
      · rw [List.mem_singleton.mp now, pending] at status
        cases status
    | billed i oracle req pc placed row at_l at_i bills named rows orders =>
      exact absurd ⟨o', orders ▸ present, rfl⟩ known
    | linked i oracle req pc placed h at_l at_i converts links =>
      obtain ⟨o, before, named, _⟩ := links.order_of present
      exact absurd ⟨o, before, named⟩ known

/-- In a run that pays only linked orders with their holds, every order is paid with its stock. -/
theorem paid_with_stock (settings : Settings) (lib : WebhookLibrary) {s₀ s : Sys} {moves : List (Move Sys Label)}
    (run : (machine settings lib).Run s₀ moves s) (held : ∀ move ∈ moves, PaysHeld move) :
    ∀ move ∈ moves, PaidWithStock move := by
  have start (s : Sys) (initial : s.Initial) : s.Kept ∧ s.Shipped := ⟨.start initial, .start initial⟩
  have step (s : Sys) (l : Label) (s' : Sys) (inv : s.Kept ∧ s.Shipped)
      (taken : (machine settings lib).step s l = some s') : s'.Kept ∧ s'.Shipped :=
    ⟨inv.1.step taken, inv.2.step inv.1 taken⟩
  intro move member
  obtain ⟨taken, earlier, reached⟩ := run.reached move member
  obtain ⟨kept, shipped⟩ := reached.invariant start step
  exact (held move member).with_stock kept shipped taken

namespace Sample

-- A card that answers later, and an event that comes after the reservations have expired.
def waiting : List Label :=
  .begin 0 request :: blocks (placing ++ [.resolve, .insertPayment]) ++
    [.advance 0 { oracle .authorize with answer := .ok (intent .pending) }] ++ blocks [.recordResult, .convert] ++
    [.tick 1000, .receive capturedMail.post]

def expired : List Label := waiting ++ [.expire .plain 2000]

def captured : List Label := waiting ++ [.process 0]

def beforeExpired : Sys := (lab.exec start expired).get (by decide +kernel)
def afterExpired : Sys := (step settings library beforeExpired (.process 0)).get (by decide +kernel)
def afterCaptured : Sys := (lab.exec start captured).get (by decide +kernel)

theorem expired_runs : lab.exec start expired = some beforeExpired := (Option.some_get _).symm
theorem expired_taken : lab.step beforeExpired (.process 0) = some afterExpired := (Option.some_get _).symm
theorem captured_runs : lab.exec start captured = some afterCaptured := (Option.some_get _).symm

def paysHeld (s : Sys) (l : Label) : Bool :=
  (step settings library s l).all fun s' => s.db.orders.rows.all fun o =>
    o.status == .paid || s'.db.orderStatus o.id != some .paid ||
      (o.cart.isSome && s.db.reservations.rows.all fun r => r.order != some o.id || r.status != .released)

theorem paysHeld_sound {move : Move Sys Label} (taken : step settings library move.before move.label = some move.after)
    (test : paysHeld move.before move.label = true) : PaysHeld move := by
  intro o member unpaid paid
  simp only [paysHeld, taken, Option.all_some, List.all_eq_true] at test
  have holds := test o member
  simp only [paid, bne_self_eq_false, Bool.or_false, Bool.or_eq_true, beq_iff_eq, unpaid, false_or, Bool.and_eq_true,
    List.all_eq_true, bne_iff_ne] at holds
  exact ⟨holds.1, fun r inside linked => (holds.2 r inside).resolve_left fun other => other linked⟩

end Sample

theorem paid_with_stock_captured : ∃ moves, Sample.lab.Run Sample.start moves Sample.afterCaptured ∧
    ∀ move ∈ moves, PaidWithStock move := by
  obtain ⟨moves, run, tested⟩ := Machine.exec_passes Sample.start_initial Sample.captured_runs
    (show Sample.lab.passes Sample.paysHeld _ _ = true by decide +kernel)
  exact ⟨moves, run, paid_with_stock _ _ run fun move member =>
    Sample.paysHeld_sound (run.reached move member).1 (tested move member)⟩

/-- The capture comes after the reservations were given back. -/
theorem paid_without_stock : ¬ ∀ moves s, Sample.lab.Run Sample.start moves s →
    ∀ move ∈ moves, PaidWithStock move := by
  intro stocked
  obtain ⟨moves, run, member⟩ :=
    Machine.exec_last Sample.start_initial Sample.expired_runs Sample.expired_taken
  have unpaid : Sample.beforeExpired.db.orderStatus 200 = some .pending := by decide +kernel
  have paid : Sample.afterExpired.db.orderStatus 200 = some .paid := by decide +kernel
  have ordered : ∃ item ∈ Sample.afterExpired.db.orderItems.rows,
      item.order = 200 ∧ item.product = some 30 ∧ item.quantity = 2 := by decide +kernel
  have released : Sample.afterExpired.db.committedFor 200 30 = 0 := by decide +kernel
  obtain ⟨item, inside, filed, product, quantity⟩ := ordered
  obtain ⟨named, same, sold⟩ := stocked moves _ run _ member 200 paid (by simp [unpaid]) item inside filed
  obtain rfl := Option.some.inj (product.symm.trans same)
  rw [released, quantity] at sold
  cases sold

end Storefront
