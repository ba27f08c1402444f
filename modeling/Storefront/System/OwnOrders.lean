import Storefront.System.Invoices

set_option autoImplicit false

/-!
# Whose order a checkout returns
-/

namespace Storefront

open Relational Transition

def DisclosesOwn (s : Sys) : Prop :=
  ∀ i req frame result, s.calls i = some ⟨req, .done frame (.ok result)⟩ →
    ∃ o ∈ s.db.orders.rows, o.id = result.order ∧ o.tenant = req.tenant ∧ o.customer = req.customer

/-- A checkout whose first lookup runs finds its tenant's order under its key, if there
is one, to be the caller's. -/
def FindsOwnOrder (move : Move Sys Label) : Prop :=
  ∀ i oracle req, move.label = .advance i oracle → move.before.calls i = some ⟨req, .find⟩ →
    oracle.fault = none → ∀ o ∈ move.before.db.orders.rows, o.tenant = req.tenant →
    o.idempotency_key = req.idempotency_key → o.customer = req.customer

def Pc.For (req : Request) : Pc → Prop
  | .validate view | .reserve view | .create view _ => view.customer.id = req.customer
  | pc => ∀ o ∈ pc.frame.order, o.customer = req.customer

theorem lockCart_customer {req : Request} {now : Time} {db db' : Db} {view : CartView}
    (done : lockCart req now db = .ok (view, db')) : view.customer.id = req.customer := by
  simp only [lockCart, lockAndValidateCart, bind_eq_ok, pure_eq_ok, orRaise_eq_ok, Prod.mk.injEq,
    Option.bind_eq_some_iff] at done
  obtain ⟨_, ⟨_, ⟨cart, locked, viewed⟩, _, _, rfl⟩, _, _, rfl, _⟩ := done
  have mine := List.find?_some locked
  simp only [Db.cartView, Option.map_eq_some_iff] at viewed
  obtain ⟨customer, found, rfl⟩ := viewed
  have joined := List.find?_some found
  simp only [Bool.and_eq_true, beq_iff_eq] at mine joined
  exact joined.2.trans mine.1.2

theorem createOrder_customer {req : Request} {oracle : Oracle} {view : CartView} {order : Order}
    {db db' : Db} (done : createOrder req oracle view db = .ok (order, db')) :
    order.customer = view.customer.id := by
  simp only [createOrder, bind_eq_ok, pure_eq_ok, Prod.mk.injEq] at done
  obtain ⟨_, _, _, _, _, _, _, _, _, _, _, _, rfl, _⟩ := done
  rfl

theorem findExistingCheckout_some {req : Request} {db : Db} {existing : CheckoutResult}
    (found : findExistingCheckout req db = some existing) :
    ∃ o ∈ db.orders.rows, o.id = existing.order ∧ o.tenant = req.tenant ∧
      o.idempotency_key = req.idempotency_key := by
  simp only [findExistingCheckout, Option.map_eq_some_iff] at found
  obtain ⟨o, seen, rfl⟩ := found
  have same := List.find?_some seen
  simp only [Bool.and_eq_true, beq_iff_eq] at same
  refine ⟨o, List.mem_of_find?_eq_some seen, ?_, same.1, same.2⟩
  split <;> rfl

-- The key is unique, so the order found is the one there is.
theorem findExistingCheckout_of_mem {req : Request} {db : Db} {o : Order} (member : o ∈ db.orders.rows)
    (tenant : o.tenant = req.tenant) (key : o.idempotency_key = req.idempotency_key) :
    ∃ existing, findExistingCheckout req db = some existing ∧ existing.order = o.id := by
  cases found : findExistingCheckout req db with
  | none =>
    simp only [findExistingCheckout, Option.map_eq_none_iff, List.find?_eq_none] at found
    have absent := found o member
    simp [tenant, key] at absent
  | some existing =>
    obtain ⟨other, present, named, _, same⟩ := findExistingCheckout_some found
    have one : other = o := by
      refine db.orders.eq_of_entry present member (e := .text o.idempotency_key) ?_ ?_
      · simp [Schema.entries, same.trans key.symm]
      · simp [Schema.entries]
    exact ⟨existing, rfl, one ▸ named.symm⟩

section Advance

variable {settings : Settings} {req : Request} {oracle : Oracle} {db db' : Db} {pc pc' : Pc}
  {log : List GatewayCall}

theorem authorizeRaised_for {placed : Placed} (mine : placed.order.customer = req.customer)
    (payment : Option Payment) (e : Exn) : (authorizeRaised placed payment e).For req := by
  unfold authorizeRaised
  split <;> simpa [Pc.For, Pc.frame, Placed.frame] using mine

theorem afterOrder_for {placed : Placed} (mine : placed.order.customer = req.customer) :
    (afterOrder placed).For req := by
  rcases afterOrder_cases placed with ⟨e, ended⟩ | invoiced | card
  · rw [ended]; simpa [Pc.For, Pc.frame, Placed.frame] using mine
  · rw [invoiced]; simpa [Pc.For, Pc.frame, Placed.frame] using mine
  · rw [card]; simpa [Pc.For, Pc.frame, Placed.frame] using mine

theorem afterConvert_for {placed : Placed} (mine : placed.order.customer = req.customer) (payment : Payment) :
    (afterConvert placed payment).For req := by
  unfold afterConvert
  split
  · simpa [Pc.For, Pc.frame, Placed.frame] using mine
  · split <;> simpa [Pc.For, Pc.frame, Placed.frame] using mine

theorem Pc.For.advance (mine : pc.For req)
    (taken : Storefront.advance settings req oracle db pc = (pc', db', log)) : pc'.For req := by
  cases pc with
  | find =>
    simp only [Storefront.advance] at taken
    split at taken <;> cases taken <;> simp [Pc.For, Pc.frame]
  | lock =>
    simp only [Storefront.advance] at taken
    split at taken
    next done =>
      cases taken
      exact lockCart_customer (guard_ok done)
    · cases taken
      simp [Pc.For, Pc.frame]
  | validate view | reserve view =>
    simp only [Storefront.advance] at taken
    split at taken <;> cases taken
    · exact mine
    · simp [Pc.For, Pc.frame]
  | create view reservations =>
    simp only [Storefront.advance] at taken
    split at taken
    next done =>
      cases taken
      exact afterOrder_for ((createOrder_customer (guard_ok done)).trans mine)
    · cases taken
      simp [Pc.For, Pc.frame]
  | invoice placed | captureRead placed payment | capture placed row | captureWrite placed row intent
  | paid placed payment | authorize placed payment =>
    simp only [Storefront.advance] at taken
    split at taken <;> cases taken <;> exact mine
  | convertInvoiced placed payment =>
    simp only [Storefront.advance] at taken
    split at taken <;> cases taken
    · simpa [Pc.For, Pc.frame, Placed.frame, Placed.linked] using mine
    · exact mine
  | resolve placed | insertPayment placed config =>
    simp only [Storefront.advance] at taken
    split at taken <;> cases taken
    · exact mine
    · exact authorizeRaised_for (mine _ rfl) _ _
  | recordError placed payment e =>
    simp only [Storefront.advance] at taken
    split at taken <;> cases taken <;> exact authorizeRaised_for (mine _ rfl) _ _
  | recordResult placed payment intent =>
    simp only [Storefront.advance] at taken
    split at taken
    · split at taken <;> cases taken
      · exact authorizeRaised_for (mine _ rfl) _ _
      · exact mine
    · cases taken
      exact authorizeRaised_for (mine _ rfl) _ _
  | convert placed payment =>
    simp only [Storefront.advance] at taken
    split at taken <;> cases taken
    · have own : placed.linked.order.customer = req.customer := mine placed.order rfl
      exact afterConvert_for own payment
    · exact mine
  | undo todo cart frame e =>
    cases todo with
    | nil =>
      cases taken
      exact mine
    | cons action rest =>
      simp only [Storefront.advance] at taken
      split at taken <;> cases taken <;> exact mine
  | done | crashed =>
    cases taken
    exact mine

theorem advance_returns {frame : Frame} {result : CheckoutResult} (running : pc.ended = false)
    (taken : Storefront.advance settings req oracle db pc = (.done frame (.ok result), db', log)) :
    (pc = .find ∧ oracle.fault = none ∧ findExistingCheckout req db = some result) ∨
      ∃ order, frame.order = some order ∧ order.id = result.order := by
  have undone (placed : Placed) (payment : Option Payment) (e : Exn) :
      authorizeRaised placed payment e ≠ .done frame (.ok result) := by
    unfold authorizeRaised
    split <;> simp
  cases pc with
  | find =>
    simp only [Storefront.advance] at taken
    split at taken
    · cases taken
    next found =>
      cases taken
      exact .inl ⟨rfl, guard_quiet found, Except.ok.inj (guard_ok found)⟩
    · cases taken
  | create view reservations =>
    simp only [Storefront.advance] at taken
    split at taken
    next order last done =>
      rcases afterOrder_cases ⟨view, reservations, order⟩ with ⟨e, ended⟩ | invoiced | card
      · rw [ended] at taken; cases taken
      · rw [invoiced] at taken; cases taken
      · rw [card] at taken; cases taken
    · cases taken
  | resolve placed | insertPayment placed config =>
    simp only [Storefront.advance] at taken
    split at taken
    · cases taken
    · exact absurd (Prod.mk.inj taken).1 (undone _ _ _)
  | recordError placed payment e =>
    simp only [Storefront.advance] at taken
    split at taken <;> exact absurd (Prod.mk.inj taken).1 (undone _ _ _)
  | recordResult placed payment intent =>
    simp only [Storefront.advance] at taken
    split at taken
    · split at taken
      · exact absurd (Prod.mk.inj taken).1 (undone _ _ _)
      · cases taken
    · exact absurd (Prod.mk.inj taken).1 (undone _ _ _)
  | convert placed payment =>
    simp only [Storefront.advance] at taken
    split at taken
    · simp only [afterConvert] at taken
      split at taken
      · cases taken
      · split at taken <;> cases taken
        exact .inr ⟨_, rfl, rfl⟩
    · cases taken
  | undo todo cart frame e =>
    cases todo with
    | nil => cases taken
    | cons action rest =>
      simp only [Storefront.advance] at taken
      split at taken <;> cases taken
  | done | crashed => cases running
  | _ =>
    simp only [Storefront.advance] at taken
    split at taken <;> cases taken <;> exact .inr ⟨_, rfl, rfl⟩

end Advance

theorem Change.orders_kept {lib : WebhookLibrary} {s : Sys} {l : Label} {db' : Db} (change : Change lib s l db')
    {o : Order} (member : o ∈ s.db.orders.rows) :
    ∃ o' ∈ db'.orders.rows, o'.id = o.id ∧ o'.tenant = o.tenant ∧ o'.customer = o.customer := by
  have of_touch {f : Order → OrderStatus} {g : Payment → PaymentStatus}
      {h : InventoryReservation → ReservationStatus} (touch : Touch s.db db' f g h) :
      ∃ o' ∈ db'.orders.rows, o'.id = o.id ∧ o'.tenant = o.tenant ∧ o'.customer = o.customer := by
    obtain ⟨o', there, core, _⟩ := touch.order member
    exact ⟨o', there, congrArg OrderCore.id core, congrArg OrderCore.tenant core, congrArg OrderCore.customer core⟩
  have of_table (orders : db'.orders = s.db.orders) :
      ∃ o' ∈ db'.orders.rows, o'.id = o.id ∧ o'.tenant = o.tenant ∧ o'.customer = o.customer :=
    ⟨o, orders ▸ member, rfl, rfl, rfl⟩
  cases change with
  | frees frees =>
    obtain ⟨_, touch, _⟩ := frees
    exact of_touch touch
  | stocked new orders => exact of_table orders
  | ordered i oracle order items rows =>
    exact ⟨o, rows ▸ List.mem_append_left _ member, rfl, rfl, rfl⟩
  | billed i oracle req pc placed row at_i bills named rows orders => exact of_table orders
  | linked i oracle req pc placed h at_i converts links =>
    obtain ⟨o', there, id, tenant, customer, _⟩ := links.order_kept member
    exact ⟨o', there, id, tenant, customer⟩
  | recorded i oracle req placed payment intent at_i done =>
    exact of_touch (recordPaymentResult_touch (guard_ok done))
  | captured => exact of_touch (captureWrite_touch _ _ _ _)
  | paid i oracle req placed payment at_i done => exact of_touch (markCaptured_touch (guard_ok done))
  | cancelledOwn i oracle req rest cart frame e order at_i mine done =>
    exact of_touch (cancelOwnOrder_touch (guard_ok done))
  | cancelled tenant customer order done =>
    rcases cancelOrder_touch done with same | ⟨_, _, _, _, _, _, touch, _⟩
    · exact of_table (by rw [same])
    · exact of_touch touch
  | applied k task queued done =>
    obtain ⟨_, _, _, _, _, _, _, _, touch⟩ := applyWebhookEvent_touch done
    exact of_touch touch
  | reconciled payment answer outcome done =>
    rcases reconcileOne_touch done with ⟨same, _⟩ | ⟨_, _, _, _, _, _, _, ⟨_, _, _, touch⟩ | ⟨_, _, _, touch⟩⟩
    · exact of_table (by rw [same])
    · exact of_touch touch
    · exact of_touch touch
  | marked k mark listed done =>
    obtain ⟨_, _, _, _, _, _, _, _, touch⟩ := markPaidWrite_touch done
    exact of_touch touch
  | refunded => exact of_touch (refundWrite_touch _ _ _ _)

def Sys.Served (s : Sys) : Prop := s.Owned ∧ ∀ i call, s.calls i = some call → call.pc.For call.req

theorem Sys.Served.start {s : Sys} (initial : s.Initial) : s.Served :=
  ⟨Sys.Owned.start initial, fun i _ at_i => by simp [initial.calls] at at_i⟩

theorem Sys.Served.step {settings : Settings} {lib : WebhookLibrary} {s s' : Sys} {l : Label}
    (served : s.Served) (taken : Storefront.step settings lib s l = some s') : s'.Served := by
  refine ⟨served.1.step taken, fun i call at_i => ?_⟩
  rcases step_calls taken at_i with before | ⟨_, started⟩ | ⟨oracle, pc, _, before, _, moved⟩
  · exact served.2 i call before
  · simp [started, Pc.For, Pc.frame]
  · rw [moved]
    exact (served.2 i _ before).advance rfl

theorem DisclosesOwn.step_iff {settings : Settings} {lib : WebhookLibrary} {s s' : Sys} {l : Label}
    (served : s.Served) (own : DisclosesOwn s) (taken : step settings lib s l = some s') :
    DisclosesOwn s' ↔ FindsOwnOrder ⟨s, l, s'⟩ := by
  constructor
  · rintro after i oracle req rfl at_i quiet o member tenant key
    obtain ⟨existing, found, named⟩ := findExistingCheckout_of_mem member tenant key
    have unfaulted : ({ oracle with now := s.now } : Oracle).fault = none := quiet
    have ends : advance settings req { oracle with now := s.now } s.db .find =
        (.done {} (.ok existing), s.db, []) := by
      simp only [advance, guard_unfaulted unfaulted, found]
    have answered : s'.calls i = some ⟨req, .done {} (.ok existing)⟩ := by
      rw [step_advance_call taken at_i, ends]
    obtain ⟨o', there, id, _, customer⟩ := after i req {} existing answered
    have same : s'.db = s.db := by rw [step_advance taken at_i, ends]
    obtain rfl : o' = o := s.db.orders.eq_of_key (same ▸ there) member (id.trans named)
    exact customer
  · intro finds i req frame result at_i
    rcases step_calls taken at_i with before | ⟨_, started⟩ | ⟨oracle, pc, rfl, before, running, moved⟩
    · obtain ⟨o, member, named, tenant, customer⟩ := own i req frame result before
      obtain ⟨o', there, id, tenant', customer'⟩ := (step_change taken).orders_kept member
      exact ⟨o', there, id.trans named, tenant'.trans tenant, customer'.trans customer⟩
    · cases started
    · rcases advance_returns running (Prod.ext moved.symm rfl) with
        ⟨rfl, quiet, found⟩ | ⟨order, mine, named⟩
      · obtain ⟨o, member, id, tenant, key⟩ := findExistingCheckout_some found
        obtain ⟨o', there, id', tenant', customer⟩ := (step_change taken).orders_kept member
        have caller := finds i oracle req rfl before quiet o member tenant key
        exact ⟨o', there, id'.trans id, tenant'.trans tenant, customer.trans caller⟩
      · have after := served.step taken
        have registered := after.1.registered i _ at_i
        have claimed : (Pc.done frame (.ok result)).claim.order = some order.core := by
          simp [Pc.claim, Pc.frame, Frame.claim, mine]
        obtain ⟨o, member, core⟩ := List.mem_map.mp (registered.order_mem claimed)
        have caller : order.customer = req.customer := after.2 i _ at_i order mine
        exact ⟨o, member, (congrArg OrderCore.id core).trans named,
          (congrArg OrderCore.tenant core).trans (registered.mine _ claimed).1,
          (congrArg OrderCore.customer core).trans caller⟩

/-- Along a run, checkouts return their callers' orders only, exactly when no first
lookup meets another customer's order under the same key. -/
theorem discloses_own_iff (settings : Settings) (lib : WebhookLibrary) {s₀ s : Sys}
    {moves : List (Move Sys Label)} (run : (machine settings lib).Run s₀ moves s) :
    (∀ move ∈ moves, DisclosesOwn move.after) ↔ ∀ move ∈ moves, FindsOwnOrder move := by
  refine run.safe_iff (fun _ initial => ⟨Sys.Served.start initial, ?_⟩)
    (fun _ _ _ served taken => served.step taken) fun _ _ _ served own taken => own.step_iff served taken
  intro i req frame result at_i
  simp [Sys.Initial.calls initial] at at_i

namespace Sample

def neighbour : Customer := { customer with id := 11, email := "neighbour@acme.test" }

def shared : Sys :=
  { start with
    db := { shop with customers := ⟨[customer, neighbour], by decide +kernel, by decide +kernel⟩ } }

theorem shared_initial : shared.Initial :=
  ⟨rfl, rfl, rfl, rfl, by decide +kernel, fun _ => rfl, rfl, rfl, rfl, rfl, rfl⟩

-- The neighbour calls with the key of a customer whose order stands.
def reused : List Label :=
  .begin 0 request :: blocks placing ++ [.begin 1 { request with customer := 11 }, .advance 1 (oracle .find)]

def afterReuse : Sys := (lab.exec shared reused).get (by decide +kernel)

theorem reused_runs : lab.exec shared reused = some afterReuse := (Option.some_get _).symm

def servedTo (s : Sys) (i : Nat) : Option Id :=
  match s.calls i with
  | some ⟨req, .done _ (.ok _)⟩ => some req.customer
  | _ => none

end Sample

theorem discloses_own_until_reused : ∃ moves, Sample.lab.Run Sample.shared moves Sample.afterReuse ∧
    ((∀ move ∈ moves, DisclosesOwn move.after) ↔ ∀ move ∈ moves, FindsOwnOrder move) := by
  obtain ⟨moves, run⟩ := Machine.exec_run Sample.shared_initial Sample.reused_runs
  exact ⟨moves, run, discloses_own_iff _ _ run⟩

/-- A neighbour who repeats the key is shown the order. -/
theorem neighbour_order_disclosed : ¬ ∀ moves s, Sample.lab.Run Sample.shared moves s → DisclosesOwn s := by
  intro own
  obtain ⟨moves, run⟩ := Machine.exec_run Sample.shared_initial Sample.reused_runs
  have returned : Sample.servedTo Sample.afterReuse 1 = some 11 := by decide +kernel
  unfold Sample.servedTo at returned
  split at returned
  next req frame result at_1 =>
    obtain ⟨o, member, _, _, mine⟩ := own moves _ run 1 req frame result at_1
    have theirs : ∀ o ∈ Sample.afterReuse.db.orders.rows, o.customer = 10 := by decide +kernel
    have caller : req.customer = 11 := Option.some.inj returned
    exact absurd ((theirs o member).symm.trans (mine.trans caller)) (by decide)
  · cases returned

end Storefront
