import Storefront.System.Returns

set_option autoImplicit false

/-!
# The lines of an order

An order has one line for each product of its cart, and its checkout reserved
each of them: for every product the reservations add up to the lines.
-/

namespace Storefront

open Relational Transition

def Pc.view? : Pc → Option CartView
  | .validate view | .reserve view | .create view _ => some view
  | _ => none

inductive HandsOn (req : Request) (oracle : Oracle) (view : CartView) (db db' : Db) : Pc → Pc → Prop
  | locked (done : lockCart req oracle.now db = .ok (view, db')) : HandsOn req oracle view db db' .lock (.validate view)
  | validated (same : db' = db) : HandsOn req oracle view db db' (.validate view) (.reserve view)
  | reserved (reservations : List Id) (done : reserveStock req.tenant oracle.now oracle.draw view db = .ok (reservations, db')) :
      HandsOn req oracle view db db' (.reserve view) (.create view reservations)

theorem authorizeRaised_view {placed : Placed} {payment : Option Payment} {e : Exn} :
    (authorizeRaised placed payment e).view? = none := by
  unfold authorizeRaised
  split <;> rfl

theorem advance_view {settings : Settings} {req : Request} {oracle : Oracle} {db db' : Db} {pc pc' : Pc}
    {log : List GatewayCall} (taken : advance settings req oracle db pc = (pc', db', log)) {view : CartView}
    (held : pc'.view? = some view) : HandsOn req oracle view db db' pc pc' := by
  cases pc with
  | lock =>
    simp only [advance] at taken
    split at taken <;> cases taken
    next done =>
      cases held
      exact .locked (guard_ok done)
    · cases held
  | validate view' =>
    simp only [advance] at taken
    split at taken <;> cases taken
    · cases held
      exact .validated rfl
    · cases held
  | reserve view' =>
    simp only [advance] at taken
    split at taken <;> cases taken
    next done =>
      cases held
      exact .reserved _ (guard_ok done)
    · cases held
  | create view' reservations =>
    simp only [advance] at taken
    split at taken
    next order _ _ =>
      have same := (Prod.mk.inj taken).1
      rcases afterOrder_cases ⟨view', reservations, order⟩ with ⟨_, ended⟩ | invoiced | card
      · rw [← same, ended] at held; cases held
      · rw [← same, invoiced] at held; cases held
      · rw [← same, card] at held; cases held
    · cases taken
      cases held
  | resolve _ | insertPayment _ _ =>
    simp only [advance] at taken
    split at taken <;> cases taken
    · cases held
    · rw [authorizeRaised_view] at held; cases held
  | recordError _ _ _ =>
    simp only [advance] at taken
    split at taken <;> cases taken <;> rw [authorizeRaised_view] at held <;> cases held
  | recordResult _ _ _ =>
    simp only [advance] at taken
    split at taken
    · split at taken <;> cases taken
      · rw [authorizeRaised_view] at held; cases held
      · cases held
    · cases taken
      rw [authorizeRaised_view] at held
      cases held
  | convert placed payment =>
    simp only [advance] at taken
    split at taken
    · have same := (Prod.mk.inj taken).1
      unfold afterConvert at same
      split at same
      · rw [← same] at held; cases held
      · split at same <;> rw [← same] at held <;> cases held
    · cases taken
      cases held
  | undo todo cart frame e =>
    cases todo with
    | nil => cases taken; cases held
    | cons action rest =>
      simp only [advance] at taken
      split at taken <;> cases taken <;> cases held
  | done _ _ | crashed _ _ _ => cases taken; cases held
  | find | invoice _ | convertInvoiced _ _ | authorize _ _ | captureRead _ _ | capture _ _ | captureWrite _ _ _
  | paid _ _ =>
    simp only [advance] at taken
    split at taken <;> cases taken <;> cases held

theorem reserveStock_listed {tenant : Id} {now : Time} {draw : Nat → Id} {view : CartView} {db db' : Db}
    {ids : List Id} (done : reserveStock tenant now draw view db = .ok (ids, db')) {r : InventoryReservation}
    (member : r ∈ db'.reservations.rows) (listed : r.id ∈ ids) : r ∈ reservedRows tenant now view draw db := by
  obtain ⟨_, rows, _, _, made⟩ := reserveStock_grows done
  rw [made, List.map_map] at listed
  obtain ⟨new, inside, named⟩ := List.mem_map.mp listed
  have there : new ∈ db'.reservations.rows := rows ▸ List.mem_append_right _ inside
  obtain rfl := db'.reservations.eq_of_key there member named
  exact inside

def Db.orderedFor (db : Db) (order product : Id) : Int :=
  ((db.orderItems.rows.filter fun i => i.order == order && i.product == some product).map OrderItem.quantity).sum

def Db.heldBy (db : Db) (reservations : List Id) (product : Id) : Int :=
  ((db.reservations.rows.filter fun r => reservations.contains r.id && r.product == product).map
    InventoryReservation.quantity).sum

def Db.reservedFor (db : Db) (order product : Id) : Int :=
  ((db.reservations.rows.filter fun r => r.order == some order && r.product == product).map
    InventoryReservation.quantity).sum

def Sys.OneLineEach (s : Sys) : Prop :=
  ∀ order, ((s.db.orderItems.rows.filter fun i => i.order == order).map OrderItem.product).Nodup

structure Pc.Lists (db : Db) (product : Id) (pc : Pc) : Prop where
  cart : ∀ view reservations, pc = .create view reservations → ∃ item ∈ view.items, item.product = product
  order : ∀ id, pc.claim.orderId = some id → ∃ line ∈ db.orderItems.rows, line.order = id ∧ line.product = some product

def Sys.Lined (s : Sys) : Prop :=
  ∀ i call, s.calls i = some call → ∀ r ∈ s.db.reservations.rows, r.id ∈ call.pc.claim.reservations →
    call.pc.Lists s.db r.product

section Steps

variable {settings : Settings} {lib : WebhookLibrary} {s s' : Sys} {l : Label}

theorem Change.lines {db' : Db} (change : Change lib s l db') : db'.orderItems.rows = s.db.orderItems.rows ∨
    ∃ order, db'.orders.rows = s.db.orders.rows ++ [order] := by
  cases change with
  | frees frees =>
    obtain ⟨_, touch, _⟩ := frees
    exact .inl touch.items
  | stocked new orders items => exact .inl (by rw [items])
  | ordered i oracle order items rows => exact .inr ⟨order, rows⟩
  | billed i oracle req pc placed row at_i bills named rows orders items => exact .inl (by rw [items])
  | linked i oracle req pc placed h at_i converts links => exact .inl (by rw [links.items])
  | recorded i oracle req placed payment intent at_i done => exact .inl (recordPaymentResult_touch (guard_ok done)).items
  | captured => exact .inl (captureWrite_touch _ _ _ _).items
  | paid i oracle req placed payment at_i done => exact .inl (markCaptured_touch (guard_ok done)).items
  | cancelledOwn i oracle req rest cart frame e order at_i mine done =>
    exact .inl (cancelOwnOrder_touch (guard_ok done)).items
  | cancelled tenant customer order done =>
    rcases cancelOrder_touch done with unchanged | ⟨_, _, _, _, _, _, touch, _⟩
    · exact .inl (by rw [unchanged])
    · exact .inl touch.items
  | applied k task queued done =>
    obtain ⟨_, _, _, _, _, _, _, _, touch⟩ := applyWebhookEvent_touch done
    exact .inl touch.items
  | reconciled payment answer outcome done =>
    rcases reconcileOne_touch done with ⟨unchanged, _⟩ | ⟨_, _, _, _, _, _, _, ⟨_, _, _, touch⟩ | ⟨_, _, _, touch⟩⟩
    · exact .inl (by rw [unchanged])
    · exact .inl touch.items
    · exact .inl touch.items
  | marked k mark listed done =>
    obtain ⟨_, _, _, _, _, _, _, _, touch⟩ := markPaidWrite_touch done
    exact .inl touch.items
  | refunded => exact .inl (refundWrite_touch _ _ _ _).items

theorem Sys.Owned.lines (owned : s.Owned) (taken : Storefront.step settings lib s l = some s') :
    s'.db.orderItems.rows = s.db.orderItems.rows ∨ ∃ i req view reservations order,
      s.calls i = some ⟨req, .create view reservations⟩ ∧
        s'.calls i = some ⟨req, afterOrder ⟨view, reservations, order⟩⟩ ∧ Creates req view order s.db s'.db := by
  rcases (step_change taken).lines with same | ⟨o, rows⟩
  · exact .inl same
  refine .inr ?_
  have present : o ∈ s'.db.orders.rows := by simp [rows]
  have fresh {j : Nat} {call : Call} (at_j : s.calls j = some call) (claims : call.pc.claim.orderId = some o.id) :
      False := by
    obtain ⟨core, claimed, named⟩ := Option.map_eq_some_iff.mp claims
    obtain ⟨old, inside, rfl⟩ := List.mem_map.mp ((owned.registered j call at_j).order_mem claimed)
    have nodup := s'.db.orders.keys_nodup
    rw [rows, List.map_append] at nodup
    exact (List.nodup_append.mp nodup).2.2 old.id (List.mem_map_of_mem inside) o.id (by simp [Keyed.key]) named
  obtain ⟨j, call, at_j, claimed⟩ := (owned.step taken).owned o.core (List.mem_map_of_mem present)
  have claims : call.pc.claim.orderId = some o.id := congrArg (Option.map OrderCore.id) claimed
  rcases step_calls taken at_j with same | ⟨_, begun⟩ | ⟨oracle, pc, rfl, earlier, _, moved⟩
  · exact (fresh same claims).elim
  · rw [begun] at claims
    cases claims
  · have out := step_advance taken earlier
    rcases advance_claims (Prod.ext moved.symm rfl) claims with before | ⟨view, reservations, order, rfl, next, done⟩
    · exact (fresh earlier before).elim
    · refine ⟨j, call.req, view, reservations, order, earlier, ?_, out ▸ createOrder_creates done⟩
      rw [at_j, ← next]

theorem Sys.Owned.lines_kept (owned : s.Owned) (taken : Storefront.step settings lib s l = some s') :
    s.db.orderItems.rows ⊆ s'.db.orderItems.rows := by
  rcases owned.lines taken with same | ⟨_, _, _, _, _, _, _, creates⟩
  · exact same ▸ fun _ => id
  · obtain ⟨new, rows, _⟩ := creates.lines
    exact rows ▸ List.subset_append_left _ _

theorem Sys.OneLineEach.step (one : s.OneLineEach) (owned : s.Owned) (taken : Storefront.step settings lib s l = some s') :
    s'.OneLineEach := by
  intro id
  rcases owned.lines taken with same | ⟨_, req, view, reservations, order, _, _, creates⟩
  · rw [same]
    exact one id
  · obtain ⟨new, rows, mine, sold⟩ := creates.lines
    rw [rows, List.filter_append]
    by_cases named : id = order.id
    · subst named
      have none : (s.db.orderItems.rows.filter fun i => i.order == order.id) = [] := by
        refine List.filter_eq_nil_iff.mpr fun i inside filed => ?_
        obtain ⟨core, there, same⟩ := owned.items i inside
        obtain ⟨o, member, rfl⟩ := List.mem_map.mp there
        exact (creates.fresh o member).1 (same.trans (beq_iff_eq.mp filed))
      have all : (new.filter fun i => i.order == order.id) = new :=
        List.filter_eq_self.mpr fun i inside => by simp [mine i inside]
      have products : new.map OrderItem.product = (view.items.map CartItem.product).map some := by
        have firsts := congrArg (List.map Prod.fst) sold
        simpa [List.map_map, Function.comp_def] using firsts
      rw [none, all, List.nil_append, products]
      exact view.distinct.map (Option.some_injective _)
    · have none : (new.filter fun i => i.order == id) = [] := by
        refine List.filter_eq_nil_iff.mpr fun i inside filed => named ?_
        rw [← beq_iff_eq.mp filed, mine i inside]
      rw [none, List.append_nil]
      exact one id

theorem Sys.Lined.step (lined : s.Lined) (owned : s.Owned) (taken : Storefront.step settings lib s l = some s') :
    s'.Lined := by
  rintro i ⟨req, pc'⟩ at_i r' member listed
  have kept {line : OrderItem} (inside : line ∈ s.db.orderItems.rows) : line ∈ s'.db.orderItems.rows :=
    owned.lines_kept taken inside
  rcases step_calls taken at_i with same | ⟨_, begun⟩ | ⟨oracle, pc, rfl, earlier, _, moved⟩
  · obtain ⟨r, inside, named, product, _⟩ := owned.listed_before taken same member listed
    obtain ⟨cart, order⟩ := lined i _ same r inside (named ▸ listed)
    refine ⟨product ▸ cart, fun id claims => ?_⟩
    obtain ⟨line, there, filed, sold⟩ := order id claims
    exact ⟨line, kept there, filed, sold.trans (congrArg some product)⟩
  · rw [show pc' = .find from begun] at listed
    cases listed
  · have out := step_advance taken earlier
    constructor
    · -- The view comes out of `_reserve_stock`, which reserves what the cart lists.
      rintro view reservations rfl
      obtain ⟨made⟩ | ⟨same⟩ | ⟨_, done⟩ := advance_view (Prod.ext moved.symm rfl) rfl
      obtain ⟨e, entry, rfl⟩ := List.mem_map.mp (reserveStock_listed done (out ▸ member) listed)
      obtain ⟨_, _, item, line, wanted⟩ := mem_productsToReserve.mp (List.fst_mem_of_mem_zipIdx entry)
      exact ⟨item, line, wanted⟩
    · intro id claims
      rcases advance_claims (Prod.ext moved.symm rfl) claims with before | ⟨view, reservations, order, rfl, next, done⟩
      · rcases advance_reserves (Prod.ext moved.symm rfl) with same | ⟨view, rfl, _⟩
        · have listed' : r'.id ∈ pc.claim.reservations := same ▸ listed
          obtain ⟨r, inside, named, product, _⟩ := owned.listed_before taken earlier member listed'
          obtain ⟨line, there, filed, sold⟩ := (lined i _ earlier r inside (named ▸ listed')).order id before
          exact ⟨line, kept there, filed, sold.trans (congrArg some product)⟩
        · cases before
      · obtain ⟨new, rows, mine, sold⟩ := (createOrder_creates done).lines
        have claim : pc'.claim = ⟨reservations, some order.core, none⟩ := by
          rw [show pc' = _ from next, afterOrder_claim]
          rfl
        rw [show (Call.mk req pc').pc.claim = _ from claim] at listed claims
        obtain rfl : order.id = id := Option.some.inj claims
        obtain ⟨r, inside, named, product, _⟩ := owned.listed_before taken earlier member listed
        obtain ⟨item, line, wanted⟩ := (lined i _ earlier r inside (named ▸ listed)).cart view reservations rfl
        have pair : (some item.product, item.quantity) ∈ new.map fun i => (i.product, i.quantity) :=
          sold ▸ List.mem_map_of_mem line
        obtain ⟨row, written, same⟩ := List.mem_map.mp pair
        refine ⟨row, ?_, mine row written, ?_⟩
        · rw [out, rows]
          exact List.mem_append_right _ written
        · rw [(Prod.mk.inj same).1, wanted, product]

theorem Sys.OneLineEach.start (initial : s.Initial) : s.OneLineEach := by
  simp [Sys.OneLineEach, initial.orderItems]

theorem Sys.Lined.start (initial : s.Initial) : s.Lined := by
  simp [Sys.Lined, initial.reservations]

theorem Sys.Owned.reserves (owned : s.Owned) (one : s.OneLineEach) (lined : s.Lined) {i : Nat} {call : Call}
    (at_i : s.calls i = some call) {id : Id} (claims : call.pc.claim.orderId = some id) (product : Id) :
    s.db.heldBy call.pc.claim.reservations product = s.db.orderedFor id product := by
  have registered := owned.registered i call at_i
  have supplied : supply (s.db.skeleton.own call.pc.claim.orderId call.pc.claim.reservations).holds product =
      s.db.heldBy call.pc.claim.reservations product := by
    rw [supply, Skeleton.own, List.filter_filter, Db.skeleton, List.filter_map, List.map_map, Db.heldBy]
    congr 2
    refine List.filter_congr fun r member => ?_
    have listed : (call.pc.claim.reservations.contains r.core.id ||
        (r.core.order.isSome && r.core.order == call.pc.claim.orderId)) = call.pc.claim.reservations.contains r.id := by
      refine Bool.eq_iff_iff.mpr ⟨fun mine => ?_, fun mine => Bool.or_eq_true_iff.mpr (.inl mine)⟩
      rw [List.contains_iff_mem, ← registered.holds]
      exact List.mem_map.mpr ⟨r.core, List.mem_filter.mpr ⟨List.mem_map_of_mem member, mine⟩, rfl⟩
    simp only [Function.comp_apply, listed, Bool.and_comm]
    rfl
  have asked : s.db.orderedFor id product = (((s.db.orderItems.rows.filter fun i => i.order == id).filter
      fun i => i.product == some product).map OrderItem.quantity).sum := by
    rw [List.filter_filter, Db.orderedFor]
    congr 2
    exact List.filter_congr fun i _ => Bool.and_comm _ _
  by_cases sold : ∃ line ∈ s.db.orderItems.rows, line.order = id ∧ line.product = some product
  · obtain ⟨line, inside, filed, named⟩ := sold
    have mine : line ∈ s.db.orderItems.rows.filter fun i => i.order == id :=
      List.mem_filter.mpr ⟨inside, by simp [filed]⟩
    have own : line ∈ (s.db.skeleton.own call.pc.claim.orderId call.pc.claim.reservations).items :=
      List.mem_filter.mpr ⟨inside, by simp [claims, filed]⟩
    obtain ⟨other, same, enough⟩ := registered.supplied line own
    obtain rfl : product = other := Option.some.inj (named.symm.trans same)
    have only : ((s.db.orderItems.rows.filter fun i => i.order == id).filter fun i => i.product == some product) =
        [line] := by
      rw [← filter_key (one id) mine]
      exact List.filter_congr fun i _ => by simp [named]
    rw [asked, only, ← supplied, enough]
    simp
  · have none (i : OrderItem) (inside : i ∈ s.db.orderItems.rows.filter fun i => i.order == id) :
        ¬ (i.product == some product) = true := by
      obtain ⟨present, filed⟩ := List.mem_filter.mp inside
      exact fun named => sold ⟨i, present, beq_iff_eq.mp filed, beq_iff_eq.mp named⟩
    rw [asked, List.filter_eq_nil_iff.mpr none, Db.heldBy]
    have unreserved : (s.db.reservations.rows.filter fun r =>
        call.pc.claim.reservations.contains r.id && r.product == product) = [] := by
      refine List.filter_eq_nil_iff.mpr fun r inside picked => sold ?_
      simp only [Bool.and_eq_true, List.contains_iff_mem, beq_iff_eq] at picked
      obtain ⟨line, there, filed, named⟩ := (lined i call at_i r inside picked.1).order id claims
      exact ⟨line, there, filed, named.trans (congrArg some picked.2)⟩
    rw [unreserved]
    rfl

theorem Sys.Returned.reserves {i : Nat} {req : Request} {frame : Frame} {o : Order} (returned : s.Returned i req frame o)
    (owned : s.Owned) (linked : s.ReturnsLinked) (one : s.OneLineEach) (lined : s.Lined) (product : Id) :
    s.db.reservedFor o.id product = s.db.orderedFor o.id product := by
  obtain ⟨result, at_i⟩ := returned.ended
  let pc : Pc := .done frame (.ok result)
  have claims : pc.claim.orderId = some o.id := by
    simp [pc, Pc.claim, Pc.frame, Frame.claim, Claim.orderId, returned.mine, Order.core]
  rw [← owned.reserves one lined at_i claims product, Db.reservedFor, Db.heldBy]
  congr 2
  refine List.filter_congr fun r member => ?_
  rw [Bool.eq_iff_iff]
  simp only [Bool.and_eq_true, beq_iff_eq, List.contains_iff_mem]
  exact and_congr_left fun _ => returned.holds_iff owned linked member

end Steps

end Storefront
