import Storefront.System.Effects

set_option autoImplicit false

/-!
# Who owns what

Every order, payment and reservation in the database was written by one checkout,
which still knows it. A call is described by the part of the skeleton it claims, and
no step of anybody else reaches into that part.
-/

namespace Storefront

open Relational Transition

structure Claim where
  reservations : List Id
  order : Option OrderCore
  payment : Option PaymentCore

def Frame.claim (frame : Frame) : Claim :=
  ⟨frame.reservations, frame.order.map Order.core, frame.payment.map Payment.core⟩

def Pc.claim (pc : Pc) : Claim := pc.frame.claim

namespace Claim

def orderId (c : Claim) : Option Id := c.order.map OrderCore.id

def link (c : Claim) : Option Id := c.order.bind fun o => o.cart.map fun _ => o.id

end Claim

structure Own where
  orders : List OrderCore
  items : List OrderItem
  holds : List HoldCore
  payments : List PaymentCore

namespace Skeleton

def own (sk : Skeleton) (order : Option Id) (reservations : List Id) : Own where
  orders := sk.orders.filter fun o => some o.id == order
  items := sk.items.filter fun i => some i.order == order
  holds := sk.holds.filter fun h => reservations.contains h.id || (h.order.isSome && h.order == order)
  payments := sk.payments.filter fun p => some p.order == order

def addPlace (sk : Skeleton) (place : Id × Id) : Skeleton :=
  { sk with places := sk.places ++ [place] }

def addHolds (sk : Skeleton) (holds : List HoldCore) : Skeleton :=
  { sk with holds := sk.holds ++ holds }

def addOrder (sk : Skeleton) (order : OrderCore) (items : List OrderItem) : Skeleton :=
  { sk with orders := sk.orders ++ [order], items := sk.items ++ items }

def addPayment (sk : Skeleton) (payment : PaymentCore) : Skeleton :=
  { sk with payments := sk.payments ++ [payment] }

def link (sk : Skeleton) (reservations : List Id) (order cart : Id) : Skeleton :=
  { sk with
    orders := sk.orders.map fun o => if o.id = order then { o with cart := some cart } else o
    holds := sk.holds.map fun h =>
      if reservations.contains h.id then { h with order := some order } else h }

end Skeleton

def supply (holds : List HoldCore) (product : Id) : Int :=
  ((holds.filter fun h => h.product == product).map HoldCore.quantity).sum

structure Registered (sk : Skeleton) (req : Request) (c : Claim) : Prop where
  orders : (sk.own c.orderId c.reservations).orders = c.order.toList
  payments : (sk.own c.orderId c.reservations).payments = c.payment.toList
  holds : (sk.own c.orderId c.reservations).holds.map HoldCore.id = c.reservations
  linked : ∀ h ∈ (sk.own c.orderId c.reservations).holds, h.tenant = req.tenant ∧ h.order = c.link
  supplied : ∀ i ∈ (sk.own c.orderId c.reservations).items, ∃ product, i.product = some product ∧
    supply (sk.own c.orderId c.reservations).holds product = i.quantity
  mine : ∀ o ∈ c.order, o.tenant = req.tenant ∧ o.idempotency_key = req.idempotency_key
  billed : ∀ p ∈ c.payment, p.tenant = req.tenant ∧ c.orderId = some p.order

def Card (req : Request) (payment : Payment) : Prop :=
  payment.gateway_config.isSome = true ∧ payment.idempotency_key = req.idempotency_key ++ ":auth"

def Stage (sk : Skeleton) (req : Request) : Pc → Prop
  | .find | .lock | .undo .. | .crashed .. | .done _ (.error _) => True
  | .validate view | .reserve view => ∀ p ∈ view.products, (p.id, req.tenant) ∈ sk.places
  | .create view reservations => ∀ item ∈ view.items, (∃ p ∈ view.products, p.id = item.product) →
      supply (sk.own none reservations).holds item.product = item.quantity
  | .invoice placed | .resolve placed | .insertPayment placed _ => placed.order.cart = none
  | .convertInvoiced placed payment => placed.order.cart = none ∧ payment.gateway_config = none
  | .authorize placed payment => placed.order.cart = none ∧ Card req payment ∧ payment.status = .pending
  | .recordError placed payment _ | .recordResult placed payment _ | .convert placed payment =>
    placed.order.cart = none ∧ Card req payment
  | .captureRead placed payment | .paid placed payment =>
    placed.order.cart.isSome = true ∧ Card req payment
  | .capture placed row | .captureWrite placed row _ =>
    placed.order.cart.isSome = true ∧ Card req row ∧ row.status = .authorized
  | .done _ (.ok result) => ∃ o ∈ sk.orders, o.id = result.order ∧ o.tenant = req.tenant ∧
      o.idempotency_key = req.idempotency_key

structure Apart (c d : Claim) : Prop where
  orders : ∀ id ∈ c.orderId, d.orderId ≠ some id
  reservations : List.Disjoint c.reservations d.reservations

structure Ownership (sk : Skeleton) (calls : Nat → Option Call) : Prop where
  registered : ∀ i call, calls i = some call → Registered sk call.req call.pc.claim
  stage : ∀ i call, calls i = some call → Stage sk call.req call.pc
  apart : ∀ i j c d, calls i = some c → calls j = some d → i ≠ j → Apart c.pc.claim d.pc.claim
  owned : ∀ o ∈ sk.orders, ∃ i call, calls i = some call ∧ call.pc.claim.order = some o
  items : ∀ i ∈ sk.items, ∃ o ∈ sk.orders, o.id = i.order
  holds : ∀ h ∈ sk.holds, ∀ id ∈ h.order, ∃ o ∈ sk.orders, o.id = id
  payments : ∀ p ∈ sk.payments, ∃ o ∈ sk.orders, o.id = p.order

theorem Apart.symm {c d : Claim} (apart : Apart c d) : Apart d c :=
  ⟨fun id mine theirs => apart.orders id theirs mine, apart.reservations.symm⟩

theorem Registered.of_own {sk sk' : Skeleton} {req : Request} {c : Claim}
    (registered : Registered sk req c)
    (same : sk'.own c.orderId c.reservations = sk.own c.orderId c.reservations) :
    Registered sk' req c := by
  obtain ⟨orders, payments, holds, linked, supplied, mine, billed⟩ := registered
  rw [← same] at orders payments holds linked supplied
  exact ⟨orders, payments, holds, linked, supplied, mine, billed⟩

theorem Registered.order_mem {sk : Skeleton} {req : Request} {c : Claim} (registered : Registered sk req c)
    {o : OrderCore} (mine : c.order = some o) : o ∈ sk.orders := by
  have inside : o ∈ (sk.own c.orderId c.reservations).orders := by rw [registered.orders, mine]; simp
  exact (List.mem_filter.mp inside).1

theorem Registered.payment_mem {sk : Skeleton} {req : Request} {c : Claim}
    (registered : Registered sk req c) {p : PaymentCore} (mine : c.payment = some p) :
    p ∈ sk.payments := by
  have inside : p ∈ (sk.own c.orderId c.reservations).payments := by
    rw [registered.payments, mine]; simp
  exact (List.mem_filter.mp inside).1

theorem Registered.hold_mem {sk : Skeleton} {req : Request} {c : Claim}
    (registered : Registered sk req c) {id : Id} (mine : id ∈ c.reservations) :
    ∃ h ∈ sk.holds, h.id = id ∧ h.tenant = req.tenant ∧ h.order = c.link := by
  rw [← registered.holds] at mine
  obtain ⟨h, inside, rfl⟩ := List.mem_map.mp mine
  exact ⟨h, (List.mem_filter.mp inside).1, rfl, registered.linked h inside⟩

theorem filter_map_fixed {α : Type} {l : List α} {p : α → Bool} {f : α → α}
    (fixed : ∀ a ∈ l, p (f a) = p a ∧ (p a = true → f a = a)) : (l.map f).filter p = l.filter p := by
  induction l with
  | nil => rfl
  | cons a rest ih =>
    obtain ⟨same, still⟩ := fixed a (by simp)
    have tail := ih fun b inside => fixed b (by simp [inside])
    by_cases kept : p a = true
    · simp [kept, still kept, tail]
    · simp [same, kept, tail]

namespace Skeleton

variable (sk : Skeleton) {order : Option Id} {reservations : List Id}

theorem own_none (reservations : List Id) : sk.own none reservations =
    ⟨[], [], sk.holds.filter fun h => reservations.contains h.id, []⟩ := by
  have holds : sk.holds.filter (fun h => reservations.contains h.id || (h.order.isSome && h.order == none)) =
      sk.holds.filter fun h => reservations.contains h.id := by
    apply List.filter_congr
    intro h _
    cases h.order <;> simp
  simp only [own, holds]
  simp

theorem own_addHolds {holds : List HoldCore}
    (foreign : ∀ h ∈ holds, h.id ∉ reservations ∧ h.order = none) :
    (sk.addHolds holds).own order reservations = sk.own order reservations := by
  have none : holds.filter (fun h => reservations.contains h.id ||
      (h.order.isSome && h.order == order)) = [] := by
    rw [List.filter_eq_nil_iff]
    intro h inside
    obtain ⟨unnamed, unlinked⟩ := foreign h inside
    simp [unnamed, unlinked]
  simp only [own, addHolds, List.filter_append, none, List.append_nil]

theorem own_addOrder {o : OrderCore} {items : List OrderItem} (other : order ≠ some o.id)
    (lines : ∀ i ∈ items, i.order = o.id) :
    (sk.addOrder o items).own order reservations = sk.own order reservations := by
  have apart : some o.id ≠ order := Ne.symm other
  have none : items.filter (fun i => some i.order == order) = [] := by
    rw [List.filter_eq_nil_iff]
    intro i inside
    simpa [lines i inside] using apart
  simp [own, addOrder, apart, none]

theorem own_addPayment {p : PaymentCore} (other : order ≠ some p.order) :
    (sk.addPayment p).own order reservations = sk.own order reservations := by
  have apart : some p.order ≠ order := Ne.symm other
  simp [own, addPayment, apart]

theorem own_link {ids : List Id} {id cart : Id} (other : order ≠ some id)
    (disjoint : List.Disjoint ids reservations) (unlinked : ∀ h ∈ sk.holds, h.id ∈ ids → h.order = none) :
    (sk.link ids id cart).own order reservations = sk.own order reservations := by
  have apart : some id ≠ order := Ne.symm other
  have orders := filter_map_fixed (l := sk.orders) (p := fun o => some o.id == order)
    (f := fun o => if o.id = id then { o with cart := some cart } else o) fun o _ => by
      by_cases named : o.id = id <;> simp [named, apart]
  have holds := filter_map_fixed (l := sk.holds)
    (p := fun h => reservations.contains h.id || (h.order.isSome && h.order == order))
    (f := fun h => if ids.contains h.id then { h with order := some id } else h) fun h inside => by
      by_cases named : h.id ∈ ids
      · have foreign : h.id ∉ reservations := fun mine => disjoint named mine
        simp [named, foreign, unlinked h inside named, apart]
      · simp [named]
  simp only [own, link, orders, holds]

end Skeleton

theorem Stage.keeps {sk sk' : Skeleton} {req : Request} {pc : Pc} (stage : Stage sk req pc)
    (own : sk'.own pc.claim.orderId pc.claim.reservations =
      sk.own pc.claim.orderId pc.claim.reservations)
    (places : ∀ place ∈ sk.places, place ∈ sk'.places)
    (orders : ∀ o ∈ sk.orders, ∃ o' ∈ sk'.orders, o'.id = o.id ∧ o'.tenant = o.tenant ∧
      o'.idempotency_key = o.idempotency_key) : Stage sk' req pc := by
  cases pc with
  | validate view => exact fun p inside => places _ (stage p inside)
  | reserve view => exact fun p inside => places _ (stage p inside)
  | create view reservations =>
    intro item inside known
    have same : sk'.own none reservations = sk.own none reservations := own
    rw [same]
    exact stage item inside known
  | done frame result =>
    cases result with
    | error e => trivial
    | ok result =>
      obtain ⟨o, member, named, tenant, key⟩ := stage
      obtain ⟨o', there, id, owner, text⟩ := orders o member
      exact ⟨o', there, id.trans named, owner.trans tenant, text.trans key⟩
  | _ => exact stage

theorem Ownership.moved {sk sk' : Skeleton} {calls : Nat → Option Call} {i : Nat} {c : Call} {pc : Pc}
    (ownership : Ownership sk calls) (at_i : calls i = some c)
    (others : ∀ j d, calls j = some d → i ≠ j →
      sk'.own d.pc.claim.orderId d.pc.claim.reservations =
        sk.own d.pc.claim.orderId d.pc.claim.reservations ∧ Apart pc.claim d.pc.claim)
    (places : ∀ place ∈ sk.places, place ∈ sk'.places)
    (orders : ∀ o ∈ sk.orders, ∃ o' ∈ sk'.orders, o'.id = o.id ∧ o'.tenant = o.tenant ∧
      o'.idempotency_key = o.idempotency_key)
    (registered : Registered sk' c.req pc.claim) (stage : Stage sk' c.req pc)
    (owned : ∀ o ∈ sk'.orders, pc.claim.order = some o ∨ (o ∈ sk.orders ∧ c.pc.claim.order ≠ some o))
    (items : ∀ i ∈ sk'.items, ∃ o ∈ sk'.orders, o.id = i.order)
    (holds : ∀ h ∈ sk'.holds, ∀ id ∈ h.order, ∃ o ∈ sk'.orders, o.id = id)
    (payments : ∀ p ∈ sk'.payments, ∃ o ∈ sk'.orders, o.id = p.order) :
    Ownership sk' (Function.update calls i (some ⟨c.req, pc⟩)) := by
  have now (j : Nat) (d : Call) (at_j : Function.update calls i (some ⟨c.req, pc⟩) j = some d) :
      (j = i ∧ d = ⟨c.req, pc⟩) ∨ (i ≠ j ∧ calls j = some d) := by
    by_cases same : j = i
    · subst same
      exact .inl ⟨rfl, by simpa [eq_comm] using at_j⟩
    · exact .inr ⟨Ne.symm same, by simpa [same] using at_j⟩
  refine ⟨?_, ?_, ?_, ?_, items, holds, payments⟩
  · intro j d at_j
    rcases now j d at_j with ⟨rfl, rfl⟩ | ⟨other, before⟩
    · exact registered
    · exact (ownership.registered j d before).of_own (others j d before other).1
  · intro j d at_j
    rcases now j d at_j with ⟨rfl, rfl⟩ | ⟨other, before⟩
    · exact stage
    · exact (ownership.stage j d before).keeps (others j d before other).1 places orders
  · intro j k d e at_j at_k different
    rcases now j d at_j with ⟨rfl, rfl⟩ | ⟨left, beforeJ⟩
    · rcases now k e at_k with ⟨rfl, rfl⟩ | ⟨right, beforeK⟩
      · exact absurd rfl different
      · exact (others k e beforeK right).2
    · rcases now k e at_k with ⟨rfl, rfl⟩ | ⟨right, beforeK⟩
      · exact (others j d beforeJ left).2.symm
      · exact ownership.apart j k d e beforeJ beforeK different
  · intro o member
    rcases owned o member with mine | ⟨before, foreign⟩
    · exact ⟨i, ⟨c.req, pc⟩, by simp, mine⟩
    · obtain ⟨j, d, at_j, theirs⟩ := ownership.owned o before
      have other : j ≠ i := by
        rintro rfl
        rw [at_i] at at_j
        exact foreign (Option.some.inj at_j ▸ theirs)
      exact ⟨j, d, by simpa [other] using at_j, theirs⟩

theorem Ownership.next {sk : Skeleton} {calls : Nat → Option Call} {i : Nat} {c : Call} {pc : Pc}
    (ownership : Ownership sk calls) (at_i : calls i = some c) (claim : pc.claim = c.pc.claim)
    (stage : Stage sk c.req pc) : Ownership sk (Function.update calls i (some ⟨c.req, pc⟩)) := by
  refine ownership.moved at_i ?_ (fun _ => id) (fun o member => ⟨o, member, rfl, rfl, rfl⟩) ?_ stage ?_
    ownership.items ownership.holds ownership.payments
  · intro j d at_j other
    exact ⟨rfl, claim ▸ ownership.apart i j c d at_i at_j other⟩
  · exact claim ▸ ownership.registered i c at_i
  · intro o member
    by_cases mine : c.pc.claim.order = some o
    · exact .inl (claim ▸ mine)
    · exact .inr ⟨member, mine⟩

theorem Ownership.begun {sk : Skeleton} {calls : Nat → Option Call} {i : Nat} {req : Request}
    (ownership : Ownership sk calls) (free : calls i = none) :
    Ownership sk (Function.update calls i (some ⟨req, .find⟩)) := by
  have now (j : Nat) (d : Call) (at_j : Function.update calls i (some ⟨req, .find⟩) j = some d) :
      (j = i ∧ d = ⟨req, .find⟩) ∨ calls j = some d := by
    by_cases same : j = i
    · subst same
      exact .inl ⟨rfl, by simpa [eq_comm] using at_j⟩
    · exact .inr (by simpa [same] using at_j)
  have empty : Registered sk req (Pc.claim .find) := by
    refine ⟨?_, ?_, ?_, ?_, ?_, ?_, ?_⟩ <;>
      simp [Pc.claim, Pc.frame, Frame.claim, Claim.orderId, Skeleton.own_none]
  refine ⟨?_, ?_, ?_, ?_, ownership.items, ownership.holds, ownership.payments⟩
  · intro j d at_j
    rcases now j d at_j with ⟨_, rfl⟩ | before
    · exact empty
    · exact ownership.registered j d before
  · intro j d at_j
    rcases now j d at_j with ⟨_, rfl⟩ | before
    · trivial
    · exact ownership.stage j d before
  · have nothing (c : Claim) : Apart (Pc.claim .find) c := ⟨by simp [Pc.claim, Pc.frame, Frame.claim,
      Claim.orderId], by simp [Pc.claim, Pc.frame, Frame.claim]⟩
    intro j k d e at_j at_k different
    rcases now j d at_j with ⟨_, rfl⟩ | beforeJ
    · exact nothing _
    · rcases now k e at_k with ⟨_, rfl⟩ | beforeK
      · exact (nothing _).symm
      · exact ownership.apart j k d e beforeJ beforeK different
  · intro o member
    obtain ⟨j, d, at_j, mine⟩ := ownership.owned o member
    have other : j ≠ i := by
      rintro rfl
      simp [free] at at_j
    exact ⟨j, d, by simpa [other] using at_j, mine⟩

theorem Ownership.addPlace {sk : Skeleton} {calls : Nat → Option Call} (place : Id × Id)
    (ownership : Ownership sk calls) : Ownership (sk.addPlace place) calls :=
  ⟨fun i c at_i => (ownership.registered i c at_i).of_own rfl,
    fun i c at_i => (ownership.stage i c at_i).keeps rfl (fun _ member => List.mem_append_left _ member)
      fun o member => ⟨o, member, rfl, rfl, rfl⟩,
    ownership.apart, ownership.owned, ownership.items, ownership.holds, ownership.payments⟩

section Growth

variable {sk : Skeleton} {calls : Nat → Option Call} {i : Nat} {c : Call} {pc : Pc}

theorem Ownership.addHolds (ownership : Ownership sk calls) (at_i : calls i = some c)
    {holds : List HoldCore} (before : c.pc.claim = ⟨[], none, none⟩)
    (after : pc.claim = ⟨holds.map HoldCore.id, none, none⟩)
    (fresh : ∀ h ∈ holds, ∀ h' ∈ sk.holds, h'.id ≠ h.id)
    (unlinked : ∀ h ∈ holds, h.tenant = c.req.tenant ∧ h.order = none)
    (stage : (sk.addHolds holds).own none (holds.map HoldCore.id) = ⟨[], [], holds, []⟩ →
      Stage (sk.addHolds holds) c.req pc) :
    Ownership (sk.addHolds holds) (Function.update calls i (some ⟨c.req, pc⟩)) := by
  have own : (sk.addHolds holds).own none (holds.map HoldCore.id) = ⟨[], [], holds, []⟩ := by
    have old : sk.holds.filter (fun h => (holds.map HoldCore.id).contains h.id) = [] := by
      rw [List.filter_eq_nil_iff]
      intro h' member named
      rw [List.contains_iff_mem] at named
      obtain ⟨h, inside, same⟩ := List.mem_map.mp named
      exact fresh h inside h' member same.symm
    have new : holds.filter (fun h => (holds.map HoldCore.id).contains h.id) = holds := by
      rw [List.filter_eq_self]
      intro h inside
      rw [List.contains_iff_mem]
      exact List.mem_map_of_mem inside
    simp only [Skeleton.own_none, Skeleton.addHolds, List.filter_append, old, new, List.nil_append]
  refine ownership.moved at_i ?_ (fun _ => id) (fun o member => ⟨o, member, rfl, rfl, rfl⟩) ?_ (stage own)
    ?_ ownership.items ?_ ownership.payments
  · intro j d at_j other
    have theirs := ownership.registered j d at_j
    have foreign (h : HoldCore) (inside : h ∈ holds) : h.id ∉ d.pc.claim.reservations := by
      intro named
      obtain ⟨h', member, same, _⟩ := theirs.hold_mem named
      exact fresh h inside h' member same
    refine ⟨sk.own_addHolds fun h inside => ⟨foreign h inside, (unlinked h inside).2⟩, ?_, ?_⟩
    · simp [after, Claim.orderId]
    · rw [after]
      intro id mine named
      obtain ⟨h, inside, rfl⟩ := List.mem_map.mp mine
      exact foreign h inside named
  · rw [after]
    have nothing : Claim.orderId ⟨holds.map HoldCore.id, none, none⟩ = none := rfl
    refine ⟨?_, ?_, ?_, ?_, ?_, ?_, ?_⟩ <;> simp only [nothing, own]
    · rfl
    · rfl
    · exact unlinked
    · simp
    · simp
    · simp
  · exact fun o member => .inr ⟨member, by simp [before]⟩
  · intro h member id linked
    rcases List.mem_append.mp member with old | new
    · exact ownership.holds h old id linked
    · simp [(unlinked h new).2] at linked

theorem Ownership.addOrder (ownership : Ownership sk calls) (at_i : calls i = some c) {o : OrderCore}
    {items : List OrderItem} {reservations : List Id} (before : c.pc.claim = ⟨reservations, none, none⟩)
    (after : pc.claim = ⟨reservations, some o, none⟩) (fresh : ∀ o' ∈ sk.orders, o'.id ≠ o.id)
    (unlinked : o.cart = none)
    (mine : o.tenant = c.req.tenant ∧ o.idempotency_key = c.req.idempotency_key)
    (lines : ∀ item ∈ items, item.order = o.id ∧ ∃ product, item.product = some product ∧
      supply (sk.own none reservations).holds product = item.quantity)
    (stage : Stage (sk.addOrder o items) c.req pc) :
    Ownership (sk.addOrder o items) (Function.update calls i (some ⟨c.req, pc⟩)) := by
  have registered := ownership.registered i c at_i
  rw [before] at registered
  have orders : sk.orders.filter (fun o' => o'.id == o.id) = [] := by
    rw [List.filter_eq_nil_iff]
    intro o' member
    simpa using fresh o' member
  have payments : sk.payments.filter (fun p => p.order == o.id) = [] := by
    rw [List.filter_eq_nil_iff]
    intro p member same
    obtain ⟨o', there, named⟩ := ownership.payments p member
    exact fresh o' there (named.trans (beq_iff_eq.mp same))
  have old : sk.items.filter (fun item => item.order == o.id) = [] := by
    rw [List.filter_eq_nil_iff]
    intro item member same
    obtain ⟨o', there, named⟩ := ownership.items item member
    exact fresh o' there (named.trans (beq_iff_eq.mp same))
  have new : items.filter (fun item => item.order == o.id) = items := by
    rw [List.filter_eq_self]
    intro item inside
    simpa using (lines item inside).1
  have holds : (sk.own (some o.id) reservations).holds = (sk.own none reservations).holds := by
    apply List.filter_congr
    intro h member
    have foreign : h.order ≠ some o.id := by
      intro linked
      obtain ⟨o', there, named⟩ := ownership.holds h member o.id linked
      exact fresh o' there named
    cases order : h.order with
    | none => rfl
    | some id =>
      rw [order] at foreign
      have other : ((some id : Option Id) == some o.id) = false := by simpa using foreign
      simp [other]
  have own : (sk.addOrder o items).own (some o.id) reservations =
      ⟨[o], items, (sk.own none reservations).holds, []⟩ := by
    rw [← holds]
    simp [Skeleton.own, Skeleton.addOrder, orders, payments, old, new]
  refine ownership.moved at_i ?_ (fun _ => id)
    (fun o' member => ⟨o', List.mem_append_left _ member, rfl, rfl, rfl⟩) ?_ stage ?_ ?_ ?_ ?_
  · intro j d at_j other
    have theirs := ownership.registered j d at_j
    have foreign : d.pc.claim.orderId ≠ some o.id := by
      intro same
      obtain ⟨o', mine, named⟩ := Option.map_eq_some_iff.mp same
      exact fresh o' (theirs.order_mem mine) named
    refine ⟨sk.own_addOrder foreign fun item inside => (lines item inside).1, ?_, ?_⟩
    · intro id same
      obtain rfl : o.id = id := by simpa [after, Claim.orderId] using same
      exact foreign
    · have apart := (ownership.apart i j c d at_i at_j other).reservations
      rw [before] at apart
      rw [after]
      exact apart
  · rw [after]
    have named : Claim.orderId ⟨reservations, some o, none⟩ = some o.id := rfl
    have bare : Claim.link ⟨reservations, some o, none⟩ = none := by simp [Claim.link, unlinked]
    refine ⟨?_, ?_, ?_, ?_, ?_, ?_, ?_⟩ <;> simp only [named, own, bare]
    · rfl
    · rfl
    · exact registered.holds
    · exact registered.linked
    · exact fun item inside => (lines item inside).2
    · intro o' same
      obtain rfl : o = o' := by simpa using same
      exact mine
    · simp
  · intro o' member
    rcases List.mem_append.mp member with earlier | now
    · exact .inr ⟨earlier, by simp [before]⟩
    · exact .inl (by simp [after, List.mem_singleton.mp now])
  · intro item member
    rcases List.mem_append.mp member with earlier | now
    · obtain ⟨o', there, named⟩ := ownership.items item earlier
      exact ⟨o', List.mem_append_left _ there, named⟩
    · exact ⟨o, by simp [Skeleton.addOrder], (lines item now).1.symm⟩
  · intro h member id linked
    obtain ⟨o', there, named⟩ := ownership.holds h member id linked
    exact ⟨o', List.mem_append_left _ there, named⟩
  · intro p member
    obtain ⟨o', there, named⟩ := ownership.payments p member
    exact ⟨o', List.mem_append_left _ there, named⟩

theorem Ownership.addPayment (ownership : Ownership sk calls) (at_i : calls i = some c) {o : OrderCore}
    {p : PaymentCore} {reservations : List Id} (before : c.pc.claim = ⟨reservations, some o, none⟩)
    (after : pc.claim = ⟨reservations, some o, some p⟩) (mine : p.tenant = c.req.tenant ∧ p.order = o.id)
    (stage : Stage (sk.addPayment p) c.req pc) :
    Ownership (sk.addPayment p) (Function.update calls i (some ⟨c.req, pc⟩)) := by
  have registered := ownership.registered i c at_i
  rw [before] at registered
  have named : Claim.orderId ⟨reservations, some o, some p⟩ = some o.id := rfl
  have own : (sk.addPayment p).own (some o.id) reservations =
      { sk.own (some o.id) reservations with payments := [p] } := by
    have none : sk.payments.filter (fun p => some p.order == some o.id) = [] := registered.payments
    simp only [Skeleton.own, Skeleton.addPayment, List.filter_append, none]
    simp [mine.2]
  refine ownership.moved at_i ?_ (fun _ => id) (fun o' member => ⟨o', member, rfl, rfl, rfl⟩) ?_ stage ?_
    ownership.items ownership.holds ?_
  · intro j d at_j other
    have apart := ownership.apart i j c d at_i at_j other
    have foreign : d.pc.claim.orderId ≠ some o.id := apart.orders o.id (by simp [before, Claim.orderId])
    refine ⟨sk.own_addPayment (mine.2 ▸ foreign), ?_, ?_⟩
    · intro id same
      exact apart.orders id (by simpa [before, after, Claim.orderId] using same)
    · have disjoint := apart.reservations
      rw [before] at disjoint
      rw [after]
      exact disjoint
  · rw [after]
    refine ⟨?_, ?_, ?_, ?_, ?_, ?_, ?_⟩ <;> simp only [named, own]
    · exact registered.orders
    · rfl
    · exact registered.holds
    · exact registered.linked
    · exact registered.supplied
    · exact registered.mine
    · intro p' same
      obtain rfl : p = p' := by simpa using same
      exact ⟨mine.1, by rw [mine.2]⟩
  · intro o' member
    by_cases same : o' = o
    · exact .inl (by simp [after, same])
    · exact .inr ⟨member, by simp [before, Ne.symm same]⟩
  · intro p' member
    rcases List.mem_append.mp member with earlier | now
    · exact ownership.payments p' earlier
    · rw [List.mem_singleton.mp now]
      exact ⟨o, registered.order_mem rfl, mine.2.symm⟩

theorem Ownership.link (ownership : Ownership sk calls) (at_i : calls i = some c) {o : OrderCore}
    {p : Option PaymentCore} {reservations : List Id} {cart : Id} (unlinked : o.cart = none)
    (before : c.pc.claim = ⟨reservations, some o, p⟩)
    (after : pc.claim = ⟨reservations, some { o with cart := some cart }, p⟩)
    (stage : Registered (sk.link reservations o.id cart) c.req pc.claim →
      Stage (sk.link reservations o.id cart) c.req pc) :
    Ownership (sk.link reservations o.id cart) (Function.update calls i (some ⟨c.req, pc⟩)) := by
  have registered := ownership.registered i c at_i
  rw [before] at registered
  have bare : Claim.link ⟨reservations, some o, p⟩ = none := by simp [Claim.link, unlinked]
  have named : Claim.orderId ⟨reservations, some { o with cart := some cart }, p⟩ = some o.id := rfl
  have orders : sk.orders.filter (fun o' => some o'.id == some o.id) = [o] := registered.orders
  have open_holds (h : HoldCore) (member : h ∈ sk.holds) :
      h.order ≠ some o.id ∧ (h.id ∈ reservations → h.order = none) := by
    have inside (kept : h.id ∈ reservations ∨ h.order = some o.id) : h.order = none := by
      have mine : h ∈ (sk.own (some o.id) reservations).holds := by
        refine List.mem_filter.mpr ⟨member, ?_⟩
        rcases kept with kept | kept <;> simp [kept]
      exact (registered.linked h mine).2.trans bare
    refine ⟨fun same => ?_, fun kept => inside (.inl kept)⟩
    have := inside (.inr same)
    simp [same] at this
  have holds : ((sk.link reservations o.id cart).own (some o.id) reservations).holds =
      (sk.own (some o.id) reservations).holds.map fun h => { h with order := some o.id } := by
    simp only [Skeleton.own, Skeleton.link, List.filter_map]
    have same : sk.holds.filter ((fun h => reservations.contains h.id ||
        (h.order.isSome && h.order == some o.id)) ∘ fun h =>
          if reservations.contains h.id = true then { h with order := some o.id } else h) =
        sk.holds.filter fun h => reservations.contains h.id || (h.order.isSome && h.order == some o.id) := by
      apply List.filter_congr
      intro h _
      by_cases kept : h.id ∈ reservations <;> simp [kept]
    rw [same]
    apply List.map_congr_left
    intro h member
    obtain ⟨there, kept⟩ := List.mem_filter.mp member
    have foreign := (open_holds h there).1
    have inside : h.id ∈ reservations := by simpa [foreign] using kept
    simp [inside]
  have own : (sk.link reservations o.id cart).own (some o.id) reservations =
      ⟨[{ o with cart := some cart }], (sk.own (some o.id) reservations).items,
        (sk.own (some o.id) reservations).holds.map fun h => { h with order := some o.id },
        (sk.own (some o.id) reservations).payments⟩ := by
    rw [← holds]
    have linked : (sk.link reservations o.id cart).orders.filter (fun o' => some o'.id == some o.id) =
        [{ o with cart := some cart }] := by
      simp only [Skeleton.link, List.filter_map]
      have same : sk.orders.filter ((fun o' => some o'.id == some o.id) ∘ fun o' =>
          if o'.id = o.id then { o' with cart := some cart } else o') =
          sk.orders.filter fun o' => some o'.id == some o.id := by
        apply List.filter_congr
        intro o' _
        by_cases named : o'.id = o.id <;> simp [named]
      rw [same, orders]
      simp
    simp only [Skeleton.own] at linked ⊢
    rw [linked]
    rfl
  have kept : Registered (sk.link reservations o.id cart) c.req pc.claim := by
    rw [after]
    have link : Claim.link ⟨reservations, some { o with cart := some cart }, p⟩ = some o.id := rfl
    refine ⟨?_, ?_, ?_, ?_, ?_, ?_, ?_⟩ <;> simp only [named, own, link]
    · rfl
    · exact registered.payments
    · rw [List.map_map]
      exact registered.holds
    · intro h member
      obtain ⟨old, inside, rfl⟩ := List.mem_map.mp member
      exact ⟨(registered.linked old inside).1, rfl⟩
    · intro item inside
      obtain ⟨product, same, enough⟩ := registered.supplied item inside
      refine ⟨product, same, ?_⟩
      rw [← enough]
      simp only [supply, List.filter_map, List.map_map]
      rfl
    · intro o' same
      obtain rfl : { o with cart := some cart } = o' := by simpa using same
      exact registered.mine o rfl
    · exact registered.billed
  refine ownership.moved at_i ?_ (fun _ => id) ?_ kept (stage kept) ?_ ?_ ?_ ?_
  · intro j d at_j other
    have apart := ownership.apart i j c d at_i at_j other
    have foreign : d.pc.claim.orderId ≠ some o.id := apart.orders o.id (by simp [before, Claim.orderId])
    have disjoint := apart.reservations
    rw [before] at disjoint
    refine ⟨sk.own_link foreign disjoint fun h member => (open_holds h member).2, ?_, ?_⟩
    · intro id same
      obtain rfl : o.id = id := by simpa [after, Claim.orderId] using same
      exact foreign
    · rw [after]
      exact disjoint
  · intro o' member
    refine ⟨_, List.mem_map_of_mem member, ?_⟩
    by_cases same : o'.id = o.id <;> simp [same]
  · intro o' member
    obtain ⟨old, there, rfl⟩ := List.mem_map.mp member
    by_cases same : old.id = o.id
    · have inside : old ∈ sk.orders.filter fun o' => some o'.id == some o.id :=
        List.mem_filter.mpr ⟨there, by simp [same]⟩
      rw [orders, List.mem_singleton] at inside
      exact .inl (by simp [after, inside])
    · refine .inr ⟨by simpa [same] using there, ?_⟩
      simp only [before, same, if_false]
      intro mine
      exact same (congrArg OrderCore.id (Option.some.inj mine)).symm
  · intro item member
    obtain ⟨o', there, same⟩ := ownership.items item member
    refine ⟨_, List.mem_map_of_mem there, ?_⟩
    by_cases here : o'.id = o.id <;> simpa [here] using same
  · intro h member id linked
    obtain ⟨old, there, rfl⟩ := List.mem_map.mp member
    have known : ∃ o' ∈ sk.orders, o'.id = id := by
      by_cases kept : old.id ∈ reservations
      · obtain rfl : o.id = id := by simpa [kept] using linked
        exact ⟨o, registered.order_mem rfl, rfl⟩
      · exact ownership.holds old there id (by simpa [kept] using linked)
    obtain ⟨o', inside, same⟩ := known
    refine ⟨_, List.mem_map_of_mem inside, ?_⟩
    by_cases here : o'.id = o.id <;> simpa [here] using same
  · intro p' member
    obtain ⟨o', there, same⟩ := ownership.payments p' member
    refine ⟨_, List.mem_map_of_mem there, ?_⟩
    by_cases here : o'.id = o.id <;> simpa [here] using same

end Growth

end Storefront
