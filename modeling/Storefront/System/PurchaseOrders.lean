import Storefront.System.Lines
import Storefront.System.NeutralCancel

set_option autoImplicit false

/-!
# Purchase orders

The order, the invoice and the reservations of a purchase order move together,
when its checkout and its cancellation are one transaction each.
-/

namespace Storefront

open Relational Transition

inductive PurchaseStage
  | invoiced | paid | cancelled
  deriving DecidableEq, Repr

namespace PurchaseStage

def order : PurchaseStage → OrderStatus
  | invoiced => .pending
  | paid => .paid
  | cancelled => .cancelled

def payment : PurchaseStage → PaymentStatus
  | invoiced => .invoicePending
  | paid => .captured
  | cancelled => .cancelled

def reservations : PurchaseStage → ReservationStatus
  | invoiced | paid => .committed
  | cancelled => .released

end PurchaseStage

/-- The order, its one payment and all of its reservations are at the stage. -/
structure AtStage (db : Db) (id : Id) (stage : PurchaseStage) : Prop where
  order : db.orderStatus id = some stage.order
  payment : ∃ p, (db.payments.rows.filter fun p => p.order == id) = [p] ∧ p.status = stage.payment
  reservations : ∀ r ∈ db.reservations.rows, r.order = some id → r.status = stage.reservations

theorem AtStage.unique {db : Db} {id : Id} {stage stage' : PurchaseStage} (left : AtStage db id stage)
    (right : AtStage db id stage') : stage = stage' := by
  have same := Option.some.inj (left.order.symm.trans right.order)
  revert same
  cases stage <;> cases stage' <;> decide

theorem cancelOrder_spares {tenant customer order : Id} {db db' : Db}
    (done : cancelOrder tenant customer order db = .ok db') {r : InventoryReservation} (inside : r ∈ db.reservations.rows)
    (other : r.order ≠ some order) : ∃ r' ∈ db'.reservations.rows, r'.id = r.id ∧ r'.status = r.status := by
  simp only [cancelOrder, bind_eq_ok, orRaise_eq_ok] at done
  obtain ⟨o, found, rest⟩ := done
  have named := List.find?_some found
  simp only [Bool.and_eq_true, beq_iff_eq] at named
  -- Neither list names a reservation of another order.
  have unlisted {mid : Db} {status : ReservationStatus} {r : InventoryReservation} (inside : r ∈ mid.reservations.rows)
      (other : r.order ≠ some order) : ((reservationsOf mid tenant order status).map InventoryReservation.id).contains r.id =
        false := by
    refine (mem_ids_iff mid _ inside).trans ?_
    simp [other]
  split at rest
  · rw [pure_eq_ok] at rest
    exact ⟨r, rest ▸ inside, rfl, rfl⟩
  · simp only [bind_eq_ok, pure_eq_ok] at rest
    obtain ⟨_, _, mid, released, last, reversed, rfl⟩ := rest
    rw [named.2] at released reversed
    obtain ⟨r', between, core, status⟩ := (settleReservations_touch released).hold inside
    obtain ⟨r'', there, core', status'⟩ := (settleReservations_touch reversed).hold between
    have order' : r'.order = r.order := congrArg HoldCore.order core
    refine ⟨r'', there, congrArg HoldCore.id (core'.trans core), ?_⟩
    rw [status', settledStatus, unlisted between (order' ▸ other), status, settledStatus, unlisted inside other]
    rfl

section Steps

variable {settings : Settings} {lib : WebhookLibrary} {s s' : Sys} {l : Label} {i : Nat} {req : Request} {frame : Frame}
  {o : Order}

theorem step_keeps_committed (housed : s.db.Housed) (taken : step settings lib s l = some s') {order : Id}
    (open_ : s'.db.orderStatus order ≠ some .cancelled) {r r' : InventoryReservation}
    (inside : r ∈ s.db.reservations.rows) (linked : r.order = some order) (committed : r.status = .committed)
    (member : r' ∈ s'.db.reservations.rows) (same : r'.id = r.id) : r'.status = .committed := by
  have stays : ∃ r'' ∈ s'.db.reservations.rows, r''.id = r.id ∧ r''.status = .committed := by
    by_cases cancels : l.cancels = true
    · cases l with
      | cancelOrder tenant customer other =>
        obtain ⟨db', done, rfl⟩ := commits_eq_some taken
        have apart : r.order ≠ some other := by
          intro mine
          obtain rfl := Option.some.inj (linked.symm.trans mine)
          exact open_ (cancelOrder_closes done)
        obtain ⟨r'', there, named, status⟩ := cancelOrder_spares done inside apart
        exact ⟨r'', there, named, status.trans committed⟩
      | _ => cases cancels
    · exact step_spares housed taken (by simpa using cancels) inside committed
  obtain ⟨r'', there, named, status⟩ := stays
  rw [s'.db.reservations.eq_of_key member there (same.trans named.symm), status]

theorem Sys.Returned.bill (returned : s.Returned i req frame o) (owned : s.Owned) {payment : Payment}
    (billed : frame.payment = some payment) :
    ∃ p, (s.db.payments.rows.filter fun p => p.order == o.id) = [p] ∧ p.core = payment.core := by
  obtain ⟨result, at_i⟩ := returned.ended
  have bills := (owned.registered i _ at_i).payments
  simp only [Pc.claim, Pc.frame, Frame.claim, Claim.orderId, returned.mine, billed, Option.map_some, Skeleton.own,
    Db.skeleton, List.filter_map, Option.toList_some] at bills
  obtain ⟨p, rows, core⟩ := List.map_eq_singleton_iff.mp bills
  refine ⟨p, ?_, core⟩
  rw [← rows]
  exact List.filter_congr fun p _ => by simp [Payment.core, Order.core]

theorem AtStage.step {stage : PurchaseStage} (at_stage : AtStage s.db o.id stage) (inv : s.Cancellable)
    (stock : StockInvariant s.db) (returned : s.Returned i req frame o) {payment : Payment}
    (billed : frame.payment = some payment) (invoice : payment.gateway_config = none)
    (taken : Storefront.step settings lib s l = some s') : ∃ stage', AtStage s'.db o.id stage' := by
  have change : Change lib s l s'.db := step_change taken
  have returned' := returned.step taken
  have owned' := inv.kept.1.step taken
  obtain ⟨row, present, core⟩ := returned.row inv.kept.1
  have named : row.id = o.id := congrArg OrderCore.id core
  obtain ⟨p, rows, status⟩ := at_stage.payment
  obtain ⟨q, rows', mine⟩ := returned.bill inv.kept.1 billed
  obtain rfl : p = q := List.singleton_injective (rows.symm.trans rows')
  have inside : p ∈ s.db.payments.rows ∧ p.order = o.id := by
    have member : p ∈ s.db.payments.rows.filter fun p => p.order == o.id := by simp [rows]
    simpa using List.mem_filter.mp member
  have config : p.gateway_config = none := (congrArg PaymentCore.gateway_config mine).trans invoice
  have order : row.status = stage.order := by
    have found := at_stage.order
    rw [← named, Db.orderStatus_of_mem present] at found
    exact Option.some.inj found
  have billing : Billing p.status row.status := by
    rw [status, order]
    cases stage <;> simp [Billing, PurchaseStage.payment, PurchaseStage.order]
  obtain ⟨p', member', core', row', present', id', owner, moves⟩ := change.invoice inv.kept.1 inv.kept.2 inside.1 config present
    (named.trans inside.2.symm) (inv.kept.1.payment_tenant present inside.1 (named.trans inside.2.symm)) billing
  obtain ⟨q, rows'', mine'⟩ := returned'.bill owned' billed
  have bill : (s'.db.payments.rows.filter fun p => p.order == o.id) = [p'] := by
    have there : q ∈ s'.db.payments.rows.filter fun p => p.order == o.id := by simp [rows'']
    rw [rows'', s'.db.payments.eq_of_key (List.mem_filter.mp there).1 member'
      (congrArg PaymentCore.id (mine'.trans (mine.symm.trans core'.symm)))]
  have after : s'.db.orderStatus o.id = some row'.status := by
    rw [← named, ← id', Db.orderStatus_of_mem present']
  have earlier {r' : InventoryReservation} (member : r' ∈ s'.db.reservations.rows) (linked : r'.order = some o.id) :
      ∃ r ∈ s.db.reservations.rows, r'.id = r.id ∧ r.order = some o.id ∧ r.status.Reaches r'.status := by
    obtain ⟨result, at_i⟩ := returned.ended
    have listed := (returned'.holds_iff owned' (inv.returns.step inv.kept.1 taken) member).mp linked
    obtain ⟨r, there, same, _, reaches⟩ := inv.kept.1.listed_before taken at_i member listed
    exact ⟨r, there, same.symm, (returned.holds_iff inv.kept.1 inv.returns there).mpr (same ▸ listed), reaches⟩
  have committed {stage' : PurchaseStage} (before : stage.reservations = .committed)
      (now : stage'.reservations = .committed) (open_ : row'.status ≠ .cancelled) :
      ∀ r' ∈ s'.db.reservations.rows, r'.order = some o.id → r'.status = stage'.reservations := by
    intro r' member linked
    obtain ⟨r, there, same, carries, _⟩ := earlier member linked
    rw [now]
    refine step_keeps_committed stock.housed taken (by rw [after]; simpa using open_) there carries ?_ member same
    rw [at_stage.reservations r there carries, before]
  generalize payment_now : p'.status = paymentNow at moves
  generalize order_now : row'.status = orderNow at moves
  cases moves with
  | stays =>
    refine ⟨stage, by rw [after, order_now, order], ⟨p', bill, payment_now.trans status⟩, ?_⟩
    cases stage with
    | invoiced | paid => exact committed rfl rfl (by rw [order_now, order]; simp [PurchaseStage.order])
    | cancelled =>
      intro r' member linked
      obtain ⟨r, there, _, carries, reaches⟩ := earlier member linked
      have released : r.status = .released := at_stage.reservations r there carries
      rw [released] at reaches
      revert reaches
      cases r'.status <;> simp [ReservationStatus.Reaches, ReservationStatus.Follows, PurchaseStage.reservations]
  | paid waiting pending =>
    have open_ : stage.reservations = .committed := by
      revert order
      rw [pending]
      cases stage <;> simp [PurchaseStage.order, PurchaseStage.reservations]
    exact ⟨.paid, by rw [after, order_now]; rfl, ⟨p', bill, payment_now⟩,
      committed open_ rfl (by rw [order_now]; simp)⟩
  | cancelled waiting pending tenant customer label =>
    refine ⟨.cancelled, by rw [after, order_now]; rfl, ⟨p', bill, payment_now⟩, fun r' member linked => ?_⟩
    subst label
    obtain ⟨db', done, rfl⟩ := commits_eq_some taken
    obtain ⟨other, there, tenancy, _, same⟩ := cancelOrder_found done
    obtain rfl := s.db.orders.eq_of_key there present same
    have tenant' : r'.tenant = row'.tenant :=
      owned'.hold_tenant present' member (linked.trans (congrArg some (id'.trans named).symm))
    refine cancelOrder_gives_back done ?_ r' member ((tenant'.trans owner).trans tenancy) (linked.trans (congrArg some named.symm))
    rw [Db.orderStatus_of_mem present, pending]
    simp

-- A call returns `invoice_pending` from the conversion of an invoiced cart only.
theorem advance_invoice_pending {oracle : Oracle} {db db' : Db} {pc : Pc} {log : List GatewayCall}
    {result : CheckoutResult} (taken : advance settings req oracle db pc = (.done frame (.ok result), db', log))
    (live : pc.ended = false) (pending : result.payment_status = "invoice_pending") (mine : frame.order = some o) :
    ∃ placed payment, pc = .convertInvoiced placed payment ∧ frame = placed.linked.frame (some payment) ∧
      convertInvoiced req oracle.now placed db = .ok db' := by
  cases pc with
  | convertInvoiced placed payment =>
    simp only [advance] at taken
    split at taken <;> cases taken
    next done => exact ⟨placed, payment, rfl, rfl, guard_ok done⟩
  | find =>
    simp only [advance] at taken
    split at taken <;> cases taken
    cases mine
  | create view reservations =>
    simp only [advance] at taken
    split at taken
    next order _ _ =>
      have ended := (Prod.mk.inj taken).1
      rcases afterOrder_cases ⟨view, reservations, order⟩ with ⟨_, next⟩ | next | next <;>
        · rw [next] at ended
          cases ended
    · cases taken
  | resolve _ | insertPayment _ _ =>
    simp only [advance] at taken
    split at taken
    · cases taken
    · exact absurd (Prod.mk.inj taken).1 authorizeRaised_failed
  | recordError placed payment e =>
    simp only [advance] at taken
    split at taken <;> exact absurd (Prod.mk.inj taken).1 authorizeRaised_failed
  | recordResult placed payment intent =>
    simp only [advance] at taken
    split at taken
    · split at taken
      · exact absurd (Prod.mk.inj taken).1 authorizeRaised_failed
      · cases taken
    · exact absurd (Prod.mk.inj taken).1 authorizeRaised_failed
  | convert placed payment =>
    simp only [advance] at taken
    split at taken
    · have ended := (Prod.mk.inj taken).1
      unfold afterConvert at ended
      split at ended
      · cases ended
      · split at ended <;> cases ended
        simp [pendingResult] at pending
    · cases taken
  | captureRead _ _ | capture _ _ | captureWrite _ _ _ | paid _ _ =>
    simp only [advance] at taken
    split at taken <;> cases taken <;> simp [Placed.result] at pending
  | lock | validate _ | reserve _ | invoice _ | authorize _ _ =>
    simp only [advance] at taken
    split at taken <;> cases taken
  | undo todo cart frame e =>
    cases todo with
    | nil => cases taken
    | cons action rest =>
      simp only [advance] at taken
      split at taken <;> cases taken
  | done _ _ | crashed _ _ _ => cases live

/-- What a purchase order that nobody disturbs finds of its own rows. -/
def Pc.Undisturbed (db : Db) : Pc → Prop
  | .create _ reservations => ∀ r ∈ db.reservations.rows, r.id ∈ reservations → r.status = .active
  | .invoice placed | .convertInvoiced placed _ => db.orderStatus placed.order.id = some .pending ∧
      ∀ r ∈ db.reservations.rows, r.id ∈ placed.reservations → r.status = .active
  | _ => True

theorem authorizeRaised_undisturbed {db : Db} {placed : Placed} {payment : Option Payment} {e : Exn} :
    Pc.Undisturbed db (authorizeRaised placed payment e) := by
  unfold authorizeRaised
  split <;> trivial

theorem Pc.Undisturbed.advance {oracle : Oracle} {db db' : Db} {pc pc' : Pc} {log : List GatewayCall}
    (undisturbed : Pc.Undisturbed db pc) (taken : Storefront.advance settings req oracle db pc = (pc', db', log)) :
    Pc.Undisturbed db' pc' := by
  cases pc with
  | reserve view =>
    simp only [Storefront.advance] at taken
    split at taken <;> cases taken
    next done =>
      intro r member listed
      obtain ⟨e, _, rfl⟩ := List.mem_map.mp (reserveStock_listed (guard_ok done) member listed)
      rfl
    · trivial
  | create view reservations =>
    simp only [Storefront.advance] at taken
    split at taken
    next order last done =>
      cases taken
      have creates := createOrder_creates (guard_ok done)
      have present : order ∈ db'.orders.rows := by simp [creates.orders]
      rcases afterOrder_cases ⟨view, reservations, order⟩ with ⟨_, next⟩ | next | next <;> rw [next]
      · trivial
      · refine ⟨by rw [Db.orderStatus_of_mem present, creates.status], fun r member listed => ?_⟩
        rw [creates.frame] at member
        exact undisturbed r member listed
      · trivial
    · cases taken
      trivial
  | invoice placed =>
    simp only [Storefront.advance] at taken
    split at taken <;> cases taken
    next last done =>
      have frame := (createPayment_grows (guard_ok done)).1
      rw [frame]
      exact undisturbed
    · trivial
  | resolve _ | insertPayment _ _ =>
    simp only [Storefront.advance] at taken
    split at taken <;> cases taken
    · trivial
    · exact authorizeRaised_undisturbed
  | recordError placed payment e =>
    simp only [Storefront.advance] at taken
    split at taken <;> cases taken <;> exact authorizeRaised_undisturbed
  | recordResult placed payment intent =>
    simp only [Storefront.advance] at taken
    split at taken
    · split at taken <;> cases taken
      · exact authorizeRaised_undisturbed
      · trivial
    · cases taken
      exact authorizeRaised_undisturbed
  | convert placed payment =>
    simp only [Storefront.advance] at taken
    split at taken <;> cases taken
    · unfold afterConvert
      split
      · trivial
      · split <;> trivial
    · trivial
  | undo todo cart frame e =>
    cases todo with
    | nil => cases taken; trivial
    | cons action rest =>
      simp only [Storefront.advance] at taken
      split at taken <;> cases taken <;> trivial
  | done _ _ | crashed _ _ _ => cases taken; trivial
  | _ =>
    simp only [Storefront.advance] at taken
    split at taken <;> cases taken <;> trivial

structure Sys.Purchasing (s : Sys) : Prop where
  cancellable : s.Cancellable
  stock : StockInvariant s.db
  one : s.OneLineEach
  lined : s.Lined

theorem Sys.Purchasing.start (initial : s.Initial) : s.Purchasing where
  cancellable := .start initial
  stock := .initial initial
  one := .start initial
  lined := .start initial

theorem Sys.Purchasing.step (inv : s.Purchasing) (taken : Storefront.step settings lib s l = some s') : s'.Purchasing where
  cancellable := inv.cancellable.step taken
  stock := inv.stock.step taken
  one := inv.one.step inv.cancellable.kept.1 taken
  lined := inv.lined.step inv.cancellable.kept.1 taken

/-- A checkout placed the order on the purchase-order path. -/
structure Sys.Purchased (s : Sys) (i : Nat) (req : Request) (frame : Frame) (o : Order) : Prop where
  returned : ∃ result, s.calls i = some ⟨req, .done frame (.ok result)⟩ ∧ result.payment_status = "invoice_pending"
  mine : frame.order = some o

def Sys.InStep (s : Sys) : Prop :=
  ∀ i req frame o, s.Purchased i req frame o →
    (∃ payment, frame.payment = some payment ∧ payment.gateway_config = none) ∧ ∃ stage, AtStage s.db o.id stage

theorem Sys.Purchased.returns (purchased : s.Purchased i req frame o) : s.Returned i req frame o := by
  obtain ⟨result, at_i, _⟩ := purchased.returned
  exact ⟨⟨result, at_i⟩, purchased.mine⟩

theorem Sys.InStep.step (steps : s.InStep) (inv : s.Purchasing) (taken : Storefront.step settings lib s l = some s')
    (undisturbed : ∀ i oracle req placed payment, l = .advance i oracle →
      s.calls i = some ⟨req, .convertInvoiced placed payment⟩ → Pc.Undisturbed s.db (.convertInvoiced placed payment)) :
    s'.InStep := by
  rintro i req frame o ⟨⟨result, at_i, pending⟩, mine⟩
  have owned := inv.cancellable.kept.1
  have inv' := inv.step taken
  rcases step_calls taken at_i with same | ⟨_, begun⟩ | ⟨oracle, pc, rfl, earlier, live, moved⟩
  · obtain ⟨⟨payment, billed, invoice⟩, stage, at_stage⟩ := steps i req frame o ⟨⟨result, same, pending⟩, mine⟩
    exact ⟨⟨payment, billed, invoice⟩, at_stage.step inv.cancellable inv.stock ⟨⟨result, same⟩, mine⟩ billed invoice taken⟩
  · cases begun
  · have out := step_advance taken earlier
    obtain ⟨placed, payment, rfl, rfl, done⟩ := advance_invoice_pending (Prod.ext moved.symm rfl) live pending mine
    obtain ⟨open_, active⟩ := undisturbed i oracle _ placed payment rfl earlier
    have invoice : payment.gateway_config = none := (owned.stage i _ earlier).2
    have returned' : s'.Returned i req (placed.linked.frame (some payment)) o := ⟨⟨result, at_i⟩, mine⟩
    have links := convertInvoiced_links done
    rw [← out] at links
    obtain rfl : placed.linked.order = o := Option.some.inj mine
    have placed_now : s'.db.orderStatus placed.order.id = some .pending := by
      obtain ⟨row, present, named, status⟩ := Db.orderStatus_eq_some.mp open_
      obtain ⟨row', present', named', _, _, status'⟩ := links.order_kept present
      exact Db.orderStatus_eq_some.mpr ⟨row', present', named'.trans named, status'.trans status⟩
    obtain ⟨p, rows, core⟩ := returned'.bill inv'.cancellable.kept.1 rfl
    have member : p ∈ s'.db.payments.rows ∧ p.order = placed.order.id := by
      have inside : p ∈ s'.db.payments.rows.filter fun p => p.order == placed.linked.order.id := by simp [rows]
      simpa [Placed.linked] using List.mem_filter.mp inside
    have config : p.gateway_config = none := (congrArg PaymentCore.gateway_config core).trans invoice
    refine ⟨⟨payment, rfl, invoice⟩, .invoiced, placed_now, ⟨p, rows, ?_⟩, fun r' inside linked => ?_⟩
    · exact inv'.cancellable.invoices p member.1 config (member.2 ▸ placed_now)
    · have listed : r'.id ∈ placed.reservations :=
        (returned'.holds_iff inv'.cancellable.kept.1 inv'.cancellable.returns inside).mp linked
      obtain ⟨r, there, status, core⟩ := links.hold_of inside
      have named : r'.id = r.id := (congrArg HoldCore.id core).trans (by split <;> rfl)
      have held := active r there (named ▸ listed)
      simp [status, settledStatus, ← named, listed, held, Settlement.commit, PurchaseStage.reservations]

end Steps

end Storefront
