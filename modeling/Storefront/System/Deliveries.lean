import Storefront.System.Idempotency
import Storefront.System.Shopping

set_option autoImplicit false

/-!
# Redelivered webhooks

The ledger keeps one row for each event. The row and the event's effects are one
transaction, so an event that could not be recorded was not applied either.
-/

namespace Storefront

open Relational Transition

/-- One execution of process_webhook_event. -/
structure Delivery where
  task : WebhookTask
  now : Time

def deliver (lib : WebhookLibrary) (db : Db) (d : Delivery) : Db :=
  rolledBack db (processWebhookEvent lib d.task d.now db)

def ProcessedWebhookEvent.key (e : ProcessedWebhookEvent) : String × String := (e.gateway_name, e.event_id)

def Delivery.Known (lib : WebhookLibrary) (db : Db) (d : Delivery) : Prop :=
  (lib.text d.task.event_id).isSome ∧ (lib.text d.task.event_type).isSome ∧
    ∃ p ∈ db.payments.rows, p.id = d.task.payment ∧ p.tenant = d.task.tenant

/-- What makes every delivery succeed. -/
structure Db.Receptive (db : Db) : Prop where
  filed : ∀ p ∈ db.payments.rows, ∃ o ∈ db.orders.rows, o.id = p.order ∧ o.tenant = p.tenant
  counted : ∀ r ∈ db.reservations.rows, 0 ≤ r.quantity
  linked : ∀ o ∈ db.orders.rows, ∀ cart, o.cart = some cart → db.ConvertedCart cart

section Effects

variable {db db' : Db}

theorem settleForOrder_succeeds {t : Settlement} {tenant order : Id}
    (settles : ∀ res ∈ db.reservations.rows, ∀ db, ∃ db', settle t (some tenant) db res = .ok db') :
    ∃ db', settleForOrder t tenant order db = .ok db' := by
  have step : ∀ res ∈ reservationsOf db tenant order .active, ∀ mid, True →
      ∃ last, settle t (some tenant) mid res = .ok last ∧ True := by
    intro res inside mid _
    obtain ⟨last, done⟩ := settles res (List.mem_of_mem_filter inside) mid
    exact ⟨last, done, trivial⟩
  obtain ⟨db', done, _⟩ := foldlM_succeeds step trivial
  exact ⟨db', done⟩

theorem revertCartIfCheckingOut_succeeds {order : Order}
    (converted : ∀ cart, order.cart = some cart → db.ConvertedCart cart) :
    ∃ db', revertCartIfCheckingOut order db = .ok db' := by
  unfold revertCartIfCheckingOut
  cases linked : order.cart with
  | none => exact ⟨db, rfl⟩
  | some cart =>
    obtain ⟨row, member, named, final⟩ := converted cart linked
    have missed : ∀ c ∈ db.carts.rows, ¬ (c.id == cart && c.status == .checkingOut) = true := by
      intro c inside picked
      simp only [Bool.and_eq_true, beq_iff_eq] at picked
      rw [db.carts.eq_of_key inside member (picked.1.trans named.symm), final] at picked
      cases picked.2
    obtain ⟨carts, updated⟩ := Table.update_isSome (t := db.carts)
      (p := fun c => c.id == cart && c.status == .checkingOut) (f := fun c => { c with status := .active })
      (fun c inside picked => absurd picked (missed c inside)) fun c inside picked => absurd picked (missed c inside)
    exact ⟨_, stored_eq_ok.mpr ⟨carts, updated, rfl⟩⟩

theorem applyOrderPaid_succeeds (tenant : Id) (order : Order) (db : Db) :
    ∃ db', applyOrderPaid tenant order db = .ok db' := by
  unfold applyOrderPaid
  split
  · exact settleForOrder_succeeds fun res _ db => settle_commit_succeeds (some tenant) db res
  · exact ⟨db, rfl⟩

theorem applyOrderCancelled_succeeds (tenant : Id) {order : Order} (receptive : db.Receptive)
    (present : order ∈ db.orders.rows) : ∃ db', applyOrderCancelled tenant order db = .ok db' := by
  unfold applyOrderCancelled
  split
  next pending =>
    obtain ⟨mid, released⟩ : ∃ mid, settleForOrder .release tenant order.id (db.saveOrderStatus order.id .cancelled) =
        .ok mid :=
      settleForOrder_succeeds fun res inside db => settle_release_succeeds (some tenant) db (receptive.counted res inside)
    have carts : mid.carts = db.carts := (settleForOrder_settled released).2
    have converted (cart : Id) (linked : order.cart = some cart) : mid.ConvertedCart cart := by
      unfold Db.ConvertedCart
      rw [carts]
      exact receptive.linked order present cart linked
    obtain ⟨last, reverted⟩ := revertCartIfCheckingOut_succeeds converted
    exact ⟨last, bind_eq_ok.mpr ⟨mid, released, reverted⟩⟩
  · exact ⟨db, rfl⟩

theorem Db.Receptive.touched {f : Order → OrderStatus} {g : Payment → PaymentStatus}
    {h : InventoryReservation → ReservationStatus} (receptive : db.Receptive) (touch : Touch db db' f g h)
    (restated : Restated db db') : db'.Receptive := by
  refine ⟨fun p member => ?_, fun r member => ?_, fun o member cart linked => ?_⟩
  · obtain ⟨before, present, core, _⟩ := touch.payment_of member
    obtain ⟨o, filed, named, owned⟩ := receptive.filed before present
    obtain ⟨o', still, same, _⟩ := touch.order filed
    refine ⟨o', still, ?_, ?_⟩
    · calc o'.id = o.id := congrArg OrderCore.id same
        _ = before.order := named
        _ = p.order := (congrArg PaymentCore.order core).symm
    · calc o'.tenant = o.tenant := congrArg OrderCore.tenant same
        _ = before.tenant := owned
        _ = p.tenant := (congrArg PaymentCore.tenant core).symm
  · obtain ⟨before, present, core, _⟩ := touch.hold_of member
    have quantity : r.quantity = before.quantity := congrArg HoldCore.quantity core
    exact quantity ▸ receptive.counted before present
  · obtain ⟨before, present, core, _⟩ := touch.order_of member
    have cart' : before.cart = some cart := (congrArg OrderCore.cart core).symm.trans linked
    exact restated.converted (receptive.linked before present cart cart')

theorem Db.Receptive.applied {lib : WebhookLibrary} {task : WebhookTask} {now : Time} (receptive : db.Receptive)
    (done : applyWebhookEvent lib task now db = .ok db') : db'.Receptive := by
  obtain ⟨_, _, _, _, _, _, _, _, touch⟩ := applyWebhookEvent_touch done
  exact receptive.touched touch (applyWebhookEvent_respects (restating 0) done)

end Effects

section Ledger

variable {lib : WebhookLibrary} {db : Db} {d : Delivery}

end Ledger

section Sequences

variable {lib : WebhookLibrary} {db : Db}

theorem Delivery.Known.delivered {d e : Delivery} (known : d.Known lib db) : d.Known lib (deliver lib db e) := by
  obtain ⟨event, type, p, member, named, owned⟩ := known
  refine ⟨event, type, ?_⟩
  unfold deliver
  cases processed : processWebhookEvent lib e.task e.now db with
  | error _ => exact ⟨p, member, named, owned⟩
  | ok db' =>
    rcases processWebhookEvent_cases processed with same | applied
    · exact ⟨p, by simpa [rolledBack, same] using member, named, owned⟩
    · obtain ⟨_, _, _, _, _, _, _, _, touch⟩ := applyWebhookEvent_touch applied
      obtain ⟨p', present, core, _⟩ := touch.payment member
      exact ⟨p', present, (congrArg PaymentCore.id core).trans named, (congrArg PaymentCore.tenant core).trans owned⟩

end Sequences

theorem Sys.Owned.filed {s : Sys} (owned : s.Owned) {p : Payment} (member : p ∈ s.db.payments.rows) :
    ∃ o ∈ s.db.orders.rows, o.id = p.order ∧ o.tenant = p.tenant := by
  obtain ⟨o, present, named⟩ := owned.order_of_payment member
  exact ⟨o, present, named, (owned.payment_tenant present member named).symm⟩

theorem Run.receptive {settings : Settings} {lib : WebhookLibrary} {s₀ s : Sys} {moves : List (Move Sys Event)}
    (run : (storefront settings lib).Run s₀ moves s) : s.db.Receptive := by
  obtain ⟨_, within⟩ := Run.running run
  have inv := Run.undoable within
  exact ⟨fun p member => inv.owned.filed member, inv.counted, Run.linked_converted run⟩

namespace Sample

def event (event_type : String) : Delivery where
  now := 2000
  task :=
    { tenant := 1, payment := 300, event_type := .str event_type, new_status := .captured
      raw_payload := .obj [], gateway_name := "mock", event_id := .str "evt_1" }

end Sample

end Storefront
