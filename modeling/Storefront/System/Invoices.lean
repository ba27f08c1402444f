import Storefront.System.Changes

set_option autoImplicit false

/-!
# Invoices and cards

A purchase order's payment names no gateway. Webhooks, refunds and the undoing of a
checkout only ever reach payments that name one, so an invoice a mark-paid request
has read moves together with its order.
-/

namespace Storefront

open Relational Transition

section Ownership

variable {sk : Skeleton} {calls : Nat → Option Call}

theorem Ownership.payment_of_order (ownership : Ownership sk calls) {i : Nat} {call : Call}
    (at_i : calls i = some call) {p : PaymentCore} (member : p ∈ sk.payments)
    (mine : call.pc.claim.orderId = some p.order) : call.pc.claim.payment = some p := by
  have inside : p ∈ (sk.own call.pc.claim.orderId call.pc.claim.reservations).payments :=
    List.mem_filter.mpr ⟨member, by simp [mine]⟩
  rw [(ownership.registered i call at_i).payments] at inside
  simpa using inside

theorem Ownership.payment_unique (ownership : Ownership sk calls) {p q : PaymentCore}
    (left : p ∈ sk.payments) (right : q ∈ sk.payments) (same : p.order = q.order) : p = q := by
  obtain ⟨o, member, named⟩ := ownership.payments p left
  obtain ⟨i, call, at_i, mine⟩ := ownership.owned o member
  have order : call.pc.claim.orderId = some p.order := by simp [Claim.orderId, mine, named]
  have first := ownership.payment_of_order at_i left order
  have second := ownership.payment_of_order at_i right (order.trans (congrArg some same))
  exact Option.some.inj (first.symm.trans second)

end Ownership

section Logs

variable {settings : Settings} {lib : WebhookLibrary} {s s' : Sys} {l : Label}

theorem commits_logs {block : Outcome Db} (taken : s.commits block = some s') :
    s'.queue = s.queue ∧ s'.marks = s.marks ∧ s'.refunds = s.refunds ∧ s'.calls = s.calls ∧
      s'.gatewayLog = s.gatewayLog := by
  obtain ⟨_, _, rfl⟩ := commits_eq_some taken
  exact ⟨rfl, rfl, rfl, rfl, rfl⟩

theorem step_queue (taken : step settings lib s l = some s') {task : WebhookTask}
    (queued : task ∈ s'.queue) :
    task ∈ s.queue ∨ ∃ post, receiveWebhook lib s.db post = .ok (.accepted task) := by
  cases l with
  | receive post =>
    simp only [step] at taken
    split at taken
    next task' accepted =>
      cases taken
      rcases List.mem_append.mp queued with old | new
      · exact .inl old
      · exact .inr ⟨post, List.mem_singleton.mp new ▸ accepted⟩
    · cases taken
  | createProduct | patchProduct | deactivateProduct | cancelOrder =>
    exact .inl ((commits_logs taken).1 ▸ queued)
  | tick | shop | sweep => cases taken; exact .inl queued
  | process | reconcile | expire | markPaidWrite =>
    simp only [step] at taken
    split at taken
    · exact .inl ((commits_logs taken).1 ▸ queued)
    · cases taken
  | advance =>
    simp only [step] at taken
    split at taken
    · cases taken
    · split at taken <;> cases taken
      exact .inl queued
  | _ =>
    simp only [step] at taken
    split at taken <;> cases taken
    exact .inl queued

theorem step_marks (taken : step settings lib s l = some s') {mark : MarkPaid} (listed : mark ∈ s'.marks) :
    mark ∈ s.marks ∨
      (markPaidRead mark.tenant mark.order s.db = .ok (some mark.payment) ∧ s'.db = s.db) := by
  cases l with
  | markPaidRead tenant order reference =>
    simp only [step] at taken
    split at taken
    next read =>
      cases taken
      rcases List.mem_append.mp listed with old | new
      · exact .inl old
      · exact .inr ⟨List.mem_singleton.mp new ▸ read, rfl⟩
    · cases taken
  | createProduct | patchProduct | deactivateProduct | cancelOrder =>
    exact .inl ((commits_logs taken).2.1 ▸ listed)
  | tick | shop | sweep => cases taken; exact .inl listed
  | process | reconcile | expire | markPaidWrite =>
    simp only [step] at taken
    split at taken
    · exact .inl ((commits_logs taken).2.1 ▸ listed)
    · cases taken
  | advance =>
    simp only [step] at taken
    split at taken
    · cases taken
    · split at taken <;> cases taken
      exact .inl listed
  | _ =>
    simp only [step] at taken
    split at taken <;> cases taken
    exact .inl listed

theorem step_refunds (taken : step settings lib s l = some s') {refund : Refund}
    (listed : refund ∈ s'.refunds) : (∃ earlier ∈ s.refunds, earlier.row = refund.row) ∨
      ∃ tenant payment, refundRead tenant payment s.db = .ok refund.row := by
  have moved {k : Nat} {earlier now : Refund} (at_k : s.refunds[k]? = some earlier)
      (same : now.row = earlier.row) (member : refund ∈ s.refunds.set k now) :
      ∃ earlier ∈ s.refunds, earlier.row = refund.row := by
    rcases List.mem_or_eq_of_mem_set member with old | rfl
    · exact ⟨refund, old, rfl⟩
    · exact ⟨earlier, List.mem_of_getElem? at_k, same.symm⟩
  cases l with
  | refundRead tenant payment amount =>
    simp only [step] at taken
    split at taken
    next row read =>
      cases taken
      rcases List.mem_append.mp listed with old | new
      · exact .inl ⟨refund, old, rfl⟩
      · exact .inr ⟨tenant, payment, List.mem_singleton.mp new ▸ read⟩
    · cases taken
  | refundCall k answer =>
    simp only [step] at taken
    split at taken
    next at_k => cases taken; exact .inl (moved at_k (by rfl) listed)
    · cases taken
  | refundWrite k =>
    simp only [step] at taken
    split at taken
    next at_k => cases taken; exact .inl (moved at_k (by rfl) listed)
    · cases taken
  | createProduct | patchProduct | deactivateProduct | cancelOrder =>
    exact .inl ⟨refund, (commits_logs taken).2.2.1 ▸ listed, rfl⟩
  | tick | shop | sweep => cases taken; exact .inl ⟨refund, listed, rfl⟩
  | process | reconcile | expire | markPaidWrite =>
    simp only [step] at taken
    split at taken
    · exact .inl ⟨refund, (commits_logs taken).2.2.1 ▸ listed, rfl⟩
    · cases taken
  | advance =>
    simp only [step] at taken
    split at taken
    · cases taken
    · split at taken <;> cases taken
      exact .inl ⟨refund, listed, rfl⟩
  | _ =>
    simp only [step] at taken
    split at taken <;> cases taken
    exact .inl ⟨refund, listed, rfl⟩

theorem step_calls (taken : step settings lib s l = some s') {i : Nat} {call : Call}
    (at_i : s'.calls i = some call) : s.calls i = some call ∨ (l = .begin i call.req ∧ call.pc = .find) ∨
      ∃ oracle pc, l = .advance i oracle ∧ s.calls i = some ⟨call.req, pc⟩ ∧ pc.ended = false ∧
        call.pc = (advance settings call.req { oracle with now := s.now } s.db pc).1 := by
  cases l with
  | begin j req =>
    simp only [step] at taken
    split at taken
    next free =>
      cases taken
      by_cases same : i = j
      · subst same
        have started : call = ⟨req, .find⟩ := by simpa [Sys.setCall, eq_comm] using at_i
        exact .inr (.inl ⟨by rw [started], by rw [started]⟩)
      · exact .inl (by simpa [Sys.setCall, same] using at_i)
    · cases taken
  | advance j oracle =>
    simp only [step] at taken
    split at taken
    · cases taken
    next before at_j =>
      split at taken
      · cases taken
      next running =>
        cases taken
        by_cases same : i = j
        · subst same
          obtain ⟨req, pc⟩ := before
          obtain rfl : _ = call := by simpa [Sys.setCall] using at_i
          exact .inr (.inr ⟨oracle, pc, rfl, at_j, by simpa using running, rfl⟩)
        · exact .inl (by simpa [Sys.setCall, same, Sys.withDb] using at_i)
  | createProduct | patchProduct | deactivateProduct | cancelOrder =>
    exact .inl ((commits_logs taken).2.2.2.1 ▸ at_i)
  | tick | shop | sweep => cases taken; exact .inl at_i
  | process | reconcile | expire | markPaidWrite =>
    simp only [step] at taken
    split at taken
    · exact .inl ((commits_logs taken).2.2.2.1 ▸ at_i)
    · cases taken
  | _ =>
    simp only [step] at taken
    split at taken <;> cases taken
    exact .inl at_i

end Logs

def Billing (payment : PaymentStatus) (order : OrderStatus) : Prop :=
  (payment = .invoicePending ∧ order = .pending) ∨ (payment = .captured ∧ order = .paid) ∨
    (payment = .cancelled ∧ order = .cancelled)

def Marked (db : Db) (mark : MarkPaid) : Prop :=
  ∃ p ∈ db.payments.rows, p.id = mark.payment ∧ p.order = mark.order ∧ p.tenant = mark.tenant ∧
    p.gateway_config = none ∧
    ∃ o ∈ db.orders.rows, o.id = mark.order ∧ o.tenant = mark.tenant ∧ Billing p.status o.status

def Frame.carded (frame : Frame) : Prop := ∀ p ∈ frame.payment, p.gateway_config.isSome = true

structure Sys.Invoiced (s : Sys) : Prop where
  invoices : ∀ p ∈ s.db.payments.rows, p.status = .invoicePending → p.gateway_config = none
  tasks : ∀ task ∈ s.queue, ∃ p ∈ s.db.skeleton.payments, p.id = task.payment ∧
    p.gateway_config.isSome = true
  refunds : ∀ refund ∈ s.refunds, refund.row.core ∈ s.db.skeleton.payments ∧
    refund.row.gateway_config.isSome = true
  undoing : ∀ i req todo cart frame e, s.calls i = some ⟨req, .undo todo cart frame e⟩ → frame.carded
  marks : ∀ mark ∈ s.marks, Marked s.db mark

theorem Touch.payments_core {a b : Db} {f : Order → OrderStatus} {g : Payment → PaymentStatus}
    {h : InventoryReservation → ReservationStatus} (touch : Touch a b f g h) :
    b.skeleton.payments = a.skeleton.payments := congrArg Skeleton.payments touch.skeleton

/-- Payments are never deleted, and what identifies them never changes. -/
theorem Change.payments {lib : WebhookLibrary} {s : Sys} {l : Label} {db' : Db}
    (change : Change lib s l db') : s.db.skeleton.payments ⊆ db'.skeleton.payments := by
  cases change with
  | frees frees =>
    obtain ⟨_, touch, _⟩ := frees
    exact touch.payments_core ▸ fun _ => id
  | stocked _ _ _ payments => simp [Db.skeleton, payments]
  | ordered i oracle order items rows status unlinked lines mine payments => simp [Db.skeleton, payments]
  | billed i oracle req pc placed row at_i bills named rows =>
    simp only [Db.skeleton, rows, List.map_append]
    exact List.subset_append_left _ _
  | linked i oracle req pc placed h at_i converts links => simp [Db.skeleton, links.payments]
  | recorded i oracle req placed payment intent at_i done =>
    exact (recordPaymentResult_touch (guard_ok done)).payments_core ▸ fun _ => id
  | captured => exact (captureWrite_touch _ _ _ _).payments_core ▸ fun _ => id
  | paid i oracle req placed payment at_i done =>
    exact (markCaptured_touch (guard_ok done)).payments_core ▸ fun _ => id
  | cancelledOwn i oracle req rest cart frame e order at_i mine done =>
    exact (cancelOwnOrder_touch (guard_ok done)).payments_core ▸ fun _ => id
  | cancelled tenant customer order done =>
    rcases cancelOrder_touch done with rfl | ⟨_, _, _, _, _, _, touch, _⟩
    · exact fun _ => id
    · exact touch.payments_core ▸ fun _ => id
  | applied k task queued done =>
    obtain ⟨_, _, _, _, _, _, _, _, touch⟩ := applyWebhookEvent_touch done
    exact touch.payments_core ▸ fun _ => id
  | reconciled payment answer outcome done =>
    rcases reconcileOne_touch done with ⟨rfl, _⟩ | ⟨_, _, _, _, _, _, _, ⟨_, _, _, touch⟩ | ⟨_, _, _, touch⟩⟩
    · exact fun _ => id
    · exact touch.payments_core ▸ fun _ => id
    · exact touch.payments_core ▸ fun _ => id
  | marked k mark listed done =>
    obtain ⟨_, _, _, _, _, _, _, _, touch⟩ := markPaidWrite_touch done
    exact touch.payments_core ▸ fun _ => id
  | refunded => exact (refundWrite_touch _ _ _ _).payments_core ▸ fun _ => id

theorem mapGatewayStatus_ne_invoicePending (status : GatewayStatus) :
    mapGatewayStatus status ≠ .invoicePending := by
  cases status <;> simp [mapGatewayStatus]

theorem Touch.invoices {a b : Db} {f : Order → OrderStatus} {g : Payment → PaymentStatus}
    {h : InventoryReservation → ReservationStatus} (touch : Touch a b f g h)
    (never : ∀ p ∈ a.payments.rows, g p = .invoicePending → p.status = .invoicePending)
    (invoices : ∀ p ∈ a.payments.rows, p.status = .invoicePending → p.gateway_config = none) :
    ∀ p ∈ b.payments.rows, p.status = .invoicePending → p.gateway_config = none := by
  intro p' member status
  obtain ⟨p, before, core, same⟩ := touch.payment_of member
  have config : p'.gateway_config = p.gateway_config := congrArg PaymentCore.gateway_config core
  rw [config]
  exact invoices p before (never p before (same.symm.trans status))

theorem ite_ne_invoicePending {c : Prop} [Decidable c] {new old : PaymentStatus}
    (other : new ≠ .invoicePending) (written : (if c then new else old) = .invoicePending) :
    old = .invoicePending := by
  split at written
  · exact absurd written other
  · exact written

theorem Change.invoices {lib : WebhookLibrary} {s : Sys} {l : Label} {db' : Db}
    (change : Change lib s l db')
    (invoices : ∀ p ∈ s.db.payments.rows, p.status = .invoicePending → p.gateway_config = none) :
    ∀ p ∈ db'.payments.rows, p.status = .invoicePending → p.gateway_config = none := by
  cases change with
  | frees frees =>
    obtain ⟨_, touch, _⟩ := frees
    exact touch.invoices (fun _ _ => id) invoices
  | stocked _ _ _ payments => exact payments ▸ invoices
  | ordered i oracle order items rows status unlinked lines mine payments => exact payments ▸ invoices
  | billed i oracle req pc placed row at_i bills named rows =>
    intro p member status
    rw [rows] at member
    rcases List.mem_append.mp member with old | new
    · exact invoices p old status
    · obtain rfl := List.mem_singleton.mp new
      cases bills with
      | invoice _ config => exact config
      | card config pending _ => simp [pending] at status
  | linked i oracle req pc placed h at_i converts links => exact links.payments ▸ invoices
  | recorded i oracle req placed payment intent at_i done =>
    exact (recordPaymentResult_touch (guard_ok done)).invoices
      (fun _ _ => ite_ne_invoicePending (mapGatewayStatus_ne_invoicePending _)) invoices
  | captured =>
    exact (captureWrite_touch _ _ _ _).invoices
      (fun _ _ => ite_ne_invoicePending (mapGatewayStatus_ne_invoicePending _)) invoices
  | paid i oracle req placed payment at_i done =>
    exact (markCaptured_touch (guard_ok done)).invoices (fun _ _ => id) invoices
  | cancelledOwn i oracle req rest cart frame e order at_i mine done =>
    exact (cancelOwnOrder_touch (guard_ok done)).invoices (fun _ _ => id) invoices
  | cancelled tenant customer order done =>
    rcases cancelOrder_touch done with rfl | ⟨_, _, _, _, _, _, touch, _⟩
    · exact invoices
    · exact touch.invoices (fun _ _ => ite_ne_invoicePending (by simp)) invoices
  | applied k task queued done =>
    obtain ⟨_, _, _, _, _, _, _, _, touch⟩ := applyWebhookEvent_touch done
    exact touch.invoices (fun _ _ => ite_ne_invoicePending (mapGatewayStatus_ne_invoicePending _)) invoices
  | reconciled payment answer outcome done =>
    rcases reconcileOne_touch done with ⟨rfl, _⟩ | ⟨_, _, _, _, _, _, other, ⟨_, _, _, touch⟩ | ⟨_, _, _, touch⟩⟩
    · exact invoices
    · exact touch.invoices (fun _ _ => ite_ne_invoicePending other) invoices
    · exact touch.invoices (fun _ _ => ite_ne_invoicePending other) invoices
  | marked k mark listed done =>
    obtain ⟨_, _, _, _, _, _, _, _, touch⟩ := markPaidWrite_touch done
    exact touch.invoices (fun _ _ => ite_ne_invoicePending (by simp)) invoices
  | refunded =>
    exact (refundWrite_touch _ _ _ _).invoices
      (fun _ _ => ite_ne_invoicePending (mapGatewayStatus_ne_invoicePending _)) invoices

theorem Ownership.invoice_apart {db : Db} {calls : Nat → Option Call}
    (owned : Ownership db.skeleton calls) {p : Payment} (member : p ∈ db.payments.rows)
    (invoice : p.gateway_config = none) {q : PaymentCore} (known : q ∈ db.skeleton.payments)
    (card : q.gateway_config.isSome = true) : p.id ≠ q.id ∧ p.order ≠ q.order := by
  obtain ⟨r, inside, rfl⟩ := List.mem_map.mp known
  have config (same : p.core = r.core) : False := by
    have equal : p.gateway_config = r.gateway_config := congrArg PaymentCore.gateway_config same
    rw [equal] at invoice
    simp [Payment.core, invoice] at card
  constructor
  · intro same
    exact config (by rw [db.payments.eq_of_key member inside same])
  · intro same
    exact config (owned.payment_unique (List.mem_map_of_mem member) known same)

inductive InvoiceMove (l : Label) (order : Id) (p : PaymentStatus) (o : OrderStatus) :
    PaymentStatus → OrderStatus → Prop
  | stays : InvoiceMove l order p o p o
  | paid (waiting : p = .invoicePending) (pending : o = .pending) : InvoiceMove l order p o .captured .paid
  | cancelled (waiting : p = .invoicePending) (pending : o = .pending) (tenant customer : Id)
      (label : l = .cancelOrder tenant customer order) : InvoiceMove l order p o .cancelled .cancelled

theorem InvoiceMove.billing {l : Label} {order : Id} {p p' : PaymentStatus} {o o' : OrderStatus}
    (move : InvoiceMove l order p o p' o') (billing : Billing p o) : Billing p' o' := by
  cases move with
  | stays => exact billing
  | paid waiting pending => exact .inr (.inl ⟨rfl, rfl⟩)
  | cancelled waiting pending tenant customer label => exact .inr (.inr ⟨rfl, rfl⟩)

def InvoiceMoved (l : Label) (p : Payment) (o : Order) (db' : Db) : Prop :=
  ∃ p' ∈ db'.payments.rows, p'.core = p.core ∧ ∃ o' ∈ db'.orders.rows, o'.id = o.id ∧ o'.tenant = o.tenant ∧
    InvoiceMove l o.id p.status o.status p'.status o'.status

theorem Touch.invoice_moved {a b : Db} {f : Order → OrderStatus} {g : Payment → PaymentStatus}
    {h : InventoryReservation → ReservationStatus} (touch : Touch a b f g h) {l : Label} {p : Payment} {o : Order}
    (member : p ∈ a.payments.rows) (present : o ∈ a.orders.rows)
    (moves : InvoiceMove l o.id p.status o.status (g p) (f o)) : InvoiceMoved l p o b := by
  obtain ⟨p', inside, core, status⟩ := touch.payment member
  obtain ⟨o', there, core', status'⟩ := touch.order present
  refine ⟨p', inside, core, o', there, congrArg OrderCore.id core', congrArg OrderCore.tenant core', ?_⟩
  rw [status, status']
  exact moves

theorem InvoiceMoved.of_tables {l : Label} {p : Payment} {o : Order} {b : Db} (payments : p ∈ b.payments.rows)
    (orders : ∃ o' ∈ b.orders.rows, o'.id = o.id ∧ o'.tenant = o.tenant ∧ o'.status = o.status) :
    InvoiceMoved l p o b := by
  obtain ⟨o', there, id, tenant, status⟩ := orders
  exact ⟨p, payments, rfl, o', there, id, tenant, status ▸ .stays⟩

theorem Links.order_kept {reservations : List Id} {order cart : Id}
    {h : InventoryReservation → ReservationStatus} {db db' : Db}
    (links : Links reservations order cart h db db') {o : Order} (member : o ∈ db.orders.rows) :
    ∃ o' ∈ db'.orders.rows, o'.id = o.id ∧ o'.tenant = o.tenant ∧ o'.customer = o.customer ∧
      o'.status = o.status := by
  have image : (if o.core.id = order then { o.core with cart := some cart } else o.core, o.status) ∈
      db'.orders.rows.map fun o => (o.core, o.status) := links.orders ▸ List.mem_map_of_mem member
  obtain ⟨o', there, same⟩ := List.mem_map.mp image
  obtain ⟨core, status⟩ := Prod.mk.inj same
  refine ⟨o', there, ?_, ?_, ?_, status⟩
  · have id := congrArg OrderCore.id core
    split at id <;> exact id
  · have tenant := congrArg OrderCore.tenant core
    split at tenant <;> exact tenant
  · have customer := congrArg OrderCore.customer core
    split at customer <;> exact customer

theorem Links.order_of {reservations : List Id} {order cart : Id}
    {h : InventoryReservation → ReservationStatus} {db db' : Db}
    (links : Links reservations order cart h db db') {o' : Order} (member : o' ∈ db'.orders.rows) :
    ∃ o ∈ db.orders.rows, o.id = o'.id ∧ o.status = o'.status := by
  have image : (o'.core, o'.status) ∈ db.orders.rows.map fun o =>
      (if o.core.id = order then { o.core with cart := some cart } else o.core, o.status) :=
    links.orders ▸ List.mem_map_of_mem member
  obtain ⟨o, before, same⟩ := List.mem_map.mp image
  obtain ⟨core, status⟩ := Prod.mk.inj same
  refine ⟨o, before, ?_, status⟩
  have id := congrArg OrderCore.id core
  split at id <;> exact id

theorem Billing.not_pending {p : PaymentStatus} {o : OrderStatus} (billing : Billing p o) :
    p ≠ .pending := by
  rcases billing with ⟨rfl, _⟩ | ⟨rfl, _⟩ | ⟨rfl, _⟩ <;> simp

/-- Whatever else goes on, an invoice and its order move together. -/
theorem Change.invoice {lib : WebhookLibrary} {s : Sys} {l : Label} {db' : Db} (change : Change lib s l db')
    (owned : s.Owned) (invoiced : s.Invoiced) {p : Payment} (member : p ∈ s.db.payments.rows)
    (config : p.gateway_config = none) {o : Order} (present : o ∈ s.db.orders.rows) (id : o.id = p.order)
    (owner : p.tenant = o.tenant) (billing : Billing p.status o.status) : InvoiceMoved l p o db' := by
  cases change with
  | frees frees =>
    obtain ⟨_, touch, _⟩ := frees
    exact touch.invoice_moved member present .stays
  | stocked new orders items payments =>
    exact .of_tables (payments ▸ member) ⟨o, orders ▸ present, rfl, rfl, rfl⟩
  | ordered i oracle order items rows status unlinked lines mine payments =>
    exact .of_tables (payments ▸ member) ⟨o, by simp [rows, present], rfl, rfl, rfl⟩
  | billed i oracle req pc placed row at_i bills named rows orders =>
    exact .of_tables (by simp [rows, member]) ⟨o, orders ▸ present, rfl, rfl, rfl⟩
  | linked i oracle req pc placed h at_i converts links =>
    obtain ⟨o', there, id, tenant, _, status⟩ := links.order_kept present
    exact .of_tables (links.payments ▸ member) ⟨o', there, id, tenant, status⟩
  | recorded i oracle req placed payment intent at_i done =>
    have card : Card req payment := (owned.stage i _ at_i).2
    have known : payment.core ∈ s.db.skeleton.payments := (owned.registered i _ at_i).payment_mem rfl
    have apart := (owned.invoice_apart member config known card.1).1
    refine (recordPaymentResult_touch (guard_ok done)).invoice_moved member present ?_
    rw [if_neg fun same => apart same.2]
    exact .stays
  | captured i oracle req placed row intent at_i quiet =>
    have card : Card req row := (owned.stage i _ at_i).2.1
    have known : row.core ∈ s.db.skeleton.payments := (owned.registered i _ at_i).payment_mem rfl
    have apart := (owned.invoice_apart member config known card.1).1
    refine (captureWrite_touch _ _ _ _).invoice_moved member present ?_
    rw [if_neg fun same => apart same.1.2]
    exact .stays
  | paid i oracle req placed payment at_i done =>
    have card : Card req payment := (owned.stage i _ at_i).2
    have registered := owned.registered i _ at_i
    have known : payment.core ∈ s.db.skeleton.payments := registered.payment_mem rfl
    have order : placed.order.id = payment.order := Option.some.inj (registered.billed _ rfl).2
    have apart := (owned.invoice_apart member config known card.1).2
    have other : o.id ≠ placed.order.id := by
      rw [id, order]
      exact apart
    refine (markCaptured_touch (guard_ok done)).invoice_moved member present ?_
    rw [OrderStatus.at, if_neg other]
    exact .stays
  | cancelledOwn i oracle req rest cart frame e order at_i mine done =>
    have other : o.id ≠ order.id := by
      intro same
      -- The frame knows every payment of its order, and that is a card payment.
      have claimed : frame.payment.map Payment.core = some p.core :=
        owned.payment_of_order at_i (List.mem_map_of_mem member) (by
          simp [Pc.claim, Pc.frame, Frame.claim, Claim.orderId, mine, Order.core, Payment.core, ← id, same])
      obtain ⟨q, held, core⟩ := Option.map_eq_some_iff.mp claimed
      have card := invoiced.undoing i req _ cart frame e at_i q held
      have equal : q.gateway_config = p.gateway_config := congrArg PaymentCore.gateway_config core
      rw [equal, config] at card
      cases card
    refine (cancelOwnOrder_touch (guard_ok done)).invoice_moved member present ?_
    rw [OrderStatus.at, if_neg other]
    exact .stays
  | cancelled tenant customer order done =>
    rcases cancelOrder_touch done with rfl | ⟨o', there, named, tenancy, pending, h, touch, _⟩
    · exact .of_tables member ⟨o, present, rfl, rfl, rfl⟩
    · refine touch.invoice_moved member present ?_
      by_cases same : o.id = order
      · obtain rfl := s.db.orders.eq_of_key present there (same.trans named.symm)
        have closes : p.tenant = tenant ∧ p.order = order := ⟨owner.trans tenancy, id.symm.trans same⟩
        have status : p.status = .invoicePending := by simpa [Billing, pending] using billing
        rw [closedWith, if_pos ⟨closes, by simp [status, openPayment]⟩, OrderStatus.at, if_pos same]
        exact .cancelled status pending tenant customer (by rw [same])
      · have apart : p.order ≠ order := fun equal => same (id.trans equal)
        rw [closedWith, if_neg (by simp [apart]), OrderStatus.at, if_neg same]
        exact .stays
  | applied k task queued done =>
    obtain ⟨q, inside, named, _, o', there, linked, _, touch⟩ := applyWebhookEvent_touch done
    obtain ⟨r, known, same, card⟩ := invoiced.tasks task (List.mem_of_getElem? queued)
    obtain ⟨row, stored, rfl⟩ := List.mem_map.mp known
    obtain rfl : row = q := s.db.payments.eq_of_key stored inside (same.trans named.symm)
    have apart := owned.invoice_apart member config known card
    have payment : p.id ≠ row.id := apart.1
    have order : o.id ≠ o'.id := by
      rw [id, linked]
      exact apart.2
    refine touch.invoice_moved member present ?_
    rw [PaymentStatus.at, if_neg payment, OrderStatus.at, if_neg order]
    exact .stays
  | reconciled payment answer outcome done =>
    rcases reconcileOne_touch done with ⟨rfl, _⟩ | ⟨q, inside, _, pending, status, _, _, either⟩
    · exact .of_tables member ⟨o, present, rfl, rfl, rfl⟩
    · -- The sweep takes PENDING payments.
      have payment : p.id ≠ q.id := fun same =>
        billing.not_pending (s.db.payments.eq_of_key member inside same ▸ pending)
      have apart : p.order ≠ q.order := by
        intro same
        have equal := owned.payment_unique (List.mem_map_of_mem member) (List.mem_map_of_mem inside) same
        exact payment (congrArg PaymentCore.id equal)
      rcases either with ⟨_, _, _, touch⟩ | ⟨o', _, linked, touch⟩
      · refine touch.invoice_moved member present ?_
        rw [PaymentStatus.at, if_neg payment]
        exact .stays
      · have order : o.id ≠ o'.id := by
          rw [id, linked]
          exact apart
        refine touch.invoice_moved member present ?_
        rw [PaymentStatus.at, if_neg payment, OrderStatus.at, if_neg order]
        exact .stays
  | marked k mark listed done =>
    obtain ⟨q, inside, named, status, o', present', id', _, touch⟩ := markPaidWrite_touch done
    obtain ⟨r, stored, same, own, _, _, _⟩ := invoiced.marks mark (List.mem_of_getElem? listed)
    obtain rfl : r = q := s.db.payments.eq_of_key stored inside (same.trans named.symm)
    refine touch.invoice_moved member present ?_
    by_cases equal : p.order = r.order
    · have core := owned.payment_unique (List.mem_map_of_mem member) (List.mem_map_of_mem stored) equal
      obtain rfl := s.db.payments.eq_of_key member stored (congrArg PaymentCore.id core)
      rw [PaymentStatus.at, if_pos same, OrderStatus.at, if_pos (id.trans own)]
      rcases billing with ⟨waiting, pending⟩ | ⟨captured, paid⟩ | ⟨cancelled, _⟩
      · exact .paid waiting pending
      · rw [captured, paid]
        exact .stays
      · rw [cancelled] at status
        simp at status
    · have payment : p.id ≠ mark.payment := by
        intro same'
        exact equal (by rw [s.db.payments.eq_of_key member stored (same'.trans same.symm)])
      have order : o.id ≠ mark.order := by
        rw [id, ← own]
        exact equal
      rw [PaymentStatus.at, if_neg payment, OrderStatus.at, if_neg order]
      exact .stays
  | refunded k row amount intent at_k =>
    obtain ⟨known, card⟩ := invoiced.refunds _ (List.mem_of_getElem? at_k)
    have apart := (owned.invoice_apart member config known card).1
    refine (refundWrite_touch _ _ _ _).invoice_moved member present ?_
    rw [if_neg fun same => apart same.2]
    exact .stays

theorem Change.keeps_marked {lib : WebhookLibrary} {s : Sys} {l : Label} {db' : Db}
    (change : Change lib s l db') (owned : s.Owned) (invoiced : s.Invoiced) {mark : MarkPaid}
    (listed : mark ∈ s.marks) : Marked db' mark := by
  obtain ⟨p, member, id, order, tenant, config, o, present, named, owner, billing⟩ := invoiced.marks mark listed
  obtain ⟨p', inside, core, o', there, id', tenant', moves⟩ := change.invoice owned invoiced member config present
    (named.trans order.symm) (tenant.trans owner.symm) billing
  exact ⟨p', inside, (congrArg PaymentCore.id core).trans id, (congrArg PaymentCore.order core).trans order,
    (congrArg PaymentCore.tenant core).trans tenant, (congrArg PaymentCore.gateway_config core).trans config, o', there,
    id'.trans named, tenant'.trans owner, moves.billing billing⟩

theorem gatewayConfigOf_isSome {db : Db} {config : Option Id} {found : PaymentGatewayConfig}
    (done : gatewayConfigOf db config = .ok found) : config.isSome = true := by
  cases config with
  | none => simp [gatewayConfigOf, orRaise] at done
  | some id => rfl

theorem receiveWebhook_card {lib : WebhookLibrary} {db : Db} {post : WebhookPost} {task : WebhookTask}
    (accepted : receiveWebhook lib db post = .ok (.accepted task)) :
    ∃ p ∈ db.payments.rows, p.id = task.payment ∧ p.gateway_config.isSome = true := by
  obtain ⟨_, _, p, _, _, _, found, configured, _, rfl⟩ := receiveWebhook_accepted.mp accepted
  exact ⟨p, (paymentOfTransaction_mem found).1, rfl, gatewayConfigOf_isSome configured⟩

theorem refundRead_card {tenant payment : Id} {db : Db} {row : Payment}
    (done : refundRead tenant payment db = .ok row) :
    row ∈ db.payments.rows ∧ row.gateway_config.isSome = true := by
  simp only [refundRead, bind_eq_ok, payment_eq_ok, require_eq_ok, pure_eq_ok] at done
  obtain ⟨p, ⟨member, _, _⟩, _, _, _, card, _, _, _, _, rfl⟩ := done
  exact ⟨member, card⟩

theorem latestPayment_mem {payments : List Payment} {p : Payment} (latest : latestPayment payments = some p) :
    p ∈ payments := by
  have member := List.mem_of_mem_head? latest
  rwa [List.mem_insertionSort] at member

theorem markPaidRead_marked {tenant order payment : Id} {reference : String} {db : Db}
    (done : markPaidRead tenant order db = .ok (some payment))
    (invoices : ∀ p ∈ db.payments.rows, p.status = .invoicePending → p.gateway_config = none) :
    Marked db ⟨tenant, order, payment, reference⟩ := by
  simp only [markPaidRead, bind_eq_ok, orRaise_eq_ok] at done
  obtain ⟨o, found, rest⟩ := done
  have named := List.find?_some found
  simp only [Bool.and_eq_true, beq_iff_eq] at named
  split at rest
  · simp at rest
  · simp only [bind_eq_ok, require_eq_ok, orRaise_eq_ok, pure_eq_ok, Option.some.injEq] at rest
    obtain ⟨_, pending, p, latest, rfl⟩ := rest
    obtain ⟨member, filed⟩ := List.mem_filter.mp (latestPayment_mem latest)
    simp only [Bool.and_eq_true, beq_iff_eq] at filed
    exact ⟨p, member, rfl, filed.1.2.trans named.2, filed.1.1, invoices p member filed.2, o,
      List.mem_of_find?_eq_some found, named.2, named.1, .inl ⟨filed.2, pending⟩⟩

theorem authorizeRaised_undo {placed : Placed} {payment : Option Payment} {error e : Exn} {todo : List Undo}
    {cart : Id} {frame : Frame} (undo : authorizeRaised placed payment error = .undo todo cart frame e) :
    frame = placed.frame payment := by
  unfold authorizeRaised at undo
  split at undo
  · simpa [eq_comm] using (Pc.undo.inj undo).2.2.1
  · cases undo

theorem afterOrder_undo {placed : Placed} {todo : List Undo} {cart : Id} {frame : Frame} {e : Exn} :
    afterOrder placed ≠ .undo todo cart frame e := by
  rcases afterOrder_cases placed with ⟨_, ended⟩ | invoiced | card
  · simp [ended]
  · simp [invoiced]
  · simp [card]

theorem afterConvert_undo {placed : Placed} {payment : Payment} {todo : List Undo} {cart : Id}
    {frame : Frame} {e : Exn} : afterConvert placed payment ≠ .undo todo cart frame e := by
  unfold afterConvert
  split
  · simp
  · split <;> simp

theorem advance_undo {settings : Settings} {req : Request} {oracle : Oracle} {db : Db} {pc : Pc}
    {todo : List Undo} {cart : Id} {frame : Frame} {e : Exn} {sk : Skeleton} (stage : Stage sk req pc)
    (before : ∀ todo cart frame e, pc = .undo todo cart frame e → frame.carded)
    (undo : (advance settings req oracle db pc).1 = .undo todo cart frame e) : frame.carded := by
  have bare {frame : Frame} (none : frame.payment = none) : frame.carded := by simp [Frame.carded, none]
  have card {placed : Placed} {payment : Payment} (card : Card req payment) :
      (placed.frame (some payment)).carded := by simpa [Frame.carded, Placed.frame] using card.1
  cases pc with
  | validate | reserve | invoice =>
    simp only [advance] at undo
    split at undo
    · cases undo
    · cases undo
      exact bare rfl
  | create view reservations =>
    simp only [advance] at undo
    split at undo
    · exact absurd undo afterOrder_undo
    · cases undo
      exact bare rfl
  | resolve placed =>
    simp only [advance] at undo
    split at undo
    · cases undo
    · exact bare (by rw [authorizeRaised_undo undo]; rfl)
  | insertPayment placed config =>
    simp only [advance] at undo
    split at undo
    · cases undo
    · exact bare (by rw [authorizeRaised_undo undo]; rfl)
  | recordError placed payment error =>
    simp only [advance] at undo
    split at undo
    · dsimp only at undo
      have same := authorizeRaised_undo undo
      exact same ▸ card stage.2
    · have same := authorizeRaised_undo undo
      exact same ▸ card stage.2
  | recordResult placed payment intent =>
    simp only [advance] at undo
    split at undo
    · split at undo
      · dsimp only at undo
        have same := authorizeRaised_undo undo
        exact same ▸ card stage.2
      · cases undo
    · have same := authorizeRaised_undo undo
      exact same ▸ card stage.2
  | convert placed payment =>
    simp only [advance] at undo
    split at undo
    · exact absurd undo afterConvert_undo
    · cases undo
  | undo todo' cart' frame' e' =>
    cases todo' with
    | nil => cases undo
    | cons action rest =>
      simp only [advance] at undo
      split at undo
      · cases undo
        exact before _ _ _ _ rfl
      · cases undo
  | find | lock =>
    simp only [advance] at undo
    split at undo <;> cases undo
  | convertInvoiced | authorize | captureRead | capture | captureWrite | paid =>
    simp only [advance] at undo
    split at undo <;> cases undo
  | done | crashed => cases undo

theorem Sys.Invoiced.start {s : Sys} (initial : s.Initial) : s.Invoiced := by
  refine ⟨?_, ?_, ?_, ?_, ?_⟩ <;>
    simp [initial.payments, initial.queue, initial.refunds, initial.calls, initial.marks]

theorem Sys.Invoiced.step {settings : Settings} {lib : WebhookLibrary} {s s' : Sys} {l : Label}
    (invoiced : s.Invoiced) (owned : s.Owned) (taken : Storefront.step settings lib s l = some s') :
    s'.Invoiced := by
  have change : Change lib s l s'.db := step_change taken
  have grows := change.payments
  refine ⟨change.invoices invoiced.invoices, ?_, ?_, ?_, ?_⟩
  · intro task queued
    rcases step_queue taken queued with old | ⟨post, accepted⟩
    · obtain ⟨p, member, named, card⟩ := invoiced.tasks task old
      exact ⟨p, grows member, named, card⟩
    · obtain ⟨p, member, named, card⟩ := receiveWebhook_card accepted
      exact ⟨p.core, grows (List.mem_map_of_mem member), named, card⟩
  · intro refund listed
    rcases step_refunds taken listed with ⟨earlier, old, same⟩ | ⟨tenant, payment, read⟩
    · obtain ⟨member, card⟩ := invoiced.refunds earlier old
      exact same ▸ ⟨grows member, card⟩
    · obtain ⟨member, card⟩ := refundRead_card read
      exact ⟨grows (List.mem_map_of_mem member), card⟩
  · intro i req todo cart frame e at_i
    rcases step_calls taken at_i with old | ⟨_, started⟩ | ⟨oracle, pc, _, before, _, moved⟩
    · exact invoiced.undoing i req todo cart frame e old
    · cases started
    · refine advance_undo (owned.stage i _ before) ?_ moved.symm
      rintro todo' cart' frame' e' rfl
      exact invoiced.undoing i req todo' cart' frame' e' before
  · intro mark listed
    by_cases old : mark ∈ s.marks
    · exact change.keeps_marked owned invoiced old
    · obtain ⟨read, same⟩ := (step_marks taken listed).resolve_left old
      exact same ▸ markPaidRead_marked read invoiced.invoices

end Storefront
