import Storefront.Orders.InvoiceTask
import Storefront.System.InvoiceJobs

set_option autoImplicit false

/-!
# From the order to its invoice

The broker hands what was asked for to executions of `generate_invoice`: never, once or
several times. They read the orders the storefront writes.
-/

namespace Storefront

open Relational Transition

structure InvoiceFlow where
  sys : Sys
  asks : List InvoiceAsk
  desk : InvoiceSys

inductive FlowLabel
  | run (label : Label)
  -- A first delivery, a redelivery or a retry
  | deliver (execution : Nat) (ask : InvoiceAsk)
  | advance (execution : Nat) (oracle : InvoiceOracle)
  | fail (execution : Nat) (e : Exn)
  | provision (tenant : Id)

-- The executions read the table the storefront writes.
def InvoiceSys.withOrders (desk : InvoiceSys) (orders : Table Order) : InvoiceSys :=
  { desk with world := { desk.world with orders } }

namespace InvoiceFlow

def works (library : InvoiceLibrary) (f : InvoiceFlow) (event : InvoiceEvent) : Option InvoiceFlow :=
  (f.desk.step library event).map fun desk => { f with desk }

def step (settings : Settings) (lib : WebhookLibrary) (library : InvoiceLibrary) (f : InvoiceFlow) :
    FlowLabel → Option InvoiceFlow
  | .run label => (Storefront.step settings lib f.sys label).map fun sys =>
    { sys, asks := f.asks ++ newAsks lib f.sys label, desk := f.desk.withOrders sys.db.orders }
  | .deliver i ask => if ask ∈ f.asks then f.works library (.delay i ask.tenant ask.order) else none
  | .advance i oracle => f.works library (.advance i oracle)
  | .fail i e => f.works library (.fail i e)
  | .provision tenant => f.works library (.provision tenant)

structure Initial (f : InvoiceFlow) : Prop where
  sys : f.sys.Initial
  asks : f.asks = []
  idle : ∀ i, f.desk.tasks i = none
  invoices : f.desk.world.invoices.rows = []
  orders : f.desk.world.orders = f.sys.db.orders

end InvoiceFlow

def flowing (settings : Settings) (lib : WebhookLibrary) (library : InvoiceLibrary) :
    Machine InvoiceFlow FlowLabel where
  Start := InvoiceFlow.Initial
  step := InvoiceFlow.step settings lib library

/-! ## The two parts -/

def Asked (asks : List InvoiceAsk) (tenant order : Id) : Prop := ∃ ask ∈ asks, ask.tenant = tenant ∧ ask.order = order

section Parts

variable {settings : Settings} {lib : WebhookLibrary} {library : InvoiceLibrary} {f f' : InvoiceFlow}

-- To the executions a step of the storefront is an edit of the orders.
theorem orders_kept {s s' : Sys} {l : Label} (taken : step settings lib s l = some s') :
    keepsOrders s.db.orders s'.db.orders = true := by
  simp only [keepsOrders, List.all_eq_true, List.any_eq_true, Bool.and_eq_true, beq_iff_eq]
  intro o member
  obtain ⟨o', member', body⟩ := (step_change taken).shape.order_kept member
  exact ⟨o', member', congrArg OrderCore.id body, congrArg OrderCore.tenant body⟩

inductive Flowed (settings : Settings) (lib : WebhookLibrary) (library : InvoiceLibrary) (f : InvoiceFlow) :
    InvoiceFlow → Prop
  | storefront {label : Label} {sys : Sys} (taken : step settings lib f.sys label = some sys)
      (seen : (invoicing library).step f.desk (.editOrders sys.db.orders) = some (f.desk.withOrders sys.db.orders)) :
      Flowed settings lib library f ⟨sys, f.asks ++ newAsks lib f.sys label, f.desk.withOrders sys.db.orders⟩
  | desk {event : InvoiceEvent} {desk : InvoiceSys} (taken : (invoicing library).step f.desk event = some desk)
      (orders : desk.world.orders = f.desk.world.orders)
      (asked : ∀ i tenant order, event = .delay i tenant order → Asked f.asks tenant order) :
      Flowed settings lib library f { f with desk }

theorem Took.orders {task : InvoiceTask} {w w' : InvoiceWorld} {pc : InvoicePc} (took : Took library task w pc w') :
    w'.orders = w.orders := by
  cases took with
  | save at_ saved =>
    obtain ⟨_, _, rfl⟩ := saveUrl_eq_ok.mp saved
    rfl
  | _ => rfl

theorem invoicing_orders {s s' : InvoiceSys} {event : InvoiceEvent} (taken : (invoicing library).step s event = some s')
    (own : ∀ orders, event ≠ .editOrders orders) : s'.world.orders = s.world.orders := by
  cases event with
  | delay =>
    simp only [invoicing, InvoiceSys.step] at taken
    split at taken <;> cases taken
    rfl
  | advance i oracle =>
    simp only [invoicing, InvoiceSys.step, Option.bind_eq_bind, Option.bind_eq_some_iff] at taken
    obtain ⟨task, at_i, ⟨pc, w⟩, next, same⟩ := taken
    cases same
    exact (next_took next).orders
  | fail i e =>
    simp only [invoicing, InvoiceSys.step, Option.bind_eq_bind, Option.bind_eq_some_iff] at taken
    obtain ⟨task, at_i, ended⟩ := taken
    split at ended <;> cases ended
    rfl
  | editOrders orders => exact absurd rfl (own orders)
  | provision =>
    simp only [invoicing, InvoiceSys.step] at taken
    split at taken <;> cases taken
    rfl

theorem step_flowed {l : FlowLabel} (orders : f.desk.world.orders = f.sys.db.orders)
    (taken : (flowing settings lib library).step f l = some f') : Flowed settings lib library f f' := by
  have works {event : InvoiceEvent} (own : ∀ orders, event ≠ .editOrders orders)
      (asked : ∀ i tenant order, event = .delay i tenant order → Asked f.asks tenant order)
      (worked : f.works library event = some f') : Flowed settings lib library f f' := by
    obtain ⟨desk, stepped, rfl⟩ := Option.map_eq_some_iff.mp worked
    exact .desk stepped (invoicing_orders stepped own) asked
  cases l with
  | run label =>
    obtain ⟨sys, stepped, rfl⟩ := Option.map_eq_some_iff.mp taken
    refine .storefront stepped ?_
    have kept : keepsOrders f.desk.world.orders sys.db.orders = true := by
      rw [orders]
      exact orders_kept stepped
    simp only [invoicing, InvoiceSys.step, kept, if_true, InvoiceSys.withOrders]
  | deliver i ask =>
    simp only [flowing, InvoiceFlow.step] at taken
    split at taken
    next listed =>
      refine works (fun _ same => by cases same) (fun _ _ _ same => ?_) taken
      cases same
      exact ⟨ask, listed, rfl, rfl⟩
    · cases taken
  | advance | fail | provision => exact works (fun _ same => by cases same) (fun _ _ _ same => by cases same) taken

end Parts

/-! ## Whose the invoices are -/

section Invoices

variable {library : InvoiceLibrary} {s s' : InvoiceSys} {event : InvoiceEvent}

theorem Took.invoices {task : InvoiceTask} {w w' : InvoiceWorld} {pc : InvoicePc} (took : Took library task w pc w')
    (sound : task.Sound w) {row' : Invoice} (member : row' ∈ w'.invoices.rows) :
    (∃ row ∈ w.invoices.rows, row.tenant = row'.tenant ∧ row.order = row'.order) ∨
      row'.tenant = task.tenant ∧ row'.order = task.order := by
  cases took with
  | create at_ inserted =>
    rw [Table.insert_rows inserted, List.mem_append, List.mem_singleton] at member
    rcases member with before | rfl
    · exact .inl ⟨row', before, rfl, rfl⟩
    · exact .inr ⟨rfl, (sound.at_ at_).1⟩
  | save at_ saved =>
    obtain ⟨_, _, rfl⟩ := saveUrl_eq_ok.mp saved
    obtain ⟨row, before, rfl⟩ := List.mem_map.mp member
    refine .inl ⟨row, before, ?_⟩
    unfold Table.updated
    split <;> exact ⟨rfl, rfl⟩
  | _ => exact .inl ⟨row', member, rfl, rfl⟩

structure InvoiceSys.Bound (asks : List InvoiceAsk) (s : InvoiceSys) : Prop where
  tasks : ∀ i task, s.tasks i = some task → Asked asks task.tenant task.order
  invoices : ∀ row ∈ s.world.invoices.rows, Asked asks row.tenant row.order

variable {asks : List InvoiceAsk}

theorem InvoiceSys.Bound.goTo (bound : s.Bound asks) {i : Nat} {task : InvoiceTask} {pc : InvoicePc} {w : InvoiceWorld}
    (asked : Asked asks task.tenant task.order) (invoices : ∀ row ∈ w.invoices.rows, Asked asks row.tenant row.order) :
    (s.goTo i task pc w).Bound asks := by
  refine ⟨fun j other at_j => ?_, invoices⟩
  by_cases same : j = i
  · rw [same, s.goTo_self] at at_j
    cases at_j
    exact asked
  · rw [s.goTo_other same] at at_j
    exact bound.tasks j other at_j

theorem InvoiceSys.Bound.step (bound : s.Bound asks) (sound : s.Sound)
    (taken : (invoicing library).step s event = some s')
    (asked : ∀ i tenant order, event = .delay i tenant order → Asked asks tenant order) : s'.Bound asks := by
  cases event with
  | delay i tenant order =>
    simp only [invoicing, InvoiceSys.step] at taken
    split at taken <;> cases taken
    exact bound.goTo (asked i tenant order rfl) bound.invoices
  | advance i oracle =>
    simp only [invoicing, InvoiceSys.step, Option.bind_eq_bind, Option.bind_eq_some_iff] at taken
    obtain ⟨task, at_i, ⟨pc, w⟩, next, same⟩ := taken
    cases same
    refine bound.goTo (bound.tasks i task at_i) fun row' member => ?_
    rcases (next_took next).invoices (sound i task at_i) member with ⟨row, before, tenant, order⟩ | ⟨tenant, order⟩
    · exact tenant ▸ order ▸ bound.invoices row before
    · exact tenant ▸ order ▸ bound.tasks i task at_i
  | fail i e =>
    simp only [invoicing, InvoiceSys.step, Option.bind_eq_bind, Option.bind_eq_some_iff] at taken
    obtain ⟨task, at_i, ended⟩ := taken
    split at ended <;> cases ended
    exact bound.goTo (bound.tasks i task at_i) bound.invoices
  | editOrders | provision =>
    simp only [invoicing, InvoiceSys.step] at taken
    split at taken <;> cases taken
    exact ⟨bound.tasks, bound.invoices⟩

theorem InvoiceSys.Bound.mono (bound : s.Bound asks) {more : List InvoiceAsk} : s.Bound (asks ++ more) := by
  have wider {tenant order : Id} (asked : Asked asks tenant order) : Asked (asks ++ more) tenant order := by
    obtain ⟨ask, listed, same⟩ := asked
    exact ⟨ask, List.mem_append_left _ listed, same⟩
  exact ⟨fun i task at_i => wider (bound.tasks i task at_i), fun row member => wider (bound.invoices row member)⟩

end Invoices

/-! ## Runs -/

structure InvoiceFlow.Sound (f : InvoiceFlow) : Prop where
  kept : f.sys.Kept
  held : JobsHeld f.asks f.sys
  orders : f.desk.world.orders = f.sys.db.orders
  desk : f.desk.Sound
  bound : f.desk.Bound f.asks

section Runs

variable {settings : Settings} {lib : WebhookLibrary} {library : InvoiceLibrary} {f f' : InvoiceFlow}

theorem InvoiceFlow.Sound.start (initial : f.Initial) : f.Sound where
  kept := .start initial.sys
  held := initial.asks ▸ .start initial.sys
  orders := initial.orders
  desk i task at_i := by
    rw [initial.idle i] at at_i
    cases at_i
  bound := ⟨fun i task at_i => (by rw [initial.idle i] at at_i; cases at_i), by simp [initial.invoices]⟩

theorem InvoiceFlow.Sound.step (addressed : ∀ key now, library.url key now ≠ "") (sound : f.Sound) {l : FlowLabel}
    (taken : (flowing settings lib library).step f l = some f') : f'.Sound := by
  cases step_flowed sound.orders taken with
  | storefront stepped seen => exact
    { kept := sound.kept.step stepped
      held := sound.held.step sound.kept stepped
      orders := rfl
      desk := (step_moved seen).sound addressed sound.desk
      bound := ⟨sound.bound.mono.tasks, sound.bound.mono.invoices⟩ }
  | desk stepped orders asked => exact
    { kept := sound.kept
      held := sound.held
      orders := orders.trans sound.orders
      desk := (step_moved stepped).sound addressed sound.desk
      bound := sound.bound.step sound.desk stepped asked }

theorem InvoiceFlow.Sound.order_of (sound : f.Sound) {tenant order : Id} (asked : Asked f.asks tenant order) :
    ∃ o ∈ f.sys.db.orders.rows, o.id = order ∧ o.tenant = tenant := by
  obtain ⟨ask, listed, rfl, rfl⟩ := asked
  obtain ⟨o, member, same⟩ := sound.held.known ask listed
  exact ⟨o, member, congrArg InvoiceAsk.order same, congrArg InvoiceAsk.tenant same⟩

theorem InvoiceFlow.Sound.found (sound : f.Sound) {i : Nat} {task : InvoiceTask} (oracle : InvoiceOracle)
    (at_i : f.desk.tasks i = some task) (reading : task.pc = .reading) : ∃ o ∈ f.sys.db.orders.rows, o.id = task.order ∧
      task.next library oracle f.desk.world = some (.looking o, f.desk.world) := by
  obtain ⟨o, member, id, tenant⟩ := sound.order_of (sound.bound.tasks i task at_i)
  simp only [InvoiceTask.next, reading]
  split
  next missed =>
    rw [sound.orders] at missed
    have missing := List.find?_eq_none.mp missed o member
    simp [id, tenant] at missing
  next order found =>
    have picked := List.find?_some found
    simp only [Bool.and_eq_true, beq_iff_eq] at picked
    exact ⟨order, sound.orders ▸ List.mem_of_find?_eq_some found, picked.2, rfl⟩

end Runs

namespace Sample

end Sample

end Storefront
