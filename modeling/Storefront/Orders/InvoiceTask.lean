import Storefront.Payments.Service
import Storefront.Transition.Machine

set_option autoImplicit false

/-!
# The invoice task

`generate_invoice` runs in autocommit: each of its reads and writes is a step of its
own, between which it may raise or die, and between which other executions work.
-/

namespace Storefront

open Relational Transition

structure Invoice where
  id : Id
  tenant : Id
  order : Id
  invoice_number : Nat
  pdf_url : String
  issued_at : Option Time
  updated_at : Time
  deriving DecidableEq, Repr

-- The one-to-one column, uniq_invoice_number_per_tenant
instance : Keyed Invoice :=
  keyedBy Invoice.id (fun i => [.owner i.order, .pair i.tenant i.invoice_number]) fun _ => true

abbrev Pdf := List UInt8

-- The renderer, and the storage backend of the bucket.
structure InvoiceLibrary where
  render_invoice_pdf : Invoice → Order → Outcome Pdf
  -- The name a backend that must not overwrite looks for.
  available_name : String → List String → String
  -- A signed URL differs from one moment to the next.
  url : String → Time → String

structure InvoiceWorld where
  orders : Table Order
  invoices : Table Invoice
  -- The next value of invoice_number_seq of a tenant.
  sequences : Id → Option Nat
  -- What was put, oldest first.
  bucket : List (String × Pdf)

-- What one execution has read, and where it is.
inductive InvoicePc
  | entering
  | reading
  | looking (order : Order)
  | drawing (order : Order)
  | creating (order : Order) (number : Nat)
  | rendering (order : Order) (invoice : Invoice)
  | uploading (invoice : Invoice) (pdf_bytes : Pdf)
  | addressing (invoice : Invoice) (saved_key : String)
  | saving (invoice : Invoice) (url : String)
  | leaving
  | done
  | failed (e : Exn)
  deriving DecidableEq

structure InvoiceTask where
  tenant : Id
  order : Id
  pc : InvoicePc
  deriving DecidableEq

structure InvoiceOracle where
  id : Id
  now : Time

def objectKey (tenant_id invoice_id : Id) : String :=
  "tenants/" ++ toString tenant_id ++ "/invoices/" ++ toString invoice_id ++ ".pdf"

-- STORAGES["invoices"]
def fileOverwrite : Bool := true

def saveBytes (lib : InvoiceLibrary) (bucket : List (String × Pdf)) (key : String) : String :=
  if fileOverwrite then key else lib.available_name key (bucket.map Prod.fst)

def newInvoice (tenant : Id) (order : Order) (number : Nat) (oracle : InvoiceOracle) : Invoice :=
  { id := oracle.id
    tenant
    order := order.id
    invoice_number := number
    pdf_url := ""
    issued_at := some oracle.now
    updated_at := oracle.now }

-- From `if invoice.pdf_url` on.
def resume (order : Order) (invoice : Invoice) : InvoicePc :=
  if invoice.pdf_url = "" then .rendering order invoice else .leaving

def saveUrl (invoice : Invoice) (url : String) (now : Time) (w : InvoiceWorld) : Outcome InvoiceWorld := do
  fits url 200
  require (w.invoices.rows.any fun row => row.id == invoice.id)
    (.other "Save with update_fields did not affect any rows.")
  return { w with
    invoices := w.invoices.modify (fun row => row.id == invoice.id)
      (fun row => { row with pdf_url := url, updated_at := now }) ⟨fun _ => rfl, fun _ => rfl⟩ }

namespace InvoiceTask

-- The next statement, or call into the storage, of an execution that has not ended.
def next (lib : InvoiceLibrary) (task : InvoiceTask) (oracle : InvoiceOracle) (w : InvoiceWorld) :
    Option (InvoicePc × InvoiceWorld) :=
  match task.pc with
  | .entering => some (.reading, w)
  | .reading =>
    match w.orders.rows.find? fun row => row.tenant == task.tenant && row.id == task.order with
    | none => some (.failed (.doesNotExist "Order"), w)
    | some order => some (.looking order, w)
  | .looking order =>
    match w.invoices.rows.find? fun row => row.order == order.id with
    | none => some (.drawing order, w)
    | some invoice => some (resume order invoice, w)
  | .drawing order =>
    match w.sequences task.tenant with
    | none => some (.failed (.other "relation does not exist"), w)
    | some number => some (.creating order number,
        { w with sequences := Function.update w.sequences task.tenant (some (number + 1)) })
  | .creating order number =>
    match w.invoices.insert (newInvoice task.tenant order number oracle) with
    | none => some (.failed .integrityError, w)
    | some invoices => some (resume order (newInvoice task.tenant order number oracle), { w with invoices })
  | .rendering order invoice =>
    match lib.render_invoice_pdf invoice order with
    | .error e => some (.failed e, w)
    | .ok pdf_bytes => some (.uploading invoice pdf_bytes, w)
  | .uploading invoice pdf_bytes =>
    let saved_key := saveBytes lib w.bucket (objectKey task.tenant invoice.id)
    some (.addressing invoice saved_key, { w with bucket := w.bucket ++ [(saved_key, pdf_bytes)] })
  | .addressing invoice saved_key => some (.saving invoice (lib.url saved_key oracle.now), w)
  | .saving invoice url =>
    match saveUrl invoice url oracle.now w with
    | .error e => some (.failed e, w)
    | .ok w' => some (.leaving, w')
  | .leaving => some (.done, w)
  | .done | .failed _ => none

end InvoiceTask

structure InvoiceSys where
  world : InvoiceWorld
  tasks : Nat → Option InvoiceTask

inductive InvoiceEvent
  -- Enqueued by a checkout, a webhook or a reconciliation, or once more by a retry.
  | delay (i : Nat) (tenant order : Id)
  | advance (i : Nat) (oracle : InvoiceOracle)
  -- Raises or dies where it is.
  | fail (i : Nat) (e : Exn)
  -- Other requests write orders, and tenants come to have sequences.
  | editOrders (orders : Table Order)
  | provision (tenant : Id)

def keepsOrders (orders orders' : Table Order) : Bool :=
  orders.rows.all fun row => orders'.rows.any fun row' => row'.id == row.id && row'.tenant == row.tenant

namespace InvoiceSys

def goTo (s : InvoiceSys) (i : Nat) (task : InvoiceTask) (pc : InvoicePc) (world : InvoiceWorld) : InvoiceSys :=
  { world, tasks := Function.update s.tasks i (some { task with pc }) }

theorem goTo_self (s : InvoiceSys) (i : Nat) (task : InvoiceTask) (pc : InvoicePc) (w : InvoiceWorld) :
    (s.goTo i task pc w).tasks i = some { task with pc } := Function.update_self ..

theorem goTo_other (s : InvoiceSys) {i j : Nat} (other : j ≠ i) (task : InvoiceTask) (pc : InvoicePc)
    (w : InvoiceWorld) :
    (s.goTo i task pc w).tasks j = s.tasks j := Function.update_of_ne other ..

def step (lib : InvoiceLibrary) (s : InvoiceSys) : InvoiceEvent → Option InvoiceSys
  | .delay i tenant order =>
    if s.tasks i = none then some (s.goTo i ⟨tenant, order, .entering⟩ .entering s.world) else none
  | .advance i oracle => do
    let task ← s.tasks i
    let (pc, world) ← task.next lib oracle s.world
    return s.goTo i task pc world
  | .fail i e => do
    let task ← s.tasks i
    if task.pc = .done then none else some (s.goTo i task (.failed e) s.world)
  | .editOrders orders =>
    if keepsOrders s.world.orders orders then some { s with world := { s.world with orders } } else none
  | .provision tenant =>
    if s.world.sequences tenant = none then
      some { s with world := { s.world with sequences := Function.update s.world.sequences tenant (some 1000) } }
    else none

end InvoiceSys

def invoicing (lib : InvoiceLibrary) : Machine InvoiceSys InvoiceEvent where
  Start s := ∀ i, s.tasks i = none
  step := InvoiceSys.step lib

/-! ## What one step can do -/

inductive Took (lib : InvoiceLibrary) (task : InvoiceTask) (w : InvoiceWorld) : InvoicePc → InvoiceWorld → Prop
  | enter (at_ : task.pc = .entering) : Took lib task w .reading w
  | read {order : Order} (at_ : task.pc = .reading) (present : order ∈ w.orders.rows)
    (whose : order.tenant = task.tenant)
      (named : order.id = task.order) : Took lib task w (.looking order) w
  | found {order : Order} {invoice : Invoice} (at_ : task.pc = .looking order) (present : invoice ∈ w.invoices.rows)
      (its : invoice.order = order.id) : Took lib task w (resume order invoice) w
  | missing {order : Order} (at_ : task.pc = .looking order) : Took lib task w (.drawing order) w
  | draw {order : Order} {number : Nat} (at_ : task.pc = .drawing order) (sequences : Id → Option Nat) :
      Took lib task w (.creating order number) { w with sequences }
  | create {order : Order} {number : Nat} {oracle : InvoiceOracle} {invoices : Table Invoice}
      (at_ : task.pc = .creating order number)
      (inserted : w.invoices.insert (newInvoice task.tenant order number oracle) = some invoices) :
      Took lib task w (resume order (newInvoice task.tenant order number oracle)) { w with invoices }
  | render {order : Order} {invoice : Invoice} {pdf_bytes : Pdf} (at_ : task.pc = .rendering order invoice) :
      Took lib task w (.uploading invoice pdf_bytes) w
  | upload {invoice : Invoice} {pdf_bytes : Pdf} (at_ : task.pc = .uploading invoice pdf_bytes) :
      Took lib task w (.addressing invoice (objectKey task.tenant invoice.id))
        { w with bucket := w.bucket ++ [(objectKey task.tenant invoice.id, pdf_bytes)] }
  | address {invoice : Invoice} {saved_key : String} {now : Time} (at_ : task.pc = .addressing invoice saved_key) :
      Took lib task w (.saving invoice (lib.url saved_key now)) w
  | save {invoice : Invoice} {url : String} {now : Time} {w' : InvoiceWorld} (at_ : task.pc = .saving invoice url)
      (saved : saveUrl invoice url now w = .ok w') : Took lib task w .leaving w'
  | leave (at_ : task.pc = .leaving) : Took lib task w .done w
  | raise {e : Exn} : Took lib task w (.failed e) w

section Steps

variable {lib : InvoiceLibrary} {task : InvoiceTask} {oracle : InvoiceOracle} {w w' : InvoiceWorld} {pc : InvoicePc}

theorem next_took (taken : task.next lib oracle w = some (pc, w')) : Took lib task w pc w' := by
  unfold InvoiceTask.next at taken
  split at taken
  next at_ =>
    cases taken
    exact .enter at_
  next at_ =>
    split at taken <;> cases taken
    next => exact .raise
    next order found =>
      have matches_ := List.find?_some found
      simp only [Bool.and_eq_true, beq_iff_eq] at matches_
      exact .read at_ (List.mem_of_find?_eq_some found) matches_.1 matches_.2
  next order at_ =>
    split at taken <;> cases taken
    next => exact .missing at_
    next invoice found =>
      exact .found at_ (List.mem_of_find?_eq_some found) (by simpa using List.find?_some found)
  next order at_ =>
    split at taken <;> cases taken
    next => exact .raise
    next => exact .draw at_ _
  next order number at_ =>
    split at taken <;> cases taken
    next => exact .raise
    next inserted => exact .create at_ inserted
  next order invoice at_ =>
    split at taken <;> cases taken
    next => exact .raise
    next => exact .render at_
  next invoice pdf_bytes at_ =>
    cases taken
    exact .upload at_
  next invoice saved_key at_ =>
    cases taken
    exact .address at_
  next invoice url at_ =>
    split at taken <;> cases taken
    next => exact .raise
    next saved => exact .save at_ saved
  next at_ =>
    cases taken
    exact .leave at_
  all_goals cases taken

end Steps

/-! ## What stays -/

namespace InvoiceWorld

structure Keeps (w w' : InvoiceWorld) : Prop where
  orders : ∀ row ∈ w.orders.rows, ∃ row' ∈ w'.orders.rows, row'.id = row.id ∧ row'.tenant = row.tenant
  invoices : ∀ row ∈ w.invoices.rows, ∃ row' ∈ w'.invoices.rows, row'.id = row.id ∧ row'.order = row.order ∧
    row'.invoice_number = row.invoice_number ∧ (row.pdf_url ≠ "" → row'.pdf_url ≠ "")

variable {w w' w'' : InvoiceWorld}

theorem Keeps.of_tables (orders : w'.orders = w.orders) (invoices : w'.invoices = w.invoices) : w.Keeps w' := by
  constructor
  · intro row member
    exact ⟨row, orders ▸ member, rfl, rfl⟩
  · intro row member
    exact ⟨row, invoices ▸ member, rfl, rfl, rfl, id⟩

theorem Keeps.refl (w : InvoiceWorld) : w.Keeps w := .of_tables rfl rfl

theorem Keeps.trans (first : w.Keeps w') (second : w'.Keeps w'') : w.Keeps w'' := by
  constructor
  · intro row member
    obtain ⟨row', member', id', tenant'⟩ := first.orders row member
    obtain ⟨row'', member'', id'', tenant''⟩ := second.orders row' member'
    exact ⟨row'', member'', id''.trans id', tenant''.trans tenant'⟩
  · intro row member
    obtain ⟨row', member', id', order', number', url'⟩ := first.invoices row member
    obtain ⟨row'', member'', id'', order'', number'', url''⟩ := second.invoices row' member'
    exact ⟨row'', member'', id''.trans id', order''.trans order', number''.trans number', fun set => url'' (url' set)⟩

def Places (w : InvoiceWorld) (tenant order : Id) : Prop := ∃ row ∈ w.orders.rows, row.id = order ∧ row.tenant = tenant

def Holds (w : InvoiceWorld) (invoice order : Id) : Prop :=
  ∃ row ∈ w.invoices.rows, row.id = invoice ∧ row.order = order

def Delivered (w : InvoiceWorld) (order : Id) : Prop := ∃ row ∈ w.invoices.rows, row.order = order ∧ row.pdf_url ≠ ""

theorem Keeps.places (keeps : w.Keeps w') {tenant order : Id} (places : w.Places tenant order) :
    w'.Places tenant order := by
  obtain ⟨row, member, rfl, rfl⟩ := places
  exact keeps.orders row member

theorem Keeps.holds (keeps : w.Keeps w') {invoice order : Id} (holds : w.Holds invoice order) :
    w'.Holds invoice order := by
  obtain ⟨row, member, rfl, rfl⟩ := holds
  obtain ⟨row', member', same, its, _⟩ := keeps.invoices row member
  exact ⟨row', member', same, its⟩

theorem Keeps.delivered (keeps : w.Keeps w') {order : Id} (delivered : w.Delivered order) : w'.Delivered order := by
  obtain ⟨row, member, rfl, set⟩ := delivered
  obtain ⟨row', member', _, its, _, url⟩ := keeps.invoices row member
  exact ⟨row', member', its, url set⟩

theorem Places.tenant_eq {tenant tenant' order : Id} (left : w.Places tenant order) (right : w.Places tenant' order) :
    tenant = tenant' := by
  obtain ⟨row, member, named, rfl⟩ := left
  obtain ⟨row', member', named', rfl⟩ := right
  rw [w.orders.eq_of_key member member' (named.trans named'.symm)]

theorem invoice_unique {row row' : Invoice} (left : row ∈ w.invoices.rows) (right : row' ∈ w.invoices.rows)
    (same : row.order = row'.order) : row = row' :=
  w.invoices.eq_of_entry left right (e := .owner row.order) (by simp [Schema.entries]) (by simp [Schema.entries, same])

theorem Holds.invoice_eq {invoice invoice' order : Id} (left : w.Holds invoice order) (right : w.Holds invoice' order) :
    invoice = invoice' := by
  obtain ⟨row, member, rfl, its⟩ := left
  obtain ⟨row', member', rfl, its'⟩ := right
  rw [invoice_unique member member' (its.trans its'.symm)]

end InvoiceWorld

def InvoiceTask.Sound (task : InvoiceTask) (w : InvoiceWorld) : Prop :=
  match task.pc with
  | .entering | .reading | .failed _ => True
  | .looking order | .drawing order | .creating order _ => order.id = task.order ∧ w.Places task.tenant task.order
  | .rendering _ invoice | .uploading invoice _ | .addressing invoice _ =>
    w.Holds invoice.id task.order ∧ w.Places task.tenant task.order
  | .saving invoice url => w.Holds invoice.id task.order ∧ url ≠ ""
  | .leaving | .done => w.Delivered task.order

-- An execution reads first, writes then, and leaves.
def InvoicePc.phase : InvoicePc → Nat
  | .entering | .reading | .looking _ => 0
  | .drawing _ | .creating .. | .rendering .. | .uploading .. | .addressing .. | .saving .. => 1
  | .leaving | .done | .failed _ => 2

section Invariants

variable {lib : InvoiceLibrary} {task : InvoiceTask} {oracle : InvoiceOracle} {w w' : InvoiceWorld} {pc : InvoicePc}

theorem InvoiceTask.Sound.kept (sound : task.Sound w) (keeps : w.Keeps w') : task.Sound w' := by
  obtain ⟨tenant, order, pc⟩ := task
  cases pc with
  | entering | reading | failed => trivial
  | looking | drawing | creating => exact ⟨sound.1, keeps.places sound.2⟩
  | rendering | uploading | addressing => exact ⟨keeps.holds sound.1, keeps.places sound.2⟩
  | saving => exact ⟨keeps.holds sound.1, sound.2⟩
  | leaving | done => exact keeps.delivered sound

theorem InvoiceTask.Sound.at_ (sound : task.Sound w) {pc : InvoicePc} (at_ : task.pc = pc) :
    ({ task with pc } : InvoiceTask).Sound w := by
  rw [← at_]
  exact sound

theorem resume_sound {order : Order} {invoice : Invoice} (present : invoice ∈ w.invoices.rows)
    (its : invoice.order = task.order) (places : w.Places task.tenant task.order) :
    ({ task with pc := resume order invoice } : InvoiceTask).Sound w := by
  unfold resume
  split
  next => exact ⟨⟨invoice, present, rfl, its⟩, places⟩
  next set => exact ⟨invoice, present, its, set⟩

theorem saveUrl_eq_ok {invoice : Invoice} {url : String} {now : Time} :
    saveUrl invoice url now w = .ok w' ↔ url.length ≤ 200 ∧ (∃ row ∈ w.invoices.rows, row.id = invoice.id) ∧
      { w with
        invoices := w.invoices.modify (fun row => row.id == invoice.id)
          (fun row => { row with pdf_url := url, updated_at := now }) ⟨fun _ => rfl, fun _ => rfl⟩ } = w' := by
  simp only [saveUrl, fits, bind_eq_ok, require_eq_ok, pure_eq_ok, List.any_eq_true, beq_iff_eq, exists_const]

theorem saveUrl_keeps {invoice : Invoice} {url : String} {now : Time} (saved : saveUrl invoice url now w = .ok w')
    (set : url ≠ "") : w.Keeps w' := by
  obtain ⟨_, _, rfl⟩ := saveUrl_eq_ok.mp saved
  constructor
  · intro row member
    exact ⟨row, member, rfl, rfl⟩
  · intro row member
    refine ⟨_, List.mem_map_of_mem member, ?_⟩
    unfold Table.updated
    split
    · exact ⟨rfl, rfl, rfl, fun _ => set⟩
    · exact ⟨rfl, rfl, rfl, id⟩

theorem saveUrl_delivers {invoice : Invoice} {url : String} {now : Time} {order : Id}
    (saved : saveUrl invoice url now w = .ok w') (set : url ≠ "") (holds : w.Holds invoice.id order) :
    w'.Delivered order := by
  obtain ⟨_, _, rfl⟩ := saveUrl_eq_ok.mp saved
  obtain ⟨row, member, named, its⟩ := holds
  refine ⟨_, List.mem_map_of_mem member, ?_⟩
  simp [Table.updated, named, its, set]

theorem Took.keeps (took : Took lib task w pc w') (sound : task.Sound w) : w.Keeps w' := by
  cases took with
  | draw | upload => exact .of_tables rfl rfl
  | create at_ inserted =>
    constructor
    · intro row member
      exact ⟨row, member, rfl, rfl⟩
    · intro row member
      exact ⟨row, by rw [Table.insert_rows inserted]; exact List.mem_append_left _ member, rfl, rfl, rfl, id⟩
  | save at_ saved => exact saveUrl_keeps saved (sound.at_ at_).2
  | _ => exact .refl _

theorem Took.sound (addressed : ∀ key now, lib.url key now ≠ "") (took : Took lib task w pc w') (sound : task.Sound w) :
    ({ task with pc } : InvoiceTask).Sound w' := by
  cases took with
  | enter | raise => trivial
  | read at_ present whose named => exact ⟨named, _, present, named, whose⟩
  | found at_ present its =>
    obtain ⟨named, places⟩ := sound.at_ at_
    exact resume_sound present (its.trans named) places
  | missing at_ | draw at_ =>
    obtain ⟨named, places⟩ := sound.at_ at_
    exact ⟨named, places⟩
  | create at_ inserted =>
    obtain ⟨named, places⟩ := sound.at_ at_
    refine resume_sound ?_ named places
    rw [Table.insert_rows inserted]
    exact List.mem_append_right _ (List.mem_singleton.mpr rfl)
  | render at_ | upload at_ =>
    obtain ⟨holds, places⟩ := sound.at_ at_
    exact ⟨holds, places⟩
  | address at_ => exact ⟨(sound.at_ at_).1, addressed _ _⟩
  | save at_ saved =>
    obtain ⟨holds, set⟩ := sound.at_ at_
    exact saveUrl_delivers saved set holds
  | leave at_ =>
    have delivered : w.Delivered task.order := sound.at_ at_
    exact delivered

theorem resume_phase (order : Order) (invoice : Invoice) : 1 ≤ (resume order invoice).phase := by
  unfold resume
  split <;> simp [InvoicePc.phase]

theorem Took.phase (took : Took lib task w pc w') : task.pc.phase ≤ pc.phase := by
  cases took with
  | found at_ => rw [at_]; exact Nat.zero_le _
  | create at_ => rw [at_]; exact resume_phase _ _
  | raise => cases task.pc <;> simp [InvoicePc.phase]
  | enter at_ | read at_ | missing at_ | draw at_ | render at_ | upload at_ | address at_ | save at_ | leave at_ =>
    rw [at_]
    simp [InvoicePc.phase]

theorem Took.idle (took : Took lib task w pc w') (outside : task.pc.phase ≠ 1) : w' = w := by
  cases took with
  | draw at_ | create at_ | upload at_ | save at_ =>
    rw [at_] at outside
    exact absurd rfl outside
  | _ => rfl

theorem Took.bucket (took : Took lib task w pc w') : w'.bucket = w.bucket ∨ ∃ invoice pdf_bytes,
    task.pc = .uploading invoice pdf_bytes ∧
      w'.bucket = w.bucket ++ [(objectKey task.tenant invoice.id, pdf_bytes)] := by
  cases took with
  | upload at_ => exact .inr ⟨_, _, at_, rfl⟩
  | save at_ saved =>
    obtain ⟨_, _, rfl⟩ := saveUrl_eq_ok.mp saved
    exact .inl rfl
  | _ => exact .inl rfl

end Invariants

/-! ## Runs -/

def InvoiceEvent.task : InvoiceEvent → Option Nat
  | .delay i .. | .advance i _ | .fail i _ => some i
  | .editOrders _ | .provision _ => none

def InvoiceSys.Sound (s : InvoiceSys) : Prop := ∀ i task, s.tasks i = some task → task.Sound s.world

inductive Moved (lib : InvoiceLibrary) (s : InvoiceSys) (e : InvoiceEvent) : InvoiceSys → Prop
  | begin {i : Nat} {tenant order : Id} (its : e.task = some i) (free : s.tasks i = none) :
      Moved lib s e (s.goTo i ⟨tenant, order, .entering⟩ .entering s.world)
  | work {i : Nat} {task : InvoiceTask} {pc : InvoicePc} {w : InvoiceWorld} (its : e.task = some i)
      (at_i : s.tasks i = some task) (took : Took lib task s.world pc w) : Moved lib s e (s.goTo i task pc w)
  | around {w : InvoiceWorld} (its : e.task = none) (keeps : s.world.Keeps w) : Moved lib s e { s with world := w }

section Moves

variable {lib : InvoiceLibrary} {s s' : InvoiceSys} {e : InvoiceEvent}

theorem keepsOrders_keeps {w : InvoiceWorld} {orders : Table Order} (kept : keepsOrders w.orders orders = true) :
    w.Keeps { w with orders } := by
  constructor
  · intro row member
    simp only [keepsOrders, List.all_eq_true, List.any_eq_true, Bool.and_eq_true, beq_iff_eq] at kept
    exact kept row member
  · intro row member
    exact ⟨row, member, rfl, rfl, rfl, id⟩

theorem step_moved (taken : (invoicing lib).step s e = some s') : Moved lib s e s' := by
  cases e with
  | delay i tenant order =>
    simp only [invoicing, InvoiceSys.step] at taken
    split at taken <;> cases taken
    next free => exact .begin rfl free
  | advance i oracle =>
    simp only [invoicing, InvoiceSys.step, Option.bind_eq_bind, Option.bind_eq_some_iff] at taken
    obtain ⟨task, at_i, ⟨pc, w⟩, next, same⟩ := taken
    cases same
    exact .work rfl at_i (next_took next)
  | fail i e =>
    simp only [invoicing, InvoiceSys.step, Option.bind_eq_bind, Option.bind_eq_some_iff] at taken
    obtain ⟨task, at_i, ended⟩ := taken
    split at ended <;> cases ended
    exact .work rfl at_i .raise
  | editOrders orders =>
    simp only [invoicing, InvoiceSys.step] at taken
    split at taken <;> cases taken
    next kept => exact .around rfl (keepsOrders_keeps kept)
  | provision tenant =>
    simp only [invoicing, InvoiceSys.step] at taken
    split at taken <;> cases taken
    exact .around rfl (.of_tables rfl rfl)

theorem Moved.keeps (moved : Moved lib s e s') (sound : s.Sound) : s.world.Keeps s'.world := by
  cases moved with
  | begin => exact .refl _
  | work its at_i took => exact took.keeps (sound _ _ at_i)
  | around its keeps => exact keeps

theorem Moved.sound (addressed : ∀ key now, lib.url key now ≠ "") (moved : Moved lib s e s') (sound : s.Sound) :
    s'.Sound := by
  have keeps := moved.keeps sound
  intro j task at_j
  cases moved with
  | @begin i tenant order its free =>
    by_cases same : j = i
    · rw [same, InvoiceSys.goTo_self] at at_j
      cases at_j
      trivial
    · rw [InvoiceSys.goTo_other s same] at at_j
      exact sound j task at_j
  | @work i own pc w its at_i took =>
    by_cases same : j = i
    · rw [same, InvoiceSys.goTo_self] at at_j
      cases at_j
      exact took.sound addressed (sound i own at_i)
    · rw [InvoiceSys.goTo_other s same] at at_j
      exact (sound j task at_j).kept keeps
  | around its kept => exact (sound j task at_j).kept keeps

def InvoiceSys.Past (i : Nat) (phase : Nat) (s : InvoiceSys) : Prop :=
  ∃ task, s.tasks i = some task ∧ phase ≤ task.pc.phase

theorem Moved.past {i phase : Nat} (moved : Moved lib s e s') (past : s.Past i phase) : s'.Past i phase := by
  obtain ⟨task, at_i, later⟩ := past
  cases moved with
  | @begin j tenant order its free =>
    have other : i ≠ j := by
      rintro rfl
      rw [free] at at_i
      cases at_i
    exact ⟨task, (InvoiceSys.goTo_other s other ..).trans at_i, later⟩
  | @work j own pc w its at_j took =>
    by_cases same : i = j
    · subst same
      rw [at_i] at at_j
      cases at_j
      exact ⟨_, InvoiceSys.goTo_self .., later.trans took.phase⟩
    · exact ⟨task, (InvoiceSys.goTo_other s same ..).trans at_i, later⟩
  | around its keeps => exact ⟨task, at_i, later⟩

theorem Moved.idle {i : Nat} (moved : Moved lib s e s') (its : e.task = some i)
    (outside : ∀ task, s.tasks i = some task → task.pc.phase ≠ 1) : s'.world = s.world := by
  cases moved with
  | begin => rfl
  | work its' at_i took =>
    rw [its] at its'
    cases its'
    exact took.idle (outside _ at_i)
  | around its' => rw [its] at its'; cases its'

end Moves

def Uploads (order : Id) (move : Move InvoiceSys InvoiceEvent) (key : String) : Prop :=
  ∃ i task pdf_bytes, move.label.task = some i ∧ move.before.tasks i = some task ∧ task.order = order ∧
    move.after.world.bucket = move.before.world.bucket ++ [(key, pdf_bytes)]

def FindsUrl (i : Nat) (move : Move InvoiceSys InvoiceEvent) : Prop :=
  ∃ oracle task order invoice, move.label = .advance i oracle ∧ move.before.tasks i = some task ∧
    task.pc = .looking order ∧ (move.before.world.invoices.rows.find? fun row => row.order == order.id) = some invoice ∧
    invoice.pdf_url ≠ ""

/-- What a run leaves of the executions for an order. -/
structure InvoicedOnce (order : Id) (moves : List (Move InvoiceSys InvoiceEvent)) (s : InvoiceSys) : Prop where
  one : ∀ row ∈ s.world.invoices.rows, ∀ row' ∈ s.world.invoices.rows,
    row.order = order → row'.order = order → row = row'
  number : ∀ t ∈ Machine.visited moves s, ∀ row ∈ t.world.invoices.rows, row.order = order →
    ∃ row' ∈ s.world.invoices.rows, row'.id = row.id ∧ row'.order = order ∧ row'.invoice_number = row.invoice_number
  key : ∀ a ∈ moves, ∀ b ∈ moves, ∀ key key', Uploads order a key → Uploads order b key' → key = key'
  idle : ∀ i, ∀ a ∈ moves, FindsUrl i a → ∀ b ∈ moves, b.label.task = some i → b.after.world = b.before.world
  delivered : ∀ i task, s.tasks i = some task → task.order = order → task.pc = .done →
    ∃ row ∈ s.world.invoices.rows, row.order = order ∧ row.pdf_url ≠ ""

section Runs

variable {lib : InvoiceLibrary} (addressed : ∀ key now, lib.url key now ≠ "") {s₀ s s' : InvoiceSys}
  {moves : List (Move InvoiceSys InvoiceEvent)}
include addressed

theorem run_sound (run : (invoicing lib).Run s₀ moves s) : s.Sound := by
  refine run.invariant (fun t started i task at_i => ?_) fun _ _ _ sound taken => ?_
  · rw [started i] at at_i
    cases at_i
  · exact (step_moved taken).sound addressed sound

theorem leads_keeps (sound : s.Sound) (leads : (invoicing lib).Leads s s') : s.world.Keeps s'.world := by
  have both : s'.Sound ∧ s.world.Keeps s'.world := by
    induction leads with
    | refl => exact ⟨sound, .refl _⟩
    | tail _ taken ih =>
      obtain ⟨_, taken⟩ := taken
      have moved := step_moved taken
      exact ⟨moved.sound addressed ih.1, ih.2.trans (moved.keeps ih.1)⟩
  exact both.2

omit addressed in
theorem uploads_key {move : Move InvoiceSys InvoiceEvent} {order : Id} {key : String} (sound : move.before.Sound)
    (taken : (invoicing lib).step move.before move.label = some move.after) (uploads : Uploads order move key) :
    ∃ tenant invoice, key = objectKey tenant invoice ∧ move.before.world.Places tenant order ∧
      move.before.world.Holds invoice order := by
  obtain ⟨i, task, pdf_bytes, its, at_i, rfl, put⟩ := uploads
  obtain ⟨before, label, after⟩ := move
  simp only at *
  cases step_moved taken with
  | begin => simp [InvoiceSys.goTo] at put
  | @work j own pc w its' at_j took =>
    rw [its] at its'
    cases its'
    rw [at_i] at at_j
    cases at_j
    rcases took.bucket with same | ⟨invoice, pdf_bytes', at_, put'⟩
    · simp [InvoiceSys.goTo, same] at put
    · obtain ⟨holds, places⟩ := (sound i task at_i).at_ at_
      have equal := List.append_cancel_left (put'.symm.trans put)
      simp only [List.cons.injEq, Prod.mk.injEq, and_true] at equal
      exact ⟨task.tenant, invoice.id, equal.1.symm, places, holds⟩
  | around its' => rw [its] at its'; cases its'

theorem same_key {a b : Move InvoiceSys InvoiceEvent} {order : Id} {key key' : String} (sound : a.before.Sound)
    (soundB : b.before.Sound) (taken : (invoicing lib).step a.before a.label = some a.after)
    (takenB : (invoicing lib).step b.before b.label = some b.after) (later : (invoicing lib).Leads a.after b.before)
    (left : Uploads order a key) (right : Uploads order b key') : key = key' := by
  obtain ⟨tenant, invoice, rfl, places, holds⟩ := uploads_key sound taken left
  obtain ⟨tenant', invoice', rfl, places', holds'⟩ := uploads_key soundB takenB right
  have keeps := leads_keeps addressed sound (later.head ⟨_, taken⟩)
  rw [(keeps.places places).tenant_eq places', (keeps.holds holds).invoice_eq holds']

omit addressed in
theorem Moved.finds {move : Move InvoiceSys InvoiceEvent} {i : Nat} (finds : FindsUrl i move)
    (taken : (invoicing lib).step move.before move.label = some move.after) :
    (∃ task, move.before.tasks i = some task ∧ task.pc.phase = 0) ∧ move.after.Past i 2 := by
  obtain ⟨oracle, task, order, invoice, label, at_i, at_, found, set⟩ := finds
  refine ⟨⟨task, at_i, by rw [at_]; rfl⟩, ?_⟩
  have next : task.next lib oracle move.before.world = some (.leaving, move.before.world) := by
    unfold InvoiceTask.next
    rw [at_]
    simp only [found, resume, if_neg set]
  rw [label] at taken
  simp only [invoicing, InvoiceSys.step, at_i, next, Option.bind_eq_bind, Option.bind_some, Option.pure_def,
    Option.some.injEq] at taken
  exact ⟨_, taken ▸ InvoiceSys.goTo_self .., le_refl 2⟩

omit addressed in
theorem past_leads {i phase : Nat} (past : s.Past i phase) (leads : (invoicing lib).Leads s s') : s'.Past i phase :=
  leads.keeps (fun _ _ _ past taken => (step_moved taken).past past) past

end Runs

/-- However its executions fail, are retried and interleave, an order gets one invoice under one key. -/
theorem invoice_idempotent (lib : InvoiceLibrary) (addressed : ∀ key now, lib.url key now ≠ "") {s₀ s : InvoiceSys}
    {moves : List (Move InvoiceSys InvoiceEvent)} (run : (invoicing lib).Run s₀ moves s) (order : Id) :
    InvoicedOnce order moves s where
  one row left row' right its its' := InvoiceWorld.invoice_unique left right (its.trans its'.symm)
  number t visited row member its := by
    obtain ⟨_, earlier⟩ : ∃ earlier, (invoicing lib).Run s₀ earlier t := by
      rcases List.mem_append.mp visited with inside | last
      · obtain ⟨move, listed, rfl⟩ := List.mem_map.mp inside
        exact (run.reached move listed).2
      · exact ⟨moves, List.mem_singleton.mp last ▸ run⟩
    have keeps := leads_keeps addressed (run_sound addressed earlier) (run.visited_leads t visited)
    obtain ⟨row', present, same, its', number, _⟩ := keeps.invoices row member
    exact ⟨row', present, same, its'.trans its, number⟩
  key a left b right key key' uploads uploads' := by
    obtain ⟨takenA, _, earlierA⟩ := run.reached a left
    obtain ⟨takenB, _, earlierB⟩ := run.reached b right
    have soundA := run_sound addressed earlierA
    have soundB := run_sound addressed earlierB
    rcases run.moves_comparable a left b right with rfl | later | later
    · obtain ⟨tenant, invoice, rfl, places, holds⟩ := uploads_key soundA takenA uploads
      obtain ⟨tenant', invoice', rfl, places', holds'⟩ := uploads_key soundA takenA uploads'
      rw [places.tenant_eq places', holds.invoice_eq holds']
    · exact same_key addressed soundA soundB takenA takenB later uploads uploads'
    · exact (same_key addressed soundB soundA takenB takenA later uploads' uploads).symm
  idle i a left finds b right its := by
    obtain ⟨takenA, _⟩ := run.reached a left
    obtain ⟨takenB, _⟩ := run.reached b right
    obtain ⟨⟨task, at_i, early⟩, late⟩ := Moved.finds finds takenA
    refine (step_moved takenB).idle its fun own at_b between => ?_
    rcases run.moves_comparable a left b right with rfl | later | later
    · rw [at_i] at at_b
      cases at_b
      omega
    · obtain ⟨task', at_i', late'⟩ := past_leads late later
      rw [at_b] at at_i'
      cases at_i'
      omega
    · have begun : b.before.Past i 1 := ⟨own, at_b, between.ge⟩
      obtain ⟨task', at_i', past⟩ := past_leads ((step_moved takenB).past begun) later
      rw [at_i] at at_i'
      cases at_i'
      omega
  delivered i task at_i its ended := by
    have delivered : s.world.Delivered task.order := (run_sound addressed run i task at_i).at_ ended
    rw [its] at delivered
    exact delivered

namespace Sample

def billed : Order :=
  { id := 70, tenant := 1, customer := 10, cart := none, order_number := 1, status := .paid
    subtotal := 20, discount_total := 0, grand_total := 20, currency := "SAR"
    shipping_address := address.toSnapshot, billing_address := address.toSnapshot, is_b2b := false
    tax_id := "", payment_terms := "", payment_due_date := none, idempotency_key := "k1" }

def invoiceLibrary : InvoiceLibrary where
  render_invoice_pdf _ _ := .ok [37, 80, 68, 70]
  available_name key _ := key
  url key _ := "http://localhost:9000/invoices/" ++ key

theorem invoiceLibrary_addressed (key : String) (now : Time) : invoiceLibrary.url key now ≠ "" := by
  intro empty
  have length := congrArg String.length empty
  simp [invoiceLibrary, String.length_append] at length

def invoiceDesk : InvoiceSys where
  world := { orders := ⟨[billed], by decide +kernel, by decide +kernel⟩, invoices := ∅
             sequences := fun tenant => if tenant = 1 then some 1000 else none, bucket := [] }
  tasks _ := none

def taskSteps (i : Nat) (id : Id) (n : Nat) : List InvoiceEvent := List.replicate n (.advance i ⟨id, 500⟩)

-- Two executions draw a number; one loses the insert, the other dies after its upload, and both are retried.
def retriedTwice : List InvoiceEvent :=
  [.delay 0 1 70, .delay 1 1 70] ++ taskSteps 0 90 4 ++ taskSteps 1 91 4 ++ taskSteps 0 90 3 ++ taskSteps 1 91 1 ++
    [.fail 0 (.other "worker lost"), .delay 2 1 70] ++ taskSteps 2 92 8 ++ [.delay 3 1 70] ++ taskSteps 3 93 4

def afterRetries : InvoiceSys := ((invoicing invoiceLibrary).exec invoiceDesk retriedTwice).get (by decide +kernel)

theorem retriedTwice_run : (invoicing invoiceLibrary).exec invoiceDesk retriedTwice = some afterRetries :=
  (Option.some_get _).symm

end Sample

theorem invoice_idempotent_retried :
    ∃ moves, (invoicing Sample.invoiceLibrary).Run Sample.invoiceDesk moves Sample.afterRetries ∧
      InvoicedOnce 70 moves Sample.afterRetries ∧
      (Sample.afterRetries.tasks 3).map InvoiceTask.pc = some .done ∧
        Sample.afterRetries.world.invoices.rows.map Invoice.invoice_number = [1000] := by
  obtain ⟨moves, run⟩ := Machine.exec_run (fun _ => rfl) Sample.retriedTwice_run
  exact ⟨moves, run, invoice_idempotent _ Sample.invoiceLibrary_addressed run 70, by decide +kernel, by decide +kernel⟩

end Storefront
