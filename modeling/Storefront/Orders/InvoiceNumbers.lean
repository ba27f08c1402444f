import Storefront.Orders.InvoiceTask
import Storefront.Transition.Dispenser
import Storefront.Transition.History

set_option autoImplicit false

/-!
# Invoice numbers

An execution draws its number in one statement and inserts its row in another. One that
loses the insert, raises or dies in between leaves a gap.
-/

namespace Storefront

open Relational Transition

def Invoice.numbered (row : Invoice) : Id × Nat := (row.tenant, row.invoice_number)

def InvoiceTask.held (task : InvoiceTask) : Option (Id × Nat) :=
  match task.pc with
  | .creating _ number => some (task.tenant, number)
  | _ => none

def InvoiceSys.held (s : InvoiceSys) (i : Nat) : Option (Id × Nat) := (s.tasks i).bind InvoiceTask.held

def learnInvoiceDraw (known : List (Id × Nat)) (move : Move InvoiceSys InvoiceEvent) : List (Id × Nat) :=
  match move.label with
  | .advance i _ => if move.before.held i = none then known ++ (move.after.held i).toList else known
  | _ => known

/-- The numbers a run has drawn, oldest first. -/
def invoiceDraws (moves : List (Move InvoiceSys InvoiceEvent)) : List (Id × Nat) := history learnInvoiceDraw [] moves

def InvoiceSys.dispenser (s : InvoiceSys) (drawn : List (Id × Nat)) : Dispenser Id Nat where
  next := s.world.sequences
  held := s.held
  used := s.world.invoices.rows.map Invoice.numbered
  drawn := drawn

def freshInvoicing (lib : InvoiceLibrary) : Machine InvoiceSys InvoiceEvent where
  Start s := (invoicing lib).Start s ∧ s.world.invoices.rows = [] ∧ ∀ tenant, s.world.sequences tenant = none
  step := (invoicing lib).step

section Steps

variable {lib : InvoiceLibrary} {s s' : InvoiceSys} {i : Nat} {task : InvoiceTask} {drawn : List (Id × Nat)}

theorem goTo_held (pc : InvoicePc) (w : InvoiceWorld) :
    (s.goTo i task pc w).held = Function.update s.held i (InvoiceTask.held { task with pc }) := by
  funext j
  by_cases same : j = i
  · subst same
    rw [Function.update_self, InvoiceSys.held, s.goTo_self]
    rfl
  · rw [Function.update_of_ne same, InvoiceSys.held, s.goTo_other same]
    rfl

theorem goTo_dispenser (pc : InvoicePc) (w : InvoiceWorld) :
    (s.goTo i task pc w).dispenser drawn =
      ⟨w.sequences, Function.update s.held i (InvoiceTask.held { task with pc }), w.invoices.rows.map Invoice.numbered,
        drawn⟩ := by
  rw [InvoiceSys.dispenser, goTo_held]
  rfl

theorem goTo_drops {pc : InvoicePc} {w : InvoiceWorld} (sequences : w.sequences = s.world.sequences)
    (invoices : w.invoices.rows.map Invoice.numbered = s.world.invoices.rows.map Invoice.numbered)
    (empty : InvoiceTask.held { task with pc } = none) :
    (s.dispenser drawn).Takes 1000 ((s.goTo i task pc w).dispenser drawn) := by
  rw [goTo_dispenser, sequences, invoices, empty]
  exact .drop i

theorem resume_held (order : Order) (invoice : Invoice) :
    InvoiceTask.held { task with pc := resume order invoice } = none := by
  unfold resume
  split <;> rfl

theorem saveUrl_numbered {invoice : Invoice} {url : String} {now : Time} {w w' : InvoiceWorld}
    (done : saveUrl invoice url now w = .ok w') : w'.sequences = w.sequences ∧
      w'.invoices.rows.map Invoice.numbered = w.invoices.rows.map Invoice.numbered := by
  simp only [saveUrl, bind_eq_ok, pure_eq_ok] at done
  obtain ⟨_, _, _, _, rfl⟩ := done
  exact ⟨rfl, Table.map_updated _ _ _ _ fun _ _ _ => rfl⟩

theorem advance_takes {oracle : InvoiceOracle} {pc : InvoicePc} {w : InvoiceWorld} (at_i : s.tasks i = some task)
    (next : task.next lib oracle s.world = some (pc, w)) : (s.dispenser drawn).Takes 1000
      ((s.goTo i task pc w).dispenser (learnInvoiceDraw drawn ⟨s, .advance i oracle, s.goTo i task pc w⟩)) := by
  have holds : s.held i = task.held := by rw [InvoiceSys.held, at_i, Option.bind_some]
  have quiet (empty : InvoiceTask.held { task with pc } = none) :
      learnInvoiceDraw drawn ⟨s, .advance i oracle, s.goTo i task pc w⟩ = drawn := by
    simp only [learnInvoiceDraw, goTo_held, Function.update_self, empty, Option.toList_none, List.append_nil, ite_self]
  unfold InvoiceTask.next at next
  split at next
  next at_ =>
    cases next
    rw [quiet rfl]
    exact goTo_drops rfl rfl rfl
  next at_ =>
    split at next <;> cases next <;> rw [quiet rfl] <;> exact goTo_drops rfl rfl rfl
  next order at_ =>
    split at next <;> cases next
    · rw [quiet rfl]
      exact goTo_drops rfl rfl rfl
    · rw [quiet (resume_held _ _)]
      exact goTo_drops rfl rfl (resume_held _ _)
  next order at_ =>
    have free : s.held i = none := by rw [holds, InvoiceTask.held, at_]
    split at next <;> cases next
    · rw [quiet rfl]
      exact goTo_drops rfl rfl rfl
    next number top =>
      have learnt : learnInvoiceDraw drawn ⟨s, .advance i oracle, s.goTo i task (.creating order number)
          { s.world with sequences := Function.update s.world.sequences task.tenant (some (number + 1)) }⟩ =
            drawn ++ [(task.tenant, number)] := by
        simp only [learnInvoiceDraw, free, if_true, goTo_held, Function.update_self]
        rfl
      rw [learnt, goTo_dispenser]
      exact .draw i task.tenant number free top
  next order number at_ =>
    have full : s.held i = some (task.tenant, number) := by rw [holds, InvoiceTask.held, at_]
    split at next <;> cases next
    · rw [quiet rfl]
      exact goTo_drops rfl rfl rfl
    next invoices inserted =>
      rw [quiet (resume_held _ _), goTo_dispenser, resume_held]
      simp only [Table.insert_rows inserted, List.map_append, List.map_cons, List.map_nil]
      exact .use i (task.tenant, number) full
  next order invoice at_ =>
    split at next <;> cases next <;> rw [quiet rfl] <;> exact goTo_drops rfl rfl rfl
  next invoice pdf_bytes at_ =>
    cases next
    rw [quiet rfl]
    exact goTo_drops rfl rfl rfl
  next invoice saved_key at_ =>
    cases next
    rw [quiet rfl]
    exact goTo_drops rfl rfl rfl
  next invoice url at_ =>
    split at next <;> cases next <;> rw [quiet rfl]
    · exact goTo_drops rfl rfl rfl
    next saved => exact goTo_drops (saveUrl_numbered saved).1 (saveUrl_numbered saved).2 rfl
  next at_ =>
    cases next
    rw [quiet rfl]
    exact goTo_drops rfl rfl rfl
  all_goals cases next

theorem invoicing_takes {e : InvoiceEvent} (taken : (freshInvoicing lib).step s e = some s') :
    (s.dispenser drawn).Takes 1000 (s'.dispenser (learnInvoiceDraw drawn ⟨s, e, s'⟩)) := by
  simp only [freshInvoicing, invoicing] at taken
  cases e with
  | delay i tenant order =>
    simp only [InvoiceSys.step] at taken
    split at taken <;> cases taken
    exact goTo_drops rfl rfl rfl
  | advance i oracle =>
    simp only [InvoiceSys.step, Option.bind_eq_bind, Option.bind_eq_some_iff] at taken
    obtain ⟨task, at_i, ⟨pc, w⟩, next, same⟩ := taken
    cases same
    exact advance_takes at_i next
  | fail i e =>
    simp only [InvoiceSys.step, Option.bind_eq_bind, Option.bind_eq_some_iff] at taken
    obtain ⟨task, at_i, ended⟩ := taken
    split at ended <;> cases ended
    exact goTo_drops rfl rfl rfl
  | editOrders orders =>
    simp only [InvoiceSys.step] at taken
    split at taken <;> cases taken
    exact .stay
  | provision tenant =>
    simp only [InvoiceSys.step] at taken
    split at taken <;> cases taken
    next missing => exact .create tenant missing

end Steps

/-- The numbers of a run, and its invoices. -/
structure NumbersInvoices (moves : List (Move InvoiceSys InvoiceEvent)) (s : InvoiceSys) : Prop where
  drawn : ∀ tenant, ∃ count, numbersOf tenant (invoiceDraws moves) = List.range' 1000 count ∧
    (s.world.sequences tenant = some (1000 + count) ∨ s.world.sequences tenant = none ∧ count = 0)
  numbered : ∀ row ∈ s.world.invoices.rows, row.invoice_number ∈ numbersOf row.tenant (invoiceDraws moves)
  distinct : ∀ tenant, ((s.world.invoices.rows.filter fun row => row.tenant = tenant).map Invoice.invoice_number).Nodup
  -- An execution loses its insert to an invoice of its order, or to the id.
  refused : ∀ i task order number oracle, s.tasks i = some task → task.pc = .creating order number →
    (s.world.invoices.insert (newInvoice task.tenant order number oracle) = none ↔
      ∃ row ∈ s.world.invoices.rows, row.id = oracle.id ∨ row.order = order.id)

theorem Invoice.entries_free {row row' : Invoice} (id : row'.id ≠ row.id) (order : row'.order ≠ row.order)
    (number : row'.numbered ≠ row.numbered) : ∀ e ∈ Schema.entries row, e ∉ Schema.entries row' := by
  have place : ¬ (row'.tenant = row.tenant ∧ row'.invoice_number = row.invoice_number) := by
    rintro ⟨tenant, same⟩
    exact number (by rw [Invoice.numbered, Invoice.numbered, tenant, same])
  intro (e : IndexEntry) inRow inOther
  change e ∈ [IndexEntry.primary row.id, .owner row.order, .pair row.tenant row.invoice_number] at inRow
  change e ∈ [IndexEntry.primary row'.id, .owner row'.order, .pair row'.tenant row'.invoice_number] at inOther
  simp only [List.mem_cons, List.not_mem_nil, or_false] at inRow inOther
  grind

theorem insertInvoice_free {invoices : Table Invoice} {row : Invoice}
    (free : row.numbered ∉ invoices.rows.map Invoice.numbered) :
    invoices.insert row = none ↔ ∃ other ∈ invoices.rows, other.id = row.id ∨ other.order = row.order := by
  constructor
  · intro refused
    by_contra clear
    simp only [not_exists, not_and, not_or] at clear
    obtain ⟨_, inserted⟩ : ∃ invoices', invoices.insert row = some invoices' := Table.insert_isSome
      (fun other member => Invoice.entries_free (clear other member).1 (clear other member).2
        fun same => free (same ▸ List.mem_map_of_mem member))
      (by simp [Schema.entries]) rfl
    rw [refused] at inserted
    cases inserted
  · rintro ⟨other, member, taken⟩
    cases inserted : invoices.insert row with
    | none => rfl
    | some _ =>
      rcases taken with id | order
      · exact absurd id (Table.insert_key_fresh inserted member)
      · refine absurd ?_ (Table.insert_fresh inserted member (e := .owner row.order) (by simp [Schema.entries]))
        simp [Schema.entries, order]

/-- However executions fail, are retried and interleave, uniq_invoice_number_per_tenant never refuses an invoice. -/
theorem invoice_numbers (lib : InvoiceLibrary) {s₀ s : InvoiceSys} {moves : List (Move InvoiceSys InvoiceEvent)}
    (run : (freshInvoicing lib).Run s₀ moves s) : NumbersInvoices moves s := by
  have sound : (s.dispenser (invoiceDraws moves)).Sound 1000 := by
    refine run.agrees (R := fun drawn s => (s.dispenser drawn).Sound 1000) (fun t start => ?_)
      fun _ _ _ _ sound taken => (invoicing_takes taken).sound sound
    obtain ⟨idle, empty, missing⟩ := start
    refine Dispenser.sound_empty missing (fun i => ?_) (by rw [InvoiceSys.dispenser, empty, List.map_nil]) rfl
    exact congrArg (Option.bind · InvoiceTask.held) (idle i)
  refine ⟨sound.counts, ?_, ?_, ?_⟩
  · intro row member
    exact mem_numbersOf.mpr (sound.used row.numbered (List.mem_map_of_mem member))
  · exact numbers_nodup sound.once fun row row' tenant number => by
      rw [Invoice.numbered, Invoice.numbered, tenant, number]
  · intro i task order number oracle at_i at_
    have holds : s.held i = some (task.tenant, number) := by
      rw [InvoiceSys.held, at_i, Option.bind_some, InvoiceTask.held, at_]
    exact insertInvoice_free (sound.unused i _ holds)

namespace Sample

def freshDesk : InvoiceSys := { invoiceDesk with world := { invoiceDesk.world with sequences := fun _ => none } }

def provisionedTwice : List InvoiceEvent := .provision 1 :: retriedTwice

def afterProvisioned : InvoiceSys :=
  ((freshInvoicing invoiceLibrary).exec freshDesk provisionedTwice).get (by decide +kernel)

theorem provisionedTwice_run : (freshInvoicing invoiceLibrary).exec freshDesk provisionedTwice = some afterProvisioned :=
  (Option.some_get _).symm

end Sample

theorem invoice_numbers_retried :
    ∃ moves, (freshInvoicing Sample.invoiceLibrary).Run Sample.freshDesk moves Sample.afterProvisioned ∧
      NumbersInvoices moves Sample.afterProvisioned ∧ Sample.afterProvisioned.world.sequences 1 = some 1002 ∧
        Sample.afterProvisioned.world.invoices.rows.map Invoice.invoice_number = [1000] := by
  obtain ⟨moves, run⟩ := Machine.exec_run (show (freshInvoicing Sample.invoiceLibrary).Start Sample.freshDesk from
    ⟨fun _ => rfl, rfl, fun _ => rfl⟩) Sample.provisionedTwice_run
  exact ⟨moves, run, invoice_numbers _ run, by decide +kernel, by decide +kernel⟩

end Storefront
