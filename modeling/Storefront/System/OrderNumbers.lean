import Storefront.System.HeldCarts
import Storefront.System.Placements
import Storefront.Text.Uuid
import Storefront.Transition.Dispenser
import Storefront.Transition.History

set_option autoImplicit false

/-!
# Order numbers

A number leaves the sequence of its tenant in the middle of phase 4 and does not come
back when the transaction is rolled back. Other checkouts draw and commit in between.
-/

namespace Storefront

open Relational Text Transition

def safeId (tenant_id : Id) : List Char := replaceChar '-' '_' (uuidStr tenant_id)

def orderNumberSeq (tenant_id : Id) : String := "order_number_seq_" ++ String.ofList (safeId tenant_id)
def invoiceNumberSeq (tenant_id : Id) : String := "invoice_number_seq_" ++ String.ofList (safeId tenant_id)

-- The value that comes next, by the name of the sequence.
abbrev Sequences := String → Option Nat

-- CREATE SEQUENCE IF NOT EXISTS ... START 1000
def createSequence (name : String) (sequences : Sequences) : Sequences :=
  if sequences name = none then Function.update sequences name (some 1000) else sequences

def createPerTenantSequences (tenant_id : Id) (sequences : Sequences) : Sequences :=
  createSequence (invoiceNumberSeq tenant_id) (createSequence (orderNumberSeq tenant_id) sequences)

-- A sequence is a bigint and does not cycle.
def nextval (name : String) (sequences : Sequences) : Outcome (Nat × Sequences) := do
  let value ← orRaise (.other "relation does not exist") (sequences name)
  require (value ≤ 9223372036854775807) (.other "nextval: reached maximum value of sequence")
  return (value, Function.update sequences name (some (value + 1)))

def nextOrderNumber (tenant_id : Id) (sequences : Sequences) : Outcome (Nat × Sequences) :=
  nextval (orderNumberSeq tenant_id) sequences

structure Numbered where
  sys : Sys
  sequences : Sequences
  -- What a checkout in phase 4 has drawn, and from where.
  drawn : Nat → Option (String × Nat)

inductive NumberLabel
  -- PlatformTenantListCreateView.post
  | createTenant (id : Id)
  | draw (call : Nat)
  | run (label : Label)

namespace Numbered

def writes (w : Numbered) (i : Nat) (oracle : Oracle) (sys : Sys) : Bool :=
  sys.db.orders.rows.length == w.sys.db.orders.rows.length || (w.sys.viewOf i).any fun view =>
    w.drawn i == some (orderNumberSeq view.cart.tenant, oracle.order_number)

def step (settings : Settings) (lib : WebhookLibrary) (w : Numbered) : NumberLabel → Option Numbered
  | .createTenant id => some { w with sequences := createPerTenantSequences id w.sequences }
  | .draw i => match w.sys.calls i, w.drawn i with
    | some ⟨_, .create view _⟩, none => match nextOrderNumber view.cart.tenant w.sequences with
      | .ok (number, sequences) => some { w with
          sequences
          drawn := Function.update w.drawn i (some (orderNumberSeq view.cart.tenant, number)) }
      | .error _ => none
    | _, _ => none
  | .run label => do
    let sys ← Storefront.step settings lib w.sys label
    match label with
    | .advance i oracle =>
      if w.writes i oracle sys then some { w with sys, drawn := Function.update w.drawn i none } else none
    | _ => some { w with sys }

end Numbered

def numbering (settings : Settings) (lib : WebhookLibrary) : Machine Numbered NumberLabel where
  Start w := w.sys.Initial ∧ (∀ name, w.sequences name = none) ∧ ∀ i, w.drawn i = none
  step := Numbered.step settings lib

/-! ## Names -/

theorem orderNumberSeq_injective {t t' : Id} (left : t < uuidCount) (right : t' < uuidCount)
    (same : orderNumberSeq t = orderNumberSeq t') : t = t' := by
  have safe : safeId t = safeId t' := by
    simpa only [String.toList_ofList] using congrArg String.toList ((String.append_right_inj _).mp same)
  exact underscored_injective left right safe

/-! ## The sequences are dispensers -/

def learnDraw (known : List (String × Nat)) (move : Move Numbered NumberLabel) : List (String × Nat) :=
  match move.label with
  | .draw i => known ++ (move.after.drawn i).toList
  | _ => known

def draws (moves : List (Move Numbered NumberLabel)) : List (String × Nat) := history learnDraw [] moves

def Order.numbered (o : Order) : String × Nat := (orderNumberSeq o.tenant, o.order_number)

def Numbered.dispenser (w : Numbered) (drawn : List (String × Nat)) : Dispenser String Nat where
  next := w.sequences
  held := w.drawn
  used := w.sys.db.orders.rows.map Order.numbered
  drawn := drawn

def Sys.Scoped (s : Sys) : Prop :=
  ∀ i req pc view, s.calls i = some ⟨req, pc⟩ → pc.view? = some view → view.cart.tenant = req.tenant

section Steps

variable {settings : Settings} {lib : WebhookLibrary}

theorem numbered_of_placed {db db' : Db} (same : db'.placedOrders = db.placedOrders) :
    db'.orders.rows.map Order.numbered = db.orders.rows.map Order.numbered := by
  have columns := congrArg (List.map Order.numbered) same
  rwa [Db.placedOrders, Db.placedOrders, List.map_map, List.map_map] at columns

theorem LockedView.tenant {req : Request} {db : Db} {view : CartView} (locked : LockedView req db view) :
    view.cart.tenant = req.tenant := by
  have scope := List.find?_some locked.active
  simp only [Bool.and_eq_true, beq_iff_eq] at scope
  exact scope.1.1

theorem step_scoped {s s' : Sys} {l : Label} (own : s.Scoped) (taken : step settings lib s l = some s') :
    s'.Scoped := by
  intro i req pc view at_i held
  rcases step_calls taken at_i with same | ⟨_, fresh⟩ | ⟨oracle, pc₀, _, earlier, _, moved⟩
  · exact own i req pc view same held
  · rw [show pc = .find from fresh] at held
    cases held
  · cases (advance_view (Prod.ext moved.symm rfl) held : HandsOn _ _ _ _ _ pc₀ pc) with
    | locked done => exact (lockCart_view done).tenant
    | validated same => exact own i req _ view earlier rfl
    | reserved reservations done => exact own i req _ view earlier rfl

theorem step_used {w : Numbered} {sys : Sys} {i : Nat} {oracle : Oracle} (own : w.sys.Scoped)
    (stepped : step settings lib w.sys (.advance i oracle) = some sys) (writes : w.writes i oracle sys = true)
    (drawn : List (String × Nat)) : (w.dispenser drawn).Takes 1000
      (Numbered.dispenser { w with sys, drawn := Function.update w.drawn i none } drawn) := by
  rcases step_places stepped with same | ⟨j, oracle', req, view, reservations, order, label, at_j, done⟩
  · have used := numbered_of_placed same
    simp only [Numbered.dispenser, used]
    exact .drop i
  · cases label
    have created := createOrder_creates done
    have number : order.order_number = oracle.order_number := by
      obtain ⟨⟨_, _, rfl⟩, _⟩ := createOrder_sells done
      rfl
    have holds : w.drawn i = some order.numbered := by
      rw [Numbered.writes, created.orders] at writes
      simp only [List.length_append, List.length_singleton, Nat.add_eq_left, Nat.one_ne_zero, beq_iff_eq, Bool.or_eq_true,
        false_or, Sys.viewOf, at_j, Option.bind_some, Pc.view?, Option.any_some] at writes
      rw [writes, Order.numbered, created.tenant, number, own i req _ view at_j rfl]
    simp only [Numbered.dispenser, created.orders, List.map_append, List.map_cons, List.map_nil]
    exact .use i order.numbered holds

theorem createSequence_takes {d : Dispenser String Nat} (name : String) :
    d.Takes 1000 { d with next := createSequence name d.next } := by
  unfold createSequence
  split
  next missing => exact .create name missing
  · exact .stay

theorem numbered_step {w w' : Numbered} {l : NumberLabel} {drawn : List (String × Nat)}
    (sound : (w.dispenser drawn).Sound 1000 ∧ w.sys.Scoped) (taken : w.step settings lib l = some w') :
    (w'.dispenser (learnDraw drawn ⟨w, l, w'⟩)).Sound 1000 ∧ w'.sys.Scoped := by
  obtain ⟨sound, own⟩ := sound
  cases l with
  | createTenant id =>
    cases taken
    exact ⟨(createSequence_takes _).sound ((createSequence_takes (orderNumberSeq id)).sound sound), own⟩
  | draw i =>
    simp only [Numbered.step] at taken
    split at taken
    next req view reservations at_i free =>
      split at taken
      next number sequences drew =>
        cases taken
        simp only [nextOrderNumber, nextval, bind_eq_ok, orRaise_eq_ok, pure_eq_ok, Prod.mk.injEq] at drew
        obtain ⟨_, at_k, _, _, rfl, rfl⟩ := drew
        simp only [learnDraw, Function.update_self, Option.toList_some]
        exact ⟨(Dispenser.Takes.draw i _ _ free at_k).sound sound, own⟩
      · cases taken
    · cases taken
  | run label =>
    simp only [Numbered.step, Option.bind_eq_bind, Option.bind_eq_some_iff] at taken
    obtain ⟨sys, stepped, taken⟩ := taken
    have kept := step_scoped own stepped
    cases label with
    | advance i oracle =>
      simp only at taken
      split at taken <;> cases taken
      next writes => exact ⟨(step_used own stepped writes drawn).sound sound, kept⟩
    | _ =>
      cases taken
      rcases step_places stepped with same | ⟨_, _, _, _, _, _, label, _⟩
      · have used := numbered_of_placed same
        simp only [learnDraw, Numbered.dispenser, used]
        exact ⟨sound, kept⟩
      · cases label

theorem numbered_sound {w₀ w : Numbered} {moves : List (Move Numbered NumberLabel)}
    (run : (numbering settings lib).Run w₀ moves w) : (w.dispenser (draws moves)).Sound 1000 ∧ w.sys.Scoped := by
  refine run.agrees (R := fun drawn w => (w.dispenser drawn).Sound 1000 ∧ w.sys.Scoped) (fun w start => ?_)
    fun _ _ _ _ sound taken => numbered_step sound taken
  obtain ⟨initial, missing, free⟩ := start
  have none_used : w.sys.db.orders.rows.map Order.numbered = [] := by rw [initial.orders, List.map_nil]
  refine ⟨Dispenser.sound_empty missing free none_used rfl, fun i req pc view at_i => ?_⟩
  rw [initial.calls i] at at_i
  cases at_i

theorem numbered_grows {w w' : Numbered} {l : NumberLabel} (taken : w.step settings lib l = some w') :
    w.sys.db.placedOrders <+: w'.sys.db.placedOrders := by
  cases l with
  | createTenant id =>
    cases taken
    exact List.prefix_refl _
  | draw i =>
    simp only [Numbered.step] at taken
    split at taken
    · split at taken <;> cases taken
      exact List.prefix_refl _
    · cases taken
  | run label =>
    simp only [Numbered.step, Option.bind_eq_bind, Option.bind_eq_some_iff] at taken
    obtain ⟨sys, stepped, taken⟩ := taken
    have same : w'.sys = sys := by
      split at taken
      · split at taken <;> cases taken
        rfl
      · cases taken
        rfl
    rw [same]
    rcases step_places stepped with same | ⟨_, _, _, _, _, order, _, _, done⟩
    · rw [same]
    · rw [Db.placedOrders, Db.placedOrders, (createOrder_creates done).orders, List.map_append]
      exact List.prefix_append _ _

theorem leads_grows {w w' : Numbered} (leads : (numbering settings lib).Leads w w') :
    w.sys.db.placedOrders <+: w'.sys.db.placedOrders := by
  have grows : ∀ s l s', w.sys.db.placedOrders <+: s.sys.db.placedOrders →
      (numbering settings lib).step s l = some s' → w.sys.db.placedOrders <+: s'.sys.db.placedOrders :=
    fun _ _ _ grown taken => grown.trans (numbered_grows taken)
  exact leads.keeps grows (List.prefix_refl _)

-- An index entry stands in the way of an order only with its id, its key, or its number.
theorem Order.entries_free {o o' : Order} (id : o'.id ≠ o.id) (key : o'.idempotency_key ≠ o.idempotency_key)
    (number : o'.numbered ≠ o.numbered) : ∀ e ∈ Schema.entries o, e ∉ Schema.entries o' := by
  have place : ¬ (o'.tenant = o.tenant ∧ o'.order_number = o.order_number) := by
    rintro ⟨tenant, same⟩
    exact number (by rw [Order.numbered, Order.numbered, tenant, same])
  intro (e : IndexEntry) inO inO'
  change e ∈ [IndexEntry.primary o.id, .text o.idempotency_key, .pair o.tenant o.order_number] at inO
  change e ∈ [IndexEntry.primary o'.id, .text o'.idempotency_key, .pair o'.tenant o'.order_number] at inO'
  simp only [List.mem_cons, List.not_mem_nil, or_false] at inO inO'
  grind

theorem insertOrder_free {db : Db} {order : Order} (free : order.numbered ∉ db.orders.rows.map Order.numbered) :
    (∃ db', db.insertOrder order = .ok db') ↔
      ∀ o ∈ db.orders.rows, o.id ≠ order.id ∧ o.idempotency_key ≠ order.idempotency_key := by
  simp only [Db.insertOrder, stored_eq_ok]
  constructor
  · rintro ⟨_, orders, inserted, _⟩ o member
    refine ⟨Table.insert_key_fresh inserted member, fun same => ?_⟩
    exact Table.insert_fresh inserted member (e := .text order.idempotency_key) (by simp [Schema.entries])
      (by simp [Schema.entries, same])
  · intro fresh
    obtain ⟨orders, inserted⟩ : ∃ orders, db.orders.insert order = some orders := Table.insert_isSome
      (fun o member => Order.entries_free (fresh o member).1 (fresh o member).2
        fun same => free (same ▸ List.mem_map_of_mem member))
      (by simp [Schema.entries]) rfl
    exact ⟨_, orders, inserted, rfl⟩

end Steps

/-- The numbers of a run, and its orders. -/
structure NumbersOrders (moves : List (Move Numbered NumberLabel)) (w : Numbered) : Prop where
  -- A tenant has a sequence of its own, and its checkouts draw 1000, 1001, ... from it.
  apart : ∀ t < uuidCount, ∀ t' < uuidCount, orderNumberSeq t = orderNumberSeq t' → t = t'
  drawn : ∀ tenant, ∃ count, numbersOf (orderNumberSeq tenant) (draws moves) = List.range' 1000 count ∧
    (w.sequences (orderNumberSeq tenant) = some (1000 + count) ∨
      w.sequences (orderNumberSeq tenant) = none ∧ count = 0)
  -- Orders have numbers that were drawn, no two of a tenant the same, and keep them.
  numbered : ∀ o ∈ w.sys.db.orders.rows, o.order_number ∈ numbersOf (orderNumberSeq o.tenant) (draws moves)
  distinct : ∀ tenant, ((w.sys.db.orders.rows.filter fun o => o.tenant = tenant).map Order.order_number).Nodup
  kept : ∀ t ∈ Machine.visited moves w, t.sys.db.placedOrders <+: w.sys.db.placedOrders
  -- An order with the number its checkout has drawn is refused for its id and its key only.
  accepted : ∀ i number (order : Order), w.drawn i = some (orderNumberSeq order.tenant, number) →
    order.order_number = number → ((∃ db', w.sys.db.insertOrder order = .ok db') ↔
      ∀ o ∈ w.sys.db.orders.rows, o.id ≠ order.id ∧ o.idempotency_key ≠ order.idempotency_key)

/-- However checkouts interleave, fail and are rolled back, uniq_order_number_per_tenant never refuses an order. -/
theorem order_numbers (settings : Settings) (lib : WebhookLibrary) {w₀ w : Numbered}
    {moves : List (Move Numbered NumberLabel)} (run : (numbering settings lib).Run w₀ moves w) :
    NumbersOrders moves w := by
  have sound := (numbered_sound run).1
  refine ⟨fun t left t' right same => orderNumberSeq_injective left right same, fun tenant => sound.counts _,
    ?_, ?_, ?_, ?_⟩
  · intro o member
    exact mem_numbersOf.mpr (sound.used o.numbered (List.mem_map_of_mem member))
  · exact numbers_nodup sound.once fun o o' tenant number => by rw [Order.numbered, Order.numbered, tenant, number]
  · exact fun t visited => leads_grows (run.visited_leads t visited)
  · intro i number order holds same
    subst same
    exact insertOrder_free (sound.unused i order.numbered holds)

namespace Sample

def unnumbered : Numbered := ⟨start, fun _ => none, fun _ => none⟩

abbrev numberer : Machine Numbered NumberLabel := numbering settings library

theorem unnumbered_start : numberer.Start unnumbered := ⟨start_initial, fun _ => rfl, fun _ => rfl⟩

def placeNumbered (i number : Nat) (fault : Option String) : List NumberLabel :=
  [.run (.begin i { request with idempotency_key := s!"key {i}" })] ++
    [Point.find, .lock, .validate, .reserve].map (fun point =>
      .run (.advance i { oracle point with draw := (100 * i + 100 + ·) })) ++
    [.draw i, .run (.advance i { oracle .create with draw := (100 * i + 200 + ·), order_number := number, fault })]

-- The transaction of the first checkout is rolled back after it has drawn its number.
def numberedTwice : List NumberLabel :=
  [.createTenant 1] ++ placeNumbered 0 1000 (some "connection lost") ++
    [.run (.advance 0 (oracle .create)), .run (.advance 0 (oracle .create))] ++ placeNumbered 1 1001 none

def afterNumbers : Numbered := (numberer.exec unnumbered numberedTwice).get (by decide +kernel)

theorem numberedTwice_run : numberer.exec unnumbered numberedTwice = some afterNumbers := (Option.some_get _).symm

end Sample

theorem order_numbers_rolled_back :
    ∃ moves, Sample.numberer.Run Sample.unnumbered moves Sample.afterNumbers ∧ NumbersOrders moves Sample.afterNumbers ∧
      Sample.afterNumbers.sys.db.orders.rows.map Order.order_number = [1001] := by
  obtain ⟨moves, run⟩ := Machine.exec_run Sample.unnumbered_start Sample.numberedTwice_run
  exact ⟨moves, run, order_numbers _ _ run, by decide +kernel⟩

end Storefront
