import Storefront.System.PurchaseOrders

set_option autoImplicit false

/-!
# Request transactions

`ATOMIC_REQUESTS` runs a request in one transaction. A checkout that returns commits
all of its blocks at once, and what raises commits nothing. Beside such requests the
system goes on as before, but takes no checkout to its invoice in steps.
-/

namespace Storefront

open Relational Transition Ledger

inductive Deal
  | run (l : Label)
  | request (call : Nat) (req : Request) (answers : List Oracle)

def Deal.editsProducts : Deal → Bool
  | .run l => l.editsProducts
  | .request .. => false

namespace Pc

def invoicing : Pc → Bool
  | invoice _ | convertInvoiced .. => true
  | _ => false

def returned : Pc → Bool
  | done _ (.ok _) => true
  | _ => false

end Pc

def Label.invoices (s' : Sys) : Label → Bool
  | .advance i _ => (s'.calls i).any fun call => call.pc.invoicing
  | _ => false

/-- The answers are those the blocks of the checkout get, in their order; a worker that
dies between two of them rolls the request back as well. -/
def deal (settings : Settings) (lib : WebhookLibrary) (s : Sys) : Deal → Option Sys
  | .run l => match step settings lib s l with
    | some s' => if l.invoices s' then none else some s'
    | none => some s
  | .request i req answers =>
    ((machine settings lib).exec s (.begin i req :: answers.map (.advance i))).map fun s' =>
      if (s'.calls i).any fun call => call.pc.returned then s' else s

def deals (settings : Settings) (lib : WebhookLibrary) : Machine Sys Deal where
  Start := Sys.Initial
  step := deal settings lib

section Alone

variable {settings : Settings} (lib : WebhookLibrary) {i : Nat} {req : Request}

theorem Alone.exec {oracle : Point → Oracle} {pc : Pc} {db : Db} {ends : Except Exn CheckoutResult × Db}
    (alone : Alone settings req oracle pc db ends) {s : Sys} (timed : ∀ point, (oracle point).now = s.now)
    (at_db : s.db = db) (at_i : s.calls i = some ⟨req, pc⟩) : ∃ (answers : List Oracle) (s' : Sys) (pc' : Pc),
      (machine settings lib).exec s (answers.map (.advance i)) = some s' ∧ s'.calls i = some ⟨req, pc'⟩ ∧
        s'.db = ends.2 ∧ (pc'.returned = true ↔ ∃ result, ends.1 = .ok result) := by
  induction alone generalizing s with
  | done frame result db =>
    refine ⟨[], s, _, rfl, at_i, at_db, ?_⟩
    cases result <;> simp [Pc.returned]
  | crashed todo frame e db => exact ⟨[], s, _, rfl, at_i, at_db, by simp [Pc.returned]⟩
  | @step pc pc' db db' calls ends running taken rest ih =>
    subst at_db
    have same : ({ oracle pc.point with now := s.now } : Oracle) = oracle pc.point := by rw [← timed pc.point]
    let next : Sys := { (s.withDb db').setCall i ⟨req, pc'⟩ with gatewayLog := s.gatewayLog ++ calls }
    have moves : (machine settings lib).step s (.advance i (oracle pc.point)) = some next := by
      simp [machine, Storefront.step, at_i, running, same, taken, next]
    obtain ⟨answers, s', pc'', ends, at_end⟩ := @ih next timed rfl (by simp [next, Sys.setCall])
    exact ⟨oracle pc.point :: answers, s', pc'', by simp [Machine.exec, moves, ends], at_end⟩

def committed (ends : Except Exn CheckoutResult × Db) (db : Db) : Db :=
  match ends.1 with
  | .ok _ => ends.2
  | .error _ => db

/-- A request does what `checkout` does, or nothing. -/
theorem request_checkout (settings : Settings) {s : Sys} (oracle : Point → Oracle) (idle : s.calls i = none)
    (timed : ∀ point, (oracle point).now = s.now) : ∃ answers s',
      deal settings lib s (.request i req answers) = some s' ∧
        s'.db = committed (checkout settings req oracle s.db) s.db := by
  let begun : Sys := s.setCall i ⟨req, .find⟩
  have begins : (machine settings lib).step s (.begin i req) = some begun := by
    simp [machine, Storefront.step, idle, begun]
  have at_find : begun.calls i = some ⟨req, .find⟩ := by simp [begun, Sys.setCall]
  obtain ⟨answers, s', pc', ends, at_i, out, returned⟩ :=
    (checkout_alone settings req oracle s.db).exec lib (show ∀ point, (oracle point).now = begun.now from timed) rfl at_find
  refine ⟨answers, if pc'.returned then s' else s, ?_, ?_⟩
  · simp [deal, Machine.exec, begins, ends, at_i]
  · unfold committed
    cases ended : (checkout settings req oracle s.db).1 with
    | ok result => rw [if_pos (returned.mpr ⟨result, ended⟩), out]
    | error e =>
      have raised : ¬ pc'.returned = true := fun returns => by
        obtain ⟨result, done⟩ := returned.mp returns
        cases ended.symm.trans done
      rw [if_neg raised]

end Alone

section Deals

variable {settings : Settings} {lib : WebhookLibrary} {s s' : Sys} {d : Deal}

theorem request_keeps {Inv : Sys → Prop} {i : Nat} {req : Request} {answers : List Oracle}
    (keeps : ∀ l u u', ((∃ req, l = .begin i req) ∨ ∃ oracle, l = .advance i oracle) → Inv u →
      step settings lib u l = some u' → Inv u')
    (ends : (machine settings lib).exec s (.begin i req :: answers.map (.advance i)) = some s') (inv : Inv s) : Inv s' := by
  refine Machine.exec_keeps (fun l member u u' before moves => keeps l u u' ?_ before moves) ends inv
  rcases List.mem_cons.mp member with rfl | answered
  · exact .inl ⟨req, rfl⟩
  · obtain ⟨oracle, _, rfl⟩ := List.mem_map.mp answered
    exact .inr ⟨oracle, rfl⟩

structure Sys.Atomic (s : Sys) : Prop where
  purchasing : s.Purchasing
  apart : ∀ i call, s.calls i = some call → call.pc.invoicing = false
  steps : s.InStep

theorem Sys.Atomic.start (initial : s.Initial) : s.Atomic where
  purchasing := .start initial
  apart := by simp [initial.calls]
  steps := by
    rintro i req frame o ⟨⟨result, at_i, _⟩, _⟩
    rw [initial.calls i] at at_i
    cases at_i

theorem Sys.Atomic.step {l : Label} (inv : s.Atomic) (taken : Storefront.step settings lib s l = some s')
    (apart : l.invoices s' = false) : s'.Atomic where
  purchasing := inv.purchasing.step taken
  apart := by
    intro i call at_i
    rcases step_calls taken at_i with same | ⟨_, begun⟩ | ⟨oracle, pc, rfl, _⟩
    · exact inv.apart i call same
    · rw [begun]
      rfl
    · simpa [Label.invoices, at_i] using apart
  steps := by
    refine inv.steps.step inv.purchasing taken fun i oracle req placed payment _ at_i => ?_
    cases inv.apart i _ at_i

-- A request under way: the other checkouts are as they were, and nobody disturbs this one.
structure Sys.Underway (s : Sys) (i : Nat) : Prop where
  purchasing : s.Purchasing
  others : ∀ j call, j ≠ i → s.calls j = some call → call.pc.invoicing = false
  alone : ∀ req pc, s.calls i = some ⟨req, pc⟩ → Pc.Undisturbed s.db pc
  steps : s.InStep

theorem Sys.Underway.step {i : Nat} {l : Label} (inv : s.Underway i) (own : (∃ req, l = .begin i req) ∨ ∃ oracle, l = .advance i oracle)
    (taken : Storefront.step settings lib s l = some s') : s'.Underway i where
  purchasing := inv.purchasing.step taken
  others := by
    intro j call other at_j
    rcases step_calls taken at_j with same | ⟨_, begun⟩ | ⟨oracle, pc, at_l, _⟩
    · exact inv.others j call other same
    · rw [begun]
      rfl
    · rcases own with ⟨req, rfl⟩ | ⟨oracle', rfl⟩
      · cases at_l
      · cases at_l
        exact absurd rfl other
  alone := by
    intro req pc at_i
    rcases own with ⟨req', rfl⟩ | ⟨oracle, rfl⟩
    · simp only [Storefront.step] at taken
      split at taken <;> cases taken
      obtain ⟨rfl, rfl⟩ : req' = req ∧ .find = pc := by simpa [Sys.setCall] using at_i
      trivial
    · cases before : s.calls i with
      | none => simp [Storefront.step, before] at taken
      | some call =>
        have moved := (step_advanced taken before).2
        obtain ⟨rfl, rfl⟩ := Call.mk.inj (Option.some.inj (at_i.symm.trans moved))
        exact step_advance taken before ▸ (inv.alone _ _ before).advance rfl
  steps := by
    refine inv.steps.step inv.purchasing taken fun j oracle req placed payment at_l at_j => ?_
    rcases own with ⟨req, rfl⟩ | ⟨oracle', rfl⟩
    · cases at_l
    · cases at_l
      exact inv.alone _ _ at_j

theorem Sys.Underway.ends {i : Nat} {call : Call} (inv : s.Underway i) (at_i : s.calls i = some call)
    (returned : call.pc.returned = true) : s.Atomic where
  purchasing := inv.purchasing
  apart := by
    intro j other at_j
    by_cases same : j = i
    · subst same
      obtain rfl := Option.some.inj (at_i.symm.trans at_j)
      revert returned
      cases call.pc <;> simp [Pc.returned, Pc.invoicing]
    · exact inv.others j other same at_j
  steps := inv.steps

/-- What a request transaction commits leaves every purchase order in step. -/
theorem Sys.Atomic.deal (inv : s.Atomic) (taken : deal settings lib s d = some s') : s'.Atomic := by
  cases d with
  | run l =>
    simp only [Storefront.deal] at taken
    split at taken
    next stepped =>
      split at taken <;> cases taken
      next apart => exact inv.step stepped (by simpa using apart)
    · cases taken
      exact inv
  | request i req answers =>
    simp only [Storefront.deal, Option.map_eq_some_iff] at taken
    obtain ⟨last, ends, same⟩ := taken
    split at same
    next returned =>
      subst same
      obtain ⟨call, at_i, returned⟩ := (Option.any_eq_true _ _).mp returned
      have idle : s.calls i = none := by
        cases free : s.calls i with
        | none => rfl
        | some call => simp [Machine.exec, machine, Storefront.step, free] at ends
      have begun : s.Underway i :=
        ⟨inv.purchasing, fun j call _ => inv.apart j call, fun req pc at_i => (by cases idle.symm.trans at_i), inv.steps⟩
      have underway : last.Underway i := request_keeps
        (fun _ (u : Sys) _ own (under : u.Underway i) moves => under.step own moves) ends begun
      exact underway.ends at_i returned
    · exact same ▸ inv

-- A mark-paid or cancel request that raises.
inductive Raised (s : Sys) : Label → Prop
  | cancelOrder (tenant customer order : Id) (e : Exn) (raises : cancelOrder tenant customer order s.db = .error e) :
      Raised s (.cancelOrder tenant customer order)
  | markPaidRead (tenant order : Id) (reference : String) (e : Exn) (raises : markPaidRead tenant order s.db = .error e) :
      Raised s (.markPaidRead tenant order reference)
  | markPaidWrite (k : Nat) (mark : MarkPaid) (e : Exn) (listed : s.marks[k]? = some mark)
      (raises : markPaidWrite mark.tenant mark.order mark.payment mark.reference s.now s.db = .error e) :
      Raised s (.markPaidWrite k)

theorem Raised.deal {l : Label} (raised : Raised s l) (taken : deal settings lib s (.run l) = some s') : s' = s := by
  have stops : step settings lib s l = none := by
    cases raised with
    | cancelOrder tenant customer order e raises => simp [step, Sys.commits, raises]
    | markPaidRead tenant order reference e raises => simp [step, raises]
    | markPaidWrite k mark e listed raises => simp [step, Sys.commits, listed, raises]
  simpa [Storefront.deal, stops, eq_comm] using taken

def Db.committedOf (db : Db) (product : Id) : Int :=
  ((db.reservations.rows.filter fun r => r.product == product && r.status == .committed).map
    InventoryReservation.quantity).sum

theorem deal_supply (inv : s.Atomic) (taken : deal settings lib s d = some s') (product : Id) :
    s'.db.book.supply product = s.db.book.supply product +
      (if d.editsProducts = true then s'.db.stockOf product - s.db.stockOf product else 0) := by
  cases d with
  | run l =>
    simp only [Storefront.deal] at taken
    split at taken
    next stepped =>
      split at taken <;> cases taken
      exact step_supply inv.purchasing.stock stepped product
    · cases taken
      simp
  | request i req answers =>
    simp only [Storefront.deal, Option.map_eq_some_iff] at taken
    obtain ⟨last, ends, same⟩ := taken
    have executed : StockInvariant last.db ∧ last.db.book.supply product = s.db.book.supply product := by
      refine @request_keeps settings lib _ _
        (fun u => StockInvariant u.db ∧ u.db.book.supply product = s.db.book.supply product) i req answers ?_ ends
        ⟨inv.purchasing.stock, rfl⟩
      rintro l u u' own ⟨stock, supply⟩ moves
      have grows := step_supply stock moves product
      have unedited : l.editsProducts = false := by rcases own with ⟨_, rfl⟩ | ⟨_, rfl⟩ <;> rfl
      rw [unedited, if_neg (by simp), add_zero] at grows
      exact ⟨stock.step moves, grows.trans supply⟩
    rw [if_neg (by simp [Deal.editsProducts]), add_zero, ← same]
    split
    · exact executed.2
    · rfl

theorem Db.supply_eq (db : Db) (product : Id) : db.book.supply product = db.stockOf product + db.committedOf product := by
  have none : db.share (fun _ => !true) .committed product = 0 := Db.share_eq_zero (by simp) product
  have all : db.share (fun _ => true) .committed product = db.committedOf product := by simp [Db.share, Db.committedOf]
  have taken := db.total_eq_shares (w := Phases.taken) (fun _ => true) (fun other => by cases other <;> rfl) product
  rw [none, all, add_zero] at taken
  rw [Book.supply, taken]
  rfl

end Deals

/-- Every purchase order is at one of the three stages, with its lines reserved, and the
stock is short of exactly what is COMMITTED. -/
structure PurchaseOrders (moves : List (Move Sys Deal)) (s₀ s : Sys) : Prop where
  stage : ∀ i req frame o, s.Purchased i req frame o → ∃! stage, AtStage s.db o.id stage
  lines : ∀ i req frame o, s.Purchased i req frame o → ∀ product,
    s.db.reservedFor o.id product = s.db.orderedFor o.id product
  stock : ∀ product, s.db.stockOf product + s.db.committedOf product =
    s₀.db.stockOf product + restocked Deal.editsProducts moves product
  raised : ∀ move ∈ moves, ∀ l, move.label = .run l → Raised move.before l → move.after = move.before

theorem purchase_orders_consistent (settings : Settings) (lib : WebhookLibrary) {s₀ s : Sys}
    {moves : List (Move Sys Deal)} (run : (deals settings lib).Run s₀ moves s) : PurchaseOrders moves s₀ s := by
  have start (s : Sys) (initial : s.Initial) : s.Atomic := .start initial
  have step (s : Sys) (d : Deal) (s' : Sys) (inv : s.Atomic) (taken : (deals settings lib).step s d = some s') :
      s'.Atomic := inv.deal taken
  have inv : s.Atomic := run.invariant start step
  refine ⟨fun i req frame o purchased => ?_, fun i req frame o purchased product => ?_, fun product => ?_, ?_⟩
  · obtain ⟨_, stage, at_stage⟩ := inv.steps i req frame o purchased
    exact ⟨stage, at_stage, fun other at_other => at_other.unique at_stage⟩
  · exact purchased.returns.reserves inv.purchasing.cancellable.kept.1 inv.purchasing.cancellable.returns
      inv.purchasing.one inv.purchasing.lined product
  · have nothing : s₀.db.committedOf product = 0 := by simp [Db.committedOf, run.started.reservations]
    have supplied : s.db.book.supply product = s₀.db.book.supply product + restocked Deal.editsProducts moves product := by
      have keeps (moves : List (Move Sys Deal)) (u : Sys) (d : Deal) (u' : Sys) (inv : u.Atomic)
          (so_far : u.db.book.supply product = s₀.db.book.supply product + restocked Deal.editsProducts moves product)
          (taken : (deals settings lib).step u d = some u') : u'.db.book.supply product =
            s₀.db.book.supply product + restocked Deal.editsProducts (moves ++ [⟨u, d, u'⟩]) product := by
        rw [deal_supply inv taken product, so_far, restocked_snoc, add_assoc]
      exact Machine.Run.since start step (.start run.started) (by simp [restocked]) keeps run
    rw [Db.supply_eq, Db.supply_eq, nothing, add_zero] at supplied
    exact supplied
  · rintro ⟨before, _, after⟩ member l rfl raised
    exact raised.deal (run.reached _ member).1

namespace Sample

abbrev counterDeals : Machine Sys Deal := deals settings library

-- The admin reads the open invoice, the customer cancels, and then the admin's write raises.
def tradingDeals : List Deal :=
  [.request 0 request ((placing ++ [Point.invoice, Point.convertInvoiced]).map oracle), .run (.markPaidRead 1 200 "wire"),
    .run (.cancelOrder 1 10 200), .run (.markPaidWrite 0)]

def afterDeals : Sys := (counterDeals.exec invoiced tradingDeals).get (by decide +kernel)

theorem tradingDeals_run : counterDeals.exec invoiced tradingDeals = some afterDeals := (Option.some_get _).symm

end Sample

theorem purchase_orders_consistent_raced : ∃ moves, Sample.counterDeals.Run Sample.invoiced moves Sample.afterDeals ∧
    Sample.afterDeals.db.orderStatus 200 = some .cancelled ∧
      PurchaseOrders moves Sample.invoiced Sample.afterDeals := by
  obtain ⟨moves, run⟩ := Machine.exec_run (m := Sample.counterDeals) Sample.invoiced_initial Sample.tradingDeals_run
  exact ⟨moves, run, by decide +kernel, purchase_orders_consistent Sample.settings Sample.library run⟩

end Storefront
