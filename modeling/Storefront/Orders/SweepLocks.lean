import Storefront.Orders.ProductLocks
import Storefront.Orders.ReleaseRace

set_option autoImplicit false

/-!
# Who waits for the sweep

A batch of the expiry sweep and a webhook's settlement lock reservations first and
then update one product after the other, in the order the reservations came. Only
`_reserve_stock` sorts.
-/

namespace Storefront

open Relational Transition Locking

/-- The loop of _commit_reservations_for_order or _release_reservations_for_order,
with the rows in the order they are scanned. -/
structure OrderSettlement where
  settlement : Settlement
  tenant : Id
  order : Id
  scan : List Id

namespace OrderSettlement

def wants (tenant order : Id) (row : Option InventoryReservation) : Bool :=
  row.any fun r => r.tenant == tenant && r.order == some order && r.status == .active

-- select_for_update().filter(order=order, status=ACTIVE)
def lockOrder (tenant order : Id) (next : List InventoryReservation → GivingProgram) :
    List Id → List InventoryReservation → GivingProgram
  | [], found => next found
  | id :: rest, found =>
    .select (.reservation id) (wants tenant order) false fun row : Option (Option InventoryReservation) =>
      lockOrder tenant order next rest (found ++ row.join.toList)

def settleFound (t : Settlement) (tenant : Id) : List InventoryReservation → GivingProgram
  | [] => .commit
  | res :: rest => settleRow t (some tenant) res (settleFound t tenant rest)

-- _commit_reservations_for_order, _release_reservations_for_order
def program (call : OrderSettlement) : GivingProgram :=
  lockOrder call.tenant call.order (settleFound call.settlement call.tenant) call.scan []

end OrderSettlement

inductive StockWork
  | reserve (basket : Basket)
  | sweep (batch : Sweep)
  | settle (call : OrderSettlement)

abbrev WorkProgram := Program RowKey Row InventoryReservation Exn

def StockWork.program : StockWork → WorkProgram
  | .reserve basket => basket.reserve.within RowKey.product (fun _ row => row) (fun _ row => row) id
  | .sweep batch => batch.program.within id (fun _ row => row) (fun _ row => row) Empty.elim
  | .settle call => call.program.within id (fun _ row => row) (fun _ row => row) Empty.elim

-- The rows the wait-for graph is about.
def stockRows : Set RowKey := {k | ∀ id, k ≠ .cart id}

section Order

-- The product of each reservation; no statement changes it.
variable (productOf : Id → Id)

-- Reservations, by product and id, and after them the products.
def RowBefore : RowKey → RowKey → Prop
  | .reservation a, .reservation b => productOf a < productOf b ∨ productOf a = productOf b ∧ a < b
  | .reservation _, .product _ => True
  | .product a, .product b => a < b
  | _, _ => False

-- Rows are found under their ids, and reservations keep their products.
def rowFiled : ∀ k, Row k → Bool
  | .product id, (row : Option Product) => row.all fun p => p.id == id
  | .reservation id, (row : Option InventoryReservation) => row.all fun r => r.id == id && r.product == productOf id
  | .cart _, _ => true

-- The reservations and products locked by who has taken and updated these.
def stockHeld (taken updated : List Id) : Set RowKey :=
  {k | (∃ id ∈ taken, k = .reservation id) ∨ ∃ id ∈ updated, k = .product id}

/-- Which rows each of them may have locked when it needs another one. -/
inductive StockWork.Needs : StockWork → Set RowKey → RowKey → Prop
  -- one of the lines, after some of the earlier ones
  | reserve {basket : Basket} {locked : List Id} {id : Id} (next : (locked ++ [id]).Sublist basket.lines) :
      Needs (.reserve basket) (stockHeld [] locked) (.product id)
  -- a reservation, after some of those returned before it
  | find {call : OrderSettlement} {taken : List Id} {id : Id} (next : (taken ++ [id]).Sublist call.scan) :
      Needs (.settle call) (stockHeld taken []) (.reservation id)
  -- the product of a reservation, after all that were found and some of the earlier products
  | settle {call : OrderSettlement} {taken updated : List Id} {id : Id} (found : taken.Sublist call.scan)
      (next : (updated ++ [id]).Sublist (taken.map productOf)) :
      Needs (.settle call) (stockHeld taken updated) (.product id)
  -- the same; a sweep skips the reservations that others have locked
  | sweep {batch : Sweep} {taken updated : List Id} {id : Id} (found : taken.Sublist batch.scan)
      (limit : taken.length ≤ 100) (next : (updated ++ [id]).Sublist (taken.map productOf)) :
      Needs (.sweep batch) (stockHeld taken updated) (.product id)

/-- The queries return the reservations by product, those of an order also by id. -/
def StockWork.Sorted : StockWork → Prop
  | .reserve _ => True
  | .sweep batch => (batch.scan.map productOf).Pairwise (· ≤ ·)
  | .settle call => call.scan.Pairwise fun a b => productOf a < productOf b ∨ productOf a = productOf b ∧ a < b

variable {productOf}

theorem RowBefore.irrefl (k : RowKey) : ¬ RowBefore productOf k k := by
  cases k <;> simp [RowBefore]

theorem RowBefore.trans (i j k : RowKey) (first : RowBefore productOf i j) (second : RowBefore productOf j k) :
    RowBefore productOf i k := by
  cases i with
  | product i =>
    cases j with
    | product j =>
      cases k with
      | product k => exact Nat.lt_trans first second
      | reservation k | cart k => exact second.elim
    | reservation j | cart j => exact first.elim
  | reservation i =>
    cases j with
    | product j =>
      cases k with
      | product k => trivial
      | reservation k | cart k => exact second.elim
    | reservation j =>
      cases k with
      | product k => trivial
      | reservation k =>
        rcases first with less | ⟨same, less⟩ <;> rcases second with less' | ⟨same', less'⟩
        · exact .inl (Nat.lt_trans less less')
        · exact .inl (same' ▸ less)
        · exact .inl (same ▸ less')
        · exact .inr ⟨same.trans same', Nat.lt_trans less less'⟩
      | cart k => exact second.elim
    | cart j => exact first.elim
  | cart i => exact first.elim

theorem StockWork.Needs.above {work : StockWork} {rows : Set RowKey} {k : RowKey} (needs : work.Needs productOf rows k)
    (sorted : work.Sorted productOf) (free : k ∉ rows) : ∀ j ∈ rows, RowBefore productOf j k := by
  have updates {scan taken updated : List Id} {id : Id} (found : taken.Sublist scan)
      (next : (updated ++ [id]).Sublist (taken.map productOf)) (free : RowKey.product id ∉ stockHeld taken updated)
      (sorted : (scan.map productOf).Pairwise (· ≤ ·)) :
      ∀ j ∈ stockHeld taken updated, RowBefore productOf j (.product id) := by
    intro j mine
    rcases mine with ⟨r, _, rfl⟩ | ⟨p, inside, rfl⟩
    · trivial
    · have ordered := sorted.sublist (next.trans (found.map productOf))
      have below : p ≤ id := (List.pairwise_append.mp ordered).2.2 p inside id (List.mem_singleton_self id)
      exact lt_of_le_of_ne below fun same => free (.inr ⟨p, inside, same ▸ rfl⟩)
  cases needs with
  | @reserve basket locked id next =>
    intro j mine
    rcases mine with ⟨r, inside, _⟩ | ⟨p, inside, rfl⟩
    · cases inside
    · have ordered := basket.lines_ascending.sublist next
      exact (List.pairwise_append.mp ordered).2.2 p inside id (List.mem_singleton_self id)
  | @find call taken id next =>
    intro j mine
    rcases mine with ⟨r, inside, rfl⟩ | ⟨p, inside, _⟩
    · have ordered := List.Pairwise.sublist next sorted
      exact (List.pairwise_append.mp ordered).2.2 r inside id (List.mem_singleton_self id)
    · cases inside
  | @settle call taken updated id found next =>
    refine updates found next free (List.pairwise_map.mpr (List.Pairwise.imp (fun less => ?_) sorted))
    rcases less with below | ⟨same, _⟩
    · exact le_of_lt below
    · exact le_of_eq same
  | sweep found limit next => exact updates found next free sorted

theorem not_tangle_of_sorted {τ : Type} {works : τ → StockWork} (sorted : ∀ t, (works t).Sorted productOf) :
    ¬ Tangle fun t => (works t).Needs productOf :=
  not_tangle_of_before RowBefore.irrefl RowBefore.trans fun t _ _ needs free => needs.above (sorted t) free

/-! The rows locked along a program -/

theorem stockHeld_nil : stockHeld [] [] = ∅ := by
  ext k
  simp [stockHeld]

theorem insert_reservation {held : Set RowKey} {taken updated : List Id} (holds : held ∩ stockRows = stockHeld taken updated)
    (id : Id) : insert (.reservation id) held ∩ stockRows = stockHeld (taken ++ [id]) updated := by
  rw [Set.insert_inter_of_mem (by simp [stockRows]), holds]
  ext k
  simp only [stockHeld, Set.mem_insert_iff, Set.mem_ofPred_eq, List.mem_append, List.mem_singleton]
  grind

theorem insert_product {held : Set RowKey} {taken updated : List Id} (holds : held ∩ stockRows = stockHeld taken updated)
    (id : Id) : insert (.product id) held ∩ stockRows = stockHeld taken (updated ++ [id]) := by
  rw [Set.insert_inter_of_mem (by simp [stockRows]), holds]
  ext k
  simp only [stockHeld, Set.mem_insert_iff, Set.mem_ofPred_eq, List.mem_append, List.mem_singleton]
  grind

abbrev OrderlyStock (productOf : Id → Id) (may : Set RowKey → RowKey → Prop) {ρ : Type}
    (program : Program RowKey Row ρ Exn) (held : Set RowKey) : Prop :=
  program.Orderly (fun k row => rowFiled productOf k row = true) stockRows may held

structure Ready (productOf : Id → Id) (taken : List Id) (left : List InventoryReservation) (held : Set RowKey) : Prop where
  locked : ∀ res ∈ left, res.id ∈ taken
  ahead : ∃ updated, held ∩ stockRows = stockHeld taken updated ∧
    (updated ++ left.map InventoryReservation.product).Sublist (taken.map productOf)

namespace Ready

variable {taken : List Id} {res : InventoryReservation} {left : List InventoryReservation} {held : Set RowKey}

theorem mine (ready : Ready productOf taken left held) {id : Id} (inside : id ∈ taken) : RowKey.reservation id ∈ held := by
  obtain ⟨updated, holds, _⟩ := ready.ahead
  have both : RowKey.reservation id ∈ held ∩ stockRows := by
    rw [holds]
    exact .inl ⟨id, inside, rfl⟩
  exact both.1

theorem tail (ready : Ready productOf taken (res :: left) held) : Ready productOf taken left held := by
  obtain ⟨updated, holds, ahead⟩ := ready.ahead
  refine ⟨fun r inside => ready.locked r (List.mem_cons_of_mem _ inside), updated, holds, ?_⟩
  exact ((List.sublist_cons_self _ _).append_left updated).trans ahead

theorem product (ready : Ready productOf taken (res :: left) held) :
    Ready productOf taken left (insert (.product res.product) held) := by
  obtain ⟨updated, holds, ahead⟩ := ready.ahead
  refine ⟨fun r inside => ready.locked r (List.mem_cons_of_mem _ inside), _, insert_product holds res.product, ?_⟩
  simpa using ahead

theorem reservation (ready : Ready productOf taken left held) {id : Id} (inside : id ∈ taken) :
    Ready productOf taken left (insert (.reservation id) held) := by
  rw [Set.insert_eq_of_mem (ready.mine inside)]
  exact ready

theorem cart (ready : Ready productOf taken left held) (id : Id) : Ready productOf taken left (insert (.cart id) held) := by
  obtain ⟨updated, holds, ahead⟩ := ready.ahead
  refine ⟨ready.locked, updated, ?_, ahead⟩
  rw [Set.insert_inter_of_notMem (by simp [stockRows]), holds]

end Ready

theorem settleRow_orderly {may : Set RowKey → RowKey → Prop} {t : Settlement} {scope : Scope} {taken : List Id}
    {res : InventoryReservation} {left : List InventoryReservation} {next : GivingProgram} {held : Set RowKey}
    (needs : ∀ updated id, (updated ++ [id]).Sublist (taken.map productOf) → may (stockHeld taken updated) (.product id))
    (ready : Ready productOf taken (res :: left) held)
    (rest : ∀ held, Ready productOf taken left held → OrderlyStock productOf may next held) :
    OrderlyStock productOf may (settleRow t scope res next) held := by
  have found : res.id ∈ taken := ready.locked res List.mem_cons_self
  have saved {held : Set RowKey} (ready : Ready productOf taken left held) : OrderlyStock productOf may
      (.update (.reservation res.id) (fun row : Option InventoryReservation => row.isSome)
        (fun row : Option InventoryReservation => .ok (row.map fun r => { r with status := t.becomes })) next :
          GivingProgram) held := by
    refine ⟨fun _ => .inl (ready.mine found), fun row row' filed saved => ?_, rest _ (ready.reservation found),
      rest _ ready⟩
    cases saved
    cases row with
    | none => rfl
    | some r => exact filed
  refine ⟨fun _ => .inr ?_, fun row row' filed counted => ?_, saved ready.product, saved ready.tail⟩
  · obtain ⟨updated, holds, ahead⟩ := ready.ahead
    rw [holds]
    refine needs updated res.product (List.Sublist.trans ?_ ahead)
    exact (List.singleton_sublist.mpr List.mem_cons_self).append_left updated
  · cases row with
    | none =>
      cases counted
      exact filed
    | some p =>
      simp only [countedRow] at counted
      split at counted
      · cases counted
        exact filed
      · cases counted

theorem OrderSettlement.settleFound_orderly {call : OrderSettlement} {taken : List Id} (found : taken.Sublist call.scan)
    (left : List InventoryReservation) (held : Set RowKey) (ready : Ready productOf taken left held) :
    OrderlyStock productOf ((StockWork.settle call).Needs productOf)
      (settleFound call.settlement call.tenant left) held := by
  induction left generalizing held with
  | nil => trivial
  | cons res rest ih => exact settleRow_orderly (fun _ _ => .settle found) ready ih

theorem Sweep.releaseEach_orderly {batch : Sweep} {taken : List Id} (found : taken.Sublist batch.scan)
    (limit : taken.length ≤ 100) (left : List InventoryReservation) (held : Set RowKey)
    (ready : Ready productOf taken left held) :
    OrderlyStock productOf ((StockWork.sweep batch).Needs productOf) (releaseEach batch.refuses left) held := by
  induction left generalizing held with
  | nil => trivial
  | cons res rest ih =>
    refine settleRow_orderly (fun _ _ => .sweep found limit) ready fun held ready => ?_
    exact ⟨fun watched => absurd rfl (watched res.cart), fun row row' _ _ => rfl, ih _ (ready.cart res.cart), ih _ ready⟩

/-! The scans -/

variable {scan : List Id} {held : Set RowKey} {found : List InventoryReservation} {ids : List Id}

structure Scanned (productOf : Id → Id) (scan : List Id) (found : List InventoryReservation) (ids : List Id)
    (held : Set RowKey) : Prop where
  holds : held ∩ stockRows = stockHeld (found.map InventoryReservation.id) []
  named : ∀ res ∈ found, res.product = productOf res.id
  ahead : (found.map InventoryReservation.id ++ ids).Sublist scan

namespace Scanned

theorem start : Scanned productOf scan [] scan ∅ where
  holds := by rw [Set.empty_inter, List.map_nil, stockHeld_nil]
  named := by simp
  ahead := List.Sublist.refl scan

theorem found_sublist (scanned : Scanned productOf scan found ids held) :
    (found.map InventoryReservation.id).Sublist scan :=
  (List.sublist_append_left _ ids).trans scanned.ahead

theorem ready (scanned : Scanned productOf scan found ids held) :
    Ready productOf (found.map InventoryReservation.id) found held := by
  refine ⟨fun res inside => List.mem_map_of_mem inside, [], scanned.holds, ?_⟩
  have same : found.map InventoryReservation.product = (found.map InventoryReservation.id).map productOf := by
    rw [List.map_map]
    exact List.map_congr_left scanned.named
  rw [List.nil_append, same]

theorem passed {id : Id} (scanned : Scanned productOf scan found (id :: ids) held) :
    Scanned productOf scan found ids held where
  holds := scanned.holds
  named := scanned.named
  ahead := ((List.sublist_cons_self _ _).append_left _).trans scanned.ahead

theorem taken {id : Id} {r : InventoryReservation} (scanned : Scanned productOf scan found (id :: ids) held)
    (filed : rowFiled productOf (.reservation id) (some r) = true) :
    Scanned productOf scan (found ++ [r]) ids (insert (.reservation id) held) := by
  simp only [rowFiled, Option.all_some, Bool.and_eq_true, beq_iff_eq] at filed
  obtain ⟨named, mine⟩ := filed
  refine ⟨?_, fun res inside => ?_, ?_⟩
  · simpa [named] using insert_reservation scanned.holds id
  · rcases List.mem_append.mp inside with old | new
    · exact scanned.named res old
    · obtain rfl : res = r := by simpa using new
      rw [mine, named]
  · simpa [named] using scanned.ahead

end Scanned

theorem Sweep.found_orderly {batch : Sweep} (scanned : Scanned productOf batch.scan found ids held)
    (limit : found.length ≤ 100) :
    OrderlyStock productOf ((StockWork.sweep batch).Needs productOf) (releaseEach batch.refuses found) held := by
  refine releaseEach_orderly scanned.found_sublist ?_ found held scanned.ready
  rwa [List.length_map]

theorem Sweep.lockExpired_orderly {batch : Sweep} (ids : List Id) (found : List InventoryReservation) (held : Set RowKey)
    (scanned : Scanned productOf batch.scan found ids held) (limit : found.length ≤ 100) :
    OrderlyStock productOf ((StockWork.sweep batch).Needs productOf)
      (lockExpired batch.now (releaseEach batch.refuses) ids found) held := by
  induction ids generalizing found held with
  | nil => exact found_orderly scanned limit
  | cons id rest ih =>
    rw [lockExpired]
    split
    · exact found_orderly scanned limit
    next more =>
      refine ⟨fun waits => by simp at waits, fun row filed met => ?_, ?_⟩
      · cases row with
        | none => simp [wants] at met
        | some r =>
          refine ih _ _ (scanned.taken filed) ?_
          change (found ++ [r]).length ≤ 100
          rw [List.length_append, List.length_singleton]
          omega
      · simpa using ih found held scanned.passed limit

theorem OrderSettlement.lockOrder_orderly {call : OrderSettlement} (ids : List Id) (found : List InventoryReservation)
    (held : Set RowKey) (scanned : Scanned productOf call.scan found ids held) :
    OrderlyStock productOf ((StockWork.settle call).Needs productOf)
      (lockOrder call.tenant call.order (settleFound call.settlement call.tenant) ids found) held := by
  induction ids generalizing found held with
  | nil => exact settleFound_orderly scanned.found_sublist found held scanned.ready
  | cons id rest ih =>
    refine ⟨fun _ _ => .inr ?_, fun row filed met => ?_, ?_⟩
    · rw [scanned.holds]
      refine .find (List.Sublist.trans ?_ scanned.ahead)
      exact (List.singleton_sublist.mpr List.mem_cons_self).append_left _
    · cases row with
      | none => simp [wants] at met
      | some r => exact ih _ _ (scanned.taken filed)
    · simpa using ih found held scanned.passed

theorem StockWork.program_orderly (work : StockWork) : OrderlyStock productOf (work.Needs productOf) work.program ∅ := by
  cases work with
  | reserve basket =>
    rw [← Set.image_empty RowKey.product]
    refine basket.reserve_orderly.within (fun id row filed p same => ?_) (fun id row filed => ?_)
      (fun id => by simp [stockRows]) fun rows id needs => ?_
    · simp only [rowFiled, Option.all_eq_true, beq_iff_eq] at filed
      exact filed p same
    · simp only [rowFiled, Option.all_eq_true, beq_iff_eq]
      exact filed
    · obtain ⟨locked, next, rfl⟩ := needs
      have image : RowKey.product '' {j | j ∈ locked} = stockHeld [] locked := by
        ext k
        simp [stockHeld, eq_comm]
      rw [image]
      exact .reserve next
  | sweep batch =>
    have start : Scanned productOf batch.scan [] batch.scan ∅ := .start
    have orderly := batch.lockExpired_orderly batch.scan [] ∅ start (by simp)
    rw [← Set.image_empty id]
    refine orderly.within (fun _ _ filed => filed) (fun _ _ filed => filed) (fun _ => Iff.rfl) fun rows k needs => ?_
    rwa [Set.image_id]
  | settle call =>
    have start : Scanned productOf call.scan [] call.scan ∅ := .start
    have orderly := call.lockOrder_orderly call.scan [] ∅ start
    rw [← Set.image_empty id]
    refine orderly.within (fun _ _ filed => filed) (fun _ _ filed => filed) (fun _ => Iff.rfl) fun rows k needs => ?_
    rwa [Set.image_id]

end Order

section Waits

abbrev WorkWaits (τ : Type) := Sessions τ RowKey Row InventoryReservation Exn

variable {τ : Type} [DecidableEq τ]

-- Rows nobody holds are also written by other transactions, as when they commit reservations.
def working (productOf : Id → Id) (works : τ → StockWork) : Machine (WorkWaits τ) (Happening τ RowKey Row) :=
  Sessions.among (fun t => (works t).program) (rowFiled productOf)

variable {productOf : Id → Id} {works : τ → StockWork}

/-- Checkouts, sweeps and webhooks wait for each other in a circle only if what they may
need, in the orders they got their reservations, has a tangle. -/
theorem sweeps_never_deadlocked {s₀ s : WorkWaits τ} {moves : List (Move (WorkWaits τ) (Happening τ RowKey Row))}
    (filed : ∀ k, rowFiled productOf k (s₀.base k) = true) (run : (working productOf works).Run s₀ moves s)
    (free : ¬ Tangle fun t => (works t).Needs productOf) : ¬ s.Deadlocked stockRows :=
  Sessions.never_deadlocked_among run filed (fun _ _ admitted => admitted) (fun t => (works t).program_orderly) free

end Waits

namespace Sample

-- Two expired holds, the first of the cup and the second of the mug.
def lapsed (id : Id) : InventoryReservation :=
  { hold id with product := if id = 70 then 31 else 30 }

def expiredProduct (id : Id) : Id := (lapsed id).product

def sweptRows : ∀ k, Row k
  | .product id =>
    if id = 30 then some { product with reserved_quantity := 2 }
    else if id = 31 then some { cup with reserved_quantity := 2 } else none
  | .reservation id => if id = 70 ∨ id = 71 then some (lapsed id) else none
  | .cart id => if id = 40 then some cart else none

theorem sweptRows_filed (k : RowKey) : rowFiled expiredProduct k (sweptRows k) = true := by
  cases k with
  | product id =>
    by_cases mug : id = 30
    · subst mug
      decide +kernel
    · by_cases large : id = 31
      · subst large
        decide +kernel
      · simp [sweptRows, rowFiled, mug, large]
  | reservation id =>
    by_cases known : id = 70 ∨ id = 71
    · rcases known with rfl | rfl <;> decide +kernel
    · simp [sweptRows, rowFiled, known]
  | cart id => rfl

-- A checkout of both products, and a sweep that finds the holds in the given order.
def worker (scan : List Id) (distinct : scan.Nodup) (sweeps : Bool) : StockWork :=
  if sweeps then .sweep { now := 1000, scan, refuses := fun _ => false, distinct } else .reserve (pair true)

def byProduct : Bool → StockWork := worker [71, 70] (by decide)

def unsorted : Bool → StockWork := worker [70, 71] (by decide)

def sweptWaits (works : Bool → StockWork) : WorkWaits Bool where
  base := sweptRows
  table := []
  owner _ := none
  session t := .start (works t).program
  ended _ := none
  log := []

-- The sweep locks both holds, the checkout the mug.
def meeting : List (Happening Bool RowKey Row) := [.act (.run true), .act (.run true), .act (.run false)]

def queued : WorkWaits Bool := ((working expiredProduct byProduct).exec (sweptWaits byProduct) meeting).get
  (by decide +kernel)

end Sample

theorem sweeps_never_deadlocked_queued :
    ∃ moves, (working Sample.expiredProduct Sample.byProduct).Run (Sample.sweptWaits Sample.byProduct) moves Sample.queued ∧
      Sample.queued.WaitsFor stockRows true false ∧ ¬ Sample.queued.Deadlocked stockRows := by
  have initial : (working Sample.expiredProduct Sample.byProduct).Start (Sample.sweptWaits Sample.byProduct) :=
    ⟨fun _ => rfl, fun _ => rfl, fun _ => rfl, rfl⟩
  have ends : (working Sample.expiredProduct Sample.byProduct).exec (Sample.sweptWaits Sample.byProduct)
      Sample.meeting = some Sample.queued := (Option.some_get _).symm
  obtain ⟨moves, run⟩ := Machine.exec_run initial ends
  have free : ¬ Tangle fun t => (Sample.byProduct t).Needs Sample.expiredProduct := by
    refine not_tangle_of_sorted fun t => ?_
    cases t <;> simp [Sample.byProduct, Sample.worker, StockWork.Sorted, Sample.expiredProduct, Sample.lapsed]
  exact ⟨moves, run, ⟨by decide +kernel, .product 30, by simp [stockRows], by decide +kernel, by decide +kernel,
    by decide⟩, sweeps_never_deadlocked Sample.sweptRows_filed run free⟩

namespace Sample

-- Before it needs the mug, the sweep gives the cup back.
def crossedHolds : List (Happening Bool RowKey Row) :=
  meeting ++ [.act (.run true), .act (.run true), .act (.run true)]

def blocked : WorkWaits Bool := ((working expiredProduct unsorted).exec (sweptWaits unsorted) crossedHolds).get
  (by decide +kernel)

end Sample

theorem sweep_deadlocks_checkout : (∀ k, rowFiled Sample.expiredProduct k ((Sample.sweptWaits Sample.unsorted).base k) = true) ∧
    ∃ moves, (working Sample.expiredProduct Sample.unsorted).Run (Sample.sweptWaits Sample.unsorted) moves Sample.blocked ∧
      Sample.blocked.Deadlocked stockRows := by
  have initial : (working Sample.expiredProduct Sample.unsorted).Start (Sample.sweptWaits Sample.unsorted) :=
    ⟨fun _ => rfl, fun _ => rfl, fun _ => rfl, rfl⟩
  have ends : (working Sample.expiredProduct Sample.unsorted).exec (Sample.sweptWaits Sample.unsorted) Sample.crossedHolds =
      some Sample.blocked := (Option.some_get _).symm
  obtain ⟨moves, run⟩ := Machine.exec_run initial ends
  have sweep : Sample.blocked.WaitsFor stockRows true false :=
    ⟨by decide +kernel, .product 30, by simp [stockRows], by decide +kernel, by decide +kernel, by decide⟩
  have checkout : Sample.blocked.WaitsFor stockRows false true :=
    ⟨by decide +kernel, .product 31, by simp [stockRows], by decide +kernel, by decide +kernel, by decide⟩
  exact ⟨Sample.sweptRows_filed, moves, run, true, .tail (.single sweep) checkout⟩

end Storefront
