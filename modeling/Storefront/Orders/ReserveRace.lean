import Storefront.Locking.Sessions
import Storefront.Orders.Reservations

set_option autoImplicit false

/-!
# Stock reservation, statement by statement

`_reserve_stock` locks its product rows in the order of their ids, checks them all,
and then inserts a reservation and raises a counter for each.
-/

namespace Storefront

open Relational Transition Locking

abbrev ProductRow (_ : Id) := Option Product

abbrev StockProgram := Program Id ProductRow InventoryReservation Exn

def found (tenant : Id) (row : Option Product) : Option Product := row.filter fun p => p.tenant == tenant

def visible (tenant : Id) (row : Option Product) : Bool := (found tenant row).isSome

def Catalogue (base : ∀ id, ProductRow id) : Prop :=
  ∀ id p, base id = some p → p.id = id ∧ Schema.check p = true

/-- The arguments of one call, with the clock and the uuid4 values it draws. -/
structure Basket where
  tenant : Id
  now : Time
  draw : Nat → Id
  view : CartView

namespace Basket

variable (b : Basket)

def lines : List Id := (b.view.items.map CartItem.product).insertionSort (· ≤ ·)

-- One row of `select_for_update().filter(id__in=...).order_by("id")` after the other.
def lockProducts : List Id → (List Product → StockProgram) → List Product → StockProgram
  | [], next, found => next found
  | id :: rest, next, found =>
    .select id (visible b.tenant) false fun row => lockProducts rest next (found ++ row.join.toList)

def hold (quantity : Int) : Option Product → Except Exn (Option Product)
  | none => .ok none
  | some p =>
    let p' := { p with reserved_quantity := p.reserved_quantity + quantity }
    if Schema.check p' then .ok (some p') else .error .integrityError

def reservation (entry : Product × Nat) : InventoryReservation :=
  newReservation b.tenant b.now b.view entry.1.id (b.draw entry.2)

def holdProducts (next : StockProgram) : List (Product × Nat) → StockProgram
  | [] => next
  | entry :: rest =>
    .insert (b.reservation entry)
      (.update entry.1.id (visible b.tenant) (hold (b.reservation entry).quantity) (holdProducts next rest))

-- _reserve_stock
def reserve : StockProgram :=
  b.lockProducts b.lines (fun products =>
    if insufficient b.view products = [] then b.holdProducts .commit products.zipIdx
    else .raise (.insufficientStock (insufficient b.view products))) []

end Basket

def unreserved (_ : Id) (row : Option Product) : Option Product :=
  row.map fun p => { p with reserved_quantity := 0 }

theorem visible_unreserved {tenant id : Id} {row row' : Option Product}
    (same : unreserved id row = unreserved id row') : visible tenant row = visible tenant row' := by
  have shown (row : Option Product) : visible tenant row = (unreserved id row).any fun p => p.tenant == tenant := by
    cases row with
    | none => rfl
    | some p => by_cases mine : p.tenant = tenant <;> simp [visible, found, unreserved, Option.filter, mine]
  rw [shown row, shown row', same]

theorem hold_unreserved {quantity : Int} {id : Id} {row row' : Option Product}
    (held : Basket.hold quantity row = .ok row') : unreserved id row' = unreserved id row := by
  cases row with
  | none =>
    cases held
    rfl
  | some p =>
    simp only [Basket.hold] at held
    split at held
    · cases held
      rfl
    · cases held

namespace Basket

variable {b : Basket}

theorem lockProducts_disciplined {next : List Product → StockProgram}
    (good : ∀ products, (next products).Disciplined unreserved) (ids : List Id) (found : List Product) :
    (b.lockProducts ids next found).Disciplined unreserved := by
  induction ids generalizing found with
  | nil => exact good found
  | cons id rest ih => exact ⟨rfl, fun _ _ => visible_unreserved, fun row => ih _⟩

theorem holdProducts_disciplined {next : StockProgram} (good : next.Disciplined unreserved)
    (entries : List (Product × Nat)) : (b.holdProducts next entries).Disciplined unreserved := by
  induction entries with
  | nil => exact good
  | cons entry rest ih => exact ⟨fun _ _ => visible_unreserved, fun _ _ => hold_unreserved, ih⟩

theorem reserve_disciplined (b : Basket) : b.reserve.Disciplined unreserved := by
  refine lockProducts_disciplined (fun products => ?_) _ _
  split
  · exact holdProducts_disciplined (show Program.Disciplined _ .commit from trivial) _
  · trivial

def products (b : Basket) (base : ∀ id, ProductRow id) : List Product :=
  b.lines.filterMap fun id => found b.tenant (base id)

theorem lockProducts_alone {next : List Product → StockProgram} {base : ∀ id, ProductRow id} (ids : List Id)
    (before : List Product) (work : Work Id ProductRow) (rows : List InventoryReservation) :
    ∃ locked, overlay locked base = overlay work base ∧
      (b.lockProducts ids next before).alone base work rows =
        (next (before ++ ids.filterMap fun id => found b.tenant (overlay work base id))).alone base locked rows := by
  induction ids generalizing before work with
  | nil => exact ⟨work, rfl, by simp [lockProducts]⟩
  | cons id rest ih =>
    simp only [lockProducts, Program.alone]
    rcases Option.eq_none_or_eq_some (found b.tenant (overlay work base id)) with seen | ⟨p, seen⟩
    · have unseen : visible b.tenant (overlay work base id) = false := by rw [visible, seen]; rfl
      obtain ⟨locked, same, runs⟩ := ih before work
      refine ⟨locked, same, ?_⟩
      rw [if_neg (by simp [unseen])]
      simpa [List.filterMap_cons, seen] using runs
    · obtain ⟨row, _⟩ := Option.filter_eq_some_iff.mp seen
      have shown : visible b.tenant (overlay work base id) = true := by rw [visible, seen]; rfl
      have copied := overlay_update work base id (overlay work base id)
      rw [Function.update_eq_self] at copied
      obtain ⟨locked, same, runs⟩ := ih (before ++ [p]) (Function.update work id (some (overlay work base id)))
      refine ⟨locked, same.trans copied, ?_⟩
      rw [if_pos shown]
      simp only [copied, List.append_assoc, List.singleton_append] at runs
      rw [row] at seen
      simpa [List.filterMap_cons, seen, row] using runs

def held (b : Basket) (id : Id) (row : Option Product) : Option Product :=
  row.map fun p =>
    if p.tenant = b.tenant then { p with reserved_quantity := p.reserved_quantity + itemQuantity b.view id } else p

theorem mem_products {base : ∀ id, ProductRow id} {p : Product} : p ∈ b.products base ↔
    ∃ id ∈ b.lines, base id = some p ∧ p.tenant = b.tenant := by
  simp [products, found, Option.filter_eq_some_iff]

theorem lines_nodup (b : Basket) : b.lines.Nodup :=
  (List.perm_insertionSort _ _).nodup_iff.mpr b.view.distinct

theorem found_visible {base : ∀ id, ProductRow id} (catalogue : Catalogue base) (ids : List Id) :
    (ids.filterMap fun id => found b.tenant (base id)).map Product.id =
      ids.filter fun id => visible b.tenant (base id) := by
  induction ids with
  | nil => rfl
  | cons id rest ih =>
    rcases Option.eq_none_or_eq_some (found b.tenant (base id)) with seen | ⟨p, seen⟩
    · simpa [List.filterMap_cons, List.filter_cons, visible, seen] using ih
    · obtain ⟨row, _⟩ := Option.filter_eq_some_iff.mp seen
      simpa [List.filterMap_cons, List.filter_cons, visible, seen, (catalogue id p row).1] using ih

theorem products_nodup {base : ∀ id, ProductRow id} (catalogue : Catalogue base) :
    ((b.products base).map Product.id).Nodup := by
  rw [products, found_visible catalogue]
  exact (lines_nodup b).filter _

theorem holdProducts_alone {base : ∀ id, ProductRow id} {next : StockProgram} (entries : List (Product × Nat))
    (work : Work Id ProductRow) (rows : List InventoryReservation) (nodup : (entries.map fun e => e.1.id).Nodup)
    (fits : ∀ e ∈ entries, ∃ p, overlay work base e.1.id = some p ∧ p.tenant = b.tenant ∧
      Schema.check { p with reserved_quantity := p.reserved_quantity + itemQuantity b.view e.1.id } = true) :
    ∃ after, (b.holdProducts next entries).alone base work rows =
        next.alone base after (rows ++ entries.map b.reservation) ∧
      ∀ id, overlay after base id =
        if id ∈ entries.map (fun e => e.1.id) then b.held id (overlay work base id) else overlay work base id := by
  induction entries generalizing work rows with
  | nil => exact ⟨work, by simp [holdProducts], fun id => by simp⟩
  | cons entry rest ih =>
    obtain ⟨p, row, owned, checked⟩ := fits entry (by simp)
    obtain ⟨fresh, distinct⟩ := List.nodup_cons.mp nodup
    have shown : visible b.tenant (overlay work base entry.1.id) = true := by
      rw [row]
      simp [visible, found, Option.filter, owned]
    let new : Product := { p with reserved_quantity := p.reserved_quantity + itemQuantity b.view entry.1.id }
    have counted : hold (b.reservation entry).quantity (overlay work base entry.1.id) = .ok (some new) := by
      rw [row]
      exact if_pos checked
    have seen := overlay_update work base entry.1.id (some new)
    obtain ⟨after, runs, shows⟩ := ih (Function.update work entry.1.id (some (some new))) (rows ++ [b.reservation entry])
      distinct fun e inside => by
        have other : e.1.id ≠ entry.1.id := fun same => fresh (List.mem_map.mpr ⟨e, inside, same⟩)
        rw [seen, Function.update_of_ne other]
        exact fits e (by simp [inside])
    refine ⟨after, ?_, fun id => ?_⟩
    · simp only [holdProducts, Program.alone]
      rw [if_pos shown, counted]
      simpa using runs
    · rw [shows id, seen]
      by_cases here : id = entry.1.id
      · subst here
        rw [if_neg fresh, Function.update_self, row]
        simp [held, owned, new]
      · rw [Function.update_of_ne here]
        simp only [List.map_cons, List.mem_cons, here, false_or]

def reservations (b : Basket) (base : ∀ id, ProductRow id) : List InventoryReservation :=
  (b.lines.filter fun id => visible b.tenant (base id)).zipIdx.map fun e =>
    newReservation b.tenant b.now b.view e.1 (b.draw e.2)

theorem reservations_congr (b : Basket) {base base' : ∀ id, ProductRow id}
    (alike : ∀ id, unreserved id (base id) = unreserved id (base' id)) : b.reservations base = b.reservations base' := by
  have seen (id : Id) : visible b.tenant (base id) = visible b.tenant (base' id) := visible_unreserved (alike id)
  simp only [reservations, seen]

theorem reservations_eq {base : ∀ id, ProductRow id} (catalogue : Catalogue base) :
    (b.products base).zipIdx.map b.reservation = b.reservations base := by
  rw [reservations, ← found_visible catalogue, ← products, List.zipIdx_map, List.map_map]
  rfl

def Fits (b : Basket) (base : ∀ id, ProductRow id) : Prop := insufficient b.view (b.products base) = []

theorem fits_iff {base : ∀ id, ProductRow id} : b.Fits base ↔
    ∀ p ∈ b.products base, itemQuantity b.view p.id ≤ p.availableQuantity := by
  simp [Fits, insufficient, List.filter_eq_nil_iff]

theorem itemQuantity_absent {view : CartView} {id : Id} (absent : id ∉ view.items.map CartItem.product) :
    itemQuantity view id = 0 := by
  have none : view.items.find? (fun i => i.product == id) = none := by
    rw [List.find?_eq_none]
    intro item inside same
    exact absent (List.mem_map.mpr ⟨item, inside, beq_iff_eq.mp same⟩)
  simp [itemQuantity, none]

theorem held_other {base : ∀ id, ProductRow id} (catalogue : Catalogue base) {id : Id}
    (other : id ∉ (b.products base).map Product.id) : b.held id (base id) = base id := by
  rcases Option.eq_none_or_eq_some (base id) with row | ⟨p, row⟩
  · rw [row]
    rfl
  · rw [row]
    by_cases owned : p.tenant = b.tenant
    · have absent : id ∉ b.view.items.map CartItem.product := fun inside =>
        other (List.mem_map.mpr ⟨p, mem_products.mpr ⟨id, (List.mem_insertionSort _).mpr inside, row, owned⟩,
          (catalogue id p row).1⟩)
      simp [held, itemQuantity_absent absent]
    · simp [held, owned]

theorem reserve_alone (b : Basket) {base : ∀ id, ProductRow id} (catalogue : Catalogue base) :
    (b.Fits base → ∃ work, b.reserve.alone base (fun _ => none) [] = .ok (work, b.reservations base) ∧
      ∀ id, overlay work base id = b.held id (base id)) ∧
    (¬ b.Fits base → b.reserve.alone base (fun _ => none) [] =
      .error (.insufficientStock (insufficient b.view (b.products base)))) := by
  obtain ⟨locked, same, runs⟩ := @lockProducts_alone b (fun products =>
    if insufficient b.view products = [] then b.holdProducts .commit products.zipIdx
    else .raise (.insufficientStock (insufficient b.view products))) base b.lines [] (fun _ => none) []
  have unlocked : overlay locked base = base := same
  change b.reserve.alone base (fun _ => none) [] = (if insufficient b.view (b.products base) = [] then
    b.holdProducts .commit (b.products base).zipIdx
    else .raise (.insufficientStock (insufficient b.view (b.products base)))).alone base locked [] at runs
  rw [runs]
  constructor
  · intro fits
    have ids : (b.products base).zipIdx.map (fun e => e.1.id) = (b.products base).map Product.id := by
      conv_rhs => rw [← List.zipIdx_map_fst 0 (b.products base), List.map_map]
      rfl
    obtain ⟨after, holds, shows⟩ := @holdProducts_alone b base .commit (b.products base).zipIdx
      locked [] (ids ▸ products_nodup catalogue) fun e inside => by
        have member := List.fst_mem_of_mem_zipIdx inside
        obtain ⟨id, _, row, owned⟩ := mem_products.mp member
        obtain ⟨rfl, checked⟩ := catalogue id e.1 row
        refine ⟨e.1, by rw [unlocked, row], owned, ?_⟩
        have enough := fits_iff.mp fits e.1 member
        simp only [Product.check_iff, Product.availableQuantity] at checked enough ⊢
        exact ⟨by omega, checked.2⟩
    refine ⟨after, ?_, fun id => ?_⟩
    · rw [if_pos (show insufficient b.view (b.products base) = [] from fits), holds,
        ← reservations_eq catalogue]
      rfl
    · rw [shows id, ids, unlocked]
      split
      · rfl
      next other => exact (held_other catalogue other).symm
  · intro short
    rw [if_neg (show ¬ insufficient b.view (b.products base) = [] from short)]
    rfl

theorem held_catalogue {base : ∀ id, ProductRow id} (catalogue : Catalogue base) (fits : b.Fits base) :
    Catalogue fun id => b.held id (base id) := by
  intro id p held
  rcases Option.eq_none_or_eq_some (base id) with row | ⟨q, row⟩
  · simp [row, Basket.held] at held
  · obtain ⟨named, checked⟩ := catalogue id q row
    by_cases inside : id ∈ b.lines ∧ q.tenant = b.tenant
    · obtain rfl : { q with reserved_quantity := q.reserved_quantity + itemQuantity b.view id } = p := by
        simpa [row, Basket.held, inside.2] using held
      have enough := fits_iff.mp fits q (mem_products.mpr ⟨id, inside.1, row, inside.2⟩)
      rw [named] at enough
      refine ⟨named, ?_⟩
      simp only [Product.check_iff, Product.availableQuantity] at checked enough ⊢
      exact ⟨by omega, checked.2⟩
    · have same : b.held id (base id) = base id := held_other catalogue fun member => by
        obtain ⟨p', found, equal⟩ := List.mem_map.mp member
        obtain ⟨id', inside', row', owned⟩ := mem_products.mp found
        obtain rfl : id' = id := (catalogue id' p' row').1.symm.trans equal
        rw [row] at row'
        cases row'
        exact inside ⟨inside', owned⟩
      exact catalogue id p (same.symm.trans held)

theorem catalogue_get (products : Table Product) : Catalogue products.get :=
  fun _ p row => ⟨(Table.mem_of_get row).2, products.checked p (Table.mem_of_get row).1⟩

theorem productsToReserve_eq (b : Basket) (db : Db) :
    productsToReserve b.tenant b.view db = b.products db.products.get := by
  have catalogue := catalogue_get db.products
  have picked {p : Product} : p ∈ productsToReserve b.tenant b.view db ↔ p ∈ b.products db.products.get := by
    simp only [mem_productsToReserve, mem_products, lines, List.mem_insertionSort, List.mem_map]
    constructor
    · rintro ⟨member, owned, item, inside, same⟩
      exact ⟨p.id, ⟨item, inside, same⟩, Table.get_of_mem member, owned⟩
    · rintro ⟨_, ⟨item, inside, rfl⟩, row, owned⟩
      exact ⟨(Table.mem_of_get row).1, owned, item, inside, (Table.mem_of_get row).2.symm⟩
  have perm : (productsToReserve b.tenant b.view db).Perm (b.products db.products.get) := by
    refine (List.perm_ext_iff_of_nodup ?_ (products_nodup catalogue).of_map).mpr fun _ => picked
    exact (List.perm_insertionSort _ _).nodup_iff.mpr (db.products.nodup.filter _)
  refine @List.Perm.eq_of_pairwise _ (fun p q : Product => p.id ≤ q.id) _ _ (fun p q left right le ge => ?_) ?_ ?_ perm
  · exact db.products.eq_of_key (mem_productsToReserve.mp left).1
      (mem_productsToReserve.mp (picked.mpr right)).1 (le_antisymm le ge)
  · refine List.pairwise_map.mp ?_
    rw [productsToReserve, List.map_insertionSort _ (· ≤ ·) Product.id _ fun _ _ _ _ => Iff.rfl]
    exact List.pairwise_insertionSort _ _
  · refine List.pairwise_map.mp ?_
    rw [products, found_visible catalogue]
    exact (List.pairwise_insertionSort _ _).filter _

theorem reserveEach_get {entries : List (Product × Nat)} {db db' : Db} (nodup : (entries.map fun e => e.1.id).Nodup)
    (done : entries.foldlM (reserveOne b.tenant b.now b.view b.draw) db = .ok db') (id : Id) :
    db'.products.get id = if id ∈ entries.map (fun e => e.1.id) then b.held id (db.products.get id)
      else db.products.get id := by
  induction entries generalizing db with
  | nil =>
    obtain rfl : db = db' := by simpa using done
    simp
  | cons entry rest ih =>
    obtain ⟨mid, first, tail⟩ := foldlM_cons_eq_ok.mp done
    obtain ⟨reservations, products, _, updated, rfl⟩ := reserveOne_eq_ok.mp first
    obtain ⟨fresh, distinct⟩ := List.nodup_cons.mp nodup
    have image := Table.get_updated_key (k := entry.1.id) (Table.update_rows updated) (fun _ => rfl)
      fun p picked => beq_iff_eq.mp (Bool.and_eq_true_iff.mp picked).2
    rw [ih distinct tail, image]
    by_cases here : id = entry.1.id
    · subst here
      rw [if_neg fresh]
      rcases Option.eq_none_or_eq_some (db.products.get entry.1.id) with row | ⟨p, row⟩
      · simp [row, held]
      · have named : p.id = entry.1.id := (Table.mem_of_get row).2
        by_cases owned : p.tenant = b.tenant <;> simp [row, held, Table.updated, Scope.sees, owned, named]
    · simp only [Function.update_of_ne here, List.map_cons, List.mem_cons, here, false_or]

theorem reserveEach_raises {entries : List (Product × Nat)} {db : Db} {e : Exn}
    (raised : entries.foldlM (reserveOne b.tenant b.now b.view b.draw) db = .error e) : e = .integrityError := by
  induction entries generalizing db with
  | nil => cases raised
  | cons entry rest ih =>
    rw [List.foldlM_cons] at raised
    rcases bind_eq_error.mp raised with first | ⟨mid, _, tail⟩
    · rcases bind_eq_error.mp first with refused | ⟨_, _, refused⟩ <;> exact stored_eq_error refused
    · exact ih tail

/-- The program, alone, ends as the call of the model does. -/
theorem reserveStock_alone (b : Basket) (db : Db) {result : Outcome (List Id × Db)}
    (called : reserveStock b.tenant b.now b.draw b.view db = result) :
    (∀ ids db', result = .ok (ids, db') → ∃ work rows, b.reserve.alone db.products.get (fun _ => none) [] = .ok (work, rows) ∧
      overlay work db.products.get = db'.products.get ∧
      db'.reservations.rows = db.reservations.rows ++ rows ∧ ids = rows.map InventoryReservation.id) ∧
    (∀ short, result = .error (.insufficientStock short) →
      b.reserve.alone db.products.get (fun _ => none) [] = .error (.insufficientStock short)) := by
  have catalogue := catalogue_get db.products
  obtain ⟨commits, raises⟩ := b.reserve_alone catalogue
  have same := b.productsToReserve_eq db
  subst called
  constructor
  · intro ids db' done
    obtain ⟨enough, looped, drawn⟩ := reserveStock_eq_ok.mp done
    rw [same] at enough looped drawn
    obtain ⟨work, ends, shows⟩ := commits enough
    have ids_map : (b.products db.products.get).zipIdx.map (fun e => e.1.id) =
        (b.products db.products.get).map Product.id := by
      conv_rhs => rw [← List.zipIdx_map_fst 0 (b.products db.products.get), List.map_map]
      rfl
    refine ⟨work, _, ends, funext fun id => ?_, ?_, ?_⟩
    · rw [shows, reserveEach_get (ids_map ▸ products_nodup catalogue) looped, ids_map]
      split
      · rfl
      next other => exact held_other catalogue other
    · rw [(reserveEach_reserved looped).rows, ← reservations_eq catalogue]
      rfl
    · rw [← drawn, ← reservations_eq catalogue, List.map_map]
      rfl
  · intro short raised
    simp only [reserveStock, same, bind_eq_error, require_eq_error] at raised
    rcases raised with ⟨lacking, named⟩ | ⟨_, _, looped | ⟨_, _, ended⟩⟩
    · rw [raises lacking, named]
    · cases reserveEach_raises looped
    · cases ended

end Basket

section Race

abbrev Race (τ : Type) := Sessions τ Id ProductRow InventoryReservation Exn

variable {τ : Type} [DecidableEq τ] (baskets : τ → Basket)

-- What the calls of a list reserve of a product.
def demanded (calls : List τ) (id : Id) (p : Product) : Int :=
  (calls.map fun t => if p.tenant = (baskets t).tenant then itemQuantity (baskets t).view id else 0).sum

def racing : Machine (Race τ) (Action τ) := Sessions.machine fun t => (baskets t).reserve

def Race.Holds (s : Race τ) (t : τ) : Prop :=
  ∀ id ∈ (baskets t).lines, visible (baskets t).tenant (s.base id) = true → s.owner id = some t

/-- The committed calls, and no others, hold their lines, within the stock; each call
that has its locks is decided by what they guard. -/
structure Fair (s₀ s : Race τ) : Prop where
  reserved : ∀ id, s.base id = (s₀.base id).map fun p =>
    { p with reserved_quantity := p.reserved_quantity + demanded baskets s.log id p }
  within : ∀ id p, s.base id = some p → p.reserved_quantity ≤ p.stock_quantity
  rows : s.table = s₀.table ++ s.log.flatMap fun t => (baskets t).reservations s₀.base
  once : s.log.Nodup
  committed : ∀ t, t ∈ s.log ↔ s.ended t = some .committed
  decided : ∀ t s' how, s.ended t = none → s.Holds baskets t → (racing baskets).Leads s s' →
    s'.ended t = some how → how ≠ .killed →
    ((baskets t).Fits s.base ∧ how = .committed) ∨ (¬ (baskets t).Fits s.base ∧
      how = .raised (.insufficientStock (insufficient (baskets t).view ((baskets t).products s.base))))

variable {baskets}

omit [DecidableEq τ] in
theorem serial_reserved {base₀ base : ∀ id, ProductRow id} {table₀ table : List InventoryReservation} {log : List τ}
    (serial : Serial (fun t => (baskets t).reserve) base₀ table₀ log base table) (catalogue : Catalogue base₀) :
    Catalogue base ∧ (∀ id, base id = (base₀ id).map fun p =>
      { p with reserved_quantity := p.reserved_quantity + demanded baskets log id p }) ∧
      table = table₀ ++ log.flatMap fun t => (baskets t).reservations base₀ := by
  induction serial with
  | nil => exact ⟨catalogue, fun id => by simp [demanded], by simp⟩
  | @snoc log base table t work rows before alone ih =>
    obtain ⟨keyed, counted, listed⟩ := ih
    obtain ⟨commits, raises⟩ := (baskets t).reserve_alone keyed
    have fits : (baskets t).Fits base := by
      by_contra short
      rw [raises short] at alone
      cases alone
    obtain ⟨work', ends, shows⟩ := commits fits
    rw [ends] at alone
    cases alone
    have after : overlay work base = fun id => (baskets t).held id (base id) := funext shows
    refine ⟨after ▸ (baskets t).held_catalogue keyed fits, fun id => ?_, ?_⟩
    · rw [shows, counted, Basket.held, Option.map_map]
      congr 1
      funext p
      by_cases owned : p.tenant = (baskets t).tenant
      · simp [demanded, owned, add_assoc]
      · simp [demanded, owned]
    · have alike (id : Id) : unreserved id (base id) = unreserved id (base₀ id) := by
        rw [counted]
        cases base₀ id <;> rfl
      rw [listed, List.flatMap_append, List.flatMap_singleton, List.append_assoc,
        (baskets t).reservations_congr alike]

theorem products_congr {b : Basket} {base base' : ∀ id, ProductRow id}
    (same : ∀ id ∈ b.lines, found b.tenant (base' id) = found b.tenant (base id)) :
    b.products base' = b.products base := by
  unfold Basket.products
  exact List.filterMap_congr same

/-- Any interleaving of reservation calls is fair to all of them. -/
theorem reservations_race {s₀ s : Race τ} {moves : List (Move (Race τ) (Action τ))}
    (catalogue : Catalogue s₀.base) (run : (racing baskets).Run s₀ moves s) : Fair baskets s₀ s := by
  have good (t : τ) := (baskets t).reserve_disciplined
  obtain ⟨sound, logged⟩ := Sessions.serializable good run
  obtain ⟨keyed, counted, listed⟩ := serial_reserved logged.serial catalogue
  refine ⟨counted, fun id p row => ?_, listed, logged.nodup, logged.mem, ?_⟩
  · exact (Product.check_iff.mp (keyed id p row).2).1
  · intro t s' how live holds leads ended unkilled
    obtain ⟨_, mid, stands⟩ := sound.stands good live leads
    obtain ⟨_, later⟩ := run.leads stands.leads
    have keyed' := (serial_reserved (Sessions.serializable good later).2.serial catalogue).1
    have same : (baskets t).products mid.base = (baskets t).products s.base := products_congr fun id inside => by
      cases shown : visible (baskets t).tenant (s.base id) with
      | true => rw [stands.same id (holds id inside shown)]
      | false =>
        have hidden := (visible_unreserved (stands.alike id)).trans shown
        simp only [visible, Option.isSome_eq_false_iff, Option.isNone_iff_eq_none] at shown hidden
        rw [shown, hidden]
    obtain ⟨commits, raises⟩ := (baskets t).reserve_alone keyed'
    have decided := stands.decided how ended
    have fits : (baskets t).Fits mid.base ↔ (baskets t).Fits s.base := by rw [Basket.Fits, Basket.Fits, same]
    by_cases enough : (baskets t).Fits s.base
    · left
      obtain ⟨work, ends, _⟩ := commits (fits.mpr enough)
      cases how with
      | committed => exact ⟨enough, rfl⟩
      | raised e =>
        have raised : _ = Except.error e := decided
        rw [ends] at raised
        cases raised
      | killed => exact absurd rfl unkilled
    · right
      have ends := raises fun fit => enough (fits.mp fit)
      rw [same] at ends
      cases how with
      | committed =>
        obtain ⟨done, committed⟩ : ∃ done, _ = Except.ok done := decided
        rw [ends] at committed
        cases committed
      | raised e =>
        have raised : _ = Except.error e := decided
        rw [ends] at raised
        exact ⟨enough, congrArg End.raised (Except.error.inj raised).symm⟩
      | killed => exact absurd rfl unkilled

end Race

namespace Sample

-- Two shoppers want two and four of the five mugs.
def basket (second : Bool) : Basket where
  tenant := 1
  now := 0
  draw n := if second then 80 + n else 70 + n
  view :=
    { cart, customer, items := [{ item with quantity := if second then 4 else 2 }], products := [product]
      coupons := [], shippingAddress := some address, billingAddress := some address
      paymentMethod := some card, positive := by cases second <;> decide +kernel
      distinct := by cases second <;> decide +kernel }

def race : Race Bool where
  base := shop.products.get
  table := []
  owner _ := none
  session second := .start (basket second).reserve
  ended _ := none
  log := []

-- The second waits for the lock of the first.
def raceActions : List (Action Bool) :=
  [.run false, .run false, .run false, .run false, .run true, .run true]

def raced : Race Bool := ((racing basket).exec race raceActions).get (by decide +kernel)

end Sample

theorem reservations_race_sold : ∃ moves, (racing Sample.basket).Run Sample.race moves Sample.raced ∧
    Sample.raced.log = [false] ∧ Sample.raced.ended true = some (.raised (.insufficientStock [(30, 3, 4)])) ∧
    Fair Sample.basket Sample.race Sample.raced := by
  have initial : (racing Sample.basket).Start Sample.race := ⟨fun _ => rfl, fun _ => rfl, fun _ => rfl, rfl⟩
  have ends : (racing Sample.basket).exec Sample.race Sample.raceActions = some Sample.raced :=
    (Option.some_get _).symm
  obtain ⟨moves, run⟩ := Machine.exec_run initial ends
  exact ⟨moves, run, by decide +kernel, by decide +kernel, reservations_race (Basket.catalogue_get _) run⟩

end Storefront
