import Storefront.Locking.Accounts
import Storefront.Orders.Reservations

set_option autoImplicit false

/-!
# Giving reservations back, statement by statement

The helpers of a checkout refresh a reservation without locking it, update its
product and save it. The expiry sweep locks its reservations first.
-/

namespace Storefront

open Relational Transition Locking

inductive RowKey
  | product (id : Id)
  | reservation (id : Id)
  | cart (id : Id)
  deriving DecidableEq

abbrev Row : RowKey → Type
  | .product _ => Option Product
  | .reservation _ => Option InventoryReservation
  | .cart _ => Option Cart

abbrev GivingProgram := Program RowKey Row Empty Exn

def countedRow (t : Settlement) (quantity : Int) : Option Product → Except Exn (Option Product)
  | none => .ok none
  | some p =>
    if Schema.check (counted t quantity p) then .ok (some (counted t quantity p)) else .error .integrityError

-- The two statements that every loop writes for a reservation.
def settleRow (t : Settlement) (scope : Scope) (res : InventoryReservation) (next : GivingProgram) : GivingProgram :=
  .update (.product res.product) (fun row : Option Product => row.any fun p => scope.sees p.tenant)
    (countedRow t res.quantity)
    (.update (.reservation res.id) (fun row : Option InventoryReservation => row.isSome)
      (fun row : Option InventoryReservation => .ok (row.map fun r => { r with status := t.becomes })) next)

-- What follows `refresh_from_db`.
def settleRefreshed (t : Settlement) (tenant : Id) (next : GivingProgram) : Option InventoryReservation → GivingProgram
  | none => .raise (.doesNotExist "InventoryReservation")
  | some res => if res.status = t.expects then settleRow t (some tenant) res next else next

-- _release_reservations, _commit_reservations
def settleEach (t : Settlement) (tenant : Id) : List Id → GivingProgram
  | [] => .commit
  | id :: rest =>
    .read (.reservation id) fun row : Option InventoryReservation =>
      settleRefreshed t tenant (settleEach t tenant rest) (row.filter fun r => r.tenant == tenant)

/-- One batch of the sweep, with the rows in the order they are scanned. `refuses` says
which carts the database does not let become active again. -/
structure Sweep where
  now : Time
  scan : List Id
  refuses : Id → Bool
  distinct : scan.Nodup

namespace Sweep

def wants (now : Time) (row : Option InventoryReservation) : Bool :=
  row.any fun r => r.status == .active && decide (r.expires_at < now)

-- select_for_update(skip_locked=True).filter(status=ACTIVE, expires_at__lt=now)[:100]
def lockExpired (now : Time) (next : List InventoryReservation → GivingProgram) :
    List Id → List InventoryReservation → GivingProgram
  | [], found => next found
  | id :: rest, found =>
    if found.length = 100 then next found
    else .select (.reservation id) (wants now) true fun row : Option (Option InventoryReservation) =>
      lockExpired now next rest (found ++ row.join.toList)

def revert (refused : Bool) (row : Option Cart) : Except Exn (Option Cart) :=
  if refused then .error .integrityError else .ok (row.map fun c => { c with status := .active })

def releaseEach (refuses : Id → Bool) : List InventoryReservation → GivingProgram
  | [] => .commit
  | res :: rest =>
    settleRow .release none res
      (.update (.cart res.cart) (fun row : Option Cart => row.any fun c => c.status == .checkingOut)
        (revert (refuses res.cart)) (releaseEach refuses rest))

-- release_expired_reservations
def program (sweep : Sweep) : GivingProgram :=
  lockExpired sweep.now (releaseEach sweep.refuses) sweep.scan []

end Sweep

inductive Giving
  | release (tenant : Id) (reservations : List Id)
  | commit (tenant : Id) (reservations : List Id)
  | sweep (batch : Sweep)

def Giving.program : Giving → GivingProgram
  | .release tenant reservations => settleEach .release tenant reservations
  | .commit tenant reservations => settleEach .commit tenant reservations
  | .sweep batch => batch.program

def isActive (row : Option InventoryReservation) : Bool := row.any fun r => r.status == .active

def activeOn (product : Id) (row : Option InventoryReservation) : Int :=
  match row with
  | some r => if r.status = .active ∧ r.product = product then r.quantity else 0
  | none => 0

def reservedOf (row : Option Product) : Int := (row.map Product.reserved_quantity).getD 0

/-- Rows are found under their ids, the reservations are the given ones, and each has
its product in its own tenant. -/
structure Stocked (ids : Finset Id) (base : ∀ k, Row k) : Prop where
  listed : ∀ id r, base (.reservation id) = some r → r.id = id ∧ id ∈ ids
  housed : ∀ id r, base (.reservation id) = some r → ∃ p : Product, base (.product r.product) = some p ∧ p.tenant = r.tenant

namespace Giving

-- The counters and the statuses of a start are all that changes, and ACTIVE is left for good.
def sane (base₀ : ∀ k, Row k) : ∀ k, Row k → Prop
  | .product id, (row : Option Product) =>
    row.map (fun p => { p with stock_quantity := 0, reserved_quantity := 0 }) =
      (base₀ (.product id) : Option Product).map fun p => { p with stock_quantity := 0, reserved_quantity := 0 }
  | .reservation id, (row : Option InventoryReservation) => row = base₀ (.reservation id) ∨
      ∃ res : InventoryReservation, ∃ status, base₀ (.reservation id) = some res ∧ status ≠ .active ∧ row = some { res with status }
  | .cart _, _ => True

def weight (product : Id) : ∀ k, Row k → Int
  | .product id, (row : Option Product) => if id = product then reservedOf row else 0
  | .reservation _, (row : Option InventoryReservation) => - activeOn product row
  | .cart _, _ => 0

def account (ids : Finset Id) (base₀ : ∀ k, Row k) (stocked : Stocked ids base₀) (product : Id) : Account RowKey Row where
  sane := sane base₀
  weight := weight product
  keys := insert (.product product) (ids.image .reservation)
  outside k v absent sane := by
    cases k with
    | product id =>
      have other : id ≠ product := by
        rintro rfl
        simp at absent
      simp [weight, other]
    | reservation id =>
      have unlisted : id ∉ ids := by
        intro listed
        simp [listed] at absent
      rcases Option.eq_none_or_eq_some (base₀ (.reservation id) : Option InventoryReservation) with none | ⟨r, row⟩
      · rcases sane with same | ⟨res, _, row, _⟩
        · simp [weight, activeOn, same, none]
        · rw [none] at row
          cases row
      · exact absurd (stocked.listed id r row).2 unlisted
    | cart id => rfl

variable {ids : Finset Id} {base₀ : ∀ k, Row k} {stocked : Stocked ids base₀} {product : Id} {may : ∀ k, Row k → Bool}
  {t : Settlement} {scope : Scope} {work : Work RowKey Row} {next : GivingProgram}

theorem sane_active {id : Id} {row : Option InventoryReservation} (sane : sane base₀ (.reservation id) row)
    (active : isActive row = true) : row = base₀ (.reservation id) := by
  rcases sane with same | ⟨res, status, _, left, rfl⟩
  · exact same
  · exact absurd (by simpa [isActive] using active) left

theorem sane_product {id : Id} {row : Option Product} (sane : sane base₀ (.product id) row) {p : Product}
    (known : base₀ (.product id) = some p) : ∃ q, row = some q ∧ q.tenant = p.tenant := by
  change Option.map _ row = Option.map _ (base₀ (.product id)) at sane
  rw [known] at sane
  obtain ⟨q, rfl, same⟩ := Option.map_eq_some_iff.mp sane
  have tenant := congrArg Product.tenant same
  exact ⟨q, rfl, tenant⟩

theorem settleRow_balances {res : InventoryReservation} (listed : base₀ (.reservation res.id) = some res)
    (active : res.status = .active) (shown : scope.sees res.tenant = true) (given : t.reserved = -1)
    (leaves : t.becomes ≠ .active)
    (finds : ∀ row : Option InventoryReservation, Program.Seen (account ids base₀ stocked product) work (.reservation res.id) row →
      may (.reservation res.id) row = true → isActive row = true)
    (rest : ∀ (p : Option Product) (r : Option InventoryReservation), next.Balances (account ids base₀ stocked product) may
      (Function.update (Function.update work (.product res.product) (some p)) (.reservation res.id) (some r)) 0) :
    (settleRow t scope res next).Balances (account ids base₀ stocked product) may work 0 := by
  intro row seen
  obtain ⟨p, known, owned⟩ := stocked.housed res.id res listed
  obtain ⟨q, rfl, same⟩ := sane_product seen.1 known
  have visible : scope.sees q.tenant = true := by rw [same, owned, shown]
  refine ⟨fun unseen => ?_, fun _ _ row' counted => ?_⟩
  · simp [visible] at unseen
  have after : row' = some (Storefront.counted t res.quantity q) := by
    simp only [countedRow] at counted
    split at counted
    · exact (Except.ok.inj counted).symm
    · cases counted
  subst after
  refine ⟨seen.1, fun saved seenSaved => ?_⟩
  have seenBefore : Program.Seen (account ids base₀ stocked product) work (.reservation res.id) saved :=
    ⟨seenSaved.1, fun own copied => seenSaved.2 own (by simpa using copied)⟩
  refine ⟨fun gone => ?_, fun _ allowed saved' set => ?_⟩
  · rcases seenSaved.1 with whole | ⟨_, _, _, _, rfl⟩
    · rw [whole, listed] at gone
      cases gone
    · cases gone
  · have held : saved = some res := (sane_active seenSaved.1 (finds saved seenBefore allowed)).trans listed
    subst held
    obtain rfl : some { res with status := t.becomes } = saved' := Except.ok.inj set
    refine ⟨.inr ⟨res, t.becomes, listed, leaves, rfl⟩, ?_⟩
    have even : (0 : Int) + ((account ids base₀ stocked product).weight (.product res.product)
        (some (Storefront.counted t res.quantity q)) -
          (account ids base₀ stocked product).weight (.product res.product) (some q)) +
        ((account ids base₀ stocked product).weight (.reservation res.id) (some { res with status := t.becomes }) -
          (account ids base₀ stocked product).weight (.reservation res.id) (some res)) = 0 := by
      by_cases here : res.product = product <;>
        simp [account, weight, activeOn, reservedOf, Storefront.counted, given, leaves, active, here]
    rw [even]
    exact rest _ _

theorem settleEach_balances {tenant : Id} (expects : t.expects = .active) (given : t.reserved = -1)
    (leaves : t.becomes ≠ .active)
    (finds : ∀ id (row : Option InventoryReservation), may (.reservation id) row = true → isActive row = true) (l : List Id)
    (work : Work RowKey Row) : (settleEach t tenant l).Balances (account ids base₀ stocked product) may work 0 := by
  induction l generalizing work with
  | nil => rfl
  | cons id rest ih =>
    intro row seen
    beta_reduce
    rcases Option.eq_none_or_eq_some (Option.filter (fun r : InventoryReservation => r.tenant == tenant) row) with
      hidden | ⟨res, shown⟩
    · rw [hidden]
      trivial
    · rw [shown]
      obtain ⟨rfl, owned⟩ := Option.filter_eq_some_iff.mp shown
      by_cases active : res.status = t.expects
      · rw [settleRefreshed, if_pos active]
        rw [expects] at active
        have listed := (sane_active seen.1 (by simp [isActive, active])).symm
        obtain ⟨rfl, _⟩ := stocked.listed id res listed
        exact settleRow_balances listed active owned given leaves (fun row _ allowed => finds res.id row allowed)
          fun _ _ => ih _
      · rw [settleRefreshed, if_neg active]
        exact ih work

structure Locked (base₀ : ∀ k, Row k) (work : Work RowKey Row) (found : List InventoryReservation) : Prop where
  copies : ∀ res ∈ found, work (.reservation res.id) = some (some res) ∧ res.status = .active ∧
    base₀ (.reservation res.id) = some res
  distinct : (found.map InventoryReservation.id).Nodup

theorem releaseEach_balances {refuses : Id → Bool} (found : List InventoryReservation) (work : Work RowKey Row)
    (locked : Locked base₀ work found) :
    (Sweep.releaseEach refuses found).Balances (account ids base₀ stocked product) may work 0 := by
  induction found generalizing work with
  | nil => rfl
  | cons res rest ih =>
    obtain ⟨own, active, listed⟩ := locked.copies res (by simp)
    obtain ⟨fresh, distinct⟩ := List.nodup_cons.mp locked.distinct
    refine settleRow_balances listed active rfl rfl (by decide) (fun row seen _ => ?_) fun p r => ?_
    · rw [seen.2 (some res) own]
      simp [isActive, active]
    · have later (work' : Work RowKey Row) (same : ∀ id, id ≠ res.id → work' (.reservation id) = work (.reservation id)) :
          Locked base₀ work' rest := by
        refine ⟨fun other inside => ?_, distinct⟩
        have apart : other.id ≠ res.id := fun same => fresh (List.mem_map.mpr ⟨other, inside, same⟩)
        obtain ⟨own, known⟩ := locked.copies other (by simp [inside])
        exact ⟨(same other.id apart).trans own, known⟩
      intro row seen
      refine ⟨fun _ => ih _ (later _ fun id apart => by simp [apart]), fun _ _ row' _ => ⟨trivial, ?_⟩⟩
      have even : (0 : Int) + ((account ids base₀ stocked product).weight (.cart res.cart) row' -
          (account ids base₀ stocked product).weight (.cart res.cart) row) = 0 := rfl
      rw [even]
      exact ih _ (later _ fun id apart => by simp [apart])

theorem lockExpired_balances {now : Time} {refuses : Id → Bool} (scan : List Id) (distinct : scan.Nodup)
    (found : List InventoryReservation) (work : Work RowKey Row) (locked : Locked base₀ work found)
    (new : ∀ res ∈ found, res.id ∉ scan) :
    (Sweep.lockExpired now (Sweep.releaseEach refuses) scan found).Balances (account ids base₀ stocked product) may work 0 := by
  induction scan generalizing found work with
  | nil => exact releaseEach_balances found work locked
  | cons id rest ih =>
    obtain ⟨fresh, tail⟩ := List.nodup_cons.mp distinct
    have others (res : InventoryReservation) (inside : res ∈ found) : res.id ∉ rest :=
      fun later => new res inside (List.mem_cons_of_mem _ later)
    unfold Sweep.lockExpired
    split
    · exact releaseEach_balances found work locked
    · refine ⟨?_, fun row seen wanted => ?_⟩
      · simpa using ih tail found work locked others
      · rcases Option.eq_none_or_eq_some row with rfl | ⟨res, rfl⟩
        · cases wanted
        · have active : res.status = .active := by
            simp only [Sweep.wants, Option.any_some, Bool.and_eq_true, beq_iff_eq] at wanted
            exact wanted.1
          have listed := (sane_active seen.1 (by simp [isActive, active])).symm
          obtain ⟨rfl, _⟩ := stocked.listed id res listed
          refine ih tail (found ++ [res]) _ ⟨fun other inside => ?_, ?_⟩ fun other inside => ?_
          · rcases List.mem_append.mp inside with old | same
            · have apart : other.id ≠ res.id := fun same => new other old (by simp [same])
              obtain ⟨own, known⟩ := locked.copies other old
              exact ⟨by simpa [apart] using own, known⟩
            · obtain rfl := List.mem_singleton.mp same
              exact ⟨by simp, active, listed⟩
          · rw [List.map_append, List.nodup_append]
            refine ⟨locked.distinct, by simp, ?_⟩
            intro other inside last member same
            obtain rfl : last = res.id := by simpa using member
            subst same
            obtain ⟨earlier, old, equal⟩ := List.mem_map.mp inside
            exact new earlier old (by simp [equal])
          · rcases List.mem_append.mp inside with old | same
            · exact others other old
            · obtain rfl := List.mem_singleton.mp same
              exact fresh

-- The rows of the tables these transactions touch.
def rowsOf (db : Db) : ∀ k, Row k
  | .product id => db.products.get id
  | .reservation id => db.reservations.get id
  | .cart id => db.carts.get id

theorem countedRow_update {db : Db} {t : Settlement} {scope : Scope} {quantity : Int} {id : Id} {products : Table Product}
    (updated : db.products.update (fun p => scope.sees p.tenant && p.id == id) (counted t quantity) = some products) :
    ((db.products.get id).any (fun p => scope.sees p.tenant) = false → products.get = db.products.get) ∧
    ((db.products.get id).any (fun p => scope.sees p.tenant) = true → ∃ row,
      countedRow t quantity (db.products.get id) = .ok row ∧ products.get = Function.update db.products.get id row) := by
  have image := Table.get_updated_key (k := id) (Table.update_rows updated) (fun _ => rfl)
    fun p picked => beq_iff_eq.mp (Bool.and_eq_true_iff.mp picked).2
  rcases Option.eq_none_or_eq_some (db.products.get id) with none | ⟨p, row⟩
  · simp [image, none]
  · have key : p.id = id := (Table.mem_of_get row).2
    rw [row] at image ⊢
    constructor
    · intro hidden
      have unseen : scope.sees p.tenant = false := by simpa using hidden
      have untouched : products.get = Function.update db.products.get id (some p) := by
        simpa [Table.updated, unseen] using image
      rw [untouched, ← row, Function.update_eq_self]
    · intro shown
      have seen : scope.sees p.tenant = true := by simpa using shown
      have written : products.get = Function.update db.products.get id (some (counted t quantity p)) := by
        simpa [Table.updated, seen, key] using image
      have saved : products.get id = some (counted t quantity p) := by rw [written, Function.update_self]
      have checked := products.checked _ (Table.mem_of_get saved).1
      exact ⟨_, by rw [countedRow, if_pos checked], written⟩

theorem countedRow_refused {db : Db} {t : Settlement} {scope : Scope} {quantity : Int} {id : Id}
    (refused : db.products.update (fun p => scope.sees p.tenant && p.id == id) (counted t quantity) = none) :
    (db.products.get id).any (fun p => scope.sees p.tenant) = true ∧
      countedRow t quantity (db.products.get id) = .error .integrityError := by
  obtain ⟨p, member, picked, fails⟩ := Table.update_refused refused fun _ _ _ => rfl
  simp only [Bool.and_eq_true, beq_iff_eq] at picked
  obtain ⟨seen, rfl⟩ := picked
  have row : db.products.get p.id = some p := Table.get_of_mem member
  exact ⟨by simp [row, seen], by rw [row, countedRow, if_neg (by simp [fails])]⟩

theorem saveReservationStatus_get (db : Db) (id : Id) (status : ReservationStatus) :
    (db.saveReservationStatus id status).reservations.get =
      Function.update db.reservations.get id ((db.reservations.get id).map fun r => { r with status }) := by
  simp only [Db.saveReservationStatus, Db.modifyReservations]
  rw [Table.get_updated_key (k := id) (Table.modify_rows db.reservations _ _ _) (by exact fun _ => rfl)
    (by exact fun r picked => beq_iff_eq.mp picked)]
  rcases Option.eq_none_or_eq_some (db.reservations.get id) with none | ⟨r, row⟩
  · simp [none]
  · have key : r.id = id := (Table.mem_of_get row).2
    simp [row, Table.updated, key]

theorem rowsOf_products {db : Db} {products : Table Product} (same : db.products.get = products.get) :
    rowsOf db = rowsOf { db with products } := by
  funext k
  cases k with
  | product id => exact congrFun same id
  | reservation id | cart id => rfl

theorem saveRow_alone {next : GivingProgram} {base : ∀ k, Row k} {work : Work RowKey Row} {rows : List Empty} {db : Db}
    {id : Id} (status : ReservationStatus) (seen : overlay work base = rowsOf db)
    (present : (db.reservations.get id).isSome = true) :
    ∃ after, overlay after base = rowsOf (db.saveReservationStatus id status) ∧
      (Program.update (.reservation id) (fun row : Option InventoryReservation => row.isSome)
        (fun row : Option InventoryReservation => .ok (row.map fun r => { r with status })) next : GivingProgram).alone
          base work rows = next.alone base after rows := by
  refine ⟨Function.update work (.reservation id) (some ((db.reservations.get id).map fun r => { r with status })), ?_, ?_⟩
  · rw [overlay_update, seen]
    funext k
    cases k with
    | product id => simp [rowsOf, Db.saveReservationStatus, Db.modifyReservations]
    | reservation j =>
      by_cases here : j = id
      · subst here
        simp [rowsOf, saveReservationStatus_get]
      · simp [rowsOf, saveReservationStatus_get, here]
    | cart id => simp [rowsOf, Db.saveReservationStatus, Db.modifyReservations]
  · rw [Program.alone, seen]
    exact if_pos present

theorem settle_alone {t : Settlement} {scope : Scope} {next : GivingProgram} {base : ∀ k, Row k} {work : Work RowKey Row}
    {rows : List Empty} {db : Db} {res : InventoryReservation} (seen : overlay work base = rowsOf db)
    (present : (db.reservations.get res.id).isSome = true) :
    (∀ db', settle t scope db res = .ok db' → ∃ after, overlay after base = rowsOf db' ∧
      (settleRow t scope res next).alone base work rows = next.alone base after rows) ∧
    (∀ e, settle t scope db res = .error e → (settleRow t scope res next).alone base work rows = .error e) := by
  constructor
  · intro db' done
    obtain ⟨products, updated, rfl⟩ := settle_eq_ok.mp done
    obtain ⟨hidden, shown⟩ := countedRow_update updated
    cases visible : (db.products.get res.product).any (fun p => scope.sees p.tenant) with
    | false =>
      have kept : overlay work base = rowsOf { db with products } := by
        rw [seen]
        exact rowsOf_products (hidden visible).symm
      obtain ⟨after, shows, runs⟩ := @saveRow_alone next _ _ rows _ _ t.becomes kept present
      refine ⟨after, shows, ?_⟩
      rw [settleRow, Program.alone, seen]
      refine (if_neg fun shown => ?_).trans runs
      have clash : (db.products.get res.product).any (fun p => scope.sees p.tenant) = true := shown
      rw [visible] at clash
      cases clash
    | true =>
      obtain ⟨row, counts, got⟩ := shown visible
      have kept : overlay (Function.update work (.product res.product) (some row)) base = rowsOf { db with products } := by
        rw [overlay_update, seen]
        funext k
        cases k with
        | product id =>
          by_cases here : id = res.product
          · subst here
            simp [rowsOf, got]
          · simp [rowsOf, got, here]
        | reservation id => simp [rowsOf]
        | cart id => simp [rowsOf]
      obtain ⟨after, shows, runs⟩ := @saveRow_alone next _ _ rows _ _ t.becomes kept present
      refine ⟨after, shows, ?_⟩
      rw [settleRow, Program.alone, seen]
      refine (if_pos visible).trans ?_
      rw [show countedRow t res.quantity (rowsOf db (.product res.product)) = .ok row from counts]
      exact runs
  · intro e raised
    simp only [settle, bind_eq_error] at raised
    rcases raised with refused | ⟨_, _, ended⟩
    · have failed : db.products.update (fun p => scope.sees p.tenant && p.id == res.product)
          (counted t res.quantity) = none := by
        rcases Option.eq_none_or_eq_some (db.products.update (fun p => scope.sees p.tenant && p.id == res.product)
          (counted t res.quantity)) with none | ⟨products, updated⟩
        · exact none
        · rw [Db.updateProducts, updated] at refused
          cases refused
      obtain ⟨visible, raises⟩ := countedRow_refused failed
      rw [stored_eq_error refused, settleRow, Program.alone, seen]
      refine (if_pos visible).trans ?_
      rw [show countedRow t res.quantity (rowsOf db (.product res.product)) = _ from raises]
    · cases ended

theorem settleEach_alone {t : Settlement} {tenant : Id} {base : ∀ k, Row k} {l : List Id} {work : Work RowKey Row}
    {rows : List Empty} {db : Db} (seen : overlay work base = rowsOf db) :
    (∀ db', settleReservations t tenant l db = .ok db' → ∃ after, overlay after base = rowsOf db' ∧
      (settleEach t tenant l).alone base work rows = .ok (after, rows)) ∧
    (∀ e, settleReservations t tenant l db = .error e → (settleEach t tenant l).alone base work rows = .error e) := by
  induction l generalizing db work with
  | nil =>
    refine ⟨fun db' done => ?_, fun e raised => by cases raised⟩
    obtain rfl : db = db' := by simpa [settleReservations] using done
    exact ⟨work, seen, rfl⟩
  | cons id rest ih =>
    have found := db.reservations.find_key (fun r => r.tenant == tenant) id
    have read : (settleEach t tenant (id :: rest)).alone base work rows =
        (settleRefreshed t tenant (settleEach t tenant rest)
          ((db.reservations.get id).filter fun r => r.tenant == tenant)).alone base work rows := by
      rw [settleEach, Program.alone, seen]
      rfl
    have model : settleReservation t tenant db id =
        (orRaise (.doesNotExist "InventoryReservation") ((db.reservations.get id).filter fun r => r.tenant == tenant) >>=
          fun res => if res.status ≠ t.expects then pure db else settle t (some tenant) db res) := by
      rw [← found]
      rfl
    simp only [settleReservations, List.foldlM_cons, read, model]
    rcases Option.eq_none_or_eq_some ((db.reservations.get id).filter fun r => r.tenant == tenant) with
      hidden | ⟨res, shown⟩
    · rw [hidden]
      refine ⟨fun db' done => ?_, fun e raised => ?_⟩
      · cases done
      · cases raised
        rfl
    · rw [shown]
      obtain ⟨row, _⟩ := Option.filter_eq_some_iff.mp shown
      have key : res.id = id := (Table.mem_of_get row).2
      by_cases active : res.status = t.expects
      · obtain ⟨settles, raises⟩ := @settle_alone t (some tenant) (settleEach t tenant rest) base work rows db res seen
          (by rw [key, row]; rfl)
        simp only [orRaise, bind, Except.bind, active, ne_eq, not_true_eq_false, if_false, settleRefreshed, if_true]
        cases step : settle t (some tenant) db res with
        | error e =>
          refine ⟨fun db' done => ?_, fun e' raised => ?_⟩
          · cases done
          · cases raised
            exact raises e step
        | ok mid =>
          obtain ⟨middle, shows, runs⟩ := settles mid step
          rw [runs]
          exact ih shows
      · simp only [orRaise, bind, Except.bind, active, ne_eq, not_false_eq_true, if_true, settleRefreshed, if_false]
        exact ih seen

theorem revert_update {db : Db} {id : Id} {carts : Table Cart}
    (updated : db.carts.update (fun c => c.id == id && c.status == .checkingOut) (fun c => { c with status := .active }) =
      some carts) :
    carts.get = if (db.carts.get id).any (fun c => c.status == .checkingOut) then
      Function.update db.carts.get id ((db.carts.get id).map fun c => { c with status := .active }) else db.carts.get := by
  rw [Table.get_updated_key (k := id) (Table.update_rows updated) (fun _ => rfl)
    fun c picked => beq_iff_eq.mp (Bool.and_eq_true_iff.mp picked).1]
  rcases Option.eq_none_or_eq_some (db.carts.get id) with none | ⟨c, row⟩
  · simp [none]
  · have key : c.id = id := (Table.mem_of_get row).2
    by_cases running : c.status = .checkingOut
    · simp [row, Table.updated, key, running]
    · have untouched : Function.update db.carts.get id (some c) = db.carts.get := by rw [← row, Function.update_eq_self]
      simp [row, Table.updated, running, untouched]

theorem releaseEach_alone {base : ∀ k, Row k} {found : List InventoryReservation} {work : Work RowKey Row}
    {rows : List Empty} {db db' : Db} (seen : overlay work base = rowsOf db)
    (present : ∀ res ∈ found, (db.reservations.get res.id).isSome = true)
    (done : found.foldlM releaseExpiredOne db = .ok db') : ∃ after, overlay after base = rowsOf db' ∧
      (Sweep.releaseEach (fun _ => false) found).alone base work rows = .ok (after, rows) := by
  induction found generalizing db work with
  | nil =>
    obtain rfl : db = db' := by simpa using done
    exact ⟨work, seen, rfl⟩
  | cons res rest ih =>
    obtain ⟨last, first, tail⟩ := foldlM_cons_eq_ok.mp done
    simp only [releaseExpiredOne, bind_eq_ok, Db.updateCarts, stored_eq_ok] at first
    obtain ⟨mid, settled, carts, reverted, rfl⟩ := first
    obtain ⟨middle, shows, runs⟩ := (@settle_alone .release none (.update (.cart res.cart)
      (fun row : Option Cart => row.any fun c => c.status == .checkingOut) (Sweep.revert false)
      (Sweep.releaseEach (fun _ => false) rest)) base work rows db res seen (present res (by simp))).1 mid settled
    have remain : ∀ other ∈ rest, (({ mid with carts } : Db).reservations.get other.id).isSome = true := by
      intro other inside
      obtain ⟨_, _, rfl⟩ := settle_eq_ok.mp settled
      change (({ db with products := _ } : Db).saveReservationStatus res.id _).reservations.get other.id |>.isSome
      have before := present other (by simp [inside])
      rw [saveReservationStatus_get]
      by_cases here : other.id = res.id
      · rw [here] at before ⊢
        simpa using before
      · simpa [here] using before
    have cart := revert_update reverted
    change ∃ after, _ ∧ (settleRow .release none res _).alone base work rows = _
    by_cases running : (mid.carts.get res.cart).any (fun c => c.status == .checkingOut) = true
    · rw [if_pos running] at cart
      obtain ⟨after, ends, later⟩ := @ih (Function.update middle (.cart res.cart)
        (some ((mid.carts.get res.cart).map fun c => { c with status := .active }))) { mid with carts } (by
          rw [overlay_update, shows]
          funext k
          cases k with
          | product id | reservation id => simp [rowsOf]
          | cart id =>
            by_cases here : id = res.cart
            · subst here
              simp [rowsOf, cart]
            · simp [rowsOf, cart, here]) remain tail
      refine ⟨after, ends, runs.trans ?_⟩
      rw [Program.alone, shows]
      exact (if_pos running).trans later
    · rw [if_neg running] at cart
      obtain ⟨after, ends, later⟩ := @ih middle { mid with carts } (by
        rw [shows]
        funext k
        cases k with
        | product id | reservation id => rfl
        | cart id => exact (congrFun cart id).symm) remain tail
      refine ⟨after, ends, runs.trans ?_⟩
      rw [Program.alone, shows]
      exact (if_neg running).trans later

theorem lockExpired_alone {now : Time} {next : List InventoryReservation → GivingProgram} {base : ∀ k, Row k} {db : Db}
    {l : List InventoryReservation} (found : List InventoryReservation) {work : Work RowKey Row} {rows : List Empty}
    (seen : overlay work base = rowsOf db) (room : found.length ≤ 100)
    (due : ∀ res ∈ l, db.reservations.get res.id = some res ∧ Sweep.wants now (some res) = true) :
    ∃ locked, overlay locked base = rowsOf db ∧
      (Sweep.lockExpired now next (l.map InventoryReservation.id) found).alone base work rows =
        (next (found ++ l.take (100 - found.length))).alone base locked rows := by
  induction l generalizing found work with
  | nil => exact ⟨work, seen, by simp [Sweep.lockExpired]⟩
  | cons res rest ih =>
    rw [List.map_cons, Sweep.lockExpired]
    by_cases full : found.length = 100
    · exact ⟨work, seen, by simp [full]⟩
    · obtain ⟨row, wanted⟩ := due res (by simp)
      have copied := overlay_update work base (.reservation res.id) (overlay work base (.reservation res.id))
      rw [Function.update_eq_self, seen] at copied
      obtain ⟨locked, shows, runs⟩ := ih (found ++ [res]) copied (by simp; omega)
        fun other inside => due other (by simp [inside])
      refine ⟨locked, shows, ?_⟩
      rw [if_neg full, Program.alone, seen]
      have here : rowsOf db (.reservation res.id) = some res := row
      refine (if_pos (here ▸ wanted)).trans ?_
      have taken : found ++ (res :: rest).take (100 - found.length) = found ++ [res] ++ rest.take (100 - (found ++ [res]).length) := by
        have more : 100 - found.length = 100 - (found.length + 1) + 1 := by omega
        rw [more, List.take_succ_cons]
        simp
      rw [taken, ← runs, here]
      rfl

/-- A batch, alone, releases what the batch of the model does. -/
theorem releaseExpiredBatch_alone {scan : Scan} {now : Time} {db db' : Db}
    (done : releaseExpiredBatch scan now db = .ok db') : ∃ batch : Sweep, ∃ after, overlay after (rowsOf db) = rowsOf db' ∧
      batch.program.alone (rowsOf db) (fun _ => none) [] = .ok (after, []) := by
  have due : ∀ res ∈ scan.order (expired now db), db.reservations.get res.id = some res ∧
      Sweep.wants now (some res) = true := by
    intro res inside
    obtain ⟨member, late⟩ := List.mem_filter.mp ((scan.perm _).mem_iff.mp inside)
    exact ⟨Table.get_of_mem member, late⟩
  have distinct : ((scan.order (expired now db)).map InventoryReservation.id).Nodup := by
    rw [((scan.perm (expired now db)).map _).nodup_iff]
    exact db.reservations.keys_nodup.sublist (List.filter_sublist.map _)
  obtain ⟨locked, seen, runs⟩ := @lockExpired_alone now (Sweep.releaseEach fun _ => false) (rowsOf db) db
    (scan.order (expired now db)) [] (fun _ => none) [] rfl (by simp) due
  obtain ⟨after, shows, ends⟩ := @releaseEach_alone _ _ _ [] _ _ seen
    (fun res inside => by rw [(due res (List.mem_of_mem_take inside)).1]; rfl) done
  refine ⟨{ now, scan := (scan.order (expired now db)).map InventoryReservation.id, refuses := fun _ => false, distinct },
    after, shows, runs.trans ?_⟩
  simpa using ends

-- A helper expects the row it saves to be ACTIVE still.
def mayUpdate : Giving → ∀ k, Row k → Bool
  | .sweep _, _, _ => true
  | _, .reservation _, (row : Option InventoryReservation) => isActive row
  | _, _, _ => true

theorem program_balances (call : Giving) :
    call.program.Balances (account ids base₀ stocked product) call.mayUpdate (fun _ => none) 0 := by
  cases call with
  | release tenant reservations => exact settleEach_balances rfl rfl (by decide) (fun _ _ active => active) _ _
  | commit tenant reservations => exact settleEach_balances rfl rfl (by decide) (fun _ _ active => active) _ _
  | sweep batch =>
    exact lockExpired_balances batch.scan batch.distinct [] _ ⟨by simp, by simp⟩ (by simp)

end Giving

section Race

abbrev GivingRace (τ : Type) := Sessions τ RowKey Row Empty Exn

variable {τ : Type} [DecidableEq τ] (calls : τ → Giving)

def giving : Machine (GivingRace τ) (Action τ) := Sessions.machine fun t => (calls t).program

/-- No helper saves a reservation that stopped to be ACTIVE since the helper read it. -/
def Undisturbed (move : Move (GivingRace τ) (Action τ)) : Prop :=
  move.before.finds (fun t => (calls t).mayUpdate) move.label = true

-- What a reservation that is not ACTIVE any more held of a product.
def leftOn (product : Id) (row₀ row : Option InventoryReservation) : Int :=
  if isActive row₀ = true ∧ isActive row = false then activeOn product row₀ else 0

/-- ACTIVE is left for good, and a product's counter has lost the quantity of each
reservation that left it, once. -/
structure GivenBackOnce (ids : Finset Id) (base₀ base : ∀ k, Row k) : Prop where
  left : ∀ id, isActive (base (.reservation id)) = true → base (.reservation id) = base₀ (.reservation id)
  subtracted : ∀ product, reservedOf (base (.product product)) = reservedOf (base₀ (.product product)) -
    ∑ id ∈ ids, leftOn product (base₀ (.reservation id)) (base (.reservation id))
  exact : (∀ product, reservedOf (base₀ (.product product)) = ∑ id ∈ ids, activeOn product (base₀ (.reservation id))) →
    ∀ product, reservedOf (base (.product product)) = ∑ id ∈ ids, activeOn product (base (.reservation id))

variable {calls}

theorem activeOn_eq_zero {product : Id} {row : Option InventoryReservation} (passive : isActive row = false) :
    activeOn product row = 0 := by
  cases row with
  | none => rfl
  | some r =>
    have other : r.status ≠ .active := by simpa [isActive] using passive
    simp [activeOn, other]

theorem total_eq {ids : Finset Id} {base₀ : ∀ k, Row k} (stocked : Stocked ids base₀) {product : Id} (base : ∀ k, Row k) :
    (Giving.account ids base₀ stocked product).total base =
      reservedOf (base (.product product)) - ∑ id ∈ ids, activeOn product (base (.reservation id)) := by
  have apart : RowKey.product product ∉ ids.image RowKey.reservation := by simp
  have injective : Set.InjOn RowKey.reservation ids := fun a _ b _ same => by simpa using same
  simp only [Account.total, Giving.account, Finset.sum_insert apart, Finset.sum_image injective]
  simp [Giving.weight, sub_eq_add_neg]

/-- Any interleaving of helpers and sweeps gives each reservation back once, unless it
disturbs a helper. -/
theorem given_back_once {ids : Finset Id} {s₀ s : GivingRace τ} {moves : List (Move (GivingRace τ) (Action τ))}
    (stocked : Stocked ids s₀.base) (run : (giving calls).Run s₀ moves s)
    (undisturbed : ∀ move ∈ moves, Undisturbed calls move) : GivenBackOnce ids s₀.base s.base := by
  have account (product : Id) := @Sessions.accounts τ RowKey Row Empty Exn
    (Giving.account ids s₀.base stocked product) _ _ (fun t => (calls t).mayUpdate) s (fun t => (calls t).program) s₀ moves
    (fun k => by
      cases k with
      | product => rfl
      | reservation => exact .inl rfl
      | cart => trivial)
    (fun t => (calls t).program_balances) run undisturbed
  have left (id : Id) := Giving.sane_active ((account id).1.sane (.reservation id))
  have even (product : Id) : reservedOf (s.base (.product product)) - ∑ id ∈ ids, activeOn product (s.base (.reservation id)) =
      reservedOf (s₀.base (.product product)) - ∑ id ∈ ids, activeOn product (s₀.base (.reservation id)) := by
    rw [← total_eq stocked, ← total_eq stocked]
    exact (account product).2
  refine ⟨left, fun product => ?_, fun exact product => ?_⟩
  · have split (id : Id) : leftOn product (s₀.base (.reservation id)) (s.base (.reservation id)) =
        activeOn product (s₀.base (.reservation id)) - activeOn product (s.base (.reservation id)) := by
      cases now : isActive (s.base (.reservation id)) with
      | true => simp [leftOn, left id now]
      | false =>
        rw [activeOn_eq_zero now]
        cases before : isActive (s₀.base (.reservation id)) with
        | true => simp [leftOn, now, before]
        | false => simp [leftOn, before, activeOn_eq_zero before]
    simp only [split, Finset.sum_sub_distrib]
    have := even product
    omega
  · have := even product
    have := exact product
    omega

end Race

namespace Sample

def hold (id : Id) : InventoryReservation :=
  { id, tenant := 1, cart := 40, order := none, product := 30, quantity := 2, expires_at := 900, status := .active }

-- A cart whose two holds have expired while its checkout still runs.
def overdueRows : ∀ k, Row k
  | .product id => if id = 30 then some { product with reserved_quantity := 4 } else none
  | .reservation id => if id = 70 ∨ id = 71 then some (hold id) else none
  | .cart id => if id = 40 then some { cart with status := .checkingOut } else none

-- The sweep gives the first hold back, and so does the checkout.
def giver (checkout : Bool) : Giving :=
  if checkout then .release 1 [70]
  else .sweep { now := 1000, scan := [70], refuses := fun _ => false, distinct := by decide }

def overdue : GivingRace Bool where
  base := overdueRows
  table := []
  owner _ := none
  session checkout := .start (giver checkout).program
  ended _ := none
  log := []

theorem overdue_initial : (giving giver).Start overdue := ⟨fun _ => rfl, fun _ => rfl, fun _ => rfl, rfl⟩

theorem overdue_stocked : Stocked {70, 71} overdue.base := by
  have rows (id : Id) (r : InventoryReservation) (row : overdue.base (.reservation id) = some r) :
      (id = 70 ∨ id = 71) ∧ r = hold id := by
    change (if id = 70 ∨ id = 71 then some (hold id) else none) = some r at row
    split at row
    next known => exact ⟨known, (Option.some.inj row).symm⟩
    · cases row
  refine ⟨fun id r row => ?_, fun id r row => ?_⟩
  · obtain ⟨known, rfl⟩ := rows id r row
    exact ⟨rfl, by simpa using known⟩
  · obtain ⟨_, rfl⟩ := rows id r row
    exact ⟨{ product with reserved_quantity := 4 }, rfl, rfl⟩

-- The checkout reads its hold just before the sweep locks it.
def crossing : List (Action Bool) :=
  [.run true, .run false, .run false, .run false, .run false, .run false, .run true, .run true, .run true]

def doubled : GivingRace Bool := ((giving giver).exec overdue crossing).get (by decide +kernel)

-- The checkout starts after the sweep.
def queueing : List (Action Bool) :=
  [.run false, .run false, .run false, .run false, .run false, .run true, .run true]

def waited : GivingRace Bool := ((giving giver).exec overdue queueing).get (by decide +kernel)

end Sample

theorem given_back_once_waited : ∃ moves, (giving Sample.giver).Run Sample.overdue moves Sample.waited ∧
    (∀ checkout, Sample.waited.ended checkout = some .committed) ∧
    GivenBackOnce {70, 71} Sample.overdue.base Sample.waited.base := by
  have ends : (giving Sample.giver).exec Sample.overdue Sample.queueing = some Sample.waited :=
    (Option.some_get _).symm
  obtain ⟨moves, run, passed⟩ := @Machine.exec_passes _ _ (giving Sample.giver)
    (fun s a => s.finds (fun t => (Sample.giver t).mayUpdate) a) _ _ _ Sample.overdue_initial ends (by decide +kernel)
  exact ⟨moves, run, by decide +kernel, given_back_once Sample.overdue_stocked run passed⟩

theorem hold_given_back_twice : ∃ moves, (giving Sample.giver).Run Sample.overdue moves Sample.doubled ∧
    (∀ checkout, Sample.doubled.ended checkout = some .committed) ∧
    ¬ GivenBackOnce {70, 71} Sample.overdue.base Sample.doubled.base := by
  have ends : (giving Sample.giver).exec Sample.overdue Sample.crossing = some Sample.doubled :=
    (Option.some_get _).symm
  obtain ⟨moves, run⟩ := Machine.exec_run Sample.overdue_initial ends
  refine ⟨moves, run, by decide +kernel, fun given => ?_⟩
  have twice := given.subtracted 30
  revert twice
  decide +kernel

end Storefront
