import Storefront.Catalog.Products
import Storefront.Locking.Deadlock
import Storefront.Orders.ReserveRace

set_option autoImplicit false

/-!
# Who waits for a product row

`_reserve_stock` locks its products in the order of their ids, and every later update
finds its row locked. A PATCH of the admin locks one product.
-/

namespace Storefront

open Relational Transition Locking

/-- The admin's PATCH of a product; `inUse` is what its read of the carts answers. -/
structure ProductPatch where
  tenant : Id
  product : Id
  data : ProductUpdate
  inUse : Bool

namespace ProductPatch

variable (request : ProductPatch)

-- What is checked under the lock.
def validate (p : Product) : Outcome Unit := do
  require (∀ code ∈ request.data.currency, isCurrencyCode code = true) (.validationError "currency" currencyMessage)
  require (∀ new_stock ∈ request.data.stock_quantity, p.reserved_quantity ≤ new_stock)
    (.validationError "stock_quantity"
      s!"Cannot set stock_quantity ({request.data.stock_quantity.getD 0}) below the currently reserved quantity ({p.reserved_quantity}).")
  require (∀ new_currency ∈ request.data.currency, new_currency ≠ p.currency → request.inUse = false)
    (.validationError "currency" "Cannot change currency while the product is in any active or in-flight cart.")

def save (data : ProductUpdate) : Option Product → Except Exn (Option Product)
  | none => .ok none
  | some p => if Schema.check (data.apply p) then .ok (some (data.apply p)) else .error .integrityError

-- What follows `select_for_update().get(id=...)`.
def patchLocked : Option Product → StockProgram
  | none => .raise (.resourceNotFound "Product not found")
  | some p => match request.validate p with
    | .ok _ => .update request.product (visible request.tenant) (save request.data) .commit
    | .error e => .raise e

-- AdminProductDetailView.patch
def program : StockProgram :=
  .select request.product (visible request.tenant) false fun row => request.patchLocked row.join

end ProductPatch

inductive StockCall
  | reserve (basket : Basket)
  | patch (request : ProductPatch)

def StockCall.program : StockCall → StockProgram
  | .reserve basket => basket.reserve
  | .patch request => request.program

def FiledUnder (id : Id) (row : Option Product) : Prop := ∀ p ∈ row, p.id = id

abbrev OrderlyProducts (may : Set Id → Id → Prop) (program : StockProgram) (held : Set Id) : Prop :=
  program.Orderly FiledUnder Set.univ may held

-- A row is needed only by those who have locked none after it.
def Ascending (rows : Set Id) (k : Id) : Prop := ∀ j ∈ rows, j < k

namespace Basket

variable {b : Basket}

theorem hold_filed {quantity : Int} {id : Id} {row row' : Option Product} (filed : FiledUnder id row)
    (held : hold quantity row = .ok row') : FiledUnder id row' := by
  cases row with
  | none =>
    cases held
    exact filed
  | some p =>
    simp only [hold] at held
    split at held
    · cases held
      intro p' same
      rw [← Option.some.inj same]
      exact filed p rfl
    · cases held

-- It needs one of its lines with some of the earlier ones locked.
def Needs (b : Basket) (rows : Set Id) (k : Id) : Prop :=
  ∃ locked, (locked ++ [k]).Sublist b.lines ∧ rows = {j | j ∈ locked}

theorem holdProducts_orderly {may : Set Id → Id → Prop} {next : StockProgram}
    (good : ∀ held, OrderlyProducts may next held) (entries : List (Product × Nat)) (held : Set Id)
    (locked : ∀ e ∈ entries, e.1.id ∈ held) : OrderlyProducts may (b.holdProducts next entries) held := by
  induction entries generalizing held with
  | nil => exact good held
  | cons entry rest ih =>
    have mine := locked entry List.mem_cons_self
    have others (e : Product × Nat) (inside : e ∈ rest) := locked e (List.mem_cons_of_mem _ inside)
    refine ⟨fun _ => .inl mine, fun _ _ => hold_filed, ih _ fun e inside => ?_, ih held others⟩
    exact Set.mem_insert_of_mem _ (others e inside)

theorem lockProducts_orderly {next : List Product → StockProgram}
    (good : ∀ products held, (∀ p ∈ products, p.id ∈ held) → OrderlyProducts b.Needs (next products) held)
    (ids locked : List Id) (ahead : (locked ++ ids).Sublist b.lines) (found : List Product)
    (mine : ∀ p ∈ found, p.id ∈ locked) : OrderlyProducts b.Needs (b.lockProducts ids next found) {j | j ∈ locked} := by
  induction ids generalizing found locked with
  | nil => exact good found _ mine
  | cons id rest ih =>
    have split : locked ++ id :: rest = (locked ++ [id]) ++ rest := by simp
    rw [split] at ahead
    refine ⟨fun _ _ => .inr ?_, fun row filed _ => ?_, ?_⟩
    · rw [Set.inter_univ]
      exact ⟨locked, (List.sublist_append_left _ _).trans ahead, rfl⟩
    · have grown : Insert.insert id {j | j ∈ locked} = {j | j ∈ locked ++ [id]} := by
        ext j
        simp [or_comm]
      rw [grown]
      refine ih (locked ++ [id]) ahead _ fun p inside => ?_
      rcases List.mem_append.mp inside with old | new
      · exact List.mem_append_left _ (mine p old)
      · rw [filed p (Option.mem_toList.mp new)]
        exact List.mem_append_right _ (List.mem_singleton_self id)
    · have later : (locked ++ rest).Sublist b.lines := by
        refine List.Sublist.trans ?_ ahead
        exact List.Sublist.append (List.sublist_append_left _ _) (List.Sublist.refl rest)
      refine ih locked later _ fun p inside => ?_
      simp only [Option.join_none, Option.toList_none, List.append_nil] at inside
      exact mine p inside

theorem reserve_orderly (b : Basket) : OrderlyProducts b.Needs b.reserve ∅ := by
  have nothing : (∅ : Set Id) = {j | j ∈ []} := by simp
  rw [nothing]
  refine lockProducts_orderly (fun products held locked => ?_) _ [] (List.Sublist.refl _) _ (by simp)
  split
  · have ends (held : Set Id) : OrderlyProducts b.Needs .commit held := trivial
    refine holdProducts_orderly ends _ _ fun e inside => ?_
    exact locked e.1 (List.fst_mem_of_mem_zipIdx inside)
  · trivial

theorem lines_ascending (b : Basket) : b.lines.Pairwise (· < ·) := by
  have sorted : b.lines.Pairwise (· ≤ ·) := List.pairwise_insertionSort _ _
  exact (sorted.and b.lines_nodup).imp fun both => lt_of_le_of_ne both.1 both.2

theorem Needs.ascending {rows : Set Id} {k : Id} (needs : b.Needs rows k) : Ascending rows k := by
  obtain ⟨locked, next, rfl⟩ := needs
  have sorted := b.lines_ascending.sublist next
  exact fun j mine => (List.pairwise_append.mp sorted).2.2 j mine k (List.mem_singleton_self k)

end Basket

namespace ProductPatch

theorem save_filed {data : ProductUpdate} {id : Id} {row row' : Option Product} (filed : FiledUnder id row)
    (saved : save data row = .ok row') : FiledUnder id row' := by
  cases row with
  | none =>
    cases saved
    exact filed
  | some p =>
    simp only [save] at saved
    split at saved
    · cases saved
      intro p' same
      rw [← Option.some.inj same]
      exact filed p rfl
    · cases saved

theorem program_orderly (request : ProductPatch) : OrderlyProducts Ascending request.program ∅ := by
  refine ⟨fun _ _ => .inr (by simp [Ascending]), fun row _ _ => ?_, trivial⟩
  change OrderlyProducts Ascending (request.patchLocked row) _
  cases row with
  | none => trivial
  | some p =>
    simp only [patchLocked]
    cases request.validate p with
    | ok _ => exact ⟨fun _ => .inl (Set.mem_insert _ _), fun _ _ => save_filed, trivial, trivial⟩
    | error e => trivial

theorem updateProducts_get {tenant id : Id} {data : ProductUpdate} {db db' : Db} {p : Product}
    (row : db.products.get id = some p) (owned : p.tenant = tenant)
    (done : db.updateProducts (fun row => row.tenant == tenant && row.id == id) data.apply = .ok db') :
    save data (some p) = .ok (some (data.apply p)) ∧
      db'.products.get = Function.update db.products.get id (some (data.apply p)) := by
  obtain ⟨products, updated, rfl⟩ := stored_eq_ok.mp done
  have named : p.id = id := (Table.mem_of_get row).2
  have image := Table.get_updated_key (k := id) (Table.update_rows updated) (fun _ => rfl)
    fun row picked => beq_iff_eq.mp (Bool.and_eq_true_iff.mp picked).2
  have written : products.get = Function.update db.products.get id (some (data.apply p)) := by
    rw [image, row]
    simp [Table.updated, owned, named]
  have saved : products.get id = some (data.apply p) := by rw [written, Function.update_self]
  exact ⟨if_pos (products.checked _ (Table.mem_of_get saved).1), written⟩

theorem updateProducts_refused {tenant id : Id} {data : ProductUpdate} {db : Db} {p : Product} {e : Exn}
    (row : db.products.get id = some p)
    (raised : db.updateProducts (fun row => row.tenant == tenant && row.id == id) data.apply = .error e) :
    save data (some p) = .error e := by
  obtain ⟨q, member, picked, fails⟩ := Table.update_refused (stored_refused raised) fun _ _ _ => rfl
  obtain rfl := stored_eq_error raised
  simp only [Bool.and_eq_true, beq_iff_eq] at picked
  obtain ⟨present, named⟩ := Table.mem_of_get row
  obtain rfl := db.products.eq_of_key member present (picked.2.trans named.symm)
  exact if_neg (by simp [fails])

theorem patchLocked_alone (request : ProductPatch) {base : ∀ id, ProductRow id} {p : Product}
    (row : base request.product = some p) (owned : p.tenant = request.tenant) :
    request.program.alone base (fun _ => none) [] = (do
      request.validate p
      let saved ← save request.data (some p)
      let locked := Function.update (fun _ => none) request.product (some (some p))
      return (Function.update locked request.product (some saved), [])) := by
  have shown : visible request.tenant (some p) = true := by simp [visible, found, Option.filter, owned]
  simp only [program, Program.alone, overlay, Option.getD_none, row]
  rw [if_pos shown, Option.join_some, patchLocked]
  cases request.validate p with
  | error e => rfl
  | ok _ =>
    simp only [Program.alone, overlay, Function.update_self, Option.getD_some]
    rw [if_pos shown]
    cases save request.data (some p) <;> rfl

/-- Alone, the program answers what the request of the model does. -/
theorem program_alone (request : ProductPatch) (db : Db)
    (reads : request.inUse = productInUse db request.tenant request.product) :
    (∀ db', patchProduct request.tenant request.product request.data db = .ok db' →
      ∃ work, request.program.alone db.products.get (fun _ => none) [] = .ok (work, []) ∧
        overlay work db.products.get = db'.products.get) ∧
    (∀ e, patchProduct request.tenant request.product request.data db = .error e →
      request.program.alone db.products.get (fun _ => none) [] = .error e) := by
  have patches : patchProduct request.tenant request.product request.data db =
      (do
        let p ← orRaise (.resourceNotFound "Product not found") (found request.tenant (db.products.get request.product))
        request.validate p
        db.updateProducts (fun row => row.tenant == request.tenant && row.id == request.product) request.data.apply) := by
    have finds := db.products.find_key (fun p => p.tenant == request.tenant) request.product
    simp only [patchProduct, validate, reads, found, ← finds, bind_assoc]
    rfl
  rw [patches]
  cases seen : found request.tenant (db.products.get request.product) with
  | none =>
    have unseen : visible request.tenant (db.products.get request.product) = false := by simp [visible, seen]
    have raises : request.program.alone db.products.get (fun _ => none) [] =
        .error (.resourceNotFound "Product not found") := by
      simp only [program, Program.alone, overlay, Option.getD_none, unseen]
      rfl
    rw [raises]
    constructor
    · intro db' done
      cases done
    · intro e raised
      cases raised
      rfl
  | some p =>
    obtain ⟨row, owned⟩ := Option.filter_eq_some_iff.mp seen
    have owned : p.tenant = request.tenant := by simpa using owned
    rw [patchLocked_alone request row owned]
    constructor
    · intro db' done
      simp only [bind_eq_ok, orRaise_eq_ok] at done
      obtain ⟨_, same, _, checked, updated⟩ := done
      cases same
      obtain ⟨saved, rows⟩ := updateProducts_get row owned updated
      rw [checked, saved]
      refine ⟨_, rfl, ?_⟩
      rw [rows, overlay_update, overlay_update, Function.update_idem]
      rfl
    · intro e raised
      rcases bind_eq_error.mp raised with missing | ⟨_, same, refused⟩
      · cases missing
      · cases same
        rcases bind_eq_error.mp refused with unchecked | ⟨_, checked, unsaved⟩
        · rw [unchecked]
          rfl
        · rw [checked, updateProducts_refused row unsaved]
          rfl

end ProductPatch

section Waits

abbrev StockWaits (τ : Type) := Sessions τ Id ProductRow InventoryReservation Exn

variable {τ : Type} [DecidableEq τ] {calls : τ → StockCall}

def shelving (calls : τ → StockCall) : Machine (StockWaits τ) (Action τ) :=
  Sessions.machine fun t => (calls t).program

/-- Reservations and PATCHes of products never wait for each other in a circle. -/
theorem products_never_deadlocked {s₀ s : StockWaits τ} {moves : List (Move (StockWaits τ) (Action τ))}
    (filed : ∀ id, FiledUnder id (s₀.base id)) (run : (shelving calls).Run s₀ moves s) : ¬ s.Deadlocked Set.univ := by
  have orderly (t : τ) : OrderlyProducts Ascending (calls t).program ∅ := by
    cases calls t with
    | reserve basket => exact basket.reserve_orderly.mono fun _ _ => Basket.Needs.ascending
    | patch request => exact request.program_orderly
  have free : ¬ Tangle fun _ : τ => Ascending :=
    not_tangle_of_before (fun k => lt_irrefl k) (fun i j k => lt_trans) fun _ _ _ above _ => above
  exact Sessions.never_deadlocked run filed orderly free

end Waits

namespace Sample

def cup : Product := { product with id := 31, sku := "CUP", name := "Cup" }

def cupItem : CartItem := { item with id := 42, product := 31 }

-- The lines of the second cart stand in the other order.
def pair (second : Bool) : Basket where
  tenant := 1
  now := 0
  draw n := if second then 80 + n else 70 + n
  view :=
    { cart, customer, items := if second then [cupItem, item] else [item, cupItem], products := [product, cup]
      coupons := [], shippingAddress := some address, billingAddress := some address
      paymentMethod := some card, positive := by cases second <;> decide +kernel
      distinct := by cases second <;> decide +kernel }

-- Two checkouts, and an admin who renames the cup.
def stockCall : Nat → StockCall
  | 0 => .reserve (pair false)
  | 1 => .reserve (pair true)
  | _ => .patch { tenant := 1, product := 31, data := { name := some "Large cup" }, inUse := true }

def shelves : StockWaits Nat where
  base id := if id = 30 then some product else if id = 31 then some cup else none
  table := []
  owner _ := none
  session t := .start (stockCall t).program
  ended _ := none
  log := []

-- The admin holds the cup, the first checkout the mug.
def shelved : StockWaits Nat := ((shelving stockCall).exec shelves [.run 2, .run 0]).get (by decide +kernel)

end Sample

theorem products_never_deadlocked_queued :
    ∃ moves, (shelving Sample.stockCall).Run Sample.shelves moves Sample.shelved ∧
      Sample.shelved.WaitsFor Set.univ 1 0 ∧ Sample.shelved.WaitsFor Set.univ 0 2 ∧
      ¬ Sample.shelved.Deadlocked Set.univ := by
  have initial : (shelving Sample.stockCall).Start Sample.shelves := ⟨fun _ => rfl, fun _ => rfl, fun _ => rfl, rfl⟩
  have ends : (shelving Sample.stockCall).exec Sample.shelves [.run 2, .run 0] = some Sample.shelved :=
    (Option.some_get _).symm
  have filed (id : Id) : FiledUnder id (Sample.shelves.base id) := by
    intro p row
    simp only [Sample.shelves] at row
    split at row
    next here =>
      rw [← Option.some.inj row, here]
      rfl
    · split at row
      next there =>
        rw [← Option.some.inj row, there]
        rfl
      · cases row
  obtain ⟨moves, run⟩ := Machine.exec_run initial ends
  refine ⟨moves, run, ?_, ?_, products_never_deadlocked filed run⟩
  · exact ⟨by decide +kernel, 30, trivial, by decide +kernel, by decide +kernel, by decide⟩
  · exact ⟨by decide +kernel, 31, trivial, by decide +kernel, by decide +kernel, by decide⟩

end Storefront
