import Storefront.System.Idempotency

set_option autoImplicit false

/-!
# The stock ledger of the running system

Whatever the steps of the system do to the stock, they do through reservations,
unless an admin edits a product.
-/

namespace Storefront

open Relational Transition Ledger

section Blocks

variable {db db' : Db}

theorem Ledgered.sparing {t : Settlement} (ledgered : Ledgered (Book.SettlingBy t) db db')
    (untaken : Phases.taken t.expects = false) : Ledgered Book.Sparing db db' :=
  ledgered.mono fun _ _ settles => .inl ⟨t, untaken, settles⟩

def InventoryReservation.booked (r : InventoryReservation) : Hold Id Id ReservationStatus × Id := (r.hold, r.tenant)

theorem Ledgered.of_tables {kind : StockBook → StockBook → Prop} (products : db'.products = db.products)
    (booked : db'.reservations.rows.map InventoryReservation.booked =
      db.reservations.rows.map InventoryReservation.booked) : Ledgered kind db db' := by
  have holds : db'.reservations.rows.map InventoryReservation.hold =
      db.reservations.rows.map InventoryReservation.hold :=
    map_transport booked fun _ _ _ _ same => congrArg Prod.fst same
  have book : db'.book = db.book := by
    have stock : db'.stockOf = db.stockOf := funext fun product => by rw [Db.stockOf, products, Db.stockOf]
    have reserved : db'.reservedOf = db.reservedOf :=
      funext fun product => by rw [Db.reservedOf, products, Db.reservedOf]
    simp only [Db.book, stock, reserved, holds]
  refine ⟨by rw [products], fun housed => ⟨fun r member => ?_, by rw [book]⟩⟩
  have image : r.booked ∈ db.reservations.rows.map InventoryReservation.booked :=
    booked ▸ List.mem_map_of_mem member
  obtain ⟨old, present, same⟩ := List.mem_map.mp image
  obtain ⟨hold, tenant⟩ := Prod.mk.inj same
  obtain ⟨p, inside, named, owned⟩ := housed old present
  exact ⟨p, products ▸ inside, named.trans (congrArg Hold.item hold), owned.trans tenant⟩

theorem Ledgered.apart {kind : StockBook → StockBook → Prop} (products : db'.products = db.products)
    (reservations : db'.reservations = db.reservations) : Ledgered kind db db' :=
  .of_tables products (by rw [reservations])

theorem updateCarts_ledgered {kind : StockBook → StockBook → Prop} {p : Cart → Bool} {f : Cart → Cart}
    (done : db.updateCarts p f = .ok db') : Ledgered kind db db' := by
  simp only [Db.updateCarts, stored_eq_ok] at done
  obtain ⟨carts, _, rfl⟩ := done
  exact .apart rfl rfl

theorem applyOrderPaid_ledgered {tenant : Id} {order : Order} (done : applyOrderPaid tenant order db = .ok db') :
    Ledgered Book.Sparing db db' := by
  unfold applyOrderPaid at done
  split at done
  next pending =>
    have saved : Ledgered Book.Sparing db (db.saveOrderStatus order.id .paid) := .apart rfl rfl
    exact saved.trans ((settleForOrder_ledgered rfl done).sparing rfl)
  next other =>
    cases done
    exact .refl db

theorem applyOrderCancelled_ledgered {tenant : Id} {order : Order}
    (done : applyOrderCancelled tenant order db = .ok db') : Ledgered Book.Sparing db db' := by
  unfold applyOrderCancelled at done
  split at done
  next pending =>
    obtain ⟨mid, released, reverted⟩ := bind_eq_ok.mp done
    have saved : Ledgered Book.Sparing db (db.saveOrderStatus order.id .cancelled) := .apart rfl rfl
    refine (saved.trans ((settleForOrder_ledgered rfl released).sparing rfl)).trans ?_
    unfold revertCartIfCheckingOut at reverted
    split at reverted
    · cases reverted
      exact .refl _
    · exact updateCarts_ledgered reverted
  next other =>
    rw [pure_eq_ok] at done
    subst done
    exact .refl db

theorem applyToOrder_ledgered {tenant : Id} {event_type : Json} {order : Order}
    (done : applyToOrder tenant event_type order db = .ok db') : Ledgered Book.Sparing db db' := by
  unfold applyToOrder at done
  split at done
  · exact applyOrderPaid_ledgered done
  · split at done
    · exact applyOrderCancelled_ledgered done
    · split at done <;> cases done
      · exact .apart rfl rfl
      · exact .refl db

theorem applyWebhookEvent_ledgered {lib : WebhookLibrary} {task : WebhookTask} {now : Time}
    (done : applyWebhookEvent lib task now db = .ok db') : Ledgered Book.Sparing db db' := by
  simp only [applyWebhookEvent, bind_eq_ok, Db.insertWebhookEvent, stored_eq_ok] at done
  obtain ⟨_, _, mid, ⟨events, _, rfl⟩, p, _, o, _, applied⟩ := done
  have stored : Ledgered Book.Sparing db (storeWebhookStatus p.id task now { db with webhookEvents := events }) :=
    .apart rfl rfl
  exact stored.trans (applyToOrder_ledgered applied)

theorem reconcileOne_ledgered {payment : Id} {answer : Except Exn (Option PaymentIntent)} {now : Time}
    {outcome : ReconcileOutcome} (done : reconcileOne payment answer now db = .ok (outcome, db')) :
    Ledgered Book.Sparing db db' := by
  have stored (p : Id) (status : PaymentStatus) (note : String) (value : Json) :
      Ledgered Book.Sparing db (storeReconciled p status note value now db) := .apart rfl rfl
  unfold reconcileOne at done
  split at done
  · cases done
    exact .refl db
  · split at done
    · simp only [reconcileUnknownIntent, markOrderCancelledAndRelease, bind_eq_ok, pure_eq_ok, Prod.mk.injEq] at done
      obtain ⟨last, ⟨o, _, applied⟩, _, rfl⟩ := done
      exact (stored _ _ _ _).trans (applyOrderCancelled_ledgered applied)
    · simp only [reconcileKnownIntent, bind_eq_ok] at done
      obtain ⟨_, _, _, _, rest⟩ := done
      split at rest
      · cases rest
        exact .refl db
      · cases rest
        exact .refl db
      · split at rest
        · cases rest
          exact .refl db
        · split at rest
          · simp only [markOrderPaid, bind_eq_ok, pure_eq_ok, Prod.mk.injEq] at rest
            obtain ⟨last, ⟨o, _, applied⟩, _, rfl⟩ := rest
            exact (stored _ _ _ _).trans (applyOrderPaid_ledgered applied)
          · split at rest
            · simp only [markOrderCancelledAndRelease, bind_eq_ok, pure_eq_ok, Prod.mk.injEq] at rest
              obtain ⟨last, ⟨o, _, applied⟩, _, rfl⟩ := rest
              exact (stored _ _ _ _).trans (applyOrderCancelled_ledgered applied)
            · rw [pure_eq_ok, Prod.mk.injEq] at rest
              obtain ⟨_, rfl⟩ := rest
              exact stored _ _ _ _

theorem markPaidWrite_ledgered {kind : StockBook → StockBook → Prop} {tenant order payment : Id} {reference : String}
    {now : Time} (done : markPaidWrite tenant order payment reference now db = .ok db') : Ledgered kind db db' := by
  simp only [markPaidWrite, markInvoicePaid, bind_eq_ok, pure_eq_ok] at done
  obtain ⟨mid, ⟨p, _, written⟩, o, _, last⟩ := done
  have first : Ledgered kind db mid := by
    split at written
    · rw [pure_eq_ok] at written
      subst written
      exact .refl db
    · simp only [bind_eq_ok, pure_eq_ok] at written
      obtain ⟨_, _, rfl⟩ := written
      exact .apart rfl rfl
  refine first.trans ?_
  split at last <;> subst last
  · exact .refl mid
  · exact .apart rfl rfl

theorem linkReservations_ledgered {kind : StockBook → StockBook → Prop} (reservations : List Id) (order : Id) :
    Ledgered kind db (linkReservations reservations order db) := by
  refine .of_tables rfl ?_
  simp only [linkReservations, Db.modifyReservations, Table.modify_rows]
  exact Table.map_updated _ _ _ _ fun _ _ _ => rfl

theorem commitCart_ledgered {kind : StockBook → StockBook → Prop} {req : Request} {now : Time} {placed : Placed}
    (done : commitCart req now placed db = .ok db') : Ledgered kind db db' := by
  simp only [commitCart, bind_eq_ok, pure_eq_ok] at done
  obtain ⟨mid, converted, rfl⟩ := done
  have frame := convertCart_frame converted
  have ordered : Ledgered kind db (mid.modifyOrders (fun o => o.id == placed.order.id)
      (fun o => { o with cart := some placed.view.cart.id }) ⟨fun _ => rfl, fun _ => rfl⟩) := by
    rw [frame]
    exact .apart rfl rfl
  exact ordered.trans (linkReservations_ledgered _ _)

theorem convertInvoiced_ledgered {req : Request} {now : Time} {placed : Placed}
    (done : convertInvoiced req now placed db = .ok db') : Ledgered Book.Sparing db db' := by
  simp only [convertInvoiced, bind_eq_ok] at done
  obtain ⟨o, _, mid, converted, committed⟩ := done
  have frame := convertCart_frame converted
  have ordered : Ledgered Book.Sparing db mid := by
    rw [frame]
    exact .apart rfl rfl
  exact (ordered.trans (linkReservations_ledgered _ _)).trans ((settleReservations_ledgered committed).sparing rfl)

theorem undo_ledgered {action : Undo} {req : Request} {cart : Id} {frame : Frame}
    (done : action.run req cart frame db = .ok db') : Ledgered Book.Sparing db db' := by
  cases action with
  | cancelOrder =>
    simp only [Undo.run] at done
    split at done
    · obtain ⟨o, _, _, _, rfl⟩ := cancelOwnOrder_eq_ok.mp done
      split
      · exact .apart rfl rfl
      · exact .refl db
    · cases done
      exact .refl db
  | releaseReservations => exact (settleReservations_ledgered done).sparing rfl
  | revertCart => exact updateCarts_ledgered done

end Blocks

def Label.cancels : Label → Bool
  | .cancelOrder .. => true
  | _ => false

section Steps

variable {settings : Settings} {lib : WebhookLibrary} {s s' : Sys}

theorem advance_ledgered {req : Request} {oracle : Oracle} {db db' : Db} {pc pc' : Pc} {log : List GatewayCall}
    (taken : advance settings req oracle db pc = (pc', db', log)) : Ledgered Book.Sparing db db' := by
  cases pc with
  | find | validate _ | resolve _ | captureRead _ _ =>
    simp only [advance] at taken
    split at taken <;> cases taken <;> exact .refl db
  | authorize _ _ | capture _ _ =>
    simp only [advance] at taken
    split at taken <;> cases taken <;> exact .refl db
  | lock =>
    simp only [advance] at taken
    split at taken <;> cases taken
    next done =>
      have locked := guard_ok done
      simp only [lockCart, bind_eq_ok, pure_eq_ok, Prod.mk.injEq] at locked
      obtain ⟨_, _, _, updated, _, rfl⟩ := locked
      exact updateCarts_ledgered updated
    · exact .refl db
  | reserve view =>
    simp only [advance] at taken
    split at taken <;> cases taken
    next done => exact (reserveStock_ledgered (guard_ok done)).mono fun _ _ => .inr
    · exact .refl db
  | create view reservations =>
    simp only [advance] at taken
    split at taken <;> cases taken
    next done =>
      have frame := (createOrder_creates (guard_ok done)).frame
      rw [frame]
      exact .apart rfl rfl
    · exact .refl db
  | invoice _ | insertPayment _ _ =>
    simp only [advance] at taken
    split at taken <;> cases taken
    next done =>
      rw [(createPayment_grows (guard_ok done)).1]
      exact .apart rfl rfl
    · exact .refl db
  | convertInvoiced placed payment =>
    simp only [advance] at taken
    split at taken <;> cases taken
    next done => exact convertInvoiced_ledgered (guard_ok done)
    · exact .refl db
  | recordError placed payment e =>
    simp only [advance] at taken
    split at taken <;> cases taken
    next done =>
      obtain rfl := Except.ok.inj (guard_ok done)
      exact .apart rfl rfl
    · exact .refl db
  | recordResult placed payment intent =>
    simp only [advance] at taken
    split at taken
    next done =>
      obtain ⟨_, rfl⟩ := recordPaymentResult_eq_ok.mp (guard_ok done)
      split at taken <;> cases taken <;> exact .apart rfl rfl
    · cases taken
      exact .refl db
  | convert placed payment =>
    simp only [advance] at taken
    split at taken <;> cases taken
    next done => exact commitCart_ledgered (guard_ok done)
    · exact .refl db
  | captureWrite placed row intent =>
    simp only [advance] at taken
    split at taken <;> cases taken
    next done =>
      obtain rfl := Except.ok.inj (guard_ok done)
      exact .apart rfl rfl
    · exact .refl db
  | paid placed payment =>
    simp only [advance] at taken
    split at taken <;> cases taken
    next done =>
      obtain ⟨_, committed⟩ := markCaptured_eq_ok.mp (guard_ok done)
      have saved : Ledgered Book.Sparing db (db.saveOrderStatus placed.order.id .paid) := .apart rfl rfl
      exact saved.trans ((settleReservations_ledgered committed).sparing rfl)
    · exact .refl db
  | undo todo cart frame e =>
    cases todo with
    | nil =>
      cases taken
      exact .refl db
    | cons action rest =>
      simp only [advance] at taken
      split at taken <;> cases taken
      next done => exact undo_ledgered (guard_ok done)
      · exact .refl db
  | done _ _ | crashed _ _ _ =>
    cases taken
    exact .refl db

/-- What has left the stock comes back by the customer's cancellation only. -/
theorem step_sparing {l : Label} (taken : step settings lib s l = some s') (shopping : l.editsProducts = false)
    (other : l.cancels = false) : Ledgered Book.Sparing s.db s'.db := by
  cases l with
  | createProduct | patchProduct | deactivateProduct => cases shopping
  | cancelOrder => cases other
  | tick _ | shop _ | sweep =>
    cases taken
    exact .apart rfl rfl
  | begin i req =>
    simp only [step] at taken
    split at taken <;> cases taken
    exact .refl s.db
  | advance i oracle =>
    simp only [step] at taken
    split at taken
    · cases taken
    · split at taken
      · cases taken
      · cases taken
        exact advance_ledgered rfl
  | receive _ | markPaidRead _ _ _ | refundRead _ _ _ | refundCall _ _ =>
    simp only [step] at taken
    split at taken <;> cases taken
    exact .refl s.db
  | process k =>
    simp only [step] at taken
    split at taken
    · obtain ⟨db', done, rfl⟩ := commits_eq_some taken
      rcases processWebhookEvent_cases done with same | applied
      · subst same
        exact .refl s.db
      · exact applyWebhookEvent_ledgered applied
    · cases taken
  | reconcile payment answer =>
    simp only [step] at taken
    split at taken
    · obtain ⟨db', done, rfl⟩ := commits_eq_some taken
      obtain ⟨⟨outcome, _⟩, reconciled, rfl⟩ := map_eq_ok.mp done
      exact reconcileOne_ledgered reconciled
    · cases taken
  | expire scan cutoff =>
    simp only [step] at taken
    split at taken
    · obtain ⟨db', done, rfl⟩ := commits_eq_some taken
      exact (releaseExpiredBatch_ledgered done).sparing rfl
    · cases taken
  | markPaidWrite k =>
    simp only [step] at taken
    split at taken
    · obtain ⟨db', done, rfl⟩ := commits_eq_some taken
      exact markPaidWrite_ledgered done
    · cases taken
  | refundWrite k =>
    simp only [step] at taken
    split at taken <;> cases taken
    exact .apart rfl rfl

theorem step_ledgered {l : Label} (taken : step settings lib s l = some s') (shopping : l.editsProducts = false) :
    Ledgered Book.Move s.db s'.db := by
  by_cases cancels : l.cancels = true
  · cases l with
    | cancelOrder tenant customer order =>
      obtain ⟨db', done, rfl⟩ := commits_eq_some taken
      exact (cancelOrder_ledgered done).mono fun _ _ => .inl
    | _ => cases cancels
  · exact (step_sparing taken shopping (by simpa using cancels)).mono fun _ _ => Book.Sparing.move

theorem step_restocks {l : Label} (taken : step settings lib s l = some s') (admin : l.editsProducts = true) :
    Book.Restocks s.db.book s'.db.book ∧ (s.db.Housed → s'.db.Housed) := by
  cases l with
  | createProduct tenant id data =>
    obtain ⟨db', done, rfl⟩ := commits_eq_some taken
    exact createProduct_restocks done
  | patchProduct tenant product data =>
    obtain ⟨db', done, rfl⟩ := commits_eq_some taken
    exact updateProducts_restocks (patchProduct_updates done) fun row => ⟨rfl, rfl⟩
  | deactivateProduct tenant product =>
    obtain ⟨db', done, rfl⟩ := commits_eq_some taken
    exact updateProducts_restocks (deactivateProduct_updates done) fun row => ⟨rfl, rfl⟩
  | _ => cases admin

theorem step_spares {l : Label} (housed : s.db.Housed) (taken : step settings lib s l = some s')
    (other : l.cancels = false) {r : InventoryReservation} (inside : r ∈ s.db.reservations.rows)
    (committed : r.status = .committed) : ∃ r' ∈ s'.db.reservations.rows, r'.id = r.id ∧ r'.status = .committed := by
  have kept : r.hold ∈ s'.db.book.holds := by
    by_cases admin : l.editsProducts = true
    · rw [(step_restocks taken admin).1.holds]
      exact Db.hold_mem inside
    · have moves := ((step_sparing taken (by simpa using admin) other).moves housed).2
      exact Book.sparings_spare moves (Db.hold_mem inside) (by simp [InventoryReservation.hold, committed, Phases.taken])
  obtain ⟨r', there, same⟩ := List.mem_map.mp kept
  exact ⟨r', there, congrArg Hold.key same, (congrArg Hold.phase same).trans committed⟩

theorem StockInvariant.step {l : Label} (inv : StockInvariant s.db) (taken : step settings lib s l = some s') :
    StockInvariant s'.db := by
  by_cases admin : l.editsProducts = true
  · obtain ⟨restocks, houses⟩ := step_restocks taken admin
    refine ⟨houses inv.housed, restocks.balanced inv.balanced, ?_⟩
    rw [restocks.holds]
    exact inv.nonnegative
  · obtain ⟨housed, moves⟩ := (step_ledgered taken (by simpa using admin)).moves inv.housed
    have moves : Book.Moves s.db.book s'.db.book := moves
    exact ⟨housed, moves.balanced inv.balanced, moves.nonnegative inv.nonnegative⟩

end Steps

def Db.share (db : Db) (mine : Id → Bool) (status : ReservationStatus) (product : Id) : Int :=
  ((db.reservations.rows.filter fun r => mine r.id && r.product == product && r.status == status).map
    InventoryReservation.quantity).sum

/-- What the chosen reservations have changed in a product's counters: a COMMITTED one is
gone from the stock, an ACTIVE one is reserved. -/
def stockShare (before after : Db) (mine : Id → Bool) (product : Id) : Int :=
  before.share mine .committed product - after.share mine .committed product

def reservedShare (before after : Db) (mine : Id → Bool) (product : Id) : Int :=
  after.share mine .active product - before.share mine .active product

-- What the admin's edits of the product put in stock.
def restocked {ℓ : Type} (edits : ℓ → Bool) (moves : List (Move Sys ℓ)) (product : Id) : Int :=
  (moves.map fun move => if edits move.label = true then
    move.after.db.stockOf product - move.before.db.stockOf product else 0).sum

/-- The counters of a product, by the chosen reservations, the other ones and the admin. -/
structure Accounted (moves : List (Move Sys Label)) (before after : Db) (mine : Id → Bool) (product : Id) : Prop where
  stock : after.stockOf product = before.stockOf product + restocked Label.editsProducts moves product +
    stockShare before after mine product + stockShare before after (fun id => !mine id) product
  reserved : after.reservedOf product = before.reservedOf product + reservedShare before after mine product +
    reservedShare before after (fun id => !mine id) product

theorem Db.total_eq_shares (db : Db) (mine : Id → Bool) {w : ReservationStatus → Bool} {status : ReservationStatus}
    (only : ∀ other, w other = (other == status)) (product : Id) :
    db.book.total w product = db.share mine status product + db.share (fun id => !mine id) status product := by
  simp only [Db.share, sum_filter, Book.total, Db.book, List.map_map]
  rw [← List.sum_map_add]
  congr 1
  refine List.map_congr_left fun r _ => ?_
  by_cases chosen : mine r.id = true <;> by_cases here : r.product = product <;>
    by_cases same : r.status = status <;> simp [InventoryReservation.hold, only, weight, chosen, here, same]

theorem Db.share_eq_zero {db : Db} {mine : Id → Bool} {status : ReservationStatus}
    (other : ∀ r ∈ db.reservations.rows, mine r.id = true → r.status ≠ status) (product : Id) :
    db.share mine status product = 0 := by
  have empty : (db.reservations.rows.filter fun r => mine r.id && r.product == product && r.status == status) = [] := by
    refine List.filter_eq_nil_iff.mpr fun r inside picked => ?_
    simp only [Bool.and_eq_true, beq_iff_eq] at picked
    exact other r inside picked.1.1 picked.2
  rw [Db.share, empty]
  rfl

theorem restocked_snoc {ℓ : Type} (edits : ℓ → Bool) (moves : List (Move Sys ℓ)) (move : Move Sys ℓ) (product : Id) :
    restocked edits (moves ++ [move]) product = restocked edits moves product + (if edits move.label = true then
      move.after.db.stockOf product - move.before.db.stockOf product else 0) := by
  simp [restocked]

section Runs

variable {settings : Settings} {lib : WebhookLibrary} {s₀ t s : Sys} {earlier moves : List (Move Sys Label)}

theorem StockInvariant.initial {s : Sys} (initial : s.Initial) : StockInvariant s.db :=
  .start ⟨initial.reservations, initial.products⟩

theorem Run.stock (run : (machine settings lib).Run s₀ moves s) : StockInvariant s.db := by
  have step (s : Sys) (l : Label) (s' : Sys) (inv : StockInvariant s.db)
      (taken : (machine settings lib).step s l = some s') : StockInvariant s'.db := inv.step taken
  exact run.invariant (fun s initial => .initial initial) step

theorem step_supply {l : Label} {s' : Sys} (inv : StockInvariant s.db) (taken : step settings lib s l = some s')
    (product : Id) : s'.db.book.supply product = s.db.book.supply product +
      (if l.editsProducts = true then s'.db.stockOf product - s.db.stockOf product else 0) := by
  by_cases admin : l.editsProducts = true
  · obtain ⟨restocks, _⟩ := step_restocks taken admin
    have total : s'.db.book.total Phases.taken product = s.db.book.total Phases.taken product := by
      simp only [Book.total, restocks.holds]
    have before : s.db.book.stock product = s.db.stockOf product := rfl
    have after : s'.db.book.stock product = s'.db.stockOf product := rfl
    rw [if_pos admin, Book.supply, Book.supply, total, before, after]
    ring
  · have moves : Book.Moves s.db.book s'.db.book :=
      ((step_ledgered taken (by simpa using admin)).moves inv.housed).2
    rw [if_neg admin, moves.supply, add_zero]

/-- Since any state of a run, the counters of a product are accounted for. -/
theorem Run.accounted (reached : (machine settings lib).Run s₀ earlier t)
    (run : (machine settings lib).Run s₀ (earlier ++ moves) s) (mine : Id → Bool) (product : Id) :
    Accounted moves t.db s.db mine product := by
  have supplied : s.db.book.supply product = t.db.book.supply product + restocked Label.editsProducts moves product := by
    have start (u : Sys) (initial : u.Initial) : StockInvariant u.db := .initial initial
    have step (u : Sys) (l : Label) (u' : Sys) (inv : StockInvariant u.db)
        (taken : Storefront.step settings lib u l = some u') : StockInvariant u'.db := inv.step taken
    refine @Machine.Run.since _ _ _ (fun u : Sys => StockInvariant u.db)
      (fun moves u => u.db.book.supply product = t.db.book.supply product + restocked Label.editsProducts moves product)
      start step _ _ _ _ _ reached (by simp [restocked]) ?_ run
    intro moves u l u' inv supplied taken
    rw [step_supply inv taken product, supplied, restocked_snoc, add_assoc]
  constructor
  · have taken (u : Sys) := @Db.total_eq_shares u.db mine Phases.taken .committed
      (fun other => by cases other <;> rfl) product
    have stock (u : Sys) : u.db.book.stock product = u.db.stockOf product := rfl
    simp only [Book.supply, taken, stock] at supplied
    simp only [stockShare]
    omega
  · have held (u : Sys) := @Db.total_eq_shares u.db mine Phases.held .active
      (fun other => by cases other <;> rfl) product
    have before := (Run.stock reached).balanced product
    have after := (Run.stock run).balanced product
    have reserved (u : Sys) : u.db.book.reserved product = u.db.reservedOf product := rfl
    rw [reserved, held] at before after
    simp only [reservedShare]
    omega

end Runs

end Storefront
