import Storefront.System.ExpirySweep
import Storefront.System.StripeEvents

set_option autoImplicit false

/-!
# The summary of a reconcile sweep

Between two of its statements a sweep meets whatever state the others have left, and
every statement may fail. A row that raises is logged and left out of the counts.
-/

namespace Storefront

open Relational Transition

-- The statements for one row. All that follows the locked read fails or commits together.
inductive ReconcilePoint
  | preRead | setTenant | lock | commit | resetTenant
  deriving DecidableEq, Repr

/-- What the sweep meets while it is at a row. -/
structure ReconcileEnv where
  seen : Db
  db : Db
  -- Another transaction holds the row, and SKIP LOCKED passes over it.
  locked : Bool
  answer : Except Exn (Option PaymentIntent)
  now : Time
  fault : ReconcilePoint → Option Exn

namespace ReconcileEnv

def passes (env : ReconcileEnv) (point : ReconcilePoint) : Outcome Unit :=
  match env.fault point with
  | some e => .error e
  | none => .ok ()

@[simp] theorem passes_eq_ok {env : ReconcileEnv} {point : ReconcilePoint} {u : Unit} :
    env.passes point = .ok u ↔ env.fault point = none := by
  unfold passes
  split <;> simp_all

end ReconcileEnv

def pendingPayment (db : Db) (payment : Id) : Option Payment :=
  db.payments.rows.find? fun p => p.id == payment && p.status == .pending

def reconcileUnlessLocked (payment : Id) (env : ReconcileEnv) : Outcome (ReconcileOutcome × Db) :=
  if env.locked then .ok (.stillPending, env.db) else reconcileOne payment env.answer env.now env.db

-- The atomic block of _reconcile_one.
def reconcileLocked (payment : Id) (env : ReconcileEnv) : Outcome (ReconcileOutcome × Db) := do
  env.passes .lock
  let result ← reconcileUnlessLocked payment env
  env.passes .commit
  return result

def ReconcileEnv.settled (env : ReconcileEnv) : Outcome (ReconcileOutcome × Db) → Except Exn ReconcileOutcome × Db
  | .ok (outcome, db) => (.ok outcome, db)
  | .error e => (.error e, env.db)

/-- `_reconcile_one` with all its statements, and the database it leaves. -/
def reconcileRow (payment : Id) (env : ReconcileEnv) : Except Exn ReconcileOutcome × Db :=
  match env.passes .preRead with
  | .error e => (.error e, env.db)
  | .ok _ =>
    if (pendingPayment env.seen payment).isNone then (.ok .stillPending, env.db)
    else match env.passes .setTenant with
      | .error e => (.error e, env.db)
      | .ok _ =>
        let (result, db) := env.settled (reconcileLocked payment env)
        -- The RESET in the finally clause comes after every outcome.
        match env.passes .resetTenant with
        | .error e => (.error e, db)
        | .ok _ => (result, db)

structure ReconcileSummary where
  scanned : Nat
  converged : Nat
  cancelled : Nat
  still_pending : Nat
  deriving DecidableEq, Repr

namespace ReconcileSummary

def count (summary : ReconcileSummary) : ReconcileOutcome → ReconcileSummary
  | .converged => { summary with converged := summary.converged + 1 }
  | .cancelled => { summary with cancelled := summary.cancelled + 1 }
  | .stillPending => { summary with still_pending := summary.still_pending + 1 }

def total (summary : ReconcileSummary) : Nat := summary.converged + summary.cancelled + summary.still_pending

end ReconcileSummary

-- A row that raises is logged and left out.
def countRow (summary : ReconcileSummary) (row : Id × ReconcileEnv) : ReconcileSummary :=
  match (reconcileRow row.1 row.2).1 with
  | .ok outcome => summary.count outcome
  | .error _ => summary

def reconcileSummary (rows : List (Id × ReconcileEnv)) : ReconcileSummary :=
  rows.foldl countRow { scanned := rows.length, converged := 0, cancelled := 0, still_pending := 0 }

/-! ## Orders that can be given up -/

/-- Giving back the reservations one by one never leaves more reserved than there is. -/
def Releasable (tenant : Id) (reservations : List InventoryReservation) (db : Db) : Prop :=
  ∀ given, given <+: reservations → ∀ p ∈ db.products.rows, p.tenant = tenant →
    p.reserved_quantity - heldOf p.id given ≤ p.stock_quantity

/-- The cart of the order, if it is still under checkout, is the only one its customer has. -/
def Order.FreesCart (order : Order) (db : Db) : Prop :=
  ∀ c ∈ db.carts.rows, order.cart = some c.id → c.status = .checkingOut →
    ∀ d ∈ db.carts.rows, d.customer = c.customer → d.status ≠ .active

/-- The order of the payment exists, and takes the status the payment comes to. -/
def Payment.OrderTakes (p : Payment) (status : PaymentStatus) (db : Db) : Prop :=
  (status = .captured → ∃ o ∈ db.orders.rows, o.id = p.order) ∧
    (status = .failed ∨ status = .cancelled → ∃ o ∈ db.orders.rows, o.id = p.order ∧ (o.status = .pending →
      Releasable p.tenant (reservationsOf db p.tenant o.id .active) db ∧ o.FreesCart db))

section GivingUp

variable {db db' : Db} {tenant : Id} {res : InventoryReservation}

theorem settle_release_iff : (∃ db', settle .release (some tenant) db res = .ok db') ↔
    ∀ p ∈ db.products.rows, p.tenant = tenant → p.id = res.product →
      p.reserved_quantity - res.quantity ≤ p.stock_quantity := by
  simp only [settle_succeeds_iff, Scope.sees, beq_iff_eq, Settlement.release, neg_one_mul, zero_mul, add_zero,
    ← sub_eq_add_neg]

theorem counters_released (res : InventoryReservation) {p : Product} (owned : p.tenant = tenant)
    (given : List InventoryReservation) :
    let q := Table.updated (fun p => Scope.sees (some tenant) p.tenant && p.id == res.product)
      (counted .release res.quantity) p
    q.tenant = p.tenant ∧ q.stock_quantity = p.stock_quantity ∧
      q.reserved_quantity - heldOf q.id given = p.reserved_quantity - heldOf p.id (res :: given) := by
  by_cases named : p.id = res.product
  · simp [Table.updated, Scope.sees, owned, named, counted, Settlement.release, heldOf]
    omega
  · simp [Table.updated, named, Ne.symm named, heldOf]

theorem releasable_cons {rest : List InventoryReservation} (first : settle .release (some tenant) db res = .ok db') :
    Releasable tenant (res :: rest) db ↔ Releasable tenant rest db' := by
  obtain ⟨products, updated, rfl⟩ := settle_eq_ok.mp first
  have rows : (({ db with products } : Db).saveReservationStatus res.id Settlement.release.becomes).products.rows =
      db.products.rows.map (Table.updated (fun p => Scope.sees (some tenant) p.tenant && p.id == res.product)
        (counted .release res.quantity)) := Table.update_rows updated
  unfold Releasable
  rw [rows]
  constructor
  · intro room given start p member owned
    obtain ⟨old, inside, rfl⟩ := List.mem_map.mp member
    have owner : old.tenant = tenant := by
      unfold Table.updated at owned
      split at owned <;> exact owned
    obtain ⟨_, stock, reserved⟩ := counters_released res owner given
    rw [stock, reserved]
    exact room (res :: given) (List.cons_prefix_cons.mpr ⟨rfl, start⟩) old inside owner
  · intro room given start p member owned
    rcases List.prefix_cons_iff.mp start with rfl | ⟨given, rfl, later⟩
    · simpa [heldOf] using (Product.check_iff.mp (db.products.checked p member)).1
    · obtain ⟨owner, stock, reserved⟩ := counters_released res owned given
      rw [← stock, ← reserved]
      exact room given later _ (List.mem_map_of_mem member) (owner.trans owned)

theorem releases_iff {reservations : List InventoryReservation} :
    (∃ db', reservations.foldlM (settle .release (some tenant)) db = .ok db') ↔ Releasable tenant reservations db := by
  induction reservations generalizing db with
  | nil =>
    refine iff_of_true ⟨db, rfl⟩ fun given start p member _ => ?_
    obtain rfl := List.prefix_nil.mp start
    simpa [heldOf] using (Product.check_iff.mp (db.products.checked p member)).1
  | cons res rest ih =>
    constructor
    · rintro ⟨db', done⟩
      obtain ⟨mid, first, tail⟩ := foldlM_cons_eq_ok.mp done
      exact (releasable_cons first).mpr (ih.mp ⟨db', tail⟩)
    · intro room
      have here : ∀ p ∈ db.products.rows, p.tenant = tenant → p.id = res.product →
          p.reserved_quantity - res.quantity ≤ p.stock_quantity := by
        intro p member owned named
        have one := room [res] (List.cons_prefix_cons.mpr ⟨rfl, List.nil_prefix⟩) p member owned
        simpa [heldOf, named] using one
      obtain ⟨mid, first⟩ := settle_release_iff.mpr here
      obtain ⟨db', tail⟩ := ih.mpr ((releasable_cons first).mp room)
      exact ⟨db', foldlM_cons_eq_ok.mpr ⟨mid, first, tail⟩⟩

theorem revertCart_iff {order : Order} : (∃ db', revertCartIfCheckingOut order db = .ok db') ↔ order.FreesCart db := by
  unfold revertCartIfCheckingOut Order.FreesCart
  cases order.cart with
  | none => simp
  | some cart =>
    refine revert_iff.trans ?_
    simp only [Option.some.injEq]
    constructor
    · intro free c member named
      exact free c member named.symm
    · intro free c member named
      exact free c member named.symm

theorem cancels_iff {order : Order} : (∃ db', applyOrderCancelled tenant order db = .ok db') ↔
    (order.status = .pending →
      Releasable tenant (reservationsOf db tenant order.id .active) db ∧ order.FreesCart db) := by
  unfold applyOrderCancelled
  split
  next pending =>
    have stored : Releasable tenant (reservationsOf db tenant order.id .active) db ↔
        Releasable tenant (reservationsOf db tenant order.id .active) (db.saveOrderStatus order.id .cancelled) :=
          Iff.rfl
    rw [stored, ← releases_iff]
    simp only [pending, true_implies, bind_eq_ok]
    constructor
    · rintro ⟨db', mid, released, reverted⟩
      have carts : mid.carts = db.carts := (settleForOrder_settled released).2
      have free := revertCart_iff.mp ⟨db', reverted⟩
      unfold Order.FreesCart at free
      rw [carts] at free
      exact ⟨⟨mid, released⟩, free⟩
    · rintro ⟨⟨mid, released⟩, free⟩
      have carts : mid.carts = db.carts := (settleForOrder_settled (t := .release) released).2
      unfold Order.FreesCart at free
      rw [← carts] at free
      obtain ⟨db', reverted⟩ := revertCart_iff.mpr free
      exact ⟨db', mid, released, reverted⟩
  next other => simp [other]

theorem mem_of_orderUnscoped {id : Id} {order : Order} :
    orderUnscoped db id = .ok order ↔ order ∈ db.orders.rows ∧ order.id = id := by
  refine orRaise_eq_ok.trans ⟨Table.mem_of_get, ?_⟩
  rintro ⟨member, rfl⟩
  exact Table.get_of_mem member

theorem marksPaid_iff {id : Id} : (∃ db', markOrderPaid tenant id db = .ok db') ↔ ∃ o ∈ db.orders.rows, o.id = id := by
  simp only [markOrderPaid, bind_eq_ok, mem_of_orderUnscoped]
  constructor
  · rintro ⟨_, o, ⟨member, named⟩, _⟩
    exact ⟨o, member, named⟩
  · rintro ⟨o, member, named⟩
    obtain ⟨db', paid⟩ := applyOrderPaid_succeeds tenant o db
    exact ⟨db', o, ⟨member, named⟩, paid⟩

theorem marksCancelled_iff {id : Id} : (∃ db', markOrderCancelledAndRelease tenant id db = .ok db') ↔
    ∃ o ∈ db.orders.rows, o.id = id ∧ (o.status = .pending →
      Releasable tenant (reservationsOf db tenant o.id .active) db ∧ o.FreesCart db) := by
  simp only [markOrderCancelledAndRelease, bind_eq_ok, mem_of_orderUnscoped]
  constructor
  · rintro ⟨db', o, ⟨member, named⟩, cancelled⟩
    exact ⟨o, member, named, cancels_iff.mp ⟨db', cancelled⟩⟩
  · rintro ⟨o, member, named, free⟩
    obtain ⟨db', cancelled⟩ := cancels_iff.mpr free
    exact ⟨db', o, ⟨member, named⟩, cancelled⟩

end GivingUp

/-! ## When a row raises -/

/-- The order takes what the payment comes to, and the gateway is known if there is one to ask. -/
def Payment.Reconciles (p : Payment) (env : ReconcileEnv) : Prop :=
  if p.gateway_transaction_id = "" then p.OrderTakes .failed env.db
  else
    (∃ config gateway, gatewayConfigOf env.db p.gateway_config = .ok config ∧
        Adapter.get config.gateway_name = .ok gateway) ∧
      ∀ intent, env.answer = .ok (some intent) → intent.status ≠ .pending →
        p.OrderTakes (mapGatewayStatus intent.status) env.db

/-- No statement for the row fails, and the row, if it is still PENDING and free, reconciles. -/
structure ReconcileEnv.GetsThrough (env : ReconcileEnv) (payment : Id) : Prop where
  preRead : env.fault .preRead = none
  statements : (pendingPayment env.seen payment).isSome = true → env.fault .setTenant = none ∧ env.fault .lock = none ∧
    env.fault .commit = none ∧ env.fault .resetTenant = none
  reconciles : (pendingPayment env.seen payment).isSome = true → env.locked = false →
    ∀ p, pendingPayment env.db payment = some p → p.Reconciles env

section Rows

variable {env : ReconcileEnv} {payment : Id} {p : Payment}

theorem bind_returns {x : Outcome Db} {outcome : ReconcileOutcome} :
    (∃ result, (do return (outcome, ← x) : Outcome (ReconcileOutcome × Db)) = .ok result) ↔ ∃ db', x = .ok db' := by
  cases x with
  | error e => simp [bind, Except.bind]
  | ok db' => simp [bind, Except.bind, pure, Except.pure]

theorem stored_marks_iff (p : Payment) (env : ReconcileEnv) (status : PaymentStatus) (note : String) (value : Json) :
    ((∃ db', markOrderPaid p.tenant p.order (storeReconciled p.id status note value env.now env.db) = .ok db') ↔
      p.OrderTakes .captured env.db) ∧
    ((∃ db', markOrderCancelledAndRelease p.tenant p.order (storeReconciled p.id status note value env.now env.db) =
      .ok db') ↔ p.OrderTakes .failed env.db) := by
  constructor
  · rw [marksPaid_iff]
    simp [Payment.OrderTakes, storeReconciled, Db.modifyPayments]
  · rw [marksCancelled_iff]
    simp [Payment.OrderTakes, storeReconciled, Db.modifyPayments, Releasable, Order.FreesCart, reservationsOf]

theorem reconcileUnknownIntent_ok_iff : (∃ result, reconcileUnknownIntent p env.now env.db = .ok result) ↔
    p.OrderTakes .failed env.db :=
  bind_returns.trans (stored_marks_iff _ _ _ _ _).2

theorem reconcileKnownIntent_settles {config : PaymentGatewayConfig} {gateway : Adapter} {intent : PaymentIntent}
    (configured : gatewayConfigOf env.db p.gateway_config = .ok config)
    (known : Adapter.get config.gateway_name = .ok gateway)
    (answered : env.answer = .ok (some intent)) (settled : intent.status ≠ .pending) :
    (∃ result, reconcileKnownIntent p env.answer env.now env.db = .ok result) ↔
      p.OrderTakes (mapGatewayStatus intent.status) env.db := by
  have unfolded : reconcileKnownIntent p env.answer env.now env.db =
      let db := storeReconciled p.id (mapGatewayStatus intent.status) "reconciled_intent" (rawResponse intent)
        env.now env.db
      if mapGatewayStatus intent.status = .captured then do
        return (.converged, ← markOrderPaid p.tenant p.order db)
      else if mapGatewayStatus intent.status = .failed ∨ mapGatewayStatus intent.status = .cancelled then do
        return (.cancelled, ← markOrderCancelledAndRelease p.tenant p.order db)
      else .ok (.converged, db) := by
    simp only [reconcileKnownIntent, configured, known, answered, bind, Except.bind, if_neg settled]
    rfl
  have marks := stored_marks_iff p env (mapGatewayStatus intent.status) "reconciled_intent" (rawResponse intent)
  rw [unfolded]
  simp only
  split
  next captured => rw [bind_returns, marks.1, captured]
  next uncaptured =>
    split
    next given =>
      rw [bind_returns, marks.2]
      rcases given with failed | cancelled
      · rw [failed]
      · rw [cancelled]
        simp [Payment.OrderTakes]
    next kept =>
      refine iff_of_true ⟨_, rfl⟩ ⟨fun captured => absurd captured uncaptured, fun given => absurd given kept⟩

theorem reconcileKnownIntent_ok_iff : (∃ result, reconcileKnownIntent p env.answer env.now env.db = .ok result) ↔
    (∃ config gateway, gatewayConfigOf env.db p.gateway_config = .ok config ∧
        Adapter.get config.gateway_name = .ok gateway) ∧
      ∀ intent, env.answer = .ok (some intent) → intent.status ≠ .pending →
        p.OrderTakes (mapGatewayStatus intent.status) env.db := by
  constructor
  · rintro ⟨result, done⟩
    have found := done
    simp only [reconcileKnownIntent, bind_eq_ok] at found
    obtain ⟨config, configured, gateway, known, _⟩ := found
    refine ⟨⟨config, gateway, configured, known⟩, fun intent answered settled => ?_⟩
    exact (reconcileKnownIntent_settles configured known answered settled).mp ⟨result, done⟩
  · rintro ⟨⟨config, gateway, configured, known⟩, settles⟩
    have waits (unanswered : ∀ intent, env.answer = .ok (some intent) → intent.status = .pending) :
        reconcileKnownIntent p env.answer env.now env.db = .ok (.stillPending, env.db) := by
      cases answered : env.answer with
      | error e => simp [reconcileKnownIntent, configured, known, bind, Except.bind, pure, Except.pure]
      | ok found =>
        cases found with
        | none => simp [reconcileKnownIntent, configured, known, bind, Except.bind, pure, Except.pure]
        | some intent =>
          simp [reconcileKnownIntent, configured, known, unanswered intent answered, bind, Except.bind, pure,
            Except.pure]
    by_cases settled : ∃ intent, env.answer = .ok (some intent) ∧ intent.status ≠ .pending
    · obtain ⟨intent, answered, settled⟩ := settled
      exact (reconcileKnownIntent_settles configured known answered settled).mpr (settles intent answered settled)
    · push Not at settled
      exact ⟨_, waits settled⟩

theorem reconcileOne_ok_iff : (∃ result, reconcileOne payment env.answer env.now env.db = .ok result) ↔
    ∀ p, pendingPayment env.db payment = some p → p.Reconciles env := by
  unfold reconcileOne
  cases found : pendingPayment env.db payment with
  | none =>
    unfold pendingPayment at found
    rw [found]
    simp
  | some p =>
    unfold pendingPayment at found
    rw [found]
    simp only [Option.some.injEq, forall_eq']
    unfold Payment.Reconciles
    split
    · exact reconcileUnknownIntent_ok_iff
    · exact reconcileKnownIntent_ok_iff

theorem reconcileLocked_ok_iff : (∃ result, reconcileLocked payment env = .ok result) ↔
    env.fault .lock = none ∧ env.fault .commit = none ∧
      (env.locked = false → ∀ p, pendingPayment env.db payment = some p → p.Reconciles env) := by
  have body : (∃ result, reconcileUnlessLocked payment env = .ok result) ↔
      (env.locked = false → ∀ p, pendingPayment env.db payment = some p → p.Reconciles env) := by
    unfold reconcileUnlessLocked
    cases env.locked with
    | true => simp
    | false => simpa using reconcileOne_ok_iff
  rw [← body]
  constructor
  · rintro ⟨result, done⟩
    simp only [reconcileLocked, bind_eq_ok, ReconcileEnv.passes_eq_ok] at done
    obtain ⟨_, lock, result', handled, _, commit, _⟩ := done
    exact ⟨lock, commit, result', handled⟩
  · rintro ⟨lock, commit, result, handled⟩
    refine ⟨result, bind_eq_ok.mpr ⟨(), ?_, bind_eq_ok.mpr ⟨result, handled, bind_eq_ok.mpr ⟨(), ?_, rfl⟩⟩⟩⟩
    · exact ReconcileEnv.passes_eq_ok.mpr lock
    · exact ReconcileEnv.passes_eq_ok.mpr commit

theorem ReconcileEnv.settled_ok_iff {result : Outcome (ReconcileOutcome × Db)} :
    (∃ outcome, (env.settled result).1 = .ok outcome) ↔ ∃ body, result = .ok body := by
  cases result <;> simp [ReconcileEnv.settled]

theorem ReconcileEnv.passes_cases (env : ReconcileEnv) (point : ReconcilePoint) :
    env.passes point = .ok () ∧ env.fault point = none ∨
      ∃ e, env.passes point = .error e ∧ env.fault point = some e := by
  unfold passes
  cases env.fault point with
  | none => exact .inl ⟨rfl, rfl⟩
  | some e => exact .inr ⟨e, rfl, rfl⟩

theorem reconcileRow_ok_iff : (∃ outcome, (reconcileRow payment env).1 = .ok outcome) ↔ env.GetsThrough payment := by
  unfold reconcileRow
  rcases env.passes_cases .preRead with ⟨read, quiet⟩ | ⟨e, read, fault⟩
  · rw [read]
    simp only
    cases seen : pendingPayment env.seen payment with
    | none => exact iff_of_true ⟨.stillPending, by simp⟩ ⟨quiet, by simp [seen], by simp [seen]⟩
    | some p =>
      simp only [Option.isNone_some, Bool.false_eq_true, if_false]
      rcases env.passes_cases .setTenant with ⟨set, setQuiet⟩ | ⟨e, set, fault⟩
      · rw [set]
        simp only
        rcases env.passes_cases .resetTenant with ⟨reset, resetQuiet⟩ | ⟨e, reset, fault⟩
        · rw [reset]
          simp only
          rw [ReconcileEnv.settled_ok_iff, reconcileLocked_ok_iff]
          constructor
          · rintro ⟨lock, commit, reconciles⟩
            exact ⟨quiet, fun _ => ⟨setQuiet, lock, commit, resetQuiet⟩, fun _ => reconciles⟩
          · rintro ⟨_, statements, reconciles⟩
            obtain ⟨_, lock, commit, _⟩ := statements (by simp [seen])
            exact ⟨lock, commit, reconciles (by simp [seen])⟩
        · rw [reset]
          refine iff_of_false (by simp) fun through => ?_
          simp [(through.statements (by simp [seen])).2.2.2] at fault
      · rw [set]
        refine iff_of_false (by simp) fun through => ?_
        simp [(through.statements (by simp [seen])).1] at fault
  · rw [read]
    refine iff_of_false (by simp) fun through => ?_
    simp [through.preRead] at fault

end Rows

/-! ## The counts -/

section Counts

theorem count_total (summary : ReconcileSummary) (outcome : ReconcileOutcome) :
    (summary.count outcome).total = summary.total + 1 := by
  cases outcome <;> simp only [ReconcileSummary.count, ReconcileSummary.total] <;> omega

theorem count_scanned (summary : ReconcileSummary) (outcome : ReconcileOutcome) :
    (summary.count outcome).scanned = summary.scanned := by
  cases outcome <;> rfl

def returns (row : Id × ReconcileEnv) : Bool := (reconcileRow row.1 row.2).1.isOk

theorem returns_iff (row : Id × ReconcileEnv) : returns row = true ↔ row.2.GetsThrough row.1 := by
  rw [← reconcileRow_ok_iff, returns]
  cases (reconcileRow row.1 row.2).1 <;> simp [Except.isOk, Except.toBool]

theorem countRow_counts (summary : ReconcileSummary) (row : Id × ReconcileEnv) :
    (countRow summary row).scanned = summary.scanned ∧
      (countRow summary row).total = summary.total + if returns row then 1 else 0 := by
  unfold countRow returns
  cases (reconcileRow row.1 row.2).1 with
  | ok outcome => exact ⟨count_scanned summary outcome, count_total summary outcome⟩
  | error e => exact ⟨rfl, rfl⟩

theorem foldl_countRow (rows : List (Id × ReconcileEnv)) (summary : ReconcileSummary) :
    (rows.foldl countRow summary).scanned = summary.scanned ∧
      (rows.foldl countRow summary).total = summary.total + rows.countP returns := by
  induction rows generalizing summary with
  | nil => exact ⟨rfl, rfl⟩
  | cons row rest ih =>
    obtain ⟨scanned, total⟩ := countRow_counts summary row
    obtain ⟨scanned', total'⟩ := ih (countRow summary row)
    rw [List.foldl_cons, List.countP_cons]
    exact ⟨scanned'.trans scanned, by omega⟩

theorem reconcileSummary_counts (rows : List (Id × ReconcileEnv)) :
    (reconcileSummary rows).scanned = rows.length ∧ (reconcileSummary rows).total = rows.countP returns := by
  obtain ⟨scanned, total⟩ := foldl_countRow rows
    { scanned := rows.length, converged := 0, cancelled := 0, still_pending := 0 }
  refine ⟨scanned, total.trans ?_⟩
  simp [ReconcileSummary.total]

/-- The counts add up to what was scanned unless a row raised. -/
theorem summary_conserved_iff (rows : List (Id × ReconcileEnv)) :
    (reconcileSummary rows).scanned =
        (reconcileSummary rows).converged + (reconcileSummary rows).cancelled + (reconcileSummary rows).still_pending ↔
      ∀ row ∈ rows, row.2.GetsThrough row.1 := by
  obtain ⟨scanned, total⟩ := reconcileSummary_counts rows
  have sum : (reconcileSummary rows).converged + (reconcileSummary rows).cancelled +
      (reconcileSummary rows).still_pending = rows.countP returns := total
  rw [scanned, sum, eq_comm, List.countP_eq_length]
  exact forall₂_congr fun row _ => returns_iff row

end Counts

namespace Sample

def undecided : Payment := { stripePayment with status := .pending }

-- The row is locked by a statement that times out.
def timedOut : ReconcileEnv :=
  let db := { orderedAtStripe with payments := ⟨[undecided], by decide +kernel, by decide +kernel⟩ }
  { seen := db, db := db, locked := false, answer := .ok none, now := 1000
    fault := fun point => if point = .lock then some (.other "canceling statement due to statement timeout") else none }

end Sample

/-- One payment is scanned and no outcome is counted. -/
theorem summary_loses_payment : ¬ ∀ rows : List (Id × ReconcileEnv), (reconcileSummary rows).scanned =
    (reconcileSummary rows).converged + (reconcileSummary rows).cancelled + (reconcileSummary rows).still_pending := by
  intro conserved
  have lost := conserved [(80, Sample.timedOut)]
  have counts : reconcileSummary [(80, Sample.timedOut)] =
      { scanned := 1, converged := 0, cancelled := 0, still_pending := 0 } := by decide +kernel
  rw [counts] at lost
  cases lost

end Storefront
