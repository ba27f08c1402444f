import Storefront.Carts.Service
import Storefront.Orders.Inventory
import Storefront.Tenancy.Confinement
import Storefront.Tenancy.Kinds

set_option autoImplicit false

/-!
# The sweeps over all tenants

`release_expired_reservations` and `abandon_stale_carts` enter no tenant's context
and run on the default connection. What they do depends on its role.
-/

namespace Storefront

open Relational Transition

namespace CrossTenant

def isExpired (now : Time) : Record → Bool
  | .inventoryReservation r => r.status == .active && decide (r.expires_at < now)
  | _ => false

def isProduct (id : Id) : Record → Bool
  | .product p => p.id == id
  | _ => false

def counting (quantity : Int) : Record → Record
  | .product p => .product (counted .release quantity p)
  | r => r

def isReservation (id : Id) : Record → Bool
  | .inventoryReservation r => r.id == id
  | _ => false

def releasing : Record → Record
  | .inventoryReservation r => .inventoryReservation { r with status := .released }
  | r => r

def isHeldCart (id : Id) : Record → Bool
  | .cart c => c.id == id && c.status == .checkingOut
  | _ => false

def reopening : Record → Record
  | .cart c => .cart { c with status := .active }
  | r => r

def isStale (cutoff : Time) : Record → Bool
  | .cart c => c.status == .active && decide (c.updated_at < cutoff)
  | _ => false

def abandoning : Record → Record
  | .cart c => .cart { c with status := .abandoned }
  | r => r

-- The second UPDATE is res.save(update_fields=["status", "updated_at"]).
def releaseEach : List InventoryReservation → Code Nat → Code Nat
  | [], next => next
  | res :: rest, next =>
    .update .all_objects (isProduct res.product) (counting res.quantity) fun _ =>
      .update .all_objects (isReservation res.id) releasing fun _ =>
        .update .all_objects (isHeldCart res.cart) reopening fun _ => releaseEach rest next

def batch (found : List Record) : List InventoryReservation := (Record.reservations.rows found).take 100

-- while True
def releaseExpiredReservations (now : Time) : Nat → Nat → Code Nat
  | 0, total_released => .done total_released
  | fuel + 1, total_released =>
    .atomic (.select .all_objects (isExpired now) fun found => releaseEach (batch found) (.done (batch found).length))
      fun released =>
        if released = 0 then .done total_released else releaseExpiredReservations now fuel (total_released + released)

def abandonStaleCarts (cutoff : Time) : Code Nat := .update .all_objects (isStale cutoff) abandoning .done

end CrossTenant

variable {w w' : World} {p : Record → Bool} {f : Record → Record} (events : Table ProcessedWebhookEvent)

/-! ## Statements as app_admin -/

theorem select_admin : w.select .app_admin .all_objects p =
    .ok (w.rows.rows.filter p, { w with seen := w.seen ++ w.rows.rows.filter p }) := by
  simp only [World.select, Manager.scope, World.visible, Table.selectBy, Bool.true_and]
  rfl

theorem update_admin : ∃ n, w.update .app_admin .all_objects p f =
    (orRaise .integrityError (w.rows.update p f)).map fun t => (n, { w with rows := t }) := by
  have sealed : ¬ w.rows.Leaks (fun _ => true) (fun r => true && p r) f := by
    rintro ⟨_, _, _, _, hidden⟩
    cases hidden
  refine ⟨(w.rows.selectBy (fun _ => true) fun r => true && p r).length, ?_⟩
  have guarded : require (¬ w.rows.Leaks (fun _ => true) (fun r => true && p r) f) World.violation = .ok () :=
    require_eq_ok.mpr sealed
  have done : w.put (w.rows.updateBy (fun _ => true) (fun r => true && p r) f) =
      (orRaise .integrityError (w.rows.update p f)).map fun t => { w with rows := t } := rfl
  simp only [World.update, Manager.scope, World.visible]
  change (require _ _ >>= fun _ => w.put _ >>= fun w' => pure (_, w')) = _
  rw [guarded, done]
  cases w.rows.update p f <;> rfl

/-! ## The same statements on the database the rows make up -/

section Statements

variable (t : Table Record)

theorem updateProducts_records {q : Product → Bool} {g : Product → Product} (acts : Record.products.Acts p f q g) :
    (Db.ofRecords events t).updateProducts q g =
      (orRaise .integrityError (t.update p f)).map (Db.ofRecords events) := by
  rw [Db.updateProducts, show (Db.ofRecords events t).products = Record.products.table t from rfl, ← acts.update t]
  cases written : t.update p f with
  | none => rfl
  | some t' =>
    refine congrArg Except.ok ?_
    rw [Db.ofRecords, Db.ofRecords, Db.mk.injEq]
    refine ⟨?_, ?_, rfl, ?_, ?_, ?_, ?_, ?_, ?_, ?_, ?_, ?_, ?_, rfl⟩ <;>
      exact (acts.other written fun r kind => by cases r <;> first | rfl | cases kind).symm

theorem updateCarts_records {q : Cart → Bool} {g : Cart → Cart} (acts : Record.carts.Acts p f q g) :
    (Db.ofRecords events t).updateCarts q g =
      (orRaise .integrityError (t.update p f)).map (Db.ofRecords events) := by
  rw [Db.updateCarts, show (Db.ofRecords events t).carts = Record.carts.table t from rfl, ← acts.update t]
  cases written : t.update p f with
  | none => rfl
  | some t' =>
    refine congrArg Except.ok ?_
    rw [Db.ofRecords, Db.ofRecords, Db.mk.injEq]
    refine ⟨?_, ?_, ?_, ?_, rfl, ?_, ?_, ?_, ?_, ?_, ?_, ?_, ?_, rfl⟩ <;>
      exact (acts.other written fun r kind => by cases r <;> first | rfl | cases kind).symm

theorem modifyReservations_records {q : InventoryReservation → Bool} {g : InventoryReservation → InventoryReservation}
    (acts : Record.reservations.Acts p f q g) (inert : Table.Inert g) :
    ∃ t', t.update p f = some t' ∧ (Db.ofRecords events t).modifyReservations q g inert = Db.ofRecords events t' := by
  have accepted : (Record.reservations.table t).update q g = some ((Record.reservations.table t).modify q g inert) :=
    Table.update_inert inert
  rw [← acts.update t] at accepted
  obtain ⟨t', written, whole⟩ := Option.map_eq_some_iff.mp accepted
  refine ⟨t', written, ?_⟩
  rw [Db.modifyReservations, Db.ofRecords, Db.ofRecords, Db.mk.injEq]
  refine ⟨?_, ?_, ?_, ?_, ?_, ?_, ?_, ?_, ?_, ?_, ?_, whole.symm, ?_, rfl⟩ <;>
    exact (acts.other written fun r kind => by cases r <;> first | rfl | cases kind).symm

end Statements

namespace CrossTenant

/-! ## What the statements of the sweeps do to their tables -/

theorem counting_acts (product : Id) (quantity : Int) :
    Record.products.Acts (isProduct product) (counting quantity) (fun p => Scope.sees none p.tenant && p.id == product)
      (counted .release quantity) := by
  constructor <;> intro r
  · intro a kind
    cases r <;> cases kind
    rfl
  · intro picked
    cases r <;> first | rfl | cases picked
  · intro a kind
    cases r <;> cases kind
    rfl

theorem releasing_acts (id : Id) :
    Record.reservations.Acts (isReservation id) releasing (fun r => r.id == id)
      fun r => { r with status := .released } := by
  constructor <;> intro r
  · intro a kind
    cases r <;> cases kind
    rfl
  · intro picked
    cases r <;> first | rfl | cases picked
  · intro a kind
    cases r <;> cases kind
    rfl

theorem reopening_acts (cart : Id) :
    Record.carts.Acts (isHeldCart cart) reopening (fun c => c.id == cart && c.status == .checkingOut)
      fun c => { c with status := .active } := by
  constructor <;> intro r
  · intro a kind
    cases r <;> cases kind
    rfl
  · intro picked
    cases r <;> first | rfl | cases picked
  · intro a kind
    cases r <;> cases kind
    rfl

theorem abandoning_acts (cutoff : Time) :
    Record.carts.Acts (isStale cutoff) abandoning (fun c => c.status == .active && decide (c.updated_at < cutoff))
      fun c => { c with status := .abandoned } := by
  constructor <;> intro r
  · intro a kind
    cases r <;> cases kind
    rfl
  · intro picked
    cases r <;> first | rfl | cases picked
  · intro a kind
    cases r <;> cases kind
    rfl

theorem batch_expired (now : Time) (t : Table Record) :
    batch (t.rows.filter (isExpired now)) = (expired now (Db.ofRecords events t)).take 100 := by
  refine congrArg (List.take 100) (Record.reservations.rows_filter_eq (fun r a kind => ?_) t.rows)
  cases r <;> cases kind
  rfl

/-! ## The sweeps as app_admin -/

theorem run_written {next : Code Nat} {t : Table Record} (written : w.rows.update p f = some t) :
    (Code.update .all_objects p f fun _ => next).run .app_admin w = next.run .app_admin { w with rows := t } := by
  obtain ⟨n, done⟩ := update_admin (w := w) (p := p) (f := f)
  rw [Code.run, done, written]
  rfl

theorem run_refused {next : Code Nat} (refused : w.rows.update p f = none) :
    (Code.update .all_objects p f fun _ => next).run .app_admin w = (.error .integrityError, w) := by
  obtain ⟨n, done⟩ := update_admin (w := w) (p := p) (f := f)
  rw [Code.run, done, refused]
  rfl

theorem releaseEach_admin (next : Code Nat) (rs : List InventoryReservation) (w : World) :
    (∃ t, rs.foldlM releaseExpiredOne (Db.ofRecords events w.rows) = .ok (Db.ofRecords events t) ∧
      (releaseEach rs next).run .app_admin w = next.run .app_admin { w with rows := t }) ∨
    ∃ e w', rs.foldlM releaseExpiredOne (Db.ofRecords events w.rows) = .error e ∧
      (releaseEach rs next).run .app_admin w = (.error e, w') := by
  induction rs generalizing w with
  | nil => exact .inl ⟨w.rows, rfl, rfl⟩
  | cons res rest ih =>
    simp only [List.foldlM_cons, releaseEach]
    have counts := updateProducts_records events w.rows (counting_acts res.product res.quantity)
    cases products : w.rows.update (isProduct res.product) (counting res.quantity) with
    | none =>
      refine .inr ⟨.integrityError, w, ?_, run_refused products⟩
      rw [products] at counts
      rw [releaseExpiredOne, settle, counts]
      rfl
    | some t₁ =>
      rw [products] at counts
      obtain ⟨t₂, released, saved⟩ :=
        modifyReservations_records events t₁ (releasing_acts res.id) ⟨fun _ => rfl, fun _ => rfl⟩
      have carts := updateCarts_records events t₂ (reopening_acts res.cart)
      have one : releaseExpiredOne (Db.ofRecords events w.rows) res =
          (orRaise .integrityError (t₂.update (isHeldCart res.cart) reopening)).map (Db.ofRecords events) := by
        rw [releaseExpiredOne, settle, counts, ← carts, ← saved]
        rfl
      rw [one, run_written products, run_written (w := { w with rows := t₁ }) released]
      cases reopened : t₂.update (isHeldCart res.cart) reopening with
      | none => exact .inr ⟨.integrityError, _, rfl, run_refused (w := { w with rows := t₂ }) reopened⟩
      | some t₃ =>
        rw [run_written (w := { w with rows := t₂ }) reopened]
        exact ih { w with rows := t₃ }

/-- As app_admin the sweep is that of the whole database. -/
theorem release_admin (now : Time) (fuel total_released : Nat) (w : World) :
    Db.ofRecords events ((releaseExpiredReservations now fuel total_released).run .app_admin w).2.rows =
        (releaseExpiredLoop .plain now fuel (Db.ofRecords events w.rows)).1 ∧
      ((releaseExpiredReservations now fuel total_released).run .app_admin w).1.map (fun _ => ()) =
        (releaseExpiredLoop .plain now fuel (Db.ofRecords events w.rows)).2 := by
  induction fuel generalizing total_released w with
  | zero => exact ⟨rfl, rfl⟩
  | succ fuel ih =>
    let read : World := { w.enter with seen := w.seen ++ w.rows.rows.filter (isExpired now) }
    let due := expired now (Db.ofRecords events w.rows)
    have body : (Code.select .all_objects (isExpired now) fun found =>
        releaseEach (batch found) (.done (batch found).length)).run .app_admin w.enter =
          (releaseEach (due.take 100) (.done (due.take 100).length)).run .app_admin read := by
      rw [Code.run, select_admin, ← batch_expired events now w.rows]
      rfl
    have model : releaseExpiredBatch .plain now (Db.ofRecords events w.rows) =
        (due.take 100).foldlM releaseExpiredOne (Db.ofRecords events w.rows) := rfl
    rw [releaseExpiredReservations, Code.run, body, releaseExpiredLoop]
    have same : Db.ofRecords events read.rows = Db.ofRecords events w.rows := rfl
    have each := releaseEach_admin events (.done (due.take 100).length) (due.take 100) read
    rw [same] at each
    rcases each with ⟨t, gives, done⟩ | ⟨e, w', raises, stopped⟩
    · rw [done]
      by_cases none : due = []
      · have kept : Db.ofRecords events t = Db.ofRecords events w.rows := by
          rw [none] at gives
          exact (Except.ok.inj gives).symm
        rw [if_pos none]
        simp only [Code.run, none, List.take_nil, List.length_nil, if_true]
        exact ⟨kept, rfl⟩
      · have some : (due.take 100).length ≠ 0 := by simp [none]
        rw [if_neg none, model, gives]
        simp only [Code.run, if_neg some]
        exact ih (total_released + (due.take 100).length) _
    · have some : due ≠ [] := by
        intro none
        rw [none] at raises
        cases raises
      rw [stopped, if_neg some, model, raises]
      exact ⟨rfl, rfl⟩

theorem abandon_admin (cutoff : Time) (w : World) :
    (((abandonStaleCarts cutoff).run .app_admin w).1.map fun _ =>
        Db.ofRecords events ((abandonStaleCarts cutoff).run .app_admin w).2.rows) =
      Storefront.abandonStaleCarts cutoff (Db.ofRecords events w.rows) := by
  have carts := updateCarts_records events w.rows (abandoning_acts cutoff)
  rw [Storefront.abandonStaleCarts, carts]
  obtain ⟨n, done⟩ := update_admin (w := w) (p := isStale cutoff) (f := abandoning)
  rw [abandonStaleCarts, Code.run, done]
  cases w.rows.update (isStale cutoff) abandoning <;> rfl

/-! ## The sweeps as app_user -/

-- The policy shows nothing; where a tenant was named before, it cannot even be evaluated.
theorem visible_idle (rests : w.session.Rests) :
    w.visible .app_user = if w.session.named then .error .dataError else .ok fun _ => false := by
  have listed (r : Record) : decide (r.db_table ∉ TENANT_TABLES) = false := by simp [r.db_table_secured]
  rw [World.visible, rests.read]
  split
  · rfl
  · simp only [Reading.policy, orRaise, Except.map, listed, Bool.or_self]

def blind (w : World) : Except Exn Nat := if w.session.named then .error .dataError else .ok 0

theorem release_user (rests : w.session.Rests) (now : Time) (fuel : Nat) :
    (releaseExpiredReservations now (fuel + 1) 0).run .app_user w = (blind w, w) := by
  have inner : w.enter.visible .app_user = w.visible .app_user := rfl
  have found : w.enter.select .app_user .all_objects (isExpired now) =
      if w.session.named then .error .dataError else .ok ([], w.enter) := by
    simp only [World.select, Manager.scope, inner, visible_idle rests]
    split
    · rfl
    · simp [Table.selectBy, bind, Except.bind, pure, Except.pure, World.enter]
  rw [releaseExpiredReservations, Code.run, Code.run, found, blind]
  cases w.session.named with
  | true => rfl
  | false =>
    change (Except.ok 0, w.enter.commit) = (Except.ok 0, w)
    rw [World.commit, World.enter, Session.commit_enter]

theorem abandon_user (rests : w.session.Rests) (cutoff : Time) :
    (abandonStaleCarts cutoff).run .app_user w = (blind w, w) := by
  have touched : w.update .app_user .all_objects (isStale cutoff) abandoning =
      if w.session.named then .error .dataError else .ok (0, w) := by
    have nothing : w.rows.selectBy (fun _ => false) (fun r => true && isStale cutoff r) = [] := by simp [Table.selectBy]
    have closed : ¬ w.rows.Leaks (fun _ => false) (fun r => true && isStale cutoff r) abandoning := by
      rintro ⟨_, _, shown, _⟩
      cases shown
    simp only [World.update, Manager.scope, visible_idle rests]
    split
    · rfl
    · change (require _ _ >>= fun _ => w.put _ >>= fun w' => pure (_, w')) = _
      rw [(require_eq_ok (u := ())).mpr closed, Table.updateBy_hidden fun _ _ => rfl, nothing]
      rfl
  rw [abandonStaleCarts, Code.run, touched, blind]
  cases w.session.named <;> rfl

end CrossTenant

/-- Wherever a run of a worker gets to, a sweep over all tenants does what it does to the whole database exactly if the
connection bypasses the policy, or if there is nothing for it to do. -/
theorem sweeps_need_bypass {app : Application Nat} {p₀ p : Process} {moves : List (Move Process (Job Nat))}
    (run : app.worker.Run p₀ moves p) (events : Table ProcessedWebhookEvent) :
    ∀ move ∈ moves, ∀ before after, before = Db.ofRecords events move.before.world.rows →
      after = Db.ofRecords events move.after.world.rows →
        (∀ now, move.label = .durable (CrossTenant.releaseExpiredReservations now ((expired now before).length + 1) 0) →
          (after = (releaseExpiredReservations .plain now before).1 ↔
            app.role = .app_admin ∨ (releaseExpiredReservations .plain now before).1 = before)) ∧
        (∀ cutoff, move.label = .durable (CrossTenant.abandonStaleCarts cutoff) →
          ∀ db, abandonStaleCarts cutoff before = .ok db → (after = db ↔ app.role = .app_admin ∨ db = before)) ∧
        (app.role = .app_user →
          (∃ now fuel, move.label = .durable (CrossTenant.releaseExpiredReservations now (fuel + 1) 0)) ∨
            (∃ cutoff, move.label = .durable (CrossTenant.abandonStaleCarts cutoff)) →
          move.after.world = move.before.world) := by
  rintro move member before after rfl rfl
  obtain ⟨idle, done⟩ := Application.idle_before run move member
  refine ⟨fun now job => ?_, fun cutoff job db swept => ?_, fun user job => ?_⟩
  · rw [← done, job, releaseExpiredReservations]
    simp only [Application.work]
    cases app.role with
    | app_admin =>
      have same := CrossTenant.release_admin events now
        ((expired now (Db.ofRecords events move.before.world.rows)).length + 1) 0 move.before.world
      simp [same.1]
    | app_user =>
      rw [CrossTenant.release_user idle.2]
      simp [eq_comm]
  · rw [← done, job]
    simp only [Application.work]
    cases app.role with
    | app_admin =>
      have same := CrossTenant.abandon_admin events cutoff move.before.world
      rw [swept] at same
      obtain ⟨_, _, whole⟩ := map_eq_ok.mp same
      simp [whole]
    | app_user =>
      rw [CrossTenant.abandon_user idle.2]
      simp [eq_comm]
  · rw [← done]
    rcases job with ⟨now, fuel, job⟩ | ⟨cutoff, job⟩
    · rw [job]
      simp only [Application.work, user]
      rw [CrossTenant.release_user idle.2]
    · rw [job]
      simp only [Application.work, user]
      rw [CrossTenant.abandon_user idle.2]

namespace Sample

def heldCart : Cart := { cart with status := .checkingOut }

def overdueHold : InventoryReservation :=
  { id := 70, tenant := 1, cart := 40, order := none, product := 30, quantity := 2, expires_at := 900
    status := .active }

def held : Table Record where
  rows := [.product { product with reserved_quantity := 2 }, .cart heldCart, .inventoryReservation overdueHold]
  unique := by decide +kernel
  checked := by decide +kernel

-- The workers of docker-compose.infra.yml connect as app_user.
def composeWorker : Application Nat where
  routing := webRouting
  role := .app_user
  TESTING_DISABLE_AUTH := false
  uuid _ := none
  view _ _ _ := .done 0

def started : Process where
  tenants := directory.tenants
  world := { current_tenant := none, session := ⟨none, [], false⟩, rows := held, seen := [] }

def beat : Job Nat := .durable (CrossTenant.releaseExpiredReservations 1000 2 0)

theorem beat_runs : composeWorker.worker.Run started [⟨started, beat, composeWorker.work started beat⟩]
    (composeWorker.work started beat) := by
  have idle : composeWorker.worker.Run started [] started := .start ⟨rfl, rfl, rfl⟩
  exact idle.step rfl

end Sample

theorem sweeps_need_bypass_compose :
    Db.ofRecords ∅ (Sample.composeWorker.work Sample.started Sample.beat).world.rows ≠
      (releaseExpiredReservations .plain 1000 (Db.ofRecords ∅ Sample.held)).1 := by
  have exactly := (sweeps_need_bypass Sample.beat_runs ∅ _ (List.mem_singleton.mpr rfl) _ _ rfl rfl).1 1000 rfl
  intro same
  rcases exactly.mp same with bypass | idle
  · cases bypass
  · have released := congrArg (fun db => db.reservations.rows.map InventoryReservation.status) idle
    revert released
    decide +kernel

end Storefront
