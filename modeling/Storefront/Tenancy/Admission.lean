import Storefront.Tenancy.Confinement

set_option autoImplicit false

/-!
# Whose requests reach a storefront view

The customer is looked up after the tenant is in force, so that the header of
another tenant's customer finds nobody.
-/

namespace Storefront

open Relational Transition Text

variable {ν : Type} {app : Application ν} {role : DatabaseRole} {w : World} {user : Option Record}

/-- Where both layers name a tenant, the manager returns this tenant's rows, whatever role asks. -/
theorem select_own {t : Id} (bound : w.Bound (some t)) (p : Record → Bool) :
    w.select role .objects p = .ok (w.rows.rows.filter (fun r => r.tenant_id == t && p r),
      { w with seen := w.seen ++ w.rows.rows.filter (fun r => r.tenant_id == t && p r) }) := by
  have named := Reading.owner?_eq_some.mp bound.named
  obtain ⟨visible, shown, sees⟩ :
      ∃ visible, w.visible role = .ok visible ∧ ∀ r, r.tenant_id = t → visible r = true := by
    cases role with
    | app_user =>
      refine ⟨_, by rw [World.visible, named]; rfl, fun r own => ?_⟩
      simp [own]
    | app_admin => exact ⟨_, rfl, fun _ _ => rfl⟩
  have same : w.rows.selectBy visible (fun r => r.tenant_id == t && p r) =
      w.rows.rows.filter fun r => r.tenant_id == t && p r := by
    refine List.filter_congr fun r _ => ?_
    by_cases own : r.tenant_id = t
    · simp [sees r own]
    · simp [own]
  simp only [World.select, Manager.scope, bound.context, Option.map_some, shown]
  rw [← same]
  rfl

namespace Application

/-- The host names an active tenant, and the header an active customer of it. -/
structure Admits (app : Application ν) (p : Process) (request : HttpRequest) (tenant : Tenant)
    (c : Customer) : Prop where
  routed : app.routed p request = .tenant tenant
  given : request.customer_id ≠ ""
  named : app.uuid (request.customer_id) = some c.id
  stored : Record.customer c true ∈ p.world.rows.rows
  own : c.tenant = tenant.id

theorem isCustomer_record {id : Id} {r : Record} (found : isCustomer id r = true) :
    ∃ c is_active, r = .customer c is_active ∧ c.id = id := by
  simp only [isCustomer, Bool.and_eq_true, beq_iff_eq] at found
  obtain ⟨table, key⟩ := found
  cases r <;> simp [Record.db_table] at table
  next c is_active => exact ⟨c, is_active, rfl, key⟩

theorem callView_view {request : HttpRequest} {tenant : Option Tenant} {given : Option Record} :
    (∃ result, (app.callView request tenant given w).1 = .view user result) ↔ user = given := by
  unfold callView
  generalize (Code.atomic (app.view request tenant given) .done).run app.role w = out
  obtain ⟨result, w'⟩ := out
  constructor
  · rintro ⟨_, same⟩
    cases same
    rfl
  · rintro rfl
    exact ⟨result, rfl⟩

theorem authenticate_view (user : Option Record) (tenant : Option Tenant) {request : HttpRequest} {t : Id}
    (bound : w.Bound (some t))
    (guarded : isExempt request.path GLOBAL_EXEMPT_PATHS = false)
    (authenticated : isExempt request.path AUTH_EXEMPT_PATHS = false) (deployed : app.TESTING_DISABLE_AUTH = false) :
    (∃ result, (app.authenticate request tenant w).1 = .view user result) ↔
      ∃ c, user = some (.customer c true) ∧ request.customer_id ≠ "" ∧ app.uuid (request.customer_id) = some c.id ∧
        Record.customer c true ∈ w.rows.rows ∧ c.tenant = t := by
  unfold authenticate
  rw [guarded, authenticated, deployed]
  simp only [Bool.or_self, Bool.false_eq_true, if_false]
  by_cases blank : request.customer_id = ""
  · simp [blank]
  cases parsed : app.uuid request.customer_id with
  | none => simp [blank]
  | some id =>
    rw [if_neg blank]
    simp only [select_own bound]
    generalize listed : w.rows.rows.filter (fun r => r.tenant_id == t && isCustomer id r) = found
    have picked (r : Record) : r ∈ found ↔ r ∈ w.rows.rows ∧ r.tenant_id = t ∧ isCustomer id r = true := by
      simp [← listed]
    have known {c : Customer} (key : id = c.id) (stored : Record.customer c true ∈ w.rows.rows) (own : c.tenant = t) :
        Record.customer c true ∈ found := by
      refine (picked _).mpr ⟨stored, own, ?_⟩
      simp [isCustomer, Record.db_table, Record.id, key]
    cases found with
    | nil =>
      constructor
      · rintro ⟨_, same⟩
        cases same
      · rintro ⟨c, _, _, key, stored, own⟩
        cases known (Option.some.inj key) stored own
    | cons r rest =>
      obtain ⟨present, own, chosen⟩ := (picked r).mp List.mem_cons_self
      obtain ⟨c, is_active, rfl, rfl⟩ := isCustomer_record chosen
      have only {c' : Customer} (key : c.id = c'.id) (stored : Record.customer c' true ∈ w.rows.rows) :
          Record.customer c' true = .customer c is_active :=
        Record.eq_of_same stored present (Record.same_iff.mpr ⟨rfl, key.symm⟩)
      cases is_active with
      | true =>
        simp only [isActiveCustomer, if_true, callView_view]
        constructor
        · rintro rfl
          exact ⟨c, rfl, blank, rfl, present, own⟩
        · rintro ⟨c', rfl, _, key, stored, _⟩
          rw [only (Option.some.inj key) stored]
      | false =>
        constructor
        · rintro ⟨_, same⟩
          cases same
        · rintro ⟨c', _, _, key, stored, _⟩
          cases only (Option.some.inj key) stored

theorem authenticate_unknown {tenant : Option Tenant} {request : HttpRequest} {t id : Id} (bound : w.Bound (some t))
    (guarded : isExempt request.path GLOBAL_EXEMPT_PATHS = false)
    (authenticated : isExempt request.path AUTH_EXEMPT_PATHS = false) (deployed : app.TESTING_DISABLE_AUTH = false)
    (given : request.customer_id ≠ "") (parsed : app.uuid request.customer_id = some id)
    (nobody : ∀ c, Record.customer c true ∈ w.rows.rows → c.id = id → c.tenant ≠ t) :
    (app.authenticate request tenant w).1 = .error "customer_not_found" 401 := by
  unfold authenticate
  rw [guarded, authenticated, deployed]
  simp only [Bool.or_self, Bool.false_eq_true, if_false, if_neg given, parsed, select_own bound]
  generalize listed : w.rows.rows.filter (fun r => r.tenant_id == t && isCustomer id r) = found
  cases found with
  | nil => rfl
  | cons r rest =>
    have picked : r ∈ w.rows.rows ∧ r.tenant_id = t ∧ isCustomer id r = true := by
      have inside : r ∈ w.rows.rows.filter (fun r => r.tenant_id == t && isCustomer id r) := by simp [listed]
      simpa using inside
    obtain ⟨c, is_active, rfl, named⟩ := isCustomer_record picked.2.2
    cases is_active with
    | true => exact absurd picked.2.1 (nobody c picked.1 named)
    | false => rfl

theorem authenticate_refused {request : HttpRequest} {tenant : Option Tenant}
    (refused : ∀ user, ¬ ∃ result, (app.authenticate request tenant w).1 = .view user result) :
    (app.authenticate request tenant w).2.rows = w.rows := by
  have called {given : Option Record} {w : World} :
      ∃ result, (app.callView request tenant given w).1 = .view given result :=
    callView_view.mpr rfl
  have reach : w.Reaches app.role .objects (w.current_tenant = some ·) := reaches_own rfl
  revert refused
  unfold authenticate
  split
  · exact fun refused => (refused _ called).elim
  · split
    · exact fun _ => rfl
    · split
      · exact fun _ => rfl
      · split
        · exact fun _ => rfl
        next absent => exact fun _ => (select_confined reach absent).2.2
        next found =>
          split
          · exact fun refused => (refused _ called).elim
          · exact fun _ => (select_confined reach found).2.2

end Application

open Application

theorem TenantResolverMiddleware.call_guarded {routing : Routing} {tenants : Table Tenant} {path host : String}
    (guarded : isExempt path GLOBAL_EXEMPT_PATHS = false) : call routing tenants path host ≠ .exempt := by
  unfold call
  rw [guarded]
  simp only [Bool.false_eq_true, if_false]
  split
  · split
    · simp
    · split <;> simp
  · simp

/-- On a guarded path a view is called exactly with the active customer that the header names, for the tenant that the
host names, and only if the customer is one of this tenant; otherwise the request writes nothing. Whether an id that
does not let in is another tenant's makes no difference to the answer. -/
theorem customers_admitted_iff (app : Application ν) (p : Process) (request : HttpRequest)
    (guarded : isExempt request.path GLOBAL_EXEMPT_PATHS = false)
    (authenticated : isExempt request.path AUTH_EXEMPT_PATHS = false) (deployed : app.TESTING_DISABLE_AUTH = false) :
    (∀ user, (∃ result, (app.serve p.tenants request p.world).1 = .view user result) ↔
      ∃ tenant c, app.Admits p request tenant c ∧ user = some (.customer c true)) ∧
    ((¬ ∃ tenant c, app.Admits p request tenant c) →
      (app.serve p.tenants request p.world).2.rows = p.world.rows) ∧
    (∀ tenant id, app.routed p request = .tenant tenant → request.customer_id ≠ "" →
      app.uuid request.customer_id = some id →
      (∀ c, Record.customer c true ∈ p.world.rows.rows → c.id = id → c.tenant ≠ tenant.id) →
      (app.serve p.tenants request p.world).1 = .error "customer_not_found" 401) := by
  have elsewhere {tenant : Tenant} {c : Customer} (admits : app.Admits p request tenant c) :
      TenantResolverMiddleware.call app.routing p.tenants request.path request.host = .tenant tenant := admits.routed
  unfold serve
  cases routed : TenantResolverMiddleware.call app.routing p.tenants request.path request.host with
  | exempt => exact absurd routed (TenantResolverMiddleware.call_guarded guarded)
  | disallowedHost =>
    refine ⟨fun user => ⟨?_, ?_⟩, fun _ => rfl, fun _ _ same => by cases routed.symm.trans same⟩
    · rintro ⟨_, same⟩
      cases same
    · rintro ⟨_, _, admits, _⟩
      cases routed.symm.trans (elsewhere admits)
  | error code status =>
    refine ⟨fun user => ⟨?_, ?_⟩, fun _ => rfl, fun _ _ same => by cases routed.symm.trans same⟩
    · rintro ⟨_, same⟩
      cases same
    · rintro ⟨_, _, admits, _⟩
      cases routed.symm.trans (elsewhere admits)
  | tenant t =>
    let named : World :=
      { p.world with current_tenant := some t.id, session := p.world.session.enter.setLocal t.id }
    have bound : named.Bound (some t.id) := ⟨rfl, rfl⟩
    have reached (user : Option Record) := authenticate_view user (some t) bound guarded authenticated deployed
    have admitted (user : Option Record) :
        (∃ result, (app.authenticate request (some t) named).1 = .view user result) ↔
          ∃ tenant c, app.Admits p request tenant c ∧ user = some (.customer c true) := by
      rw [reached user]
      constructor
      · rintro ⟨c, rfl, given, key, stored, own⟩
        exact ⟨t, c, ⟨routed, given, key, stored, own⟩, rfl⟩
      · rintro ⟨tenant, c, admits, rfl⟩
        cases routed.symm.trans (elsewhere admits)
        exact ⟨c, rfl, admits.given, admits.named, admits.stored, admits.own⟩
    refine ⟨admitted, fun nobody => ?_, fun tenant id same given parsed nobody => ?_⟩
    · have refused (user : Option Record) :
          ¬ ∃ result, (app.authenticate request (some t) named).1 = .view user result := by
        rw [admitted user]
        rintro ⟨tenant, c, admits, _⟩
        exact nobody ⟨tenant, c, admits⟩
      exact authenticate_refused refused
    · cases routed.symm.trans same
      exact authenticate_unknown bound guarded authenticated deployed given parsed nobody

namespace Sample

def uuidOfCustomer : String := "00000000-0000-0000-0000-00000000000a"

def counter : Application Unit where
  routing := webRouting
  role := .app_user
  TESTING_DISABLE_AUTH := false
  uuid text := if text = uuidOfCustomer then some 10 else none
  view _ _ _ := .done ()

def shoppers : Table Record where
  rows := [.customer customer true]
  unique := by decide
  checked := by simp [Schema.check, Record.check]

def frontDoor : Process where
  tenants := directory.tenants
  world := { current_tenant := none, session := ⟨none, [], true⟩, rows := shoppers, seen := [] }

def cartAt (host : String) : HttpRequest :=
  { path := "/api/v1/cart", host, HTTP_X_CUSTOMER_ID := " " ++ uuidOfCustomer }

def atStoreA := counter.serve frontDoor.tenants (cartAt "store-a.acme.test") frontDoor.world
def atMyShop := counter.serve frontDoor.tenants (cartAt "myshop.acme.test") frontDoor.world

end Sample

theorem customers_admitted_here_only :
    (∃ result, Sample.atStoreA.1 = .view (some (.customer Sample.customer true)) result) ∧
      ∀ user, ¬ ∃ result, Sample.atMyShop.1 = .view user result := by
  have here := customers_admitted_iff Sample.counter Sample.frontDoor (Sample.cartAt "store-a.acme.test")
    (by decide +kernel) (by decide +kernel) rfl
  have there := customers_admitted_iff Sample.counter Sample.frontDoor (Sample.cartAt "myshop.acme.test")
    (by decide +kernel) (by decide +kernel) rfl
  constructor
  · refine (here.1 _).mpr ⟨Sample.storeA, Sample.customer, ⟨?_, ?_, ?_, ?_, ?_⟩, rfl⟩
    · decide +kernel
    · decide +kernel
    · decide +kernel
    · simp [Sample.frontDoor, Sample.shoppers]
    · rfl
  · intro user
    rw [Sample.atMyShop, there.1 user]
    rintro ⟨tenant, c, admits, _⟩
    have routed :
        Sample.counter.routed Sample.frontDoor (Sample.cartAt "myshop.acme.test") = .tenant Sample.another := by
      decide +kernel
    have stored := admits.stored
    have own := admits.own
    cases routed.symm.trans admits.routed
    simp only [Sample.frontDoor, Sample.shoppers, List.mem_singleton] at stored
    cases stored
    revert own
    decide

end Storefront
