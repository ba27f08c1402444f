import Storefront.Tenancy.Layers
import Storefront.Tenants.Resolver
import Storefront.Transition.Machine

set_option autoImplicit false

/-!
# A worker process and its jobs

A web worker takes one request after the other through the middleware, a task
worker one task after the other, each on one connection that it keeps. Both enter a
tenant's context and name the tenant on the connection, and leave both again.
-/

namespace Storefront

open Relational Transition Text

def AUTH_EXEMPT_PATHS : List String := ["/api/v1/health", "/api/v1/admin/"]

structure HttpRequest where
  path : String
  host : String
  -- request.META.get(HEADER, "")
  HTTP_X_CUSTOMER_ID : String
  deriving DecidableEq, Repr

def HttpRequest.customer_id (request : HttpRequest) : String := String.ofList (strip request.HTTP_X_CUSTOMER_ID.toList)

-- An exception never reaches the middleware around it: it becomes the response of a server error.
inductive Response (ν : Type)
  | view (user : Option Record) (result : Except Exn ν)
  | error (code : String) (status : Nat)
  | serverError (e : Exn)

structure Application (ν : Type) where
  routing : Routing
  role : DatabaseRole
  TESTING_DISABLE_AUTH : Bool
  -- uuid.UUID
  uuid : String → Option Id
  view : HttpRequest → Option Tenant → Option Record → Code ν

variable {ν : Type}

namespace Application

variable (app : Application ν) (tenants : Table Tenant) (request : HttpRequest)

-- ATOMIC_REQUESTS
def callView (tenant : Option Tenant) (user : Option Record) (w : World) : Response ν × World :=
  let (result, w') := (Code.atomic (app.view request tenant user) .done).run app.role w
  (.view user result, w')

def isCustomer (customer_id : Id) (r : Record) : Bool := r.db_table == "customers_customer" && r.id == customer_id

def isActiveCustomer : Record → Bool
  | .customer _ is_active => is_active
  | _ => false

-- CustomerAuthMiddleware
def authenticate (tenant : Option Tenant) (w : World) : Response ν × World :=
  if isExempt request.path GLOBAL_EXEMPT_PATHS || isExempt request.path AUTH_EXEMPT_PATHS ||
      app.TESTING_DISABLE_AUTH then
    app.callView request tenant none w
  else if request.customer_id = "" then (.error "missing_customer_id" 401, w)
  else match app.uuid request.customer_id with
    -- Not the ValueError that the middleware catches
    | none => (.serverError (.validationError "id" s!"“{request.customer_id}” is not a valid UUID."), w)
    | some id => match w.select app.role .objects (isCustomer id) with
      | .error e => (.serverError e, w)
      | .ok ([], w') => (.error "customer_not_found" 401, w')
      | .ok (user :: _, w') =>
        if isActiveCustomer user then app.callView request tenant (some user) w'
        else (.error "customer_not_found" 401, w')

-- TenantDBSessionMiddleware
def openSession (tenant : Option Tenant) (w : World) : Response ν × World :=
  match w.current_tenant with
  | none => app.authenticate request tenant w
  | some tenant_id =>
    let (response, w') := app.authenticate request tenant { w with session := w.session.enter.setLocal tenant_id }
    (response, w'.commit)

-- TenantResolverMiddleware
def serve (w : World) : Response ν × World :=
  match TenantResolverMiddleware.call app.routing tenants request.path request.host with
  | .exempt => app.openSession request none w
  | .tenant tenant =>
    let (response, w') := app.openSession request (some tenant) { w with current_tenant := some tenant.id }
    (response, { w' with current_tenant := w.current_tenant })
  | .disallowedHost => (.error "" 400, w)
  | .error code status => (.error code status, w)

end Application

-- Names the tenant in the context and on the connection, and clears both whatever the code raises.
def asTenant (role : DatabaseRole) (tenant_id : Id) (run : Code ν) (w : World) : Except Exn ν × World :=
  let (result, w') := run.run role { w with current_tenant := some tenant_id, session := w.session.set tenant_id }
  (result, { w' with current_tenant := w.current_tenant, session := w'.session.reset })

def TenantAwareTask.call (role : DatabaseRole) (name : String) (args : Option Id) (run : Code ν) (w : World) :
    Except Exn ν × World :=
  match args with
  | none => (.error (.other s!"{name} must be called with tenant_id as first argument"), w)
  | some tenant_id => asTenant role tenant_id run w

inductive Job (ν : Type)
  | request (request : HttpRequest)
  | task (name : String) (args : Option Id) (run : Code ν)
  -- A DurableTask enters no tenant's context.
  | durable (run : Code ν)
  -- _reconcile_one, with the tenant that it read through the admin connection
  | reconcileOne (tenant_id : Id) (body : Code ν)
  -- What other processes have committed meanwhile
  | elsewhere (tenants : Table Tenant) (rows : Table Record)

structure Process where
  tenants : Table Tenant
  world : World

def Routed.tenant_id : Routed → Option Id
  | .tenant t => some t.id
  | .exempt | .disallowedHost | .error _ _ => none

def World.Idle (w : World) : Prop := w.current_tenant = none ∧ w.session.Rests

namespace Application

variable (app : Application ν)

def work (p : Process) : Job ν → Process
  | .request request => { p with world := (app.serve p.tenants request p.world).2 }
  | .task name args run => { p with world := (TenantAwareTask.call app.role name args run p.world).2 }
  | .durable run => { p with world := (run.run app.role p.world).2 }
  | .reconcileOne tenant_id body => { p with world := (asTenant app.role tenant_id (.atomic body .done) p.world).2 }
  | .elsewhere tenants rows => { tenants, world := { p.world with rows } }

def worker : Machine Process (Job ν) where
  Start p := p.world.Idle
  step p job := some (app.work p job)

def routed (p : Process) (request : HttpRequest) : Routed :=
  TenantResolverMiddleware.call app.routing p.tenants request.path request.host

def tenantOf (p : Process) : Job ν → Option Id
  | .request request => (app.routed p request).tenant_id
  | .task _ args _ => args
  | .reconcileOne tenant_id _ => some tenant_id
  | .durable _ | .elsewhere _ _ => none

end Application

end Storefront
