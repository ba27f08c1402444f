import Storefront.Tenancy.Records

set_option autoImplicit false

/-!
# Code on the default connection

What application code may do there: query and write through one of the two
managers, save instances, open atomic blocks, catch what it raises, and enter
another tenant's context.
-/

namespace Storefront

open Relational Transition

-- app_admin has BYPASSRLS.
inductive DatabaseRole
  | app_user
  | app_admin
  deriving DecidableEq, Repr

inductive Manager
  | objects
  | all_objects
  deriving DecidableEq, Repr

structure Unsaved where
  -- type(self).__name__
  model : String
  tenant_id : Option Id
  fill : Id → Record
  filled : ∀ t, (fill t).tenant_id = t

inductive Code (ν : Type)
  | done (v : ν)
  | raise (e : Exn)
  | select (manager : Manager) (p : Record → Bool) (next : List Record → Code ν)
  | update (manager : Manager) (p : Record → Bool) (f : Record → Record) (next : Nat → Code ν)
  | delete (manager : Manager) (p : Record → Bool) (next : Nat → Code ν)
  -- save() of a new instance
  | create (draft : Unsaved) (next : Record → Code ν)
  -- save() of an instance with the primary key of a stored one
  | save (draft : Unsaved) (next : Record → Code ν)
  | atomic (body : Code ν) (next : ν → Code ν)
  | attempt (body : Code ν) (next : Except Exn ν → Code ν)
  -- with tenant_context(tenant_id)
  | within (tenant_id : Option Id) (body : Code ν) (next : ν → Code ν)

/-- A process with its context variable, its connection and the database behind it. -/
structure World where
  current_tenant : Option Id
  session : Session Id
  rows : Table Record
  -- What queries have returned.
  seen : List Record

-- TenantManager.get_queryset; without a context it is qs.none(), which asks the database nothing.
def Manager.scope (current_tenant : Option Id) : Manager → Option (Record → Bool)
  | .objects => current_tenant.map fun tenant_id r => r.tenant_id == tenant_id
  | .all_objects => some fun _ => true

namespace World

variable (role : DatabaseRole) (w : World)

-- The policy tenant_isolation: TO app_user, on the tables of the migration.
def visible : Outcome (Record → Bool) :=
  match role with
  | .app_admin => .ok fun _ => true
  | .app_user => (orRaise .dataError w.session.read.policy).map fun shows r =>
    decide (r.db_table ∉ TENANT_TABLES) || shows r.tenant_id

def violation : Exn := .other "new row violates row-level security policy"

def put (rows : Option (Table Record)) : Outcome World :=
  (orRaise .integrityError rows).map fun rows => { w with rows }

def select (manager : Manager) (p : Record → Bool) : Outcome (List Record × World) :=
  match manager.scope w.current_tenant with
  | none => .ok ([], w)
  | some scope => do
    let visible ← w.visible role
    let found := w.rows.selectBy visible fun r => scope r && p r
    return (found, { w with seen := w.seen ++ found })

def update (manager : Manager) (p : Record → Bool) (f : Record → Record) : Outcome (Nat × World) :=
  match manager.scope w.current_tenant with
  | none => .ok (0, w)
  | some scope => do
    let visible ← w.visible role
    let p := fun r => scope r && p r
    require (¬ w.rows.Leaks visible p f) violation
    let w' ← w.put (w.rows.updateBy visible p f)
    return ((w.rows.selectBy visible p).length, w')

def delete (manager : Manager) (p : Record → Bool) : Outcome (Nat × World) :=
  match manager.scope w.current_tenant with
  | none => .ok (0, w)
  | some scope => do
    let visible ← w.visible role
    let p := fun r => scope r && p r
    return ((w.rows.selectBy visible p).length, { w with rows := w.rows.deleteBy visible p })

-- TenantScopedModel.save up to super().save
def filled (draft : Unsaved) : Outcome Record :=
  (orRaise (.other (s!"Cannot save {draft.model} without tenant context. " ++
    "Set tenant via middleware or `with tenant_context(...)`.")) (draft.tenant_id.or w.current_tenant)).map draft.fill

def insert (row : Record) : Outcome World := do
  let visible ← w.visible role
  require (visible row = true) violation
  w.put (w.rows.insert row)

def create (draft : Unsaved) : Outcome (Record × World) := do
  let row ← w.filled draft
  let w' ← w.insert role row
  return (row, w')

-- UPDATE by primary key, and INSERT where it matched no row.
def save (draft : Unsaved) : Outcome (Record × World) := do
  let row ← w.filled draft
  let visible ← w.visible role
  if w.rows.selectBy visible row.same = [] then
    let w' ← w.insert role row
    return (row, w')
  else
    require (¬ w.rows.Leaks visible row.same fun _ => row) violation
    let w' ← w.put (w.rows.updateBy visible row.same fun _ => row)
    return (row, w')

def enter : World := { w with session := w.session.enter }

def commit : World := { w with session := w.session.commit }

def rollback (rows : Table Record) : World := { w with session := w.session.rollback, rows }

end World

-- A statement that raises leaves the world as it was.
def Code.after {ν α : Type} (w : World) (next : α → World → Except Exn ν × World) :
    Outcome (α × World) → Except Exn ν × World
  | .ok (a, w') => next a w'
  | .error e => (.error e, w)

def Code.run {ν : Type} (role : DatabaseRole) : Code ν → World → Except Exn ν × World
  | .done v, w => (.ok v, w)
  | .raise e, w => (.error e, w)
  | .select manager p next, w => after w (fun rows => (next rows).run role) (w.select role manager p)
  | .update manager p f next, w => after w (fun n => (next n).run role) (w.update role manager p f)
  | .delete manager p next, w => after w (fun n => (next n).run role) (w.delete role manager p)
  | .create draft next, w => after w (fun row => (next row).run role) (w.create role draft)
  | .save draft next, w => after w (fun row => (next row).run role) (w.save role draft)
  | .atomic body next, w =>
    match body.run role w.enter with
    | (.ok v, w') => (next v).run role w'.commit
    | (.error e, w') => (.error e, w'.rollback w.rows)
  | .attempt body next, w =>
    let (result, w') := body.run role w
    (next result).run role w'
  | .within tenant_id body next, w =>
    let (result, w') := body.run role { w with current_tenant := tenant_id }
    let restored := { w' with current_tenant := w.current_tenant }
    match result with
    | .ok v => (next v).run role restored
    | .error e => (.error e, restored)

end Storefront
