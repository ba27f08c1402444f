import Storefront.Models.Fields

set_option autoImplicit false

/-!
# Tenants and the names they are reached by

The platform admin creates tenants and edits them; the subdomain stays.
-/

namespace Storefront

open Relational Transition Text

structure Tenant where
  id : Id
  name : String
  subdomain : String
  default_currency : String := "SAR"
  is_active : Bool := true
  deriving DecidableEq, Repr

-- unique=True on the subdomain, and the lengths of the columns
instance : Keyed Tenant :=
  keyedBy Tenant.id (fun t => [.text t.subdomain]) fun t =>
    decide (t.name.toList.length ≤ 255) && (decide (t.subdomain.toList.length ≤ 63) &&
      decide (t.default_currency.toList.length ≤ 3))

def TENANT_RESERVED_SUBDOMAINS : List String := ["www", "api", "admin", "static", "media"]

-- ^[-a-zA-Z0-9_]+$
def isSlugChar (c : Char) : Bool := c.isAlphanum || c == '-' || c == '_'

def slugField (field : String) (max_length : Nat) (raw : String) : Outcome String := do
  let value ← charField field max_length raw
  require (value.toList.all isSlugChar = true)
    (.validationError field "Enter a valid \"slug\" consisting of letters, numbers, underscores or hyphens.")
  return value

namespace TenantCreateSerializer

def validateSubdomain (value : String) : Outcome String := do
  require (value ∉ TENANT_RESERVED_SUBDOMAINS) (.validationError "subdomain" s!"`{value}` is a reserved subdomain.")
  return value

-- What becomes of the subdomain in the request, the unique check apart.
def subdomain (raw : String) : Outcome String := do
  let value ← slugField "subdomain" 63 raw
  validateSubdomain value

end TenantCreateSerializer

structure TenantCreate where
  name : String
  subdomain : String
  default_currency : String := "SAR"
  is_active : Bool := true

structure TenantUpdate where
  name : Option String := none
  default_currency : Option String := none
  is_active : Option Bool := none

def putTenants (table : Option (Table Tenant)) : Outcome (Table Tenant) := orRaise .integrityError table

-- PlatformTenantListCreateView.post
def createTenant (id : Id) (data : TenantCreate) (tenants : Table Tenant) : Outcome (Table Tenant) := do
  let name ← charField "name" 255 data.name
  let subdomain ← TenantCreateSerializer.subdomain data.subdomain
  require (∀ t ∈ tenants.rows, t.subdomain ≠ subdomain)
    (.validationError "subdomain" "tenant with this subdomain already exists.")
  let default_currency ← charField "default_currency" 3 data.default_currency
  putTenants (tenants.insert { id, name, subdomain, default_currency, is_active := data.is_active })

-- PlatformTenantDetailView.patch
def updateTenant (tenant : Id) (data : TenantUpdate) (tenants : Table Tenant) : Outcome (Table Tenant) := do
  let t ← orRaise (.resourceNotFound "Tenant not found") (tenants.get tenant)
  let name ← data.name.mapM (charField "name" 255)
  let default_currency ← data.default_currency.mapM (charField "default_currency" 3)
  putTenants (tenants.update (fun row => row.id == t.id) fun row =>
    { row with
      name := name.getD row.name
      default_currency := default_currency.getD row.default_currency
      is_active := data.is_active.getD row.is_active })

/-! ## Accepted subdomains -/

def AcceptedSubdomain (value : String) : Prop := ∃ raw, TenantCreateSerializer.subdomain raw = .ok value

theorem AcceptedSubdomain.slug {value : String} (accepted : AcceptedSubdomain value) :
    value.toList ≠ [] ∧ (∀ c ∈ value.toList, isSlugChar c = true) ∧ value ∉ TENANT_RESERVED_SUBDOMAINS := by
  obtain ⟨raw, done⟩ := accepted
  simp only [TenantCreateSerializer.subdomain, slugField, TenantCreateSerializer.validateSubdomain, bind_eq_ok,
    charField_eq_ok, require_eq_ok, pure_eq_ok] at done
  obtain ⟨slug, ⟨_, ⟨_, filled, _, _⟩, _, allowed, rfl⟩, _, free, rfl⟩ := done
  exact ⟨fun blank => filled (String.toList_inj.mp blank), List.all_eq_true.mp allowed, free⟩

/-- Tenants whose subdomains the serializer accepted. -/
structure Directory where
  tenants : Table Tenant
  accepted : ∀ t ∈ tenants.rows, AcceptedSubdomain t.subdomain

namespace Directory

def empty : Directory := ⟨∅, by simp⟩

theorem created {id : Id} {data : TenantCreate} {tenants tenants' : Table Tenant}
    (done : createTenant id data tenants = .ok tenants') (accepted : ∀ t ∈ tenants.rows, AcceptedSubdomain t.subdomain) :
    ∀ t ∈ tenants'.rows, AcceptedSubdomain t.subdomain := by
  simp only [createTenant, putTenants, bind_eq_ok, require_eq_ok, orRaise_eq_ok] at done
  obtain ⟨_, _, subdomain, valid, _, _, _, _, inserted⟩ := done
  intro t member
  rw [Table.insert_rows inserted] at member
  rcases List.mem_append.mp member with old | new
  · exact accepted t old
  · rw [List.mem_singleton.mp new]
    exact ⟨_, valid⟩

theorem edited {tenant : Id} {data : TenantUpdate} {tenants tenants' : Table Tenant}
    (done : updateTenant tenant data tenants = .ok tenants')
    (accepted : ∀ t ∈ tenants.rows, AcceptedSubdomain t.subdomain) :
    ∀ t ∈ tenants'.rows, AcceptedSubdomain t.subdomain := by
  simp only [updateTenant, putTenants, bind_eq_ok, orRaise_eq_ok] at done
  obtain ⟨_, _, _, _, _, _, saved⟩ := done
  intro t member
  rw [Table.update_rows saved] at member
  obtain ⟨old, present, rfl⟩ := List.mem_map.mp member
  unfold Table.updated
  split <;> exact accepted old present

def create (id : Id) (data : TenantCreate) (d : Directory) : Outcome Directory :=
  match done : createTenant id data d.tenants with
  | .ok tenants => .ok ⟨tenants, created done d.accepted⟩
  | .error e => .error e

def update (tenant : Id) (data : TenantUpdate) (d : Directory) : Outcome Directory :=
  match done : updateTenant tenant data d.tenants with
  | .ok tenants => .ok ⟨tenants, edited done d.accepted⟩
  | .error e => .error e

theorem eq_of_subdomain (d : Directory) {t u : Tenant} (left : t ∈ d.tenants.rows) (right : u ∈ d.tenants.rows)
    (same : t.subdomain = u.subdomain) : t = u := by
  refine d.tenants.eq_of_entry left right (e := .text t.subdomain) ?_ ?_
  · exact List.mem_cons_of_mem _ (List.mem_singleton_self _)
  · rw [same]
    exact List.mem_cons_of_mem _ (List.mem_singleton_self _)

end Directory

end Storefront
