import Storefront.Core.Exn
import Storefront.Tenants.Resolver

set_option autoImplicit false

/-!
# Users, their tokens and their memberships

The tables of the admin side are no tenant's. Logging in and the platform's
membership endpoints write them. A value too long for its column is refused like a
violated constraint.
-/

namespace Storefront

open Relational Transition Text

-- django.contrib.auth.models.User
structure User where
  id : Id
  username : String
  email : String
  first_name : String
  last_name : String
  -- encoded
  password : String
  is_active : Bool
  is_superuser : Bool
  deriving DecidableEq, Repr

instance : Keyed User :=
  keyedBy User.id (fun u => [.text u.username]) fun u =>
    decide (u.username.toList.length ≤ 150) && (decide (u.email.toList.length ≤ 254) &&
      (decide (u.first_name.toList.length ≤ 150) && decide (u.last_name.toList.length ≤ 150)))

-- rest_framework.authtoken.models.Token: the key is primary, a user has one token.
structure Token where
  key : String
  user : Id
  created : Time
  deriving DecidableEq, Repr

instance : Schema Token where
  Entry := IndexEntry
  decEntry := inferInstance
  entries t := [.text t.key, .owner t.user]
  check _ := true

inductive Role
  | tenantAdmin
  deriving DecidableEq, Repr

structure TenantMembership where
  id : Id
  user : Id
  tenant : Id
  role : Role := .tenantAdmin
  deriving DecidableEq, Repr

-- uniq_membership_per_user_tenant
instance : Keyed TenantMembership := keyedBy TenantMembership.id (fun m => [.pair m.user m.tenant]) fun _ => true

structure Accounts where
  users : Table User
  tokens : Table Token
  memberships : Table TenantMembership
  tenants : Table Tenant
  now : Time

-- What Django and DRF provide
structure AuthLibrary where
  -- UPPER, as __iexact compares
  casing : Casing
  -- EmailValidator
  isEmail : String → Bool
  make_password : (salt password : String) → String
  check_password : (password encoded : String) → Bool
  -- TokenAuthentication.authenticate_credentials, with the detail of its AuthenticationFailed
  authenticate_credentials : Table User → Table Token → (key : String) → Except String (User × Token)

structure AuthLibrary.Lawful (lib : AuthLibrary) : Prop where
  credentials : ∀ users tokens key user token,
    lib.authenticate_credentials users tokens key = .ok (user, token) ↔
      token ∈ tokens.rows ∧ token.key = key ∧ user ∈ users.rows ∧ user.id = token.user ∧ user.is_active = true
  password : ∀ salt password, lib.check_password password (lib.make_password salt password) = true

-- What a request draws at random or from a sequence
structure Draws where
  key : String
  user : Id
  membership : Id
  salt : String

structure MembershipCreate where
  email : String
  role : Role := .tenantAdmin
  create_user_if_missing : Bool := false
  initial_password : Option String := none
  first_name : Option String := none
  last_name : Option String := none

-- A CharField without a limit
def freeField (field raw : String) : Outcome String := do
  let value := strip raw.toList
  require (value ≠ []) (.validationError field "This field may not be blank.")
  require (Char.ofNat 0 ∉ value) (.validationError field "Null characters are not allowed.")
  return String.ofList value

namespace AuthLibrary

variable (lib : AuthLibrary)

def emailField (raw : String) : Outcome String := do
  let value ← freeField "email" raw
  require (lib.isEmail value = true) (.validationError "email" "Enter a valid email address.")
  return value

def iexact (u : User) (email : String) : Bool :=
  decide (lib.casing.str u.email.toList = lib.casing.str email.toList)

end AuthLibrary

namespace MembershipCreateSerializer

def initialPassword (raw : String) : Outcome String := do
  let value ← freeField "initial_password" raw
  require (8 ≤ value.toList.length)
    (.validationError "initial_password" "Ensure this field has at least 8 characters.")
  return value

-- Python reports every missing field; the first of them stands for the error.
def required (create_user_if_missing : Bool) (field : String) (value : Option String) : Outcome Unit :=
  require (create_user_if_missing = true → value.isSome = true)
    (.validationError field "Required when createUserIfMissing=true.")

def validate (lib : AuthLibrary) (data : MembershipCreate) : Outcome MembershipCreate := do
  let email ← lib.emailField data.email
  let initial_password ← data.initial_password.mapM initialPassword
  let first_name ← data.first_name.mapM (charField "first_name" 150)
  let last_name ← data.last_name.mapM (charField "last_name" 150)
  required data.create_user_if_missing "initial_password" initial_password
  required data.create_user_if_missing "first_name" first_name
  required data.create_user_if_missing "last_name" last_name
  return { data with email, initial_password, first_name, last_name }

end MembershipCreateSerializer

section Views

variable (lib : AuthLibrary)

-- User.DoesNotExist is the caller's to handle.
def getUser (p : User → Bool) (users : Table User) : Outcome (Option User) :=
  match users.rows.filter p with
  | [] => .ok none
  | [user] => .ok (some user)
  | _ => .error (.other "get() returned more than one User")

def saved {α : Type} [Schema α] (table : Option (Table α)) : Outcome (Table α) := orRaise .integrityError table

-- AdminLoginView.post; an unknown email and a wrong password have one answer.
def login (draws : Draws) (email password : String) (s : Accounts) : Outcome (Option (User × Token) × Accounts) := do
  let email ← lib.emailField email
  let password ← freeField "password" password
  match ← getUser (fun u => lib.iexact u email && u.is_active) s.users with
  | none => return (none, s)
  | some user =>
    if lib.check_password password user.password then do
      let token : Token := { key := draws.key, user := user.id, created := s.now }
      let tokens ← saved ((s.tokens.delete fun t => t.user == user.id).insert token)
      return (some (user, token), { s with tokens })
    else return (none, s)

-- AdminLogoutView.post
def logout (user : User) (s : Accounts) : Accounts :=
  { s with tokens := s.tokens.delete fun t => t.user == user.id }

-- The user of the request's email, new or not
def provision (draws : Draws) (v : MembershipCreate) (users : Table User) : Outcome (User × Table User) := do
  match ← getUser (fun u => lib.iexact u v.email) users with
  | some user => return (user, users)
  | none =>
    require (v.create_user_if_missing = true)
      (.resourceNotFound "User not found. Set createUserIfMissing=true to provision them.")
    let user : User :=
      { id := draws.user
        username := v.email
        email := v.email
        first_name := v.first_name.getD ""
        last_name := v.last_name.getD ""
        password := lib.make_password draws.salt (v.initial_password.getD "")
        is_active := true
        is_superuser := false }
    return (user, ← saved (users.insert user))

-- update_or_create
def assign (draws : Draws) (user : User) (tenant : Tenant) (role : Role) (memberships : Table TenantMembership) :
    Outcome (TenantMembership × Table TenantMembership) :=
  match memberships.rows.find? fun m => m.user == user.id && m.tenant == tenant.id with
  | some m => do
    let memberships ← saved (memberships.update (fun row => row.id == m.id) ({ · with role }))
    return ({ m with role }, memberships)
  | none => do
    let m : TenantMembership := { id := draws.membership, user := user.id, tenant := tenant.id, role }
    return (m, ← saved (memberships.insert m))

-- PlatformMembershipCreateView.post
def createMembership (draws : Draws) (tenant_id : Id) (data : MembershipCreate) (s : Accounts) :
    Outcome (TenantMembership × Accounts) := do
  let v ← MembershipCreateSerializer.validate lib data
  let tenant ← orRaise (.resourceNotFound "Tenant not found") (s.tenants.get tenant_id)
  let (user, users) ← provision lib draws v s.users
  let (membership, memberships) ← assign draws user tenant v.role s.memberships
  return (membership, { s with users, memberships })

-- PlatformMembershipDeleteView.delete
def deleteMembership (membership_id : Id) (s : Accounts) : Outcome Accounts := do
  require ((s.memberships.get membership_id).isSome = true) (.resourceNotFound "Membership not found")
  return { s with memberships := s.memberships.delete fun m => m.id == membership_id }

end Views

end Storefront
