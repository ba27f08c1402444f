import Storefront.Iam.Accounts
import Storefront.Transition.History

set_option autoImplicit false

/-!
# Sessions and grants

A login opens a session and ends the user's one before, the platform's admins
grant and revoke memberships. Who is let through as a tenant's admin follows from
what the requests so far were answered.
-/

namespace Storefront

open Relational Transition Text

inductive Endpoint
  | login (email password : String)
  | logout
  | me
  | createMembership (tenant_id : Id) (data : MembershipCreate)
  | deleteMembership (membership_id : Id)
  -- A view of a TenantAdminAPIView
  | tenantAdmin (path host : String)

structure AdminRequest where
  -- The key of a header `Authorization: Token <key>`
  authorization : Option String
  endpoint : Endpoint
  draws : Draws

inductive Answer
  | loggedIn (user : User) (token : Token) (expires_at : Option Int)
  | invalidCredentials
  | loggedOut (user : User)
  | profile (user : User) (memberships : List (Id × String × Role))
  | granted (m : TenantMembership)
  | revoked (membership_id : Id)
  | view (user : User) (tenant : Option Tenant)
  -- The resolver answers in the view's place.
  | unrouted (routed : Routed)
  | authenticationFailed (detail : String)
  | notAuthenticated
  | permissionDenied (message : String)
  | raised (e : Exn)
  deriving DecidableEq

inductive Action
  | tick (seconds : Nat)
  -- The HTML admin, manage.py and the platform's tenant endpoints edit users and tenants.
  | site (users : Table User) (tenants : Table Tenant)
  | request (request : AdminRequest)

structure Iam where
  lib : AuthLibrary
  routing : Routing
  ADMIN_TOKEN_TTL_SECONDS : Int

def IsPlatformAdmin.hasPermission (user : User) : Bool := user.is_superuser

def IsTenantAdmin.hasPermission (tenant : Option Tenant) (memberships : Table TenantMembership) (user : User) : Bool :=
  match tenant with
  | none => false
  | some tenant => user.is_superuser ||
      memberships.rows.any fun m => m.user == user.id && m.tenant == tenant.id && m.role == .tenantAdmin

def serializeUser (user : User) (s : Accounts) : List (Id × String × Role) :=
  (s.memberships.rows.filter fun m => m.user == user.id).filterMap fun m =>
    (s.tenants.get m.tenant).map fun tenant => (m.tenant, tenant.subdomain, m.role)

-- What is deleted takes the rows that refer to it with it.
def Accounts.edited (users : Table User) (tenants : Table Tenant) (s : Accounts) : Accounts :=
  { s with
    users
    tenants
    tokens := s.tokens.delete fun t => (users.get t.user).isNone
    memberships := s.memberships.delete fun m => (users.get m.user).isNone || (tenants.get m.tenant).isNone }

namespace Iam

variable (iam : Iam)

def tokenExpiresAt (token : Token) : Option Int :=
  if iam.ADMIN_TOKEN_TTL_SECONDS ≤ 0 then none else some (token.created + iam.ADMIN_TOKEN_TTL_SECONDS)

-- ExpiringTokenAuthentication
def authenticateCredentials (key : String) (s : Accounts) : Except Answer User :=
  match iam.lib.authenticate_credentials s.users s.tokens key with
  | .error detail => .error (.authenticationFailed detail)
  | .ok (user, token) =>
    if 0 < iam.ADMIN_TOKEN_TTL_SECONDS ∧ (token.created : Int) < s.now - iam.ADMIN_TOKEN_TTL_SECONDS then
      .error (.authenticationFailed "Token has expired")
    else .ok user

-- What a view of the authentication class and of a permission does before its handler
def letThrough (permits : User → Bool) (message : String) (authorization : Option String) (s : Accounts) :
    Except Answer User :=
  match authorization with
  | none => .error .notAuthenticated
  | some key => do
    let user ← iam.authenticateCredentials key s
    require (permits user = true) (.permissionDenied message)
    return user

def asUser : Option String → Accounts → Except Answer User := iam.letThrough (fun _ => true) ""

def asPlatformAdmin : Option String → Accounts → Except Answer User :=
  iam.letThrough IsPlatformAdmin.hasPermission "Platform admin credentials required."

def asTenantAdmin (tenant : Option Tenant) (authorization : Option String) (s : Accounts) : Except Answer User :=
  iam.letThrough (IsTenantAdmin.hasPermission tenant s.memberships) "Tenant admin credentials required." authorization s

def routed (path host : String) (s : Accounts) : Routed :=
  TenantResolverMiddleware.call iam.routing s.tenants path host

def raising (s : Accounts) : Outcome (Answer × Accounts) → Answer × Accounts
  | .ok done => done
  | .error e => (.raised e, s)

def admitted (s : Accounts) (user : Except Answer User) (view : User → Answer × Accounts) : Answer × Accounts :=
  match user with
  | .ok user => view user
  | .error refusal => (refusal, s)

def handle (request : AdminRequest) (s : Accounts) : Answer × Accounts :=
  match request.endpoint with
  | .login email password => raising s do
    match ← login iam.lib request.draws email password s with
    | (some (user, token), s') => return (.loggedIn user token (iam.tokenExpiresAt token), s')
    | (none, s') => return (.invalidCredentials, s')
  | .logout => admitted s (iam.asUser request.authorization s) fun user => (.loggedOut user, logout user s)
  | .me => admitted s (iam.asUser request.authorization s) fun user => (.profile user (serializeUser user s), s)
  | .createMembership tenant_id data => admitted s (iam.asPlatformAdmin request.authorization s) fun _ =>
    raising s do
      let (m, s') ← createMembership iam.lib request.draws tenant_id data s
      return (.granted m, s')
  | .deleteMembership membership_id => admitted s (iam.asPlatformAdmin request.authorization s) fun _ =>
    raising s do
      let s' ← deleteMembership membership_id s
      return (.revoked membership_id, s')
  | .tenantAdmin path host =>
    let view (tenant : Option Tenant) :=
      admitted s (iam.asTenantAdmin tenant request.authorization s) fun user => (.view user tenant, s)
    match iam.routed path host s with
    | .tenant tenant => view (some tenant)
    | .exempt => view none
    | .disallowedHost => (.unrouted .disallowedHost, s)
    | .error code status => (.unrouted (.error code status), s)

def after : Action → Accounts → Accounts
  | .tick seconds, s => { s with now := s.now + seconds }
  | .site users tenants, s => s.edited users tenants
  | .request request, s => (iam.handle request s).2

-- At first nobody is logged in and no membership is granted.
def machine : Machine Accounts Action where
  Start s := s.tokens = ∅ ∧ s.memberships = ∅
  step s action := some (iam.after action s)

/-! ## What the answers tell -/

-- The token of a user's session
def learnSession (u : Id) (session : Option Token) (move : Move Accounts Action) : Option Token :=
  match move.label with
  | .tick _ => session
  | .site users _ => if (users.get u).isSome then session else none
  | .request request =>
    match (iam.handle request move.before).1 with
    | .loggedIn user token _ => if user.id = u then some token else session
    | .loggedOut user => if user.id = u then none else session
    | _ => session

-- A user's membership of a tenant
def learnGrant (u tenant_id : Id) (grant : Option TenantMembership) (move : Move Accounts Action) :
    Option TenantMembership :=
  match move.label with
  | .tick _ => grant
  | .site users tenants => if (users.get u).isSome ∧ (tenants.get tenant_id).isSome then grant else none
  | .request request =>
    match (iam.handle request move.before).1 with
    | .granted m => if m.user = u ∧ m.tenant = tenant_id then some m else grant
    | .revoked membership_id => grant.filter fun m => m.id != membership_id
    | _ => grant

def sessionOf (u : Id) : List (Move Accounts Action) → Option Token := history (iam.learnSession u) none

def grantOf (u tenant_id : Id) : List (Move Accounts Action) → Option TenantMembership :=
  history (iam.learnGrant u tenant_id) none

/-- The request carries the key of a user's session, which has not expired. -/
def Carries (authorization : Option String) (u : Id) (now : Time) (moves : List (Move Accounts Action)) : Prop :=
  ∃ token, iam.sessionOf u moves = some token ∧ authorization = some token.key ∧
    ∀ expires_at ∈ iam.tokenExpiresAt token, (now : Int) ≤ expires_at

end Iam

/-! ## What a request does -/

def Answer.Refuses : Answer → Prop
  | .authenticationFailed _ | .notAuthenticated | .permissionDenied _ => True
  | _ => False

def Answer.Quiet : Answer → Prop
  | .loggedIn .. | .loggedOut _ | .granted _ | .revoked _ => False
  | _ => True

theorem Answer.Refuses.quiet {answer : Answer} (refuses : answer.Refuses) : answer.Quiet := by
  cases answer <;> trivial

namespace Iam

variable {iam : Iam} {s s' : Accounts}

theorem letThrough_eq_ok {permits : User → Bool} {message : String} {authorization : Option String} {user : User} :
    iam.letThrough permits message authorization s = .ok user ↔ ∃ key, authorization = some key ∧
      iam.authenticateCredentials key s = .ok user ∧ permits user = true := by
  cases authorization with
  | none => simp [letThrough]
  | some key => simp [letThrough, bind_eq_ok, map_eq_ok]

theorem letThrough_refuses {permits : User → Bool} {message : String} {authorization : Option String} {refusal : Answer}
    (refused : iam.letThrough permits message authorization s = .error refusal) : refusal.Refuses := by
  cases authorization with
  | none =>
    cases refused
    trivial
  | some key =>
    simp only [letThrough, bind_eq_error, require_eq_error, authenticateCredentials] at refused
    rcases refused with unknown | ⟨user, _, ⟨_, rfl⟩ | ⟨_, _, fails⟩⟩
    · split at unknown
      · cases unknown
        trivial
      · split at unknown
        · cases unknown
          trivial
        · cases unknown
    · trivial
    · cases fails

inductive Handles (iam : Iam) (request : AdminRequest) (s : Accounts) : Answer → Accounts → Prop
  | loggedIn {email password : String} {user : User} {token : Token} {s' : Accounts}
      (endpoint : request.endpoint = .login email password)
      (done : login iam.lib request.draws email password s = .ok (some (user, token), s')) :
      Handles iam request s (.loggedIn user token (iam.tokenExpiresAt token)) s'
  | loggedOut {user : User} (endpoint : request.endpoint = .logout)
      (admitted : iam.asUser request.authorization s = .ok user) :
      Handles iam request s (.loggedOut user) (logout user s)
  | granted {tenant_id : Id} {data : MembershipCreate} {admin : User} {m : TenantMembership} {s' : Accounts}
      (endpoint : request.endpoint = .createMembership tenant_id data)
      (admitted : iam.asPlatformAdmin request.authorization s = .ok admin)
      (done : createMembership iam.lib request.draws tenant_id data s = .ok (m, s')) :
      Handles iam request s (.granted m) s'
  | revoked {membership_id : Id} {admin : User} {s' : Accounts}
      (endpoint : request.endpoint = .deleteMembership membership_id)
      (admitted : iam.asPlatformAdmin request.authorization s = .ok admin)
      (done : deleteMembership membership_id s = .ok s') : Handles iam request s (.revoked membership_id) s'
  | quiet {answer : Answer} (quiet : answer.Quiet) : Handles iam request s answer s

theorem login_invalid {draws : Draws} {email password : String}
    (done : login iam.lib draws email password s = .ok (none, s')) : s' = s := by
  simp only [login, bind_eq_ok] at done
  obtain ⟨_, _, _, _, found, _, rest⟩ := done
  cases found with
  | none =>
    cases rest
    rfl
  | some user =>
    dsimp only at rest
    split at rest
    · simp only [bind_eq_ok] at rest
      obtain ⟨_, _, same⟩ := rest
      cases same
    · cases rest
      rfl

theorem login_opens {draws : Draws} {email password : String} {user : User} {token : Token}
    (done : login iam.lib draws email password s = .ok (some (user, token), s')) :
    token = { key := draws.key, user := user.id, created := s.now } ∧
      ∃ tokens, (s.tokens.delete fun t => t.user == user.id).insert token = some tokens ∧ s' = { s with tokens } := by
  simp only [login, bind_eq_ok] at done
  obtain ⟨_, _, _, _, found, _, rest⟩ := done
  cases found with
  | none => cases rest
  | some known =>
    dsimp only at rest
    split at rest
    · simp only [bind_eq_ok, saved, orRaise_eq_ok] at rest
      obtain ⟨tokens, inserted, same⟩ := rest
      cases same
      exact ⟨rfl, tokens, inserted, rfl⟩
    · cases rest

theorem handle_handles (request : AdminRequest) (s : Accounts) :
    Handles iam request s (iam.handle request s).1 (iam.handle request s).2 := by
  unfold handle
  cases endpoint : request.endpoint with
  | login email password =>
    dsimp only
    cases done : login iam.lib request.draws email password s with
    | error e => exact .quiet trivial
    | ok result =>
      obtain ⟨_ | ⟨user, token⟩, s'⟩ := result
      · obtain rfl := login_invalid done
        exact .quiet trivial
      · exact .loggedIn endpoint done
  | logout =>
    dsimp only
    cases admitted : iam.asUser request.authorization s with
    | error refusal => exact .quiet (letThrough_refuses admitted).quiet
    | ok user => exact .loggedOut endpoint admitted
  | me =>
    dsimp only
    cases admitted : iam.asUser request.authorization s with
    | error refusal => exact .quiet (letThrough_refuses admitted).quiet
    | ok user => exact .quiet trivial
  | createMembership tenant_id data =>
    dsimp only
    cases admitted : iam.asPlatformAdmin request.authorization s with
    | error refusal => exact .quiet (letThrough_refuses admitted).quiet
    | ok admin =>
      cases done : createMembership iam.lib request.draws tenant_id data s with
      | error e => simpa [Iam.admitted, done, raising] using .quiet trivial
      | ok result =>
        obtain ⟨m, s'⟩ := result
        simpa [Iam.admitted, done, raising] using .granted endpoint admitted done
  | deleteMembership membership_id =>
    dsimp only
    cases admitted : iam.asPlatformAdmin request.authorization s with
    | error refusal => exact .quiet (letThrough_refuses admitted).quiet
    | ok admin =>
      cases done : deleteMembership membership_id s with
      | error e => simpa [Iam.admitted, done, raising] using .quiet trivial
      | ok s' => simpa [Iam.admitted, done, raising] using .revoked endpoint admitted done
  | tenantAdmin path host =>
    dsimp only
    have viewed (tenant : Option Tenant) : Handles iam request s
        (Iam.admitted s (iam.asTenantAdmin tenant request.authorization s) fun user => (.view user tenant, s)).1
        (Iam.admitted s (iam.asTenantAdmin tenant request.authorization s) fun user => (.view user tenant, s)).2 := by
      cases admitted : iam.asTenantAdmin tenant request.authorization s with
      | error refusal => exact .quiet (letThrough_refuses admitted).quiet
      | ok user => exact .quiet trivial
    cases iam.routed path host s with
    | tenant tenant => exact viewed (some tenant)
    | exempt => exact viewed none
    | disallowedHost => exact .quiet trivial
    | error code status => exact .quiet trivial

/-! ## The tables hold what the answers tell -/

section Agreement

variable {u : Id}

def SessionHeld (u : Id) (session : Option Token) (s : Accounts) : Prop :=
  ∀ t, t ∈ s.tokens.rows ∧ t.user = u ↔ session = some t

theorem SessionHeld.ended {p : Token → Bool} (tokens : s'.tokens.rows = s.tokens.rows.filter fun t => !p t)
    (all : ∀ t, t.user = u → p t = true) :
    SessionHeld u none s' := by
  intro t
  rw [tokens, List.mem_filter]
  constructor
  · rintro ⟨⟨_, kept⟩, mine⟩
    simp [all t mine] at kept
  · intro none
    cases none

theorem SessionHeld.spared {session : Option Token} {p : Token → Bool} (held : SessionHeld u session s)
    (tokens : s'.tokens.rows = s.tokens.rows.filter fun t => !p t) (spared : ∀ t, t.user = u → p t = false) :
    SessionHeld u session s' := by
  intro t
  rw [← held t, tokens, List.mem_filter]
  constructor
  · rintro ⟨⟨present, _⟩, mine⟩
    exact ⟨present, mine⟩
  · rintro ⟨present, mine⟩
    exact ⟨⟨present, by simp [spared t mine]⟩, mine⟩

theorem createMembership_tokens {draws : Draws} {tenant_id : Id} {data : MembershipCreate} {m : TenantMembership}
    (done : createMembership iam.lib draws tenant_id data s = .ok (m, s')) : s'.tokens = s.tokens := by
  simp only [createMembership, bind_eq_ok, pure_eq_ok, Prod.mk.injEq] at done
  obtain ⟨_, _, _, _, _, _, _, _, _, rfl⟩ := done
  rfl

theorem deleteMembership_eq_ok {membership_id : Id} (done : deleteMembership membership_id s = .ok s') :
    s' = { s with memberships := s.memberships.delete fun m => m.id == membership_id } := by
  simp only [deleteMembership, bind_eq_ok, pure_eq_ok] at done
  obtain ⟨_, _, rfl⟩ := done
  rfl

theorem sessionOf_held {s₀ : Accounts} {moves : List (Move Accounts Action)} (run : iam.machine.Run s₀ moves s)
    (u : Id) : SessionHeld u (iam.sessionOf u moves) s := by
  refine run.agrees (R := SessionHeld u) ?_ ?_
  · rintro s ⟨tokens, _⟩ t
    simp [tokens]
  · rintro session s action s' held taken
    cases taken
    cases action with
    | tick seconds => exact held
    | site users tenants =>
      simp only [learnSession]
      split
      next known => exact held.spared rfl fun t mine => by simpa [mine] using known
      next gone => exact .ended rfl fun t mine => by simpa [mine] using gone
    | request request =>
      simp only [learnSession, after]
      have handles := iam.handle_handles request s
      generalize iam.handle request s = result at handles
      obtain ⟨answer, s'⟩ := result
      cases handles with
      | @loggedIn _ _ user token _ _ done =>
        obtain ⟨rfl, tokens, inserted, rfl⟩ := login_opens done
        have rows := Table.insert_rows inserted
        rw [Table.delete_rows] at rows
        dsimp only
        split
        next mine =>
          intro t
          simp only [rows, List.mem_append, List.mem_filter, List.mem_singleton, Option.some.injEq]
          constructor
          · rintro ⟨⟨_, other⟩ | rfl, same⟩
            · simp [same, mine] at other
            · rfl
          · rintro rfl
            exact ⟨.inr rfl, mine⟩
        next another =>
          intro t
          simp only [rows, List.mem_append, List.mem_filter, List.mem_singleton, ← held t]
          constructor
          · rintro ⟨⟨present, _⟩ | rfl, same⟩
            · exact ⟨present, same⟩
            · exact absurd same another
          · rintro ⟨present, same⟩
            exact ⟨.inl ⟨present, by simp [same, Ne.symm another]⟩, same⟩
      | @loggedOut user _ _ =>
        dsimp only
        split
        next mine => exact .ended (s := s) rfl fun t same => by simp [same, mine]
        next another => exact held.spared rfl fun t same => by simp [same, Ne.symm another]
      | granted _ _ done =>
        intro t
        rw [createMembership_tokens done]
        exact held t
      | revoked _ _ done =>
        rw [deleteMembership_eq_ok done]
        exact held
      | quiet quiet => cases answer <;> first | exact held | exact quiet.elim

def GrantHeld (u tenant_id : Id) (grant : Option TenantMembership) (s : Accounts) : Prop :=
  ∀ m, m ∈ s.memberships.rows ∧ m.user = u ∧ m.tenant = tenant_id ↔ grant = some m

theorem assign_eq_ok {draws : Draws} {user : User} {tenant : Tenant} {role : Role} {m : TenantMembership}
    {memberships memberships' : Table TenantMembership}
    (done : assign draws user tenant role memberships = .ok (m, memberships')) :
    m.user = user.id ∧ m.tenant = tenant.id ∧ m.role = role ∧ ∀ r, r ∈ memberships'.rows ↔
      r = m ∨ r ∈ memberships.rows ∧ ¬ (r.user = user.id ∧ r.tenant = tenant.id) := by
  unfold assign at done
  split at done
  next old found =>
    simp only [saved, bind_eq_ok, orRaise_eq_ok, pure_eq_ok, Prod.mk.injEq] at done
    obtain ⟨_, updated, rfl, rfl⟩ := done
    have picked := List.find?_some found
    simp only [Bool.and_eq_true, beq_iff_eq] at picked
    have present := List.mem_of_find?_eq_some found
    refine ⟨picked.1, picked.2, rfl, fun r => ?_⟩
    rw [Table.update_rows updated, List.mem_map]
    constructor
    · rintro ⟨row, member, rfl⟩
      unfold Table.updated
      by_cases same : row.id = old.id
      · obtain rfl : row = old := memberships.eq_of_key member present same
        exact .inl (by simp)
      · refine .inr ⟨by simpa [same] using member, fun pair => same ?_⟩
        simp only [beq_iff_eq, same, if_false] at pair
        have entry : (IndexEntry.pair row.user row.tenant) = .pair old.user old.tenant := by
          rw [pair.1, pair.2, picked.1, picked.2]
        rw [memberships.eq_of_entry member present (e := IndexEntry.pair row.user row.tenant)
          (List.mem_cons_of_mem _ (List.mem_singleton_self _))
          (entry ▸ List.mem_cons_of_mem _ (List.mem_singleton_self _))]
    · rintro (rfl | ⟨member, other⟩)
      · exact ⟨old, present, by simp [Table.updated]⟩
      · refine ⟨r, member, ?_⟩
        have different : r.id ≠ old.id := by
          intro same
          obtain rfl : r = old := memberships.eq_of_key member present same
          exact other picked
        simp [Table.updated, different]
  next missing =>
    simp only [saved, bind_eq_ok, orRaise_eq_ok, pure_eq_ok, Prod.mk.injEq] at done
    obtain ⟨_, inserted, rfl, rfl⟩ := done
    refine ⟨rfl, rfl, rfl, fun r => ?_⟩
    rw [Table.insert_rows inserted, List.mem_append, List.mem_singleton]
    constructor
    · rintro (member | rfl)
      · exact .inr ⟨member, by simpa using List.find?_eq_none.mp missing r member⟩
      · exact .inl rfl
    · rintro (rfl | ⟨member, _⟩)
      · exact .inr rfl
      · exact .inl member

theorem createMembership_eq_ok {draws : Draws} {tenant_id : Id} {data : MembershipCreate} {m : TenantMembership}
    (done : createMembership iam.lib draws tenant_id data s = .ok (m, s')) :
    ∃ v tenant user users memberships, MembershipCreateSerializer.validate iam.lib data = .ok v ∧
      s.tenants.get tenant_id = some tenant ∧ provision iam.lib draws v s.users = .ok (user, users) ∧
      assign draws user tenant v.role s.memberships = .ok (m, memberships) ∧ s' = { s with users, memberships } := by
  simp only [createMembership, bind_eq_ok, orRaise_eq_ok, pure_eq_ok, Prod.mk.injEq] at done
  obtain ⟨v, valid, tenant, found, ⟨user, users⟩, provisioned, ⟨_, memberships⟩, assigned, rfl, rfl⟩ := done
  exact ⟨v, tenant, user, users, memberships, valid, found, provisioned, assigned, rfl⟩

theorem grantOf_held {s₀ : Accounts} {moves : List (Move Accounts Action)} (run : iam.machine.Run s₀ moves s)
    (u tenant_id : Id) : GrantHeld u tenant_id (iam.grantOf u tenant_id moves) s := by
  refine run.agrees (R := GrantHeld u tenant_id) ?_ ?_
  · rintro s ⟨_, memberships⟩ m
    simp [memberships]
  · rintro grant s action s' held taken
    cases taken
    cases action with
    | tick seconds => exact held
    | site users tenants =>
      intro m
      simp only [learnGrant, after, Accounts.edited, Table.delete_rows, List.mem_filter]
      split
      next known =>
        rw [← held m]
        constructor
        · rintro ⟨⟨present, _⟩, mine⟩
          exact ⟨present, mine⟩
        · rintro ⟨present, rfl, rfl⟩
          refine ⟨⟨present, ?_⟩, rfl, rfl⟩
          simp [known.1, known.2]
      next gone =>
        constructor
        · rintro ⟨⟨_, kept⟩, rfl, rfl⟩
          simp only [Bool.not_or, Bool.and_eq_true, Bool.not_eq_true'] at kept
          exact absurd ⟨by simpa using kept.1, by simpa using kept.2⟩ gone
        · intro none
          cases none
    | request request =>
      simp only [learnGrant, after]
      have handles := iam.handle_handles request s
      generalize iam.handle request s = result at handles
      obtain ⟨answer, s'⟩ := result
      cases handles with
      | loggedIn _ done =>
        obtain ⟨_, tokens, _, rfl⟩ := login_opens done
        exact held
      | loggedOut _ _ => exact held
      | @granted _ _ _ m _ _ _ done =>
        obtain ⟨v, tenant, user, users, memberships, _, _, _, assigned, rfl⟩ := createMembership_eq_ok done
        obtain ⟨owner, place, _, rows⟩ := assign_eq_ok assigned
        dsimp only
        split
        next mine =>
          intro r
          rw [rows, Option.some.injEq, ← owner, ← place, mine.1, mine.2]
          constructor
          · rintro ⟨rfl | ⟨_, other⟩, here⟩
            · rfl
            · exact absurd here other
          · rintro rfl
            exact ⟨.inl rfl, mine⟩
        next another =>
          intro r
          rw [rows, ← held r, ← owner, ← place]
          constructor
          · rintro ⟨rfl | ⟨present, _⟩, here⟩
            · exact absurd here another
            · exact ⟨present, here⟩
          · rintro ⟨present, here⟩
            exact ⟨.inr ⟨present, fun same => another ⟨same.1 ▸ here.1, same.2 ▸ here.2⟩⟩, here⟩
      | @revoked membership_id _ _ _ _ done =>
        rw [deleteMembership_eq_ok done]
        intro m
        simp only [Table.delete_rows, List.mem_filter, Option.filter_eq_some_iff, ← held m]
        constructor
        · rintro ⟨⟨present, kept⟩, mine⟩
          exact ⟨⟨present, mine⟩, by simpa using kept⟩
        · rintro ⟨⟨present, mine⟩, kept⟩
          exact ⟨⟨present, by simpa using kept⟩, mine⟩
      | quiet quiet => cases answer <;> first | exact held | exact quiet.elim

end Agreement

/-! ## Who is let through -/

section Through

variable {s₀ : Accounts} {moves : List (Move Accounts Action)}

theorem expired_iff (token : Token) (now : Time) :
    (0 < iam.ADMIN_TOKEN_TTL_SECONDS ∧ (token.created : Int) < now - iam.ADMIN_TOKEN_TTL_SECONDS) ↔
      ¬ ∀ expires_at ∈ iam.tokenExpiresAt token, (now : Int) ≤ expires_at := by
  unfold tokenExpiresAt
  split
  next off =>
    simp
    omega
  next on =>
    simp
    omega

/-- A key is its user's exactly while it is that of the session. -/
theorem authenticates_iff (run : iam.machine.Run s₀ moves s) (lawful : iam.lib.Lawful) (key : String) (user : User) :
    iam.authenticateCredentials key s = .ok user ↔
      user ∈ s.users.rows ∧ user.is_active = true ∧ iam.Carries (some key) user.id s.now moves := by
  have held := sessionOf_held run user.id
  have known := lawful.credentials s.users s.tokens key
  unfold authenticateCredentials Carries
  constructor
  · intro done
    split at done
    · cases done
    next other token credentials =>
      split at done
      · cases done
      next live =>
        cases done
        obtain ⟨present, rfl, member, owner, active⟩ := (known user token).mp credentials
        exact ⟨member, active, token, (held token).mp ⟨present, owner.symm⟩, rfl,
          not_not.mp (mt (expired_iff _ _).mpr live)⟩
  · rintro ⟨member, active, token, session, same, live⟩
    obtain ⟨present, owner⟩ := (held token).mpr session
    rw [(known user token).mpr ⟨present, (Option.some.inj same).symm, member, owner.symm, active⟩]
    exact if_neg fun expired => (expired_iff _ _).mp expired live

theorem letThrough_iff (run : iam.machine.Run s₀ moves s) (lawful : iam.lib.Lawful) {permits : User → Bool}
    {message : String} {authorization : Option String} {user : User} :
    iam.letThrough permits message authorization s = .ok user ↔ user ∈ s.users.rows ∧ user.is_active = true ∧
      iam.Carries authorization user.id s.now moves ∧ permits user = true := by
  rw [letThrough_eq_ok]
  constructor
  · rintro ⟨key, rfl, known, permitted⟩
    obtain ⟨member, active, carries⟩ := (authenticates_iff run lawful key user).mp known
    exact ⟨member, active, carries, permitted⟩
  · rintro ⟨member, active, carries, permitted⟩
    have ⟨token, _, same, _⟩ := carries
    subst same
    exact ⟨token.key, rfl, (authenticates_iff run lawful _ user).mpr ⟨member, active, carries⟩, permitted⟩

theorem hasPermission_iff (run : iam.machine.Run s₀ moves s) (tenant : Option Tenant) (user : User) :
    IsTenantAdmin.hasPermission tenant s.memberships user = true ↔
      ∃ t ∈ tenant, user.is_superuser = true ∨ (iam.grantOf user.id t.id moves).isSome = true := by
  cases tenant with
  | none => simp [IsTenantAdmin.hasPermission]
  | some t =>
    have held := grantOf_held run user.id t.id
    simp only [IsTenantAdmin.hasPermission, Bool.or_eq_true, List.any_eq_true, Bool.and_eq_true, beq_iff_eq,
      Option.mem_def, Option.some.injEq, exists_eq_left', Option.isSome_iff_exists]
    refine or_congr_right ⟨?_, ?_⟩
    · rintro ⟨m, present, ⟨mine, here⟩, _⟩
      exact ⟨m, (held m).mp ⟨present, mine, here⟩⟩
    · rintro ⟨m, granted⟩
      obtain ⟨present, mine, here⟩ := (held m).mpr granted
      exact ⟨m, present, ⟨mine, here⟩, trivial⟩

theorem asTenantAdmin_iff (run : iam.machine.Run s₀ moves s) (lawful : iam.lib.Lawful) {tenant : Option Tenant}
    {authorization : Option String} {user : User} :
    iam.asTenantAdmin tenant authorization s = .ok user ↔ user ∈ s.users.rows ∧ user.is_active = true ∧
      iam.Carries authorization user.id s.now moves ∧
        ∃ t ∈ tenant, user.is_superuser = true ∨ (iam.grantOf user.id t.id moves).isSome = true := by
  rw [asTenantAdmin, letThrough_iff run lawful, hasPermission_iff run]

theorem view_iff {request : AdminRequest} {path host : String} (endpoint : request.endpoint = .tenantAdmin path host)
    (user : User) (tenant : Option Tenant) : (iam.handle request s).1 = .view user tenant ↔
      iam.asTenantAdmin tenant request.authorization s = .ok user ∧
        (iam.routed path host s = .exempt ∧ tenant = none ∨
          ∃ t, iam.routed path host s = .tenant t ∧ tenant = some t) := by
  have viewed (place : Option Tenant) :
      (admitted s (iam.asTenantAdmin place request.authorization s) fun user => (Answer.view user place, s)).1 =
        .view user tenant ↔ iam.asTenantAdmin tenant request.authorization s = .ok user ∧ tenant = place := by
    cases through : iam.asTenantAdmin place request.authorization s with
    | ok other =>
      simp only [admitted, Answer.view.injEq]
      constructor
      · rintro ⟨rfl, rfl⟩
        exact ⟨through, rfl⟩
      · rintro ⟨same, rfl⟩
        cases through.symm.trans same
        exact ⟨rfl, rfl⟩
    | error refusal =>
      constructor
      · intro same
        have refuses := letThrough_refuses through
        rw [show refusal = .view user tenant from same] at refuses
        exact refuses.elim
      · rintro ⟨same, rfl⟩
        cases through.symm.trans same
  simp only [handle, endpoint]
  cases routed : iam.routed path host s with
  | tenant t => simpa using viewed (some t)
  | exempt => simpa using viewed none
  | disallowedHost => simp
  | error code status => simp

end Through

end Iam

/-- A tenant's admin view is reached by the user whose session the request carries, a superuser or granted the tenant. -/
theorem admins_admitted_iff (iam : Iam) (lawful : iam.lib.Lawful) {s₀ s : Accounts}
    {moves : List (Move Accounts Action)} (run : iam.machine.Run s₀ moves s) {request : AdminRequest}
    {path host : String} (endpoint : request.endpoint = .tenantAdmin path host) (user : User) (tenant : Option Tenant) :
    (iam.handle request s).1 = .view user tenant ↔
      ∃ t, tenant = some t ∧ iam.routed path host s = .tenant t ∧ user ∈ s.users.rows ∧ user.is_active = true ∧
        iam.Carries request.authorization user.id s.now moves ∧
        (user.is_superuser = true ∨ (iam.grantOf user.id t.id moves).isSome = true) := by
  rw [Iam.view_iff endpoint, Iam.asTenantAdmin_iff run lawful]
  constructor
  · rintro ⟨⟨member, active, carries, t, rfl, permitted⟩, routed⟩
    refine ⟨t, rfl, ?_, member, active, carries, permitted⟩
    rcases routed with ⟨_, none⟩ | ⟨_, routed, same⟩
    · cases none
    · cases same
      exact routed
  · rintro ⟨t, rfl, routed, member, active, carries, permitted⟩
    exact ⟨⟨member, active, carries, t, rfl, permitted⟩, .inr ⟨t, routed, rfl⟩⟩

namespace Sample

def plainLetters : Casing where
  upper c := [c.toUpper]
  ascii _ _ := rfl

def django : AuthLibrary where
  casing := plainLetters
  isEmail value := value.toList.contains '@'
  make_password salt password := salt ++ "$" ++ password
  check_password password encoded := decide ('$' :: password.toList <:+ encoded.toList)
  authenticate_credentials users tokens key :=
    match tokens.rows.find? fun t => t.key == key with
    | none => .error "Invalid token."
    | some token =>
      match users.rows.find? fun u => u.is_active && u.id == token.user with
      | none => .error "User inactive or deleted."
      | some user => .ok (user, token)

theorem django_lawful : django.Lawful where
  credentials users tokens key user token := by
    simp only [django]
    constructor
    · intro done
      split at done
      · cases done
      next known =>
        split at done
        · cases done
        next found =>
          cases done
          have live := List.find?_some found
          simp only [Bool.and_eq_true, beq_iff_eq] at live
          exact ⟨List.mem_of_find?_eq_some known, by simpa using List.find?_some known, List.mem_of_find?_eq_some found,
            live.2, live.1⟩
    · rintro ⟨present, rfl, member, owner, active⟩
      have known : tokens.rows.find? (fun t => t.key == token.key) = some token := by
        cases found : tokens.rows.find? fun t => t.key == token.key with
        | none => simpa using List.find?_eq_none.mp found token present
        | some other =>
          have same : other.key = token.key := by simpa using List.find?_some found
          rw [tokens.eq_of_entry (List.mem_of_find?_eq_some found) present (e := IndexEntry.text token.key)
            (by simp [Schema.entries, same]) (by simp [Schema.entries])]
      have found := users.find_of_mem member active
      rw [show Keyed.key user = token.user from owner] at found
      rw [known]
      simp only [show (fun u : User => u.is_active && u.id == token.user) =
        fun u => u.is_active && Keyed.key u == token.user from rfl, found]
  password salt password := by
    refine decide_eq_true ⟨salt.toList, ?_⟩
    simp [django]

def console : Iam where
  lib := django
  routing := webRouting
  ADMIN_TOKEN_TTL_SECONDS := 28800

def root : User :=
  { id := 1
    username := "root"
    email := "root@acme.test"
    first_name := "Ro"
    last_name := "Ot"
    password := "s$correct horse"
    is_active := true
    is_superuser := true }

def staff : Table User where
  rows := [root]
  unique := by decide
  checked := by decide +kernel

def installed : Accounts where
  users := staff
  tokens := ∅
  memberships := ∅
  tenants := directory.tenants
  now := 100

def ann : User :=
  { id := 2
    username := "Ann@store-a.example"
    email := "Ann@store-a.example"
    first_name := "Ann"
    last_name := "Lee"
    password := "p$open sesame"
    is_active := true
    is_superuser := false }

def rootEnters : Action := .request
  { authorization := none
    endpoint := .login "ROOT@acme.test" "correct horse"
    draws := ⟨"k1", 0, 0, ""⟩ }

def annIsGranted : AdminRequest where
  authorization := some "k1"
  endpoint := .createMembership 1
    { email := "Ann@store-a.example "
      create_user_if_missing := true
      initial_password := some "open sesame"
      first_name := some "Ann"
      last_name := some "Lee" }
  draws := ⟨"", 2, 7, "p"⟩

def annEnters : AdminRequest where
  authorization := none
  endpoint := .login "ann@Store-A.example" "open sesame"
  draws := ⟨"k2", 0, 0, ""⟩

def entered : Accounts := console.after rootEnters installed
def granted : Accounts := console.after (.request annIsGranted) entered
def staffed : Accounts := console.after (.request annEnters) granted

def openings : List (Move Accounts Action) :=
  [⟨installed, rootEnters, entered⟩, ⟨entered, .request annIsGranted, granted⟩, ⟨granted, .request annEnters, staffed⟩]

theorem granting_runs : console.machine.Run installed (openings.take 2) granted :=
  ((Machine.Run.start (m := console.machine) (s := installed) ⟨rfl, rfl⟩).step rfl).step rfl

theorem openings_run : console.machine.Run installed openings staffed := granting_runs.step rfl

def annAt (host : String) : AdminRequest where
  authorization := some "k2"
  endpoint := .tenantAdmin "/api/v1/admin/products" host
  draws := ⟨"", 0, 0, ""⟩

theorem annAt_asks (host : String) : (annAt host).endpoint = .tenantAdmin "/api/v1/admin/products" host := rfl

theorem openings_known : staffed.users.rows = [root, ann] ∧ console.sessionOf root.id openings = some ⟨"k1", 1, 100⟩ ∧
    console.sessionOf ann.id openings = some ⟨"k2", 2, 100⟩ ∧
    console.grantOf ann.id storeA.id openings = some { id := 7, user := 2, tenant := 1 } ∧
    console.grantOf ann.id another.id openings = none ∧
    console.routed "/api/v1/admin/products" "store-a.acme.test" staffed = .tenant storeA ∧
    console.routed "/api/v1/admin/products" "myshop.acme.test" staffed = .tenant another := by
  decide +kernel

end Sample

theorem admins_admitted_here_only :
    (Sample.console.handle (Sample.annAt "store-a.acme.test") Sample.staffed).1 =
      .view Sample.ann (some Sample.storeA) ∧
      ∀ user tenant,
        (Sample.console.handle (Sample.annAt "myshop.acme.test") Sample.staffed).1 ≠ .view user tenant := by
  have admitted (host : String) :=
    admins_admitted_iff Sample.console Sample.django_lawful Sample.openings_run (Sample.annAt_asks host)
  obtain ⟨users, roots, anns, granted, ungranted, here, there⟩ := Sample.openings_known
  constructor
  · refine (admitted _ _ _).mpr
      ⟨Sample.storeA, rfl, here, by rw [users]; simp, rfl, ⟨_, anns, rfl, ?_⟩, .inr (by rw [granted]; rfl)⟩
    rintro _ ⟨⟩
    decide
  · intro user tenant viewed
    obtain ⟨t, rfl, routed, member, _, ⟨token, session, carried, _⟩, permitted⟩ := (admitted _ _ _).mp viewed
    cases there.symm.trans routed
    rw [users] at member
    rcases List.mem_pair.mp member with rfl | rfl
    · cases roots.symm.trans session
      exact absurd carried (by decide)
    · rw [ungranted] at permitted
      rcases permitted with superuser | granted
      · cases superuser
      · cases granted

end Storefront
