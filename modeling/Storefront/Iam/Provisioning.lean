import Storefront.Iam.Sessions

set_option autoImplicit false

/-!
# Where a tenant's admins come from

Only a platform admin's request makes a user the admin of a tenant, and the user it
creates for this can log in and is let through.
-/

namespace Storefront

open Relational Transition Text

namespace Iam

variable {iam : Iam} {s s' : Accounts} {s₀ : Accounts} {moves : List (Move Accounts Action)}

theorem learnGrant_granted {u tenant_id : Id} {grant : Option TenantMembership} {move : Move Accounts Action}
    {m : TenantMembership} (fresh : grant ≠ some m) (learnt : iam.learnGrant u tenant_id grant move = some m) :
    ∃ request, move.label = .request request ∧ (iam.handle request move.before).1 = .granted m ∧ m.user = u ∧
      m.tenant = tenant_id := by
  obtain ⟨before, label, after⟩ := move
  cases label with
  | tick seconds => exact absurd learnt fresh
  | site users tenants =>
    simp only [learnGrant] at learnt
    split at learnt
    · exact absurd learnt fresh
    · cases learnt
  | request request =>
    simp only [learnGrant] at learnt
    split at learnt
    next m' answered =>
      split at learnt
      next mine =>
        cases learnt
        exact ⟨request, rfl, answered, mine⟩
      · exact absurd learnt fresh
    next membership_id _ =>
      exact absurd (Option.filter_eq_some_iff.mp learnt).1 fresh
    · exact absurd learnt fresh

theorem granted_by {u tenant_id : Id} {m : TenantMembership} (known : iam.grantOf u tenant_id moves = some m) :
    ∃ earlier move later, moves = earlier ++ move :: later ∧ iam.grantOf u tenant_id earlier ≠ some m ∧
      iam.learnGrant u tenant_id (iam.grantOf u tenant_id earlier) move = some m ∧
      ∀ since rest, later = since ++ rest → iam.grantOf u tenant_id (earlier ++ move :: since) = some m :=
  history_learnt (P := (· = some m)) (by simp) known

theorem granted_cases {request : AdminRequest} {m : TenantMembership}
    (answered : (iam.handle request s).1 = .granted m) : ∃ tenant_id data admin,
      request.endpoint = .createMembership tenant_id data ∧ iam.asPlatformAdmin request.authorization s = .ok admin ∧
        createMembership iam.lib request.draws tenant_id data s = .ok (m, (iam.handle request s).2) := by
  have handles := iam.handle_handles request s
  generalize iam.handle request s = result at handles answered
  obtain ⟨answer, s'⟩ := result
  obtain rfl : answer = .granted m := answered
  cases handles with
  | granted endpoint admitted done => exact ⟨_, _, _, endpoint, admitted, done⟩
  | quiet quiet => exact quiet.elim

theorem createMembership_place {draws : Draws} {tenant_id : Id} {data : MembershipCreate} {m : TenantMembership}
    (done : createMembership iam.lib draws tenant_id data s = .ok (m, s')) : m.tenant = tenant_id := by
  obtain ⟨_, tenant, _, _, _, _, found, _, assigned, _⟩ := createMembership_eq_ok done
  rw [(assign_eq_ok assigned).2.1]
  exact (Table.mem_of_get found).2

end Iam

/-- A tenant's admin who is no superuser was granted the tenant through a superuser's session, and keeps it since. -/
theorem admins_granted (iam : Iam) (lawful : iam.lib.Lawful) {s₀ s : Accounts} {moves : List (Move Accounts Action)}
    (run : iam.machine.Run s₀ moves s) {request : AdminRequest} {path host : String}
    (endpoint : request.endpoint = .tenantAdmin path host) {user : User} {t : Tenant}
    (viewed : (iam.handle request s).1 = .view user (some t)) (plain : user.is_superuser = false) :
    ∃ earlier move later, moves = earlier ++ move :: later ∧ ∃ granting data admin m,
      move.label = .request granting ∧ granting.endpoint = .createMembership t.id data ∧
        (iam.handle granting move.before).1 = .granted m ∧ m.user = user.id ∧ m.tenant = t.id ∧
        admin ∈ move.before.users.rows ∧ admin.is_active = true ∧ admin.is_superuser = true ∧
        iam.Carries granting.authorization admin.id move.before.now earlier ∧
        ∀ since rest, later = since ++ rest → iam.grantOf user.id t.id (earlier ++ move :: since) = some m := by
  obtain ⟨through, _⟩ := (Iam.view_iff endpoint user (some t)).mp viewed
  obtain ⟨_, _, _, _, same, permitted⟩ := (Iam.asTenantAdmin_iff run lawful).mp through
  cases same
  have granted : (iam.grantOf user.id t.id moves).isSome = true := permitted.resolve_left (by simp [plain])
  obtain ⟨m, known⟩ := Option.isSome_iff_exists.mp granted
  obtain ⟨earlier, move, later, rfl, fresh, learnt, kept⟩ := Iam.granted_by known
  obtain ⟨granting, label, answered, owner, place⟩ := Iam.learnGrant_granted fresh learnt
  obtain ⟨tenant_id, data, admin, asked, admitted, done⟩ := Iam.granted_cases answered
  obtain rfl : tenant_id = t.id := (Iam.createMembership_place done).symm.trans place
  obtain ⟨before, _⟩ := run.split
  obtain ⟨member, active, carries, superuser⟩ := (Iam.letThrough_iff before lawful).mp admitted
  exact ⟨earlier, move, later, rfl, granting, data, admin, m, label, asked, answered, owner, place, member, active,
    superuser, carries, kept⟩

/-! ## A new admin's way in -/

namespace Iam

variable {iam : Iam} {s s' : Accounts} {s₀ : Accounts} {moves : List (Move Accounts Action)}

/-- A user who is the only one with an email, in any letter case, and logs in with a password. -/
structure Provisioned (iam : Iam) (u : Id) (email password : String) (s : Accounts) : Prop where
  alone : ∃ user, s.users.rows.filter (iam.lib.iexact · email) = [user] ∧ user.id = u ∧ user.is_active = true ∧
    iam.lib.check_password password user.password = true

theorem getUser_eq_none {p : User → Bool} {users : Table User} :
    getUser p users = .ok none ↔ users.rows.filter p = [] := by
  unfold getUser
  rcases users.rows.filter p with _ | ⟨first, _ | ⟨second, rest⟩⟩ <;> simp

theorem getUser_eq_some {p : User → Bool} {users : Table User} {user : User} :
    getUser p users = .ok (some user) ↔ users.rows.filter p = [user] := by
  unfold getUser
  rcases users.rows.filter p with _ | ⟨first, _ | ⟨second, rest⟩⟩ <;> simp

theorem provision_cases {draws : Draws} {v : MembershipCreate} {users users' : Table User} {user : User}
    (done : provision iam.lib draws v users = .ok (user, users')) :
    users.rows.filter (iam.lib.iexact · v.email) = [user] ∧ users' = users ∨
      users.rows.filter (iam.lib.iexact · v.email) = [] ∧ users'.rows = users.rows ++ [user] ∧
        user = { id := draws.user
                 username := v.email
                 email := v.email
                 first_name := v.first_name.getD ""
                 last_name := v.last_name.getD ""
                 password := iam.lib.make_password draws.salt (v.initial_password.getD "")
                 is_active := true
                 is_superuser := false } := by
  simp only [provision, bind_eq_ok] at done
  obtain ⟨found, looked, rest⟩ := done
  cases found with
  | some known =>
    cases rest
    exact .inl ⟨getUser_eq_some.mp looked, rfl⟩
  | none =>
    simp only [bind_eq_ok, saved, orRaise_eq_ok, pure_eq_ok, Prod.mk.injEq] at rest
    obtain ⟨_, _, _, inserted, rfl, rfl⟩ := rest
    exact .inr ⟨getUser_eq_none.mp looked, Table.insert_rows inserted, rfl⟩

theorem freeField_eq_ok {field raw value : String} : freeField field raw = .ok value ↔
    value.toList = strip raw.toList ∧ value ≠ "" ∧ Char.ofNat 0 ∉ value.toList := by
  simp only [freeField, bind_eq_ok, require_eq_ok, pure_eq_ok, exists_and_left, exists_const]
  constructor
  · rintro ⟨filled, clean, rfl⟩
    rw [String.toList_ofList]
    exact ⟨rfl, fun blank => filled (by simpa using congrArg String.toList blank), clean⟩
  · rintro ⟨same, filled, clean⟩
    rw [← same]
    exact ⟨fun blank => filled (String.toList_inj.mp blank), clean, String.ofList_toList⟩

theorem iexact_congr {email email' : String}
    (same : iam.lib.casing.str email.toList = iam.lib.casing.str email'.toList) :
    (iam.lib.iexact · email) = (iam.lib.iexact · email') := by
  funext u
  simp only [AuthLibrary.iexact, same]

section Kept

variable {u : Id} {email password : String}

theorem Provisioned.provision {draws : Draws} {v : MembershipCreate} {user : User} {users : Table User}
    (ready : iam.Provisioned u email password s) (done : provision iam.lib draws v s.users = .ok (user, users))
    (same : s'.users = users) : iam.Provisioned u email password s' := by
  obtain ⟨known, alone, rest⟩ := ready
  refine ⟨known, ?_, rest⟩
  rw [same]
  rcases provision_cases done with ⟨_, rfl⟩ | ⟨missing, rows, rfl⟩
  · exact alone
  · rw [rows, List.filter_append, alone]
    by_cases cased : iam.lib.casing.str v.email.toList = iam.lib.casing.str email.toList
    · rw [iexact_congr cased, alone] at missing
      cases missing
    · simp [AuthLibrary.iexact, cased]

theorem Provisioned.handle (ready : iam.Provisioned u email password s) (request : AdminRequest) :
    iam.Provisioned u email password (iam.handle request s).2 := by
  have handles := iam.handle_handles request s
  generalize iam.handle request s = result at handles
  obtain ⟨answer, s'⟩ := result
  cases handles with
  | loggedIn _ done =>
    obtain ⟨_, tokens, _, rfl⟩ := login_opens done
    exact ⟨ready.alone⟩
  | loggedOut _ _ => exact ⟨ready.alone⟩
  | granted _ _ done =>
    obtain ⟨_, _, _, _, _, _, _, provisioned, _, rfl⟩ := createMembership_eq_ok done
    exact ready.provision provisioned rfl
  | revoked _ _ done =>
    rw [deleteMembership_eq_ok done]
    exact ⟨ready.alone⟩
  | quiet _ => exact ready

def Unedited (moves : List (Move Accounts Action)) : Prop :=
  ∀ move ∈ moves, ∀ users tenants, move.label = .site users tenants → users = move.before.users

theorem Provisioned.run {earlier later : List (Move Accounts Action)} (before : iam.machine.Run s₀ earlier s)
    (ready : iam.Provisioned u email password s) (run : iam.machine.Run s₀ (earlier ++ later) s')
    (unedited : Unedited later) : iam.Provisioned u email password s' := by
  refine Machine.Run.since (P := fun moves s => Unedited moves → Provisioned iam u email password s)
    (fun _ _ => trivial : ∀ s, iam.machine.Start s → True) (fun _ _ _ _ _ => trivial) before (fun _ => ready) ?_ run
    unedited
  intro moves s action s' _ kept taken unedited
  cases taken
  have ready := kept fun move member => unedited move (List.mem_append_left _ member)
  cases action with
  | tick seconds => exact ⟨ready.alone⟩
  | site users tenants =>
    have same : users = s.users :=
      unedited _ (List.mem_append_right _ (List.mem_singleton_self _)) users tenants rfl
    subst same
    exact ⟨ready.alone⟩
  | request request => exact ready.handle request

end Kept

theorem validate_eq_ok {data v : MembershipCreate} (done : MembershipCreateSerializer.validate iam.lib data = .ok v) :
    v.email.toList = strip data.email.toList ∧ ∀ password ∈ data.initial_password, ∃ initial,
      v.initial_password = some initial ∧ ∀ field, freeField field password = .ok initial := by
  simp only [MembershipCreateSerializer.validate, AuthLibrary.emailField, bind_eq_ok, freeField_eq_ok,
    pure_eq_ok] at done
  obtain ⟨_, ⟨_, ⟨email, _⟩, _, _, rfl⟩, initial, passwords, _, _, _, _, _, _, _, _, _, _, rfl⟩ := done
  refine ⟨email, fun password given => ?_⟩
  rw [Option.mem_def.mp given] at passwords
  simp only [Option.mapM_some, MembershipCreateSerializer.initialPassword, bind_eq_ok, map_eq_ok, freeField_eq_ok,
    pure_eq_ok] at passwords
  obtain ⟨_, ⟨_, known, _, _, rfl⟩, rfl⟩ := passwords
  exact ⟨_, rfl, fun field => freeField_eq_ok.mpr known⟩

theorem provisioned {granting : AdminRequest} {tenant_id : Id} {data : MembershipCreate} {m : TenantMembership}
    {password : String} (lawful : iam.lib.Lawful) (endpoint : granting.endpoint = .createMembership tenant_id data)
    (granted : (iam.handle granting s).1 = .granted m) (initial : data.initial_password = some password)
    (missing : ∀ u ∈ s.users.rows, iam.lib.casing.str u.email.toList ≠ iam.lib.casing.str (strip data.email.toList)) :
    ∃ known, (∀ field, freeField field password = .ok known) ∧
      iam.Provisioned m.user (String.ofList (strip data.email.toList)) known (iam.handle granting s).2 := by
  obtain ⟨_, _, _, asked, _, done⟩ := granted_cases granted
  cases endpoint.symm.trans asked
  obtain ⟨v, tenant, user, users, memberships, valid, _, provisioned, assigned, same⟩ := createMembership_eq_ok done
  obtain ⟨email, passwords⟩ := validate_eq_ok valid
  obtain ⟨known, stored, entered⟩ := passwords password initial
  have named : v.email = String.ofList (strip data.email.toList) := by rw [← email, String.ofList_toList]
  rw [← named, same]
  rcases provision_cases provisioned with ⟨found, _⟩ | ⟨none, rows, fields⟩
  · have member : user ∈ s.users.rows.filter (iam.lib.iexact · v.email) := by simp [found]
    obtain ⟨present, cased⟩ := List.mem_filter.mp member
    exact absurd (email ▸ of_decide_eq_true cased) (missing user present)
  · refine ⟨known, entered, user, ?_, (assign_eq_ok assigned).1.symm, by rw [fields], ?_⟩
    · rw [rows, List.filter_append, none, fields]
      simp [AuthLibrary.iexact]
    · rw [fields, stored]
      exact lawful.password _ _

theorem login_eq_ok {draws : Draws} {email password text known : String} {user : User} {tokens : Table Token}
    (typed : iam.lib.emailField email = .ok text) (entered : freeField "password" password = .ok known)
    (found : s.users.rows.filter (fun u => iam.lib.iexact u text && u.is_active) = [user])
    (checked : iam.lib.check_password known user.password = true)
    (inserted : (s.tokens.delete fun t => t.user == user.id).insert ⟨draws.key, user.id, s.now⟩ = some tokens) :
    login iam.lib draws email password s = .ok (some (user, ⟨draws.key, user.id, s.now⟩), { s with tokens }) := by
  simp only [login, typed, entered, getUser_eq_some.mpr found, bind, Except.bind, checked, saved, inserted, orRaise]
  rfl

theorem token_inserted {tokens : Table Token} {key : String} {user : User} (created : Time)
    (fresh : ∀ t ∈ tokens.rows, t.user ≠ user.id → t.key ≠ key) :
    ∃ tokens', (tokens.delete fun t => t.user == user.id).insert ⟨key, user.id, created⟩ = some tokens' := by
  refine Table.insert_isSome (fun t member e new old => ?_) (by simp [Schema.entries]) rfl
  rw [Table.delete_rows, List.mem_filter] at member
  obtain ⟨present, other⟩ := member
  have other : t.user ≠ user.id := by simpa using other
  simp only [Schema.entries, List.mem_cons, List.not_mem_nil, or_false] at new old
  rcases new with rfl | rfl <;> rcases old with same | same
  · exact fresh t present other (IndexEntry.text.inj same).symm
  · cases same
  · cases same
  · exact other (IndexEntry.owner.inj same).symm

theorem handle_login {request : AdminRequest} {email password : String} {user : User} {token : Token}
    (endpoint : request.endpoint = .login email password)
    (done : login iam.lib request.draws email password s = .ok (some (user, token), s')) :
    iam.handle request s = (.loggedIn user token (iam.tokenExpiresAt token), s') := by
  simp only [handle, endpoint, done]
  rfl

theorem sessionOf_login {request : AdminRequest} {user : User} {token : Token} {expires_at : Option Int}
    (answered : (iam.handle request s).1 = .loggedIn user token expires_at) :
    iam.sessionOf user.id (moves ++ [⟨s, .request request, s'⟩]) = some token := by
  rw [sessionOf, history_snoc]
  simp [learnSession, answered]

theorem grantOf_login {request : AdminRequest} {user : User} {token : Token} {expires_at : Option Int}
    {u tenant_id : Id}
    (answered : (iam.handle request s).1 = .loggedIn user token expires_at) :
    iam.grantOf u tenant_id (moves ++ [⟨s, .request request, s'⟩]) = iam.grantOf u tenant_id moves := by
  rw [grantOf, history_snoc]
  simp [learnGrant, answered]

end Iam

/-- A user created for a tenant logs in with the email in any letter case and the initial password, and is let through. -/
theorem provisioned_admins_enter (iam : Iam) (lawful : iam.lib.Lawful) {s₀ s : Accounts}
    {earlier later : List (Move Accounts Action)} {move : Move Accounts Action}
    (run : iam.machine.Run s₀ (earlier ++ move :: later) s) {granting : AdminRequest} {data : MembershipCreate}
    {tenant_id : Id} {m : TenantMembership} {password email text : String} (asked : move.label = .request granting)
    (endpoint : granting.endpoint = .createMembership tenant_id data)
    (granted : (iam.handle granting move.before).1 = .granted m)
    (missing : ∀ u ∈ move.before.users.rows,
      iam.lib.casing.str u.email.toList ≠ iam.lib.casing.str (strip data.email.toList))
    (initial : data.initial_password = some password) (unedited : Iam.Unedited later)
    (typed : iam.lib.emailField email = .ok text)
    (same : iam.lib.casing.str text.toList = iam.lib.casing.str (strip data.email.toList)) {entry : AdminRequest}
    (asks : entry.endpoint = .login email password)
    (fresh : ∀ t ∈ s.tokens.rows, t.user ≠ m.user → t.key ≠ entry.draws.key) :
    ∃ user token expires_at, (iam.handle entry s).1 = .loggedIn user token expires_at ∧ user.id = m.user ∧
      ∀ (request : AdminRequest) (path host : String) (t : Tenant), request.endpoint = .tenantAdmin path host →
        request.authorization = some token.key → iam.routed path host s = .tenant t → t.id = tenant_id →
          (iam.grantOf m.user tenant_id (earlier ++ move :: later)).isSome = true →
            (iam.handle request (iam.handle entry s).2).1 = .view user (some t) := by
  obtain ⟨before, taken⟩ := run.split
  obtain ⟨known, entered, ready⟩ := Iam.provisioned lawful endpoint granted initial missing
  have after : move.after = (iam.handle granting move.before).2 := by
    rw [Iam.machine, asked] at taken
    exact (Option.some.inj taken).symm
  have reached : iam.machine.Run s₀ (earlier ++ [move]) move.after := before.step taken
  rw [← after] at ready
  have ready := ready.run reached (by simpa using run) unedited
  obtain ⟨user, alone, owner, active, checked⟩ := ready.alone
  have alike : (iam.lib.iexact · text) = (iam.lib.iexact · (String.ofList (strip data.email.toList))) :=
    Iam.iexact_congr (by rw [same, String.toList_ofList])
  have found : s.users.rows.filter (fun u => iam.lib.iexact u text && u.is_active) = [user] := by
    simp only [Bool.and_comm _ (User.is_active _), ← List.filter_filter, alike, alone]
    simp [active]
  have member : user ∈ s.users.rows := List.mem_of_mem_filter (p := (iam.lib.iexact · _)) (by rw [alone]; simp)
  obtain ⟨tokens, inserted⟩ := Iam.token_inserted s.now (owner ▸ fresh)
  have done := Iam.login_eq_ok typed (entered "password") found checked inserted
  have handled := Iam.handle_login asks done
  refine ⟨user, _, _, by rw [handled], owner, fun request path host t asking carried routed place kept => ?_⟩
  have on : iam.machine.Run s₀ _ (iam.handle entry s).2 := run.step (l := .request entry) rfl
  rw [Iam.view_iff asking, Iam.asTenantAdmin_iff on lawful]
  refine ⟨⟨?_, active, ⟨_, Iam.sessionOf_login (by rw [handled]), carried, ?_⟩, t, rfl, .inr ?_⟩, .inr ⟨t, ?_, rfl⟩⟩
  · rw [handled]
    exact member
  · rw [handled]
    intro expires_at ends
    unfold Iam.tokenExpiresAt at ends
    split at ends
    · cases ends
    · cases ends
      dsimp only
      omega
  · rw [owner, place, Iam.grantOf_login (by rw [handled])]
    exact kept
  · rw [handled]
    exact routed

namespace Sample

theorem annIsGranted_asks : annIsGranted.endpoint = .createMembership 1
    { email := "Ann@store-a.example "
      create_user_if_missing := true
      initial_password := some "open sesame"
      first_name := some "Ann"
      last_name := some "Lee" } := rfl

theorem annEnters_asks : annEnters.endpoint = .login "ann@Store-A.example" "open sesame" := rfl

end Sample

theorem admins_granted_ann : ∃ earlier move later, Sample.openings = earlier ++ move :: later ∧
    ∃ (granting : AdminRequest) (admin : User), move.label = .request granting ∧ admin.is_superuser = true ∧
      Sample.console.Carries granting.authorization admin.id move.before.now earlier := by
  have viewed : (Sample.console.handle (Sample.annAt "store-a.acme.test") Sample.staffed).1 =
      .view Sample.ann (some Sample.storeA) := by
    rw [Iam.view_iff (Sample.annAt_asks _), Iam.asTenantAdmin_iff Sample.openings_run Sample.django_lawful]
    obtain ⟨users, _, anns, granted, _, here, _⟩ := Sample.openings_known
    refine ⟨⟨by rw [users]; simp, rfl, ⟨_, anns, rfl, ?_⟩, _, rfl, .inr (by rw [granted]; rfl)⟩, .inr ⟨_, here, rfl⟩⟩
    rintro _ ⟨⟩
    decide
  obtain ⟨earlier, move, later, all, granting, _, admin, _, label, _, _, _, _, _, _, superuser, carries, _⟩ :=
    admins_granted Sample.console Sample.django_lawful Sample.openings_run (Sample.annAt_asks _) viewed rfl
  exact ⟨earlier, move, later, all, granting, admin, label, superuser, carries⟩

theorem provisioned_admins_enter_ann : ∃ user token expires_at,
    (Sample.console.handle Sample.annEnters Sample.granted).1 = .loggedIn user token expires_at ∧ user.id = 2 := by
  have run : Sample.console.machine.Run Sample.installed ([⟨Sample.installed, Sample.rootEnters, Sample.entered⟩] ++
      ⟨Sample.entered, .request Sample.annIsGranted, Sample.granted⟩ :: []) Sample.granted := Sample.granting_runs
  have granted : (Sample.console.handle Sample.annIsGranted Sample.entered).1 =
      .granted { id := 7, user := 2, tenant := 1 } := by decide +kernel
  have typed : Sample.console.lib.emailField "ann@Store-A.example" = .ok "ann@Store-A.example" := by decide +kernel
  obtain ⟨user, token, expires_at, opened, owner, _⟩ :=
    provisioned_admins_enter Sample.console Sample.django_lawful run rfl Sample.annIsGranted_asks granted
      (by decide +kernel) rfl (by simp [Iam.Unedited]) typed (by decide +kernel) Sample.annEnters_asks
      (by decide +kernel)
  exact ⟨user, token, expires_at, opened, owner⟩

end Storefront
