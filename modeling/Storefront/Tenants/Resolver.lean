import Storefront.Tenants.Tenant

set_option autoImplicit false

/-!
# From the host of a request to its tenant

The resolver reads the label next to the domain suffix from the host in lower
case, and looks for the active tenant with exactly this subdomain.
-/

namespace Storefront

open Relational Transition Text

-- A domain name, such as acme.test
def isDomainChar (c : Char) : Bool := c.isAlphanum || c == '-' || c == '.'

structure DomainName where
  text : String
  valid : text.toList.all isDomainChar = true

-- request.get_host returns the Host header unless ALLOWED_HOSTS or the syntax of names and ports refuse it.
structure HostPolicy where
  allows : String → Bool
  valid : ∀ host, allows host = true → host.toList.all fun c => isDomainChar c || c == ':' || c == '[' || c == ']'

structure Routing where
  get_host : HostPolicy
  TENANT_DOMAIN_SUFFIX : DomainName
  DEBUG : Bool
  DEV_DEFAULT_TENANT_SUBDOMAIN : String

def GLOBAL_EXEMPT_PATHS : List String :=
  ["/admin/", "/api/v1/docs/", "/api/v1/schema/", "/api/v1/webhooks/", "/dashboard/", "/api/v1/admin/platform/",
    "/api/v1/admin/auth/"]

def isExempt (path : String) (paths : List String) : Bool := paths.any fun p => decide (p.toList <+: path.toList)

inductive Routed
  | exempt
  | tenant (tenant : Tenant)
  | disallowedHost
  | error (code : String) (status : Nat)
  deriving DecidableEq

namespace TenantResolverMiddleware

def extractSubdomain (TENANT_DOMAIN_SUFFIX host : String) : Option String :=
  let host := lower (firstPart ':' host.toList)
  let suffix := lower TENANT_DOMAIN_SUFFIX.toList
  if host = suffix ∨ ¬ '.' :: suffix <:+ host then none
  else
    let candidate := lastPart '.' (host.take (host.length - suffix.length - 1))
    if String.ofList candidate ∈ TENANT_RESERVED_SUBDOMAINS then none
    else if candidate = [] then none
    else some (String.ofList candidate)

-- The dev fallback needs DEBUG and the setting.
def fallback (routing : Routing) : Option String :=
  if routing.DEBUG && routing.DEV_DEFAULT_TENANT_SUBDOMAIN != "" then some routing.DEV_DEFAULT_TENANT_SUBDOMAIN
  else none

def call (routing : Routing) (tenants : Table Tenant) (path host : String) : Routed :=
  if isExempt path GLOBAL_EXEMPT_PATHS then .exempt
  else if routing.get_host.allows host then
    match (extractSubdomain routing.TENANT_DOMAIN_SUFFIX.text host).or (fallback routing) with
    | none => .error "tenant_required" 400
    | some subdomain =>
      match tenants.rows.find? fun t => t.subdomain == subdomain && t.is_active with
      | some tenant => .tenant tenant
      | none => .error "tenant_not_found" 404
  else .disallowedHost

end TenantResolverMiddleware

/-! ## Hosts and the names they show -/

/-- A host shows a name in any letter case, with or without a port. -/
def Shows (host : String) (name : List Char) : Prop :=
  ∃ shown port, host.toList = shown ++ port ∧ lower shown = lower name ∧ (port = [] ∨ ∃ number, port = ':' :: number)

/-- The label next to the suffix, and what stands before it. -/
structure Labelled (host : String) (before label : List Char) (suffix : String) : Prop where
  shows : Shows host (before ++ label ++ '.' :: suffix.toList)
  separated : before = [] ∨ ∃ outer, before = outer ++ ['.']
  named : ∀ c ∈ before ++ label, c ≠ ':'
  single : '.' ∉ label

theorem Shows.firstPart {host : String} {name : List Char} (shows : Shows host name) (clear : ':' ∉ name) :
    lower (firstPart ':' host.toList) = lower name := by
  obtain ⟨shown, port, written, same, ends⟩ := shows
  have clean : ':' ∉ shown := by
    rw [← mem_lower rfl, same, mem_lower rfl]
    exact clear
  rw [written]
  rcases ends with rfl | ⟨number, rfl⟩
  · rw [List.append_nil, firstPart_of_not_mem clean, same]
  · rw [firstPart_append clean, same]

theorem DomainName.colon_free (d : DomainName) : ':' ∉ d.text.toList := by
  intro inside
  have domain := List.all_eq_true.mp d.valid _ inside
  revert domain
  decide

theorem slug_symbols {value : List Char} (slug : ∀ c ∈ value, isSlugChar c = true) : ':' ∉ value ∧ '.' ∉ value := by
  constructor <;>
  · intro inside
    have allowed := slug _ inside
    revert allowed
    decide

namespace TenantResolverMiddleware

variable {routing : Routing} {directory : Directory} {path host : String}

theorem extractSubdomain_labelled {before label : List Char} {suffix : DomainName}
    (labelled : Labelled host before label suffix.text) :
    extractSubdomain suffix.text host =
      if String.ofList (lower label) ∈ TENANT_RESERVED_SUBDOMAINS then none
      else if label = [] then none
      else some (String.ofList (lower label)) := by
  have clear : ':' ∉ before ++ label ++ '.' :: suffix.text.toList := by
    have colon := suffix.colon_free
    have named := labelled.named
    simp only [List.mem_append, List.mem_cons, not_or]
    refine ⟨?_, by decide, colon⟩
    rw [← not_or, ← List.mem_append]
    exact fun inside => named _ inside rfl
  have read := labelled.shows.firstPart clear
  have whole : lower (before ++ label ++ '.' :: suffix.text.toList) =
      lower (before ++ label) ++ '.' :: lower suffix.text.toList := by
    rw [lower_append]
    rfl
  have longer : lower (before ++ label) ++ '.' :: lower suffix.text.toList ≠ lower suffix.text.toList := by
    intro same
    have lengths := congrArg List.length same
    simp only [List.length_append, List.length_cons] at lengths
    omega
  have stripped : (lower (before ++ label) ++ '.' :: lower suffix.text.toList).take
      ((lower (before ++ label) ++ '.' :: lower suffix.text.toList).length - (lower suffix.text.toList).length - 1) =
        lower (before ++ label) := by
    apply List.take_left'
    simp only [List.length_append, List.length_cons]
    omega
  have single : '.' ∉ lower label := by
    rw [mem_lower rfl]
    exact labelled.single
  have candidate : lastPart '.' (lower (before ++ label)) = lower label := by
    rcases labelled.separated with rfl | ⟨outer, rfl⟩
    · exact lastPart_of_not_mem single
    · rw [lower_append, lower_append, List.append_assoc]
      exact lastPart_append single _
  have emptied : lower label = [] ↔ label = [] := List.map_eq_nil_iff
  simp only [extractSubdomain, read, whole, stripped, candidate, emptied, longer, List.suffix_append, not_true_eq_false,
    or_self, if_false]

theorem call_live (routed : isExempt path GLOBAL_EXEMPT_PATHS = false) (live : fallback routing = none)
    (tenants : Table Tenant) (t : Tenant) : call routing tenants path host = .tenant t ↔
      routing.get_host.allows host = true ∧ ∃ subdomain, extractSubdomain routing.TENANT_DOMAIN_SUFFIX.text host = some subdomain ∧
        tenants.rows.find? (fun t => t.subdomain == subdomain && t.is_active) = some t := by
  simp only [call, routed, live, Option.or_none]
  cases routing.get_host.allows host with
  | false => simp
  | true =>
    cases extractSubdomain routing.TENANT_DOMAIN_SUFFIX.text host with
    | none => simp
    | some subdomain =>
      cases found : tenants.rows.find? fun t => t.subdomain == subdomain && t.is_active with
      | none => simp [found]
      | some other => simp [found]

theorem find_subdomain {t : Tenant} (member : t ∈ directory.tenants.rows) (active : t.is_active = true) :
    directory.tenants.rows.find? (fun u => u.subdomain == t.subdomain && u.is_active) = some t := by
  cases found : directory.tenants.rows.find? fun u => u.subdomain == t.subdomain && u.is_active with
  | none =>
    have absent := List.find?_eq_none.mp found t member
    simp [active] at absent
  | some other =>
    have picked := List.find?_some found
    simp only [Bool.and_eq_true, beq_iff_eq] at picked
    rw [directory.eq_of_subdomain (List.mem_of_find?_eq_some found) member picked.1]

theorem labelled_tenant {t : Tenant} (member : t ∈ directory.tenants.rows) {suffix : String}
    (shows : Shows host (t.subdomain.toList ++ '.' :: suffix.toList)) : Labelled host [] t.subdomain.toList suffix := by
  obtain ⟨colon, dot⟩ := slug_symbols (directory.accepted t member).slug.2.1
  refine ⟨shows, .inl rfl, ?_, dot⟩
  rintro c inside rfl
  exact colon inside

/-- Exactly the tenants in lower case are reached by their own hosts. -/
theorem call_own (routed : isExempt path GLOBAL_EXEMPT_PATHS = false) (live : fallback routing = none) {t : Tenant}
    (member : t ∈ directory.tenants.rows) (active : t.is_active = true)
    (shows : Shows host (t.subdomain.toList ++ '.' :: routing.TENANT_DOMAIN_SUFFIX.text.toList)) :
    call routing directory.tenants path host = .tenant t ↔
      lower t.subdomain.toList = t.subdomain.toList ∧ routing.get_host.allows host = true := by
  obtain ⟨filled, _, free⟩ := (directory.accepted t member).slug
  rw [call_live routed live, extractSubdomain_labelled (labelled_tenant member shows), and_comm]
  refine and_congr_left fun _ => ?_
  constructor
  · rintro ⟨subdomain, read, found⟩
    have picked := List.find?_some found
    simp only [Bool.and_eq_true, beq_iff_eq] at picked
    rw [if_neg filled] at read
    split at read
    · cases read
    · cases read
      rw [picked.1, String.toList_ofList, lower_lower]
  · intro flat
    rw [flat, String.ofList_toList, if_neg free, if_neg filled]
    exact ⟨_, rfl, find_subdomain member active⟩

theorem call_reserved (routed : isExempt path GLOBAL_EXEMPT_PATHS = false) (live : fallback routing = none)
    {before label : List Char} (labelled : Labelled host before label routing.TENANT_DOMAIN_SUFFIX.text)
    (reserved : String.ofList (lower label) ∈ TENANT_RESERVED_SUBDOMAINS) (tenants : Table Tenant) (t : Tenant) :
    call routing tenants path host ≠ .tenant t := by
  rw [Ne, call_live routed live, extractSubdomain_labelled labelled, if_pos reserved]
  rintro ⟨_, _, read, _⟩
  cases read

end TenantResolverMiddleware

/-- A tenant's hosts reach it exactly if its subdomain is in lower case; reserved labels reach nobody. -/
theorem hosts_route_iff (routing : Routing) (directory : Directory) {path : String}
    (routed : isExempt path GLOBAL_EXEMPT_PATHS = false) (live : TenantResolverMiddleware.fallback routing = none) :
    (∀ t ∈ directory.tenants.rows, t.is_active = true → ∀ host,
      Shows host (t.subdomain.toList ++ '.' :: routing.TENANT_DOMAIN_SUFFIX.text.toList) →
        (TenantResolverMiddleware.call routing directory.tenants path host = .tenant t ↔
          lower t.subdomain.toList = t.subdomain.toList ∧ routing.get_host.allows host = true)) ∧
    ∀ host before label, Labelled host before label routing.TENANT_DOMAIN_SUFFIX.text →
      String.ofList (lower label) ∈ TENANT_RESERVED_SUBDOMAINS →
        ∀ t, TenantResolverMiddleware.call routing directory.tenants path host ≠ .tenant t :=
  ⟨fun _ member active _ shows => TenantResolverMiddleware.call_own routed live member active shows,
    fun _ _ _ labelled reserved t => TenantResolverMiddleware.call_reserved routed live labelled reserved _ t⟩

namespace Sample

def isWebHost (host : String) : Bool :=
  let name := firstPart ':' host.toList
  name != [] && (name.all isDomainChar && (host.toList.drop (name.length + 1)).all Char.isDigit)

def webRouting : Routing where
  get_host :=
    { allows := fun host => isWebHost host && host.toList.all fun c => isDomainChar c || c == ':'
      valid := by
        intro host allowed
        simp only [Bool.and_eq_true, List.all_eq_true] at allowed ⊢
        intro c inside
        have plain := allowed.2 c inside
        simp only [Bool.or_eq_true] at plain ⊢
        exact .inl (.inl plain) }
  TENANT_DOMAIN_SUFFIX := ⟨"acme.test", by decide⟩
  DEBUG := false
  DEV_DEFAULT_TENANT_SUBDOMAIN := ""

-- Two tenants whose names differ by case, and one more.
def tenants : Outcome Directory := do
  let d ← Directory.empty.create 1 { name := "Store", subdomain := "store-a" }
  let d ← d.create 2 { name := "My Shop", subdomain := "MyShop" }
  let d ← d.create 3 { name := "Another shop", subdomain := "myshop" }
  d.update 1 { name := some "Store A" }

def directory : Directory := tenants.toOption.get (by decide +kernel)

def storeA : Tenant := { id := 1, name := "Store A", subdomain := "store-a" }
def myShop : Tenant := { id := 2, name := "My Shop", subdomain := "MyShop" }
def another : Tenant := { id := 3, name := "Another shop", subdomain := "myshop" }

theorem storeA_shown : Shows "Store-A.ACME.test:8000" (storeA.subdomain.toList ++ '.' :: "acme.test".toList) :=
  ⟨"Store-A.ACME.test".toList, ":8000".toList, by decide +kernel, by decide +kernel, .inr ⟨"8000".toList, by decide +kernel⟩⟩

end Sample

theorem hosts_route_store_a : TenantResolverMiddleware.call Sample.webRouting Sample.directory.tenants
    "/api/v1/cart" "Store-A.ACME.test:8000" = .tenant Sample.storeA :=
  ((hosts_route_iff Sample.webRouting Sample.directory (by decide +kernel) rfl).1 Sample.storeA (by decide +kernel) rfl _
    Sample.storeA_shown).mpr (by decide +kernel)

/-- The host of one tenant reaches the other. -/
theorem host_of_another : Sample.myShop ∈ Sample.directory.tenants.rows ∧
    Shows "MyShop.acme.test" (Sample.myShop.subdomain.toList ++ '.' :: Sample.webRouting.TENANT_DOMAIN_SUFFIX.text.toList) ∧
    TenantResolverMiddleware.call Sample.webRouting Sample.directory.tenants "/api/v1/cart" "MyShop.acme.test" =
      .tenant Sample.another ∧ Sample.another ≠ Sample.myShop := by
  refine ⟨by decide +kernel, ⟨"MyShop.acme.test".toList, [], by decide +kernel, by decide +kernel, .inl rfl⟩, ?_, ?_⟩
  · decide +kernel
  · decide +kernel

end Storefront
