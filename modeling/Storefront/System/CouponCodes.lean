import Storefront.Carts.Codes
import Storefront.System.CouponPages

set_option autoImplicit false

/-!
# Coupon codes from the admin to the shopper

A code stays as it was created. Shoppers find it where their text, as the request
reads it, is in upper case.
-/

namespace Storefront

open Relational Transition Text

section Steps

variable {settings : Settings} {lib : WebhookLibrary} {s s' : Sys} {tenant coupon : Id} {code : String}

theorem createCoupon_has {id : Id} {data : CouponCreate} {db db' : Db} (done : createCoupon tenant id data db = .ok db') :
    db'.HasCoupon tenant id data.code ∧ ∀ c ∈ db.coupons.rows, c ∈ db'.coupons.rows := by
  simp only [createCoupon, bind_eq_ok] at done
  obtain ⟨_, _, _, _, _, _, _, _, _, _, inserted⟩ := done
  obtain ⟨_, put, rfl⟩ := stored_eq_ok.mp inserted
  have rows := Table.insert_rows put
  simp only [Db.HasCoupon, rows, List.mem_append, List.mem_singleton]
  exact ⟨⟨_, .inr rfl, rfl, rfl, rfl⟩, fun c member => .inl member⟩

theorem modifyCoupons_has {db : Db} {p : Coupon → Bool} {f : Coupon → Coupon}
    {inert : Table.Inert f} (keeps : ∀ c, (f c).id = c.id ∧ (f c).tenant = c.tenant ∧ (f c).code = c.code)
    (stored : db.HasCoupon tenant coupon code) : (db.modifyCoupons p f inert).HasCoupon tenant coupon code := by
  obtain ⟨c, member, named, owner, coded⟩ := stored
  refine ⟨_, List.mem_map_of_mem member, ?_⟩
  unfold Table.updated
  split
  · obtain ⟨id, scope, text⟩ := keeps c
    exact ⟨id.trans named, scope.trans owner, text.trans coded⟩
  · exact ⟨named, owner, coded⟩

theorem hasCoupon_of_offers {db db' : Db} (same : db'.couponOffers = db.couponOffers)
    (stored : db.HasCoupon tenant coupon code) : db'.HasCoupon tenant coupon code := by
  obtain ⟨c, member, named, owner, coded⟩ := stored
  have image : c.offer ∈ db'.couponOffers := same ▸ List.mem_map_of_mem member
  obtain ⟨c', present, equal⟩ := List.mem_map.mp image
  exact ⟨c', present, (congrArg Coupon.id equal).trans named, (congrArg Coupon.tenant equal).trans owner,
    (congrArg Coupon.code equal).trans coded⟩

theorem shop_hasCoupon {e : Event} (taken : shop settings lib s e = some s') (stored : s.db.HasCoupon tenant coupon code) :
    s'.db.HasCoupon tenant coupon code := by
  rcases shop_counts_coupons couponOffering couponOffers_of_coupons taken with page | ⟨_, same⟩
  · cases page with
    | created done =>
      obtain ⟨c, member, rest⟩ := stored
      exact ⟨c, (createCoupon_has done).2 c member, rest⟩
    | patched done =>
      rw [← patchCoupon_saves done]
      exact modifyCoupons_has (fun _ => ⟨rfl, rfl, rfl⟩) stored
    | deactivated done =>
      rw [← deactivateCoupon_saves done]
      exact modifyCoupons_has (fun _ => ⟨rfl, rfl, rfl⟩) stored
  · exact hasCoupon_of_offers same stored

end Steps

def CreatesCode (k : Casing) (moves : List (Move Sys Event)) (tenant coupon : Id) (raw code : String) : Prop :=
  AdminCouponCreateSerializer.code k raw = .ok code ∧
    ∃ data : CouponCreate, data.code = code ∧ ∃ m ∈ moves, m.label = .createCoupon tenant coupon data

section Runs

variable {settings : Settings} {lib : WebhookLibrary} {k : Casing} {s₀ s : Sys} {moves : List (Move Sys Event)}

theorem Run.coupon_created (run : (storefront settings lib).Run s₀ moves s) : ∀ m ∈ moves, ∀ tenant coupon data,
    m.label = .createCoupon tenant coupon data → s.db.HasCoupon tenant coupon data.code := by
  induction run with
  | start _ => simp
  | @step _ _ _ e run taken ih =>
    intro m member tenant coupon data creates
    have taken : shop settings lib _ e = some _ := taken
    rcases List.mem_append.mp member with old | new
    · exact shop_hasCoupon taken (ih m old tenant coupon data creates)
    · obtain rfl := List.mem_singleton.mp new
      obtain rfl : e = .createCoupon tenant coupon data := creates
      obtain ⟨db', done, rfl⟩ := commits_eq_some taken
      exact (createCoupon_has done).1

theorem CreatesCode.has {tenant coupon : Id} {raw code : String} (creates : CreatesCode k moves tenant coupon raw code)
    (run : (storefront settings lib).Run s₀ moves s) : s.db.HasCoupon tenant coupon code := by
  obtain ⟨_, data, rfl, m, member, label⟩ := creates
  exact Run.coupon_created run m member tenant coupon data label

end Runs

section Requests

variable {k : Casing} {db : Db} {tenant coupon : Id} {raw code text : String}

theorem resolves_received {request : CodeRequest} (stored : db.HasCoupon tenant coupon code) :
    request.Resolves tenant coupon text db ↔ request.received text = .ok code := by
  rw [CodeRequest.resolves_iff]
  constructor
  · rintro ⟨code', c, received, found⟩
    rw [received, (stored.lookup code').mp ⟨c, found⟩]
  · intro received
    obtain ⟨c, found⟩ := (stored.lookup code).mpr rfl
    exact ⟨code, c, received, found⟩

theorem serializer_received (accepted : AdminCouponCreateSerializer.code k raw = .ok code)
    (same : k.Same raw.toList text.toList) :
    ApplyCouponSerializer.code text = .ok code ↔ k.str (strip text.toList) = strip text.toList := by
  obtain ⟨stored, matched⟩ := code_eq_ok accepted
  obtain ⟨filled, short, chars⟩ := matchesCode_chars matched
  have cased : k.str (strip text.toList) = code.toList := same.symm.trans stored.symm
  rw [ApplyCouponSerializer.code, charField_eq_ok, cased]
  constructor
  · exact And.left
  · refine fun plain => ⟨plain, fun blank => filled (by rw [blank]; rfl), short, fun null => ?_⟩
    exact (isCodeChar_plain (chars _ null)).2.2.2.2 rfl

theorem url_received (accepted : AdminCouponCreateSerializer.code k raw = .ok code) (same : k.Same raw.toList text.toList) :
    urlCode text = .ok code ↔ strip text.toList = text.toList ∧ k.str text.toList = text.toList := by
  obtain ⟨stored, matched⟩ := code_eq_ok accepted
  obtain ⟨filled, _, chars⟩ := matchesCode_chars matched
  simp only [urlCode, bind_eq_ok, require_eq_ok, pure_eq_ok, exists_and_left, exists_const]
  constructor
  · rintro ⟨_, rfl⟩
    exact ⟨code_strip accepted, code_upper accepted⟩
  · rintro ⟨bare, upper⟩
    obtain rfl : text = code := by
      have cased : k.str (strip text.toList) = code.toList := same.symm.trans stored.symm
      rw [bare, upper] at cased
      exact String.toList_inj.mp cased
    exact ⟨⟨fun blank => filled (by rw [blank]; rfl), fun slash => (isCodeChar_plain (chars _ slash)).2.2.2.1 rfl⟩, rfl⟩

end Requests

/-- Equal up to case and white space is found exactly in upper case, and in the URL without white space. -/
theorem coupon_codes_iff (k : Casing) (settings : Settings) (lib : WebhookLibrary) {s₀ s : Sys}
    {moves : List (Move Sys Event)} (run : (storefront settings lib).Run s₀ moves s) :
    (∀ tenant coupon raw code, CreatesCode k moves tenant coupon raw code → ∀ text, k.Same raw.toList text.toList →
      (CodeRequest.apply.Resolves tenant coupon text s.db ↔ k.str (strip text.toList) = strip text.toList) ∧
      (CodeRequest.preview.Resolves tenant coupon text s.db ↔ k.str (strip text.toList) = strip text.toList) ∧
      (CodeRequest.remove.Resolves tenant coupon text s.db ↔
        strip text.toList = text.toList ∧ k.str text.toList = text.toList)) ∧
    ∀ tenant coupon raw code coupon' raw' code', CreatesCode k moves tenant coupon raw code →
      CreatesCode k moves tenant coupon' raw' code' → k.Same code.toList code'.toList → coupon = coupon' ∧ code = code' := by
  constructor
  · intro tenant coupon raw code creates text same
    have stored := creates.has run
    refine ⟨?_, ?_, ?_⟩
    · exact (resolves_received stored).trans (serializer_received creates.1 same)
    · exact (resolves_received stored).trans (serializer_received creates.1 same)
    · exact (resolves_received stored).trans (url_received creates.1 same)
  · intro tenant coupon raw code coupon' raw' code' creates creates' same
    obtain rfl := code_unique_case creates.1 creates'.1 same
    exact ⟨(creates.has run).unique (creates'.has run), rfl⟩

namespace Sample

-- Beyond ASCII, the small letters that become codes.
def letters : Casing where
  upper c :=
    if c.toNat < 128 then [c.toUpper]
    else match c with
      | 'ß' => ['S', 'S']
      | 'ı' => ['I']
      | 'ſ' => ['S']
      | other => [other]
  ascii _ small := if_pos small

-- Entered as " welcome10 ".
def welcomeData : CouponCreate where
  code := "WELCOME10"
  discount_type := .percentage
  discount_value := 10
  customer_type_restriction := .any

def creating : Event := .createCoupon 1 90 welcomeData

def welcoming : Sys := (floor.step opening creating).get (by decide +kernel)

theorem creating_taken : floor.step opening creating = some welcoming := (Option.some_get _).symm

theorem creating_accepted : AdminCouponCreateSerializer.code letters " welcome10 " = .ok "WELCOME10" := by
  decide +kernel

end Sample

theorem coupon_codes_upper : ∃ moves, Sample.floor.Run Sample.opening moves Sample.welcoming ∧
    CodeRequest.apply.Resolves 1 90 " WELCOME10" Sample.welcoming.db := by
  have run := (Machine.Run.start Sample.opening_opens).step Sample.creating_taken
  refine ⟨_, run, ?_⟩
  have creates : CreatesCode Sample.letters ([] ++ [⟨Sample.opening, Sample.creating, Sample.welcoming⟩]) 1 90
      " welcome10 " "WELCOME10" :=
    ⟨Sample.creating_accepted, Sample.welcomeData, rfl, _, List.mem_singleton_self _, rfl⟩
  have found := (coupon_codes_iff Sample.letters Sample.settings Sample.library run).1 1 90 " welcome10 " "WELCOME10" creates
    " WELCOME10" (by decide +kernel)
  exact found.1.mpr (by decide +kernel)

/-- What the admin typed is not found. -/
theorem coupon_code_lost : ∃ moves, Sample.floor.Run Sample.opening moves Sample.welcoming ∧
    CreatesCode Sample.letters moves 1 90 " welcome10 " "WELCOME10" ∧
    Sample.letters.Same " welcome10 ".toList "welcome10".toList ∧
    ¬ CodeRequest.apply.Resolves 1 90 "welcome10" Sample.welcoming.db := by
  have run := (Machine.Run.start Sample.opening_opens).step Sample.creating_taken
  refine ⟨_, run, ⟨Sample.creating_accepted, Sample.welcomeData, rfl, _, List.mem_singleton_self _, rfl⟩, by decide +kernel, ?_⟩
  rintro ⟨⟨code, c, received, found, _⟩, _⟩
  have plain : CodeRequest.apply.received "welcome10" = .ok "welcome10" := by decide +kernel
  rw [plain] at received
  cases received
  have missing : Sample.welcoming.db.couponOfCode 1 "welcome10" = none := by decide +kernel
  rw [missing] at found
  cases found

end Storefront
