import Storefront.Coupons.Admin
import Storefront.System.CartLife

set_option autoImplicit false

/-!
# The storefront in use

The running system with the code that writes its carts and coupons. Where the
system takes any edit of the shop's tables as one step, here the shopper calls
CartService, the admin sends requests and the sweep abandons stale carts.
-/

namespace Storefront

open Relational Transition

-- What the profile pages and the gateway admin write.
structure ProfileTables where
  customers : Table Customer
  addresses : Table Address
  gatewayConfigs : Table PaymentGatewayConfig
  paymentMethods : Table PaymentMethod

def Db.withProfiles (db : Db) (tables : ProfileTables) : Db :=
  { db with
    customers := tables.customers
    addresses := tables.addresses
    gatewayConfigs := tables.gatewayConfigs
    paymentMethods := tables.paymentMethods }

-- Rows a cart may point at go only by the two deletions below.
def ProfileTables.keepsSlots (tables : ProfileTables) (db : Db) : Bool :=
  (db.addresses.rows.all fun a => tables.addresses.rows.any fun b => b.id == a.id) &&
    db.paymentMethods.rows.all fun m => tables.paymentMethods.rows.any fun n => n.id == m.id

-- CustomerAddressDetailView.destroy: the slots are SET_NULL.
def deleteAddress (tenant customer address : Id) (db : Db) : Outcome Db := do
  require (∃ a ∈ db.addresses.rows, a.tenant = tenant ∧ a.id = address ∧ a.customer = customer)
    (.doesNotExist "Address")
  let db := db.modifyCarts (fun c => c.tenant == tenant && c.shipping_address == some address) fun c =>
    { c with shipping_address := none }
  let db := db.modifyCarts (fun c => c.tenant == tenant && c.billing_address == some address) fun c =>
    { c with billing_address := none }
  return { db with addresses := db.addresses.delete fun a => a.tenant == tenant && a.id == address }

-- CustomerPaymentMethodDetailView.destroy
def deletePaymentMethod (tenant customer payment_method : Id) (db : Db) : Outcome Db := do
  require (∃ m ∈ db.paymentMethods.rows, m.tenant = tenant ∧ m.id = payment_method ∧ m.customer = customer)
    (.doesNotExist "PaymentMethod")
  let db := db.modifyCarts (fun c => c.tenant == tenant && c.selected_payment_method == some payment_method)
    fun c => { c with selected_payment_method := none }
  return { db with
    paymentMethods := db.paymentMethods.delete fun m => m.tenant == tenant && m.id == payment_method }

-- A cart without its slots.
structure CartCore where
  id : Id
  tenant : Id
  customer : Id
  status : CartStatus
  currency : String
  version : Int

def Cart.core (c : Cart) : CartCore := ⟨c.id, c.tenant, c.customer, c.status, c.currency, c.version⟩

structure Unslots (db db' : Db) : Prop where
  frame : db' = { db with
    addresses := db'.addresses, paymentMethods := db'.paymentMethods, carts := db'.carts }
  cores : db'.carts.rows.map Cart.core = db.carts.rows.map Cart.core

theorem deleteAddress_unslots {tenant customer address : Id} {db db' : Db}
    (done : deleteAddress tenant customer address db = .ok db') : Unslots db db' := by
  simp only [deleteAddress, bind_eq_ok, pure_eq_ok] at done
  obtain ⟨_, _, rfl⟩ := done
  refine ⟨rfl, (Table.map_updated _ _ _ _ ?_).trans (Table.map_updated _ _ _ _ ?_)⟩
  · exact fun _ _ _ => rfl
  · exact fun _ _ _ => rfl

theorem deletePaymentMethod_unslots {tenant customer payment_method : Id} {db db' : Db}
    (done : deletePaymentMethod tenant customer payment_method db = .ok db') : Unslots db db' := by
  simp only [deletePaymentMethod, bind_eq_ok, pure_eq_ok] at done
  obtain ⟨_, _, rfl⟩ := done
  refine ⟨rfl, Table.map_updated _ _ _ _ ?_⟩
  exact fun _ _ _ => rfl

theorem Unslots.converted {db db' : Db} (unslots : Unslots db db') {cart : Id}
    (converted : db.ConvertedCart cart) : db'.ConvertedCart cart := by
  obtain ⟨c, member, named, final⟩ := converted
  have image : c.core ∈ db'.carts.rows.map Cart.core := unslots.cores ▸ List.mem_map_of_mem member
  obtain ⟨c', present, same⟩ := List.mem_map.mp image
  exact ⟨c', present, (congrArg CartCore.id same).trans named, (congrArg CartCore.status same).trans final⟩

inductive Event
  | shopper (tenant customer : Id) (request : CartRequest) (draw : Nat → Id)
  | abandonStale (cutoff : Time)
  | createCoupon (tenant id : Id) (data : CouponCreate)
  | patchCoupon (tenant coupon : Id) (data : CouponUpdate)
  | deactivateCoupon (tenant coupon : Id)
  | deleteAddress (tenant customer address : Id)
  | deletePaymentMethod (tenant customer payment_method : Id)
  | editProfiles (tables : ProfileTables)
  | run (label : Label)

-- CustomerAuthMiddleware lets customers of the tenant through.
def shop (settings : Settings) (lib : WebhookLibrary) (s : Sys) : Event → Option Sys
  | .shopper tenant customer request draw =>
    if (s.db.customer tenant customer).isSome then
      s.commits (Prod.snd <$> request.run tenant customer s.now draw s.db)
    else none
  | .abandonStale cutoff => if cutoff ≤ s.now then s.commits (abandonStaleCarts cutoff s.db) else none
  | .createCoupon tenant id data => s.commits (createCoupon tenant id data s.db)
  | .patchCoupon tenant coupon data => s.commits (patchCoupon tenant coupon data s.now s.db)
  | .deactivateCoupon tenant coupon => s.commits (deactivateCoupon tenant coupon s.db)
  | .deleteAddress tenant customer address => s.commits (deleteAddress tenant customer address s.db)
  | .deletePaymentMethod tenant customer payment_method =>
    s.commits (deletePaymentMethod tenant customer payment_method s.db)
  | .editProfiles tables =>
    if tables.keepsSlots s.db then some (s.withDb (s.db.withProfiles tables)) else none
  | .run label => if label.editsCarts then none else step settings lib s label

structure Sys.Opening (s : Sys) : Prop extends s.Initial where
  carts : s.db.carts.rows = []
  cartItems : s.db.cartItems.rows = []
  appliedCoupons : s.db.appliedCoupons.rows = []
  priced : ∀ p ∈ s.db.products.rows, p.currency ≠ ""

def storefront (settings : Settings) (lib : WebhookLibrary) : Machine Sys Event where
  Start := Sys.Opening
  step := shop settings lib

def Db.shopTables (db : Db) : ShopTables where
  customers := db.customers
  addresses := db.addresses
  coupons := db.coupons
  carts := db.carts
  cartItems := db.cartItems
  appliedCoupons := db.appliedCoupons
  gatewayConfigs := db.gatewayConfigs
  paymentMethods := db.paymentMethods

section Steps

variable {settings : Settings} {lib : WebhookLibrary} {s s' : Sys}

inductive Shopped (settings : Settings) (lib : WebhookLibrary) (s : Sys) : Event → Sys → Prop
  | shopper {tenant customer : Id} {request : CartRequest} {draw : Nat → Id} {answer : CartAnswer} {db' : Db}
      (known : (s.db.customer tenant customer).isSome = true)
      (done : request.run tenant customer s.now draw s.db = .ok (answer, db')) :
      Shopped settings lib s (.shopper tenant customer request draw) (s.withDb db')
  | abandonStale {cutoff : Time} {db' : Db} (past : cutoff ≤ s.now) (done : abandonStaleCarts cutoff s.db = .ok db') :
      Shopped settings lib s (.abandonStale cutoff) (s.withDb db')
  | createCoupon {tenant id : Id} {data : CouponCreate} {db' : Db} (done : createCoupon tenant id data s.db = .ok db') :
      Shopped settings lib s (.createCoupon tenant id data) (s.withDb db')
  | patchCoupon {tenant coupon : Id} {data : CouponUpdate} {db' : Db}
      (done : patchCoupon tenant coupon data s.now s.db = .ok db') :
      Shopped settings lib s (.patchCoupon tenant coupon data) (s.withDb db')
  | deactivateCoupon {tenant coupon : Id} {db' : Db} (done : deactivateCoupon tenant coupon s.db = .ok db') :
      Shopped settings lib s (.deactivateCoupon tenant coupon) (s.withDb db')
  | deleteAddress {tenant customer address : Id} {db' : Db}
      (done : deleteAddress tenant customer address s.db = .ok db') :
      Shopped settings lib s (.deleteAddress tenant customer address) (s.withDb db')
  | deletePaymentMethod {tenant customer payment_method : Id} {db' : Db}
      (done : deletePaymentMethod tenant customer payment_method s.db = .ok db') :
      Shopped settings lib s (.deletePaymentMethod tenant customer payment_method) (s.withDb db')
  | editProfiles {tables : ProfileTables} (keeps : tables.keepsSlots s.db = true) :
      Shopped settings lib s (.editProfiles tables) (s.withDb (s.db.withProfiles tables))
  | run {label : Label} {s' : Sys} (apart : label.editsCarts = false) (stepped : step settings lib s label = some s') :
      Shopped settings lib s (.run label) s'

theorem shop_cases {e : Event} (taken : shop settings lib s e = some s') : Shopped settings lib s e s' := by
  cases e with
  | shopper tenant customer request draw =>
    simp only [shop] at taken
    split at taken
    next known =>
      obtain ⟨db', done, rfl⟩ := commits_eq_some taken
      obtain ⟨⟨answer, _⟩, returned, rfl⟩ := map_eq_ok.mp done
      exact .shopper known returned
    · cases taken
  | abandonStale cutoff =>
    simp only [shop] at taken
    split at taken
    next past =>
      obtain ⟨db', done, rfl⟩ := commits_eq_some taken
      exact .abandonStale past done
    · cases taken
  | createCoupon tenant id data =>
    obtain ⟨db', done, rfl⟩ := commits_eq_some taken
    exact .createCoupon done
  | patchCoupon tenant coupon data =>
    obtain ⟨db', done, rfl⟩ := commits_eq_some taken
    exact .patchCoupon done
  | deactivateCoupon tenant coupon =>
    obtain ⟨db', done, rfl⟩ := commits_eq_some taken
    exact .deactivateCoupon done
  | deleteAddress tenant customer address =>
    obtain ⟨db', done, rfl⟩ := commits_eq_some taken
    exact .deleteAddress done
  | deletePaymentMethod tenant customer payment_method =>
    obtain ⟨db', done, rfl⟩ := commits_eq_some taken
    exact .deletePaymentMethod done
  | editProfiles tables =>
    simp only [shop] at taken
    split at taken
    next keeps =>
      cases taken
      exact .editProfiles keeps
    · cases taken
  | run label =>
    simp only [shop] at taken
    split at taken
    · cases taken
    next apart => exact .run (by simpa using apart) taken

theorem shop_edits {e : Event} (taken : shop settings lib s e = some s') :
    (∃ l, e = .run l ∧ l.editsCarts = false ∧ step settings lib s l = some s') ∨
      ∃ db', s' = s.withDb db' ∧ db' = s.db.withShop db'.shopTables := by
  cases shop_cases taken with
  | shopper _ done =>
    refine .inr ⟨_, rfl, ?_⟩
    rw [(CartRequest.run_leaves done).frame]
    rfl
  | abandonStale _ done =>
    refine .inr ⟨_, rfl, ?_⟩
    rw [(abandonStaleCarts_leaves done).frame]
    rfl
  | createCoupon done =>
    refine .inr ⟨_, rfl, ?_⟩
    rw [createCoupon_frame done]
    rfl
  | patchCoupon done =>
    refine .inr ⟨_, rfl, ?_⟩
    rw [patchCoupon_frame done]
    rfl
  | deactivateCoupon done =>
    refine .inr ⟨_, rfl, ?_⟩
    rw [deactivateCoupon_frame done]
    rfl
  | deleteAddress done =>
    refine .inr ⟨_, rfl, ?_⟩
    rw [(deleteAddress_unslots done).frame]
    rfl
  | deletePaymentMethod done =>
    refine .inr ⟨_, rfl, ?_⟩
    rw [(deletePaymentMethod_unslots done).frame]
    rfl
  | editProfiles _ => exact .inr ⟨_, rfl, rfl⟩
  | run apart stepped => exact .inl ⟨_, rfl, apart, stepped⟩

theorem shop_steps {e : Event} (taken : shop settings lib s e = some s') : ∃ l, step settings lib s l = some s' := by
  rcases shop_edits taken with ⟨l, _, _, stepped⟩ | ⟨db', rfl, frame⟩
  · exact ⟨l, stepped⟩
  · refine ⟨.shop db'.shopTables, ?_⟩
    rw [frame]
    rfl

/-- The storefront in use is one way the system runs. -/
theorem Run.running {s₀ : Sys} {moves : List (Move Sys Event)} (run : (storefront settings lib).Run s₀ moves s) :
    ∃ moves', (machine settings lib).Run s₀ moves' s :=
  run.simulated (fun _ (opening : Sys.Opening _) => opening.toInitial) fun _ _ _ taken => shop_steps taken

theorem shop_converted {e : Event} (taken : shop settings lib s e = some s') {cart : Id}
    (converted : s.db.ConvertedCart cart) : s'.db.ConvertedCart cart := by
  have kept {db' : Db} (carts : db'.carts = s.db.carts) : db'.ConvertedCart cart := by
    rw [Db.ConvertedCart, carts]
    exact converted
  cases shop_cases taken with
  | shopper _ done => exact (CartRequest.run_leaves done).converted converted
  | abandonStale _ done => exact (abandonStaleCarts_leaves done).converted converted
  | createCoupon done => exact kept (by rw [createCoupon_frame done]; rfl)
  | patchCoupon done => exact kept (by rw [patchCoupon_frame done]; rfl)
  | deactivateCoupon done => exact kept (by rw [deactivateCoupon_frame done]; rfl)
  | deleteAddress done => exact (deleteAddress_unslots done).converted converted
  | deletePaymentMethod done => exact (deletePaymentMethod_unslots done).converted converted
  | editProfiles _ => exact converted
  | run apart stepped => exact (step_restates stepped apart).converted converted

def Sys.LinkedConverted (s : Sys) : Prop :=
  ∀ o ∈ s.db.orders.rows, ∀ cart, o.cart = some cart → s.db.ConvertedCart cart

theorem Sys.LinkedConverted.step {e : Event} (linked : s.LinkedConverted)
    (taken : shop settings lib s e = some s') : s'.LinkedConverted := by
  intro o' member cart named
  have still (o : Order) (present : o ∈ s.db.orders.rows) (mine : o.cart = some cart) :
      s'.db.ConvertedCart cart := shop_converted taken (linked o present cart mine)
  rcases shop_edits taken with ⟨l, rfl, apart, stepped⟩ | ⟨db', rfl, frame⟩
  · rcases (step_change stepped).order_carts member named with ⟨o, present, mine⟩ | ⟨i, oracle, req, pc, placed,
      h, rfl, at_i, converts, rfl⟩
    · exact still o present mine
    · rcases step_converts stepped at_i converts with same | converted
      · rw [same] at member
        exact still o' member named
      · exact converted
  · have orders : db'.orders = s.db.orders := by rw [frame]; rfl
    exact still o' (orders ▸ member) named

theorem Run.linked_converted {s₀ : Sys} {moves : List (Move Sys Event)}
    (run : (storefront settings lib).Run s₀ moves s) : s.LinkedConverted := by
  have start (t : Sys) (opening : t.Opening) : t.LinkedConverted := by
    intro o member
    simp [opening.orders] at member
  have step (t : Sys) (e : Event) (t' : Sys) (linked : t.LinkedConverted)
      (taken : shop settings lib t e = some t') : t'.LinkedConverted := linked.step taken
  exact run.invariant start step

end Steps

namespace Sample

-- The shop before its customer put anything into a cart.
def opening : Sys :=
  { start with db := { shop with carts := ∅, cartItems := ∅, appliedCoupons := ∅ } }

theorem opening_opens : opening.Opening :=
  { start_initial with carts := rfl, cartItems := rfl, appliedCoupons := rfl, priced := by decide +kernel }

abbrev floor : Machine Sys Event := storefront settings library

def shopper (request : CartRequest) : Event := .shopper 1 10 request (40 + ·)

-- Two mugs, both addresses and the card.
def filling : List Event :=
  [.addItem 30 2, .setShippingAddress 20, .setBillingAddress 20, .setPaymentMethod 60].map shopper

def calling (points : List Point) : List Event := (Label.begin 0 request :: blocks points).map .run

end Sample

end Storefront
