import Storefront.Customers.Accounts
import Storefront.System.HeldCarts

set_option autoImplicit false

/-!
# Who buys on a purchase order

The storefront in use, with the requests that open customers, edit them and save
payment methods. A purchase order is checked against the customer's type when it is
saved. A checkout reads the type and does not look at it.
-/

namespace Storefront

open Relational Transition

structure Front where
  shop : Sys
  drafts : Nat → Option Draft

inductive Visit
  | floor (e : Event)
  | createCustomer (request : Nat) (tenant id : Id) (data : CustomerCreate)
  | patchCustomer (request : Nat) (tenant customer : Id) (data : CustomerUpdate)
  | createPaymentMethod (request : Nat) (tenant user customer_id id : Id) (data : PaymentMethodCreate)
      (tokenize : Adapter → Except Exn String)
  | save (request : Nat)

def Event.sparesAccounts (db : Db) : Event → Bool
  | .editProfiles tables => decide (tables.customers.rows = db.customers.rows) &&
      decide (tables.paymentMethods.rows = db.paymentMethods.rows)
  | _ => true

namespace Front

def drafting (f : Front) (request : Nat) (checked : Outcome Draft) : Option Front :=
  match f.drafts request, checked with
  | none, .ok draft => some { f with drafts := Function.update f.drafts request (some draft) }
  | _, _ => none

def saving (f : Front) (request : Nat) : Option Front :=
  match f.drafts request with
  | none => none
  | some draft => match draft.save f.shop.db with
    | .ok db => some ⟨f.shop.withDb db, Function.update f.drafts request none⟩
    | .error _ => none

end Front

def visit (settings : Settings) (lib : WebhookLibrary) (lower : String → String) (f : Front) : Visit → Option Front
  | .floor e =>
    if e.sparesAccounts f.shop.db then ({ f with shop := · }) <$> shop settings lib f.shop e else none
  | .createCustomer request tenant id data =>
    f.drafting request (.newCustomer <$> createCustomer lower tenant id data f.shop.db)
  | .patchCustomer request tenant customer data =>
    f.drafting request (.customer <$> patchCustomer tenant customer data f.shop.db)
  | .createPaymentMethod request tenant user customer_id id data tokenize =>
    if (f.shop.db.customer tenant user).isSome then
      f.drafting request
        (.paymentMethod <$> createPaymentMethod settings tenant user customer_id id data tokenize f.shop.db)
    else none
  | .save request => f.saving request

-- No request is half done, and the purchase orders saved so far are in order.
structure Front.Opening (f : Front) : Prop where
  shop : f.shop.Opening
  drafts : ∀ request, f.drafts request = none
  credit : f.shop.db.CreditB2b

def front (settings : Settings) (lib : WebhookLibrary) (lower : String → String) : Machine Front Visit where
  Start := Front.Opening
  step := visit settings lib lower

/-! ## Selected payment methods -/

def Db.OwnSlots (db : Db) : Prop := ∀ c ∈ db.carts.rows, ∀ id ∈ c.selected_payment_method,
  ∃ m ∈ db.paymentMethods.rows, m.id = id ∧ m.tenant = c.tenant ∧ m.customer = c.customer

theorem Db.OwnSlots.of_carts {db db' : Db} (slots : db.OwnSlots)
    (methods : db.paymentMethods.rows ⊆ db'.paymentMethods.rows)
    (carts : ∀ c' ∈ db'.carts.rows, c'.selected_payment_method = none ∨ ∃ c ∈ db.carts.rows,
      c'.tenant = c.tenant ∧ c'.customer = c.customer ∧ c'.selected_payment_method = c.selected_payment_method) :
    db'.OwnSlots := by
  intro c' member id selected
  rcases carts c' member with none | ⟨c, present, tenant, customer, same⟩
  · rw [none] at selected
    cases selected
  · rw [tenant, customer]
    obtain ⟨m, inside, mine⟩ := slots c present id (same ▸ selected)
    exact ⟨m, methods inside, mine⟩

theorem setPaymentMethod_own {tenant customer payment_method : Id} {now : Time} {db db' : Db} {loaded : LoadedCart}
    (done : CartService.setPaymentMethod tenant customer payment_method now db = .ok (loaded, db')) :
    ∃ m ∈ db.paymentMethods.rows, m.tenant = tenant ∧ m.id = payment_method ∧ m.customer = customer := by
  simp only [CartService.setPaymentMethod, CartService.setSlot, CartService.ownPaymentMethod, bind_eq_ok,
    require_eq_ok] at done
  obtain ⟨_, _, _, own, _⟩ := done
  exact own

theorem Turn.slot {db : Db} {now : Time} {b b' : CartRows} {request : CartRequest} (turn : Turn db now b request b') :
    b'.row.selected_payment_method = none ∨ b'.row.selected_payment_method = b.row.selected_payment_method ∨
      ∃ payment_method, request = .setPaymentMethod payment_method ∧
        b'.row.selected_payment_method = some payment_method := by
  cases turn with
  | cleared => exact .inl rfl
  | paid payment_method => exact .inr (.inr ⟨payment_method, rfl, rfl⟩)
  | removed line listed =>
    refine .inr (.inl ?_)
    simp only [Cart.unlocked]
    split <;> rfl
  | added quantity p line sold locks priced | increased quantity p line sold locks listed =>
    refine .inr (.inl ?_)
    simp only [Cart.lockedIn]
    split <;> rfl
  | _ => exact .inr (.inl rfl)

section Steps

variable {settings : Settings} {lib : WebhookLibrary} {s s' : Sys} {e : Event}

theorem shop_accounts (taken : shop settings lib s e = some s') (spares : e.sparesAccounts s.db = true) :
    s'.db.customers.rows = s.db.customers.rows ∧ (s'.db.paymentMethods.rows = s.db.paymentMethods.rows ∨
      ∃ tenant customer payment_method, e = .deletePaymentMethod tenant customer payment_method) := by
  have same {db' : Db} (accounts : db'.accounts = s.db.accounts) :
      db'.customers.rows = s.db.customers.rows ∧ (db'.paymentMethods.rows = s.db.paymentMethods.rows ∨
        ∃ tenant customer payment_method, e = .deletePaymentMethod tenant customer payment_method) := by
    simp only [Db.accounts, Prod.mk.injEq] at accounts
    obtain ⟨customers, _, _, methods⟩ := accounts
    exact ⟨by rw [customers], .inl (by rw [methods])⟩
  cases shop_cases taken with
  | shopper _ done => exact same (by rw [(CartRequest.run_leaves done).frame]; rfl)
  | abandonStale _ done => exact same (by rw [(abandonStaleCarts_leaves done).frame]; rfl)
  | createCoupon done => exact same (by rw [createCoupon_frame done]; rfl)
  | patchCoupon done => exact same (by rw [patchCoupon_frame done]; rfl)
  | deactivateCoupon done => exact same (by rw [deactivateCoupon_frame done]; rfl)
  | deleteAddress done =>
    simp only [deleteAddress, bind_eq_ok, pure_eq_ok] at done
    obtain ⟨_, _, rfl⟩ := done
    exact ⟨rfl, .inl rfl⟩
  | @deletePaymentMethod tenant customer payment_method _ done =>
    refine ⟨?_, .inr ⟨tenant, customer, payment_method, rfl⟩⟩
    rw [Sys.withDb, (deletePaymentMethod_unslots done).frame]
  | editProfiles _ =>
    simp only [Event.sparesAccounts, Bool.and_eq_true, decide_eq_true_eq] at spares
    exact ⟨spares.1, .inl spares.2⟩
  | run apart stepped => exact same (step_accounts stepped apart)

theorem deletePaymentMethod_methods {tenant customer payment_method : Id} {db db' : Db}
    (done : deletePaymentMethod tenant customer payment_method db = .ok db') :
    db'.paymentMethods.rows = db.paymentMethods.rows.filter
      fun m => !(m.tenant == tenant && m.id == payment_method) := by
  simp only [deletePaymentMethod, bind_eq_ok, pure_eq_ok] at done
  obtain ⟨_, _, rfl⟩ := done
  rfl

theorem shop_credit (taken : shop settings lib s e = some s') (spares : e.sparesAccounts s.db = true)
    (credit : s.db.CreditB2b) : s'.db.CreditB2b := by
  obtain ⟨customers, same | ⟨tenant, customer, payment_method, rfl⟩⟩ := shop_accounts taken spares
  · rw [Db.CreditB2b, same]
    intro m member owed
    rw [Db.MayOwe, customers]
    exact credit m member owed
  · obtain ⟨db', done, rfl⟩ := commits_eq_some taken
    intro m member owed
    rw [Db.MayOwe, customers]
    change m ∈ db'.paymentMethods.rows at member
    rw [deletePaymentMethod_methods done] at member
    exact credit m (List.mem_filter.mp member).1 owed

theorem deleteAddress_slots {tenant customer address : Id} {db db' : Db}
    (done : deleteAddress tenant customer address db = .ok db') (slots : db.OwnSlots) : db'.OwnSlots := by
  simp only [deleteAddress, bind_eq_ok, pure_eq_ok] at done
  obtain ⟨_, _, rfl⟩ := done
  refine slots.of_carts (List.Subset.refl _) fun c' member => .inr ?_
  obtain ⟨c₁, between, rfl⟩ := List.mem_map.mp member
  obtain ⟨c, present, rfl⟩ := List.mem_map.mp between
  refine ⟨c, present, ?_⟩
  simp only [Table.updated]
  split <;> split <;> exact ⟨rfl, rfl, rfl⟩

theorem deletePaymentMethod_slots {tenant customer payment_method : Id} {db db' : Db}
    (done : deletePaymentMethod tenant customer payment_method db = .ok db') (slots : db.OwnSlots) : db'.OwnSlots := by
  have methods := deletePaymentMethod_methods done
  simp only [deletePaymentMethod, bind_eq_ok, pure_eq_ok] at done
  obtain ⟨_, _, rfl⟩ := done
  intro c' member id selected
  obtain ⟨c, present, rfl⟩ := List.mem_map.mp member
  unfold Table.updated at selected ⊢
  split at selected
  · cases selected
  next held =>
    rw [if_neg held]
    obtain ⟨m, inside, named, owner, mine⟩ := slots c present id selected
    refine ⟨m, ?_, named, owner, mine⟩
    rw [methods]
    refine List.mem_filter.mpr ⟨inside, ?_⟩
    have kept : ¬ (c.tenant = tenant ∧ c.selected_payment_method = some payment_method) := by simpa using held
    rw [selected, ← owner, ← named, not_and_or] at kept
    simpa using kept

theorem shopper_slots {tenant customer : Id} {now : Time} {request : CartRequest} {draw : Nat → Id}
    {row row' : Cart} {db db' : Db} {answer : CartAnswer} (done : request.run tenant customer now draw db = .ok (answer, db'))
    (turned : Turned db tenant customer now request db' row row') (slots : db.OwnSlots) : db'.OwnSlots := by
  have methods : db'.paymentMethods = db.paymentMethods := by rw [(CartRequest.run_leaves done).frame]
  obtain ⟨_, owner, mine⟩ := turned.turn.identity
  have ours := turned.opened.active
  intro c member id selected
  rw [methods]
  rcases turned.row_of member with rfl | ⟨old, _⟩
  · rcases turned.turn.slot with none | same | ⟨payment_method, rfl, chosen⟩
    · rw [show c.selected_payment_method = _ from none] at selected
      cases selected
    · cases turned.opened with
      | found active =>
        have kept := slots row (activeCart_some active).1 id ((show c.selected_payment_method = _ from same) ▸ selected)
        rw [show c.tenant = _ from owner, show c.customer = _ from mine]
        exact kept
      | created _ _ _ _ id' now' _ new =>
        rw [show c.selected_payment_method = _ from same] at selected
        rw [new] at selected
        cases selected
    · simp only [CartRequest.run] at done
      obtain ⟨⟨_, _⟩, set, _⟩ := map_eq_ok.mp done
      obtain ⟨m, inside, tenant', named, customer'⟩ := setPaymentMethod_own set
      rw [show c.selected_payment_method = _ from chosen] at selected
      refine ⟨m, inside, named.trans (Option.some.inj selected), ?_, ?_⟩
      · exact (tenant'.trans ours.1.symm).trans (show c.tenant = _ from owner).symm
      · exact (customer'.trans ours.2.1.symm).trans (show c.customer = _ from mine).symm
  · exact slots c old id selected

theorem shop_slots (taken : shop settings lib s e = some s') (spares : e.sparesAccounts s.db = true)
    (slots : s.db.OwnSlots) : s'.db.OwnSlots := by
  rcases (shop_accounts taken spares).2 with methods | ⟨tenant, customer, payment_method, rfl⟩
  · have kept : s.db.paymentMethods.rows ⊆ s'.db.paymentMethods.rows := methods ▸ List.Subset.refl _
    cases shop_carts taken with
    | restated restated _ =>
      refine slots.of_carts kept fun c' member => .inr ?_
      obtain ⟨c, present, status, time, _, rfl⟩ := restated.only c' member
      exact ⟨c, present, rfl, rfl, rfl⟩
    | unslotted clears _ =>
      cases shop_cases taken with
      | deleteAddress done => exact deleteAddress_slots done slots
      | deletePaymentMethod done => exact deletePaymentMethod_slots done slots
      | _ => cases clears
    | turned tenant customer request draw row row' shopper turned =>
      subst shopper
      cases shop_cases taken with
      | shopper _ done => exact shopper_slots done turned slots
  · cases shop_cases taken with
    | deletePaymentMethod done => exact deletePaymentMethod_slots done slots

end Steps

/-! ## Checkouts on credit -/

def CartView.onCredit (view : CartView) : Bool := view.paymentMethod.any isPurchaseOrder

def Pc.credit? : Pc → Option CartView
  | .invoice placed => some placed.view
  | pc => pc.view?.filter CartView.onCredit

theorem Pc.credit?_view {pc : Pc} {view : CartView} (held : pc.view? = some view) (owed : view.onCredit = true) :
    pc.credit? = some view := by
  cases pc with
  | invoice placed => cases held
  | _ => simp [credit?, held, Option.filter, owed]

theorem authorizeRaised_ne_invoice {placed placed' : Placed} {payment : Option Payment} {e : Exn} :
    authorizeRaised placed payment e ≠ .invoice placed' := by
  unfold authorizeRaised
  split <;> simp

theorem advance_invoice {settings : Settings} {req : Request} {oracle : Oracle} {db db' : Db} {pc : Pc}
    {log : List GatewayCall} {placed : Placed} (taken : advance settings req oracle db pc = (.invoice placed, db', log)) :
    ∃ reservations, pc = .create placed.view reservations ∧ placed.view.onCredit = true := by
  cases pc with
  | create view reservations =>
    simp only [advance] at taken
    split at taken
    next order _ _ =>
      have same := (Prod.mk.inj taken).1
      unfold afterOrder at same
      split at same
      · cases same
      next method selected =>
        split at same
        next owed =>
          cases same
          have bought : view.paymentMethod = some method := selected
          exact ⟨reservations, rfl, by simp [CartView.onCredit, bought, owed]⟩
        · cases same
    · cases taken
  | resolve _ | insertPayment _ _ =>
    simp only [advance] at taken
    split at taken
    · cases taken
    · exact absurd (Prod.mk.inj taken).1 authorizeRaised_ne_invoice
  | recordError _ _ _ =>
    simp only [advance] at taken
    split at taken <;> exact absurd (Prod.mk.inj taken).1 authorizeRaised_ne_invoice
  | recordResult _ _ _ =>
    simp only [advance] at taken
    split at taken
    · split at taken
      · exact absurd (Prod.mk.inj taken).1 authorizeRaised_ne_invoice
      · cases taken
    · exact absurd (Prod.mk.inj taken).1 authorizeRaised_ne_invoice
  | convert placed payment =>
    simp only [advance] at taken
    split at taken
    · have same := (Prod.mk.inj taken).1
      unfold afterConvert at same
      split at same
      · cases same
      · split at same <;> cases same
    · cases taken
  | undo todo cart frame e =>
    cases todo with
    | nil => cases taken
    | cons action rest =>
      simp only [advance] at taken
      split at taken <;> cases taken
  | done _ _ | crashed _ _ _ => cases taken
  | find | lock | validate _ | reserve _ | invoice _ | convertInvoiced _ _ | authorize _ _ | captureRead _ _
  | capture _ _ | captureWrite _ _ _ | paid _ _ =>
    simp only [advance] at taken
    split at taken <;> cases taken

theorem advance_credit {settings : Settings} {req : Request} {oracle : Oracle} {db db' : Db} {pc pc' : Pc}
    {log : List GatewayCall} (taken : advance settings req oracle db pc = (pc', db', log)) {view : CartView}
    (credit : pc'.credit? = some view) : pc.credit? = some view ∨
      (pc = .lock ∧ pc' = .validate view ∧ LockedView req db view ∧ view.onCredit = true) := by
  have viewed (held : pc'.view? = some view) (owed : view.onCredit = true) : pc.credit? = some view ∨
      (pc = .lock ∧ pc' = .validate view ∧ LockedView req db view ∧ view.onCredit = true) := by
    cases advance_view taken held with
    | locked done => exact .inr ⟨rfl, rfl, lockCart_view done, owed⟩
    | validated _ => exact .inl (Pc.credit?_view rfl owed)
    | reserved _ _ => exact .inl (Pc.credit?_view rfl owed)
  cases pc' with
  | invoice placed =>
    cases credit
    obtain ⟨reservations, rfl, owed⟩ := advance_invoice taken
    exact .inl (Pc.credit?_view rfl owed)
  | _ =>
    simp only [Pc.credit?] at credit
    obtain ⟨held, owed⟩ := Option.filter_eq_some_iff.mp credit
    exact viewed held owed

section Steps

variable {settings : Settings} {lib : WebhookLibrary} {s s' : Sys} {e : Event}

theorem shop_credits (taken : shop settings lib s e = some s') {i : Nat} {req : Request} {pc : Pc} {view : CartView}
    (at_i : s'.calls i = some ⟨req, pc⟩) (credit : pc.credit? = some view) :
    (∃ pc₀, s.calls i = some ⟨req, pc₀⟩ ∧ pc₀.credit? = some view) ∨
      (Locks i req view ⟨s, e, s'⟩ ∧ LockedView req s.db view ∧ view.onCredit = true) := by
  rcases shop_edits taken with ⟨l, rfl, _, stepped⟩ | ⟨db', rfl, _⟩
  · rcases step_calls stepped at_i with same | ⟨_, fresh⟩ | ⟨oracle, pc₀, rfl, earlier, _, moved⟩
    · exact .inl ⟨pc, same, credit⟩
    · rw [show pc = .find from fresh] at credit
      cases credit
    · rcases advance_credit (Prod.ext moved.symm rfl) credit with same | ⟨rfl, locked, seen, owed⟩
      · exact .inl ⟨pc₀, earlier, same⟩
      · exact .inr ⟨⟨⟨oracle, rfl⟩, earlier, locked ▸ at_i⟩, seen, owed⟩
  · exact .inl ⟨pc, at_i, credit⟩

theorem shop_invoices (taken : shop settings lib s e = some s') {p : Payment} (member : p ∈ s'.db.payments.rows)
    (waiting : p.status = .invoicePending) (new : ∀ q ∈ s.db.payments.rows, q.id ≠ p.id) :
    ∃ i oracle req placed, e = .run (.advance i oracle) ∧ s.calls i = some ⟨req, .invoice placed⟩ ∧
      p.order = placed.order.id := by
  rcases shop_edits taken with ⟨l, rfl, _, stepped⟩ | ⟨db', rfl, frame⟩
  · rcases (step_change stepped).shape with ⟨touch⟩ | ⟨_, _, _, payments, _, _⟩ | ⟨_, _, _, _, _, _, _, payments, _, _⟩ |
      ⟨i, oracle, req, pc, placed, row, rfl, at_i, bills, named, rows, _, _⟩ |
      ⟨_, _, _, _, _, _, _, _, _, links⟩
    · obtain ⟨q, before, core, _⟩ := touch.payment_of member
      exact absurd (congrArg PaymentCore.id core).symm (new q before)
    · exact absurd rfl (new p (payments ▸ member))
    · exact absurd rfl (new p (payments ▸ member))
    · rw [rows] at member
      rcases List.mem_append.mp member with old | here
      · exact absurd rfl (new p old)
      · obtain rfl := List.mem_singleton.mp here
        cases bills with
        | invoice _ _ _ => exact ⟨i, oracle, req, placed, rfl, at_i, named⟩
        | card config pending _ _ =>
          rw [pending] at waiting
          cases waiting
    · exact absurd rfl (new p (links.payments ▸ member))
  · have payments : db'.payments = s.db.payments := by rw [frame]; rfl
    exact absurd rfl (new p (payments ▸ member))

end Steps

theorem LockedView.b2b {req : Request} {db : Db} {view : CartView} (locked : LockedView req db view)
    (owed : view.onCredit = true) (credit : db.CreditB2b) (slots : db.OwnSlots) :
    ∃ c, db.customer req.tenant req.customer = some c ∧ c.customer_type = .b2b := by
  obtain ⟨present, tenant, customer, _⟩ := activeCart_some locked.active
  have viewed := locked.viewed
  simp only [Db.cartView, Option.map_eq_some_iff] at viewed
  obtain ⟨c, found, same⟩ := viewed
  have method : view.paymentMethod = view.cart.selected_payment_method.bind fun id =>
      db.paymentMethods.rows.find? fun m => m.tenant == req.tenant && m.id == id := by
    conv_lhs => rw [← same]
  obtain ⟨m, selected, po⟩ := (Option.any_eq_true isPurchaseOrder view.paymentMethod).mp owed
  rw [method, Option.bind_eq_some_iff] at selected
  obtain ⟨id, slot, picked⟩ := selected
  have named := List.find?_some picked
  simp only [Bool.and_eq_true, beq_iff_eq] at named
  obtain ⟨own, there, sameId, _, mine⟩ := slots view.cart present id slot
  obtain rfl := db.paymentMethods.eq_of_key there (List.mem_of_find?_eq_some picked) (sameId.trans named.2.symm)
  obtain ⟨b, inside, who, b2b⟩ := credit own there po
  have mineToo := List.find?_some found
  simp only [Bool.and_eq_true, beq_iff_eq] at mineToo
  obtain rfl := db.customers.eq_of_key inside (List.mem_of_find?_eq_some found)
    (who.trans (mine.trans mineToo.2.symm))
  refine ⟨b, ?_, b2b⟩
  rw [Db.customer, ← customer]
  exact found

/-! ## Runs -/

/-- A save after which purchase orders still belong to B2B customers. -/
def SavesCredit (move : Move Front Visit) : Prop := ∀ request draft, move.label = .save request →
  move.before.drafts request = some draft → draft.KeepsCredit move.before.shop.db

/-- A call locked this cart in one of the moves, for somebody who was a B2B customer. -/
def LockedB2b (moves : List (Move Front Visit)) (i : Nat) (req : Request) (view : CartView) : Prop :=
  ∃ lock ∈ moves, ∃ e, lock.label = .floor e ∧ Locks i req view ⟨lock.before.shop, e, lock.after.shop⟩ ∧
    ∃ c, lock.before.shop.db.customer req.tenant req.customer = some c ∧ c.customer_type = .b2b

/-- An order is invoiced only where the moves so far locked its cart for a B2B customer. -/
def InvoicesB2b (moves : List (Move Front Visit)) (move : Move Front Visit) : Prop :=
  ∀ p ∈ move.after.shop.db.payments.rows, p.status = .invoicePending →
    (∀ q ∈ move.before.shop.db.payments.rows, q.id ≠ p.id) →
    ∃ i oracle req placed, move.label = .floor (.run (.advance i oracle)) ∧
      move.before.shop.calls i = some ⟨req, .invoice placed⟩ ∧ p.order = placed.order.id ∧
      LockedB2b moves i req placed.view

structure Front.Sound (f : Front) : Prop where
  slots : f.shop.db.OwnSlots
  known : ∀ request row, f.drafts request = some (.customer row) → ∃ c ∈ f.shop.db.customers.rows, c.id = row.id

section Visits

variable {settings : Settings} {lib : WebhookLibrary} {lower : String → String} {f f' : Front} {v : Visit}

theorem Front.Opening.sound (opening : f.Opening) : f.Sound where
  slots c member := by
    rw [opening.shop.carts] at member
    cases member
  known request row pending := by
    rw [opening.drafts request] at pending
    cases pending

inductive Visited (settings : Settings) (lib : WebhookLibrary) (f f' : Front) : Visit → Prop
  | shopped (e : Event) (spares : e.sparesAccounts f.shop.db = true) (taken : shop settings lib f.shop e = some f'.shop)
      (drafts : f'.drafts = f.drafts) : Visited settings lib f f' (.floor e)
  | checked (v : Visit) (apart : ∀ request, v ≠ .save request) (off : ∀ e, v ≠ .floor e) (request : Nat)
      (draft : Draft) (known : ∀ row, draft = .customer row → ∃ c ∈ f.shop.db.customers.rows, c.id = row.id)
      (shop : f'.shop = f.shop) (drafts : f'.drafts = Function.update f.drafts request (some draft)) :
      Visited settings lib f f' v
  | saved (request : Nat) (draft : Draft) (pending : f.drafts request = some draft) (db : Db)
      (done : draft.save f.shop.db = .ok db) (shop : f'.shop = f.shop.withDb db)
      (drafts : f'.drafts = Function.update f.drafts request none) : Visited settings lib f f' (.save request)

theorem Front.drafting_some {request : Nat} {checked : Outcome Draft} (taken : f.drafting request checked = some f') :
    ∃ draft, checked = .ok draft ∧ f' = { f with drafts := Function.update f.drafts request (some draft) } := by
  unfold drafting at taken
  split at taken
  next draft free =>
    cases taken
    exact ⟨_, rfl, rfl⟩
  · cases taken

theorem patchCustomer_known {tenant customer : Id} {data : CustomerUpdate} {db : Db} {row : Customer}
    (done : patchCustomer tenant customer data db = .ok row) : ∃ c ∈ db.customers.rows, c.id = row.id := by
  simp only [patchCustomer, bind_eq_ok, orRaise_eq_ok, pure_eq_ok] at done
  obtain ⟨c, found, _, _, _, _, _, _, rfl⟩ := done
  exact ⟨c, List.mem_of_find?_eq_some found, rfl⟩

theorem visit_cases (taken : visit settings lib lower f v = some f') : Visited settings lib f f' v := by
  cases v with
  | floor e =>
    simp only [visit] at taken
    split at taken
    next spares =>
      obtain ⟨s', stepped, rfl⟩ := Option.map_eq_some_iff.mp taken
      exact .shopped e spares stepped rfl
    · cases taken
  | createCustomer request tenant id data =>
    obtain ⟨draft, checked, rfl⟩ := Front.drafting_some taken
    obtain ⟨row, _, rfl⟩ := map_eq_ok.mp checked
    exact .checked _ (by simp) (by simp) request _ (by simp) rfl rfl
  | patchCustomer request tenant customer data =>
    obtain ⟨draft, checked, rfl⟩ := Front.drafting_some taken
    obtain ⟨row, done, rfl⟩ := map_eq_ok.mp checked
    refine .checked _ (by simp) (by simp) request _ (fun row' same => ?_) rfl rfl
    cases same
    exact patchCustomer_known done
  | createPaymentMethod request tenant user customer_id id data tokenize =>
    simp only [visit] at taken
    split at taken
    · obtain ⟨draft, checked, rfl⟩ := Front.drafting_some taken
      obtain ⟨row, _, rfl⟩ := map_eq_ok.mp checked
      exact .checked _ (by simp) (by simp) request _ (by simp) rfl rfl
    · cases taken
  | save request =>
    simp only [visit, Front.saving] at taken
    split at taken
    · cases taken
    next draft pending =>
      split at taken
      next db done =>
        cases taken
        exact .saved request draft pending db done rfl rfl
      · cases taken

theorem Draft.save_frame {draft : Draft} {db db' : Db} (done : draft.save db = .ok db') :
    db' = { db with customers := db'.customers, paymentMethods := db'.paymentMethods } ∧
      db.paymentMethods.rows ⊆ db'.paymentMethods.rows ∧
      ∀ c ∈ db.customers.rows, ∃ c' ∈ db'.customers.rows, c'.id = c.id := by
  cases draft with
  | newCustomer row =>
    obtain ⟨customers, inserted, rfl⟩ := stored_eq_ok.mp done
    refine ⟨rfl, List.Subset.refl _, fun c member => ⟨c, ?_, rfl⟩⟩
    simp [Table.insert_rows inserted, member]
  | customer row =>
    obtain ⟨customers, updated, rfl⟩ := stored_eq_ok.mp done
    refine ⟨rfl, List.Subset.refl _, fun c member => ?_⟩
    refine ⟨Table.updated (fun c => c.id == row.id) (fun _ => row) c, ?_, ?_⟩
    · rw [Table.update_rows updated]
      exact List.mem_map_of_mem member
    · unfold Table.updated
      split
      next same => exact (beq_iff_eq.mp same).symm
      · rfl
  | paymentMethod row =>
    simp only [Draft.save, bind_eq_ok] at done
    obtain ⟨_, _, saved⟩ := done
    obtain ⟨methods, inserted, rfl⟩ := stored_eq_ok.mp saved
    refine ⟨rfl, ?_, fun c member => ⟨c, member, rfl⟩⟩
    rw [Table.insert_rows inserted]
    exact List.subset_append_left _ _

theorem Front.Sound.step (sound : f.Sound) (taken : visit settings lib lower f v = some f') : f'.Sound := by
  cases visit_cases taken with
  | shopped e spares stepped drafts =>
    refine ⟨shop_slots stepped spares sound.slots, fun request row pending => ?_⟩
    rw [(shop_accounts stepped spares).1]
    exact sound.known request row (drafts ▸ pending)
  | checked v apart off request draft known shop drafts =>
    refine ⟨by rw [shop]; exact sound.slots, fun other row pending => ?_⟩
    rw [shop]
    rw [drafts] at pending
    by_cases same : other = request
    · rw [same, Function.update_self] at pending
      exact known row (Option.some.inj pending)
    · rw [Function.update_of_ne same] at pending
      exact sound.known other row pending
  | saved request draft pending db done shop drafts =>
    obtain ⟨frame, methods, kept⟩ := Draft.save_frame done
    refine ⟨?_, fun other row waiting => ?_⟩
    · rw [shop]
      refine sound.slots.of_carts methods fun c' member => .inr ⟨c', ?_, rfl, rfl, rfl⟩
      change c' ∈ db.carts.rows at member
      rw [frame] at member
      exact member
    · rw [shop]
      rw [drafts] at waiting
      by_cases same : other = request
      · rw [same, Function.update_self] at waiting
        cases waiting
      · rw [Function.update_of_ne same] at waiting
        obtain ⟨c, present, named⟩ := sound.known other row waiting
        obtain ⟨c', there, id⟩ := kept c present
        exact ⟨c', there, id.trans named⟩

/-- Credit stays with B2B customers over a visit exactly if what it saves keeps it there. -/
theorem visit_credit (sound : f.Sound) (credit : f.shop.db.CreditB2b)
    (taken : visit settings lib lower f v = some f') : f'.shop.db.CreditB2b ↔ SavesCredit ⟨f, v, f'⟩ := by
  have idle (apart : ∀ request, v ≠ .save request) : SavesCredit ⟨f, v, f'⟩ :=
    fun request _ label => absurd label (apart request)
  cases visit_cases taken with
  | shopped e spares stepped drafts => exact iff_of_true (shop_credit stepped spares credit) (idle (by simp))
  | checked v apart off request draft known shop drafts => exact iff_of_true (shop ▸ credit) (idle apart)
  | saved request draft pending db done shop drafts =>
    have exact_ := Draft.save_credit done (fun row same => sound.known request row (same ▸ pending)) credit
    rw [shop]
    refine exact_.trans ⟨fun keeps other draft' label waiting => ?_, fun saves => saves request draft rfl pending⟩
    cases label
    obtain rfl : draft = draft' := Option.some.inj (pending.symm.trans waiting)
    exact keeps

variable {f₀ : Front} {moves : List (Move Front Visit)}

/-- All through a run purchase orders belong to B2B customers, exactly if every save keeps it so. -/
theorem Run.credit_iff (run : (front settings lib lower).Run f₀ moves f) :
    (∀ move ∈ moves, move.after.shop.db.CreditB2b) ↔ ∀ move ∈ moves, SavesCredit move :=
  run.safe_iff (fun _ (opening : Front.Opening _) => ⟨opening.sound, opening.credit⟩)
    (fun _ _ _ sound taken => sound.step taken) fun _ _ _ sound credit taken => visit_credit sound credit taken

theorem Run.sound_credit (run : (front settings lib lower).Run f₀ moves f) (saves : ∀ move ∈ moves, SavesCredit move) :
    f.Sound ∧ f.shop.db.CreditB2b := by
  have start (t : Front) (opening : t.Opening) : t.Sound ∧ t.shop.db.CreditB2b := ⟨opening.sound, opening.credit⟩
  have step (t : Front) (v : Visit) (t' : Front) (stands : t.Sound ∧ t.shop.db.CreditB2b)
      (taken : visit settings lib lower t v = some t') (keeps : SavesCredit ⟨t, v, t'⟩) :
      t'.Sound ∧ t'.shop.db.CreditB2b :=
    ⟨stands.1.step taken, (visit_credit stands.1 stands.2 taken).mpr keeps⟩
  exact run.invariant_when start step saves

theorem LockedB2b.mono {moves' : List (Move Front Visit)} {i : Nat} {req : Request} {view : CartView}
    (locked : LockedB2b moves i req view) (within : moves ⊆ moves') : LockedB2b moves' i req view := by
  obtain ⟨lock, member, rest⟩ := locked
  exact ⟨lock, within member, rest⟩

/-- Whoever buys on credit was a B2B customer when the checkout took the cart. -/
theorem Run.locked_b2b (run : (front settings lib lower).Run f₀ moves f) (saves : ∀ move ∈ moves, SavesCredit move) :
    ∀ i req pc view, f.shop.calls i = some ⟨req, pc⟩ → pc.credit? = some view → LockedB2b moves i req view := by
  induction run with
  | start initial =>
    intro i req pc view at_i
    have opening : Front.Opening _ := initial
    rw [opening.shop.calls i] at at_i
    cases at_i
  | @step f f' moves v run taken ih =>
    have earlier := fun move member => saves move (List.mem_append_left _ member)
    obtain ⟨sound, credit⟩ := Run.sound_credit run earlier
    intro i req pc view at_i owed
    have still (pc₀ : Pc) (before : f.shop.calls i = some ⟨req, pc₀⟩) (owed₀ : pc₀.credit? = some view) :
        LockedB2b (moves ++ [⟨f, v, f'⟩]) i req view :=
      (ih earlier i req pc₀ view before owed₀).mono (List.subset_append_left _ _)
    cases visit_cases taken with
    | shopped e spares stepped drafts =>
      rcases shop_credits stepped at_i owed with ⟨pc₀, before, owed₀⟩ | ⟨locks, locked, onCredit⟩
      · exact still pc₀ before owed₀
      · exact ⟨⟨f, .floor e, f'⟩, by simp, e, rfl, locks, locked.b2b onCredit credit sound.slots⟩
    | checked v apart off request draft known shop drafts => exact still pc (shop ▸ at_i) owed
    | saved request draft pending db done shop drafts => exact still pc (by rw [shop] at at_i; exact at_i) owed

/-- Purchase-order credit is B2B only, where every save keeps purchase orders with B2B customers. -/
theorem credit_b2b_only (run : (front settings lib lower).Run f₀ moves f) (saves : ∀ move ∈ moves, SavesCredit move)
    (taken : visit settings lib lower f v = some f') : InvoicesB2b moves ⟨f, v, f'⟩ := by
  intro p member waiting new
  cases visit_cases taken with
  | shopped e spares stepped drafts =>
    obtain ⟨i, oracle, req, placed, rfl, at_i, named⟩ := shop_invoices stepped member waiting new
    exact ⟨i, oracle, req, placed, rfl, at_i, named, Run.locked_b2b run saves i req _ _ at_i rfl⟩
  | checked v apart off request draft known shop drafts => exact absurd rfl (new p (shop ▸ member))
  | saved request draft pending db done shop drafts =>
    have payments : db.payments = f.shop.db.payments := by rw [(Draft.save_frame done).1]
    rw [shop] at member
    exact absurd rfl (new p (payments ▸ member))

end Visits

namespace Sample

abbrev frontDesk : Machine Front Visit := front settings library String.toLower

-- The shop of a customer who has a card.
def lobby : Front where
  shop := { opening with
    db := { opening.db with paymentMethods := ⟨[card], by decide +kernel, by decide +kernel⟩ } }
  drafts _ := none

theorem lobby_opens : lobby.Opening where
  shop := { opening_opens with
    orders := rfl, orderItems := rfl, reservations := rfl, payments := rfl, calls := fun _ => rfl, queue := rfl
    candidates := rfl, marks := rfl, refunds := rfl, gatewayLog := rfl, carts := rfl, cartItems := rfl
    appliedCoupons := rfl }
  drafts _ := rfl
  credit := by
    unfold Db.CreditB2b
    decide +kernel

-- The customer becomes a company, saves a purchase order and puts it into the cart.
def promoting : List Visit :=
  [.patchCustomer 0 1 10 { customer_type := some .b2b, tax_id := some "300000000000003", company_name := some "Mugs" },
    .save 0, .createPaymentMethod 0 1 10 10 61 { method_type := .purchaseOrder, payment_terms := "net_30" }
      (fun _ => .error (.other "")), .save 0] ++
    ([.addItem 30 2, .setShippingAddress 20, .setBillingAddress 20, .setPaymentMethod 61].map shopper).map .floor

-- A checkout up to its invoice.
def billingVisits : List Visit := (calling [.find, .lock, .validate, .reserve, .create]).map .floor

def invoicingVisit : Visit := .floor (.run (.advance 0 (oracle .invoice)))

def promoted : Front := (frontDesk.exec lobby (promoting ++ billingVisits)).get (by decide +kernel)
def promotedBilled : Front := (frontDesk.step promoted invoicingVisit).get (by decide +kernel)

theorem promoting_runs : frontDesk.exec lobby (promoting ++ billingVisits) = some promoted := (Option.some_get _).symm
theorem promoted_taken : frontDesk.step promoted invoicingVisit = some promotedBilled := (Option.some_get _).symm

def savesCredit (f : Front) : Visit → Bool
  | .save request => (f.drafts request).all fun draft => decide (draft.KeepsCredit f.shop.db)
  | _ => true

theorem promoting_saves : frontDesk.passes savesCredit lobby (promoting ++ billingVisits) = true := by decide +kernel

end Sample

theorem credit_b2b_only_promoted : ∃ moves, Sample.frontDesk.Run Sample.lobby moves Sample.promoted ∧
    (∃ p ∈ Sample.promotedBilled.shop.db.payments.rows, p.status = .invoicePending) ∧
    InvoicesB2b moves ⟨Sample.promoted, Sample.invoicingVisit, Sample.promotedBilled⟩ := by
  obtain ⟨moves, run, passed⟩ := Machine.exec_passes Sample.lobby_opens Sample.promoting_runs Sample.promoting_saves
  have saves (move : Move Front Visit) (member : move ∈ moves) : SavesCredit move := by
    intro request draft label pending
    have tested := passed move member
    rw [label] at tested
    simpa [Sample.savesCredit, pending] using tested
  exact ⟨moves, run, by decide +kernel, credit_b2b_only run saves Sample.promoted_taken⟩

namespace Sample

-- The same, with the company turned into a consumer before the checkout.
def demoting : List Visit := promoting ++ [.patchCustomer 0 1 10 { customer_type := some .b2c }, .save 0]

def demoted : Front := (frontDesk.exec lobby (demoting ++ billingVisits)).get (by decide +kernel)
def demotedBilled : Front := (frontDesk.step demoted invoicingVisit).get (by decide +kernel)

theorem demoting_runs : frontDesk.exec lobby (demoting ++ billingVisits) = some demoted := (Option.some_get _).symm
theorem demoted_taken : frontDesk.step demoted invoicingVisit = some demotedBilled := (Option.some_get _).symm

def locksB2c (f : Front) : Visit → Bool
  | .floor (.run (.advance 0 _)) => (f.shop.calls 0).all fun call =>
      call.pc.point != .lock || f.shop.db.customers.rows.all fun c => c.customer_type == .b2c
  | _ => true

theorem demoting_locks : frontDesk.passes locksB2c lobby (demoting ++ billingVisits) = true := by decide +kernel

end Sample

/-- A B2C customer buys on credit. -/
theorem credit_b2c : ¬ ∀ (settings : Settings) (lib : WebhookLibrary) (lower : String → String) (f₀ f f' : Front)
    (moves : List (Move Front Visit)) (v : Visit), (front settings lib lower).Run f₀ moves f →
      visit settings lib lower f v = some f' → InvoicesB2b moves ⟨f, v, f'⟩ := by
  intro all
  obtain ⟨moves, run, passed⟩ := Machine.exec_passes Sample.lobby_opens Sample.demoting_runs Sample.demoting_locks
  have claimed := all Sample.settings Sample.library String.toLower Sample.lobby Sample.demoted Sample.demotedBilled
    moves Sample.invoicingVisit run Sample.demoted_taken
  have billed : ∃ p ∈ Sample.demotedBilled.shop.db.payments.rows, p.status = .invoicePending ∧
      ∀ q ∈ Sample.demoted.shop.db.payments.rows, q.id ≠ p.id := by decide +kernel
  obtain ⟨p, member, waiting, new⟩ := billed
  obtain ⟨i, oracle, req, placed, label, _, _, lock, there, e, at_e, locks, c, found, b2b⟩ :=
    claimed p member waiting new
  obtain rfl : i = 0 := by
    simp only [Sample.invoicingVisit, Visit.floor.injEq, Event.run.injEq, Label.advance.injEq] at label
    exact label.1.symm
  obtain ⟨oracle', own⟩ := locks.label
  have tested := passed lock there
  rw [at_e, show e = _ from own] at tested
  have before : lock.before.shop.calls 0 = some ⟨req, .lock⟩ := locks.before
  simp only [Sample.locksB2c, before, Option.all_some, Bool.or_eq_true, List.all_eq_true, beq_iff_eq] at tested
  rcases tested with other | consumers
  · simp [Pc.point] at other
  · rw [consumers c (List.mem_of_find?_eq_some found)] at b2b
    cases b2b

end Storefront
