import Storefront.Carts.Contents
import Storefront.System.Offers
import Storefront.System.Shopping

set_option autoImplicit false

/-!
# Currency and version of a cart

Every event of the storefront restates carts, clears their slots, or turns one cartRows.
-/

namespace Storefront

open Relational Transition

section Events

variable {settings : Settings} {lib : WebhookLibrary} {s s' : Sys}

def Event.clearsSlots : Event → Bool
  | .deleteAddress .. | .deletePaymentMethod .. => true
  | _ => false

inductive CartEffect (s s' : Sys) (e : Event) : Prop
  | restated (restated : Restated s.db s'.db)
      (idle : ∀ tenant customer request draw, e = .shopper tenant customer request draw →
        request.Idle s.db tenant customer)
  | unslotted (clears : e.clearsSlots = true) (unslots : Unslots s.db s'.db)
  | turned (tenant customer : Id) (request : CartRequest) (draw : Nat → Id) (row row' : Cart)
      (shopper : e = .shopper tenant customer request draw)
      (turned : Turned s.db tenant customer s.now request s'.db row row')

theorem shop_carts {e : Event} (taken : shop settings lib s e = some s') : CartEffect s s' e := by
  cases shop_cases taken with
  | @shopper tenant customer request draw _ _ _ done =>
    rcases CartRequest.run_turns done with ⟨same, idle⟩ | ⟨row, row', turned⟩
    · refine .restated (same ▸ .refl _) fun _ _ _ _ is => ?_
      cases is
      exact idle
    · exact .turned tenant customer request draw row row' rfl turned
  | abandonStale _ done => exact .restated (abandonStaleCarts_respects (restating s.now) done) (by simp)
  | createCoupon done => exact .restated (.unchanged (by rw [createCoupon_frame done]; rfl)) (by simp)
  | patchCoupon done => exact .restated (.unchanged (by rw [patchCoupon_frame done]; rfl)) (by simp)
  | deactivateCoupon done => exact .restated (.unchanged (by rw [deactivateCoupon_frame done]; rfl)) (by simp)
  | deleteAddress done => exact .unslotted rfl (deleteAddress_unslots done)
  | deletePaymentMethod done => exact .unslotted rfl (deletePaymentMethod_unslots done)
  | editProfiles _ => exact .restated (.of_tables rfl rfl rfl) (by simp)
  | run apart stepped => exact .restated (step_restates stepped apart) (by simp)

end Events

section Rows

variable {db db' : Db}

theorem Restated.cartRows (restated : Restated db db') (c : Cart) (status : CartStatus) (time : Time) :
    db'.cartRows (c.restated status time) = { db.cartRows c with row := c.restated status time } := by
  simp only [Db.cartRows, Db.cartLines, Db.appliedTo, restated.items, restated.applied]
  rfl

theorem Unslots.row_of (unslots : Unslots db db') {c' : Cart} (member : c' ∈ db'.carts.rows) :
    ∃ c ∈ db.carts.rows, c'.core = c.core := by
  have image : c'.core ∈ db.carts.rows.map Cart.core := unslots.cores ▸ List.mem_map_of_mem member
  obtain ⟨c, present, same⟩ := List.mem_map.mp image
  exact ⟨c, present, same.symm⟩

theorem Opened.active {tenant customer : Id} {request : CartRequest} {row : Cart}
    (opened : Opened db tenant customer request row) :
    row.tenant = tenant ∧ row.customer = customer ∧ row.status = .active := by
  cases opened with
  | found active => exact (activeCart_some active).2
  | created _ _ _ _ id now _ new => simp [new, newCart]

theorem Turned.row_of {tenant customer : Id} {now : Time} {request : CartRequest} {row row' : Cart}
    (turned : Turned db tenant customer now request db' row row') {c : Cart} (member : c ∈ db'.carts.rows) :
    c = row' ∨ (c ∈ db.carts.rows ∧ c.id ≠ row.id) := by
  by_cases mine : c.id = row.id
  · exact .inl (db'.carts.eq_of_key member turned.present (mine.trans turned.turn.identity.1.symm))
  · exact .inr ⟨turned.within.only c member mine, mine⟩

theorem Turned.others {tenant customer : Id} {now : Time} {request : CartRequest} {row row' : Cart}
    (turned : Turned db tenant customer now request db' row row') {c : Cart} (other : c.id ≠ row.id) :
    db'.cartRows c = db.cartRows c := by
  simp only [Db.cartRows, turned.within.lines c.tenant c.id other, turned.within.applied c.tenant c.id other]

end Rows

theorem Db.Filed.restated {db db' : Db} (filed : db.Filed) (restated : Restated db db') : db'.Filed where
  items i member := by
    obtain ⟨c, present, named, owner⟩ := filed.items i (restated.items ▸ member)
    obtain ⟨status, time, _, there⟩ := restated.carts c present
    exact ⟨_, there, named, owner⟩
  applied a member := by
    obtain ⟨c, present, named, owner⟩ := filed.applied a (restated.applied ▸ member)
    obtain ⟨status, time, _, there⟩ := restated.carts c present
    exact ⟨_, there, named, owner⟩

theorem Unslots.row {db db' : Db} (unslots : Unslots db db') {c : Cart} (member : c ∈ db.carts.rows) :
    ∃ c' ∈ db'.carts.rows, c'.core = c.core := by
  have image : c.core ∈ db'.carts.rows.map Cart.core := unslots.cores ▸ List.mem_map_of_mem member
  exact List.mem_map.mp image

theorem Db.Filed.unslotted {db db' : Db} (filed : db.Filed) (unslots : Unslots db db') : db'.Filed where
  items i member := by
    rw [unslots.frame] at member
    obtain ⟨c, present, named, owner⟩ := filed.items i member
    obtain ⟨c', there, core⟩ := unslots.row present
    exact ⟨c', there, (congrArg CartCore.id core).trans named, (congrArg CartCore.tenant core).trans owner⟩
  applied a member := by
    rw [unslots.frame] at member
    obtain ⟨c, present, named, owner⟩ := filed.applied a member
    obtain ⟨c', there, core⟩ := unslots.row present
    exact ⟨c', there, (congrArg CartCore.id core).trans named, (congrArg CartCore.tenant core).trans owner⟩

theorem Db.Filed.turned {db db' : Db} {tenant customer : Id} {now : Time} {request : CartRequest} {row row' : Cart}
    (filed : db.Filed) (turned : Turned db tenant customer now request db' row row') : db'.Filed := by
  obtain ⟨named, owner, _⟩ := turned.turn.identity
  obtain ⟨mine, _⟩ := turned.opened.active
  have still {c : Cart} (present : c ∈ db.carts.rows) : ∃ c' ∈ db'.carts.rows, c'.id = c.id ∧ c'.tenant = c.tenant := by
    by_cases same : c.id = row.id
    · cases turned.opened with
      | found active =>
        obtain rfl := db.carts.eq_of_key present (activeCart_some active).1 same
        exact ⟨row', turned.present, named, owner⟩
      | created _ _ _ _ id now fresh new =>
        rw [new] at same
        exact absurd same (fresh c present)
    · exact ⟨c, turned.within.others c present same, rfl, rfl⟩
  refine ⟨fun i member => ?_, fun a member => ?_⟩
  · rcases turned.within.itemKeys i member with ⟨tenant, cart⟩ | ⟨old, present, tenant, cart⟩
    · exact ⟨row', turned.present, named.trans cart.symm, (owner.trans mine).trans tenant.symm⟩
    · obtain ⟨c, inside, id, ownerOf⟩ := filed.items old present
      obtain ⟨c', there, sameId, sameTenant⟩ := still inside
      exact ⟨c', there, (sameId.trans id).trans cart, (sameTenant.trans ownerOf).trans tenant⟩
  · rcases turned.within.appliedKeys a member with ⟨tenant, cart⟩ | ⟨old, present, tenant, cart⟩
    · exact ⟨row', turned.present, named.trans cart.symm, (owner.trans mine).trans tenant.symm⟩
    · obtain ⟨c, inside, id, ownerOf⟩ := filed.applied old present
      obtain ⟨c', there, sameId, sameTenant⟩ := still inside
      exact ⟨c', there, (sameId.trans id).trans cart, (sameTenant.trans ownerOf).trans tenant⟩

theorem Db.Filed.opened {db : Db} {tenant customer : Id} {request : CartRequest} {row : Cart} (filed : db.Filed)
    (opened : Opened db tenant customer request row) :
    row ∈ db.carts.rows ∨ (db.cartRows row).items = [] ∧ (db.cartRows row).applied = [] ∧ row.currency = "" := by
  cases opened with
  | found active => exact .inl (activeCart_some active).1
  | created _ _ _ _ id now fresh new =>
    refine .inr ⟨List.filter_eq_nil_iff.mpr fun i member picked => ?_,
      List.filter_eq_nil_iff.mpr fun a member picked => ?_, by rw [new]; rfl⟩
    · obtain ⟨c, present, named, _⟩ := filed.items i member
      simp only [new, newCart, Bool.and_eq_true, beq_iff_eq] at picked
      exact fresh c present (named.trans picked.2)
    · obtain ⟨c, present, named, _⟩ := filed.applied a member
      simp only [new, newCart, Bool.and_eq_true, beq_iff_eq] at picked
      exact fresh c present (named.trans picked.2)

/-- The currency of a cart is the one of its lines, and empty without lines. -/
structure CartRows.Locked (b : CartRows) : Prop where
  empty : b.row.currency = "" ↔ b.items = []
  same : ∀ i ∈ b.items, i.currency = b.row.currency

theorem Cart.lockedIn_currency {c : Cart} {currency : String} (now : Time) (locks : c.currency = "" ∨ c.currency = currency) :
    (c.lockedIn currency now).currency = currency := by
  unfold lockedIn
  split
  · rfl
  next locked => exact locks.resolve_left locked

theorem CartRows.Locked.lines {b : CartRows} (locked : b.Locked) {currency : String}
    (locks : b.row.currency = "" ∨ b.row.currency = currency) : ∀ i ∈ b.items, i.currency = currency := by
  intro i inside
  rcases locks with none_yet | same
  · rw [locked.empty.mp none_yet] at inside
    cases inside
  · exact (locked.same i inside).trans same

theorem CartRows.Locked.updated {b : CartRows} (locked : b.Locked) {p : CartItem → Bool} {f : CartItem → CartItem}
    (keeps : ∀ i, (f i).currency = i.currency) :
    (b.row.currency = "" ↔ b.items.map (Table.updated p f) = []) ∧
      ∀ i ∈ b.items.map (Table.updated p f), i.currency = b.row.currency := by
  refine ⟨by rw [locked.empty, List.map_eq_nil_iff], fun i' inside => ?_⟩
  obtain ⟨i, old, rfl⟩ := List.mem_map.mp inside
  unfold Table.updated
  split
  · exact (keeps i).trans (locked.same i old)
  · exact locked.same i old

theorem Turn.locked {db : Db} {now : Time} {b b' : CartRows} {request : CartRequest} (turn : Turn db now b request b')
    (priced : ∀ p ∈ db.products.rows, p.currency ≠ "") (locked : b.Locked) : b'.Locked := by
  cases turn with
  | added quantity p line sold locks lined =>
    have currency := Cart.lockedIn_currency now locks
    refine ⟨?_, fun i inside => ?_⟩
    · simp [currency, priced p sold]
    · rw [Cart.bumped_currency, currency]
      rcases List.mem_append.mp inside with old | new
      · exact locked.lines locks i old
      · rw [List.mem_singleton.mp new]
        exact lined
  | increased quantity p line sold locks listed =>
    have currency := Cart.lockedIn_currency now locks
    have filled : b.items ≠ [] := List.ne_nil_of_mem listed
    refine ⟨?_, fun i' inside => ?_⟩
    · simp [currency, priced p sold, filled]
    · obtain ⟨i, old, rfl⟩ := List.mem_map.mp inside
      rw [Cart.bumped_currency, currency]
      unfold Table.updated
      split <;> exact locked.lines locks i old
  | removed line listed =>
    refine ⟨?_, fun i inside => ?_⟩
    · rw [Cart.bumped_currency]
      unfold Cart.unlocked
      split
      next gone => simp [gone]
      next rest =>
        have filled : b.items ≠ [] := List.ne_nil_of_mem listed
        simp only [locked.empty, filled, rest]
    · have old := List.mem_of_mem_filter inside
      have rest := List.ne_nil_of_mem inside
      rw [Cart.bumped_currency, Cart.unlocked, if_neg rest]
      exact locked.same i old
  | requantified line quantity listed =>
    obtain ⟨empty, same⟩ := locked.updated (p := fun i => i.id == line.id) (f := fun i => { i with quantity })
      fun _ => rfl
    exact ⟨empty, same⟩
  | cleared => exact ⟨by simp [CartService.abandoned], by simp⟩
  | applied | unapplied | shipped | billed | paid => exact ⟨locked.empty, locked.same⟩

structure Sys.LockedIn (s : Sys) : Prop where
  priced : ∀ p ∈ s.db.products.rows, p.currency ≠ ""
  filed : s.db.Filed
  locked : ∀ c ∈ s.db.carts.rows, (s.db.cartRows c).Locked

section Currency

variable {settings : Settings} {lib : WebhookLibrary} {s s' : Sys}

theorem isCurrencyCode_ne {text : String} (valid : isCurrencyCode text = true) : text ≠ "" := by
  rintro rfl
  revert valid
  decide

theorem createProduct_priced {tenant id : Id} {data : ProductCreate} {db db' : Db}
    (priced : ∀ p ∈ db.products.rows, p.currency ≠ "") (done : createProduct tenant id data db = .ok db') :
    ∀ p ∈ db'.products.rows, p.currency ≠ "" := by
  simp only [createProduct, bind_eq_ok, require_eq_ok] at done
  obtain ⟨_, valid, _, _, inserted⟩ := done
  obtain ⟨_, put, rfl⟩ := stored_eq_ok.mp inserted
  intro p member
  simp only [Table.insert_rows put] at member
  rcases List.mem_append.mp member with old | new
  · exact priced p old
  · rw [List.mem_singleton.mp new]
    exact isCurrencyCode_ne valid

theorem patchProduct_priced {tenant product : Id} {data : ProductUpdate} {db db' : Db}
    (priced : ∀ p ∈ db.products.rows, p.currency ≠ "") (done : patchProduct tenant product data db = .ok db') :
    ∀ p ∈ db'.products.rows, p.currency ≠ "" := by
  simp only [patchProduct, bind_eq_ok, require_eq_ok] at done
  obtain ⟨_, _, _, valid, _, _, _, _, updated⟩ := done
  obtain ⟨_, put, rfl⟩ := stored_eq_ok.mp updated
  intro p member
  simp only [Table.update_rows put] at member
  obtain ⟨old, present, rfl⟩ := List.mem_map.mp member
  unfold Table.updated
  split
  · unfold ProductUpdate.apply
    cases changed : data.currency with
    | none => exact priced old present
    | some code => exact isCurrencyCode_ne (valid code changed)
  · exact priced old present

theorem deactivateProduct_offers {tenant product : Id} {db db' : Db} (done : deactivateProduct tenant product db = .ok db') :
    db'.products.rows.map Product.currency = db.products.rows.map Product.currency := by
  obtain ⟨products, put, rfl⟩ := stored_eq_ok.mp (deactivateProduct_updates done)
  simp only [Table.update_rows put]
  exact Table.map_updated _ _ _ _ fun _ _ _ => rfl

theorem priced_of_currencies {db db' : Db} (priced : ∀ p ∈ db.products.rows, p.currency ≠ "")
    (same : db'.products.rows.map Product.currency = db.products.rows.map Product.currency) :
    ∀ p ∈ db'.products.rows, p.currency ≠ "" := by
  intro p' member
  have image : p'.currency ∈ db.products.rows.map Product.currency := same ▸ List.mem_map_of_mem member
  obtain ⟨p, present, currency⟩ := List.mem_map.mp image
  exact currency ▸ priced p present

theorem currencies_of_offers {db db' : Db} (same : db'.offers = db.offers) :
    db'.products.rows.map Product.currency = db.products.rows.map Product.currency := by
  have currencies (db : Db) : db.products.rows.map Product.currency = db.offers.map Product.currency := by
    simp [Db.offers, Product.offer, Function.comp_def]
  rw [currencies db', same, ← currencies db]

theorem shop_priced {e : Event} (priced : ∀ p ∈ s.db.products.rows, p.currency ≠ "")
    (taken : shop settings lib s e = some s') : ∀ p ∈ s'.db.products.rows, p.currency ≠ "" := by
  rcases shop_edits taken with ⟨l, _, _, stepped⟩ | ⟨db', rfl, frame⟩
  · cases l with
    | createProduct tenant id data =>
      obtain ⟨db', done, rfl⟩ := commits_eq_some stepped
      exact createProduct_priced priced done
    | patchProduct tenant product data =>
      obtain ⟨db', done, rfl⟩ := commits_eq_some stepped
      exact patchProduct_priced priced done
    | deactivateProduct tenant product =>
      obtain ⟨db', done, rfl⟩ := commits_eq_some stepped
      exact priced_of_currencies priced (deactivateProduct_offers done)
    | _ => exact priced_of_currencies priced (currencies_of_offers (step_offers stepped rfl))
  · have products : db'.products = s.db.products := by rw [frame]; rfl
    intro p member
    exact priced p (products ▸ member)

theorem Sys.LockedIn.step {e : Event} (inv : s.LockedIn) (taken : shop settings lib s e = some s') : s'.LockedIn := by
  have priced := shop_priced inv.priced taken
  cases shop_carts taken with
  | restated restated _ =>
    refine ⟨priced, inv.filed.restated restated, fun c' member => ?_⟩
    obtain ⟨c, present, status, time, _, rfl⟩ := restated.only c' member
    rw [restated.cartRows]
    exact ⟨(inv.locked c present).empty, (inv.locked c present).same⟩
  | unslotted _ unslots =>
    refine ⟨priced, inv.filed.unslotted unslots, fun c' member => ?_⟩
    obtain ⟨c, present, core⟩ := unslots.row_of member
    have id : c'.id = c.id := congrArg CartCore.id core
    have tenant : c'.tenant = c.tenant := congrArg CartCore.tenant core
    have currency : c'.currency = c.currency := congrArg CartCore.currency core
    have lines : s'.db.cartLines c'.tenant c'.id = s.db.cartLines c.tenant c.id := by
      rw [id, tenant, Db.cartLines, unslots.frame]
      rfl
    have before := inv.locked c present
    exact ⟨by rw [Db.cartRows, lines, currency]; exact before.empty, by rw [Db.cartRows, lines, currency]; exact before.same⟩
  | turned tenant customer request draw row row' _ turned =>
    refine ⟨priced, inv.filed.turned turned, fun c member => ?_⟩
    rcases turned.row_of member with rfl | ⟨present, other⟩
    · refine turned.turn.locked inv.priced ?_
      rcases inv.filed.opened turned.opened with present | ⟨items, _, currency⟩
      · exact inv.locked row present
      · exact ⟨iff_of_true currency items, by simp [items]⟩
    · rw [turned.others other]
      exact inv.locked c present

theorem Run.locked_in {s₀ : Sys} {moves : List (Move Sys Event)} (run : (storefront settings lib).Run s₀ moves s) :
    s.LockedIn := by
  have start (t : Sys) (opening : t.Opening) : t.LockedIn := by
    refine ⟨opening.priced, ⟨?_, ?_⟩, ?_⟩
    · simp [opening.cartItems]
    · simp [opening.appliedCoupons]
    · simp [opening.carts]
  have step (t : Sys) (e : Event) (t' : Sys) (inv : t.LockedIn) (taken : shop settings lib t e = some t') :
      t'.LockedIn := inv.step taken
  exact run.invariant start step

end Currency

-- The currency of a cart, as its lines in the whole table tell.
def CurrencyLocked (db : Db) : Prop :=
  ∀ c ∈ db.carts.rows, (c.currency = "" ↔ ∀ i ∈ db.cartItems.rows, i.cart ≠ c.id) ∧
    ∀ i ∈ db.cartItems.rows, i.cart = c.id → i.currency = c.currency

theorem Db.Filed.cartLines {db : Db} (filed : db.Filed) {c : Cart} (member : c ∈ db.carts.rows) {i : CartItem} :
    i ∈ db.cartLines c.tenant c.id ↔ i ∈ db.cartItems.rows ∧ i.cart = c.id := by
  simp only [Db.cartLines, List.mem_filter, Bool.and_eq_true, beq_iff_eq]
  constructor
  · rintro ⟨inside, _, named⟩
    exact ⟨inside, named⟩
  · rintro ⟨inside, named⟩
    obtain ⟨c', present, same, owner⟩ := filed.items i inside
    obtain rfl := db.carts.eq_of_key present member (same.trans named)
    exact ⟨inside, owner.symm, named⟩

theorem currency_locked (settings : Settings) (lib : WebhookLibrary) {s₀ s : Sys} {moves : List (Move Sys Event)}
    (run : (storefront settings lib).Run s₀ moves s) : CurrencyLocked s.db := by
  have inv := Run.locked_in run
  intro c member
  obtain ⟨empty, same⟩ := inv.locked c member
  have lines {i : CartItem} := inv.filed.cartLines member (i := i)
  refine ⟨empty.trans ⟨fun none_left i inside named => ?_, fun absent => ?_⟩, fun i inside named => ?_⟩
  · have listed := lines.mpr ⟨inside, named⟩
    rw [show s.db.cartLines c.tenant c.id = [] from none_left] at listed
    cases listed
  · refine List.eq_nil_iff_forall_not_mem.mpr fun i listed => ?_
    obtain ⟨inside, named⟩ := lines.mp listed
    exact absent i inside named
  · exact same i (lines.mpr ⟨inside, named⟩)

namespace Sample

-- The last mug is put back, and other things come into the cart.
def emptied : List Event := [.addItem 30 2, .removeItem 41, .addItem 30 1, .updateItemQuantity 41 3].map shopper

def afterEmptied : Sys := (floor.exec opening emptied).get (by decide +kernel)

theorem emptied_runs : floor.exec opening emptied = some afterEmptied := (Option.some_get _).symm

end Sample

theorem currency_locked_emptied : ∃ moves, Sample.floor.Run Sample.opening moves Sample.afterEmptied ∧
    CurrencyLocked Sample.afterEmptied.db := by
  obtain ⟨moves, run⟩ := Machine.exec_run Sample.opening_opens Sample.emptied_runs
  exact ⟨moves, run, currency_locked Sample.settings Sample.library run⟩

end Storefront
