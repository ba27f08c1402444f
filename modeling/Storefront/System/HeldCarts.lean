import Storefront.Orders.Snapshot
import Storefront.System.CartCoupons
import Storefront.System.Lines

set_option autoImplicit false

/-!
# The cart of a checkout

From the lock of phase 1 to the order of phase 4 a cart is under checkout. Shoppers
work on active carts, and a sweep reverts the carts of expired reservations.
-/

namespace Storefront

open Relational Transition

-- Beside the phases of one call: shoppers, the admin, the clock, and sweeps that find
-- no reservation of its cart expired.
def Event.spares (i : Nat) (cart : Id) (s : Sys) : Event → Bool
  | .run (.advance j _) => j == i
  | .run (.expire _ cutoff) => (expired cutoff s.db).all fun r => r.cart != cart
  | .run (.tick _) | .run (.begin ..) => true
  | .run (.createProduct ..) | .run (.patchProduct ..) | .run (.deactivateProduct ..) => true
  | .run _ => false
  | _ => true

def Sys.viewOf (s : Sys) (i : Nat) : Option CartView := (s.calls i).bind fun call => call.pc.view?

-- A restriction only as long as the call has its cart and no order.
def beside (i : Nat) (s : Sys) (e : Event) : Bool := (s.viewOf i).all fun view => e.spares i view.cart.id s

/-- The move that locks the cart. -/
structure Locks (i : Nat) (req : Request) (view : CartView) (move : Move Sys Event) : Prop where
  label : ∃ oracle, move.label = .run (.advance i oracle)
  before : move.before.calls i = some ⟨req, .lock⟩
  after : move.after.calls i = some ⟨req, .validate view⟩

/-- The cart is under checkout, with what was applied to it when it was locked. -/
structure HeldCart (tenant : Id) (view : CartView) (locked now : Db) : Prop where
  checkingOut : ∃ c ∈ now.carts.rows, c.id = view.cart.id ∧ c.status = .checkingOut
  applied : now.appliedTo tenant view.cart.id = locked.appliedTo tenant view.cart.id
  coupons : KeepsCoupons locked now

theorem lockCart_holds {req : Request} {now : Time} {db db' : Db} {view : CartView}
    (done : lockCart req now db = .ok (view, db')) : HeldCart req.tenant view db db' := by
  have active := (lockCart_view done).active
  simp only [lockCart, bind_eq_ok, pure_eq_ok, Prod.mk.injEq] at done
  obtain ⟨seen, _, _, updated, same, rfl⟩ := done
  obtain rfl := same.symm
  obtain ⟨carts, written, rfl⟩ := stored_eq_ok.mp updated
  refine ⟨⟨view.cart.restated .checkingOut now, ?_, rfl, rfl⟩, rfl, .of_tables rfl⟩
  rw [Table.update_rows written]
  refine List.mem_map.mpr ⟨view.cart, (activeCart_some active).1, ?_⟩
  simp [Table.updated, Cart.restated]

theorem HeldCart.of_tables {tenant : Id} {view : CartView} {locked now now' : Db} (held : HeldCart tenant view locked now)
    (carts : now'.cartTables = now.cartTables) (coupons : KeepsCoupons now now') : HeldCart tenant view locked now' := by
  simp only [Db.cartTables, Prod.mk.injEq] at carts
  obtain ⟨rows, _, applied⟩ := carts
  refine ⟨by rw [rows]; exact held.checkingOut, ?_, held.coupons.trans coupons⟩
  rw [Db.appliedTo, applied]
  exact held.applied

theorem releaseExpiredBatch_spares {scan : Scan} {cutoff : Time} {cart : Id} {db db' : Db}
    (done : releaseExpiredBatch scan cutoff db = .ok db') (spares : ∀ r ∈ expired cutoff db, r.cart ≠ cart) :
    ∀ c ∈ db.carts.rows, c.id = cart → c ∈ db'.carts.rows := by
  refine foldlM_relation (R := fun a b : Db => ∀ c ∈ a.carts.rows, c.id = cart → c ∈ b.carts.rows)
    (fun _ _ member _ => member) (fun first second c member named => second c (first c member named) named)
    (fun res listed a b step c member named => ?_) done
  have other : res.cart ≠ cart := spares res ((scan.perm _).mem_iff.mp (List.mem_of_mem_take listed))
  simp only [releaseExpiredOne, bind_eq_ok] at step
  obtain ⟨mid, settled, reverted⟩ := step
  obtain ⟨carts, updated, rfl⟩ := stored_eq_ok.mp reverted
  rw [Table.update_rows updated, (settle_settled settled).2]
  refine List.mem_map.mpr ⟨c, member, ?_⟩
  simp [Table.updated, named, Ne.symm other]

section Events

variable {settings : Settings} {lib : WebhookLibrary} {s s' : Sys} {i : Nat} {cart : Id}

theorem shop_keeps_checkout {e : Event} (taken : shop settings lib s e = some s') (spares : e.spares i cart s = true)
    (apart : ∀ oracle, e ≠ .run (.advance i oracle)) {c : Cart} (member : c ∈ s.db.carts.rows) (named : c.id = cart)
    (held : c.status = .checkingOut) : ∃ c' ∈ s'.db.carts.rows, c'.id = cart ∧ c'.status = .checkingOut := by
  have shut : c.status ≠ .active := by simp [held]
  have stays (same : c ∈ s'.db.carts.rows) : ∃ c' ∈ s'.db.carts.rows, c'.id = cart ∧ c'.status = .checkingOut :=
    ⟨c, same, named, held⟩
  have unslotted (unslots : Unslots s.db s'.db) : ∃ c' ∈ s'.db.carts.rows, c'.id = cart ∧ c'.status = .checkingOut := by
    obtain ⟨c', present, core⟩ := unslots.row member
    exact ⟨c', present, (congrArg CartCore.id core).trans named, (congrArg CartCore.status core).trans held⟩
  cases shop_cases taken with
  | shopper _ done => exact stays ((CartRequest.run_leaves done).closed c member shut)
  | abandonStale _ done => exact stays ((abandonStaleCarts_leaves done).closed c member shut)
  | createCoupon done => exact stays ((createCoupon_edits done).carts ▸ member)
  | patchCoupon done => exact stays ((patchCoupon_edits done).carts ▸ member)
  | deactivateCoupon done => exact stays ((deactivateCoupon_edits done).carts ▸ member)
  | deleteAddress done => exact unslotted (deleteAddress_unslots done)
  | deletePaymentMethod done => exact unslotted (deletePaymentMethod_unslots done)
  | editProfiles _ => exact stays member
  | @run label _ _ stepped =>
    cases label with
    | tick seconds =>
      cases stepped
      exact stays member
    | begin j req =>
      simp only [step] at stepped
      split at stepped <;> cases stepped
      exact stays member
    | createProduct tenant id data =>
      obtain ⟨db', done, rfl⟩ := commits_eq_some stepped
      exact stays (by rw [createProduct_frame done]; exact member)
    | patchProduct tenant product data =>
      obtain ⟨db', done, rfl⟩ := commits_eq_some stepped
      exact stays (by rw [patchProduct_frame done]; exact member)
    | deactivateProduct tenant product =>
      obtain ⟨db', done, rfl⟩ := commits_eq_some stepped
      exact stays (by rw [deactivateProduct_frame done]; exact member)
    | advance j oracle =>
      obtain rfl : j = i := beq_iff_eq.mp spares
      exact absurd rfl (apart oracle)
    | expire scan cutoff =>
      simp only [step] at stepped
      split at stepped
      · obtain ⟨db', done, rfl⟩ := commits_eq_some stepped
        simp only [Event.spares, List.all_eq_true, bne_iff_ne] at spares
        exact stays (releaseExpiredBatch_spares done spares c member named)
      · cases stepped
    | _ => cases spares

theorem HeldCart.step {e : Event} {tenant : Id} {view : CartView} {locked : Db} (held : HeldCart tenant view locked s.db)
    (taken : shop settings lib s e = some s') (spares : e.spares i view.cart.id s = true)
    (apart : ∀ oracle, e ≠ .run (.advance i oracle)) : HeldCart tenant view locked s'.db := by
  obtain ⟨c, member, named, status⟩ := held.checkingOut
  refine ⟨shop_keeps_checkout taken spares apart member named status, Eq.trans ?_ held.applied,
    held.coupons.trans (shop_coupons taken)⟩
  cases shop_carts taken with
  | restated restated _ =>
    rw [Db.appliedTo, restated.applied]
    rfl
  | unslotted _ unslots =>
    rw [Db.appliedTo, unslots.frame]
    rfl
  | turned tenant' customer request draw row row' _ turned =>
    refine turned.within.applied tenant view.cart.id fun mine => ?_
    -- The shopper's cart is an active one, or a new one.
    cases turned.opened with
    | found active =>
      obtain ⟨present, _, _, open_⟩ := activeCart_some active
      obtain rfl := s.db.carts.eq_of_key member present (named.trans mine)
      rw [status] at open_
      cases open_
    | created _ _ _ _ id now fresh new =>
      refine fresh c member ?_
      rw [named, mine, new]
      rfl

theorem Run.held {s₀ : Sys} {moves : List (Move Sys Event)} (run : (storefront settings lib).Run s₀ moves s)
    (undisturbed : ∀ move ∈ moves, beside i move.before move.label = true) :
    ∀ req pc view, s.calls i = some ⟨req, pc⟩ → pc.view? = some view → ∃ lock ∈ moves, Locks i req view lock ∧
      LockedView req lock.before.db view ∧ HeldCart req.tenant view lock.before.db s.db := by
  induction run with
  | start initial =>
    intro req pc view at_i
    have opening : Sys.Opening _ := initial
    rw [opening.calls i] at at_i
    cases at_i
  | @step s s' moves e run taken ih =>
    have before := ih fun move member => undisturbed move (List.mem_append_left _ member)
    have quiet := undisturbed ⟨s, e, s'⟩ (by simp)
    intro req pc view at_i holds
    have still (pc₀ : Pc) (earlier : s.calls i = some ⟨req, pc₀⟩) (held₀ : pc₀.view? = some view)
        (keeps : ∀ locked, HeldCart req.tenant view locked s.db → HeldCart req.tenant view locked s'.db) :
        ∃ lock ∈ moves ++ [⟨s, e, s'⟩], Locks i req view lock ∧ LockedView req lock.before.db view ∧
          HeldCart req.tenant view lock.before.db s'.db := by
      obtain ⟨lock, member, locks, locked, held⟩ := before req pc₀ view earlier held₀
      exact ⟨lock, List.mem_append_left _ member, locks, locked, keeps _ held⟩
    have aside (same : s.calls i = some ⟨req, pc⟩) (apart : ∀ oracle, e ≠ .run (.advance i oracle)) :
        ∃ lock ∈ moves ++ [⟨s, e, s'⟩], Locks i req view lock ∧ LockedView req lock.before.db view ∧
          HeldCart req.tenant view lock.before.db s'.db := by
      refine still pc same holds fun locked held => held.step taken ?_ apart
      simpa [beside, Sys.viewOf, same, holds] using quiet
    by_cases own : ∃ oracle, e = .run (.advance i oracle)
    · obtain ⟨oracle, rfl⟩ := own
      have stepped : step settings lib s (.advance i oracle) = some s' := taken
      cases earlier : s.calls i with
      | none =>
        simp only [step, earlier] at stepped
        cases stepped
      | some call =>
        obtain ⟨req₀, pc₀⟩ := call
        have moved := step_advance_call stepped earlier
        have out := step_advance stepped earlier
        rw [at_i] at moved
        obtain ⟨rfl, ended⟩ := Call.mk.inj (Option.some.inj moved)
        cases (advance_view (Prod.ext ended.symm rfl) holds : HandsOn _ _ _ _ _ pc₀ pc) with
        | locked done =>
          refine ⟨_, List.mem_append_right _ (List.mem_singleton_self _), ⟨⟨oracle, rfl⟩, earlier, at_i⟩,
            lockCart_view done, ?_⟩
          rw [out]
          exact lockCart_holds done
        | validated same =>
          refine still (.validate view) earlier rfl fun locked held => ?_
          rw [out, same]
          exact held
        | reserved reservations done =>
          refine still (.reserve view) earlier rfl fun locked held => ?_
          have frame := (reserveStock_reserved done).1.frame
          rw [out]
          refine held.of_tables ?_ (.of_tables ?_)
          · rw [frame]
            rfl
          · rw [frame]
    · have apart (oracle : Oracle) : e ≠ .run (.advance i oracle) := fun same => own ⟨oracle, same⟩
      rcases shop_edits taken with ⟨l, rfl, _, stepped⟩ | ⟨db', rfl, _⟩
      · rcases step_calls stepped at_i with same | ⟨_, fresh⟩ | ⟨oracle, _, rfl, _⟩
        · exact aside same apart
        · rw [show pc = .find from fresh] at holds
          cases holds
        · exact absurd rfl (apart oracle)
      · exact aside at_i apart

end Events

end Storefront
