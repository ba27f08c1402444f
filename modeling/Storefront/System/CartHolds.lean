import Storefront.System.Deliveries
import Storefront.System.Returns

set_option autoImplicit false

/-!
# Reservations and their carts

A call reserves for the cart it works on. When its reservations are linked to the order,
the cart is converted, so no order has a reservation of a cart under checkout.
-/

namespace Storefront

open Relational Transition

-- The cart a call works on.
def Pc.cart? : Pc → Option Id
  | .find | .lock | .done .. | .crashed .. => none
  | .validate view | .reserve view | .create view _ => some view.cart.id
  | .invoice placed | .convertInvoiced placed _ | .resolve placed | .insertPayment placed _ | .authorize placed _
  | .recordError placed _ _ | .recordResult placed _ _ | .convert placed _ | .captureRead placed _ | .capture placed _
  | .captureWrite placed _ _ | .paid placed _ => some placed.view.cart.id
  | .undo _ cart _ _ => some cart

-- The view of a call that has locked its cart and reserved nothing yet.
def Pc.locked? : Pc → Option CartView
  | .validate view | .reserve view => some view
  | _ => none

def Db.CheckingOut (db : Db) (cart : Id) : Prop := ∃ c ∈ db.carts.rows, c.id = cart ∧ c.status = .checkingOut

section Calls

variable {settings : Settings} {req : Request} {oracle : Oracle} {db db' : Db} {pc pc' : Pc} {log : List GatewayCall}
  {cart : Id}

theorem authorizeRaised_cart {placed : Placed} {payment : Option Payment} {e : Exn}
    (held : (authorizeRaised placed payment e).cart? = some cart) : placed.view.cart.id = cart := by
  unfold authorizeRaised at held
  split at held
  · exact Option.some.inj held
  · cases held

theorem advance_cart (taken : advance settings req oracle db pc = (pc', db', log)) (held : pc'.cart? = some cart) :
    pc.cart? = some cart ∨
      ∃ view, pc = .lock ∧ lockCart req oracle.now db = .ok (view, db') ∧ view.cart.id = cart := by
  cases pc with
  | find =>
    simp only [advance] at taken
    split at taken <;> cases taken <;> cases held
  | lock =>
    simp only [advance] at taken
    split at taken <;> cases taken
    next done => exact .inr ⟨_, rfl, guard_ok done, Option.some.inj held⟩
    · cases held
  | validate view | reserve view =>
    simp only [advance] at taken
    split at taken <;> cases taken <;> exact .inl held
  | create view reservations =>
    simp only [advance] at taken
    split at taken
    next order _ _ =>
      refine .inl ?_
      rw [← (Prod.mk.inj taken).1] at held
      rcases afterOrder_cases ⟨view, reservations, order⟩ with ⟨_, ended⟩ | invoiced | card
      · rw [ended] at held; cases held
      · rw [invoiced] at held; exact held
      · rw [card] at held; exact held
    · cases taken
      exact .inl held
  | invoice placed | authorize placed payment =>
    simp only [advance] at taken
    split at taken <;> cases taken <;> exact .inl held
  | convertInvoiced placed payment | captureWrite placed row intent | capture placed row | paid placed payment =>
    simp only [advance] at taken
    split at taken <;> cases taken <;> first | exact .inl held | cases held
  | captureRead placed payment =>
    simp only [advance] at taken
    split at taken <;> cases taken <;> first | exact .inl held | cases held
  | resolve placed | insertPayment placed config =>
    simp only [advance] at taken
    split at taken <;> cases taken
    · exact .inl held
    · exact .inl (congrArg some (authorizeRaised_cart held))
  | recordError placed payment e =>
    simp only [advance] at taken
    split at taken <;> cases taken <;> exact .inl (congrArg some (authorizeRaised_cart held))
  | recordResult placed payment intent =>
    simp only [advance] at taken
    split at taken
    · split at taken <;> cases taken
      · exact .inl (congrArg some (authorizeRaised_cart held))
      · exact .inl held
    · cases taken
      exact .inl (congrArg some (authorizeRaised_cart held))
  | convert placed payment =>
    simp only [advance] at taken
    split at taken
    · rw [← (Prod.mk.inj taken).1] at held
      unfold afterConvert at held
      split at held
      · exact .inl held
      · split at held <;> cases held
    · cases taken
      cases held
  | undo todo other frame e =>
    cases todo with
    | nil => cases taken; cases held
    | cons action rest =>
      simp only [advance] at taken
      split at taken <;> cases taken
      · exact .inl held
      · cases held
  | done frame result | crashed todo frame e =>
    cases taken
    cases held

end Calls

section Holds

variable {settings : Settings} {lib : WebhookLibrary} {s s' : Sys} {l : Label} {db' : Db}

/-- A reservation is new, or keeps its cart. It is linked by a call that converts the cart. -/
theorem Shape.hold_from (shape : Shape s l db') {r' : InventoryReservation} (member : r' ∈ db'.reservations.rows) :
    (r'.order = none ∧ ∀ r ∈ s.db.reservations.rows, r.id ≠ r'.id) ∨
      ∃ r ∈ s.db.reservations.rows, r.id = r'.id ∧ r.cart = r'.cart ∧ (r.order = r'.order ∨
        ∃ i oracle req pc placed h, l = .advance i oracle ∧ s.calls i = some ⟨req, pc⟩ ∧ Converts placed pc h ∧
          r.id ∈ placed.reservations) := by
  cases shape with
  | touched touch =>
    obtain ⟨r, inside, core, _⟩ := touch.hold_of member
    exact .inr ⟨r, inside, (congrArg HoldCore.id core).symm, (congrArg HoldCore.cart core).symm,
      .inl (congrArg HoldCore.order core).symm⟩
  | stocked new orders items payments rows opened =>
    by_cases old : r' ∈ s.db.reservations.rows
    · exact .inr ⟨r', old, rfl, rfl, .inl rfl⟩
    · have listed := member
      rw [rows] at listed
      have fresh : r' ∈ new := (List.mem_append.mp listed).resolve_left old
      refine .inl ⟨(opened r' fresh).2.1, fun r inside same => old ?_⟩
      have kept : r ∈ db'.reservations.rows := by rw [rows]; exact List.mem_append_left _ inside
      exact db'.reservations.eq_of_key kept member same ▸ inside
  | ordered i oracle order items at_l rows status payments reservations =>
    exact .inr ⟨r', reservations ▸ member, rfl, rfl, .inl rfl⟩
  | billed i oracle req pc placed row at_l at_i bills named rows orders reservations =>
    exact .inr ⟨r', reservations ▸ member, rfl, rfl, .inl rfl⟩
  | linked i oracle req pc placed h at_l at_i converts links =>
    have image : (r'.core, r'.status) ∈ s.db.reservations.rows.map fun r =>
        (if placed.reservations.contains r.core.id then { r.core with order := some placed.order.id } else r.core, h r) :=
      links.holds ▸ List.mem_map_of_mem member
    obtain ⟨r, inside, same⟩ := List.mem_map.mp image
    have core := (Prod.mk.inj same).1
    split at core
    next listed =>
      refine .inr ⟨r, inside, congrArg HoldCore.id core, congrArg HoldCore.cart core, .inr ?_⟩
      exact ⟨i, oracle, req, pc, placed, h, at_l, at_i, converts, List.contains_iff_mem.mp listed⟩
    · exact .inr ⟨r, inside, congrArg HoldCore.id core, congrArg HoldCore.cart core, .inl (congrArg HoldCore.order core)⟩

theorem Shape.hold_cart (shape : Shape s l db') {r : InventoryReservation} (member : r ∈ s.db.reservations.rows) :
    ∃ r' ∈ db'.reservations.rows, r'.id = r.id ∧ r'.cart = r.cart := by
  obtain ⟨r', there, named, _⟩ := shape.reaches member
  rcases shape.hold_from there with ⟨_, fresh⟩ | ⟨q, inside, same, cart, _⟩
  · exact absurd named.symm (fresh r member)
  · obtain rfl := s.db.reservations.eq_of_key inside member (same.trans named)
    exact ⟨r', there, named, cart.symm⟩

def Sys.ReservesForCart (s : Sys) : Prop :=
  ∀ i call, s.calls i = some call → ∀ cart ∈ call.pc.cart?, ∀ id ∈ call.pc.claim.reservations,
    ∃ r ∈ s.db.reservations.rows, r.id = id ∧ r.cart = cart

theorem Sys.ReservesForCart.step (reserves : s.ReservesForCart) (taken : Storefront.step settings lib s l = some s') :
    s'.ReservesForCart := by
  intro i call at_i cart held id listed
  have kept {call : Call} (at_i : s.calls i = some call) (held : cart ∈ call.pc.cart?)
      (listed : id ∈ call.pc.claim.reservations) : ∃ r ∈ s'.db.reservations.rows, r.id = id ∧ r.cart = cart := by
    obtain ⟨r, inside, named, mine⟩ := reserves i call at_i cart held id listed
    obtain ⟨r', there, same, cart⟩ := (step_change taken).shape.hold_cart inside
    exact ⟨r', there, same.trans named, cart.trans mine⟩
  rcases step_calls taken at_i with same | ⟨_, fresh⟩ | ⟨oracle, pc, rfl, before, _, moved⟩
  · exact kept same held listed
  · rw [fresh] at listed
    cases listed
  · have out := step_advance taken before
    rcases advance_reserves (Prod.ext moved.symm rfl) with same | ⟨view, rfl, done⟩
    · rw [same] at listed
      rcases advance_cart (Prod.ext moved.symm rfl) held with earlier | ⟨view, rfl, _⟩
      · exact kept before earlier listed
      · cases listed
    · -- The rows have just been written.
      obtain ⟨_, rows, _, _, ids⟩ := reserveStock_grows done
      rw [ids, List.map_map] at listed
      obtain ⟨r, new, rfl⟩ := List.mem_map.mp listed
      have mine : r.cart = view.cart.id := by
        obtain ⟨_, _, rfl⟩ := List.mem_map.mp new
        rfl
      rcases advance_cart (Prod.ext moved.symm rfl) held with earlier | ⟨_, lock, _⟩
      · refine ⟨r, ?_, rfl, mine.trans (Option.some.inj earlier)⟩
        rw [out, rows]
        exact List.mem_append_right _ new
      · cases lock

def Sys.LinkedHolds (s : Sys) : Prop :=
  ∀ r ∈ s.db.reservations.rows, r.order.isSome → s.db.ConvertedCart r.cart

theorem Sys.LinkedHolds.step {e : Event} (linked : s.LinkedHolds) (reserves : s.ReservesForCart)
    (taken : shop settings lib s e = some s') : s'.LinkedHolds := by
  intro r' member ordered
  rcases shop_edits taken with ⟨l, rfl, _, stepped⟩ | ⟨db', rfl, frame⟩
  · rcases (step_change stepped).shape.hold_from member with ⟨open_, _⟩ | ⟨r, inside, named, cart, same | links⟩
    · simp [open_] at ordered
    · exact shop_converted taken (cart ▸ linked r inside (same ▸ ordered))
    · obtain ⟨i, oracle, req, pc, placed, h, rfl, at_i, converts, listed⟩ := links
      have mine : r'.cart = placed.view.cart.id := by
        have holds : placed.view.cart.id ∈ pc.cart? ∧ pc.claim.reservations = placed.reservations := by
          cases converts <;> exact ⟨rfl, rfl⟩
        obtain ⟨q, there, same, mine⟩ := reserves i _ at_i _ holds.1 r.id (holds.2 ▸ listed)
        obtain rfl := s.db.reservations.eq_of_key there inside same
        exact cart.symm.trans mine
      rcases step_converts stepped at_i converts with same | converted
      · rw [same] at member ⊢
        exact linked r' member ordered
      · exact mine ▸ converted
  · have reservations : db'.reservations = s.db.reservations := by rw [frame]; rfl
    exact shop_converted taken (linked r' (reservations ▸ member) ordered)

/-- No order has a reservation of a cart under checkout. -/
theorem Run.unlinked {s₀ : Sys} {moves : List (Move Sys Event)} (run : (storefront settings lib).Run s₀ moves s)
    {r : InventoryReservation} (member : r ∈ s.db.reservations.rows) (held : s.db.CheckingOut r.cart) : r.order = none := by
  have start (t : Sys) (opening : t.Opening) : t.ReservesForCart ∧ t.LinkedHolds := by
    refine ⟨fun i call at_i => ?_, fun r member => ?_⟩
    · rw [opening.calls i] at at_i
      cases at_i
    · simp [opening.reservations] at member
  have step (t : Sys) (e : Event) (t' : Sys) (inv : t.ReservesForCart ∧ t.LinkedHolds)
      (taken : shop settings lib t e = some t') : t'.ReservesForCart ∧ t'.LinkedHolds := by
    obtain ⟨_, stepped⟩ := shop_steps taken
    exact ⟨inv.1.step stepped, inv.2.step inv.1 taken⟩
  have linked : s.LinkedHolds := (run.invariant start step).2
  by_contra ordered
  obtain ⟨c, present, named, final⟩ := linked r member (Option.isSome_iff_ne_none.mpr ordered)
  obtain ⟨d, there, same, under⟩ := held
  rw [s.db.carts.eq_of_key there present (same.trans named.symm), final] at under
  cases under

end Holds

end Storefront
