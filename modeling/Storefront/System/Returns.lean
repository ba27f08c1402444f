import Storefront.System.Idempotency

set_option autoImplicit false

/-!
# Calls that have returned
-/

namespace Storefront

open Relational Transition

section Calls

variable {settings : Settings} {lib : WebhookLibrary} {s s' : Sys}

def Sys.ReturnsLinked (s : Sys) : Prop :=
  ∀ i req frame result, s.calls i = some ⟨req, .done frame (.ok result)⟩ → ∀ o ∈ frame.order, o.cart.isSome = true

theorem authorizeRaised_failed {placed : Placed} {payment : Option Payment} {e : Exn} {frame : Frame}
    {result : CheckoutResult} : authorizeRaised placed payment e ≠ .done frame (.ok result) := by
  unfold authorizeRaised
  split <;> simp

theorem advance_returns_linked {req : Request} {oracle : Oracle} {db db' : Db} {pc : Pc} {log : List GatewayCall}
    {sk : Skeleton} {frame : Frame} {result : CheckoutResult} (running : pc.ended = false) (stage : Stage sk req pc)
    (taken : advance settings req oracle db pc = (.done frame (.ok result), db', log)) :
    ∀ o ∈ frame.order, o.cart.isSome = true := by
  intro o mine
  cases pc with
  | find =>
    simp only [advance] at taken
    split at taken <;> cases taken
    cases mine
  | lock | validate _ | reserve _ | authorize _ _ =>
    simp only [advance] at taken
    split at taken <;> cases taken
  | create view reservations =>
    simp only [advance] at taken
    split at taken
    next order _ _ =>
      rcases afterOrder_cases ⟨view, reservations, order⟩ with ⟨e, ended⟩ | invoiced | card
      · rw [ended] at taken; cases taken
      · rw [invoiced] at taken; cases taken
      · rw [card] at taken; cases taken
    · cases taken
  | invoice placed =>
    simp only [advance] at taken
    split at taken <;> cases taken
  | convertInvoiced placed payment =>
    simp only [advance] at taken
    split at taken <;> cases taken
    obtain rfl := Option.some.inj mine
    rfl
  | resolve placed | insertPayment placed config =>
    simp only [advance] at taken
    split at taken
    · cases taken
    · exact absurd (Prod.mk.inj taken).1 authorizeRaised_failed
  | recordError placed payment e =>
    simp only [advance] at taken
    split at taken <;> exact absurd (Prod.mk.inj taken).1 authorizeRaised_failed
  | recordResult placed payment intent =>
    simp only [advance] at taken
    split at taken
    · split at taken
      · exact absurd (Prod.mk.inj taken).1 authorizeRaised_failed
      · cases taken
    · exact absurd (Prod.mk.inj taken).1 authorizeRaised_failed
  | convert placed payment =>
    simp only [advance] at taken
    split at taken
    · have ended := (Prod.mk.inj taken).1
      unfold afterConvert at ended
      split at ended
      · cases ended
      · split at ended <;> cases ended
        obtain rfl := Option.some.inj mine
        rfl
    · cases taken
  | captureRead placed payment | capture placed row | captureWrite placed row intent | paid placed payment =>
    have linked : placed.order.cart.isSome = true := stage.1
    simp only [advance] at taken
    split at taken <;> cases taken <;> exact Option.some.inj mine ▸ linked
  | undo todo cart frame e =>
    cases todo with
    | nil => cases taken
    | cons action rest =>
      simp only [advance] at taken
      split at taken <;> cases taken
  | done _ _ | crashed _ _ _ => cases running

theorem Sys.ReturnsLinked.step {l : Label} (linked : s.ReturnsLinked) (owned : s.Owned)
    (taken : step settings lib s l = some s') : s'.ReturnsLinked := by
  intro i req frame result at_i
  rcases step_calls taken at_i with same | ⟨_, fresh⟩ | ⟨oracle, pc, _, earlier, running, moved⟩
  · exact linked i req frame result same
  · cases fresh
  · exact advance_returns_linked running (owned.stage i _ earlier) (Prod.ext moved.symm rfl)

theorem Run.returns_linked {s₀ : Sys} {moves : List (Move Sys Label)} (run : (machine settings lib).Run s₀ moves s) :
    s.Owned ∧ s.ReturnsLinked := by
  have start (t : Sys) (initial : t.Initial) : t.Owned ∧ t.ReturnsLinked := by
    refine ⟨.start initial, fun i req frame result at_i => ?_⟩
    rw [initial.calls i] at at_i
    cases at_i
  have step (t : Sys) (l : Label) (t' : Sys) (inv : t.Owned ∧ t.ReturnsLinked)
      (taken : Storefront.step settings lib t l = some t') : t'.Owned ∧ t'.ReturnsLinked :=
    ⟨inv.1.step taken, inv.2.step inv.1 taken⟩
  exact run.invariant start step

theorem advance_reserves {req : Request} {oracle : Oracle} {db db' : Db} {pc pc' : Pc} {log : List GatewayCall}
    (taken : advance settings req oracle db pc = (pc', db', log)) :
    pc'.claim.reservations = pc.claim.reservations ∨ ∃ view, pc = .reserve view ∧
      reserveStock req.tenant oracle.now oracle.draw view db = .ok (pc'.claim.reservations, db') := by
  cases pc with
  | reserve view =>
    simp only [advance] at taken
    split at taken <;> cases taken
    next done => exact .inr ⟨view, rfl, guard_ok done⟩
    · exact .inl rfl
  | find | lock | validate _ | invoice _ | convertInvoiced _ _ | authorize _ _ | captureRead _ _ | capture _ _
  | captureWrite _ _ _ | paid _ _ =>
    simp only [advance] at taken
    split at taken <;> cases taken <;> exact .inl rfl
  | create view reservations =>
    simp only [advance] at taken
    split at taken <;> cases taken
    · rw [afterOrder_claim]
      exact .inl rfl
    · exact .inl rfl
  | resolve placed | insertPayment placed config =>
    simp only [advance] at taken
    split at taken <;> cases taken
    · exact .inl rfl
    · rw [authorizeRaised_claim]
      exact .inl rfl
  | recordError placed payment e =>
    simp only [advance] at taken
    split at taken <;> cases taken <;> rw [authorizeRaised_claim] <;> exact .inl rfl
  | recordResult placed payment intent =>
    simp only [advance] at taken
    split at taken
    · split at taken <;> cases taken
      · rw [authorizeRaised_claim]
        exact .inl rfl
      · exact .inl rfl
    · cases taken
      rw [authorizeRaised_claim]
      exact .inl rfl
  | convert placed payment =>
    simp only [advance] at taken
    split at taken <;> cases taken
    · rw [afterConvert_claim]
      exact .inl rfl
    · exact .inl rfl
  | undo todo cart frame e =>
    cases todo with
    | nil =>
      cases taken
      exact .inl rfl
    | cons action rest =>
      simp only [advance] at taken
      split at taken <;> cases taken <;> exact .inl rfl
  | done _ _ | crashed _ _ _ =>
    cases taken
    exact .inl rfl

theorem Run.reserves_fresh {s₀ t : Sys} {earlier moves : List (Move Sys Label)}
    (reached : (machine settings lib).Run s₀ earlier t) (run : (machine settings lib).Run s₀ (earlier ++ moves) s)
    {i : Nat} (idle : t.calls i = none) {call : Call} (at_i : s.calls i = some call) :
    ∀ r ∈ t.db.reservations.rows, r.id ∉ call.pc.claim.reservations := by
  let Fresh (s : Sys) : Prop := ∀ r ∈ t.db.reservations.rows, (∃ r' ∈ s.db.reservations.rows, r'.id = r.id) ∧
    ∀ call, s.calls i = some call → r.id ∉ call.pc.claim.reservations
  have begins : Fresh t := by
    refine fun r member => ⟨⟨r, member, rfl⟩, fun call at_i => ?_⟩
    cases idle.symm.trans at_i
  have keeps (moves : List (Move Sys Label)) (s : Sys) (l : Label) (s' : Sys) (_ : True) (fresh : Fresh s)
      (taken : Storefront.step settings lib s l = some s') : Fresh s' := by
    intro r member
    obtain ⟨⟨r', inside, named⟩, unlisted⟩ := fresh r member
    obtain ⟨r'', there, same, _⟩ := (step_change taken).shape.reaches inside
    refine ⟨⟨r'', there, same.trans named⟩, fun call at_i => ?_⟩
    rcases step_calls taken at_i with same | ⟨_, new⟩ | ⟨oracle, pc, rfl, before, _, moved⟩
    · exact unlisted call same
    · rw [new]
      exact List.not_mem_nil
    · rcases advance_reserves (Prod.ext moved.symm rfl) with kept | ⟨view, rfl, reserved⟩
      · exact kept ▸ unlisted _ before
      · intro listed
        obtain ⟨_, rows, _, _, ids⟩ := reserveStock_grows reserved
        rw [ids, List.map_map] at listed
        obtain ⟨new, made, named'⟩ := List.mem_map.mp listed
        have nodup :=
          (advance settings call.req { oracle with now := s.now } s.db (.reserve view)).2.1.reservations.keys_nodup
        rw [rows, List.map_append] at nodup
        have apart := (List.nodup_append.mp nodup).2.2 r'.id (List.mem_map_of_mem inside) new.id (List.mem_map_of_mem made)
        exact apart (named.trans named'.symm)
  have fresh := @Machine.Run.since _ _ (machine settings lib) (fun _ => True) (fun _ s => Fresh s) (fun _ _ => trivial)
    (fun _ _ _ _ _ => trivial) _ _ _ _ _ reached begins keeps run
  exact fun r member => (fresh r member).2 call at_i

/-- A call that has returned with an order of its own. -/
structure Sys.Returned (s : Sys) (i : Nat) (req : Request) (frame : Frame) (o : Order) : Prop where
  ended : ∃ result, s.calls i = some ⟨req, .done frame (.ok result)⟩
  mine : frame.order = some o

variable {i : Nat} {req : Request} {frame : Frame} {o : Order}

theorem Sys.Returned.step {l : Label} (returned : s.Returned i req frame o)
    (taken : Storefront.step settings lib s l = some s') : s'.Returned i req frame o := by
  obtain ⟨result, at_i⟩ := returned.ended
  rcases step_goes_on taken at_i with same | ⟨_, _, running, _⟩
  · exact ⟨⟨result, same⟩, returned.mine⟩
  · cases running

theorem Sys.Returned.row (returned : s.Returned i req frame o) (owned : s.Owned) :
    ∃ row ∈ s.db.orders.rows, row.core = o.core := by
  obtain ⟨result, at_i⟩ := returned.ended
  have claimed : (Pc.done frame (.ok result)).claim.order = some o.core := by
    simp [Pc.claim, Pc.frame, Frame.claim, returned.mine]
  exact List.mem_map.mp ((owned.registered i _ at_i).order_mem claimed)

theorem Sys.Returned.holds_iff (returned : s.Returned i req frame o) (owned : s.Owned) (linked : s.ReturnsLinked)
    {r : InventoryReservation} (inside : r ∈ s.db.reservations.rows) :
    r.order = some o.id ↔ r.id ∈ frame.reservations := by
  obtain ⟨result, at_i⟩ := returned.ended
  constructor
  · intro carries
    have mine : (Pc.done frame (.ok result)).claim.orderId = some o.id := by
      simp [Pc.claim, Pc.frame, Frame.claim, Claim.orderId, returned.mine, Order.core]
    exact (owned.hold_listed at_i inside carries mine).1
  · intro listed
    obtain ⟨cart, named⟩ := Option.isSome_iff_exists.mp (linked i req frame result at_i o returned.mine)
    have link : (Pc.done frame (.ok result)).claim.link = some o.id := by
      simp [Pc.claim, Pc.frame, Frame.claim, Claim.link, returned.mine, Order.core, named]
    exact (owned.listed_link at_i inside listed).2.trans link

theorem Sys.Returned.alone (returned : s.Returned i req frame o) (owned : s.Owned) {j : Nat} {call : Call}
    (at_j : s.calls j = some call) (claims : call.pc.claim.orderId = some o.id) : call.pc.ended = true := by
  obtain ⟨result, at_i⟩ := returned.ended
  by_cases same : i = j
  · subst same
    rw [← Option.some.inj (at_i.symm.trans at_j)]
    rfl
  · have mine : (Pc.done frame (.ok result)).claim.orderId = some o.id := by
      simp [Pc.claim, Pc.frame, Frame.claim, Claim.orderId, returned.mine, Order.core]
    exact absurd claims ((owned.apart i j _ _ at_i at_j same).orders o.id mine)

end Calls

end Storefront
