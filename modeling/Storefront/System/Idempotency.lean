import Storefront.Orders.CouponUse
import Storefront.System.PaidStock

set_option autoImplicit false

/-!
# One order and one charge for a key
-/

namespace Storefront

open Relational Transition

def Pc.rank : Pc → Nat
  | find | lock | validate _ | reserve _ | create .. | invoice _ | convertInvoiced .. | resolve _ | insertPayment .. => 0
  | authorize .. => 1
  | recordError .. | recordResult .. | convert .. | captureRead .. => 2
  | capture .. => 3
  | captureWrite .. | paid .. | undo .. | done .. | crashed .. => 4

def Pc.sends : Pc → Option GatewayCall
  | authorize _ payment => some ⟨.authorize, payment.idempotency_key⟩
  | capture _ row => some ⟨.capture, row.idempotency_key ++ ":capture"⟩
  | _ => none

namespace GatewayOperation

def rank : GatewayOperation → Nat
  | authorize => 1
  | capture => 3
  | refund => 0

def key (payment : PaymentCore) : GatewayOperation → String
  | capture => payment.idempotency_key ++ ":capture"
  | _ => payment.idempotency_key

theorem key_inj {operation : GatewayOperation} {p q : PaymentCore} (same : operation.key p = operation.key q) :
    p.idempotency_key = q.idempotency_key := by
  cases operation with
  | capture => exact (String.append_left_inj _).mp same
  | authorize | refund => exact same

end GatewayOperation

section Advance

variable {settings : Settings} {req : Request} {oracle : Oracle} {db db' : Db} {pc pc' : Pc} {log : List GatewayCall}

theorem advance_sends (taken : advance settings req oracle db pc = (pc', db', log)) : log = pc.sends.toList := by
  cases pc with
  | undo todo cart frame e =>
    cases todo with
    | nil =>
      cases taken
      rfl
    | cons action rest =>
      simp only [Storefront.advance] at taken
      split at taken <;> cases taken <;> rfl
  | recordResult placed payment intent =>
    simp only [Storefront.advance] at taken
    split at taken
    · split at taken <;> cases taken <;> rfl
    · cases taken
      rfl
  | done frame result | crashed todo frame e =>
    cases taken
    rfl
  | _ =>
    simp only [Storefront.advance] at taken
    split at taken <;> cases taken <;> rfl

theorem authorizeRaised_rank (placed : Placed) (payment : Option Payment) (e : Exn) :
    (authorizeRaised placed payment e).rank = 4 := by
  unfold authorizeRaised
  split <;> rfl

theorem afterConvert_rank (placed : Placed) (payment : Payment) : 2 ≤ (afterConvert placed payment).rank := by
  unfold afterConvert
  split
  · exact le_refl _
  · split <;> simp [Pc.rank]

theorem advance_rank (taken : advance settings req oracle db pc = (pc', db', log)) :
    pc.rank ≤ pc'.rank ∧ (pc.sends.isSome = true → pc.rank < pc'.rank) := by
  cases pc with
  | undo todo cart frame e =>
    cases todo with
    | nil =>
      cases taken
      exact ⟨le_refl _, fun sends => by cases sends⟩
    | cons action rest =>
      simp only [Storefront.advance] at taken
      split at taken <;> cases taken <;> exact ⟨le_refl _, fun sends => by cases sends⟩
  | recordResult placed payment intent =>
    simp only [Storefront.advance] at taken
    split at taken
    · split at taken <;> cases taken
      · exact ⟨by rw [authorizeRaised_rank]; simp [Pc.rank], fun sends => by cases sends⟩
      · exact ⟨le_refl _, fun sends => by cases sends⟩
    · cases taken
      exact ⟨by rw [authorizeRaised_rank]; simp [Pc.rank], fun sends => by cases sends⟩
  | convert placed payment =>
    simp only [Storefront.advance] at taken
    split at taken <;> cases taken
    · exact ⟨afterConvert_rank _ _, fun sends => by cases sends⟩
    · exact ⟨by simp [Pc.rank], fun sends => by cases sends⟩
  | authorize placed payment | capture placed row =>
    simp only [Storefront.advance] at taken
    split at taken <;> cases taken <;> simp [Pc.rank, capturePending]
  | done frame result | crashed todo frame e =>
    cases taken
    exact ⟨le_refl _, fun sends => by cases sends⟩
  | recordError placed payment e =>
    simp only [Storefront.advance] at taken
    split at taken <;> cases taken <;>
      exact ⟨by rw [authorizeRaised_rank]; simp [Pc.rank], fun sends => by cases sends⟩
  | captureRead | captureWrite | paid =>
    simp only [Storefront.advance] at taken
    split at taken <;> cases taken <;> simp [Pc.rank, Pc.sends, capturePending]
  | _ => exact ⟨Nat.zero_le _, fun sends => by cases sends⟩

theorem advance_order {id : Id} (taken : advance settings req oracle db pc = (pc', db', log))
    (mine : pc.claim.orderId = some id) : pc'.claim.orderId = some id := by
  cases pc with
  | find | lock | validate _ | reserve _ | create _ _ => cases mine
  | resolve placed | insertPayment placed config =>
    simp only [Storefront.advance] at taken
    split at taken <;> cases taken
    · exact mine
    · rw [authorizeRaised_claim]
      exact mine
  | recordError placed payment e =>
    simp only [Storefront.advance] at taken
    split at taken <;> cases taken <;> rw [authorizeRaised_claim] <;> exact mine
  | recordResult placed payment intent =>
    simp only [Storefront.advance] at taken
    split at taken
    · split at taken <;> cases taken
      · rw [authorizeRaised_claim]
        exact mine
      · exact mine
    · cases taken
      rw [authorizeRaised_claim]
      exact mine
  | convert placed payment =>
    simp only [Storefront.advance] at taken
    split at taken <;> cases taken
    · rw [afterConvert_claim]
      exact mine
    · exact mine
  | undo todo cart frame e =>
    cases todo with
    | nil =>
      cases taken
      exact mine
    | cons action rest =>
      simp only [Storefront.advance] at taken
      split at taken <;> cases taken <;> exact mine
  | done frame result | crashed todo frame e =>
    cases taken
    exact mine
  | _ =>
    simp only [Storefront.advance] at taken
    split at taken <;> cases taken <;> exact mine

end Advance

section Sends

variable {settings : Settings} {lib : WebhookLibrary} {s s' : Sys} {l : Label}

theorem step_advanced {i : Nat} {oracle : Oracle} {req : Request} {pc : Pc}
    (taken : step settings lib s (.advance i oracle) = some s') (at_i : s.calls i = some ⟨req, pc⟩) :
    pc.ended = false ∧ s'.calls i = some ⟨req, (advance settings req { oracle with now := s.now } s.db pc).1⟩ := by
  simp only [step, at_i] at taken
  split at taken
  · cases taken
  next running =>
    cases taken
    exact ⟨by simpa using running, by simp [Sys.setCall]⟩

theorem step_goes_on (taken : step settings lib s l = some s') {i : Nat} {req : Request} {pc : Pc}
    (at_i : s.calls i = some ⟨req, pc⟩) : s'.calls i = some ⟨req, pc⟩ ∨ ∃ oracle, l = .advance i oracle ∧
      pc.ended = false ∧ s'.calls i = some ⟨req, (advance settings req { oracle with now := s.now } s.db pc).1⟩ := by
  cases l with
  | begin j req' =>
    simp only [step] at taken
    split at taken
    next free =>
      cases taken
      have other : i ≠ j := by
        rintro rfl
        cases at_i.symm.trans free
      exact .inl (by simpa [Sys.setCall, other] using at_i)
    · cases taken
  | advance j oracle =>
    by_cases same : i = j
    · subst same
      exact .inr ⟨oracle, rfl, step_advanced taken at_i⟩
    · simp only [step] at taken
      split at taken
      · cases taken
      · split at taken <;> cases taken
        exact .inl (by simpa [Sys.setCall, same, Sys.withDb] using at_i)
  | createProduct | patchProduct | deactivateProduct | cancelOrder =>
    exact .inl ((commits_logs taken).2.2.2.1 ▸ at_i)
  | tick | shop | sweep => cases taken; exact .inl at_i
  | process | reconcile | expire | markPaidWrite =>
    simp only [step] at taken
    split at taken
    · exact .inl ((commits_logs taken).2.2.2.1 ▸ at_i)
    · cases taken
  | _ =>
    simp only [step] at taken
    split at taken <;> cases taken
    exact .inl at_i

theorem step_sends (taken : step settings lib s l = some s') :
    ∃ sent, s'.gatewayLog = s.gatewayLog ++ sent ∧ ((∀ call ∈ sent, call.operation = .refund) ∨
      ∃ i oracle req pc, l = .advance i oracle ∧ s.calls i = some ⟨req, pc⟩ ∧ sent = pc.sends.toList) := by
  have quiet (same : s'.gatewayLog = s.gatewayLog) :
      ∃ sent, s'.gatewayLog = s.gatewayLog ++ sent ∧ ((∀ call ∈ sent, call.operation = .refund) ∨
        ∃ i oracle req pc, l = .advance i oracle ∧ s.calls i = some ⟨req, pc⟩ ∧ sent = pc.sends.toList) :=
    ⟨[], by rw [same, List.append_nil], .inl (by simp)⟩
  cases l with
  | advance i oracle =>
    simp only [step] at taken
    split at taken
    · cases taken
    next call at_i =>
      split at taken
      · cases taken
      · cases taken
        exact ⟨_, rfl, .inr ⟨i, oracle, call.req, call.pc, rfl, at_i, advance_sends rfl⟩⟩
  | refundCall k answer =>
    simp only [step] at taken
    split at taken
    · cases taken
      exact ⟨_, rfl, .inl (by simp)⟩
    · cases taken
  | createProduct | patchProduct | deactivateProduct | cancelOrder => exact quiet (commits_logs taken).2.2.2.2
  | tick | shop | sweep => cases taken; exact quiet rfl
  | process | reconcile | expire | markPaidWrite =>
    simp only [step] at taken
    split at taken
    · exact quiet (commits_logs taken).2.2.2.2
    · cases taken
  | _ =>
    simp only [step] at taken
    split at taken <;> cases taken
    exact quiet rfl

def Sys.SentBy (s : Sys) (operation : GatewayOperation) (key : String) : Prop :=
  ∃ i call p, s.calls i = some call ∧ call.pc.claim.payment = some p ∧ operation.key p = key ∧
    operation.rank < call.pc.rank

def Sys.SendsOnce (s : Sys) : Prop :=
  ∀ call : GatewayCall, call.operation ≠ .refund → s.gatewayLog.count call ≤ 1 ∧
    (call ∈ s.gatewayLog → s.SentBy call.operation call.idempotency_key)

theorem Pc.sends_eq_some {pc : Pc} {call : GatewayCall} (sends : pc.sends = some call) :
    ∃ p, pc.claim.payment = some p ∧ call = ⟨call.operation, call.operation.key p⟩ ∧
      pc.rank = call.operation.rank := by
  cases pc <;> cases sends <;> exact ⟨_, rfl, rfl, rfl⟩

theorem Sys.Owned.claims_kept (owned : s.Owned) (taken : Storefront.step settings lib s l = some s') {i : Nat}
    {call : Call} (at_i : s.calls i = some call) : ∃ call', s'.calls i = some call' ∧ call.pc.rank ≤ call'.pc.rank ∧
      ∀ p, call.pc.claim.payment = some p → call'.pc.claim.payment = some p := by
  obtain ⟨req, pc⟩ := call
  rcases step_goes_on taken at_i with same | ⟨oracle, at_l, _, moved⟩
  · exact ⟨_, same, le_refl _, fun p mine => mine⟩
  · refine ⟨_, moved, (advance_rank rfl).1, fun p mine => ?_⟩
    have registered := owned.registered i _ at_i
    have billed := (registered.billed p mine).2
    have known : p ∈ s'.db.skeleton.payments := (step_change taken).payments (registered.payment_mem mine)
    exact (owned.step taken).payment_of_order moved known (advance_order rfl billed)

theorem Sys.SendsOnce.start (initial : s.Initial) : s.SendsOnce := by
  intro call _
  simp [initial.gatewayLog]

theorem Sys.Owned.sender (owned : s.Owned) {i j : Nat} {c d : Call} (at_i : s.calls i = some c)
    (at_j : s.calls j = some d) {p q : PaymentCore} (mine : c.pc.claim.payment = some p)
    (theirs : d.pc.claim.payment = some q) (same : p.idempotency_key = q.idempotency_key) : i = j := by
  have left := owned.registered i c at_i
  have right := owned.registered j d at_j
  obtain ⟨row, inside, rfl⟩ := List.mem_map.mp (left.payment_mem mine)
  obtain ⟨row', inside', rfl⟩ := List.mem_map.mp (right.payment_mem theirs)
  have keyed (p : Payment) : IndexEntry.text p.idempotency_key ∈ Schema.entries p := by simp [Schema.entries]
  have entry : IndexEntry.text row.idempotency_key = IndexEntry.text row'.idempotency_key :=
    congrArg IndexEntry.text same
  obtain rfl := s.db.payments.eq_of_entry inside inside' (keyed row) (entry ▸ keyed row')
  by_contra other
  exact (owned.apart i j c d at_i at_j other).orders _ (left.billed _ mine).2 (right.billed _ theirs).2

theorem Sys.SendsOnce.step (once : s.SendsOnce) (owned : s.Owned) (taken : Storefront.step settings lib s l = some s') :
    s'.SendsOnce := by
  have kept {operation : GatewayOperation} {key : String} (sent : s.SentBy operation key) :
      s'.SentBy operation key := by
    obtain ⟨i, call, p, at_i, mine, named, passed⟩ := sent
    obtain ⟨call', at_i', further, claims⟩ := owned.claims_kept taken at_i
    exact ⟨i, call', p, at_i', claims p mine, named, by omega⟩
  obtain ⟨sent, log, refunds | ⟨i, oracle, req, pc, rfl, at_i, rfl⟩⟩ := step_sends taken
  · intro call other
    have absent : call ∉ sent := fun member => other (refunds call member)
    rw [log, List.count_append, List.count_eq_zero.mpr absent, List.mem_append]
    refine ⟨(once call other).1, fun member => kept ((once call other).2 ?_)⟩
    exact member.resolve_right absent
  · intro call other
    rw [log, List.count_append, List.mem_append]
    cases sends : pc.sends with
    | none => exact ⟨by simpa using (once call other).1, fun member => kept ((once call other).2 (by simpa using member))⟩
    | some now =>
      by_cases same : now = call
      · subst same
        obtain ⟨p, mine, stamp, rank⟩ := Pc.sends_eq_some sends
        -- The key was not sent before: its call would have gone on.
        have fresh : now ∉ s.gatewayLog := by
          intro before
          obtain ⟨j, earlier, q, at_j, theirs, named, passed⟩ := (once now other).2 before
          have key : now.operation.key p = now.idempotency_key := (congrArg GatewayCall.idempotency_key stamp).symm
          obtain rfl := owned.sender at_i at_j mine theirs (GatewayOperation.key_inj (key.trans named.symm))
          obtain rfl := Option.some.inj (at_i.symm.trans at_j)
          exact absurd passed (by rw [← rank]; exact lt_irrefl _)
        refine ⟨by simp [List.count_eq_zero.mpr fresh], fun _ => ?_⟩
        obtain ⟨call', at_i', _, claims⟩ := owned.claims_kept taken at_i
        obtain rfl := Option.some.inj (at_i'.symm.trans (step_advanced taken at_i).2)
        have further : pc.rank < (advance settings req { oracle with now := s.now } s.db pc).1.rank :=
          (advance_rank rfl).2 (by rw [sends]; rfl)
        exact ⟨i, _, p, at_i', claims p mine, (congrArg GatewayCall.idempotency_key stamp).symm, rank ▸ further⟩
      · have absent : call ∉ (some now).toList := by simpa using Ne.symm same
        rw [List.count_eq_zero.mpr absent]
        exact ⟨(once call other).1, fun member => kept ((once call other).2 (member.resolve_right absent))⟩

end Sends

theorem Shape.reaches {s : Sys} {l : Label} {db' : Db} (shape : Shape s l db') {r : InventoryReservation}
    (member : r ∈ s.db.reservations.rows) :
    ∃ r' ∈ db'.reservations.rows, r'.id = r.id ∧ r'.product = r.product ∧ r'.quantity = r.quantity ∧
      r.status.Reaches r'.status := by
  cases shape with
  | touched touch =>
    obtain ⟨r', inside, core, status⟩ := touch.hold member
    exact ⟨r', inside, congrArg HoldCore.id core, congrArg HoldCore.product core, congrArg HoldCore.quantity core,
      status ▸ touch.reaches r member⟩
  | stocked new orders items payments rows =>
    exact ⟨r, rows ▸ List.mem_append_left _ member, rfl, rfl, rfl, .inl rfl⟩
  | ordered i oracle order items at_l rows status payments reservations =>
    exact ⟨r, reservations ▸ member, rfl, rfl, rfl, .inl rfl⟩
  | billed i oracle req pc placed row at_l at_i bills named rows orders reservations =>
    exact ⟨r, reservations ▸ member, rfl, rfl, rfl, .inl rfl⟩
  | linked i oracle req pc placed h at_l at_i converts links =>
    have image : (if placed.reservations.contains r.core.id then { r.core with order := some placed.order.id }
        else r.core, h r) ∈ db'.reservations.rows.map fun r => (r.core, r.status) :=
      links.holds ▸ List.mem_map_of_mem member
    obtain ⟨r', inside, same⟩ := List.mem_map.mp image
    obtain ⟨core, status⟩ := Prod.mk.inj same
    refine ⟨r', inside, ?_, ?_, ?_, ?_⟩
    · exact (congrArg HoldCore.id core).trans (by split <;> rfl)
    · exact (congrArg HoldCore.product core).trans (by split <;> rfl)
    · exact (congrArg HoldCore.quantity core).trans (by split <;> rfl)
    · rw [status]
      cases converts with
      | card payment => exact .inl rfl
      | invoice payment =>
        unfold settledStatus
        split
        next picked =>
          simp only [Bool.and_eq_true, beq_iff_eq] at picked
          rw [picked.2]
          exact .inr (by decide)
        · exact .inl rfl

section Losers

variable {settings : Settings} {lib : WebhookLibrary} {s s' : Sys} {l : Label}

def Pc.releases : Pc → Bool
  | create .. => true
  | undo todo _ _ _ | crashed todo _ _ => todo.contains .releaseReservations
  | _ => false

def Sys.GivesBack (s : Sys) : Prop :=
  ∀ i call, s.calls i = some call → call.pc.claim.order = none → call.pc.releases = false →
    ∀ r ∈ s.db.reservations.rows, r.id ∈ call.pc.claim.reservations → r.status ≠ .active

def Sys.Loose (s : Sys) : Prop := ∀ r ∈ s.db.reservations.rows, r.order = none → r.status ≠ .committed

def Sys.Counted (s : Sys) : Prop := ∀ r ∈ s.db.reservations.rows, 0 ≤ r.quantity

def Sys.Reverting (s : Sys) : Prop :=
  ∀ i req todo cart frame e, s.calls i = some ⟨req, .undo todo cart frame e⟩ → frame.order = none →
    todo <:+ undoReserved

section Advance

variable {req : Request} {oracle : Oracle} {db db' : Db} {pc pc' : Pc} {log : List GatewayCall}

theorem advance_unordered (taken : advance settings req oracle db pc = (pc', db', log))
    (unordered : pc'.claim.order = none) : pc.claim.order = none := by
  cases mine : pc.claim.order with
  | none => rfl
  | some o =>
    have kept := advance_order taken (show pc.claim.orderId = some o.id by rw [Claim.orderId, mine]; rfl)
    rw [Claim.orderId, unordered] at kept
    cases kept

theorem advance_uncounted (taken : advance settings req oracle db pc = (pc', db', log))
    (unordered : pc'.claim.order = none) : db'.coupons = db.coupons := by
  have before := advance_unordered taken unordered
  cases pc with
  | find | validate _ =>
    simp only [Storefront.advance] at taken
    split at taken <;> cases taken <;> rfl
  | lock =>
    simp only [Storefront.advance] at taken
    split at taken
    next view last done =>
      cases taken
      rw [(lockCart_taken (guard_ok done)).2]
    · cases taken
      rfl
  | reserve view =>
    simp only [Storefront.advance] at taken
    split at taken
    next done =>
      cases taken
      rw [(reserveStock_reserved (guard_ok done)).1.frame]
    · cases taken
      rfl
  | create view reservations =>
    simp only [Storefront.advance] at taken
    split at taken
    · cases taken
      rw [afterOrder_claim] at unordered
      cases unordered
    · cases taken
      rfl
  | undo todo cart frame e =>
    cases todo with
    | nil =>
      cases taken
      rfl
    | cons action rest =>
      simp only [Storefront.advance] at taken
      split at taken
      next last done =>
        cases taken
        exact undo_coupons (guard_ok done)
      · cases taken
        rfl
  | done frame result | crashed todo frame e =>
    cases taken
    rfl
  | _ => cases before

/-- How a call without an order comes to its reservations, and to have nothing left to release. -/
theorem advance_settles (taken : advance settings req oracle db pc = (pc', db', log))
    (unordered : pc'.claim.order = none) (settled : pc'.releases = false) :
    pc'.claim.reservations = [] ∨ (pc'.claim.reservations = pc.claim.reservations ∧ (pc.releases = false ∨
      (releaseReservations req.tenant pc.claim.reservations db = .ok db'))) := by
  have before := advance_unordered taken unordered
  cases pc with
  | find | lock | validate _ =>
    simp only [Storefront.advance] at taken
    split at taken <;> cases taken <;> exact .inl rfl
  | reserve view =>
    simp only [Storefront.advance] at taken
    split at taken <;> cases taken
    · cases settled
    · exact .inl rfl
  | create view reservations =>
    simp only [Storefront.advance] at taken
    split at taken <;> cases taken
    · rw [afterOrder_claim] at unordered
      cases unordered
    · cases settled
  | undo todo cart frame e =>
    cases todo with
    | nil =>
      cases taken
      exact .inr ⟨rfl, .inl rfl⟩
    | cons action rest =>
      simp only [Storefront.advance] at taken
      split at taken <;> cases taken
      next done =>
        refine .inr ⟨rfl, ?_⟩
        cases action with
        | releaseReservations => exact .inr (guard_ok done)
        | cancelOrder | revertCart => exact .inl (by simpa [Pc.releases] using settled)
      · exact .inr ⟨rfl, .inl settled⟩
  | done frame result | crashed todo frame e =>
    cases taken
    exact .inr ⟨rfl, .inl settled⟩
  | _ => cases before

theorem advance_reverting {todo : List Undo} {cart : Id} {frame : Frame} {e : Exn}
    (taken : advance settings req oracle db pc = (.undo todo cart frame e, db', log)) (unordered : frame.order = none) :
    todo <:+ undoReserved ∨ ∃ action, pc = .undo (action :: todo) cart frame e := by
  have before : pc.claim.order = none := advance_unordered taken (by
    simp [Pc.claim, Pc.frame, Frame.claim, unordered])
  cases pc with
  | validate _ | reserve _ =>
    simp only [Storefront.advance] at taken
    split at taken <;> cases taken
    exact .inl ⟨[.releaseReservations], rfl⟩
  | create view reservations =>
    simp only [Storefront.advance] at taken
    split at taken
    · exact absurd (Prod.mk.inj taken).1 afterOrder_undo
    · cases taken
      exact .inl (List.suffix_refl _)
  | undo todo' cart' frame' e' =>
    cases todo' with
    | nil => cases taken
    | cons action rest =>
      simp only [Storefront.advance] at taken
      split at taken <;> cases taken
      exact .inr ⟨action, rfl⟩
  | find | lock =>
    simp only [Storefront.advance] at taken
    split at taken <;> cases taken
  | done frame result | crashed todo frame e => cases taken
  | _ => cases before

end Advance

theorem Sys.Counted.step (counted : s.Counted) (taken : Storefront.step settings lib s l = some s') : s'.Counted := by
  intro r' member
  have old {r : InventoryReservation} (inside : r ∈ s.db.reservations.rows) (same : r'.quantity = r.quantity) :
      0 ≤ r'.quantity := same ▸ counted r inside
  cases (step_change taken).shape with
  | touched touch =>
    obtain ⟨r, inside, core, _⟩ := touch.hold_of member
    exact old inside (congrArg HoldCore.quantity core)
  | stocked new orders items payments rows opened =>
    rw [rows] at member
    rcases List.mem_append.mp member with earlier | fresh
    · exact counted r' earlier
    · exact (opened r' fresh).2.2
  | ordered i oracle order items at_l rows status payments reservations => exact counted r' (reservations ▸ member)
  | billed i oracle req pc placed row at_l at_i bills named rows orders reservations =>
    exact counted r' (reservations ▸ member)
  | linked i oracle req pc placed h at_l at_i converts links =>
    obtain ⟨r, inside, _, core⟩ := links.hold_of member
    exact old inside ((congrArg HoldCore.quantity core).trans (by split <;> rfl))

theorem heldStatus_cases (t : Settlement) (tenant : Id) (o : Order) (r : InventoryReservation) :
    heldStatus t tenant o r = r.status ∨
      heldStatus t tenant o r = t.becomes ∧ o.status = .pending ∧ r.order = some o.id := by
  unfold heldStatus settledStatus
  split
  next pending =>
    split
    next picked =>
      simp only [ofOrder, Bool.and_eq_true, beq_iff_eq] at picked
      exact .inr ⟨rfl, pending, picked.1.2⟩
    · exact .inl rfl
  · exact .inl rfl

theorem Sys.Owned.listed_link (owned : s.Owned) {i : Nat} {call : Call} (at_i : s.calls i = some call)
    {r : InventoryReservation} (inside : r ∈ s.db.reservations.rows) (listed : r.id ∈ call.pc.claim.reservations) :
    r.tenant = call.req.tenant ∧ r.order = call.pc.claim.link := by
  obtain ⟨h, known, named, tenant, order⟩ := (owned.registered i _ at_i).hold_mem listed
  obtain ⟨q, stored, rfl⟩ := List.mem_map.mp known
  obtain rfl := s.db.reservations.eq_of_key stored inside named
  exact ⟨tenant, order⟩

theorem Sys.Owned.unlinked_before (owned : s.Owned) {i : Nat} {req : Request} {pc : Pc} {placed : Placed}
    {h : InventoryReservation → ReservationStatus} (at_i : s.calls i = some ⟨req, pc⟩) (converts : Converts placed pc h)
    {r : InventoryReservation} (inside : r ∈ s.db.reservations.rows) (listed : r.id ∈ placed.reservations) :
    r.order = none := by
  have stage := owned.stage i _ at_i
  cases converts with
  | card payment | invoice payment =>
    have unlinked : placed.order.cart = none := stage.1
    rw [(owned.listed_link at_i inside listed).2]
    simp [Pc.claim, Pc.frame, Placed.frame, Frame.claim, Claim.link, Order.core, unlinked]

theorem Sys.Owned.linked_before (owned : s.Owned) {i : Nat} {req : Request} {placed : Placed} {payment : Payment}
    (at_i : s.calls i = some ⟨req, .paid placed payment⟩) {r : InventoryReservation}
    (inside : r ∈ s.db.reservations.rows) (listed : r.id ∈ placed.reservations) : r.order = some placed.order.id := by
  obtain ⟨cart, linked⟩ := Option.isSome_iff_exists.mp (owned.stage i _ at_i).1
  rw [(owned.listed_link at_i inside listed).2]
  simp [Pc.claim, Pc.frame, Placed.frame, Frame.claim, Claim.link, Order.core, linked]

inductive Commitment (s : Sys) (db' : Db) (r' : InventoryReservation) : Prop
  | earlier (r : InventoryReservation) (inside : r ∈ s.db.reservations.rows) (status : r.status = .committed)
      (order : r.order = r'.order ∨ r.order = none)
  | paid (id : Id) (linked : r'.order = some id) (paid : db'.orderStatus id = some .paid)
  | invoiced (i : Nat) (req : Request) (placed : Placed) (payment : Payment)
      (at_i : s.calls i = some ⟨req, .convertInvoiced placed payment⟩) (linked : r'.order = some placed.order.id)
      (payments : db'.payments = s.db.payments)

theorem Change.commits {db' : Db} (change : Change lib s l db') (owned : s.Owned) {r' : InventoryReservation}
    (member : r' ∈ db'.reservations.rows) (committed : r'.status = .committed) : Commitment s db' r' := by
  have same (unchanged : db'.reservations = s.db.reservations) : Commitment s db' r' :=
    .earlier r' (unchanged ▸ member) committed (.inl rfl)
  have touched {f : Order → OrderStatus} {g : Payment → PaymentStatus} {h : InventoryReservation → ReservationStatus}
      (touch : Touch s.db db' f g h) (only : ∀ r ∈ s.db.reservations.rows, h r = r.status ∨ h r = .released ∨
        ∃ o ∈ s.db.orders.rows, r.order = some o.id ∧ f o = .paid) : Commitment s db' r' := by
    obtain ⟨r, inside, core, status⟩ := touch.hold_of member
    have order : r'.order = r.order := congrArg HoldCore.order core
    rcases only r inside with kept | given | ⟨o, present, linked, paid⟩
    · exact .earlier r inside (kept.symm.trans (status.symm.trans committed)) (.inl order.symm)
    · cases given.symm.trans (status.symm.trans committed)
    · exact .paid o.id (order.trans linked) (paid ▸ touch.orderStatus present)
  cases change with
  | frees frees =>
    obtain ⟨_, touch, only⟩ := frees
    exact touched touch fun r inside => (only r inside).imp_right .inl
  | stocked new orders items payments rows opened =>
    rw [rows] at member
    rcases List.mem_append.mp member with old | fresh
    · exact .earlier r' old committed (.inl rfl)
    · rw [(opened r' fresh).1] at committed
      cases committed
  | ordered i oracle order items rows status unlinked lines mine payments reservations => exact same reservations
  | billed i oracle req pc placed row at_i bills named rows orders items reservations => exact same reservations
  | linked i oracle req pc placed h at_i converts links =>
    obtain ⟨r, inside, status, core⟩ := links.hold_of member
    have order : r.order = r'.order ∨ r.order = none := by
      by_cases listed : r.id ∈ placed.reservations
      · exact .inr (owned.unlinked_before at_i converts inside listed)
      · rw [if_neg (by simpa using listed)] at core
        exact .inl (congrArg HoldCore.order core).symm
    cases converts with
    | card payment => exact .earlier r inside (status.symm.trans committed) order
    | invoice payment =>
      rw [status, settledStatus] at committed
      split at committed
      next picked =>
        simp only [Bool.and_eq_true, List.contains_iff_mem] at picked
        rw [if_pos (by simpa using picked.1)] at core
        exact .invoiced i req placed payment at_i (congrArg HoldCore.order core) links.payments
      · exact .earlier r inside committed order
  | recorded i oracle req placed payment intent at_i done =>
    exact touched (recordPaymentResult_touch (guard_ok done)) fun _ _ => .inl rfl
  | captured => exact touched (captureWrite_touch _ _ _ _) fun _ _ => .inl rfl
  | paid i oracle req placed payment at_i done =>
    obtain ⟨⟨o, present, own, _⟩, _⟩ := markCaptured_eq_ok.mp (guard_ok done)
    refine touched (markCaptured_touch (guard_ok done)) fun r inside => ?_
    unfold settledStatus
    split
    next picked =>
      simp only [Bool.and_eq_true, List.contains_iff_mem] at picked
      have linked := owned.linked_before at_i inside picked.1
      exact .inr (.inr ⟨o, present, linked.trans (congrArg some own.symm), if_pos own⟩)
    · exact .inl rfl
  | cancelledOwn i oracle req rest cart frame e order at_i mine done =>
    exact touched (cancelOwnOrder_touch (guard_ok done)) fun _ _ => .inl rfl
  | cancelled tenant customer order done =>
    rcases cancelOrder_touch done with unchanged | ⟨_, _, _, _, _, _, touch, only⟩
    · exact same (congrArg Db.reservations unchanged)
    · exact touched touch fun r inside => (only r inside).imp_right .inl
  | applied k task queued done =>
    obtain ⟨_, _, _, _, o, present, _, _, touch⟩ := applyWebhookEvent_touch done
    refine touched touch fun r _ => ?_
    unfold eventHeld
    split
    next captured =>
      rcases heldStatus_cases .commit task.tenant o r with kept | ⟨_, pending, linked⟩
      · exact .inl kept
      · refine .inr (.inr ⟨o, present, linked, ?_⟩)
        simp [OrderStatus.at, eventTarget_captured captured, OrderStatus.pay, pending]
    · split
      · exact (heldStatus_cases .release task.tenant o r).imp_right fun given => .inl given.1
      · exact .inl rfl
  | reconciled payment answer outcome done =>
    rcases reconcileOne_touch done with ⟨unchanged, _⟩ | ⟨_, _, _, _, _, _, _, ⟨_, _, _, touch⟩ | ⟨o, present, _, touch⟩⟩
    · exact same (congrArg Db.reservations unchanged)
    · exact touched touch fun _ _ => .inl rfl
    · refine touched touch fun r _ => ?_
      unfold reconcileHeld
      split
      next captured =>
        rcases heldStatus_cases .commit _ o r with kept | ⟨_, pending, linked⟩
        · exact .inl kept
        · refine .inr (.inr ⟨o, present, linked, ?_⟩)
          simp [OrderStatus.at, reconcileTarget, captured, OrderStatus.pay, pending]
      · split
        · exact (heldStatus_cases .release _ o r).imp_right fun given => .inl given.1
        · exact .inl rfl
  | marked k mark listed done =>
    obtain ⟨_, _, _, _, _, _, _, _, touch⟩ := markPaidWrite_touch done
    exact touched touch fun _ _ => .inl rfl
  | refunded => exact touched (refundWrite_touch _ _ _ _) fun _ _ => .inl rfl

theorem Sys.Loose.step (loose : s.Loose) (owned : s.Owned) (taken : Storefront.step settings lib s l = some s') :
    s'.Loose := by
  intro r' member unlinked committed
  cases (step_change taken).commits owned member committed with
  | earlier r inside status order =>
    rcases order with same | free
    · exact loose r inside (same.trans unlinked) status
    · exact loose r inside free status
  | paid id linked => cases unlinked.symm.trans linked
  | invoiced i req placed payment at_i linked => cases unlinked.symm.trans linked

theorem Sys.Reverting.step (reverting : s.Reverting) (taken : Storefront.step settings lib s l = some s') :
    s'.Reverting := by
  intro i req todo cart frame e at_i unordered
  rcases step_calls taken at_i with same | ⟨_, fresh⟩ | ⟨oracle, pc, _, earlier, _, moved⟩
  · exact reverting i req todo cart frame e same unordered
  · cases fresh
  · rcases advance_reverting (Prod.ext moved.symm rfl) unordered with started | ⟨action, rfl⟩
    · exact started
    · exact (List.suffix_cons _ _).trans (reverting i _ _ cart frame e earlier unordered)

theorem Sys.Owned.listed_before (owned : s.Owned) (taken : Storefront.step settings lib s l = some s') {i : Nat}
    {call : Call} (at_i : s.calls i = some call) {r' : InventoryReservation} (member : r' ∈ s'.db.reservations.rows)
    (listed : r'.id ∈ call.pc.claim.reservations) :
    ∃ r ∈ s.db.reservations.rows, r.id = r'.id ∧ r.product = r'.product ∧ r.status.Reaches r'.status := by
  obtain ⟨h, known, named, _⟩ := (owned.registered i call at_i).hold_mem listed
  obtain ⟨r, inside, rfl⟩ := List.mem_map.mp known
  obtain ⟨r'', there, same, product, _, reaches⟩ := (step_change taken).shape.reaches inside
  obtain rfl := s'.db.reservations.eq_of_key there member (same.trans named)
  exact ⟨r, inside, named, product.symm, reaches⟩

theorem ReservationStatus.Reaches.inactive {a b : ReservationStatus} (reaches : a.Reaches b) (other : a ≠ .active) :
    b ≠ .active := by
  rcases reaches with rfl | follows
  · exact other
  · revert follows
    cases a <;> cases b <;> decide

theorem Sys.GivesBack.step (gives : s.GivesBack) (owned : s.Owned)
    (taken : Storefront.step settings lib s l = some s') : s'.GivesBack := by
  intro i call at_i unordered settled r' member listed
  rcases step_calls taken at_i with same | ⟨_, fresh⟩ | ⟨oracle, pc, rfl, earlier, _, moved⟩
  · obtain ⟨r, inside, named, _, reaches⟩ := owned.listed_before taken same member listed
    exact reaches.inactive (gives i call same unordered settled r inside (named ▸ listed))
  · rw [fresh] at listed
    cases listed
  · have out := step_advance taken earlier
    rcases advance_settles (Prod.ext moved.symm rfl) unordered settled with empty | ⟨same, before | released⟩
    · rw [empty] at listed
      cases listed
    · rw [same] at listed
      obtain ⟨r, inside, named, _, reaches⟩ := owned.listed_before taken earlier member listed
      have unordered' := advance_unordered (Prod.ext moved.symm rfl) unordered
      exact reaches.inactive (gives i _ earlier unordered' before r inside (named ▸ listed))
    · -- The release has just run.
      rw [out] at member
      obtain ⟨r, inside, core, status⟩ := (settleReservations_touch released).hold_of member
      have named : r'.id = r.id := congrArg HoldCore.id core
      rw [same, named] at listed
      rw [status]
      cases was : r.status <;> simp [settledStatus, Settlement.release, listed, was]

theorem Sys.Owned.releases (owned : s.Owned) (counted : s.Counted) {i : Nat} {req : Request} {pc : Pc}
    (at_i : s.calls i = some ⟨req, pc⟩) :
    ∃ db', releaseReservations req.tenant pc.claim.reservations s.db = .ok db' := by
  refine releaseReservations_succeeds fun id listed => ?_
  obtain ⟨h, known, named, tenant, _⟩ := (owned.registered i _ at_i).hold_mem listed
  obtain ⟨r, inside, rfl⟩ := List.mem_map.mp known
  exact ⟨r, inside, named, tenant, counted r inside⟩

structure Sys.Undoable (s : Sys) : Prop where
  owned : s.Owned
  once : s.SendsOnce
  loose : s.Loose
  gives : s.GivesBack
  counted : s.Counted
  reverting : s.Reverting

theorem Sys.Undoable.start (initial : s.Initial) : s.Undoable where
  owned := .start initial
  once := .start initial
  loose := by simp [Sys.Loose, initial.reservations]
  gives := by simp [Sys.GivesBack, initial.calls]
  counted := by simp [Sys.Counted, initial.reservations]
  reverting := by simp [Sys.Reverting, initial.calls]

theorem Sys.Undoable.step (inv : s.Undoable) (taken : Storefront.step settings lib s l = some s') : s'.Undoable where
  owned := inv.owned.step taken
  once := inv.once.step inv.owned taken
  loose := inv.loose.step inv.owned taken
  gives := inv.gives.step inv.owned taken
  counted := inv.counted.step taken
  reverting := inv.reverting.step taken

end Losers

section History

variable {settings : Settings} {lib : WebhookLibrary} {s₀ s : Sys} {moves : List (Move Sys Label)}

theorem Run.undoable (run : (machine settings lib).Run s₀ moves s) : s.Undoable :=
  @Machine.Run.invariant _ _ _ Sys.Undoable (fun _ initial => .start initial) (fun _ _ _ inv taken => inv.step taken) _ _
    _ run

def LeavesCoupons (moves : List (Move Sys Label)) (i : Nat) : Prop :=
  ∀ move ∈ moves, ∀ oracle, move.label = .advance i oracle → move.after.db.coupons = move.before.db.coupons

-- A database error hit one of the blocks of the call.
def Faulted (moves : List (Move Sys Label)) (i : Nat) : Prop :=
  ∃ move ∈ moves, ∃ oracle, move.label = .advance i oracle ∧ oracle.fault ≠ none

theorem Run.leaves_coupons (run : (machine settings lib).Run s₀ moves s) {i : Nat}
    (unordered : ∀ call, s.calls i = some call → call.pc.claim.order = none) : LeavesCoupons moves i := by
  induction run with
  | start initial => simp [LeavesCoupons]
  | @step s s' moves l run taken ih =>
    have taken : step settings lib s l = some s' := taken
    have before : ∀ call, s.calls i = some call → call.pc.claim.order = none := by
      rintro ⟨req, pc⟩ at_i
      rcases step_goes_on taken at_i with same | ⟨oracle, _, _, moved⟩
      · exact unordered _ same
      · exact advance_unordered rfl (unordered _ moved)
    intro move member oracle at_l
    rcases List.mem_append.mp member with old | last
    · exact ih before move old oracle at_l
    · obtain rfl := List.mem_singleton.mp last
      subst at_l
      cases at_i : s.calls i with
      | none => simp [step, at_i] at taken
      | some call =>
        obtain ⟨req, pc⟩ := call
        dsimp only
        rw [step_advance taken at_i]
        exact advance_uncounted rfl (unordered _ (step_advanced taken at_i).2)

theorem advance_crashed {req : Request} {oracle : Oracle} {db db' : Db} {pc : Pc} {log : List GatewayCall}
    {todo : List Undo} {frame : Frame} {e : Exn}
    (taken : advance settings req oracle db pc = (.crashed todo frame e, db', log)) (live : pc.ended = false) :
    ∃ cart e', pc = .undo todo cart frame e' ∧
      ∀ action rest, todo = action :: rest → oracle.guard (action.run req cart frame db) = .error e := by
  have raised {placed : Placed} {payment : Option Payment} {e' : Exn} :
      authorizeRaised placed payment e' ≠ .crashed todo frame e := by
    unfold authorizeRaised
    split <;> simp
  cases pc with
  | undo todo' cart frame' e' =>
    cases todo' with
    | nil => cases taken
    | cons action rest =>
      simp only [Storefront.advance] at taken
      split at taken
      · cases taken
      next fails =>
        cases taken
        exact ⟨cart, e', rfl, fun _ _ same => by cases same; exact fails⟩
  | done frame result | crashed todo frame e => cases live
  | create view reservations =>
    simp only [Storefront.advance] at taken
    split at taken
    next order last done =>
      rcases afterOrder_cases ⟨view, reservations, order⟩ with ⟨_, next⟩ | next | next <;>
        · rw [next] at taken
          cases taken
    · cases taken
  | convert placed payment =>
    simp only [Storefront.advance] at taken
    split at taken
    · have next := (Prod.mk.inj taken).1
      unfold afterConvert at next
      split at next
      · cases next
      · split at next <;> cases next
    · cases taken
  | resolve placed | insertPayment placed config =>
    simp only [Storefront.advance] at taken
    split at taken
    · cases taken
    · exact absurd (Prod.mk.inj taken).1 raised
  | recordError placed payment e' =>
    simp only [Storefront.advance] at taken
    split at taken <;> exact absurd (Prod.mk.inj taken).1 raised
  | recordResult placed payment intent =>
    simp only [Storefront.advance] at taken
    split at taken
    · split at taken
      · exact absurd (Prod.mk.inj taken).1 raised
      · cases taken
    · exact absurd (Prod.mk.inj taken).1 raised
  | _ =>
    simp only [Storefront.advance] at taken
    split at taken <;> cases taken

/-- A call without an order that could not release its reservations met a database error. -/
theorem Run.faulted (run : (machine settings lib).Run s₀ moves s) {i : Nat} {req : Request} {todo : List Undo}
    {frame : Frame} {e : Exn} (at_i : s.calls i = some ⟨req, .crashed todo frame e⟩) (unordered : frame.order = none)
    (failed : Undo.releaseReservations ∈ todo) : Faulted moves i := by
  induction run with
  | start initial => cases (initial.calls i).symm.trans at_i
  | @step s s' moves l run taken ih =>
    have taken : step settings lib s l = some s' := taken
    rcases step_calls taken at_i with same | ⟨_, fresh⟩ | ⟨oracle, pc, rfl, earlier, live, moved⟩
    · obtain ⟨move, member, rest⟩ := ih same
      exact ⟨move, List.mem_append_left _ member, rest⟩
    · cases fresh
    · refine ⟨_, List.mem_append_right _ (List.mem_singleton.mpr rfl), oracle, rfl, fun quiet => ?_⟩
      obtain ⟨cart, e', rfl, raises⟩ := advance_crashed (Prod.ext moved.symm rfl) live
      have inv := Run.undoable run
      have suffix := inv.reverting i req todo cart frame e' earlier unordered
      -- A suffix of the two actions that holds the first one is both of them.
      have whole : todo = undoReserved := by
        rcases List.suffix_cons_iff.mp suffix with whole | rest
        · exact whole
        · exact absurd (rest.subset failed) (by decide)
      have error := raises _ _ whole
      rw [guard_unfaulted (show ({ oracle with now := s.now } : Oracle).fault = none from quiet)] at error
      obtain ⟨db', released⟩ := inv.owned.releases inv.counted earlier
      cases error.symm.trans released

def Order.body (o : Order) : OrderCore := { o.core with cart := none }

theorem Shape.order_kept {s : Sys} {l : Label} {db' : Db} (shape : Shape s l db') {o : Order}
    (member : o ∈ s.db.orders.rows) : ∃ o' ∈ db'.orders.rows, o'.body = o.body := by
  cases shape with
  | touched touch =>
    obtain ⟨o', inside, core, _⟩ := touch.order member
    exact ⟨o', inside, by rw [Order.body, core]; rfl⟩
  | stocked new orders => exact ⟨o, orders ▸ member, rfl⟩
  | ordered i oracle order items at_l rows => exact ⟨o, rows ▸ List.mem_append_left _ member, rfl⟩
  | billed i oracle req pc placed row at_l at_i bills named rows orders => exact ⟨o, orders ▸ member, rfl⟩
  | linked i oracle req pc placed h at_l at_i converts links =>
    have image : (if o.core.id = placed.order.id then { o.core with cart := some placed.view.cart.id } else o.core,
        o.status) ∈ db'.orders.rows.map fun o => (o.core, o.status) := links.orders ▸ List.mem_map_of_mem member
    obtain ⟨o', inside, same⟩ := List.mem_map.mp image
    refine ⟨o', inside, ?_⟩
    rw [Order.body, (Prod.mk.inj same).1]
    split <;> rfl

theorem Run.stands (run : (machine settings lib).Run s₀ moves s) : ∀ t ∈ Machine.visited moves s,
    (∀ o ∈ t.db.orders.rows, ∃ o' ∈ s.db.orders.rows, o'.id = o.id ∧ o'.idempotency_key = o.idempotency_key) ∧
      t.db.skeleton.payments ⊆ s.db.skeleton.payments := by
  induction run with
  | start initial =>
    intro t member
    obtain rfl := List.mem_singleton.mp member
    exact ⟨fun o inside => ⟨o, inside, rfl, rfl⟩, fun _ => id⟩
  | @step s s' moves l run taken ih =>
    have change : Change lib s l s'.db := step_change taken
    intro t member
    rw [Machine.visited, List.map_append, List.mem_append] at member
    rcases member with earlier | last
    · obtain ⟨orders, payments⟩ := ih t earlier
      refine ⟨fun o inside => ?_, fun p known => change.payments (payments known)⟩
      obtain ⟨o', there, id, key⟩ := orders o inside
      obtain ⟨o'', standing, body⟩ := change.shape.order_kept there
      exact ⟨o'', standing, (congrArg OrderCore.id body).trans id,
        (congrArg OrderCore.idempotency_key body).trans key⟩
    · obtain rfl := List.mem_singleton.mp last
      exact ⟨fun o inside => ⟨o, inside, rfl, rfl⟩, fun _ => id⟩

end History

/-- What any number of calls with one key leave behind. -/
structure OncePerKey (moves : List (Move Sys Label)) (s : Sys) (key : String) : Prop where
  order : ∃ id, ∀ t ∈ Machine.visited moves s, ∀ o ∈ t.db.orders.rows, o.idempotency_key = key → o.id = id
  payment : ∃ id, ∀ t ∈ Machine.visited moves s, ∀ o ∈ t.db.orders.rows, o.idempotency_key = key →
    ∀ p ∈ t.db.payments.rows, p.order = o.id → p.id = id
  authorized : s.gatewayLog.count ⟨.authorize, key ++ ":auth"⟩ ≤ 1
  captured : s.gatewayLog.count ⟨.capture, key ++ ":auth" ++ ":capture"⟩ ≤ 1
  returned : ∀ i req frame result, s.calls i = some ⟨req, .done frame (.ok result)⟩ → req.idempotency_key = key →
    ∃ o ∈ s.db.orders.rows, o.id = result.order ∧ o.idempotency_key = key
  released : ∀ i req pc, s.calls i = some ⟨req, pc⟩ → req.idempotency_key = key → pc.ended = true →
    pc.frame.order = none → Faulted moves i ∨
      ∀ r ∈ s.db.reservations.rows, r.id ∈ pc.frame.reservations → r.status = .released
  uncounted : ∀ i req pc, s.calls i = some ⟨req, pc⟩ → req.idempotency_key = key → pc.frame.order = none →
    LeavesCoupons moves i

/-- However the calls interleave, a key stands for one order and one charge. -/
theorem once_per_key (settings : Settings) (lib : WebhookLibrary) {s₀ s : Sys} {moves : List (Move Sys Label)}
    (run : (machine settings lib).Run s₀ moves s) (key : String) : OncePerKey moves s key := by
  have inv := Run.undoable run
  have stands := Run.stands run
  have unordered {pc : Pc} (frame : pc.frame.order = none) : pc.claim.order = none := by
    simp [Pc.claim, Frame.claim, frame]
  have one {o o' : Order} (left : o ∈ s.db.orders.rows) (right : o' ∈ s.db.orders.rows)
      (mine : o.idempotency_key = key) (theirs : o'.idempotency_key = key) : o = o' :=
    s.db.orders.eq_of_entry left right (e := .text key) (by simp [Schema.entries, mine]) (by simp [Schema.entries, theirs])
  have standing {t : Sys} (member : t ∈ Machine.visited moves s) {o : Order} (inside : o ∈ t.db.orders.rows)
      (mine : o.idempotency_key = key) : ∃ o' ∈ s.db.orders.rows, o'.id = o.id ∧ o'.idempotency_key = key := by
    obtain ⟨o', there, id, text⟩ := (stands t member).1 o inside
    exact ⟨o', there, id, text.trans mine⟩
  refine ⟨?_, ?_, ?_, ?_, ?_, ?_, ?_⟩
  · by_cases known : ∃ o ∈ s.db.orders.rows, o.idempotency_key = key
    · obtain ⟨o, present, mine⟩ := known
      refine ⟨o.id, fun t member o₁ inside theirs => ?_⟩
      obtain ⟨o', there, id, text⟩ := standing member inside theirs
      rw [← id, one present there mine text]
    · refine ⟨0, fun t member o₁ inside theirs => ?_⟩
      obtain ⟨o', there, _, text⟩ := standing member inside theirs
      exact absurd ⟨o', there, text⟩ known
  · by_cases known : ∃ o ∈ s.db.orders.rows, o.idempotency_key = key ∧ ∃ p ∈ s.db.payments.rows, p.order = o.id
    · obtain ⟨o, present, mine, p, billed, filed⟩ := known
      refine ⟨p.id, fun t member o₁ inside theirs p₁ paid filed₁ => ?_⟩
      obtain ⟨o', there, id, text⟩ := standing member inside theirs
      obtain rfl := one present there mine text
      have core := inv.owned.payment_unique (List.mem_map_of_mem billed)
        ((stands t member).2 (List.mem_map_of_mem paid)) (filed.trans (id.trans filed₁.symm))
      exact (congrArg PaymentCore.id core).symm
    · refine ⟨0, fun t member o₁ inside theirs p₁ paid filed₁ => ?_⟩
      obtain ⟨o', there, id, text⟩ := standing member inside theirs
      obtain ⟨p', billed, core⟩ := List.mem_map.mp ((stands t member).2 (List.mem_map_of_mem paid))
      have filed : p'.order = o'.id := (congrArg PaymentCore.order core).trans (filed₁.trans id.symm)
      exact absurd ⟨o', there, text, p', billed, filed⟩ known
  · exact (inv.once ⟨.authorize, _⟩ (by simp)).1
  · exact (inv.once ⟨.capture, _⟩ (by simp)).1
  · intro i req frame result at_i same
    obtain ⟨core, known, named, _, text⟩ := inv.owned.stage i _ at_i
    obtain ⟨o, member, rfl⟩ := List.mem_map.mp known
    exact ⟨o, member, named, text.trans same⟩
  · intro i req pc at_i _ ended lost
    cases left : pc.releases with
    | true =>
      cases pc with
      | crashed todo frame e => exact .inl (Run.faulted run at_i lost (by simpa [Pc.releases] using left))
      | done frame result => cases left
      | _ => cases ended
    | false =>
      refine .inr fun r member listed => ?_
      have inactive := inv.gives i _ at_i (unordered lost) left r member listed
      obtain ⟨h, known, named, _, link⟩ := (inv.owned.registered i _ at_i).hold_mem listed
      obtain ⟨q, stored, rfl⟩ := List.mem_map.mp known
      obtain rfl := s.db.reservations.eq_of_key stored member named
      have free : q.order = none := link.trans (by rw [Claim.link, unordered lost]; rfl)
      have uncommitted := inv.loose q member free
      revert inactive uncommitted
      cases q.status <;> simp
  · intro i req pc at_i _ lost
    refine Run.leaves_coupons run fun call same => ?_
    obtain rfl := Option.some.inj (at_i.symm.trans same)
    exact unordered lost

namespace Sample

def rival : Customer := { customer with id := 11, email := "rival@acme.test" }
def rivalCart : Cart := { cart with id := 42, customer := 11 }
def rivalItem : CartItem := { item with id := 43, cart := 42 }

def rivals : Sys :=
  { start with
    db := { shop with
      customers := ⟨[customer, rival], by decide +kernel, by decide +kernel⟩
      carts := ⟨[cart, rivalCart], by decide +kernel, by decide +kernel⟩
      cartItems := ⟨[item, rivalItem], by decide +kernel, by decide +kernel⟩ } }

theorem rivals_initial : rivals.Initial :=
  ⟨rfl, rfl, rfl, rfl, by decide +kernel, fun _ => rfl, rfl, rfl, rfl, rfl, rfl⟩

def second (points : List Point) : List Label :=
  points.map fun point => .advance 1 { oracle point with draw := (500 + ·) }

-- Both calls look for the key before either of them has ordered; the second one undoes itself.
def rivalry : List Label :=
  [.begin 0 request, .begin 1 { request with customer := 11 }] ++ blocks [.find] ++ second [.find] ++
    blocks [.lock, .validate, .reserve, .create] ++
    second [.lock, .validate, .reserve, .create, .undo .releaseReservations, .undo .revertCart, .find]

def afterRace : Sys := (lab.exec rivals rivalry).get (by decide +kernel)

theorem rivalry_runs : lab.exec rivals rivalry = some afterRace := (Option.some_get _).symm

end Sample

theorem once_per_key_raced : ∃ moves, Sample.lab.Run Sample.rivals moves Sample.afterRace ∧
    OncePerKey moves Sample.afterRace "k1" := by
  obtain ⟨moves, run⟩ := Machine.exec_run Sample.rivals_initial Sample.rivalry_runs
  exact ⟨moves, run, once_per_key _ _ run "k1"⟩

end Storefront
