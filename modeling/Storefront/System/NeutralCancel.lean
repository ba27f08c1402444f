import Storefront.System.CancelledOrders
import Storefront.System.Returns
import Storefront.System.StockFlow

set_option autoImplicit false

/-!
# Cancelling after a checkout

A cancelled order has given its stock back, whichever way it was cancelled.
-/

namespace Storefront

open Relational Transition

inductive Cancellation (s : Sys) (db' : Db) (o : Order) : Prop
  | own (i : Nat) (call : Call) (at_i : s.calls i = some call) (running : call.pc.ended = false)
      (mine : call.pc.claim.orderId = some o.id)
  | customer (tenant customer : Id) (done : cancelOrder tenant customer o.id s.db = .ok db')
  | task (p : Payment) (member : p ∈ s.db.payments.rows) (filed : p.order = o.id)
      (settled : p.gateway_config.isSome = true ∨ p.status = .pending) (pending : o.status = .pending)
      (f : Order → OrderStatus) (g : Payment → PaymentStatus) (touch : Touch s.db db' f g (heldStatus .release o.tenant o))

theorem OrderStatus.at_changes {o : Order} {id : Id} {next : OrderStatus → OrderStatus} {status : OrderStatus}
    (now : OrderStatus.at id next o = status) (other : o.status ≠ status) : o.id = id ∧ next o.status = status := by
  unfold OrderStatus.at at now
  split at now
  next same => exact ⟨same, now⟩
  · exact absurd now other

theorem eventTarget_closes {value : Json} {s : OrderStatus} (other : s ≠ .cancelled)
    (cancelled : eventTarget value s = .cancelled) : s = .pending ∧ value.isText "payment.captured" = false ∧
      (value.isText "payment.failed" || value.isText "payment.cancelled") = true := by
  rcases eventTarget_cancelled.mp cancelled with ⟨same, _⟩ | ⟨pending, closing⟩
  · exact absurd same other
  · refine ⟨pending, ?_, closing⟩
    by_contra captured
    rw [eventTarget_captured (by simpa using captured), pending] at cancelled
    cases cancelled

theorem reconcileTarget_closes {status : PaymentStatus} {s : OrderStatus} (other : s ≠ .cancelled)
    (cancelled : reconcileTarget status s = .cancelled) :
    s = .pending ∧ status ≠ .captured ∧ (status = .failed ∨ status = .cancelled) := by
  revert other cancelled
  cases status <;> cases s <;> decide

section Cancellations

variable {settings : Settings} {lib : WebhookLibrary} {s s' : Sys} {l : Label}

theorem Change.cancels {db' : Db} (change : Change lib s l db') (kept : s.Kept) {o : Order}
    (present : o ∈ s.db.orders.rows) (other : o.status ≠ .cancelled)
    (cancelled : db'.orderStatus o.id = some .cancelled) : Cancellation s db' o := by
  have touched {f : Order → OrderStatus} {g : Payment → PaymentStatus} {h : InventoryReservation → ReservationStatus}
      (touch : Touch s.db db' f g h) : f o = .cancelled :=
    Option.some.inj ((touch.orderStatus present).symm.trans cancelled)
  have same (unchanged : db'.orders = s.db.orders) : False := by
    rw [Db.orderStatus, unchanged] at cancelled
    exact other (Option.some.inj ((Db.orderStatus_of_mem present).symm.trans cancelled))
  cases change with
  | frees frees =>
    obtain ⟨_, touch, _⟩ := frees
    exact absurd (touched touch) other
  | stocked new orders => exact (same orders).elim
  | ordered i oracle order items rows =>
    have present' : o ∈ db'.orders.rows := by rw [rows]; exact List.mem_append_left _ present
    have still := Db.orderStatus_of_mem present'
    exact absurd (Option.some.inj (still.symm.trans cancelled)) other
  | billed i oracle req pc placed row at_i bills named rows orders => exact (same orders).elim
  | linked i oracle req pc placed h at_i converts links =>
    obtain ⟨o', there, named, _, _, status⟩ := links.order_kept present
    rw [← named, Db.orderStatus_of_mem there, status] at cancelled
    exact absurd (Option.some.inj cancelled) other
  | recorded i oracle req placed payment intent at_i done =>
    exact absurd (touched (recordPaymentResult_touch (guard_ok done))) other
  | captured => exact absurd (touched (captureWrite_touch _ _ _ _)) other
  | paid i oracle req placed payment at_i done =>
    cases (OrderStatus.at_changes (touched (markCaptured_touch (guard_ok done))) other).2
  | cancelledOwn i oracle req rest cart frame e order at_i mine done =>
    have own := (OrderStatus.at_changes (touched (cancelOwnOrder_touch (guard_ok done))) other).1
    refine .own i _ at_i rfl ?_
    simp [Pc.claim, Pc.frame, Frame.claim, Claim.orderId, mine, Order.core, own]
  | cancelled tenant customer order done =>
    rcases cancelOrder_touch done with unchanged | ⟨_, _, _, _, _, _, touch, _⟩
    · exact (same (congrArg Db.orders unchanged)).elim
    · obtain ⟨rfl, _⟩ := OrderStatus.at_changes (touched touch) other
      exact .customer tenant customer done
  | applied k task queued done =>
    obtain ⟨p, member, named, _, o', there, filed, owner, touch⟩ := applyWebhookEvent_touch done
    obtain ⟨mine, closes⟩ := OrderStatus.at_changes (touched touch) other
    obtain rfl := s.db.orders.eq_of_key present there mine
    obtain ⟨pending, uncaptured, closing⟩ := eventTarget_closes other closes
    obtain ⟨q, known, same', card⟩ := kept.2.tasks task (List.mem_of_getElem? queued)
    obtain ⟨row, stored, rfl⟩ := List.mem_map.mp known
    obtain rfl := s.db.payments.eq_of_key member stored (named.trans same'.symm)
    refine .task p member filed.symm (.inl card) pending _ _
      (touch.congr (fun _ _ => rfl) (fun _ _ => rfl) fun r _ => ?_)
    rw [eventHeld, if_neg (by simp [uncaptured]), if_pos closing, owner]
  | reconciled payment answer outcome done =>
    rcases reconcileOne_touch done with ⟨unchanged, _⟩ | ⟨p, member, _, waits, status, _, _, rest⟩
    · exact (same (congrArg Db.orders unchanged)).elim
    · rcases rest with ⟨_, _, _, touch⟩ | ⟨o', there, filed, touch⟩
      · exact absurd (touched touch) other
      · obtain ⟨mine, closes⟩ := OrderStatus.at_changes (touched touch) other
        obtain rfl := s.db.orders.eq_of_key present there mine
        obtain ⟨pending, uncaptured, closing⟩ := reconcileTarget_closes other closes
        refine .task p member filed.symm (.inr waits) pending _ _
          (touch.congr (fun _ _ => rfl) (fun _ _ => rfl) fun r _ => ?_)
        rw [reconcileHeld, if_neg uncaptured, if_pos closing, kept.1.payment_tenant present member filed]
  | marked k mark listed done =>
    obtain ⟨_, _, _, _, _, _, _, _, touch⟩ := markPaidWrite_touch done
    cases (OrderStatus.at_changes (touched touch) other).2
  | refunded => exact absurd (touched (refundWrite_touch _ _ _ _)) other

end Cancellations

section Releases

variable {db db' : Db}

theorem cancelOrder_gives_back {tenant customer order : Id} (done : cancelOrder tenant customer order db = .ok db')
    (open_ : db.orderStatus order ≠ some .cancelled) :
    ∀ r ∈ db'.reservations.rows, r.tenant = tenant → r.order = some order → r.status = .released := by
  simp only [cancelOrder, bind_eq_ok, orRaise_eq_ok] at done
  obtain ⟨o, found, rest⟩ := done
  have named := List.find?_some found
  simp only [Bool.and_eq_true, beq_iff_eq] at named
  split at rest
  next cancelled =>
    rw [← named.2, Db.orderStatus_of_mem (List.mem_of_find?_eq_some found), cancelled] at open_
    exact absurd rfl open_
  · simp only [bind_eq_ok, pure_eq_ok] at rest
    obtain ⟨_, _, mid, released, last, reversed, rfl⟩ := rest
    rw [named.2] at released reversed
    intro r'' member owner linked
    obtain ⟨r', between, core, status⟩ := (settleReservations_touch reversed).hold_of member
    obtain ⟨r, inside, core', status'⟩ := (settleReservations_touch released).hold_of between
    have id : r''.id = r'.id := congrArg HoldCore.id core
    have owner' : r'.tenant = tenant := (congrArg HoldCore.tenant core).symm.trans owner
    have linked' : r'.order = some order := (congrArg HoldCore.order core).symm.trans linked
    have same : r'.id = r.id := congrArg HoldCore.id core'
    have before : r.tenant = tenant ∧ r.order = some order :=
      ⟨(congrArg HoldCore.tenant core').symm.trans owner', (congrArg HoldCore.order core').symm.trans linked'⟩
    have unheld : r'.status ≠ .active := by
      intro active
      rw [status', settledStatus] at active
      split at active
      · cases active
      next unpicked =>
        refine unpicked ?_
        have listed : r ∈ reservationsOf db tenant order .active :=
          List.mem_filter.mpr ⟨inside, by simp [before, active]⟩
        simpa [active, Settlement.release] using List.mem_map_of_mem (f := InventoryReservation.id) listed
    rw [status, settledStatus]
    split
    · rfl
    next unpicked =>
      cases now : r'.status with
      | active => exact absurd now unheld
      | released => rfl
      | committed =>
        refine absurd ?_ unpicked
        have listed : r' ∈ reservationsOf mid tenant order .committed :=
          List.mem_filter.mpr ⟨between, by simp [owner', linked', now]⟩
        simpa [now, Settlement.reverse] using List.mem_map_of_mem (f := InventoryReservation.id) listed

theorem find_order {tenant customer id : Id} {o : Order} (present : o ∈ db.orders.rows)
    (mine : o.tenant = tenant ∧ o.customer = customer ∧ o.id = id) :
    (db.orders.rows.find? fun o => o.tenant == tenant && o.customer == customer && o.id == id) = some o := by
  cases found : db.orders.rows.find? fun o => o.tenant == tenant && o.customer == customer && o.id == id with
  | none =>
    have absent := List.find?_eq_none.mp found o present
    simp [mine] at absent
  | some other =>
    have same := List.find?_some found
    simp only [Bool.and_eq_true, beq_iff_eq] at same
    rw [db.orders.eq_of_key (List.mem_of_find?_eq_some found) present (same.2.trans mine.2.2.symm)]

theorem cancelOrder_found {tenant customer order : Id} (done : cancelOrder tenant customer order db = .ok db') :
    ∃ o ∈ db.orders.rows, o.tenant = tenant ∧ o.customer = customer ∧ o.id = order := by
  simp only [cancelOrder, bind_eq_ok, orRaise_eq_ok] at done
  obtain ⟨o, found, _⟩ := done
  have named := List.find?_some found
  simp only [Bool.and_eq_true, beq_iff_eq] at named
  exact ⟨o, List.mem_of_find?_eq_some found, named.1.1, named.1.2, named.2⟩

theorem cancelOrder_again {tenant customer order : Id} (done : cancelOrder tenant customer order db = .ok db') :
    cancelOrder tenant customer order db' = .ok db' := by
  obtain ⟨o, present, owner, whose, named⟩ := cancelOrder_found done
  obtain ⟨o', there, core⟩ : ∃ o' ∈ db'.orders.rows, o'.core = o.core := by
    rcases cancelOrder_touch done with same | ⟨_, _, _, _, _, _, touch, _⟩
    · exact ⟨o, same ▸ present, rfl⟩
    · obtain ⟨o', there, core, _⟩ := touch.order present
      exact ⟨o', there, core⟩
  have id : o'.id = order := (congrArg OrderCore.id core).trans named
  obtain ⟨row, inside, same, cancelled⟩ := Db.orderStatus_eq_some.mp (cancelOrder_closes done)
  obtain rfl := db'.orders.eq_of_key inside there (same.trans id.symm)
  have found := @find_order db' tenant customer order row there
    ⟨(congrArg OrderCore.tenant core).trans owner, (congrArg OrderCore.customer core).trans whose, id⟩
  simp [cancelOrder, found, orRaise, cancelled, bind, Except.bind, pure, Except.pure]

end Releases

def Sys.Uncommitted (s : Sys) : Prop :=
  ∀ p ∈ s.db.payments.rows, p.gateway_config.isSome = true → s.db.orderStatus p.order = some .pending →
    ∀ r ∈ s.db.reservations.rows, r.order = some p.order → r.status ≠ .committed

structure Sys.Cancellable (s : Sys) : Prop where
  kept : s.Kept
  invoices : s.Invoices
  loose : s.Loose
  uncommitted : s.Uncommitted
  returns : s.ReturnsLinked

def Sys.GivenBack (s : Sys) (order : Id) : Prop :=
  s.db.orderStatus order = some .cancelled →
    ∀ r ∈ s.db.reservations.rows, r.order = some order → r.status = .released

section Steps

variable {settings : Settings} {lib : WebhookLibrary} {s s' : Sys} {l : Label}

theorem Sys.Uncommitted.step (uncommitted : s.Uncommitted) (kept : s.Kept) (loose : s.Loose)
    (taken : Storefront.step settings lib s l = some s') : s'.Uncommitted := by
  have change : Change lib s l s'.db := step_change taken
  intro p' inside card pending r' member linked committed
  cases change.commits kept.1 member committed with
  | earlier r there status order =>
    have carries : r.order = some p'.order := by
      rcases order with same | free
      · exact same.trans linked
      · exact absurd status (loose r there free)
    rcases change.payment_source inside with ⟨p, before, core⟩ | ⟨i, req, pc, placed, at_i, bills, named⟩
    · have order : p'.order = p.order := congrArg PaymentCore.order core
      have config : p'.gateway_config = p.gateway_config := congrArg PaymentCore.gateway_config core
      exact uncommitted p before (config ▸ card) (change.pending_before kept.1 before (order ▸ pending)) r there
        (order ▸ carries) status
    · exact kept.1.bills_unlinked at_i bills named there carries
  | paid id order paid =>
    obtain rfl := Option.some.inj (linked.symm.trans order)
    cases pending.symm.trans paid
  | invoiced i req placed payment at_i order payments =>
    have before : p'.core ∈ s.db.skeleton.payments := List.mem_map_of_mem (payments ▸ inside)
    have filed : placed.order.id = p'.order := Option.some.inj (order.symm.trans linked)
    have billed : some payment.core = some p'.core := kept.1.payment_of_order at_i before (congrArg some filed)
    have invoice : payment.gateway_config = none := (kept.1.stage i _ at_i).2
    have same : payment.gateway_config = p'.gateway_config :=
      congrArg PaymentCore.gateway_config (Option.some.inj billed)
    rw [← same, invoice] at card
    cases card

theorem Sys.Cancellable.start (initial : s.Initial) : s.Cancellable where
  kept := .start initial
  invoices := .start initial
  loose := by simp [Sys.Loose, initial.reservations]
  uncommitted := by simp [Sys.Uncommitted, initial.payments]
  returns := by
    intro i req frame result at_i
    rw [initial.calls i] at at_i
    cases at_i

theorem Sys.Cancellable.step (inv : s.Cancellable) (taken : Storefront.step settings lib s l = some s') :
    s'.Cancellable where
  kept := inv.kept.step taken
  invoices := inv.invoices.step inv.kept taken
  loose := inv.loose.step inv.kept.1 taken
  uncommitted := inv.uncommitted.step inv.kept inv.loose taken
  returns := inv.returns.step inv.kept.1 taken

variable {i : Nat} {req : Request} {frame : Frame} {o : Order}

theorem Sys.GivenBack.step (given : s.GivenBack o.id) (inv : s.Cancellable) (returned : s.Returned i req frame o)
    (taken : Storefront.step settings lib s l = some s') : s'.GivenBack o.id := by
  intro cancelled r' member linked
  have change : Change lib s l s'.db := step_change taken
  obtain ⟨row, present, core⟩ := returned.row inv.kept.1
  have named : row.id = o.id := congrArg OrderCore.id core
  have listed := ((returned.step taken).holds_iff (inv.kept.1.step taken) (inv.returns.step inv.kept.1 taken) member).mp
    linked
  obtain ⟨result, at_i⟩ := returned.ended
  obtain ⟨r, inside, same, _, reaches⟩ := inv.kept.1.listed_before taken at_i member listed
  have carries : r.order = some o.id := (returned.holds_iff inv.kept.1 inv.returns inside).mpr (same ▸ listed)
  by_cases before : row.status = .cancelled
  · have was : s.db.orderStatus o.id = some .cancelled := by rw [← named, Db.orderStatus_of_mem present, before]
    have released := given was r inside carries
    rcases reaches with kept | follows
    · exact kept.trans released
    · rw [released] at follows
      revert follows
      cases r'.status <;> decide
  · cases change.cancels inv.kept present before (named ▸ cancelled) with
    | own j call at_j running mine =>
      rw [returned.alone inv.kept.1 at_j (named ▸ mine)] at running
      cases running
    | customer tenant customer done =>
      have open_ : s.db.orderStatus row.id ≠ some .cancelled := by
        rw [Db.orderStatus_of_mem present]
        simpa using before
      obtain ⟨row', present', core'⟩ := (returned.step taken).row (inv.kept.1.step taken)
      have owner : r'.tenant = row'.tenant := (inv.kept.1.step taken).hold_tenant present' member
        (linked.trans (congrArg some (congrArg OrderCore.id core').symm))
      rcases cancelOrder_touch done with same | ⟨other, there, id, tenancy, _⟩
      · rw [← named, same] at cancelled
        exact absurd cancelled open_
      · obtain rfl := s.db.orders.eq_of_key there present id
        have tenants : row'.tenant = other.tenant := congrArg OrderCore.tenant (core'.trans core.symm)
        exact cancelOrder_gives_back done open_ r' member (owner.trans (tenants.trans tenancy)) (named ▸ linked)
    | task p stored filed settled pending f g touch =>
      have waits : s.db.orderStatus p.order = some .pending := by
        rw [filed, Db.orderStatus_of_mem present, pending]
      have card : p.gateway_config.isSome = true := by
        rcases settled with card | status
        · exact card
        · by_contra none
          have invoice := inv.invoices p stored (by simpa using none) waits
          rw [status] at invoice
          cases invoice
      have uncommitted := inv.uncommitted p stored card waits r inside
        (carries.trans (congrArg some (named.symm.trans filed.symm)))
      have tenant : r.tenant = row.tenant := inv.kept.1.hold_tenant present inside (named.symm ▸ carries)
      obtain ⟨r'', there, same', status⟩ := touch.hold inside
      obtain rfl := s'.db.reservations.eq_of_key there member ((congrArg HoldCore.id same').trans same)
      rw [status, heldStatus, if_pos pending]
      cases now : r.status with
      | active => simp [settledStatus, ofOrder, tenant, carries, named, now, Settlement.release]
      | committed => exact absurd now uncommitted
      | released => simp [settledStatus, now, Settlement.release]

end Steps

/-- Nothing is held for the order any more, and no counter owes anything to its reservations. -/
structure LeavesNoTrace (moves : List (Move Sys Label)) (before after : Db) (order : Id) (reservations : List Id) :
    Prop where
  listed : ∀ r ∈ after.reservations.rows, r.order = some order ↔ r.id ∈ reservations
  released : ∀ r ∈ after.reservations.rows, r.order = some order → r.status = .released
  stock : ∀ product, stockShare before after reservations.contains product = 0
  reserved : ∀ product, reservedShare before after reservations.contains product = 0
  accounted : ∀ product, Accounted moves before after reservations.contains product

/-- A checkout that returned with its order PENDING is undone by the customer's cancellation,
whatever came between. -/
theorem cancelled_checkout_neutral (settings : Settings) (lib : WebhookLibrary) {s₀ t u s : Sys}
    {earlier placing later : List (Move Sys Label)} (before : (machine settings lib).Run s₀ earlier t)
    (checkout : (machine settings lib).Run s₀ (earlier ++ placing) u)
    (after : (machine settings lib).Run s₀ (earlier ++ placing ++ later) s) {i : Nat} {req : Request} {frame : Frame}
    {o : Order} (idle : t.calls i = none) (returned : u.Returned i req frame o)
    (pending : u.db.orderStatus o.id = some .pending) {tenant customer : Id} {db : Db}
    (cancels : cancelOrder tenant customer o.id s.db = .ok db) :
    LeavesNoTrace (placing ++ later) t.db db o.id frame.reservations ∧
      cancelOrder tenant customer o.id db = .ok db := by
  refine ⟨?_, cancelOrder_again cancels⟩
  have start (s : Sys) (initial : s.Initial) : s.Cancellable := .start initial
  have step (s : Sys) (l : Label) (s' : Sys) (inv : s.Cancellable)
      (taken : Storefront.step settings lib s l = some s') : s'.Cancellable := inv.step taken
  have still : s.Returned i req frame o ∧ s.GivenBack o.id := by
    refine @Machine.Run.since _ _ (machine settings lib) Sys.Cancellable
      (fun _ s => s.Returned i req frame o ∧ s.GivenBack o.id) start step _ _ _ _ _ checkout ⟨returned, ?_⟩ ?_ after
    · intro cancelled
      simp [pending] at cancelled
    · exact fun _ _ _ _ inv so_far taken => ⟨so_far.1.step taken, so_far.2.step inv so_far.1 taken⟩
  have taken : Storefront.step settings lib s (.cancelOrder tenant customer o.id) = some (s.withDb db) := by
    simp [Storefront.step, Sys.commits, cancels]
  have cancelling : (machine settings lib).step s (.cancelOrder tenant customer o.id) = some (s.withDb db) := taken
  have inv : s.Cancellable := after.invariant start step
  have ended := still.1.step taken
  have listed (r : InventoryReservation) (inside : r ∈ db.reservations.rows) :
      r.order = some o.id ↔ r.id ∈ frame.reservations :=
    ended.holds_iff (inv.step taken).kept.1 (inv.step taken).returns inside
  have released : ∀ r ∈ db.reservations.rows, r.order = some o.id → r.status = .released :=
    still.2.step inv still.1 taken (cancelOrder_closes cancels)
  have nothing (status : ReservationStatus) (product : Id) :
      t.db.share frame.reservations.contains status product = 0 := by
    obtain ⟨result, at_i⟩ := returned.ended
    have fresh := Run.reserves_fresh before checkout idle at_i
    refine Db.share_eq_zero (fun r inside listed => ?_) product
    exact absurd (List.contains_iff_mem.mp listed) (fresh r inside)
  have gone (status : ReservationStatus) (other : status ≠ .released) (product : Id) :
      db.share frame.reservations.contains status product = 0 := by
    refine Db.share_eq_zero (fun r inside mine same => ?_) product
    rw [released r inside ((listed r inside).mpr (List.contains_iff_mem.mp mine))] at same
    exact other same.symm
  refine ⟨listed, released, fun product => ?_, fun product => ?_, fun product => ?_⟩
  · rw [stockShare, nothing, gone _ (by simp), sub_zero]
  · rw [reservedShare, nothing, gone _ (by simp), sub_zero]
  · have whole : (machine settings lib).Run s₀ _ (s.withDb db) := after.step cancelling
    rw [List.append_assoc earlier, List.append_assoc earlier] at whole
    obtain ⟨stock, reserved⟩ := Run.accounted before whole frame.reservations.contains product
    rw [restocked_snoc, if_neg (by simp [Label.editsProducts]), add_zero] at stock
    exact ⟨stock, reserved⟩

namespace Sample

def returnedOf (call : Call) : Option (Frame × Order) :=
  match call.pc with
  | .done frame (.ok _) => frame.order.map fun order => (frame, order)
  | _ => none

theorem returnedOf_returned {s : Sys} {i : Nat} {call : Call} {frame : Frame} {order : Order}
    (at_i : s.calls i = some call) (returned : returnedOf call = some (frame, order)) :
    s.Returned i call.req frame order := by
  obtain ⟨req, pc⟩ := call
  unfold returnedOf at returned
  split at returned
  next frame' result ended =>
    obtain ⟨order', mine, same⟩ := Option.map_eq_some_iff.mp returned
    obtain ⟨rfl, rfl⟩ := Prod.mk.inj same
    obtain rfl : pc = .done frame' (.ok result) := ended
    exact ⟨⟨result, at_i⟩, mine⟩
  · cases returned

-- The card's answer is still out when the timer frees the mugs and the customer cancels.
def afterWaiting : Sys := (lab.exec start waiting).get (by decide +kernel)
def givenUp : Db := ((cancelOrder 1 10 200 beforeExpired.db).toOption).get (by decide +kernel)
def lastKept : Frame × Order := ((afterWaiting.calls 0).bind returnedOf).get (by decide +kernel)

theorem waiting_runs : lab.exec start waiting = some afterWaiting := (Option.some_get _).symm
theorem givenUp_cancels : cancelOrder 1 10 200 beforeExpired.db = .ok givenUp := by
  have done : (cancelOrder 1 10 200 beforeExpired.db).toOption = some givenUp := (Option.some_get _).symm
  cases given : cancelOrder 1 10 200 beforeExpired.db with
  | ok db => simpa [given, Except.toOption] using done
  | error e => simp [given, Except.toOption] at done

end Sample

theorem cancelled_checkout_neutral_waiting : ∃ moves,
    LeavesNoTrace moves Sample.start.db Sample.givenUp 200 Sample.lastKept.1.reservations ∧
      cancelOrder 1 10 200 Sample.givenUp = .ok Sample.givenUp := by
  have begins : Sample.lab.Run Sample.start [] Sample.start := .start Sample.start_initial
  obtain ⟨placing, checkout⟩ := begins.of_exec Sample.waiting_runs
  have expires : Sample.lab.exec Sample.afterWaiting [.expire .plain 2000] = some Sample.beforeExpired := by
    have whole := Sample.expired_runs
    rw [Sample.expired, Machine.exec_append, Sample.waiting_runs] at whole
    exact whole
  obtain ⟨later, after⟩ := checkout.of_exec expires
  obtain ⟨call, at_0, held⟩ : ∃ call, Sample.afterWaiting.calls 0 = some call ∧
      Sample.returnedOf call = some Sample.lastKept :=
    Option.bind_eq_some_iff.mp (Option.some_get _).symm
  have returned : Sample.afterWaiting.Returned 0 call.req Sample.lastKept.1 Sample.lastKept.2 :=
    Sample.returnedOf_returned at_0 held
  have named : Sample.lastKept.2.id = 200 := by decide +kernel
  have pending : Sample.afterWaiting.db.orderStatus 200 = some .pending := by decide +kernel
  have neutral := cancelled_checkout_neutral Sample.settings Sample.library begins checkout after rfl returned
    (by rw [named]; exact pending) (by rw [named]; exact Sample.givenUp_cancels)
  rw [named] at neutral
  exact ⟨_, neutral⟩

end Storefront
