import Storefront.System.Owners

set_option autoImplicit false

/-!
# What a step writes

Every step of the system is one of the changes below. The invariants of the later
modules look at these, not at the blocks.
-/

namespace Storefront

open Relational Transition

-- Where a new payment comes from.
inductive Bills (placed : Placed) (row : Payment) : Pc → Prop
  | invoice (status : row.status = .invoicePending) (config : row.gateway_config = none)
      (due : row.amount = placed.order.grand_total ∧ row.currency = placed.order.currency) :
      Bills placed row (.invoice placed)
  | card (config : PaymentGatewayConfig) (status : row.status = .pending)
      (named : row.gateway_config = some config.id)
      (due : row.amount = placed.order.grand_total ∧ row.currency = placed.order.currency) :
      Bills placed row (.insertPayment placed config)

-- The reservations of a card order are linked, those of an invoiced order are committed at once.
inductive Converts (placed : Placed) : Pc → (InventoryReservation → ReservationStatus) → Prop
  | card (payment : Payment) : Converts placed (.convert placed payment) InventoryReservation.status
  | invoice (payment : Payment) : Converts placed (.convertInvoiced placed payment)
      (settledStatus .commit fun r => placed.reservations.contains r.id && r.status == .active)

/-- One step as a change of the rows, with the guards it passed. -/
inductive Change (lib : WebhookLibrary) (s : Sys) : Label → Db → Prop
  | frees {l : Label} {db' : Db} (frees : Frees s.db db') : Change lib s l db'
  | stocked {l : Label} {db' : Db} (new : List InventoryReservation) (orders : db'.orders = s.db.orders)
      (items : db'.orderItems = s.db.orderItems) (payments : db'.payments = s.db.payments)
      (rows : db'.reservations.rows = s.db.reservations.rows ++ new)
      (opened : ∀ r ∈ new, r.status = .active ∧ r.order = none ∧ 0 ≤ r.quantity) : Change lib s l db'
  | ordered {db' : Db} (i : Nat) (oracle : Oracle) (order : Order) (items : List OrderItem)
      (rows : db'.orders.rows = s.db.orders.rows ++ [order]) (status : order.status = .pending)
      (unlinked : order.cart = none) (lines : db'.orderItems.rows = s.db.orderItems.rows ++ items)
      (mine : ∀ item ∈ items, item.order = order.id) (payments : db'.payments = s.db.payments)
      (reservations : db'.reservations = s.db.reservations) : Change lib s (.advance i oracle) db'
  | billed {db' : Db} (i : Nat) (oracle : Oracle) (req : Request) (pc : Pc) (placed : Placed)
      (row : Payment) (at_i : s.calls i = some ⟨req, pc⟩) (bills : Bills placed row pc)
      (named : row.order = placed.order.id) (rows : db'.payments.rows = s.db.payments.rows ++ [row])
      (orders : db'.orders = s.db.orders) (items : db'.orderItems = s.db.orderItems)
      (reservations : db'.reservations = s.db.reservations) : Change lib s (.advance i oracle) db'
  | linked {db' : Db} (i : Nat) (oracle : Oracle) (req : Request) (pc : Pc) (placed : Placed)
      (h : InventoryReservation → ReservationStatus) (at_i : s.calls i = some ⟨req, pc⟩)
      (converts : Converts placed pc h)
      (links : Links placed.reservations placed.order.id placed.view.cart.id h s.db db') :
      Change lib s (.advance i oracle) db'
  | recorded {db' : Db} (i : Nat) (oracle : Oracle) (req : Request) (placed : Placed) (payment : Payment)
      (intent : PaymentIntent) (at_i : s.calls i = some ⟨req, .recordResult placed payment intent⟩)
      (done : oracle.guard (recordPaymentResult req.tenant payment.id intent s.db) = .ok db') :
      Change lib s (.advance i oracle) db'
  | captured (i : Nat) (oracle : Oracle) (req : Request) (placed : Placed) (row : Payment)
      (intent : PaymentIntent) (at_i : s.calls i = some ⟨req, .captureWrite placed row intent⟩)
      (quiet : oracle.fault = none) :
      Change lib s (.advance i oracle) (captureWrite req.tenant row.id intent s.db)
  | paid {db' : Db} (i : Nat) (oracle : Oracle) (req : Request) (placed : Placed) (payment : Payment)
      (at_i : s.calls i = some ⟨req, .paid placed payment⟩)
      (done : oracle.guard (markCaptured req placed s.db) = .ok db') : Change lib s (.advance i oracle) db'
  | cancelledOwn {db' : Db} (i : Nat) (oracle : Oracle) (req : Request) (rest : List Undo) (cart : Id)
      (frame : Frame) (e : Exn) (order : Order)
      (at_i : s.calls i = some ⟨req, .undo (.cancelOrder :: rest) cart frame e⟩)
      (mine : frame.order = some order)
      (done : oracle.guard (cancelOwnOrder req.tenant order.id s.db) = .ok db') :
      Change lib s (.advance i oracle) db'
  | cancelled {db' : Db} (tenant customer order : Id)
      (done : cancelOrder tenant customer order s.db = .ok db') :
      Change lib s (.cancelOrder tenant customer order) db'
  | applied {db' : Db} (k : Nat) (task : WebhookTask) (queued : s.queue[k]? = some task)
      (done : applyWebhookEvent lib task s.now s.db = .ok db') : Change lib s (.process k) db'
  | reconciled {db' : Db} (payment : Id) (answer : Except Exn (Option PaymentIntent))
      (outcome : ReconcileOutcome)
      (done : reconcileOne payment answer s.now s.db = .ok (outcome, db')) :
      Change lib s (.reconcile payment answer) db'
  | marked {db' : Db} (k : Nat) (mark : MarkPaid) (listed : s.marks[k]? = some mark)
      (done : markPaidWrite mark.tenant mark.order mark.payment mark.reference s.now s.db = .ok db') :
      Change lib s (.markPaidWrite k) db'
  | refunded (k : Nat) (row : Payment) (amount : Option String) (intent : PaymentIntent)
      (listed : s.refunds[k]? = some ⟨row, amount, .write intent⟩) :
      Change lib s (.refundWrite k) (refundWrite row.tenant row.id intent s.db)

theorem Change.same {lib : WebhookLibrary} {s : Sys} {l : Label} : Change lib s l s.db :=
  .frees ⟨_, Leaves.refl s.db, fun _ _ => .inl rfl⟩

theorem Change.leaves {lib : WebhookLibrary} {s : Sys} {l : Label} {db' : Db} (leaves : Leaves s.db db') :
    Change lib s l db' :=
  .frees ⟨_, leaves, fun _ _ => .inl rfl⟩

/-- The same, where only the rows that come, and the columns that are written once, matter. -/
inductive Shape (s : Sys) (l : Label) (db' : Db) : Prop
  | touched {f : Order → OrderStatus} {g : Payment → PaymentStatus} {h : InventoryReservation → ReservationStatus}
      (touch : Touch s.db db' f g h)
  | stocked (new : List InventoryReservation) (orders : db'.orders = s.db.orders)
      (items : db'.orderItems = s.db.orderItems) (payments : db'.payments = s.db.payments)
      (rows : db'.reservations.rows = s.db.reservations.rows ++ new)
      (opened : ∀ r ∈ new, r.status = .active ∧ r.order = none ∧ 0 ≤ r.quantity)
  | ordered (i : Nat) (oracle : Oracle) (order : Order) (items : List OrderItem) (at_l : l = .advance i oracle)
      (rows : db'.orders.rows = s.db.orders.rows ++ [order]) (status : order.status = .pending)
      (payments : db'.payments = s.db.payments) (reservations : db'.reservations = s.db.reservations)
      (unlinked : order.cart = none)
  | billed (i : Nat) (oracle : Oracle) (req : Request) (pc : Pc) (placed : Placed) (row : Payment)
      (at_l : l = .advance i oracle) (at_i : s.calls i = some ⟨req, pc⟩) (bills : Bills placed row pc)
      (named : row.order = placed.order.id) (rows : db'.payments.rows = s.db.payments.rows ++ [row])
      (orders : db'.orders = s.db.orders) (reservations : db'.reservations = s.db.reservations)
  | linked (i : Nat) (oracle : Oracle) (req : Request) (pc : Pc) (placed : Placed)
      (h : InventoryReservation → ReservationStatus) (at_l : l = .advance i oracle)
      (at_i : s.calls i = some ⟨req, pc⟩) (converts : Converts placed pc h)
      (links : Links placed.reservations placed.order.id placed.view.cart.id h s.db db')

theorem Change.shape {lib : WebhookLibrary} {s : Sys} {l : Label} {db' : Db} (change : Change lib s l db') :
    Shape s l db' := by
  have same (unchanged : db' = s.db) : Shape s l db' := unchanged ▸ .touched (Leaves.refl s.db)
  cases change with
  | frees frees =>
    obtain ⟨_, touch, _⟩ := frees
    exact .touched touch
  | stocked new orders items payments rows opened => exact .stocked new orders items payments rows opened
  | ordered i oracle order items rows status unlinked lines mine payments reservations =>
    exact .ordered i oracle order items rfl rows status payments reservations unlinked
  | billed i oracle req pc placed row at_i bills named rows orders items reservations =>
    exact .billed i oracle req pc placed row rfl at_i bills named rows orders reservations
  | linked i oracle req pc placed h at_i converts links =>
    exact .linked i oracle req pc placed h rfl at_i converts links
  | recorded i oracle req placed payment intent at_i done =>
    exact .touched (recordPaymentResult_touch (guard_ok done))
  | captured => exact .touched (captureWrite_touch _ _ _ _)
  | paid i oracle req placed payment at_i done => exact .touched (markCaptured_touch (guard_ok done))
  | cancelledOwn i oracle req rest cart frame e order at_i mine done =>
    exact .touched (cancelOwnOrder_touch (guard_ok done))
  | cancelled tenant customer order done =>
    rcases cancelOrder_touch done with unchanged | ⟨_, _, _, _, _, _, touch, _⟩
    · exact same unchanged
    · exact .touched touch
  | applied k task queued done =>
    obtain ⟨_, _, _, _, _, _, _, _, touch⟩ := applyWebhookEvent_touch done
    exact .touched touch
  | reconciled payment answer outcome done =>
    rcases reconcileOne_touch done with ⟨unchanged, _⟩ | ⟨_, _, _, _, _, _, _, ⟨_, _, _, touch⟩ | ⟨_, _, _, touch⟩⟩
    · exact same unchanged
    · exact .touched touch
    · exact .touched touch
  | marked k mark listed done =>
    obtain ⟨_, _, _, _, _, _, _, _, touch⟩ := markPaidWrite_touch done
    exact .touched touch
  | refunded => exact .touched (refundWrite_touch _ _ _ _)

theorem advance_change {settings : Settings} {lib : WebhookLibrary} {s : Sys} {i : Nat} {oracle : Oracle}
    {req : Request} {pc pc' : Pc} {db' : Db} {log : List GatewayCall}
    (at_i : s.calls i = some ⟨req, pc⟩)
    (taken : Storefront.advance settings req { oracle with now := s.now } s.db pc = (pc', db', log)) :
    Change lib s (.advance i oracle) db' := by
  cases pc with
  | find =>
    simp only [Storefront.advance] at taken
    split at taken <;> cases taken <;> exact .same
  | lock =>
    simp only [Storefront.advance] at taken
    split at taken
    next done =>
      cases taken
      exact .leaves (lockCart_leaves (guard_ok done))
    · cases taken
      exact .same
  | validate view =>
    simp only [Storefront.advance] at taken
    split at taken <;> cases taken <;> exact .same
  | reserve view =>
    simp only [Storefront.advance] at taken
    split at taken
    next done =>
      cases taken
      obtain ⟨grown, rows, orders, payments, _⟩ := reserveStock_grows (guard_ok done)
      have reserved := (reserveStock_reserved (guard_ok done)).1
      refine .stocked _ orders (by rw [reserved.frame]) payments rows fun r inside => ?_
      obtain ⟨_, _, rfl⟩ := List.mem_map.mp inside
      exact ⟨rfl, rfl, itemQuantity_nonnegative _ _⟩
    · cases taken
      exact .same
  | create view reservations =>
    simp only [Storefront.advance] at taken
    split at taken
    next order last done =>
      cases taken
      have creates := createOrder_creates (guard_ok done)
      obtain ⟨items, rows, mine, _⟩ := creates.lines
      exact .ordered i oracle order items creates.orders creates.status creates.cart rows mine
        (by rw [creates.frame]) (by rw [creates.frame])
    · cases taken
      exact .same
  | invoice placed =>
    simp only [Storefront.advance] at taken
    split at taken
    next last done =>
      cases taken
      obtain ⟨frame, rows, _⟩ := createPayment_grows (guard_ok done)
      exact .billed i oracle req _ placed _ at_i (.invoice rfl rfl ⟨rfl, rfl⟩) rfl rows (by rw [frame])
        (by rw [frame]) (by rw [frame])
    · cases taken
      exact .same
  | convertInvoiced placed payment =>
    simp only [Storefront.advance] at taken
    split at taken
    next last done =>
      cases taken
      exact .linked i oracle req _ placed _ at_i (.invoice payment) (convertInvoiced_links (guard_ok done))
    · cases taken
      exact .same
  | resolve placed =>
    simp only [Storefront.advance] at taken
    split at taken <;> cases taken <;> exact .same
  | insertPayment placed config =>
    simp only [Storefront.advance] at taken
    split at taken
    next last done =>
      cases taken
      obtain ⟨frame, rows, _⟩ := createPayment_grows (guard_ok done)
      exact .billed i oracle req _ placed _ at_i (.card config rfl rfl ⟨rfl, rfl⟩) rfl rows (by rw [frame])
        (by rw [frame]) (by rw [frame])
    · cases taken
      exact .same
  | authorize placed payment =>
    simp only [Storefront.advance] at taken
    split at taken <;> cases taken <;> exact .same
  | recordError placed payment e =>
    simp only [Storefront.advance] at taken
    split at taken
    next last done =>
      cases taken
      obtain rfl := Except.ok.inj (guard_ok done)
      exact .leaves (recordPaymentError_leaves _ _ _ _)
    · cases taken
      exact .same
  | recordResult placed payment intent =>
    simp only [Storefront.advance] at taken
    split at taken
    next last done =>
      split at taken <;> cases taken <;> exact .recorded i oracle req placed payment intent at_i done
    · cases taken
      exact .same
  | convert placed payment =>
    simp only [Storefront.advance] at taken
    split at taken
    next last done =>
      cases taken
      exact .linked i oracle req _ placed _ at_i (.card payment) (commitCart_links (guard_ok done))
    · cases taken
      exact .same
  | captureRead placed payment =>
    simp only [Storefront.advance] at taken
    split at taken <;> cases taken <;> exact .same
  | capture placed row =>
    simp only [Storefront.advance] at taken
    split at taken <;> cases taken <;> exact .same
  | captureWrite placed row intent =>
    simp only [Storefront.advance] at taken
    split at taken
    next last done =>
      cases taken
      obtain rfl := Except.ok.inj (guard_ok done)
      exact .captured i oracle req placed row intent at_i (guard_quiet done)
    · cases taken
      exact .same
  | paid placed payment =>
    simp only [Storefront.advance] at taken
    split at taken
    next last done =>
      cases taken
      exact .paid i oracle req placed payment at_i done
    · cases taken
      exact .same
  | undo todo cart frame e =>
    cases todo with
    | nil =>
      cases taken
      exact .same
    | cons action rest =>
      simp only [Storefront.advance] at taken
      split at taken
      next last done =>
        cases taken
        rcases undo_touch (guard_ok done) with frees | ⟨order, rfl, mine, _⟩
        · exact .frees frees
        · simp only [Undo.run, mine] at done
          exact .cancelledOwn i oracle req rest cart frame e order at_i mine done
      · cases taken
        exact .same
  | done frame result =>
    cases taken
    exact .same
  | crashed todo frame e =>
    cases taken
    exact .same

theorem step_change {settings : Settings} {lib : WebhookLibrary} {s s' : Sys} {l : Label}
    (taken : step settings lib s l = some s') : Change lib s l s'.db := by
  cases l with
  | tick seconds => cases taken; exact .same
  | shop tables =>
    cases taken
    exact .leaves (.of_tables rfl rfl rfl rfl rfl)
  | createProduct tenant id data =>
    obtain ⟨db', done, rfl⟩ := commits_eq_some taken
    obtain ⟨frame, _⟩ := createProduct_grows done
    change Change lib s _ db'
    rw [frame]
    exact .stocked [] rfl rfl rfl (List.append_nil _).symm (by simp)
  | patchProduct tenant product data =>
    obtain ⟨db', done, rfl⟩ := commits_eq_some taken
    exact .leaves (patchProduct_leaves done)
  | deactivateProduct tenant product =>
    obtain ⟨db', done, rfl⟩ := commits_eq_some taken
    exact .leaves (deactivateProduct_leaves done)
  | begin i req =>
    simp only [step] at taken
    split at taken
    · cases taken; exact .same
    · cases taken
  | advance i oracle =>
    simp only [step] at taken
    split at taken
    · cases taken
    next call at_i =>
      split at taken
      · cases taken
      · cases taken
        obtain ⟨req, pc⟩ := call
        exact advance_change at_i rfl
  | cancelOrder tenant customer order =>
    obtain ⟨db', done, rfl⟩ := commits_eq_some taken
    exact .cancelled tenant customer order done
  | receive post =>
    simp only [step] at taken
    split at taken
    · cases taken; exact .same
    · cases taken
  | process k =>
    simp only [step] at taken
    split at taken
    next task queued =>
      obtain ⟨db', done, rfl⟩ := commits_eq_some taken
      rcases processWebhookEvent_cases done with same | applied
      · exact same ▸ .same
      · exact .applied k task queued applied
    · cases taken
  | sweep => cases taken; exact .same
  | reconcile payment answer =>
    simp only [step] at taken
    split at taken
    · obtain ⟨db', done, rfl⟩ := commits_eq_some taken
      obtain ⟨⟨outcome, _⟩, reconciled, rfl⟩ := map_eq_ok.mp done
      exact .reconciled payment answer outcome reconciled
    · cases taken
  | expire scan cutoff =>
    simp only [step] at taken
    split at taken
    · obtain ⟨db', done, rfl⟩ := commits_eq_some taken
      exact .frees (releaseExpiredBatch_frees done)
    · cases taken
  | markPaidRead tenant order reference =>
    simp only [step] at taken
    split at taken
    · cases taken; exact .same
    · cases taken
  | markPaidWrite k =>
    simp only [step] at taken
    split at taken
    next mark listed =>
      obtain ⟨db', done, rfl⟩ := commits_eq_some taken
      exact .marked k mark listed done
    · cases taken
  | refundRead tenant payment amount =>
    simp only [step] at taken
    split at taken
    · cases taken; exact .same
    · cases taken
  | refundCall k answer =>
    simp only [step] at taken
    split at taken
    · cases taken; exact .same
    · cases taken
  | refundWrite k =>
    simp only [step] at taken
    split at taken
    next row amount intent listed =>
      cases taken
      exact .refunded k row amount intent listed
    · cases taken

section Blocks

variable {settings : Settings} {lib : WebhookLibrary} {s s' : Sys}

theorem step_process {k : Nat} {task : WebhookTask} {db' : Db}
    (taken : step settings lib s (.process k) = some s') (queued : s.queue[k]? = some task)
    (done : applyWebhookEvent lib task s.now s.db = .ok db') : s'.db = db' := by
  have processed : processWebhookEvent lib task s.now s.db = .ok db' := by
    simp [processWebhookEvent, done]
  simp only [step, queued, processed, Sys.commits, Option.some.injEq] at taken
  rw [← taken]
  rfl

theorem step_advance {i : Nat} {oracle : Oracle} {req : Request} {pc : Pc}
    (taken : step settings lib s (.advance i oracle) = some s') (at_i : s.calls i = some ⟨req, pc⟩) :
    s'.db = (advance settings req { oracle with now := s.now } s.db pc).2.1 := by
  simp only [step, at_i] at taken
  split at taken
  · cases taken
  · rw [← Option.some.inj taken]
    rfl

theorem step_advance_call {i : Nat} {oracle : Oracle} {req : Request} {pc : Pc}
    (taken : step settings lib s (.advance i oracle) = some s') (at_i : s.calls i = some ⟨req, pc⟩) :
    s'.calls i = some ⟨req, (advance settings req { oracle with now := s.now } s.db pc).1⟩ := by
  simp only [step, at_i] at taken
  split at taken
  · cases taken
  · rw [← Option.some.inj taken]
    exact Function.update_self ..

theorem step_recordResult {i : Nat} {oracle : Oracle} {req : Request} {placed : Placed}
    {payment : Payment} {intent : PaymentIntent} {db' : Db}
    (taken : step settings lib s (.advance i oracle) = some s')
    (at_i : s.calls i = some ⟨req, .recordResult placed payment intent⟩)
    (done : oracle.guard (recordPaymentResult req.tenant payment.id intent s.db) = .ok db') :
    s'.db = db' := by
  have committed : Oracle.guard { oracle with now := s.now }
      (recordPaymentResult req.tenant payment.id intent s.db) = .ok db' := done
  rw [step_advance taken at_i]
  simp only [advance, committed]
  split <;> rfl

theorem step_refundWrite {k : Nat} {row : Payment} {amount : Option String} {intent : PaymentIntent}
    (taken : step settings lib s (.refundWrite k) = some s')
    (listed : s.refunds[k]? = some ⟨row, amount, .write intent⟩) :
    s'.db = refundWrite row.tenant row.id intent s.db := by
  simp only [step, listed, Option.some.injEq] at taken
  rw [← taken]
  rfl

theorem step_paid {i : Nat} {oracle : Oracle} {req : Request} {placed : Placed} {payment : Payment}
    {db' : Db} (taken : step settings lib s (.advance i oracle) = some s')
    (at_i : s.calls i = some ⟨req, .paid placed payment⟩)
    (done : oracle.guard (markCaptured req placed s.db) = .ok db') : s'.db = db' := by
  have committed : Oracle.guard { oracle with now := s.now } (markCaptured req placed s.db) = .ok db' := done
  rw [step_advance taken at_i]
  simp only [advance, committed]

theorem step_cancelOwn {i : Nat} {oracle : Oracle} {req : Request} {rest : List Undo} {cart : Id}
    {frame : Frame} {e : Exn} {order : Order} {db' : Db}
    (taken : step settings lib s (.advance i oracle) = some s')
    (at_i : s.calls i = some ⟨req, .undo (.cancelOrder :: rest) cart frame e⟩)
    (mine : frame.order = some order)
    (done : oracle.guard (cancelOwnOrder req.tenant order.id s.db) = .ok db') : s'.db = db' := by
  have committed : Oracle.guard { oracle with now := s.now } (cancelOwnOrder req.tenant order.id s.db) =
      .ok db' := done
  rw [step_advance taken at_i]
  simp only [advance, Undo.run, mine, committed]

theorem step_captureWrite {i : Nat} {oracle : Oracle} {req : Request} {placed : Placed} {row : Payment}
    {intent : PaymentIntent} (taken : step settings lib s (.advance i oracle) = some s')
    (at_i : s.calls i = some ⟨req, .captureWrite placed row intent⟩) (quiet : oracle.fault = none) :
    s'.db = captureWrite req.tenant row.id intent s.db := by
  have unfaulted : ({ oracle with now := s.now } : Oracle).fault = none := quiet
  rw [step_advance taken at_i]
  simp only [advance, guard_unfaulted unfaulted]

theorem step_cancelOrder {tenant customer order : Id} {db' : Db}
    (taken : step settings lib s (.cancelOrder tenant customer order) = some s')
    (done : cancelOrder tenant customer order s.db = .ok db') : s'.db = db' := by
  simp only [step, done, Sys.commits, Option.some.injEq] at taken
  rw [← taken]
  rfl

theorem step_reconcile {payment : Id} {answer : Except Exn (Option PaymentIntent)} {db' : Db}
    (taken : step settings lib s (.reconcile payment answer) = some s')
    (done : Prod.snd <$> reconcileOne payment answer s.now s.db = .ok db') : s'.db = db' := by
  simp only [step, done, Sys.commits] at taken
  split at taken
  · rw [← Option.some.inj taken]
    rfl
  · cases taken

end Blocks

end Storefront
