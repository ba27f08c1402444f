import Storefront.System.Changes

set_option autoImplicit false

/-!
# The life of a payment
-/

namespace Storefront

open Relational Transition

-- Captured money is only ever refunded.
def PaymentStatus.Keeps (old new : PaymentStatus) : Prop :=
  (old = .captured → new = .captured ∨ new = .refunded) ∧ (old = .refunded → new = .refunded)

instance (old new : PaymentStatus) : Decidable (old.Keeps new) := by
  unfold PaymentStatus.Keeps; infer_instance

theorem PaymentStatus.Keeps.refl (s : PaymentStatus) : s.Keeps s := ⟨.inl, id⟩

theorem PaymentStatus.keeps_of_open {old new : PaymentStatus} (captured : old ≠ .captured)
    (refunded : old ≠ .refunded) : old.Keeps new :=
  ⟨fun same => absurd same captured, fun same => absurd same refunded⟩

/-- Every payment is still there, and a final status was kept. -/
def PaymentsKept (move : Move Sys Label) : Prop :=
  ∀ id old, move.before.db.paymentStatus id = some old →
    ∃ new, move.after.db.paymentStatus id = some new ∧ old.Keeps new

def Commits (block : Outcome Db) : Prop := ∃ db, block = .ok db

/-- The three writers that do not look at the status find none they would turn back. -/
structure SparesFinal (lib : WebhookLibrary) (move : Move Sys Label) : Prop where
  applied : ∀ k task, move.label = .process k → move.before.queue[k]? = some task →
    Commits (applyWebhookEvent lib task move.before.now move.before.db) →
    ∀ p ∈ move.before.db.payments.rows, p.id = task.payment →
      p.status.Keeps (mapGatewayStatus task.new_status)
  recorded : ∀ i oracle req placed payment intent, move.label = .advance i oracle →
    move.before.calls i = some ⟨req, .recordResult placed payment intent⟩ →
    Commits (oracle.guard (recordPaymentResult req.tenant payment.id intent move.before.db)) →
    ∀ p ∈ move.before.db.payments.rows, p.tenant = req.tenant ∧ p.id = payment.id →
      p.status.Keeps (mapGatewayStatus intent.status)
  refunded : ∀ k row amount intent, move.label = .refundWrite k →
    move.before.refunds[k]? = some ⟨row, amount, .write intent⟩ →
    ∀ p ∈ move.before.db.payments.rows, p.tenant = row.tenant ∧ p.id = row.id →
      p.status.Keeps (mapGatewayStatus intent.status)

theorem Touch.kept {s s' : Sys} {l : Label} {f : Order → OrderStatus} {g : Payment → PaymentStatus}
    {h : InventoryReservation → ReservationStatus} (touch : Touch s.db s'.db f g h)
    (keeps : ∀ p ∈ s.db.payments.rows, p.status.Keeps (g p)) : PaymentsKept ⟨s, l, s'⟩ := by
  intro id old found
  obtain ⟨p, member, rfl, rfl⟩ := Db.paymentStatus_eq_some.mp found
  exact ⟨g p, touch.paymentStatus member, keeps p member⟩

theorem PaymentsKept.of_rows {s s' : Sys} {l : Label} {new : List Payment}
    (rows : s'.db.payments.rows = s.db.payments.rows ++ new) : PaymentsKept ⟨s, l, s'⟩ := by
  intro id old found
  obtain ⟨p, member, rfl, rfl⟩ := Db.paymentStatus_eq_some.mp found
  refine ⟨p.status, Db.paymentStatus_of_mem ?_, .refl _⟩
  rw [rows]
  exact List.mem_append_left _ member

theorem PaymentsKept.of_table {s s' : Sys} {l : Label} (same : s'.db.payments = s.db.payments) :
    PaymentsKept ⟨s, l, s'⟩ :=
  @of_rows s s' l [] (by rw [same, List.append_nil])

theorem Change.kept {lib : WebhookLibrary} {s s' : Sys} {l : Label} (change : Change lib s l s'.db)
    (spares : SparesFinal lib ⟨s, l, s'⟩) : PaymentsKept ⟨s, l, s'⟩ := by
  generalize after : s'.db = db' at change
  cases change with
  | frees frees =>
    obtain ⟨_, touch, _⟩ := frees
    exact (after ▸ touch).kept fun p _ => .refl p.status
  | stocked new orders items payments => exact .of_table (after ▸ payments)
  | ordered i oracle order items rows status unlinked lines mine payments =>
    exact .of_table (after ▸ payments)
  | billed i oracle req pc placed row at_i bills named rows => exact .of_rows (after ▸ rows)
  | linked i oracle req pc placed h at_i converts links => exact .of_table (after ▸ links.payments)
  | recorded i oracle req placed payment intent at_i done =>
    refine (after ▸ recordPaymentResult_touch (guard_ok done)).kept fun p member => ?_
    split
    next here => exact spares.recorded i oracle req placed payment intent rfl at_i ⟨_, done⟩ p member here
    · exact .refl _
  | captured i oracle req placed row intent at_i quiet =>
    refine (after ▸ captureWrite_touch _ _ _ _).kept fun p _ => ?_
    split
    next here => exact PaymentStatus.keeps_of_open (by simp [here.2]) (by simp [here.2])
    · exact .refl _
  | paid i oracle req placed payment at_i done =>
    exact (after ▸ markCaptured_touch (guard_ok done)).kept fun p _ => .refl p.status
  | cancelledOwn i oracle req rest cart frame e order at_i mine done =>
    exact (after ▸ cancelOwnOrder_touch (guard_ok done)).kept fun p _ => .refl p.status
  | cancelled tenant customer order done =>
    rcases cancelOrder_touch done with same | ⟨_, _, _, _, _, _, touch, _⟩
    · exact .of_table (by rw [after, same])
    · refine (after ▸ touch).kept fun p _ => ?_
      unfold closedWith
      split
      next closing =>
        have live := closing.2
        refine PaymentStatus.keeps_of_open ?_ ?_ <;> intro same <;> simp [same, openPayment] at live
      · exact .refl _
  | applied k task queued done =>
    obtain ⟨p, member, named, _, o, _, _, _, touch⟩ := applyWebhookEvent_touch done
    refine (after ▸ touch).kept fun q inside => ?_
    unfold PaymentStatus.at
    split
    next same => exact spares.applied k task rfl queued ⟨_, done⟩ q inside (same.trans named)
    · exact .refl _
  | reconciled payment answer outcome done =>
    rcases reconcileOne_touch done with ⟨same, _⟩ | ⟨p, member, _, pending, status, _, _, either⟩
    · exact .of_table (by rw [after, same])
    · have keeps : ∀ q ∈ s.db.payments.rows, q.status.Keeps (PaymentStatus.at p.id status q) := by
        intro q inside
        unfold PaymentStatus.at
        split
        next same =>
          rw [s.db.payments.eq_of_key inside member same]
          exact PaymentStatus.keeps_of_open (by simp [pending]) (by simp [pending])
        · exact .refl _
      rcases either with ⟨_, _, _, touch⟩ | ⟨_, _, _, touch⟩
      · exact (after ▸ touch).kept keeps
      · exact (after ▸ touch).kept keeps
  | marked k mark listed done =>
    obtain ⟨p, member, named, status, _, _, _, _, touch⟩ := markPaidWrite_touch done
    refine (after ▸ touch).kept fun q inside => ?_
    unfold PaymentStatus.at
    split
    next same =>
      rw [s.db.payments.eq_of_key inside member (same.trans named.symm)]
      rcases status with captured | pending
      · exact captured ▸ .refl _
      · exact PaymentStatus.keeps_of_open (by simp [pending]) (by simp [pending])
    · exact .refl _
  | refunded k row amount intent listed =>
    refine (after ▸ refundWrite_touch _ _ _ _).kept fun p member => ?_
    split
    next here => exact spares.refunded k row amount intent rfl listed p member here
    · exact .refl _

theorem SparesFinal.of_kept {settings : Settings} {lib : WebhookLibrary} {s s' : Sys} {l : Label}
    (taken : step settings lib s l = some s') (kept : PaymentsKept ⟨s, l, s'⟩) :
    SparesFinal lib ⟨s, l, s'⟩ := by
  have keeps {p : Payment} {new : PaymentStatus} (member : p ∈ s.db.payments.rows)
      (written : s'.db.paymentStatus p.id = some new) : p.status.Keeps new := by
    obtain ⟨status, found, keeps⟩ := kept p.id p.status (Db.paymentStatus_of_mem member)
    obtain rfl : status = new := Option.some.inj (found.symm.trans written)
    exact keeps
  refine ⟨?_, ?_, ?_⟩
  · rintro k task rfl queued ⟨db', done⟩ p member named
    obtain ⟨q, inside, same, _, o, _, _, _, touch⟩ := applyWebhookEvent_touch done
    rw [← step_process taken queued done] at touch
    apply keeps member
    rw [touch.paymentStatus member]
    simp [PaymentStatus.at, named, same]
  · rintro i oracle req placed payment intent rfl at_i ⟨db', done⟩ p member named
    have touch := recordPaymentResult_touch (guard_ok done)
    rw [← step_recordResult taken at_i done] at touch
    apply keeps member
    rw [touch.paymentStatus member, if_pos named]
  · rintro k row amount intent rfl listed p member named
    have touch := refundWrite_touch row.tenant row.id intent s.db
    rw [← step_refundWrite taken listed] at touch
    apply keeps member
    rw [touch.paymentStatus member, if_pos named]

/-- Along a run, captured money is only ever refunded exactly when the writers that
ignore the status never turn a final one back. -/
theorem payments_kept_iff (settings : Settings) (lib : WebhookLibrary) {s₀ s : Sys}
    {moves : List (Move Sys Label)} (run : (machine settings lib).Run s₀ moves s) :
    (∀ move ∈ moves, PaymentsKept move) ↔ ∀ move ∈ moves, SparesFinal lib move := by
  refine @Machine.Run.forall_iff _ _ _ (fun _ => True) _ _ (fun _ _ => trivial) (fun _ _ _ _ _ => trivial) ?_
    _ _ _ run
  intro s l s' _ taken
  exact ⟨SparesFinal.of_kept taken, (step_change taken).kept⟩

namespace Sample

-- The money is captured; then the authorization's own event arrives.
def late : List Label :=
  .begin 0 request :: blocks (capturing ++ [.paid]) ++ [.receive authorizedMail.post]

def beforeLate : Sys := (lab.exec start late).get (by decide +kernel)
def afterLate : Sys := (step settings library beforeLate (.process 0)).get (by decide +kernel)

theorem late_runs : lab.exec start late = some beforeLate := (Option.some_get _).symm
theorem late_taken : lab.step beforeLate (.process 0) = some afterLate := (Option.some_get _).symm

end Sample

theorem payments_kept_until_late : ∃ moves, Sample.lab.Run Sample.start moves Sample.beforeLate ∧
    ((∀ move ∈ moves, PaymentsKept move) ↔ ∀ move ∈ moves, SparesFinal Sample.library move) := by
  obtain ⟨moves, run⟩ := Machine.exec_run Sample.start_initial Sample.late_runs
  exact ⟨moves, run, payments_kept_iff _ _ run⟩

theorem payment_turned_back : ¬ ∀ moves s, Sample.lab.Run Sample.start moves s →
    ∀ move ∈ moves, PaymentsKept move := by
  intro kept
  obtain ⟨moves, run, member⟩ :=
    Machine.exec_last Sample.start_initial Sample.late_runs Sample.late_taken
  have captured : Sample.beforeLate.db.paymentStatus 300 = some .captured := by decide +kernel
  obtain ⟨new, found, keeps⟩ := kept moves _ run _ member 300 .captured captured
  have turned : Sample.afterLate.db.paymentStatus 300 = some .authorized := by decide +kernel
  obtain rfl : new = .authorized := Option.some.inj (found.symm.trans turned)
  revert keeps
  decide

-- The payment a result write aims at, with the status the operation last knew of it.
def resultWrite (s : Sys) : Label → Option (Id × PaymentStatus)
  | .advance i _ => match s.calls i with
    | some ⟨_, .recordResult _ payment _⟩ => some (payment.id, payment.status)
    | some ⟨_, .captureWrite _ row _⟩ => some (row.id, row.status)
    | _ => none
  | .refundWrite k => match s.refunds[k]? with
    | some ⟨row, _, .write _⟩ => some (row.id, row.status)
    | _ => none
  | _ => none

/-- A result write leaves a row alone that has another status by now. -/
def NoLostUpdate (move : Move Sys Label) : Prop :=
  ∀ id expected, resultWrite move.before move.label = some (id, expected) →
    ∀ p, move.before.db.payments.get id = some p → p.status ≠ expected →
      move.after.db.payments.get id = some p

def answered (payment : Payment) (intent : PaymentIntent) : Payment :=
  { payment with
    status := mapGatewayStatus intent.status
    gateway_response := rawResponse intent }

/-- The two result writes without a guard find the status their operation left, or
have nothing to write. -/
structure FindsOwn (move : Move Sys Label) : Prop where
  recorded : ∀ i oracle req placed payment intent, move.label = .advance i oracle →
    move.before.calls i = some ⟨req, .recordResult placed payment intent⟩ →
    Commits (oracle.guard (recordPaymentResult req.tenant payment.id intent move.before.db)) →
    ∀ p ∈ move.before.db.payments.rows, p.tenant = req.tenant ∧ p.id = payment.id →
      p.status = payment.status ∨ authorized p intent = p
  refunded : ∀ k row amount intent, move.label = .refundWrite k →
    move.before.refunds[k]? = some ⟨row, amount, .write intent⟩ →
    ∀ p ∈ move.before.db.payments.rows, p.tenant = row.tenant ∧ p.id = row.id →
      p.status = row.status ∨ answered p intent = p

theorem get_modifyPayments {db : Db} {q : Payment → Bool} {f : Payment → Payment} {inert : Table.Inert f}
    (keyed : ∀ p, (f p).id = p.id) {id : Id} {p : Payment} (found : db.payments.get id = some p) :
    (db.modifyPayments q f inert).payments.get id = some (Table.updated q f p) := by
  have rows : (db.modifyPayments q f inert).payments.rows = db.payments.rows.map (Table.updated q f) := rfl
  rw [Table.get_updated rows keyed, found]
  rfl

theorem updated_eq_self {p : Payment} {q : Payment → Bool} {f : Payment → Payment}
    (spared : q p = true → f p = p) : Table.updated q f p = p := by
  unfold Table.updated
  split
  next picked => exact spared picked
  · rfl

theorem FindsOwn.kept {settings : Settings} {lib : WebhookLibrary} {s s' : Sys} {l : Label}
    (owned : s.Owned) (taken : step settings lib s l = some s') (own : FindsOwn ⟨s, l, s'⟩) :
    NoLostUpdate ⟨s, l, s'⟩ := by
  intro id expected aimed p found other
  obtain ⟨member, named⟩ := Table.mem_of_get found
  dsimp only at aimed found member ⊢
  cases l with
  | advance i oracle =>
    simp only [resultWrite] at aimed
    split at aimed
    next req placed payment intent at_i =>
      obtain ⟨rfl, rfl⟩ : payment.id = id ∧ payment.status = expected := by simpa using aimed
      rw [step_advance taken at_i]
      simp only [advance]
      split
      next db' done =>
        have written := (recordPaymentResult_eq_ok.mp (guard_ok done)).2
        have target : (if intent.status = .failed then
            (authorizeRaised placed (some payment) (declined intent), db', ([] : List GatewayCall))
          else (.convert placed (authorized payment intent), db', [])).2.1 = db' := by split <;> rfl
        rw [target, ← written, get_modifyPayments (by exact fun _ => rfl) found, updated_eq_self fun picked => ?_]
        simp only [Bool.and_eq_true, beq_iff_eq] at picked
        have same := own.recorded i oracle req placed payment intent rfl at_i ⟨db', done⟩ p member picked
        exact same.resolve_left other
      · exact found
    next req placed row intent at_i =>
      obtain ⟨rfl, rfl⟩ : row.id = id ∧ row.status = expected := by simpa using aimed
      -- The row was read as authorized, which the WHERE clause asks again.
      have authorized : row.status = .authorized := (owned.stage i _ at_i).2.2
      rw [step_advance taken at_i]
      simp only [advance]
      split
      next db' done =>
        rw [← Except.ok.inj (guard_ok done)]
        simp only [captureWrite]
        rw [get_modifyPayments (by exact fun _ => rfl) found, updated_eq_self fun picked => ?_]
        simp only [Bool.and_eq_true, beq_iff_eq] at picked
        exact absurd (picked.2.trans authorized.symm) other
      · exact found
    · cases aimed
  | refundWrite k =>
    simp only [resultWrite] at aimed
    split at aimed
    next row amount intent listed =>
      obtain ⟨rfl, rfl⟩ : row.id = id ∧ row.status = expected := by simpa using aimed
      rw [step_refundWrite taken listed]
      simp only [refundWrite]
      rw [get_modifyPayments (by exact fun _ => rfl) found, updated_eq_self fun picked => ?_]
      simp only [Bool.and_eq_true, beq_iff_eq] at picked
      exact (own.refunded k row amount intent rfl listed p member picked).resolve_left other
    · cases aimed
  | _ => cases aimed

theorem FindsOwn.of_kept {settings : Settings} {lib : WebhookLibrary} {s s' : Sys} {l : Label}
    (taken : step settings lib s l = some s') (kept : NoLostUpdate ⟨s, l, s'⟩) :
    FindsOwn ⟨s, l, s'⟩ := by
  refine ⟨?_, ?_⟩
  · rintro i oracle req placed payment intent rfl at_i ⟨db', done⟩ p member ⟨owner, named⟩
    dsimp only at at_i done member
    by_cases same : p.status = payment.status
    · exact .inl same
    have found : s.db.payments.get payment.id = some p := named ▸ Table.get_of_mem member
    have after := kept payment.id payment.status (by simp [resultWrite, at_i]) p found same
    have written := (recordPaymentResult_eq_ok.mp (guard_ok done)).2
    dsimp only at after
    rw [step_recordResult taken at_i done, ← written,
      get_modifyPayments (by exact fun _ => rfl) found, Option.some.injEq] at after
    exact .inr ((if_pos (by simp [owner, named])).symm.trans after)
  · rintro k row amount intent rfl listed p member ⟨owner, named⟩
    dsimp only at listed member
    by_cases same : p.status = row.status
    · exact .inl same
    have found : s.db.payments.get row.id = some p := named ▸ Table.get_of_mem member
    have after := kept row.id row.status (by simp [resultWrite, listed]) p found same
    simp only [step_refundWrite taken listed, refundWrite] at after
    rw [get_modifyPayments (by exact fun _ => rfl) found, Option.some.injEq] at after
    exact .inr ((if_pos (by simp [owner, named])).symm.trans after)

/-- Along a run, no result write overwrites a newer status exactly when the two
writers without a guard always find the status their operation left. -/
theorem no_lost_update_iff (settings : Settings) (lib : WebhookLibrary) {s₀ s : Sys}
    {moves : List (Move Sys Label)} (run : (machine settings lib).Run s₀ moves s) :
    (∀ move ∈ moves, NoLostUpdate move) ↔ ∀ move ∈ moves, FindsOwn move := by
  refine run.forall_iff (fun _ initial => Sys.Owned.start initial)
    (fun _ _ _ owned taken => Sys.Owned.step owned taken) ?_
  intro s l s' owned taken
  exact ⟨FindsOwn.of_kept taken, FindsOwn.kept owned taken⟩

namespace Sample

-- The customer cancels the order while the gateway authorizes.
def abandoned : List Label := .begin 0 request :: blocks authorizing ++ [.cancelOrder 1 10 200]

def recording : Label := .advance 0 (oracle .recordResult)

def beforeLost : Sys := (lab.exec start abandoned).get (by decide +kernel)
def afterLost : Sys := (step settings library beforeLost recording).get (by decide +kernel)

theorem abandoned_runs : lab.exec start abandoned = some beforeLost := (Option.some_get _).symm
theorem lost_taken : lab.step beforeLost recording = some afterLost := (Option.some_get _).symm

end Sample

theorem no_lost_update_abandoned : ∃ moves, Sample.lab.Run Sample.start moves Sample.beforeLost ∧
    ((∀ move ∈ moves, NoLostUpdate move) ↔ ∀ move ∈ moves, FindsOwn move) := by
  obtain ⟨moves, run⟩ := Machine.exec_run Sample.start_initial Sample.abandoned_runs
  exact ⟨moves, run, no_lost_update_iff _ _ run⟩

theorem update_lost : ¬ ∀ moves s, Sample.lab.Run Sample.start moves s →
    ∀ move ∈ moves, NoLostUpdate move := by
  intro kept
  obtain ⟨moves, run, member⟩ :=
    Machine.exec_last Sample.start_initial Sample.abandoned_runs Sample.lost_taken
  have cancelled : Sample.beforeLost.db.paymentStatus 300 = some .cancelled := by decide +kernel
  obtain ⟨p, inside, named, status⟩ := Db.paymentStatus_eq_some.mp cancelled
  have aimed : resultWrite Sample.beforeLost Sample.recording = some (300, .pending) := by decide +kernel
  have still := kept moves _ run _ member 300 .pending aimed p (named ▸ Table.get_of_mem inside)
    (by simp [status])
  have turned : Sample.afterLost.db.paymentStatus 300 = some .authorized := by decide +kernel
  obtain ⟨same, key⟩ := Table.mem_of_get still
  have stays := Db.paymentStatus_of_mem same
  rw [named, turned, status] at stays
  cases stays

end Storefront
