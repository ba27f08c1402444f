import Storefront.Queueing.Rounds
import Storefront.System.Deliveries

set_option autoImplicit false

/-!
# Sweep after sweep

A sweep takes the hundred oldest stale payments. Those that stay PENDING keep
their place and are taken again by the next one.
-/

namespace Storefront

open Relational Transition

def Db.backlog (db : Db) (now : Time) : List Payment :=
  (db.payments.rows.filter fun p => p.status == .pending && decide (p.updated_at + minutes 10 < now))
    |>.insertionSort fun p q => p.updated_at ≤ q.updated_at

-- What _reconcile_one raises is logged, and the loop goes on.
def reconcilePendingPayments (answer : Id → Except Exn (Option PaymentIntent)) (now : Time) (db : Db) : Db :=
  (reconcileCandidates now db).foldl
    (fun db payment => rolledBack db (Prod.snd <$> reconcileOne payment (answer payment) now db)) db

def Payment.stays (db : Db) (answer : Except Exn (Option PaymentIntent)) (p : Payment) : Bool :=
  p.gateway_transaction_id != "" &&
    match gatewayConfigOf db p.gateway_config >>= fun config => Adapter.get config.gateway_name, answer with
    | .ok _, .ok (some intent) => intent.status == .pending
    | _, _ => true

-- As many runs as the stale payments fill.
def Db.runsFor (db : Db) (now : Time) : Nat := ((db.backlog now).length + 99) / 100

/-- The stale payments, oldest first, fall into one group for each run, and each group leaves
room for the payments of earlier groups that stay. -/
def LeavesRoom (answer : Id → Except Exn (Option PaymentIntent)) (now : Time) (db : Db) : Prop :=
  ∃ groups, groups.length = db.runsFor now ∧ groups.flatten = db.backlog now ∧
    Queueing.Fits 100 (fun p => p.stays db (answer p.id)) 0 groups

section Rows

variable {db db' : Db} {now : Time}

theorem applyOrderPaid_frame {tenant : Id} {order : Order} (done : applyOrderPaid tenant order db = .ok db') :
    db'.payments = db.payments ∧ db'.gatewayConfigs = db.gatewayConfigs := by
  unfold applyOrderPaid at done
  split at done
  · rw [(settleForOrder_settled done).1.frame]
    exact ⟨rfl, rfl⟩
  · cases done
    exact ⟨rfl, rfl⟩

theorem applyOrderCancelled_frame {tenant : Id} {order : Order} (done : applyOrderCancelled tenant order db = .ok db') :
    db'.payments = db.payments ∧ db'.gatewayConfigs = db.gatewayConfigs := by
  unfold applyOrderCancelled at done
  split at done
  · obtain ⟨mid, released, reverted⟩ := bind_eq_ok.mp done
    have first : mid.payments = db.payments ∧ mid.gatewayConfigs = db.gatewayConfigs := by
      rw [(settleForOrder_settled released).1.frame]
      exact ⟨rfl, rfl⟩
    unfold revertCartIfCheckingOut at reverted
    split at reverted
    · cases reverted
      exact first
    · obtain ⟨_, _, rfl⟩ := stored_eq_ok.mp reverted
      exact first
  · cases done
    exact ⟨rfl, rfl⟩

structure Moves (payment : Id) (status : PaymentStatus) (now : Time) (db db' : Db) : Prop where
  payments : ∃ note value, db'.payments = (storeReconciled payment status note value now db).payments
  gatewayConfigs : db'.gatewayConfigs = db.gatewayConfigs

section Stored

variable {p : Payment} (receptive : db.Receptive) (member : p ∈ db.payments.rows) (status : PaymentStatus)
  (note : String) (value : Json) (now : Time)
include receptive member

theorem orderUnscoped_of_payment : ∃ o, orderUnscoped (storeReconciled p.id status note value now db) p.order = .ok o ∧
    o ∈ (storeReconciled p.id status note value now db).orders.rows := by
  obtain ⟨o, present, named, _⟩ := receptive.filed p member
  have found : db.orders.get p.order = some o := named ▸ Table.get_of_mem present
  exact ⟨o, orRaise_eq_ok.mpr found, present⟩

theorem markOrderPaid_moves : ∃ db', markOrderPaid p.tenant p.order (storeReconciled p.id status note value now db) =
    .ok db' ∧ Moves p.id status now db db' := by
  obtain ⟨o, found, _⟩ := orderUnscoped_of_payment receptive member status note value now
  obtain ⟨db', done⟩ := applyOrderPaid_succeeds p.tenant o (storeReconciled p.id status note value now db)
  obtain ⟨payments, configs⟩ := applyOrderPaid_frame done
  exact ⟨db', bind_eq_ok.mpr ⟨o, found, done⟩, ⟨note, value, payments⟩, configs⟩

theorem markOrderCancelledAndRelease_moves : ∃ db', markOrderCancelledAndRelease p.tenant p.order
    (storeReconciled p.id status note value now db) = .ok db' ∧ Moves p.id status now db db' := by
  have stored := receptive.touched (storeReconciled_touch p.id status note value now db) (.of_tables rfl rfl rfl)
  obtain ⟨o, found, present⟩ := orderUnscoped_of_payment receptive member status note value now
  obtain ⟨db', done⟩ := applyOrderCancelled_succeeds p.tenant stored present
  obtain ⟨payments, configs⟩ := applyOrderCancelled_frame done
  exact ⟨db', bind_eq_ok.mpr ⟨o, found, done⟩, ⟨note, value, payments⟩, configs⟩

end Stored

theorem reconcileOne_pending {p : Payment} {answer : Except Exn (Option PaymentIntent)} (member : p ∈ db.payments.rows)
    (pending : p.status = .pending) : reconcileOne p.id answer now db =
      if p.gateway_transaction_id = "" then reconcileUnknownIntent p now db else reconcileKnownIntent p answer now db := by
  have found := db.payments.find_key (fun q => q.status == .pending) p.id
  rw [show db.payments.get p.id = some p from Table.get_of_mem member] at found
  have here : db.payments.rows.find? (fun q => q.id == p.id && q.status == .pending) = some p := by
    simp only [Bool.and_comm (_ == p.id)]
    exact found.trans (by simp [Option.filter, pending])
  rw [reconcileOne, here]

theorem reconcileOne_stays {p : Payment} {answer : Except Exn (Option PaymentIntent)} (member : p ∈ db.payments.rows)
    (pending : p.status = .pending) (stays : p.stays db answer = true) :
    rolledBack db (Prod.snd <$> reconcileOne p.id answer now db) = db := by
  simp only [Payment.stays, Bool.and_eq_true, bne_iff_ne] at stays
  rw [reconcileOne_pending member pending, if_neg stays.1]
  unfold reconcileKnownIntent
  cases configured : gatewayConfigOf db p.gateway_config with
  | error e => rfl
  | ok config =>
    cases adapted : Adapter.get config.gateway_name with
    | error e => simp [bind, Except.bind, adapted, rolledBack, Functor.map, Except.map]
    | ok adapter =>
      have waits := stays.2
      simp only [configured, bind, Except.bind, adapted] at waits ⊢
      cases answer with
      | error e => rfl
      | ok intent =>
        cases intent with
        | none => rfl
        | some intent =>
          simp only [beq_iff_eq] at waits
          simp [waits, rolledBack, Functor.map, Except.map, pure, Except.pure]

theorem mapGatewayStatus_pending {status : GatewayStatus} : mapGatewayStatus status = .pending ↔ status = .pending := by
  cases status <;> simp [mapGatewayStatus]

theorem reconcileOne_moves {p : Payment} {answer : Except Exn (Option PaymentIntent)} (receptive : db.Receptive)
    (member : p ∈ db.payments.rows) (pending : p.status = .pending) (moves : p.stays db answer = false) :
    ∃ outcome db' status, reconcileOne p.id answer now db = .ok (outcome, db') ∧ status ≠ .pending ∧
      Moves p.id status now db db' := by
  rw [reconcileOne_pending member pending]
  by_cases unnamed : p.gateway_transaction_id = ""
  · obtain ⟨db', done, moved⟩ := markOrderCancelledAndRelease_moves receptive member .failed "reconcile_reason"
      (.str "no_gateway_transaction_id") now
    refine ⟨.cancelled, db', .failed, ?_, by simp, moved⟩
    rw [if_pos unnamed, reconcileUnknownIntent]
    exact bind_eq_ok.mpr ⟨db', done, rfl⟩
  · have named : (p.gateway_transaction_id != "") = true := by simpa using unnamed
    simp only [Payment.stays, named, Bool.true_and] at moves
    split at moves
    next adapter intent adapted =>
      have settled : intent.status ≠ .pending := by simpa using moves
      obtain ⟨config, configured, adapted⟩ := bind_eq_ok.mp adapted
      have rest (α : Type) (next : PaymentGatewayConfig → Adapter → Outcome α) :
          (gatewayConfigOf db p.gateway_config >>= fun config => Adapter.get config.gateway_name >>= next config) =
            next config adapter := by
        simp [configured, adapted, bind, Except.bind]
      rw [if_neg unnamed]
      unfold reconcileKnownIntent
      simp only [rest, if_neg settled]
      have left : mapGatewayStatus intent.status ≠ .pending := fun same => settled (mapGatewayStatus_pending.mp same)
      split
      · obtain ⟨db', done, moved⟩ := markOrderPaid_moves receptive member (mapGatewayStatus intent.status)
          "reconciled_intent" (rawResponse intent) now
        exact ⟨.converged, db', _, bind_eq_ok.mpr ⟨db', done, rfl⟩, left, moved⟩
      · split
        · obtain ⟨db', done, moved⟩ := markOrderCancelledAndRelease_moves receptive member
            (mapGatewayStatus intent.status) "reconciled_intent" (rawResponse intent) now
          exact ⟨.cancelled, db', _, bind_eq_ok.mpr ⟨db', done, rfl⟩, left, moved⟩
        · exact ⟨.converged, _, _, rfl, left, ⟨_, _, rfl⟩, rfl⟩
    · cases moves

end Rows

def Db.pendingPayments (db : Db) : List Payment := db.payments.rows.filter fun p => p.status == .pending

section Runs

variable {db db' : Db} {now : Time} {answer : Id → Except Exn (Option PaymentIntent)}

theorem Payment.stays_congr {p : Payment} {intent : Except Exn (Option PaymentIntent)}
    (same : db'.gatewayConfigs = db.gatewayConfigs) : p.stays db' intent = p.stays db intent := by
  unfold Payment.stays gatewayConfigOf
  rw [same]

theorem Moves.pendingPayments {payment : Id} {status : PaymentStatus} (moved : Moves payment status now db db')
    (settled : status ≠ .pending) : db'.pendingPayments = db.pendingPayments.filter fun q => q.id != payment := by
  obtain ⟨note, value, payments⟩ := moved.payments
  rw [Db.pendingPayments, payments]
  simp only [storeReconciled, Db.modifyPayments, Table.modify_rows, List.filter_map, Db.pendingPayments,
    List.filter_filter]
  refine (List.map_congr_left fun q inside => ?_).trans ((List.map_id _).trans (List.filter_congr fun q _ => ?_))
  · have selected := (List.mem_filter.mp inside).2
    simp only [Function.comp_apply, Table.updated] at selected ⊢
    split at selected
    · simp [settled] at selected
    next other => simp [other]
  · by_cases mine : q.id = payment
    · simp [Table.updated, mine, settled]
    · simp [Table.updated, mine]

theorem reconcileOne_handed (answer : Id → Except Exn (Option PaymentIntent)) (now : Time) (receptive : db.Receptive)
    (payment : Id) {last : Db}
    (handed : rolledBack db (Prod.snd <$> reconcileOne payment (answer payment) now db) = last) :
    last.Receptive ∧ last.gatewayConfigs = db.gatewayConfigs ∧ last.pendingPayments =
      db.pendingPayments.filter fun q => !(q.id == payment) || q.stays db (answer q.id) := by
  have unchanged (same : last = db) (stay : ∀ q ∈ db.pendingPayments, q.id = payment → q.stays db (answer q.id) = true) :
      last.Receptive ∧ last.gatewayConfigs = db.gatewayConfigs ∧ last.pendingPayments =
        db.pendingPayments.filter fun q => !(q.id == payment) || q.stays db (answer q.id) := by
    refine ⟨same ▸ receptive, congrArg Db.gatewayConfigs same, ?_⟩
    rw [same]
    refine (List.filter_eq_self.mpr fun q inside => ?_).symm
    by_cases mine : q.id = payment
    · simp [stay q inside mine]
    · simp [mine]
  by_cases waits : ∃ p ∈ db.pendingPayments, p.id = payment
  · obtain ⟨p, inside, rfl⟩ := waits
    obtain ⟨member, pending⟩ := List.mem_filter.mp inside
    have pending : p.status = .pending := by simpa using pending
    have only {q : Payment} (there : q ∈ db.pendingPayments) (named : q.id = p.id) : q = p :=
      db.payments.eq_of_key (List.mem_of_mem_filter there) member named
    cases moves : p.stays db (answer p.id) with
    | true =>
      refine unchanged (handed.symm.trans (reconcileOne_stays member pending moves)) fun q there named => ?_
      rw [only there named]
      exact moves
    | false =>
      obtain ⟨outcome, db', status, done, settled, moved⟩ := reconcileOne_moves receptive member pending moves
      obtain rfl : db' = last := by
        rw [← handed, done]
        rfl
      refine ⟨?_, moved.gatewayConfigs, ?_⟩
      · have restated := reconcileOne_respects (restating 0) done
        rcases reconcileOne_touch done with ⟨same, _⟩ | ⟨_, _, _, _, _, _, _, ⟨_, _, _, touch⟩ | ⟨_, _, _, touch⟩⟩
        · exact same ▸ receptive
        · exact receptive.touched touch restated
        · exact receptive.touched touch restated
      · rw [moved.pendingPayments settled]
        refine List.filter_congr fun q there => ?_
        by_cases mine : q.id = p.id
        · rw [only there mine, moves]
          simp
        · have other : (q.id == p.id) = false := beq_false_of_ne mine
          rw [bne, other]
          rfl
  · refine unchanged ?_ fun q inside mine => absurd ⟨q, inside, mine⟩ waits
    have absent : db.payments.rows.find? (fun q => q.id == payment && q.status == .pending) = none := by
      refine List.find?_eq_none.mpr fun q member picked => waits ⟨q, ?_⟩
      simp only [Bool.and_eq_true, beq_iff_eq] at picked
      exact ⟨List.mem_filter.mpr ⟨member, by simp [picked.2]⟩, picked.1⟩
    rw [← handed, reconcileOne, absent]
    rfl

instance : IsTrans Payment fun p q => p.updated_at ≤ q.updated_at := ⟨fun _ _ _ => le_trans⟩
instance : Std.Total fun p q : Payment => p.updated_at ≤ q.updated_at := ⟨fun p q => le_total p.updated_at q.updated_at⟩

end Runs

namespace Sample

end Sample

end Storefront
