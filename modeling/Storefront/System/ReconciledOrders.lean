import Storefront.System.PaidStock

set_option autoImplicit false

/-!
# Orders the reconciliation cancels

The sweep finds the reservations of an order by the link that phase 6 writes. A
checkout that stopped before has reservations without it.
-/

namespace Storefront

open Relational Transition

structure ReconcileCancels (move : Move Sys Label) (o : Order) : Prop where
  reconciles : ∃ payment answer, move.label = .reconcile payment answer
  present : o ∈ move.before.db.orders.rows
  pending : o.status = .pending
  cancelled : move.after.db.orderStatus o.id = some .cancelled

section Moves

variable {settings : Settings} {lib : WebhookLibrary} {s s' : Sys}

theorem ReconcileCancels.touch {l : Label} {o : Order} (taken : step settings lib s l = some s') (owned : s.Owned)
    (cancels : ReconcileCancels ⟨s, l, s'⟩ o) : s'.calls = s.calls ∧ ∃ f g, Touch s.db s'.db f g
      (settledStatus .release (ofOrder o.tenant o.id .active)) := by
  obtain ⟨⟨payment, answer, label⟩, present, pending, cancelled⟩ := cancels
  obtain rfl : l = .reconcile payment answer := label
  simp only [step] at taken
  split at taken
  next =>
    obtain ⟨_, done, rfl⟩ := commits_eq_some taken
    obtain ⟨⟨outcome, db'⟩, reconciled, rfl⟩ := map_eq_ok.mp done
    refine ⟨rfl, ?_⟩
    have cancelled : db'.orderStatus o.id = some .cancelled := cancelled
    have still : s.db.orderStatus o.id = some .pending := pending ▸ Db.orderStatus_of_mem present
    rcases reconcileOne_touch reconciled with ⟨same, _⟩ | ⟨p, member, _, _, status, _, _, rest⟩
    · exfalso
      rw [same, still] at cancelled
      cases cancelled
    · rcases rest with ⟨_, _, _, touch⟩ | ⟨o', present', filed, touch⟩
      · exfalso
        have kept : db'.orderStatus o.id = some o.status := touch.orderStatus present
        rw [cancelled, pending] at kept
        cases kept
      · have target := Option.some.inj (cancelled.symm.trans (touch.orderStatus present))
        unfold OrderStatus.at at target
        split at target
        next same =>
          obtain rfl := s.db.orders.eq_of_key present present' same
          have closes : status = .failed ∨ status = .cancelled := by
            unfold reconcileTarget at target
            split at target
            · rw [pending] at target
              cases target
            · split at target
              next closed => exact closed
              · rw [pending] at target
                cases target
          have uncaptured : status ≠ .captured := by
            rcases closes with rfl | rfl <;> simp
          have owner := owned.payment_tenant present member filed
          refine ⟨_, _, touch.congr (fun _ _ => rfl) (fun _ _ => rfl) fun r _ => ?_⟩
          rw [reconcileHeld, if_neg uncaptured, if_pos closes, heldStatus, if_pos pending, owner]
        next other =>
          rw [pending] at target
          cases target
  · cases taken

end Moves

namespace Sample

-- The worker dies between the payment row and the gateway.
def abandoning : List Label :=
  .begin 0 request :: blocks (placing ++ [.resolve, .insertPayment]) ++ [.tick 700, .sweep]

end Sample

end Storefront
