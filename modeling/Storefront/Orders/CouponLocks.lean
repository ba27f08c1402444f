import Storefront.Locking.Deadlock
import Storefront.Orders.CouponRace

set_option autoImplicit false

/-!
# Who waits for a coupon row

`_create_order` locks one applied coupon after the other, in whatever order the query
without an ORDER BY returns them.
-/

namespace Storefront

open Relational Transition Locking

namespace Block

theorem useLocked_follows {tenant id : Id} {next : OrderProgram} {done left : List Id} (used : id ∈ done)
    (rest : next.Follows done left) (locked : Option Coupon) : (useLocked tenant id next locked).Follows done left := by
  cases locked with
  | none => trivial
  | some locked =>
    by_cases full : locked.exhausted = true
    · rw [useLocked, if_pos full]
      trivial
    · rw [useLocked, if_neg full]
      exact ⟨used, rest⟩

theorem useCoupons_follows {tenant : Id} {next : OrderProgram} (ids : List Id) (done : List Id)
    (rest : next.Follows (done ++ ids) []) : (useCoupons tenant next ids).Follows done ids := by
  induction ids generalizing done with
  | nil =>
    rw [List.append_nil] at rest
    exact rest
  | cons id later ih =>
    have behind : (useCoupons tenant next later).Follows (done ++ [id]) later := by
      refine ih (done ++ [id]) ?_
      rw [List.append_assoc]
      exact rest
    refine ⟨later, rfl, fun row => ?_, trivial⟩
    exact useLocked_follows (List.mem_append_right _ (List.mem_singleton_self id)) behind row

theorem create_follows (b : Block) : b.create.Follows [] b.coupons := by
  refine useCoupons_follows b.coupons [] ?_
  cases b.placing <;> trivial

end Block

section Waits

variable {τ : Type} [DecidableEq τ] {blocks : τ → Block}

/-- Order transactions wait for each other in a circle only if the orders in which they
get their applied coupons have a knot. -/
theorem coupons_never_deadlocked {s₀ s : CouponRace τ} {moves : List (Move (CouponRace τ) (Action τ))}
    (run : (creating blocks).Run s₀ moves s) (free : ¬ Knot fun t => (blocks t).coupons) : ¬ s.Deadlocked Set.univ :=
  Sessions.never_deadlocked_of_not_knot run (fun t => (blocks t).create_follows) free

end Waits

namespace Sample

-- Both carts carry both coupons, applied in opposite orders.
def crossedBlock (second : Bool) : Block :=
  { block false with
    coupons := if second then [92, 90] else [90, 92]
    distinct := by cases second <;> decide +kernel }

def crossedCoupons : CouponRace Bool :=
  { couponRace with session := fun second => .start (crossedBlock second).create }

-- Each counts its first coupon.
def crossedActions : List (Action Bool) := [.run false, .run true, .run false, .run true]

def jam : CouponRace Bool := ((creating crossedBlock).exec crossedCoupons crossedActions).get (by decide +kernel)

end Sample

theorem coupons_deadlock : ∃ moves, (creating Sample.crossedBlock).Run Sample.crossedCoupons moves Sample.jam ∧
    Sample.jam.Deadlocked Set.univ := by
  have initial : (creating Sample.crossedBlock).Start Sample.crossedCoupons :=
    ⟨fun _ => rfl, fun _ => rfl, fun _ => rfl, rfl⟩
  have ends : (creating Sample.crossedBlock).exec Sample.crossedCoupons Sample.crossedActions = some Sample.jam :=
    (Option.some_get _).symm
  obtain ⟨moves, run⟩ := Machine.exec_run initial ends
  have first : Sample.jam.WaitsFor Set.univ false true :=
    ⟨by decide +kernel, 92, trivial, by decide +kernel, by decide +kernel, by decide⟩
  have second : Sample.jam.WaitsFor Set.univ true false :=
    ⟨by decide +kernel, 90, trivial, by decide +kernel, by decide +kernel, by decide⟩
  exact ⟨moves, run, false, .tail (.single first) second⟩

-- The shared coupon is the last one of both: nothing can be knotted.
theorem coupons_never_deadlocked_shared :
    ∃ moves, (creating Sample.block).Run Sample.couponRace moves Sample.couponsRaced ∧
      ¬ Sample.couponsRaced.Deadlocked Set.univ := by
  have initial : (creating Sample.block).Start Sample.couponRace := ⟨fun _ => rfl, fun _ => rfl, fun _ => rfl, rfl⟩
  have ends : (creating Sample.block).exec Sample.couponRace Sample.couponActions = some Sample.couponsRaced :=
    (Option.some_get _).symm
  have free : ¬ Knot fun second => (Sample.block second).coupons := by
    have descending (second : Bool) : (Sample.block second).coupons.Pairwise (· > ·) := by
      cases second <;> decide +kernel
    refine not_knot_of_pairwise ?_ ?_ descending
    · exact fun k => lt_irrefl k
    · exact fun i j k first second => lt_trans second first
  obtain ⟨moves, run⟩ := Machine.exec_run initial ends
  exact ⟨moves, run, coupons_never_deadlocked run free⟩

end Storefront
