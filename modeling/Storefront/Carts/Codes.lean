import Storefront.Carts.Preview
import Storefront.Coupons.Codes

set_option autoImplicit false

/-!
# Coupon codes as the shopper enters them

Applying and previewing read the code with a serializer, which trims it; removing
reads it from the URL as it stands. All three look for exactly this code.
-/

namespace Storefront

open Relational Transition Text

-- ApplyCouponSerializer
def ApplyCouponSerializer.code (text : String) : Outcome String := charField "code" 64 text

-- The segment <str:code> of cart/coupons/<str:code>
def urlCode (text : String) : Outcome String := do
  require (text ≠ "" ∧ '/' ∉ text.toList) (.other "Resolver404")
  return text

inductive CodeRequest
  | apply
  | preview
  | remove

namespace CodeRequest

def received : CodeRequest → String → Outcome String
  | .apply, text | .preview, text => ApplyCouponSerializer.code text
  | .remove, text => urlCode text

-- CartCouponsView.post, CartCouponPreviewView.post and CartCouponDetailView.delete, what they answer with apart.
def answer (request : CodeRequest) (tenant customer : Id) (text : String) (now : Time) (id : Id) (db : Db) : Outcome Unit := do
  let code ← request.received text
  match request with
  | .apply => (fun _ => ()) <$> CartService.applyCoupon tenant customer code now id db
  | .preview => (fun _ => ()) <$> CartService.previewCoupon tenant customer code now db
  | .remove => (fun _ => ()) <$> CartService.removeCoupon tenant customer code db

end CodeRequest

def Exn.IsCouponNotFound (e : Exn) : Prop := ∃ detail, e = .couponNotFound detail

/-- A request finds this coupon, and whoever sends it is not told that there is none. -/
structure CodeRequest.Resolves (request : CodeRequest) (tenant coupon : Id) (text : String) (db : Db) : Prop where
  finds : ∃ code c, request.received text = .ok code ∧ db.couponOfCode tenant code = some c ∧ c.id = coupon
  known : ∀ customer now id, Avoids Exn.IsCouponNotFound (request.answer tenant customer text now id db)

section Answers

variable {db : Db} {tenant customer id : Id} {code : String} {now : Time} {c : Coupon}

theorem lockActiveCart_avoids (tenant customer : Id) (db : Db) :
    Avoids Exn.IsCouponNotFound (lockActiveCart tenant customer db) :=
  .orRaise (by simp [Exn.IsCouponNotFound]) _

theorem bumpAndReturn_avoids (tenant cart : Id) (db : Db) :
    Avoids Exn.IsCouponNotFound (bumpAndReturn tenant cart db) := by
  apply Avoids.bind (.orRaise (by simp [Exn.IsCouponNotFound]) _)
  intro row _
  exact .pure _

theorem getCart_avoids (tenant customer : Id) (db : Db) : Avoids Exn.IsCouponNotFound (CartService.getCart tenant customer db) := by
  have other : ¬ Exn.IsCouponNotFound (.cartNotFound "No active cart for this customer") := by
    simp [Exn.IsCouponNotFound]
  apply Avoids.bind (.orRaise other _)
  intro cart _
  apply Avoids.bind (.orRaise other _)
  intro who _
  exact .pure _

theorem validateFor_known (tenant : Id) (cart : Cart) (coupon : Coupon) (now : Time) (db : Db) :
    Avoids Exn.IsCouponNotFound (CartService.validateFor tenant cart coupon now db) := by
  apply CartService.validateFor_avoids
  · rintro e rule ⟨detail, rfl⟩
    cases rule
  · rintro model ⟨detail, other⟩
    cases other

theorem applyCoupon_known (found : db.couponOfCode tenant code = some c) :
    Avoids Exn.IsCouponNotFound (CartService.applyCoupon tenant customer code now id db) := by
  rw [CartService.applyCoupon, found]
  apply Avoids.bind (lockActiveCart_avoids tenant customer db)
  intro cart _
  apply Avoids.bind (.pure c)
  intro coupon _
  apply Avoids.bind (validateFor_known tenant cart coupon now db)
  intro _ _
  apply Avoids.bind (.require (by simp [Exn.IsCouponNotFound]))
  intro _ _
  apply Avoids.bind
  · intro e raised
    rw [stored_eq_error raised]
    rintro ⟨_, other⟩
    cases other
  · intro db' _
    exact bumpAndReturn_avoids tenant cart.id db'

theorem previewCoupon_known (found : db.couponOfCode tenant code = some c) :
    Avoids Exn.IsCouponNotFound (CartService.previewCoupon tenant customer code now db) := by
  rw [CartService.previewCoupon, found]
  apply Avoids.bind (getCart_avoids tenant customer db)
  intro loaded _
  apply Avoids.bind (.pure c)
  intro coupon _
  apply Avoids.bind (validateFor_known tenant loaded.cart coupon now db)
  intro _ _
  exact .pure _

theorem removeCoupon_known (found : db.couponOfCode tenant code = some c) :
    Avoids Exn.IsCouponNotFound (CartService.removeCoupon tenant customer code db) := by
  rw [CartService.removeCoupon, found]
  apply Avoids.bind (lockActiveCart_avoids tenant customer db)
  intro cart _
  apply Avoids.bind (.pure c)
  intro coupon _
  split
  · exact bumpAndReturn_avoids tenant cart.id _
  · exact .map _ (getCart_avoids tenant customer db)

end Answers

namespace CodeRequest

variable {request : CodeRequest} {db : Db} {tenant coupon : Id} {text : String}

theorem received_avoids (request : CodeRequest) (text : String) :
    Avoids Exn.IsCouponNotFound (request.received text) := by
  have field {p : Prop} [Decidable p] {detail : String} :
      Avoids Exn.IsCouponNotFound (require p (.validationError "code" detail)) :=
    .require (by simp [Exn.IsCouponNotFound])
  have serializer : Avoids Exn.IsCouponNotFound (ApplyCouponSerializer.code text) := by
    apply Avoids.bind field
    intro _ _
    apply Avoids.bind field
    intro _ _
    apply Avoids.bind field
    intro _ _
    exact .pure _
  cases request with
  | apply | preview => exact serializer
  | remove =>
    apply Avoids.bind (.require (by simp [Exn.IsCouponNotFound]))
    intro _ _
    exact .pure text

theorem resolves_iff : request.Resolves tenant coupon text db ↔
    ∃ code c, request.received text = .ok code ∧ db.couponOfCode tenant code = some c ∧ c.id = coupon := by
  refine ⟨Resolves.finds, fun finds => ⟨finds, fun customer now id => ?_⟩⟩
  obtain ⟨code, c, received, found, _⟩ := finds
  apply Avoids.bind (received_avoids request text)
  intro code' received'
  rw [received] at received'
  cases received'
  cases request with
  | apply => exact .map _ (applyCoupon_known found)
  | preview => exact .map _ (previewCoupon_known found)
  | remove => exact .map _ (removeCoupon_known found)

end CodeRequest

/-! ## Stored codes -/

def Db.HasCoupon (db : Db) (tenant coupon : Id) (code : String) : Prop :=
  ∃ c ∈ db.coupons.rows, c.id = coupon ∧ c.tenant = tenant ∧ c.code = code

section Stored

variable {db : Db} {tenant coupon : Id} {code code' : String}

theorem Db.HasCoupon.unique {coupon' : Id} (left : db.HasCoupon tenant coupon code) (right : db.HasCoupon tenant coupon' code) :
    coupon = coupon' := by
  obtain ⟨c, member, rfl, owner, coded⟩ := left
  obtain ⟨c', member', rfl, owner', coded'⟩ := right
  have entry : c = c' := by
    refine db.coupons.eq_of_entry member member' (e := .scoped tenant code) ?_ ?_
    · rw [← owner, ← coded]
      exact List.mem_cons_of_mem _ (List.mem_singleton_self _)
    · rw [← owner', ← coded']
      exact List.mem_cons_of_mem _ (List.mem_singleton_self _)
  rw [entry]

theorem Db.HasCoupon.lookup (stored : db.HasCoupon tenant coupon code) (code' : String) :
    (∃ c, db.couponOfCode tenant code' = some c ∧ c.id = coupon) ↔ code' = code := by
  obtain ⟨c, member, named, owner, coded⟩ := stored
  constructor
  · rintro ⟨other, found, same⟩
    have picked := List.find?_some found
    simp only [Bool.and_eq_true, beq_iff_eq] at picked
    obtain rfl := db.coupons.eq_of_key (List.mem_of_find?_eq_some found) member (same.trans named.symm)
    exact picked.2.symm.trans coded
  · rintro rfl
    cases found : db.couponOfCode tenant code' with
    | none =>
      have absent := List.find?_eq_none.mp found c member
      simp [owner, coded] at absent
    | some other =>
      refine ⟨other, rfl, ?_⟩
      have picked := List.find?_some found
      simp only [Bool.and_eq_true, beq_iff_eq] at picked
      exact Db.HasCoupon.unique ⟨other, List.mem_of_find?_eq_some found, rfl, picked.1, picked.2⟩ ⟨c, member, named, owner, coded⟩

end Stored

end Storefront
