import Storefront.Orders.Compensation

set_option autoImplicit false

/-!
# What a checkout does to the coupons of its cart
-/

namespace Storefront

open Relational Transition

def Db.uses (db : Db) (coupon : Id) : Option Int := (db.coupons.get coupon).map Coupon.uses_count

def KeepsUses (db db' : Db) : Prop := ∀ coupon, db'.uses coupon = db.uses coupon

theorem modifyCoupons_get {db : Db} {tenant id : Id} {locked : Coupon} (row : db.coupons.get id = some locked)
    (owned : locked.tenant = tenant) :
    (db.modifyCoupons (fun c => c.tenant == tenant && c.id == locked.id) fun c =>
      { c with uses_count := c.uses_count + 1 }).coupons.get =
        Function.update db.coupons.get id (some { locked with uses_count := locked.uses_count + 1 }) := by
  have named : locked.id = id := (Table.mem_of_get row).2
  have addressed (c : Coupon) (picked : (c.tenant == tenant && c.id == locked.id) = true) : c.id = id := by
    rw [← named]
    exact beq_iff_eq.mp (Bool.and_eq_true_iff.mp picked).2
  simp only [Db.modifyCoupons]
  rw [Table.get_updated_key (Table.modify_rows db.coupons _ _ _) (by exact fun _ => rfl) addressed, row]
  simp [Table.updated, owned, named]

theorem useCoupon_uses {tenant : Id} {db db' : Db} {applied : AppliedCoupon}
    (done : useCoupon tenant db applied = .ok db') :
    (db.uses applied.coupon).isSome = true ∧ ∀ coupon, db'.uses coupon =
      (db.uses coupon).map (· + if applied.coupon = coupon then 1 else 0) := by
  simp only [useCoupon, bind_eq_ok, orRaise_eq_ok, pure_eq_ok] at done
  obtain ⟨locked, found, _, _, rfl⟩ := done
  have picked := List.find?_some found
  simp only [Bool.and_eq_true, beq_iff_eq] at picked
  obtain ⟨owned, named⟩ := picked
  have row : db.coupons.get applied.coupon = some locked := by
    rw [← named]
    exact Table.get_of_mem (List.mem_of_find?_eq_some found)
  refine ⟨by simp [Db.uses, row], fun coupon => ?_⟩
  simp only [Db.uses, modifyCoupons_get row owned]
  by_cases same : applied.coupon = coupon
  · subst same
    simp [row]
  · have other : coupon ≠ applied.coupon := fun equal => same equal.symm
    rw [Function.update_of_ne other]
    cases db.coupons.get coupon <;> simp [same]

theorem useCoupons_uses {tenant : Id} {l : List AppliedCoupon} {db db' : Db}
    (done : l.foldlM (useCoupon tenant) db = .ok db') :
    (∀ a ∈ l, (db.uses a.coupon).isSome = true) ∧ ∀ coupon, db'.uses coupon =
      (db.uses coupon).map (· + ((l.map AppliedCoupon.coupon).count coupon : Int)) := by
  induction l generalizing db with
  | nil =>
    obtain rfl : db = db' := by simpa using done
    simp
  | cons a rest ih =>
    obtain ⟨mid, first, tail⟩ := foldlM_cons_eq_ok.mp done
    obtain ⟨present, counted⟩ := useCoupon_uses first
    obtain ⟨others, counts⟩ := ih tail
    constructor
    · intro b inside
      rcases List.mem_cons.mp inside with rfl | later
      · exact present
      · have known := others b later
        rwa [counted, Option.isSome_map] at known
    · intro coupon
      rw [counts, counted, Option.map_map, List.map_cons, List.count_cons]
      congr 1
      funext n
      by_cases same : a.coupon = coupon
      · simp [same]
        omega
      · simp [same]

theorem useCoupons_keeps_iff {tenant : Id} {l : List AppliedCoupon} {db db' : Db}
    (done : l.foldlM (useCoupon tenant) db = .ok db') : KeepsUses db db' ↔ l = [] := by
  obtain ⟨present, counts⟩ := useCoupons_uses done
  constructor
  · intro keeps
    cases l with
    | nil => rfl
    | cons a rest =>
      obtain ⟨n, uses⟩ := Option.isSome_iff_exists.mp (present a (by simp))
      have grown := counts a.coupon
      rw [keeps, uses] at grown
      simp only [Option.map_some, Option.some.injEq, List.map_cons, List.count_cons_self] at grown
      omega
  · rintro rfl coupon
    simp [counts coupon]

namespace Saga

variable {α β : Type} {δ : Type} (f : Db → δ)

def Keeps (x : Saga α) : Prop := ∀ db, f (x db).2 = f db

variable {f}

theorem keeps_pure (a : α) : Keeps f (pure a : Saga α) := fun _ => rfl

theorem keeps_throw (e : Exn) : Keeps f (throw e : Saga α) := fun _ => rfl

theorem Keeps.bind {x : Saga α} {g : α → Saga β} (first : Keeps f x) (next : ∀ a, Keeps f (g a)) :
    Keeps f (x >>= g) := by
  intro db
  have kept := first db
  rw [bind_apply]
  generalize x db = run at kept
  rcases run with ⟨e | a, db'⟩
  · exact kept
  · exact (next a db').trans kept

theorem Keeps.catches {x : Saga α} {g : Exn → Saga α} (first : Keeps f x) (handler : ∀ e, Keeps f (g e)) :
    Keeps f (tryCatch x g) := by
  intro db
  have kept := first db
  rw [tryCatch_apply]
  generalize x db = run at kept
  rcases run with ⟨e | a, db'⟩
  · exact (handler e db').trans kept
  · exact kept

theorem keeps_read {oracle : Oracle} {body : Db → Outcome α} : Keeps f (read oracle body) := by
  intro db
  rw [read_apply]
  split <;> rfl

theorem keeps_write {oracle : Oracle} {body : Db → Outcome Db}
    (kept : ∀ db db', body db = .ok db' → f db' = f db) : Keeps f (write oracle body) := by
  intro db
  rw [write_apply]
  split
  next done => exact kept _ _ (guard_ok done)
  · rfl

end Saga

section Phases

variable {settings : Settings} {req : Request} {oracle : Point → Oracle}

theorem undo_coupons {action : Undo} {cart : Id} {frame : Frame} {db db' : Db}
    (done : action.run req cart frame db = .ok db') : db'.coupons = db.coupons := by
  cases action with
  | cancelOrder =>
    simp only [Undo.run] at done
    split at done
    · obtain ⟨_, _, _, _, rfl⟩ := cancelOwnOrder_eq_ok.mp done
      split <;> rfl
    · cases done
      rfl
  | releaseReservations => rw [(settleReservations_settled done).1.frame]
  | revertCart =>
    simp only [Undo.run, revertCartToActive, Db.updateCarts, stored_eq_ok] at done
    obtain ⟨_, _, rfl⟩ := done
    rfl

theorem undoAll_coupons (cart : Id) (frame : Frame) (todo : List Undo) :
    Saga.Keeps Db.coupons (undoAll req oracle cart frame todo) := by
  induction todo with
  | nil => exact Saga.keeps_pure ()
  | cons action rest ih => exact (Saga.keeps_write fun _ _ done => undo_coupons done).bind fun _ => ih

theorem undoing_coupons {α : Type} {todo : List Undo} {cart : Id} {frame : Frame} {body : Saga α}
    (kept : Saga.Keeps Db.coupons body) : Saga.Keeps Db.coupons (undoing req oracle todo cart frame body) :=
  kept.catches fun e => (undoAll_coupons cart frame todo).bind fun _ => Saga.keeps_throw e

theorem createPayment_coupons {row : Payment} {db db' : Db} (done : createPayment row db = .ok db') :
    db'.coupons = db.coupons := by
  obtain ⟨_, _, _, rfl⟩ := createPayment_eq_ok.mp done
  rfl

theorem convertInvoiced_coupons {now : Time} {placed : Placed} {db db' : Db}
    (done : convertInvoiced req now placed db = .ok db') : db'.coupons = db.coupons := by
  simp only [convertInvoiced, bind_eq_ok] at done
  obtain ⟨_, _, mid, converted, committed⟩ := done
  rw [(settleReservations_settled committed).1.frame]
  simp only [linkReservations, Db.modifyReservations]
  rw [convertCart_frame converted]
  rfl

theorem commitCart_coupons {now : Time} {placed : Placed} {db db' : Db}
    (done : commitCart req now placed db = .ok db') : db'.coupons = db.coupons := by
  simp only [commitCart, bind_eq_ok, pure_eq_ok] at done
  obtain ⟨mid, converted, rfl⟩ := done
  simp only [linkReservations, Db.modifyReservations, Db.modifyOrders]
  rw [convertCart_frame converted]

theorem markCaptured_coupons {placed : Placed} {db db' : Db} (done : markCaptured req placed db = .ok db') :
    db'.coupons = db.coupons := by
  rw [(settleReservations_settled (markCaptured_eq_ok.mp done).2).1.frame]
  rfl

theorem authorizePayment_coupons (placed : Placed) :
    Saga.Keeps Db.coupons (authorizePayment settings req oracle placed) := by
  refine Saga.keeps_read.bind fun config => (Saga.keeps_write fun _ _ => createPayment_coupons).bind fun _ => ?_
  split
  · refine (Saga.keeps_write fun _ _ done => ?_).bind fun _ => Saga.keeps_throw _
    cases done
    rfl
  · refine (Saga.keeps_write fun _ _ done => ?_).bind fun _ => ?_
    · obtain ⟨_, rfl⟩ := recordPaymentResult_eq_ok.mp done
      rfl
    · split
      · exact Saga.keeps_throw _
      · exact Saga.keeps_pure _

theorem capturePayment_coupons (payment : Payment) :
    Saga.Keeps Db.coupons (capturePayment req oracle payment) := by
  refine Saga.keeps_read.bind fun row => ?_
  cases row with
  | none => exact Saga.keeps_pure ()
  | some row =>
    simp only
    split
    · exact Saga.keeps_throw _
    · refine Saga.keeps_write fun _ _ done => ?_
      cases done
      rfl

theorem convertAndCapture_coupons (placed : Placed) (payment : Payment) :
    Saga.Keeps Db.coupons (convertAndCapture req oracle placed payment) := by
  refine (Saga.keeps_write fun _ _ => commitCart_coupons).bind fun _ => ?_
  split
  · refine Saga.Keeps.catches ?_ fun _ => Saga.keeps_pure _
    exact (capturePayment_coupons payment).bind fun _ =>
      (Saga.keeps_write fun _ _ => markCaptured_coupons).bind fun _ => Saga.keeps_pure _
  · split
    · exact Saga.keeps_pure _
    · exact Saga.keeps_throw _

theorem afterPlaced_coupons (placed : Placed) :
    Saga.Keeps Db.coupons (afterPlaced settings req oracle placed) := by
  unfold afterPlaced
  split
  · exact Saga.keeps_throw _
  · split
    · refine (undoing_coupons (Saga.keeps_write fun _ _ => createPayment_coupons)).bind fun _ => ?_
      exact (Saga.keeps_write fun _ _ => convertInvoiced_coupons).bind fun _ => Saga.keeps_pure _
    · refine Saga.Keeps.bind (Saga.Keeps.catches (authorizePayment_coupons placed) fun e => ?_)
        fun payment => convertAndCapture_coupons placed payment
      unfold undoPaymentFailed
      split
      · exact (undoAll_coupons _ _ _).bind fun _ => Saga.keeps_throw _
      · exact Saga.keeps_throw _

end Phases

section Covers

variable (settings : Settings) (req : Request) (oracle : Point → Oracle)

def InvoiceReturns (placed : Placed) (db : Db) : Prop :=
  match (oracle .invoice).guard (createPayment (invoicePayment req (oracle .invoice) placed) db) with
  | .error _ => False
  | .ok db => Succeeds ((oracle .convertInvoiced).guard
      (convertInvoiced req (oracle .convertInvoiced).now placed db))

-- Past the conversion of the cart nothing raises any more.
def CardReturns (placed : Placed) (db : Db) : Prop :=
  match (oracle .resolve).guard (authorizeTarget settings req.tenant
      (placed.view.cart.selected_payment_method.getD 0) placed.order.currency db) with
  | .error _ => False
  | .ok config =>
    let payment := cardPayment req (oracle .insertPayment) placed config
    match (oracle .insertPayment).guard (createPayment payment db) with
    | .error _ => False
    | .ok db => match (oracle .authorize).answer with
      | .error _ => False
      | .ok intent =>
        match (oracle .recordResult).guard (recordPaymentResult req.tenant payment.id intent db) with
        | .error _ => False
        | .ok db => (intent.status = .authorized ∨ intent.status = .pending) ∧
            Succeeds ((oracle .convert).guard (commitCart req (oracle .convert).now placed db))

def PlacedReturns (placed : Placed) (db : Db) : Prop :=
  match placed.view.paymentMethod with
  | none => False
  | some method =>
    if isPurchaseOrder method then InvoiceReturns req oracle placed db
    else CardReturns settings req oracle placed db

/-- Once phase 4 has counted a coupon, no later phase fails. -/
def CouponsCovered (db : Db) : Prop :=
  match (oracle .find).guard (.ok (findExistingCheckout req db)) with
  | .error _ | .ok (some _) => True
  | .ok none => match (oracle .lock).guard (lockCart req (oracle .lock).now db) with
    | .error _ => True
    | .ok (view, db) => match (oracle .validate).guard (validatePreconditions (oracle .validate).now view) with
      | .error _ => True
      | .ok _ =>
        match (oracle .reserve).guard
          (reserveStock req.tenant (oracle .reserve).now (oracle .reserve).draw view db) with
        | .error _ => True
        | .ok (reservations, db) => match (oracle .create).guard (createOrder req (oracle .create) view db) with
          | .error _ => True
          | .ok (order, placed) => db.appliedTo req.tenant view.cart.id = [] ∨
              PlacedReturns settings req oracle ⟨view, reservations, order⟩ placed

end Covers

section Returning

variable {settings : Settings} {req : Request} {oracle : Point → Oracle}

def Returns (run : Except Exn CheckoutResult × Db) : Prop := ∃ result, run.1 = .ok result

theorem undo_raises (cart : Id) (frame : Frame) (todo : List Undo) (e : Exn) (db : Db) :
    ¬ Returns ((do
      undoAll req oracle cart frame todo
      throw e : Saga CheckoutResult) db) := by
  rw [Saga.bind_apply]
  rcases undoAll req oracle cart frame todo db with ⟨_ | _, _⟩ <;> simp [Returns]

theorem convert_returns_iff (placed : Placed) (payment : Payment) (db : Db) :
    Returns (convertAndCapture req oracle placed payment db) ↔
      (payment.status = .authorized ∨ payment.status = .pending) ∧
        Succeeds ((oracle .convert).guard (commitCart req (oracle .convert).now placed db)) := by
  simp only [convertAndCapture, Saga.bind_apply, Saga.write_apply]
  cases (oracle .convert).guard (commitCart req (oracle .convert).now placed db) with
  | error e => simp [Succeeds, Returns]
  | ok last =>
    have succeeds : Succeeds (Except.ok last : Outcome Db) := ⟨last, rfl⟩
    simp only [succeeds, and_true]
    by_cases authorized : payment.status = .authorized
    · simp only [authorized, if_true, true_or, iff_true, Saga.tryCatch_apply]
      split <;> exact ⟨_, rfl⟩
    · by_cases pending : payment.status = .pending
      · simp [pending, Returns]
      · simp [authorized, pending, Returns]

theorem invoice_returns_iff (placed : Placed) (db : Db) :
    Returns (checkoutInvoiced req oracle placed db) ↔ InvoiceReturns req oracle placed db := by
  simp only [checkoutInvoiced, InvoiceReturns, handled_undoing]
  simp only [Saga.handled, Saga.write_apply]
  cases (oracle .invoice).guard (createPayment (invoicePayment req (oracle .invoice) placed) db) with
  | error e =>
    simp only [iff_false]
    exact undo_raises _ _ _ _ _
  | ok charged =>
    simp only [Saga.bind_apply, Saga.write_apply]
    cases (oracle .convertInvoiced).guard
        (convertInvoiced req (oracle .convertInvoiced).now placed charged) with
    | error e => simp [Succeeds, Returns]
    | ok last => simp [Succeeds, Returns]

theorem failed_raises (placed : Placed) (e : Exn) (db : Db) :
    ¬ Returns (undoPaymentFailed req oracle placed e db) := by
  unfold undoPaymentFailed
  split
  · exact undo_raises _ _ _ _ _
  · simp [Returns]

theorem card_returns_iff (placed : Placed) (db : Db) :
    Returns (checkoutCard settings req oracle placed db) ↔ CardReturns settings req oracle placed db := by
  simp only [checkoutCard, CardReturns, handled_authorize]
  simp only [Saga.handled, authorizePayment, Saga.bind_apply, Saga.read_apply, Saga.write_apply]
  cases (oracle .resolve).guard (authorizeTarget settings req.tenant
      (placed.view.cart.selected_payment_method.getD 0) placed.order.currency db) with
  | error e => simpa only [iff_false] using failed_raises placed e db
  | ok config =>
    simp only
    cases (oracle .insertPayment).guard
        (createPayment (cardPayment req (oracle .insertPayment) placed config) db) with
    | error e => simpa only [iff_false] using failed_raises placed e db
    | ok charged =>
      simp only
      cases (oracle .authorize).answer with
      | error e =>
        simp only [Saga.bind_apply, Saga.write_apply, Saga.throw_apply, iff_false]
        cases (oracle .recordError).guard (.ok (recordPaymentError req.tenant
            (cardPayment req (oracle .insertPayment) placed config).id e.str charged)) with
        | error e' => exact failed_raises placed e' charged
        | ok noted => exact failed_raises placed (gatewayError e) noted
      | ok intent =>
        simp only [Saga.bind_apply, Saga.write_apply]
        cases (oracle .recordResult).guard (recordPaymentResult req.tenant
            (cardPayment req (oracle .insertPayment) placed config).id intent charged) with
        | error e => simpa only [iff_false] using failed_raises placed e charged
        | ok written =>
          by_cases failed : intent.status = .failed
          · simp only [failed, if_true, reduceCtorEq, or_self, false_and, iff_false]
            exact failed_raises placed _ _
          · simp only [failed, if_false, Saga.pure_apply]
            rw [convert_returns_iff, mapGatewayStatus_authorized]

theorem placed_returns_iff (placed : Placed) (db : Db) :
    Returns (afterPlaced settings req oracle placed db) ↔ PlacedReturns settings req oracle placed db := by
  unfold afterPlaced PlacedReturns
  cases placed.view.paymentMethod with
  | none => simp [Returns]
  | some method =>
    by_cases invoiced : isPurchaseOrder method = true
    · simp only [invoiced, if_true]
      exact invoice_returns_iff placed db
    · simp only [invoiced]
      exact card_returns_iff placed db

/-- If the run raised, it counted no coupon. -/
def Uncounted (db : Db) (run : Except Exn CheckoutResult × Db) : Prop := ∀ e, run.1 = .error e → KeepsUses db run.2

theorem uncounted_of_coupons {db : Db} {run : Except Exn CheckoutResult × Db}
    (same : run.2.coupons = db.coupons) : Uncounted db run := by
  intro e _ coupon
  rw [Db.uses, Db.uses, same]

theorem undo_uncounted {db cur : Db} (same : cur.coupons = db.coupons) (cart : Id) (frame : Frame)
    (todo : List Undo) (e : Exn) : Uncounted db ((do
      undoAll req oracle cart frame todo
      throw e : Saga CheckoutResult) cur) :=
  uncounted_of_coupons (((undoAll_coupons cart frame todo).bind fun _ => Saga.keeps_throw e) cur |>.trans same)

theorem uncounted_iff {db : Db} {run : Except Exn CheckoutResult × Db} {kept : Prop}
    (same : KeepsUses db run.2 ↔ kept) : Uncounted db run ↔ kept ∨ Returns run := by
  constructor
  · intro uncounted
    cases ended : run.1 with
    | error e => exact .inl (same.mp (uncounted e ended))
    | ok result => exact .inr ⟨result, ended⟩
  · rintro (keeps | ⟨result, returned⟩) e raised
    · exact same.mpr keeps
    · rw [returned] at raised
      cases raised

theorem createOrder_uses {view : CartView} {oracle : Oracle} {order : Order} {db db' : Db}
    (done : createOrder req oracle view db = .ok (order, db')) :
    KeepsUses db db' ↔ db.appliedTo req.tenant view.cart.id = [] := by
  simp only [createOrder, bind_eq_ok, pure_eq_ok, Prod.mk.injEq, Db.insertOrder, stored_eq_ok] at done
  obtain ⟨used, counted, _, _, _, _, _, _, _, ⟨_, _, rfl⟩, last, listed, _, rfl⟩ := done
  rw [← useCoupons_keeps_iff counted]
  have same : last.coupons = used.coupons := by rw [(createOrderItems_lines listed).frame]
  unfold KeepsUses Db.uses
  rw [same]

end Returning

/-- A call running alone that raises has counted no coupon exactly when phase 4
counted none, or nothing failed after it. -/
theorem coupons_uncounted_iff (settings : Settings) (req : Request) (oracle : Point → Oracle) (db : Db) :
    (∀ e, (checkout settings req oracle db).1 = .error e →
      KeepsUses db (checkout settings req oracle db).2) ↔ CouponsCovered settings req oracle db := by
  change Uncounted db (checkout settings req oracle db) ↔ _
  rw [checkout, Saga.bind_apply, Saga.read_apply, CouponsCovered]
  cases (oracle .find).guard (.ok (findExistingCheckout req db)) with
  | error e => exact iff_of_true (uncounted_of_coupons rfl) trivial
  | ok found =>
    cases found with
    | some existing => exact iff_of_true (uncounted_of_coupons rfl) trivial
    | none =>
      simp only
      rw [Saga.bind_apply, Saga.block_apply]
      cases locked : (oracle .lock).guard (lockCart req (oracle .lock).now db) with
      | error e => exact iff_of_true (uncounted_of_coupons rfl) trivial
      | ok result =>
        obtain ⟨view, taken⟩ := result
        have same : taken.coupons = db.coupons := by rw [(lockCart_taken (guard_ok locked)).2]
        simp only
        rw [handled_undoing, Saga.handled, Saga.read_apply]
        cases (oracle .validate).guard (validatePreconditions (oracle .validate).now view) with
        | error e => exact iff_of_true (undo_uncounted same _ _ _ e) trivial
        | ok _ =>
          simp only
          rw [handled_undoing, Saga.handled, Saga.block_apply]
          cases reserved : (oracle .reserve).guard (reserveStock req.tenant (oracle .reserve).now
              (oracle .reserve).draw view taken) with
          | error e => exact iff_of_true (undo_uncounted same _ _ _ e) trivial
          | ok result =>
            obtain ⟨reservations, held⟩ := result
            have same : held.coupons = db.coupons := by
              rw [(reserveStock_reserved (guard_ok reserved)).1.frame, same]
            simp only
            rw [handled_undoing, Saga.handled, Saga.block_apply]
            cases created : (oracle .create).guard (createOrder req (oracle .create) view held) with
            | error e => exact iff_of_true (undo_uncounted same _ _ _ e) trivial
            | ok result =>
              obtain ⟨order, placed⟩ := result
              simp only
              have kept := @afterPlaced_coupons settings req oracle ⟨view, reservations, order⟩ placed
              rw [← createOrder_uses (guard_ok created), ← placed_returns_iff]
              refine uncounted_iff ?_
              unfold KeepsUses Db.uses
              rw [kept, same]

namespace Sample

def coupon : Coupon :=
  { id := 90, tenant := 1, code := "TEN", discount_type := .percentage, discount_value := 10
    currency := "SAR", min_cart_subtotal := none, allowed_countries := []
    customer_type_restriction := .any, max_uses := some 5, uses_count := 0, valid_from := none
    valid_until := none, is_active := true }

def discounted : Db :=
  { shop with
    coupons := ⟨[coupon], by decide +kernel, by decide +kernel⟩
    appliedCoupons := ⟨[{ id := 91, tenant := 1, cart := 40, coupon := 90 }], by decide +kernel, by decide +kernel⟩ }

-- The gateway declines the card.
def declining : Point → Oracle
  | .authorize => { oracle .authorize with answer := .ok (intent .failed) }
  | point => oracle point

end Sample

/-- A declined card leaves the coupon counted. -/
theorem coupon_consumed : ¬ ∀ e,
    (checkout Sample.settings Sample.request Sample.declining Sample.discounted).1 = .error e →
      KeepsUses Sample.discounted
        (checkout Sample.settings Sample.request Sample.declining Sample.discounted).2 := by
  intro keeps
  have raised : (raisedBy (checkout Sample.settings Sample.request Sample.declining Sample.discounted).1).isSome := by
    decide +kernel
  obtain ⟨e, declined⟩ := Option.isSome_iff_exists.mp raised
  have counted := keeps e (raisedBy_eq_some.mp declined) 90
  revert counted
  decide +kernel

end Storefront
