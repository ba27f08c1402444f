import Storefront.Isolation.Blocks
import Storefront.Orders.Saga

set_option autoImplicit false

/-!
# Two checkouts over states that differ in other tenants' rows

The two calls take the same blocks as long as no insert meets a key in another
tenant's hands on one side only.
-/

namespace Storefront

open Relational Transition

def Pc.Apart (tenant : Id) (foreign db : Db) : Pc → Prop
  | .find | .lock => db.LinesKnown tenant
  | .validate view | .reserve view => view.Within tenant
  | .create view reservations => view.Within tenant ∧ ∀ id ∈ reservations, foreign.Unused id
  | .insertPayment placed config =>
    placed.Apart tenant foreign ∧ ∀ c ∈ foreign.gatewayConfigs.rows, c.id ≠ config.id
  | .invoice placed | .resolve placed | .convertInvoiced placed _ | .authorize placed _ | .recordError placed _ _
  | .recordResult placed _ _ | .convert placed _ | .captureRead placed _ | .capture placed _
  | .captureWrite placed _ _ | .paid placed _ => placed.Apart tenant foreign
  | .undo .. | .done .. | .crashed .. => True

/-- Another tenant holds the key this block inserts under. -/
def Pc.Taken (req : Request) (foreign : Db) : Pc → Prop
  | .create .. => foreign.OrderKey req.idempotency_key
  | .invoice _ => foreign.PaymentKey (req.idempotency_key ++ ":po")
  | .insertPayment .. => foreign.PaymentKey (req.idempotency_key ++ ":auth")
  | _ => False

def Pc.insertion (req : Request) (oracle : Oracle) (db : Db) : Pc → Option (Outcome Unit)
  | .create view _ => some ((fun _ => ()) <$> oracle.guard (createOrder req oracle view db))
  | .invoice placed => some ((fun _ => ()) <$> oracle.guard (createPayment (invoicePayment req oracle placed) db))
  | .insertPayment placed config =>
    some ((fun _ => ()) <$> oracle.guard (createPayment (cardPayment req oracle placed config) db))
  | _ => none

def Pc.Inserts (req : Request) (oracle : Oracle) (db : Db) (pc : Pc) : Prop :=
  pc.insertion req oracle db = some (.ok ())

def Pc.refused (e : Exn) : Pc → Pc
  | .create view reservations => .undo undoReserved view.cart.id { reservations } e
  | .invoice placed => .undo undoOrdered placed.view.cart.id (placed.frame none) e
  | .insertPayment placed _ => authorizeRaised placed none e
  | pc => pc

theorem Oracle.alike {α β : Type} {R : α → β → Prop} {x : Outcome α} {y : Outcome β} (oracle : Oracle)
    (alike : Alike R x y) : Alike R (oracle.guard x) (oracle.guard y) := by
  unfold Oracle.guard
  split
  · exact .error _
  · exact alike

section Advance

variable {settings : Settings} {req : Request} {oracle : Oracle} {foreign db solo : Db} {pc : Pc}

structure Together (tenant : Id) (foreign : Db) (x y : Pc × Db × List GatewayCall) : Prop where
  pc : x.1 = y.1
  calls : x.2.2 = y.2.2
  sees : Sees tenant foreign x.2.1 y.2.1
  apart : x.1.Apart tenant foreign x.2.1

theorem authorizeRaised_apart {tenant : Id} (placed : Placed) (payment : Option Payment) (e : Exn) :
    (authorizeRaised placed payment e).Apart tenant foreign db := by
  unfold authorizeRaised
  split <;> trivial

theorem afterOrder_apart {tenant : Id} {placed : Placed} (apart : placed.Apart tenant foreign) :
    (afterOrder placed).Apart tenant foreign db := by
  unfold afterOrder
  split
  · trivial
  · split <;> exact apart

theorem afterConvert_apart {tenant : Id} {placed : Placed} (apart : placed.Apart tenant foreign) (payment : Payment) :
    (afterConvert placed payment).Apart tenant foreign db := by
  unfold afterConvert
  split
  · exact apart
  · split <;> trivial

theorem advance_together (settings : Settings) (sees : Sees req.tenant foreign db solo)
    (apart : pc.Apart req.tenant foreign db)
    (unused : ∀ k, foreign.Unused (oracle.draw k)) (free : ¬ pc.Taken req foreign) :
    Together req.tenant foreign (advance settings req oracle db pc) (advance settings req oracle solo pc) := by
  cases pc with
  | find =>
    have read : findExistingCheckout req solo = findExistingCheckout req db := by
      rw [sees.own, Db.own_findExistingCheckout]
    simp only [advance, read]
    rcases oracle.guard (.ok (findExistingCheckout req db)) with e | _ | existing
    · exact ⟨rfl, rfl, sees, trivial⟩
    · exact ⟨rfl, rfl, sees, apart⟩
    · exact ⟨rfl, rfl, sees, trivial⟩
  | lock =>
    have block := oracle.alike (lockCart_alike sees oracle.now apart)
    simp only [advance]
    generalize oracle.guard (lockCart req oracle.now db) = x at block ⊢
    generalize oracle.guard (lockCart req oracle.now solo) = y at block ⊢
    cases block with
    | error e => exact ⟨rfl, rfl, sees, trivial⟩
    | ok here =>
      obtain ⟨⟨same, locked⟩, within⟩ := here
      exact ⟨congrArg Pc.validate same, rfl, locked, within⟩
  | validate view =>
    simp only [advance]
    cases oracle.guard (validatePreconditions oracle.now view) with
    | error e => exact ⟨rfl, rfl, sees, trivial⟩
    | ok _ => exact ⟨rfl, rfl, sees, apart⟩
  | reserve view =>
    have block := oracle.alike (reserveStock_alike sees oracle.now view unused)
    simp only [advance]
    generalize oracle.guard (reserveStock req.tenant oracle.now oracle.draw view db) = x at block ⊢
    generalize oracle.guard (reserveStock req.tenant oracle.now oracle.draw view solo) = y at block ⊢
    cases block with
    | error e => exact ⟨rfl, rfl, sees, trivial⟩
    | ok here =>
      obtain ⟨⟨same, reserved⟩, drawn⟩ := here
      exact ⟨congrArg (Pc.create view) same, rfl, reserved, apart, drawn⟩
  | create view reservations =>
    have block := oracle.alike (createOrder_alike sees apart.1 unused free)
    simp only [advance]
    generalize oracle.guard (createOrder req oracle view db) = x at block ⊢
    generalize oracle.guard (createOrder req oracle view solo) = y at block ⊢
    cases block with
    | error e => exact ⟨rfl, rfl, sees, trivial⟩
    | ok here =>
      obtain ⟨⟨same, created⟩, drawn⟩ := here
      exact ⟨congrArg (fun order => afterOrder ⟨view, reservations, order⟩) same, rfl, created,
        afterOrder_apart ⟨apart.1, apart.2, drawn⟩⟩
  | invoice placed =>
    have block := oracle.alike (createPayment_alike sees (invoicePayment req oracle placed) rfl (unused 0) free
      (by rintro g ⟨⟩))
    simp only [advance]
    generalize oracle.guard (createPayment (invoicePayment req oracle placed) db) = x at block ⊢
    generalize oracle.guard (createPayment (invoicePayment req oracle placed) solo) = y at block ⊢
    cases block with
    | error e => exact ⟨rfl, rfl, sees, trivial⟩
    | ok billed => exact ⟨rfl, rfl, billed, apart⟩
  | convertInvoiced placed payment =>
    have block := oracle.alike (convertInvoiced_alike sees oracle.now apart)
    simp only [advance]
    generalize oracle.guard (convertInvoiced req oracle.now placed db) = x at block ⊢
    generalize oracle.guard (convertInvoiced req oracle.now placed solo) = y at block ⊢
    cases block with
    | error e => exact ⟨rfl, rfl, sees, trivial⟩
    | ok converted => exact ⟨rfl, rfl, converted, trivial⟩
  | resolve placed =>
    simp only [advance, authorizeTarget_alike sees]
    cases done : oracle.guard (authorizeTarget settings req.tenant (placed.view.cart.selected_payment_method.getD 0)
        placed.order.currency db) with
    | error e => exact ⟨rfl, rfl, sees, authorizeRaised_apart ..⟩
    | ok config => exact ⟨rfl, rfl, sees, apart, authorizeTarget_apart sees (guard_ok done)⟩
  | insertPayment placed config =>
    have block := oracle.alike (createPayment_alike sees (cardPayment req oracle placed config) rfl (unused 0) free
      (by
        rintro g ⟨⟩
        exact apart.2))
    simp only [advance]
    generalize oracle.guard (createPayment (cardPayment req oracle placed config) db) = x at block ⊢
    generalize oracle.guard (createPayment (cardPayment req oracle placed config) solo) = y at block ⊢
    cases block with
    | error e => exact ⟨rfl, rfl, sees, authorizeRaised_apart ..⟩
    | ok billed => exact ⟨rfl, rfl, billed, apart.1⟩
  | authorize placed payment =>
    simp only [advance]
    cases oracle.answer with
    | ok intent => exact ⟨rfl, rfl, sees, apart⟩
    | error e => exact ⟨rfl, rfl, sees, apart⟩
  | recordError placed payment e =>
    have block := oracle.alike (.ok (recordPaymentError_alike sees payment.id e.str))
    simp only [advance]
    generalize oracle.guard (.ok (recordPaymentError req.tenant payment.id e.str db)) = x at block ⊢
    generalize oracle.guard (.ok (recordPaymentError req.tenant payment.id e.str solo)) = y at block ⊢
    cases block with
    | error e' => exact ⟨rfl, rfl, sees, authorizeRaised_apart ..⟩
    | ok recorded => exact ⟨rfl, rfl, recorded, authorizeRaised_apart placed (some payment) (gatewayError e)⟩
  | recordResult placed payment intent =>
    have block := oracle.alike (recordPaymentResult_alike sees payment.id intent)
    simp only [advance]
    generalize oracle.guard (recordPaymentResult req.tenant payment.id intent db) = x at block ⊢
    generalize oracle.guard (recordPaymentResult req.tenant payment.id intent solo) = y at block ⊢
    cases block with
    | error e => exact ⟨rfl, rfl, sees, authorizeRaised_apart ..⟩
    | ok recorded =>
      by_cases failed : intent.status = .failed
      · simp only [failed, if_true]
        exact ⟨rfl, rfl, recorded, authorizeRaised_apart placed (some payment) (declined intent)⟩
      · simp only [failed, if_false]
        exact ⟨rfl, rfl, recorded, apart⟩
  | convert placed payment =>
    have block := oracle.alike (commitCart_alike sees oracle.now apart)
    simp only [advance]
    generalize oracle.guard (commitCart req oracle.now placed db) = x at block ⊢
    generalize oracle.guard (commitCart req oracle.now placed solo) = y at block ⊢
    cases block with
    | error e => exact ⟨rfl, rfl, sees, trivial⟩
    | ok converted =>
      have linked : placed.linked.Apart req.tenant foreign := ⟨apart.view, apart.reservations, apart.order⟩
      exact ⟨rfl, rfl, converted, afterConvert_apart linked payment⟩
  | captureRead placed payment =>
    simp only [advance, captureRead_alike sees]
    rcases oracle.guard (captureRead req.tenant payment.id db) with e | _ | row
    · exact ⟨rfl, rfl, sees, trivial⟩
    · exact ⟨rfl, rfl, sees, apart⟩
    · exact ⟨rfl, rfl, sees, apart⟩
  | capture placed row =>
    simp only [advance]
    cases oracle.answer with
    | ok intent => exact ⟨rfl, rfl, sees, apart⟩
    | error e => exact ⟨rfl, rfl, sees, trivial⟩
  | captureWrite placed row intent =>
    have block := oracle.alike (.ok (captureWrite_alike sees row.id intent))
    simp only [advance]
    generalize oracle.guard (.ok (captureWrite req.tenant row.id intent db)) = x at block ⊢
    generalize oracle.guard (.ok (captureWrite req.tenant row.id intent solo)) = y at block ⊢
    cases block with
    | error e => exact ⟨rfl, rfl, sees, trivial⟩
    | ok captured => exact ⟨rfl, rfl, captured, apart⟩
  | paid placed payment =>
    have block := oracle.alike (markCaptured_alike sees placed)
    simp only [advance]
    generalize oracle.guard (markCaptured req placed db) = x at block ⊢
    generalize oracle.guard (markCaptured req placed solo) = y at block ⊢
    cases block with
    | error e => exact ⟨rfl, rfl, sees, trivial⟩
    | ok marked => exact ⟨rfl, rfl, marked, trivial⟩
  | undo todo cart frame e =>
    cases todo with
    | nil => exact ⟨rfl, rfl, sees, trivial⟩
    | cons action rest =>
      have block := oracle.alike (undo_alike sees cart frame action)
      simp only [advance]
      generalize oracle.guard (action.run req cart frame db) = x at block ⊢
      generalize oracle.guard (action.run req cart frame solo) = y at block ⊢
      cases block with
      | error e' => exact ⟨rfl, rfl, sees, trivial⟩
      | ok undone => exact ⟨rfl, rfl, undone, trivial⟩
  | done frame result => exact ⟨rfl, rfl, sees, trivial⟩
  | crashed todo frame e => exact ⟨rfl, rfl, sees, trivial⟩

theorem refused_apart {tenant : Id} (apart : pc.Apart tenant foreign db) (e : Exn) :
    (pc.refused e).Apart tenant foreign db := by
  cases pc with
  | insertPayment placed config => exact authorizeRaised_apart placed none e
  | create | invoice => trivial
  | _ => exact apart

theorem map_ok_unit {α : Type} {x : Outcome α} {e : Exn} (raised : (fun _ => ()) <$> x = .error e) : x = .error e := by
  cases x with
  | ok a => cases raised
  | error e' =>
    cases raised
    rfl

theorem advance_refused {e : Exn} (raised : pc.insertion req oracle db = some (.error e)) :
    advance settings req oracle db pc = (pc.refused e, db, []) := by
  cases pc with
  | create view reservations => simp only [advance, map_ok_unit (Option.some.inj raised), Pc.refused]
  | invoice placed => simp only [advance, map_ok_unit (Option.some.inj raised), Pc.refused]
  | insertPayment placed config => simp only [advance, map_ok_unit (Option.some.inj raised), Pc.refused]
  | _ => cases raised

theorem unit_alike {α β : Type} {R : α → β → Prop} {x : Outcome α} {y : Outcome β} (alike : Alike R x y) :
    some ((fun _ => ()) <$> x) = some ((fun _ => ()) <$> y) := by
  cases alike <;> rfl

theorem insertion_free (sees : Sees req.tenant foreign db solo) (apart : pc.Apart req.tenant foreign db)
    (unused : ∀ k, foreign.Unused (oracle.draw k)) (free : ¬ pc.Taken req foreign) :
    pc.insertion req oracle db = pc.insertion req oracle solo := by
  cases pc with
  | create view reservations => exact unit_alike (oracle.alike (createOrder_alike sees apart.1 unused free))
  | invoice placed =>
    exact unit_alike (oracle.alike (createPayment_alike sees (invoicePayment req oracle placed) rfl (unused 0) free
      (by rintro g ⟨⟩)))
  | insertPayment placed config =>
    exact unit_alike (oracle.alike (createPayment_alike sees (cardPayment req oracle placed config) rfl (unused 0)
      free (by
        rintro g ⟨⟩
        exact apart.2)))
  | _ => rfl

theorem guard_cut {α : Type} {x : Outcome α} {y : Outcome α} (cut : x = y >>= fun _ => .error .integrityError) :
    (fun _ => ()) <$> oracle.guard x = ((fun _ => ()) <$> oracle.guard y) >>= fun _ => .error .integrityError := by
  subst cut
  unfold Oracle.guard
  split
  · rfl
  · cases y <;> rfl

theorem insertion_taken (oracle : Oracle) (sees : Sees req.tenant foreign db solo)
    (apart : pc.Apart req.tenant foreign db)
    (taken : pc.Taken req foreign) : ∃ alone, pc.insertion req oracle solo = some alone ∧
      pc.insertion req oracle db = some (alone >>= fun _ => .error .integrityError) := by
  cases pc with
  | create view reservations =>
    exact ⟨_, rfl, congrArg some (guard_cut (createOrder_taken sees apart.1 taken))⟩
  | invoice placed =>
    exact ⟨_, rfl, congrArg some (guard_cut (createPayment_taken sees (invoicePayment req oracle placed) taken))⟩
  | insertPayment placed config =>
    exact ⟨_, rfl, congrArg some (guard_cut (createPayment_taken sees (cardPayment req oracle placed config) taken))⟩
  | _ => exact taken.elim

-- Whether or not the insert is refused, the others' rows stay.
theorem advance_sees (settings : Settings) (oracle : Oracle) (sees : Sees req.tenant foreign db solo)
    (apart : pc.Apart req.tenant foreign db)
    (unused : ∀ k, foreign.Unused (oracle.draw k)) :
    (∃ solo', Sees req.tenant foreign (advance settings req oracle db pc).2.1 solo') ∧
      (advance settings req oracle db pc).1.Apart req.tenant foreign (advance settings req oracle db pc).2.1 := by
  by_cases taken : pc.Taken req foreign
  · obtain ⟨alone, _, raised⟩ := insertion_taken oracle sees apart taken
    obtain ⟨e, refused⟩ : ∃ e, pc.insertion req oracle db = some (.error e) := by
      cases alone <;> exact ⟨_, raised⟩
    rw [advance_refused refused]
    exact ⟨⟨solo, sees⟩, refused_apart apart e⟩
  · have together := advance_together settings sees apart unused taken
    exact ⟨⟨_, together.sees⟩, together.apart⟩

end Advance

section Pair

variable {settings : Settings} {req : Request} {foreign foreign' x y solo : Db} {pc : Pc}

structure Pair (req : Request) (foreign foreign' : Db) (pc : Pc) (x y : Db) : Prop where
  own : x.own req.tenant = y.own req.tenant
  left : x.Beside req.tenant foreign
  right : y.Beside req.tenant foreign'
  apart : pc.Apart req.tenant foreign x
  apart' : pc.Apart req.tenant foreign' y

theorem Pair.advance {oracle : Oracle} (settings : Settings) (pair : Pair req foreign foreign' pc x y)
    (unused : ∀ k, foreign.Unused (oracle.draw k)) (unused' : ∀ k, foreign'.Unused (oracle.draw k))
    (clear : pc.Inserts req oracle x → ¬ pc.Taken req foreign')
    (clear' : pc.Inserts req oracle y → ¬ pc.Taken req foreign) :
    (advance settings req oracle x pc).1 = (advance settings req oracle y pc).1 ∧
      Pair req foreign foreign' (advance settings req oracle x pc).1 (advance settings req oracle x pc).2.1
        (advance settings req oracle y pc).2.1 := by
  have left : Sees req.tenant foreign x (x.own req.tenant) := ⟨pair.left, rfl⟩
  have right : Sees req.tenant foreign' y (x.own req.tenant) := ⟨pair.right, pair.own⟩
  -- Where both are refused, they are refused for the same reason.
  have both {e : Exn} (raised : pc.insertion req oracle x = some (.error e))
      (raised' : pc.insertion req oracle y = some (.error e)) :
      (Storefront.advance settings req oracle x pc).1 = (Storefront.advance settings req oracle y pc).1 ∧
        Pair req foreign foreign' (Storefront.advance settings req oracle x pc).1
          (Storefront.advance settings req oracle x pc).2.1 (Storefront.advance settings req oracle y pc).2.1 := by
    rw [advance_refused raised, advance_refused raised']
    exact ⟨rfl, pair.own, pair.left, pair.right, refused_apart pair.apart e, refused_apart pair.apart' e⟩
  by_cases taken : pc.Taken req foreign
  · obtain ⟨alone, ends, cut⟩ := insertion_taken oracle left pair.apart taken
    by_cases taken' : pc.Taken req foreign'
    · obtain ⟨alone', ends', cut'⟩ := insertion_taken oracle right pair.apart' taken'
      obtain rfl : alone = alone' := Option.some.inj (ends.symm.trans ends')
      cases alone <;> exact both cut cut'
    · have free := insertion_free right pair.apart' unused' taken'
      cases alone with
      | ok _ => exact absurd taken (clear' (free.trans ends))
      | error e => exact both cut (free.trans ends)
  · by_cases taken' : pc.Taken req foreign'
    · obtain ⟨alone, ends, cut⟩ := insertion_taken oracle right pair.apart' taken'
      have free := insertion_free left pair.apart unused taken
      cases alone with
      | ok _ => exact absurd taken' (clear (free.trans ends))
      | error e => exact both (free.trans ends) cut
    · have first := advance_together settings left pair.apart unused taken
      have second := advance_together settings right pair.apart' unused' taken'
      have same := first.pc.trans second.pc.symm
      exact ⟨same, first.sees.own.symm.trans second.sees.own, first.sees.beside, second.sees.beside, first.apart,
        same ▸ second.apart⟩

inductive Visits (settings : Settings) (req : Request) (oracle : Point → Oracle) : Pc → Db → Pc → Db → Prop
  | here (pc : Pc) (db : Db) : Visits settings req oracle pc db pc db
  | later {pc pc' last : Pc} {db db' mid : Db} {calls : List GatewayCall} (running : pc.ended = false)
      (taken : advance settings req (oracle pc.point) db pc = (pc', db', calls))
      (rest : Visits settings req oracle pc' db' last mid) : Visits settings req oracle pc db last mid

variable {oracle : Point → Oracle}

theorem Visits.ends {last : Pc} {mid : Db} {ends : Except Exn CheckoutResult × Db}
    (visits : Visits settings req oracle pc x last mid) (alone : Alone settings req oracle pc x ends) :
    Alone settings req oracle last mid ends := by
  induction visits with
  | here => exact alone
  | later running taken _ ih =>
    cases alone with
    | done => cases running
    | crashed => cases running
    | step _ taken' rest =>
      rw [taken] at taken'
      cases taken'
      exact ih rest

theorem Alone.beside {ends : Except Exn CheckoutResult × Db} (alone : Alone settings req oracle pc x ends)
    (unused : ∀ point k, foreign.Unused ((oracle point).draw k)) (beside : x.Beside req.tenant foreign)
    (apart : pc.Apart req.tenant foreign x) : ends.2.Beside req.tenant foreign := by
  induction alone with
  | done => exact beside
  | crashed => exact beside
  | @step pc pc' db db' calls ends running taken rest ih =>
    have next := advance_sees settings (oracle pc.point) ⟨beside, rfl⟩ apart (unused pc.point)
    rw [taken] at next
    obtain ⟨⟨_, sees⟩, apart'⟩ := next
    exact ih sees.beside apart'

theorem Pair.alone {ends ends' : Except Exn CheckoutResult × Db} (pair : Pair req foreign foreign' pc x y)
    (unused : ∀ point k, foreign.Unused ((oracle point).draw k))
    (unused' : ∀ point k, foreign'.Unused ((oracle point).draw k))
    (alone : Alone settings req oracle pc x ends) (alone' : Alone settings req oracle pc y ends')
    (clear : ∀ last mid, Visits settings req oracle pc x last mid → last.Inserts req (oracle last.point) mid →
      ¬ last.Taken req foreign')
    (clear' : ∀ last mid, Visits settings req oracle pc y last mid → last.Inserts req (oracle last.point) mid →
      ¬ last.Taken req foreign) : ends.1 = ends'.1 ∧ ends.2.own req.tenant = ends'.2.own req.tenant := by
  induction alone generalizing y with
  | done frame result db =>
    cases alone' with
    | done => exact ⟨rfl, pair.own⟩
    | step running => cases running
  | crashed todo frame e db =>
    cases alone' with
    | crashed => exact ⟨rfl, pair.own⟩
    | step running => cases running
  | @step pc pc' db db' calls ends running taken rest ih =>
    cases alone' with
    | done => cases running
    | crashed => cases running
    | @step _ pc'' _ y' calls' _ _ taken' rest' =>
      obtain ⟨same, next⟩ := pair.advance settings (unused pc.point) (unused' pc.point)
        (clear pc db (.here pc db)) (clear' pc y (.here pc y))
      rw [taken] at same next
      rw [taken'] at same next
      obtain rfl : pc' = pc'' := same
      exact ih next rest' (fun last mid visits => clear last mid (.later running taken visits))
        fun last mid visits => clear' last mid (.later running taken' visits)

end Pair

end Storefront
