import Storefront.System.CartContents

set_option autoImplicit false

/-!
# Which carts the sweep takes for idle

`abandon_stale_carts` reads the stamp of a cart. Some operations save the cart and
renew it, others write lines, applied coupons and the version only.
-/

namespace Storefront

open Relational Transition

structure Stamps (now : Time) (db db' : Db) : Prop where
  kept : ∀ c ∈ db.carts.rows, ∃ c' ∈ db'.carts.rows, c'.id = c.id ∧ (c'.updated_at = c.updated_at ∨ c'.updated_at = now)
  only : ∀ c' ∈ db'.carts.rows, (∃ c ∈ db.carts.rows, c'.updated_at = c.updated_at) ∨ c'.updated_at = now

theorem Stamps.of_carts {now : Time} {db db' : Db} (same : db'.carts = db.carts) : Stamps now db db' where
  kept c member := ⟨c, same ▸ member, rfl, .inl rfl⟩
  only c member := .inl ⟨c, same ▸ member, rfl⟩

theorem Stamps.trans {now : Time} {a b c : Db} (first : Stamps now a b) (second : Stamps now b c) : Stamps now a c where
  kept row member := by
    obtain ⟨mid, inside, named, stamp⟩ := first.kept row member
    obtain ⟨last, there, named', stamp'⟩ := second.kept mid inside
    refine ⟨last, there, named'.trans named, ?_⟩
    rcases stamp' with same | stamped
    · rw [same]
      exact stamp
    · exact .inr stamped
  only row member := by
    rcases second.only row member with ⟨mid, inside, same⟩ | stamped
    · rcases first.only mid inside with ⟨old, present, same'⟩ | stamped
      · exact .inl ⟨old, present, same.trans same'⟩
      · exact .inr (same.trans stamped)
    · exact .inr stamped

theorem Stamps.of_rows {now : Time} {db db' : Db} {f : Cart → Cart} (rows : db'.carts.rows = db.carts.rows.map f)
    (moved : ∀ c ∈ db.carts.rows, (f c).id = c.id ∧ ((f c).updated_at = c.updated_at ∨ (f c).updated_at = now)) :
    Stamps now db db' where
  kept c member := ⟨f c, rows ▸ List.mem_map_of_mem member, moved c member⟩
  only c' member := by
    obtain ⟨c, present, rfl⟩ := List.mem_map.mp (rows ▸ member)
    rcases (moved c present).2 with same | stamped
    · exact .inl ⟨c, present, same⟩
    · exact .inr stamped

theorem stamping (now : Time) : Restating now (Stamps now) where
  unchanged same := .of_carts (congrArg (Prod.fst ∘ Prod.fst) same)
  trans := Stamps.trans
  moves done goes := by
    obtain ⟨carts, updated, rfl⟩ := stored_eq_ok.mp done
    refine .of_rows (Table.update_rows updated) fun c member => ?_
    unfold Table.updated
    split
    next picked =>
      obtain ⟨status, _, same | stamped⟩ := goes c member picked
      · rw [same]
        exact ⟨rfl, .inl rfl⟩
      · rw [stamped]
        exact ⟨rfl, .inr rfl⟩
    · exact ⟨rfl, .inl rfl⟩

/-! ## Operations that renew the stamp -/

-- The operations that save no cart: lines, coupons and the version are written only.
def CartRequest.silentOn (b : CartRows) : CartRequest → Bool
  | .addItem _ _ => b.row.currency != ""
  | .removeItem item => b.items.any fun i => i.id != item
  | .updateItemQuantity _ _ | .applyCoupon _ | .removeCoupon _ => true
  | _ => false

def Event.silent (db : Db) : Event → Bool
  | .shopper tenant customer request _ =>
    (db.activeCart tenant customer).any fun c => request.silentOn (db.cartRows c)
  | _ => false

section Turns

variable {db : Db} {now : Time} {b b' : CartRows} {request : CartRequest}

theorem Turn.stamps (turn : Turn db now b request b') :
    b'.row.updated_at = b.row.updated_at ∨ b'.row.updated_at = now := by
  cases turn with
  | added | increased =>
    simp only [Cart.bumped, Cart.lockedIn]
    split
    · exact .inr rfl
    · exact .inl rfl
  | removed =>
    simp only [Cart.bumped, Cart.unlocked]
    split
    · exact .inr rfl
    · exact .inl rfl
  | requantified | applied | unapplied => exact .inl rfl
  | cleared | shipped | billed | paid => exact .inr rfl

theorem Turn.stamped (turn : Turn db now b request b') (loud : request.silentOn b = false) : b'.row.updated_at = now := by
  cases turn with
  | added | increased =>
    have unlocked : b.row.currency = "" := by simpa [CartRequest.silentOn] using loud
    simp only [Cart.bumped, Cart.lockedIn, unlocked, if_true]
  | removed line listed =>
    have emptied : b.items.filter (fun i => i.id != line.id) = [] := by
      simp only [CartRequest.silentOn, List.any_eq_false] at loud
      exact List.filter_eq_nil_iff.mpr loud
    simp only [Cart.bumped, Cart.unlocked, emptied, if_true]
  | requantified | applied | unapplied => cases loud
  | cleared | shipped | billed | paid => rfl

end Turns

section Steps

variable {settings : Settings} {lib : WebhookLibrary} {s s' : Sys}

theorem Turned.stamps {db db' : Db} {tenant customer : Id} {now : Time} {request : CartRequest} {row row' : Cart}
    (turned : Turned db tenant customer now request db' row row') : Stamps now db db' where
  kept c member := by
    by_cases mine : c.id = row.id
    · refine ⟨row', turned.present, turned.turn.identity.1.trans mine.symm, ?_⟩
      cases turned.opened with
      | found active =>
        obtain rfl := db.carts.eq_of_key member (activeCart_some active).1 mine
        exact turned.turn.stamps
      | created _ _ _ _ id _ fresh new =>
        rw [new] at mine
        exact absurd mine (fresh c member)
    · exact ⟨c, turned.within.others c member mine, rfl, .inl rfl⟩
  only c' member := by
    rcases turned.row_of member with rfl | ⟨present, _⟩
    · cases turned.opened with
      | found active =>
        rcases turned.turn.stamps with same | stamped
        · exact .inl ⟨row, (activeCart_some active).1, same⟩
        · exact .inr stamped
      | created _ _ _ adds _ _ _ new =>
        subst adds
        refine .inr (turned.turn.stamped ?_)
        rw [new]
        rfl
    · exact .inl ⟨c', present, rfl⟩

theorem deleteAddress_stamps {tenant customer address : Id} {now : Time} {db db' : Db}
    (done : deleteAddress tenant customer address db = .ok db') : Stamps now db db' := by
  simp only [deleteAddress, bind_eq_ok, pure_eq_ok] at done
  obtain ⟨_, _, rfl⟩ := done
  refine .of_rows (List.map_map ..) fun c _ => ?_
  simp only [Function.comp_apply, Table.updated]
  split <;> split <;> exact ⟨rfl, .inl rfl⟩

theorem deletePaymentMethod_stamps {tenant customer payment_method : Id} {now : Time} {db db' : Db}
    (done : deletePaymentMethod tenant customer payment_method db = .ok db') : Stamps now db db' := by
  simp only [deletePaymentMethod, bind_eq_ok, pure_eq_ok] at done
  obtain ⟨_, _, rfl⟩ := done
  refine .of_rows rfl fun c _ => ?_
  unfold Table.updated
  split <;> exact ⟨rfl, .inl rfl⟩

theorem shopper_turns {tenant customer : Id} {request : CartRequest} {draw : Nat → Id}
    (taken : shop settings lib s (.shopper tenant customer request draw) = some s') :
    s'.db = s.db ∨ ∃ row row', Turned s.db tenant customer s.now request s'.db row row' := by
  cases shop_cases taken with
  | shopper _ done =>
    rcases CartRequest.run_turns done with ⟨same, _⟩ | turned
    · exact .inl same
    · exact .inr turned

theorem shop_stamps {e : Event} (taken : shop settings lib s e = some s') : Stamps s.now s.db s'.db := by
  cases shop_cases taken with
  | shopper _ done =>
    rcases CartRequest.run_turns done with ⟨same, _⟩ | ⟨row, row', turned⟩
    · exact .of_carts (congrArg Db.carts same)
    · exact turned.stamps
  | abandonStale _ done => exact abandonStaleCarts_respects (stamping s.now) done
  | createCoupon done => exact .of_carts (by rw [createCoupon_frame done]; rfl)
  | patchCoupon done => exact .of_carts (by rw [patchCoupon_frame done]; rfl)
  | deactivateCoupon done => exact .of_carts (by rw [deactivateCoupon_frame done]; rfl)
  | deleteAddress done => exact deleteAddress_stamps done
  | deletePaymentMethod done => exact deletePaymentMethod_stamps done
  | editProfiles _ => exact .of_carts rfl
  | run apart stepped => exact step_respects (stamping s.now) stepped apart

theorem step_clock {l : Label} (taken : step settings lib s l = some s') : s.now ≤ s'.now := by
  cases l with
  | tick seconds =>
    cases taken
    exact Nat.le_add_right _ _
  | shop tables | sweep =>
    cases taken
    exact le_refl _
  | createProduct | patchProduct | deactivateProduct | cancelOrder =>
    obtain ⟨_, _, rfl⟩ := commits_eq_some taken
    exact le_refl _
  | begin | receive | markPaidRead | refundRead | refundCall | refundWrite =>
    simp only [step] at taken
    split at taken <;> cases taken
    exact le_refl _
  | advance i oracle =>
    simp only [step] at taken
    split at taken
    · cases taken
    · split at taken <;> cases taken
      exact le_refl _
  | process | reconcile | expire | markPaidWrite =>
    simp only [step] at taken
    split at taken
    · obtain ⟨_, _, rfl⟩ := commits_eq_some taken
      exact le_refl _
    · cases taken

theorem shop_clock {e : Event} (taken : shop settings lib s e = some s') : s.now ≤ s'.now := by
  rcases shop_edits taken with ⟨l, _, _, stepped⟩ | ⟨db', rfl, _⟩
  · exact step_clock stepped
  · exact le_refl _

theorem Turned.get_other {db db' : Db} {tenant customer : Id} {now : Time} {request : CartRequest} {row row' : Cart}
    (turned : Turned db tenant customer now request db' row row') {cart : Id} (other : cart ≠ row.id) :
    db'.carts.get cart = db.carts.get cart := by
  cases before : db.carts.get cart with
  | none =>
    cases after : db'.carts.get cart with
    | none => rfl
    | some c =>
      obtain ⟨member, named⟩ := Table.mem_of_get after
      have present := turned.within.only c member (named.trans_ne other)
      rw [← named, db.carts.get_of_mem present] at before
      cases before
  | some c =>
    obtain ⟨member, named⟩ := Table.mem_of_get before
    have present := turned.within.others c member (named.trans_ne other)
    rw [← named]
    exact db'.carts.get_of_mem present

end Steps

/-- A shopper's request that wrote the cart. -/
def Operates (cart : Id) (move : Move Sys Event) : Prop :=
  (∃ tenant customer request draw, move.label = .shopper tenant customer request draw) ∧
    move.after.db.carts.get cart ≠ move.before.db.carts.get cart

section Runs

variable {settings : Settings} {lib : WebhookLibrary} {s s' : Sys}

theorem Operates.stamped {cart : Id} {e : Event} (operates : Operates cart ⟨s, e, s'⟩)
    (taken : shop settings lib s e = some s') (loud : e.silent s.db = false) :
    ∃ c ∈ s'.db.carts.rows, c.id = cart ∧ c.updated_at = s.now := by
  obtain ⟨⟨tenant, customer, request, draw, asks⟩, changed⟩ := operates
  obtain rfl : e = .shopper tenant customer request draw := asks
  rcases shopper_turns taken with same | ⟨row, row', turned⟩
  · exact absurd (by rw [same]) changed
  · have mine : cart = row.id := by
      by_contra other
      exact changed (turned.get_other other)
    refine ⟨row', turned.present, turned.turn.identity.1.trans mine.symm, turned.turn.stamped ?_⟩
    cases turned.opened with
    | found active => simpa [Event.silent, active] using loud
    | created _ _ _ adds _ _ _ new =>
      rw [adds, new]
      rfl

/-- No stamp lies in the future, and every operation that saved its cart is no later than the stamp. -/
theorem Run.stamped {s₀ : Sys} {moves : List (Move Sys Event)} (run : (storefront settings lib).Run s₀ moves s) :
    (∀ c ∈ s.db.carts.rows, c.updated_at ≤ s.now) ∧ ∀ m ∈ moves, ∀ cart, Operates cart m →
      m.label.silent m.before.db = false → ∃ c ∈ s.db.carts.rows, c.id = cart ∧ m.before.now ≤ c.updated_at := by
  induction run with
  | start opening =>
    refine ⟨fun c member => ?_, by simp⟩
    rw [opening.carts] at member
    cases member
  | @step _ _ _ e run taken ih =>
    have taken : shop settings lib _ e = some _ := taken
    have stamps := shop_stamps taken
    have clock := shop_clock taken
    refine ⟨fun c' member => ?_, fun m member cart operates loud => ?_⟩
    · rcases stamps.only c' member with ⟨c, present, same⟩ | stamped
      · rw [same]
        exact le_trans (ih.1 c present) clock
      · rw [stamped]
        exact clock
    · rcases List.mem_append.mp member with old | new
      · obtain ⟨c, present, named, later⟩ := ih.2 m old cart operates loud
        obtain ⟨c', there, same, stamp⟩ := stamps.kept c present
        refine ⟨c', there, same.trans named, ?_⟩
        rcases stamp with still | stamped
        · rw [still]
          exact later
        · rw [stamped]
          exact le_trans later (ih.1 c present)
      · obtain rfl := List.mem_singleton.mp new
        obtain ⟨c, there, named, stamped⟩ := operates.stamped taken loud
        exact ⟨c, there, named, stamped.ge⟩

end Runs

/-- Whatever a pass abandons was last operated on before its cutoff. -/
def AbandonsIdle (earlier : List (Move Sys Event)) (move : Move Sys Event) : Prop :=
  ∀ cutoff, move.label = .abandonStale cutoff → ∀ c ∈ move.before.db.carts.rows, c.status = .active →
    (∃ c' ∈ move.after.db.carts.rows, c'.id = c.id ∧ c'.status = .abandoned) →
      ∀ m ∈ earlier, Operates c.id m → m.before.now ≤ cutoff

/-- No active cart with a stamp before the cutoff had a silent operation after it. -/
def NoSilentWork (earlier : List (Move Sys Event)) (move : Move Sys Event) : Prop :=
  ∀ cutoff, move.label = .abandonStale cutoff → ∀ c ∈ move.before.db.carts.rows, c.status = .active →
    c.updated_at < cutoff → ∀ m ∈ earlier, Operates c.id m → m.label.silent m.before.db = true → m.before.now ≤ cutoff

section Passes

variable {settings : Settings} {lib : WebhookLibrary} {s s' : Sys}

theorem abandonStale_marks {cutoff : Time} (taken : shop settings lib s (.abandonStale cutoff) = some s') {c : Cart}
    (member : c ∈ s.db.carts.rows) (active : c.status = .active) :
    (∃ c' ∈ s'.db.carts.rows, c'.id = c.id ∧ c'.status = .abandoned) ↔ c.updated_at < cutoff := by
  simp only [shop] at taken
  split at taken
  · obtain ⟨db', done, rfl⟩ := commits_eq_some taken
    obtain ⟨carts, updated, rfl⟩ := stored_eq_ok.mp done
    have rows := Table.update_rows updated
    simp only [Sys.withDb, rows, List.mem_map]
    constructor
    · rintro ⟨_, ⟨old, present, rfl⟩, named, abandoned⟩
      have same : old.id = c.id := by
        rw [← named]
        unfold Table.updated
        split <;> rfl
      obtain rfl := s.db.carts.eq_of_key present member same
      by_contra fresh
      rw [Table.updated, if_neg (by simp [fresh]), active] at abandoned
      cases abandoned
    · intro stale
      refine ⟨_, ⟨c, member, rfl⟩, ?_⟩
      rw [Table.updated, if_pos (by simp [active, stale])]
      exact ⟨rfl, rfl⟩
  · cases taken

theorem abandonsIdle_iff {earlier : List (Move Sys Event)} {s₀ : Sys} {e : Event}
    (run : (storefront settings lib).Run s₀ earlier s) (taken : shop settings lib s e = some s') :
    AbandonsIdle earlier ⟨s, e, s'⟩ ↔ NoSilentWork earlier ⟨s, e, s'⟩ := by
  constructor
  · intro idle cutoff pass c member active stale m before operates _
    obtain rfl : e = .abandonStale cutoff := pass
    exact idle cutoff rfl c member active ((abandonStale_marks taken member active).mpr stale) m before operates
  · intro quiet cutoff pass c member active marked m before operates
    obtain rfl : e = .abandonStale cutoff := pass
    have stale := (abandonStale_marks taken member active).mp marked
    cases silent : m.label.silent m.before.db with
    | true => exact quiet cutoff rfl c member active stale m before operates silent
    | false =>
      -- The stamp is no older than an operation that saved the cart.
      obtain ⟨c', present, named, later⟩ := (Run.stamped run).2 m before c.id operates silent
      obtain rfl := s.db.carts.eq_of_key present member named
      exact le_of_lt (lt_of_le_of_lt later stale)

/-- The sweep abandons idle carts only, exactly as long as no operation was silent on them. -/
theorem abandons_idle_iff (settings : Settings) (lib : WebhookLibrary) {s₀ s : Sys} {moves : List (Move Sys Event)}
    (run : (storefront settings lib).Run s₀ moves s) :
    (∀ earlier move later, moves = earlier ++ move :: later → AbandonsIdle earlier move) ↔
      ∀ earlier move later, moves = earlier ++ move :: later → NoSilentWork earlier move := by
  refine forall₃_congr fun earlier move later => forall_congr' fun split => ?_
  subst split
  obtain ⟨before, taken⟩ := run.split
  exact abandonsIdle_iff before taken

end Passes

namespace Sample

-- A month after the mugs went into the cart.
def idling : List Event := filling ++ [.run (.tick 2678400)]

def thirtyDays (s : Sys) : Event := .abandonStale (s.now - 2592000)

def idle : Sys := (floor.exec opening idling).get (by decide +kernel)
def afterIdle : Sys := (floor.step idle (thirtyDays idle)).get (by decide +kernel)

theorem idling_runs : floor.exec opening idling = some idle := (Option.some_get _).symm
theorem idle_taken : floor.step idle (thirtyDays idle) = some afterIdle := (Option.some_get _).symm

end Sample

theorem abandons_idle_month : ∃ earlier, Sample.floor.Run Sample.opening
      (earlier ++ [⟨Sample.idle, Sample.thirtyDays Sample.idle, Sample.afterIdle⟩]) Sample.afterIdle ∧
    (∃ c ∈ Sample.afterIdle.db.carts.rows, c.status = .abandoned) ∧
    ((∀ before move later, earlier ++ [⟨Sample.idle, Sample.thirtyDays Sample.idle, Sample.afterIdle⟩] =
        before ++ move :: later → AbandonsIdle before move) ↔
      ∀ before move later, earlier ++ [⟨Sample.idle, Sample.thirtyDays Sample.idle, Sample.afterIdle⟩] =
        before ++ move :: later → NoSilentWork before move) := by
  obtain ⟨earlier, run⟩ := Machine.exec_run Sample.opening_opens Sample.idling_runs
  have whole := run.step Sample.idle_taken
  exact ⟨earlier, whole, by decide +kernel, abandons_idle_iff Sample.settings Sample.library whole⟩

namespace Sample

-- The customer comes back and takes a third mug.
def thirdMug : Event := shopper (.updateItemQuantity 41 3)

def revisited : Sys := (floor.step idle thirdMug).get (by decide +kernel)
def afterRevisited : Sys := (floor.step revisited (thirtyDays revisited)).get (by decide +kernel)

theorem thirdMug_taken : floor.step idle thirdMug = some revisited := (Option.some_get _).symm
theorem revisited_taken : floor.step revisited (thirtyDays revisited) = some afterRevisited :=
  (Option.some_get _).symm

theorem thirdMug_operates : Operates 40 ⟨idle, thirdMug, revisited⟩ :=
  ⟨⟨_, _, _, _, rfl⟩, by decide +kernel⟩

end Sample

/-- The pass takes a cart that was changed this very second. -/
theorem abandons_in_use : ∃ earlier, Sample.floor.Run Sample.opening
      (earlier ++ [⟨Sample.revisited, Sample.thirtyDays Sample.revisited, Sample.afterRevisited⟩]) Sample.afterRevisited ∧
    ¬ AbandonsIdle earlier ⟨Sample.revisited, Sample.thirtyDays Sample.revisited, Sample.afterRevisited⟩ := by
  obtain ⟨earlier, run, member⟩ := Machine.exec_last Sample.opening_opens Sample.idling_runs Sample.thirdMug_taken
  refine ⟨earlier, run.step Sample.revisited_taken, fun idle => ?_⟩
  have found : ∃ c ∈ Sample.revisited.db.carts.rows, c.status = .active ∧ c.id = 40 := by decide +kernel
  obtain ⟨c, present, active, named⟩ := found
  have marked : ∃ c' ∈ Sample.afterRevisited.db.carts.rows, c'.id = c.id ∧ c'.status = .abandoned := by
    rw [named]
    decide +kernel
  have operated : Operates c.id ⟨Sample.idle, Sample.thirdMug, Sample.revisited⟩ := by
    rw [named]
    exact Sample.thirdMug_operates
  simp only [AbandonsIdle] at idle
  have early := idle _ rfl c present active marked _ member operated
  have late : ¬ Sample.idle.now ≤ Sample.revisited.now - 2592000 := by decide +kernel
  exact late early

end Storefront
