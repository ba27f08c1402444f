import Storefront.System.CartVersions
import Storefront.System.Deliveries
import Storefront.System.Returns

set_option autoImplicit false

/-!
# Giving carts back

A cart under checkout goes back to its customer by the undo of the checkout, by
the expiry sweep, and by the payment tasks through the cart its order names.
-/

namespace Storefront

open Relational Transition

/-- The order of a card checkout that returned "pending" is cancelled for its payment. -/
structure AsyncFailure (move : Move Sys Event) (order : Order) : Prop where
  task : (∃ k, move.label = .run (.process k)) ∨ ∃ payment answer, move.label = .run (.reconcile payment answer)
  returned : ∃ i req frame result, move.before.calls i = some ⟨req, .done frame (.ok result)⟩ ∧
    frame.order = some order ∧ result.payment_status = "pending"
  pending : move.before.db.orderStatus order.id = some .pending
  cancelled : move.after.db.orderStatus order.id = some .cancelled

def Db.bought (db : Db) (order : Id) : List (Option Id × Int) :=
  (db.orderItems.rows.filter fun i => i.order == order).map fun i => (i.product, i.quantity)

def CartGivenBack (db : Db) (order : Order) : Prop :=
  ∃ cart ∈ db.carts.rows, order.cart = some cart.id ∧ cart.status = .active ∧
    (db.cartLines order.tenant cart.id).map (fun i => (some i.product, i.quantity)) = db.bought order.id

def Db.NoOtherCart (db : Db) (order : Order) : Prop :=
  ∀ cart ∈ db.carts.rows, cart.customer = order.customer → cart.status = .active → order.cart = some cart.id

theorem Db.ConvertedCart.stays_away {db : Db} {order : Order} {cart : Id} (converted : db.ConvertedCart cart)
    (named : order.cart = some cart) : ¬ CartGivenBack db order := by
  rintro ⟨c, member, same, active, _⟩
  obtain ⟨c', member', here, final⟩ := converted
  have one := db.carts.eq_of_key member' member (here.trans (Option.some.inj (named.symm.trans same)))
  rw [one, active] at final
  cases final

/-- The payment tasks look for a cart under checkout, and the checkout that waits has converted its own. -/
theorem cart_not_given_back (settings : Settings) (lib : WebhookLibrary) {s₀ s : Sys}
    {moves : List (Move Sys Event)} (run : (storefront settings lib).Run s₀ moves s) {move : Move Sys Event}
    (member : move ∈ moves) {order : Order} (failure : AsyncFailure move order) :
    (∃ cart, order.cart = some cart ∧ move.after.db.ConvertedCart cart) ∧ ¬ CartGivenBack move.after.db order := by
  obtain ⟨taken, earlier, reached⟩ := run.reached move member
  obtain ⟨_, running⟩ := Run.running reached
  obtain ⟨owned, returns⟩ := Run.returns_linked running
  obtain ⟨i, req, frame, result, at_i, mine, _⟩ := failure.returned
  obtain ⟨cart, named⟩ := Option.isSome_iff_exists.mp (returns i req frame result at_i order mine)
  have claimed : (Pc.done frame (.ok result)).claim.order = some order.core := by
    simp [Pc.claim, Pc.frame, Frame.claim, mine]
  obtain ⟨row, present, core⟩ := List.mem_map.mp ((owned.registered i _ at_i).order_mem claimed)
  have linked : row.cart = some cart := (congrArg OrderCore.cart core).trans named
  have converted := shop_converted taken (Run.linked_converted reached row present cart linked)
  exact ⟨⟨cart, named, converted⟩, converted.stays_away named⟩

namespace Sample

-- A 3DS challenge that the customer leaves, as the gateway tells.
def challenged : List Event :=
  filling ++ calling (placing ++ [.resolve, .insertPayment]) ++
    [.run (.advance 0 { oracle .authorize with answer := .ok (intent .pending) })] ++
    (blocks [.recordResult, .convert]).map .run ++ [.run (.tick 1000), .run (.receive failedMail.post)]

def leaving : Event := .run (.process 0)

def beforeLeft : Sys := (floor.exec opening challenged).get (by decide +kernel)
def afterLeft : Sys := (floor.step beforeLeft leaving).get (by decide +kernel)

theorem challenged_runs : floor.exec opening challenged = some beforeLeft := (Option.some_get _).symm
theorem leaving_taken : floor.step beforeLeft leaving = some afterLeft := (Option.some_get _).symm

def waitingOrder (call : Call) : Option Order :=
  match call.pc with
  | .done frame (.ok result) => if result.payment_status = "pending" then frame.order else none
  | _ => none

theorem waitingOrder_returned {call : Call} {order : Order} (waits : waitingOrder call = some order) :
    ∃ frame result, call = ⟨call.req, .done frame (.ok result)⟩ ∧ frame.order = some order ∧
      result.payment_status = "pending" := by
  unfold waitingOrder at waits
  split at waits
  next frame result ended =>
    split at waits
    next pending => exact ⟨frame, result, by rw [← ended], waits, pending⟩
    · cases waits
  · cases waits

def left : Order := ((beforeLeft.calls 0).bind waitingOrder).get (by decide +kernel)

theorem left_returned : (beforeLeft.calls 0).bind waitingOrder = some left := (Option.some_get _).symm

theorem left_fails : AsyncFailure ⟨beforeLeft, leaving, afterLeft⟩ left := by
  refine ⟨.inl ⟨_, rfl⟩, ?_, ?_, ?_⟩
  · obtain ⟨call, at_0, waits⟩ := Option.bind_eq_some_iff.mp left_returned
    obtain ⟨frame, result, same, mine, pending⟩ := waitingOrder_returned waits
    exact ⟨0, call.req, frame, result, at_0.trans (congrArg some same), mine, pending⟩
  · decide +kernel
  · decide +kernel

end Sample

theorem cart_not_given_back_left : ∃ moves, Sample.floor.Run Sample.opening moves Sample.afterLeft ∧
    (∃ cart, Sample.left.cart = some cart ∧ Sample.afterLeft.db.ConvertedCart cart) ∧
      ¬ CartGivenBack Sample.afterLeft.db Sample.left := by
  obtain ⟨moves, run, member⟩ := Machine.exec_last Sample.opening_opens Sample.challenged_runs Sample.leaving_taken
  exact ⟨moves, run, cart_not_given_back _ _ run member Sample.left_fails⟩

/-- The customer of the failed payment has no cart left. -/
theorem cart_stays_converted : ¬ ∀ moves s, Sample.floor.Run Sample.opening moves s → ∀ move ∈ moves,
    ∀ order, AsyncFailure move order → move.after.db.NoOtherCart order → CartGivenBack move.after.db order := by
  intro given
  obtain ⟨moves, run, member⟩ := Machine.exec_last Sample.opening_opens Sample.challenged_runs Sample.leaving_taken
  have closed : ∀ c ∈ Sample.afterLeft.db.carts.rows, c.status ≠ .active := by decide +kernel
  have alone : Sample.afterLeft.db.NoOtherCart Sample.left :=
    fun c inside _ active => absurd active (closed c inside)
  obtain ⟨cart, inside, _, active, _⟩ := given moves _ run _ member Sample.left Sample.left_fails alone
  exact closed cart inside active

/-- A customer has at most one cart that is not closed. -/
def Db.OneLive (db : Db) : Prop :=
  ∀ c ∈ db.carts.rows, ∀ d ∈ db.carts.rows, c.status.live = true → d.status.live = true → c.customer = d.customer →
    c = d

section Reverts

variable {db db' : Db}

theorem cart_entry {c : Cart} {e : IndexEntry} (occupies : e ∈ Schema.entries c) :
    e = .primary c.id ∨ (e = .owner c.customer ∧ c.status = .active) := by
  simp only [Schema.entries, List.mem_cons] at occupies
  rcases occupies with primary | owner
  · exact .inl primary
  · split at owner
    next active => exact .inr ⟨List.mem_singleton.mp owner, active⟩
    · cases owner

theorem cart_entries_nodup (c : Cart) : (Schema.entries c).Nodup := by
  simp only [Schema.entries]
  split <;> simp

def Cart.reopened (c : Cart) : Cart := { c with status := .active }

theorem updated_reopened (p : Cart → Bool) (c : Cart) :
    (Table.updated p Cart.reopened c).id = c.id ∧ (Table.updated p Cart.reopened c).customer = c.customer := by
  unfold Table.updated
  split <;> exact ⟨rfl, rfl⟩

theorem reopens_iff {p : Cart → Bool} : (∃ db', db.updateCarts p Cart.reopened = .ok db') ↔
    ∀ c ∈ db.carts.rows, ∀ d ∈ db.carts.rows, (Table.updated p Cart.reopened c).status = .active →
      (Table.updated p Cart.reopened d).status = .active → c.customer = d.customer → c = d := by
  constructor
  · rintro ⟨db', done⟩ c left d right activeC activeD same
    obtain ⟨carts, updated, _⟩ := stored_eq_ok.mp done
    have rows := Table.update_rows updated
    have inside {e : Cart} (member : e ∈ db.carts.rows) : Table.updated p Cart.reopened e ∈ carts.rows := by
      rw [rows]
      exact List.mem_map_of_mem member
    have occupies {e : Cart} (active : e.status = .active) : IndexEntry.owner e.customer ∈ Schema.entries e := by
      simp [Schema.entries, active]
    have shared := occupies activeC
    rw [(updated_reopened p c).2, same, ← (updated_reopened p d).2] at shared
    have equal := carts.eq_of_entry (inside left) (inside right) shared (occupies activeD)
    refine db.carts.eq_of_key left right ?_
    exact (updated_reopened p c).1.symm.trans ((congrArg Cart.id equal).trans (updated_reopened p d).1)
  · intro alone
    have unique : ((db.carts.rows.map (Table.updated p Cart.reopened)).flatMap Schema.entries).Nodup := by
      refine List.nodup_flatMap.mpr ⟨fun c _ => cart_entries_nodup c, List.pairwise_map.mpr ?_⟩
      refine (List.pairwise_map.mp db.carts.keys_nodup).imp_of_mem fun {c d} left right apart e inC inD => ?_
      rcases cart_entry inC with rfl | ⟨rfl, activeC⟩
      · rcases cart_entry inD with same | ⟨owner, _⟩
        · have ids := IndexEntry.primary.inj same
          rw [(updated_reopened p c).1, (updated_reopened p d).1] at ids
          exact apart ids
        · cases owner
      · rcases cart_entry inD with primary | ⟨same, activeD⟩
        · cases primary
        · have customers := IndexEntry.owner.inj same
          rw [(updated_reopened p c).2, (updated_reopened p d).2] at customers
          exact apart (congrArg Cart.id (alone c left d right activeC activeD customers))
    obtain ⟨carts, updated⟩ : ∃ carts, db.carts.update p Cart.reopened = some carts :=
      ⟨_, dif_pos ⟨unique, fun _ _ => rfl⟩⟩
    exact ⟨_, stored_eq_ok.mpr ⟨carts, updated, rfl⟩⟩

theorem revert_succeeds (one : db.OneLive) {p : Cart → Bool} (checking : ∀ c, p c = true → c.status = .checkingOut) :
    ∃ db', db.updateCarts p (fun c => { c with status := .active }) = .ok db' := by
  have was_live (c : Cart) (active : (Table.updated p Cart.reopened c).status = .active) : c.status.live = true := by
    unfold Table.updated at active
    split at active
    next picked => simp [checking c picked, CartStatus.live]
    · simp [active, CartStatus.live]
  exact reopens_iff.mpr fun c left d right activeC activeD same =>
    one c left d right (was_live c activeC) (was_live d activeD) same

theorem revert_iff {cart : Id} : (∃ db', db.updateCarts (fun c => c.id == cart && c.status == .checkingOut)
    (fun c => { c with status := .active }) = .ok db') ↔
    ∀ c ∈ db.carts.rows, c.id = cart → c.status = .checkingOut →
      ∀ d ∈ db.carts.rows, d.customer = c.customer → d.status ≠ .active := by
  refine Iff.trans reopens_iff ?_
  constructor
  · intro alone c left named running d right same active
    have picked : (c.id == cart && c.status == .checkingOut) = true := by simp [named, running]
    have equal := alone c left d right (by simp [Table.updated, picked, Cart.reopened])
      (by simp [Table.updated, active]) same.symm
    rw [equal, active] at running
    cases running
  · intro free c left d right activeC activeD same
    have cases (e : Cart) (active : (Table.updated (fun c => c.id == cart && c.status == .checkingOut)
        Cart.reopened e).status = .active) : (e.id = cart ∧ e.status = .checkingOut) ∨ e.status = .active := by
      unfold Table.updated at active
      split at active
      next picked =>
        simp only [Bool.and_eq_true, beq_iff_eq] at picked
        exact .inl picked
      · exact .inr active
    rcases cases c activeC with ⟨named, running⟩ | open₁
    · rcases cases d activeD with ⟨named', _⟩ | open₂
      · exact db.carts.eq_of_key left right (named.trans named'.symm)
      · exact absurd open₂ (free c left named running d right same.symm)
    · rcases cases d activeD with ⟨named, running⟩ | open₂
      · exact absurd open₁ (free d right named running c left same)
      · refine db.carts.eq_of_entry left right (e := .owner c.customer) ?_ ?_
        · simp [Schema.entries, open₁]
        · simp [Schema.entries, open₂, same]

theorem Db.OneLive.restated (one : db.OneLive) (restated : Restated db db') : db'.OneLive := by
  intro c' left d' right live live' same
  obtain ⟨c, inC, status, time, goes, rfl⟩ := restated.only c' left
  obtain ⟨d, inD, status', time', goes', rfl⟩ := restated.only d' right
  have ids : c.id = d.id := congrArg Cart.id (one c inC d inD (goes.live live) (goes'.live live') same)
  exact db'.carts.eq_of_key left right ids

theorem Db.OneLive.unslotted (one : db.OneLive) (unslots : Unslots db db') : db'.OneLive := by
  intro c' left d' right live live' same
  obtain ⟨c, inC, core⟩ := unslots.row_of left
  obtain ⟨d, inD, core'⟩ := unslots.row_of right
  have status : c'.status = c.status := congrArg CartCore.status core
  have status' : d'.status = d.status := congrArg CartCore.status core'
  have customer : c'.customer = c.customer := congrArg CartCore.customer core
  have customer' : d'.customer = d.customer := congrArg CartCore.customer core'
  have rows := one c inC d inD (status ▸ live) (status' ▸ live') ((customer.symm.trans same).trans customer')
  have ids : c'.id = d'.id :=
    (congrArg CartCore.id core).trans ((congrArg Cart.id rows).trans (congrArg CartCore.id core').symm)
  exact db'.carts.eq_of_key left right ids

/-- An operation opens a second cart only beside one under checkout. -/
theorem Db.OneLive.turned {tenant customer : Id} {now : Time} {request : CartRequest} {row row' : Cart}
    (one : db.OneLive) (turned : Turned db tenant customer now request db' row row')
    (free : db.activeCart tenant customer = none → ∀ c ∈ db.carts.rows, c.customer = customer →
      c.status ≠ .checkingOut) :
    db'.OneLive := by
  obtain ⟨_, _, whose⟩ := turned.turn.identity
  obtain ⟨_, mine, active⟩ := turned.opened.active
  have apart {c : Cart} (present : c ∈ db.carts.rows) (there : c ∈ db'.carts.rows) (other : c.id ≠ row.id)
      (live : c.status.live = true) (live' : row'.status.live = true) : c.customer ≠ row'.customer := by
    intro shared
    have same : c.customer = row.customer := shared.trans whose
    cases turned.opened with
    | found found =>
      have rows := one c present row (activeCart_some found).1 live (by rw [active]; rfl) same
      exact other (congrArg Cart.id rows)
    | created none_active =>
      have status : c.status = .active := by
        cases kind : c.status with
        | active => rfl
        | checkingOut => exact absurd kind (free none_active c present (same.trans mine))
        | converted => rw [kind] at live; cases live
        | abandoned => rw [kind] at live; cases live
      have status' : row'.status = .active := by
        rcases turned.turn.counted with ⟨_, _, kept⟩ | ⟨_, _, gone⟩
        · exact (show row'.status = row.status from kept).trans active
        · rw [show row'.status = .abandoned from gone] at live'
          cases live'
      have equal := db'.carts.eq_of_entry there turned.present (e := .owner c.customer)
        (by simp [Schema.entries, status]) (by simp [Schema.entries, status', shared])
      exact other ((congrArg Cart.id equal).trans turned.turn.identity.1)
  intro c left d right live live' same
  rcases turned.row_of left with rfl | ⟨inC, otherC⟩
  · rcases turned.row_of right with rfl | ⟨inD, otherD⟩
    · rfl
    · exact absurd same.symm (apart inD right otherD live' live)
  · rcases turned.row_of right with rfl | ⟨inD, otherD⟩
    · exact absurd same (apart inC left otherC live live')
    · exact one c inC d inD live live' same

end Reverts

/-- Every update that gives carts back goes through. -/
structure Sys.RevertsFreely (s : Sys) : Prop where
  alone : ∀ c ∈ s.db.carts.rows, c.status = .checkingOut → ∀ d ∈ s.db.carts.rows, d.customer = c.customer →
    d.status ≠ .active
  undo : ∀ tenant cart, ∃ db', revertCartToActive tenant cart s.db = .ok db'
  task : ∀ order, ∃ db', revertCartIfCheckingOut order s.db = .ok db'
  sweep : ∀ scan cutoff, ∃ db', releaseExpiredBatch scan cutoff s.db = .ok db'

/-- No line is added for a customer without an active cart and with one under checkout. -/
def OpensNoSecond (move : Move Sys Event) : Prop :=
  ∀ tenant customer product quantity draw, move.label = .shopper tenant customer (.addItem product quantity) draw →
    move.before.db.activeCart tenant customer = none →
    ∀ c ∈ move.before.db.carts.rows, c.customer = customer → c.status ≠ .checkingOut

section Moves

variable {settings : Settings} {lib : WebhookLibrary} {s s' : Sys}

theorem Db.OneLive.step {e : Event} (one : s.db.OneLive) (taken : shop settings lib s e = some s')
    (free : OpensNoSecond ⟨s, e, s'⟩) : s'.db.OneLive := by
  cases shop_carts taken with
  | restated restated _ => exact one.restated restated
  | unslotted _ unslots => exact one.unslotted unslots
  | turned tenant customer request draw row row' shopper turned =>
    refine one.turned turned fun none_active => ?_
    obtain ⟨product, quantity, rfl⟩ : ∃ product quantity, request = .addItem product quantity := by
      cases turned.opened with
      | found found => exact absurd (none_active.symm.trans found) (by simp)
      | created _ product quantity adds => exact ⟨product, quantity, adds⟩
    exact free tenant customer product quantity draw shopper none_active

theorem Db.OneLive.reverts (one : s.db.OneLive) (counted : s.Counted) : s.RevertsFreely where
  alone c inC checking d inD same active := by
    have rows := one c inC d inD (by rw [checking]; rfl) (by rw [active]; rfl) same.symm
    rw [rows, active] at checking
    cases checking
  undo tenant cart := revert_succeeds one fun c picked => by simp_all
  task order := by
    unfold revertCartIfCheckingOut
    split
    · exact ⟨s.db, rfl⟩
    · exact revert_succeeds one fun c picked => by simp_all
  sweep scan cutoff := by
    have step : ∀ res ∈ (scan.order (expired cutoff s.db)).take 100, ∀ db : Db, db.OneLive →
        ∃ db', releaseExpiredOne db res = .ok db' ∧ db'.OneLive := by
      intro res inside db one
      have present := List.mem_of_mem_filter ((scan.perm _).mem_iff.mp (List.mem_of_mem_take inside))
      obtain ⟨mid, settled⟩ := settle_release_succeeds none db (counted res present)
      have carts : mid.carts = db.carts := (settle_settled settled).2
      have still : mid.OneLive := by
        unfold Db.OneLive
        rw [carts]
        exact one
      obtain ⟨last, reverted⟩ := revert_succeeds still (p := fun c => c.id == res.cart && c.status == .checkingOut)
        fun c picked => by simp_all
      exact ⟨last, bind_eq_ok.mpr ⟨mid, settled, reverted⟩,
        still.restated (revert_respects (restating 0) reverted fun c picked => by simp_all)⟩
    obtain ⟨db', done, _⟩ := foldlM_succeeds step one
    exact ⟨db', done⟩

theorem Sys.RevertsFreely.opens {e : Event} (reverts : s'.RevertsFreely) (taken : shop settings lib s e = some s') :
    OpensNoSecond ⟨s, e, s'⟩ := by
  intro tenant customer product quantity draw shopper none_active c member mine checking
  cases shop_carts taken with
  | restated _ idle => exact idle tenant customer _ draw shopper
  | unslotted clears _ =>
    obtain rfl : e = _ := shopper
    cases clears
  | turned tenant' customer' request draw' row row' same turned =>
    cases shopper.symm.trans same
    cases turned.opened with
    | found found => exact absurd (none_active.symm.trans found) (by simp)
    | created _ _ _ _ id now fresh new =>
      obtain ⟨_, whose, active⟩ := turned.opened.active
      have other : c.id ≠ row.id := by
        rw [new]
        exact fresh c member
      rcases turned.turn.counted with ⟨_, _, status⟩ | ⟨cleared, _⟩
      · have opened : row'.status = .active := (show row'.status = row.status from status).trans active
        have owner : row'.customer = c.customer := by
          have kept : row'.customer = row.customer := turned.turn.identity.2.2
          rw [kept, whose, mine]
        exact reverts.alone c (turned.within.others c member other) checking row' turned.present owner opened
      · cases cleared

/-- Carts go back without a collision exactly as long as no second cart is opened. -/
theorem reverts_freely_iff (settings : Settings) (lib : WebhookLibrary) {s₀ s : Sys} {moves : List (Move Sys Event)}
    (run : (storefront settings lib).Run s₀ moves s) :
    (∀ move ∈ moves, move.after.RevertsFreely) ↔ ∀ move ∈ moves, OpensNoSecond move := by
  have start (t : Sys) (opening : t.Opening) : t.db.OneLive := by
    intro c member
    simp [opening.carts] at member
  have step (t : Sys) (e : Event) (t' : Sys) (one : t.db.OneLive) (taken : shop settings lib t e = some t')
      (free : OpensNoSecond ⟨t, e, t'⟩) : t'.db.OneLive := one.step taken free
  constructor
  · intro reverts move member
    exact (reverts move member).opens (run.reached move member).1
  · intro meets move member
    obtain ⟨taken, earlier, reached⟩ := run.reached move member
    have one := run.sources_when start step meets move member
    obtain ⟨_, within⟩ := Run.running (reached.step taken)
    exact (one.step taken (meets move member)).reverts (Run.undoable within).counted

end Moves

namespace Sample

-- A checkout has locked the cart; the customer adds another mug.
def besides : List Event := filling ++ calling [.find, .lock]

def adding : Event := .shopper 1 10 (.addItem 30 1) (90 + ·)

def beforeBeside : Sys := (floor.exec opening besides).get (by decide +kernel)
def afterBeside : Sys := (floor.step beforeBeside adding).get (by decide +kernel)

theorem besides_runs : floor.exec opening besides = some beforeBeside := (Option.some_get _).symm
theorem adding_taken : floor.step beforeBeside adding = some afterBeside := (Option.some_get _).symm

end Sample

theorem reverts_freely_besides : ∃ moves, Sample.floor.Run Sample.opening moves Sample.beforeBeside ∧
    ((∀ move ∈ moves, move.after.RevertsFreely) ↔ ∀ move ∈ moves, OpensNoSecond move) := by
  obtain ⟨moves, run⟩ := Machine.exec_run Sample.opening_opens Sample.besides_runs
  exact ⟨moves, run, reverts_freely_iff Sample.settings Sample.library run⟩

/-- The undo of the first checkout collides with the cart opened meanwhile. -/
theorem revert_collides : ¬ ∀ moves s, Sample.floor.Run Sample.opening moves s →
    ∀ move ∈ moves, move.after.RevertsFreely := by
  intro reverts
  obtain ⟨moves, run, member⟩ := Machine.exec_last Sample.opening_opens Sample.besides_runs Sample.adding_taken
  obtain ⟨db', done⟩ := (reverts moves _ run _ member).undo 1 40
  have refused : (revertCartToActive 1 40 Sample.afterBeside.db).isOk = false := by decide +kernel
  rw [done] at refused
  cases refused

end Storefront
