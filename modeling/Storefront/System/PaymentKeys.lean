import Storefront.System.Idempotency

set_option autoImplicit false

/-!
# The idempotency keys of payments

An order keeps the key of its request and a payment the same key with a suffix for
the path. Both columns have the same length, so the suffix does not always fit.
-/

namespace Storefront

open Relational Transition

theorem derived_inj {key key' suffix suffix' : String} (known : suffix = ":auth" ∨ suffix = ":po")
    (known' : suffix' = ":auth" ∨ suffix' = ":po") (same : key ++ suffix = key' ++ suffix') :
    key = key' ∧ suffix = suffix' := by
  have lists := congrArg String.toList same
  rw [String.toList_append, String.toList_append] at lists
  have last := congrArg List.getLast? lists
  rcases known with rfl | rfl <;> rcases known' with rfl | rfl
  · exact ⟨String.append_left_inj _ |>.mp same, rfl⟩
  · simp at last
  · simp at last
  · exact ⟨String.append_left_inj _ |>.mp same, rfl⟩

section Runs

variable {settings : Settings} {lib : WebhookLibrary} {s s' : Sys} {l : Label}

def Sys.Derived (s : Sys) : Prop :=
  ∀ p ∈ s.db.payments.rows, ∃ o ∈ s.db.orders.rows, o.id = p.order ∧
    (p.idempotency_key = o.idempotency_key ++ ":auth" ∨ p.idempotency_key = o.idempotency_key ++ ":po")

theorem step_bills {i : Nat} {oracle : Oracle} {req : Request} {pc : Pc} {placed : Placed} {row : Payment}
    (taken : step settings lib s (.advance i oracle) = some s') (at_i : s.calls i = some ⟨req, pc⟩)
    (bills : Bills placed row pc) (rows : s'.db.payments.rows = s.db.payments.rows ++ [row]) :
    row.idempotency_key = req.idempotency_key ++ ":auth" ∨ row.idempotency_key = req.idempotency_key ++ ":po" := by
  have inserted {payment : Payment} {db' : Db} (created : createPayment payment s.db = .ok db')
      (written : s'.db = db') : row = payment := by
    obtain ⟨_, table, put, rfl⟩ := createPayment_eq_ok.mp created
    rw [written, Table.insert_rows put] at rows
    exact (List.singleton_inj.mp (List.append_cancel_left rows)).symm
  have refused (same : s'.db = s.db) : False := by simp [same] at rows
  simp only [step, at_i] at taken
  split at taken
  · cases taken
  cases bills with
  | invoice status config due =>
    simp only [advance] at taken
    split at taken
    next done =>
      cases taken
      rw [inserted (guard_ok done) rfl]
      exact .inr rfl
    · cases taken
      exact (refused rfl).elim
  | card config status named due =>
    simp only [advance] at taken
    split at taken
    next done =>
      cases taken
      rw [inserted (guard_ok done) rfl]
      exact .inl rfl
    · cases taken
      exact (refused rfl).elim

theorem Sys.Derived.step (derived : s.Derived) (owned : s.Owned) (taken : Storefront.step settings lib s l = some s') :
    s'.Derived := by
  have shape := (step_change taken).shape
  intro p' member
  have kept {o : Order} (present : o ∈ s.db.orders.rows) :
      ∃ o' ∈ s'.db.orders.rows, o'.id = o.id ∧ o'.idempotency_key = o.idempotency_key := by
    obtain ⟨o', there, body⟩ := shape.order_kept present
    exact ⟨o', there, congrArg OrderCore.id body, congrArg OrderCore.idempotency_key body⟩
  have old {p : Payment} (before : p ∈ s.db.payments.rows) (core : p'.core = p.core) :
      ∃ o ∈ s'.db.orders.rows, o.id = p'.order ∧
        (p'.idempotency_key = o.idempotency_key ++ ":auth" ∨ p'.idempotency_key = o.idempotency_key ++ ":po") := by
    obtain ⟨o, present, filed, keyed⟩ := derived p before
    obtain ⟨o', there, id, key⟩ := kept present
    refine ⟨o', there, ?_, ?_⟩
    · rw [id, filed]
      exact (congrArg PaymentCore.order core).symm
    · rw [key, show p'.idempotency_key = p.idempotency_key from congrArg PaymentCore.idempotency_key core]
      exact keyed
  cases shape with
  | billed i oracle req pc placed row at_l at_i bills named rows orders reservations =>
    rw [rows] at member
    rcases List.mem_append.mp member with before | now
    · exact old before rfl
    · obtain rfl := List.mem_singleton.mp now
      subst at_l
      have claimed : pc.claim.order = some placed.order.core := by cases bills <;> rfl
      have registered := owned.registered i _ at_i
      obtain ⟨o, present, core⟩ := List.mem_map.mp (registered.order_mem claimed)
      have key : o.idempotency_key = req.idempotency_key :=
        (congrArg OrderCore.idempotency_key core).trans (registered.mine _ claimed).2
      refine ⟨o, orders ▸ present, ?_, ?_⟩
      · rw [named]
        exact congrArg OrderCore.id core
      · rw [key]
        exact step_bills taken at_i bills rows
  | touched touch =>
    obtain ⟨p, before, core, _⟩ := touch.payment_of member
    exact old before core
  | stocked new orders items payments => exact old (payments ▸ member) rfl
  | ordered i oracle order items at_l rows status payments => exact old (payments ▸ member) rfl
  | linked i oracle req pc placed h at_l at_i converts links => exact old (links.payments ▸ member) rfl

theorem Run.derived {s₀ : Sys} {moves : List (Move Sys Label)} (run : (machine settings lib).Run s₀ moves s) :
    s.Owned ∧ s.Derived := by
  refine @Machine.Run.invariant _ _ _ (fun s => s.Owned ∧ s.Derived) ?_ ?_ _ _ _ run
  · intro s initial
    exact ⟨.start initial, by simp [Sys.Derived, initial.payments]⟩
  · intro s l s' inv taken
    exact ⟨inv.1.step taken, inv.2.step inv.1 taken⟩

/-- While a call has its order and no payment, no payment in the database has a key derived from its own. -/
theorem Sys.Derived.free (derived : s.Derived) (owned : s.Owned) {i : Nat} {req : Request} {pc : Pc} {placed : Placed}
    (at_i : s.calls i = some ⟨req, pc⟩) (frame : pc.frame = placed.frame none) {suffix : String}
    (known : suffix = ":auth" ∨ suffix = ":po") :
    ∀ p ∈ s.db.payments.rows, p.idempotency_key ≠ req.idempotency_key ++ suffix := by
  intro p member same
  have claimed : pc.claim.order = some placed.order.core := by
    rw [Pc.claim, frame]
    rfl
  have registered := owned.registered i _ at_i
  obtain ⟨o, present, core⟩ := List.mem_map.mp (registered.order_mem claimed)
  have key : o.idempotency_key = req.idempotency_key :=
    (congrArg OrderCore.idempotency_key core).trans (registered.mine _ claimed).2
  obtain ⟨o', there, filed, keyed⟩ := derived p member
  have equal : o'.idempotency_key = req.idempotency_key := by
    rcases keyed with auth | po
    · exact (derived_inj (.inl rfl) known (auth.symm.trans same)).1
    · exact (derived_inj (.inr rfl) known (po.symm.trans same)).1
  obtain rfl : o' = o := by
    apply s.db.orders.eq_of_entry there present (e := .text req.idempotency_key)
    · simp [Schema.entries, equal]
    · simp [Schema.entries, key]
  have own : p.core ∈ (s.db.skeleton.own pc.claim.orderId pc.claim.reservations).payments := by
    refine List.mem_filter.mpr ⟨List.mem_map_of_mem member, ?_⟩
    have order : pc.claim.orderId = some o'.id := by
      rw [Claim.orderId, claimed]
      exact congrArg some (congrArg OrderCore.id core).symm
    rw [order, filed]
    simp [Payment.core]
  rw [registered.payments, Pc.claim, frame] at own
  cases own

theorem createPayment_isSome_iff {db : Db} {row : Payment} (fresh : ∀ p ∈ db.payments.rows, p.id ≠ row.id)
    (free : ∀ p ∈ db.payments.rows, p.idempotency_key ≠ row.idempotency_key) :
    (∃ db', createPayment row db = .ok db') ↔ row.idempotency_key.length ≤ 128 := by
  constructor
  · rintro ⟨db', created⟩
    exact (createPayment_eq_ok.mp created).1
  · intro short
    obtain ⟨table, put⟩ : ∃ table, db.payments.insert row = some table := by
      refine Table.insert_isSome (fun p inside entry new old => ?_) (by simp [Schema.entries]) rfl
      simp only [Schema.entries, List.mem_cons, List.not_mem_nil, or_false] at new old
      rcases new with rfl | rfl
      · rcases old with same | other
        · exact fresh p inside (IndexEntry.primary.inj same).symm
        · cases other
      · rcases old with other | same
        · cases other
        · exact free p inside (IndexEntry.text.inj same).symm
    exact ⟨_, createPayment_eq_ok.mpr ⟨short, table, put, rfl⟩⟩

/-- A checkout that has its order gets its payment exactly if the suffix fits behind the key. -/
theorem payment_keys_fit_iff {s₀ : Sys} {moves : List (Move Sys Label)} (run : (machine settings lib).Run s₀ moves s)
    {i : Nat} {req : Request} {pc : Pc} {placed : Placed} (at_i : s.calls i = some ⟨req, pc⟩) (oracle : Oracle)
    (fresh : ∀ p ∈ s.db.payments.rows, p.id ≠ oracle.draw 0) :
    (pc = .invoice placed →
      ((∃ db', createPayment (invoicePayment req oracle placed) s.db = .ok db') ↔ req.idempotency_key.length ≤ 125)) ∧
    (∀ config, pc = .insertPayment placed config →
      ((∃ db', createPayment (cardPayment req oracle placed config) s.db = .ok db') ↔
        req.idempotency_key.length ≤ 123)) ∧
    ∀ key key' : String, key ≠ key' → ∀ suffix ∈ [":auth", ":po"], ∀ suffix' ∈ [":auth", ":po"],
      key ++ suffix ≠ key' ++ suffix' := by
  obtain ⟨owned, derived⟩ := Run.derived run
  refine ⟨?_, ?_, ?_⟩
  · rintro rfl
    rw [createPayment_isSome_iff fresh (derived.free owned at_i rfl (.inr rfl))]
    have length : (invoicePayment req oracle placed).idempotency_key.length = req.idempotency_key.length + 3 :=
      String.length_append _ _
    omega
  · rintro config rfl
    rw [createPayment_isSome_iff fresh (derived.free owned at_i rfl (.inl rfl))]
    have length : (cardPayment req oracle placed config).idempotency_key.length = req.idempotency_key.length + 5 :=
      String.length_append _ _
    omega
  · intro key key' other suffix known suffix' known' same
    exact other (derived_inj (by simpa using known) (by simpa using known') same).1

end Runs

def Pc.raised? : Pc → Option Exn
  | .done _ (.error e) => some e
  | _ => none

namespace Sample

-- Accepted by the order, too long for a payment.
def longKey : String := String.ofList (List.replicate 124 'k')

def ordersWith (key : String) : List Label :=
  .begin 0 { request with idempotency_key := key } :: blocks (placing ++ [.resolve])

def ordered : Sys := (lab.exec start (ordersWith "k1")).get (by decide +kernel)

def longOrdered : Sys := (lab.exec start (ordersWith longKey ++ blocks [.insertPayment])).get (by decide +kernel)

theorem ordered_inserts : ∃ req placed config, ordered.calls 0 = some ⟨req, .insertPayment placed config⟩ ∧
    req.idempotency_key = "k1" := by
  have there : (ordered.calls 0).any
      (fun c => c.pc.point = .insertPayment ∧ c.req.idempotency_key = "k1") = true := by decide +kernel
  rw [Option.any_eq_true] at there
  obtain ⟨⟨req, pc⟩, at_0, stands⟩ := there
  simp only [Bool.decide_and, Bool.and_eq_true, decide_eq_true_eq] at stands
  cases pc with
  | insertPayment placed config => exact ⟨req, placed, config, at_0, stands.2⟩
  | undo todo => cases todo <;> cases stands.1
  | _ => cases stands.1

end Sample

theorem payment_keys_fit_short : ∃ moves req placed config, Sample.lab.Run Sample.start moves Sample.ordered ∧
    Sample.ordered.calls 0 = some ⟨req, .insertPayment placed config⟩ ∧
    ((∃ db', createPayment (cardPayment req (Sample.oracle .insertPayment) placed config) Sample.ordered.db = .ok db') ↔
      req.idempotency_key.length ≤ 123) := by
  have ends : Sample.lab.exec Sample.start (Sample.ordersWith "k1") = some Sample.ordered := (Option.some_get _).symm
  obtain ⟨moves, run⟩ := Machine.exec_run Sample.start_initial ends
  obtain ⟨req, placed, config, at_0, key⟩ := Sample.ordered_inserts
  have fresh : ∀ p ∈ Sample.ordered.db.payments.rows, p.id ≠ (Sample.oracle .insertPayment).draw 0 := by decide +kernel
  exact ⟨moves, req, placed, config, run, at_0, (payment_keys_fit_iff run at_0 _ fresh).2.1 config rfl⟩

/-- The order with a key of 124 characters stands, its payment is refused, and nothing is undone. -/
theorem payment_key_refused : ∃ moves, Sample.lab.Run Sample.start moves Sample.longOrdered ∧
    Sample.longKey.length = 124 ∧
    Sample.longOrdered.db.orders.rows.map (fun o => (o.idempotency_key, o.status)) = [(Sample.longKey, .pending)] ∧
    Sample.longOrdered.db.payments.rows.length = 0 ∧
    (Sample.longOrdered.calls 0).bind (fun c => c.pc.raised?) = some .dataError := by
  have ends : Sample.lab.exec Sample.start (Sample.ordersWith Sample.longKey ++ Sample.blocks [.insertPayment]) =
      some Sample.longOrdered := (Option.some_get _).symm
  obtain ⟨moves, run⟩ := Machine.exec_run Sample.start_initial ends
  refine ⟨moves, run, ?_⟩
  decide +kernel

end Storefront
