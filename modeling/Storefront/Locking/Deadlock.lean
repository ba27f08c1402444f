import Mathlib.Logic.Relation
import Storefront.Locking.Sessions

set_option autoImplicit false

/-!
# Transactions that wait for each other

The wait-for graph has an edge from a transaction to the one that holds the row it
needs next. Two arguments keep it free of cycles: which rows may be needed with which
others in hand, and lock orders in which no beginnings of transactions can block each
other.
-/

namespace Locking

open Transition

variable {τ κ : Type} {ν : κ → Type} {ρ ε : Type}

def Local.wants (base : ∀ k, ν k) (l : Local κ ν ρ ε) : Option κ :=
  match l.rest with
  | .select k wanted skipLocked _ => if wanted (l.view base k) && !skipLocked then some k else none
  | .update k wanted _ _ => if wanted (l.view base k) then some k else none
  | _ => none

def Local.locked (l : Local κ ν ρ ε) : Set κ := {k | (l.work k).isSome = true}

namespace Sessions

def WaitsFor (s : Sessions τ κ ν ρ ε) (watched : Set κ) (t u : τ) : Prop :=
  s.ended t = none ∧ ∃ k ∈ watched, (s.session t).wants s.base = some k ∧ s.owner k = some u ∧ u ≠ t

def Deadlocked (s : Sessions τ κ ν ρ ε) (watched : Set κ) : Prop :=
  ∃ t, Relation.TransGen (s.WaitsFor watched) t t

end Sessions

/-- Where each edge leads to a row that comes after all those before it, no path is a circle. -/
theorem not_circular {edges : τ → τ → Prop} {before : κ → κ → Prop} (held : τ → Set κ) (irrefl : ∀ k, ¬ before k k)
    (trans : ∀ i j k, before i j → before j k → before i k)
    (climbs : ∀ t u, edges t u → ∃ k ∈ held u, ∀ j ∈ held t, before j k) (t : τ) : ¬ Relation.TransGen edges t t := by
  have along {t u : τ} (path : Relation.TransGen edges t u) : ∃ k ∈ held u, ∀ j ∈ held t, before j k := by
    induction path with
    | single edge => exact climbs _ _ edge
    | tail _ edge ih =>
      obtain ⟨k, there, below⟩ := ih
      obtain ⟨k', there', below'⟩ := climbs _ _ edge
      exact ⟨k', there', fun j mine => trans j k k' (below j mine) (below' k there)⟩
  intro path
  obtain ⟨k, there, below⟩ := along path
  exact irrefl k (below k there)

/-! ## Rows that may be needed -/

namespace Program

/-- A statement waits only for rows that may be needed with the watched rows locked so
far. A row keeps being the one found under its key. -/
def Orderly (sane : ∀ k, ν k → Prop) (watched : Set κ) (may : Set κ → κ → Prop) : Program κ ν ρ ε → Set κ → Prop
  | .select k wanted skipLocked next, held =>
    (skipLocked = false → k ∈ watched → k ∈ held ∨ may (held ∩ watched) k) ∧
      (∀ v, sane k v → wanted v = true → (next (some v)).Orderly sane watched may (Insert.insert k held)) ∧
      (next none).Orderly sane watched may held
  | .read k next, held => ∀ v, sane k v → (next v).Orderly sane watched may held
  | .update k _ set next, held =>
    (k ∈ watched → k ∈ held ∨ may (held ∩ watched) k) ∧
      (∀ v v', sane k v → set v = .ok v' → sane k v') ∧
      next.Orderly sane watched may (Insert.insert k held) ∧ next.Orderly sane watched may held
  | .insert _ next, held => next.Orderly sane watched may held
  | .commit, _ | .raise _, _ => True

variable {sane : ∀ k, ν k → Prop} {watched held : Set κ} {may may' : Set κ → κ → Prop} {p : Program κ ν ρ ε}

theorem Orderly.mono (wider : ∀ rows k, may rows k → may' rows k) (orderly : p.Orderly sane watched may held) :
    p.Orderly sane watched may' held := by
  induction p generalizing held with
  | select k wanted skipLocked next ih =>
    obtain ⟨needs, taken, passed⟩ := orderly
    refine ⟨fun waits seen => (needs waits seen).imp_right (wider _ _), fun v good met => ?_, ih none passed⟩
    exact ih (some v) (taken v good met)
  | read k next ih => exact fun v good => ih v (orderly v good)
  | update k wanted set next ih =>
    obtain ⟨needs, keeps, written, passed⟩ := orderly
    exact ⟨fun seen => (needs seen).imp_right (wider _ _), keeps, ih written, ih passed⟩
  | insert row next ih => exact ih orderly
  | commit => trivial
  | raise e => trivial

end Program

/-- Transactions, no two with the same row, each need a row of another one in a circle. -/
def Tangle (may : τ → Set κ → κ → Prop) : Prop :=
  ∃ held : τ → Set κ, (∀ t u, t ≠ u → ∀ k ∈ held t, k ∉ held u) ∧
    ∃ t, Relation.TransGen (fun t u => t ≠ u ∧ ∃ k ∈ held u, may t (held t) k) t t

theorem not_tangle_of_before {may : τ → Set κ → κ → Prop} {before : κ → κ → Prop} (irrefl : ∀ k, ¬ before k k)
    (trans : ∀ i j k, before i j → before j k → before i k)
    (above : ∀ t rows k, may t rows k → k ∉ rows → ∀ j ∈ rows, before j k) : ¬ Tangle may := by
  rintro ⟨held, apart, t, path⟩
  refine not_circular held irrefl trans (fun t u needs => ?_) t path
  obtain ⟨other, k, theirs, allowed⟩ := needs
  exact ⟨k, theirs, above t _ k allowed fun mine => apart t u other k mine theirs⟩

section Needing

variable {sane : ∀ k, ν k → Prop} {watched : Set κ} {base : ∀ k, ν k} {free : κ → Bool} {l l' : Local κ ν ρ ε}

namespace Local

theorem view_sane (rows : ∀ k, sane k (base k)) (copies : ∀ k v, l.work k = some v → sane k v) (k : κ) :
    sane k (l.view base k) := by
  cases own : l.work k with
  | none =>
    rw [view_free own]
    exact rows k
  | some v =>
    rw [view_of_work own]
    exact copies k v own

variable [DecidableEq κ]

theorem locked_write (l : Local κ ν ρ ε) (k : κ) (v : ν k) : (l.write k v).locked = insert k l.locked := by
  ext j
  exact write_isSome

theorem write_sane (copies : ∀ k v, l.work k = some v → sane k v) {k : κ} {v : ν k} (good : sane k v) :
    ∀ j u, (l.write k v).work j = some u → sane j u := by
  intro j u own
  by_cases same : j = k
  · subst same
    obtain rfl : v = u := by simpa [write] using own
    exact good
  · exact copies j u (by simpa [write, same] using own)

variable {may : Set κ → κ → Prop}

theorem Steps.orderly (steps : Steps base free l l') (rows : ∀ k, sane k (base k))
    (copies : ∀ k v, l.work k = some v → sane k v) (rest : l.rest.Orderly sane watched may l.locked) :
    (∀ k v, l'.work k = some v → sane k v) ∧ l'.rest.Orderly sane watched may l'.locked := by
  have seen := view_sane rows copies
  cases steps with
  | locked k wanted skipLocked next at_ met open_ =>
    rw [at_] at rest
    refine ⟨write_sane copies (seen k), ?_⟩
    have later := rest.2.1 _ (seen k) met
    rwa [← locked_write l k (l.view base k)] at later
  | skipped k wanted next at_ met taken =>
    rw [at_] at rest
    exact ⟨copies, rest.2.2⟩
  | unwanted k wanted skipLocked next at_ unmet =>
    rw [at_] at rest
    exact ⟨copies, rest.2.2⟩
  | read k next at_ =>
    rw [at_] at rest
    exact ⟨copies, rest _ (seen k)⟩
  | updated k wanted set next v at_ met open_ new =>
    rw [at_] at rest
    refine ⟨write_sane copies (rest.2.1 _ _ (seen k) new), ?_⟩
    have later := rest.2.2.1
    rwa [← locked_write l k v] at later
  | refused k wanted set next e at_ met open_ raised => exact ⟨write_sane copies (seen k), trivial⟩
  | unmatched k wanted set next at_ unmet =>
    rw [at_] at rest
    exact ⟨copies, rest.2.2.2⟩
  | inserted row next at_ =>
    rw [at_] at rest
    exact ⟨copies, rest⟩

omit [DecidableEq κ] in
theorem wants_needed {k : κ} (rest : l.rest.Orderly sane watched may l.locked) (wants : l.wants base = some k)
    (seen : k ∈ watched) : k ∈ l.locked ∨ may (l.locked ∩ watched) k := by
  unfold Local.wants at wants
  split at wants
  next j wanted skipLocked next at_ =>
    split at wants
    next needs =>
      obtain rfl := Option.some.inj wants
      simp only [Bool.and_eq_true, Bool.not_eq_true'] at needs
      rw [at_] at rest
      exact rest.1 needs.2 seen
    · cases wants
  next j wanted set next at_ =>
    split at wants
    · obtain rfl := Option.some.inj wants
      rw [at_] at rest
      exact rest.1 seen
    · cases wants
  · cases wants

end Local

namespace Sessions

variable [DecidableEq τ] [DecidableEq κ] {programs : τ → Program κ ν ρ ε} {s s' : Sessions τ κ ν ρ ε} {a : Action τ}
  {may : τ → Set κ → κ → Prop}

structure Orderly (sane : ∀ k, ν k → Prop) (watched : Set κ) (may : τ → Set κ → κ → Prop) (s : Sessions τ κ ν ρ ε) : Prop
    extends Owned s where
  rows : ∀ k, sane k (s.base k)
  copies : ∀ t, s.ended t = none → ∀ k v, (s.session t).work k = some v → sane k v
  rest : ∀ t, s.ended t = none → (s.session t).rest.Orderly sane watched (may t) (s.session t).locked

namespace Orderly

omit [DecidableEq τ] [DecidableEq κ] in
theorem start (initial : s.Initial programs) (rows : ∀ k, sane k (s.base k))
    (good : ∀ t, (programs t).Orderly sane watched (may t) ∅) : s.Orderly sane watched may := by
  refine ⟨.start initial, rows, fun t _ k v own => ?_, fun t _ => ?_⟩
  · simp [initial.session t, Local.start] at own
  · have none_locked : (s.session t).locked = ∅ := by
      ext k
      simp [initial.session t, Local.start, Local.locked]
    rw [none_locked, initial.session t]
    exact good t

theorem step (orderly : s.Orderly sane watched may) (acts : Acts s a s') : s'.Orderly sane watched may := by
  refine ⟨orderly.toOwned.step acts, fun k => ?_, fun u alive => ?_, fun u alive => ?_⟩
  · cases acts with
    | committed t live at_ => exact Local.view_sane orderly.rows (orderly.copies t live) k
    | advanced | raised | killed => exact orderly.rows k
  · cases acts with
    | advanced t l live steps =>
      by_cases same : u = t
      · subst same
        simp only [advance, Function.update_self]
        exact (steps.orderly orderly.rows (orderly.copies u live) (orderly.rest u live)).1
      · simp only [advance, Function.update_of_ne same]
        exact orderly.copies u alive
    | committed t | raised t _ | killed t => exact orderly.copies u (alive_of_stop alive).2
  · cases acts with
    | advanced t l live steps =>
      by_cases same : u = t
      · subst same
        simp only [advance, Function.update_self]
        exact (steps.orderly orderly.rows (orderly.copies u live) (orderly.rest u live)).2
      · simp only [advance, Function.update_of_ne same]
        exact orderly.rest u alive
    | committed t | raised t _ | killed t => exact orderly.rest u (alive_of_stop alive).2

omit [DecidableEq τ] [DecidableEq κ] in
theorem tangle (orderly : s.Orderly sane watched may) (deadlocked : s.Deadlocked watched) : Tangle may := by
  obtain ⟨t, path⟩ := deadlocked
  refine ⟨fun t => {k | s.owner k = some t} ∩ watched, fun t u other k mine theirs => ?_, t, ?_⟩
  · exact other (Option.some.inj (mine.1.symm.trans theirs.1))
  · refine Relation.TransGen.mono (fun t u waits => ?_) _ _ path
    obtain ⟨live, k, seen, wants, owner, other⟩ := waits
    have held : (s.session t).locked = {k | s.owner k = some t} := by
      ext j
      exact ⟨orderly.owned t live j, orderly.works t j⟩
    have needed := Local.wants_needed (orderly.rest t live) wants seen
    rw [held] at needed
    rcases needed with own | allowed
    · exact absurd (Option.some.inj (owner.symm.trans own)) other
    · exact ⟨other.symm, k, ⟨owner, seen⟩, allowed⟩

end Orderly

/-- Where what may be needed has no tangle, no schedule makes transactions wait in a circle. -/
theorem never_deadlocked {s₀ : Sessions τ κ ν ρ ε} {moves : List (Move (Sessions τ κ ν ρ ε) (Action τ))}
    (run : (machine programs).Run s₀ moves s) (rows : ∀ k, sane k (s₀.base k))
    (good : ∀ t, (programs t).Orderly sane watched (may t) ∅) (free : ¬ Tangle may) : ¬ s.Deadlocked watched := by
  have orderly : s.Orderly sane watched may := by
    induction run with
    | start initial => exact .start initial rows good
    | step _ taken ih => exact ih.step (step_acts taken)
  exact fun deadlocked => free (orderly.tangle deadlocked)

end Sessions

end Needing

/-! ## Programs over the rows of a larger database -/

section Within

variable {κ' : Type} {ν' : κ' → Type} {ρ' : Type}

/-- A program, run where its rows are some of the rows. -/
def Program.within (key : κ → κ') (get : ∀ k, ν' (key k) → ν k) (put : ∀ k, ν k → ν' (key k)) (file : ρ → ρ') :
    Program κ ν ρ ε → Program κ' ν' ρ' ε
  | .select k wanted skipLocked next => .select (key k) (fun v => wanted (get k v)) skipLocked fun row =>
      (next (row.map (get k))).within key get put file
  | .read k next => .read (key k) fun v => (next (get k v)).within key get put file
  | .update k wanted set next => .update (key k) (fun v => wanted (get k v)) (fun v => (set (get k v)).map (put k))
      (next.within key get put file)
  | .insert row next => .insert (file row) (next.within key get put file)
  | .commit => .commit
  | .raise e => .raise e

variable {sane : ∀ k, ν k → Prop} {watched : Set κ} {may : Set κ → κ → Prop} {sane' : ∀ k, ν' k → Prop}
  {watched' : Set κ'} {may' : Set κ' → κ' → Prop} {key : κ → κ'} {get : ∀ k, ν' (key k) → ν k}
  {put : ∀ k, ν k → ν' (key k)} {file : ρ → ρ'}

theorem Program.Orderly.within {p : Program κ ν ρ ε} {held : Set κ} (orderly : p.Orderly sane watched may held)
    (sees : ∀ k v, sane' (key k) v → sane k (get k v)) (writes : ∀ k v, sane k v → sane' (key k) (put k v))
    (seen : ∀ k, key k ∈ watched' ↔ k ∈ watched) (allows : ∀ rows k, may rows k → may' (key '' rows) (key k)) :
    (p.within key get put file).Orderly sane' watched' may' (key '' held) := by
  have watches : watched = Set.preimage key watched' := Set.ext fun k => (seen k).symm
  have need {k : κ} {held : Set κ} (needs : k ∈ watched → k ∈ held ∨ may (held ∩ watched) k)
      (there : key k ∈ watched') : key k ∈ key '' held ∨ may' (key '' held ∩ watched') (key k) := by
    rw [← Set.image_inter_preimage, ← watches]
    exact (needs ((seen k).mp there)).imp (Set.mem_image_of_mem key) (allows _ k)
  induction p generalizing held with
  | select k wanted skipLocked next ih =>
    obtain ⟨needs, taken, passed⟩ := orderly
    refine ⟨fun waits => need (needs waits), fun v good met => ?_, ih none passed⟩
    rw [← Set.image_insert_eq]
    exact ih _ (taken _ (sees k v good) met)
  | read k next ih => exact fun v good => ih _ (orderly _ (sees k v good))
  | update k wanted set next ih =>
    obtain ⟨needs, keeps, written, passed⟩ := orderly
    refine ⟨need needs, fun v v' good new => ?_, ?_, ih passed⟩
    · change (set (get k v)).map (put k) = .ok v' at new
      cases result : set (get k v) with
      | error e =>
        rw [result] at new
        cases new
      | ok u =>
        rw [result] at new
        cases new
        exact writes k u (keeps _ u (sees k v good) result)
    · rw [← Set.image_insert_eq]
      exact ih written
  | insert row next ih => exact ih orderly
  | commit => trivial
  | raise e => trivial

end Within

/-! ## Transactions of other kinds beside them -/

/-- A row that nobody holds may be written by a transaction that is not looked at. -/
inductive Happening (τ κ : Type) (ν : κ → Type)
  | act (action : Action τ)
  | elsewhere (k : κ) (v : ν k)

namespace Sessions

variable [DecidableEq τ] [DecidableEq κ]

def happens (admits : ∀ k, ν k → Bool) (s : Sessions τ κ ν ρ ε) : Happening τ κ ν → Option (Sessions τ κ ν ρ ε)
  | .act action => s.step action
  | .elsewhere k v =>
    if (s.owner k).isNone && admits k v then some { s with base := Function.update s.base k v } else none

def among (programs : τ → Program κ ν ρ ε) (admits : ∀ k, ν k → Bool) :
    Machine (Sessions τ κ ν ρ ε) (Happening τ κ ν) where
  Start := Initial programs
  step := happens admits

variable {programs : τ → Program κ ν ρ ε} {admits : ∀ k, ν k → Bool} {sane : ∀ k, ν k → Prop} {watched : Set κ}
  {may : τ → Set κ → κ → Prop} {s s' : Sessions τ κ ν ρ ε}

theorem Orderly.happens {happening : Happening τ κ ν} (orderly : s.Orderly sane watched may)
    (good : ∀ k v, admits k v = true → sane k v) (taken : s.happens admits happening = some s') :
    s'.Orderly sane watched may := by
  cases happening with
  | act action => exact orderly.step (step_acts taken)
  | elsewhere k v =>
    simp only [Sessions.happens] at taken
    split at taken
    next allowed =>
      cases taken
      simp only [Bool.and_eq_true] at allowed
      refine ⟨⟨orderly.owned, orderly.works⟩, fun j => ?_, orderly.copies, orderly.rest⟩
      by_cases same : j = k
      · subst same
        simp only [Function.update_self]
        exact good j v allowed.2
      · simp only [Function.update_of_ne same]
        exact orderly.rows j
    · cases taken

theorem never_deadlocked_among {s₀ : Sessions τ κ ν ρ ε} {moves : List (Move (Sessions τ κ ν ρ ε) (Happening τ κ ν))}
    (run : (among programs admits).Run s₀ moves s) (rows : ∀ k, sane k (s₀.base k))
    (admitted : ∀ k v, admits k v = true → sane k v) (good : ∀ t, (programs t).Orderly sane watched (may t) ∅)
    (free : ¬ Tangle may) : ¬ s.Deadlocked watched := by
  have orderly : s.Orderly sane watched may := by
    induction run with
    | start initial => exact .start initial rows good
    | step _ taken ih => exact ih.happens admitted taken
  exact fun deadlocked => free (orderly.tangle deadlocked)

end Sessions

/-! ## Lock orders without knots -/

-- A transaction that has locked `held`, and needs a row that another one has locked.
def Blocks (orders held : τ → List κ) (t u : τ) : Prop := ∃ k, held t ++ [k] <+: orders t ∧ k ∈ held u

/-- Some transactions, each at a beginning of its lock order, block each other in a
circle. No two hold the same row. -/
def Knot (orders : τ → List κ) : Prop :=
  ∃ held : τ → List κ, (∀ t, held t <+: orders t) ∧ (∀ t u, t ≠ u → (held t).Disjoint (held u)) ∧
    ∃ t, Relation.TransGen (Blocks orders held) t t

theorem not_knot_of_pairwise {orders : τ → List κ} {before : κ → κ → Prop} (irrefl : ∀ k, ¬ before k k)
    (trans : ∀ i j k, before i j → before j k → before i k) (ordered : ∀ t, (orders t).Pairwise before) :
    ¬ Knot orders := by
  rintro ⟨held, _, _, t, path⟩
  refine not_circular (fun t => {k | k ∈ held t}) irrefl trans (fun t u blocks => ?_) t path
  obtain ⟨k, next, there⟩ := blocks
  refine ⟨k, there, fun j mine => ?_⟩
  exact (List.pairwise_append.mp ((ordered t).sublist next.sublist)).2.2 j mine k (List.mem_singleton_self k)

namespace Program

/-- Each row is locked as the next one of a list, and used only afterwards. -/
def Follows : Program κ ν ρ ε → List κ → List κ → Prop
  | .select k _ _ next, done, left => ∃ later, left = k :: later ∧
      (∀ v, (next (some v)).Follows (done ++ [k]) later) ∧ (next none).Follows done left
  | .read _ next, done, left => ∀ v, (next v).Follows done left
  | .update k _ _ next, done, left => k ∈ done ∧ next.Follows done left
  | .insert _ next, done, left => next.Follows done left
  | .commit, _, _ | .raise _, _, _ => True

end Program

section Following

variable {base : ∀ k, ν k} {free : κ → Bool} {l l' : Local κ ν ρ ε} {order : List κ}

def Local.Along (order : List κ) (l : Local κ ν ρ ε) (done : List κ) : Prop :=
  ∃ left, order = done ++ left ∧ (∀ k, k ∈ l.locked ↔ k ∈ done) ∧ l.rest.Follows done left

theorem Local.Along.wants {done : List κ} (along : l.Along order done) {k : κ} (wants : l.wants base = some k) :
    k ∈ l.locked ∨ done ++ [k] <+: order := by
  obtain ⟨left, rfl, locked, rest⟩ := along
  unfold Local.wants at wants
  split at wants
  next j wanted skipLocked next at_ =>
    split at wants
    · obtain rfl := Option.some.inj wants
      rw [at_] at rest
      obtain ⟨later, rfl, _⟩ := rest
      exact .inr ⟨later, by simp⟩
    · cases wants
  next j wanted set next at_ =>
    split at wants
    · obtain rfl := Option.some.inj wants
      rw [at_] at rest
      exact .inl ((locked _).mpr rest.1)
    · cases wants
  · cases wants

theorem Local.Steps.along [DecidableEq κ] {done : List κ} (steps : Local.Steps base free l l')
    (along : l.Along order done) : ∃ done', l'.Along order done' := by
  obtain ⟨left, rfl, locked, rest⟩ := along
  have kept {k : κ} {v : ν k} (mine : k ∈ done) : ∀ j, j ∈ (l.write k v).locked ↔ j ∈ done := by
    intro j
    rw [Local.locked_write, Set.mem_insert_iff, locked j]
    exact ⟨fun inside => inside.elim (fun same => same ▸ mine) id, .inr⟩
  cases steps with
  | locked k wanted skipLocked next at_ met open_ =>
    rw [at_] at rest
    obtain ⟨later, rfl, taken, _⟩ := rest
    refine ⟨done ++ [k], later, by simp, fun j => ?_, taken _⟩
    change j ∈ (l.write k (l.view base k)).locked ↔ _
    rw [Local.locked_write, Set.mem_insert_iff, locked j, List.mem_append, List.mem_singleton, or_comm]
  | skipped k wanted next at_ | unwanted k wanted skipLocked next at_ =>
    rw [at_] at rest
    obtain ⟨later, rfl, _, passed⟩ := rest
    exact ⟨done, k :: later, rfl, locked, passed⟩
  | read k next at_ =>
    rw [at_] at rest
    exact ⟨done, left, rfl, locked, rest _⟩
  | updated k wanted set next v at_ met open_ new =>
    rw [at_] at rest
    exact ⟨done, left, rfl, kept rest.1, rest.2⟩
  | refused k wanted set next e at_ met open_ raised =>
    rw [at_] at rest
    exact ⟨done, left, rfl, kept rest.1, trivial⟩
  | unmatched k wanted set next at_ unmet =>
    rw [at_] at rest
    exact ⟨done, left, rfl, locked, rest.2⟩
  | inserted row next at_ =>
    rw [at_] at rest
    exact ⟨done, left, rfl, locked, rest⟩

namespace Sessions

variable [DecidableEq τ] [DecidableEq κ] {programs : τ → Program κ ν ρ ε} {s s' : Sessions τ κ ν ρ ε} {a : Action τ}
  {orders : τ → List κ}

structure Following (orders : τ → List κ) (s : Sessions τ κ ν ρ ε) : Prop extends Owned s where
  holders : ∀ k t, s.owner k = some t → s.ended t = none
  along : ∀ t, s.ended t = none → ∃ done, (s.session t).Along (orders t) done

namespace Following

omit [DecidableEq τ] [DecidableEq κ] in
theorem start (initial : s.Initial programs) (good : ∀ t, (programs t).Follows [] (orders t)) : s.Following orders := by
  refine ⟨.start initial, fun k t own => ?_, fun t _ => ⟨[], orders t, rfl, fun k => ?_, ?_⟩⟩
  · simp [initial.owner] at own
  · simp [initial.session t, Local.start, Local.locked]
  · rw [initial.session t]
    exact good t

omit [DecidableEq κ] in
theorem holders_stop (following : s.Following orders) (t : τ) (how : End ε) (k : κ) (u : τ)
    (own : (s.stop t how).owner k = some u) : (s.stop t how).ended u = none := by
  simp only [stop] at own ⊢
  split at own
  · cases own
  next other =>
    have apart : u ≠ t := fun same => other (same ▸ own)
    rw [Function.update_of_ne apart]
    exact following.holders k u own

theorem step (following : s.Following orders) (acts : Acts s a s') : s'.Following orders := by
  refine ⟨following.toOwned.step acts, fun k u own => ?_, fun u alive => ?_⟩
  · cases acts with
    | advanced t l live steps =>
      simp only [advance] at own
      split at own
      · obtain rfl := Option.some.inj own
        exact live
      · exact following.holders k u own
    | committed t | raised t _ | killed t => exact following.holders_stop t _ k u own
  · cases acts with
    | advanced t l live steps =>
      by_cases same : u = t
      · subst same
        simp only [advance, Function.update_self]
        obtain ⟨done, along⟩ := following.along u live
        exact steps.along along
      · simp only [advance, Function.update_of_ne same]
        exact following.along u alive
    | committed t | raised t _ | killed t => exact following.along u (alive_of_stop alive).2

omit [DecidableEq τ] [DecidableEq κ] in
theorem knot (following : s.Following orders) (deadlocked : s.Deadlocked Set.univ) : Knot orders := by
  classical
  obtain ⟨t, path⟩ := deadlocked
  have far (t : τ) : ∃ done, done <+: orders t ∧ (∀ k, k ∈ done → s.owner k = some t) ∧
      (s.ended t = none → (s.session t).Along (orders t) done) := by
    cases ended : s.ended t with
    | none =>
      obtain ⟨done, left, split, locked, rest⟩ := following.along t ended
      refine ⟨done, ⟨left, split.symm⟩, fun k inside => ?_, fun _ => ⟨left, split, locked, rest⟩⟩
      exact following.owned t ended k ((locked k).mpr inside)
    | some how => exact ⟨[], List.nil_prefix, by simp, by simp⟩
  choose held start owned along using far
  have blocks (t u : τ) (waits : s.WaitsFor Set.univ t u) : Blocks orders held t u := by
    obtain ⟨live, k, _, wants, owner, other⟩ := waits
    rcases (along t live).wants wants with own | next
    · have owned := following.owned t live k own
      rw [owner] at owned
      exact absurd (Option.some.inj owned) other
    · obtain ⟨_, _, locked, _⟩ := along u (following.holders k u owner)
      exact ⟨k, next, (locked k).mp (following.works u k owner)⟩
  refine ⟨held, start, fun t u apart k mine theirs => ?_, t, Relation.TransGen.mono blocks _ _ path⟩
  have owner := owned t k mine
  rw [owned u k theirs] at owner
  exact apart (Option.some.inj owner).symm

end Following

/-- Where the lock orders have no knot, no schedule makes transactions wait in a circle. -/
theorem never_deadlocked_of_not_knot {s₀ : Sessions τ κ ν ρ ε} {moves : List (Move (Sessions τ κ ν ρ ε) (Action τ))}
    (run : (machine programs).Run s₀ moves s) (good : ∀ t, (programs t).Follows [] (orders t)) (free : ¬ Knot orders) :
    ¬ s.Deadlocked Set.univ := by
  have following : s.Following orders := by
    induction run with
    | start initial => exact .start initial good
    | step _ taken ih => exact ih.step (step_acts taken)
  exact fun deadlocked => free (following.knot deadlocked)

end Sessions

end Following

end Locking
