import Mathlib.Logic.Basic
import Mathlib.Tactic

set_option autoImplicit false

/-!
# Labelled machines, their runs and run invariants
-/

namespace Transition

structure Machine (σ ℓ : Type) where
  Start : σ → Prop
  step : σ → ℓ → Option σ

structure Move (σ ℓ : Type) where
  before : σ
  label : ℓ
  after : σ

namespace Machine

variable {σ ℓ : Type} (m : Machine σ ℓ)

inductive Run : σ → List (Move σ ℓ) → σ → Prop
  | start {s : σ} (initial : m.Start s) : Run s [] s
  | step {s₀ s s' : σ} {moves : List (Move σ ℓ)} {l : ℓ} (run : Run s₀ moves s)
      (taken : m.step s l = some s') : Run s₀ (moves ++ [⟨s, l, s'⟩]) s'

def exec : σ → List ℓ → Option σ
  | s, [] => some s
  | s, l :: rest => (m.step s l).bind fun s' => exec s' rest

def Leads : σ → σ → Prop := Relation.ReflTransGen fun s s' => ∃ l, m.step s l = some s'

def only (ok : ℓ → Bool) : Machine σ ℓ where
  Start := m.Start
  step s l := if ok l then m.step s l else none

variable {m}

theorem only_step {ok : ℓ → Bool} {s s' : σ} {l : ℓ} (taken : (m.only ok).step s l = some s') :
    ok l = true ∧ m.step s l = some s' := by
  simp only [only] at taken
  split at taken
  next allowed => exact ⟨allowed, taken⟩
  · cases taken

def visited (moves : List (Move σ ℓ)) (s : σ) : List σ := moves.map Move.before ++ [s]

theorem Run.visited_leads {s₀ s : σ} {moves : List (Move σ ℓ)} (run : m.Run s₀ moves s) :
    ∀ t ∈ visited moves s, m.Leads t s := by
  induction run with
  | start _ => simp [visited, Leads, Relation.ReflTransGen.refl]
  | step run taken ih =>
    intro t member
    simp only [visited, List.map_append, List.map_cons, List.map_nil] at member
    rcases List.mem_append.mp member with old | new
    · exact (ih t old).tail ⟨_, taken⟩
    · rw [List.mem_singleton.mp new]
      exact .refl

theorem Run.move_leads {s₀ s : σ} {moves : List (Move σ ℓ)} (run : m.Run s₀ moves s) :
    ∀ a ∈ moves, m.Leads a.after s := by
  induction run with
  | start _ => simp
  | step _ taken ih =>
    intro a member
    rcases List.mem_append.mp member with old | new
    · exact (ih a old).tail ⟨_, taken⟩
    · rw [List.mem_singleton.mp new]
      exact .refl

theorem Run.moves_comparable {s₀ s : σ} {moves : List (Move σ ℓ)} (run : m.Run s₀ moves s) :
    ∀ a ∈ moves, ∀ b ∈ moves, a = b ∨ m.Leads a.after b.before ∨ m.Leads b.after a.before := by
  induction run with
  | start _ => simp
  | step run _ ih =>
    intro a left b right
    rcases List.mem_append.mp left with earlier | last
    · rcases List.mem_append.mp right with earlier' | last'
      · exact ih a earlier b earlier'
      · rw [List.mem_singleton.mp last']
        exact .inr (.inl (run.move_leads a earlier))
    · rcases List.mem_append.mp right with earlier' | last'
      · rw [List.mem_singleton.mp last]
        exact .inr (.inr (run.move_leads b earlier'))
      · exact .inl ((List.mem_singleton.mp last).trans (List.mem_singleton.mp last').symm)

theorem Run.started {s₀ s : σ} {moves : List (Move σ ℓ)} (run : m.Run s₀ moves s) : m.Start s₀ := by
  induction run with
  | start initial => exact initial
  | step _ _ ih => exact ih

/-- What every start state has and every step keeps holds after every run. -/
theorem Run.invariant {Inv : σ → Prop} (start : ∀ s, m.Start s → Inv s)
    (step : ∀ s l s', Inv s → m.step s l = some s' → Inv s') {s₀ s : σ}
    {moves : List (Move σ ℓ)} (run : m.Run s₀ moves s) : Inv s := by
  induction run with
  | start initial => exact start _ initial
  | step _ taken ih => exact step _ _ _ ih taken

theorem Run.append_end {s₀ s : σ} {moves : List (Move σ ℓ)} {move : Move σ ℓ} (run : m.Run s₀ (moves ++ [move]) s) :
    m.Run s₀ moves move.before ∧ m.step move.before move.label = some move.after ∧ s = move.after := by
  generalize whole : moves ++ [move] = all at run
  cases run with
  | start _ => simp at whole
  | step run taken =>
    obtain ⟨rfl, same⟩ := List.append_inj' whole rfl
    obtain rfl := List.singleton_injective same
    exact ⟨run, taken, rfl⟩

theorem Run.split {s₀ s : σ} {earlier later : List (Move σ ℓ)} {move : Move σ ℓ}
    (run : m.Run s₀ (earlier ++ move :: later) s) :
    m.Run s₀ earlier move.before ∧ m.step move.before move.label = some move.after := by
  induction later using List.reverseRecOn generalizing s with
  | nil =>
    obtain ⟨before, taken, _⟩ := run.append_end
    exact ⟨before, taken⟩
  | append_singleton later last ih =>
    rw [← List.cons_append, ← List.append_assoc] at run
    exact ih run.append_end.1

theorem Run.end_unique {s₀ s t : σ} {moves : List (Move σ ℓ)} (left : m.Run s₀ moves s) (right : m.Run s₀ moves t) :
    s = t := by
  cases left with
  | start _ =>
    generalize none : ([] : List (Move σ ℓ)) = all at right
    cases right with
    | start _ => rfl
    | step _ _ => simp at none
  | step _ _ => exact right.append_end.2.2.symm

/-- What holds where some moves begin, and each of them keeps, holds where they end. -/
theorem Run.since {Inv : σ → Prop} {P : List (Move σ ℓ) → σ → Prop} (start : ∀ s, m.Start s → Inv s)
    (step : ∀ s l s', Inv s → m.step s l = some s' → Inv s') {s₀ t s : σ} {earlier moves : List (Move σ ℓ)}
    (reached : m.Run s₀ earlier t) (holds : P [] t)
    (keeps : ∀ moves s l s', Inv s → P moves s → m.step s l = some s' → P (moves ++ [⟨s, l, s'⟩]) s')
    (run : m.Run s₀ (earlier ++ moves) s) : P moves s := by
  induction moves using List.reverseRecOn generalizing s with
  | nil =>
    rw [List.append_nil] at run
    exact run.end_unique reached ▸ holds
  | append_singleton moves move ih =>
    rw [← List.append_assoc] at run
    obtain ⟨before, taken, rfl⟩ := run.append_end
    exact keeps moves _ _ _ (before.invariant start step) (ih before) taken

/-- A machine whose steps are steps of another one runs within it. -/
theorem Run.simulated {ℓ' : Type} {m' : Machine σ ℓ'} (start : ∀ s, m.Start s → m'.Start s)
    (step : ∀ s l s', m.step s l = some s' → ∃ l', m'.step s l' = some s') {s₀ s : σ} {moves : List (Move σ ℓ)}
    (run : m.Run s₀ moves s) : ∃ moves', m'.Run s₀ moves' s := by
  induction run with
  | start initial => exact ⟨[], .start (start _ initial)⟩
  | step _ taken ih =>
    obtain ⟨_, within⟩ := ih
    obtain ⟨_, taken⟩ := step _ _ _ taken
    exact ⟨_, within.step taken⟩

theorem Run.reached {s₀ s : σ} {moves : List (Move σ ℓ)} (run : m.Run s₀ moves s) :
    ∀ move ∈ moves, m.step move.before move.label = some move.after ∧
      ∃ earlier, m.Run s₀ earlier move.before := by
  induction run with
  | start _ => simp
  | step run taken ih =>
    intro move member
    rcases List.mem_append.mp member with old | new
    · exact ih move old
    · obtain rfl := List.mem_singleton.mp new
      exact ⟨taken, _, run⟩

theorem Run.before_move {s₀ s : σ} {moves : List (Move σ ℓ)} (run : m.Run s₀ moves s) :
    ∀ move ∈ moves, m.step move.before move.label = some move.after ∧
      ∃ earlier, m.Run s₀ earlier move.before ∧ visited earlier move.before ⊆ visited moves s := by
  induction run with
  | start _ => simp
  | step run taken ih =>
    have grows {earlier : List (Move σ ℓ)} {t : σ} {moves : List (Move σ ℓ)} {s s' : σ} {l : ℓ}
        (within : visited earlier t ⊆ visited moves s) :
        visited earlier t ⊆ visited (moves ++ [⟨s, l, s'⟩]) s' := by
      intro u member
      have inside := within member
      simp only [visited, List.map_append, List.map_cons, List.map_nil] at inside ⊢
      exact List.mem_append_left _ inside
    intro move member
    rcases List.mem_append.mp member with old | new
    · obtain ⟨stepped, earlier, reached, within⟩ := ih move old
      exact ⟨stepped, earlier, reached, grows within⟩
    · obtain rfl := List.mem_singleton.mp new
      exact ⟨taken, _, run, grows (List.Subset.refl _)⟩

/-- An invariant that only survives the steps meeting a side condition. -/
theorem Run.invariant_when {Inv : σ → Prop} {ok : Move σ ℓ → Prop} (start : ∀ s, m.Start s → Inv s)
    (step : ∀ s l s', Inv s → m.step s l = some s' → ok ⟨s, l, s'⟩ → Inv s') {s₀ s : σ}
    {moves : List (Move σ ℓ)} (run : m.Run s₀ moves s) (meets : ∀ move ∈ moves, ok move) : Inv s := by
  induction run with
  | start initial => exact start _ initial
  | step run taken ih =>
    refine step _ _ _ (ih fun move member => meets move ?_) taken (meets _ ?_) <;> simp [*]

/-- The same, with the invariant at the source of every move. -/
theorem Run.sources_when {Inv : σ → Prop} {ok : Move σ ℓ → Prop} (start : ∀ s, m.Start s → Inv s)
    (step : ∀ s l s', Inv s → m.step s l = some s' → ok ⟨s, l, s'⟩ → Inv s') {s₀ s : σ}
    {moves : List (Move σ ℓ)} (run : m.Run s₀ moves s) (meets : ∀ move ∈ moves, ok move) :
    ∀ move ∈ moves, Inv move.before := by
  induction run with
  | start initial => simp
  | step run taken ih =>
    have earlier := fun move member => meets move (List.mem_append_left _ member)
    intro move member
    rcases List.mem_append.mp member with old | new
    · exact ih earlier move old
    · obtain rfl := List.mem_singleton.mp new
      exact run.invariant_when start step earlier

/-- Two properties of moves that agree wherever the invariant holds agree along every run. -/
theorem Run.forall_iff {Inv : σ → Prop} {P Q : Move σ ℓ → Prop} (start : ∀ s, m.Start s → Inv s)
    (step : ∀ s l s', Inv s → m.step s l = some s' → Inv s')
    (agree : ∀ s l s', Inv s → m.step s l = some s' → (P ⟨s, l, s'⟩ ↔ Q ⟨s, l, s'⟩)) {s₀ s : σ}
    {moves : List (Move σ ℓ)} (run : m.Run s₀ moves s) :
    (∀ move ∈ moves, P move) ↔ ∀ move ∈ moves, Q move := by
  have pointwise : ∀ move ∈ moves, (P move ↔ Q move) := by
    intro move member
    obtain ⟨taken, _, earlier⟩ := run.reached move member
    exact agree _ _ _ (earlier.invariant start step) taken
  exact ⟨fun h move member => (pointwise move member).mp (h move member),
    fun h move member => (pointwise move member).mpr (h move member)⟩

/-- A state property that a step keeps exactly under a side condition, from a state that has it. -/
theorem Run.safe_iff_from {Inv Safe : σ → Prop} {ok : Move σ ℓ → Prop} {s₀ : σ} (start : Inv s₀ ∧ Safe s₀)
    (step : ∀ s l s', Inv s → m.step s l = some s' → Inv s')
    (agree : ∀ s l s', Inv s → Safe s → m.step s l = some s' → (Safe s' ↔ ok ⟨s, l, s'⟩)) {s : σ}
    {moves : List (Move σ ℓ)} (run : m.Run s₀ moves s) :
    (∀ move ∈ moves, Safe move.after) ↔ ∀ move ∈ moves, ok move := by
  have inv {t : σ} {earlier : List (Move σ ℓ)} (run : m.Run s₀ earlier t) : Inv t := by
    induction run with
    | start _ => exact start.1
    | step _ taken ih => exact step _ _ _ ih taken
  have safe {t : σ} {earlier : List (Move σ ℓ)} (run : m.Run s₀ earlier t)
      (all : ∀ move ∈ earlier, Safe move.after) : Safe t := by
    cases run with
    | start _ => exact start.2
    | step _ _ => exact all _ (List.mem_append_right _ (List.mem_singleton.mpr rfl))
  induction run with
  | start initial => simp
  | step run taken ih =>
    simp only [List.mem_append, List.mem_singleton, or_imp, forall_and, forall_eq]
    constructor
    · intro ⟨old, new⟩
      exact ⟨ih.mp old, (agree _ _ _ (inv run) (safe run old) taken).mp new⟩
    · intro ⟨old, new⟩
      exact ⟨ih.mpr old, (agree _ _ _ (inv run) (safe run (ih.mpr old)) taken).mpr new⟩

theorem Run.safe_iff {Inv Safe : σ → Prop} {ok : Move σ ℓ → Prop}
    (start : ∀ s, m.Start s → Inv s ∧ Safe s)
    (step : ∀ s l s', Inv s → m.step s l = some s' → Inv s')
    (agree : ∀ s l s', Inv s → Safe s → m.step s l = some s' → (Safe s' ↔ ok ⟨s, l, s'⟩)) {s₀ s : σ}
    {moves : List (Move σ ℓ)} (run : m.Run s₀ moves s) :
    (∀ move ∈ moves, Safe move.after) ↔ ∀ move ∈ moves, ok move :=
  run.safe_iff_from (start s₀ run.started) step agree

theorem Run.leads {s₀ s s' : σ} {moves : List (Move σ ℓ)} (run : m.Run s₀ moves s) (leads : m.Leads s s') :
    ∃ moves', m.Run s₀ moves' s' := by
  induction leads with
  | refl => exact ⟨moves, run⟩
  | tail _ taken ih =>
    obtain ⟨_, earlier⟩ := ih
    obtain ⟨_, taken⟩ := taken
    exact ⟨_, earlier.step taken⟩

theorem Run.of_exec {s₀ s : σ} {before : List (Move σ ℓ)} (run : m.Run s₀ before s) {labels : List ℓ}
    {s' : σ} (ends : m.exec s labels = some s') : ∃ moves, m.Run s₀ (before ++ moves) s' := by
  induction labels generalizing s before with
  | nil =>
    cases ends
    exact ⟨[], by simpa using run⟩
  | cons l rest ih =>
    simp only [exec, Option.bind_eq_some_iff] at ends
    obtain ⟨next, taken, ends⟩ := ends
    obtain ⟨moves, run'⟩ := ih (run.step taken) ends
    exact ⟨⟨s, l, next⟩ :: moves, by simpa using run'⟩

-- The moves of an execution are named by its labels.
theorem Run.of_exec_labels {s₀ s : σ} {before : List (Move σ ℓ)} (run : m.Run s₀ before s) {labels : List ℓ}
    {s' : σ} (ends : m.exec s labels = some s') :
    ∃ moves, m.Run s₀ (before ++ moves) s' ∧ moves.map Move.label = labels := by
  induction labels generalizing s before with
  | nil =>
    cases ends
    exact ⟨[], by simpa using run⟩
  | cons l rest ih =>
    simp only [exec, Option.bind_eq_some_iff] at ends
    obtain ⟨next, taken, ends⟩ := ends
    obtain ⟨moves, run', named⟩ := ih (run.step taken) ends
    exact ⟨⟨s, l, next⟩ :: moves, by simpa using run', by simp [named]⟩

theorem Leads.keeps {Inv : σ → Prop} (step : ∀ s l s', Inv s → m.step s l = some s' → Inv s') {s s' : σ}
    (leads : m.Leads s s') (inv : Inv s) : Inv s' := by
  induction leads with
  | refl => exact inv
  | tail _ taken ih =>
    obtain ⟨_, taken⟩ := taken
    exact step _ _ _ ih taken

theorem exec_keeps {Inv : σ → Prop} {labels : List ℓ} (step : ∀ l ∈ labels, ∀ s s', Inv s → m.step s l = some s' → Inv s')
    {s s' : σ} (ends : m.exec s labels = some s') (inv : Inv s) : Inv s' := by
  induction labels generalizing s with
  | nil =>
    cases ends
    exact inv
  | cons l rest ih =>
    simp only [exec, Option.bind_eq_some_iff] at ends
    obtain ⟨next, taken, ends⟩ := ends
    exact ih (fun l' member => step l' (List.mem_cons_of_mem _ member)) ends (step l List.mem_cons_self _ _ inv taken)

theorem exec_run {s₀ s : σ} {labels : List ℓ} (initial : m.Start s₀) (ends : m.exec s₀ labels = some s) :
    ∃ moves, m.Run s₀ moves s := by
  obtain ⟨moves, run⟩ := (Run.start initial).of_exec ends
  exact ⟨moves, run⟩

theorem exec_last {s₀ s s' : σ} {labels : List ℓ} {l : ℓ} (initial : m.Start s₀)
    (ends : m.exec s₀ labels = some s) (taken : m.step s l = some s') :
    ∃ moves, m.Run s₀ moves s' ∧ ⟨s, l, s'⟩ ∈ moves := by
  obtain ⟨moves, run⟩ := exec_run initial ends
  exact ⟨_, run.step taken, by simp⟩

def passes (ok : σ → ℓ → Bool) : σ → List ℓ → Bool
  | _, [] => true
  | s, l :: rest => ok s l && (m.step s l).all fun s' => passes ok s' rest

theorem Run.of_passes {ok : σ → ℓ → Bool} {s₀ s t : σ} {before : List (Move σ ℓ)} (run : m.Run s₀ before t)
    (old : ∀ move ∈ before, ok move.before move.label = true) {labels : List ℓ} (ends : m.exec t labels = some s)
    (passes : m.passes ok t labels = true) :
    ∃ moves, m.Run s₀ moves s ∧ ∀ move ∈ moves, ok move.before move.label = true := by
  induction labels generalizing t before with
  | nil =>
    cases ends
    exact ⟨before, run, old⟩
  | cons l rest ih =>
    obtain ⟨next, taken, ends⟩ := Option.bind_eq_some_iff.mp ends
    simp only [Machine.passes, taken, Option.all_some, Bool.and_eq_true] at passes
    refine ih (run.step taken) (fun move member => ?_) ends passes.2
    rcases List.mem_append.mp member with earlier | last
    · exact old move earlier
    · obtain rfl := List.mem_singleton.mp last
      exact passes.1

theorem exec_passes {ok : σ → ℓ → Bool} {s₀ s : σ} {labels : List ℓ} (initial : m.Start s₀)
    (ends : m.exec s₀ labels = some s) (passes : m.passes ok s₀ labels = true) :
    ∃ moves, m.Run s₀ moves s ∧ ∀ move ∈ moves, ok move.before move.label = true :=
  (Run.start initial).of_passes (by simp) ends passes

theorem exec_append (s : σ) (first second : List ℓ) :
    m.exec s (first ++ second) = (m.exec s first).bind fun s' => m.exec s' second := by
  induction first generalizing s with
  | nil => rfl
  | cons l rest ih =>
    simp only [List.cons_append, exec]
    cases m.step s l with
    | none => rfl
    | some s' => exact ih s'

end Machine

end Transition
