import Mathlib.Logic.Function.Basic
import Mathlib.Tactic

set_option autoImplicit false

/-!
# Transactions as programs of statements

A transaction locks, reads and writes rows one at a time, inserts rows and ends by
committing or raising. Its writes stay in working copies of the rows it locked.
-/

namespace Locking

/-- `select` is `SELECT ... FOR UPDATE` of a row that meets a condition, `update` is
`UPDATE ... SET ... WHERE`, `read` takes no lock. -/
inductive Program (κ : Type) (ν : κ → Type) (ρ ε : Type) where
  | select (k : κ) (wanted : ν k → Bool) (skipLocked : Bool) (next : Option (ν k) → Program κ ν ρ ε)
  | read (k : κ) (next : ν k → Program κ ν ρ ε)
  | update (k : κ) (wanted : ν k → Bool) (set : ν k → Except ε (ν k)) (next : Program κ ν ρ ε)
  | insert (row : ρ) (next : Program κ ν ρ ε)
  | commit
  | raise (e : ε)

variable {κ : Type} {ν : κ → Type} {ρ ε σ : Type}

abbrev Work (κ : Type) (ν : κ → Type) := ∀ k : κ, Option (ν k)

def overlay (work : Work κ ν) (base : ∀ k, ν k) : ∀ k, ν k := fun k => (work k).getD (base k)

theorem overlay_update [DecidableEq κ] (work : Work κ ν) (base : ∀ k, ν k) (k : κ) (v : ν k) :
    overlay (Function.update work k (some v)) base = Function.update (overlay work base) k v := by
  funext j
  by_cases same : j = k
  · subst same
    simp [overlay]
  · simp [overlay, same]

structure Local (κ : Type) (ν : κ → Type) (ρ ε : Type) where
  rest : Program κ ν ρ ε
  work : Work κ ν
  inserted : List ρ

namespace Local

def start (p : Program κ ν ρ ε) : Local κ ν ρ ε := ⟨p, fun _ => none, []⟩

def view (l : Local κ ν ρ ε) (base : ∀ k, ν k) : ∀ k, ν k := overlay l.work base

@[simp] theorem view_of_work {l : Local κ ν ρ ε} {base : ∀ k, ν k} {k : κ} {v : ν k} (own : l.work k = some v) :
    l.view base k = v := by
  simp [view, overlay, own]

theorem view_free {l : Local κ ν ρ ε} {base : ∀ k, ν k} {k : κ} (none : l.work k = none) :
    l.view base k = base k := by
  simp [view, overlay, none]

theorem view_congr {l : Local κ ν ρ ε} {base base' : ∀ k, ν k} {k : κ}
    (same : l.work k = none → base' k = base k) : l.view base' k = l.view base k := by
  cases own : l.work k with
  | none => rw [view_free own, view_free own, same own]
  | some v => rw [view_of_work own, view_of_work own]

theorem view_shape {shape : ∀ k, ν k → σ} {l : Local κ ν ρ ε} {base base' : ∀ k, ν k} {k : κ}
    (same : shape k (base' k) = shape k (base k)) : shape k (l.view base' k) = shape k (l.view base k) := by
  cases own : l.work k with
  | none => rw [view_free own, view_free own, same]
  | some v => rw [view_of_work own, view_of_work own]

def goto (l : Local κ ν ρ ε) (p : Program κ ν ρ ε) : Local κ ν ρ ε := { l with rest := p }

variable [DecidableEq κ]

def write (l : Local κ ν ρ ε) (k : κ) (v : ν k) : Local κ ν ρ ε :=
  { l with work := Function.update l.work k (some v) }

/-- One statement. Rows that are not free make it wait, or are skipped. -/
def step (base : ∀ k, ν k) (free : κ → Bool) (l : Local κ ν ρ ε) : Option (Local κ ν ρ ε) :=
  match l.rest with
  | .select k wanted skipLocked next =>
    if wanted (l.view base k) then
      if free k then some ((l.write k (l.view base k)).goto (next (some (l.view base k))))
      else if skipLocked then some (l.goto (next none)) else none
    else some (l.goto (next none))
  | .read k next => some (l.goto (next (l.view base k)))
  | .update k wanted set next =>
    if wanted (l.view base k) then
      if free k then
        match set (l.view base k) with
        | .ok v => some ((l.write k v).goto next)
        | .error e => some ((l.write k (l.view base k)).goto (.raise e))
      else none
    else some (l.goto next)
  | .insert row next => some { l with rest := next, inserted := l.inserted ++ [row] }
  | .commit | .raise _ => none

end Local

variable [DecidableEq κ]

namespace Program

/-- The whole transaction over a database nobody else changes. -/
def alone (base : ∀ k, ν k) : Program κ ν ρ ε → Work κ ν → List ρ → Except ε (Work κ ν × List ρ)
  | .select k wanted _ next, work, inserted =>
    if wanted (overlay work base k) then
      alone base (next (some (overlay work base k)))
        (Function.update work k (some (overlay work base k))) inserted
    else alone base (next none) work inserted
  | .read k next, work, inserted => alone base (next (overlay work base k)) work inserted
  | .update k wanted set next, work, inserted =>
    if wanted (overlay work base k) then
      match set (overlay work base k) with
      | .ok v => alone base next (Function.update work k (some v)) inserted
      | .error e => .error e
    else alone base next work inserted
  | .insert row next, work, inserted => alone base next work (inserted ++ [row])
  | .commit, work, inserted => .ok (work, inserted)
  | .raise e, _, _ => .error e

/-- Every row is locked before it is used. Only the part of a row that nobody
writes decides whether it is used at all. -/
def Disciplined (shape : ∀ k, ν k → σ) : Program κ ν ρ ε → Prop
  | .select k wanted skipLocked next => skipLocked = false ∧
      (∀ v v', shape k v = shape k v' → wanted v = wanted v') ∧ ∀ v, (next v).Disciplined shape
  | .read _ _ => False
  | .update k wanted set next => (∀ v v', shape k v = shape k v' → wanted v = wanted v') ∧
      (∀ v v', set v = .ok v' → shape k v' = shape k v) ∧ next.Disciplined shape
  | .insert _ next => next.Disciplined shape
  | .commit | .raise _ => True

end Program

namespace Local

def outcome (base : ∀ k, ν k) (l : Local κ ν ρ ε) : Except ε (Work κ ν × List ρ) :=
  l.rest.alone base l.work l.inserted

inductive Steps (base : ∀ k, ν k) (free : κ → Bool) (l : Local κ ν ρ ε) : Local κ ν ρ ε → Prop
  | locked (k : κ) (wanted : ν k → Bool) (skipLocked : Bool) (next : Option (ν k) → Program κ ν ρ ε)
      (at_ : l.rest = .select k wanted skipLocked next) (met : wanted (l.view base k) = true)
      (open_ : free k = true) :
      Steps base free l ((l.write k (l.view base k)).goto (next (some (l.view base k))))
  | skipped (k : κ) (wanted : ν k → Bool) (next : Option (ν k) → Program κ ν ρ ε)
      (at_ : l.rest = .select k wanted true next) (met : wanted (l.view base k) = true)
      (taken : free k = false) : Steps base free l (l.goto (next none))
  | unwanted (k : κ) (wanted : ν k → Bool) (skipLocked : Bool)
      (next : Option (ν k) → Program κ ν ρ ε) (at_ : l.rest = .select k wanted skipLocked next)
      (unmet : wanted (l.view base k) = false) : Steps base free l (l.goto (next none))
  | read (k : κ) (next : ν k → Program κ ν ρ ε) (at_ : l.rest = .read k next) :
      Steps base free l (l.goto (next (l.view base k)))
  | updated (k : κ) (wanted : ν k → Bool) (set : ν k → Except ε (ν k)) (next : Program κ ν ρ ε) (v : ν k)
      (at_ : l.rest = .update k wanted set next) (met : wanted (l.view base k) = true)
      (open_ : free k = true) (new : set (l.view base k) = .ok v) :
      Steps base free l ((l.write k v).goto next)
  | refused (k : κ) (wanted : ν k → Bool) (set : ν k → Except ε (ν k)) (next : Program κ ν ρ ε) (e : ε)
      (at_ : l.rest = .update k wanted set next) (met : wanted (l.view base k) = true)
      (open_ : free k = true) (raised : set (l.view base k) = .error e) :
      Steps base free l ((l.write k (l.view base k)).goto (.raise e))
  | unmatched (k : κ) (wanted : ν k → Bool) (set : ν k → Except ε (ν k)) (next : Program κ ν ρ ε)
      (at_ : l.rest = .update k wanted set next) (unmet : wanted (l.view base k) = false) :
      Steps base free l (l.goto next)
  | inserted (row : ρ) (next : Program κ ν ρ ε) (at_ : l.rest = .insert row next) :
      Steps base free l { l with rest := next, inserted := l.inserted ++ [row] }

theorem step_cases {base : ∀ k, ν k} {free : κ → Bool} {l l' : Local κ ν ρ ε}
    (taken : l.step base free = some l') : Steps base free l l' := by
  unfold step at taken
  split at taken
  next k wanted skipLocked next at_ =>
    split at taken
    next met =>
      split at taken
      next open_ =>
        cases taken
        exact .locked k wanted skipLocked next at_ met open_
      next taken_ =>
        split at taken
        next skips =>
          cases taken
          subst skips
          exact .skipped k wanted next at_ met (by simpa using taken_)
        · cases taken
    next unmet =>
      cases taken
      exact .unwanted k wanted skipLocked next at_ (by simpa using unmet)
  next k next at_ =>
    cases taken
    exact .read k next at_
  next k wanted set next at_ =>
    split at taken
    next met =>
      split at taken
      next open_ =>
        split at taken
        next v new =>
          cases taken
          exact .updated k wanted set next v at_ met open_ new
        next e raised =>
          cases taken
          exact .refused k wanted set next e at_ met open_ raised
      · cases taken
    next unmet =>
      cases taken
      exact .unmatched k wanted set next at_ (by simpa using unmet)
  next row next at_ =>
    cases taken
    exact .inserted row next at_
  · cases taken
  · cases taken

theorem write_isSome {l : Local κ ν ρ ε} {k : κ} {v : ν k} {j : κ} :
    ((l.write k v).work j).isSome = true ↔ j = k ∨ (l.work j).isSome = true := by
  by_cases same : j = k
  · subst same
    simp [write]
  · simp [write, same]

variable {base base' : ∀ k, ν k} {free : κ → Bool} {l l' : Local κ ν ρ ε} {shape : ∀ k, ν k → σ}

namespace Steps

theorem work_iff (steps : Steps base free l l') (k : κ) :
    ((l.work k).isSome = true → (l'.work k).isSome = true) ∧
      ((l'.work k).isSome = true → (l.work k).isSome = true ∨ free k = true) := by
  cases steps with
  | locked j _ _ _ _ _ open_ | updated j _ _ _ _ _ _ open_ | refused j _ _ _ _ _ _ open_ =>
    simp only [goto, write_isSome]
    refine ⟨fun own => .inr own, fun own => ?_⟩
    rcases own with rfl | before
    · exact .inr open_
    · exact .inl before
  | _ => exact ⟨fun own => own, fun own => .inl own⟩

theorem disciplined (steps : Steps base free l l') (good : l.rest.Disciplined shape) :
    l'.rest.Disciplined shape := by
  cases steps with
  | locked k wanted skipLocked next at_ | unwanted k wanted skipLocked next at_ =>
    rw [at_] at good
    exact good.2.2 _
  | skipped k wanted next at_ =>
    rw [at_] at good
    exact absurd good.1 (by simp)
  | read k next at_ =>
    rw [at_] at good
    exact good.elim
  | updated k wanted set next v at_ | unmatched k wanted set next at_ =>
    rw [at_] at good
    exact good.2.2
  | refused => trivial
  | inserted row next at_ =>
    rw [at_] at good
    exact good

theorem shapes (steps : Steps base free l l') (good : l.rest.Disciplined shape)
    (kept : ∀ k v, l.work k = some v → shape k v = shape k (base k)) :
    ∀ k v, l'.work k = some v → shape k v = shape k (base k) := by
  have seen (k : κ) : shape k (l.view base k) = shape k (base k) := by
    cases own : l.work k with
    | none => rw [view_free own]
    | some v => rw [view_of_work own, kept k v own]
  have written {j : κ} {new : ν j} (same : shape j new = shape j (l.view base j)) :
      ∀ k v, (l.write j new).work k = some v → shape k v = shape k (base k) := by
    intro k v own
    by_cases here : k = j
    · subst here
      obtain rfl : new = v := by simpa [write] using own
      exact same.trans (seen k)
    · exact kept k v (by simpa [write, here] using own)
  cases steps with
  | locked | refused => exact written rfl
  | updated k wanted set next v at_ met open_ new =>
    rw [at_] at good
    exact written (good.2.1 _ _ new)
  | _ => exact kept

theorem outcome (steps : Steps base free l l') (good : l.rest.Disciplined shape) :
    l'.outcome base = l.outcome base := by
  cases steps with
  | locked k wanted skipLocked next at_ met =>
    simp only [Local.outcome, at_, Program.alone]
    rw [if_pos (by exact met)]
    rfl
  | skipped k wanted next at_ =>
    rw [at_] at good
    exact absurd good.1 (by simp)
  | unwanted k wanted skipLocked next at_ unmet =>
    simp only [Local.outcome, at_, Program.alone]
    rw [if_neg (by rw [show wanted (overlay l.work base k) = false from unmet]; simp)]
    rfl
  | read k next at_ =>
    rw [at_] at good
    exact good.elim
  | updated k wanted set next v at_ met open_ new =>
    simp only [Local.outcome, at_, Program.alone]
    rw [if_pos (by exact met), show set (overlay l.work base k) = .ok v from new]
    rfl
  | refused k wanted set next e at_ met open_ raised =>
    simp only [Local.outcome, at_, Program.alone]
    rw [if_pos (by exact met), show set (overlay l.work base k) = .error e from raised]
    rfl
  | unmatched k wanted set next at_ unmet =>
    simp only [Local.outcome, at_, Program.alone]
    rw [if_neg (by rw [show wanted (overlay l.work base k) = false from unmet]; simp)]
    rfl
  | inserted row next at_ =>
    simp only [Local.outcome, at_, Program.alone]

theorem congr (steps : Steps base free l l') (good : l.rest.Disciplined shape)
    (same : ∀ k, (l'.work k).isSome = true → base' k = base k)
    (alike : ∀ k, shape k (base' k) = shape k (base k)) : Steps base' free l l' := by
  have seen {k : κ} (own : (l'.work k).isSome = true) : l.view base' k = l.view base k :=
    view_congr fun _ => same k own
  have wants {k : κ} {wanted : ν k → Bool}
      (decides : ∀ v v', shape k v = shape k v' → wanted v = wanted v') :
      wanted (l.view base' k) = wanted (l.view base k) := decides _ _ (view_shape (alike k))
  cases steps with
  | locked k wanted skipLocked next at_ met open_ =>
    rw [at_] at good
    have equal := seen (k := k) (by simp [goto, write_isSome])
    rw [← equal]
    exact .locked k wanted skipLocked next at_ ((wants good.2.1).trans met) open_
  | skipped k wanted next at_ =>
    rw [at_] at good
    exact absurd good.1 (by simp)
  | unwanted k wanted skipLocked next at_ unmet =>
    rw [at_] at good
    exact .unwanted k wanted skipLocked next at_ ((wants good.2.1).trans unmet)
  | read k next at_ =>
    rw [at_] at good
    exact good.elim
  | updated k wanted set next v at_ met open_ new =>
    rw [at_] at good
    have equal := seen (k := k) (by simp [goto, write_isSome])
    exact .updated k wanted set next v at_ ((wants good.1).trans met) open_ (equal ▸ new)
  | refused k wanted set next e at_ met open_ raised =>
    rw [at_] at good
    have equal := seen (k := k) (by simp [goto, write_isSome])
    rw [← equal]
    exact .refused k wanted set next e at_ ((wants good.1).trans met) open_ (equal ▸ raised)
  | unmatched k wanted set next at_ unmet =>
    rw [at_] at good
    exact .unmatched k wanted set next at_ ((wants good.1).trans unmet)
  | inserted row next at_ => exact .inserted row next at_

end Steps

inductive Reaches (base : ∀ k, ν k) (p : Program κ ν ρ ε) : Local κ ν ρ ε → Prop
  | start : Reaches base p (.start p)
  | step {l l' : Local κ ν ρ ε} (free : κ → Bool) (before : Reaches base p l)
      (steps : Steps base free l l') : Reaches base p l'

namespace Reaches

variable {p : Program κ ν ρ ε}

theorem disciplined (reaches : Reaches base p l) (good : p.Disciplined shape) : l.rest.Disciplined shape := by
  induction reaches with
  | start => exact good
  | step free _ steps ih => exact steps.disciplined ih

theorem shapes (reaches : Reaches base p l) (good : p.Disciplined shape) :
    ∀ k v, l.work k = some v → shape k v = shape k (base k) := by
  induction reaches with
  | start => exact fun _ _ own => by cases own
  | step free before steps ih => exact steps.shapes (before.disciplined good) ih

theorem outcome (reaches : Reaches base p l) (good : p.Disciplined shape) :
    l.outcome base = p.alone base (fun _ => none) [] := by
  induction reaches with
  | start => rfl
  | step free before steps ih => exact (steps.outcome (before.disciplined good)).trans ih

theorem stable (reaches : Reaches base p l) (good : p.Disciplined shape)
    (same : ∀ k, (l.work k).isSome = true → base' k = base k)
    (alike : ∀ k, shape k (base' k) = shape k (base k)) : Reaches base' p l := by
  induction reaches with
  | start => exact .start
  | step free before steps ih =>
    have earlier := ih fun k own => same k ((steps.work_iff k).1 own)
    exact .step free earlier (steps.congr (before.disciplined good) same alike)

end Reaches

end Local

end Locking
