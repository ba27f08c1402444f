import Storefront.Relational.Parts

set_option autoImplicit false

/-!
# Run-time settings and row-level security

A connection carries one run-time setting. SET changes it for the session, SET
LOCAL until the transaction ends, and a transaction or savepoint that rolls back
takes both with it. The row policy compares the owner of a row with the setting:
a statement touches the rows its policy shows, and may leave only such rows.
-/

namespace Relational

open Schema

variable {κ : Type}

-- The setting inside one transaction or savepoint: the session's value, and one until the transaction ends.
structure Level (κ : Type) where
  session : Option κ
  here : Option κ

structure Session (κ : Type) where
  base : Option κ
  -- Innermost first.
  levels : List (Level κ)
  -- A setting that was named once reads as the empty text when it has no value, and as NULL before.
  named : Bool

inductive Reading (κ : Type)
  | null
  | blank
  | value (k : κ)
  deriving DecidableEq, Repr

namespace Session

variable (s : Session κ) (k : κ)

def top : Level κ := s.levels.head?.getD ⟨s.base, none⟩

def read : Reading κ :=
  match s.top.here.or s.top.session with
  | some k => .value k
  | none => if s.named then .blank else .null

-- BEGIN, or SAVEPOINT inside a transaction
def enter : Session κ := { s with levels := s.top :: s.levels }

-- COMMIT, or RELEASE SAVEPOINT
def commit : Session κ :=
  match s.levels with
  | [] => s
  | [level] => { s with base := level.session, levels := [] }
  | level :: _ :: rest => { s with levels := level :: rest }

-- ROLLBACK, or ROLLBACK TO SAVEPOINT
def rollback : Session κ := { s with levels := s.levels.tail }

def put (v : Option κ) : Session κ :=
  match s.levels with
  | [] => { s with base := v, named := true }
  | _ :: rest => { s with levels := ⟨v, none⟩ :: rest, named := true }

def set : Session κ := s.put (some k)

def reset : Session κ := s.put none

-- Outside a transaction SET LOCAL has no effect.
def setLocal : Session κ :=
  match s.levels with
  | [] => { s with named := true }
  | level :: rest => { s with levels := ⟨level.session, some k⟩ :: rest, named := true }

def Rests : Prop := s.base = none ∧ s.levels = []

variable {s k}

@[simp] theorem read_enter : s.enter.read = s.read := rfl

@[simp] theorem commit_enter : s.enter.commit = s := by
  obtain ⟨base, levels, named⟩ := s
  cases levels <;> rfl

@[simp] theorem rollback_enter : s.enter.rollback = s := rfl

@[simp] theorem read_setLocal : (s.enter.setLocal k).read = .value k := rfl

@[simp] theorem read_set : (s.set k).read = .value k := by
  obtain ⟨base, levels, named⟩ := s
  cases levels <;> rfl

theorem Rests.read (rests : s.Rests) : s.read = if s.named then .blank else .null := by
  obtain ⟨base, levels, named⟩ := s
  obtain ⟨rfl, rfl⟩ := rests
  rfl

theorem Rests.commit_setLocal (rests : s.Rests) : (s.enter.setLocal k).commit.Rests := by
  obtain ⟨base, levels, named⟩ := s
  obtain ⟨rfl, rfl⟩ := rests
  exact ⟨rfl, rfl⟩

theorem Rests.reset_set (rests : s.Rests) : (s.set k).reset.Rests := by
  obtain ⟨base, levels, named⟩ := s
  obtain ⟨rfl, rfl⟩ := rests
  exact ⟨rfl, rfl⟩

end Session

/-- What `owner = current_setting(..)` shows; the empty text is no owner at all, and comparing with it fails. -/
def Reading.policy [DecidableEq κ] : Reading κ → Option (κ → Bool)
  | .null => some fun _ => false
  | .blank => none
  | .value k => some (· == k)

def Reading.owner? : Reading κ → Option κ
  | .null => none
  | .blank => none
  | .value k => some k

theorem Reading.owner?_eq_some {reading : Reading κ} {k : κ} : reading.owner? = some k ↔ reading = .value k := by
  cases reading <;> simp [owner?]

theorem Reading.policy_shows [DecidableEq κ] {reading : Reading κ} {shows : κ → Bool}
    (given : reading.policy = some shows) {k : κ} (shown : shows k = true) : reading.owner? = some k := by
  cases reading <;> cases given
  · cases shown
  · rw [beq_iff_eq.mp shown, owner?]

namespace Table

variable {α : Type} [Schema α] (t : Table α) (visible p : α → Bool) (f : α → α) (row : α)

def selectBy : List α := t.rows.filter fun r => visible r && p r

/-- Rows that an update turns into rows the policy does not show. -/
def Leaks : Prop := ∃ r ∈ t.rows, visible r = true ∧ p r = true ∧ visible (f r) = false

instance : Decidable (t.Leaks visible p f) := inferInstanceAs (Decidable (∃ _ ∈ _, _))

def updateBy : Option (Table α) := t.update (fun r => visible r && p r) f

def deleteBy : Table α := t.delete fun r => visible r && p r

variable {t visible p f row} {t' : Table α} {mine : α → Bool}

/-! ## What a statement leaves alone -/

theorem mem_selectBy {r : α} : r ∈ t.selectBy visible p ↔ r ∈ t.rows ∧ visible r = true ∧ p r = true := by
  simp [selectBy]

theorem updateBy_hidden (hidden : ∀ r ∈ t.rows, visible r = false) : t.updateBy visible p f = some t :=
  update_eq_some.mpr (map_updated_out fun r member => by rw [hidden r member, Bool.false_and]).symm

theorem part_updateBy (written : t.updateBy visible p f = some t') (closed : ¬ t.Leaks visible p f)
    (out : ∀ r ∈ t.rows, visible r = true → p r = true → visible (f r) = true → mine r = false ∧ mine (f r) = false) :
    t'.part mine = t.part mine := by
  refine part_update_out written fun r member picked => ?_
  obtain ⟨shown, wanted⟩ := Bool.and_eq_true_iff.mp picked
  have stays : visible (f r) = true := by
    by_contra gone
    exact closed ⟨r, member, shown, wanted, by simpa using gone⟩
  exact out r member shown wanted stays

theorem part_deleteBy (out : ∀ r ∈ t.rows, visible r = true → p r = true → mine r = false) :
    (t.deleteBy visible p).part mine = t.part mine :=
  part_delete_out fun r member picked =>
    have ⟨shown, wanted⟩ := Bool.and_eq_true_iff.mp picked
    out r member shown wanted

end Table

end Relational
