import Mathlib.Data.List.Sort
import Mathlib.Tactic

set_option autoImplicit false

/-!
# Serving a queue in rounds

Each round serves the first `size` of the queue. Who is served and stays keeps
the place at the front; newcomers queue up behind.
-/

namespace Queueing

variable {α : Type} (size : Nat) (stays : α → Bool)

-- Whom some rounds do not reach, behind `front` that stay.
def unserved : Nat → Nat → List α → List α
  | 0, _, rest => rest
  | rounds + 1, front, rest =>
    unserved rounds (front + (rest.take (size - front)).countP stays) (rest.drop (size - front))

def Fits : Nat → List (List α) → Prop
  | _, [] => True
  | front, group :: later => front + group.length ≤ size ∧ Fits (front + group.countP stays) later

variable {size stays}

theorem unserved_nil (rounds front : Nat) : unserved size stays rounds front ([] : List α) = [] := by
  induction rounds generalizing front with
  | zero => rfl
  | succ rounds ih =>
    rw [unserved, List.take_nil, List.drop_nil]
    exact ih _

/-- Serving as many as possible is ahead of every other way to form groups. -/
theorem Fits.served {front : Nat} {groups : List (List α)} {ahead rest : List α} (fits : Fits size stays front groups)
    (split : groups.flatten = ahead ++ rest) :
    unserved size stays groups.length (front + ahead.countP stays) rest = [] := by
  induction groups generalizing front ahead rest with
  | nil =>
    have none_left : ahead ++ rest = [] := by simpa using split.symm
    exact (List.append_eq_nil_iff.mp none_left).2
  | cons group later ih =>
    obtain ⟨room, fits⟩ := fits
    have staying : ahead.countP stays ≤ ahead.length := List.countP_le_length
    rw [List.length_cons, unserved]
    generalize places : size - (front + ahead.countP stays) = n
    by_cases all : rest.length ≤ n
    · rw [List.drop_eq_nil_of_le all]
      exact unserved_nil _ _
    · -- The first group lies within what the round has served so far.
      have whole : group ++ later.flatten = (ahead ++ rest.take n) ++ rest.drop n := by
        rw [List.append_assoc, List.take_append_drop, ← split, List.flatten_cons]
      have within : group.length ≤ (ahead ++ rest.take n).length := by
        rw [List.length_append, List.length_take]
        omega
      obtain ⟨extra, served, next⟩ : ∃ extra, ahead ++ rest.take n = group ++ extra ∧
          later.flatten = extra ++ rest.drop n := by
        rcases List.append_eq_append_iff.mp whole with ⟨extra, served, next⟩ | ⟨extra, less, next⟩
        · exact ⟨extra, served, next⟩
        · have none_more : extra = [] := by
            have lengths := congrArg List.length less
            rw [List.length_append] at lengths
            exact List.length_eq_zero_iff.mp (by omega)
          rw [none_more] at less next
          exact ⟨[], by simpa using less.symm, by simpa using next.symm⟩
      have counts : front + ahead.countP stays + (rest.take n).countP stays =
          front + group.countP stays + extra.countP stays := by
        have same := congrArg (List.countP stays) served
        rw [List.countP_append, List.countP_append] at same
        omega
      rw [counts]
      exact ih fits next

section Sorting

variable {r : α → α → Prop} [DecidableRel r] {p : α → Bool}

end Sorting

end Queueing
