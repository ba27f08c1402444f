import Mathlib.Data.List.Basic
import Mathlib.Data.Nat.Digits.Defs
import Mathlib.Tactic.IntervalCases

set_option autoImplicit false

/-!
# UUIDs as text

32 hexadecimal digits in groups of 8, 4, 4, 4 and 12, with a separator between two groups.
-/

namespace Text

def hexDigits : Nat → Nat → List Char
  | 0, _ => []
  | width + 1, n => hexDigits width (n / 16) ++ [Nat.digitChar (n % 16)]

theorem hexDigits_plain {width n : Nat} {c : Char} (inside : c ∈ hexDigits width n) : c ≠ '-' ∧ c ≠ '_' := by
  induction width generalizing n with
  | zero => cases inside
  | succ width ih =>
    rw [hexDigits, List.mem_append, List.mem_singleton] at inside
    rcases inside with inside | rfl
    · exact ih inside
    · have plain : ∀ d < 16, Nat.digitChar d ≠ '-' ∧ Nat.digitChar d ≠ '_' := by decide
      exact plain _ (Nat.mod_lt n (by decide))

theorem digitChar_injective {d e : Nat} (left : d < 16) (right : e < 16) (same : Nat.digitChar d = Nat.digitChar e) :
    d = e := by
  have apart : ∀ d < 16, ∀ e < 16, Nat.digitChar d = Nat.digitChar e → d = e := by decide
  exact apart d left e right same

theorem hexDigits_injective {width n m : Nat} (left : n < 16 ^ width) (right : m < 16 ^ width)
    (same : hexDigits width n = hexDigits width m) : n = m := by
  induction width generalizing n m with
  | zero =>
    rw [Nat.pow_zero, Nat.lt_one_iff] at left right
    rw [left, right]
  | succ width ih =>
    obtain ⟨high, low⟩ := List.append_inj' same rfl
    rw [Nat.pow_succ'] at left right
    have quotients : n / 16 = m / 16 := ih (Nat.div_lt_of_lt_mul left) (Nat.div_lt_of_lt_mul right) high
    have digits : n % 16 = m % 16 :=
      digitChar_injective (Nat.mod_lt n (by decide)) (Nat.mod_lt m (by decide)) (List.singleton_inj.mp low)
    omega

/-! ## Groups -/

def grouped (sep : Char) : List Nat → List Char → List Char
  | [], s => s
  | size :: sizes, s => s.take size ++ sep :: grouped sep sizes (s.drop size)

def replaceChar (old new : Char) (s : List Char) : List Char := s.map fun c => if c = old then new else c

theorem replaceChar_of_not_mem {old new : Char} {s : List Char} (clear : old ∉ s) : replaceChar old new s = s := by
  refine (List.map_congr_left fun c inside => if_neg ?_).trans (List.map_id s)
  rintro rfl
  exact clear inside

theorem replaceChar_grouped {old new : Char} {sizes : List Nat} {s : List Char} (clear : old ∉ s) :
    replaceChar old new (grouped old sizes s) = grouped new sizes s := by
  induction sizes generalizing s with
  | nil => exact replaceChar_of_not_mem clear
  | cons size sizes ih =>
    have head : replaceChar old new (s.take size) = s.take size :=
      replaceChar_of_not_mem fun inside => clear (List.mem_of_mem_take inside (i := size))
    have tail := ih fun inside => clear (List.mem_of_mem_drop inside (i := size))
    simp only [replaceChar] at head tail
    simp [grouped, replaceChar, head, tail]

theorem grouped_filter {sep : Char} {sizes : List Nat} {s : List Char} (clear : sep ∉ s) :
    (grouped sep sizes s).filter (· ≠ sep) = s := by
  have keeps {t : List Char} (clear : sep ∉ t) : t.filter (· ≠ sep) = t := by
    refine List.filter_eq_self.mpr fun c inside => decide_eq_true ?_
    rintro rfl
    exact clear inside
  induction sizes generalizing s with
  | nil => exact keeps clear
  | cons size sizes ih =>
    have head := keeps fun inside => clear (List.mem_of_mem_take inside (i := size))
    have tail := ih fun inside => clear (List.mem_of_mem_drop inside (i := size))
    rw [grouped, List.filter_append, head, List.filter_cons_of_neg (by simp), tail, List.take_append_drop]

/-! ## UUIDs -/

-- A UUID is its 128 bits.
def uuidCount : Nat := 2 ^ 128

def uuidStr (id : Nat) : List Char := grouped '-' [8, 4, 4, 4] (hexDigits 32 id)

theorem underscored_injective {id id' : Nat} (left : id < uuidCount) (right : id' < uuidCount)
    (same : replaceChar '-' '_' (uuidStr id) = replaceChar '-' '_' (uuidStr id')) : id = id' := by
  have plain (n : Nat) : '-' ∉ hexDigits 32 n ∧ '_' ∉ hexDigits 32 n :=
    ⟨fun inside => (hexDigits_plain inside).1 rfl, fun inside => (hexDigits_plain inside).2 rfl⟩
  rw [uuidStr, uuidStr, replaceChar_grouped (plain id).1, replaceChar_grouped (plain id').1] at same
  have digits := congrArg (List.filter (· ≠ '_')) same
  rw [grouped_filter (plain id).2, grouped_filter (plain id').2] at digits
  have count : uuidCount = 16 ^ 32 := by decide
  exact hexDigits_injective (count ▸ left) (count ▸ right) digits

example : String.ofList (uuidStr 0x12345678123456781234567812345678) = "12345678-1234-5678-1234-567812345678" := by
  decide +kernel

end Text
