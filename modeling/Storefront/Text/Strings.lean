import Mathlib

set_option autoImplicit false

/-!
# Strings: letter case, white space, separators

A string is the list of its characters. Lower case is that of the ASCII letters; the
upper case of a character is a parameter, as it may be several characters and
changes with the tables of Unicode.
-/

namespace Text

/-! ## Letter case -/

def lower (s : List Char) : List Char := s.map Char.toLower

theorem lower_append (s t : List Char) : lower (s ++ t) = lower s ++ lower t := List.map_append ..

theorem lower_lower (s : List Char) : lower (lower s) = lower s := by
  simp [lower]

-- A separator is the lower case of no other character.
theorem toLower_eq_symbol {c sep : Char} (symbol : sep.isAlpha = false) : c.toLower = sep ↔ c = sep := by
  have kept {d : Char} (flat : d.isAlpha = false) : d.toLower = d := by
    apply Char.toLower_eq_of_not_isUpper
    simp only [Char.isAlpha, Bool.or_eq_false_iff] at flat
    simp [flat.1]
  constructor
  · intro same
    have flat : c.isAlpha = false := by
      rw [← Char.isAlpha_toLower_eq_isAlpha, same]
      exact symbol
    rw [← same, kept flat]
  · rintro rfl
    exact kept symbol

theorem mem_lower {sep : Char} (symbol : sep.isAlpha = false) (s : List Char) : sep ∈ lower s ↔ sep ∈ s := by
  simp only [lower, List.mem_map, toLower_eq_symbol symbol, exists_eq_right]

/-! ## White space -/

-- The code points for which str.isspace holds.
def isSpace (c : Char) : Bool :=
  let n := c.toNat
  (9 ≤ n && n ≤ 13) || (28 ≤ n && n ≤ 32) || n == 0x85 || n == 0xa0 || n == 0x1680 ||
    (0x2000 ≤ n && n ≤ 0x200a) || n == 0x2028 || n == 0x2029 || n == 0x202f || n == 0x205f || n == 0x3000

def strip (s : List Char) : List Char := (s.dropWhile isSpace).rdropWhile isSpace

theorem strip_eq_self {s : List Char} (solid : ∀ c ∈ s, isSpace c = false) : strip s = s := by
  have left : s.dropWhile isSpace = s := by
    cases s with
    | nil => rfl
    | cons c rest => simp [solid c List.mem_cons_self]
  rw [strip, left, List.rdropWhile_eq_self_iff]
  intro nonempty
  simp [solid _ (List.getLast_mem nonempty)]

theorem strip_strip (s : List Char) : strip (strip s) = strip s := by
  have left : (strip s).dropWhile isSpace = strip s := by
    rw [List.dropWhile_eq_self_iff]
    intro nonempty
    have kept := List.rdropWhile_prefix isSpace (s.dropWhile isSpace)
    have first : (strip s)[0] = (s.dropWhile isSpace).get ⟨0, lt_of_lt_of_le nonempty kept.length_le⟩ :=
      kept.getElem nonempty
    rw [first]
    exact List.dropWhile_get_zero_not _ _ _
  rw [strip, left]
  exact List.rdropWhile_idempotent isSpace _

/-! ## Upper case -/

-- str.upper, character by character; on ASCII it is known.
structure Casing where
  upper : Char → List Char
  ascii : ∀ c : Char, c.toNat < 128 → upper c = [c.toUpper]

namespace Casing

variable (k : Casing)

def str (s : List Char) : List Char := s.flatMap k.upper

/-- Equal up to letter case and the white space around them. -/
def Same (s t : List Char) : Prop := k.str (strip s) = k.str (strip t)

instance (s t : List Char) : Decidable (k.Same s t) := inferInstanceAs (Decidable (k.str (strip s) = k.str (strip t)))

theorem str_eq_self {s : List Char} (flat : ∀ c ∈ s, c.toNat < 128 ∧ c.isLower = false) : k.str s = s := by
  induction s with
  | nil => rfl
  | cons c rest ih =>
    obtain ⟨ascii, raised⟩ := flat c List.mem_cons_self
    have head : k.upper c = [c] := by
      rw [k.ascii c ascii, Char.toUpper_eq_of_not_isLower (by simp [raised])]
    have tail := ih fun d inside => flat d (List.mem_cons_of_mem _ inside)
    rw [str, List.flatMap_cons, head]
    exact congrArg _ tail

end Casing

/-! ## Separators -/

def firstPart (sep : Char) (s : List Char) : List Char := (s.splitOn sep).headD []

def lastPart (sep : Char) (s : List Char) : List Char := (s.splitOn sep).getLastD []

theorem firstPart_of_not_mem {sep : Char} {s : List Char} (clear : sep ∉ s) : firstPart sep s = s := by
  simp [firstPart, List.splitOn_eq_singleton clear]

theorem firstPart_append {sep : Char} {s : List Char} (clear : sep ∉ s) (t : List Char) :
    firstPart sep (s ++ sep :: t) = s := by
  simp [firstPart, List.splitOn_append_cons_self_of_not_mem clear]

theorem lastPart_of_not_mem {sep : Char} {s : List Char} (clear : sep ∉ s) : lastPart sep s = s := by
  simp [lastPart, List.splitOn_eq_singleton clear]

theorem lastPart_append {sep : Char} {s : List Char} (clear : sep ∉ s) (t : List Char) :
    lastPart sep (t ++ sep :: s) = s := by
  rw [lastPart, List.splitOn_append_cons_self, List.splitOn_eq_singleton clear]
  simp [List.getLastD_eq_getLast?]

end Text
