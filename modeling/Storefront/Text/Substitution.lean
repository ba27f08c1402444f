import Storefront.Text.Strings

set_option autoImplicit false

/-!
# Substitution

`re.sub` for patterns that are a row of character classes, with a look-behind of one
character: the leftmost matches that do not overlap are replaced.
-/

namespace Text

structure Pattern where
  behind : Option (Char → Bool)
  first : Char → Bool
  more : List (Char → Bool)

namespace Pattern

def begins : List (Char → Bool) → List Char → Bool
  | [], _ => true
  | _ :: _, [] => false
  | kind :: kinds, c :: rest => kind c && begins kinds rest

variable (p : Pattern) (replace : List Char → List Char)

-- The look-behind reads the text that is searched, not what is put in its place.
def matchesAt (prev : Option Char) (s : List Char) : Bool :=
  (match p.behind with
    | none => true
    | some kind => prev.any kind) && begins (p.first :: p.more) s

-- The next `skip` characters belong to the match that was replaced last.
def subFrom : Nat → Option Char → List Char → List Char
  | _, _, [] => []
  | skip + 1, _, c :: rest => subFrom skip (some c) rest
  | 0, prev, c :: rest =>
    if p.matchesAt prev (c :: rest) then
      replace ((c :: rest).take (p.more.length + 1)) ++ subFrom p.more.length (some c) rest
    else c :: subFrom 0 (some c) rest

def sub (s : List Char) : List Char := p.subFrom replace 0 none s

variable {p replace} {prev : Option Char}

@[simp] theorem subFrom_nil (skip : Nat) : p.subFrom replace skip prev [] = [] := by
  cases skip <;> rfl

theorem subFrom_other {c : Char} {rest : List Char} (other : p.matchesAt prev (c :: rest) = false) :
    p.subFrom replace 0 prev (c :: rest) = c :: p.subFrom replace 0 (some c) rest := by
  rw [subFrom, other, if_neg Bool.false_ne_true]

theorem subFrom_skip (m rest : List Char) :
    p.subFrom replace m.length prev (m ++ rest) = p.subFrom replace 0 (m.getLast?.or prev) rest := by
  induction m generalizing prev with
  | nil => simp
  | cons c m ih =>
    rw [List.length_cons, List.cons_append, subFrom, ih, List.getLast?_cons]
    cases m.getLast? <;> rfl

theorem subFrom_match {c : Char} {m rest : List Char} (width : m.length = p.more.length)
    (found : p.matchesAt prev (c :: (m ++ rest)) = true) : p.subFrom replace 0 prev (c :: (m ++ rest)) =
      replace (c :: m) ++ p.subFrom replace 0 (m.getLast?.or (some c)) rest := by
  have all : (c :: (m ++ rest)).take (p.more.length + 1) = c :: m := by
    rw [List.take_succ_cons, ← width, List.take_left]
  rw [subFrom, if_pos found, all, ← width, subFrom_skip]

theorem subFrom_all {q : Char → Prop} (put : ∀ m : List Char, (∀ c ∈ m, q c) → ∀ c ∈ replace m, q c)
    (skip : Nat) {s : List Char} (all : ∀ c ∈ s, q c) : ∀ c ∈ p.subFrom replace skip prev s, q c := by
  induction s generalizing skip prev with
  | nil => simp
  | cons d rest ih =>
    have others : ∀ c ∈ rest, q c := fun c inside => all c (List.mem_cons_of_mem d inside)
    cases skip with
    | succ skip => exact ih skip others
    | zero =>
      intro c inside
      rw [subFrom] at inside
      split at inside
      · rcases List.mem_append.mp inside with new | later
        · exact put _ (fun e listed => all e (List.mem_of_mem_take listed)) c new
        · exact ih _ others c later
      · rcases List.mem_cons.mp inside with rfl | later
        · exact all c List.mem_cons_self
        · exact ih 0 others c later

end Pattern

-- str.lower, known on ASCII.
structure Lowering where
  str : List Char → List Char
  ascii : ∀ s : List Char, (∀ c ∈ s, c.toNat < 128) → str s = lower s

end Text
