import Storefront.Core.Values
import Storefront.Text.Substitution

set_option autoImplicit false

/-!
# Keys on the wire

JSON keys are camelCase for the clients and snake_case in Python. Which keys come
back as they were is a matter of their underscores.
-/

namespace Storefront

open Text

-- [a-z0-9]
def isWordChar (c : Char) : Bool := c.isLower || c.isDigit

def toCamelRe : Pattern := { behind := none, first := (· == '_'), more := [isWordChar] }

def toSnakeRe : Pattern := { behind := some isWordChar, first := Char.isUpper, more := [] }

def toCamel (key : List Char) : List Char := toCamelRe.sub (fun m => (m.drop 1).map Char.toUpper) key

def toSnake (text : Lowering) (key : List Char) : List Char := text.str (toSnakeRe.sub (fun m => '_' :: m) key)

def IsKey (key : List Char) : Prop := ∀ c ∈ key, isWordChar c = true ∨ c = '_'

/-! ## The substitutions, character by character -/

section Characters

variable {c d : Char} {key rest : List Char} {prev : Option Char}

abbrev camelFrom (prev : Option Char) (key : List Char) : List Char :=
  toCamelRe.subFrom (fun m => (m.drop 1).map Char.toUpper) 0 prev key

abbrev snakeFrom (prev : Option Char) (key : List Char) : List Char :=
  lower (toSnakeRe.subFrom (fun m => '_' :: m) 0 prev key)

theorem toCamelRe_matches : toCamelRe.matchesAt prev (c :: d :: rest) = (c == '_' && isWordChar d) := by
  simp [Pattern.matchesAt, Pattern.begins, toCamelRe]

theorem camel_pair (word : isWordChar d = true) :
    camelFrom prev ('_' :: d :: rest) = d.toUpper :: camelFrom (some d) rest := by
  have found : toCamelRe.matchesAt prev ('_' :: ([d] ++ rest)) = true := by
    rw [List.singleton_append, toCamelRe_matches, word]
    rfl
  exact Pattern.subFrom_match rfl found

theorem camel_other (other : (c == '_' && isWordChar d) = false) :
    camelFrom prev (c :: d :: rest) = c :: camelFrom (some c) (d :: rest) :=
  Pattern.subFrom_other (toCamelRe_matches.trans other)

theorem camel_last : camelFrom prev [c] = [c] := by
  have none_found : toCamelRe.matchesAt prev [c] = false := by
    simp [Pattern.matchesAt, Pattern.begins, toCamelRe]
  rw [camelFrom, Pattern.subFrom_other none_found, Pattern.subFrom_nil]

theorem toSnakeRe_matches : toSnakeRe.matchesAt prev (c :: rest) = (prev.any isWordChar && c.isUpper) := by
  simp [Pattern.matchesAt, Pattern.begins, toSnakeRe]

theorem snake_upper (behind : prev.any isWordChar = true) (upper : c.isUpper = true) :
    snakeFrom prev (c :: rest) = '_' :: c.toLower :: snakeFrom (some c) rest := by
  have found : toSnakeRe.matchesAt prev (c :: ([] ++ rest)) = true := by
    rw [List.nil_append, toSnakeRe_matches, behind, upper]
    rfl
  have put : toSnakeRe.subFrom (fun m => '_' :: m) 0 prev (c :: ([] ++ rest)) =
      ['_', c] ++ toSnakeRe.subFrom (fun m => '_' :: m) 0 (some c) rest := Pattern.subFrom_match rfl found
  rw [List.nil_append] at put
  rw [snakeFrom, put]
  rfl

theorem snake_other (other : (prev.any isWordChar && c.isUpper) = false) :
    snakeFrom prev (c :: rest) = c.toLower :: snakeFrom (some c) rest := by
  rw [snakeFrom, Pattern.subFrom_other (toSnakeRe_matches.trans other)]
  rfl

/-- The underscores that camelCase drops are those that snake_case puts in again. -/
def restores (prev : Option Char) : List Char → Bool
  | [] => true
  | [_] => true
  | c :: d :: rest =>
    if c == '_' && isWordChar d then d.isAlpha && prev.any isWordChar && restores (some d.toUpper) rest
    else restores (some c) (d :: rest)

theorem isWordChar_not_upper (word : isWordChar c = true) : c.isUpper = false := by
  simp [isWordChar, Char.isLower, Char.isDigit, Char.isUpper, UInt32.le_iff_toNat_le] at word ⊢
  omega

theorem IsKey.tail (spelled : IsKey (c :: rest)) : IsKey rest :=
  fun d inside => spelled d (List.mem_cons_of_mem c inside)

theorem IsKey.not_upper (spelled : IsKey key) (inside : c ∈ key) : c.isUpper = false := by
  rcases spelled c inside with word | rfl
  · exact isWordChar_not_upper word
  · rfl

theorem IsKey.toLower (spelled : IsKey key) (inside : c ∈ key) : c.toLower = c :=
  Char.toLower_eq_of_not_isUpper (by simp [spelled.not_upper inside])

theorem snake_head (spelled : IsKey (c :: rest)) (s : List Char) :
    snakeFrom prev (c :: s) = c :: snakeFrom (some c) s := by
  rw [snake_other (by simp [spelled.not_upper List.mem_cons_self]), spelled.toLower List.mem_cons_self]

theorem snake_camel_iff (spelled : IsKey key) (looked : Option Char) :
    snakeFrom prev (camelFrom looked key) = key ↔ restores prev key = true := by
  induction prev, key using restores.induct generalizing looked with
  | case1 prev => simp [restores, lower]
  | case2 prev c =>
    rw [camel_last, snake_head spelled]
    simp [restores, lower]
  | case3 prev c d rest pair ih =>
    obtain ⟨rfl, word⟩ : c = '_' ∧ isWordChar d = true := by simpa using pair
    rw [camel_pair word, restores, if_pos pair, Bool.and_eq_true, ← ih spelled.tail.tail (some d)]
    have lowered : d.toUpper.toLower = d := by
      rw [Char.toLower_toUpper_eq_toLower, spelled.tail.toLower List.mem_cons_self]
    cases found : prev.any isWordChar && d.toUpper.isUpper with
    | true =>
      obtain ⟨behind, upper⟩ := Bool.and_eq_true_iff.mp found
      rw [snake_upper behind upper, lowered]
      rw [Char.isUpper_toUpper_eq_isAlpha] at upper
      simp [behind, upper]
    | false =>
      -- What comes first is the letter, and the underscore is lost.
      rw [snake_other found, lowered]
      rw [Char.isUpper_toUpper_eq_isAlpha, Bool.and_comm] at found
      simp only [found, Bool.false_eq_true, false_and, iff_false, List.cons.injEq, not_and]
      rintro rfl
      cases word
  | case4 prev c d rest pair ih =>
    rw [camel_other (by simpa using pair), snake_head spelled, restores, if_neg pair, ← ih spelled.tail (some c)]
    simp

/-! ## Where the underscores may stand -/

-- What an underscore may follow: neither another one nor a letter that is to be raised.
def Carries (before : List Char) : Prop :=
  before ≠ [] ∧ before.getLast? ≠ some '_' ∧
    ¬ ∃ earlier letter, before = earlier ++ ['_', letter] ∧ letter.isAlpha = true

/-- Every underscore in front of a letter or digit is followed by a letter, and it is not the first character, nor
preceded by another underscore, nor by a letter that itself follows an underscore. -/
def Translatable (key : List Char) : Prop :=
  ∀ before c after, key = before ++ '_' :: c :: after → isWordChar c = true → c.isAlpha = true ∧ Carries before

theorem carries_concat {before : List Char} (word : isWordChar c = true)
    (free : c.isAlpha = true → before.getLast? ≠ some '_') : Carries (before ++ [c]) := by
  refine ⟨by simp, ?_, ?_⟩
  · simp only [List.getLast?_append, List.getLast?_singleton, Option.some_or, ne_eq, Option.some.injEq]
    rintro rfl
    cases word
  · rintro ⟨earlier, letter, same, alpha⟩
    have split : before ++ [c] = (earlier ++ ['_']) ++ [letter] := by simpa using same
    obtain ⟨rfl, last⟩ := List.append_inj' split rfl
    obtain rfl := List.cons_eq_cons.mp last |>.1
    exact free alpha (by simp)

theorem not_carries_underscore (before : List Char) : ¬ Carries (before ++ ['_']) := by
  intro carries
  exact carries.2.1 (by simp)

theorem not_carries_raised (before : List Char) (alpha : c.isAlpha = true) : ¬ Carries (before ++ ['_', c]) :=
  fun carries => carries.2.2 ⟨before, c, rfl, alpha⟩

theorem underscores_cons {q : List Char → Char → Prop} :
    (∀ earlier d after, c :: key = earlier ++ '_' :: d :: after → q earlier d) ↔
      (∀ d after, c = '_' → key = d :: after → q [] d) ∧
      ∀ earlier d after, key = earlier ++ '_' :: d :: after → q (c :: earlier) d := by
  constructor
  · intro every
    refine ⟨fun d after first same => every [] d after ?_, fun earlier d after same => every (c :: earlier) d after ?_⟩
    · rw [first, same, List.nil_append]
    · rw [same, List.cons_append]
  · rintro ⟨first, later⟩ earlier d after same
    cases earlier with
    | nil =>
      rw [List.nil_append, List.cons_eq_cons] at same
      exact first d after same.1 same.2
    | cons e earlier =>
      rw [List.cons_append, List.cons_eq_cons] at same
      obtain ⟨rfl, rest⟩ := same
      exact later earlier d after rest

-- The rest of a key, behind what was read of it.
theorem restores_iff (spelled : IsKey key) {before : List Char} (behind : prev.any isWordChar = true ↔ Carries before)
    (settled : ∀ d rest, key = d :: rest → isWordChar d = true → before.getLast? ≠ some '_') :
    restores prev key = true ↔ ∀ earlier d after, key = earlier ++ '_' :: d :: after → isWordChar d = true →
      d.isAlpha = true ∧ Carries (before ++ earlier) := by
  induction prev, key using restores.induct generalizing before with
  | case1 prev => simp [restores]
  | case2 prev c =>
    refine iff_of_true rfl fun earlier d after same => ?_
    have lengths := congrArg List.length same
    simp only [List.length_append, List.length_cons, List.length_nil] at lengths
    omega
  | case3 prev c d rest pair ih =>
    obtain ⟨rfl, word⟩ : c = '_' ∧ isWordChar d = true := by simpa using pair
    have plain : d ≠ '_' := by
      rintro rfl
      cases word
    -- Behind the pair stands the raised letter, or the digit as it was.
    have raised : (some d.toUpper).any isWordChar = true ↔ Carries (before ++ ['_', d]) := by
      cases alpha : d.isAlpha with
      | true =>
        have upper : d.toUpper.isUpper = true := by rw [Char.isUpper_toUpper_eq_isAlpha, alpha]
        refine iff_of_false (fun word => ?_) (not_carries_raised before alpha)
        rw [isWordChar_not_upper word] at upper
        cases upper
      | false =>
        have flat : ¬ d.isLower = true := by
          intro lower
          simp [Char.isAlpha, lower] at alpha
        rw [Char.toUpper_eq_of_not_isLower flat]
        have carries : Carries (before ++ ['_'] ++ [d]) := carries_concat word (by simp [alpha])
        rw [List.append_assoc] at carries
        exact iff_of_true word carries
    have next : ∀ e after, rest = e :: after → isWordChar e = true → (before ++ ['_', d]).getLast? ≠ some '_' := by
      simp [plain]
    rw [restores, if_pos pair, underscores_cons, underscores_cons]
    simp only [Bool.and_eq_true, behind, ih spelled.tail.tail raised next, List.append_nil, List.append_assoc]
    constructor
    · rintro ⟨⟨alpha, carries⟩, later⟩
      refine ⟨fun e after _ same _ => ?_, fun e after first => absurd first plain, later⟩
      obtain ⟨rfl, _⟩ := List.cons_eq_cons.mp same
      exact ⟨alpha, carries⟩
    · rintro ⟨first, _, later⟩
      exact ⟨first d rest trivial rfl word, later⟩
  | case4 prev c d rest pair ih =>
    have read : (some c).any isWordChar = true ↔ Carries (before ++ [c]) := by
      rcases spelled c List.mem_cons_self with word | rfl
      · exact iff_of_true word (carries_concat word fun _ => settled c (d :: rest) rfl word)
      · exact iff_of_false (by decide) (not_carries_underscore before)
    have next : ∀ e after, d :: rest = e :: after → isWordChar e = true → (before ++ [c]).getLast? ≠ some '_' := by
      intro e after same word
      obtain ⟨rfl, _⟩ := List.cons_eq_cons.mp same
      simp only [List.getLast?_append, List.getLast?_singleton, Option.some_or, ne_eq, Option.some.injEq]
      rintro rfl
      simp [word] at pair
    rw [restores, if_neg pair, underscores_cons, ih spelled.tail read next]
    simp only [List.append_assoc, List.singleton_append]
    constructor
    · intro later
      refine ⟨fun e after first same word => ?_, later⟩
      obtain ⟨rfl, _⟩ := List.cons_eq_cons.mp same
      simp [first, word] at pair
    · rintro ⟨_, later⟩
      exact later

theorem restores_iff_translatable (spelled : IsKey key) : restores none key = true ↔ Translatable key := by
  have nothing : (none : Option Char).any isWordChar = true ↔ Carries [] := by simp [Carries]
  rw [restores_iff spelled nothing (by simp)]
  rfl

-- Whether a key comes back, read off from left to right.
def survives (key : List Char) : Bool := key.all (fun c => isWordChar c || c == '_') && restores none key

theorem survives_iff : survives key = true ↔ IsKey key ∧ Translatable key := by
  have spelled : key.all (fun c => isWordChar c || c == '_') = true ↔ IsKey key := by simp [IsKey]
  rw [survives, Bool.and_eq_true, spelled]
  exact and_congr_right restores_iff_translatable

theorem toUpper_ascii (ascii : c.toNat < 128) : c.toUpper.toNat < 128 := by
  by_cases lower : c.isLower = true
  · rw [Char.toUpper_eq_of_isLower lower, Char.toNat_ofNat]
    split <;> omega
  · rw [Char.toUpper_eq_of_not_isLower lower]
    exact ascii

theorem IsKey.ascii (spelled : IsKey key) : ∀ c ∈ key, c.toNat < 128 := by
  intro c inside
  rcases spelled c inside with word | rfl
  · simp [isWordChar, Char.isLower, Char.isDigit, UInt32.le_iff_toNat_le] at word
    have number : c.toNat = c.val.toNat := rfl
    omega
  · decide

theorem toSnake_toCamel_iff (text : Lowering) (spelled : IsKey key) :
    toSnake text (toCamel key) = key ↔ Translatable key := by
  have raised : ∀ c ∈ toCamel key, c.toNat < 128 := by
    refine Pattern.subFrom_all (fun m ascii c inside => ?_) 0 spelled.ascii
    obtain ⟨d, dropped, rfl⟩ := List.mem_map.mp inside
    exact toUpper_ascii (ascii d (List.mem_of_mem_drop dropped))
  have lowered : toSnake text (toCamel key) = snakeFrom none (camelFrom none key) := by
    refine text.ascii _ (Pattern.subFrom_all (fun m ascii c inside => ?_) 0 raised)
    rcases List.mem_cons.mp inside with rfl | old
    · decide
    · exact ascii c old
  rw [lowered, snake_camel_iff spelled none, restores_iff_translatable spelled]

end Characters

/-! ## JSON values -/

namespace Json

-- d[key] = value
def assign {α : Type} : List (String × α) → String → α → List (String × α)
  | [], key, value => [(key, value)]
  | (k, v) :: rest, key, value => if k == key then (k, value) :: rest else (k, v) :: assign rest key value

-- A comprehension: of equal keys the first one keeps its place and the last one its value.
def dict {α : Type} (entries : List (String × α)) : List (String × α) :=
  entries.foldl (fun d entry => assign d entry.1 entry.2) []

mutual

def transformKeys (fn : String → String) : Json → Json
  | .obj fields => .obj (dict (transformFields fn fields))
  | .arr items => .arr (transformItems fn items)
  | value => value

def transformItems (fn : String → String) : List Json → List Json
  | [] => []
  | item :: rest => transformKeys fn item :: transformItems fn rest

def transformFields (fn : String → String) : List (String × Json) → List (String × Json)
  | [] => []
  | (key, value) :: rest => (fn key, transformKeys fn value) :: transformFields fn rest

end

mutual

def keys : Json → List String
  | .obj fields => keysOfFields fields
  | .arr items => keysOfItems items
  | _ => []

def keysOfItems : List Json → List String
  | [] => []
  | item :: rest => keys item ++ keysOfItems rest

def keysOfFields : List (String × Json) → List String
  | [] => []
  | (key, value) :: rest => key :: (keys value ++ keysOfFields rest)

end

/-- Values of dicts, so without equal keys next to each other, and with keys of a kind throughout. -/
inductive Keyed (kind : String → Prop) : Json → Prop
  | null : Keyed kind .null
  | bool (value : Bool) : Keyed kind (.bool value)
  | int (value : Int) : Keyed kind (.int value)
  | float (repr : String) : Keyed kind (.float repr)
  | str (value : String) : Keyed kind (.str value)
  | arr {items : List Json} (each : ∀ item ∈ items, Keyed kind item) : Keyed kind (.arr items)
  | obj {fields : List (String × Json)} (distinct : (fields.map Prod.fst).Nodup)
    (spelled : ∀ entry ∈ fields, kind entry.1)
      (each : ∀ entry ∈ fields, Keyed kind entry.2) : Keyed kind (.obj fields)

section Transform

variable {α : Type} {f g : String → String} {kind : String → Prop} {v : Json}

theorem assign_fresh {d : List (String × α)} {key : String} (fresh : key ∉ d.map Prod.fst) (value : α) :
    assign d key value = d ++ [(key, value)] := by
  induction d with
  | nil => rfl
  | cons entry rest ih =>
    simp only [List.map_cons, List.mem_cons, not_or] at fresh
    have other : (entry.1 == key) = false := by simpa using Ne.symm fresh.1
    rw [assign, other, if_neg Bool.false_ne_true, ih fresh.2, List.cons_append]

theorem dict_eq_self {entries : List (String × α)} (distinct : (entries.map Prod.fst).Nodup) :
    dict entries = entries := by
  have build (d rest : List (String × α)) (distinct : ((d ++ rest).map Prod.fst).Nodup) :
      rest.foldl (fun d entry => assign d entry.1 entry.2) d = d ++ rest := by
    induction rest generalizing d with
    | nil => simp
    | cons entry rest ih =>
      have fresh : entry.1 ∉ d.map Prod.fst := by
        simp only [List.map_append, List.map_cons, List.nodup_append] at distinct
        exact fun inside => distinct.2.2 entry.1 inside entry.1 List.mem_cons_self rfl
      rw [List.foldl_cons, assign_fresh fresh, ih, List.append_assoc, List.singleton_append]
      rw [List.append_assoc, List.singleton_append]
      exact distinct
  exact build [] entries distinct

theorem transformItems_eq (items : List Json) : transformItems f items = items.map (transformKeys f) := by
  induction items with
  | nil => simp [transformItems]
  | cons item rest ih => simp [transformItems, ih]

theorem transformFields_eq (fields : List (String × Json)) :
    transformFields f fields = fields.map fun entry => (f entry.1, transformKeys f entry.2) := by
  induction fields with
  | nil => simp [transformFields]
  | cons entry rest ih => simp [transformFields, ih]

theorem keysOfItems_eq (items : List Json) : keysOfItems items = items.flatMap keys := by
  induction items with
  | nil => simp [keysOfItems]
  | cons item rest ih => simp [keysOfItems, ih]

theorem keysOfFields_eq (fields : List (String × Json)) :
    keysOfFields fields = fields.flatMap fun entry => entry.1 :: keys entry.2 := by
  induction fields with
  | nil => simp [keysOfFields]
  | cons entry rest ih => simp [keysOfFields, ih]

theorem transformKeys_obj {fields : List (String × Json)} (back : ∀ key, kind key → g (f key) = key)
    (distinct : (fields.map Prod.fst).Nodup) (spelled : ∀ entry ∈ fields, kind entry.1) :
    transformKeys f (.obj fields) = .obj (fields.map fun entry => (f entry.1, transformKeys f entry.2)) := by
  have apart : ((fields.map fun entry => (f entry.1, transformKeys f entry.2)).map Prod.fst).Nodup := by
    have renamed : (fields.map fun entry => (f entry.1, transformKeys f entry.2)).map Prod.fst =
        (fields.map Prod.fst).map f := by
      simp only [List.map_map, Function.comp_def]
    rw [renamed]
    refine distinct.map_on fun a first b second same => ?_
    obtain ⟨e, inside, rfl⟩ := List.mem_map.mp first
    obtain ⟨e', inside', rfl⟩ := List.mem_map.mp second
    rw [← back e.1 (spelled e inside), ← back e'.1 (spelled e' inside'), same]
  rw [transformKeys, transformFields_eq, dict_eq_self apart]

theorem Keyed.round_trip (back : ∀ key, kind key → g (f key) = key) (keyed : Keyed kind v) :
    transformKeys g (transformKeys f v) = v := by
  induction keyed with
  | arr each ih =>
    rename_i items
    have restored : (items.map (transformKeys f)).map (transformKeys g) = items := by
      rw [List.map_map]
      exact (List.map_congr_left ih).trans (List.map_id _)
    simp only [transformKeys, transformItems_eq, restored]
  | obj distinct spelled each ih =>
    rename_i fields
    have restored : (fields.map fun entry => (f entry.1, transformKeys f entry.2)).map
        (fun entry => (g entry.1, transformKeys g entry.2)) = fields := by
      rw [List.map_map]
      refine (List.map_congr_left fun entry inside => ?_).trans (List.map_id _)
      rw [Function.comp_apply, back entry.1 (spelled entry inside), ih entry inside]
      rfl
    rw [transformKeys_obj back distinct spelled, transformKeys, transformFields_eq, restored, dict_eq_self distinct]
  | _ => simp only [transformKeys]

theorem Keyed.keys_renamed (back : ∀ key, kind key → g (f key) = key) (keyed : Keyed kind v) :
    (transformKeys f v).keys = v.keys.map f := by
  induction keyed with
  | arr each ih =>
    rename_i items
    simp only [transformKeys, transformItems_eq, keys, keysOfItems_eq, List.flatMap_map, List.map_flatMap]
    exact List.flatMap_congr ih
  | obj distinct spelled each ih =>
    rename_i fields
    rw [transformKeys_obj back distinct spelled]
    simp only [keys, keysOfFields_eq, List.flatMap_map, List.map_flatMap, List.map_cons]
    exact List.flatMap_congr fun entry inside => congrArg _ (ih entry inside)
  | _ => simp only [transformKeys, keys, List.map_nil]

end Transform

end Json

/-! ## The middleware's two directions -/

-- A str is the list of its characters.
def onText (fn : List Char → List Char) (key : String) : String := String.ofList (fn key.toList)

/-- A key comes back exactly if it is translatable, and values with such keys come back whole. -/
theorem wire_case_round_trips (text : Lowering) :
    (∀ key : String, IsKey key.toList →
      (onText (toSnake text) (onText toCamel key) = key ↔ Translatable key.toList)) ∧
    ∀ v : Json, v.Keyed (fun key => IsKey key.toList ∧ Translatable key.toList) →
      (v.transformKeys (onText toCamel)).transformKeys (onText (toSnake text)) = v ∧
        (v.transformKeys (onText toCamel)).keys = v.keys.map (onText toCamel) := by
  have each (key : String) (spelled : IsKey key.toList) :
      onText (toSnake text) (onText toCamel key) = key ↔ Translatable key.toList := by
    rw [onText, onText, String.toList_ofList, ← toSnake_toCamel_iff text spelled]
    constructor
    · intro same
      have lists := congrArg String.toList same
      rwa [String.toList_ofList] at lists
    · intro same
      rw [same, String.ofList_toList]
  have back : ∀ key : String, IsKey key.toList ∧ Translatable key.toList →
      onText (toSnake text) (onText toCamel key) = key :=
    fun key known => (each key known.1).mpr known.2
  exact ⟨each, fun v keyed => ⟨keyed.round_trip back, keyed.keys_renamed back⟩⟩

namespace Sample

def asciiText : Lowering := { str := lower, ascii := fun _ _ => rfl }

def cartBody : Json :=
  .obj [("postal_code", .str "11564"), ("line2", .null),
    ("applied_coupons", .arr [.obj [("uses_count", .int 3), ("uses", .int 4)]])]

theorem cartBody_keyed : cartBody.Keyed fun key => IsKey key.toList ∧ Translatable key.toList := by
  have coupon : (Json.obj [("uses_count", .int 3), ("uses", .int 4)]).Keyed fun key =>
      IsKey key.toList ∧ Translatable key.toList := by
    refine .obj (by decide) ?_ ?_
    · simp only [← survives_iff]
      decide
    · intro entry inside
      simp only [List.mem_cons, List.not_mem_nil, or_false] at inside
      rcases inside with rfl | rfl <;> exact .int _
  refine .obj (by decide) ?_ ?_
  · simp only [← survives_iff]
    decide
  · intro entry inside
    simp only [List.mem_cons, List.not_mem_nil, or_false] at inside
    rcases inside with rfl | rfl | rfl
    · exact .str _
    · exact .null
    · refine .arr fun item listed => ?_
      rw [List.mem_singleton.mp listed]
      exact coupon

end Sample

theorem wire_case_round_trips_cart :
    onText (toSnake Sample.asciiText) (onText toCamel "postal_code") = "postal_code" ∧
    onText (toSnake Sample.asciiText) (onText toCamel "line_2") ≠ "line_2" ∧
    (Sample.cartBody.transformKeys (onText toCamel)).transformKeys (onText (toSnake Sample.asciiText)) =
      Sample.cartBody ∧
    (Sample.cartBody.transformKeys (onText toCamel)).keys =
      ["postalCode", "line2", "appliedCoupons", "usesCount", "uses"] := by
  obtain ⟨each, values⟩ := wire_case_round_trips Sample.asciiText
  obtain ⟨same, renamed⟩ := values Sample.cartBody Sample.cartBody_keyed
  have kept : survives "postal_code".toList = true := by decide
  have spelled : survives "line_2".toList = false ∧ "line_2".toList.all (fun c => isWordChar c || c == '_') = true := by
    decide
  have key : IsKey "line_2".toList := by simpa [IsKey] using spelled.2
  refine ⟨?_, ?_, same, renamed.trans (by decide)⟩
  · obtain ⟨postal, translatable⟩ := survives_iff.mp kept
    exact (each _ postal).mpr translatable
  · intro back
    rw [survives_iff.mpr ⟨key, (each _ key).mp back⟩] at spelled
    cases spelled.1

end Storefront
