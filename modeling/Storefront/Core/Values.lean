import Mathlib.Algebra.Order.Floor.Ring
import Mathlib.Data.Rat.Floor
import Mathlib.Tactic

set_option autoImplicit false

namespace Storefront

-- Primary keys are uuid4 values; only their equality and order matter here.
abbrev Id := Nat

-- Seconds on the database clock.
abbrev Time := Nat

def minutes (n : Nat) : Time := 60 * n
def days (n : Nat) : Time := 86400 * n

-- A value of json.loads; a float is kept as its repr.
inductive Json
  | null
  | bool (value : Bool)
  | int (value : Int)
  | float (repr : String)
  | str (value : String)
  | arr (items : List Json)
  | obj (fields : List (String × Json))

namespace Json

def field? : Json → String → Option Json
  | .obj fields, key => (fields.find? (fun entry => entry.1 == key)).map Prod.snd
  | _, _ => none

def isObject : Json → Bool
  | .obj _ => true
  | _ => false

def truthy : Json → Bool
  | .null => false
  | .bool value => value
  | .int value => value != 0
  | .float repr => repr != "0.0" && repr != "-0.0"
  | .str value => value != ""
  | .arr items => !items.isEmpty
  | .obj fields => !fields.isEmpty

-- {**(value or {}), key: new}
def withField (value : Json) (key : String) (new : Json) : Json :=
  match value with
  | .obj fields => .obj (fields.filter (fun entry => entry.1 != key) ++ [(key, new)])
  | _ => .obj [(key, new)]

end Json

-- The decimal context rounds half to even.
def roundHalfEven (x : ℚ) : ℤ :=
  let below := x.floor
  if x - below < 1 / 2 then below
  else if 1 / 2 < x - below then below + 1
  else if below % 2 = 0 then below else below + 1

def quantize (x : ℚ) : ℚ := (roundHalfEven (x * 100) : ℚ) / 100

example : quantize (1 / 200) = 0 ∧ quantize (3 / 200) = 1 / 50 := by decide +kernel

-- The values of a DecimalField with two places.
def InCents (x : ℚ) : Prop := quantize x = x

instance (x : ℚ) : Decidable (InCents x) := inferInstanceAs (Decidable (quantize x = x))

end Storefront
