import Storefront.Coupons.Admin
import Storefront.Models.Fields

set_option autoImplicit false

/-!
# Coupon codes as the admin enters them

A code is stored in upper case, without white space around it.
-/

namespace Storefront

open Relational Transition Text

def isCodeStart (c : Char) : Bool := c.isUpper || c.isDigit

def isCodeChar (c : Char) : Bool := isCodeStart c || c == '_' || c == '-'

-- _CODE_RE, ^[A-Z0-9][A-Z0-9_-]{0,63}$
def matchesCode : List Char → Bool
  | [] => false
  | c :: rest => isCodeStart c && (rest.all isCodeChar && decide (rest.length ≤ 63))

def normalizeAndValidateCode (k : Casing) (value : String) : Outcome String := do
  let normalized := k.str (strip value.toList)
  require (matchesCode normalized = true) (.validationError "code"
    "Code must be 1–64 chars, alphanumerics + dash/underscore, starting with a letter or digit.")
  return String.ofList normalized

-- The code of an AdminCouponCreateSerializer, the check for an existing one apart.
def AdminCouponCreateSerializer.code (k : Casing) (raw : String) : Outcome String := do
  let value ← charField "code" 64 raw
  normalizeAndValidateCode k value

theorem matchesCode_chars {s : List Char} (matched : matchesCode s = true) :
    s ≠ [] ∧ s.length ≤ 64 ∧ ∀ c ∈ s, isCodeChar c = true := by
  cases s with
  | nil => cases matched
  | cons c rest =>
    simp only [matchesCode, Bool.and_eq_true, decide_eq_true_eq, List.all_eq_true] at matched
    obtain ⟨first, chars, short⟩ := matched
    refine ⟨List.cons_ne_nil c rest, ?_, fun d inside => ?_⟩
    · rw [List.length_cons]
      omega
    · rcases List.mem_cons.mp inside with rfl | later
      · simp [isCodeChar, first]
      · exact chars d later

theorem isCodeChar_plain {c : Char} (code : isCodeChar c = true) :
    c.toNat < 128 ∧ c.isLower = false ∧ isSpace c = false ∧ c ≠ '/' ∧ c ≠ Char.ofNat 0 := by
  have range : (65 ≤ c.toNat ∧ c.toNat ≤ 90) ∨ (48 ≤ c.toNat ∧ c.toNat ≤ 57) ∨ c.toNat = 95 ∨ c.toNat = 45 := by
    simp only [isCodeChar, isCodeStart, Char.isUpper, Char.isDigit, Bool.or_eq_true, Bool.and_eq_true, decide_eq_true_eq,
      beq_iff_eq, UInt32.le_iff_toNat_le, ge_iff_le] at code
    rcases code with ((upper | digit) | rfl) | rfl
    · exact .inl upper
    · exact .inr (.inl digit)
    · exact .inr (.inr (.inl rfl))
    · exact .inr (.inr (.inr rfl))
  refine ⟨by omega, ?_, ?_, ?_, ?_⟩
  · simp only [Char.isLower, Bool.and_eq_false_iff, decide_eq_false_iff_not, UInt32.le_iff_toNat_le, ge_iff_le]
    change ¬ 97 ≤ c.toNat ∨ ¬ c.toNat ≤ 122
    omega
  · simp only [isSpace, Bool.or_eq_false_iff, Bool.and_eq_false_iff, decide_eq_false_iff_not, beq_eq_false_iff_ne]
    omega
  · rintro rfl
    revert range
    decide
  · rintro rfl
    revert range
    decide

section Stored

variable {k : Casing} {raw code : String}

theorem code_eq_ok (accepted : AdminCouponCreateSerializer.code k raw = .ok code) :
    code.toList = k.str (strip raw.toList) ∧ matchesCode code.toList = true := by
  simp only [AdminCouponCreateSerializer.code, normalizeAndValidateCode, bind_eq_ok, charField_eq_ok, require_eq_ok,
    pure_eq_ok] at accepted
  obtain ⟨value, ⟨same, _⟩, _, matched, rfl⟩ := accepted
  rw [same, strip_strip] at matched ⊢
  rw [String.toList_ofList]
  exact ⟨rfl, matched⟩

theorem code_strip (accepted : AdminCouponCreateSerializer.code k raw = .ok code) : strip code.toList = code.toList := by
  obtain ⟨_, _, chars⟩ := matchesCode_chars (code_eq_ok accepted).2
  exact strip_eq_self fun c inside => (isCodeChar_plain (chars c inside)).2.2.1

theorem code_upper (accepted : AdminCouponCreateSerializer.code k raw = .ok code) : k.str code.toList = code.toList := by
  obtain ⟨_, _, chars⟩ := matchesCode_chars (code_eq_ok accepted).2
  refine k.str_eq_self fun c inside => ?_
  obtain ⟨ascii, raised, _⟩ := isCodeChar_plain (chars c inside)
  exact ⟨ascii, raised⟩

theorem code_unique_case {raw' code' : String} (accepted : AdminCouponCreateSerializer.code k raw = .ok code)
    (accepted' : AdminCouponCreateSerializer.code k raw' = .ok code') (same : k.Same code.toList code'.toList) :
    code = code' := by
  rw [Casing.Same, code_strip accepted, code_strip accepted', code_upper accepted, code_upper accepted'] at same
  exact String.toList_inj.mp same

end Stored

end Storefront
