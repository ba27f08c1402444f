import Storefront.Models.Database
import Storefront.Text.Strings

set_option autoImplicit false

/-!
# Text fields of requests
-/

namespace Storefront

open Transition Text

-- A CharField of a serializer: trimmed, not blank, of limited length, without null characters.
def charField (field : String) (max_length : Nat) (raw : String) : Outcome String := do
  let value := strip raw.toList
  require (value ≠ []) (.validationError field "This field may not be blank.")
  require (value.length ≤ max_length)
    (.validationError field s!"Ensure this field has no more than {max_length} characters.")
  require (Char.ofNat 0 ∉ value) (.validationError field "Null characters are not allowed.")
  return String.ofList value

theorem charField_eq_ok {field : String} {max_length : Nat} {raw value : String} :
    charField field max_length raw = .ok value ↔ value.toList = strip raw.toList ∧ value ≠ "" ∧
      value.toList.length ≤ max_length ∧ Char.ofNat 0 ∉ value.toList := by
  simp only [charField, bind_eq_ok, require_eq_ok, pure_eq_ok, exists_and_left, exists_const]
  constructor
  · rintro ⟨filled, short, clean, rfl⟩
    rw [String.toList_ofList]
    exact ⟨rfl, fun blank => filled (by simpa using congrArg String.toList blank), short, clean⟩
  · rintro ⟨same, filled, short, clean⟩
    rw [← same]
    exact ⟨fun blank => filled (String.toList_inj.mp blank), short, clean, String.ofList_toList⟩

end Storefront
