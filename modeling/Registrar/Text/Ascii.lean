/-!
Case of the letters A to Z alone; every other character is left as it is.
-/

namespace Registrar.Text

/-- The text with a to z in capitals. -/
def asciiUpper (s : String) : String := String.ofList (s.toList.map Char.toUpper)

/-- The text with A to Z made small. -/
def asciiLower (s : String) : String := String.ofList (s.toList.map Char.toLower)

/-- The texts differ at most in the case of A to Z. -/
def sameIgnoringCase (s t : String) : Bool := asciiLower s == asciiLower t

theorem sameIgnoringCase_refl (s : String) : sameIgnoringCase s s = true := by
  simp [sameIgnoringCase]

end Registrar.Text
