import Registrar.Text.Ranges

/-!
Blank characters and cutting them off both ends of a text. Two sets are in use. Names, settings
and ids are read with every Unicode blank (the property White_Space) cut off; stored values lose
only the four characters that spreadsheets and forms leave behind.
-/

namespace Registrar.Text

/-- The ranges of White_Space. -/
def blankRanges : List (Nat × Nat) := [
  (0x9, 0xD), (0x20, 0x20), (0x85, 0x85), (0xA0, 0xA0), (0x1680, 0x1680), (0x2000, 0x200A),
  (0x2028, 0x2029), (0x202F, 0x202F), (0x205F, 0x205F), (0x3000, 0x3000)]

/-- The character is blank in Unicode. -/
def isBlank (c : Char) : Bool := inRanges blankRanges c

/-- The character is a space, a tab or one of the two line ends. -/
def isPadding (c : Char) : Bool := c == ' ' || c == '\t' || c == '\n' || c == '\r'

/-- Cuts the characters of `p` off both ends. -/
def stripBoth (p : Char → Bool) (cs : List Char) : List Char :=
  ((cs.dropWhile p).reverse.dropWhile p).reverse

/-- The text without blanks at its ends. -/
def trim (s : String) : String := String.ofList (stripBoth isBlank s.toList)

/-- The text without padding at its ends. -/
def unpad (s : String) : String := String.ofList (stripBoth isPadding s.toList)

theorem isBlank_of_isPadding {c : Char} (h : isPadding c = true) : isBlank c = true := by
  simp only [isPadding, Bool.or_eq_true, beq_iff_eq] at h
  rcases h with ((rfl | rfl) | rfl) | rfl <;> decide

end Registrar.Text
