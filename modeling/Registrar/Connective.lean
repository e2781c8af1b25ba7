import Registrar.Text.Ascii
import Registrar.Text.Blank

/-!
How the fields of a group, and the groups of a selection, are joined: all have to agree, or any
one is enough.
-/

namespace Registrar

/-- All parts are asked for, or any one of them. -/
inductive Connective
  | all
  | any
  deriving DecidableEq, Repr

namespace Connective

def word : Connective → String
  | all => "AND"
  | any => "OR"

/-- The name of the connective in the journal. -/
def name : Connective → String
  | all => "All"
  | any => "Any"

/-- The connective that a word stands for, in capitals and without blanks around it. -/
def ofWord? (word : String) : Option Connective :=
  if word = "AND" ∨ word = "ALL" then some all
  else if word = "OR" ∨ word = "ANY" then some any
  else none

/-- The form in which a text is looked up: trimmed, in capitals. -/
def key (text : String) : String := Text.asciiUpper (Text.trim text)

/-- The connective that a text names. -/
def read? (text : String) : Option Connective := ofWord? (key text)

theorem ofWord?_word (c : Connective) : ofWord? c.word = some c := by cases c <;> decide

end Connective

end Registrar
