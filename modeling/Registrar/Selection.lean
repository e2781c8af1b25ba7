import Registrar.Catalog
import Registrar.Journal

/-!
The groups that one search uses and how they are joined. A selection is made from names; a name is
looked up without the blanks around it, and a name given again adds nothing. The first name that no
group has is the error; without such a name, having chosen nothing is.
-/

namespace Registrar

/-- Why no selection could be made. -/
inductive SelectionError
  | unknownGroup (name : String)
  /-- The word, trimmed and in capitals, stands for no connective. -/
  | unknownConnective (word : String)
  | nothingSelected
  deriving DecidableEq, Repr

def SelectionError.message : SelectionError → String
  | unknownGroup name => "Unknown deduplication field group: " ++ name
  | unknownConnective word =>
    "Invalid deduplication configuration: unknown logical operator '" ++ word ++
      "', expected AND or OR"
  | nothingSelected =>
    "Invalid deduplication configuration: at least one deduplication field group must be selected"

/-- Reads a connective that has to be one. -/
def Connective.read (text : String) : Except SelectionError Connective :=
  match read? text with
  | some c => .ok c
  | none => .error (.unknownConnective (key text))

/-- The chosen groups, each id once, and how they are joined. -/
structure Selection where
  groups : List FieldGroup
  connective : Connective
  deriving DecidableEq, Repr

namespace Selection

/-- The groups that the names stand for, one for each name. -/
def lookAll (catalog : Catalog) : List String → Except SelectionError (List FieldGroup)
  | [] => .ok []
  | name :: names =>
    match catalog.find? (Text.trim name) with
    | none => .error (.unknownGroup (Text.trim name))
    | some group => (lookAll catalog names).map (group :: ·)

/-- The first group of each id. -/
def firstOfEach (groups : List FieldGroup) : List FieldGroup :=
  groups.eraseDupsBy fun g h => g.id == h.id

def ofNames (catalog : Catalog) (names : List String) (connective : Connective) :
    Except SelectionError Selection :=
  match lookAll catalog names with
  | .error e => .error e
  | .ok [] => .error .nothingSelected
  | .ok groups => .ok ⟨firstOfEach groups, connective⟩

def ids (s : Selection) : List String := s.groups.map (·.id)

/-- Every field that a chosen group uses, each once, in the order of the groups. -/
def fields (s : Selection) : List Field := (s.groups.flatMap (·.fields)).eraseDups

/-- Makes a selection; a selection made is noted. -/
def make (catalog : Catalog) (names : List String) (connective : Connective) :
    Noted (Except SelectionError Selection) :=
  match ofNames catalog names connective with
  | .ok s => ⟨[.selectionMade s.ids s.connective.word], .ok s⟩
  | .error e => .quiet (.error e)

/-- The names in a list with commas, trimmed; blank ones are left out. -/
def names (list : String) : List String :=
  ((list.toList.splitOn ',').map fun piece => Text.trim (String.ofList piece)).filter (· ≠ "")

end Selection

end Registrar
