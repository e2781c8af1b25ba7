import Registrar.Selection
import Registrar.Sql

/-!
What the environment sets: how many values a statement may bind, and what is searched for when a
request leaves it open. A setting that cannot be used is put aside, with a warning, for its
default.
-/

namespace Registrar

/-- What the environment sets. -/
structure Settings where
  /-- How many values one statement may bind, the country among them. -/
  limit : Nat
  connective : Connective
  groups : List String
  deriving DecidableEq, Repr

namespace Settings

/-- One number of 64 bits, blanks around it dropped. -/
def word? (raw : String) : Option Nat :=
  Text.wordBelow? UInt64.size (Text.stripBoth Text.isBlank raw.toList)

/-- The limit: a number of 64 bits from 2 on. -/
def readLimit : Option String → Noted Nat
  | none => .quiet databaseLimit
  | some raw =>
    match (word? raw).filter (2 ≤ ·) with
    | some n => .quiet n
    | none => ⟨[.limitIgnored raw databaseLimit], databaseLimit⟩

def readConnective : Option String → Noted Connective
  | none => .quiet .all
  | some raw =>
    match Connective.read raw with
    | .ok c => .quiet c
    | .error e => ⟨[.connectiveIgnored e.message], .all⟩

/-- The group names, as the catalog chooses them when none is given. -/
def readGroups (catalog : Catalog) (raw : Option String) : List String :=
  match Selection.names (raw.getD "") with
  | [] => catalog.preselected
  | names => names

def read (catalog : Catalog) (lookup : String → Option String) : Noted Settings :=
  (readLimit (lookup "DEDUP_MAX_QUERY_PARAMS")).andThen fun limit =>
  (readConnective (lookup "DEDUP_DEFAULT_OPERATOR")).andThen fun connective =>
  let s : Settings := ⟨limit, connective, readGroups catalog (lookup "DEDUP_DEFAULT_GROUPS")⟩
  ⟨[.settingsRead s.limit s.connective.name s.groups], s⟩

/-- The selection of a request, the settings standing in for what it leaves open. -/
def select (s : Settings) (catalog : Catalog) (groups connective : Option String) :
    Noted (Except SelectionError Selection) :=
  match connective.elim (.ok s.connective) Connective.read with
  | .error e => .quiet (.error e)
  | .ok c => Selection.make catalog (groups.elim s.groups Selection.names) c

end Settings

end Registrar
