import Registrar.Environment.Basic
import Registrar.Text.Alphanumeric
import Registrar.Text.Blank

/-!
One line of a file of variables. It is blank, a comment, or a name, an equals sign and a value; the
word `export` may go first. A value ends at a blank outside quotation marks, after which only a
comment may follow. Single marks keep what they hold. Elsewhere a backslash takes the meaning from
a mark, a dollar sign, a blank or a backslash, or makes an `n` a line end, and `$name` or a name in
braces after the dollar sign stands for the value of a variable.
-/

namespace Registrar.Environment

/-- The variables that a file gave so far; a name without a value was given none. -/
abbrev Given := List (String × Option String)

/-- What a name in a value stands for: the variable, or what the file gave for it, or nothing. The
empty name stands for nothing. -/
def meaning (env : Environment) (given : Given) (name : List Char) : List Char :=
  if name.isEmpty then []
  else match env.after? name with
    | some value => value
    | none => ((given.lookup (String.ofList name)).join.getD "").toList

/-! ### Values -/

/-- Where in a value the reading stands. Names are kept backwards. -/
inductive Place
  | open
  /-- After a backslash. -/
  | escape
  /-- Between single marks. -/
  | single
  /-- After a dollar sign. -/
  | name (read : List Char)
  /-- After a dollar sign and a brace. -/
  | braced (read : List Char)
  /-- After the value. -/
  | done
  deriving DecidableEq, Repr

/-- A value in reading: the place, whether it is between double marks, and the value so far,
backwards. -/
structure Reading where
  place : Place
  double : Bool
  value : List Char
  deriving DecidableEq, Repr

def escape? (c : Char) : Option Char :=
  if c = '\\' ∨ c = '\'' ∨ c = '"' ∨ c = '$' ∨ c = ' ' then some c
  else if c = 'n' then some '\n'
  else none

/-- Reads one character at a place where marks have their meaning. -/
def stepOpen (s : Reading) (c : Char) : Reading :=
  if c = '$' then { s with place := .name [] }
  else if s.double then
    if c = '"' then { s with double := false }
    else if c = '\\' then { s with place := .escape }
    else { s with value := c :: s.value }
  else if c = '\'' then { s with place := .single }
  else if c = '"' then { s with double := true }
  else if c = '\\' then { s with place := .escape }
  else if c = ' ' ∨ c = '\t' then { s with place := .done }
  else { s with value := c :: s.value }

/-- Reads one character of a name after a dollar sign. The character that ends the name is taken
as it is. -/
def stepName (mean : List Char → List Char) (s : Reading) (read : List Char) (c : Char) :
    Reading :=
  if Text.isAlphanumeric c then { s with place := .name (c :: read) }
  else if c = '\x7b' ∧ read = [] then { s with place := .braced [] }
  else
    let value := (mean read.reverse).reverse ++ s.value
    if c = '$' then { s with place := .name [], value }
    else { s with place := .open, value := c :: value }

/-- The value at the end of the line; there is none inside marks or braces. -/
def finish (mean : List Char → List Char) (s : Reading) : Option (List Char) :=
  if s.double then none
  else match s.place with
    | .single | .braced _ => none
    | .name read => some (s.value.reverse ++ mean read.reverse)
    | .open | .escape | .done => some s.value.reverse

/-- Reads the rest of a value; `mean` tells what names stand for. -/
def readValue (mean : List Char → List Char) (s : Reading) : List Char → Option (List Char)
  | [] => finish mean s
  | c :: rest =>
    match s.place with
    | .done =>
      if c = ' ' ∨ c = '\t' then readValue mean s rest
      else if c = '#' then finish mean s
      else none
    | .escape =>
      match escape? c with
      | some e => readValue mean { s with place := .open, value := e :: s.value } rest
      | none => none
    | .single =>
      if c = '\'' then readValue mean { s with place := .open } rest
      else readValue mean { s with value := c :: s.value } rest
    | .name read => readValue mean (stepName mean s read c) rest
    | .braced read =>
      if c = '\x7d' then
        readValue mean
          { s with place := .open, value := (mean read.reverse).reverse ++ s.value } rest
      else readValue mean { s with place := .braced (c :: read) } rest
    | .open => readValue mean (stepOpen s c) rest

/-! ### Lines -/

/-- What a line says. -/
inductive Line
  | nothing
  /-- A name and its value. The value is none where the line stops after the equals sign. -/
  | variable (name : String) (value : Option String)
  /-- The line makes no sense. -/
  | malformed
  deriving DecidableEq, Repr

def skip (cs : List Char) : List Char := cs.dropWhile Text.isBlank

def inName (c : Char) : Bool := c.isAlphanum || c == '_' || c == '.'

/-- A name and the characters after it, blanks dropped. -/
def name? (cs : List Char) : Option (List Char × List Char) :=
  match cs with
  | c :: _ =>
    if c.isAlpha || c == '_' then some (cs.takeWhile inName, skip (cs.dropWhile inName)) else none
  | [] => none

/-- The characters after an equals sign, blanks dropped. -/
def afterEquals? : List Char → Option (List Char)
  | '=' :: rest => some (skip rest)
  | _ => none

def assignment? (cs : List Char) : Option (List Char × List Char) := do
  let (name, rest) ← name? cs
  match afterEquals? rest with
  | some value => return (name, value)
  | none =>
    if name = "export".toList then
      let (name, rest) ← name? rest
      return (name, ← afterEquals? rest)
    else none

def readLine (env : Environment) (given : Given) (cs : List Char) : Line :=
  match Text.stripBoth Text.isBlank cs with
  | [] | '#' :: _ => .nothing
  | cs =>
    match assignment? cs with
    | none => .malformed
    | some (name, rest) =>
      match rest with
      | [] | '#' :: _ => .variable (String.ofList name) none
      | rest =>
        match readValue (meaning env given) ⟨.open, false, []⟩ rest with
        | some value => .variable (String.ofList name) (some (String.ofList value))
        | none => .malformed

end Registrar.Environment
