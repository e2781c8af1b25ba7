/-!
The variables of a process. A variable is kept as one text: its name, an equals sign and its value.
The text ends at a NUL, so no value holds one.
-/

namespace Registrar

/-- Names with their values; of two values for a name the first counts. -/
abbrev Environment := List (String × String)

namespace Environment

def get? (env : Environment) (name : String) : Option String := env.lookup name

/-- What follows a name and an equals sign at the front of a variable's text. A name that holds an
equals sign itself reaches into a value: where `A` is `B=C`, what follows `A=B` is `C`. -/
def after? (env : Environment) (name : List Char) : Option (List Char) :=
  env.findSome? fun (own, value) => (name ++ ['=']).isPrefixOf? (own.toList ++ '=' :: value.toList)

/-- The value is one that a variable can have. -/
def canHold (value : String) : Bool := !value.toList.contains '\x00'

/-- Gives a variable a value, unless it has one. -/
def supply (env : Environment) (name value : String) : Environment :=
  match env.get? name with
  | some _ => env
  | none => env ++ [(name, value)]

end Environment

end Registrar
