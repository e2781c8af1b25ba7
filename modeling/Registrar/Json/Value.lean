/-!
JSON values as their texts tell them. A number keeps its digits as they were written. The members
of an object keep their order and may repeat a name. An escape can name half of a surrogate pair,
which no text can hold; a string with such a half has no text.
-/

namespace Registrar

/-- A JSON value. -/
inductive Json
  | null
  | bool (b : Bool)
  | number (digits : String)
  | string (text : Option String)
  | array (items : List Json)
  | object (members : List (Option String × Json))
  deriving Repr, BEq, Inhabited

namespace Json

def text (s : String) : Json := string (some s)

def nat (n : Nat) : Json := number (toString n)

def members (ms : List (String × Json)) : Json := object (ms.map fun m => (some m.1, m.2))

def texts (ss : List String) : Json := array (ss.map text)

end Json

end Registrar
