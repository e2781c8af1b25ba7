import Registrar.Registry.Table

/-!
Conditions as the database understands them. The text of a statement is cut into words and signs,
and a condition is read off them: AND binds tighter than OR, and parentheses bind tighter than both.
A condition is held against a row in three truth values, where a comparison with nothing stored is
unknown; the rows of an answer are those for which the condition is true. Only what the statements
of this library are made of can be read, anything else is no condition.
-/

namespace Registrar.Sql

/-! ### Words and signs -/

/-- A word or a sign of a statement. A placeholder is one word with the types that it is cast
to. -/
inductive Token
  | opening
  | closing
  | comma
  | equals
  | falseWord
  | isWord
  | nullWord
  | whereWord
  | orderWord
  | joiner (connective : Connective)
  | placeholder (number : Nat) (casts : List String)
  | name (s : String)
  deriving DecidableEq, Repr

namespace Token

/-- The words that mean something by themselves. -/
def reserved : List (List Char × Token) := [
  ("AND".toList, joiner .all), ("OR".toList, joiner .any), ("FALSE".toList, falseWord),
  ("IS".toList, isWord), ("NULL".toList, nullWord), ("WHERE".toList, whereWord),
  ("ORDER".toList, orderWord)]

/-- The sign that a character is. -/
def ofSign? : Char → Option Token
  | '(' => some opening
  | ')' => some closing
  | ',' => some comma
  | '=' => some equals
  | _ => none

/-- The types that a value is cast to, from the pieces between colons: two colons before each. -/
def casts? : List (List Char) → Option (List String)
  | [] => some []
  | [] :: type :: more => (casts? more).map (String.ofList type :: ·)
  | _ => none

/-- The placeholder that a word is. -/
def placeholder? : List Char → Option Token
  | '$' :: rest =>
    match rest.splitOn ':' with
    | [] => none
    | digits :: more =>
      match Text.digits? digits, casts? more with
      | some number, some casts => some (placeholder number casts)
      | _, _ => none
  | _ => none

def ofWord (word : List Char) : Token :=
  match placeholder? word with
  | some token => token
  | none => (reserved.lookup word).getD (name (String.ofList word))

def number? : Token → Option Nat
  | placeholder number _ => some number
  | _ => none

end Token

def endsWord (c : Char) : Bool := c == ' ' || (Token.ofSign? c).isSome

/-- The word before the tokens, if there is one. -/
def putWord (word : List Char) (tokens : List Token) : List Token :=
  if word.isEmpty then tokens else Token.ofWord word :: tokens

/-- The tokens of a text, given the word that is being read. -/
def tokensFrom (word : List Char) : List Char → List Token
  | [] => putWord word []
  | c :: cs =>
    if endsWord c then putWord word ((Token.ofSign? c).toList ++ tokensFrom [] cs)
    else tokensFrom (word ++ [c]) cs

def tokens (text : String) : List Token := tokensFrom [] text.toList

/-- The numbers of the placeholders in a text, from left to right. -/
def placeholders (text : String) : List Nat := (tokens text).filterMap Token.number?

/-! ### Conditions -/

inductive Condition
  | falsehood
  /-- The column holds the value of a placeholder. -/
  | equals (column : String) (number : Nat) (casts : List String)
  /-- The column holds nothing. -/
  | isNull (column : String)
  | joined (connective : Connective) (a b : Condition)
  deriving DecidableEq, Repr

/-- A condition joined to what stands before it, if anything does. -/
def Condition.joinTo (connective : Connective) : Option Condition → Condition → Condition
  | none, c => c
  | some a, c => joined connective a c

/-- What was read between two parentheses, or between the ends of a condition, up to the operand
that comes next. -/
structure Frame where
  /-- What stands before the last OR. -/
  disjunction : Option Condition
  /-- What stands between it and the last AND. -/
  conjunction : Option Condition

namespace Frame

def empty : Frame := ⟨none, none⟩

def conjoined (frame : Frame) (c : Condition) : Condition := .joinTo .all frame.conjunction c

def whole (frame : Frame) (c : Condition) : Condition :=
  .joinTo .any frame.disjunction (frame.conjoined c)

/-- The frame after an operand and a connective. -/
def next (frame : Frame) (c : Condition) : Connective → Frame
  | .all => ⟨frame.disjunction, some (frame.conjoined c)⟩
  | .any => ⟨some (frame.whole c), none⟩

end Frame

mutual

/-- Reads a condition from where an operand has to stand; `around` are the frames of the
parentheses that are open. -/
def readOperand (around : List Frame) (frame : Frame) : List Token → Option Condition
  | .opening :: ts => readOperand (frame :: around) .empty ts
  | .falseWord :: ts => readAfter around frame .falsehood ts
  | .name column :: .equals :: .placeholder number casts :: ts =>
    readAfter around frame (.equals column number casts) ts
  | .name column :: .isWord :: .nullWord :: ts => readAfter around frame (.isNull column) ts
  | _ => none

/-- Reads a condition on after an operand. It ends with the text or before ORDER. -/
def readAfter (around : List Frame) (frame : Frame) (c : Condition) : List Token → Option Condition
  | .joiner connective :: ts => readOperand around (frame.next c connective) ts
  | .closing :: ts =>
    match around with
    | [] => none
    | outer :: around => readAfter around outer (frame.whole c) ts
  | [] => if around.isEmpty then some (frame.whole c) else none
  | .orderWord :: _ => if around.isEmpty then some (frame.whole c) else none
  | _ => none

end

/-- The condition that a text is. -/
def condition? (text : String) : Option Condition := readOperand [] .empty (tokens text)

/-- The condition after the word WHERE of a statement. -/
def where? (text : String) : Option Condition :=
  readOperand [] .empty ((tokens text).dropWhile (· ≠ .whereWord)).tail

/-! ### Truth -/

/-- True, false, or unknown. -/
abbrev Truth := Option Bool

def Truth.join : Connective → Truth → Truth → Truth
  | .all, some a, some b => some (a && b)
  | .all, a, b => if a = some false ∨ b = some false then some false else none
  | .any, some a, some b => some (a || b)
  | .any, a, b => if a = some true ∨ b = some true then some true else none

/-- A value cast to a type. What makes a text the identifier that it spells is `uuid`. -/
def cast (uuid : String → Option String) (value : String) (type : String) : Option String :=
  if type = "text" then some value
  else if type = "uuid" then uuid value
  else none

/-- The value of a placeholder of the statement: the first value has the number 1. -/
def Statement.bound (statement : Statement) : Nat → Option String
  | 0 => none
  | n + 1 => statement.values[n]?

variable (uuid : String → Option String) (bound : Nat → Option String) (row : Row)

def valueOf (number : Nat) (casts : List String) : Option String :=
  (bound number).bind fun value => casts.foldlM (cast uuid) value

/-- The truth of a condition about a row. What cannot be evaluated is unknown. -/
def Condition.truth : Condition → Truth
  | falsehood => some false
  | equals column number casts =>
    match row.cell column, valueOf uuid bound number casts with
    | .ok (.text s), some v => some (s == v)
    | _, _ => none
  | isNull column =>
    match row.cell column with
    | .ok cell => some (cell == .null)
    | .error _ => none
  | joined connective a b => Truth.join connective a.truth b.truth

/-- The row is one that the statement asks for. -/
def Statement.asksFor (statement : Statement) (row : Row) : Bool :=
  match where? statement.text with
  | some c => c.truth uuid statement.bound row == some true
  | none => false

end Registrar.Sql
