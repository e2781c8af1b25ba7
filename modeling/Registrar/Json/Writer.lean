import Registrar.Json.Value

/-!
Writing JSON, in one line without blanks or over several lines with two blanks for each level.
Strings escape quotation marks, backslashes and control characters and nothing else.
-/

namespace Registrar.Json

def hexDigit (n : Nat) : Char := if n < 10 then Char.ofNat (48 + n) else Char.ofNat (87 + n)

def escaped (c : Char) : List Char :=
  if c = '"' then ['\\', '"']
  else if c = '\\' then ['\\', '\\']
  else if c = '\x08' then ['\\', 'b']
  else if c = '\x0c' then ['\\', 'f']
  else if c = '\n' then ['\\', 'n']
  else if c = '\r' then ['\\', 'r']
  else if c = '\t' then ['\\', 't']
  else if c < ' ' then ['\\', 'u', '0', '0', hexDigit (c.toNat / 16), hexDigit (c.toNat % 16)]
  else [c]

/-- A written string; one without a text is written as an empty one. -/
def stringChars (s : Option String) : List Char :=
  '"' :: ((s.getD "").toList.flatMap escaped ++ ['"'])

def boolChars (b : Bool) : List Char := (if b then "true" else "false").toList

mutual

/-- A value in one line. -/
def chars : Json → List Char
  | null => "null".toList
  | bool b => boolChars b
  | number ds => ds.toList
  | string s => stringChars s
  | array [] => ['[', ']']
  | array (v :: vs) => '[' :: (chars v ++ itemsChars vs)
  | object [] => ['\x7b', '\x7d']
  | object ((name, v) :: ms) =>
    '\x7b' :: (stringChars name ++ ':' :: (chars v ++ membersChars ms))

def itemsChars : List Json → List Char
  | [] => [']']
  | v :: vs => ',' :: (chars v ++ itemsChars vs)

def membersChars : List (Option String × Json) → List Char
  | [] => ['\x7d']
  | (name, v) :: ms => ',' :: (stringChars name ++ ':' :: (chars v ++ membersChars ms))

end

def compact (v : Json) : String := String.ofList v.chars

/-- The start of a line at a level. -/
def newline (level : Nat) : List Char := '\n' :: List.replicate (2 * level) ' '

mutual

/-- A value over several lines; it starts inside a line of the given level. -/
def lines (level : Nat) : Json → List Char
  | null => "null".toList
  | bool b => boolChars b
  | number ds => ds.toList
  | string s => stringChars s
  | array [] => ['[', ']']
  | array (v :: vs) =>
    '[' :: (newline (level + 1) ++ (lines (level + 1) v ++ itemsLines level vs))
  | object [] => ['\x7b', '\x7d']
  | object ((name, v) :: ms) =>
    '\x7b' :: (newline (level + 1) ++ (stringChars name ++ ':' :: ' ' ::
      (lines (level + 1) v ++ membersLines level ms)))

def itemsLines (level : Nat) : List Json → List Char
  | [] => newline level ++ [']']
  | v :: vs => ',' :: (newline (level + 1) ++ (lines (level + 1) v ++ itemsLines level vs))

def membersLines (level : Nat) : List (Option String × Json) → List Char
  | [] => newline level ++ ['\x7d']
  | (name, v) :: ms => ',' :: (newline (level + 1) ++ (stringChars name ++ ':' :: ' ' ::
      (lines (level + 1) v ++ membersLines level ms)))

end

def pretty (v : Json) : String := String.ofList (v.lines 0)

end Registrar.Json
