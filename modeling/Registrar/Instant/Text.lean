import Registrar.Instant.Basic
import Registrar.Text.Blank
import Registrar.Text.Decimal

/-!
The text of an instant. It is written as date, `T`, time and `Z`, with the fewest of none, three,
six or nine digits of a second that tell it exactly. Reading is laxer: numbers may be short and
have blanks before them, a small `t` or a blank may divide date and time, digits past the ninth of
a second are dropped, and any distance from universal time below a day may be given.
-/

namespace Registrar.Instant

open Text (isDigit isBlank)

/-! ### Writing -/

/-- A number with zeros before it up to a width. -/
def padded (width n : Nat) : List Char :=
  let digits := Nat.toDigits 10 n
  List.replicate (width - digits.length) '0' ++ digits

/-- A year of four digits; other years have a sign. -/
def yearText (year : Int) : List Char :=
  if 0 ≤ year then
    (if year ≤ 9999 then padded 4 year.toNat else '+' :: padded 4 year.toNat)
  else '-' :: padded 4 (-year).toNat

/-- The digits of a second after the point, in groups of three. -/
def fractionText (nanosecond : Nat) : List Char :=
  if nanosecond = 0 then []
  else if nanosecond % 1000000 = 0 then '.' :: padded 3 (nanosecond / 1000000)
  else if nanosecond % 1000 = 0 then '.' :: padded 6 (nanosecond / 1000)
  else '.' :: padded 9 nanosecond

def chars (t : Instant) : List Char :=
  yearText t.date.year ++ '-' :: padded 2 t.date.month ++ '-' :: padded 2 t.date.day ++
    'T' :: padded 2 t.hour ++ ':' :: padded 2 t.minute ++ ':' :: padded 2 t.second ++
    fractionText t.nanosecond ++ ['Z']

def render (t : Instant) : String := String.ofList t.chars

/-! ### Reading

Each step takes what it needs from the front of the characters and leaves the rest. -/

/-- What a step takes, with the rest. -/
abbrev Step (α : Type) := List Char → Option (α × List Char)

def skipBlanks (cs : List Char) : List Char := cs.dropWhile isBlank

/-- One to `most` digits; a digit past them is left. -/
def number (most : Nat) : Step Nat := fun cs =>
  let digits := (cs.take most).takeWhile isDigit
  if digits.isEmpty then none else some (Text.digitsValue 0 digits, cs.drop digits.length)

/-- A number of one or two digits, blanks in front of it dropped. -/
def shortNumber : Step Nat := fun cs => number 2 (skipBlanks cs)

/-- A year: four digits at most, or a sign and any number of digits. -/
def year : Step Int := fun cs =>
  match skipBlanks cs with
  | '-' :: rest => (number rest.length rest).map fun (n, r) => (-(n : Int), r)
  | '+' :: rest => (number rest.length rest).map fun (n, r) => ((n : Int), r)
  | rest => (number 4 rest).map fun (n, r) => ((n : Int), r)

/-- The given mark, blanks in front of it dropped. -/
def mark (c : Char) (cs : List Char) : Option (List Char) :=
  match skipBlanks cs with
  | d :: rest => if d = c then some rest else none
  | [] => none

/-- The mark between date and time. -/
def divide : List Char → Option (List Char)
  | 'T' :: rest | 't' :: rest | ' ' :: rest => some rest
  | _ => none

/-- The nanoseconds that digits after the point tell; those past the ninth count for nothing. -/
def nanoseconds (digits : List Char) : Nat :=
  let first := digits.take 9
  Text.digitsValue 0 first * Nat.pow 10 (9 - first.length)

/-- The part of a second after a point, if there is a point. -/
def fraction : Step Nat
  | '.' :: rest =>
    let digits := rest.takeWhile isDigit
    if digits.isEmpty then none else some (nanoseconds digits, rest.drop digits.length)
  | cs => some (0, cs)

def skipColons (cs : List Char) : List Char := cs.dropWhile fun c => c == ':' || isBlank c

/-- The hours and minutes of a distance from universal time, in minutes. -/
def distance (cs : List Char) : Option (Int × List Char) :=
  match cs with
  | a :: b :: rest =>
    if isDigit a && isDigit b then
      match skipColons rest with
      | c :: d :: rest =>
        if isDigit c && isDigit d && decide (c < '6') then
          some (60 * (Text.digitsValue 0 [a, b] : Int) + Text.digitsValue 0 [c, d], rest)
        else none
      | _ => none
    else none
  | _ => none

/-- How far ahead of universal time the clock is: `Z`, `UTC` in any case, or a sign with hours and
minutes. The sign may be the typographic minus. -/
def zone (cs : List Char) : Option (Int × List Char) :=
  match cs with
  | 'Z' :: rest | 'z' :: rest => some (0, rest)
  | '+' :: rest => distance rest
  | '-' :: rest | '−' :: rest => (distance rest).map fun (n, r) => (-n, r)
  | a :: b :: c :: rest =>
    if [a, b, c].map Char.toUpper = ['U', 'T', 'C'] then some (0, rest) else none
  | _ => none

/-- The local time, the distance of its clock from universal time, and the characters after. -/
def local? (cs : List Char) : Option (Instant × Int × List Char) := do
  let (year, cs) ← year cs
  let (month, cs) ← shortNumber (← mark '-' cs)
  let (day, cs) ← shortNumber (← mark '-' cs)
  let (hour, cs) ← shortNumber (← divide cs)
  let (minute, cs) ← shortNumber (← mark ':' cs)
  let (second, cs) ← shortNumber (← mark ':' cs)
  let (nanosecond, cs) ← fraction cs
  let (ahead, cs) ← zone (skipBlanks cs)
  return (⟨⟨year, month, day⟩, hour, minute, second, nanosecond⟩, ahead, cs)

/-- Reads an instant: a valid local time, less than a day from universal time, that can be told
in universal time too. -/
def ofChars? (cs : List Char) : Option Instant := do
  let (t, ahead, rest) ← local? cs
  let universal := t.shiftBack ahead
  if t.Valid ∧ -1440 < ahead ∧ ahead < 1440 ∧ universal.date.Valid ∧ skipBlanks rest = [] then
    some universal
  else none

def read? (s : String) : Option Instant := ofChars? s.toList

end Registrar.Instant
