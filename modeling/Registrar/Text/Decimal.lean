/-!
Whole numbers in decimal digits, as settings give them.
-/

namespace Registrar.Text

/-- The character is one of 0 to 9. -/
def isDigit (c : Char) : Bool := decide ('0' ≤ c) && decide (c ≤ '9')

/-- The number that digits write, `n` being what stands before them. -/
def digitsValue (n : Nat) : List Char → Nat
  | [] => n
  | c :: rest => digitsValue (10 * n + (c.toNat - '0'.toNat)) rest

/-- A nonempty row of digits. -/
def digits? (cs : List Char) : Option Nat :=
  if cs.isEmpty || !cs.all isDigit then none else some (digitsValue 0 cs)

/-- A number below `bound`; one plus sign may go before it. -/
def wordBelow? (bound : Nat) (cs : List Char) : Option Nat :=
  let unsigned := match cs with
    | '+' :: rest => rest
    | _ => cs
  (digits? unsigned).filter fun n => decide (n < bound)

theorem lt_of_wordBelow? {bound n : Nat} {cs : List Char} (h : wordBelow? bound cs = some n) :
    n < bound := by
  have := (Option.filter_eq_some_iff.1 h).2
  simpa using this

end Registrar.Text
