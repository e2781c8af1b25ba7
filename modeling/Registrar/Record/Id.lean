import Registrar.Record

/-!
New ids. Sixteen random bytes make an id of 32 hexadecimal digits in groups of 8, 4, 4, 4 and 12;
six of the bits are fixed and say that the rest is random.
-/

namespace Registrar.Record

/-- The two lower-case hexadecimal digits of a byte. -/
def hexDigits (b : UInt8) : List Char :=
  [Nat.digitChar (b.toNat / 16), Nat.digitChar (b.toNat % 16)]

/-- The random bytes with the fixed bits set: four in the seventh byte, two in the ninth. -/
def markRandom (bytes : List UInt8) : List UInt8 :=
  bytes.modify 6 (fun b => b &&& 0x0f ||| 0x40) |>.modify 8 (fun b => b &&& 0x3f ||| 0x80)

def idOfBytes (bytes : List UInt8) : String :=
  let digits := (markRandom bytes).flatMap hexDigits
  let group (start length : Nat) := String.ofList ((digits.drop start).take length)
  "-".intercalate [group 0 8, group 8 4, group 12 4, group 16 4, group 20 12]

end Registrar.Record
