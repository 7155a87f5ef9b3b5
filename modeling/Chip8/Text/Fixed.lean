/-!
# Numbers with a fixed number of decimal places

The decimal numeral of a floating-point number with a fixed number of places, rounded from the
exact binary value; a tie goes to the even neighbour. The sign of a negative number stays when the
digits round to zero.
-/

namespace Chip8.Text.Fixed

-- Powers of natural numbers are the built-in ones, whatever else is in scope.
attribute [local instance (high)] instPowNat

/-- A finite floating-point number taken apart: `mantissa` times two to the `exponent`. -/
structure Binary where
  /-- Whether the sign bit is set. -/
  negative : Bool
  /-- The mantissa as an integer. -/
  mantissa : Nat
  /-- The power of two that the mantissa is multiplied by. -/
  exponent : Int
deriving DecidableEq, Repr

/-- Takes the bits of a double apart. Without a number in them there is none. -/
def Binary.ofBits? (bits : Nat) : Option Binary :=
  let negative := bits.testBit 63
  let exponent : Nat := (bits >>> 52) % 0x800
  let fraction := bits % 0x10000000000000
  if exponent = 0x7FF then none
  else if exponent = 0 then some ⟨negative, fraction, -1074⟩
  else some ⟨negative, 0x10000000000000 + fraction, (exponent : Int) - 1075⟩

/-- The quotient rounded to the nearest integer; a tie goes to the even one. -/
def roundDiv (num den : Nat) : Nat :=
  let q := num / den
  let r := num % den
  if 2 * r < den then q
  else if den < 2 * r then q + 1
  else if q % 2 = 0 then q else q + 1

/-- The absolute value in units of the last of the given number of places. -/
def Binary.units (b : Binary) (places : Nat) : Nat :=
  if 0 ≤ b.exponent then b.mantissa * 10 ^ places * 2 ^ b.exponent.toNat
  else roundDiv (b.mantissa * 10 ^ places) (2 ^ (-b.exponent).toNat)

/-- The numeral of a number of units of the last place. -/
def numeral (places units : Nat) : List Char :=
  let whole := Nat.toDigits 10 (units / 10 ^ places)
  let part := Nat.toDigits 10 (units % 10 ^ places)
  whole ++ '.' :: List.replicate (places - part.length) '0' ++ part

/-- Fills a text with spaces in front up to a width. -/
def padLeft (width : Nat) (s : List Char) : String :=
  String.ofList (List.replicate (width - s.length) ' ' ++ s)

/-- The text of a double with the given number of places, at least one, and filled with spaces in
front up to a width. -/
def ofFloat (width places : Nat) (x : Float) : String :=
  match Binary.ofBits? x.toBits.toNat with
  | some b =>
    let digits := numeral places (b.units places)
    padLeft width (if b.negative then '-' :: digits else digits)
  | none =>
    padLeft width (if x.isNaN then "nan".toList else if x < 0 then "-inf".toList else "inf".toList)

end Chip8.Text.Fixed
