/-!
# Hexadecimal numbers

Upper-case hexadecimal numerals, filled with zeros up to a given width. The sign of a negative
number stands in front of the zeros and counts towards the width, so `-1` at width four is `-001`.
-/

namespace Chip8.Text.Hex

/-- The digits of a natural number, at least one. -/
def digits (n : Nat) : List Char :=
  (Nat.toDigits 16 n).map Char.toUpper

/-- The sign of an integer: nothing unless it is negative. -/
def sign (n : Int) : List Char :=
  if n < 0 then ['-'] else []

/-- The numeral of an integer, at least `width` characters long. -/
def ofInt (width : Nat) (n : Int) : String :=
  let ds := digits n.natAbs
  let fill := width - (sign n ++ ds).length
  String.ofList (sign n ++ List.replicate fill '0' ++ ds)

end Chip8.Text.Hex
