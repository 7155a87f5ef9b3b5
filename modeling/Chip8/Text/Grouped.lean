/-!
# Numbers with grouped digits

Decimal numerals in which a comma stands before every group of three digits, counted from the
right.
-/

namespace Chip8.Text.Grouped

/-- Puts a comma before every group of three digits of a numeral that is given from the right. -/
def groupReversed : List Char → List Char
  | a :: b :: c :: d :: rest => a :: b :: c :: ',' :: groupReversed (d :: rest)
  | digits => digits

/-- The numeral of an integer. -/
def ofInt (n : Int) : String :=
  let digits := (groupReversed (Nat.toDigits 10 n.natAbs).reverse).reverse
  String.ofList (if n < 0 then '-' :: digits else digits)

end Chip8.Text.Grouped
