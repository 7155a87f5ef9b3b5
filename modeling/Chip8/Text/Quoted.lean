import Chip8.Text.Printable

/-!
# Text in quotes

A text between two quotes, with everything escaped that could not be read back from between them.
The quotes are single ones unless the text holds a single quote and no double one. A backslash and
the quote in use are escaped by a backslash; tabulator, line feed and carriage return have escapes
of their own; every other unprintable character is written by its code point in hexadecimal, with
two, four or eight digits.
-/

namespace Chip8.Text.Quoted

/-- The lower-case hexadecimal numeral of a number, filled with zeros up to a width. -/
def hex (width n : Nat) : List Char :=
  let ds := Nat.toDigits 16 n
  List.replicate (width - ds.length) '0' ++ ds

/-- The quote to put around a text. -/
def quoteFor (s : List Char) : Char :=
  if s.contains '\'' && !s.contains '"' then '"' else '\''

/-- How a character is written between two quotes. -/
def encodeChar (quote c : Char) : List Char :=
  if c = quote ∨ c = '\\' then ['\\', c]
  else if c = '\t' then ['\\', 't']
  else if c = '\n' then ['\\', 'n']
  else if c = '\r' then ['\\', 'r']
  else if isPrintable c then [c]
  else if c.toNat < 0x100 then '\\' :: 'x' :: hex 2 c.toNat
  else if c.toNat < 0x10000 then '\\' :: 'u' :: hex 4 c.toNat
  else '\\' :: 'U' :: hex 8 c.toNat

/-- A text in quotes. -/
def encode (s : String) : String :=
  let quote := quoteFor s.toList
  String.ofList (quote :: s.toList.flatMap (encodeChar quote) ++ [quote])

end Chip8.Text.Quoted
