import Chip8.Word

/-!
# The defined words

Which words the instruction set defines, read off a table: family by family, which low nibbles or
low bytes occur. The table is kept apart from the decoder so that counting and reporting undefined
words does not hang on how instructions are represented.
-/

namespace Chip8

namespace Fields

/-- The low nibbles that occur in the family `8`. -/
def aluNibbles : List (BitVec 4) :=
  [0x0, 0x1, 0x2, 0x3, 0x4, 0x5, 0x6, 0x7, 0xE]

/-- The low bytes that occur in the family `E`. -/
def keyBytes : List Byte :=
  [0x9E, 0xA1]

/-- The low bytes that occur in the family `F`. -/
def miscBytes : List Byte :=
  [0x07, 0x0A, 0x15, 0x18, 0x1E, 0x29, 0x33, 0x55, 0x65]

/-- The words that occur in the family `0`. -/
def systemWords : List Word :=
  [0x00E0, 0x00EE]

/-- Whether the instruction set defines the word with these fields. -/
def isDefined (f : Fields) : Bool :=
  match f.opcode with
  | 0x0#4 => systemWords.contains f.raw
  | 0x5#4 => f.n == 0#4
  | 0x8#4 => aluNibbles.contains f.n
  | 0x9#4 => f.n == 0#4
  | 0xE#4 => keyBytes.contains f.nn
  | 0xF#4 => miscBytes.contains f.nn
  | _ => true

end Fields

/-- Whether the instruction set defines the word. -/
def Word.isDefined (w : Word) : Bool :=
  (Fields.ofWord w).isDefined

end Chip8
