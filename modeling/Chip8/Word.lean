import Chip8.Memory

/-!
# Instruction words and their fields

An instruction is a 16-bit word. Its fields overlap: `opcode`, `x`, `y` and `n` are the four
nibbles from the highest to the lowest, `nn` is the low byte and `nnn` the low twelve bits.

Words are kept 32 bits wide, because a word may be handed to the machine directly instead of
being fetched. The fields look at the low 16 bits alone, and `raw` is the whole word.
-/

namespace Chip8

/-- An instruction word. Fetched words have their upper 16 bits clear. -/
abbrev Word := BitVec 32

/-- The number of a register. -/
abbrev Register := BitVec 4

/-- An instruction word taken apart. -/
structure Fields where
  /-- The whole word. -/
  raw : Word
  /-- The first nibble, which names the family of the instruction. -/
  opcode : BitVec 4
  /-- The second nibble, usually a register. -/
  x : Register
  /-- The third nibble, usually a register. -/
  y : Register
  /-- The fourth nibble. -/
  n : BitVec 4
  /-- The low byte. -/
  nn : Byte
  /-- The low twelve bits, usually an address. -/
  nnn : Address
deriving DecidableEq, Repr

namespace Fields

/-- Takes a word apart. -/
def ofWord (w : Word) : Fields where
  raw := w
  opcode := w.extractLsb' 12 4
  x := w.extractLsb' 8 4
  y := w.extractLsb' 4 4
  n := w.extractLsb' 0 4
  nn := w.extractLsb' 0 8
  nnn := w.extractLsb' 0 12

end Fields

end Chip8
