import Chip8.Table
import Chip8.Font

/-!
# Memory

The machine has 4096 bytes of memory behind 12-bit addresses. Address arithmetic comes around:
the cell after `0xFFF` is `0x000`. The program counter and the index register are 16 bits wide,
and `addressOf` names the cell that such a register refers to.
-/

namespace Chip8

/-- The address of a memory cell. -/
abbrev Address := BitVec 12

/-- The memory cells. -/
abbrev Memory := Table 12 Byte

/-- The cell that a 16-bit register refers to: the upper four bits are ignored. -/
def addressOf (register : BitVec 16) : Address :=
  register.setWidth 12

/-- The cell of a sum is the sum of the cells, around the end of the memory. -/
theorem addressOf_add (a b : BitVec 16) : addressOf (a + b) = addressOf a + addressOf b :=
  BitVec.setWidth_add a b (by decide)

theorem addressOf_ofNat (n : Nat) : addressOf (BitVec.ofNat 16 n) = BitVec.ofNat 12 n :=
  BitVec.setWidth_ofNat_of_le (by decide) n

namespace Memory

/-- The number of memory cells. -/
def size : Nat := 4096

/-- The memory of a new machine: the font, and zero everywhere else. -/
def initial : Memory :=
  (Table.replicate 12 0).write Font.start Font.glyphs

/-- The 16-bit word at an address, its high byte first. -/
def word (m : Memory) (a : Address) : BitVec 16 :=
  m.get a ++ m.get (a + 1#12)

end Memory

end Chip8
