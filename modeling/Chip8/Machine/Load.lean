import Chip8.Machine.Basic
import Chip8.Text.Hex

/-!
# Loading programs

Bytes are loaded into memory at an offset, all of them or none: they never come around the end.
-/

namespace Chip8

/-- The reasons to refuse a load. -/
inductive LoadError where
  /-- The offset lies outside the memory. -/
  | offsetOutside (offset : Int)
  /-- The bytes would reach past the end of the memory. -/
  | tooLong (size : Nat) (offset : Int)
deriving DecidableEq, Repr

namespace LoadError

/-- The wording of the error. -/
def message : LoadError → String
  | offsetOutside offset =>
    s!"Offset 0x{Text.Hex.ofInt 1 offset} is outside the {Memory.size}-byte memory"
  | tooLong size offset =>
    s!"{size} bytes at 0x{Text.Hex.ofInt 1 offset} do not fit in {Memory.size} bytes of memory"

end LoadError

namespace Machine

/-- Writes bytes into memory from an offset on. The offset may be the end of the memory if there
is nothing to write. -/
def load (m : Machine) (offset : Int) (bytes : List Byte) : Except LoadError Machine :=
  if offset < 0 ∨ Memory.size < offset then
    .error (.offsetOutside offset)
  else if Memory.size < offset + bytes.length then
    .error (.tooLong bytes.length offset)
  else
    .ok { m with memory := m.memory.write (BitVec.ofInt 12 offset) bytes }

/-- Writes a program into memory at the address where programs start. -/
def loadProgram (m : Machine) (bytes : List Byte) : Except LoadError Machine :=
  m.load programStart.toNat bytes

end Machine

end Chip8
