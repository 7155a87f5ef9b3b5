import Chip8.Instruction.Basic
import Chip8.Machine.Basic

/-!
# Arithmetic and logic

What an operation of the family `8` computes from the contents of `VX` and `VY`, and how result
and flag reach the registers. The flag is written after the result, so it wins when `X` is `F`.
-/

namespace Chip8

/-- The outcome of an operation: a new content of `VX`, and one of `VF` if the operation sets it. -/
structure AluResult where
  /-- The new content of `VX`. -/
  value : Byte
  /-- The flag, if the operation sets one. -/
  flag : Option Bool
deriving DecidableEq, Repr

/-- The content of a register that holds a flag. -/
def flagByte (flag : Bool) : Byte :=
  if flag then 1 else 0

namespace AluOp

/-- The operand of a shift. -/
def shiftOperand (p : Profile) (vx vy : Byte) : Byte :=
  if p.shiftUsesVy then vy else vx

/-- The flag of a logical operation: clear if the profile asks for it, else none. -/
def logicFlag (p : Profile) : Option Bool :=
  if p.logicResetsVf then some false else none

/-- The outcome of an operation on the contents of `VX` and `VY`. -/
def result (p : Profile) (vx vy : Byte) : AluOp → AluResult
  | .set => ⟨vy, none⟩
  | .or => ⟨vx ||| vy, logicFlag p⟩
  | .and => ⟨vx &&& vy, logicFlag p⟩
  | .xor => ⟨vx ^^^ vy, logicFlag p⟩
  | .add => ⟨vx + vy, some (decide (255 < vx.toNat + vy.toNat))⟩
  | .sub => ⟨vx - vy, some (decide (vy ≤ vx))⟩
  | .shiftRight => ⟨shiftOperand p vx vy >>> 1, some ((shiftOperand p vx vy).getLsbD 0)⟩
  | .subFrom => ⟨vy - vx, some (decide (vx ≤ vy))⟩
  | .shiftLeft => ⟨shiftOperand p vx vy <<< 1, some (shiftOperand p vx vy).msb⟩

end AluOp

namespace Machine

/-- Writes a register. -/
def setRegister (m : Machine) (x : Register) (value : Byte) : Machine :=
  { m with v := m.v.set x value }

/-- Writes the flag register. -/
def setFlag (m : Machine) (flag : Bool) : Machine :=
  m.setRegister flagRegister (flagByte flag)

/-- Carries out an operation of the family `8`. -/
def performAlu (m : Machine) (op : AluOp) (x y : Register) : Machine :=
  let r := op.result m.profile (m.v.get x) (m.v.get y)
  match r.flag with
  | none => m.setRegister x r.value
  | some flag => (m.setRegister x r.value).setFlag flag

end Machine

end Chip8
