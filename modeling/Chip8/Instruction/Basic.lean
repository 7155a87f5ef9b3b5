import Chip8.Word

/-!
# Instructions

The instructions of the machine, and the instruction that a word stands for. Words of the family
`0` stand for an instruction only if they are exactly `00E0` or `00EE`; in every other family the
low 16 bits decide.
-/

namespace Chip8

/-- The operations of the family `8`, on the contents of `VX` and `VY`. -/
inductive AluOp where
  /-- `8XY0`: `VX` becomes `VY`. -/
  | set
  /-- `8XY1`: bitwise or. -/
  | or
  /-- `8XY2`: bitwise and. -/
  | and
  /-- `8XY3`: bitwise exclusive or. -/
  | xor
  /-- `8XY4`: sum, with the carry as flag. -/
  | add
  /-- `8XY5`: `VX` minus `VY`, with the absence of a borrow as flag. -/
  | sub
  /-- `8XY6`: half, with the bit shifted out as flag. -/
  | shiftRight
  /-- `8XY7`: `VY` minus `VX`, with the absence of a borrow as flag. -/
  | subFrom
  /-- `8XYE`: double, with the bit shifted out as flag. -/
  | shiftLeft
deriving DecidableEq, Repr

/-- The instructions of the machine. -/
inductive Instruction where
  /-- `00E0`: every pixel becomes dark. -/
  | clear
  /-- `00EE`: goes back to the newest return address. -/
  | leave
  /-- `1NNN`: goes to `NNN`. -/
  | jump (target : Address)
  /-- `2NNN`: goes to `NNN` and keeps the return address. -/
  | call (target : Address)
  /-- `3XNN`: skips the next word if `VX` is `NN`. -/
  | skipIfValue (x : Register) (value : Byte)
  /-- `4XNN`: skips the next word if `VX` is not `NN`. -/
  | skipUnlessValue (x : Register) (value : Byte)
  /-- `5XY0`: skips the next word if `VX` is `VY`. -/
  | skipIfSame (x y : Register)
  /-- `6XNN`: `VX` becomes `NN`. -/
  | setValue (x : Register) (value : Byte)
  /-- `7XNN`: adds `NN` to `VX` and sets no flag. -/
  | addValue (x : Register) (value : Byte)
  /-- `8XYN`: an operation on `VX` and `VY`. -/
  | alu (op : AluOp) (x y : Register)
  /-- `9XY0`: skips the next word if `VX` is not `VY`. -/
  | skipUnlessSame (x y : Register)
  /-- `ANNN`: `I` becomes `NNN`. -/
  | setIndex (target : Address)
  /-- `BNNN`: goes to `NNN` plus `V0`. -/
  | jumpOffset (target : Address)
  /-- `CXNN`: `VX` becomes a random byte masked by `NN`. -/
  | random (x : Register) (mask : Byte)
  /-- `DXYN`: toggles the sprite of `N` rows at `I`, with its corner at column `VX` and row `VY`. -/
  | draw (x y : Register) (height : BitVec 4)
  /-- `EX9E`: skips the next word if the key numbered by `VX` is down. -/
  | skipIfKey (x : Register)
  /-- `EXA1`: skips the next word if the key numbered by `VX` is up. -/
  | skipUnlessKey (x : Register)
  /-- `FX07`: `VX` becomes the delay timer. -/
  | getDelay (x : Register)
  /-- `FX0A`: waits for a key and puts its number into `VX`. -/
  | waitKey (x : Register)
  /-- `FX15`: the delay timer becomes `VX`. -/
  | setDelay (x : Register)
  /-- `FX18`: the sound timer becomes `VX`. -/
  | setSound (x : Register)
  /-- `FX1E`: adds `VX` to `I`. -/
  | addIndex (x : Register)
  /-- `FX29`: `I` becomes the address of the glyph of the low digit of `VX`. -/
  | glyph (x : Register)
  /-- `FX33`: writes the three decimal digits of `VX` at `I`. -/
  | storeDecimal (x : Register)
  /-- `FX55`: writes `V0` to `VX` at `I`. -/
  | store (x : Register)
  /-- `FX65`: reads `V0` to `VX` at `I`. -/
  | load (x : Register)
deriving DecidableEq, Repr

/-- The operation of the family `8` that a low nibble names. -/
def AluOp.ofNibble? (n : BitVec 4) : Option AluOp :=
  match n with
  | 0x0#4 => some .set
  | 0x1#4 => some .or
  | 0x2#4 => some .and
  | 0x3#4 => some .xor
  | 0x4#4 => some .add
  | 0x5#4 => some .sub
  | 0x6#4 => some .shiftRight
  | 0x7#4 => some .subFrom
  | 0xE#4 => some .shiftLeft
  | _ => none

namespace Instruction

/-- The instruction of the family `0`. -/
def ofSystem? (f : Fields) : Option Instruction :=
  if f.raw = 0x00E0#32 then some .clear
  else if f.raw = 0x00EE#32 then some .leave
  else none

/-- The instruction of the family `E` with a given low byte. -/
def ofKey? (f : Fields) : Option Instruction :=
  match f.nn with
  | 0x9E#8 => some (.skipIfKey f.x)
  | 0xA1#8 => some (.skipUnlessKey f.x)
  | _ => none

/-- The instruction of the family `F` with a given low byte. -/
def ofMisc? (f : Fields) : Option Instruction :=
  match f.nn with
  | 0x07#8 => some (.getDelay f.x)
  | 0x0A#8 => some (.waitKey f.x)
  | 0x15#8 => some (.setDelay f.x)
  | 0x18#8 => some (.setSound f.x)
  | 0x1E#8 => some (.addIndex f.x)
  | 0x29#8 => some (.glyph f.x)
  | 0x33#8 => some (.storeDecimal f.x)
  | 0x55#8 => some (.store f.x)
  | 0x65#8 => some (.load f.x)
  | _ => none

/-- The instruction that a word with these fields stands for, if any. -/
def ofFields? (f : Fields) : Option Instruction :=
  match f.opcode with
  | 0x0#4 => ofSystem? f
  | 0x1#4 => some (.jump f.nnn)
  | 0x2#4 => some (.call f.nnn)
  | 0x3#4 => some (.skipIfValue f.x f.nn)
  | 0x4#4 => some (.skipUnlessValue f.x f.nn)
  | 0x5#4 => if f.n = 0#4 then some (.skipIfSame f.x f.y) else none
  | 0x6#4 => some (.setValue f.x f.nn)
  | 0x7#4 => some (.addValue f.x f.nn)
  | 0x8#4 => (AluOp.ofNibble? f.n).map fun op => .alu op f.x f.y
  | 0x9#4 => if f.n = 0#4 then some (.skipUnlessSame f.x f.y) else none
  | 0xA#4 => some (.setIndex f.nnn)
  | 0xB#4 => some (.jumpOffset f.nnn)
  | 0xC#4 => some (.random f.x f.nn)
  | 0xD#4 => some (.draw f.x f.y f.n)
  | 0xE#4 => ofKey? f
  | _ => ofMisc? f

/-- The instruction that a word stands for, if any. -/
def ofWord? (w : Word) : Option Instruction :=
  ofFields? (Fields.ofWord w)

end Instruction

end Chip8
