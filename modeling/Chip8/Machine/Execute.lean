import Chip8.Instruction.Defined
import Chip8.Machine.Alu
import Chip8.Machine.Fault

/-!
# Executing an instruction

`Machine.perform` carries out one instruction and `Machine.execute` one word. Both expect the
program counter to be past the word already. An undefined word is counted and has no other effect.
-/

namespace Chip8

namespace Keypad

/-- The number of the lowest key that is down. -/
def lowest? (k : Keypad) : Option (BitVec 4) :=
  (Table.indices 4).find? k.get

end Keypad

namespace Machine

/-- Skips the next word if the condition holds. -/
def skipIf (m : Machine) (condition : Bool) : Machine :=
  if condition then { m with pc := m.pc + 2 } else m

/-- Whether the key is down whose number is in the low four bits of `VX`. -/
def keyDown (m : Machine) (x : Register) : Bool :=
  m.keypad.get ((m.v.get x).setWidth 4)

/-- The sprite of the given number of rows at `I`, with its corner at column `VX` and row `VY`. -/
def sprite (m : Machine) (x y : Register) (rows : BitVec 4) : Display :=
  Sprite.mask m.memory (addressOf m.index) ((m.v.get x).setWidth 6) ((m.v.get y).setWidth 5)
    rows.toNat

/-- The decimal digits of a byte: hundreds, tens and ones. -/
def decimalDigits (b : Byte) : List Byte :=
  [b / 100, b / 10 % 10, b % 10]

/-- The index register after the registers up to `VX` have been stored or loaded. -/
def indexPast (m : Machine) (x : Register) : BitVec 16 :=
  if m.profile.loadStoreIncrementsI then m.index + x.setWidth 16 + 1 else m.index

/-- Adds `VX` to `I`. -/
def performAddIndex (m : Machine) (x : Register) : Machine :=
  let moved := { m with index := m.index + (m.v.get x).setWidth 16 }
  if m.profile.indexOverflowFlag then
    moved.setFlag (decide (0xFFF < m.index.toNat + (m.v.get x).toNat))
  else
    moved

/-- Puts the lowest key that is down into `VX`, or starts to wait for one. -/
def performWaitKey (m : Machine) (x : Register) : Machine :=
  match m.keypad.lowest? with
  | some key => m.setRegister x (key.setWidth 8)
  | none => { m with awaitingKey := true, keyRegister := x.setWidth 8 }

/-- Toggles a sprite, with `VF` telling whether a lit pixel was hit. -/
def performDraw (m : Machine) (x y : Register) (rows : BitVec 4) : Machine :=
  let mask := m.sprite x y rows
  { m with display := m.display.toggle mask }.setFlag (m.display.overlaps mask)

/-- Calls the subroutine at an address. -/
def performCall (m : Machine) (target : Address) : Machine :=
  match m.stack.push? m.pc with
  | some stack => { m with stack := stack, pc := target.setWidth 16 }
  | none => m.halt .stackOverflow

/-- Goes back to the newest return address. -/
def performLeave (m : Machine) : Machine :=
  match m.stack.pop? with
  | some (address, stack) => { m with stack := stack, pc := address }
  | none => m.halt .stackUnderflow

/-- Carries out an instruction. -/
def perform (m : Machine) : Instruction → Machine
  | .clear => { m with display := Display.blank }
  | .leave => m.performLeave
  | .jump target => { m with pc := target.setWidth 16 }
  | .call target => m.performCall target
  | .skipIfValue x value => m.skipIf (m.v.get x == value)
  | .skipUnlessValue x value => m.skipIf (m.v.get x != value)
  | .skipIfSame x y => m.skipIf (m.v.get x == m.v.get y)
  | .setValue x value => m.setRegister x value
  | .addValue x value => m.setRegister x (m.v.get x + value)
  | .alu op x y => m.performAlu op x y
  | .skipUnlessSame x y => m.skipIf (m.v.get x != m.v.get y)
  | .setIndex target => { m with index := target.setWidth 16 }
  | .jumpOffset target => { m with pc := (target + (m.v.get 0).setWidth 12).setWidth 16 }
  | .random x mask => { m.setRegister x (m.rng.byte &&& mask) with rng := m.rng.next }
  | .draw x y rows => m.performDraw x y rows
  | .skipIfKey x => m.skipIf (m.keyDown x)
  | .skipUnlessKey x => m.skipIf (!m.keyDown x)
  | .getDelay x => m.setRegister x m.delayTimer
  | .waitKey x => m.performWaitKey x
  | .setDelay x => { m with delayTimer := m.v.get x }
  | .setSound x => { m with soundTimer := m.v.get x }
  | .addIndex x => m.performAddIndex x
  | .glyph x => { m with index := Font.address ((m.v.get x).setWidth 4) }
  | .storeDecimal x =>
    { m with memory := m.memory.write (addressOf m.index) (decimalDigits (m.v.get x)) }
  | .store x =>
    { m with
      memory := m.memory.write (addressOf m.index) (m.v.read 0 (x.toNat + 1))
      index := m.indexPast x }
  | .load x =>
    { m with
      v := m.v.write 0 (m.memory.read (addressOf m.index) (x.toNat + 1))
      index := m.indexPast x }

/-- Counts a word among the undefined ones if it is one of them. -/
def countUnknown (m : Machine) (w : Word) : Machine :=
  { m with decodeFailures := m.decodeFailures + (if w.isDefined then 0 else 1) }

/-- Executes a word. -/
def execute (m : Machine) (w : Word) : Machine :=
  match Instruction.ofWord? w with
  | some i => (m.countUnknown w).perform i
  | none => m.countUnknown w

end Machine

end Chip8
