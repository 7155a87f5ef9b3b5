import Chip8.CallStack
import Chip8.Profile
import Chip8.Random
import Chip8.Sprite
import Chip8.Word

/-!
# The machine

The whole state of a CHIP-8 machine, the machine that is switched on, and the reset button. A
reset forgets everything but what is in memory, which keys are down, the random key and the
profile.
-/

namespace Chip8

/-- The contents of the sixteen registers. -/
abbrev Registers := Table 4 Byte

/-- Which of the sixteen keys are down. -/
abbrev Keypad := Table 4 Bool

/-- The state of a machine. -/
structure Machine where
  /-- The memory cells. -/
  memory : Memory
  /-- The program counter. It refers to the next word to be fetched, modulo the memory's size. -/
  pc : BitVec 16
  /-- The index register `I`. -/
  index : BitVec 16
  /-- The display. -/
  display : Display
  /-- The return addresses of the calls in progress. -/
  stack : CallStack
  /-- The timer that programs read. -/
  delayTimer : Byte
  /-- The timer that keeps the buzzer on while it is not zero. -/
  soundTimer : Byte
  /-- The keys that are down. -/
  keypad : Keypad
  /-- The registers `V0` to `VF`. -/
  v : Registers
  /-- Whether the machine waits for a key and fetches nothing. -/
  awaitingKey : Bool
  /-- The register that the awaited key goes to. -/
  keyRegister : Byte
  /-- Zero, or the code of the fault that has stopped the machine. -/
  fault : Byte
  /-- The number of undefined words executed, modulo `2 ^ 32`. -/
  decodeFailures : BitVec 32
  /-- The key of the random bytes to come. -/
  rng : RandomKey
  /-- The compatibility profile. -/
  profile : Profile
deriving DecidableEq

/-- The address at which programs start. -/
def programStart : BitVec 16 := 0x200#16

/-- The register that instructions set as a flag. -/
def flagRegister : Register := 0xF#4

/-- The number of registers. -/
def registerCount : Nat := 16

/-- The number of keys. -/
def keyCount : Nat := 16

namespace Machine

/-- A machine that has just been switched on: the font is in memory and all else is zero. -/
def create (rng : RandomKey) (profile : Profile) : Machine where
  memory := Memory.initial
  pc := programStart
  index := 0
  display := Display.blank
  stack := CallStack.empty
  delayTimer := 0
  soundTimer := 0
  keypad := Table.replicate 4 false
  v := Table.replicate 4 0
  awaitingKey := false
  keyRegister := 0
  fault := 0
  decodeFailures := 0
  rng := rng
  profile := profile

/-- Starts the program in memory afresh. Memory, keypad, random key and profile stay. -/
def reset (m : Machine) : Machine :=
  { create m.rng m.profile with memory := m.memory, keypad := m.keypad }

end Machine

end Chip8
