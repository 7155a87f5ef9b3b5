import Chip8.Machine.Execute

/-!
# Machine cycles

In one cycle a machine fetches the word that the program counter refers to and executes it. A
machine with a fault does nothing any more, and a machine that waits for a key only looks at the
keypad.
-/

namespace Chip8

namespace Machine

/-- The word that the program counter refers to. -/
def word (m : Machine) : Word :=
  (m.memory.word (addressOf m.pc)).setWidth 32

/-- Moves the program counter past the word that it refers to. -/
def advance (m : Machine) : Machine :=
  { m with pc := m.pc + 2 }

/-- Fetches a word: the word itself, and the machine past it. -/
def fetch (m : Machine) : Word × Machine :=
  (m.word, m.advance)

/-- Ends the wait for a key if one is down. -/
def pollKeypad (m : Machine) : Machine :=
  match m.keypad.lowest? with
  | some key =>
    { m.setRegister (m.keyRegister.setWidth 4) (key.setWidth 8) with awaitingKey := false }
  | none => m

/-- Runs one cycle. -/
def step (m : Machine) : Machine :=
  if m.fault ≠ 0 then m
  else if m.awaitingKey then m.pollKeypad
  else m.advance.execute m.word

/-- Runs a number of cycles. The timers stand still. -/
def run (m : Machine) : Nat → Machine
  | 0 => m
  | n + 1 => m.step.run n

/-- The word that the next cycle executes, if it executes one. -/
def executed? (m : Machine) : Option Word :=
  if m.fault ≠ 0 ∨ m.awaitingKey then none else some m.word

end Machine

end Chip8
