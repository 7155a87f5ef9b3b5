import Chip8.Machine.Basic

/-!
# Timers

Both timers count down to zero sixty times a second, however fast the machine runs. The buzzer
sounds while the sound timer is not zero.
-/

namespace Chip8

/-- The number of ticks in a second. -/
def timerFrequency : Nat := 60

/-- A timer after a tick. At zero it stays. -/
def countDown (timer : Byte) : Byte :=
  if timer = 0 then 0 else timer - 1

namespace Machine

/-- Counts both timers down. -/
def tick (m : Machine) : Machine :=
  { m with delayTimer := countDown m.delayTimer, soundTimer := countDown m.soundTimer }

/-- Whether the buzzer sounds. -/
def soundActive (m : Machine) : Bool :=
  m.soundTimer != 0

/-- Whether the next tick silences the buzzer. -/
def soundStops (m : Machine) : Bool :=
  m.soundActive && !m.tick.soundActive

end Machine

end Chip8
