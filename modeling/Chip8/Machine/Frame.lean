import Chip8.Machine.Cycle
import Chip8.Machine.Timers
import Chip8.Progress

/-!
# Frames

A frame is a number of cycles followed by one tick of the timers. Frames can be run with a progress
bar beside them, which does not change what they do.
-/

namespace Chip8

/-- The number of cycles that a machine runs in a second unless another is asked for. -/
def instructionFrequency : Nat := 700

/-- The number of cycles in a frame unless another is asked for. -/
def cyclesPerFrame : Nat := instructionFrequency / timerFrequency

/-- What a frame leaves behind for whoever watches the machine. -/
structure Frame where
  /-- The display at the end of the frame. -/
  display : Display
  /-- Whether the buzzer fell silent at the end of the frame. -/
  soundStopped : Bool
deriving DecidableEq

namespace Machine

/-- Runs one frame: the frame, and the machine after it. -/
def runFrame (m : Machine) (cycles : Nat) : Frame × Machine :=
  let ran := m.run cycles
  (⟨ran.tick.display, ran.soundStops⟩, ran.tick)

/-- Runs a number of frames: all of them in order, and the machine after the last. -/
def runFrames (m : Machine) (cycles : Nat) : Nat → List Frame × Machine
  | 0 => ([], m)
  | count + 1 =>
    let (frame, after) := m.runFrame cycles
    let (frames, last) := after.runFrames cycles count
    (frame :: frames, last)

/-- Runs a number of frames beside a progress bar: the events, the frames, and the machine after
the last. -/
def runFramesTracked (m : Machine) (cycles count : Nat) :
    Except Progress.Error (Array Progress.Event × List Frame × Machine) := do
  let plan := Progress.Plan.create count none none
  let body := fun (state : Machine) (_ : Progress.Index) =>
    let (frame, after) := state.runFrame cycles
    (after, frame)
  let indices := (List.range count).map (BitVec.ofNat 32)
  let (tracked, frames) ← plan.scan body (Progress.Tracked.start m) indices
  pure (tracked.events, frames, tracked.state)

end Machine

end Chip8
