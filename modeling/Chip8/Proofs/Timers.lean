import Chip8.Proofs.History

/-!
# Ticks of the timers

A tick counts both timers down by one, and at zero they stay. `Machine.ticked` is a machine whose
timers are a number of ticks ahead. The ticks of a history are counted by `tickCount`.

* `countDown_eq`: a tick takes one off.
* `Machine.afterAll_ticks`: ticks alone put the timers ahead by their number.
-/

namespace Chip8

/-- Whether an event is a tick of the timers. -/
def Event.isTick : Event → Bool
  | tick => true
  | _ => false

theorem Event.isTick_eq_false {e : Event} (h : e ≠ .tick) : e.isTick = false := by
  cases e with
  | tick => exact absurd rfl h
  | _ => rfl

/-- The number of ticks in a history. -/
def tickCount (es : List Event) : Nat :=
  es.countP Event.isTick

/-- A timer counts down by one and stays at zero. -/
theorem countDown_eq (timer : Byte) : countDown timer = BitVec.ofNat 8 (timer.toNat - 1) := by
  revert timer
  decide

/-- What a timer shows after a tick, as a number. -/
theorem toNat_countDown (timer : Byte) : (countDown timer).toNat = timer.toNat - 1 := by
  have hlt : timer.toNat < 2 ^ 8 := timer.isLt
  rw [countDown_eq, BitVec.toNat_ofNat, Nat.mod_eq_of_lt (by omega)]

/-- Counting down once more is one less than counting down before. -/
theorem ofNat_countDown_sub (timer : Byte) (ticks : Nat) :
    BitVec.ofNat 8 ((countDown timer).toNat - ticks) =
      BitVec.ofNat 8 (timer.toNat - (ticks + 1)) := by
  rw [toNat_countDown, Nat.sub_sub, Nat.add_comm]

/-- The ticks of two histories in a row add up. -/
theorem tickCount_append (es fs : List Event) :
    tickCount (es ++ fs) = tickCount es + tickCount fs :=
  List.countP_append

namespace Machine

/-- The machine with its timers a number of ticks ahead. -/
def ticked (m : Machine) (ticks : Nat) : Machine :=
  { m with
    delayTimer := BitVec.ofNat 8 (m.delayTimer.toNat - ticks)
    soundTimer := BitVec.ofNat 8 (m.soundTimer.toNat - ticks) }

@[simp]
theorem ticked_zero (m : Machine) : m.ticked 0 = m := by
  simp only [ticked, Nat.sub_zero, BitVec.ofNat_toNat, BitVec.setWidth_eq]

/-- A tick puts the timers ahead by one more. -/
theorem ticked_tick (m : Machine) (ticks : Nat) : m.tick.ticked ticks = m.ticked (ticks + 1) := by
  simp only [ticked, tick, ofNat_countDown_sub]

/-- To be ahead twice is to be ahead by both numbers together. -/
theorem ticked_ticked (m : Machine) (first second : Nat) :
    (m.ticked first).ticked second = m.ticked (first + second) := by
  induction first generalizing m with
  | zero => rw [ticked_zero, Nat.zero_add]
  | succ first ih => rw [← ticked_tick, ih, ticked_tick, Nat.add_right_comm]

/-- Ticks alone put the timers ahead by their number. -/
theorem afterAll_ticks (m : Machine) (ticks : Nat) :
    m.afterAll (List.replicate ticks .tick) = m.ticked ticks := by
  induction ticks generalizing m with
  | zero => exact (ticked_zero m).symm
  | succ ticks ih => rw [List.replicate_succ, afterAll_cons, after, ih, ticked_tick]

end Machine

end Chip8
