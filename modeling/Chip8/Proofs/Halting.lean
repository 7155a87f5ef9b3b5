import Chip8.Proofs.Invariant
import Chip8.Proofs.Timers

/-!
# Faults stop a machine for good

A cycle of a machine without a fault ends with one exactly if it executes a call with all slots of
the call stack in use, or a return with none in use. Such a cycle has moved the program counter and
looked up the word before it fails, and takes both back: nothing but the fault is left of it. From
then on cycles do nothing, and a frame only lets the timers count down.

* `Machine.step_of_overflow`, `Machine.step_of_underflow`: what a failing cycle leaves behind.
* `Machine.fault_step_cases`: which cycles fail.
* `Machine.run_of_fault`, `Machine.runFrames_of_fault`: what a stopped machine does.
* `Machine.fault_precise_and_absorbing`: all of these together.
-/

namespace Chip8

namespace Machine

open CallStack

variable {m : Machine}

/-! ## The cycle that fails -/

/-- A call with no free slot leaves nothing behind but the fault. -/
theorem step_of_overflow {target : Address}
    (hcall : m.executed? = some (Instruction.call target).word) (hfull : capacity ≤ m.stack.depth) :
    m.step = { m with fault := 1 } := by
  -- the push is tried after the program counter has moved, and fails for the same depth
  have hpush : m.advance.stack.push? m.advance.pc = none := push?_eq_none_iff.2 hfull
  rw [step_of_instruction? (instruction?_eq_some_iff.2 hcall), perform,
    performCall_of_push?_eq_none hpush, halt_advance, Fault.code]

/-- A return with no slot in use leaves nothing behind but the fault. -/
theorem step_of_underflow (hleave : m.executed? = some Instruction.leave.word)
    (hempty : m.stack.depth = 0) : m.step = { m with fault := 2 } := by
  have hpop : m.advance.stack.pop? = none := pop?_eq_none_iff.2 hempty
  rw [step_of_instruction? (instruction?_eq_some_iff.2 hleave), perform,
    performLeave_of_pop?_eq_none hpop, halt_advance, Fault.code]

/-- A cycle of a machine without a fault ends without one, unless it executes a call with no free
slot or a return with no slot in use. -/
theorem fault_step_cases (hfault : m.fault = 0) :
    m.step.fault = 0 ∨
      (m.step.fault = 1 ∧ (∃ target, m.executed? = some (Instruction.call target).word) ∧
        capacity ≤ m.stack.depth) ∨
      (m.step.fault = 2 ∧ m.executed? = some Instruction.leave.word ∧ m.stack.depth = 0) := by
  have heffect := stackEffect_step m
  generalize m.step = n at heffect ⊢
  cases heffect with
  | call | leave => exact .inl hfault
  | overflow hcall hpush =>
    exact .inr (.inl ⟨rfl, ⟨_, hcall⟩, push?_eq_none_iff.1 hpush⟩)
  | underflow hleave hpop => exact .inr (.inr ⟨rfl, hleave, pop?_eq_none_iff.1 hpop⟩)
  | none _ _ _ hsame => exact .inl (hsame.trans hfault)

/-- A cycle overflows exactly if it executes a call with all slots in use. -/
theorem fault_step_eq_one_iff (hfault : m.fault = 0) :
    m.step.fault = 1 ↔
      (∃ target, m.executed? = some (Instruction.call target).word) ∧ capacity ≤ m.stack.depth := by
  constructor
  · intro hone
    rcases fault_step_cases hfault with hzero | ⟨-, hoverflow⟩ | ⟨htwo, -⟩
    · rw [hone] at hzero
      cases hzero
    · exact hoverflow
    · rw [hone] at htwo
      cases htwo
  · rintro ⟨⟨target, hcall⟩, hfull⟩
    rw [step_of_overflow hcall hfull]

/-- A cycle underflows exactly if it executes a return with no slot in use. -/
theorem fault_step_eq_two_iff (hfault : m.fault = 0) :
    m.step.fault = 2 ↔ m.executed? = some Instruction.leave.word ∧ m.stack.depth = 0 := by
  constructor
  · intro htwo
    rcases fault_step_cases hfault with hzero | ⟨hone, -⟩ | ⟨-, hunderflow⟩
    · rw [htwo] at hzero
      cases hzero
    · rw [htwo] at hone
      cases hone
    · exact hunderflow
  · rintro ⟨hleave, hempty⟩
    rw [step_of_underflow hleave hempty]

/-- No fault comes from a cycle that waits for a key. -/
theorem fault_step_of_awaitingKey (hawait : m.awaitingKey = true) : m.step.fault = m.fault := by
  by_cases hfault : m.fault = 0
  · rw [step_of_awaitingKey hfault hawait, pollKeypad_eq]
  · rw [step_of_fault hfault]

/-! ## A stopped machine -/

/-- A machine that has stopped stands still for ever. -/
theorem run_of_fault (h : m.fault ≠ 0) (cycles : Nat) : m.run cycles = m := by
  induction cycles with
  | zero => rfl
  | succ cycles ih => rw [run, step_of_fault h, ih]

/-- In a frame of a machine that has stopped only the timers go on. -/
theorem runFrame_of_fault (h : m.fault ≠ 0) (cycles : Nat) :
    m.runFrame cycles = (⟨m.display, m.soundStops⟩, m.tick) := by
  rw [runFrame, run_of_fault h]
  rfl

/-- Frames of a stopped machine let its timers count down and do nothing else. -/
theorem runFrames_of_fault (h : m.fault ≠ 0) (cycles count : Nat) :
    (m.runFrames cycles count).2 =
        { m with
          delayTimer := BitVec.ofNat 8 (m.delayTimer.toNat - count)
          soundTimer := BitVec.ofNat 8 (m.soundTimer.toNat - count) } ∧
      (m.runFrames cycles count).1.map Frame.display = List.replicate count m.display := by
  induction count generalizing m with
  | zero =>
    refine ⟨?_, rfl⟩
    simp only [runFrames, Nat.sub_zero, BitVec.ofNat_toNat, BitVec.setWidth_eq]
  | succ count ih =>
    -- a tick keeps the fault, so what is known of fewer frames holds after the first
    have hrest := ih (m := m.tick) h
    rw [runFrames, runFrame_of_fault h]
    refine ⟨?_, ?_⟩
    · rw [hrest.1]
      simp only [tick, ofNat_countDown_sub]
    · rw [List.map_cons, hrest.2, List.replicate_succ]
      rfl

theorem checkFault_of_fault_eq_one (h : m.fault = 1) :
    m.checkFault = .error (.stopped .stackOverflow m.pc) := by
  rw [checkFault, h]
  rfl

theorem checkFault_of_fault_eq_two (h : m.fault = 2) :
    m.checkFault = .error (.stopped .stackUnderflow m.pc) := by
  rw [checkFault, h]
  rfl

/-- Faults are precise: a cycle of a running machine ends with a fault exactly if it executes a
call with all slots in use or a return with none in use, and changes nothing else then. Faults
are absorbing: cycles of a stopped machine do nothing, frames change the timers alone and
show the same display, and the machine tells its fault and where it stopped. -/
theorem fault_precise_and_absorbing (m : Machine) :
    (m.Reachable → m.fault = 0 → m.awaitingKey = false →
        (m.step.fault = 1 ↔
          (∃ target, m.word = (Instruction.call target).word) ∧ m.stack.depth = 16) ∧
        (m.step.fault = 2 ↔ m.word = Instruction.leave.word ∧ m.stack.depth = 0) ∧
        (m.step.fault ≠ 0 ↔ m.step.fault = 1 ∨ m.step.fault = 2) ∧
        (m.step.fault ≠ 0 → m.step = { m with fault := m.step.fault })) ∧
      (m.awaitingKey = true → m.step.fault = m.fault) ∧
      (m.fault ≠ 0 →
        (∀ cycles, m.run cycles = m) ∧
        (∀ cycles count,
          (m.runFrames cycles count).2 =
              { m with
                delayTimer := BitVec.ofNat 8 (m.delayTimer.toNat - count)
                soundTimer := BitVec.ofNat 8 (m.soundTimer.toNat - count) } ∧
            (m.runFrames cycles count).1.map Frame.display = List.replicate count m.display) ∧
        (m.fault = 1 → m.checkFault = .error (.stopped .stackOverflow m.pc)) ∧
        (m.fault = 2 → m.checkFault = .error (.stopped .stackUnderflow m.pc)) ∧
        (m.Reachable → m.fault = 1 ∨ m.fault = 2)) := by
  refine ⟨?_, fault_step_of_awaitingKey, ?_⟩
  · intro hreach hfault hawait
    have hdepth : m.stack.depth ≤ capacity := hreach.consistent.stack.depth_le
    have hexecuted (w : Word) : m.executed? = some w ↔ m.word = w := by
      rw [executed?_eq_some_iff]
      exact ⟨fun h => h.2.2, fun h => ⟨hfault, hawait, h⟩⟩
    -- a reachable call stack is never deeper than its slots, so "no free slot" means exactly 16
    have hfull : capacity ≤ m.stack.depth ↔ m.stack.depth = 16 :=
      ⟨fun h => Nat.le_antisymm hdepth h, fun h => Nat.le_of_eq h.symm⟩
    have hcodes : m.step.fault ≠ 0 ↔ m.step.fault = 1 ∨ m.step.fault = 2 := by
      constructor
      · intro hne
        rcases fault_step_cases hfault with hzero | ⟨hone, -⟩ | ⟨htwo, -⟩
        · exact absurd hzero hne
        · exact .inl hone
        · exact .inr htwo
      · rintro (hone | htwo)
        · rw [hone]
          decide
        · rw [htwo]
          decide
    refine ⟨?_, ?_, hcodes, ?_⟩
    · rw [fault_step_eq_one_iff hfault, hfull]
      simp only [hexecuted]
    · rw [fault_step_eq_two_iff hfault, hexecuted]
    · intro hne
      rcases hcodes.1 hne with hone | htwo
      · obtain ⟨⟨target, hcall⟩, hfull⟩ := (fault_step_eq_one_iff hfault).1 hone
        rw [step_of_overflow hcall hfull]
      · obtain ⟨hleave, hempty⟩ := (fault_step_eq_two_iff hfault).1 htwo
        rw [step_of_underflow hleave hempty]
  · intro hfault
    refine ⟨run_of_fault hfault, runFrames_of_fault hfault, checkFault_of_fault_eq_one,
      checkFault_of_fault_eq_two, ?_⟩
    intro hreach
    exact hreach.consistent.fault_eq.resolve_left hfault

end Machine

end Chip8
