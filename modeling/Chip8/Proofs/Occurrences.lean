import Chip8.Proofs.Effects
import Chip8.Proofs.Peripherals

/-!
# The events of a history, each with its machine

An `Occurrence` is an event together with the machine that it happens to, and
`Machine.occurrences` lists those of a history. What a history draws, counts or writes is read off
that list.

An event carries out at most one instruction (`Occurrence.instruction?`), which a cycle has fetched
or which is handed over as a word. What it does then is what the instruction does
(`Occurrence.result_of_instruction?`). An event that carries out none, and is neither a tick nor a
reset, leaves alone what only instructions change (`Occurrence.result_of_instruction?_eq_none`).
-/

namespace Chip8

/-- An event of a history. -/
structure Occurrence where
  /-- The machine that it happens to. -/
  machine : Machine
  /-- What happens. -/
  event : Event

namespace Occurrence

/-- The machine after the event. -/
def result (o : Occurrence) : Machine :=
  o.machine.after o.event

/-- The instruction that the event carries out, if it carries one out. -/
def instruction? (o : Occurrence) : Option Instruction :=
  match o.event with
  | .step => o.machine.instruction?
  | .execute w => Instruction.ofWord? w
  | _ => none

end Occurrence

namespace Machine

/-- The events of a history, each with the machine that it happens to. -/
def occurrences (m : Machine) : List Event → List Occurrence
  | [] => []
  | e :: es => ⟨m, e⟩ :: (m.after e).occurrences es

variable {m : Machine}

theorem occurrences_append (m : Machine) (es fs : List Event) :
    m.occurrences (es ++ fs) = m.occurrences es ++ (m.afterAll es).occurrences fs := by
  induction es generalizing m with
  | nil => rfl
  | cons e es ih =>
    rw [List.cons_append, occurrences, ih, occurrences, List.cons_append, afterAll_cons]

/-- A cycle that carries out no instruction moves at most past an undefined word and counts it, or
puts a key that is down into the register that waits. -/
theorem step_of_instruction?_eq_none (h : m.instruction? = none) :
    m.step =
      { m with
        pc := m.step.pc
        v := m.step.v
        awaitingKey := m.step.awaitingKey
        decodeFailures := m.step.decodeFailures } := by
  rcases step_cases m with ⟨-, hstep⟩ | ⟨-, -, hstep⟩ | ⟨i, hi, -⟩ | ⟨-, -, -, hstep⟩
  · rw [hstep]
  · rw [hstep, pollKeypad_eq]
  · rw [h] at hi
    cases hi
  · rw [hstep]
    rfl

/-- A load changes the memory and nothing else. -/
theorem after_load (m : Machine) (offset : Int) (bytes : List Byte) :
    m.after (.load offset bytes) =
      { m with memory := (m.after (.load offset bytes)).memory } := by
  -- a load that is refused changes nothing at all
  simp only [after, load]
  split
  · rfl
  · split <;> rfl

end Machine

namespace Occurrence

variable {o : Occurrence} {i : Instruction}

/-- An event that carries out an instruction does what the instruction does, with the program
counter past the word already if the word has been fetched. -/
theorem result_of_instruction? (h : o.instruction? = some i) :
    ∃ pc, o.result = { o.machine with pc := pc }.perform i := by
  obtain ⟨m, e⟩ := o
  cases e with
  | step => exact ⟨m.pc + 2, Machine.step_of_instruction? h⟩
  | execute w => exact ⟨m.pc, Machine.execute_of_ofWord? h⟩
  | _ => cases h

/-- A tick carries out no instruction. -/
theorem event_ne_tick_of_instruction? (h : o.instruction? = some i) : o.event ≠ .tick := by
  obtain ⟨m, e⟩ := o
  rintro rfl
  cases h

/-- What an event may change that carries out no instruction and is neither a tick nor a reset. -/
theorem result_of_instruction?_eq_none (h : o.instruction? = none) (htick : o.event ≠ .tick)
    (hreset : o.event ≠ .reset) :
    o.result =
      { o.machine with
        memory := o.result.memory
        pc := o.result.pc
        keypad := o.result.keypad
        v := o.result.v
        awaitingKey := o.result.awaitingKey
        decodeFailures := o.result.decodeFailures } := by
  obtain ⟨m, e⟩ := o
  -- a cycle without an instruction stands still, polls or counts
  cases e with
  | step =>
    have hstep := Machine.step_of_instruction?_eq_none h
    rw [result, Machine.after, hstep]
  | execute w =>
    rw [result, Machine.after, Machine.execute_of_ofWord?_eq_none h]
  | tick => exact absurd rfl htick
  | reset => exact absurd rfl hreset
  | load offset bytes => rw [result, Machine.after_load]
  | setKey _ _ | setKeypad _ | releaseAll =>
    rw [result, Machine.after_of_isPeripheral m rfl htick]

/-- Of the events that carry out no instruction only a load changes the memory. -/
theorem memory_result_of_instruction?_eq_none (hi : o.instruction? = none)
    (hload : ∀ offset bytes, o.event ≠ .load offset bytes) :
    o.result.memory = o.machine.memory := by
  obtain ⟨m, e⟩ := o
  cases e with
  | step =>
    have hstep := Machine.step_of_instruction?_eq_none hi
    rw [result, Machine.after, hstep]
  | execute w => rw [result, Machine.after, Machine.execute_of_ofWord?_eq_none hi]
  | tick | reset => rfl
  | load offset bytes => exact absurd rfl (hload offset bytes)
  | setKey _ _ | setKeypad _ | releaseAll =>
    rw [result, Machine.after_of_isPeripheral m rfl (by simp)]

end Occurrence

end Chip8
