import Chip8.Machine.Cycle
import Chip8.Proofs.Encoding

/-!
# What executing a word changes

Executing a word either carries out one instruction or counts the word as undefined
(`Machine.execute_of_ofWord?`, `Machine.execute_of_ofWord?_eq_none`). An instruction that takes a
decision on its way is written here as a single update of the machine, so that each field after it
can be read off: `Machine.skipIf_eq`, `Machine.performAlu_eq`, `Machine.performAddIndex_eq`,
`Machine.performWaitKey_eq`, `Machine.performCall_eq`, `Machine.performLeave_eq`.

`Machine.instruction?` is the instruction that the next cycle carries out, if it carries one out
(`Machine.step_of_instruction?`).

`Machine.StackEffect` lists all that a cycle can do to the call stack and to the fault, and
`Machine.stackEffect_step` says that the list is complete.
-/

namespace Chip8

/-- The registers after the outcome of an operation has been written, the flag last. -/
def AluResult.store (r : AluResult) (v : Registers) (x : Register) : Registers :=
  match r.flag with
  | none => v.set x r.value
  | some flag => (v.set x r.value).set flagRegister (flagByte flag)

/-- Whether an instruction works on the call stack. -/
def Instruction.usesStack : Instruction → Bool
  | call _ | leave => true
  | _ => false

namespace Machine

variable {m : Machine} {w : Word} {i : Instruction}

/-! ## Words -/

theorem countUnknown_of_isDefined (h : w.isDefined = true) : m.countUnknown w = m := by
  simp [countUnknown, h]

/-- A word that stands for an instruction has it carried out, and nothing else. -/
theorem execute_of_ofWord? (h : Instruction.ofWord? w = some i) : m.execute w = m.perform i := by
  have hdefined : w.isDefined = true := by
    rw [Word.isDefined_eq_isSome_ofWord?, h]
    rfl
  simp only [execute, h, countUnknown_of_isDefined hdefined]

/-- A word that stands for no instruction is counted, and nothing else. -/
theorem execute_of_ofWord?_eq_none (h : Instruction.ofWord? w = none) :
    m.execute w = { m with decodeFailures := m.decodeFailures + 1 } := by
  have hundefined : w.isDefined = false := by
    rw [Word.isDefined_eq_isSome_ofWord?, h]
    rfl
  simp [execute, h, countUnknown, hundefined]

/-- The word of an instruction is executed by performing that instruction. -/
@[simp]
theorem execute_word (m : Machine) (i : Instruction) : m.execute i.word = m.perform i :=
  execute_of_ofWord? (Instruction.ofWord?_word i)

/-- The word that the program counter refers to stands for an instruction exactly if it is the
word written for it. -/
theorem ofWord?_word_eq_some_iff : Instruction.ofWord? m.word = some i ↔ m.word = i.word :=
  Instruction.ofWord?_setWidth_eq_some_iff

/-- A cycle executes the word at the program counter, if the machine has neither stopped nor waits
for a key. -/
theorem executed?_eq_some_iff :
    m.executed? = some w ↔ m.fault = 0 ∧ m.awaitingKey = false ∧ m.word = w := by
  by_cases hfault : m.fault = 0 <;> cases hawait : m.awaitingKey <;>
    simp [executed?, hfault, hawait]

/-! ## Cycles -/

theorem step_of_fault (h : m.fault ≠ 0) : m.step = m := by
  rw [step, if_pos h]

/-- A machine that waits for a key spends the cycle on the keypad. -/
theorem step_of_awaitingKey (hfault : m.fault = 0) (hawait : m.awaitingKey = true) :
    m.step = m.pollKeypad := by
  simp [step, hfault, hawait]

/-- A machine that neither has stopped nor waits for a key executes the word that it has gone past.
-/
theorem step_of_running (hfault : m.fault = 0) (hawait : m.awaitingKey = false) :
    m.step = m.advance.execute m.word := by
  simp [step, hfault, hawait]

/-- The instruction that the next cycle carries out, if it carries one out. -/
def instruction? (m : Machine) : Option Instruction :=
  m.executed?.bind Instruction.ofWord?

/-- A cycle carries out an instruction exactly if it executes its word. -/
theorem instruction?_eq_some_iff : m.instruction? = some i ↔ m.executed? = some i.word := by
  simp only [instruction?, Option.bind_eq_some_iff, executed?_eq_some_iff]
  constructor
  · rintro ⟨w, ⟨hfault, hawait, rfl⟩, hword⟩
    exact ⟨hfault, hawait, ofWord?_word_eq_some_iff.1 hword⟩
  · rintro ⟨hfault, hawait, hword⟩
    exact ⟨i.word, ⟨hfault, hawait, hword⟩, Instruction.ofWord?_word i⟩

/-- All that a cycle can be: nothing in a machine that has stopped, a look at the keypad in one that
waits for a key, an instruction, or a word that stands for none. -/
theorem step_cases (m : Machine) :
    (m.fault ≠ 0 ∧ m.step = m) ∨
      (m.fault = 0 ∧ m.awaitingKey = true ∧ m.step = m.pollKeypad) ∨
      (∃ i, m.instruction? = some i ∧ m.step = m.advance.perform i) ∨
      (m.fault = 0 ∧ m.awaitingKey = false ∧ Instruction.ofWord? m.word = none ∧
        m.step = { m.advance with decodeFailures := m.decodeFailures + 1 }) := by
  -- a machine is stopped, or waits, or runs; and a running one may meet an undefined word
  by_cases hfault : m.fault = 0
  · cases hawait : m.awaitingKey with
    | true => exact .inr (.inl ⟨hfault, rfl, step_of_awaitingKey hfault hawait⟩)
    | false =>
      rw [step_of_running hfault hawait]
      cases hword : Instruction.ofWord? m.word with
      | some i =>
        refine .inr (.inr (.inl ⟨i, ?_, execute_of_ofWord? hword⟩))
        rw [instruction?_eq_some_iff, executed?_eq_some_iff]
        exact ⟨hfault, hawait, ofWord?_word_eq_some_iff.1 hword⟩
      | none =>
        exact .inr (.inr (.inr ⟨hfault, rfl, rfl, execute_of_ofWord?_eq_none hword⟩))
  · exact .inl ⟨hfault, step_of_fault hfault⟩

/-- A cycle that carries out an instruction goes past its word and performs it. -/
theorem step_of_instruction? (h : m.instruction? = some i) : m.step = m.advance.perform i := by
  obtain ⟨hfault, hawait, hword⟩ := executed?_eq_some_iff.1 (instruction?_eq_some_iff.1 h)
  rw [step_of_running hfault hawait, hword, execute_word]

/-! ## Instructions as single updates -/

theorem skipIf_eq (m : Machine) (condition : Bool) :
    m.skipIf condition = { m with pc := if condition then m.pc + 2 else m.pc } := by
  cases condition <;> rfl

theorem performAlu_eq (m : Machine) (op : AluOp) (x y : Register) :
    m.performAlu op x y =
      { m with v := (op.result m.profile (m.v.get x) (m.v.get y)).store m.v x } := by
  unfold performAlu
  obtain ⟨value, flag⟩ := op.result m.profile (m.v.get x) (m.v.get y)
  cases flag <;> rfl

/-- `FX1E` moves `I`, and changes a register only for its overflow flag. -/
theorem performAddIndex_eq (m : Machine) (x : Register) :
    m.performAddIndex x =
      { m with
        index := m.index + (m.v.get x).setWidth 16
        v := if m.profile.indexOverflowFlag then
            m.v.set flagRegister (flagByte (decide (0xFFF < m.index.toNat + (m.v.get x).toNat)))
          else m.v } := by
  unfold performAddIndex
  cases m.profile.indexOverflowFlag <;> rfl

/-- `FX0A` takes the key that is down, or begins to wait. -/
theorem performWaitKey_eq (m : Machine) (x : Register) :
    m.performWaitKey x =
      { m with
        v := (m.keypad.lowest?.map fun key => m.v.set x (key.setWidth 8)).getD m.v
        awaitingKey := m.awaitingKey || m.keypad.lowest?.isNone
        keyRegister := if m.keypad.lowest?.isNone then x.setWidth 8 else m.keyRegister } := by
  unfold performWaitKey
  cases m.keypad.lowest? <;> simp [setRegister]

/-- A look at the keypad takes the key that is down and ends the wait, or changes nothing. -/
theorem pollKeypad_eq (m : Machine) :
    m.pollKeypad =
      { m with
        v := (m.keypad.lowest?.map fun key =>
          m.v.set (m.keyRegister.setWidth 4) (key.setWidth 8)).getD m.v
        awaitingKey := m.awaitingKey && m.keypad.lowest?.isNone } := by
  unfold pollKeypad
  cases m.keypad.lowest? <;> simp [setRegister]

/-! ## The call stack and the fault -/

theorem performCall_of_push? {target : Address} {stack : CallStack}
    (h : m.stack.push? m.pc = some stack) :
    m.performCall target = { m with stack := stack, pc := target.setWidth 16 } := by
  simp only [performCall, h]

theorem performCall_of_push?_eq_none {target : Address} (h : m.stack.push? m.pc = none) :
    m.performCall target = m.halt .stackOverflow := by
  simp only [performCall, h]

theorem performLeave_of_pop? {address : BitVec 16} {stack : CallStack}
    (h : m.stack.pop? = some (address, stack)) :
    m.performLeave = { m with stack := stack, pc := address } := by
  simp only [performLeave, h]

theorem performLeave_of_pop?_eq_none (h : m.stack.pop? = none) :
    m.performLeave = m.halt .stackUnderflow := by
  simp only [performLeave, h]

/-- A call in one equation: stack, program counter and fault are all that it changes. -/
theorem performCall_eq (m : Machine) (target : Address) :
    m.performCall target =
      { m with
        stack := (m.stack.push? m.pc).getD m.stack
        pc := if (m.stack.push? m.pc).isSome then target.setWidth 16 else m.pc - 2
        fault := if (m.stack.push? m.pc).isSome then m.fault else Fault.stackOverflow.code } := by
  unfold performCall
  cases m.stack.push? m.pc <;> rfl

/-- A return in one equation: stack, program counter and fault are all that it changes. -/
theorem performLeave_eq (m : Machine) :
    m.performLeave =
      { m with
        stack := (m.stack.pop?.map Prod.snd).getD m.stack
        pc := (m.stack.pop?.map Prod.fst).getD (m.pc - 2)
        fault := if m.stack.pop?.isSome then m.fault else Fault.stackUnderflow.code } := by
  unfold performLeave
  cases m.stack.pop? <;> rfl

/-- All instructions but a call and a return leave the call stack and the fault alone. -/
theorem stack_fault_perform (h : i.usesStack = false) :
    (m.perform i).stack = m.stack ∧ (m.perform i).fault = m.fault := by
  cases i with
  | call target => cases h
  | leave => cases h
  -- the others are single updates, and none of these is to the stack or the fault
  | _ =>
    simp [perform, skipIf_eq, performAlu_eq, performAddIndex_eq, performWaitKey_eq, performDraw,
      setFlag, setRegister]

/-- All instructions but a wait for a key leave alone whether the machine waits for one, and the
register that does. -/
theorem awaitingKey_keyRegister_perform (h : ∀ x, i ≠ .waitKey x) :
    (m.perform i).awaitingKey = m.awaitingKey ∧ (m.perform i).keyRegister = m.keyRegister := by
  cases i with
  | waitKey x => exact absurd rfl (h x)
  -- the others are single updates of other fields
  | _ =>
    simp [perform, skipIf_eq, performAlu_eq, performAddIndex_eq, performCall_eq, performLeave_eq,
      performDraw, setFlag, setRegister]

/-- No instruction touches the keypad, the profile or the count of undefined words. -/
theorem keypad_profile_decodeFailures_perform (m : Machine) (i : Instruction) :
    (m.perform i).keypad = m.keypad ∧ (m.perform i).profile = m.profile ∧
      (m.perform i).decodeFailures = m.decodeFailures := by
  cases i
  all_goals
    simp [perform, skipIf_eq, performAlu_eq, performAddIndex_eq, performWaitKey_eq, performCall_eq,
      performLeave_eq, performDraw, setFlag, setRegister]

/-- A cycle keeps keypad and profile. -/
theorem keypad_profile_step (m : Machine) :
    m.step.keypad = m.keypad ∧ m.step.profile = m.profile := by
  rcases step_cases m with ⟨-, hstep⟩ | ⟨-, -, hstep⟩ | ⟨i, -, hstep⟩ | ⟨-, -, -, hstep⟩
  · rw [hstep]
    exact ⟨rfl, rfl⟩
  · rw [hstep, pollKeypad_eq]
    exact ⟨rfl, rfl⟩
  · obtain ⟨hkeypad, hprofile, -⟩ := keypad_profile_decodeFailures_perform m.advance i
    rw [hstep]
    exact ⟨hkeypad, hprofile⟩
  · rw [hstep]
    exact ⟨rfl, rfl⟩

/-- A machine that halts at the word just fetched is where it was before, but for the fault. -/
theorem halt_advance (m : Machine) (fault : Fault) :
    m.advance.halt fault = { m with fault := fault.code } := by
  simp only [halt, advance, BitVec.add_sub_cancel]

/-- What a cycle does to the call stack and to the fault. -/
inductive StackEffect (m : Machine) : Machine → Prop where
  /-- A subroutine is called. -/
  | call {target : Address} {stack : CallStack} :
      m.executed? = some (Instruction.call target).word → m.stack.push? (m.pc + 2) = some stack →
      StackEffect m { m with stack := stack, pc := target.setWidth 16 }
  /-- A subroutine is left. -/
  | leave {address : BitVec 16} {stack : CallStack} :
      m.executed? = some Instruction.leave.word → m.stack.pop? = some (address, stack) →
      StackEffect m { m with stack := stack, pc := address }
  /-- A call finds all slots in use. -/
  | overflow {target : Address} :
      m.executed? = some (Instruction.call target).word → m.stack.push? (m.pc + 2) = none →
      StackEffect m { m with fault := Fault.stackOverflow.code }
  /-- A return finds no slot in use. -/
  | underflow :
      m.executed? = some Instruction.leave.word → m.stack.pop? = none →
      StackEffect m { m with fault := Fault.stackUnderflow.code }
  /-- Neither a call nor a return is executed. -/
  | none {n : Machine} :
      (∀ target, m.executed? ≠ some (Instruction.call target).word) →
      m.executed? ≠ some Instruction.leave.word →
      n.stack = m.stack → n.fault = m.fault → StackEffect m n

/-- A cycle that carries out an instruction has one of the effects on the call stack that there are.
-/
theorem stackEffect_advance_perform (hexecuted : m.executed? = some i.word) :
    StackEffect m (m.advance.perform i) := by
  by_cases huses : i.usesStack = true
  · cases i with
    | call target =>
      rw [perform]
      -- the machine has advanced, so the address pushed is that of the word after the call
      cases hpush : m.stack.push? (m.pc + 2) with
      | some stack =>
        rw [performCall_of_push? (m := m.advance) hpush]
        exact .call hexecuted hpush
      | none =>
        rw [performCall_of_push?_eq_none (m := m.advance) hpush, halt_advance]
        exact .overflow hexecuted hpush
    | leave =>
      rw [perform]
      cases hpop : m.stack.pop? with
      | some popped =>
        rw [performLeave_of_pop? (m := m.advance) hpop]
        exact .leave hexecuted hpop
      | none =>
        rw [performLeave_of_pop?_eq_none (m := m.advance) hpop, halt_advance]
        exact .underflow hexecuted hpop
    | _ => cases huses
  · rw [Bool.not_eq_true] at huses
    obtain ⟨hstack, hfault⟩ := stack_fault_perform (m := m.advance) huses
    -- the word is neither a call nor a return, because different instructions have different words
    refine .none ?_ ?_ hstack hfault
    · intro target h
      rw [hexecuted, Option.some.injEq, Instruction.word_inj] at h
      rw [h] at huses
      cases huses
    · intro h
      rw [hexecuted, Option.some.injEq, Instruction.word_inj] at h
      rw [h] at huses
      cases huses

/-- A cycle that carries out no instruction leaves the call stack and the fault alone. -/
theorem StackEffect.of_instruction?_eq_none {n : Machine} (h : m.instruction? = Option.none)
    (hstack : n.stack = m.stack) (hfault : n.fault = m.fault) : StackEffect m n := by
  have hother (i : Instruction) : m.executed? ≠ some i.word := by
    rw [Ne, ← instruction?_eq_some_iff, h]
    nofun
  exact .none (fun target => hother (.call target)) (hother .leave) hstack hfault

/-- All that a cycle does to the call stack and to the fault is a `StackEffect`. -/
theorem stackEffect_step (m : Machine) : StackEffect m m.step := by
  rcases step_cases m with ⟨hfault, hstep⟩ | ⟨-, hawait, hstep⟩ | ⟨i, hi, hstep⟩ |
    ⟨hfault, hawait, hword, hstep⟩
  · have hidle : m.executed? = none := if_pos (.inl hfault)
    rw [hstep]
    exact .of_instruction?_eq_none (by rw [instruction?, hidle, Option.bind_none]) rfl rfl
  · -- a machine that waits for a key only polls the keypad
    have hidle : m.executed? = none := if_pos (.inr hawait)
    rw [hstep, pollKeypad_eq]
    exact .of_instruction?_eq_none (by rw [instruction?, hidle, Option.bind_none]) rfl rfl
  · rw [hstep]
    exact stackEffect_advance_perform (instruction?_eq_some_iff.1 hi)
  · -- an undefined word is only counted
    have hexecuted : m.executed? = some m.word := executed?_eq_some_iff.2 ⟨hfault, hawait, rfl⟩
    have hnone : m.instruction? = none := by
      rw [instruction?, hexecuted, Option.bind_some, hword]
    rw [hstep]
    exact .of_instruction?_eq_none hnone rfl rfl

end Machine

end Chip8
