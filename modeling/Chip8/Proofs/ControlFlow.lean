import Chip8.Proofs.Halting

/-!
# Where the program counter goes

A fetch moves the program counter past the word, and most instructions leave it there. Ten do
not: jumps, calls and returns set it, a call or a return that fails takes it back, and six
instructions skip the next word on a condition (`Machine.skipCondition?`). `Machine.GoesTo` is the
table of all words, with the place that each of them takes the program counter to.

The six come in pairs. One skips if two bytes are the same, or if a key is down, and its opposite
skips if not.

* `Machine.exists_goesTo`, `Machine.pc_step_of_goesTo`: every word is in the table, and a cycle
  goes where the table says.
* `Machine.execute_of_skipCondition?`: what a skip does to a machine.
* `Machine.control_flow_determined`: the table for every running machine, and the pairs in every
  state.
-/

namespace Chip8

/-- Whether an instruction may take the program counter elsewhere than to the next word. -/
def Instruction.steers : Instruction → Bool
  | leave | jump _ | call _ | jumpOffset _ => true
  | skipIfValue _ _ | skipUnlessValue _ _ | skipIfSame _ _ | skipUnlessSame _ _ => true
  | skipIfKey _ | skipUnlessKey _ => true
  | _ => false

namespace Machine

/-- The condition on which an instruction skips the next word, if it is one of those that may. -/
def skipCondition? (m : Machine) : Instruction → Option Bool
  | .skipIfValue x value => some (decide (m.v.get x = value))
  | .skipUnlessValue x value => some (!decide (m.v.get x = value))
  | .skipIfSame x y => some (decide (m.v.get x = m.v.get y))
  | .skipUnlessSame x y => some (!decide (m.v.get x = m.v.get y))
  | .skipIfKey x => some (m.keypad.get ((m.v.get x).setWidth 4))
  | .skipUnlessKey x => some (!m.keypad.get ((m.v.get x).setWidth 4))
  | _ => none

/-- Where a word takes the program counter of a machine that fetches it. -/
inductive GoesTo (m : Machine) : Word → BitVec 16 → Prop where
  /-- `1NNN` goes to `NNN`. -/
  | jump (target : Address) : GoesTo m (Instruction.jump target).word (target.setWidth 16)
  /-- `2NNN` goes to `NNN` if there is a free slot for the return address. -/
  | call (target : Address) :
      m.stack.depth < 16 → GoesTo m (Instruction.call target).word (target.setWidth 16)
  /-- Without one it stays where it is. -/
  | callFull (target : Address) :
      16 ≤ m.stack.depth → GoesTo m (Instruction.call target).word m.pc
  /-- `00EE` goes to the address in the last slot in use. -/
  | leave :
      0 < m.stack.depth →
      GoesTo m Instruction.leave.word (m.stack.slots.get (BitVec.ofNat 4 (m.stack.depth - 1)))
  /-- If no slot is in use it stays where it is. -/
  | leaveEmpty : m.stack.depth = 0 → GoesTo m Instruction.leave.word m.pc
  /-- `BNNN` goes to `NNN` plus `V0`, counted around the end of the memory. -/
  | jumpOffset (target : Address) :
      GoesTo m (Instruction.jumpOffset target).word
        (BitVec.ofNat 16 ((target.toNat + (m.v.get 0).toNat) % 4096))
  /-- A skip goes to the second word from here or to the next one. -/
  | skip {i : Instruction} {condition : Bool} :
      m.skipCondition? i = some condition →
      GoesTo m i.word (if condition then m.pc + 4 else m.pc + 2)
  /-- Every other word goes to the next one, whether it is defined or not. -/
  | next {w : Word} :
      (∀ i : Instruction, i.steers = true → w ≠ i.word) → GoesTo m w (m.pc + 2)

/-- Executing a word goes past the word after it. The program counter is past the word itself
already. -/
def Skips (m : Machine) (w : Word) : Prop :=
  (m.execute w).pc = m.pc + 2

variable {m : Machine} {i : Instruction} {w : Word} {pc : BitVec 16} {condition : Bool}

/-! ## Skips -/

/-- An instruction with a condition skips by it, and does nothing else. -/
theorem perform_of_skipCondition? (h : m.skipCondition? i = some condition) :
    m.perform i = m.skipIf condition := by
  cases i <;> cases h <;> rfl

/-- A skip moves the program counter past the next word or leaves it, and changes nothing else. -/
theorem execute_of_skipCondition? (h : m.skipCondition? i = some condition) :
    m.execute i.word = { m with pc := if condition then m.pc + 2 else m.pc } := by
  rw [execute_word, perform_of_skipCondition? h, skipIf_eq]

/-- An instruction with a condition goes past the next word exactly if the condition holds. -/
theorem skips_iff (h : m.skipCondition? i = some condition) :
    m.Skips i.word ↔ condition = true := by
  rw [Skips, execute_of_skipCondition? h]
  cases condition <;> simp

/-- A cycle that fetches a skip changes nothing but the program counter. -/
theorem step_of_skipCondition? (hexecuted : m.executed? = some i.word)
    (h : m.skipCondition? i = some condition) :
    m.step = { m with pc := if condition then m.pc + 4 else m.pc + 2 } := by
  have hadvanced : m.advance.skipCondition? i = some condition := h
  rw [step_of_instruction? (instruction?_eq_some_iff.2 hexecuted),
    perform_of_skipCondition? hadvanced, skipIf_eq]
  -- past the word itself and the one after it
  have hpast : m.pc + 2 + 2 = m.pc + 4 := BitVec.add_assoc m.pc 2 2
  cases condition
  · rfl
  · simp only [advance, if_true, hpast]

/-- An instruction and its opposite do not skip on the same condition. -/
theorem skips_iff_not_skips {j : Instruction} (hi : m.skipCondition? i = some condition)
    (hj : m.skipCondition? j = some !condition) : m.Skips i.word ↔ ¬ m.Skips j.word := by
  rw [skips_iff hi, skips_iff hj]
  cases condition <;> simp

/-! ## The table -/

/-- The other instructions leave the program counter where it is. -/
theorem pc_perform (h : i.steers = false) : (m.perform i).pc = m.pc := by
  cases i with
  | leave | jump | call | jumpOffset => cases h
  | skipIfValue | skipUnlessValue | skipIfSame | skipUnlessSame => cases h
  | skipIfKey | skipUnlessKey => cases h
  | _ =>
    simp [perform, performAlu_eq, performAddIndex_eq, performWaitKey_eq, performDraw, setFlag,
      setRegister]

/-- Every word is in the table. -/
theorem exists_goesTo (m : Machine) (w : Word) : ∃ pc, m.GoesTo w pc := by
  by_cases hsteers : ∃ i : Instruction, i.steers = true ∧ w = i.word
  · obtain ⟨i, hi, rfl⟩ := hsteers
    cases i with
    | jump target => exact ⟨_, .jump target⟩
    -- calls and returns have two rows of the table each, by what is left of the stack
    | call target =>
      rcases Nat.lt_or_ge m.stack.depth 16 with hfree | hfull
      · exact ⟨_, .call target hfree⟩
      · exact ⟨_, .callFull target hfull⟩
    | leave =>
      rcases Nat.eq_zero_or_pos m.stack.depth with hempty | hused
      · exact ⟨_, .leaveEmpty hempty⟩
      · exact ⟨_, .leave hused⟩
    | jumpOffset target => exact ⟨_, .jumpOffset target⟩
    | skipIfValue | skipUnlessValue | skipIfSame | skipUnlessSame | skipIfKey | skipUnlessKey =>
      exact ⟨_, .skip rfl⟩
    | _ => cases hi
  · exact ⟨_, .next fun i hi hw => hsteers ⟨i, hi, hw⟩⟩

/-- A word that no instruction steers by takes the program counter to the next word. -/
theorem pc_step_of_forall_ne (hfault : m.fault = 0) (hawait : m.awaitingKey = false)
    (hplain : ∀ i : Instruction, i.steers = true → m.word ≠ i.word) : m.step.pc = m.pc + 2 := by
  rw [step_of_running hfault hawait]
  cases hword : Instruction.ofWord? m.word with
  | some i =>
    have hsteers : i.steers = false := by
      rw [← Bool.not_eq_true]
      exact fun hi => hplain i hi (ofWord?_word_eq_some_iff.1 hword)
    rw [execute_of_ofWord? hword, pc_perform hsteers]
    rfl
  | none =>
    rw [execute_of_ofWord?_eq_none hword]
    rfl

/-- The sum that `BNNN` goes to has twelve bits. -/
theorem setWidth_add_setWidth (target : Address) (offset : Byte) :
    (target + offset.setWidth 12).setWidth 16 =
      BitVec.ofNat 16 ((target.toNat + offset.toNat) % 4096) := by
  have hoffset : offset.toNat < 2 ^ 12 := Nat.lt_trans offset.isLt (by decide)
  apply BitVec.eq_of_toNat_eq
  rw [BitVec.toNat_setWidth_of_le (by decide), BitVec.toNat_add, BitVec.toNat_setWidth,
    Nat.mod_eq_of_lt hoffset, BitVec.toNat_ofNat]
  omega

/-- A cycle of a running machine goes where the table says. -/
theorem pc_step_of_goesTo (hexecuted : m.executed? = some w) (h : m.GoesTo w pc) :
    m.step.pc = pc := by
  obtain ⟨hfault, hawait, hword⟩ := executed?_eq_some_iff.1 hexecuted
  cases h with
  | jump target =>
    rw [step_of_instruction? (instruction?_eq_some_iff.2 hexecuted)]
    rfl
  | call target hfree =>
    have hpush : m.advance.stack.push? m.advance.pc = some _ :=
      CallStack.push?_eq_some_iff.2 ⟨hfree, rfl⟩
    rw [step_of_instruction? (instruction?_eq_some_iff.2 hexecuted), perform,
      performCall_of_push? hpush]
  -- a cycle that fails has gone back to its word
  | callFull target hfull => rw [step_of_overflow hexecuted hfull]
  | leave hused =>
    have hpop : m.advance.stack.pop? = some (_, _) := CallStack.pop?_eq_some_iff.2 ⟨hused, rfl, rfl⟩
    rw [step_of_instruction? (instruction?_eq_some_iff.2 hexecuted), perform,
      performLeave_of_pop? hpop]
    rfl
  | leaveEmpty hempty => rw [step_of_underflow hexecuted hempty]
  | jumpOffset target =>
    rw [step_of_instruction? (instruction?_eq_some_iff.2 hexecuted)]
    exact setWidth_add_setWidth target _
  | skip hskip => rw [step_of_skipCondition? hexecuted hskip]
  | next hplain => exact pc_step_of_forall_ne hfault hawait (hword ▸ hplain)

/-- The control flow is determined. After a cycle of a running machine the program counter is where
the table says for the word at it, and nowhere else. A skip moves the program counter past the next
word or leaves it there, as its condition says, and changes nothing else, in a cycle or executed
directly. In every state, running or not, exactly one of two opposite skips is taken. -/
theorem control_flow_determined (m : Machine) :
    (m.fault = 0 → m.awaitingKey = false →
      (∀ pc, m.step.pc = pc ↔ m.GoesTo m.word pc) ∧
      ∀ i condition, m.word = Instruction.word i → m.skipCondition? i = some condition →
        m.step = { m with pc := if condition then m.pc + 4 else m.pc + 2 }) ∧
    (∀ i condition, m.skipCondition? i = some condition →
      (m.Skips i.word ↔ condition = true) ∧
        m.execute i.word = { m with pc := if condition then m.pc + 2 else m.pc }) ∧
    ∀ (x y : Register) (value : Byte),
      (m.Skips (Instruction.skipIfValue x value).word ↔
        ¬ m.Skips (Instruction.skipUnlessValue x value).word) ∧
      (m.Skips (Instruction.skipIfSame x y).word ↔
        ¬ m.Skips (Instruction.skipUnlessSame x y).word) ∧
      (m.Skips (Instruction.skipIfKey x).word ↔
        ¬ m.Skips (Instruction.skipUnlessKey x).word) := by
  refine ⟨fun hfault hawait => ⟨fun pc => ⟨?_, ?_⟩, ?_⟩, ?_, ?_⟩
  · rintro rfl
    -- the table has a place for the word, and the cycle goes to it
    obtain ⟨pc, hpc⟩ := exists_goesTo m m.word
    rwa [pc_step_of_goesTo (executed?_eq_some_iff.2 ⟨hfault, hawait, rfl⟩) hpc]
  · exact pc_step_of_goesTo (executed?_eq_some_iff.2 ⟨hfault, hawait, rfl⟩)
  · intro i condition hword
    exact step_of_skipCondition? (executed?_eq_some_iff.2 ⟨hfault, hawait, hword⟩)
  · intro i condition h
    exact ⟨skips_iff h, execute_of_skipCondition? h⟩
  · intro x y value
    exact ⟨skips_iff_not_skips rfl rfl, skips_iff_not_skips rfl rfl, skips_iff_not_skips rfl rfl⟩

/-- A machine whose program counter is about to come around, at the word `3000`, which skips. -/
def skippingAtEnd : Machine :=
  { create .zero .modern with
    pc := 0xFFFE
    memory := Memory.initial.write 0xFFE [0x30, 0x00] }

/-- The second word from there is in the third cell of the memory. -/
theorem control_flow_determined_skippingAtEnd :
    skippingAtEnd.word = (Instruction.skipIfValue 0 0).word ∧
      skippingAtEnd.GoesTo skippingAtEnd.word 2 ∧
      skippingAtEnd.step = { skippingAtEnd with pc := 2 } := by
  obtain ⟨hgoes, hskip⟩ := (control_flow_determined skippingAtEnd).1 rfl rfl
  have hword : skippingAtEnd.word = (Instruction.skipIfValue 0 0).word := by decide +kernel
  have hstep : skippingAtEnd.step = { skippingAtEnd with pc := 2 } :=
    hskip _ true hword (by decide +kernel)
  exact ⟨hword, (hgoes 2).1 (congrArg pc hstep), hstep⟩

end Machine

end Chip8
