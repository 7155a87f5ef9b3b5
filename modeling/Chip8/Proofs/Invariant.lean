import Chip8.Proofs.CallStack
import Chip8.Proofs.Execution
import Chip8.Proofs.History

/-!
# What holds of every reachable machine

`Machine.Consistent` collects what every event keeps of a machine: its call stack is well-formed,
the register that waits for a key exists, and the fault code is one of three.
`Machine.Accountable` ties the fault to the rest of the state: a machine that has stopped is
not waiting for a key, and its call stack is as full or as empty as its fault says. It is kept by
every event but a word that is executed directly, because a cycle of a machine that has stopped, or
that waits for a key, executes nothing.

* `Machine.Reachable.consistent`: both hold of whatever a machine that has been switched on can
  get into, the second if no word has been executed directly.
-/

namespace Chip8

namespace Machine

/-- What every event keeps of a machine. -/
structure Consistent (m : Machine) : Prop where
  /-- The call stack is well-formed. -/
  stack : m.stack.WellFormed
  /-- The register that waits for a key is one of the sixteen. -/
  keyRegister_le : m.keyRegister ≤ 15#8
  /-- The fault is none or one of the two that there are. -/
  fault_eq : m.fault = 0 ∨ m.fault = 1 ∨ m.fault = 2

/-- What a fault says about the rest of the machine. -/
structure Accountable (m : Machine) : Prop where
  /-- A call has found all slots in use. -/
  overflow : m.fault = 1 → m.stack.depth = CallStack.capacity
  /-- A return has found no slot in use. -/
  underflow : m.fault = 2 → m.stack.depth = 0
  /-- A machine that has stopped waits for no key. -/
  awake : m.fault ≠ 0 → m.awaitingKey = false

/-- A machine that has just been switched on is consistent. -/
theorem consistent_create (rng : RandomKey) (profile : Profile) :
    (create rng profile).Consistent where
  stack := CallStack.wellFormed_empty
  keyRegister_le := by
    show (0 : Byte) ≤ 15#8
    decide
  fault_eq := .inl rfl

/-- A machine that has just been switched on has no fault to account for. -/
theorem accountable_create (rng : RandomKey) (profile : Profile) :
    (create rng profile).Accountable where
  overflow h := by cases h
  underflow h := by cases h
  awake h := absurd rfl h

namespace Consistent

variable {m : Machine}

/-- The register that waits for a key is still one of the sixteen after an instruction. -/
theorem keyRegister_perform_le (h : m.keyRegister ≤ 15#8) (i : Instruction) :
    (m.perform i).keyRegister ≤ 15#8 := by
  by_cases hwait : ∃ x, i = .waitKey x
  · obtain ⟨x, rfl⟩ := hwait
    -- a register number has four bits, so it stays below sixteen when it is kept in a byte
    rw [Machine.perform, performWaitKey_eq]
    show (if m.keypad.lowest?.isNone then x.setWidth 8 else m.keyRegister) ≤ 15#8
    split
    · revert x
      decide
    · exact h
  · rw [(awaitingKey_keyRegister_perform fun x hx => hwait ⟨x, hx⟩).2]
    exact h

/-- An instruction that leaves the call stack alone keeps a machine consistent. -/
theorem perform_of_usesStack_eq_false (h : m.Consistent) {i : Instruction}
    (huses : i.usesStack = false) : (m.perform i).Consistent := by
  obtain ⟨hstack, hfault⟩ := stack_fault_perform (m := m) huses
  exact ⟨hstack ▸ h.stack, keyRegister_perform_le h.keyRegister_le i, hfault ▸ h.fault_eq⟩

/-- Every instruction keeps a machine consistent, calls and returns with and without room included.
-/
theorem perform (h : m.Consistent) (i : Instruction) : (m.perform i).Consistent := by
  -- only calls and returns touch the stack and the fault
  cases i with
  | call target =>
    rw [Machine.perform]
    cases hpush : m.stack.push? m.pc with
    | some stack =>
      rw [performCall_of_push? hpush]
      exact ⟨h.stack.push? hpush, h.keyRegister_le, h.fault_eq⟩
    | none =>
      rw [performCall_of_push?_eq_none hpush]
      exact ⟨h.stack, h.keyRegister_le, .inr (.inl rfl)⟩
  | leave =>
    rw [Machine.perform]
    cases hpop : m.stack.pop? with
    | some popped =>
      rw [performLeave_of_pop? hpop]
      exact ⟨h.stack.pop? hpop, h.keyRegister_le, h.fault_eq⟩
    | none =>
      rw [performLeave_of_pop?_eq_none hpop]
      exact ⟨h.stack, h.keyRegister_le, .inr (.inr rfl)⟩
  | _ => exact h.perform_of_usesStack_eq_false rfl

theorem advance (h : m.Consistent) : m.advance.Consistent :=
  ⟨h.stack, h.keyRegister_le, h.fault_eq⟩

/-- So does every word that is executed directly, defined or not. -/
theorem execute (h : m.Consistent) (w : Word) : (m.execute w).Consistent := by
  cases hword : Instruction.ofWord? w with
  | some i =>
    rw [execute_of_ofWord? hword]
    exact h.perform i
  | none =>
    rw [execute_of_ofWord?_eq_none hword]
    exact ⟨h.stack, h.keyRegister_le, h.fault_eq⟩

/-- A cycle keeps a machine consistent, whether it stands still, polls the keypad or executes a
word. -/
theorem step (h : m.Consistent) : m.step.Consistent := by
  rcases step_cases m with ⟨-, hstep⟩ | ⟨-, -, hstep⟩ | ⟨i, -, hstep⟩ | ⟨-, -, -, hstep⟩
  · rw [hstep]
    exact h
  · -- the poll reads the register that waits, and keeps it
    rw [hstep, pollKeypad_eq]
    exact ⟨h.stack, h.keyRegister_le, h.fault_eq⟩
  · rw [hstep]
    exact h.advance.perform i
  · rw [hstep]
    exact ⟨h.stack, h.keyRegister_le, h.fault_eq⟩

/-- Every event keeps a machine consistent. -/
theorem after (h : m.Consistent) (e : Event) : (m.after e).Consistent := by
  cases hinput : e.isInput with
  | true =>
    rw [after_of_isInput m hinput]
    exact ⟨h.stack, h.keyRegister_le, h.fault_eq⟩
  | false =>
    cases e with
    | step => exact h.step
    | execute w => exact h.execute w
    | reset =>
      -- a reset leaves nothing of the three but what a new machine has
      have hnew := consistent_create m.rng m.profile
      exact ⟨hnew.stack, hnew.keyRegister_le, hnew.fault_eq⟩
    | _ => cases hinput

/-- A machine stays consistent through any history. -/
theorem afterAll (h : m.Consistent) (es : List Event) : (m.afterAll es).Consistent :=
  afterAll_induction (fun e _ _ hn => hn.after e) h

end Consistent

/-- Whatever a machine that has been switched on can get into is consistent. -/
theorem Reachable.consistent {m : Machine} (h : m.Reachable) : m.Consistent := by
  obtain ⟨rng, profile, es, rfl⟩ := h.exists_afterAll
  exact (consistent_create rng profile).afterAll es

/-! ## The fault accounts for the call stack -/

namespace Accountable

variable {m : Machine}

/-- A machine without a fault has nothing to account for. -/
theorem of_fault_eq_zero (h : m.fault = 0) : m.Accountable where
  overflow hone := by
    rw [h] at hone
    cases hone
  underflow htwo := by
    rw [h] at htwo
    cases htwo
  awake hne := absurd h hne

/-- The fault accounts for the call stack after a cycle, because only a push to a full stack and a
pop from an empty one stop the machine. -/
theorem step (h : m.Accountable) (hm : m.Consistent) : m.step.Accountable := by
  by_cases hrunning : m.fault = 0
  · generalize hn : m.step = n
    have heffect := stackEffect_step m
    rw [hn] at heffect
    -- a cycle that executes a word was not waiting, and a failed push or pop tells the depth
    cases heffect with
    | call => exact of_fault_eq_zero hrunning
    | leave => exact of_fault_eq_zero hrunning
    | overflow hexecuted hpush =>
      have hfull : CallStack.capacity ≤ m.stack.depth := CallStack.push?_eq_none_iff.1 hpush
      obtain ⟨-, hawait, -⟩ := executed?_eq_some_iff.1 hexecuted
      exact ⟨fun _ => Nat.le_antisymm hm.stack.depth_le hfull, nofun, fun _ => hawait⟩
    | underflow hexecuted hpop =>
      have hempty : m.stack.depth = 0 := CallStack.pop?_eq_none_iff.1 hpop
      obtain ⟨-, hawait, -⟩ := executed?_eq_some_iff.1 hexecuted
      exact ⟨nofun, fun _ => hempty, fun _ => hawait⟩
    | none _ _ _ hfault => exact of_fault_eq_zero (hfault.trans hrunning)
  · -- a stopped machine stays as it is
    rw [step_of_fault hrunning]
    exact h

/-- The fault accounts for the call stack after every event but the direct execution of a word. -/
theorem after (h : m.Accountable) (hm : m.Consistent) {e : Event} (he : ∀ w, e ≠ .execute w) :
    (m.after e).Accountable := by
  cases hinput : e.isInput with
  | true =>
    rw [after_of_isInput m hinput]
    exact ⟨h.overflow, h.underflow, h.awake⟩
  | false =>
    cases e with
    | step => exact h.step hm
    | execute w => exact absurd rfl (he w)
    | reset => exact of_fault_eq_zero rfl
    | _ => cases hinput

/-- The fault accounts for the call stack after any history in which no word is executed directly.
-/
theorem afterAll (h : m.Accountable) (hm : m.Consistent) {es : List Event}
    (hes : ∀ w, .execute w ∉ es) : (m.afterAll es).Accountable := by
  -- the depth that an overflow has found is exact only while the stack is well-formed, so the two
  -- are carried along together
  have hboth : (m.afterAll es).Consistent ∧ (m.afterAll es).Accountable := by
    refine afterAll_induction (P := fun n => n.Consistent ∧ n.Accountable) ?_ ⟨hm, h⟩
    intro e he n hn
    refine ⟨hn.1.after e, hn.2.after hn.1 ?_⟩
    rintro w rfl
    exact hes w he
  exact hboth.2

end Accountable

/-- What holds of a machine that has been switched on and has obeyed any commands since: the call
stack is well-formed, the register that waits for a key exists and the fault is one of three. If
no word has been executed directly, a fault tells how full the call stack is, and a machine
that has stopped waits for no key. -/
theorem invariant_obeyAll_create (rng : RandomKey) (profile : Profile) (cs : List Command) :
    let m := (create rng profile).obeyAll cs
    m.stack.depth ≤ 16 ∧ (∀ i, m.stack.slots.get i ≤ 0xFFF#16) ∧
      (∀ i : BitVec 4, m.stack.depth ≤ i.toNat → m.stack.slots.get i = 0) ∧
      m.keyRegister ≤ 15 ∧ (m.fault = 0 ∨ m.fault = 1 ∨ m.fault = 2) ∧
      ((∀ w, .event (.execute w) ∉ cs) →
        (m.fault = 1 → m.stack.depth = 16) ∧ (m.fault = 2 → m.stack.depth = 0) ∧
          (m.fault ≠ 0 → m.awaitingKey = false)) := by
  intro m
  have hm : m.Consistent := Reachable.consistent ⟨rng, profile, cs, rfl⟩
  refine ⟨hm.stack.depth_le, hm.stack.get_le, hm.stack.get_eq_zero, hm.keyRegister_le, hm.fault_eq,
    ?_⟩
  intro hfetched
  have hevents : ∀ w, .execute w ∉ cs.flatMap Command.events := by
    intro w hmem
    exact hfetched w (Command.event_mem_of_mem_flatMap hmem nofun nofun)
  have haccountable : m.Accountable := by
    show ((create rng profile).obeyAll cs).Accountable
    rw [obeyAll_eq_afterAll]
    exact (accountable_create rng profile).afterAll (consistent_create rng profile) hevents
  exact ⟨haccountable.overflow, haccountable.underflow, haccountable.awake⟩

end Machine

end Chip8
