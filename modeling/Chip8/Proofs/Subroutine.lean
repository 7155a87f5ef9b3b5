import Chip8.Proofs.Invariant

/-!
# Subroutines

A subroutine may run any code: it may call others, jump out of itself, write over its own words or
over those of its caller. Whatever it does, it cannot reach the part of the call stack below its
own return address without going back to that address first.

* `Machine.nestedIn_stack_afterAll`: as long as the call stack is deeper than it was at a call, the
  stack of the caller is in place under the return address.
* `Machine.leave_of_depth_step`: the cycle that brings the depth of the caller back is a return to
  that address.
* `Machine.restored_of_call`: both, for the run from a call to the first return from it.
-/

namespace Chip8

namespace Machine

open CallStack

variable {m : Machine} {outer : CallStack} {address : BitVec 16}

/-- What comes from outside leaves the call stack alone. -/
theorem stack_after_of_isInput {e : Event} (h : e.isInput = true) :
    (m.after e).stack = m.stack := by
  rw [after_of_isInput m h]

/-- A cycle that does not come back to the depth of the outer stack leaves that stack in place. -/
theorem nestedIn_stack_step (h : NestedIn outer address m.stack)
    (hdeep : outer.depth < m.step.stack.depth) : NestedIn outer address m.step.stack := by
  have heffect := stackEffect_step m
  generalize m.step = n at hdeep heffect ⊢
  cases heffect with
  | call _ hpush => exact h.push? hpush
  | leave _ hpop => exact h.pop? hpop hdeep
  | overflow => exact h
  | underflow => exact h
  | none _ _ hstack =>
    rw [hstack]
    exact h

/-- The outer stack is in place after a run of which no cycle comes back to its depth. -/
theorem nestedIn_stack_afterAll {es : List Event} (h : NestedIn outer address m.stack)
    (hevents : ∀ e ∈ es, e = .step ∨ e.isInput = true)
    (hdeep : ∀ before, before ++ [.step] <+: es →
      outer.depth < (m.afterAll (before ++ [.step])).stack.depth) :
    NestedIn outer address (m.afterAll es).stack := by
  induction es generalizing m with
  | nil => exact h
  | cons e es ih =>
    have hafter : NestedIn outer address (m.after e).stack := by
      rcases hevents e List.mem_cons_self with rfl | hinput
      · apply nestedIn_stack_step h
        exact hdeep [] (List.prefix_append [Event.step] es)
      · rw [stack_after_of_isInput hinput]
        exact h
    -- a stretch of the rest of the run is a stretch of the whole run with `e` before it
    refine ih hafter (fun f hf => hevents f (List.mem_cons_of_mem e hf)) fun before hbefore => ?_
    exact hdeep (e :: before) (List.cons_prefix_cons.2 ⟨rfl, hbefore⟩)

/-- A cycle that comes back to the depth of the outer stack executes a return, goes to the address
above that stack, and gives the stack back as it was. -/
theorem leave_of_depth_step (houter : outer.WellFormed) (h : NestedIn outer address m.stack)
    (hback : m.step.stack.depth = outer.depth) :
    m.executed? = some Instruction.leave.word ∧ m.step.pc = address ∧ m.step.stack = outer := by
  have hlt := h.depth_lt
  have heffect := stackEffect_step m
  generalize m.step = n at hback heffect ⊢
  -- of all that a cycle can do, only a return makes the stack less deep
  cases heffect with
  | call _ hpush =>
    have hdepth := depth_of_push? hpush
    simp only at hback
    omega
  | leave hexecuted hpop =>
    obtain ⟨rfl, rfl⟩ := h.eq_of_pop? houter hpop hback
    exact ⟨hexecuted, rfl, rfl⟩
  | overflow =>
    simp only at hback
    omega
  | underflow =>
    simp only at hback
    omega
  | none _ _ hstack =>
    rw [hstack] at hback
    omega

/-- A call with a free slot puts the address of the next word above the stack of the caller. -/
theorem nestedIn_stack_step_of_call {target : Address} (hstack : m.stack.WellFormed)
    (hcall : m.executed? = some (Instruction.call target).word)
    (hroom : m.stack.depth < capacity) :
    NestedIn m.stack ((m.pc + 2) &&& 0x0FFF#16) m.step.stack := by
  have heffect := stackEffect_step m
  generalize m.step = n at heffect ⊢
  -- the word of a call is no other word, and with a free slot the call does not fail
  cases heffect with
  | call _ hpush => exact .of_push? hstack hpush
  | leave hleave =>
    rw [hcall, Option.some.injEq, Instruction.word_inj] at hleave
    cases hleave
  | overflow _ hpush => exact absurd (push?_eq_none_iff.1 hpush) (Nat.not_le.2 hroom)
  | underflow hleave =>
    rw [hcall, Option.some.injEq, Instruction.word_inj] at hleave
    cases hleave
  | none hnone => exact absurd hcall (hnone target)

/-- The return discipline of subroutines. When the depth of the call stack is for the first time
again what it was before a call, the cycle that has brought it back executed a return, the
program counter refers to the word after the call, and the call stack is what it was. -/
theorem restored_of_call {m : Machine} (hreach : m.Reachable) (hfault : m.fault = 0)
    (hawait : m.awaitingKey = false) {target : Address}
    (hcall : m.word = (Instruction.call target).word) (hroom : m.stack.depth < 16)
    {es : List Event} (hevents : ∀ e ∈ es, e = .step ∨ e.isInput = true)
    (hdeep : ∀ before, before ++ [.step] <+: es →
      m.stack.depth < (m.step.afterAll (before ++ [.step])).stack.depth)
    (hback : (m.step.afterAll (es ++ [.step])).stack.depth = m.stack.depth) :
    (m.step.afterAll es).executed? = some Instruction.leave.word ∧
      (m.step.afterAll (es ++ [.step])).pc = (m.pc + 2) &&& 0x0FFF#16 ∧
      (m.step.afterAll (es ++ [.step])).stack = m.stack := by
  have hstack : m.stack.WellFormed := hreach.consistent.stack
  have hexecuted : m.executed? = some (Instruction.call target).word :=
    executed?_eq_some_iff.2 ⟨hfault, hawait, hcall⟩
  have hcalled : NestedIn m.stack ((m.pc + 2) &&& 0x0FFF#16) m.step.stack :=
    nestedIn_stack_step_of_call hstack hexecuted hroom
  have hlast : NestedIn m.stack ((m.pc + 2) &&& 0x0FFF#16) (m.step.afterAll es).stack :=
    nestedIn_stack_afterAll hcalled hevents hdeep
  rw [afterAll_concat] at hback ⊢
  exact leave_of_depth_step hstack hlast hback

/-- A machine whose program calls a subroutine at `0x204` that calls one at `0x208`. -/
def nestedCalls : Machine :=
  (create ⟨0, 0⟩ .modern).obeyAll
    [.event (.load 0x200 [0x22, 0x04, 0x00, 0x00, 0x22, 0x08, 0x00, 0xEE, 0x00, 0xEE])]

/-- The outer call comes back after an inner one, to the word after it and with the stack as it was.
-/
theorem restored_of_call_nestedCalls :
    (nestedCalls.step.afterAll ([.step, .tick, .step] ++ [.step])).pc =
        (nestedCalls.pc + 2) &&& 0x0FFF#16 ∧
      (nestedCalls.step.afterAll ([.step, .tick, .step] ++ [.step])).stack = nestedCalls.stack := by
  have hcall : nestedCalls.fault = 0 ∧ nestedCalls.awaitingKey = false ∧
      nestedCalls.word = (Instruction.call 0x204).word ∧ nestedCalls.stack.depth < 16 := by
    decide +kernel
  have hevents : ∀ e ∈ [Event.step, .tick, .step], e = .step ∨ e.isInput = true := by
    simp [Event.isInput]
  have hdepths : nestedCalls.stack.depth < (nestedCalls.step.afterAll [.step]).stack.depth ∧
      nestedCalls.stack.depth < (nestedCalls.step.afterAll [.step, .tick, .step]).stack.depth ∧
      (nestedCalls.step.afterAll ([.step, .tick, .step] ++ [.step])).stack.depth =
        nestedCalls.stack.depth := by
    decide +kernel
  obtain ⟨hfirst, hsecond, hback⟩ := hdepths
  have hdeep : ∀ before, before ++ [.step] <+: [Event.step, .tick, .step] →
      nestedCalls.stack.depth < (nestedCalls.step.afterAll (before ++ [.step])).stack.depth := by
    rintro before ⟨rest, h⟩
    have hstretch : before ++ [.step] = [.step] ∨ before ++ [.step] = [.step, .tick, .step] := by
      rcases before with _ | ⟨a, _ | ⟨b, _ | ⟨c, before⟩⟩⟩ <;> simp_all
    rcases hstretch with hone | hthree
    · rw [hone]
      exact hfirst
    · rw [hthree]
      exact hsecond
  exact (restored_of_call (m := nestedCalls) ⟨_, _, _, rfl⟩ hcall.1 hcall.2.1 hcall.2.2.1
    hcall.2.2.2 hevents hdeep hback).2

end Machine

end Chip8
