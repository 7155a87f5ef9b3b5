import Chip8.Proofs.Execution

/-!
# Two machines side by side

Two machines that are about to execute the same word, or that are both stopped or both waiting for
a key, go through the next cycle in the same way. A relation between them is then kept by the cycle
if it is kept by each instruction on its own, by the count of undefined words, and by the look at
the keypad (`Machine.step_lockstep`).
-/

namespace Chip8

namespace Machine

variable {R : Machine → Machine → Prop} {s t : Machine}

/-- A relation between two machines survives a word that both execute, if it survives the
instruction or the count. -/
theorem execute_lockstep {w : Word}
    (hperform : ∀ i, Instruction.ofWord? w = some i → R (s.perform i) (t.perform i))
    (hcount : R { s with decodeFailures := s.decodeFailures + 1 }
      { t with decodeFailures := t.decodeFailures + 1 }) :
    R (s.execute w) (t.execute w) := by
  cases hword : Instruction.ofWord? w with
  | some i =>
    rw [execute_of_ofWord? hword, execute_of_ofWord? hword]
    exact hperform i hword
  | none =>
    rw [execute_of_ofWord?_eq_none hword, execute_of_ofWord?_eq_none hword]
    exact hcount

/-- Two machines in the same phase with the same word ahead execute the same word. -/
theorem executed?_lockstep (hfault : t.fault = s.fault) (hawait : t.awaitingKey = s.awaitingKey)
    (hword : s.executed?.isSome → t.word = s.word) : t.executed? = s.executed? := by
  -- an idle machine executes no word, and the two are idle together
  by_cases hidle : s.fault ≠ 0 ∨ s.awaitingKey = true
  · have ht : t.fault ≠ 0 ∨ t.awaitingKey = true := by rwa [hfault, hawait]
    rw [executed?, executed?, if_pos hidle, if_pos ht]
  · have ht : ¬ (t.fault ≠ 0 ∨ t.awaitingKey = true) := by rwa [hfault, hawait]
    have hs : s.executed? = some s.word := if_neg hidle
    rw [executed?, if_neg ht, hs, hword (by rw [hs]; rfl)]

/-- A cycle keeps a relation between two machines that are in the same phase and execute the same
word. -/
theorem step_lockstep (h : R s t) (hfault : t.fault = s.fault)
    (hawait : t.awaitingKey = s.awaitingKey) (hword : s.executed?.isSome → t.word = s.word)
    (hpoll : s.awaitingKey = true → R s.pollKeypad t.pollKeypad)
    (hperform : ∀ i, s.instruction? = some i → R (s.advance.perform i) (t.advance.perform i))
    (hcount : R { s.advance with decodeFailures := s.decodeFailures + 1 }
      { t.advance with decodeFailures := t.decodeFailures + 1 }) :
    R s.step t.step := by
  -- one case for each phase: a wait for a key, the execution of a word, and a stopped machine
  by_cases hs : s.fault = 0
  · have ht : t.fault = 0 := hfault.trans hs
    cases hsawait : s.awaitingKey with
    | true =>
      rw [step_of_awaitingKey hs hsawait, step_of_awaitingKey ht (hawait.trans hsawait)]
      exact hpoll hsawait
    | false =>
      have hexecuted : s.executed? = some s.word := executed?_eq_some_iff.2 ⟨hs, hsawait, rfl⟩
      rw [step_of_running hs hsawait, step_of_running ht (hawait.trans hsawait),
        hword (by rw [hexecuted]; rfl)]
      refine execute_lockstep (fun i hi => hperform i ?_) hcount
      rw [instruction?, hexecuted, Option.bind_some, hi]
  · rw [step_of_fault hs, step_of_fault (hfault ▸ hs)]
    exact h

end Machine

end Chip8
