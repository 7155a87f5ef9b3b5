import Chip8.Proofs.Effects
import Chip8.Proofs.Lockstep

/-!
# What a compatibility profile can change

Each choice of a profile is looked at by a handful of instructions, and shows in the one or two
places that these write. Two machines that are equal but for their profiles execute a word
alike unless the profiles differ in a choice that the word looks at (`Instruction.TellsApart`), and
then they still agree outside those places (`Machine.QuirkEffect`). Whether undefined words are
reported is a choice that shows in no state at all.

* `Machine.perform_withProfile`: instructions that do not tell the profiles apart.
* `Machine.quirkEffect_perform`: instructions that do.
* `Machine.run_withProfile`: a run of the former is the same under both profiles.
* `Machine.profiles_isolated`: all of these, for words and for runs.
-/

namespace Chip8

namespace AluOp

/-- The operations that shift: `8XY6` and `8XYE`. -/
def isShift : AluOp → Bool
  | shiftRight | shiftLeft => true
  | _ => false

/-- The logical operations: `8XY1`, `8XY2` and `8XY3`. -/
def isLogic : AluOp → Bool
  | or | and | xor => true
  | _ => false

variable {p q : Profile} {op : AluOp} {vx vy : Byte}

/-- Two profiles give a shift the same operand if they choose alike, or if there is nothing to
choose. -/
theorem shiftOperand_congr (h : p.shiftUsesVy = q.shiftUsesVy ∨ vx = vy) :
    shiftOperand q vx vy = shiftOperand p vx vy := by
  rcases h with hflag | rfl
  · rw [shiftOperand, shiftOperand, hflag]
  · rw [shiftOperand, shiftOperand, ite_self, ite_self]

/-- An operation looks at the profile only if it shifts one of two different bytes, or is a logical
one. -/
theorem result_congr
    (hshift : op.isShift = true → p.shiftUsesVy = q.shiftUsesVy ∨ vx = vy)
    (hlogic : op.isLogic = true → p.logicResetsVf = q.logicResetsVf) :
    op.result q vx vy = op.result p vx vy := by
  cases op with
  | shiftRight | shiftLeft => simp only [result, shiftOperand_congr (hshift rfl)]
  | or | and | xor => simp only [result, logicFlag, hlogic rfl]
  | _ => rfl

/-- The value of a logical operation does not depend on the profile. -/
theorem value_result_of_isLogic (h : op.isLogic = true) :
    (op.result q vx vy).value = (op.result p vx vy).value := by
  cases op with
  | or | and | xor => rfl
  | _ => cases h

end AluOp

/-- Whatever its flag is, an outcome gives the registers other than `VF` its value. -/
theorem AluResult.get_store_of_ne_flagRegister (result : AluResult) {v : Registers}
    {x r : Register} (hr : r ≠ flagRegister) :
    (result.store v x).get r = (v.set x result.value).get r := by
  obtain ⟨value, flag⟩ := result
  cases flag with
  | none => rfl
  | some flag => exact Table.get_set_of_ne _ _ hr

/-- Whether an instruction looks at a choice in which two profiles differ. -/
def Instruction.TellsApart (p q : Profile) : Instruction → Prop
  | alu op x y =>
    (op.isShift = true ∧ x ≠ y ∧ p.shiftUsesVy ≠ q.shiftUsesVy) ∨
      (op.isLogic = true ∧ p.logicResetsVf ≠ q.logicResetsVf)
  | store _ | load _ => p.loadStoreIncrementsI ≠ q.loadStoreIncrementsI
  | addIndex _ => p.indexOverflowFlag ≠ q.indexOverflowFlag
  | _ => False

namespace Machine

/-- The machine with another profile. -/
def withProfile (m : Machine) (q : Profile) : Machine :=
  { m with profile := q }

/-- How two machines differ that were equal but for their profiles `p` and `q` before they executed
an instruction: in one of four ways, each with its own choice, instructions and places. -/
inductive QuirkEffect (p q : Profile) (s t : Machine) : Instruction → Prop where
  /-- `8XY6` and `8XYE` of two registers differ in `VX` and `VF`. -/
  | shift {op : AluOp} {x y : Register} :
      p.shiftUsesVy ≠ q.shiftUsesVy → op = .shiftRight ∨ op = .shiftLeft → x ≠ y →
      t = { s with profile := q, v := t.v } →
      (∀ r, r ≠ x → r ≠ flagRegister → t.v.get r = s.v.get r) →
      QuirkEffect p q s t (.alu op x y)
  /-- `8XY1`, `8XY2` and `8XY3` differ in `VF`. -/
  | logic {op : AluOp} {x y : Register} :
      p.logicResetsVf ≠ q.logicResetsVf → op = .or ∨ op = .and ∨ op = .xor →
      t = { s with profile := q, v := t.v } →
      (∀ r, r ≠ flagRegister → t.v.get r = s.v.get r) →
      QuirkEffect p q s t (.alu op x y)
  /-- `FX55` and `FX65` differ in `I`. -/
  | index {i : Instruction} {x : Register} :
      p.loadStoreIncrementsI ≠ q.loadStoreIncrementsI → i = .store x ∨ i = .load x →
      t = { s with profile := q, index := t.index } →
      QuirkEffect p q s t i
  /-- `FX1E` differs in `VF`. -/
  | flag {x : Register} :
      p.indexOverflowFlag ≠ q.indexOverflowFlag →
      t = { s with profile := q, v := t.v } →
      (∀ r, r ≠ flagRegister → t.v.get r = s.v.get r) →
      QuirkEffect p q s t (.addIndex x)

variable {m : Machine} {q : Profile} {i : Instruction}

/-- An instruction that does not tell the profiles apart does the same under both. -/
theorem perform_withProfile (h : ¬ i.TellsApart m.profile q) :
    (m.withProfile q).perform i = (m.perform i).withProfile q := by
  cases i with
  | alu op x y =>
    simp only [Instruction.TellsApart, not_or, not_and, not_not] at h
    have hresult : op.result q (m.v.get x) (m.v.get y) =
        op.result m.profile (m.v.get x) (m.v.get y) := by
      refine AluOp.result_congr (fun hshift => ?_) h.2
      -- the shift of a register into itself has one operand whatever the profile says
      by_cases hxy : x = y
      · exact .inr (congrArg m.v.get hxy)
      · exact .inl (h.1 hshift hxy)
    rw [perform, perform, performAlu_eq, performAlu_eq]
    simp only [withProfile, hresult]
  | store x | load x =>
    have hflag : (m.withProfile q).profile.loadStoreIncrementsI = m.profile.loadStoreIncrementsI :=
      (not_not.1 h).symm
    have hindex : (m.withProfile q).indexPast x = m.indexPast x := by
      rw [indexPast, indexPast, hflag]
      rfl
    rw [perform, perform, hindex]
    rfl
  | addIndex x =>
    have hflag : (m.withProfile q).profile.indexOverflowFlag = m.profile.indexOverflowFlag :=
      (not_not.1 h).symm
    rw [perform, perform, performAddIndex_eq, performAddIndex_eq, hflag]
    rfl
  | _ =>
    simp only [perform, skipIf_eq, performWaitKey_eq, performCall_eq, performLeave_eq]
    rfl

/-- An instruction that tells the profiles apart shows their difference only where it may. -/
theorem quirkEffect_perform (h : i.TellsApart m.profile q) :
    QuirkEffect m.profile q (m.perform i) ((m.withProfile q).perform i) i := by
  cases i with
  | alu op x y =>
    rw [perform, perform, performAlu_eq, performAlu_eq]
    -- a shift shows its operand in result and flag, a logical operation only what becomes of `VF`
    rcases h with ⟨hshift, hxy, hflag⟩ | ⟨hlogic, hflag⟩
    · have hop : op = .shiftRight ∨ op = .shiftLeft := by
        cases op <;> simp_all [AluOp.isShift]
      refine .shift hflag hop hxy rfl fun r hx hr => ?_
      exact (AluResult.get_store hx (.inr hr)).trans (AluResult.get_store hx (.inr hr)).symm
    · have hop : op = .or ∨ op = .and ∨ op = .xor := by
        cases op <;> simp_all [AluOp.isLogic]
      refine .logic hflag hop rfl fun r hr => ?_
      dsimp only
      rw [AluResult.get_store_of_ne_flagRegister _ hr, AluResult.get_store_of_ne_flagRegister _ hr,
        AluOp.value_result_of_isLogic hlogic]
      rfl
  | store x => exact .index h (.inl rfl) rfl
  | load x => exact .index h (.inr rfl) rfl
  | addIndex x =>
    have hkept (n : Machine) {r : Register} (hr : r ≠ flagRegister) :
        (n.perform (.addIndex x)).v.get r = n.v.get r :=
      get_v_perform fun hwrites => hr hwrites.2
    refine .flag h ?_ fun r hr => (hkept (m.withProfile q) hr).trans (hkept m hr).symm
    simp only [perform, performAddIndex_eq]
    rfl
  | _ => cases h

/-! ## Cycles -/

/-- A cycle whose instruction does not tell the profiles apart does the same under both. -/
theorem step_withProfile (h : ∀ i, m.instruction? = some i → ¬ i.TellsApart m.profile q) :
    (m.withProfile q).step = m.step.withProfile q := by
  refine step_lockstep (R := fun s t => t = s.withProfile q) rfl rfl rfl (fun _ => rfl) ?_ ?_ rfl
  · intro _
    rw [pollKeypad_eq, pollKeypad_eq]
    rfl
  · intro i hi
    exact perform_withProfile (m := m.advance) (h i hi)

/-- A run that executes no instruction that tells the profiles apart is the same under both. -/
theorem run_withProfile {n : Nat}
    (h : ∀ k < n, ∀ i, (m.run k).instruction? = some i → ¬ i.TellsApart m.profile q) :
    (m.withProfile q).run n = (m.run n).withProfile q := by
  induction n generalizing m with
  | zero => rfl
  | succ n ih =>
    have hfirst : (m.withProfile q).step = m.step.withProfile q :=
      step_withProfile (h 0 (Nat.succ_pos n))
    rw [run, hfirst]
    -- a cycle keeps the profile, so what tells the two apart is the same from then on
    refine ih fun k hk i hi => ?_
    rw [(keypad_profile_step m).2]
    exact h (k + 1) (Nat.succ_lt_succ hk) i hi

/-- Profiles are isolated. Two machines that are equal but for their profiles execute a word
alike, unless it is one of those that look at a choice in which the profiles differ, and then the
difference is confined to `VX` and `VF`, to `VF`, or to `I`. A run that executes none of these
words ends in states that are equal but for the profiles. -/
theorem profiles_isolated (m : Machine) (q : Profile) :
    (∀ w, (m.withProfile q).execute w = (m.execute w).withProfile q ∨
        ∃ i, Instruction.ofWord? w = some i ∧
          QuirkEffect m.profile q (m.execute w) ((m.withProfile q).execute w) i) ∧
      ∀ n, (∀ k < n, ∀ i, (m.run k).instruction? = some i → ¬ i.TellsApart m.profile q) →
        (m.withProfile q).run n = (m.run n).withProfile q := by
  refine ⟨fun w => ?_, fun n => run_withProfile⟩
  cases hword : Instruction.ofWord? w with
  | some i =>
    rw [execute_of_ofWord? hword, execute_of_ofWord? hword]
    by_cases happart : i.TellsApart m.profile q
    · exact .inr ⟨i, rfl, quirkEffect_perform happart⟩
    · exact .inl (perform_withProfile happart)
  | none =>
    -- an undefined word is counted under every profile
    rw [execute_of_ofWord?_eq_none hword, execute_of_ofWord?_eq_none hword]
    exact .inl rfl

/-- A machine whose program sets `V0` and shifts it in place, and then shifts `V1` into it. -/
def shifting : Machine :=
  { create .zero .modern with
    memory := (Table.replicate 12 0).write 0x200 [0x60, 0x06, 0x80, 0x06, 0x80, 0x16] }

/-- The profiles show no difference until the third cycle, which shifts one register into another.
-/
theorem profiles_isolated_shifting :
    (shifting.withProfile .cosmacVip).run 2 = (shifting.run 2).withProfile .cosmacVip ∧
      ((shifting.withProfile .cosmacVip).run 3).v.get 0 ≠ (shifting.run 3).v.get 0 := by
  refine ⟨(profiles_isolated shifting .cosmacVip).2 2 fun k hk i hi => ?_, by decide +kernel⟩
  have hfirst : (shifting.run 0).instruction? = some (.setValue 0 6) := by decide +kernel
  have hsecond : (shifting.run 1).instruction? = some (.alu .shiftRight 0 0) := by decide +kernel
  have hcases : k = 0 ∨ k = 1 := by omega
  rcases hcases with rfl | rfl
  · rw [hfirst] at hi
    cases hi
    exact id
  · rw [hsecond] at hi
    cases hi
    simp [Instruction.TellsApart, AluOp.isLogic]

end Machine

end Chip8
