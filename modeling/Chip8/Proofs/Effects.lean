import Chip8.Proofs.Footprint
import Mathlib.Tactic.ByContra

/-!
# What each instruction can change

The frame law of the instruction set says of each part of a machine which words may change it.
Memory is covered cell by cell, by the cells that an instruction writes
(`Instruction.cellsWritten`), and the registers one by one, by the registers that it writes
(`Instruction.WritesRegister`). The other parts are covered by one lemma each.

* `Machine.get_v_perform`: an instruction leaves the registers alone that it does not write.
* `Machine.WithinFrame`: the frame law for one word.
* `Machine.withinFrame_step`: every word that a cycle fetches keeps to it, and a cycle that waits
  for a key touches nothing but the wait and the register that waits.
-/

namespace Chip8

/-- Whether an operation of the family `8` writes `VF` as its flag. -/
def AluOp.setsFlag (p : Profile) : AluOp → Bool
  | set => false
  | or | and | xor => p.logicResetsVf
  | add | sub | shiftRight | subFrom | shiftLeft => true

/-- An operation that sets no flag has none in its result. -/
theorem AluOp.flag_result_eq_none {p : Profile} {op : AluOp} (h : op.setsFlag p = false)
    (vx vy : Byte) : (op.result p vx vy).flag = none := by
  cases op <;> simp_all [setsFlag, result, logicFlag]

/-- A register keeps its content if it is neither the one of the result nor, where the operation
sets a flag, the one of the flag. -/
theorem AluResult.get_store {result : AluResult} {v : Registers} {x r : Register} (hx : r ≠ x)
    (hflag : result.flag = none ∨ r ≠ flagRegister) : (result.store v x).get r = v.get r := by
  obtain ⟨value, flag⟩ := result
  cases flag with
  | none => exact Table.get_set_of_ne _ _ hx
  | some flag =>
    have hr : r ≠ flagRegister := hflag.resolve_left nofun
    rw [store, Table.get_set_of_ne _ _ hr, Table.get_set_of_ne _ _ hx]

namespace Instruction

/-- Whether an instruction may change the display: `00E0` and `DXYN`. -/
def changesDisplay : Instruction → Bool
  | clear | draw _ _ _ => true
  | _ => false

/-- Whether an instruction may change `I`: `ANNN`, `FX1E`, `FX29`, and `FX55` and `FX65` if the
profile makes them move it. -/
def movesIndex (p : Profile) : Instruction → Bool
  | setIndex _ | addIndex _ | glyph _ => true
  | store _ | load _ => p.loadStoreIncrementsI
  | _ => false

/-- Whether an instruction may write its result to `VX`: `6XNN`, `7XNN`, `8XYN`, `CXNN`, `FX07`,
`FX0A` and `FX65`. -/
def writesVx : Instruction → Bool
  | setValue _ _ | addValue _ _ | alu _ _ _ | random _ _ | getDelay _ | waitKey _ | load _ => true
  | _ => false

/-- Whether an instruction may write a flag to `VF`: `8XY4` to `8XY7`, `8XYE`, `DXYN`, and under
the profiles that ask for it `8XY1` to `8XY3` and `FX1E`. -/
def writesVf (p : Profile) : Instruction → Bool
  | alu op _ _ => op.setsFlag p
  | draw _ _ _ => true
  | addIndex _ => p.indexOverflowFlag
  | _ => false

/-- Whether an instruction may write the register `r`. -/
def WritesRegister (p : Profile) (r : Register) : Instruction → Prop
  | setValue x _ | addValue x _ | random x _ | getDelay x | waitKey x => r = x
  | alu op x _ => r = x ∨ op.setsFlag p = true ∧ r = flagRegister
  | draw _ _ _ => r = flagRegister
  | addIndex _ => p.indexOverflowFlag = true ∧ r = flagRegister
  | load x => r ≤ x
  | _ => False

/-- An instruction writes the registers that it loads, `VX` and `VF`, and the last two only if it
has a result or a flag for them. -/
theorem WritesRegister.cases {p : Profile} {r : Register} {i : Instruction}
    (h : i.WritesRegister p r) :
    (∃ x, i = load x ∧ r ≤ x) ∨ (r = (Fields.ofWord i.word).x ∧ i.writesVx = true) ∨
      (r = flagRegister ∧ i.writesVf p = true) := by
  cases i with
  | load x => exact .inl ⟨x, rfl, h⟩
  | setValue x value | addValue x value | random x mask | getDelay x | waitKey x =>
    exact .inr (.inl ⟨by rw [word, Fields.x_ofByte]; exact h, rfl⟩)
  | alu op x y =>
    rcases h with hx | ⟨hflag, hr⟩
    · exact .inr (.inl ⟨by rw [word, Fields.x_ofNibbles]; exact hx, rfl⟩)
    · exact .inr (.inr ⟨hr, hflag⟩)
  | draw x y n => exact .inr (.inr ⟨h, rfl⟩)
  | addIndex x => exact .inr (.inr ⟨h.2, h.1⟩)
  | _ => cases h

end Instruction

namespace Machine

variable {m n : Machine} {i : Instruction} {r : Register} {w : Word}

/-! ## Registers -/

/-- An instruction leaves the registers alone that it does not write. -/
theorem get_v_perform (h : ¬ i.WritesRegister m.profile r) :
    (m.perform i).v.get r = m.v.get r := by
  cases i with
  | setValue x value | addValue x value | random x mask | getDelay x =>
    exact Table.get_set_of_ne _ _ h
  | alu op x y =>
    rw [perform, performAlu_eq]
    -- result and flag are written one after the other, and `r` is in the way of neither
    apply AluResult.get_store fun hx => h (.inl hx)
    cases hflag : op.setsFlag m.profile with
    | false => exact .inl (AluOp.flag_result_eq_none hflag _ _)
    | true => exact .inr fun hr => h (.inr ⟨hflag, hr⟩)
  | draw x y n => exact Table.get_set_of_ne _ _ h
  | addIndex x =>
    rw [perform, performAddIndex_eq]
    show (if m.profile.indexOverflowFlag = true then _ else m.v).get r = m.v.get r
    split
    next hflag => exact Table.get_set_of_ne _ _ fun hr => h ⟨hflag, hr⟩
    next => rfl
  | waitKey x =>
    rw [perform, performWaitKey]
    -- a wait that begins writes no register
    cases m.keypad.lowest? with
    | some key => exact Table.get_set_of_ne _ _ h
    | none => rfl
  | load x =>
    apply Table.get_write_of_forall_ne
    rintro k hk rfl
    rw [Table.length_read] at hk
    -- the registers are filled from `V0` on, so one past `VX` is not reached
    apply h
    show 0#4 + BitVec.ofNat 4 k ≤ x
    rw [BitVec.zero_add, BitVec.le_def, BitVec.toNat_ofNat]
    exact Nat.le_trans (Nat.mod_le k _) (Nat.le_of_lt_succ hk)
  | _ => simp [perform, skipIf_eq, performCall_eq, performLeave_eq]

/-! ## The other parts -/

/-- The display is changed by `00E0` and `DXYN` alone. -/
theorem display_perform (h : i.changesDisplay = false) : (m.perform i).display = m.display := by
  cases i with
  | clear | draw x y n => cases h
  | _ =>
    simp [perform, skipIf_eq, performAlu_eq, performAddIndex_eq, performWaitKey_eq,
      performCall_eq, performLeave_eq, setRegister]

/-- The index register is changed by the instructions alone that move it under the profile. -/
theorem index_perform (h : i.movesIndex m.profile = false) : (m.perform i).index = m.index := by
  cases i with
  | setIndex target | addIndex x | glyph x => cases h
  | store x | load x =>
    have hstay : m.profile.loadStoreIncrementsI = false := h
    simp [perform, indexPast, hstay]
  | _ =>
    simp [perform, skipIf_eq, performAlu_eq, performWaitKey_eq, performCall_eq, performLeave_eq,
      performDraw, setFlag, setRegister]

/-- Only `CXNN` uses up the random key. -/
theorem rng_perform (h : ∀ x mask, i ≠ .random x mask) : (m.perform i).rng = m.rng := by
  cases i with
  | random x mask => exact absurd rfl (h x mask)
  | _ =>
    simp [perform, skipIf_eq, performAlu_eq, performAddIndex_eq, performWaitKey_eq,
      performCall_eq, performLeave_eq, performDraw, setFlag, setRegister]

theorem delayTimer_perform (h : ∀ x, i ≠ .setDelay x) :
    (m.perform i).delayTimer = m.delayTimer := by
  cases i with
  | setDelay x => exact absurd rfl (h x)
  | _ =>
    simp [perform, skipIf_eq, performAlu_eq, performAddIndex_eq, performWaitKey_eq,
      performCall_eq, performLeave_eq, performDraw, setFlag, setRegister]

theorem soundTimer_perform (h : ∀ x, i ≠ .setSound x) :
    (m.perform i).soundTimer = m.soundTimer := by
  cases i with
  | setSound x => exact absurd rfl (h x)
  | _ =>
    simp [perform, skipIf_eq, performAlu_eq, performAddIndex_eq, performWaitKey_eq,
      performCall_eq, performLeave_eq, performDraw, setFlag, setRegister]

/-! ## The frame law -/

/-- The machine `n` differs from `m` only in parts that the word `w` may change. -/
structure WithinFrame (m : Machine) (w : Word) (n : Machine) : Prop where
  keypad : n.keypad = m.keypad
  profile : n.profile = m.profile
  /-- Memory changes by `FX33`, in three cells from `I` on, and by `FX55`, in one cell for each
  register up to `VX`. -/
  memory : ∀ a, n.memory.get a ≠ m.memory.get a →
    (∃ x, w = (Instruction.storeDecimal x).word ∧ a ∈ cellsFrom m.index 3) ∨
      ∃ x, w = (Instruction.store x).word ∧ a ∈ cellsFrom m.index (x.toNat + 1)
  /-- The display changes by `00E0` and `DXYN`. -/
  display : n.display ≠ m.display →
    w = Instruction.clear.word ∨ ∃ x y height, w = (Instruction.draw x y height).word
  /-- The call stack changes by `2NNN` and `00EE`. -/
  stack : n.stack ≠ m.stack →
    (∃ target, w = (Instruction.call target).word) ∨ w = Instruction.leave.word
  /-- A fault comes from `2NNN` and `00EE`. -/
  fault : n.fault ≠ m.fault →
    (∃ target, w = (Instruction.call target).word) ∨ w = Instruction.leave.word
  /-- The random key changes by `CXNN`. -/
  rng : n.rng ≠ m.rng → ∃ x mask, w = (Instruction.random x mask).word
  /-- The delay timer changes by `FX15`. -/
  delayTimer : n.delayTimer ≠ m.delayTimer → ∃ x, w = (Instruction.setDelay x).word
  /-- The sound timer changes by `FX18`. -/
  soundTimer : n.soundTimer ≠ m.soundTimer → ∃ x, w = (Instruction.setSound x).word
  /-- A wait for a key begins by `FX0A`. -/
  awaitingKey : n.awaitingKey ≠ m.awaitingKey → ∃ x, w = (Instruction.waitKey x).word
  /-- The register that waits changes by `FX0A`. -/
  keyRegister : n.keyRegister ≠ m.keyRegister → ∃ x, w = (Instruction.waitKey x).word
  /-- `I` changes by `ANNN`, `FX1E`, `FX29`, and by `FX55` and `FX65` if they move it. -/
  index : n.index ≠ m.index → ∃ i, w = Instruction.word i ∧ i.movesIndex m.profile = true
  /-- Undefined words are counted. -/
  decodeFailures : n.decodeFailures ≠ m.decodeFailures → w.isDefined = false
  /-- A register that is neither `VX` nor `VF` changes by an `FX65` that goes past it. -/
  other : ∀ r, r ≠ (Fields.ofWord w).x → r ≠ flagRegister → n.v.get r ≠ m.v.get r →
    ∃ x, w = (Instruction.load x).word ∧ r < x
  /-- `VX`, if it is not `VF`, changes by the words that have a result for it. -/
  result : (Fields.ofWord w).x ≠ flagRegister →
    n.v.get (Fields.ofWord w).x ≠ m.v.get (Fields.ofWord w).x →
      ∃ i, w = Instruction.word i ∧ i.writesVx = true
  /-- `VF`, if it is not `VX`, changes by the words that have a flag for it. -/
  flag : (Fields.ofWord w).x ≠ flagRegister → n.v.get flagRegister ≠ m.v.get flagRegister →
    ∃ i, w = Instruction.word i ∧ i.writesVf m.profile = true
  /-- `VF`, if it is `VX` too, changes by the words that have a result or a flag for it. -/
  shared : (Fields.ofWord w).x = flagRegister → n.v.get flagRegister ≠ m.v.get flagRegister →
    ∃ i, w = Instruction.word i ∧ (i.writesVx = true ∨ i.writesVf m.profile = true)

/-- What an instruction writes to a register is loaded with others, or a result, or a flag. -/
theorem writes_of_get_v_perform_ne (h : (m.perform i).v.get r ≠ m.v.get r) :
    (∃ x, i = .load x ∧ r ≤ x) ∨ (r = (Fields.ofWord i.word).x ∧ i.writesVx = true) ∨
      (r = flagRegister ∧ i.writesVf m.profile = true) := by
  apply Instruction.WritesRegister.cases
  by_contra hunwritten
  exact h (get_v_perform hunwritten)

/-- Every instruction keeps to the frame law of its word. -/
theorem withinFrame_perform (m : Machine) (i : Instruction) :
    WithinFrame m i.word (m.perform i) where
  keypad := (keypad_profile_decodeFailures_perform m i).1
  profile := (keypad_profile_decodeFailures_perform m i).2.1
  memory a ha := by
    have hwritten : a ∈ i.cellsWritten m.index := by
      by_contra hunwritten
      exact ha (get_memory_perform hunwritten)
    -- the other instructions write no cell
    cases i with
    | storeDecimal x => exact .inl ⟨x, rfl, hwritten⟩
    | store x => exact .inr ⟨x, rfl, hwritten⟩
    | _ => cases hwritten
  display h := by
    cases i with
    | clear => exact .inl rfl
    | draw x y n => exact .inr ⟨x, y, n, rfl⟩
    | _ => exact absurd (display_perform rfl) h
  stack h := by
    cases i with
    | call target => exact .inl ⟨target, rfl⟩
    | leave => exact .inr rfl
    | _ => exact absurd (stack_fault_perform rfl).1 h
  fault h := by
    cases i with
    | call target => exact .inl ⟨target, rfl⟩
    | leave => exact .inr rfl
    | _ => exact absurd (stack_fault_perform rfl).2 h
  rng h := by
    by_contra hnone
    exact h (rng_perform fun x mask hi => hnone ⟨x, mask, congrArg Instruction.word hi⟩)
  delayTimer h := by
    by_contra hnone
    exact h (delayTimer_perform fun x hi => hnone ⟨x, congrArg Instruction.word hi⟩)
  soundTimer h := by
    by_contra hnone
    exact h (soundTimer_perform fun x hi => hnone ⟨x, congrArg Instruction.word hi⟩)
  awaitingKey h := by
    by_contra hnone
    exact h (awaitingKey_keyRegister_perform fun x hi =>
      hnone ⟨x, congrArg Instruction.word hi⟩).1
  keyRegister h := by
    by_contra hnone
    exact h (awaitingKey_keyRegister_perform fun x hi =>
      hnone ⟨x, congrArg Instruction.word hi⟩).2
  index h := by
    refine ⟨i, rfl, ?_⟩
    by_contra hstay
    exact h (index_perform (Bool.eq_false_iff.2 hstay))
  decodeFailures h := absurd (keypad_profile_decodeFailures_perform m i).2.2 h
  other r hx hf h := by
    rcases writes_of_get_v_perform_ne h with ⟨x, rfl, hr⟩ | ⟨hr, -⟩ | ⟨hr, -⟩
    · rw [Instruction.word, Fields.x_ofByte] at hx
      exact ⟨x, rfl, BitVec.lt_of_le_ne hr hx⟩
    · exact absurd hr hx
    · exact absurd hr hf
  result hf h := by
    rcases writes_of_get_v_perform_ne h with ⟨x, rfl, -⟩ | ⟨-, hi⟩ | ⟨hr, -⟩
    · exact ⟨.load x, rfl, rfl⟩
    · exact ⟨i, rfl, hi⟩
    · exact absurd hr hf
  flag hf h := by
    rcases writes_of_get_v_perform_ne h with ⟨x, rfl, hr⟩ | ⟨hr, -⟩ | ⟨-, hi⟩
    · -- only a load up to `VF` itself goes as far as `VF`
      have hlast : ∀ x : Register, flagRegister ≤ x → x = flagRegister := by decide
      rw [Instruction.word, Fields.x_ofByte] at hf
      exact absurd (hlast x hr) hf
    · exact absurd hr.symm hf
    · exact ⟨i, rfl, hi⟩
  shared _ h := by
    rcases writes_of_get_v_perform_ne h with ⟨x, rfl, -⟩ | ⟨-, hi⟩ | ⟨-, hi⟩
    · exact ⟨.load x, rfl, .inl rfl⟩
    · exact ⟨i, rfl, .inl hi⟩
    · exact ⟨i, rfl, .inr hi⟩

/-- A word that stands for no instruction is counted, and changes nothing else. -/
theorem withinFrame_of_undefined (h : w.isDefined = false) :
    WithinFrame m w { m with decodeFailures := m.decodeFailures + 1 } where
  keypad := rfl
  profile := rfl
  memory _ hne := absurd rfl hne
  display hne := absurd rfl hne
  stack hne := absurd rfl hne
  fault hne := absurd rfl hne
  rng hne := absurd rfl hne
  delayTimer hne := absurd rfl hne
  soundTimer hne := absurd rfl hne
  awaitingKey hne := absurd rfl hne
  keyRegister hne := absurd rfl hne
  index hne := absurd rfl hne
  decodeFailures _ := h
  other _ _ _ hne := absurd rfl hne
  result _ hne := absurd rfl hne
  flag _ hne := absurd rfl hne
  shared _ hne := absurd rfl hne

/-- The frame law holds of every word of 16 bits, whoever hands it to the machine. -/
theorem withinFrame_execute (m : Machine) (w : BitVec 16) :
    WithinFrame m (w.setWidth 32) (m.execute (w.setWidth 32)) := by
  cases hword : Instruction.ofWord? (w.setWidth 32) with
  | some i =>
    rw [execute_of_ofWord? hword, Instruction.ofWord?_setWidth_eq_some_iff.1 hword]
    exact withinFrame_perform m i
  | none =>
    rw [execute_of_ofWord?_eq_none hword]
    apply withinFrame_of_undefined
    rw [Word.isDefined_eq_isSome_ofWord?, hword]
    rfl

/-- A cycle that waits for a key ends the wait and writes the register that waits, or it does
nothing. -/
theorem step_of_awaitingKey_eq (hfault : m.fault = 0) (hawait : m.awaitingKey = true) :
    m.step = { m with v := m.step.v, awaitingKey := m.step.awaitingKey } ∧
      ∀ r, r ≠ m.keyRegister.setWidth 4 → m.step.v.get r = m.v.get r := by
  rw [step_of_awaitingKey hfault hawait, pollKeypad]
  cases m.keypad.lowest? with
  | some key => exact ⟨rfl, fun r hr => Table.get_set_of_ne _ _ hr⟩
  | none => exact ⟨rfl, fun r _ => rfl⟩

/-- The frame law of the instruction set. A cycle of a running machine changes each part of the
machine only if the word that it fetches is one of those that may change it. A cycle of a machine
that waits for a key changes at most the wait itself and the register that waits. -/
theorem withinFrame_step (m : Machine) (hfault : m.fault = 0) :
    (m.awaitingKey = false → WithinFrame m m.word m.step) ∧
      (m.awaitingKey = true →
        m.step = { m with v := m.step.v, awaitingKey := m.step.awaitingKey } ∧
          ∀ r, r ≠ m.keyRegister.setWidth 4 → m.step.v.get r = m.v.get r) := by
  refine ⟨fun hawait => ?_, step_of_awaitingKey_eq hfault⟩
  have hadvance : WithinFrame m.advance m.word m.step := by
    rw [step_of_running hfault hawait]
    exact withinFrame_execute m.advance _
  -- the move of the program counter, which comes first, is no part that the law speaks of
  exact { hadvance with }

/-- A machine whose program fills the registers `V0` to `V2` from memory. -/
def loadingThree : Machine :=
  { create .zero .cosmacVip with
    memory := (Table.replicate 12 0).write 0x200 [0xF2, 0x65]
    index := 0x1FF }

/-- A load up to `V2` leaves the register after it and the display alone. -/
theorem withinFrame_step_loadingThree :
    loadingThree.step.v.get 3 = loadingThree.v.get 3 ∧
      loadingThree.step.display = loadingThree.display := by
  have hword : loadingThree.word = (Instruction.load 2).word := by decide +kernel
  have hlaw := (withinFrame_step loadingThree rfl).1 rfl
  have hx : (Fields.ofWord loadingThree.word).x = 2 := by
    rw [hword, Instruction.word, Fields.x_ofByte]
  constructor
  · by_contra hchanged
    -- only a load past `V3` could have changed it, and the program loads no further than `V2`
    obtain ⟨x, hload, hlt⟩ := hlaw.other 3 (by rw [hx]; decide) (by decide) hchanged
    rw [hword, Instruction.word_inj] at hload
    cases hload
    exact absurd hlt (by decide)
  · by_contra hchanged
    rcases hlaw.display hchanged with hclear | ⟨x, y, height, hdraw⟩
    · rw [hword, Instruction.word_inj] at hclear
      cases hclear
    · rw [hword, Instruction.word_inj] at hdraw
      cases hdraw

end Machine

end Chip8
