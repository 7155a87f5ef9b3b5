import Chip8.Proofs.Lockstep

/-!
# Program counter and index register modulo the memory size

The program counter and `I` have 16 bits, and memory has 4096 cells. A program sees the two through
the cells that they refer to: a word is fetched there, a sprite read, a register stored. A call
masks the address that it pushes, and a fault rewinds the counter without a look at it. The one
place that shows more is `FX1E` under a profile with its overflow flag, where the whole of `I` is
added up and compared with `0x0FFF`.

Two machines are aliased if they differ in these two registers alone, and these refer to the same
cells (`Machine.Aliased`).

* `Machine.Aliased.perform`: an instruction keeps two machines aliased.
* `Machine.Aliased.step`, `Machine.Aliased.run`: so does a cycle, and a run.
* `Machine.run_modulo_memory_size`: the same in numbers, with and without the overflow flag.
-/

namespace Chip8

/-- Two 16-bit registers refer to the same cell if they are equal modulo the size of the memory. -/
theorem addressOf_eq_iff {a b : BitVec 16} :
    addressOf a = addressOf b ↔ a.toNat % 4096 = b.toNat % 4096 := by
  rw [← BitVec.toNat_inj, addressOf, addressOf, BitVec.toNat_setWidth, BitVec.toNat_setWidth]

/-- The bits that a push keeps of an address. -/
theorem and_eq_setWidth_addressOf (a : BitVec 16) :
    a &&& 0x0FFF#16 = (addressOf a).setWidth 16 := by
  apply BitVec.eq_of_toNat_eq
  rw [BitVec.toNat_and, BitVec.toNat_setWidth, addressOf, BitVec.toNat_setWidth]
  have hmask : a.toNat &&& 0xFFF = a.toNat % 2 ^ 12 := Nat.and_two_pow_sub_one_eq_mod a.toNat 12
  show a.toNat &&& 0xFFF = _
  rw [hmask]
  omega

/-- A push does not tell apart two addresses that refer to the same cell. -/
theorem CallStack.push?_congr (s : CallStack) {a b : BitVec 16} (h : addressOf a = addressOf b) :
    s.push? a = s.push? b := by
  rw [push?, push?, and_eq_setWidth_addressOf a, and_eq_setWidth_addressOf b, h]

namespace Machine

/-- Two machines are equal but for program counter and index register, and these refer to the same
cells. -/
structure Aliased (s t : Machine) : Prop where
  /-- They differ in the two registers alone. -/
  eq_withCounters : t = { s with pc := t.pc, index := t.index }
  /-- They fetch from the same cell. -/
  pc_eq : addressOf t.pc = addressOf s.pc
  /-- Their `I` refers to the same cell. -/
  index_eq : addressOf t.index = addressOf s.index
  /-- Where `FX1E` shows the whole of `I`, it is the same. -/
  index_eq_of_flag : s.profile.indexOverflowFlag = true → t.index = s.index

variable {s t : Machine}

namespace Aliased

/-- Two machines stay aliased if both go on to the next word. -/
theorem advance (h : Aliased s t) : Aliased s.advance t.advance where
  eq_withCounters := by
    rw [h.eq_withCounters]
    rfl
  pc_eq := by
    show addressOf (t.pc + 2) = addressOf (s.pc + 2)
    rw [addressOf_add, addressOf_add, h.pc_eq]
  index_eq := h.index_eq
  index_eq_of_flag := h.index_eq_of_flag

theorem skipIf (h : Aliased s t) (condition : Bool) :
    Aliased (s.skipIf condition) (t.skipIf condition) := by
  cases condition with
  | true => exact h.advance
  | false => exact h

/-- They stay aliased if both stop, because the rewind goes back by the same distance. -/
theorem halt (h : Aliased s t) (fault : Fault) : Aliased (s.halt fault) (t.halt fault) where
  eq_withCounters := by
    rw [h.eq_withCounters]
    rfl
  pc_eq := by
    -- going back by one word is adding its negative, which a cell number follows as well
    show addressOf (t.pc - 2) = addressOf (s.pc - 2)
    rw [BitVec.sub_eq_add_neg, BitVec.sub_eq_add_neg, addressOf_add, addressOf_add, h.pc_eq]
  index_eq := h.index_eq
  index_eq_of_flag := h.index_eq_of_flag

/-- A call keeps two machines aliased; both push the same address, or both overflow. -/
theorem performCall (h : Aliased s t) (target : Address) :
    Aliased (s.performCall target) (t.performCall target) := by
  -- the address that is pushed has its upper bits masked off
  have hpush : t.stack.push? t.pc = s.stack.push? s.pc := by
    rw [h.eq_withCounters]
    exact s.stack.push?_congr h.pc_eq
  cases hs : s.stack.push? s.pc with
  | some stack =>
    rw [performCall_of_push? hs, performCall_of_push? (hpush.trans hs)]
    refine ⟨?_, rfl, h.index_eq, h.index_eq_of_flag⟩
    rw [h.eq_withCounters]
  | none =>
    rw [performCall_of_push?_eq_none hs, performCall_of_push?_eq_none (hpush.trans hs)]
    exact h.halt _

/-- A return keeps two machines aliased; both pop the same address, or both underflow. -/
theorem performLeave (h : Aliased s t) : Aliased s.performLeave t.performLeave := by
  have hpop : t.stack.pop? = s.stack.pop? := by rw [h.eq_withCounters]
  cases hs : s.stack.pop? with
  | some popped =>
    rw [performLeave_of_pop? hs, performLeave_of_pop? (hpop.trans hs)]
    refine ⟨?_, rfl, h.index_eq, h.index_eq_of_flag⟩
    rw [h.eq_withCounters]
  | none =>
    rw [performLeave_of_pop?_eq_none hs, performLeave_of_pop?_eq_none (hpop.trans hs)]
    exact h.halt _

/-- `FX1E` keeps two machines aliased, with the overflow flag and without it. -/
theorem performAddIndex (h : Aliased s t) (x : Register) :
    Aliased (s.performAddIndex x) (t.performAddIndex x) := by
  obtain ⟨heq, hpc, hindex, hflag⟩ := h
  generalize t.pc = pc, t.index = index at heq hpc hindex hflag
  subst heq
  rw [performAddIndex_eq, performAddIndex_eq]
  have hmoved : addressOf (index + (s.v.get x).setWidth 16) =
      addressOf (s.index + (s.v.get x).setWidth 16) := by
    rw [addressOf_add, addressOf_add, hindex]
  -- the flag is set from the whole of `I`; without it only the cell of the sum matters
  cases hquirk : s.profile.indexOverflowFlag with
  | true =>
    obtain rfl := hflag hquirk
    exact ⟨rfl, hpc, rfl, fun _ => rfl⟩
  | false =>
    exact ⟨rfl, hpc, hmoved, fun h => absurd (hquirk.symm.trans h) Bool.false_ne_true⟩

/-- A drawing keeps two machines aliased, because they read the sprite from the same cells. -/
theorem performDraw (h : Aliased s t) (x y : Register) (n : BitVec 4) :
    Aliased (s.performDraw x y n) (t.performDraw x y n) := by
  have hsprite : t.sprite x y n = s.sprite x y n := by
    rw [h.eq_withCounters]
    simp only [sprite, h.index_eq]
  refine ⟨?_, h.pc_eq, h.index_eq, h.index_eq_of_flag⟩
  simp only [Machine.performDraw, hsprite]
  rw [h.eq_withCounters]
  rfl

/-- After `FX55` and `FX65` the two index registers refer to the same cell again. -/
theorem addressOf_indexPast (h : Aliased s t) (x : Register) :
    addressOf (t.indexPast x) = addressOf (s.indexPast x) := by
  have hprofile : t.profile = s.profile := by rw [h.eq_withCounters]
  rw [indexPast, indexPast, hprofile]
  split
  · rw [addressOf_add, addressOf_add, addressOf_add, addressOf_add, h.index_eq]
  · exact h.index_eq

/-- Where the whole of `I` shows, `FX55` and `FX65` leave the same in both machines. -/
theorem indexPast_eq_of_flag (h : Aliased s t) (x : Register)
    (hflag : s.profile.indexOverflowFlag = true) : t.indexPast x = s.indexPast x := by
  have hprofile : t.profile = s.profile := by rw [h.eq_withCounters]
  rw [indexPast, indexPast, hprofile, h.index_eq_of_flag hflag]

/-- Every instruction keeps two machines aliased. -/
theorem perform (h : Aliased s t) (i : Instruction) : Aliased (s.perform i) (t.perform i) := by
  obtain ⟨heq, hpc, hindex, hflag⟩ := h
  generalize t.pc = pc, t.index = index at heq hpc hindex hflag
  subst heq
  have h : Aliased s { s with pc := pc, index := index } := ⟨rfl, hpc, hindex, hflag⟩
  -- what counts is what an instruction does with the two registers; most leave both alone
  cases i with
  | call target => exact h.performCall target
  | leave => exact h.performLeave
  | skipIfValue _ _ | skipUnlessValue _ _ | skipIfSame _ _ | skipUnlessSame _ _ | skipIfKey _
  | skipUnlessKey _ => exact h.skipIf _
  | jump _ | jumpOffset _ => exact ⟨rfl, rfl, hindex, hflag⟩
  | setIndex _ | glyph _ => exact ⟨rfl, hpc, rfl, fun _ => rfl⟩
  | addIndex x => exact h.performAddIndex x
  | draw x y n => exact h.performDraw x y n
  -- memory is written and read at the cell that the index register refers to
  | storeDecimal x =>
    simp only [Machine.perform, hindex]
    exact ⟨rfl, hpc, hindex, hflag⟩
  | store x | load x =>
    simp only [Machine.perform, hindex]
    exact ⟨rfl, hpc, h.addressOf_indexPast x, h.indexPast_eq_of_flag x⟩
  | alu _ _ _ | waitKey _ =>
    simp only [Machine.perform, performAlu_eq, performWaitKey_eq]
    exact ⟨rfl, hpc, hindex, hflag⟩
  | _ => exact ⟨rfl, hpc, hindex, hflag⟩

/-- A cycle keeps two machines aliased: both fetch from the same cell, and so the same word. -/
theorem step (h : Aliased s t) : Aliased s.step t.step := by
  apply step_lockstep h
  · rw [h.eq_withCounters]
  · rw [h.eq_withCounters]
  · intro _
    have hmemory : t.memory = s.memory := by rw [h.eq_withCounters]
    rw [word, word, hmemory, h.pc_eq]
  · intro _
    rw [pollKeypad_eq, pollKeypad_eq]
    exact ⟨by rw [h.eq_withCounters], h.pc_eq, h.index_eq, h.index_eq_of_flag⟩
  · intro i _
    exact h.advance.perform i
  · exact ⟨by rw [h.eq_withCounters]; rfl, h.advance.pc_eq, h.index_eq, h.index_eq_of_flag⟩

/-- Two machines that are aliased stay so for ever. -/
theorem run (h : Aliased s t) (n : Nat) : Aliased (s.run n) (t.run n) := by
  induction n generalizing s t with
  | zero => exact h
  | succ n ih => exact ih h.step

end Aliased

theorem profile_run (m : Machine) (n : Nat) : (m.run n).profile = m.profile := by
  induction n generalizing m with
  | zero => rfl
  | succ n ih => rw [Machine.run, ih, (keypad_profile_step m).2]

/-- Program counter and index register count modulo the size of the memory. Two machines that are
equal but for these two, and have them equal modulo 4096, go on like that for ever. Under a profile
that shows the whole of `I` in the flag of `FX1E`, the same holds if `I` is equal. -/
theorem run_modulo_memory_size (hsame : t = { s with pc := t.pc, index := t.index })
    (hpc : s.pc.toNat % 4096 = t.pc.toNat % 4096) (n : Nat) :
    (s.profile.indexOverflowFlag = false → s.index.toNat % 4096 = t.index.toNat % 4096 →
        t.run n = { s.run n with pc := (t.run n).pc, index := (t.run n).index } ∧
          (s.run n).pc.toNat % 4096 = (t.run n).pc.toNat % 4096 ∧
          (s.run n).index.toNat % 4096 = (t.run n).index.toNat % 4096) ∧
      (s.profile.indexOverflowFlag = true → s.index = t.index →
        t.run n = { s.run n with pc := (t.run n).pc, index := (t.run n).index } ∧
          (s.run n).pc.toNat % 4096 = (t.run n).pc.toNat % 4096 ∧
          (s.run n).index = (t.run n).index) := by
  have hcell : addressOf t.pc = addressOf s.pc := addressOf_eq_iff.2 hpc.symm
  refine ⟨?_, ?_⟩
  · -- without the flag it is enough that `I` refers to the same cell
    intro hquirk hindex
    have h : Aliased s t := by
      refine ⟨hsame, hcell, addressOf_eq_iff.2 hindex.symm, fun hflag => ?_⟩
      rw [hquirk] at hflag
      cases hflag
    have hrun := h.run n
    exact ⟨hrun.eq_withCounters, (addressOf_eq_iff.1 hrun.pc_eq).symm,
      (addressOf_eq_iff.1 hrun.index_eq).symm⟩
  · intro hquirk hindex
    have h : Aliased s t := ⟨hsame, hcell, by rw [hindex], fun _ => hindex.symm⟩
    have hrun := h.run n
    refine ⟨hrun.eq_withCounters, (addressOf_eq_iff.1 hrun.pc_eq).symm, ?_⟩
    exact (hrun.index_eq_of_flag (by rw [profile_run, hquirk])).symm

/-- A machine whose program calls a subroutine that moves `I` and stores a register there. -/
def callingAt (pc index : BitVec 16) (flag : Bool) : Machine :=
  { create .zero { Profile.modern with indexOverflowFlag := flag } with
    pc := pc
    index := index
    memory := (Table.replicate 12 0).write 0x200 [0x22, 0x02, 0xF0, 0x1E, 0xF0, 0x55] }

theorem run_modulo_memory_size_callingAt :
    ((callingAt 0x1200 0xF300 false).run 3).memory = ((callingAt 0x200 0x300 false).run 3).memory ∧
      ((callingAt 0x1200 0x300 true).run 3).index = ((callingAt 0x200 0x300 true).run 3).index := by
  have hshort := (run_modulo_memory_size (s := callingAt 0x200 0x300 false)
    (t := callingAt 0x1200 0xF300 false) rfl (by decide) 3).1 rfl (by decide)
  have hwhole := (run_modulo_memory_size (s := callingAt 0x200 0x300 true)
    (t := callingAt 0x1200 0x300 true) rfl (by decide) 3).2 rfl rfl
  refine ⟨?_, hwhole.2.2.symm⟩
  rw [hshort.1]

end Machine

end Chip8
