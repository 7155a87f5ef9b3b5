import Chip8.Proofs.Lockstep
import Mathlib.Data.Set.Defs

/-!
# What a program reads of memory, and what it writes

A cycle looks at the two cells of its word (`Machine.cellsRead`). A draw instruction looks at one
more cell for each row of its sprite, a load at one for each register that it fills, and no other
instruction looks at any. Only `FX33` and `FX55` write cells (`Machine.cellsWritten`).

Two machines that differ in some cells alone cannot be told apart by a program that does not look
at those cells. A cell in which they differ may be written: from then on both hold the same byte
there, and the program may look at it.

* `Machine.memory_perform`: what an instruction makes of the memory, as one write.
* `Machine.perform_withMemory`: an instruction does not depend on the cells that it does not read.
* `Machine.AgreeOutside.step`: the same for a cycle.
* `Machine.agreeOutside_run`: and for a run.
-/

namespace Chip8

-- Powers of natural numbers are those that `BitVec` is stated with, whatever else is in scope.
attribute [local instance (high)] instPowNat

/-- The cells that a 16-bit register and the `count - 1` numbers after it refer to. -/
def cellsFrom (register : BitVec 16) (count : Nat) : List Address :=
  (List.range count).map fun k => addressOf (register + BitVec.ofNat 16 k)

/-- The cells from a register on are counted from the one that it refers to, around the end of the
memory. -/
theorem mem_cellsFrom {register : BitVec 16} {count : Nat} {a : Address} :
    a ∈ cellsFrom register count ↔
      ∃ k < count, a = addressOf register + BitVec.ofNat 12 k := by
  simp only [cellsFrom, List.mem_map, List.mem_range, addressOf_add, addressOf_ofNat, eq_comm]

namespace Instruction

/-- The cells that an instruction reads, with the given content of `I`. -/
def cellsRead (index : BitVec 16) : Instruction → List Address
  | draw _ _ n => cellsFrom index n.toNat
  | load x => cellsFrom index (x.toNat + 1)
  | _ => []

/-- The cells that an instruction writes, with the given content of `I`. -/
def cellsWritten (index : BitVec 16) : Instruction → List Address
  | storeDecimal _ => cellsFrom index 3
  | store x => cellsFrom index (x.toNat + 1)
  | _ => []

end Instruction

namespace Machine

/-- The cells that the next cycle reads: none if it executes no word. -/
def cellsRead (m : Machine) : List Address :=
  match m.executed? with
  | some w =>
    addressOf m.pc :: addressOf (m.pc + 1) ::
      ((Instruction.ofWord? w).map (Instruction.cellsRead m.index)).getD []
  | none => []

/-- The cells that the next cycle writes. -/
def cellsWritten (m : Machine) : List Address :=
  (m.instruction?.map (Instruction.cellsWritten m.index)).getD []

/-- The bytes that an instruction writes to consecutive cells from `I` on. -/
def bytesWritten (m : Machine) : Instruction → List Byte
  | .storeDecimal x => decimalDigits (m.v.get x)
  | .store x => m.v.read 0 (x.toNat + 1)
  | _ => []

variable {s t m : Machine} {i : Instruction}

/-- Every instruction writes its bytes from `I` on, most of them none. -/
theorem memory_perform (m : Machine) (i : Instruction) :
    (m.perform i).memory = m.memory.write (addressOf m.index) (m.bytesWritten i) := by
  cases i
  -- an instruction that writes no byte keeps the memory, and to write no byte is to keep it
  all_goals
    simp only [perform, skipIf_eq, performAlu_eq, performAddIndex_eq, performWaitKey_eq,
      performCall_eq, performLeave_eq]
    rfl

/-- The cells that an instruction writes are as many as its bytes. -/
theorem cellsWritten_eq (m : Machine) (i : Instruction) :
    i.cellsWritten m.index = cellsFrom m.index (m.bytesWritten i).length := by
  cases i with
  | storeDecimal x => rfl
  | store x => rw [Instruction.cellsWritten, bytesWritten, Table.length_read]
  | _ => rfl

/-- A cell that an instruction does not write keeps its byte. -/
theorem get_memory_perform {a : Address} (h : a ∉ i.cellsWritten m.index) :
    (m.perform i).memory.get a = m.memory.get a := by
  rw [memory_perform]
  apply Table.get_write_of_forall_ne
  intro k hk ha
  rw [cellsWritten_eq, mem_cellsFrom] at h
  exact h ⟨k, hk, ha⟩

/-- What an instruction reads is read by the cycle that carries it out. -/
theorem mem_cellsRead_of_instruction? {a : Address} (h : m.instruction? = some i)
    (ha : a ∈ i.cellsRead m.index) : a ∈ m.cellsRead := by
  rw [instruction?_eq_some_iff] at h
  simp [cellsRead, h, ha]

/-! ## Reading -/

/-- The mask of a sprite depends on the cells of its rows alone. -/
theorem mask_congr {memory memory' : Memory} {index : BitVec 16} {n : BitVec 4}
    (h : ∀ a ∈ cellsFrom index n.toNat, memory'.get a = memory.get a) (left : Column) (top : Row) :
    Sprite.mask memory' (addressOf index) left top n.toNat =
      Sprite.mask memory (addressOf index) left top n.toNat := by
  ext x y
  rw [Sprite.pixel_mask, Sprite.pixel_mask]
  by_cases hrow : (y - top).toNat < n.toNat
  · have hcell : addressOf index + (y - top).setWidth 12 ∈ cellsFrom index n.toNat :=
      mem_cellsFrom.2 ⟨(y - top).toNat, hrow, by rw [BitVec.ofNat_toNat]⟩
    rw [h _ hcell]
  · -- a row outside the sprite shows nothing, whatever is in memory
    simp only [Int.ofNat_lt, hrow, decide_false, Bool.false_and]

/-- A stretch is read alike from two memories that agree in its cells. -/
theorem read_congr {memory memory' : Memory} {index : BitVec 16} {count : Nat}
    (h : ∀ a ∈ cellsFrom index count, memory'.get a = memory.get a) :
    memory'.read (addressOf index) count = memory.read (addressOf index) count := by
  apply List.map_congr_left
  intro k hk
  exact h _ (mem_cellsFrom.2 ⟨k, List.mem_range.1 hk, rfl⟩)

/-- The word at the program counter is in two cells. -/
theorem word_eq_of_get {n : Machine} (hpc : n.pc = m.pc)
    (hhigh : n.memory.get (addressOf m.pc) = m.memory.get (addressOf m.pc))
    (hlow : n.memory.get (addressOf (m.pc + 1)) = m.memory.get (addressOf (m.pc + 1))) :
    n.word = m.word := by
  rw [addressOf_add] at hlow
  rw [word, word, Memory.word, Memory.word, hpc, hhigh]
  congr 2

/-- An instruction does the same with another memory, if that one agrees with the old one on the
cells that the instruction reads. -/
theorem perform_withMemory {memory : Memory}
    (h : ∀ a ∈ i.cellsRead m.index, memory.get a = m.memory.get a) :
    { m with memory := memory }.perform i =
      { m.perform i with memory := memory.write (addressOf m.index) (m.bytesWritten i) } := by
  -- `DXYN` and `FX65` are the two that read memory, each in one stretch
  cases i with
  | draw x y n =>
    have hmask : { m with memory := memory }.sprite x y n = m.sprite x y n := mask_congr h _ _
    simp only [perform, performDraw, hmask]
    rfl
  | load x =>
    have hread : memory.read (addressOf m.index) (x.toNat + 1) =
        m.memory.read (addressOf m.index) (x.toNat + 1) := read_congr h
    simp only [perform, hread]
    rfl
  | _ =>
    simp only [perform, skipIf_eq, performAlu_eq, performAddIndex_eq, performWaitKey_eq,
      performCall_eq, performLeave_eq]
    rfl

/-! ## Two machines that differ in memory -/

/-- Two machines are equal but for what is in the cells of a set. -/
structure AgreeOutside (A : Set Address) (s t : Machine) : Prop where
  /-- They differ in memory alone. -/
  eq_withMemory : t = { s with memory := t.memory }
  /-- Outside the set they hold the same bytes. -/
  get_eq : ∀ a ∉ A, t.memory.get a = s.memory.get a

/-- The cells that the next cycle of a machine reads hold the same bytes in another machine. -/
def ReadsAlike (s t : Machine) : Prop :=
  ∀ a ∈ s.cellsRead, t.memory.get a = s.memory.get a

namespace AgreeOutside

variable {A : Set Address}

/-- Two machines that agree outside a set still do so after an instruction that reads the same bytes
in both. -/
theorem perform (h : AgreeOutside A s t)
    (hread : ∀ a ∈ i.cellsRead s.index, t.memory.get a = s.memory.get a) :
    AgreeOutside A (s.perform i) (t.perform i) := by
  obtain ⟨heq, hget⟩ := h
  -- the other machine is `s` with another memory, which is all that the instruction can see of it
  generalize t.memory = memory at heq hget hread
  subst heq
  rw [perform_withMemory hread]
  refine ⟨rfl, fun a ha => ?_⟩
  -- both write the same bytes to the same cells, so a cell that was alike stays so
  rw [memory_perform]
  exact Table.get_write_congr (hget a ha)

/-- Two machines that agree outside a set still do so when both go on to the next word. -/
theorem advance (h : AgreeOutside A s t) : AgreeOutside A s.advance t.advance where
  eq_withMemory := by
    rw [h.eq_withMemory]
    rfl
  get_eq := h.get_eq

/-- Two machines execute the same word if the cells that the cycle reads hold the same bytes. -/
theorem word_eq (h : AgreeOutside A s t) (hexecuted : s.executed?.isSome)
    (hread : s.ReadsAlike t) : t.word = s.word := by
  obtain ⟨w, hw⟩ := Option.isSome_iff_exists.1 hexecuted
  have hhigh : t.memory.get (addressOf s.pc) = s.memory.get (addressOf s.pc) :=
    hread _ (by simp [cellsRead, hw])
  have hlow : t.memory.get (addressOf (s.pc + 1)) = s.memory.get (addressOf (s.pc + 1)) :=
    hread _ (by simp [cellsRead, hw])
  have hpc : t.pc = s.pc := by rw [h.eq_withMemory]
  exact word_eq_of_get hpc hhigh hlow

/-- A cycle does the same to two machines if they differ in no cell that it reads. -/
theorem step (h : AgreeOutside A s t) (hread : s.ReadsAlike t) : AgreeOutside A s.step t.step := by
  apply step_lockstep h
  · rw [h.eq_withMemory]
  · rw [h.eq_withMemory]
  · intro hexecuted
    exact h.word_eq hexecuted hread
  · intro _
    rw [pollKeypad_eq, pollKeypad_eq]
    exact ⟨by rw [h.eq_withMemory], h.get_eq⟩
  · intro i hi
    exact h.advance.perform fun a ha => hread a (mem_cellsRead_of_instruction? hi ha)
  · exact ⟨by rw [h.eq_withMemory]; rfl, h.get_eq⟩

/-- The two machines write the same cells. -/
theorem cellsWritten_eq (h : AgreeOutside A s t) (hread : s.ReadsAlike t) :
    t.cellsWritten = s.cellsWritten := by
  have hexecuted : t.executed? = s.executed? := by
    apply executed?_lockstep
    · rw [h.eq_withMemory]
    · rw [h.eq_withMemory]
    · intro hexecuted
      exact h.word_eq hexecuted hread
  have hindex : t.index = s.index := by rw [h.eq_withMemory]
  rw [cellsWritten, cellsWritten, instruction?, instruction?, hexecuted, hindex]

end AgreeOutside

/-! ## Cells that are not written -/

theorem get_memory_step {a : Address} (h : a ∉ m.cellsWritten) :
    m.step.memory.get a = m.memory.get a := by
  rcases step_cases m with ⟨-, hstep⟩ | ⟨-, -, hstep⟩ | ⟨i, hi, hstep⟩ | ⟨-, -, -, hstep⟩
  · rw [hstep]
  · rw [hstep, pollKeypad_eq]
  · rw [cellsWritten, hi] at h
    rw [hstep]
    exact get_memory_perform h
  · rw [hstep]
    rfl

/-- The cells that a run does not write keep their bytes. -/
theorem get_memory_run {a : Address} {n : Nat} (h : ∀ k < n, a ∉ (m.run k).cellsWritten) :
    (m.run n).memory.get a = m.memory.get a := by
  -- a run begins with a cycle and goes on from another machine, so the machine varies
  induction n generalizing m with
  | zero => rfl
  | succ n ih =>
    have hstep : m.step.memory.get a = m.memory.get a := get_memory_step (h 0 (Nat.succ_pos n))
    have hrest : (m.step.run n).memory.get a = m.step.memory.get a :=
      ih fun k hk => h (k + 1) (Nat.succ_lt_succ hk)
    rw [run, hrest, hstep]

/-- Two machines that differ in memory cells alone stay alike while no cycle reads a cell in which
they still differ. -/
theorem AgreeOutside.run {A : Set Address} {n : Nat} (h : AgreeOutside A s t)
    (hread : ∀ k < n, ∀ a ∈ (s.run k).cellsRead, a ∈ A →
      (t.run k).memory.get a = (s.run k).memory.get a) :
    AgreeOutside A (s.run n) (t.run n) ∧ ∀ k < n, (s.run k).ReadsAlike (t.run k) := by
  -- `AgreeOutside A` is the invariant: with what is assumed of the cells in `A` that are read, it
  -- makes all cells that are read alike
  induction n generalizing s t with
  | zero => exact ⟨h, nofun⟩
  | succ n ih =>
    have hfirst : s.ReadsAlike t := by
      intro a ha
      by_cases hA : a ∈ A
      · exact hread 0 (Nat.succ_pos n) a ha hA
      · exact h.get_eq a hA
    obtain ⟨hlast, hrest⟩ :=
      ih (h.step hfirst) fun k hk => hread (k + 1) (Nat.succ_lt_succ hk)
    refine ⟨hlast, fun k hk => ?_⟩
    cases k with
    | zero => exact hfirst
    | succ k => exact hrest k (Nat.lt_of_succ_lt_succ hk)

/-- A program is blind to the cells that it does not read. Let two machines differ in the cells of
`A` alone. If no cycle reads a cell of `A` in which the two still differ, they are equal at the end
of the run but for cells of `A`. A cell of `A` that the run does not write holds at the end what it
held at the start, in each of the two. -/
theorem agreeOutside_run {A : Set Address} {s t : Machine} (h : AgreeOutside A s t) {n : Nat}
    (hblind : ∀ k < n, ∀ a ∈ (s.run k).cellsRead, a ∈ A →
      (t.run k).memory.get a = (s.run k).memory.get a) :
    AgreeOutside A (s.run n) (t.run n) ∧
      ∀ a ∈ A, (∀ k < n, a ∉ (s.run k).cellsWritten) →
        (s.run n).memory.get a = s.memory.get a ∧ (t.run n).memory.get a = t.memory.get a := by
  obtain ⟨hlast, hread⟩ := h.run hblind
  refine ⟨hlast, fun a _ hunwritten => ⟨get_memory_run hunwritten, get_memory_run ?_⟩⟩
  intro k hk
  -- at every cycle before the end both machines write the same cells
  have hbefore : AgreeOutside A (s.run k) (t.run k) :=
    (h.run fun j hj => hblind j (Nat.lt_trans hj hk)).1
  rw [hbefore.cellsWritten_eq (hread k hk)]
  exact hunwritten k hk

/-- A machine whose program writes `V0` to the cell `0x300` and then loads it from there, with the
given bytes in that cell and the next one. -/
def overwriting (first second : Byte) : Machine :=
  { create .zero .modern with
    index := 0x300
    memory := ((Table.replicate 12 0).write 0x200 [0xF0, 0x55, 0xF0, 0x65]).write 0x300
      [first, second] }

theorem agreeOutside_overwriting (a b c d : Byte) :
    AgreeOutside {0x300#12, 0x301#12} (overwriting a b) (overwriting c d) where
  eq_withMemory := rfl
  get_eq i hi := by
    have hcells : ∀ k < 2, i ≠ 0x300#12 + BitVec.ofNat 12 k := by
      rintro (_ | _ | k) hk rfl
      · exact hi (.inl rfl)
      · exact hi (.inr rfl)
      · omega
    exact (Table.get_write_of_forall_ne (l := [c, d]) hcells).trans
      (Table.get_write_of_forall_ne (l := [a, b]) hcells).symm

/-- The two machines differ in both cells at the start. The store makes the first one the same, so
that it can be loaded, and the second one keeps the difference. -/
theorem agreeOutside_run_overwriting :
    AgreeOutside {0x300#12, 0x301#12} ((overwriting 1 2).run 2) ((overwriting 3 4).run 2) ∧
      ((overwriting 1 2).run 2).memory.get 0x301 = 2 ∧
      ((overwriting 3 4).run 2).memory.get 0x301 = 4 := by
  have hfirst : (overwriting 1 2).cellsRead = [0x200, 0x201] := by decide +kernel
  have hsecond : ((overwriting 1 2).run 1).cellsRead = [0x202, 0x203, 0x300] := by decide +kernel
  have hsame : ((overwriting 3 4).run 1).memory.get 0x300 =
      ((overwriting 1 2).run 1).memory.get 0x300 := by
    decide +kernel
  have hunwritten : ∀ k < 2, 0x301#12 ∉ ((overwriting 1 2).run k).cellsWritten := by
    decide +kernel
  have hread : ∀ k < 2, ∀ a ∈ ((overwriting 1 2).run k).cellsRead,
      a ∈ ({0x300#12, 0x301#12} : Set Address) →
      ((overwriting 3 4).run k).memory.get a = ((overwriting 1 2).run k).memory.get a := by
    rintro (_ | _ | k) hk a ha hA
    · rw [run, hfirst] at ha
      rcases hA with rfl | rfl <;> simp at ha
    · rw [hsecond] at ha
      rcases hA with rfl | rfl
      · exact hsame
      · simp at ha
    · omega
  obtain ⟨hrun, hcells⟩ := agreeOutside_run (agreeOutside_overwriting 1 2 3 4) hread
  obtain ⟨hs, ht⟩ := hcells 0x301 (.inr rfl) hunwritten
  exact ⟨hrun, hs.trans (by decide +kernel), ht.trans (by decide +kernel)⟩

end Machine

end Chip8
