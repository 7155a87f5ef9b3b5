import Chip8.Proofs.Footprint
import Chip8.Proofs.Loading
import Chip8.Proofs.Occurrences

/-!
# Cells that a history leaves alone

Memory is written in two ways: a load that is granted puts its bytes there, and `FX33` and `FX55`
store at `I`. `Occurrence.cellsWritten` is the list of cells that an event writes in either way. No
event changes a cell that is not in the list, a reset no more than the others, and so a cell
survives a history that does not write it.

* `Occurrence.get_memory_result`: what an event keeps of the memory.
* `Machine.get_memory_afterAll`: what a history keeps of it.
-/

namespace Chip8

/-- The cells that an event loads: those that its bytes go to if it is a load that is granted. -/
def Event.cellsLoaded : Event → List Address
  | load offset bytes =>
    if 0 ≤ offset ∧ offset + bytes.length ≤ Memory.size then
      (List.range bytes.length).map fun k : Nat => BitVec.ofInt 12 (offset + k)
    else []
  | _ => []

/-- The cells that an event writes: those that its instruction writes, or those that it loads. -/
def Occurrence.cellsWritten (o : Occurrence) : List Address :=
  match o.instruction? with
  | some i => i.cellsWritten o.machine.index
  | none => o.event.cellsLoaded

variable {m : Machine} {o : Occurrence} {a : Address}

/-- A load leaves the cells alone that it does not load. -/
theorem Machine.get_memory_after_load {offset : Int} {bytes : List Byte}
    (h : a ∉ (Event.load offset bytes).cellsLoaded) :
    (m.after (.load offset bytes)).memory.get a = m.memory.get a := by
  rw [after]
  cases hload : m.load offset bytes with
  | error => rfl
  | ok n =>
    obtain ⟨hnonneg, hfit, rfl⟩ := load_eq_ok_iff.1 hload
    rw [Event.cellsLoaded, if_pos ⟨hnonneg, hfit⟩] at h
    apply Table.get_write_of_forall_ne
    intro k hk ha
    apply h
    rw [ha, ← BitVec.ofInt_natCast, ← BitVec.ofInt_add]
    exact List.mem_map_of_mem (List.mem_range.2 hk)

/-- An event leaves the cells alone that it does not write. -/
theorem Occurrence.get_memory_result (h : a ∉ o.cellsWritten) :
    o.result.memory.get a = o.machine.memory.get a := by
  cases hi : o.instruction? with
  | some i =>
    obtain ⟨pc, hresult⟩ := result_of_instruction? hi
    rw [cellsWritten, hi] at h
    rw [hresult]
    exact Machine.get_memory_perform h
  | none =>
    rw [cellsWritten, hi] at h
    -- without an instruction only a load writes cells
    by_cases hload : ∃ offset bytes, o.event = .load offset bytes
    · obtain ⟨offset, bytes, hload⟩ := hload
      rw [hload] at h
      rw [result, hload]
      exact Machine.get_memory_after_load h
    · rw [memory_result_of_instruction?_eq_none hi fun offset bytes he =>
        hload ⟨offset, bytes, he⟩]

/-- A history leaves the cells alone that none of its events writes. -/
theorem Machine.get_memory_afterAll {es : List Event}
    (h : ∀ o ∈ m.occurrences es, a ∉ o.cellsWritten) :
    (m.afterAll es).memory.get a = m.memory.get a := by
  -- on the events, with the machine that each of them leaves to the next
  induction es generalizing m with
  | nil => rfl
  | cons e es ih =>
    have hfirst : (m.after e).memory.get a = m.memory.get a :=
      Occurrence.get_memory_result (h ⟨m, e⟩ List.mem_cons_self)
    have hrest : ((m.after e).afterAll es).memory.get a = (m.after e).memory.get a :=
      ih fun o ho => h o (List.mem_cons_of_mem _ ho)
    rw [afterAll_cons, hrest, hfirst]

end Chip8
