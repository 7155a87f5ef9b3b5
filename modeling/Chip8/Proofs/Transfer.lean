import Chip8.Proofs.Footprint

/-!
# Registers to memory and back

`FX55` stores the registers up to `VX` in the cells from `I` on, and `FX65` loads them from there.
Each is the same as a loop that moves one byte after another (`Machine.storeLoop`,
`Machine.loadLoop`). The sixteen cells from `I` on are different ones, also where they come around
at the end of the memory, so it does no harm to write all of them, those past `VX` with what they
hold already (`Machine.storeWindow`).

* `Table.write_map_range`: a list of entries is written one by one.
* `Table.get_write_read_ofNat`: a stretch that is copied from one table to another is in order.
* `Machine.transfer_eq_loops`: the two instructions are the loops, and undo each other.
-/

namespace Chip8

-- Powers of natural numbers are those that `BitVec` is stated with, whatever else is in scope.
attribute [local instance (high)] instPowNat

namespace Table

variable {w w' : Nat} {α : Type}

/-- To write a list is to set its entries one by one. -/
theorem write_map_range (t : Table w α) (start : BitVec w) (f : Nat → α) (count : Nat) :
    t.write start ((List.range count).map f) =
      (List.range count).foldl (fun t k => t.set (start + BitVec.ofNat w k) (f k)) t := by
  induction count with
  | zero => rfl
  | succ count ih =>
    rw [List.range_succ, List.map_append, write_append, ih, List.foldl_append, List.length_map,
      List.length_range]
    rfl

/-- A stretch of one table that is copied into another is there in order. -/
theorem get_write_read_ofNat (t : Table w α) (u : Table w' α) (start : BitVec w)
    (source : BitVec w') {count k : Nat} (hcount : count ≤ 2 ^ w) (hk : k < count) :
    (t.write start (u.read source count)).get (start + BitVec.ofNat w k) =
      u.get (source + BitVec.ofNat w' k) := by
  have hdistance : (start + BitVec.ofNat w k - start).toNat = k := by
    rw [BitVec.add_comm, BitVec.add_sub_cancel, BitVec.toNat_ofNat,
      Nat.mod_eq_of_lt (Nat.lt_of_lt_of_le hk hcount)]
  rw [get_write _ _ _ _ (by rwa [length_read]), hdistance,
    List.getElem?_eq_getElem (by rwa [length_read]), Option.getD_some, getElem_read]

end Table

/-- The cell that belongs to a register while `I` has the given content. -/
def cellOf (index : BitVec 16) (k : Register) : Address :=
  addressOf (index + k.setWidth 16)

namespace Machine

/-- The memory after the registers up to `VX` have been stored one after another. -/
def storeLoop (m : Machine) (x : Register) : Memory :=
  (List.range (x.toNat + 1)).foldl
    (fun memory k => memory.set (addressOf (m.index + BitVec.ofNat 16 k)) (m.v.get (.ofNat 4 k)))
    m.memory

/-- The registers after those up to `VX` have been loaded one after another. -/
def loadLoop (m : Machine) (x : Register) : Registers :=
  (List.range (x.toNat + 1)).foldl
    (fun v k => v.set (.ofNat 4 k) (m.memory.get (addressOf (m.index + BitVec.ofNat 16 k))))
    m.v

/-- What all sixteen cells from `I` on are to hold after a store: those of the registers up to `VX`
the registers, and the others what they hold already. -/
def windowBytes (m : Machine) (x : Register) : Registers :=
  Table.ofFn fun k => if k ≤ x then m.v.get k else m.memory.get (cellOf m.index k)

/-- The memory after all sixteen cells from `I` on have been written at once. -/
def storeWindow (m : Machine) (x : Register) : Memory :=
  m.memory.write (addressOf m.index) ((m.windowBytes x).read 0 registerCount)

/-- The registers after all sixteen cells from `I` on have been read at once. -/
def loadWindow (m : Machine) (x : Register) : Registers :=
  Table.ofFn fun k => if k ≤ x then m.memory.get (cellOf m.index k) else m.v.get k

variable {m : Machine} {x k : Register}

/-! ## Cells and registers -/

/-- The cell of a register is counted from the cell that `I` refers to. -/
theorem cellOf_eq (index : BitVec 16) (k : Register) :
    cellOf index k = addressOf index + BitVec.ofNat 12 k.toNat := by
  have hwidth : k.setWidth 16 = BitVec.ofNat 16 k.toNat := by
    rw [← BitVec.ofNat_toNat]
  rw [cellOf, hwidth, addressOf_add, addressOf_ofNat]

/-- The sixteen registers have sixteen different cells, also around the end of the memory. -/
theorem cellOf_inj {index : BitVec 16} {j k : Register} :
    cellOf index j = cellOf index k ↔ j = k := by
  rw [cellOf_eq, cellOf_eq, BitVec.add_right_inj, BitVec.toNat_eq, BitVec.toNat_eq,
    BitVec.toNat_ofNat, BitVec.toNat_ofNat, Nat.mod_eq_of_lt (by omega),
    Nat.mod_eq_of_lt (by omega)]

theorem zero_add_register (k : Register) : 0 + k = k :=
  BitVec.zero_add k

theorem lt_count (hk : k ≤ x) : k.toNat < x.toNat + 1 :=
  Nat.lt_succ_of_le (BitVec.le_def.1 hk)

theorem count_le (x : Register) : x.toNat + 1 ≤ 16 :=
  x.isLt

/-- The cells that do not belong to the registers up to `VX` are past them or before `I`. -/
theorem not_lt_distance {index : BitVec 16} {a : Address} (ha : ∀ k ≤ x, a ≠ cellOf index k) :
    ¬(a - addressOf index).toNat < x.toNat + 1 := by
  intro hlt
  have hwidth : (a - addressOf index).toNat < 2 ^ 4 := Nat.lt_of_lt_of_le hlt (count_le x)
  apply ha (BitVec.ofNat 4 (a - addressOf index).toNat)
  · rw [BitVec.le_def, BitVec.toNat_ofNat, Nat.mod_eq_of_lt hwidth]
    exact Nat.le_of_lt_succ hlt
  · rw [cellOf_eq, BitVec.toNat_ofNat, Nat.mod_eq_of_lt hwidth, BitVec.ofNat_toNat,
      BitVec.setWidth_eq, BitVec.add_comm, BitVec.sub_add_cancel]

/-! ## The loops -/

/-- To store the registers one by one is to write them as one stretch. -/
theorem storeLoop_eq (m : Machine) (x : Register) :
    m.storeLoop x = m.memory.write (addressOf m.index) (m.v.read 0 (x.toNat + 1)) := by
  have hread : m.v.read 0 (x.toNat + 1) =
      (List.range (x.toNat + 1)).map fun k => m.v.get (BitVec.ofNat 4 k) := by
    simp only [Table.read, zero_add_register]
  rw [hread, Table.write_map_range]
  simp only [storeLoop, addressOf_add, addressOf_ofNat]

/-- To load the registers one by one is to read the cells as one stretch. -/
theorem loadLoop_eq (m : Machine) (x : Register) :
    m.loadLoop x = m.v.write 0 (m.memory.read (addressOf m.index) (x.toNat + 1)) := by
  rw [Table.read, Table.write_map_range]
  simp only [loadLoop, addressOf_add, addressOf_ofNat, zero_add_register]

/-- Where `I` is after a transfer, as a number. -/
theorem indexPast_eq (m : Machine) (x : Register) :
    m.indexPast x =
      if m.profile.loadStoreIncrementsI then BitVec.ofNat 16 (m.index.toNat + x.toNat + 1)
      else m.index := by
  have hsum : BitVec.ofNat 16 (m.index.toNat + x.toNat + 1) = m.index + x.setWidth 16 + 1 := by
    rw [BitVec.ofNat_add, BitVec.ofNat_add, BitVec.ofNat_toNat, BitVec.ofNat_toNat,
      BitVec.setWidth_eq]
    rfl
  rw [indexPast, hsum]

/-- `FX55` writes the memory as the loop does, and moves `I` as the profile says. -/
theorem execute_store (m : Machine) (x : Register) :
    m.execute (Instruction.store x).word =
      { m with memory := m.storeLoop x, index := m.indexPast x } := by
  rw [execute_word, storeLoop_eq]
  rfl

/-- `FX65` writes the registers as the loop does, and moves `I` as the profile says. -/
theorem execute_load (m : Machine) (x : Register) :
    m.execute (Instruction.load x).word =
      { m with v := m.loadLoop x, index := m.indexPast x } := by
  rw [execute_word, loadLoop_eq]
  rfl

/-- A cell up to that of `VX` holds its register after a store. -/
theorem get_storeLoop (m : Machine) (hk : k ≤ x) :
    (m.storeLoop x).get (cellOf m.index k) = m.v.get k := by
  have hcount : x.toNat + 1 ≤ 2 ^ 12 := Nat.le_trans (count_le x) (by decide)
  rw [storeLoop_eq, cellOf_eq, Table.get_write_read_ofNat _ _ _ _ hcount (lt_count hk),
    BitVec.ofNat_toNat, BitVec.setWidth_eq, zero_add_register]

/-- A cell that belongs to none of the registers up to `VX` is kept by a store. -/
theorem get_storeLoop_of_forall_ne {a : Address} (ha : ∀ k ≤ x, a ≠ cellOf m.index k) :
    (m.storeLoop x).get a = m.memory.get a := by
  rw [storeLoop_eq]
  apply Table.get_write_of_forall_ne
  intro k hk hcell
  rw [Table.length_read] at hk
  apply not_lt_distance ha
  rw [hcell, BitVec.add_comm, BitVec.add_sub_cancel, BitVec.toNat_ofNat]
  exact Nat.lt_of_le_of_lt (Nat.mod_le _ _) hk

/-- A register up to `VX` holds its cell after a load. -/
theorem get_loadLoop (m : Machine) (hk : k ≤ x) :
    (m.loadLoop x).get k = m.memory.get (cellOf m.index k) := by
  have hcopied := Table.get_write_read_ofNat m.v m.memory 0 (addressOf m.index) (count_le x)
    (lt_count hk)
  rwa [BitVec.ofNat_toNat, BitVec.setWidth_eq, zero_add_register, ← loadLoop_eq, ← cellOf_eq]
    at hcopied

/-- A register past `VX` is kept by a load. -/
theorem get_loadLoop_of_lt (m : Machine) (hk : x < k) : (m.loadLoop x).get k = m.v.get k := by
  rw [loadLoop_eq]
  apply Table.get_write_of_forall_ne
  rintro j hj rfl
  rw [Table.length_read] at hj
  have hwidth : j < 2 ^ 4 := Nat.lt_of_lt_of_le hj (count_le x)
  rw [zero_add_register, BitVec.lt_def, BitVec.toNat_ofNat, Nat.mod_eq_of_lt hwidth] at hk
  exact Nat.not_le_of_lt hk (Nat.le_of_lt_succ hj)

/-! ## All cells at once -/

/-- Of the sixteen cells that are written at once, those past `VX` hold what they held. -/
theorem get_storeWindow (m : Machine) (x k : Register) :
    (m.storeWindow x).get (cellOf m.index k) =
      if k ≤ x then m.v.get k else m.memory.get (cellOf m.index k) := by
  have hcount : registerCount ≤ 2 ^ 12 := by decide
  have hcopied := Table.get_write_read_ofNat m.memory (m.windowBytes x) (addressOf m.index) 0
    hcount k.isLt
  rwa [← cellOf_eq, BitVec.ofNat_toNat, BitVec.setWidth_eq, zero_add_register, windowBytes,
    Table.get_ofFn] at hcopied

/-- A cell outside the sixteen is not written. -/
theorem get_storeWindow_of_forall_ne {a : Address} (ha : ∀ k, a ≠ cellOf m.index k) :
    (m.storeWindow x).get a = m.memory.get a := by
  apply Table.get_write_of_forall_ne
  intro k hk hcell
  rw [Table.length_read] at hk
  have hwidth : k < 2 ^ 4 := hk
  apply ha (BitVec.ofNat 4 k)
  rw [hcell, cellOf_eq, BitVec.toNat_ofNat, Nat.mod_eq_of_lt hwidth]

/-- The sixteen cells are different ones. So to write all of them is to write those of the
registers up to `VX`. -/
theorem storeWindow_eq (m : Machine) (x : Register) : m.storeWindow x = m.storeLoop x := by
  ext a : 1
  by_cases hcell : ∃ k, a = cellOf m.index k
  · obtain ⟨k, rfl⟩ := hcell
    rw [get_storeWindow]
    split
    next hk => rw [get_storeLoop m hk]
    next hk =>
      symm
      apply get_storeLoop_of_forall_ne
      rintro j hj hsame
      rw [cellOf_inj.1 hsame] at hk
      exact hk hj
  · rw [not_exists] at hcell
    rw [get_storeWindow_of_forall_ne hcell, get_storeLoop_of_forall_ne fun k _ => hcell k]

/-- To load from all sixteen cells at once is to load the registers one by one. -/
theorem loadWindow_eq (m : Machine) (x : Register) : m.loadWindow x = m.loadLoop x := by
  ext k : 1
  rw [loadWindow, Table.get_ofFn]
  split
  next hk => rw [get_loadLoop m hk]
  next hk => rw [get_loadLoop_of_lt m (BitVec.not_le.1 hk)]

/-! ## There and back -/

/-- What a store has left in the cells is loaded again, by a machine with the same `I`. -/
theorem get_loadLoop_of_stored {n : Machine} (hindex : n.index = m.index)
    (hcells : ∀ k ≤ x, n.memory.get (cellOf m.index k) = (m.storeLoop x).get (cellOf m.index k))
    (hk : k ≤ x) : (n.loadLoop x).get k = m.v.get k := by
  rw [get_loadLoop n hk, hindex, hcells k hk, get_storeLoop m hk]

/-- What a load has put into the registers is what the cells hold, and to store it again changes
nothing. -/
theorem storeLoop_of_loaded {n : Machine} (hindex : n.index = m.index)
    (hmemory : n.memory = m.memory) (hv : ∀ k ≤ x, n.v.get k = (m.loadLoop x).get k) :
    n.storeLoop x = m.memory := by
  ext a : 1
  by_cases hcell : ∃ k, k ≤ x ∧ a = cellOf m.index k
  · obtain ⟨k, hk, rfl⟩ := hcell
    rw [← hindex, get_storeLoop n hk, hv k hk, get_loadLoop m hk, hindex]
  · have hnone : ∀ k ≤ x, a ≠ cellOf n.index k := by
      intro k hk ha
      exact hcell ⟨k, hk, by rw [ha, hindex]⟩
    rw [get_storeLoop_of_forall_ne hnone, hmemory]

/-- Storing and loading registers move one byte after another. A store puts the registers up to `VX`
into the cells from `I` on, whether it writes these or all sixteen, and keeps the other cells and
the registers. A load takes the registers up to `VX` from there, and keeps the others and the
memory. Both move `I` past the cells if the profile asks for it, and change nothing else. To load
what has been stored restores the registers, whatever has become of them since, and to store what
has been loaded keeps the memory. -/
theorem transfer_eq_loops (m : Machine) (x : Register) :
    let index := if m.profile.loadStoreIncrementsI then
      BitVec.ofNat 16 (m.index.toNat + x.toNat + 1) else m.index
    let stored := m.execute (Instruction.store x).word
    let loaded := m.execute (Instruction.load x).word
    (stored = { m with memory := m.storeLoop x, index := index } ∧
        stored.memory = m.storeWindow x ∧
        (∀ k ≤ x, stored.memory.get (cellOf m.index k) = m.v.get k) ∧
        ∀ a, (∀ k ≤ x, a ≠ cellOf m.index k) → stored.memory.get a = m.memory.get a) ∧
      (loaded = { m with v := m.loadLoop x, index := index } ∧
        loaded.v = m.loadWindow x ∧
        (∀ k ≤ x, loaded.v.get k = m.memory.get (cellOf m.index k)) ∧
        ∀ k, x < k → loaded.v.get k = m.v.get k) ∧
      (∀ n : Machine, n.index = m.index →
        (∀ k ≤ x, n.memory.get (cellOf m.index k) = stored.memory.get (cellOf m.index k)) →
        ∀ k ≤ x, (n.execute (Instruction.load x).word).v.get k = m.v.get k) ∧
      ∀ n : Machine, n.index = m.index → n.memory = loaded.memory →
        (∀ k ≤ x, n.v.get k = loaded.v.get k) →
        (n.execute (Instruction.store x).word).memory = loaded.memory := by
  intro index stored loaded
  have hpast : m.indexPast x = index := indexPast_eq m x
  have hstored : stored = { m with memory := m.storeLoop x, index := index } := by
    rw [← hpast]
    exact execute_store m x
  have hloaded : loaded = { m with v := m.loadLoop x, index := index } := by
    rw [← hpast]
    exact execute_load m x
  refine ⟨⟨hstored, ?_, ?_, ?_⟩, ⟨hloaded, ?_, ?_, ?_⟩, ?_, ?_⟩
  · rw [hstored, storeWindow_eq]
  · intro k hk
    rw [hstored]
    exact get_storeLoop m hk
  · intro a ha
    rw [hstored]
    exact get_storeLoop_of_forall_ne ha
  · rw [hloaded, loadWindow_eq]
  · intro k hk
    rw [hloaded]
    exact get_loadLoop m hk
  · intro k hk
    rw [hloaded]
    exact get_loadLoop_of_lt m hk
  · -- the two round trips, each with whatever else has changed in between
    intro n hindex hcells k hk
    rw [hstored] at hcells
    rw [execute_load]
    exact get_loadLoop_of_stored hindex hcells hk
  · intro n hindex hmemory hv
    rw [hloaded] at hmemory hv
    rw [hloaded, execute_store]
    exact storeLoop_of_loaded (m := m) hindex hmemory hv

/-- A machine that stores three registers in the last cell of the memory and the first two. -/
def acrossMemoryEnd : Machine :=
  { create .zero .cosmacVip with
    index := 0xFFF
    v := (Table.replicate 4 0x77).write 0 [0x11, 0x22, 0x33] }

/-- Three registers are stored around the end of the memory, are loaded back from there after they
have been cleared, and can be stored again with no effect. -/
theorem transfer_eq_loops_acrossMemoryEnd :
    let stored := acrossMemoryEnd.execute (Instruction.store 2).word
    let cleared := { stored with index := acrossMemoryEnd.index, v := Table.replicate 4 0 }
    let loaded := cleared.execute (Instruction.load 2).word
    let rewound := { loaded with index := acrossMemoryEnd.index }
    stored.memory.get 0x000 = 0x22 ∧ stored.memory.get 0x002 = 0 ∧ stored.index = 0x1002 ∧
      loaded.v.get 2 = 0x33 ∧
      (rewound.execute (Instruction.store 2).word).memory = loaded.memory := by
  intro stored cleared loaded rewound
  obtain ⟨⟨hstored, -, hcells, hothers⟩, -, hload, -⟩ := transfer_eq_loops acrossMemoryEnd 2
  obtain ⟨-, -, -, hstore⟩ := transfer_eq_loops cleared 2
  refine ⟨(hcells 1 (by decide)).trans (by decide), (hothers 0x002 (by decide)).trans (by decide),
    ?_, ?_, ?_⟩
  · exact (congrArg Machine.index hstored).trans (by decide)
  · exact (hload cleared rfl (fun _ _ => rfl) 2 (by decide)).trans (by decide)
  · exact hstore rewound rfl rfl fun _ _ => rfl

end Machine

end Chip8
