import Chip8.Proofs.Footprint

/-!
# Records laid end to end

Under a profile in which `FX55` and `FX65` move `I`, a program can store records of registers one
after another, each of its own size, and load them back in the same order once `I` is at the start
again. In memory the records are one list of bytes from `I` on, which may run past the last cell
and go on at the first. As long as it does not reach its own beginning, no record disturbs another.

* `Machine.storeAll_eq`: storing records is one write of all their bytes.
* `Machine.loadAll_eq`: loading records moves `I` and fills registers, and does nothing else.
* `Machine.read_storeAll`: the bytes of a record are where its load will look for them.
* `Machine.records_loaded_as_stored`: the round trip of any number of records.
-/

namespace Chip8

/-- A record of the registers up to a last one, which is stored and loaded back later. -/
structure Record where
  /-- What the registers hold when the record is stored. -/
  contents : Registers
  /-- The last register of the record. -/
  last : Register
  /-- What becomes of the registers before the record is loaded back. -/
  meanwhile : Registers → Registers

namespace Record

/-- The number of registers in a record. -/
def size (r : Record) : Nat :=
  r.last.toNat + 1

/-- The bytes of a record. -/
def bytes (r : Record) : List Byte :=
  r.contents.read 0 r.size

/-- The number of bytes in records laid end to end. -/
def totalSize : List Record → Nat
  | [] => 0
  | r :: rs => r.size + totalSize rs

@[simp]
theorem length_bytes (r : Record) : r.bytes.length = r.size :=
  Table.length_read _ _ _

/-- Records laid end to end take as many cells as their sizes add up to. -/
theorem length_flatMap_bytes (rs : List Record) : (rs.flatMap bytes).length = totalSize rs := by
  induction rs with
  | nil => rfl
  | cons r rs ih => rw [List.flatMap_cons, List.length_append, ih, length_bytes, totalSize]

end Record

namespace Machine

/-- Puts the contents of a record into the registers and executes `FX55`. -/
def storeRecord (m : Machine) (r : Record) : Machine :=
  { m with v := r.contents }.execute (Instruction.store r.last).word

/-- Does to the registers what becomes of them meanwhile, and executes `FX65`. -/
def loadRecord (m : Machine) (r : Record) : Machine :=
  { m with v := r.meanwhile m.v }.execute (Instruction.load r.last).word

/-- Stores records one after another. -/
def storeAll (m : Machine) (rs : List Record) : Machine :=
  rs.foldl storeRecord m

/-- Loads records one after another. -/
def loadAll (m : Machine) (rs : List Record) : Machine :=
  rs.foldl loadRecord m

variable {m : Machine}

/-! ## One record -/

/-- To move past a record is to move by its size. -/
theorem indexPast_of_increments (hmove : m.profile.loadStoreIncrementsI = true) (r : Record) :
    m.indexPast r.last = m.index + BitVec.ofNat 16 r.size := by
  have hsize : BitVec.ofNat 16 r.size = r.last.setWidth 16 + 1 := by
    rw [Record.size, BitVec.ofNat_add, BitVec.ofNat_toNat]
    rfl
  rw [indexPast, if_pos hmove, hsize, BitVec.add_assoc]

/-- A record that is stored is one write of its bytes, and `I` is past them. -/
theorem storeRecord_eq (hmove : m.profile.loadStoreIncrementsI = true) (r : Record) :
    m.storeRecord r =
      { m with
        v := r.contents
        memory := m.memory.write (addressOf m.index) r.bytes
        index := m.index + BitVec.ofNat 16 r.size } := by
  rw [storeRecord, execute_word, ← indexPast_of_increments hmove r]
  rfl

/-- A record that is loaded fills its registers from `I` on, and `I` is past it. -/
theorem loadRecord_eq (hmove : m.profile.loadStoreIncrementsI = true) (r : Record) :
    m.loadRecord r =
      { m with
        v := (r.meanwhile m.v).write 0 (m.memory.read (addressOf m.index) r.size)
        index := m.index + BitVec.ofNat 16 r.size } := by
  rw [loadRecord, execute_word, ← indexPast_of_increments hmove r]
  rfl

/-! ## Many records -/

/-- Storing records is one write of all their bytes. -/
theorem storeAll_eq (hmove : m.profile.loadStoreIncrementsI = true) (rs : List Record) :
    m.storeAll rs =
      { m with
        v := (m.storeAll rs).v
        memory := m.memory.write (addressOf m.index) (rs.flatMap Record.bytes)
        index := m.index + BitVec.ofNat 16 (Record.totalSize rs) } := by
  induction rs generalizing m with
  | nil => simp [storeAll, Table.write, Record.totalSize]
  | cons r rs ih =>
    -- the first record moves `I` to where the others begin
    have hfirst := storeRecord_eq hmove r
    have hrest := ih (m := m.storeRecord r) (by rw [hfirst]; exact hmove)
    rw [storeAll, List.foldl_cons, ← storeAll, hrest, hfirst]
    simp only [List.flatMap_cons, Table.write_append, addressOf_add, addressOf_ofNat,
      Record.length_bytes, Record.totalSize, BitVec.ofNat_add, BitVec.add_assoc]

/-- Loading records moves `I` and fills registers, and does nothing else. -/
theorem loadAll_eq (hmove : m.profile.loadStoreIncrementsI = true) (rs : List Record) :
    m.loadAll rs =
      { m with
        v := (m.loadAll rs).v
        index := m.index + BitVec.ofNat 16 (Record.totalSize rs) } := by
  -- as before, but the memory stays
  induction rs generalizing m with
  | nil => simp [loadAll, Record.totalSize]
  | cons r rs ih =>
    have hfirst := loadRecord_eq hmove r
    have hrest := ih (m := m.loadRecord r) (by rw [hfirst]; exact hmove)
    rw [loadAll, List.foldl_cons, ← loadAll, hrest, hfirst]
    simp only [Record.totalSize, BitVec.ofNat_add, BitVec.add_assoc]

/-- A load fills the registers up to its last one from the cells at `I`, and keeps the others. -/
theorem get_v_loadRecord (hmove : m.profile.loadStoreIncrementsI = true) {r : Record}
    (hbytes : m.memory.read (addressOf m.index) r.size = r.bytes) (x : Register) :
    (m.loadRecord r).v.get x =
      if x ≤ r.last then r.contents.get x else (r.meanwhile m.v).get x := by
  have hsize : r.size ≤ 2 ^ 4 := r.last.isLt
  have hreach : (x - 0).toNat < r.size ↔ x ≤ r.last := by
    have hdistance : x - 0 = x := BitVec.sub_zero x
    rw [hdistance, Record.size, Nat.lt_succ_iff, BitVec.le_def]
  rw [loadRecord_eq hmove, hbytes, Record.bytes]
  simp only [Table.get_write_read _ _ _ _ hsize, hreach]

/-! ## The round trip -/

/-- What has been stored is in memory where a load will look for it. -/
theorem read_storeAll (hmove : m.profile.loadStoreIncrementsI = true) {before after : List Record}
    {r : Record} (hfit : Record.totalSize (before ++ r :: after) ≤ Memory.size) :
    (m.storeAll (before ++ r :: after)).memory.read
        (addressOf (m.index + BitVec.ofNat 16 (Record.totalSize before))) r.size = r.bytes := by
  have hbytes : (before ++ r :: after).flatMap Record.bytes =
      before.flatMap Record.bytes ++ r.bytes ++ after.flatMap Record.bytes := by
    rw [List.flatMap_append, List.flatMap_cons, List.append_assoc]
  have hlength : (before.flatMap Record.bytes ++ r.bytes ++ after.flatMap Record.bytes).length ≤
      2 ^ 12 := by
    rw [← hbytes, Record.length_flatMap_bytes]
    exact hfit
  rw [storeAll_eq hmove, hbytes, addressOf_add, addressOf_ofNat, ← Record.length_bytes,
    ← Record.length_flatMap_bytes before]
  exact Table.read_write_append _ _ _ _ _ hlength

/-- The round trip of records that fit into the memory. Each record is loaded with the contents
that it was stored with, and the registers past its last one are kept. After the stores, and again
after the loads, `I` is just past the records, and no cell outside them has changed. -/
theorem records_loaded_as_stored (hmove : m.profile.loadStoreIncrementsI = true)
    (rs : List Record) (hfit : Record.totalSize rs ≤ Memory.size) :
    let stored := m.storeAll rs
    let rewound := { stored with index := m.index }
    let loaded := rewound.loadAll rs
    (∀ before r after, rs = before ++ r :: after → ∀ x,
      (rewound.loadAll (before ++ [r])).v.get x =
        if x ≤ r.last then r.contents.get x
        else (r.meanwhile (rewound.loadAll before).v).get x) ∧
      stored.index = m.index + BitVec.ofNat 16 (Record.totalSize rs) ∧
      loaded.index = m.index + BitVec.ofNat 16 (Record.totalSize rs) ∧
      ∀ a ∉ cellsFrom m.index (Record.totalSize rs),
        stored.memory.get a = m.memory.get a ∧ loaded.memory.get a = m.memory.get a := by
  intro stored rewound loaded
  have hstored : stored = _ := storeAll_eq hmove rs
  have hrewound : rewound.profile.loadStoreIncrementsI = true := by
    show stored.profile.loadStoreIncrementsI = true
    rw [hstored]
    exact hmove
  have hloaded : loaded = _ := loadAll_eq hrewound rs
  refine ⟨?_, by rw [hstored], by rw [hloaded], fun a ha => ?_⟩
  · rintro before r after rfl x
    -- the loads before have moved `I` to the record and have left the memory alone
    have hbefore := loadAll_eq hrewound before
    rw [loadAll, List.foldl_append, List.foldl_cons, List.foldl_nil, ← loadAll]
    apply get_v_loadRecord
    · rw [hbefore]
      exact hrewound
    · rw [hbefore]
      exact read_storeAll hmove hfit
  · -- only the stores write, and they write these cells
    have hkept : stored.memory.get a = m.memory.get a := by
      rw [hstored]
      apply Table.get_write_of_forall_ne
      rw [Record.length_flatMap_bytes]
      exact fun k hk hcell => ha (mem_cellsFrom.2 ⟨k, hk, hcell⟩)
    refine ⟨hkept, ?_⟩
    rw [hloaded]
    exact hkept

/-- A machine whose `I` is two cells before the end of the memory. -/
def nearMemoryEnd : Machine :=
  { create .zero .cosmacVip with index := 0xFFE }

/-- A record of three registers and one of two. The second is loaded back into registers that have
been overwritten. -/
def threeThenTwo : List Record :=
  [⟨(Table.replicate 4 0).write 0 [0x11, 0x22, 0x33], 2, id⟩,
    ⟨Table.replicate 4 0x44, 1, fun _ => Table.replicate 4 0xFF⟩]

theorem records_loaded_as_stored_nearMemoryEnd :
    let stored := nearMemoryEnd.storeAll threeThenTwo
    let loaded := { stored with index := nearMemoryEnd.index }.loadAll threeThenTwo
    loaded.v.get 1 = 0x44 ∧ loaded.v.get 2 = 0xFF ∧ loaded.index = 0x1003 ∧
      loaded.memory.get 0x003 = nearMemoryEnd.memory.get 0x003 := by
  intro stored loaded
  obtain ⟨hregisters, -, hindex, hmemory⟩ :=
    records_loaded_as_stored (m := nearMemoryEnd) rfl threeThenTwo (by decide)
  have hlast := hregisters (threeThenTwo.take 1) threeThenTwo[1] [] rfl
  refine ⟨(hlast 1).trans (by decide), (hlast 2).trans (by decide), hindex.trans (by decide), ?_⟩
  exact (hmemory 0x003 (by decide)).2

end Machine

end Chip8
