import Chip8.Proofs.Loading

/-!
# Loading in chunks

A load puts all of its bytes into memory or none. It is refused exactly if some byte would have no
cell, or if there is no byte and the offset lies outside the memory
(`Machine.exists_load_error_iff`), and that does not depend on what is in memory.
`Machine.IsLoaded` says what a load that is granted has done, cell by cell.

* `Machine.load_append_iff`: a program may be loaded in chunks, one after another.
* `Machine.IsLoaded.comm`: loads that do not meet in any cell can be exchanged.
* `Machine.load_all_or_nothing`: these laws together.
-/

namespace Chip8

namespace Machine

/-- What a load has done: the bytes are in the cells from the offset on, and nothing else has
changed. -/
structure IsLoaded (m : Machine) (offset : Int) (bytes : List Byte) (n : Machine) : Prop where
  /-- Each byte is in its cell. -/
  inside : ∀ (a : Address) (i : Nat) (hi : i < bytes.length),
    (a.toNat : Int) = offset + i → n.memory.get a = bytes[i]
  /-- The other cells are as they were. -/
  outside : ∀ a : Address, (∀ i < bytes.length, (a.toNat : Int) ≠ offset + i) →
    n.memory.get a = m.memory.get a
  /-- Nothing but the memory changes. -/
  rest : n = { m with memory := n.memory }

/-- Two loads meet in no cell. -/
def Apart (offset : Int) (a : List Byte) (offset' : Int) (b : List Byte) : Prop :=
  ∀ i < a.length, ∀ j < b.length, offset + i ≠ offset' + j

variable {m n n' k : Machine} {offset offset' : Int} {a b bytes : List Byte}

/-! ## Refused loads -/

/-- Why a load is refused. An offset that is no cell and not the end of the memory is found out
first. -/
theorem load_eq_error_iff {e : LoadError} :
    m.load offset bytes = .error e ↔
      ((offset < 0 ∨ Memory.size < offset) ∧ e = .offsetOutside offset) ∨
        (0 ≤ offset ∧ offset ≤ Memory.size ∧ Memory.size < offset + bytes.length ∧
          e = .tooLong bytes.length offset) := by
  rw [load]
  -- the offset is looked at first, so a load has one reason to be refused and not two
  split
  next houtside =>
    rw [Except.error.injEq, eq_comm]
    constructor
    · intro h
      exact .inl ⟨houtside, h⟩
    · rintro (⟨-, h⟩ | ⟨hnonneg, hinside, -⟩)
      · exact h
      · omega
  next hinside =>
    split
    next htoo =>
      rw [Except.error.injEq, eq_comm]
      constructor
      · intro h
        exact .inr ⟨by omega, by omega, htoo, h⟩
      · rintro (⟨houtside, -⟩ | ⟨-, -, -, h⟩)
        · exact absurd houtside hinside
        · exact h
    next hfit =>
      constructor
      · intro h
        cases h
      · rintro (⟨houtside, -⟩ | ⟨-, -, htoo, -⟩)
        · exact absurd houtside hinside
        · exact absurd htoo hfit

/-- A load is refused exactly if its bytes do not all fit between its offset and the end of the
memory. -/
theorem exists_load_error_iff :
    (∃ e, m.load offset bytes = .error e) ↔ offset < 0 ∨ Memory.size < offset + bytes.length := by
  simp only [load_eq_error_iff]
  constructor
  · rintro ⟨e, ⟨houtside, -⟩ | ⟨-, -, htoo, -⟩⟩ <;> omega
  · intro h
    by_cases houtside : offset < 0 ∨ Memory.size < offset
    · exact ⟨_, .inl ⟨houtside, rfl⟩⟩
    · exact ⟨_, .inr ⟨by omega, by omega, by omega, rfl⟩⟩

/-! ## Granted loads -/

/-- Whether a load is granted does not depend on the machine. -/
theorem exists_load_of_load (h : m.load offset bytes = .ok n) (m' : Machine) :
    ∃ n', m'.load offset bytes = .ok n' := by
  obtain ⟨hnonneg, hfit, -⟩ := load_eq_ok_iff.1 h
  exact ⟨_, load_eq_ok_iff.2 ⟨hnonneg, hfit, rfl⟩⟩

/-- A load that is granted has put its bytes in place and changed nothing else. -/
theorem isLoaded_of_load (h : m.load offset bytes = .ok n) : m.IsLoaded offset bytes n where
  inside a i hi ha := by
    have hcell : a = BitVec.ofInt 12 (offset + i) := by
      rw [← ha, BitVec.ofInt_natCast, BitVec.ofNat_toNat, BitVec.setWidth_eq]
    rw [hcell, get_memory_of_load h hi]
  outside a ha := by
    obtain ⟨hnonneg, hfit, rfl⟩ := load_eq_ok_iff.1 h
    apply Table.get_write_of_forall_ne
    rintro i hi rfl
    -- the bytes do not come around the end, so a cell that is written has a number in the range
    apply ha i hi
    rw [← BitVec.ofInt_natCast, ← BitVec.ofInt_add, BitVec.toNat_ofInt]
    have hsize : ((2 ^ 12 : Nat) : Int) = Memory.size := rfl
    omega
  rest := by
    obtain ⟨-, -, rfl⟩ := load_eq_ok_iff.1 h
    rfl

/-- Two chunks that follow one another can be loaded one after the other. -/
theorem load_append_iff :
    m.load offset (a ++ b) = .ok n ↔
      ∃ k, m.load offset a = .ok k ∧ k.load (offset + a.length) b = .ok n := by
  have hstart : BitVec.ofInt 12 (offset + a.length) =
      BitVec.ofInt 12 offset + BitVec.ofNat 12 a.length := by
    rw [BitVec.ofInt_add, BitVec.ofInt_natCast]
  simp only [load_eq_ok_iff, List.length_append, Table.write_append, ← hstart]
  -- the bounds are left: the first chunk fits if the second does, since it ends where that begins
  constructor
  · rintro ⟨hnonneg, hfit, rfl⟩
    exact ⟨_, ⟨hnonneg, by omega, rfl⟩, by omega, by omega, rfl⟩
  · rintro ⟨k, ⟨hnonneg, -, rfl⟩, -, hfit, rfl⟩
    exact ⟨hnonneg, by omega, rfl⟩

namespace IsLoaded

/-- Loads that meet in no cell can be exchanged. -/
theorem comm {l : Machine} (hapart : Apart offset a offset' b) (hn : m.IsLoaded offset a n)
    (hk : n.IsLoaded offset' b k) (hn' : m.IsLoaded offset' b n') (hl : n'.IsLoaded offset a l) :
    k = l := by
  have hmemory : k.memory = l.memory := by
    ext c : 1
    -- a cell is written by the one load, by the other or by neither, but never by both
    by_cases ha : ∃ i < a.length, (c.toNat : Int) = offset + i
    · obtain ⟨i, hi, hc⟩ := ha
      have hb : ∀ j < b.length, (c.toNat : Int) ≠ offset' + j := by
        intro j hj h
        exact hapart i hi j hj (hc.symm.trans h)
      rw [hk.outside c hb, hn.inside c i hi hc, hl.inside c i hi hc]
    · simp only [not_exists, not_and] at ha
      by_cases hb : ∃ j < b.length, (c.toNat : Int) = offset' + j
      · obtain ⟨j, hj, hc⟩ := hb
        rw [hk.inside c j hj hc, hl.outside c ha, hn'.inside c j hj hc]
      · simp only [not_exists, not_and] at hb
        rw [hk.outside c hb, hn.outside c ha, hl.outside c ha, hn'.outside c hb]
  rw [hk.rest, hn.rest, hl.rest, hn'.rest, hmemory]

/-- Of two loads, the later one wins where they meet, and the earlier one is kept elsewhere. -/
theorem get_memory_of_earlier (hn : m.IsLoaded offset a n) (hk : n.IsLoaded offset' b k)
    {c : Address} {i : Nat} (hi : i < a.length) (hc : (c.toNat : Int) = offset + i)
    (hlater : ∀ j < b.length, (c.toNat : Int) ≠ offset' + j) : k.memory.get c = a[i] := by
  rw [hk.outside c hlater, hn.inside c i hi hc]

end IsLoaded

/-- Loads put all of their bytes into memory or none. A load is refused exactly if its offset is
negative or its bytes reach past the end of the memory; otherwise each byte is in its cell, and
nothing else has changed. Two chunks can be loaded at once exactly if they can be loaded one after
the other, with the same outcome. Of two loads that are granted, the later one wins in the cells
where they meet; if they meet in none, their order does not matter. -/
theorem load_all_or_nothing (m : Machine) (offset : Int) (a b : List Byte) :
    ((∃ e, m.load offset a = .error e) ↔ offset < 0 ∨ Memory.size < offset + a.length) ∧
      (∀ n, m.load offset a = .ok n → m.IsLoaded offset a n) ∧
      (∀ n, m.load offset (a ++ b) = .ok n ↔
        ∃ k, m.load offset a = .ok k ∧ k.load (offset + a.length) b = .ok n) ∧
      ∀ offset' n n', m.load offset a = .ok n → m.load offset' b = .ok n' →
        ∃ both, n.load offset' b = .ok both ∧
          (∀ (c : Address) (j : Nat) (hj : j < b.length),
            (c.toNat : Int) = offset' + j → both.memory.get c = b[j]) ∧
          (∀ (c : Address) (i : Nat) (hi : i < a.length), (c.toNat : Int) = offset + i →
            (∀ j < b.length, (c.toNat : Int) ≠ offset' + j) → both.memory.get c = a[i]) ∧
          (Apart offset a offset' b → n'.load offset a = .ok both) := by
  refine ⟨exists_load_error_iff, fun n => isLoaded_of_load, fun n => load_append_iff, ?_⟩
  intro offset' n n' ha hb
  -- each load is granted after the other one, too
  obtain ⟨both, hboth⟩ := exists_load_of_load hb n
  obtain ⟨other, hother⟩ := exists_load_of_load ha n'
  have hfirst := isLoaded_of_load ha
  have hsecond := isLoaded_of_load hboth
  refine ⟨both, hboth, hsecond.inside, ?_, ?_⟩
  · intro c i hi hc hlater
    exact hfirst.get_memory_of_earlier hsecond hi hc hlater
  · intro hapart
    rw [hother, hfirst.comm hapart hsecond (isLoaded_of_load hb) (isLoaded_of_load hother)]

/-- Three bytes that end with the memory, and a fourth that is loaded over the second of them. -/
theorem load_all_or_nothing_overlapping :
    ∃ n n' both, (create .zero .modern).load 0xFFD [0x11, 0x22, 0x33] = .ok n ∧
      (create .zero .modern).load 0xFFE [0x44] = .ok n' ∧ n.load 0xFFE [0x44] = .ok both ∧
      both.memory.get 0xFFE = 0x44 ∧ both.memory.get 0xFFF = 0x33 := by
  have hfirst : (create .zero .modern).load 0xFFD [0x11, 0x22, 0x33] = .ok _ :=
    load_eq_ok_iff.2 ⟨by decide, by decide, rfl⟩
  have hsecond : (create .zero .modern).load 0xFFE [0x44] = .ok _ :=
    load_eq_ok_iff.2 ⟨by decide, by decide, rfl⟩
  obtain ⟨-, -, -, htwice⟩ :=
    load_all_or_nothing (create .zero .modern) 0xFFD [0x11, 0x22, 0x33] [0x44]
  obtain ⟨both, hboth, hlater, hearlier, -⟩ := htwice 0xFFE _ _ hfirst hsecond
  exact ⟨_, _, both, hfirst, hsecond, hboth, hlater 0xFFE 0 (by decide) (by decide),
    hearlier 0xFFF 2 (by decide) (by decide) (by decide)⟩

end Machine

end Chip8
