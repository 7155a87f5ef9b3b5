import Chip8.Proofs.Transfer

/-!
# Decimal digits

`FX33` writes the hundreds, the tens and the ones of `VX` into the three cells from `I` on, and
`F265` takes the first three registers from there. The two go different ways about it: the digits
come out of divisions of bytes, the registers are a stretch of memory that is copied. They meet in
the three cells, also where these come around at the end of the memory.

* `Byte.value_decimalDigits`: the digits of a byte make up the byte.
* `Machine.read_execute_storeDecimal`: they are in memory in the order in which a load takes them.
* `Machine.decimals_stored_and_loaded`: what the two instructions do one after the other.
-/

namespace Chip8

namespace Byte

/-- The digits of a byte, each at its place, make up the byte. -/
theorem value_decimalDigits (b : Byte) :
    100 * (b / 100).toNat + 10 * (b / 10 % 10).toNat + (b % 10).toNat = b.toNat := by
  rw [BitVec.toNat_udiv, BitVec.toNat_umod, BitVec.toNat_udiv, BitVec.toNat_umod]
  have hhundred : (100 : Byte).toNat = 100 := rfl
  have hten : (10 : Byte).toNat = 10 := rfl
  rw [hhundred, hten]
  omega

/-- A byte has at most two hundreds, and a remainder by ten is a digit anyway. -/
theorem decimalDigits_le_nine (b : Byte) : ∀ d ∈ Machine.decimalDigits b, d.toNat ≤ 9 := by
  have hb : b.toNat < 2 ^ 8 := b.isLt
  have hhundred : (100 : Byte).toNat = 100 := rfl
  have hten : (10 : Byte).toNat = 10 := rfl
  simp only [Machine.decimalDigits, List.forall_mem_cons, BitVec.toNat_udiv, BitVec.toNat_umod,
    hhundred, hten]
  refine ⟨?_, ?_, ?_, List.forall_mem_nil _⟩ <;> omega

end Byte

namespace Machine

/-- `FX33` writes three digits at `I` and changes nothing else. -/
theorem execute_storeDecimal (m : Machine) (x : Register) :
    m.execute (Instruction.storeDecimal x).word =
      { m with memory := m.memory.write (addressOf m.index) (decimalDigits (m.v.get x)) } := by
  rw [execute_word]
  rfl

@[simp]
theorem length_decimalDigits (b : Byte) : (decimalDigits b).length = 3 := rfl

/-- The digits are in memory in the order in which they are read. -/
theorem read_execute_storeDecimal (m : Machine) (x : Register) :
    (m.execute (Instruction.storeDecimal x).word).memory.read (addressOf m.index) 3 =
      decimalDigits (m.v.get x) := by
  -- a write that ends before it comes around to its own beginning
  have hback := Table.read_write_append m.memory (addressOf m.index) [] (decimalDigits (m.v.get x))
    [] (by decide : 3 ≤ 2 ^ 12)
  rw [execute_storeDecimal]
  simpa using hback

/-- The cells of the digits are the only ones that change. -/
theorem get_execute_storeDecimal {m : Machine} {x : Register} {a : Address}
    (ha : a ∉ cellsFrom m.index 3) :
    (m.execute (Instruction.storeDecimal x).word).memory.get a = m.memory.get a := by
  rw [execute_word]
  exact get_memory_perform (i := .storeDecimal x) ha

/-- The digits go from the memory into the first three registers. Which register they were taken
from does not matter, not even if it is one of the three. -/
theorem v_load_execute_storeDecimal (m : Machine) (x : Register) :
    ((m.execute (Instruction.storeDecimal x).word).execute (Instruction.load 2).word).v =
      m.v.write 0 (decimalDigits (m.v.get x)) := by
  have hindex : (m.execute (Instruction.storeDecimal x).word).index = m.index := by
    rw [execute_storeDecimal]
  have hv : (m.execute (Instruction.storeDecimal x).word).v = m.v := by
    rw [execute_storeDecimal]
  rw [execute_load, loadLoop_eq, hindex, hv]
  -- the load takes one register more than the number in its word
  show m.v.write 0 ((m.execute _).memory.read _ 3) = _
  rw [read_execute_storeDecimal]

/-- What a register holds after the digits have been loaded. -/
theorem get_v_load_execute_storeDecimal (m : Machine) (x r : Register) :
    ((m.execute (Instruction.storeDecimal x).word).execute (Instruction.load 2).word).v.get r =
      ((decimalDigits (m.v.get x))[r.toNat]?).getD (m.v.get r) := by
  have hdistance : r - 0 = r := BitVec.sub_zero r
  rw [v_load_execute_storeDecimal, Table.get_write _ _ _ _ (by decide : 3 ≤ 2 ^ 4), hdistance]

/-- The decimal digits of a register can be stored and loaded again. A store of digits writes no
cells but the three from `I` on, and changes nothing else, neither a register nor `I`. The load
after it puts the digits into the first three registers: their value is what `VX` held at first,
whichever register that was. The others are kept, and so is the memory. -/
theorem decimals_stored_and_loaded (m : Machine) (x : Register) :
    let stored := m.execute (Instruction.storeDecimal x).word
    let loaded := stored.execute (Instruction.load 2).word
    stored = { m with memory := stored.memory } ∧
      (∀ a ∉ cellsFrom m.index 3, stored.memory.get a = m.memory.get a) ∧
      loaded = { stored with
        v := loaded.v
        index := if m.profile.loadStoreIncrementsI then m.index + 3 else m.index } ∧
      ((loaded.v.get 0).toNat ≤ 9 ∧ (loaded.v.get 1).toNat ≤ 9 ∧ (loaded.v.get 2).toNat ≤ 9) ∧
      100 * (loaded.v.get 0).toNat + 10 * (loaded.v.get 1).toNat + (loaded.v.get 2).toNat =
        (m.v.get x).toNat ∧
      ∀ r, 2 < r → loaded.v.get r = m.v.get r := by
  intro stored loaded
  have hstored : stored = { m with memory := stored.memory } := by
    show m.execute _ = { m with memory := (m.execute _).memory }
    rw [execute_storeDecimal]
  have hpast : stored.indexPast 2 =
      if m.profile.loadStoreIncrementsI then m.index + 3 else m.index := by
    rw [hstored, indexPast, BitVec.add_assoc]
    rfl
  have hdigit (r : Register) : loaded.v.get r =
      ((decimalDigits (m.v.get x))[r.toNat]?).getD (m.v.get r) :=
    get_v_load_execute_storeDecimal m x r
  have hhundreds : loaded.v.get 0 = m.v.get x / 100 := hdigit 0
  have htens : loaded.v.get 1 = m.v.get x / 10 % 10 := hdigit 1
  have hones : loaded.v.get 2 = m.v.get x % 10 := hdigit 2
  refine ⟨hstored, fun a ha => get_execute_storeDecimal ha, ?_, ?_, ?_, ?_⟩
  · rw [← hpast]
    show stored.execute _ = { stored with v := (stored.execute _).v, index := _ }
    rw [execute_load]
  · rw [hhundreds, htens, hones]
    simpa [decimalDigits] using Byte.decimalDigits_le_nine (m.v.get x)
  · rw [hhundreds, htens, hones]
    exact Byte.value_decimalDigits _
  · intro r hr
    -- there are no more than three digits
    rw [hdigit, List.getElem?_eq_none (BitVec.lt_def.1 hr), Option.getD_none]

/-- A machine whose `I` refers to the last cell but one, by a number that is larger than any
address, and whose register `V1` is to be written in decimal. -/
def countingNearMemoryEnd : Machine :=
  { create .zero .cosmacVip with
    index := 0xFFFE
    v := (Table.replicate 4 0x77).write 0 [0x11, 234] }

/-- The digits of 234 come around the end of the memory and are loaded back from there, with `I`
moved on by three. -/
theorem decimals_stored_and_loaded_nearMemoryEnd :
    let stored := countingNearMemoryEnd.execute (Instruction.storeDecimal 1).word
    let loaded := stored.execute (Instruction.load 2).word
    stored.memory.get 0x001 = 0 ∧ loaded.index = 0x0001 ∧
      100 * (loaded.v.get 0).toNat + 10 * (loaded.v.get 1).toNat + (loaded.v.get 2).toNat = 234 ∧
      loaded.v.get 3 = 0x77 := by
  intro stored loaded
  obtain ⟨-, hcells, hloaded, -, hvalue, hothers⟩ :=
    decimals_stored_and_loaded countingNearMemoryEnd 1
  refine ⟨(hcells 0x001 (by decide)).trans (by decide), ?_, hvalue, ?_⟩
  · exact (congrArg Machine.index hloaded).trans (by decide)
  · exact (hothers 3 (by decide)).trans (by decide)

end Machine

end Chip8
