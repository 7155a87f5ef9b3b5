import Chip8.Proofs.Listing

/-!
# Words wider than sixteen bits

A word that is handed to the machine has 32 bits, and as a signed number it may be negative or
larger than any word in memory. All of its fields but the whole word are taken from its low half
(`Fields.ofWord_low_eq`), and they are the digits of that half (`Fields.IsSplit`). So a word
does what its low half does, unless the family is `0`: there the whole word is looked at, and one
that is not its own low half stands for nothing.

* `toNat_extractLsb'_add`: a stretch of bits as a number, from its lower and its upper part.
* `Machine.execute_congr`: words that stand for the same instruction do the same.
* `Machine.low_half_decides`: what the low half decides, and what it does not.
-/

namespace Chip8

-- Powers of natural numbers are those that `BitVec` is stated with, whatever else is in scope.
attribute [local instance (high)] instPowNat

/-- A stretch of bits is a number with two digits: the one that the upper bits make, and the one
that the lower bits make. -/
theorem toNat_extractLsb'_add {n : Nat} (w : BitVec n) (start low high : Nat) :
    2 ^ low * (w.extractLsb' (start + low) high).toNat + (w.extractLsb' start low).toNat =
      (w.extractLsb' start (low + high)).toNat := by
  -- a remainder by a product has the remainder by one factor as its lower digit
  rw [BitVec.extractLsb'_toNat, BitVec.extractLsb'_toNat, BitVec.extractLsb'_toNat,
    Nat.pow_add, Nat.mod_mul, Nat.shiftRight_add, Nat.shiftRight_eq_div_pow _ low, Nat.add_comm]

namespace Word

/-- The low half of a word, as a word. -/
def low (w : Word) : Word :=
  (w.setWidth 16).setWidth 32

theorem toNat_low (w : Word) : w.low.toNat = w.toNat % 0x10000 := by
  rw [low, BitVec.toNat_setWidth_of_le (by decide), BitVec.toNat_setWidth]

/-- The low half of a word is its remainder as a signed number, whatever its sign: the upper half
counts for a multiple of `0x10000`, and so does the sign. -/
theorem toInt_low (w : Word) : w.low.toInt = w.toInt % 0x10000 := by
  have hlow := toNat_low w
  rw [BitVec.toInt_eq_toNat_of_lt (by omega), BitVec.toInt_eq_toNat_cond]
  split <;> omega

end Word

namespace Fields

/-- The fields of a word are the digits of a number: the four nibbles to the base sixteen, and the
others out of these. -/
structure IsSplit (f : Fields) (number : Nat) : Prop where
  /-- The first nibble stands before the low twelve bits. -/
  opcode_nnn : 4096 * f.opcode.toNat + f.nnn.toNat = number
  /-- The second nibble stands before the low byte. -/
  x_nn : f.nnn.toNat = 256 * f.x.toNat + f.nn.toNat
  /-- The third nibble stands before the fourth. -/
  y_n : f.nn.toNat = 16 * f.y.toNat + f.n.toNat
  /-- The nibbles are digits. -/
  digits : f.opcode.toNat ≤ 15 ∧ f.x.toNat ≤ 15 ∧ f.y.toNat ≤ 15 ∧ f.n.toNat ≤ 15

/-- The fields of a word are the digits of its low half. -/
theorem isSplit_ofWord (w : Word) : (ofWord w).IsSplit w.low.toNat where
  opcode_nnn := by
    have hlow : w.low.toNat = (w.extractLsb' 0 16).toNat := by
      rw [Word.toNat_low, BitVec.extractLsb'_toNat, Nat.shiftRight_zero]
    rw [hlow]
    exact toNat_extractLsb'_add w 0 12 4
  x_nn := (toNat_extractLsb'_add w 0 8 4).symm
  y_n := (toNat_extractLsb'_add w 0 4 4).symm
  digits := by
    omega

/-- All fields but the whole word are taken from the low half. -/
theorem ofWord_low_eq (w : Word) : ofWord w.low = { ofWord w with raw := w.low } := by
  rw [← ofWord_low w]
  rfl

end Fields

/-- Two words that stand for the same instruction, or for none, are both defined or both not. -/
theorem Word.isDefined_congr {w w' : Word}
    (h : Instruction.ofWord? w = Instruction.ofWord? w') : w.isDefined = w'.isDefined := by
  rw [isDefined_eq_isSome_ofWord?, isDefined_eq_isSome_ofWord?, h]

/-- In the family `0`, a word that is not its own low half stands for nothing. -/
theorem Word.isDefined_eq_false_of_ne_low {w : Word} (hfamily : (Fields.ofWord w).opcode = 0#4)
    (hwide : w ≠ w.low) : w.isDefined = false := by
  rw [← Bool.not_eq_true, isDefined_eq_isSome_ofWord?,
    Instruction.isSome_ofWord?_of_opcode_eq_zero hfamily]
  -- the two words of the family are their own low halves
  rintro (rfl | rfl) <;> exact hwide rfl

namespace Machine

/-- Words that stand for the same instruction do the same, and so do words that stand for none. -/
theorem execute_congr {w w' : Word} (h : Instruction.ofWord? w = Instruction.ofWord? w')
    (m : Machine) : m.execute w = m.execute w' := by
  cases hword : Instruction.ofWord? w with
  | some i => rw [execute_of_ofWord? hword, execute_of_ofWord? (h ▸ hword)]
  | none => rw [execute_of_ofWord?_eq_none hword, execute_of_ofWord?_eq_none (h ▸ hword)]

/-- What the low half of a word decides. The low half is the remainder of the word as a signed
number, and all fields but the whole word are its digits. Outside the family `0` the two are both
defined or both not, and do the same to any machine. In the family `0` a word that is not its own
low half is undefined: it is counted, modulo `2 ^ 32`, and changes nothing else, also if its low
half is `00E0` or `00EE`. -/
theorem low_half_decides (m : Machine) (w : Word) :
    w.low.toInt = w.toInt % 0x10000 ∧
      (Fields.ofWord w).raw = w ∧
      Fields.ofWord w.low = { Fields.ofWord w with raw := w.low } ∧
      (Fields.ofWord w).IsSplit w.low.toNat ∧
      ((Fields.ofWord w.low).opcode ≠ 0#4 →
        w.isDefined = w.low.isDefined ∧ m.execute w = m.execute w.low) ∧
      ((Fields.ofWord w.low).opcode = 0#4 → w ≠ w.low →
        w.isDefined = false ∧
          m.execute w = { m with decodeFailures := m.decodeFailures + 1 }) := by
  have hopcode : (Fields.ofWord w.low).opcode = (Fields.ofWord w).opcode := Fields.opcode_low w
  refine ⟨w.toInt_low, rfl, Fields.ofWord_low_eq w, Fields.isSplit_ofWord w, ?_, ?_⟩
  · -- in all other families the two words stand for the same instruction
    intro hfamily
    have hsame : Instruction.ofWord? w = Instruction.ofWord? w.low :=
      Instruction.ofWord?_low (hopcode ▸ hfamily)
    exact ⟨Word.isDefined_congr hsame, execute_congr hsame m⟩
  · -- in the family `0` a defined word is its own low half
    intro hfamily hwide
    have hundefined := Word.isDefined_eq_false_of_ne_low (hopcode ▸ hfamily) hwide
    refine ⟨hundefined, execute_of_ofWord?_eq_none ?_⟩
    rwa [Word.isDefined_eq_isSome_ofWord?, Option.isSome_eq_false_iff,
      Option.isNone_iff_eq_none] at hundefined

/-- A negative word does what its low half does, and a word that is too large clears no display. -/
theorem low_half_decides_wideWords :
    let m := create .zero .modern
    m.execute 0xFFFF6105 = m.execute 0x6105 ∧ Word.isDefined 0x100E0 = false ∧
      m.execute 0x100E0 = { m with decodeFailures := 1 } := by
  intro m
  obtain ⟨-, -, -, -, hother, -⟩ := low_half_decides m 0xFFFF6105
  obtain ⟨-, -, -, -, -, hsystem⟩ := low_half_decides m 0x100E0
  obtain ⟨hundefined, hcounted⟩ := hsystem (by decide) (by decide)
  exact ⟨(hother (by decide)).2, hundefined, hcounted⟩

end Machine

end Chip8
