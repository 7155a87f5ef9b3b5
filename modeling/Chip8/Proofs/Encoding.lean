import Chip8.Instruction.Basic
import Chip8.Instruction.Defined

/-!
# The words of instructions

`Instruction.word` writes an instruction as the word that programs hold for it. After the family
in its highest nibble a word goes on in one of three layouts: with an address
(`Word.ofAddress`), with a register and a byte (`Word.ofByte`), or with two registers and a nibble
(`Word.ofNibbles`).

* `Instruction.ofWord?_word`: a written instruction is read back.
* `Instruction.ofWord?_setWidth_eq_some_iff`: a fetched word, which has its upper 16 bits clear,
  stands for an instruction only if it is the word written for it.
* `Word.isDefined_eq_isSome_ofWord?`: the table of defined words lists the words that stand for an
  instruction.
-/

namespace Chip8

namespace Word

/-- The word `fNNN`. -/
def ofAddress (family : BitVec 4) (target : Address) : Word :=
  (family ++ target).setWidth 32

/-- The word `fXNN`. -/
def ofByte (family : BitVec 4) (x : Register) (value : Byte) : Word :=
  (family ++ x ++ value).setWidth 32

/-- The word `fXYN`. -/
def ofNibbles (family : BitVec 4) (x y : Register) (n : BitVec 4) : Word :=
  (family ++ x ++ y ++ n).setWidth 32

end Word

namespace Fields

open Word

/-! ## The fields of a layout -/

@[simp]
theorem raw_ofWord (w : Word) : (ofWord w).raw = w := rfl

/-- A word that is put together from a family and an address is of that family. -/
@[simp]
theorem opcode_ofAddress (family : BitVec 4) (target : Address) :
    (ofWord (ofAddress family target)).opcode = family := by
  simp only [ofWord, ofAddress]
  rw [BitVec.extractLsb'_setWidth_of_le (by decide), BitVec.extractLsb'_append_eq_left]

/-- The address that a word carries is read back whole. -/
@[simp]
theorem nnn_ofAddress (family : BitVec 4) (target : Address) :
    (ofWord (ofAddress family target)).nnn = target := by
  simp only [ofWord, ofAddress]
  rw [BitVec.extractLsb'_setWidth_of_le (by decide), BitVec.extractLsb'_append_eq_right]

@[simp]
theorem opcode_ofByte (family : BitVec 4) (x : Register) (value : Byte) :
    (ofWord (ofByte family x value)).opcode = family := by
  simp only [ofWord, ofByte]
  rw [BitVec.extractLsb'_setWidth_of_le (by decide), BitVec.extractLsb'_append_eq_of_le (by decide),
    BitVec.extractLsb'_append_eq_left]

/-- The register of a word that carries a byte is read back whole. -/
@[simp]
theorem x_ofByte (family : BitVec 4) (x : Register) (value : Byte) :
    (ofWord (ofByte family x value)).x = x := by
  simp only [ofWord, ofByte]
  rw [BitVec.extractLsb'_setWidth_of_le (by decide), BitVec.extractLsb'_append_eq_of_le (by decide),
    BitVec.extractLsb'_append_eq_right]

/-- The byte that a word carries is read back whole. -/
@[simp]
theorem nn_ofByte (family : BitVec 4) (x : Register) (value : Byte) :
    (ofWord (ofByte family x value)).nn = value := by
  simp only [ofWord, ofByte]
  rw [BitVec.extractLsb'_setWidth_of_le (by decide), BitVec.extractLsb'_append_eq_right]

@[simp]
theorem opcode_ofNibbles (family : BitVec 4) (x y : Register) (n : BitVec 4) :
    (ofWord (ofNibbles family x y n)).opcode = family := by
  simp only [ofWord, ofNibbles]
  rw [BitVec.extractLsb'_setWidth_of_le (by decide), BitVec.extractLsb'_append_eq_of_le (by decide),
    BitVec.extractLsb'_append_eq_of_le (by decide), BitVec.extractLsb'_append_eq_left]

@[simp]
theorem x_ofNibbles (family : BitVec 4) (x y : Register) (n : BitVec 4) :
    (ofWord (ofNibbles family x y n)).x = x := by
  simp only [ofWord, ofNibbles]
  rw [BitVec.extractLsb'_setWidth_of_le (by decide), BitVec.extractLsb'_append_eq_of_le (by decide),
    BitVec.extractLsb'_append_eq_of_le (by decide), BitVec.extractLsb'_append_eq_right]

@[simp]
theorem y_ofNibbles (family : BitVec 4) (x y : Register) (n : BitVec 4) :
    (ofWord (ofNibbles family x y n)).y = y := by
  simp only [ofWord, ofNibbles]
  rw [BitVec.extractLsb'_setWidth_of_le (by decide), BitVec.extractLsb'_append_eq_of_le (by decide),
    BitVec.extractLsb'_append_eq_right]

@[simp]
theorem n_ofNibbles (family : BitVec 4) (x y : Register) (n : BitVec 4) :
    (ofWord (ofNibbles family x y n)).n = n := by
  simp only [ofWord, ofNibbles]
  rw [BitVec.extractLsb'_setWidth_of_le (by decide), BitVec.extractLsb'_append_eq_right]

/-! ## A fetched word has every layout -/

/-- A word of 16 bits is put together again from its family and its address. -/
theorem ofAddress_opcode_nnn (w : BitVec 16) :
    ofAddress (ofWord (w.setWidth 32)).opcode (ofWord (w.setWidth 32)).nnn = w.setWidth 32 := by
  have hall : w.extractLsb' 12 4 ++ w.extractLsb' 0 12 = w.extractLsb' 0 16 :=
    BitVec.extractLsb'_append_extractLsb'_eq_extractLsb' rfl
  simp only [ofWord, ofAddress]
  rw [BitVec.extractLsb'_setWidth_of_le (by decide), BitVec.extractLsb'_setWidth_of_le (by decide),
    hall, BitVec.extractLsb'_eq_self]

/-- The two upper nibbles of a word make up its high byte. -/
private theorem extractLsb'_high (w : BitVec 16) :
    w.extractLsb' 12 4 ++ w.extractLsb' 8 4 = w.extractLsb' 8 8 :=
  BitVec.extractLsb'_append_extractLsb'_eq_extractLsb' rfl

/-- A word of 16 bits is put together again from its family, a register and a byte. -/
theorem ofByte_opcode_x_nn (w : BitVec 16) :
    ofByte (ofWord (w.setWidth 32)).opcode (ofWord (w.setWidth 32)).x
      (ofWord (w.setWidth 32)).nn = w.setWidth 32 := by
  have hall : w.extractLsb' 8 8 ++ w.extractLsb' 0 8 = w.extractLsb' 0 16 :=
    BitVec.extractLsb'_append_extractLsb'_eq_extractLsb' rfl
  simp only [ofWord, ofByte]
  rw [BitVec.extractLsb'_setWidth_of_le (by decide), BitVec.extractLsb'_setWidth_of_le (by decide),
    BitVec.extractLsb'_setWidth_of_le (by decide), extractLsb'_high, hall,
    BitVec.extractLsb'_eq_self]

/-- A word of 16 bits is put together again from its four nibbles. -/
theorem ofNibbles_opcode_x_y_n (w : BitVec 16) :
    ofNibbles (ofWord (w.setWidth 32)).opcode (ofWord (w.setWidth 32)).x
      (ofWord (w.setWidth 32)).y (ofWord (w.setWidth 32)).n = w.setWidth 32 := by
  have hupper : w.extractLsb' 8 8 ++ w.extractLsb' 4 4 = w.extractLsb' 4 12 :=
    BitVec.extractLsb'_append_extractLsb'_eq_extractLsb' rfl
  have hall : w.extractLsb' 4 12 ++ w.extractLsb' 0 4 = w.extractLsb' 0 16 :=
    BitVec.extractLsb'_append_extractLsb'_eq_extractLsb' rfl
  simp only [ofWord, ofNibbles]
  rw [BitVec.extractLsb'_setWidth_of_le (by decide), BitVec.extractLsb'_setWidth_of_le (by decide),
    BitVec.extractLsb'_setWidth_of_le (by decide), BitVec.extractLsb'_setWidth_of_le (by decide),
    extractLsb'_high, hupper, hall, BitVec.extractLsb'_eq_self]

end Fields

/-- The low nibble that names an operation of the family `8`. -/
def AluOp.nibble : AluOp → BitVec 4
  | .set => 0x0
  | .or => 0x1
  | .and => 0x2
  | .xor => 0x3
  | .add => 0x4
  | .sub => 0x5
  | .shiftRight => 0x6
  | .subFrom => 0x7
  | .shiftLeft => 0xE

/-- An operation is found under its own nibble. -/
@[simp]
theorem AluOp.ofNibble?_nibble (op : AluOp) : ofNibble? op.nibble = some op := by
  cases op <;> rfl

/-- A nibble finds no operation but the one that it belongs to. -/
theorem AluOp.nibble_of_ofNibble? {n : BitVec 4} {op : AluOp} (h : ofNibble? n = some op) :
    op.nibble = n := by
  unfold ofNibble? at h
  split at h <;> cases h <;> rfl

namespace Instruction

/-- The word that programs hold for an instruction. -/
def word : Instruction → Word
  | clear => 0x00E0#32
  | leave => 0x00EE#32
  | jump target => .ofAddress 0x1 target
  | call target => .ofAddress 0x2 target
  | skipIfValue x value => .ofByte 0x3 x value
  | skipUnlessValue x value => .ofByte 0x4 x value
  | skipIfSame x y => .ofNibbles 0x5 x y 0x0
  | setValue x value => .ofByte 0x6 x value
  | addValue x value => .ofByte 0x7 x value
  | alu op x y => .ofNibbles 0x8 x y op.nibble
  | skipUnlessSame x y => .ofNibbles 0x9 x y 0x0
  | setIndex target => .ofAddress 0xA target
  | jumpOffset target => .ofAddress 0xB target
  | random x mask => .ofByte 0xC x mask
  | draw x y height => .ofNibbles 0xD x y height
  | skipIfKey x => .ofByte 0xE x 0x9E
  | skipUnlessKey x => .ofByte 0xE x 0xA1
  | getDelay x => .ofByte 0xF x 0x07
  | waitKey x => .ofByte 0xF x 0x0A
  | setDelay x => .ofByte 0xF x 0x15
  | setSound x => .ofByte 0xF x 0x18
  | addIndex x => .ofByte 0xF x 0x1E
  | glyph x => .ofByte 0xF x 0x29
  | storeDecimal x => .ofByte 0xF x 0x33
  | store x => .ofByte 0xF x 0x55
  | load x => .ofByte 0xF x 0x65

/-- A written instruction is read back. -/
@[simp]
theorem ofWord?_word (i : Instruction) : ofWord? i.word = some i := by
  cases i <;> simp [word, ofWord?, ofFields?, ofKey?, ofMisc?]
  all_goals rfl

/-- Two instructions have the same word only if they are the same. -/
theorem word_inj {i j : Instruction} : i.word = j.word ↔ i = j := by
  constructor
  · intro h
    exact Option.some.inj (by rw [← ofWord?_word i, h, ofWord?_word])
  · intro h
    rw [h]

/-- A word of the family `0` that stands for an instruction is the word of that instruction. -/
theorem word_of_ofSystem? {f : Fields} {i : Instruction} (h : ofSystem? f = some i) :
    i.word = f.raw := by
  unfold ofSystem? at h
  split at h
  next hraw => cases h; exact hraw.symm
  split at h
  next hraw => cases h; exact hraw.symm
  next => cases h

/-- The word of an instruction of the family `E` is put together from the fields that it has been
read from. -/
theorem word_of_ofKey? {f : Fields} {i : Instruction} (h : ofKey? f = some i) :
    i.word = .ofByte 0xE f.x f.nn := by
  unfold ofKey? at h
  split at h
  next hnn => cases h; rw [hnn]; rfl
  next hnn => cases h; rw [hnn]; rfl
  next => cases h

/-- The word of an instruction of the family `F` is put together from the fields that it has been
read from. -/
theorem word_of_ofMisc? {f : Fields} {i : Instruction} (h : ofMisc? f = some i) :
    i.word = .ofByte 0xF f.x f.nn := by
  unfold ofMisc? at h
  split at h <;> cases h
  all_goals
    next hnn => rw [hnn]; rfl

/-- The word written for an instruction is put together from the fields it was read from. -/
theorem word_of_ofFields? {f : Fields} {i : Instruction} (h : ofFields? f = some i) :
    i.word = f.raw ∨ i.word = .ofAddress f.opcode f.nnn ∨ i.word = .ofByte f.opcode f.x f.nn ∨
      i.word = .ofNibbles f.opcode f.x f.y f.n := by
  unfold ofFields? at h
  split at h
  -- the families are grouped by their layout
  case h_1 => exact .inl (word_of_ofSystem? h)
  case h_2 hop | h_3 hop | h_11 hop | h_12 hop =>
    cases h
    rw [hop]
    exact .inr (.inl rfl)
  case h_4 hop | h_5 hop | h_7 hop | h_8 hop | h_13 hop =>
    cases h
    rw [hop]
    exact .inr (.inr (.inl rfl))
  case h_6 hop | h_10 hop =>
    split at h
    next hn =>
      cases h
      rw [hop, hn]
      exact .inr (.inr (.inr rfl))
    next => cases h
  case h_9 hop =>
    obtain ⟨op, hn, rfl⟩ := Option.map_eq_some_iff.1 h
    rw [hop, ← AluOp.nibble_of_ofNibble? hn]
    exact .inr (.inr (.inr rfl))
  case h_14 hop =>
    cases h
    rw [hop]
    exact .inr (.inr (.inr rfl))
  case h_15 hop =>
    rw [hop]
    exact .inr (.inr (.inl (word_of_ofKey? h)))
  case h_16 =>
    -- the only family left over by the other cases
    have hop : f.opcode = 0xF#4 := by
      generalize f.opcode = family at *
      revert family
      decide
    rw [hop]
    exact .inr (.inr (.inl (word_of_ofMisc? h)))

/-- The word written for the instruction that a fetched word stands for is that word. -/
theorem word_of_ofWord? {w : BitVec 16} {i : Instruction} (h : ofWord? (w.setWidth 32) = some i) :
    i.word = w.setWidth 32 := by
  rcases word_of_ofFields? h with hword | hword | hword | hword
  · exact hword
  · rw [hword, Fields.ofAddress_opcode_nnn]
  · rw [hword, Fields.ofByte_opcode_x_nn]
  · rw [hword, Fields.ofNibbles_opcode_x_y_n]

/-- A fetched word stands for an instruction exactly if it is the word written for it. -/
theorem ofWord?_setWidth_eq_some_iff {w : BitVec 16} {i : Instruction} :
    ofWord? (w.setWidth 32) = some i ↔ w.setWidth 32 = i.word := by
  constructor
  · intro h
    exact (word_of_ofWord? h).symm
  · intro h
    rw [h, ofWord?_word]

/-! ## The table of defined words, family by family -/

/-- In the family `0`, decoder and table of the defined words agree. -/
theorem isSome_ofSystem? (f : Fields) :
    (ofSystem? f).isSome = Fields.systemWords.contains f.raw := by
  unfold ofSystem?
  split
  next hraw => rw [hraw]; rfl
  split
  next hraw => rw [hraw]; rfl
  next hclear hleave => simp [Fields.systemWords, hclear, hleave]

/-- In the family `8`, decoder and table of the defined words agree. -/
theorem isSome_ofNibble? :
    ∀ n, (AluOp.ofNibble? n).isSome = Fields.aluNibbles.contains n := by
  decide

/-- In the family `E`, decoder and table of the defined words agree. -/
theorem isSome_ofKey? (f : Fields) : (ofKey? f).isSome = Fields.keyBytes.contains f.nn := by
  unfold ofKey?
  split
  next hnn => rw [hnn]; rfl
  next hnn => rw [hnn]; rfl
  next => simp_all [Fields.keyBytes]

/-- In the family `F`, decoder and table of the defined words agree. -/
theorem isSome_ofMisc? (f : Fields) : (ofMisc? f).isSome = Fields.miscBytes.contains f.nn := by
  unfold ofMisc?
  split
  case h_10 => simp_all [Fields.miscBytes]
  all_goals
    next hnn => rw [hnn]; rfl

/-- Fields stand for an instruction exactly if the table has them as defined. -/
theorem isSome_ofFields? (f : Fields) : (ofFields? f).isSome = f.isDefined := by
  unfold ofFields?
  split <;> rename_i hop
  case h_1 => simp only [isSome_ofSystem?, Fields.isDefined, hop]
  case h_6 | h_10 => by_cases hn : f.n = 0#4 <;> simp [Fields.isDefined, hop, hn]
  case h_9 => simp only [Option.isSome_map, isSome_ofNibble?, Fields.isDefined, hop]
  case h_15 => simp only [isSome_ofKey?, Fields.isDefined, hop]
  case h_16 =>
    have hop : f.opcode = 0xF#4 := by
      generalize f.opcode = family at *
      revert family
      decide
    simp only [isSome_ofMisc?, Fields.isDefined, hop]
  -- the families in which every word is defined
  all_goals
    rw [Fields.isDefined, hop]
    rfl

end Instruction

/-- The defined words are those that stand for an instruction. -/
theorem Word.isDefined_eq_isSome_ofWord? (w : Word) :
    w.isDefined = (Instruction.ofWord? w).isSome :=
  (Instruction.isSome_ofFields? _).symm

end Chip8
