import Chip8.Proofs.Execution

/-!
# Which words are defined

Two tables speak about words. One lists the defined ones and the other finds the instruction to be
carried out. `Listed` is the listing of the instruction set as a programmer reads it, pattern by
pattern, and both tables are measured against it.

Outside the family `0` the low half of a word decides alone (`Instruction.ofWord?_low`), and in the
family `0` the whole word does.

* `Instruction.listed_iff_exists_word`: the listed halves are the words that are written for the
  instructions outside the family `0`.
* `Word.isDefined_iff_listed`: a word is defined exactly if it is `00E0`, `00EE`, or its low half
  is listed.
* `Machine.isDefined_listed_and_execute`: exactly the words that are defined stand for an
  instruction that is carried out, and the others are counted and skipped.
-/

namespace Chip8

/-- The patterns in which the instruction set is listed, but for the two words of the
family `0`. -/
inductive Listed : BitVec 16 → Prop where
  | jump (nnn : Address) : Listed (0x1#4 ++ nnn)
  | call (nnn : Address) : Listed (0x2#4 ++ nnn)
  | skipIfValue (x : Register) (nn : Byte) : Listed (0x3#4 ++ x ++ nn)
  | skipUnlessValue (x : Register) (nn : Byte) : Listed (0x4#4 ++ x ++ nn)
  | skipIfSame (x y : Register) : Listed (0x5#4 ++ x ++ y ++ 0x0#4)
  | setValue (x : Register) (nn : Byte) : Listed (0x6#4 ++ x ++ nn)
  | addValue (x : Register) (nn : Byte) : Listed (0x7#4 ++ x ++ nn)
  | alu (x y : Register) {n : BitVec 4} : n ≤ 0x7#4 ∨ n = 0xE#4 → Listed (0x8#4 ++ x ++ y ++ n)
  | skipUnlessSame (x y : Register) : Listed (0x9#4 ++ x ++ y ++ 0x0#4)
  | setIndex (nnn : Address) : Listed (0xA#4 ++ nnn)
  | jumpOffset (nnn : Address) : Listed (0xB#4 ++ nnn)
  | random (x : Register) (nn : Byte) : Listed (0xC#4 ++ x ++ nn)
  | draw (x y : Register) (n : BitVec 4) : Listed (0xD#4 ++ x ++ y ++ n)
  | skipIfKey (x : Register) : Listed (0xE#4 ++ x ++ 0x9E#8)
  | skipUnlessKey (x : Register) : Listed (0xE#4 ++ x ++ 0xA1#8)
  | misc (x : Register) {nn : Byte} :
      nn ∈ [0x07#8, 0x0A#8, 0x15#8, 0x18#8, 0x1E#8, 0x29#8, 0x33#8, 0x55#8, 0x65#8] →
      Listed (0xF#4 ++ x ++ nn)

/-! ## The half of a word that decides -/

/-- All fields but the whole word are those of the low half. -/
theorem Fields.ofWord_low (w : Word) :
    { ofWord ((w.setWidth 16).setWidth 32) with raw := w } = ofWord w := by
  have hlow (start len : Nat) (h : start + len ≤ 16) :
      ((w.setWidth 16).setWidth 32).extractLsb' start len = w.extractLsb' start len := by
    rw [BitVec.extractLsb'_setWidth_of_le (by omega), BitVec.extractLsb'_setWidth_of_le h]
  simp only [ofWord, hlow 12 4 (by decide), hlow 8 4 (by decide), hlow 4 4 (by decide),
    hlow 0 4 (by decide), hlow 0 8 (by decide), hlow 0 12 (by decide)]

theorem Fields.opcode_low (w : Word) :
    (ofWord ((w.setWidth 16).setWidth 32)).opcode = (ofWord w).opcode := by
  rw [← ofWord_low w]

/-- The operation of the family `8` with a listed nibble. -/
theorem AluOp.exists_nibble_iff {n : BitVec 4} :
    (∃ op : AluOp, op.nibble = n) ↔ n ≤ 0x7#4 ∨ n = 0xE#4 := by
  constructor
  · rintro ⟨op, rfl⟩
    cases op <;> decide
  · intro h
    have hsome : (ofNibble? n).isSome := by
      revert n
      decide
    obtain ⟨op, hop⟩ := Option.isSome_iff_exists.1 hsome
    exact ⟨op, nibble_of_ofNibble? hop⟩

namespace Instruction

variable {i : Instruction} {w : Word}

/-- Whether the word of an instruction is in the family `0`. -/
def isSystem : Instruction → Bool
  | clear | leave => true
  | _ => false

/-- The instructions of the family `0` are the two system instructions. -/
theorem opcode_word_eq_zero_iff : (Fields.ofWord i.word).opcode = 0#4 ↔ i.isSystem = true := by
  cases i <;> simp [word, isSystem]
  all_goals decide

/-- The whole word matters in the family `0` alone. -/
theorem ofFields?_raw {f : Fields} (h : f.opcode ≠ 0#4) (raw : Word) :
    ofFields? { f with raw := raw } = ofFields? f := by
  -- past the family `0` no branch of the search looks at the whole word
  unfold ofFields?
  split <;> simp_all [ofKey?, ofMisc?]

/-- Outside the family `0` the low half of a word finds the instruction. -/
theorem ofWord?_low (h : (Fields.ofWord w).opcode ≠ 0#4) :
    ofWord? w = ofWord? ((w.setWidth 16).setWidth 32) := by
  rw [ofWord?, ← Fields.ofWord_low w]
  exact ofFields?_raw (by rwa [Fields.opcode_low]) w

/-- The listed halves are the words written for the instructions outside the family `0`. -/
theorem listed_iff_exists_word {low : BitVec 16} :
    Listed low ↔ ∃ i : Instruction, i.isSystem = false ∧ i.word = low.setWidth 32 := by
  constructor
  · intro h
    cases h with
    | jump nnn => exact ⟨.jump nnn, rfl, rfl⟩
    | call nnn => exact ⟨.call nnn, rfl, rfl⟩
    | skipIfValue x nn => exact ⟨.skipIfValue x nn, rfl, rfl⟩
    | skipUnlessValue x nn => exact ⟨.skipUnlessValue x nn, rfl, rfl⟩
    | skipIfSame x y => exact ⟨.skipIfSame x y, rfl, rfl⟩
    | setValue x nn => exact ⟨.setValue x nn, rfl, rfl⟩
    | addValue x nn => exact ⟨.addValue x nn, rfl, rfl⟩
    | alu x y hn =>
      obtain ⟨op, rfl⟩ := AluOp.exists_nibble_iff.2 hn
      exact ⟨.alu op x y, rfl, rfl⟩
    | skipUnlessSame x y => exact ⟨.skipUnlessSame x y, rfl, rfl⟩
    | setIndex nnn => exact ⟨.setIndex nnn, rfl, rfl⟩
    | jumpOffset nnn => exact ⟨.jumpOffset nnn, rfl, rfl⟩
    | random x nn => exact ⟨.random x nn, rfl, rfl⟩
    | draw x y n => exact ⟨.draw x y n, rfl, rfl⟩
    | skipIfKey x => exact ⟨.skipIfKey x, rfl, rfl⟩
    | skipUnlessKey x => exact ⟨.skipUnlessKey x, rfl, rfl⟩
    | misc x hnn =>
      simp only [List.mem_cons, List.not_mem_nil, or_false] at hnn
      rcases hnn with rfl | rfl | rfl | rfl | rfl | rfl | rfl | rfl | rfl
      · exact ⟨.getDelay x, rfl, rfl⟩
      · exact ⟨.waitKey x, rfl, rfl⟩
      · exact ⟨.setDelay x, rfl, rfl⟩
      · exact ⟨.setSound x, rfl, rfl⟩
      · exact ⟨.addIndex x, rfl, rfl⟩
      · exact ⟨.glyph x, rfl, rfl⟩
      · exact ⟨.storeDecimal x, rfl, rfl⟩
      · exact ⟨.store x, rfl, rfl⟩
      · exact ⟨.load x, rfl, rfl⟩
  · rintro ⟨i, hi, hword⟩
    have hlow {pattern : BitVec 16} (h : pattern.setWidth 32 = low.setWidth 32) :
        pattern = low := by
      have hwide (v : BitVec 16) : (v.setWidth 32).setWidth 16 = v := by
        rw [BitVec.setWidth_setWidth_of_le v (by decide), BitVec.setWidth_eq]
      rw [← hwide pattern, h, hwide]
    cases i with
    | clear | leave => cases hi
    | jump nnn => exact hlow hword ▸ .jump nnn
    | call nnn => exact hlow hword ▸ .call nnn
    | skipIfValue x nn => exact hlow hword ▸ .skipIfValue x nn
    | skipUnlessValue x nn => exact hlow hword ▸ .skipUnlessValue x nn
    | skipIfSame x y => exact hlow hword ▸ .skipIfSame x y
    | setValue x nn => exact hlow hword ▸ .setValue x nn
    | addValue x nn => exact hlow hword ▸ .addValue x nn
    | alu op x y => exact hlow hword ▸ .alu x y (AluOp.exists_nibble_iff.1 ⟨op, rfl⟩)
    | skipUnlessSame x y => exact hlow hword ▸ .skipUnlessSame x y
    | setIndex nnn => exact hlow hword ▸ .setIndex nnn
    | jumpOffset nnn => exact hlow hword ▸ .jumpOffset nnn
    | random x nn => exact hlow hword ▸ .random x nn
    | draw x y n => exact hlow hword ▸ .draw x y n
    | skipIfKey x => exact hlow hword ▸ .skipIfKey x
    | skipUnlessKey x => exact hlow hword ▸ .skipUnlessKey x
    | getDelay x | waitKey x | setDelay x | setSound x | addIndex x | glyph x | storeDecimal x
    | store x | load x =>
      -- the nine of the family `F` share a pattern and differ in the low byte
      obtain rfl := hlow hword
      exact .misc x (by decide)

/-- In the family `0` only two whole words stand for an instruction. -/
theorem isSome_ofWord?_of_opcode_eq_zero (h : (Fields.ofWord w).opcode = 0#4) :
    (ofWord? w).isSome = true ↔ w = 0x00E0#32 ∨ w = 0x00EE#32 := by
  have hsystem : ofWord? w = ofSystem? (Fields.ofWord w) := by
    rw [ofWord?, ofFields?, h]
    rfl
  rw [hsystem, isSome_ofSystem?]
  simp [Fields.systemWords]

end Instruction

/-- A word is defined exactly if it is one of the two of the family `0`, or its low half is
listed. -/
theorem Word.isDefined_iff_listed (w : Word) :
    w.isDefined = true ↔ w = 0x00E0#32 ∨ w = 0x00EE#32 ∨ Listed (w.setWidth 16) := by
  rw [isDefined_eq_isSome_ofWord?]
  -- the family `0` is decided by the whole word, and no listed half is in it
  by_cases hfamily : (Fields.ofWord w).opcode = 0#4
  · have hunlisted : ¬ Listed (w.setWidth 16) := by
      intro hlisted
      obtain ⟨i, hi, hword⟩ := Instruction.listed_iff_exists_word.1 hlisted
      rw [← Fields.opcode_low, ← hword, Instruction.opcode_word_eq_zero_iff, hi] at hfamily
      cases hfamily
    rw [Instruction.isSome_ofWord?_of_opcode_eq_zero hfamily]
    simp only [hunlisted, or_false]
  · have hclear : w ≠ 0x00E0#32 := by
      rintro rfl
      exact hfamily rfl
    have hleave : w ≠ 0x00EE#32 := by
      rintro rfl
      exact hfamily rfl
    rw [Instruction.ofWord?_low hfamily, Option.isSome_iff_exists]
    simp only [Instruction.ofWord?_setWidth_eq_some_iff, hclear, hleave, false_or]
    rw [Instruction.listed_iff_exists_word]
    constructor
    · rintro ⟨i, hword⟩
      refine ⟨i, ?_, hword.symm⟩
      -- the word of `i` is in the family of `w`
      rw [← Bool.not_eq_true, ← Instruction.opcode_word_eq_zero_iff, ← hword, Fields.opcode_low]
      exact hfamily
    · rintro ⟨i, -, hword⟩
      exact ⟨i, hword.symm⟩

namespace Machine

/-- The listing decides which words are defined, on every word of 32 bits. Both tables agree: a word
is defined exactly if it stands for an instruction, and then that instruction is carried out. A word
that is not defined is counted, modulo `2 ^ 32`, and changes nothing else; one that is leaves the
count alone. -/
theorem isDefined_listed_and_execute (m : Machine) (w : Word) :
    (w.isDefined = true ↔ w = 0x00E0#32 ∨ w = 0x00EE#32 ∨ Listed (w.setWidth 16)) ∧
      (w.isDefined = true ↔
        ∃ i, Instruction.ofWord? w = some i ∧ m.execute w = m.perform i) ∧
      (w.isDefined = false → m.execute w = { m with decodeFailures := m.decodeFailures + 1 }) ∧
      (w.isDefined = true → (m.execute w).decodeFailures = m.decodeFailures) := by
  refine ⟨w.isDefined_iff_listed, ?_, ?_, ?_⟩
  · rw [Word.isDefined_eq_isSome_ofWord?, Option.isSome_iff_exists]
    exact exists_congr fun i => ⟨fun hi => ⟨hi, execute_of_ofWord? hi⟩, And.left⟩
  · intro hundefined
    rw [Word.isDefined_eq_isSome_ofWord?, Option.isSome_eq_false_iff] at hundefined
    exact execute_of_ofWord?_eq_none (Option.isNone_iff_eq_none.1 hundefined)
  · intro hdefined
    rw [Word.isDefined_eq_isSome_ofWord?, Option.isSome_iff_exists] at hdefined
    obtain ⟨i, hi⟩ := hdefined
    rw [execute_of_ofWord? hi, (keypad_profile_decodeFailures_perform m i).2.2]

end Machine

end Chip8
