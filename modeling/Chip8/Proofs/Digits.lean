import Chip8.Proofs.Drawing
import Chip8.Proofs.Survival

/-!
# Drawing the built-in digits

The font is in memory when a machine is switched on. Nothing protects it there: it stays for as long
as no load and no store reaches its cells (`Font.IsCell`). Then `FX29` followed by a draw
instruction of five rows draws a digit: the pixels that change are those that the glyph lights
(`Font.Lights`), and no cell outside the font is read.

* `Sprite.pixel_mask_iff`: the bits of a sprite, each at its pixel.
* `Memory.HoldsFont`: the font is where it was put at first.
* `Machine.holdsFont_afterAll`: a history keeps it there that does not write to it.
* `Machine.digit_drawn`: so digits are drawn as the font has them.
-/

namespace Chip8

-- Powers of natural numbers are those that `BitVec` is stated with, whatever else is in scope.
attribute [local instance (high)] instPowNat

/-! ## Sprites bit by bit -/

namespace Sprite

/-- A sprite that is not higher than the display lights a pixel for each of its bits that is set, to
the right of the corner and below it. -/
theorem pixel_mask_iff {memory : Memory} {base : Address} {left x : Column} {top y : Row}
    {height : Nat} (hheight : height ≤ 32) :
    (mask memory base left top height).pixel x y = true ↔
      ∃ row < height, ∃ column < 8,
        (memory.get (base + BitVec.ofNat 12 row)).getMsbD column = true ∧
          x = left + BitVec.ofNat 6 column ∧ y = top + BitVec.ofNat 5 row := by
  rw [pixel_mask, Bool.and_eq_true, decide_eq_true_iff, Int.ofNat_lt]
  constructor
  · rintro ⟨hrow, hbit⟩
    have hcolumn : (x - left).toNat < 8 := by
      -- a byte has no bits after the eighth
      by_contra hge
      rw [BitVec.getMsbD_of_ge _ _ (Nat.le_of_not_lt hge)] at hbit
      cases hbit
    refine ⟨_, hrow, _, hcolumn, ?_, ?_, ?_⟩
    · rwa [BitVec.ofNat_toNat]
    · exact (toNat_sub_eq_iff _ _ (Nat.lt_trans hcolumn (by decide))).1 rfl
    · exact (toNat_sub_eq_iff _ _ (Nat.lt_of_lt_of_le hrow hheight)).1 rfl
  · rintro ⟨row, hrow, column, hcolumn, hbit, rfl, rfl⟩
    rw [← BitVec.ofNat_toNat 12, toNat_add_ofNat_sub left (Nat.lt_trans hcolumn (by decide)),
      toNat_add_ofNat_sub top (Nat.lt_of_lt_of_le hrow hheight)]
    exact ⟨hrow, hbit⟩

end Sprite

/-- A position on an axis of the display that comes around after `k` pixels. -/
theorem eq_setWidth_add_ofNat_iff {v w k : Nat} (hk : k = 2 ^ w) {position : BitVec w}
    {corner : BitVec v} {distance : Nat} :
    position = corner.setWidth w + BitVec.ofNat w distance ↔
      position.toNat = (corner.toNat % k + distance) % k := by
  rw [← Machine.ofNat_mod_of_eq_two_pow hk, ← BitVec.ofNat_add, ← BitVec.toNat_inj,
    BitVec.toNat_ofNat, ← hk]

/-! ## The font in memory -/

namespace Font

/-- The cells that the font is in. -/
def IsCell (a : Address) : Prop :=
  0x050#12 ≤ a ∧ a ≤ 0x09F#12

instance (a : Address) : Decidable (IsCell a) :=
  inferInstanceAs (Decidable (_ ∧ _))

/-- Whether the glyph of a digit lights a pixel when its corner is at a column and row. A glyph has
five rows of eight bits, with the leftmost in the highest place, and comes around at the edges. -/
def Lights (digit left top : Nat) (x : Column) (y : Row) : Prop :=
  ∃ row < height, ∃ column < 8,
    (glyphs.getD (height * digit + row) 0).getLsbD (7 - column) = true ∧
      x.toNat = (left + column) % Display.width ∧ y.toNat = (top + row) % Display.height

/-- The bytes of the font are in its cells. -/
theorem isCell_start_add {k : Nat} (hk : k < glyphs.length) :
    IsCell (start + BitVec.ofNat 12 k) := by
  have hlength : glyphs.length = 80 := rfl
  rw [IsCell, start, BitVec.le_def, BitVec.le_def, ← BitVec.ofNat_add, BitVec.toNat_ofNat]
  simp only [BitVec.toNat_ofNat]
  omega

/-- Every row of a digit is in the font. -/
theorem row_lt_length {digit row : Nat} (hdigit : digit < 16) (hrow : row < height) :
    height * digit + row < glyphs.length := by
  have hdigits : height * (digit + 1) ≤ height * 16 := Nat.mul_le_mul_left height hdigit
  rw [length_glyphs, Nat.mul_comm 16]
  rw [Nat.mul_succ] at hdigits
  omega

/-- The glyphs follow one another without gaps. -/
theorem address_eq (digit : BitVec 4) :
    address digit = BitVec.ofNat 16 (0x050 + height * digit.toNat) := by
  revert digit
  decide

/-- The glyph of a digit begins five rows after that of the digit before it. -/
theorem addressOf_address (digit : BitVec 4) :
    addressOf (address digit) = start + BitVec.ofNat 12 (height * digit.toNat) := by
  rw [address_eq, addressOf_ofNat, BitVec.ofNat_add]
  rfl

end Font

namespace Memory

/-- The font is where it is put in a new machine. -/
def HoldsFont (memory : Memory) : Prop :=
  memory.read Font.start Font.glyphs.length = Font.glyphs

theorem holdsFont_initial : HoldsFont initial := by
  have hread := Table.read_write_append (Table.replicate 12 (0 : Byte)) Font.start [] Font.glyphs []
    (by decide)
  rw [List.nil_append, List.append_nil] at hread
  rwa [List.length_nil, BitVec.add_zero] at hread

/-- Where the font is in place, its bytes are found from its start on. -/
theorem HoldsFont.get {memory : Memory} (h : memory.HoldsFont) {k : Nat}
    (hk : k < Font.glyphs.length) :
    memory.get (Font.start + BitVec.ofNat 12 k) = Font.glyphs.getD k 0 := by
  have hread : k < (memory.read Font.start Font.glyphs.length).length := by
    rwa [Table.length_read]
  rw [← Table.getElem_read _ _ hread, List.getElem_of_eq h hread, List.getD_eq_getElem?_getD,
    List.getElem?_eq_getElem hk, Option.getD_some]

/-- What is in its cells decides whether the font is there. -/
theorem HoldsFont.congr {memory memory' : Memory} (h : memory.HoldsFont)
    (hsame : ∀ a, Font.IsCell a → memory'.get a = memory.get a) : memory'.HoldsFont := by
  refine Eq.trans (List.map_congr_left fun k hk => ?_) h
  exact hsame _ (Font.isCell_start_add (List.mem_range.1 hk))

end Memory

/-- Whether an event writes a cell of the font. -/
def Occurrence.WritesFont (o : Occurrence) : Prop :=
  ∃ a ∈ o.cellsWritten, Font.IsCell a

-- The cells that are written are few, so they are searched, and not all addresses.
instance (o : Occurrence) : Decidable o.WritesFont :=
  List.decidableBEx Font.IsCell o.cellsWritten

namespace Machine

variable {m : Machine}

/-- The font stays in place through a history that writes none of its cells. -/
theorem holdsFont_afterAll {es : List Event} (h : m.memory.HoldsFont)
    (hfont : ∀ o ∈ m.occurrences es, ¬ o.WritesFont) : (m.afterAll es).memory.HoldsFont :=
  h.congr fun a ha => get_memory_afterAll fun o ho hwritten => hfont o ho ⟨a, hwritten, ha⟩

/-! ## A digit on the display -/

/-- The sprite that a draw instruction of five rows finds at a glyph. -/
theorem pixel_sprite_glyph (hm : m.memory.HoldsFont) (x a b : Register) (px : Column) (py : Row) :
    ({ m with index := Font.address ((m.v.get x).setWidth 4) }.sprite a b 5).pixel px py = true ↔
      Font.Lights ((m.v.get x).toNat % 16) ((m.v.get a).toNat % Display.width)
        ((m.v.get b).toNat % Display.height) px py := by
  have hdigit : ((m.v.get x).setWidth 4).toNat = (m.v.get x).toNat % 16 := BitVec.toNat_setWidth _ _
  show (Sprite.mask m.memory (addressOf (Font.address ((m.v.get x).setWidth 4)))
    ((m.v.get a).setWidth 6) ((m.v.get b).setWidth 5) Font.height).pixel px py = true ↔ _
  rw [Sprite.pixel_mask_iff (by decide), Font.Lights]
  refine exists_congr fun row => and_congr_right fun hrow => exists_congr fun column =>
    and_congr_right fun hcolumn => ?_
  -- the bit of this row and column is the one that the font has there
  have hcell : m.memory.get (addressOf (Font.address ((m.v.get x).setWidth 4)) +
      BitVec.ofNat 12 row) = Font.glyphs.getD (Font.height * ((m.v.get x).toNat % 16) + row) 0 := by
    rw [Font.addressOf_address, hdigit, BitVec.add_assoc, ← BitVec.ofNat_add]
    exact hm.get (Font.row_lt_length (Nat.mod_lt _ (by decide)) hrow)
  rw [hcell, Sprite.getMsbD_eq_getLsbD hcolumn, eq_setWidth_add_ofNat_iff (by decide : Display.width = 2 ^ 6),
    eq_setWidth_add_ofNat_iff (by decide : Display.height = 2 ^ 5)]

/-- A draw instruction of five rows reads no cell outside the font if it finds `I` at a glyph. -/
theorem isCell_of_mem_cellsRead_draw (digit : BitVec 4) (a b : Register) {c : Address}
    (hc : c ∈ (Instruction.draw a b 5).cellsRead (Font.address digit)) : Font.IsCell c := by
  obtain ⟨row, hrow, rfl⟩ := mem_cellsFrom.1 hc
  rw [Font.addressOf_address, BitVec.add_assoc, ← BitVec.ofNat_add]
  exact Font.isCell_start_add (Font.row_lt_length digit.isLt hrow)

/-- The built-in digits are drawn as the font has them for as long as nobody writes over the font.
Let a machine be switched on and let anything happen to it, but so that no load and no `FX33` or
`FX55` writes a cell of the font. Then `FX29` and `DAB5` change exactly the pixels that the glyph of
the low digit of `VX` lights, with its corner at column `VA` and row `VB`. Afterwards `VF` is one if
such a pixel was lit before, and else zero, and `I` is at the glyph. Nothing else changes. The cells
that the draw instruction reads are all in the font. -/
theorem digit_drawn (rng : RandomKey) (profile : Profile) (es : List Event)
    (hfont : ∀ o ∈ (create rng profile).occurrences es, ¬ o.WritesFont) (x a b : Register) :
    let m := (create rng profile).afterAll es
    let digit := (m.v.get x).toNat % 16
    let left := (m.v.get a).toNat % Display.width
    let top := (m.v.get b).toNat % Display.height
    let pointed := m.execute (Instruction.glyph x).word
    let drawn := pointed.execute (Instruction.draw a b 5).word
    (∀ px py, drawn.display.pixel px py ≠ m.display.pixel px py ↔
        Font.Lights digit left top px py) ∧
      (∃ hit : Bool,
        (hit = true ↔ ∃ px py, m.display.pixel px py = true ∧ Font.Lights digit left top px py) ∧
        drawn =
          { m with
            index := BitVec.ofNat 16 (0x050 + Font.height * digit)
            display := drawn.display
            v := m.v.set flagRegister (if hit then 1 else 0) }) ∧
      ∀ c ∈ (Instruction.draw a b 5).cellsRead pointed.index, Font.IsCell c := by
  intro m digit left top pointed drawn
  have hm : m.memory.HoldsFont := holdsFont_afterAll Memory.holdsFont_initial hfont
  have hpointed : pointed = { m with index := Font.address ((m.v.get x).setWidth 4) } :=
    execute_word m _
  -- `FX29` writes no cell, so the sprite is read from the font that has been kept
  have hlit (px : Column) (py : Row) :
      (pointed.sprite a b 5).pixel px py = true ↔ Font.Lights digit left top px py := by
    rw [hpointed]
    exact pixel_sprite_glyph hm x a b px py
  have hdrawn : drawn =
      { m with
        index := Font.address ((m.v.get x).setWidth 4)
        display := m.display.toggle (pointed.sprite a b 5)
        v := m.v.set flagRegister
          (if m.display.overlaps (pointed.sprite a b 5) then 1 else 0) } := by
    refine (execute_word pointed (.draw a b 5)).trans ?_
    rw [hpointed]
    rfl
  refine ⟨fun px py => ?_, ⟨m.display.overlaps (pointed.sprite a b 5), ?_, ?_⟩, ?_⟩
  · -- toggling changes the pixels that are lit in the sprite
    rw [← hlit, hdrawn, Display.pixel_toggle]
    cases m.display.pixel px py <;> simp
  · simp only [Display.overlaps_iff, hlit]
  · rw [hdrawn, Font.address_eq, BitVec.toNat_setWidth]
  · rw [hpointed]
    exact fun c => isCell_of_mem_cellsRead_draw _ a b

/-- A history that loads up to the font on both sides and stores below it. A load over the font is
refused because it begins before the memory. The program puts `3E` into `V0`. -/
def storingBelow : List Event :=
  [.load 0x04E [1, 2], .load 0x0A0 [3], .load (-1) (List.replicate 200 4),
    .load 0x200 [0x60, 0x3E, 0xF0, 0x55], .reset, .step, .step]

/-- A digit `E` in the lower right corner of the display reaches into the other three. -/
theorem digit_drawn_storingBelow :
    let m := (create .zero .modern).afterAll storingBelow
    let pointed := m.execute (Instruction.glyph 0).word
    let drawn := pointed.execute (Instruction.draw 0 0 5).word
    m.memory.get 0 = 0x3E ∧ m.display.pixel 1 2 = false ∧ Font.Lights 0xE 62 30 1 2 ∧
      drawn.display.pixel 1 2 ≠ false := by
  intro m pointed drawn
  have hfont : ∀ o ∈ (create .zero .modern).occurrences storingBelow, ¬ o.WritesFont := by
    decide +kernel
  have hv : m.v.get 0 = 0x3E := by decide +kernel
  have hdark : m.display.pixel 1 2 = false := by decide +kernel
  -- the last bit of the left half in the last row
  have hlights : Font.Lights 0xE 62 30 1 2 :=
    ⟨4, by decide, 3, by decide, by decide, by decide, by decide⟩
  have hchanges := ((digit_drawn .zero .modern storingBelow hfont 0 0 0).1 1 2).2
  rw [hv] at hchanges
  exact ⟨by decide +kernel, hdark, hlights, hdark ▸ hchanges hlights⟩

end Machine

end Chip8
