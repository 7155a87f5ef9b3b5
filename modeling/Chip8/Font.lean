/-!
# The built-in font

Sixteen glyphs, one for each hexadecimal digit, each of five bytes. A byte is a row of eight
pixels with the leftmost pixel in its highest bit; the glyphs use the left half only.
-/

namespace Chip8

/-- The unit of memory and the width of a register. -/
abbrev Byte := BitVec 8

namespace Font

/-- The number of rows, and so of bytes, in a glyph. -/
def height : Nat := 5

/-- The address of the first glyph. -/
def start : BitVec 12 := 0x050#12

/-- All glyphs, one after another from `0` to `F`. -/
def glyphs : List Byte := [
  0xF0, 0x90, 0x90, 0x90, 0xF0,  -- 0
  0x20, 0x60, 0x20, 0x20, 0x70,  -- 1
  0xF0, 0x10, 0xF0, 0x80, 0xF0,  -- 2
  0xF0, 0x10, 0xF0, 0x10, 0xF0,  -- 3
  0x90, 0x90, 0xF0, 0x10, 0x10,  -- 4
  0xF0, 0x80, 0xF0, 0x10, 0xF0,  -- 5
  0xF0, 0x80, 0xF0, 0x90, 0xF0,  -- 6
  0xF0, 0x10, 0x20, 0x40, 0x40,  -- 7
  0xF0, 0x90, 0xF0, 0x90, 0xF0,  -- 8
  0xF0, 0x90, 0xF0, 0x10, 0xF0,  -- 9
  0xF0, 0x90, 0xF0, 0x90, 0x90,  -- A
  0xE0, 0x90, 0xE0, 0x90, 0xE0,  -- B
  0xF0, 0x80, 0x80, 0x80, 0xF0,  -- C
  0xE0, 0x90, 0x90, 0x90, 0xE0,  -- D
  0xF0, 0x80, 0xF0, 0x80, 0xF0,  -- E
  0xF0, 0x80, 0xF0, 0x80, 0x80]  -- F

/-- The address of the glyph of a hexadecimal digit, as the index register holds it. -/
def address (digit : BitVec 4) : BitVec 16 :=
  start.setWidth 16 + BitVec.ofNat 16 height * digit.setWidth 16

/-- There is one glyph for each digit. -/
theorem length_glyphs : glyphs.length = 16 * height := rfl

end Font

end Chip8
