import Chip8.Memory
import Chip8.Display
import Chip8.Integer

/-!
# Sprites

A sprite is a column of bytes in memory, one byte a row of eight pixels with the leftmost pixel
in the highest bit. Placed on the display it covers the pixels to the right of and below its
anchor, and what leaves the display at one edge comes in at the opposite one.
-/

namespace Chip8

namespace Sprite

/-- The greatest height that an instruction can ask for. -/
def maxHeight : Nat := 15

/-- The display row that shows nothing but a byte, with its highest bit at column `left`. -/
def row (byte : Byte) (left : Column) : Table 6 Bool :=
  Table.ofFn fun x => byte.getMsbD (x - left).toNat

/-- The display that shows nothing but the sprite of `height` rows at `base`, with its top left
corner at column `left` and row `top`. A sprite of more than 32 rows shows its first 32, and one of
no rows or fewer shows nothing. -/
def mask (m : Memory) (base : Address) (left : Column) (top : Row) (height : Int) : Display :=
  Display.ofRows fun r =>
    let offset := r - top
    if (offset.toNat : Int) < height then row (m.get (base + offset.setWidth 12)) left
    else Table.replicate 6 false

/-- The display that shows nothing but the sprite at `base` whose place and height are integers
from outside. Columns count modulo 64 and rows modulo 32, and the height is a 32-bit word with a
sign. -/
def maskAt (m : Memory) (base : Address) (x y height : Int) : Except WidthError Display := do
  let x ← Integer.narrow x
  let y ← Integer.narrow y
  let height ← Integer.narrow height
  pure (mask m base (x.setWidth 6) (y.setWidth 5) height.toInt)

/-- A row that begins at the column `left` shows the bits of its byte from there on, the highest
first. -/
@[simp]
theorem get_row (byte : Byte) (left x : Column) :
    (row byte left).get x = byte.getMsbD (x - left).toNat := by
  simp [row]

/-- A pixel of the mask is lit if its offset from the top is less than the height and the bit at
its offset from the left is set in the byte of its row; past the eighth column there is no bit. -/
theorem pixel_mask (m : Memory) (base : Address) (left : Column) (top : Row) (height : Int)
    (x : Column) (y : Row) :
    (mask m base left top height).pixel x y =
      (decide (((y - top).toNat : Int) < height) &&
        (m.get (base + (y - top).setWidth 12)).getMsbD (x - left).toNat) := by
  simp only [mask, Display.pixel_ofRows]
  split
  · next h => simp only [get_row, h, decide_true, Bool.true_and]
  · next h => simp only [Table.get_replicate, h, decide_false, Bool.false_and]

end Sprite

end Chip8
