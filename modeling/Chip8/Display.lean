import Chip8.Table

/-!
# The display

A display is 64 pixels wide and 32 pixels high, and each pixel is lit or dark. Column and row
numbers are bit vectors of six and five bits, so positions come around at every edge.

The one view of a display is `Display.pixel`, and each operation is described through it.
-/

namespace Chip8

/-- A column of the display, counted from the left. -/
abbrev Column := BitVec 6

/-- A row of the display, counted from the top. -/
abbrev Row := BitVec 5

/-- The pixels of the display. -/
structure Display where
  /-- The rows from the top, each with its pixels from the left. -/
  rows : Table 5 (Table 6 Bool)
deriving DecidableEq

namespace Display

/-- The number of columns. -/
def width : Nat := 64

/-- The number of rows. -/
def height : Nat := 32

/-- Whether the pixel at column `x` and row `y` is lit. -/
def pixel (d : Display) (x : Column) (y : Row) : Bool :=
  (d.rows.get y).get x

/-- The display whose row `y` is `f y`. -/
def ofRows (f : Row → Table 6 Bool) : Display :=
  ⟨Table.ofFn f⟩

/-- The display whose pixel at column `x` and row `y` is `f x y`. -/
def ofFn (f : Column → Row → Bool) : Display :=
  ofRows fun y => Table.ofFn fun x => f x y

/-- The display with every pixel dark. -/
def blank : Display :=
  ⟨Table.replicate 5 (Table.replicate 6 false)⟩

/-- Toggles the pixels of `d` that are lit in `mask`. -/
def toggle (d mask : Display) : Display :=
  ⟨Table.zipWith (Table.zipWith xor) d.rows mask.rows⟩

/-- Whether some pixel is lit in both displays. -/
def overlaps (d mask : Display) : Bool :=
  (Table.zipWith (fun a b => (Table.zipWith and a b).any) d.rows mask.rows).any

/-- Replaces row `y`. -/
def setRow (d : Display) (y : Row) (row : Table 6 Bool) : Display :=
  ⟨d.rows.set y row⟩

/-! ## The operations, pixel by pixel -/

@[ext]
theorem ext {d e : Display} (h : ∀ x y, d.pixel x y = e.pixel x y) : d = e := by
  cases d
  cases e
  congr
  ext y x
  exact h x y

@[simp]
theorem pixel_ofRows (f : Row → Table 6 Bool) (x : Column) (y : Row) :
    (ofRows f).pixel x y = (f y).get x := by
  simp [ofRows, pixel]

@[simp]
theorem pixel_ofFn (f : Column → Row → Bool) (x : Column) (y : Row) :
    (ofFn f).pixel x y = f x y := by
  simp [ofFn]

@[simp]
theorem pixel_blank (x : Column) (y : Row) : blank.pixel x y = false := by
  simp [blank, pixel]

/-- A toggle inverts the pixels that the mask has set, and no others. -/
@[simp]
theorem pixel_toggle (d mask : Display) (x : Column) (y : Row) :
    (d.toggle mask).pixel x y = (d.pixel x y ^^ mask.pixel x y) := by
  simp [toggle, pixel]

/-- Two displays overlap if some pixel is set in both. -/
theorem overlaps_iff {d mask : Display} :
    d.overlaps mask = true ↔ ∃ x y, d.pixel x y = true ∧ mask.pixel x y = true := by
  simp only [overlaps, Table.any_iff, Table.get_zipWith, Bool.and_eq_true, pixel]
  exact exists_comm

/-- To set a row changes the pixels of that row alone. -/
theorem pixel_setRow (d : Display) (y z : Row) (row : Table 6 Bool) (x : Column) :
    (d.setRow y row).pixel x z = if z = y then row.get x else d.pixel x z := by
  by_cases h : z = y <;> simp [setRow, pixel, Table.get_set, h]

end Display

end Chip8
