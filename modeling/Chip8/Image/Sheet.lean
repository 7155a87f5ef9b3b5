import Chip8.Image.Picture

/-!
# Sheets of pictures

A sheet shows the pictures of several displays in a grid that is as square as possible, row by row
from the left, with a number of black pixels between neighbours. The number may be negative: then
neighbours overlap, and the later one lies on top.

Each picture has a place in the sheet, between two rows and two columns. A position below zero
counts from the far end, and one outside the sheet is moved to its edge; a picture that does not
have the size of its place is an error.
-/

namespace Chip8

namespace Sheet

/-- The number of columns for a number of pictures: the least whose square is enough. -/
def columns (count : Nat) : Nat :=
  ((List.range (count + 1)).find? fun c => count ≤ c * c).getD count

/-- The number of rows for a number of pictures. -/
def rowsFor (count : Nat) : Nat :=
  (count + columns count - 1) / columns count

/-- The extent of a number of tiles with a number of pixels between neighbours. -/
def extent (tiles : Nat) (tile padding : Int) : Int :=
  tiles * tile + (tiles - 1) * padding

/-- A position on an axis of a given length. -/
def position (length : Nat) (p : Int) : Nat :=
  (if p < 0 then max (p + length) 0 else min p length).toNat

/-- A stretch of an axis. -/
structure Span where
  /-- The first position. -/
  start : Nat
  /-- The number of positions. -/
  size : Nat
deriving DecidableEq, Repr

/-- The stretch of an axis from one position up to another. -/
def span (length : Nat) (first last : Int) : Span where
  start := position length first
  size := position length last - position length first

/-- Puts a picture into the place between rows `top` and `bottom` and columns `left` and `right`. -/
def place (sheet : Image) (top bottom left right : Int) (picture : Image) :
    Except ImageError Image :=
  let vertical := span sheet.height top bottom
  let horizontal := span sheet.width left right
  if vertical.size = picture.height ∧ horizontal.size = picture.width then
    .ok (sheet.paste vertical.start horizontal.start picture)
  else
    .error (.doesNotFit [picture.height, picture.width, picture.channels]
      [vertical.size, horizontal.size, sheet.channels])

/-- Puts the picture of a display into its place, where the sheet has the given number of
columns and `i` is the number of the display. -/
def placeDisplay (scheme : ColorScheme) (scale padding : Int) (cols : Nat) (sheet : Image) (i : Nat)
    (a : BoolArray) : Except ImageError Image := do
  let picture ← Image.ofArrayIn scheme a scale
  let top := (i / cols : Nat) * (Display.height * scale + padding)
  let left := (i % cols : Nat) * (Display.width * scale + padding)
  place sheet top (top + Display.height * scale) left (left + Display.width * scale) picture

/-- Puts the pictures of displays into their places, the first one into place `i`. -/
def placeAll (scheme : ColorScheme) (scale padding : Int) (cols : Nat) (sheet : Image) (i : Nat) :
    List BoolArray → Except ImageError Image
  | [] => .ok sheet
  | a :: rest => do
    let sheet ← placeDisplay scheme scale padding cols sheet i a
    placeAll scheme scale padding cols sheet (i + 1) rest

/-- Fails if no array holds all displays, one after the other: they must have the same shape, and
the array has one more extent than that. -/
def checkShapes : List BoolArray → Except ImageError Unit
  | [] => .ok ()
  | a :: rest => do
    if rest.any fun b => b.shape != a.shape then throw .differentShapes
    let rank := a.shape.length + 1
    if Shape.maxRank < rank then throw (.tooManyExtents rank)
    let extents := (rest.length + 1) :: a.shape
    (Shape.measure 1 (extents.map Int.ofNat)).mapError ImageError.extents

/-- The sheet of a list of displays in the colours of a scheme. -/
def render (displays : List BoolArray) (scale : Int) (scheme : String) (padding : Int) :
    Except ImageError Image := do
  checkShapes displays
  let scheme ← (ColorScheme.ofName scheme).mapError ImageError.scheme
  let count := displays.length
  if count = 0 then throw .noDisplays
  let height := extent (rowsFor count) (Display.height * scale) padding
  let width := extent (columns count) (Display.width * scale) padding
  let black : Pixel := [0, 0, 0]
  let _ ← (Shape.ofExtents [height, width, black.length]).mapError ImageError.extents
  let blank := Image.filled height.toNat width.toNat black
  placeAll scheme scale padding (columns count) blank 0 displays

end Sheet

end Chip8
