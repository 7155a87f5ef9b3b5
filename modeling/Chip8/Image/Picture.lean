import Chip8.Display
import Chip8.Image.Error

/-!
# Pictures of a display

The picture of a display shows each of its pixels as a square of image pixels, whose side is the
scale. Displays come in as arrays of 64 columns of 32 pixels.
-/

namespace Chip8

namespace Display

/-- The display as an array of columns. -/
def toArray (d : Display) : BoolArray where
  shape := [width, height]
  entries := Array.ofFn fun i : Fin (width * height) =>
    d.pixel (BitVec.ofNat 6 (i / height)) (BitVec.ofNat 5 (i % height))

/-- The display that an array of columns shows, if its shape is that of a display. -/
def ofArray (a : BoolArray) : Except ImageError Display :=
  if a.shape = [width, height] then
    .ok (ofFn fun x y => a.entries.getD (x.toNat * height + y.toNat) false)
  else
    .error (.wrongShape a.shape)

/-- A display can be read back from its array. -/
theorem ofArray_toArray (d : Display) : ofArray d.toArray = .ok d := by
  have hd : (ofFn fun x y => d.toArray.entries.getD (x.toNat * height + y.toNat) false) = d := by
    ext x y
    have hx : x.toNat < 64 := x.isLt
    have hy : y.toNat < 32 := y.isLt
    have hdiv : (x.toNat * 32 + y.toNat) / 32 = x.toNat := by omega
    have hmod : (x.toNat * 32 + y.toNat) % 32 = y.toNat := by omega
    have hlt : x.toNat * 32 + y.toNat < 64 * 32 := by omega
    simp [toArray, width, height, Array.getD_eq_getD_getElem?, hlt, hdiv, hmod]
  have hs : d.toArray.shape = [width, height] := rfl
  rw [ofArray, if_pos hs, hd]

end Display

namespace Image

/-- The picture of a display with one pixel for each of its own, in the given colours for lit and
dark pixels. -/
def ofDisplay (d : Display) (on off : Pixel) : Image :=
  ofFn Display.height Display.width on.length fun r c =>
    if d.pixel (BitVec.ofNat 6 c) (BitVec.ofNat 5 r) then on else off

/-- The factor by which a scale enlarges a picture with a number of channels. A scale below one
counts as one. The picture is enlarged downwards and then across, and must not get too large; its
extents are computed in 64 bits. -/
def factor (channels : Nat) (scale : Int) : Except ImageError Nat := do
  if scale ≤ 1 then return 1
  let scale ← (Integer.signed scale).mapError ImageError.scale
  let rows := (Display.height * scale).bmod 0x10000000000000000
  let columns := (Display.width * scale).bmod 0x10000000000000000
  let _ ← (Shape.ofExtents [rows, Display.width, channels]).mapError ImageError.extents
  let _ ← (Shape.ofExtents [rows, columns, channels]).mapError ImageError.extents
  pure scale.toNat

/-- The number of channels that two colours share: a single channel stands for any number of
equal ones. -/
def sharedChannels (on off : Pixel) : Except ImageError Nat :=
  if on.length = off.length then .ok on.length
  else if on.length = 1 then .ok off.length
  else if off.length = 1 then .ok on.length
  else .error (.colorLengths on.length off.length)

/-- The pixel with a single channel repeated as often as there are channels. -/
def spread (channels : Nat) (p : Pixel) : Pixel :=
  match p with
  | [b] => List.replicate channels b
  | _ => p

/-- The picture of an array at a scale, in colours given by numbers. The shape is weighed first,
then the colour of lit pixels, then that of dark ones, and last whether they go together. -/
def ofArray (a : BoolArray) (scale : Int) (on off : List Int) : Except ImageError Image := do
  let d ← Display.ofArray a
  let on ← (Pixel.ofInts on).mapError ImageError.channel
  let off ← (Pixel.ofInts off).mapError ImageError.channel
  let channels ← sharedChannels on off
  let factor ← factor channels scale
  pure ((ofDisplay d (spread channels on) (spread channels off)).enlarge factor)

/-- The picture of an array in the colours of a scheme. -/
def ofArrayIn (scheme : ColorScheme) (a : BoolArray) (scale : Int) : Except ImageError Image := do
  let d ← Display.ofArray a
  let factor ← factor scheme.on.length scale
  pure ((ofDisplay d scheme.on scheme.off).enlarge factor)

end Image

end Chip8
