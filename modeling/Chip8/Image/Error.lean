import Chip8.Display
import Chip8.Image.Color
import Chip8.Shape
import Chip8.Text.Quoted

/-!
# Errors of image making

The reasons not to make an image, and their wording. They are weighed in the order in which the
work is done, so that of two reasons the earlier one is reported.
-/

namespace Chip8

/-- The reasons not to make an image. -/
inductive ImageError where
  /-- A display must have 64 columns of 32 pixels. -/
  | wrongShape (shape : List Nat)
  /-- Displays that belong together have different shapes. -/
  | differentShapes
  /-- Displays that belong together have so many extents that no array holds all of them. -/
  | tooManyExtents (count : Nat)
  /-- A colour has a channel that does not fit into a byte. -/
  | channel (reason : ChannelError)
  /-- The colours of lit and dark pixels have different numbers of channels. -/
  | colorLengths (on off : Nat)
  /-- There is no such colour scheme. -/
  | scheme (reason : SchemeError)
  /-- There is no display to make an image of. -/
  | noDisplays
  /-- The scale does not fit into 64 bits. -/
  | scale (reason : WidthError)
  /-- There is no image with such extents. -/
  | extents (reason : ExtentError)
  /-- The picture of a display does not fit the place that the image has for it. -/
  | doesNotFit (source place : List Nat)
  /-- The extension of a file names no image format. -/
  | unknownExtension (extension : String)
  /-- Files of the format with this name can be read but not written. -/
  | readOnly (format : String)
  /-- The name of a file holds the character that ends names. -/
  | nameWithNull
  /-- The format with this name holds colours by their number in a palette only. -/
  | paletteOnly (format : String)
  /-- The format with this name holds no colours. -/
  | colorless (format : String)
  /-- Another program has to write the format with this name, and there is none. -/
  | noWriter (format : String)
deriving DecidableEq, Repr

namespace ImageError

/-- A shape without blanks between its extents. -/
def compact (shape : List Nat) : String :=
  "(" ++ ",".intercalate (shape.map toString) ++ ")"

/-- The wording of the error. -/
def message : ImageError → String
  | wrongShape shape =>
    s!"Expected display shape {Shape.text [Display.width, Display.height]}, " ++
      s!"got {Shape.text shape}"
  | differentShapes => "all input arrays must have the same shape"
  | tooManyExtents count =>
    s!"number of dimensions must be within [0, {Shape.maxRank}], " ++
      s!"indexing result would have {count}"
  | channel reason => reason.message
  | colorLengths on off =>
    "operands could not be broadcast together with shapes " ++
      s!"{compact [Display.height, Display.width, 1]} {Shape.text [on]} {Shape.text [off]} "
  | scheme reason => reason.message
  | noDisplays => "division by zero"
  | scale reason => reason.message
  | extents reason => reason.message
  | doesNotFit source place =>
    s!"could not broadcast input array from shape {compact source} into shape {compact place}"
  | unknownExtension extension => s!"unknown file extension: {extension}"
  | readOnly format => Text.Quoted.encode format
  | nameWithNull => "embedded null byte"
  | paletteOnly format => s!"Unsupported {format} image mode"
  | colorless format => s!"cannot write mode RGB as {format}"
  | noWriter format => s!"{format} save handler not installed"

end ImageError

end Chip8
