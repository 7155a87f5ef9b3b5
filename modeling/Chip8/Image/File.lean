import Chip8.Image.Format
import Chip8.Image.Picture
import Chip8.Text.LetterCase

/-!
# Image files

The format of an image file follows from the extension of its name, without regard to case. A
picture that is written in a format which keeps every pixel as it is can be read back.
-/

namespace Chip8

namespace ImageFile

/-- The last part of a path. -/
def baseName (path : List Char) : List Char :=
  (path.reverse.takeWhile (· != '/')).reverse

/-- The extension of a path: the last dot of its last part and what follows, unless nothing but
dots stands before it. -/
def extension (path : String) : String :=
  let base := baseName path.toList
  let tail := (base.reverse.takeWhile (· != '.')).reverse
  let stem := base.take (base.length - tail.length - 1)
  if base.contains '.' && stem.any (· != '.') then String.ofList ('.' :: tail) else ""

/-- Fails if a picture with three channels cannot be written to a file with the given name in the
given format. Whether the format can be written at all is weighed before the name of the file, and
what it holds after it. -/
def checkWriting (path : String) (format : FileFormat) : Except ImageError Unit := do
  if format.writing = .readOnly then throw (.readOnly format.name)
  if path.toList.contains '\x00' then throw .nameWithNull
  match format.writing with
  | .exact | .readOnly => pure ()
  | .paletteOnly => throw (.paletteOnly format.name)
  | .colorless => throw (.colorless format.name)
  | .noWriter => throw (.noWriter format.name)

/-- The picture that a file holds after the display has been written to it at a scale in the
colours of a scheme. -/
def save (a : BoolArray) (path : String) (scale : Int) (scheme : String) :
    Except ImageError Image := do
  let scheme ← (ColorScheme.ofName scheme).mapError ImageError.scheme
  let picture ← Image.ofArrayIn scheme a scale
  let format ← FileFormat.ofExtension (Text.toLower (extension path))
  checkWriting path format
  pure picture

end ImageFile

end Chip8
