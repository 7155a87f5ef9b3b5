import Chip8.Image.Basic
import Chip8.Integer
import Chip8.Text.Quoted

/-!
# Colours

A colour comes in from outside as a list of numbers and is a pixel once each of them has been
found to fit into a byte. Colour schemes are named pairs of colours for lit and dark pixels.
-/

namespace Chip8

/-- A channel of a colour does not fit into a byte. -/
structure ChannelError where
  /-- The value of the channel. -/
  value : Int
deriving DecidableEq, Repr

namespace ChannelError

/-- The wording of the error. A value that does not even fit into 64 bits is not shown. -/
def message (e : ChannelError) : String :=
  if Integer.fitsSigned e.value then s!"Python integer {e.value} out of bounds for uint8"
  else (WidthError.mk e.value).message

end ChannelError

namespace Pixel

/-- The pixel with the given channels. The first channel that does not fit is reported. -/
def ofInts : List Int → Except ChannelError Pixel
  | [] => .ok []
  | n :: rest =>
    if 0 ≤ n ∧ n < 256 then (ofInts rest).map (BitVec.ofInt 8 n :: ·) else .error ⟨n⟩

end Pixel

/-- The named pairs of colours. -/
inductive ColorScheme where
  /-- Green on black. -/
  | classic
  /-- Amber on black. -/
  | amber
  /-- White on black. -/
  | white
  /-- Cyan on dark blue. -/
  | blue
  /-- Light grey on dark grey. -/
  | vip
deriving DecidableEq, Repr

/-- There is no colour scheme with this name. -/
structure SchemeError where
  /-- The name asked for. -/
  name : String
deriving DecidableEq, Repr

namespace ColorScheme

/-- All schemes. -/
def all : List ColorScheme := [classic, amber, white, blue, vip]

/-- The name of a scheme. -/
def name : ColorScheme → String
  | classic => "classic"
  | amber => "amber"
  | white => "white"
  | blue => "blue"
  | vip => "vip"

/-- The colour of lit pixels. -/
def on : ColorScheme → Pixel
  | classic => [0, 255, 0]
  | amber => [255, 176, 0]
  | white => [255, 255, 255]
  | blue => [0, 255, 255]
  | vip => [238, 238, 238]

/-- The colour of dark pixels. -/
def off : ColorScheme → Pixel
  | classic => [0, 0, 0]
  | amber => [0, 0, 0]
  | white => [0, 0, 0]
  | blue => [0, 0, 64]
  | vip => [34, 34, 34]

/-- The scheme with a name. -/
def ofName (name : String) : Except SchemeError ColorScheme :=
  match all.find? fun scheme => scheme.name == name with
  | some scheme => .ok scheme
  | none => .error ⟨name⟩

@[simp]
theorem ofName_name (scheme : ColorScheme) : ofName scheme.name = .ok scheme := by
  cases scheme <;> rfl

end ColorScheme

namespace SchemeError

/-- The wording of the error. -/
def message (e : SchemeError) : String :=
  let names := ColorScheme.all.map fun scheme => Text.Quoted.encode scheme.name
  s!"Unknown color scheme '{e.name}'. Available: [" ++ ", ".intercalate names ++ "]"

end SchemeError

end Chip8
