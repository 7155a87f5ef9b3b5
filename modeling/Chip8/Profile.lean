/-!
# Compatibility profiles

Historical interpreters disagree on a handful of instructions. A `Profile` fixes one choice for
each of them, and a machine carries its profile unchanged for its whole life.
-/

namespace Chip8

/-- One choice for every instruction that historical interpreters disagree on, and whether
undefined words are reported. -/
structure Profile where
  /-- `8XY6` and `8XYE` shift `VY` into `VX`; otherwise they shift `VX` in place. -/
  shiftUsesVy : Bool
  /-- `8XY1`, `8XY2` and `8XY3` clear `VF` after the operation. -/
  logicResetsVf : Bool
  /-- `FX55` and `FX65` leave `I` just past the last cell; otherwise they leave it alone. -/
  loadStoreIncrementsI : Bool
  /-- `FX1E` sets `VF` to whether the sum leaves the 12-bit address space. -/
  indexOverflowFlag : Bool
  /-- Every undefined word that is skipped is reported. -/
  reportsUnknown : Bool
deriving DecidableEq, Repr

namespace Profile

/-- The profile of present-day interpreters. -/
def modern : Profile where
  shiftUsesVy := false
  logicResetsVf := false
  loadStoreIncrementsI := false
  indexOverflowFlag := false
  reportsUnknown := true

/-- The profile of the first interpreter, on the COSMAC VIP. -/
def cosmacVip : Profile where
  shiftUsesVy := true
  logicResetsVf := true
  loadStoreIncrementsI := true
  indexOverflowFlag := false
  reportsUnknown := true

end Profile

end Chip8
