import Chip8.Machine.Basic
import Chip8.Shape

/-!
# The keypad

Sixteen keys, pressed and released one at a time or all at once. A key number outside the keypad
and a mask that does not have one entry for each key are refused.
-/

namespace Chip8

/-- The reasons to refuse a change of the keypad. -/
inductive KeypadError where
  /-- There is no key with this number. -/
  | noSuchKey (key : Int)
  /-- A mask must be a plain list with one entry for each key. -/
  | wrongShape (shape : List Nat)
deriving DecidableEq, Repr

namespace KeypadError

/-- The wording of the error. -/
def message : KeypadError → String
  | noSuchKey key => s!"Key must be in [0, {keyCount}), got {key}"
  | wrongShape shape =>
    s!"Expected a keypad mask of shape {Shape.text [keyCount]}, got {Shape.text shape}"

end KeypadError

namespace Machine

/-- Presses or releases a key. -/
def setKey (m : Machine) (key : Int) (pressed : Bool) : Except KeypadError Machine :=
  if 0 ≤ key ∧ key < keyCount then
    .ok { m with keypad := m.keypad.set (BitVec.ofInt 4 key) pressed }
  else
    .error (.noSuchKey key)

/-- Presses the keys whose entries in the mask are true and releases the others. -/
def setKeypad (m : Machine) (mask : BoolArray) : Except KeypadError Machine :=
  if mask.shape = [keyCount] then
    .ok { m with keypad := Table.ofFn fun key => mask.entries.getD key.toNat false }
  else
    .error (.wrongShape mask.shape)

/-- Releases all keys. -/
def releaseAll (m : Machine) : Machine :=
  { m with keypad := Table.replicate 4 false }

end Machine

end Chip8
