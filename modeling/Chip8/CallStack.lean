import Chip8.Table

/-!
# The call stack

Sixteen slots for return addresses, filled from slot zero on. The `depth` counts the slots in
use. A push keeps the low twelve bits of its address, and a pop clears the slot that it empties,
so the slots past the depth stay zero.

The main statements describe the two operations through the slots:

* `CallStack.push?_eq_some_iff`, `CallStack.pop?_eq_some_iff`: when they succeed, and with what.
* `CallStack.push?_eq_none_iff`, `CallStack.pop?_eq_none_iff`: when they fail.
-/

namespace Chip8

/-- The return addresses of the calls in progress. -/
structure CallStack where
  /-- The slots, the oldest address in slot zero. -/
  slots : Table 4 (BitVec 16)
  /-- The number of slots in use. -/
  depth : Nat
deriving DecidableEq

namespace CallStack

/-- The number of slots. -/
def capacity : Nat := 16

/-- The stack with no call in progress. -/
def empty : CallStack :=
  ⟨Table.replicate 4 0#16, 0⟩

/-- The slot with number `n`. -/
def slot (n : Nat) : BitVec 4 :=
  BitVec.ofNat 4 n

/-- Adds a return address, or fails when all slots are in use. -/
def push? (s : CallStack) (address : BitVec 16) : Option CallStack :=
  if s.depth < capacity then
    some ⟨s.slots.set (slot s.depth) (address &&& 0x0FFF#16), s.depth + 1⟩
  else
    none

/-- The newest return address. On an empty stack this is the content of slot zero. -/
def top (s : CallStack) : BitVec 16 :=
  s.slots.get (slot (s.depth - 1))

/-- Takes the newest return address off and clears its slot, or fails when no slot is in use. -/
def pop? (s : CallStack) : Option (BitVec 16 × CallStack) :=
  if 0 < s.depth then
    some (s.top, ⟨s.slots.set (slot (s.depth - 1)) 0#16, s.depth - 1⟩)
  else
    none

/-- The addresses in use, the oldest first. -/
def toList (s : CallStack) : List (BitVec 16) :=
  s.slots.read 0 s.depth

/-- A push goes through exactly if a slot is free, and puts the masked address there. -/
theorem push?_eq_some_iff {s t : CallStack} {a : BitVec 16} :
    s.push? a = some t ↔
      s.depth < capacity ∧ t = ⟨s.slots.set (slot s.depth) (a &&& 0x0FFF#16), s.depth + 1⟩ := by
  by_cases h : s.depth < capacity <;> simp [push?, h, eq_comm]

/-- A push is refused exactly if all slots are in use. -/
theorem push?_eq_none_iff {s : CallStack} {a : BitVec 16} :
    s.push? a = none ↔ capacity ≤ s.depth := by
  simp [push?]

/-- A pop goes through exactly if a slot is in use, and gives the newest entry and clears its slot. -/
theorem pop?_eq_some_iff {s t : CallStack} {a : BitVec 16} :
    s.pop? = some (a, t) ↔
      0 < s.depth ∧ a = s.top ∧ t = ⟨s.slots.set (slot (s.depth - 1)) 0#16, s.depth - 1⟩ := by
  by_cases h : 0 < s.depth <;> simp [pop?, h, eq_comm]

theorem pop?_eq_none_iff {s : CallStack} : s.pop? = none ↔ s.depth = 0 := by
  simp [pop?]

end CallStack

end Chip8
