/-!
# Random numbers

The machine draws random bytes from a key of two 32-bit words. The block function `threefry`
scrambles a counter of two words under a key, in twenty rounds of addition, rotation and
exclusive or with a fresh part of the key added after every fourth round. Scrambling the counters
`(0, 0)` and `(0, 1)` splits a key into two new ones (`RandomKey.split`). The first takes the place
of the old key (`RandomKey.next`), and the second is used up for one byte (`RandomKey.spend`).
-/

namespace Chip8

/-- The state of the random number generator. -/
structure RandomKey where
  /-- The first word. -/
  first : BitVec 32
  /-- The second word. -/
  second : BitVec 32
deriving DecidableEq, Repr

namespace RandomKey

/-- The key that machines start from unless another is asked for. -/
def zero : RandomKey := ⟨0, 0⟩

/-- Four rounds, one for each of the rotation amounts. -/
def rounds (amounts : List Nat) (block : BitVec 32 × BitVec 32) : BitVec 32 × BitVec 32 :=
  amounts.foldl (fun (a, b) r => (a + b, b.rotateLeft r ^^^ (a + b))) block

/-- The word that completes the two words of a key to a schedule of three. -/
def parity (k : RandomKey) : BitVec 32 :=
  k.first ^^^ k.second ^^^ 0x1BD11BDA

/-- Adds the two words that the schedule has for injection `i`, and `i` itself to the second. -/
def inject (a b i : BitVec 32) (block : BitVec 32 × BitVec 32) : BitVec 32 × BitVec 32 :=
  (block.1 + a, block.2 + b + i)

/-- The rotation amounts of the first, third and fifth group of rounds. -/
def oddGroup : List Nat := [13, 15, 26, 6]

/-- The rotation amounts of the second and fourth group of rounds. -/
def evenGroup : List Nat := [17, 29, 16, 24]

/-- Scrambles a block under a key: twenty rounds, with the key's schedule injected before the
first round and after every fourth. -/
def threefry (k : RandomKey) (block : BitVec 32 × BitVec 32) : BitVec 32 × BitVec 32 :=
  inject k.first k.second 0 block
    |> rounds oddGroup |> inject k.second k.parity 1
    |> rounds evenGroup |> inject k.parity k.first 2
    |> rounds oddGroup |> inject k.first k.second 3
    |> rounds evenGroup |> inject k.second k.parity 4
    |> rounds oddGroup |> inject k.parity k.first 5

/-- The key numbered `i` among those that a key splits into. -/
def child (k : RandomKey) (i : BitVec 32) : RandomKey :=
  let (a, b) := k.threefry (0, i)
  ⟨a, b⟩

/-- The two keys that a key splits into. -/
def split (k : RandomKey) : RandomKey × RandomKey :=
  (k.child 0, k.child 1)

/-- The random byte that a key is used up for. The key is split once more, and the low byte of the
two words that the second half scrambles zero to is the result. -/
def spend (k : RandomKey) : BitVec 8 :=
  let (a, b) := k.split.2.threefry (0, 0)
  (a ^^^ b).setWidth 8

/-- The key for all later draws is the first half of the key that is split. -/
def next (k : RandomKey) : RandomKey :=
  k.split.1

/-- The random byte of this draw is what the second half is used up for. -/
def byte (k : RandomKey) : BitVec 8 :=
  k.split.2.spend

end RandomKey

end Chip8
