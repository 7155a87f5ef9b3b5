import Chip8.Integer

/-!
# Boolean arrays of any shape

Key masks and pictures come in from outside as nested lists of truth values. `BoolTree` is such a
nesting, `BoolArray` the same in rectangular form: a shape, which is the list of its extents from
the outermost in, and the entries with the innermost index running fastest.

An array has at most `Shape.maxRank` extents, and its size in bytes has to fit into 63 bits. Each
entry is one byte.
-/

namespace Chip8

/-- The reasons why there is no array with given extents. -/
inductive ExtentError where
  /-- There are too many extents. -/
  | tooMany (count : Nat)
  /-- An extent does not fit into 64 bits. -/
  | tooWide (extent : Int)
  /-- An extent is negative. -/
  | negative
  /-- The array would have too many entries. -/
  | tooLarge
deriving DecidableEq, Repr

namespace Shape

/-- The greatest number of extents that an array can have. -/
def maxRank : Nat := 64

/-- The text of a shape: its extents between parentheses, with a comma after a single one. -/
def text (shape : List Nat) : String :=
  match shape with
  | [n] => s!"({n},)"
  | _ => "(" ++ ", ".intercalate (shape.map toString) ++ ")"

/-- The longest shape that several shapes all start with. -/
def common : List (List Nat) → List Nat
  | [] => []
  | [s] => s
  | s :: rest => ((s.zip (common rest)).takeWhile fun (a, b) => a == b).map Prod.fst

/-- Multiplies extents from the outermost in. The first one that is negative, or that takes the
product past 63 bits, is an error; one that is zero leaves the product as it is. -/
def measure (product : Nat) : List Int → Except ExtentError Unit
  | [] => .ok ()
  | n :: rest =>
    if n < 0 then .error .negative
    else if n = 0 then measure product rest
    else if 2 ^ 63 ≤ product * n.toNat then .error .tooLarge
    else measure (product * n.toNat) rest

/-- The shape with the given extents. Their number is weighed first, then whether each of them
fits into 64 bits, and last their signs and their product. -/
def ofExtents (extents : List Int) : Except ExtentError (List Nat) := do
  if maxRank < extents.length then throw (.tooMany extents.length)
  match extents.find? fun n => !Integer.fitsSigned n with
  | some n => throw (.tooWide n)
  | none => measure 1 extents
  pure (extents.map Int.toNat)

end Shape

namespace ExtentError

/-- The wording of the error. -/
def message : ExtentError → String
  | tooMany count =>
    s!"maximum supported dimension for an ndarray is currently {Shape.maxRank}, found {count}"
  | tooWide _ => "Maximum allowed dimension exceeded"
  | negative => "negative dimensions are not allowed"
  | tooLarge =>
    "array is too big; `arr.size * arr.dtype.itemsize` is larger than the maximum possible size."

end ExtentError

/-- A nesting of truth values. -/
inductive BoolTree where
  /-- A truth value. -/
  | leaf (b : Bool)
  /-- A list of nestings. -/
  | node (children : List BoolTree)

namespace BoolTree

/-- The truth values from left to right. -/
def leaves : BoolTree → List Bool
  | leaf b => [b]
  | node ts => ts.flatMap fun t => t.leaves

/-- How deep lists are nested. -/
def depth : BoolTree → Nat
  | leaf _ => 0
  | node ts => (ts.map fun t => t.depth).foldl max 0 + 1

/-- The nesting down to a depth. A list that would begin at that depth becomes a truth value. -/
def truncate : Nat → BoolTree → BoolTree
  | _, leaf b => leaf b
  | 0, node _ => leaf false
  | d + 1, node ts => node (ts.map fun t => t.truncate d)

/-- The extents as far in as they are the same everywhere. -/
def shape : BoolTree → List Nat
  | leaf _ => []
  | node ts => ts.length :: Shape.common (ts.map fun t => t.shape)

/-- Whether nestings that stand side by side have the same extents, all the way in. -/
def isRectangular : BoolTree → Bool
  | leaf _ => true
  | node ts =>
    let shapes := ts.map fun t => t.shape
    (ts.map fun t => t.isRectangular).all id && shapes.all fun s => some s == shapes.head?

end BoolTree

/-- The reasons why a nesting has no rectangular form. -/
inductive NestingError where
  /-- Side by side stand lists of different extents, and these are the same everywhere. -/
  | ragged (common : List Nat)
  /-- Lists are nested deeper than an array has extents. -/
  | tooDeep
deriving DecidableEq, Repr

namespace NestingError

/-- The wording of the error. -/
def message : NestingError → String
  | ragged common =>
    "setting an array element with a sequence. The requested array has an inhomogeneous shape " ++
      s!"after {common.length} dimensions. The detected shape was {Shape.text common} + " ++
      "inhomogeneous part."
  | tooDeep =>
    "setting an array element with a sequence. The requested array would exceed the maximum " ++
      s!"number of dimension of {Shape.maxRank}."

end NestingError

/-- A rectangular array of truth values. -/
structure BoolArray where
  /-- The extents from the outermost in. -/
  shape : List Nat
  /-- The entries, the innermost index running fastest. Those that are missing at the end are
  false. -/
  entries : Array Bool
deriving DecidableEq, Repr

namespace BoolArray

/-- The array with the given extents and no entry true. -/
def allFalse (extents : List Int) : Except ExtentError BoolArray :=
  (Shape.ofExtents extents).map fun shape => ⟨shape, #[]⟩

/-- The rectangular form of a nesting. A nesting that is ragged before it gets too deep is ragged,
and only then may it be too deep. -/
def ofTree (t : BoolTree) : Except NestingError BoolArray :=
  let outer := t.truncate Shape.maxRank
  if !outer.isRectangular then .error (.ragged outer.shape)
  else if Shape.maxRank < t.depth then .error .tooDeep
  else .ok ⟨t.shape, t.leaves.toArray⟩

end BoolArray

end Chip8
