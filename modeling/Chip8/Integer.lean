/-!
# Integers that come in from outside

Integers come in at any size and are taken in with a fixed number of bits. One that does not fit
into 64 bits is refused; of one that fits, a 32-bit word keeps the lowest bits.
-/

namespace Chip8

/-- An integer does not fit into the 64 bits in which it would be taken in. -/
structure WidthError where
  /-- The integer. -/
  value : Int
deriving DecidableEq, Repr

namespace WidthError

/-- The wording of the error, which does not show the integer. -/
def message (_ : WidthError) : String :=
  "Python int too large to convert to C long"

end WidthError

namespace Integer

/-- Whether an integer fits into 64 bits, one of them for the sign. -/
def fitsSigned (n : Int) : Bool :=
  -0x8000000000000000 ≤ n && n < 0x8000000000000000

/-- Whether an integer fits into 64 bits that have no sign. -/
def fitsUnsigned (n : Int) : Bool :=
  0 ≤ n && n < 0x10000000000000000

/-- The lowest 32 bits of an integer that fits into 64 bits, with or without a sign. -/
def narrow (n : Int) : Except WidthError (BitVec 32) :=
  if fitsSigned n || fitsUnsigned n then .ok (BitVec.ofInt 32 n) else .error ⟨n⟩

/-- An integer fits into 64 bits, with or without a sign. -/
def Fits (n : Int) : Prop :=
  -0x8000000000000000 ≤ n ∧ n < 0x10000000000000000

instance (n : Int) : Decidable (Fits n) :=
  inferInstanceAs (Decidable (_ ∧ _))

/-- The two range checks together let through what fits into 64 bits, with or without a sign. -/
theorem fits_iff {n : Int} : (fitsSigned n || fitsUnsigned n) = true ↔ Fits n := by
  simp only [fitsSigned, fitsUnsigned, Bool.or_eq_true, Bool.and_eq_true, decide_eq_true_eq, Fits]
  omega

/-- An integer that fits into 64 bits is narrowed to its lowest 32. -/
theorem narrow_of_fits {n : Int} (h : Fits n) : narrow n = .ok (BitVec.ofInt 32 n) := by
  rw [narrow, if_pos (fits_iff.2 h)]

/-- An integer that does not fit into 64 bits is refused, and the error names it. -/
theorem narrow_of_not_fits {n : Int} (h : ¬ Fits n) : narrow n = .error ⟨n⟩ := by
  rw [narrow, if_neg (mt fits_iff.1 h)]

/-- An integer that fits into 64 bits, one of them for the sign. -/
def signed (n : Int) : Except WidthError Int :=
  if fitsSigned n then .ok n else .error ⟨n⟩

end Integer

end Chip8
