import Chip8.Console.Logger
import Chip8.Integer
import Chip8.Machine.Report
import Chip8.Shape

/-!
# Printing reports of undefined words

Reports of undefined words are printed as warnings, by a logger without time and colour. Reports
can also be made for a batch of machines at once: there is one entry for each machine that says
whether its word was defined, and words and program counters that are the same for all machines
may be given once.
-/

namespace Chip8

namespace UnknownWord

/-- The text of the warning. -/
def message (u : UnknownWord) : String :=
  s!"Unknown opcode 0x{Text.Hex.ofInt 4 u.word} at " ++
    s!"0x{Text.Hex.ofInt 3 u.address.toNat}, skipped"

/-- The logger that prints the warnings. -/
def logger : Console.Logger where
  name := Console.Settings.standard.name
  level := .info
  useColors := false
  showTimestamps := false
  start := 0
  readings := 1

/-- The lines that are printed for a list of reports. -/
def lines (us : List UnknownWord) : List String :=
  us.filterMap fun u => (logger.write (fun _ => 0) .warning u.message).1

end UnknownWord

/-- The reasons to refuse a batch. -/
inductive BatchError where
  /-- A list has neither one entry for each machine nor a single one. -/
  | wrongSize (size machines : Nat)
  /-- A word or a program counter does not fit into 64 bits. -/
  | tooWide (reason : WidthError)
deriving DecidableEq, Repr

namespace BatchError

/-- The wording of the error. -/
def message : BatchError → String
  | wrongSize size machines =>
    "operands could not be broadcast together with remapped shapes [original->remapped]: " ++
      s!"{Shape.text [size]}  and requested shape {Shape.text [machines]}"
  | tooWide reason => reason.message

end BatchError

namespace UnknownWord

/-- Repeats a single entry for each machine. -/
def spread (machines : Nat) (xs : List Int) : Except BatchError (List Int) :=
  if xs.length = machines then .ok xs
  else
    match xs with
    | [x] => .ok (List.replicate machines x)
    | _ => .error (.wrongSize xs.length machines)

/-- The reports for a batch of machines: whether each word was defined, the words, and the
program counters past them. Numbers that are too wide are refused before lists of a wrong size. -/
def ofBatch (defined : List Bool) (words pcs : List Int) :
    Except BatchError (List UnknownWord) := do
  let words ← (words.mapM Integer.signed).mapError BatchError.tooWide
  let pcs ← (pcs.mapM Integer.signed).mapError BatchError.tooWide
  let words ← spread defined.length words
  let pcs ← spread defined.length pcs
  let reports := (words.zip pcs).map fun (w, pc) => UnknownWord.mk w (BitVec.ofInt 16 (pc - 2))
  pure (((defined.zip reports).filter fun (d, _) => !d).map Prod.snd)

end UnknownWord

end Chip8
