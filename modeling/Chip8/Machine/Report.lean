import Chip8.Machine.Frame

/-!
# Reports of undefined words

What a machine has to report while it runs: one `UnknownWord` for each undefined word that it
executes, in the order of execution, provided its profile asks for reports. Reporting is kept
apart from running, so it cannot influence the machine.

A report is taken to be delivered once, and reports in the order of the executions that they are
about. `runReports` and `framesReports` rest on this: they are the reports of the cycles and of the
frames, one after another.
-/

namespace Chip8

/-- An undefined word that was executed. -/
structure UnknownWord where
  /-- The word, as a signed number. -/
  word : Int
  /-- The address that the word was fetched from. -/
  address : BitVec 16
deriving DecidableEq, Repr

namespace Machine

/-- What executing a word has to report. The program counter is past the word already. -/
def reports (m : Machine) (w : Word) : List UnknownWord :=
  if m.profile.reportsUnknown && !w.isDefined then [⟨w.toInt, m.pc - 2⟩] else []

/-- What a cycle has to report. -/
def stepReports (m : Machine) : List UnknownWord :=
  match m.executed? with
  | some w => m.advance.reports w
  | none => []

/-- What a number of cycles have to report. -/
def runReports (m : Machine) : Nat → List UnknownWord
  | 0 => []
  | n + 1 => m.stepReports ++ m.step.runReports n

/-- What a number of frames have to report. -/
def framesReports (m : Machine) (cycles : Nat) : Nat → List UnknownWord
  | 0 => []
  | count + 1 => m.runReports cycles ++ (m.runFrame cycles).2.framesReports cycles count

end Machine

end Chip8
