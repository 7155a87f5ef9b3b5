import Chip8.Machine.Basic
import Chip8.Text.Hex

/-!
# Faults

Two conditions stop a machine for good: a call with all sixteen slots of the call stack in use,
and a return with none in use. The machine keeps the code of its fault and goes back to the word
that caused it. Whoever drives the machine asks for the fault with `checkFault`, or with
`checkFaults` for several machines, of which the first one with a fault is reported.
-/

namespace Chip8

/-- The conditions that stop a machine. -/
inductive Fault where
  /-- `2NNN` was executed with all slots of the call stack in use. -/
  | stackOverflow
  /-- `00EE` was executed with an empty call stack. -/
  | stackUnderflow
deriving DecidableEq, Repr

namespace Fault

/-- The code that a stopped machine keeps. -/
def code : Fault → Byte
  | stackOverflow => 1
  | stackUnderflow => 2

/-- The fault that has a given code. -/
def ofCode? (c : Byte) : Option Fault :=
  if c = 1 then some stackOverflow else if c = 2 then some stackUnderflow else none

/-- The name of the condition in messages. -/
def name : Fault → String
  | stackOverflow => "Stack overflow"
  | stackUnderflow => "Stack underflow"

@[simp]
theorem ofCode?_code (f : Fault) : ofCode? f.code = some f := by
  cases f <;> rfl

end Fault

/-- The answer of a machine that is asked for its fault and has one. -/
inductive FaultError where
  /-- The machine stopped at the word that `pc` refers to. -/
  | stopped (fault : Fault) (pc : BitVec 16)
  /-- The machine holds a fault code that names no condition. -/
  | unknownCode (code : Byte)
deriving DecidableEq, Repr

namespace FaultError

/-- The wording of the error. -/
def message : FaultError → String
  | stopped fault pc => s!"{fault.name} at PC=0x{Text.Hex.ofInt 3 pc.toNat}"
  | unknownCode code => toString code.toNat

end FaultError

namespace Machine

/-- Stops the machine and takes it back to the word that it has just fetched. -/
def halt (m : Machine) (fault : Fault) : Machine :=
  { m with fault := fault.code, pc := m.pc - 2 }

/-- The error that a fault code gives rise to in a machine at `pc`. -/
def faultError (code : Byte) (pc : BitVec 16) : FaultError :=
  match Fault.ofCode? code with
  | some fault => .stopped fault pc
  | none => .unknownCode code

/-- Fails if the machine has a fault. -/
def checkFault (m : Machine) : Except FaultError Unit :=
  if m.fault = 0 then .ok () else .error (faultError m.fault m.pc)

/-- Fails if one of the machines has a fault, on behalf of the first of them. -/
def checkFaults (ms : List Machine) : Except FaultError Unit :=
  match ms.find? fun m => m.fault != 0 with
  | none => .ok ()
  | some m => .error (faultError m.fault m.pc)

end Machine

end Chip8
