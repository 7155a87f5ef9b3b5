import Chip8.Text.LetterCase

/-!
# Log levels

Five levels in order of urgency. Levels are named without regard to case.
-/

namespace Chip8.Console

/-- How urgent a message is. -/
inductive Level where
  | debug
  | info
  | warning
  | error
  | critical
deriving DecidableEq, Repr

namespace Level

/-- All levels, the least urgent first. -/
def all : List Level := [debug, info, warning, error, critical]

/-- The name in upper case. -/
def name : Level → String
  | debug => "DEBUG"
  | info => "INFO"
  | warning => "WARNING"
  | error => "ERROR"
  | critical => "CRITICAL"

/-- The place in the order of urgency. -/
def rank : Level → Nat
  | debug => 0
  | info => 1
  | warning => 2
  | error => 3
  | critical => 4

/-- The terminal code that switches to the level's colour. -/
def color : Level → String
  | debug => "\x1b[36m"
  | info => "\x1b[32m"
  | warning => "\x1b[33m"
  | error => "\x1b[31m"
  | critical => "\x1b[35m"

/-- The terminal code that switches back to the usual colour. -/
def resetColor : String := "\x1b[0m"

/-- The level with a name in upper case. -/
def ofName? (name : String) : Option Level :=
  all.find? fun level => level.name == name

/-- The level with a name in any case. -/
def ofText? (text : String) : Option Level :=
  ofName? (Text.toUpper text)

@[simp]
theorem ofName?_name (level : Level) : ofName? level.name = some level := by
  cases level <;> rfl

/-- A name finds no level but the one that it is the name of. -/
theorem name_of_ofName? {text : String} {level : Level} (h : ofName? text = some level) :
    level.name = text := by
  simpa using List.find?_some h

end Level

end Chip8.Console
