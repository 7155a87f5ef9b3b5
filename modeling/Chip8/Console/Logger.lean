import Chip8.Console.Level
import Chip8.Text.Fixed
import Chip8.Text.Quoted

/-!
# The console logger

A logger prints the messages that are at least as urgent as its level, one line each. A line holds
the time since the logger was created, the level, the name of the logger and the message; time and
colour can be switched off, and colour is used on terminals only.

The clock is a sequence of readings, and a logger counts how many it has taken: one when it is
created, and one for every line with a time.
-/

namespace Chip8.Console

/-- The clock: what it shows at its first reading, at its second, and so on. -/
abbrev Clock := Nat → Float

/-- What a logger is created from. -/
structure Settings where
  /-- The name of the logger. -/
  name : String
  /-- The name of the level, in any case. -/
  level : String
  /-- Whether colour is wanted. -/
  useColors : Bool
  /-- Whether lines begin with the time. -/
  showTimestamps : Bool
  /-- Whether the output is a terminal. -/
  isTerminal : Bool
deriving DecidableEq, Repr

/-- The settings used where nothing else is asked for. -/
def Settings.standard : Settings where
  name := "chipax"
  level := "INFO"
  useColors := true
  showTimestamps := true
  isTerminal := false

/-- A console logger. -/
structure Logger where
  /-- The name of the logger. -/
  name : String
  /-- The least urgent level that is printed. -/
  level : Level
  /-- Whether levels are printed in colour. -/
  useColors : Bool
  /-- Whether lines begin with the time. -/
  showTimestamps : Bool
  /-- The reading of the clock when the logger was created. -/
  start : Float
  /-- The number of readings taken from the clock. -/
  readings : Nat

/-- The reasons to refuse a level. -/
inductive LevelError where
  /-- The level to change to does not exist. -/
  | unknown (text : String)
  /-- The level of a message does not exist; its name is in upper case. -/
  | missing (name : String)
deriving DecidableEq, Repr

namespace LevelError

/-- The names of all levels, quoted and between brackets. -/
def available : String :=
  "[" ++ ", ".intercalate (Level.all.map fun level => Text.Quoted.encode level.name) ++ "]"

/-- The wording of the error. -/
def message : LevelError → String
  | unknown text => s!"Unknown log level '{text}'. Available: {available}"
  | missing name => Text.Quoted.encode name

end LevelError

namespace Logger

/-- Changes the least urgent level that is printed. -/
def setLevel (l : Logger) (text : String) : Except LevelError Logger :=
  match Level.ofText? text with
  | some level => .ok { l with level := level }
  | none => .error (.unknown text)

/-- Creates a logger. The clock is read even if the level does not exist. -/
def create (clock : Clock) (s : Settings) : Except LevelError Logger :=
  setLevel
    { name := s.name
      level := .info
      useColors := s.useColors && s.isTerminal
      showTimestamps := s.showTimestamps
      start := clock 0
      readings := 1 }
    s.level

/-- The part of a line that shows the level. -/
def tag (l : Logger) (level : Level) : String :=
  let text := "[" ++ Text.Fixed.padLeft 8 level.name.toList ++ "]"
  if l.useColors then level.color ++ text ++ Level.resetColor else text

/-- The part of a line that shows the time of the next reading. -/
def stamp (l : Logger) (clock : Clock) : String :=
  if l.showTimestamps then
    "[" ++ Text.Fixed.ofFloat 8 2 (clock l.readings - l.start) ++ "s]"
  else
    ""

/-- The line for a message, without the line feed at its end. -/
def line (l : Logger) (clock : Clock) (level : Level) (message : String) : String :=
  l.stamp clock ++ l.tag level ++ "[" ++ l.name ++ "] " ++ message

/-- Whether messages of a level are printed. -/
def prints (l : Logger) (level : Level) : Bool :=
  l.level.rank ≤ level.rank

/-- Prints a message if it is urgent enough: the line, if there is one, and the logger after. -/
def write (l : Logger) (clock : Clock) (level : Level) (message : String) :
    Option String × Logger :=
  if l.prints level then
    (some (l.line clock level message),
      { l with readings := if l.showTimestamps then l.readings + 1 else l.readings })
  else
    (none, l)

/-- Prints a message of a level that is given by its name. The name is looked at before the
message is weighed. -/
def log (l : Logger) (clock : Clock) (level message : String) :
    Except LevelError (Option String × Logger) :=
  match Level.ofText? level with
  | some found => .ok (l.write clock found message)
  | none => .error (.missing (Text.toUpper level))

end Logger

end Chip8.Console
