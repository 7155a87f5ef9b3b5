import Chip8.Console.Logger

/-!
# A logger over a history of calls

A logger is called to print a message or to change its level, any number of times and in any order
(`Console.Call`). A call that fails leaves it as it was (`Console.Logger.call`). All that calls can
change is the level and the number of lines printed so far: a logger with given settings always is
`Settings.loggerAt` some level and some number. The next line is the one with that number plus one,
and if lines begin with the time it has the reading of the clock with that number
(`Settings.record`).

* `Logger.call_loggerAt`: what a single call answers, and which logger it leaves.
* `Logger.afterCalls_loggerAt`: the same for a history.
* `Logger.threshold_followed`: levels, lines, failures and readings of the clock after any history.
-/

namespace Chip8.Console

/-- A call to a logger. -/
inductive Call where
  /-- Prints a message of one of the five levels. -/
  | say (level : Level) (message : String)
  /-- Prints a message of a level that is given by its name. -/
  | log (level message : String)
  /-- Changes the least urgent level that is printed. -/
  | setLevel (text : String)
deriving DecidableEq, Repr

/-- What a call answers: the line that it prints, if it prints one, or why it fails. -/
abbrev Answer := Except LevelError (Option String)

/-- The line that a call has printed, if it has printed one. -/
def Answer.line? : Answer → Option String
  | .ok line? => line?
  | .error _ => none

/-- The name that a call changes the level to, if it is the name of a level. -/
def Call.accepted? : Call → Option String
  | setLevel text => if (Level.ofText? text).isSome then some text else none
  | _ => none

namespace Logger

/-- A message is printed, or its level does not exist and nothing has happened. -/
def settle (l : Logger) : Except LevelError (Option String × Logger) → Answer × Logger
  | .ok (line?, next) => (.ok line?, next)
  | .error e => (.error e, l)

/-- What a call answers, and the logger after it. -/
def call (l : Logger) (clock : Clock) : Call → Answer × Logger
  | .say level message => l.settle (l.log clock level.name message)
  | .log level message => l.settle (l.log clock level message)
  | .setLevel text => l.settle ((l.setLevel text).map fun next => (none, next))

/-- The logger after several calls. -/
def afterCalls (l : Logger) (clock : Clock) (calls : List Call) : Logger :=
  calls.foldl (fun l c => (l.call clock c).2) l

/-- The lines that several calls print, in order. -/
def printed (l : Logger) (clock : Clock) : List Call → List String
  | [] => []
  | c :: calls => (l.call clock c).1.line?.toList ++ (l.call clock c).2.printed clock calls

end Logger

namespace Settings

/-- The logger with these settings at a level, after a number of lines. -/
def loggerAt (s : Settings) (clock : Clock) (level : Level) (count : Nat) : Logger where
  name := s.name
  level := level
  useColors := s.useColors && s.isTerminal
  showTimestamps := s.showTimestamps
  start := clock 0
  readings := 1 + if s.showTimestamps then count else 0

/-- The time on a line: how much the clock has gone on from its first reading to reading `i`. -/
def time (s : Settings) (clock : Clock) (i : Nat) : String :=
  if s.showTimestamps then "[" ++ Text.Fixed.ofFloat 8 2 (clock i - clock 0) ++ "s]" else ""

/-- The level on a line, in colour on terminals if that is wanted. -/
def tag (s : Settings) (level : Level) : String :=
  if s.useColors && s.isTerminal then
    level.color ++ ("[" ++ Text.Fixed.padLeft 8 level.name.toList ++ "]") ++ Level.resetColor
  else
    "[" ++ Text.Fixed.padLeft 8 level.name.toList ++ "]"

/-- Line number `i` for a message, where lines are counted from one. -/
def record (s : Settings) (clock : Clock) (i : Nat) (level : Level) (message : String) : String :=
  s.time clock i ++ s.tag level ++ "[" ++ s.name ++ "] " ++ message

end Settings

namespace Level

/-- The name of a level is in upper case. -/
@[simp]
theorem ofText?_name (level : Level) : ofText? level.name = some level := by
  cases level <;> rfl

/-- A text finds a level exactly if its upper case is the name of the level. -/
theorem ofText?_eq_some_iff {text : String} {level : Level} :
    ofText? text = some level ↔ level.name = Text.toUpper text := by
  constructor
  · exact name_of_ofName?
  · intro h
    rw [ofText?, ← h, ofName?_name]

theorem ofText?_eq_none_iff {text : String} :
    ofText? text = none ↔ ∀ level : Level, level.name ≠ Text.toUpper text := by
  simp only [Option.eq_none_iff_forall_ne_some, Ne, ofText?_eq_some_iff]

end Level

namespace Logger

variable {clock : Clock} {s : Settings} {level : Level} {count : Nat}

/-! ## Single calls -/

/-- A line shows the reading of the clock that its number says. -/
theorem line_loggerAt (found : Level) (message : String) :
    (s.loggerAt clock level count).line clock found message =
      s.record clock (count + 1) found message := by
  have hstamp : (s.loggerAt clock level count).stamp clock = s.time clock (count + 1) := by
    simp only [stamp, Settings.time, Settings.loggerAt]
    split
    · rw [Nat.add_comm]
    · rfl
  rw [line, hstamp]
  rfl

/-- A logger is made exactly if its settings name a level, and then it is at that level. -/
theorem create_eq_ok_iff {l : Logger} :
    create clock s = .ok l ↔
      ∃ level, Level.ofText? s.level = some level ∧ l = s.loggerAt clock level 0 := by
  -- a logger is made at some level first, and then set to its own
  have hcreate : create clock s = (s.loggerAt clock .info 0).setLevel s.level := by
    rw [create, Settings.loggerAt, ite_self]
  rw [hcreate, setLevel]
  cases Level.ofText? s.level with
  | some level =>
    constructor
    · rintro ⟨⟩
      exact ⟨level, rfl, rfl⟩
    · rintro ⟨_, ⟨⟩, rfl⟩
      rfl
  | none =>
    constructor
    · rintro ⟨⟩
    · rintro ⟨_, ⟨⟩, -⟩

/-- A message is printed exactly if its level is as urgent as that of the logger, and only then is
it counted. -/
theorem write_loggerAt (found : Level) (message : String) :
    (s.loggerAt clock level count).write clock found message =
      if level.rank ≤ found.rank then
        (some (s.record clock (count + 1) found message), s.loggerAt clock level (count + 1))
      else (none, s.loggerAt clock level count) := by
  have hprints : (s.loggerAt clock level count).prints found = decide (level.rank ≤ found.rank) :=
    rfl
  -- a line costs a reading of the clock only where times are shown
  have hnext : { s.loggerAt clock level count with
      readings := if s.showTimestamps then (s.loggerAt clock level count).readings + 1
        else (s.loggerAt clock level count).readings } = s.loggerAt clock level (count + 1) := by
    unfold Settings.loggerAt
    cases s.showTimestamps <;> rfl
  rw [write, hprints, line_loggerAt]
  simp only [decide_eq_true_eq]
  rw [← hnext]
  rfl

/-- To set a level changes the level alone, and a name that is none changes nothing. -/
theorem call_setLevel (text : String) :
    (s.loggerAt clock level count).call clock (.setLevel text) =
      match Level.ofText? text with
      | some next => (.ok none, s.loggerAt clock next count)
      | none => (.error (.unknown text), s.loggerAt clock level count) := by
  rw [call, setLevel]
  cases Level.ofText? text <;> rfl

/-- A message of a level that does not exist fails and changes nothing. -/
theorem call_log_of_unknown (l : Logger) {text : String} (message : String)
    (h : Level.ofText? text = none) :
    l.call clock (.log text message) = (.error (.missing (Text.toUpper text)), l) := by
  rw [call, log, h]
  rfl

/-- A message is printed on the next line, or is not urgent enough and nothing happens. -/
theorem call_log_loggerAt {text : String} {found : Level} (message : String)
    (h : Level.ofText? text = some found) :
    (s.loggerAt clock level count).call clock (.log text message) =
      if level.rank ≤ found.rank then
        (.ok (some (s.record clock (count + 1) found message)), s.loggerAt clock level (count + 1))
      else (.ok none, s.loggerAt clock level count) := by
  rw [call, log, h]
  dsimp only
  rw [write_loggerAt]
  split <;> rfl

/-- To say a message is to log it under the name of its level. -/
theorem call_say (l : Logger) (found : Level) (message : String) :
    l.call clock (.say found message) = l.call clock (.log found.name message) :=
  rfl

/-- A message is printed on the next line, or nothing happens at all. -/
theorem call_log_cases (s : Settings) (clock : Clock) (level : Level) (count : Nat)
    (text message : String) :
    (∃ found, (s.loggerAt clock level count).call clock (.log text message) =
        (.ok (some (s.record clock (count + 1) found message)),
          s.loggerAt clock level (count + 1))) ∨
      ∃ answer, Answer.line? answer = none ∧
        (s.loggerAt clock level count).call clock (.log text message) =
          (answer, s.loggerAt clock level count) := by
  cases htext : Level.ofText? text with
  | none => exact .inr ⟨_, rfl, call_log_of_unknown _ message htext⟩
  | some found =>
    rw [call_log_loggerAt message htext]
    split
    · exact .inl ⟨found, rfl⟩
    · exact .inr ⟨_, rfl, rfl⟩

/-- All that a call can do: change the level, print a line, or nothing at all. -/
theorem call_cases (s : Settings) (clock : Clock) (level : Level) (count : Nat) (c : Call) :
    (∃ text next, c.accepted? = some text ∧ Level.ofText? text = some next ∧
        (s.loggerAt clock level count).call clock c = (.ok none, s.loggerAt clock next count)) ∨
      c.accepted? = none ∧
        ((∃ found message, (s.loggerAt clock level count).call clock c =
            (.ok (some (s.record clock (count + 1) found message)),
              s.loggerAt clock level (count + 1))) ∨
          ∃ answer, Answer.line? answer = none ∧
            (s.loggerAt clock level count).call clock c =
              (answer, s.loggerAt clock level count)) := by
  -- only a call that sets a level may be accepted, and it prints nothing
  cases c with
  | setLevel text =>
    rw [call_setLevel]
    cases htext : Level.ofText? text with
    | some next => exact .inl ⟨text, next, by rw [Call.accepted?, htext]; rfl, htext, rfl⟩
    | none => exact .inr ⟨by rw [Call.accepted?, htext]; rfl, .inr ⟨_, rfl, rfl⟩⟩
  | log text message =>
    rcases call_log_cases s clock level count text message with ⟨found, hcall⟩ | hcall
    · exact .inr ⟨rfl, .inl ⟨found, message, hcall⟩⟩
    · exact .inr ⟨rfl, .inr hcall⟩
  | say found message =>
    rw [call_say]
    rcases call_log_cases s clock level count found.name message with ⟨found, hcall⟩ | hcall
    · exact .inr ⟨rfl, .inl ⟨found, message, hcall⟩⟩
    · exact .inr ⟨rfl, .inr hcall⟩

/-! ## Histories -/

theorem afterCalls_cons (l : Logger) (c : Call) (calls : List Call) :
    l.afterCalls clock (c :: calls) = (l.call clock c).2.afterCalls clock calls :=
  rfl

/-- After a history a logger is at the level accepted last, and has gone on by one for each line
printed. The lines have the numbers that follow. -/
theorem afterCalls_loggerAt (s : Settings) (clock : Clock) {text : String} (count : Nat)
    (h : Level.ofText? text = some level) (calls : List Call) :
    let printed := (s.loggerAt clock level count).printed clock calls
    ∃ current, Level.ofText? ((calls.filterMap Call.accepted?).getLastD text) = some current ∧
      (s.loggerAt clock level count).afterCalls clock calls =
        s.loggerAt clock current (count + printed.length) ∧
      ∀ i line, printed[i]? = some line →
        ∃ found message, line = s.record clock (count + i + 1) found message := by
  -- on the calls, from the logger that the first of them leaves to the others
  induction calls generalizing text level count with
  | nil => exact ⟨level, h, rfl, nofun⟩
  | cons c calls ih =>
    rw [printed, afterCalls_cons]
    rcases call_cases s clock level count c with
      ⟨text', next, haccepted, htext, hcall⟩ |
      ⟨haccepted, ⟨found, message, hcall⟩ | ⟨answer, hsilent, hcall⟩⟩
    · rw [hcall, List.filterMap_cons_some haccepted, List.getLastD_cons]
      exact ih count htext
    · rw [hcall, List.filterMap_cons_none haccepted]
      obtain ⟨current, hcurrent, hafter, hlines⟩ := ih (count + 1) h
      refine ⟨current, hcurrent, ?_, ?_⟩
      · rw [hafter, Nat.add_assoc, Nat.add_comm 1]
        rfl
      · intro i line hline
        cases i with
        | zero => exact ⟨found, message, (Option.some.inj hline).symm⟩
        | succ i =>
          obtain ⟨found, message, hrecord⟩ := hlines i line hline
          refine ⟨found, message, ?_⟩
          rw [hrecord, Nat.add_assoc count, Nat.add_comm 1 i]
    · rw [hcall, List.filterMap_cons_none haccepted]
      dsimp only
      rw [hsilent]
      exact ih count h

/-- A logger follows its threshold over every history of calls. Its level is the one accepted last:
at first that of its settings. The clock has been read once when the logger was created, and once
for each line if lines begin with the time, so that line `i` has the reading with that number. A
level that does not exist is refused, and the logger is as it was. A message of one that exists is
printed on one line if its level is at least as urgent as that of the logger, and else nothing
happens. -/
theorem threshold_followed {l : Logger} (hcreate : create clock s = .ok l)
    (calls : List Call) :
    let now := l.afterCalls clock calls
    let lines := l.printed clock calls
    let weighed := fun (found : Level) (message : String) =>
      if now.level.rank ≤ found.rank then
        (Except.ok (some (s.record clock (lines.length + 1) found message)),
          { now with readings := now.readings + if s.showTimestamps then 1 else 0 })
      else (Except.ok none, now)
    now.level.name = Text.toUpper ((calls.filterMap Call.accepted?).getLastD s.level) ∧
      now.readings = 1 + (if s.showTimestamps then lines.length else 0) ∧
      (∀ i line, lines[i]? = some line →
        ∃ found message, line = s.record clock (i + 1) found message) ∧
      (∀ text, (∀ found : Level, found.name ≠ Text.toUpper text) →
        now.call clock (.setLevel text) = (.error (.unknown text), now) ∧
          ∀ message,
            now.call clock (.log text message) = (.error (.missing (Text.toUpper text)), now)) ∧
      (∀ text (found : Level), found.name = Text.toUpper text →
        now.call clock (.setLevel text) = (.ok none, { now with level := found }) ∧
          ∀ message, now.call clock (.log text message) = weighed found message) ∧
      ∀ found message, now.call clock (.say found message) = weighed found message := by
  intro now lines weighed
  obtain ⟨level, hlevel, rfl⟩ := create_eq_ok_iff.1 hcreate
  obtain ⟨current, hcurrent, hafter, hlines⟩ := afterCalls_loggerAt s clock 0 hlevel calls
  -- of all the calls, the level and the number of lines are what the logger still knows
  have hnow : now = s.loggerAt clock current lines.length := by
    rw [← Nat.zero_add lines.length]
    exact hafter
  have hnext : { now with readings := now.readings + if s.showTimestamps then 1 else 0 } =
      s.loggerAt clock current (lines.length + 1) := by
    rw [hnow, Settings.loggerAt, Settings.loggerAt]
    cases s.showTimestamps <;> rfl
  have hlog (text : String) {found : Level} (message : String)
      (htext : Level.ofText? text = some found) :
      now.call clock (.log text message) = weighed found message := by
    show _ = if now.level.rank ≤ found.rank then (_, _) else _
    rw [hnext, hnow, call_log_loggerAt message htext]
    rfl
  refine ⟨?_, ?_, ?_, ?_, ?_, ?_⟩
  · rw [hnow]
    exact Level.ofText?_eq_some_iff.1 hcurrent
  · rw [hnow]
    rfl
  · intro i line hline
    rw [← Nat.zero_add i]
    exact hlines i line hline
  · intro text htext
    have hnone : Level.ofText? text = none := Level.ofText?_eq_none_iff.2 htext
    refine ⟨?_, fun message => call_log_of_unknown now message hnone⟩
    rw [hnow, call_setLevel, hnone]
  · intro text found htext
    have hsome : Level.ofText? text = some found := Level.ofText?_eq_some_iff.2 htext
    refine ⟨?_, fun message => hlog text message hsome⟩
    rw [hnow, call_setLevel, hsome]
    rfl
  · intro found message
    rw [call_say]
    exact hlog found.name message (Level.ofText?_name found)

/-- The settings of a logger on a terminal that begins with warnings. -/
def onTerminal : Settings :=
  { Settings.standard with level := "Warning", isTerminal := true }

/-- A clock that shows how often it has been read before. -/
def counting : Clock := Float.ofNat

/-- Calls of which the first is not urgent enough, the second and the last fail, and the third is
printed. -/
def mixedCalls : List Call :=
  [.say .info "up", .log "loud" "up", .log "error" "down", .setLevel "debug", .setLevel "loud"]

/-- The calls have printed one line and left the logger at its new level. A level that does not
exist is still refused, and the next line is the second. -/
theorem threshold_followed_mixedCalls :
    ∃ l, create counting onTerminal = .ok l ∧
      let now := l.afterCalls counting mixedCalls
      now.level.name = "DEBUG" ∧ now.readings = 2 ∧
        (now.call counting (.log "nobody" "up")).1 = .error (.missing "NOBODY") ∧
        (now.call counting (.say .debug "up")).1 =
          .ok (some (onTerminal.record counting 2 .debug "up")) := by
  have hcreate : create counting onTerminal = .ok (onTerminal.loggerAt counting .warning 0) :=
    create_eq_ok_iff.2 ⟨.warning, rfl, rfl⟩
  refine ⟨_, hcreate, ?_⟩
  intro now
  obtain ⟨hlevel, hreadings, -, hrefused, -, hsaid⟩ := threshold_followed hcreate mixedCalls
  have hlines : (onTerminal.loggerAt counting .warning 0).printed counting mixedCalls =
      [onTerminal.record counting 1 .error "down"] := rfl
  rw [hlines] at hreadings hsaid
  refine ⟨hlevel.trans (by decide), hreadings, ?_, ?_⟩
  · have hnobody := (hrefused "nobody" (Level.ofText?_eq_none_iff.1 rfl)).2 "up"
    exact congrArg Prod.fst hnobody
  · -- the level of the logger is now the lowest
    have hurgent : now.level.rank ≤ Level.debug.rank := by decide
    exact congrArg Prod.fst ((hsaid .debug "up").trans (if_pos hurgent))

end Logger

end Chip8.Console
