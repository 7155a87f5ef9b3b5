import Chip8.Console.UnknownWord
import Chip8.Proofs.History
import Chip8.Proofs.Lockstep

/-!
# Reports are complete, and reporting changes nothing

Whether undefined words are reported is part of the profile. A machine that reports them and one
that does not are side by side at every moment of the same history (`Machine.afterAll_reporting`).

What there is to report is compared with the executions of the history, each with its word and the
address that the word was fetched from (`Machine.executionsAll`). The reports are the undefined
words among them (`Machine.reportsAll_eq`), the count of undefined words goes up by their number
(`Machine.decodeFailures_afterAll`), and a logger prints one line for each
(`UnknownWord.print_eq`). The logger has to be at the level of information, as the one with the
standard settings is (`Console.Logger.level_of_create_standard`).
-/

namespace Chip8

/-- The execution of a word. -/
structure Execution where
  /-- The word. -/
  word : Word
  /-- The address that the word was fetched from. A word that was not fetched is taken to stand just
  before the one that the program counter refers to. -/
  address : BitVec 16
deriving DecidableEq, Repr

namespace Execution

/-- Whether the word is undefined. -/
def isUnknown (x : Execution) : Bool :=
  !x.word.isDefined

/-- The report of the execution. -/
def report (x : Execution) : UnknownWord :=
  ⟨x.word.toInt, x.address⟩

end Execution

/-- What a profile reports of some executions: those of undefined words, or nothing. -/
def Profile.reported (p : Profile) (xs : List Execution) : List UnknownWord :=
  if p.reportsUnknown then (xs.filter Execution.isUnknown).map Execution.report else []

@[simp]
theorem Profile.reported_nil (p : Profile) : p.reported [] = [] := by
  unfold Profile.reported
  split <;> rfl

theorem Profile.reported_append (p : Profile) (xs ys : List Execution) :
    p.reported (xs ++ ys) = p.reported xs ++ p.reported ys := by
  unfold Profile.reported
  split
  · rw [List.filter_append, List.map_append]
  · rfl

namespace Machine

variable {m : Machine}

/-- The word that an event executes, if it executes one. -/
def executions (m : Machine) : Event → List Execution
  | .step => (m.executed?.map fun w => ⟨w, m.pc⟩).toList
  | .execute w => [⟨w, m.pc - 2⟩]
  | _ => []

/-- The words that a history executes, in order. -/
def executionsAll (m : Machine) : List Event → List Execution
  | [] => []
  | e :: es => m.executions e ++ (m.after e).executionsAll es

/-- What a command has to report. -/
def commandReports (m : Machine) : Command → List UnknownWord
  | .event .step => m.stepReports
  | .event (.execute w) => m.reports w
  | .event _ => []
  | .run cycles | .runFrame cycles => m.runReports cycles
  | .runFrames cycles count => m.framesReports cycles count

/-- What several commands have to report, the first of the list first. -/
def reportsAll (m : Machine) : List Command → List UnknownWord
  | [] => []
  | c :: cs => m.commandReports c ++ (m.obey c).reportsAll cs

/-- The machine with a profile that reports undefined words, or with one that does not. -/
def reporting (m : Machine) (report : Bool) : Machine :=
  { m with profile := { m.profile with reportsUnknown := report } }

/-! ## Reporting changes nothing -/

/-- No instruction looks at whether reports are asked for. -/
theorem perform_reporting (m : Machine) (report : Bool) (i : Instruction) :
    (m.reporting report).perform i = (m.perform i).reporting report := by
  cases i with
  | alu op x y =>
    rw [perform, perform, performAlu_eq, performAlu_eq]
    -- of the profile, an operation reads which register it shifts and whether it clears the flag
    cases op <;> rfl
  | _ =>
    simp only [perform, skipIf_eq, performAddIndex_eq, performWaitKey_eq, performCall_eq,
      performLeave_eq]
    rfl

/-- A cycle does the same whether reports are asked for or not. -/
theorem step_reporting (m : Machine) (report : Bool) :
    (m.reporting report).step = m.step.reporting report := by
  refine step_lockstep (R := fun s t => t = s.reporting report) rfl rfl rfl (fun _ => rfl)
    (fun _ => ?_) (fun i _ => perform_reporting m.advance report i) rfl
  rw [pollKeypad_eq, pollKeypad_eq]
  rfl

/-- A word is executed in the same way whether reports are asked for or not. -/
theorem execute_reporting (m : Machine) (report : Bool) (w : Word) :
    (m.reporting report).execute w = (m.execute w).reporting report :=
  execute_lockstep (R := fun s t => t = s.reporting report)
    (fun i _ => perform_reporting m report i) rfl

/-- What comes from outside does the same whether reports are asked for or not. -/
theorem after_reporting_of_isInput (m : Machine) (report : Bool) {e : Event}
    (h : e.isInput = true) : (m.reporting report).after e = (m.after e).reporting report := by
  have hsame := after_of_isInput_congr (m := m) (n := m.reporting report) h rfl rfl rfl rfl
  rw [hsame, after_of_isInput m h]
  rfl

/-- Every event does the same whether reports are asked for or not. -/
theorem after_reporting (m : Machine) (report : Bool) (e : Event) :
    (m.reporting report).after e = (m.after e).reporting report := by
  cases e with
  | step => exact step_reporting m report
  | execute w => exact execute_reporting m report w
  | reset => rfl
  | tick | setKey _ _ | setKeypad _ | releaseAll | load _ _ =>
    exact after_reporting_of_isInput m report rfl

/-- A history is the same whether reports are asked for or not. -/
theorem afterAll_reporting (m : Machine) (report : Bool) (es : List Event) :
    (m.reporting report).afterAll es = (m.afterAll es).reporting report := by
  induction es generalizing m with
  | nil => rfl
  | cons e es ih => rw [afterAll_cons, after_reporting, ih, afterAll_cons]

/-! ## Reports and executions -/

/-- No event changes the profile. -/
theorem profile_after (m : Machine) (e : Event) : (m.after e).profile = m.profile := by
  cases e with
  | step => exact (keypad_profile_step m).2
  | execute w =>
    -- a word handed over directly does what a fetched one does
    cases hword : Instruction.ofWord? w with
    | some i =>
      rw [after, execute_of_ofWord? hword]
      exact (keypad_profile_decodeFailures_perform m i).2.1
    | none => rw [after, execute_of_ofWord?_eq_none hword]
  | reset => rfl
  | tick | setKey _ _ | setKeypad _ | releaseAll | load _ _ => rw [after_of_isInput m rfl]

theorem profile_afterAll (m : Machine) (es : List Event) :
    (m.afterAll es).profile = m.profile :=
  afterAll_induction (P := fun n => n.profile = m.profile)
    (fun e _ n hn => (profile_after n e).trans hn) rfl

/-- A history in two parts executes what both of them execute, the second from where the first has
ended. -/
theorem executionsAll_append (m : Machine) (es fs : List Event) :
    m.executionsAll (es ++ fs) = m.executionsAll es ++ (m.afterAll es).executionsAll fs := by
  induction es generalizing m with
  | nil => rfl
  | cons e es ih =>
    rw [List.cons_append, executionsAll, ih, executionsAll, List.append_assoc, afterAll_cons]

/-- A cycle that executes a word executes no other, at the program counter. -/
theorem executions_step_of_executed? {w : Word} (h : m.executed? = some w) :
    m.executions .step = [⟨w, m.pc⟩] := by
  rw [executions, h]
  rfl

/-- A word that is executed directly is reported if it is one of those that are. -/
theorem reports_eq (m : Machine) (w : Word) :
    m.reports w = m.profile.reported (m.executions (.execute w)) := by
  unfold reports Profile.reported executions
  cases m.profile.reportsUnknown <;> cases hdefined : w.isDefined <;>
    simp [Execution.isUnknown, Execution.report, hdefined]

/-- A fetched word is reported with the address that it was fetched from, although the program
counter is past it by then. -/
theorem stepReports_eq (m : Machine) :
    m.stepReports = m.profile.reported (m.executions .step) := by
  cases hexecuted : m.executed? with
  | some w =>
    have haddress : m.advance.pc - 2 = m.pc := BitVec.add_sub_cancel _ _
    rw [executions_step_of_executed? hexecuted, stepReports, hexecuted]
    dsimp only
    rw [reports_eq, executions, haddress]
    rfl
  | none =>
    simp only [stepReports, executions, hexecuted, Option.map_none, Option.toList_none,
      Profile.reported_nil]

/-- A run reports what its cycles execute. -/
theorem runReports_eq (m : Machine) (cycles : Nat) :
    m.runReports cycles = m.profile.reported (m.executionsAll (List.replicate cycles .step)) := by
  induction cycles generalizing m with
  | zero => exact (Profile.reported_nil _).symm
  | succ cycles ih =>
    rw [runReports, ih, (keypad_profile_step m).2, stepReports_eq, List.replicate_succ,
      executionsAll, Profile.reported_append, after]

/-- The tick at the end of a frame executes nothing. -/
theorem executionsAll_frameEvents (m : Machine) (cycles : Nat) :
    m.executionsAll (Command.frameEvents cycles) =
      m.executionsAll (List.replicate cycles .step) := by
  rw [Command.frameEvents, executionsAll_append]
  exact List.append_nil _

/-- Frames report what their events execute. -/
theorem framesReports_eq (m : Machine) (cycles count : Nat) :
    m.framesReports cycles count =
      m.profile.reported
        (m.executionsAll (List.replicate count (Command.frameEvents cycles)).flatten) := by
  induction count generalizing m with
  | zero => exact (Profile.reported_nil _).symm
  | succ count ih =>
    rw [framesReports, ih, runReports_eq, runFrame_eq_afterAll, profile_afterAll,
      List.replicate_succ, List.flatten_cons, executionsAll_append, executionsAll_frameEvents,
      Profile.reported_append]

/-- What a command has to report are the undefined words among those that its events execute. -/
theorem commandReports_eq (m : Machine) (c : Command) :
    m.commandReports c = m.profile.reported (m.executionsAll c.events) := by
  cases c with
  | run cycles => exact runReports_eq m cycles
  | runFrame cycles =>
    rw [commandReports, runReports_eq, Command.events, executionsAll_frameEvents]
  | runFrames cycles count => exact framesReports_eq m cycles count
  | event e =>
    have hsingle : m.executionsAll (Command.event e).events = m.executions e :=
      List.append_nil _
    rw [hsingle]
    cases e with
    | step => exact stepReports_eq m
    | execute w => exact reports_eq m w
    | _ => exact (Profile.reported_nil _).symm

/-- Commands report what their events execute, in order. -/
theorem reportsAll_eq (m : Machine) (cs : List Command) :
    m.reportsAll cs = m.profile.reported (m.executionsAll (cs.flatMap Command.events)) := by
  induction cs generalizing m with
  | nil => exact (Profile.reported_nil _).symm
  | cons c cs ih =>
    rw [reportsAll, ih, commandReports_eq, obey_eq_afterAll, profile_afterAll, List.flatMap_cons,
      executionsAll_append, Profile.reported_append]

/-! ## Counting -/

/-- The number of undefined words among those executed. -/
def unknownCount (xs : List Execution) : Nat :=
  xs.countP Execution.isUnknown

theorem unknownCount_append (xs ys : List Execution) :
    unknownCount (xs ++ ys) = unknownCount xs + unknownCount ys :=
  List.countP_append

/-- An executed word is counted if it is undefined, wherever it comes from. -/
theorem decodeFailures_execute (m : Machine) (w : Word) (address : BitVec 16) :
    (m.execute w).decodeFailures =
      m.decodeFailures + BitVec.ofNat 32 (unknownCount [⟨w, address⟩]) := by
  have hdefined : unknownCount [⟨w, address⟩] = if w.isDefined then 0 else 1 := by
    cases h : w.isDefined <;> simp [unknownCount, Execution.isUnknown, h]
  have hcounted : (m.execute w).decodeFailures = (m.countUnknown w).decodeFailures := by
    -- the word is counted first, and no instruction touches the count
    unfold execute
    split
    · exact (keypad_profile_decodeFailures_perform _ _).2.2
    · rfl
  rw [hcounted, hdefined, countUnknown]
  split <;> rfl

/-- A cycle that executes nothing counts nothing. -/
theorem decodeFailures_step_of_idle (h : m.executed? = none) :
    m.step.decodeFailures = m.decodeFailures := by
  rcases step_cases m with ⟨-, hstep⟩ | ⟨-, -, hstep⟩ | ⟨i, hi, -⟩ | ⟨hfault, hawait, -, -⟩
  · rw [hstep]
  · rw [hstep, pollKeypad_eq]
  -- a machine that carries out an instruction or counts a word is not idle
  · rw [instruction?_eq_some_iff, h] at hi
    cases hi
  · have hexecuted : m.executed? = some m.word := executed?_eq_some_iff.2 ⟨hfault, hawait, rfl⟩
    rw [h] at hexecuted
    cases hexecuted

/-- The count goes up by the undefined words that an event executes. Only a reset clears it. -/
theorem decodeFailures_after (m : Machine) {e : Event} (he : e ≠ .reset) :
    (m.after e).decodeFailures =
      m.decodeFailures + BitVec.ofNat 32 (unknownCount (m.executions e)) := by
  cases e with
  | step =>
    cases hexecuted : m.executed? with
    | some w =>
      obtain ⟨hfault, hawait, rfl⟩ := executed?_eq_some_iff.1 hexecuted
      rw [executions_step_of_executed? hexecuted, after, step_of_running hfault hawait]
      exact decodeFailures_execute m.advance m.word m.pc
    | none =>
      rw [after, decodeFailures_step_of_idle hexecuted, executions, hexecuted]
      exact (BitVec.add_zero _).symm
  | execute w => exact decodeFailures_execute m w _
  | reset => exact absurd rfl he
  | tick | setKey _ _ | setKeypad _ | releaseAll | load _ _ =>
    rw [after_of_isInput m rfl]
    exact (BitVec.add_zero _).symm

/-- The same for a history without a reset. -/
theorem decodeFailures_afterAll (m : Machine) {es : List Event} (hes : .reset ∉ es) :
    (m.afterAll es).decodeFailures =
      m.decodeFailures + BitVec.ofNat 32 (unknownCount (m.executionsAll es)) := by
  induction es generalizing m with
  | nil => exact (BitVec.add_zero _).symm
  | cons e es ih =>
    rw [List.mem_cons, not_or] at hes
    rw [afterAll_cons, ih _ hes.2, decodeFailures_after m (Ne.symm hes.1), executionsAll,
      unknownCount_append, BitVec.ofNat_add, BitVec.add_assoc]

end Machine

/-! ## Printing -/

/-- The logger after it has printed a number of lines: it has read the clock for each of them if
they begin with the time. -/
def Console.Logger.afterLines (l : Console.Logger) (count : Nat) : Console.Logger :=
  { l with readings := if l.showTimestamps then l.readings + count else l.readings }

@[simp]
theorem Console.Logger.afterLines_zero (l : Console.Logger) : l.afterLines 0 = l := by
  simp [afterLines]

theorem Console.Logger.afterLines_afterLines (l : Console.Logger) (first second : Nat) :
    (l.afterLines first).afterLines second = l.afterLines (first + second) := by
  unfold afterLines
  cases l.showTimestamps <;> simp [Nat.add_assoc]

/-- A logger that is created with the standard settings is at the level of information. -/
theorem Console.Logger.level_of_create_standard {clock : Console.Clock} {l : Console.Logger}
    (h : create clock .standard = .ok l) : l.level = .info := by
  have hlevel : Console.Level.ofText? Console.Settings.standard.level = some .info := rfl
  rw [create, setLevel, hlevel] at h
  cases h
  rfl

namespace UnknownWord

/-- The lines that a logger prints for a list of reports, each of them a warning. -/
def print (clock : Console.Clock) : Console.Logger → List UnknownWord → List String
  | _, [] => []
  | l, u :: us =>
    let (line, l) := l.write clock .warning u.message
    line.toList ++ print clock l us

variable {clock : Console.Clock} {l : Console.Logger}

/-- A logger at its standard level prints a warning, and has then printed one line more. -/
theorem write_warning (hlevel : l.level = .info) (text : String) :
    l.write clock .warning text = (some (l.line clock .warning text), l.afterLines 1) := by
  have hprints : l.prints .warning = true := by
    rw [Console.Logger.prints, hlevel]
    rfl
  rw [Console.Logger.write, if_pos hprints]
  rfl

/-- A logger at the level of information prints each report, and nothing else. -/
theorem print_eq (hlevel : l.level = .info) (us : List UnknownWord) :
    print clock l us =
      us.mapIdx fun k u => (l.afterLines k).line clock .warning u.message := by
  induction us generalizing l with
  | nil => rfl
  | cons u us ih =>
    -- the first line moves the logger on by one reading, and the others are printed from there
    have hlater : (l.afterLines 1).level = .info := hlevel
    rw [print, write_warning hlevel, List.mapIdx_cons]
    simp only [ih hlater, Console.Logger.afterLines_afterLines, Nat.add_comm 1]
    rw [Console.Logger.afterLines_zero]
    rfl

/-- Reports are printed one after another by the logger without time and colour. -/
theorem lines_eq_print (us : List UnknownWord) :
    lines us = print (fun _ => 0) logger us := by
  induction us with
  | nil => rfl
  | cons u us ih =>
    -- without the time, a line leaves the logger as it was
    have hsame : logger.afterLines 1 = logger := rfl
    rw [print, write_warning rfl, hsame]
    dsimp only
    rw [← ih, lines, List.filterMap_cons, write_warning rfl]
    rfl

end UnknownWord

namespace Machine

/-- Reporting is complete and changes nothing. Of two machines with the same history, one reports
undefined words and the other does not. At every moment they are equal but for that. The one that
does not report prints nothing. The other prints a warning for each undefined word that it has
executed, in order, with the word and the address that it was fetched from, and prints nothing
else. Unless the history has a reset, the count of undefined words goes up by the number of
lines. -/
theorem reporting_complete_and_transparent (m : Machine) (cs : List Command)
    (clock : Console.Clock) {l : Console.Logger} (hlevel : l.level = .info)
    (hreset : .event .reset ∉ cs) :
    let loud := m.reporting true
    let silent := m.reporting false
    let events := cs.flatMap Command.events
    let unknown := (loud.executionsAll events).filter Execution.isUnknown
    let printed := UnknownWord.print clock l (loud.reportsAll cs)
    (∀ before, before <+: events →
        loud.afterAll before = (silent.afterAll before).reporting true) ∧
      loud.obeyAll cs = (silent.obeyAll cs).reporting true ∧
      UnknownWord.print clock l (silent.reportsAll cs) = [] ∧
      printed = unknown.mapIdx (fun k x => (l.afterLines k).line clock .warning x.report.message) ∧
      (loud.obeyAll cs).decodeFailures =
        m.decodeFailures + BitVec.ofNat 32 printed.length := by
  intro loud silent events unknown printed
  -- each of the two is `m` with the flag set its way, and the flag is carried along
  have hsame (es : List Event) : loud.afterAll es = (silent.afterAll es).reporting true := by
    rw [afterAll_reporting, afterAll_reporting]
    rfl
  have hsilent : silent.reportsAll cs = [] := by
    rw [reportsAll_eq]
    rfl
  have hloud : loud.reportsAll cs = unknown.map Execution.report := by
    rw [reportsAll_eq]
    rfl
  have hprinted : printed =
      unknown.mapIdx (fun k x => (l.afterLines k).line clock .warning x.report.message) := by
    show UnknownWord.print clock l (loud.reportsAll cs) = _
    rw [hloud, UnknownWord.print_eq hlevel, List.mapIdx_eq_iff]
    intro k
    rw [List.getElem?_mapIdx, List.getElem?_map, Option.map_map]
    rfl
  have hlength : printed.length = unknownCount (loud.executionsAll events) := by
    rw [hprinted, List.length_mapIdx, unknownCount, List.countP_eq_length_filter]
  refine ⟨fun before _ => hsame before, ?_, ?_, hprinted, ?_⟩
  · rw [obeyAll_eq_afterAll, obeyAll_eq_afterAll]
    exact hsame _
  · rw [hsilent]
    rfl
  · rw [obeyAll_eq_afterAll, hlength]
    apply decodeFailures_afterAll loud
    intro hmem
    exact hreset (Command.event_mem_of_mem_flatMap hmem nofun nofun)

/-- A machine whose program has an undefined word before one that is defined. -/
def skippingUnknown : Machine :=
  { create .zero .modern with memory := (Table.replicate 12 0).write 0x200 [0x51, 0x21, 0x60, 0x01] }

/-- The undefined word is reported by the logger without time and colour, and in the same words by
one with the standard settings. -/
theorem reporting_complete_and_transparent_skippingUnknown :
    UnknownWord.lines ((skippingUnknown.reporting true).reportsAll [.run 2]) =
        ["[ WARNING][chipax] Unknown opcode 0x5121 at 0x200, skipped"] ∧
      ((skippingUnknown.reporting true).obeyAll [.run 2]).decodeFailures = 1 ∧
      ∃ l, Console.Logger.create (fun _ => 0) .standard = .ok l ∧
        UnknownWord.print (fun _ => 0) l ((skippingUnknown.reporting true).reportsAll [.run 2]) =
          [l.line (fun _ => 0) .warning "Unknown opcode 0x5121 at 0x200, skipped"] := by
  obtain ⟨-, -, -, hprinted, hcount⟩ := reporting_complete_and_transparent skippingUnknown [.run 2]
    (fun _ => 0) (l := UnknownWord.logger) rfl (by simp)
  have hunknown : ((skippingUnknown.reporting true).executionsAll
      ([Command.run 2].flatMap Command.events)).filter Execution.isUnknown =
        [⟨0x5121, 0x200⟩] := by
    decide +kernel
  obtain ⟨l, hl⟩ : ∃ l, Console.Logger.create (fun _ => 0) .standard = .ok l := ⟨_, rfl⟩
  have hstandard := (reporting_complete_and_transparent skippingUnknown [.run 2] (fun _ => 0)
    (Console.Logger.level_of_create_standard hl) (by simp)).2.2.2.1
  rw [hunknown] at hprinted hstandard
  refine ⟨?_, ?_, l, hl, ?_⟩
  · rw [UnknownWord.lines_eq_print, hprinted]
    rfl
  · rw [hcount, hprinted]
    rfl
  · rw [hstandard, List.mapIdx_cons, Console.Logger.afterLines_zero]
    rfl

end Machine

end Chip8
