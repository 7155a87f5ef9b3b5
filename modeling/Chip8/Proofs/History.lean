import Chip8.Machine.Frame
import Chip8.Machine.Keypad
import Chip8.Machine.Load

/-!
# Histories of a machine

An `Event` is one elementary thing that happens to a machine. A `Command` is what a host asks for,
and may stand for many events, as a run or a number of frames does. A request that is refused
leaves the machine as it is.

* `Machine.obeyAll_eq_afterAll`: commands do what their events do one after another.
* `Machine.afterAll_induction`: what every event of a history keeps, the history keeps.
* `Machine.Reachable`: the machine has been switched on and has obeyed some commands since.
-/

namespace Chip8

/-- An elementary thing that happens to a machine: a cycle, a tick of the timers, a change of the
keypad, a load, a reset, or the execution of a word that has not been fetched. -/
inductive Event where
  | step
  | tick
  | setKey (key : Int) (pressed : Bool)
  | setKeypad (mask : BoolArray)
  | releaseAll
  | load (offset : Int) (bytes : List Byte)
  | reset
  | execute (w : Word)

/-- Whether an event is an input to a running program: a tick, a change of the keypad, or a
load. -/
def Event.isInput : Event → Bool
  | tick | setKey _ _ | setKeypad _ | releaseAll | load _ _ => true
  | step | reset | execute _ => false

/-- What a host asks of a machine: a single event, a number of cycles, a frame of a number of
cycles, or a number of such frames. -/
inductive Command where
  | event (e : Event)
  | run (cycles : Nat)
  | runFrame (cycles : Nat)
  | runFrames (cycles count : Nat)

namespace Command

/-- The events of a frame. -/
def frameEvents (cycles : Nat) : List Event :=
  List.replicate cycles .step ++ [.tick]

/-- The events that a command stands for. -/
def events : Command → List Event
  | event e => [e]
  | run cycles => List.replicate cycles .step
  | runFrame cycles => frameEvents cycles
  | runFrames cycles count => (List.replicate count (frameEvents cycles)).flatten

theorem mem_frameEvents {cycles : Nat} {e : Event} (h : e ∈ frameEvents cycles) :
    e = .step ∨ e = .tick := by
  rcases List.mem_append.1 h with hstep | htick
  · exact .inl (List.eq_of_mem_replicate hstep)
  · exact .inr (List.mem_singleton.1 htick)

/-- A command stands for a single event, or for cycles and ticks. -/
theorem eq_of_mem_events {e : Event} {c : Command} (h : e ∈ c.events) :
    c = .event e ∨ e = .step ∨ e = .tick := by
  cases c with
  | event f =>
    have he : e = f := List.mem_singleton.1 h
    exact .inl (by rw [he])
  | run cycles => exact .inr (.inl (List.eq_of_mem_replicate h))
  | runFrame cycles => exact .inr (mem_frameEvents h)
  | runFrames cycles count =>
    obtain ⟨frame, hframe, hmem⟩ := List.mem_flatten.1 h
    rw [List.eq_of_mem_replicate hframe] at hmem
    exact .inr (mem_frameEvents hmem)

/-- Among the events of commands, one that is neither a cycle nor a tick is a command of its own. -/
theorem event_mem_of_mem_flatMap {e : Event} {cs : List Command} (h : e ∈ cs.flatMap events)
    (hstep : e ≠ .step) (htick : e ≠ .tick) : .event e ∈ cs := by
  obtain ⟨c, hc, he⟩ := List.mem_flatMap.1 h
  rcases eq_of_mem_events he with rfl | rfl | rfl
  · exact hc
  · exact absurd rfl hstep
  · exact absurd rfl htick

end Command

namespace Machine

/-- The machine after an event. -/
def after (m : Machine) : Event → Machine
  | .step => m.step
  | .tick => m.tick
  | .setKey key pressed => (m.setKey key pressed).toOption.getD m
  | .setKeypad mask => (m.setKeypad mask).toOption.getD m
  | .releaseAll => m.releaseAll
  | .load offset bytes => (m.load offset bytes).toOption.getD m
  | .reset => m.reset
  | .execute w => m.execute w

/-- The machine after several events, the first of the list first. -/
def afterAll (m : Machine) (es : List Event) : Machine :=
  es.foldl after m

/-- The machine after it has carried out a command. -/
def obey (m : Machine) : Command → Machine
  | .event e => m.after e
  | .run cycles => m.run cycles
  | .runFrame cycles => (m.runFrame cycles).2
  | .runFrames cycles count => (m.runFrames cycles count).2

/-- The machine after several commands, the first of the list first. -/
def obeyAll (m : Machine) (cs : List Command) : Machine :=
  cs.foldl obey m

/-- Whether a machine that has been switched on can get into a state. -/
def Reachable (m : Machine) : Prop :=
  ∃ rng profile cs, m = (create rng profile).obeyAll cs

/-! ## Histories event by event -/

@[simp]
theorem afterAll_nil (m : Machine) : m.afterAll [] = m := rfl

@[simp]
theorem afterAll_cons (m : Machine) (e : Event) (es : List Event) :
    m.afterAll (e :: es) = (m.after e).afterAll es := rfl

theorem afterAll_append (m : Machine) (es fs : List Event) :
    m.afterAll (es ++ fs) = (m.afterAll es).afterAll fs :=
  List.foldl_append

theorem afterAll_concat (m : Machine) (es : List Event) (e : Event) :
    m.afterAll (es ++ [e]) = (m.afterAll es).after e :=
  afterAll_append m es [e]

/-- What every event of a history keeps, the history keeps. -/
theorem afterAll_induction {P : Machine → Prop} {es : List Event}
    (hkeep : ∀ e ∈ es, ∀ n, P n → P (n.after e)) {m : Machine} (hm : P m) : P (m.afterAll es) := by
  induction es generalizing m with
  | nil => exact hm
  | cons e es ih =>
    have he : P (m.after e) := hkeep e List.mem_cons_self m hm
    exact ih (fun f hf => hkeep f (List.mem_cons_of_mem e hf)) he

/-! ## Commands -/

/-- A run is a history of cycles. -/
theorem run_eq_afterAll (m : Machine) (cycles : Nat) :
    m.run cycles = m.afterAll (List.replicate cycles .step) := by
  induction cycles generalizing m with
  | zero => rfl
  | succ cycles ih => rw [run, ih, List.replicate_succ, afterAll_cons, after]

/-- A frame is a history of cycles with a tick at its end. -/
theorem runFrame_eq_afterAll (m : Machine) (cycles : Nat) :
    (m.runFrame cycles).2 = m.afterAll (Command.frameEvents cycles) := by
  rw [Command.frameEvents, afterAll_concat, ← run_eq_afterAll]
  rfl

/-- Several frames are their histories one after another. -/
theorem runFrames_eq_afterAll (m : Machine) (cycles count : Nat) :
    (m.runFrames cycles count).2 =
      m.afterAll (List.replicate count (Command.frameEvents cycles)).flatten := by
  induction count generalizing m with
  | zero => rfl
  | succ count ih =>
    rw [List.replicate_succ, List.flatten_cons, afterAll_append, ← runFrame_eq_afterAll, ← ih]
    rfl

/-- A command does what its events do one after another. -/
theorem obey_eq_afterAll (m : Machine) (c : Command) : m.obey c = m.afterAll c.events := by
  cases c with
  | event e => rfl
  | run cycles => exact run_eq_afterAll m cycles
  | runFrame cycles => exact runFrame_eq_afterAll m cycles
  | runFrames cycles count => exact runFrames_eq_afterAll m cycles count

/-- Commands are the events that they are made of. -/
theorem obeyAll_eq_afterAll (m : Machine) (cs : List Command) :
    m.obeyAll cs = m.afterAll (cs.flatMap Command.events) := by
  -- on the commands, with the machine that each of them leaves to the next
  induction cs generalizing m with
  | nil => rfl
  | cons c cs ih =>
    rw [List.flatMap_cons, afterAll_append, ← obey_eq_afterAll, ← ih]
    rfl

/-- A machine that can be got into is one that has been switched on, after a history. -/
theorem Reachable.exists_afterAll {m : Machine} (h : m.Reachable) :
    ∃ rng profile es, m = (create rng profile).afterAll es := by
  obtain ⟨rng, profile, cs, rfl⟩ := h
  exact ⟨rng, profile, cs.flatMap Command.events, obeyAll_eq_afterAll _ cs⟩

/-- What an input makes of the memory, the keypad and the timers does not depend on the rest of the
machine, and the rest stays. -/
theorem after_of_isInput_congr {m n : Machine} {e : Event} (h : e.isInput = true)
    (hmemory : n.memory = m.memory) (hkeypad : n.keypad = m.keypad)
    (hdelay : n.delayTimer = m.delayTimer) (hsound : n.soundTimer = m.soundTimer) :
    n.after e =
      { n with
        memory := (m.after e).memory
        keypad := (m.after e).keypad
        delayTimer := (m.after e).delayTimer
        soundTimer := (m.after e).soundTimer } := by
  -- with the four parts of the one machine put in place of those of the other
  cases n
  cases hmemory
  cases hkeypad
  cases hdelay
  cases hsound
  cases e with
  | step | reset | execute w => cases h
  | tick | releaseAll => rfl
  -- a request that is granted changes one field, and one that is refused changes none
  | setKey key pressed =>
    simp only [after, setKey]
    split <;> rfl
  | setKeypad mask =>
    simp only [after, setKeypad]
    split <;> rfl
  | load offset bytes =>
    simp only [after, load]
    split
    · rfl
    · split <;> rfl

/-- An input changes at most the memory, the keypad and the timers. -/
theorem after_of_isInput (m : Machine) {e : Event} (h : e.isInput = true) :
    m.after e =
      { m with
        memory := (m.after e).memory
        keypad := (m.after e).keypad
        delayTimer := (m.after e).delayTimer
        soundTimer := (m.after e).soundTimer } :=
  after_of_isInput_congr h rfl rfl rfl rfl

end Machine

end Chip8
