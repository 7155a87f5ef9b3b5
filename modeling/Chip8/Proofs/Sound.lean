import Chip8.Proofs.Countdown

/-!
# Tones begin and end in turn

A tone begins when `FX18` takes the sound timer away from zero. It ends when `FX18` puts the timer
back to zero, or when a tick does, and a tick that ends a tone says so. Nothing else begins or ends
one. Over any history without a reset, the ticks that report an end, the tones that `FX18` has
silenced and the tone that still sounds add up to the tones begun and the one that sounded at first.

* `Occurrence.tone_balance`: the balance of one event.
* `Machine.tone_balance_afterAll`: the balance of a history.
* `Machine.soundStopped_runFrames`: frames return what their ticks report, in order.
* `Machine.sound_events_conserved`: the balance of histories, and what becomes of each tone in
  frames.
-/

namespace Chip8

/-- One while the buzzer sounds, and zero while it is silent. -/
def Machine.sounding (m : Machine) : Nat :=
  if m.soundActive then 1 else 0

namespace Occurrence

/-- Whether the event executes an `FX18` that takes the sound timer from zero to something else. -/
def startsTone (o : Occurrence) : Bool :=
  (o.written? .sound).isSome && !o.machine.soundActive && o.result.soundActive

/-- Whether the event executes an `FX18` that takes the sound timer from something else to zero. -/
def silencesTone (o : Occurrence) : Bool :=
  (o.written? .sound).isSome && o.machine.soundActive && !o.result.soundActive

/-- What a tick reports: whether it has ended a tone. -/
def tickReport? (o : Occurrence) : Option Bool :=
  if o.event.isTick then some o.machine.soundStops else none

end Occurrence

namespace Machine

/-- What the ticks of a history report, in order. -/
def tickReports (m : Machine) (es : List Event) : List Bool :=
  (m.occurrences es).filterMap Occurrence.tickReport?

/-- The number of tones that a history begins. -/
def toneStarts (m : Machine) (es : List Event) : Nat :=
  (m.occurrences es).countP Occurrence.startsTone

/-- The number of tones that `FX18` silences in a history. -/
def toneSilencings (m : Machine) (es : List Event) : Nat :=
  (m.occurrences es).countP Occurrence.silencesTone

end Machine

/-! ## One event -/

theorem Machine.sounding_of_soundActive {m : Machine} (h : m.soundActive = true) :
    m.sounding = 1 :=
  if_pos h

theorem Machine.sounding_of_soundActive_eq_false {m : Machine} (h : m.soundActive = false) :
    m.sounding = 0 := by
  rw [sounding, h]
  rfl

/-- A tick ends a tone or leaves the buzzer as it is: it begins none. -/
theorem Machine.sounding_tick (m : Machine) :
    (if m.soundStops then 1 else 0) + m.tick.sounding = m.sounding := by
  have hsilent : m.soundActive = false → m.tick.soundActive = false := by
    simp only [soundActive, tick, bne_eq_false_iff_eq]
    intro hzero
    rw [hzero]
    rfl
  rw [soundStops, sounding, sounding]
  cases hm : m.soundActive with
  | false =>
    rw [hsilent hm]
    rfl
  | true => cases m.tick.soundActive <;> rfl

namespace Occurrence

variable {o : Occurrence}

/-- An event that neither resets, ticks nor sets the sound timer leaves the tone as it is. -/
theorem soundActive_result_of_written?_eq_none (hreset : o.event ≠ .reset)
    (hwritten : o.written? .sound = none) (htick : o.event.isTick = false) :
    o.result.soundActive = o.machine.soundActive := by
  have hread := Timer.read_result .sound hreset
  rw [hwritten, htick] at hread
  exact congrArg (· != 0) hread

/-- What an event other than a tick does to the buzzer: an `FX18` begins a tone, silences one, or
does neither, and all else does neither. -/
theorem tone_balance_of_not_isTick (hreset : o.event ≠ .reset) (htick : o.event.isTick = false) :
    (if o.silencesTone then 1 else 0) + o.result.sounding =
      (if o.startsTone then 1 else 0) + o.machine.sounding := by
  unfold silencesTone startsTone Machine.sounding
  cases hwritten : o.written? .sound with
  | some v => cases o.machine.soundActive <;> cases o.result.soundActive <;> rfl
  | none =>
    rw [soundActive_result_of_written?_eq_none hreset hwritten htick]
    rfl

/-- The balance of one event. -/
theorem tone_balance (hreset : o.event ≠ .reset) :
    o.tickReport?.toList.count true + (if o.silencesTone then 1 else 0) + o.result.sounding =
      (if o.startsTone then 1 else 0) + o.machine.sounding := by
  cases htick : o.event.isTick with
  | false =>
    have hreport : o.tickReport? = none := by rw [tickReport?, htick]; rfl
    rw [hreport, ← tone_balance_of_not_isTick hreset htick]
    exact congrArg (· + _) (Nat.zero_add _)
  | true =>
    obtain ⟨m, e⟩ := o
    cases e with
    | tick =>
      have hreport :
          (tickReport? ⟨m, .tick⟩).toList.count true = if m.soundStops then 1 else 0 := by
        rw [tickReport?]
        cases m.soundStops <;> rfl
      -- a tick is no `FX18`
      have hsilences : silencesTone ⟨m, .tick⟩ = false := rfl
      have hstarts : startsTone ⟨m, .tick⟩ = false := rfl
      have hresult : result ⟨m, .tick⟩ = m.tick := rfl
      rw [hreport, hsilences, hstarts, hresult]
      simpa using m.sounding_tick
    | _ => cases htick

end Occurrence

/-! ## Histories -/

namespace Machine

variable {m : Machine} {es fs : List Event}

/-- A history in two parts has the reports of both. -/
theorem tickReports_append (m : Machine) (es fs : List Event) :
    m.tickReports (es ++ fs) = m.tickReports es ++ (m.afterAll es).tickReports fs := by
  rw [tickReports, occurrences_append, List.filterMap_append]
  rfl

theorem tickReports_cons (m : Machine) (e : Event) (es : List Event) :
    m.tickReports (e :: es) =
      (Occurrence.tickReport? ⟨m, e⟩).toList ++ (m.after e).tickReports es := by
  rw [tickReports, occurrences, List.filterMap_cons]
  cases Occurrence.tickReport? ⟨m, e⟩ <;> rfl

/-- Every tick reports. -/
theorem length_tickReports (m : Machine) (es : List Event) :
    (m.tickReports es).length = tickCount es := by
  induction es generalizing m with
  | nil => rfl
  | cons e es ih =>
    rw [tickReports_cons, List.length_append, ih, tickCount, tickCount, List.countP_cons,
      Occurrence.tickReport?, Nat.add_comm]
    cases e.isTick <;> rfl

/-- The balance of a history. -/
theorem tone_balance_afterAll (hreset : .reset ∉ es) :
    (m.tickReports es).count true + m.toneSilencings es + (m.afterAll es).sounding =
      m.toneStarts es + m.sounding := by
  induction es generalizing m with
  | nil => rfl
  | cons e es ih =>
    rw [List.mem_cons, not_or] at hreset
    have hfirst := Occurrence.tone_balance (o := ⟨m, e⟩) (Ne.symm hreset.1)
    have hrest := ih (m := m.after e) hreset.2
    rw [tickReports_cons, List.count_append, toneSilencings, toneStarts, occurrences,
      List.countP_cons, List.countP_cons, afterAll_cons]
    rw [toneSilencings, toneStarts] at hrest
    dsimp only [Occurrence.result] at hfirst
    omega

/-! ## Frames -/

/-- A frame returns what its tick reports. -/
theorem tickReports_frameEvents (m : Machine) (cycles : Nat) :
    m.tickReports (Command.frameEvents cycles) = [(m.run cycles).soundStops] := by
  have hsteps : m.tickReports (List.replicate cycles .step) = [] := by
    rw [← List.length_eq_zero_iff, length_tickReports, tickCount, List.countP_replicate]
    rfl
  rw [Command.frameEvents, tickReports_append, hsteps, ← run_eq_afterAll]
  rfl

/-- Frames return what their ticks report, in order. -/
theorem soundStopped_runFrames (m : Machine) (cycles count : Nat) :
    (m.runFrames cycles count).1.map Frame.soundStopped =
      m.tickReports (Command.runFrames cycles count).events := by
  induction count generalizing m with
  | zero => rfl
  | succ count ih =>
    have hframe := tickReports_frameEvents m cycles
    rw [Command.events, List.replicate_succ, List.flatten_cons, tickReports_append, hframe,
      ← runFrame_eq_afterAll]
    exact congrArg (_ :: ·) (ih _)

theorem reset_not_mem_runFrames (cycles count : Nat) :
    .reset ∉ (Command.runFrames cycles count).events := by
  intro hmem
  rcases Command.eq_of_mem_events hmem with h | h | h <;> cases h

/-- The reports of a stretch of a history are those between the ticks before it and the ticks
after it. -/
theorem take_drop_tickReports (before stretch rest : List Event) :
    ((m.tickReports (before ++ (stretch ++ rest))).drop (tickCount before)).take
        (tickCount stretch) = (m.afterAll before).tickReports stretch := by
  rw [tickReports_append, tickReports_append,
    List.drop_left' (length_tickReports m before), List.take_left' (length_tickReports _ stretch)]

/-- Sound events are conserved. In a history without a reset, the ticks that report the end of a
tone, the tones silenced by `FX18` and the tone that sounds at the end add up to the tones begun by
`FX18` and the tone that sounds at first. Of frames this says what becomes of each tone.
Until the next one begins, a tone is reported once, or silenced once, or still sounds, and only
one of these. While the buzzer is silent and no tone begins, nothing is reported. -/
theorem sound_events_conserved (m : Machine) :
    (∀ es, .reset ∉ es →
      (m.tickReports es).count true + m.toneSilencings es + (m.afterAll es).sounding =
        m.toneStarts es + m.sounding) ∧
      ∀ cycles count,
        let es := (Command.runFrames cycles count).events
        let reports := (m.runFrames cycles count).1.map Frame.soundStopped
        reports = m.tickReports es ∧
          reports.count true + m.toneSilencings es + (m.runFrames cycles count).2.sounding =
            m.toneStarts es + m.sounding ∧
          (∀ before e stretch rest, es = (before ++ [e]) ++ (stretch ++ rest) →
            Occurrence.startsTone ⟨m.afterAll before, e⟩ = true →
            let n := m.afterAll (before ++ [e])
            n.toneStarts stretch = 0 →
              ((reports.drop (tickCount (before ++ [e]))).take (tickCount stretch)).count true +
                n.toneSilencings stretch + (n.afterAll stretch).sounding = 1) ∧
          ∀ before stretch rest, es = before ++ (stretch ++ rest) →
            (m.afterAll before).soundActive = false → (m.afterAll before).toneStarts stretch = 0 →
              ((reports.drop (tickCount before)).take (tickCount stretch)).count true = 0 := by
  refine ⟨fun es => tone_balance_afterAll, fun cycles count => ?_⟩
  intro es reports
  have hreports : reports = m.tickReports es := soundStopped_runFrames m cycles count
  have hreset : .reset ∉ es := reset_not_mem_runFrames cycles count
  -- a stretch of the frames is a history of its own, and the balance of histories holds of it
  have hstretch {before stretch rest : List Event} (hsplit : es = before ++ (stretch ++ rest)) :
      ((reports.drop (tickCount before)).take (tickCount stretch)).count true +
          (m.afterAll before).toneSilencings stretch +
          ((m.afterAll before).afterAll stretch).sounding =
        (m.afterAll before).toneStarts stretch + (m.afterAll before).sounding := by
    rw [hreports, hsplit, take_drop_tickReports]
    apply tone_balance_afterAll
    intro hmem
    rw [hsplit] at hreset
    exact hreset (List.mem_append_right _ (List.mem_append_left _ hmem))
  refine ⟨hreports, ?_, ?_, ?_⟩
  · rw [hreports, runFrames_eq_afterAll]
    exact tone_balance_afterAll hreset
  · intro before e stretch rest hsplit hstarts n hnone
    have hsounds : n.sounding = 1 := by
      -- the event after `before` has begun a tone
      rw [Occurrence.startsTone, Bool.and_eq_true] at hstarts
      apply sounding_of_soundActive
      show (m.afterAll (before ++ [e])).soundActive = true
      rw [afterAll_concat]
      exact hstarts.2
    rw [hstretch hsplit, hnone, hsounds]
  · intro before stretch rest hsplit hsilent hnone
    have hbalance := hstretch hsplit
    rw [hnone, sounding_of_soundActive_eq_false hsilent] at hbalance
    omega

/-- A machine whose program starts a tone of two ticks. -/
def beeping : Machine :=
  { create .zero .modern with
    memory := (Table.replicate 12 0).write 0x200 [0x60, 0x02, 0xF0, 0x18] }

theorem sound_events_conserved_beeping :
    let reports := (beeping.runFrames 2 2).1.map Frame.soundStopped
    let n := beeping.afterAll [.step, .step]
    let stretch : List Event := [.tick, .step, .step, .tick]
    reports.count true + n.toneSilencings stretch + (n.afterAll stretch).sounding = 1 := by
  intro reports n stretch
  have hstarts : Occurrence.startsTone ⟨beeping.afterAll [.step], .step⟩ = true := by
    decide +kernel
  have hnone : (beeping.afterAll [.step, .step]).toneStarts stretch = 0 := by decide +kernel
  exact ((sound_events_conserved beeping).2 2 2).2.2.1 [.step] .step stretch [] rfl hstarts hnone

end Machine

end Chip8
