import Chip8.Proofs.History
import Chip8.Proofs.Lockstep

/-!
# Timers and keypad

The timers and the keypad are worked from outside while a program runs. Of all instructions only
`FX07`, `EX9E`, `EXA1` and `FX0A` look at them (`Instruction.readsPeripherals`). As long as a
program executes none of these, it does not matter when the timers tick and when keys go down or
up: only the number of cycles counts.

Two machines have the same core if they are equal but for timers and keypad (`Machine.SameCore`).

* `Machine.SameCore.step`: a cycle that reads no peripheral keeps the cores the same.
* `Machine.SameCore.afterAll_run`: a history of cycles, ticks and keys has the core of the run of
  as many cycles.
* `Machine.sameCore_afterAll_and_runFrames`: so two histories with the same number of cycles have
  the same core, and frames show what the run shows.
-/

namespace Chip8

/-- Whether an event is a tick of the timers or a change of the keypad. -/
def Event.isPeripheral : Event → Bool
  | tick | setKey _ _ | setKeypad _ | releaseAll => true
  | step | load _ _ | reset | execute _ => false

/-- Whether an event is a cycle. -/
def Event.isStep : Event → Bool
  | step => true
  | _ => false

/-- The number of cycles in a history. -/
def cycleCount (es : List Event) : Nat :=
  es.countP Event.isStep

/-- Whether an instruction looks at a timer or at the keypad. -/
def Instruction.readsPeripherals : Instruction → Bool
  | getDelay _ | skipIfKey _ | skipUnlessKey _ | waitKey _ => true
  | _ => false

@[simp]
theorem cycleCount_step (es : List Event) : cycleCount (.step :: es) = cycleCount es + 1 :=
  List.countP_cons_of_pos rfl

theorem cycleCount_of_isPeripheral {e : Event} (h : e.isPeripheral = true) (es : List Event) :
    cycleCount (e :: es) = cycleCount es := by
  apply List.countP_cons_of_neg
  cases e <;> simp_all [Event.isPeripheral, Event.isStep]

/-- Frames have as many cycles as are asked for, whatever their ticks. -/
theorem cycleCount_frames (cycles count : Nat) :
    cycleCount (List.replicate count (Command.frameEvents cycles)).flatten = count * cycles := by
  have hframe : (Command.frameEvents cycles).countP Event.isStep = cycles := by
    rw [Command.frameEvents, List.countP_append, List.countP_replicate]
    rfl
  rw [cycleCount, List.countP_flatten, List.map_replicate, hframe, List.sum_replicate_nat]

namespace Machine

/-- Whether the next cycle executes an instruction that looks at a timer or at the keypad. -/
def readsPeripherals (m : Machine) : Bool :=
  m.instruction?.any Instruction.readsPeripherals

/-- Two machines are equal but for timers and keypad. -/
def SameCore (s t : Machine) : Prop :=
  ∃ delay sound keypad,
    t = { s with delayTimer := delay, soundTimer := sound, keypad := keypad }

variable {s t m n : Machine} {i : Instruction}

namespace SameCore

theorem refl (m : Machine) : SameCore m m :=
  ⟨m.delayTimer, m.soundTimer, m.keypad, rfl⟩

theorem symm (h : SameCore s t) : SameCore t s := by
  obtain ⟨delay, sound, keypad, rfl⟩ := h
  exact ⟨s.delayTimer, s.soundTimer, s.keypad, rfl⟩

theorem trans {u : Machine} (hst : SameCore s t) (htu : SameCore t u) : SameCore s u := by
  obtain ⟨_, _, _, rfl⟩ := hst
  obtain ⟨delay, sound, keypad, rfl⟩ := htu
  exact ⟨delay, sound, keypad, rfl⟩

/-- Machines with the same core look at the peripherals in the same cycles. -/
theorem readsPeripherals_eq (h : SameCore s t) : t.readsPeripherals = s.readsPeripherals := by
  obtain ⟨_, _, _, rfl⟩ := h
  rfl

/-- An instruction that does not look at timers and keypad keeps the cores the same. -/
theorem perform (h : SameCore s t) (hblind : i.readsPeripherals = false) :
    SameCore (s.perform i) (t.perform i) := by
  obtain ⟨delay, sound, keypad, rfl⟩ := h
  cases i with
  | getDelay x | skipIfKey x | skipUnlessKey x | waitKey x => cases hblind
  -- the timers are written from a register, which both machines have in common
  | _ =>
    simp only [Machine.perform, skipIf_eq, performAlu_eq, performAddIndex_eq, performCall_eq,
      performLeave_eq]
    exact ⟨_, _, _, rfl⟩

/-- A cycle that does not look at timers and keypad does the same to both machines. -/
theorem step (h : SameCore s t) (hawake : s.awaitingKey = false)
    (hblind : s.readsPeripherals = false) : SameCore s.step t.step := by
  have hperform : ∀ i, s.instruction? = some i →
      SameCore (s.advance.perform i) (t.advance.perform i) := by
    intro i hi
    rw [readsPeripherals, hi] at hblind
    obtain ⟨delay, sound, keypad, rfl⟩ := h
    exact perform ⟨delay, sound, keypad, rfl⟩ hblind
  obtain ⟨delay, sound, keypad, rfl⟩ := h
  refine step_lockstep ⟨_, _, _, rfl⟩ rfl rfl (fun _ => rfl) ?_ hperform ⟨_, _, _, rfl⟩
  intro hawait
  rw [hawake] at hawait
  cases hawait

end SameCore

/-- A change of the keypad changes nothing else. -/
theorem after_of_isPeripheral (m : Machine) {e : Event} (h : e.isPeripheral = true)
    (htick : e ≠ .tick) : m.after e = { m with keypad := (m.after e).keypad } := by
  cases e with
  | step | load _ _ | reset | execute _ => cases h
  | tick => exact absurd rfl htick
  | releaseAll => rfl
  -- a request that is refused changes nothing at all
  | setKey key pressed =>
    simp only [after, setKey]
    split <;> rfl
  | setKeypad mask =>
    simp only [after, setKeypad]
    split
    · simp only [Except.toOption, Option.getD_some]
    · rfl

/-- Ticks and keys leave the core as it is. -/
theorem sameCore_after {e : Event} (h : e.isPeripheral = true) : SameCore m (m.after e) := by
  by_cases htick : e = .tick
  · subst htick
    exact ⟨_, _, _, rfl⟩
  · rw [after_of_isPeripheral m h htick]
    exact ⟨_, _, _, rfl⟩

/-- Only a cycle that looks at the keypad can begin to wait for a key. -/
theorem awaitingKey_step (hawake : m.awaitingKey = false) (hblind : m.readsPeripherals = false) :
    m.step.awaitingKey = false := by
  rcases step_cases m with ⟨-, hstep⟩ | ⟨-, hawait, -⟩ | ⟨i, hi, hstep⟩ | ⟨-, -, -, hstep⟩
  · rw [hstep, hawake]
  · rw [hawake] at hawait
    cases hawait
  · rw [readsPeripherals, hi] at hblind
    have hwait : ∀ x, i ≠ .waitKey x := by
      rintro x rfl
      cases hblind
    rw [hstep, (awaitingKey_keyRegister_perform hwait).1]
    exact hawake
  · rw [hstep]
    exact hawake

/-! ## Histories of cycles, ticks and keys -/

/-- A history of cycles, ticks and keys has the core of the run of as many cycles, if that run
looks at no peripheral. -/
theorem SameCore.afterAll_run {es : List Event} (h : SameCore m n) (hawake : m.awaitingKey = false)
    (hes : ∀ e ∈ es, e = .step ∨ e.isPeripheral = true)
    (hblind : ∀ k < cycleCount es, (m.run k).readsPeripherals = false) :
    SameCore (m.run (cycleCount es)) (n.afterAll es) := by
  -- only a cycle takes the run one step further; a tick or a key leaves the core where it is
  induction es generalizing m n with
  | nil => exact h
  | cons e es ih =>
    have hrest : ∀ f ∈ es, f = .step ∨ f.isPeripheral = true :=
      fun f hf => hes f (List.mem_cons_of_mem e hf)
    rcases hes e List.mem_cons_self with rfl | hper
    · rw [cycleCount_step] at hblind ⊢
      have hnow : m.readsPeripherals = false := hblind 0 (Nat.succ_pos _)
      exact ih (h.step hawake hnow) (awaitingKey_step hawake hnow) hrest fun k hk =>
        hblind (k + 1) (Nat.succ_lt_succ hk)
    · rw [cycleCount_of_isPeripheral hper] at hblind ⊢
      exact ih (h.trans (sameCore_after hper)) hawake hrest hblind

/-- If the cycles of a history look at no peripheral, neither do those of the run. -/
theorem readsPeripherals_run {es : List Event} (h : SameCore m n) (hawake : m.awaitingKey = false)
    (hes : ∀ e ∈ es, e = .step ∨ e.isPeripheral = true)
    (hblind : ∀ before, before ++ [.step] <+: es → (n.afterAll before).readsPeripherals = false) :
    ∀ k < cycleCount es, (m.run k).readsPeripherals = false := by
  -- the cores are the same before each cycle, and with them the instruction that comes next
  induction es generalizing m n with
  | nil => exact nofun
  | cons e es ih =>
    have hrest : ∀ f ∈ es, f = .step ∨ f.isPeripheral = true :=
      fun f hf => hes f (List.mem_cons_of_mem e hf)
    -- a stretch of the rest of the history is a stretch of the whole with `e` before it
    have hlater : ∀ before, before ++ [.step] <+: es →
        ((n.after e).afterAll before).readsPeripherals = false := by
      intro before hbefore
      exact hblind (e :: before) (List.cons_prefix_cons.2 ⟨rfl, hbefore⟩)
    rcases hes e List.mem_cons_self with rfl | hper
    · have hnow : m.readsPeripherals = false := by
        rw [← h.readsPeripherals_eq]
        exact hblind [] (List.prefix_append [Event.step] es)
      intro k hk
      cases k with
      | zero => exact hnow
      | succ k =>
        rw [cycleCount_step] at hk
        exact ih (h.step hawake hnow) (awaitingKey_step hawake hnow) hrest hlater k
          (Nat.lt_of_succ_lt_succ hk)
    · rw [cycleCount_of_isPeripheral hper]
      exact ih (h.trans (sameCore_after hper)) hawake hrest hlater

/-! ## Frames -/

/-- The display of a frame is the one of the machine after it. -/
theorem display_runFrames {cycles count k : Nat} (h : k < count) :
    (m.runFrames cycles count).1[k]?.map Frame.display =
      some (m.runFrames cycles (k + 1)).2.display := by
  induction k generalizing m count with
  | zero =>
    obtain ⟨count, rfl⟩ := Nat.exists_eq_succ_of_ne_zero (Nat.ne_of_gt h)
    rfl
  | succ k ih =>
    obtain ⟨count, rfl⟩ := Nat.exists_eq_succ_of_ne_zero (Nat.ne_of_gt (Nat.zero_lt_of_lt h))
    rw [runFrames, runFrames]
    exact ih (Nat.lt_of_succ_lt_succ h)

/-- Cycles and ticks leave the keypad alone. -/
theorem keypad_afterAll {es : List Event} (hes : ∀ e ∈ es, e = .step ∨ e = .tick) :
    (m.afterAll es).keypad = m.keypad := by
  refine afterAll_induction (P := fun n => n.keypad = m.keypad) ?_ rfl
  intro e he n hn
  rcases hes e he with rfl | rfl
  · exact (keypad_profile_step n).1.trans hn
  · exact hn

/-- Frames that look at no peripheral end as a run of all their cycles does, but for the timers. -/
theorem runFrames_eq_run {cycles count : Nat} (hawake : m.awaitingKey = false)
    (hblind : ∀ k < count * cycles, (m.run k).readsPeripherals = false) :
    ∃ delay sound, (m.runFrames cycles count).2 =
      { m.run (count * cycles) with delayTimer := delay, soundTimer := sound } := by
  have hevents : ∀ e ∈ (List.replicate count (Command.frameEvents cycles)).flatten,
      e = .step ∨ e = .tick := by
    intro e he
    obtain ⟨frame, hframe, hmem⟩ := List.mem_flatten.1 he
    rw [List.eq_of_mem_replicate hframe] at hmem
    exact Command.mem_frameEvents hmem
  have hsame : SameCore (m.run (count * cycles)) (m.runFrames cycles count).2 := by
    rw [runFrames_eq_afterAll, ← cycleCount_frames]
    apply SameCore.afterAll_run (.refl m) hawake
    · intro e he
      rcases hevents e he with rfl | rfl
      · exact .inl rfl
      · exact .inr rfl
    · rwa [cycleCount_frames]
  -- neither cycles nor ticks press a key, so the keypads agree as well
  have hkeypad : (m.runFrames cycles count).2.keypad = (m.run (count * cycles)).keypad := by
    rw [runFrames_eq_afterAll, run_eq_afterAll, keypad_afterAll hevents, keypad_afterAll]
    intro e he
    exact .inl (List.eq_of_mem_replicate he)
  obtain ⟨delay, sound, keypad, heq⟩ := hsame
  rw [heq] at hkeypad
  obtain rfl : keypad = (m.run (count * cycles)).keypad := hkeypad
  exact ⟨delay, sound, heq⟩

/-- A program that does not look at timers and keypad does not notice them. Two histories of
cycles, ticks and keys with the same number of cycles end alike but for timers and keypad, if the
cycles of the first look at neither. Frames end as the run of all their cycles does but for
the timers, and each shows the display that the run has at its end. -/
theorem sameCore_afterAll_and_runFrames (hawake : m.awaitingKey = false) :
    (∀ es fs : List Event, (∀ e ∈ es, e = .step ∨ e.isPeripheral = true) →
        (∀ e ∈ fs, e = .step ∨ e.isPeripheral = true) → cycleCount es = cycleCount fs →
        (∀ before, before ++ [.step] <+: es → (m.afterAll before).readsPeripherals = false) →
        SameCore (m.afterAll es) (m.afterAll fs)) ∧
      ∀ cycles count : Nat, (∀ k < count * cycles, (m.run k).readsPeripherals = false) →
        (∃ delay sound, (m.runFrames cycles count).2 =
          { m.run (count * cycles) with delayTimer := delay, soundTimer := sound }) ∧
        ∀ k < count, (m.runFrames cycles count).1[k]?.map Frame.display =
          some (m.run ((k + 1) * cycles)).display := by
  refine ⟨?_, ?_⟩
  · intro es fs hes hfs hcount hblind
    have hrun : ∀ k < cycleCount es, (m.run k).readsPeripherals = false :=
      readsPeripherals_run (.refl m) hawake hes hblind
    -- both have the core of one and the same run
    have hfirst : SameCore (m.run (cycleCount es)) (m.afterAll es) :=
      SameCore.afterAll_run (.refl m) hawake hes hrun
    have hsecond : SameCore (m.run (cycleCount es)) (m.afterAll fs) := by
      rw [hcount] at hrun ⊢
      exact SameCore.afterAll_run (.refl m) hawake hfs hrun
    exact hfirst.symm.trans hsecond
  · intro cycles count hblind
    refine ⟨runFrames_eq_run hawake hblind, fun k hk => ?_⟩
    -- the first `k + 1` frames are frames that end as a run does, and the display is no timer
    have hle : (k + 1) * cycles ≤ count * cycles := Nat.mul_le_mul_right cycles hk
    obtain ⟨delay, sound, heq⟩ :=
      runFrames_eq_run hawake fun j hj => hblind j (Nat.lt_of_lt_of_le hj hle)
    rw [display_runFrames hk, heq]

/-- A machine whose program sets `V0` and then the delay timer to 5. -/
def settingDelay : Machine :=
  { create .zero .modern with
    memory := (Table.replicate 12 0).write 0x200 [0x60, 0x05, 0xF0, 0x15] }

/-- A tick in one history and a key in the other leave the same core, and the second frame shows
what two cycles show. -/
theorem sameCore_settingDelay :
    SameCore (settingDelay.afterAll [.step, .tick, .step])
        (settingDelay.afterAll [.setKey 3 true, .step, .step]) ∧
      (settingDelay.runFrames 1 2).1[1]?.map Frame.display =
        some (settingDelay.run 2).display := by
  have hblind : ∀ k < 2, (settingDelay.run k).readsPeripherals = false := by
    decide +kernel
  have hsteps : ∀ before, before ++ [.step] <+: [Event.step, .tick, .step] →
      (settingDelay.afterAll before).readsPeripherals = false := by
    rintro before ⟨rest, h⟩
    have hbefore : before = [] ∨ before = [.step, .tick] := by
      rcases before with _ | ⟨a, _ | ⟨b, _ | ⟨c, before⟩⟩⟩ <;> simp_all
    rcases hbefore with rfl | rfl
    · exact hblind 0 (by decide)
    · decide +kernel
  obtain ⟨hhistories, hframes⟩ := sameCore_afterAll_and_runFrames (m := settingDelay) rfl
  refine ⟨?_, (hframes 1 2 hblind).2 1 (by decide)⟩
  exact hhistories _ _ (by simp [Event.isPeripheral]) (by simp [Event.isPeripheral]) rfl hsteps

end Machine

end Chip8
