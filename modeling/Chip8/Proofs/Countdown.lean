import Chip8.Proofs.Occurrences
import Chip8.Proofs.Timers

/-!
# What the timers show

Each of the two timers is set by one instruction and counted down by ticks, and nothing else but a
reset touches it. So it shows the value that it was last set to, less one for each tick since, and
zero if there were more ticks than that.

* `Timer.read_result`: what an event makes of a timer.
* `Timer.toNat_read_afterAll_of_unwritten`: what a history makes of a timer that it does not set.
* `Timer.LastSetting`: the value that a timer was last set to, and the events since.
* `Timer.toNat_read_inFrame`: a timer that is set in one frame, seen in a later one.
* `Timer.measures_ticks`: all of these, and what `FX07` reads.
-/

namespace Chip8

/-- The two timers. -/
inductive Timer where
  /-- The timer that `FX15` sets and `FX07` reads. -/
  | delay
  /-- The timer that `FX18` sets. -/
  | sound

namespace Timer

/-- What the timer shows. -/
def read (t : Timer) (m : Machine) : Byte :=
  match t with
  | delay => m.delayTimer
  | sound => m.soundTimer

/-- The register that an instruction sets the timer from, if it sets it. -/
def source? : Timer → Instruction → Option Register
  | delay, .setDelay x | sound, .setSound x => some x
  | _, _ => none

end Timer

/-- The value that an event sets a timer to, if it sets it. -/
def Occurrence.written? (o : Occurrence) (t : Timer) : Option Byte :=
  (o.instruction?.bind t.source?).map o.machine.v.get

namespace Timer

variable {t : Timer} {m : Machine} {es : List Event}

/-- An instruction sets the timer if it is the one for it, and else leaves it alone. -/
theorem read_perform (t : Timer) (m : Machine) (i : Instruction) :
    t.read (m.perform i) = ((t.source? i).map m.v.get).getD (t.read m) := by
  cases t with
  | delay =>
    cases i with
    | setDelay x => rfl
    | _ => exact Machine.delayTimer_perform nofun
  | sound =>
    cases i with
    | setSound x => rfl
    | _ => exact Machine.soundTimer_perform nofun

theorem read_tick (t : Timer) (m : Machine) : t.read m.tick = countDown (t.read m) := by
  cases t <;> rfl

/-- An event sets a timer, counts it down, or leaves it alone. -/
theorem read_result (t : Timer) {o : Occurrence} (hreset : o.event ≠ .reset) :
    t.read o.result =
      (o.written? t).getD
        (if o.event.isTick then countDown (t.read o.machine) else t.read o.machine) := by
  cases hi : o.instruction? with
  | some i =>
    have htick : o.event.isTick = false :=
      Event.isTick_eq_false (Occurrence.event_ne_tick_of_instruction? hi)
    obtain ⟨pc, hresult⟩ := Occurrence.result_of_instruction? hi
    rw [hresult, read_perform, Occurrence.written?, hi, Option.bind_some, htick]
    cases t <;> rfl
  -- without an instruction only ticks and resets touch the timers
  | none =>
    rw [Occurrence.written?, hi, Option.bind_none, Option.map_none, Option.getD_none]
    by_cases htick : o.event = .tick
    · rw [Occurrence.result, htick]
      exact read_tick t o.machine
    · rw [Occurrence.result_of_instruction?_eq_none hi htick hreset, Event.isTick_eq_false htick]
      cases t <;> rfl

/-- A timer that no event of a history sets is as many ticks further as the history has. -/
theorem toNat_read_afterAll_of_unwritten (hreset : .reset ∉ es)
    (h : ∀ o ∈ m.occurrences es, o.written? t = none) :
    (t.read (m.afterAll es)).toNat = (t.read m).toNat - tickCount es := by
  -- on the events: the first of them takes one off exactly if it is a tick
  induction es generalizing m with
  | nil => rfl
  | cons e es ih =>
    rw [List.mem_cons, not_or] at hreset
    have hfirst := read_result t (o := ⟨m, e⟩) (Ne.symm hreset.1)
    rw [h ⟨m, e⟩ List.mem_cons_self, Option.getD_none] at hfirst
    have hrest := ih hreset.2 fun o ho => h o (List.mem_cons_of_mem _ ho)
    rw [Machine.afterAll_cons, hrest, tickCount, tickCount, List.countP_cons]
    change (t.read (Occurrence.result ⟨m, e⟩)).toNat - _ = _
    rw [hfirst]
    split
    · rw [toNat_countDown, Nat.sub_sub, Nat.add_comm]
    · rfl

/-! ## The last setting -/

/-- In the history `es` of the machine `m`, the timer was last set to `v`, and the events `since`
have happened since then. If the history does not set the timer, `v` is what it showed at first. -/
inductive LastSetting (t : Timer) (m : Machine) : List Event → Byte → List Event → Prop where
  /-- The history does not set the timer. -/
  | initial {es : List Event} :
      (∀ o ∈ m.occurrences es, o.written? t = none) → LastSetting t m es (t.read m) es
  /-- One event sets the timer, and those after it do not. -/
  | written {before since : List Event} {e : Event} {v : Byte} :
      Occurrence.written? ⟨m.afterAll before, e⟩ t = some v →
      (∀ o ∈ ((m.afterAll before).after e).occurrences since, o.written? t = none) →
      LastSetting t m (before ++ e :: since) v since

/-- Every history has a last setting. -/
theorem LastSetting.exists (t : Timer) (m : Machine) (es : List Event) :
    ∃ v since, LastSetting t m es v since := by
  induction es generalizing m with
  | nil => exact ⟨_, _, .initial fun o ho => absurd ho List.not_mem_nil⟩
  | cons e es ih =>
    obtain ⟨v, since, hlast⟩ := ih (m.after e)
    cases hlast with
    | @written before _ f _ hset hnone =>
      rw [← Machine.afterAll_cons] at hset hnone
      exact ⟨v, since, @LastSetting.written t m (e :: before) since f v hset hnone⟩
    | initial hnone =>
      -- the events after the first do not set the timer, so it depends on the first
      cases hset : Occurrence.written? ⟨m, e⟩ t with
      | some v =>
        rw [← Machine.afterAll_nil m] at hset hnone
        exact ⟨v, es, @LastSetting.written t m [] es e v hset hnone⟩
      | none =>
        refine ⟨_, _, .initial fun o ho => ?_⟩
        rcases List.mem_cons.1 ho with rfl | hmem
        · exact hset
        · exact hnone o hmem

/-- A timer shows what it was last set to, less the ticks since. -/
theorem LastSetting.toNat_read {v : Byte} {since : List Event} (h : LastSetting t m es v since)
    (hreset : .reset ∉ es) : (t.read (m.afterAll es)).toNat = v.toNat - tickCount since := by
  cases h with
  | initial hnone => exact toNat_read_afterAll_of_unwritten hreset hnone
  | @written before _ e _ hset hnone =>
    rw [List.mem_append, List.mem_cons, not_or, not_or] at hreset
    have hafter : t.read ((m.afterAll before).after e) = v := by
      have hresult := read_result t (o := ⟨m.afterAll before, e⟩) (Ne.symm hreset.2.1)
      rwa [hset, Option.getD_some] at hresult
    rw [Machine.afterAll_append, Machine.afterAll_cons,
      toNat_read_afterAll_of_unwritten hreset.2.2 hnone, hafter]

/-- `FX07` puts what the delay timer shows into `VX`. -/
theorem get_v_result_of_getDelay {o : Occurrence} {x : Register}
    (h : o.instruction? = some (.getDelay x)) : o.result.v.get x = delay.read o.machine := by
  obtain ⟨pc, hresult⟩ := Occurrence.result_of_instruction? h
  rw [hresult]
  exact Table.get_set_self _ _ _

end Timer

/-! ## Frames -/

namespace Machine

/-- The machine in the frame with the given number, counted from zero, after some of its cycles. -/
def inFrame (m : Machine) (cycles frame k : Nat) : Machine :=
  (m.runFrames cycles frame).2.run k

/-- The last cycle of a run is a cycle of the machine that the others have left. -/
theorem run_succ_last (m : Machine) (k : Nat) : m.run (k + 1) = (m.run k).step := by
  induction k generalizing m with
  | zero => rfl
  | succ k ih => exact ih m.step

/-- A frame begins with the tick that ends the one before. -/
theorem inFrame_succ (m : Machine) (cycles frame : Nat) :
    m.inFrame cycles (frame + 1) 0 = (m.inFrame cycles frame cycles).tick := by
  induction frame generalizing m with
  | zero => rfl
  | succ frame ih => exact ih (m.runFrame cycles).2

end Machine

namespace Timer

variable {t : Timer} {m : Machine} {cycles : Nat}

/-- A cycle sets a timer or leaves it alone. -/
theorem read_inFrame_succ (t : Timer) (m : Machine) (cycles frame k : Nat) :
    t.read (m.inFrame cycles frame (k + 1)) =
      (Occurrence.written? ⟨m.inFrame cycles frame k, .step⟩ t).getD
        (t.read (m.inFrame cycles frame k)) := by
  have hstep := read_result t (o := ⟨m.inFrame cycles frame k, .step⟩) nofun
  rw [Machine.inFrame, Machine.run_succ_last]
  exact hstep

/-- A timer that the cycles of a stretch of a frame do not set stays as it is. -/
theorem read_inFrame_of_unwritten {frame a b : Nat} (hab : a ≤ b)
    (h : ∀ k, a ≤ k → k < b → Occurrence.written? ⟨m.inFrame cycles frame k, .step⟩ t = none) :
    t.read (m.inFrame cycles frame b) = t.read (m.inFrame cycles frame a) := by
  induction hab with
  | refl => rfl
  | @step b hab ih =>
    rw [read_inFrame_succ, h b hab (Nat.lt_succ_self b), Option.getD_none]
    exact ih fun k hk hkb => h k hk (Nat.lt_succ_of_lt hkb)

/-- A timer that is set in one frame and then left alone begins each later frame as many ticks
further as frames have ended since. -/
theorem toNat_read_inFrame_zero {i a j : Nat} {v : Byte} (ha : a < cycles) (hij : i < j)
    (hset : Occurrence.written? ⟨m.inFrame cycles i a, .step⟩ t = some v)
    (hkeep : ∀ k c, c < cycles → (i < k ∨ i = k ∧ a < c) → k < j →
      Occurrence.written? ⟨m.inFrame cycles k c, .step⟩ t = none) :
    (t.read (m.inFrame cycles j 0)).toNat = v.toNat - (j - i) := by
  have hfirst : t.read (m.inFrame cycles i (a + 1)) = v := by
    rw [read_inFrame_succ, hset, Option.getD_some]
  -- frame by frame from the one that sets the timer, each of which ends with a tick
  induction hij with
  | refl =>
    have hrest : t.read (m.inFrame cycles i cycles) = v := by
      rw [read_inFrame_of_unwritten ha, hfirst]
      intro k hak hk
      exact hkeep i k hk (.inr ⟨rfl, hak⟩) (Nat.lt_succ_self i)
    rw [Machine.inFrame_succ, read_tick, toNat_countDown, hrest]
    omega
  | @step j hij ih =>
    have hij : i < j := hij
    have hframe : t.read (m.inFrame cycles j cycles) = t.read (m.inFrame cycles j 0) := by
      refine read_inFrame_of_unwritten (Nat.zero_le cycles) fun k _ hk => ?_
      exact hkeep j k hk (.inl hij) (Nat.lt_succ_self j)
    have hbefore := ih fun k c hc hafter hk => hkeep k c hc hafter (Nat.lt_succ_of_lt hk)
    rw [Machine.inFrame_succ, read_tick, toNat_countDown, hframe, hbefore]
    omega

/-- A timer that is set in one frame and then left alone has counted down, at any cycle of a later
frame, by the number of frames in between. -/
theorem toNat_read_inFrame {i a j b : Nat} {v : Byte} (ha : a < cycles) (hij : i < j)
    (hb : b ≤ cycles) (hset : Occurrence.written? ⟨m.inFrame cycles i a, .step⟩ t = some v)
    (hkeep : ∀ k c, c < cycles → (i < k ∨ i = k ∧ a < c) → (k < j ∨ k = j ∧ c < b) →
      Occurrence.written? ⟨m.inFrame cycles k c, .step⟩ t = none) :
    (t.read (m.inFrame cycles j b)).toNat = v.toNat - (j - i) := by
  have hstart : (t.read (m.inFrame cycles j 0)).toNat = v.toNat - (j - i) :=
    toNat_read_inFrame_zero ha hij hset fun k c hc hafter hk => hkeep k c hc hafter (.inl hk)
  rw [read_inFrame_of_unwritten (Nat.zero_le b), hstart]
  intro k _ hk
  exact hkeep j k (Nat.lt_of_lt_of_le hk hb) (.inl hij) (.inr ⟨rfl, hk⟩)

/-- Timers measure ticks. In a history without a reset, a timer shows the value that it was last
set to, or the first one if it was not set, less the number of ticks since, and zero if these are
more; and `FX07` puts just that into its register. So a timer that is set in some cycle of one frame
and left alone shows, in all cycles of a later frame, the value less the number of frames from
the one to the other. -/
theorem measures_ticks (t : Timer) (m : Machine) :
    (∀ es, .reset ∉ es →
      (∃ v since, LastSetting t m es v since) ∧
        ∀ v since, LastSetting t m es v since →
          (t.read (m.afterAll es)).toNat = v.toNat - tickCount since ∧
            (t = delay → ∀ e x,
              Occurrence.instruction? ⟨m.afterAll es, e⟩ = some (.getDelay x) →
                ((m.afterAll (es ++ [e])).v.get x).toNat = v.toNat - tickCount since)) ∧
      ∀ cycles i a j b v, a < cycles → i < j → b ≤ cycles →
        Occurrence.written? ⟨m.inFrame cycles i a, .step⟩ t = some v →
        (∀ k c, c < cycles → (i < k ∨ i = k ∧ a < c) → (k < j ∨ k = j ∧ c < b) →
          Occurrence.written? ⟨m.inFrame cycles k c, .step⟩ t = none) →
        (t.read (m.inFrame cycles j b)).toNat = v.toNat - (j - i) := by
  refine ⟨fun es hreset => ⟨LastSetting.exists t m es, fun v since hlast => ?_⟩,
    fun cycles i a j b v => toNat_read_inFrame⟩
  have hshows := hlast.toNat_read hreset
  refine ⟨hshows, ?_⟩
  rintro rfl e x hget
  have hread := get_v_result_of_getDelay hget
  rw [Machine.afterAll_concat, ← hshows]
  exact congrArg BitVec.toNat hread

/-- A timer that has been set to five shows three after two ticks, as events of their own and as the
ends of two frames. -/
theorem measures_ticks_settingDelay :
    (delay.read (Machine.settingDelay.afterAll [.step, .step, .tick, .tick])).toNat = 3 ∧
      (delay.read (Machine.settingDelay.inFrame 2 2 1)).toNat = 3 := by
  obtain ⟨hhistories, hframes⟩ := measures_ticks delay Machine.settingDelay
  constructor
  · have hset :
        Occurrence.written? ⟨Machine.settingDelay.afterAll [.step], .step⟩ delay = some 5 := by
      decide +kernel
    have hlast : LastSetting delay Machine.settingDelay ([.step] ++ .step :: [.tick, .tick]) 5
        [.tick, .tick] := by
      refine .written hset fun o ho => ?_
      simp only [Machine.occurrences, List.mem_cons, List.not_mem_nil, or_false] at ho
      rcases ho with rfl | rfl <;> rfl
    exact ((hhistories _ (by simp)).2 _ _ hlast).1
  · have hset : Occurrence.written? ⟨Machine.settingDelay.inFrame 2 0 1, .step⟩ delay = some 5 := by
      decide +kernel
    have hlater : ∀ k < 3, ∀ c < 2, 0 < k →
        Occurrence.written? ⟨Machine.settingDelay.inFrame 2 k c, .step⟩ delay = none := by
      decide +kernel
    refine hframes 2 0 1 2 1 5 (by decide) (by decide) (by decide) hset ?_
    intro k c hc hafter hbefore
    exact hlater k (by omega) c hc (by omega)

end Timer

end Chip8
