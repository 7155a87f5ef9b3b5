import Chip8.Proofs.Peripherals
import Chip8.Proofs.Timers

/-!
# Waiting for a key

`FX0A` takes the lowest key that is down. If none is, the machine goes past the word once, notes
the register and waits (`Machine.waitingOn`): its cycles fetch nothing and look at the keypad until
a key is down. A key that comes after any wait is taken as one that was down all along, and the
two machines differ only in the note of the register.

* `Keypad.lowest?_eq_some_iff`: which key is taken.
* `Machine.afterAll_of_idle`: ticks and keys, and cycles that wait in vain, move the timers and the
  keypad alone.
* `Machine.afterAll_of_waitKey`: what is left of `FX0A` and of the wait that it begins.
* `Machine.waiting_agrees_with_held`: the key that comes late and the key that was down.
-/

namespace Chip8

-- Powers of natural numbers are those that `BitVec` is stated with, whatever else is in scope.
attribute [local instance (high)] instPowNat

namespace Keypad

variable {k : Keypad} {key : BitVec 4}

theorem lowest?_eq_none_iff : k.lowest? = none ↔ ∀ key, k.get key = false := by
  simp [lowest?]

/-- The key that is taken is down, and those below it are up. -/
theorem lowest?_eq_some_iff :
    k.lowest? = some key ↔ k.get key = true ∧ ∀ j < key, k.get j = false := by
  rw [lowest?, List.find?_eq_some_iff_getElem]
  simp only [Table.getElem_indices, Table.length_indices, Bool.not_eq_true']
  refine and_congr_right fun _ => ⟨?_, ?_⟩
  · rintro ⟨n, hn, rfl, hmin⟩ j hj
    rw [BitVec.lt_def, BitVec.toNat_ofNat, Nat.mod_eq_of_lt hn] at hj
    have hup := hmin j.toNat hj
    rwa [BitVec.ofNat_toNat, BitVec.setWidth_eq] at hup
  · intro hmin
    refine ⟨key.toNat, key.isLt, by rw [BitVec.ofNat_toNat, BitVec.setWidth_eq], fun n hn => ?_⟩
    apply hmin
    rw [BitVec.lt_def, BitVec.toNat_ofNat, Nat.mod_eq_of_lt (Nat.lt_trans hn key.isLt)]
    exact hn

/-- The keypad on which the keys of a mask are down. -/
def ofMask (mask : BoolArray) : Keypad :=
  Table.ofFn fun key => mask.entries.getD key.toNat false

/-- A key is down exactly if the mask says so. -/
@[simp]
theorem get_ofMask (mask : BoolArray) (key : BitVec 4) :
    (ofMask mask).get key = mask.entries.getD key.toNat false :=
  Table.get_ofFn _ key

end Keypad

namespace Machine

variable {m : Machine} {x : Register} {e : Event} {es : List Event}

/-! ## A wait -/

/-- A machine that waits stands still while no key is down. -/
theorem step_of_waiting (hfault : m.fault = 0) (hawait : m.awaitingKey = true)
    (hup : m.keypad.lowest? = none) : m.step = m := by
  rw [step_of_awaitingKey hfault hawait, pollKeypad, hup]

/-- Ticks and changes of the keypad, and cycles that wait for a key when none is down, put the
timers ahead and change nothing else but the keypad. -/
theorem afterAll_of_idle (hes : ∀ e ∈ es, e = .step ∨ e.isPeripheral = true)
    (hidle : ∀ before, before ++ [.step] <+: es →
      m.fault = 0 ∧ m.awaitingKey = true ∧ (m.afterAll before).keypad.lowest? = none) :
    m.afterAll es = { m.ticked (tickCount es) with keypad := (m.afterAll es).keypad } := by
  -- on the events: after each of them the machine still waits, with its timers perhaps further on
  induction es generalizing m with
  | nil => exact (ticked_zero m).symm
  | cons e es ih =>
    have hrest : ∀ f ∈ es, f = .step ∨ f.isPeripheral = true :=
      fun f hf => hes f (List.mem_cons_of_mem e hf)
    have hlater : ∀ before, before ++ [.step] <+: es →
        m.fault = 0 ∧ m.awaitingKey = true ∧ ((m.after e).afterAll before).keypad.lowest? = none :=
      fun before hbefore => hidle (e :: before) (List.cons_prefix_cons.2 ⟨rfl, hbefore⟩)
    rcases hes e List.mem_cons_self with rfl | hper
    · -- the cycle does nothing, and it is no tick
      obtain ⟨hfault, hawait, hup⟩ := hidle [] (List.prefix_append [Event.step] es)
      have hstep : m.after .step = m := step_of_waiting hfault hawait hup
      rw [hstep] at hlater
      rw [afterAll_cons, hstep]
      exact ih hrest hlater
    · -- a tick puts the timers ahead, and a key shows in the keypad alone
      by_cases htick : e = .tick
      · subst htick
        have hcount : tickCount (.tick :: es) = tickCount es + 1 := List.countP_cons_of_pos rfl
        rw [afterAll_cons, hcount, ← ticked_tick]
        exact ih hrest hlater
      · have hcount : tickCount (e :: es) = tickCount es :=
          List.countP_cons_of_neg (Bool.eq_false_iff.1 (Event.isTick_eq_false htick))
        have hkeypad := after_of_isPeripheral m hper htick
        generalize (m.after e).keypad = keypad at hkeypad
        rw [hkeypad] at hlater
        rw [afterAll_cons, hkeypad, hcount]
        exact ih hrest hlater

/-- The machine after an `FX0A` that has found no key down: past the word, waiting. -/
def waitingOn (m : Machine) (x : Register) : Machine :=
  { m with pc := m.pc + 2, awaitingKey := true, keyRegister := x.setWidth 8 }

/-- `FX0A` begins to wait if no key is down. -/
theorem step_of_waitKey (h : m.instruction? = some (.waitKey x))
    (hup : m.keypad.lowest? = none) : m.step = m.waitingOn x := by
  have hadvance : m.advance.keypad.lowest? = none := hup
  rw [step_of_instruction? h, perform, performWaitKey, hadvance]
  rfl

/-- A stretch of cycles, ticks and keys that begins the wait at its first cycle, and finds no key
down at any, leaves the machine waiting, with its timers ahead by the ticks of the stretch. -/
theorem afterAll_of_waitKey (h : m.instruction? = some (.waitKey x))
    (hes : ∀ e ∈ es, e = .step ∨ e.isPeripheral = true) (hstep : .step ∈ es)
    (hup : ∀ before, before ++ [.step] <+: es → (m.afterAll before).keypad.lowest? = none) :
    m.afterAll es =
      { (m.waitingOn x).ticked (tickCount es) with keypad := (m.afterAll es).keypad } := by
  -- up to the first cycle nothing is executed, and after it the machine waits
  obtain ⟨before, rest, rfl, hbefore⟩ := List.eq_append_cons_of_mem hstep
  have hfirst : m.afterAll before =
      { m.ticked (tickCount before) with keypad := (m.afterAll before).keypad } := by
    apply afterAll_of_idle fun e he => hes e (List.mem_append_left _ he)
    intro stretch hstretch
    exact absurd (hstretch.subset (List.mem_append_right _ (List.mem_singleton.2 rfl))) hbefore
  have hinstruction : (m.afterAll before).instruction? = some (.waitKey x) := by
    rw [hfirst]
    exact h
  have hnone : (m.afterAll before).keypad.lowest? = none := by
    apply hup
    exact (List.prefix_append_right_inj before).2 (List.cons_prefix_cons.2 ⟨rfl, List.nil_prefix⟩)
  have hafter (stretch : List Event) : m.afterAll (before ++ .step :: stretch) =
      ((m.afterAll before).waitingOn x).afterAll stretch := by
    rw [afterAll_append, afterAll_cons, after, step_of_waitKey hinstruction hnone]
  have hrest : ((m.afterAll before).waitingOn x).afterAll rest =
      { ((m.afterAll before).waitingOn x).ticked (tickCount rest) with
        keypad := (((m.afterAll before).waitingOn x).afterAll rest).keypad } := by
    apply afterAll_of_idle fun e he =>
      hes e (List.mem_append_right _ (List.mem_cons_of_mem _ he))
    intro stretch hstretch
    refine ⟨(executed?_eq_some_iff.1 (instruction?_eq_some_iff.1 hinstruction)).1, rfl, ?_⟩
    rw [← hafter]
    apply hup
    rw [List.append_assoc]
    exact (List.prefix_append_right_inj before).2 (List.cons_prefix_cons.2 ⟨rfl, hstretch⟩)
  have hcount : tickCount (before ++ .step :: rest) = tickCount before + tickCount rest :=
    tickCount_append before (.step :: rest)
  rw [hafter, hcount, ← ticked_ticked]
  generalize (((m.afterAll before).waitingOn x).afterAll rest).keypad = keypad at hrest ⊢
  rw [hrest, hfirst]
  rfl

/-! ## A key that is down -/

/-- A mask of the right shape replaces the keypad and nothing else. -/
theorem after_setKeypad (m : Machine) {mask : BoolArray} (h : mask.shape = [keyCount]) :
    m.after (.setKeypad mask) = { m with keypad := Keypad.ofMask mask } := by
  rw [after, setKeypad, if_pos h]
  rfl

/-- A key that is down when `FX0A` is executed is taken. -/
theorem step_of_waitKey_of_down {key : BitVec 4} (h : m.instruction? = some (.waitKey x))
    (hdown : m.keypad.lowest? = some key) :
    m.step = { m with pc := m.pc + 2, v := m.v.set x (key.setWidth 8) } := by
  have hadvance : m.advance.keypad.lowest? = some key := hdown
  rw [step_of_instruction? h, perform, performWaitKey, hadvance]
  rfl

/-- A key that goes down ends the wait, and goes to the register that waits. -/
theorem step_of_waiting_of_down {key : BitVec 4} (hfault : m.fault = 0)
    (hawait : m.awaitingKey = true) (hdown : m.keypad.lowest? = some key) :
    m.step =
      { m with
        v := m.v.set (m.keyRegister.setWidth 4) (key.setWidth 8)
        awaitingKey := false } := by
  rw [step_of_awaitingKey hfault hawait, pollKeypad, hdown]
  rfl

/-- A wait that the keys of a mask end. -/
theorem afterAll_of_waitKey_of_late {mask : BoolArray} {key : BitVec 4}
    (h : m.instruction? = some (.waitKey x)) (hshape : mask.shape = [keyCount])
    (hkey : (Keypad.ofMask mask).lowest? = some key)
    (hes : ∀ e ∈ es, e = .step ∨ e.isPeripheral = true) (hstep : .step ∈ es)
    (hup : ∀ before, before ++ [.step] <+: es → (m.afterAll before).keypad.lowest? = none) :
    (m.afterAll es).afterAll [.setKeypad mask, .step] =
      { (m.waitingOn x).ticked (tickCount es) with
        keypad := Keypad.ofMask mask
        v := m.v.set x (key.setWidth 8)
        awaitingKey := false } := by
  have hfault : m.fault = 0 := (executed?_eq_some_iff.1 (instruction?_eq_some_iff.1 h)).1
  -- the register that waits is kept in a byte, and read back from it
  have hx : (x.setWidth 8).setWidth 4 = x := by
    rw [BitVec.setWidth_setWidth_of_le x (by decide), BitVec.setWidth_eq]
  have hwaiting := afterAll_of_waitKey h hes hstep hup
  generalize (m.afterAll es).keypad = keypad at hwaiting
  rw [afterAll_cons, after_setKeypad _ hshape, hwaiting]
  generalize Keypad.ofMask mask = keys at hkey ⊢
  have hpressed :=
    step_of_waiting_of_down (m := { (m.waitingOn x).ticked (tickCount es) with keypad := keys })
      hfault rfl hkey
  rw [afterAll_cons, afterAll_nil, after, hpressed]
  simp only [ticked, waitingOn, hx]

/-- Keys that are down when `FX0A` is executed, and ticks after it. -/
theorem afterAll_of_waitKey_of_held {mask : BoolArray} {key : BitVec 4}
    (h : m.instruction? = some (.waitKey x)) (hshape : mask.shape = [keyCount])
    (hkey : (Keypad.ofMask mask).lowest? = some key) (ticks : Nat) :
    m.afterAll ([.setKeypad mask, .step] ++ List.replicate ticks .tick) =
      { m.ticked ticks with
        pc := m.pc + 2
        keypad := Keypad.ofMask mask
        v := m.v.set x (key.setWidth 8) } := by
  rw [afterAll_append, afterAll_ticks, afterAll_cons, after_setKeypad m hshape]
  generalize Keypad.ofMask mask = keys at hkey ⊢
  have hpressed : { m with keypad := keys }.instruction? = some (.waitKey x) := h
  rw [afterAll_cons, afterAll_nil, after, step_of_waitKey_of_down hpressed hkey]
  rfl

/-- A key that comes after a wait is taken as one that was down all along. Let a machine come to an
`FX0A` with no key down, go through cycles, ticks and changes of the keypad during which no key is
down at any cycle, and then have the keys of a mask pressed. After one more cycle it is in the
state, but for the note of the register, that it gets into if these keys are down at once and the
ticks follow: past the word, with the lowest key of the mask in `VX`. Until the keys come nothing
has changed but the timers, the keypad, and from the first cycle on what the wait changes. -/
theorem waiting_agrees_with_held (hfault : m.fault = 0) (hawait : m.awaitingKey = false)
    (hword : m.word = (Instruction.waitKey x).word) {mask : BoolArray}
    (hshape : mask.shape = [keyCount])
    (hdown : ∃ key : BitVec 4, mask.entries.getD key.toNat false = true)
    (hes : ∀ e ∈ es, e = .step ∨ e.isPeripheral = true) (hstep : .step ∈ es)
    (hup : ∀ before, before ++ [.step] <+: es →
      ∀ key, (m.releaseAll.afterAll before).keypad.get key = false) :
    let late := (m.releaseAll.afterAll es).afterAll [.setKeypad mask, .step]
    let held := m.afterAll ([.setKeypad mask, .step] ++ List.replicate (tickCount es) .tick)
    late = { held with keyRegister := late.keyRegister } ∧
      late.pc = m.pc + 2 ∧ late.awaitingKey = false ∧
      (∃ key : BitVec 4, mask.entries.getD key.toNat false = true ∧
        (∀ j < key, mask.entries.getD j.toNat false = false) ∧
        late.v = m.v.set x (key.setWidth 8)) ∧
      ∀ before, before <+: es →
        (.step ∉ before → ∃ keypad,
          m.releaseAll.afterAll before =
            { m.ticked (tickCount before) with keypad := keypad }) ∧
        (.step ∈ before → ∃ keypad,
          m.releaseAll.afterAll before =
            { (m.waitingOn x).ticked (tickCount before) with keypad := keypad }) := by
  intro late held
  have hwait : m.instruction? = some (.waitKey x) := by
    rw [instruction?_eq_some_iff, executed?_eq_some_iff]
    exact ⟨hfault, hawait, hword⟩
  have hnone : ∀ before, before ++ [.step] <+: es →
      (m.releaseAll.afterAll before).keypad.lowest? = none :=
    fun before hbefore => Keypad.lowest?_eq_none_iff.2 (hup before hbefore)
  obtain ⟨key, hkey⟩ : ∃ key, (Keypad.ofMask mask).lowest? = some key := by
    rw [← Option.ne_none_iff_exists', Ne, Keypad.lowest?_eq_none_iff]
    obtain ⟨key, hdown⟩ := hdown
    intro hall
    rw [← Keypad.get_ofMask, hall] at hdown
    cases hdown
  obtain ⟨hpressed, hbelow⟩ := Keypad.lowest?_eq_some_iff.1 hkey
  simp only [Keypad.get_ofMask] at hpressed hbelow
  -- releasing the keys does not touch the word that is fetched next
  have hreleased : m.releaseAll.instruction? = some (.waitKey x) := hwait
  have hlate : late = _ := afterAll_of_waitKey_of_late hreleased hshape hkey hes hstep hnone
  have hheld : held = _ := afterAll_of_waitKey_of_held hwait hshape hkey (tickCount es)
  generalize Keypad.ofMask mask = keys at hlate hheld
  refine ⟨?_, by rw [hlate]; rfl, by rw [hlate], ⟨key, hpressed, hbelow, by rw [hlate]; rfl⟩,
    fun before hbefore => ⟨fun hnostep => ?_, fun hstepped => ?_⟩⟩
  · rw [hlate, hheld]
    simp only [ticked, waitingOn, releaseAll, hawait]
  · -- before the first cycle there are only ticks and keys
    refine ⟨_, afterAll_of_idle (m := m.releaseAll) (fun e he => hes e (hbefore.subset he)) ?_⟩
    intro stretch hstretch
    have hmem : .step ∈ before :=
      hstretch.subset (List.mem_append_right _ (List.mem_singleton.2 rfl))
    exact absurd hmem hnostep
  · refine ⟨_, afterAll_of_waitKey hreleased (fun e he => hes e (hbefore.subset he)) hstepped ?_⟩
    intro stretch hstretch
    exact hnone stretch (hstretch.trans hbefore)

/-- A machine whose program puts a key into `V3`. Its delay timer runs, and key 1 is down. -/
def askingForKey : Machine :=
  { create .zero .modern with
    memory := (Table.replicate 12 0).write 0x200 [0xF3, 0x0A]
    delayTimer := 7
    keypad := (Table.replicate 4 false).set 1 true }

/-- The mask of the keys 4 and 5. -/
def fourAndFive : BoolArray :=
  ⟨[16], #[false, false, false, false, true, true]⟩

/-- A machine that gets its keys after two cycles ends up as one that has had them at once, but for
the register that has waited. -/
theorem waiting_agrees_with_held_askingForKey :
    let late := (askingForKey.releaseAll.afterAll [.tick, .step, .step]).afterAll
      [.setKeypad fourAndFive, .step]
    let held := askingForKey.afterAll [.setKeypad fourAndFive, .step, .tick]
    late = { held with keyRegister := late.keyRegister } ∧ late.pc = 0x202 ∧
      late.awaitingKey = false := by
  have hword : askingForKey.word = (Instruction.waitKey 3).word := by decide +kernel
  have hdown : ∃ key : BitVec 4, fourAndFive.entries.getD key.toNat false = true := by
    decide +kernel
  have hes : ∀ e ∈ [Event.tick, .step, .step], e = .step ∨ e.isPeripheral = true := by
    simp [Event.isPeripheral]
  have hreleased : ∀ key,
      (askingForKey.releaseAll.afterAll [.tick]).keypad.get key = false ∧
        (askingForKey.releaseAll.afterAll [.tick, .step]).keypad.get key = false := by
    decide +kernel
  have hup : ∀ before, before ++ [.step] <+: [Event.tick, .step, .step] →
      ∀ key, (askingForKey.releaseAll.afterAll before).keypad.get key = false := by
    rintro before ⟨rest, h⟩ key
    have hstretch : before = [.tick] ∨ before = [.tick, .step] := by
      rcases before with _ | ⟨a, _ | ⟨b, _ | ⟨c, before⟩⟩⟩ <;> simp_all
    rcases hstretch with rfl | rfl
    · exact (hreleased key).1
    · exact (hreleased key).2
  obtain ⟨hlate, hpc, hawait, -⟩ :=
    waiting_agrees_with_held (m := askingForKey) rfl rfl hword rfl hdown hes (by simp) hup
  exact ⟨hlate, hpc, hawait⟩

end Machine

end Chip8
