import Chip8.Proofs.Loading
import Chip8.Proofs.RandomStream
import Chip8.Proofs.Reporting

/-!
# What a reset erases

A reset keeps the memory, the keypad, the random key and the profile, and erases all else. Of these
four the keypad is worked by hand and the profile never changes. So only what writes cells or draws
a random byte outlasts a reset (`Instruction.outlastsReset`): a machine that has done neither since
its program was loaded is the freshly loaded machine again once it is reset with no key down.

* `Machine.reset_eq_reset_iff`: two machines are the same after a reset if they agree in the four.
* `Machine.memory_afterAll`, `Machine.rng_afterAll_of_keeps`: what a history keeps.
* `Machine.reset_erases_history`: so a history is forgotten, and what comes later is a replay.
-/

namespace Chip8

/-- Whether an instruction changes something that a reset keeps: it writes memory cells, or it draws
a random byte. -/
def Instruction.outlastsReset : Instruction → Bool
  | storeDecimal _ | store _ | random _ _ => true
  | _ => false

namespace Occurrence

/-- Whether the event carries out an instruction that changes something that a reset keeps. -/
def outlastsReset (o : Occurrence) : Bool :=
  o.instruction?.any Instruction.outlastsReset

variable {o : Occurrence}

/-- What draws a random byte outlasts a reset. -/
theorem outlastsReset_of_drawsByte (h : o.drawsByte = true) : o.outlastsReset = true := by
  obtain ⟨x, mask, hi⟩ := drawsByte_iff.1 h
  rw [outlastsReset, hi]
  rfl

/-- An instruction that does not outlast a reset writes no cell. -/
theorem memory_result_of_instruction? {i : Instruction} (hi : o.instruction? = some i)
    (h : o.outlastsReset = false) : o.result.memory = o.machine.memory := by
  obtain ⟨pc, hresult⟩ := result_of_instruction? hi
  rw [outlastsReset, hi] at h
  have hnone : { o.machine with pc := pc }.bytesWritten i = [] := by
    cases i with
    | storeDecimal x | store x => cases h
    | _ => rfl
  rw [hresult, Machine.memory_perform, hnone]
  rfl

/-- Only loads and the instructions that outlast a reset change the memory. -/
theorem memory_result (h : o.outlastsReset = false)
    (hload : ∀ offset bytes, o.event ≠ .load offset bytes) :
    o.result.memory = o.machine.memory := by
  cases hi : o.instruction? with
  | some i => exact memory_result_of_instruction? hi h
  | none => exact memory_result_of_instruction?_eq_none hi hload

end Occurrence

namespace Machine

variable {m n : Machine} {es : List Event}

/-- A reset erases exactly what is not memory, keypad, random key or profile. -/
theorem reset_eq_reset_iff :
    m.reset = n.reset ↔
      m.memory = n.memory ∧ m.keypad = n.keypad ∧ m.rng = n.rng ∧ m.profile = n.profile := by
  constructor
  · intro h
    -- a reset machine still has all four
    have hmemory : m.reset.memory = n.reset.memory := congrArg memory h
    have hkeypad : m.reset.keypad = n.reset.keypad := congrArg keypad h
    have hrng : m.reset.rng = n.reset.rng := congrArg rng h
    have hprofile : m.reset.profile = n.reset.profile := congrArg profile h
    exact ⟨hmemory, hkeypad, hrng, hprofile⟩
  · rintro ⟨hmemory, hkeypad, hrng, hprofile⟩
    rw [reset, reset, hmemory, hkeypad, hrng, hprofile]

/-- A machine that is reset with no key down has just been switched on, but for its memory. -/
theorem releaseAll_reset (m : Machine) :
    m.reset.releaseAll = { create m.rng m.profile with memory := m.memory } := by
  rw [reset, releaseAll]
  congr 1

/-- A history without loads and without instructions that outlast a reset keeps the memory. -/
theorem memory_afterAll (hkeep : ∀ o ∈ m.occurrences es, o.outlastsReset = false)
    (hload : ∀ offset bytes, .load offset bytes ∉ es) : (m.afterAll es).memory = m.memory := by
  -- on the events, with the machine that each of them leaves to the next
  induction es generalizing m with
  | nil => rfl
  | cons e es ih =>
    have hfirst : (m.after e).memory = m.memory := by
      apply Occurrence.memory_result (hkeep ⟨m, e⟩ List.mem_cons_self)
      rintro offset bytes rfl
      exact hload offset bytes List.mem_cons_self
    have hrest : ((m.after e).afterAll es).memory = (m.after e).memory :=
      ih (fun o ho => hkeep o (List.mem_cons_of_mem _ ho))
        fun offset bytes h => hload offset bytes (List.mem_cons_of_mem _ h)
    rw [afterAll_cons, hrest, hfirst]

/-- A history without instructions that outlast a reset keeps the random key. -/
theorem rng_afterAll_of_keeps (hkeep : ∀ o ∈ m.occurrences es, o.outlastsReset = false) :
    (m.afterAll es).rng = m.rng := by
  have hnone : m.drawCount es = 0 := by
    refine List.countP_eq_zero.2 fun o ho hdraws => ?_
    have hoccurs := hkeep o ho
    rw [Occurrence.outlastsReset_of_drawsByte hdraws] at hoccurs
    cases hoccurs
  rw [rng_afterAll, hnone]
  rfl

/-- A machine that has just been loaded is restored by a reset with no key down. -/
theorem releaseAll_reset_of_load {rng : RandomKey} {profile : Profile} {offset : Int}
    {bytes : List Byte} (hloaded : (create rng profile).load offset bytes = .ok m)
    (hmemory : n.memory = m.memory) (hrng : n.rng = m.rng) (hprofile : n.profile = m.profile) :
    n.reset.releaseAll = m := by
  obtain ⟨-, -, rfl⟩ := load_eq_ok_iff.1 hloaded
  rw [releaseAll_reset, hmemory, hrng, hprofile]
  rfl

/-- A reset erases exactly the history of a machine. Two machines are the same after it if they
agree in memory, keypad, random key and profile. Now let a machine be switched on and loaded, and
let it obey any commands, of which none is a load and none executes `FX33`, `FX55` or `CXNN`.
Faults, waits, undefined words and calls of any depth are allowed. After a reset, with no key down,
it is the machine that was loaded, and it obeys further commands as that one does. -/
theorem reset_erases_history :
    (∀ s t : Machine, s.reset = t.reset ↔
      s.memory = t.memory ∧ s.keypad = t.keypad ∧ s.rng = t.rng ∧ s.profile = t.profile) ∧
    ∀ (rng : RandomKey) (profile : Profile) (offset : Int) (bytes : List Byte) (loaded : Machine),
      (create rng profile).load offset bytes = .ok loaded →
      ∀ cs : List Command, (∀ offset bytes, .event (.load offset bytes) ∉ cs) →
        (∀ o ∈ loaded.occurrences (cs.flatMap Command.events), o.outlastsReset = false) →
        (loaded.obeyAll cs).reset.releaseAll = loaded ∧
          ∀ later, loaded.obeyAll (cs ++ .event .reset :: .event .releaseAll :: later) =
            loaded.obeyAll later := by
  refine ⟨fun s t => reset_eq_reset_iff, ?_⟩
  intro rng profile offset bytes loaded hloaded cs hload hkeep
  have hevents : ∀ offset bytes, .load offset bytes ∉ cs.flatMap Command.events := by
    intro offset bytes hmem
    exact hload offset bytes (Command.event_mem_of_mem_flatMap hmem nofun nofun)
  have hrestored : (loaded.obeyAll cs).reset.releaseAll = loaded := by
    rw [obeyAll_eq_afterAll]
    exact releaseAll_reset_of_load hloaded (memory_afterAll hkeep hevents)
      (rng_afterAll_of_keeps hkeep) (profile_afterAll _ _)
  refine ⟨hrestored, fun later => ?_⟩
  have hsplit : loaded.obeyAll (cs ++ .event .reset :: .event .releaseAll :: later) =
      (loaded.obeyAll cs).reset.releaseAll.obeyAll later := List.foldl_append
  rw [hsplit, hrestored]

/-- A program that draws a digit, meets an undefined word, waits for a key, and returns once more
than it calls. -/
def restartedProgram : List Byte :=
  [0xA0, 0x50, 0xD0, 0x05, 0x51, 0x21, 0xF2, 0x0A, 0x22, 0x0A, 0x00, 0xEE]

/-- A machine that has just been switched on and loaded with the program. -/
def restarted : Machine :=
  { create .zero .modern with memory := Memory.initial.write 0x200 restartedProgram }

theorem reset_erases_history_faulting :
    let commands := [.runFrames 4 1, .event (.setKey 7 true), .runFrame 4]
    (restarted.obeyAll commands).fault ≠ 0 ∧
      (restarted.obeyAll commands).display.pixel 0 0 = true ∧
      (restarted.obeyAll commands).reset.releaseAll = restarted := by
  intro commands
  have hloaded : (create .zero .modern).load 0x200 restartedProgram = .ok restarted :=
    load_eq_ok_iff.2 ⟨by decide, by decide, rfl⟩
  have hkeep : ∀ o ∈ restarted.occurrences (commands.flatMap Command.events),
      o.outlastsReset = false := by
    decide +kernel
  refine ⟨by decide +kernel, by decide +kernel, ?_⟩
  exact (reset_erases_history.2 _ _ _ _ _ hloaded commands (by simp [commands]) hkeep).1

end Machine

end Chip8
