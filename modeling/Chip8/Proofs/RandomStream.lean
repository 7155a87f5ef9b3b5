import Chip8.Proofs.Occurrences
import Mathlib.Logic.Function.Iterate

/-!
# The random stream of a machine

`CXNN` splits the random key in two. It keeps the first half in place of the key, and uses up the
second for one byte. Nothing else writes the key, not even a reset. The bytes that a machine draws
are therefore those of a stream that its first key fixes (`RandomKey.stream`), one for each draw,
whatever the machine does in between.

* `Occurrence.rng_result`: an event replaces the key if it draws, and else leaves it alone.
* `Machine.rng_afterAll`: the key after a history depends on the number of draws alone.
* `Machine.v_after_of_draws`: what a draw stores.
* `Machine.random_stream_of_key`: all of these, for one machine and for two with the same key.
-/

namespace Chip8

/-- The random byte of the draw with the given number, of those that start from a key. -/
def RandomKey.stream (k : RandomKey) (draw : Nat) : Byte :=
  (RandomKey.next^[draw] k).byte

/-- Whether an instruction draws a random byte. -/
def Instruction.isRandom : Instruction → Bool
  | random _ _ => true
  | _ => false

namespace Occurrence

/-- Whether the event draws a random byte. -/
def drawsByte (o : Occurrence) : Bool :=
  o.instruction?.any Instruction.isRandom

variable {o : Occurrence} {x : Register} {mask : Byte}

/-- Only `CXNN` draws a byte. -/
theorem drawsByte_iff :
    o.drawsByte = true ↔ ∃ x mask, o.instruction? = some (.random x mask) := by
  rw [drawsByte]
  cases o.instruction? with
  | none => simp
  | some i => cases i <;> simp [Instruction.isRandom]

/-- A draw goes on with the first half of the key, and stores the byte that the second half is used
up for, masked. -/
theorem result_of_random (h : o.instruction? = some (.random x mask)) :
    o.result.rng = o.machine.rng.split.1 ∧
      o.result.v = o.machine.v.set x (o.machine.rng.split.2.spend &&& mask) := by
  obtain ⟨pc, hresult⟩ := result_of_instruction? h
  rw [hresult]
  exact ⟨rfl, rfl⟩

/-- An event that draws no byte leaves the random key alone. -/
theorem rng_result_of_forall_ne (h : ∀ x mask, o.instruction? ≠ some (.random x mask)) :
    o.result.rng = o.machine.rng := by
  cases hi : o.instruction? with
  | some i =>
    obtain ⟨pc, hresult⟩ := result_of_instruction? hi
    rw [hresult]
    apply Machine.rng_perform
    rintro x mask rfl
    exact h x mask hi
  | none =>
    obtain ⟨m, e⟩ := o
    by_cases htick : e = .tick
    · rw [result, htick]
      rfl
    -- a reset takes the key over
    by_cases hreset : e = .reset
    · rw [result, hreset]
      rfl
    rw [result_of_instruction?_eq_none hi htick hreset]

/-- An event replaces the random key if it draws a byte, and else leaves it alone. -/
theorem rng_result (o : Occurrence) :
    o.result.rng = if o.drawsByte then o.machine.rng.next else o.machine.rng := by
  by_cases hdraws : o.drawsByte = true
  · obtain ⟨x, mask, h⟩ := drawsByte_iff.1 hdraws
    rw [if_pos hdraws, (result_of_random h).1, RandomKey.next]
  · rw [if_neg hdraws]
    exact rng_result_of_forall_ne fun x mask h => hdraws (drawsByte_iff.2 ⟨x, mask, h⟩)

end Occurrence

namespace Machine

/-- The number of random bytes that a history draws. -/
def drawCount (m : Machine) (es : List Event) : Nat :=
  (m.occurrences es).countP Occurrence.drawsByte

/-- After the events `es`, the event `e` draws a random byte for `VX`, masked. -/
def Draws (m : Machine) (es : List Event) (e : Event) (x : Register) (mask : Byte) : Prop :=
  Occurrence.instruction? ⟨m.afterAll es, e⟩ = some (.random x mask)

variable {m : Machine} {es : List Event} {e : Event} {x : Register} {mask : Byte}

theorem drawCount_append (m : Machine) (es fs : List Event) :
    m.drawCount (es ++ fs) = m.drawCount es + (m.afterAll es).drawCount fs := by
  rw [drawCount, occurrences_append, List.countP_append]
  rfl

/-- The random key after a history is the first one, replaced as often as bytes were drawn. -/
theorem rng_afterAll (m : Machine) (es : List Event) :
    (m.afterAll es).rng = RandomKey.next^[m.drawCount es] m.rng := by
  induction es generalizing m with
  | nil => rfl
  | cons e es ih =>
    have hfirst : (m.after e).rng = _ := Occurrence.rng_result ⟨m, e⟩
    rw [afterAll_cons, ih, hfirst, drawCount, drawCount, occurrences, List.countP_cons]
    -- the draw of the first event, if it is one, is the innermost of the iterate
    split
    · rw [Function.iterate_succ_apply]
    · rfl

/-- The byte of the stream with the number of a draw is what the second half of the key of that
moment is used up for. -/
theorem stream_drawCount (m : Machine) (es : List Event) :
    m.rng.stream (m.drawCount es) = (m.afterAll es).rng.split.2.spend := by
  rw [rng_afterAll, RandomKey.stream, RandomKey.byte]

/-- A draw after a history splits the key that the history has left, and stores the byte of the half
that it does not keep. -/
theorem rng_v_after_of_draws (h : m.Draws es e x mask) :
    (m.afterAll (es ++ [e])).rng = (m.afterAll es).rng.split.1 ∧
      (m.afterAll (es ++ [e])).v =
        (m.afterAll es).v.set x ((m.afterAll es).rng.split.2.spend &&& mask) := by
  rw [afterAll_concat]
  exact Occurrence.result_of_random h

/-- The draw after a history stores the byte whose number is the number of draws in it. -/
theorem v_after_of_draws (h : m.Draws es e x mask) :
    (m.afterAll (es ++ [e])).v =
      (m.afterAll es).v.set x (m.rng.stream (m.drawCount es) &&& mask) := by
  rw [(rng_v_after_of_draws h).2, stream_drawCount]

/-- The random bytes of a machine are those of the stream of its first key, in order. The key after
a history is the first key, replaced once for each draw. A draw stores the byte of its number in
`VX`, with no bit outside its mask, and writes no other register. It keeps the first half of the key
that it splits, and the byte is what the second half is used up for. Two machines with the same key
draw the same byte for a draw of the same number, whatever else is different about them. A reset
does not rewind the stream: the draws after it go on where those before it have stopped. -/
theorem random_stream_of_key (m : Machine) (es : List Event) :
    (m.afterAll es).rng = RandomKey.next^[m.drawCount es] m.rng ∧
      (∀ e x mask, m.Draws es e x mask →
        (m.afterAll (es ++ [e])).v.get x = m.rng.stream (m.drawCount es) &&& mask ∧
          (∀ bit, mask.getLsbD bit = false →
            ((m.afterAll (es ++ [e])).v.get x).getLsbD bit = false) ∧
          (∀ r, r ≠ x → (m.afterAll (es ++ [e])).v.get r = (m.afterAll es).v.get r) ∧
          (m.afterAll (es ++ [e])).rng = (m.afterAll es).rng.split.1 ∧
          m.rng.stream (m.drawCount es) = (m.afterAll es).rng.split.2.spend) ∧
      (∀ (n : Machine) (fs : List Event), n.rng = m.rng → n.drawCount fs = m.drawCount es →
        ∀ e f x y mask₁ mask₂, m.Draws es e x mask₁ → n.Draws fs f y mask₂ →
          let byte := m.rng.stream (m.drawCount es)
          (m.afterAll (es ++ [e])).v.get x = byte &&& mask₁ ∧
            (n.afterAll (fs ++ [f])).v.get y = byte &&& mask₂) ∧
      ∀ fs, (m.afterAll (es ++ .reset :: fs)).rng =
        RandomKey.next^[m.drawCount es + (m.afterAll es).reset.drawCount fs] m.rng := by
  refine ⟨rng_afterAll m es, ?_, ?_, ?_⟩
  · intro e x mask hdraws
    rw [v_after_of_draws hdraws]
    refine ⟨Table.get_set_self _ _ _, fun bit hbit => ?_, fun r hr => Table.get_set_of_ne _ _ hr,
      (rng_v_after_of_draws hdraws).1, stream_drawCount m es⟩
    rw [Table.get_set_self, BitVec.getLsbD_and, hbit, Bool.and_false]
  · intro n fs hkey hcount e f x y mask₁ mask₂ hm hn byte
    constructor
    · rw [v_after_of_draws hm, Table.get_set_self]
    · rw [v_after_of_draws hn, Table.get_set_self, hkey, hcount]
  · intro fs
    have hreset : m.drawCount (es ++ .reset :: fs) =
        m.drawCount es + (m.afterAll es).reset.drawCount fs := by
      -- the reset itself draws nothing
      rw [drawCount_append]
      rfl
    rw [rng_afterAll, hreset]

/-- A machine whose program draws into `V3` again and again. -/
def drawingLow : Machine :=
  { create .zero .modern with
    memory := (Table.replicate 12 0).write 0x200 [0xC3, 0x3F, 0xC3, 0x3F] }

/-- A machine with the same key whose program sets a register before it draws into `VF`. -/
def drawingHigh : Machine :=
  { create .zero .cosmacVip with
    memory := (Table.replicate 12 0).write 0x200 [0x60, 0x05, 0xCF, 0xFC, 0xCF, 0xFC] }

theorem random_stream_of_key_twoPrograms :
    let byte := drawingLow.rng.stream 1
    (drawingLow.afterAll [.step, .reset, .step]).v.get 3 = byte &&& 0x3F ∧
      (drawingHigh.afterAll [.step, .step, .tick, .step]).v.get 0xF = byte &&& 0xFC := by
  have hlowCount : drawingLow.drawCount [.step, .reset] = 1 := by decide +kernel
  have hhighCount : drawingHigh.drawCount [.step, .step, .tick] = 1 := by decide +kernel
  have hlow : drawingLow.Draws [.step, .reset] .step 3 0x3F := by
    unfold Draws
    decide +kernel
  have hhigh : drawingHigh.Draws [.step, .step, .tick] .step 0xF 0xFC := by
    unfold Draws
    decide +kernel
  have hbytes := (random_stream_of_key drawingLow [.step, .reset]).2.2.1 drawingHigh
    [.step, .step, .tick] rfl (hhighCount.trans hlowCount.symm)
    .step .step 3 0xF 0x3F 0xFC hlow hhigh
  rwa [hlowCount] at hbytes

end Machine

end Chip8
