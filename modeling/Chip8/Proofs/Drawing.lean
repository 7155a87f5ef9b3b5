import Chip8.Proofs.Execution

/-!
# Drawing pixel by pixel

A draw instruction toggles a whole display of pixels at once. `Machine.drawLoop` describes the same
drawing as a walk over the bits of the sprite, row by row and from the left, which toggles one
pixel at a time on the display as the earlier bits have left it, and remembers whether it hit a
pixel that was lit.

The walk is followed by `Sprite.drawnBefore`, the display of all pixels that it has toggled so far.
No pixel is met twice: a sprite is narrower than the display is wide, and has fewer rows than the
display. So each toggled pixel still has its old state when it is met (`Canvas.plot_toggled`), and
the walk ends with the mask of the sprite toggled (`Machine.drawLoop_eq`).

* `Machine.execute_draw_eq_drawLoop`: executing a draw instruction is the walk.
-/

namespace Chip8

-- Powers of natural numbers are those that `BitVec` is stated with, whatever else is in scope.
attribute [local instance (high)] instPowNat

namespace Display

/-- Toggles one pixel. -/
def flip (d : Display) (x : Column) (y : Row) : Display :=
  d.setRow y ((d.rows.get y).set x (!d.pixel x y))

/-- To flip a pixel inverts that one and keeps the others. -/
theorem pixel_flip (d : Display) (x px : Column) (y py : Row) :
    (d.flip x y).pixel px py = if px = x ∧ py = y then !d.pixel x y else d.pixel px py := by
  rw [flip, pixel_setRow]
  by_cases hy : py = y
  · subst hy
    by_cases hx : px = x <;> simp [Table.get_set, hx, pixel]
  · simp [hy]

/-- To flip a pixel of the mask is to flip it in what is toggled. -/
theorem toggle_flip (d seen : Display) (x : Column) (y : Row) :
    d.toggle (seen.flip x y) = (d.toggle seen).flip x y := by
  ext px py
  simp only [pixel_toggle, pixel_flip]
  split
  next h =>
    obtain ⟨rfl, rfl⟩ := h
    simp
  next => rfl

/-- A display meets one more pixel if that pixel is lit in it. -/
theorem overlaps_flip {d seen : Display} {x : Column} {y : Row} (hfresh : seen.pixel x y = false) :
    d.overlaps (seen.flip x y) = (d.overlaps seen || d.pixel x y) := by
  rw [Bool.eq_iff_iff, Bool.or_eq_true, overlaps_iff, overlaps_iff]
  constructor
  · rintro ⟨px, py, hd, hseen⟩
    rw [pixel_flip] at hseen
    split at hseen
    next h =>
      obtain ⟨rfl, rfl⟩ := h
      exact .inr hd
    next => exact .inl ⟨px, py, hd, hseen⟩
  · rintro (⟨px, py, hd, hseen⟩ | hd)
    · refine ⟨px, py, hd, ?_⟩
      -- a pixel already lit in `seen` is not the one just toggled
      have hne : ¬ (px = x ∧ py = y) := by
        rintro ⟨rfl, rfl⟩
        rw [hfresh] at hseen
        cases hseen
      rw [pixel_flip, if_neg hne]
      exact hseen
    · refine ⟨x, y, hd, ?_⟩
      rw [pixel_flip, if_pos ⟨rfl, rfl⟩, hfresh]
      rfl

end Display

/-- A display that is being drawn on. -/
structure Canvas where
  /-- The display as drawn so far. -/
  display : Display
  /-- Whether a pixel has been toggled that was lit. -/
  collided : Bool

namespace Canvas

/-- Toggles one pixel and records a collision if it is lit. -/
def plot (s : Canvas) (x : Column) (y : Row) : Canvas :=
  ⟨s.display.flip x y, s.collided || s.display.pixel x y⟩

/-- The canvas on which the pixels lit in `seen` have been toggled over the display `d`. -/
def toggled (d seen : Display) : Canvas :=
  ⟨d.toggle seen, d.overlaps seen⟩

/-- At the beginning nothing has been toggled and nothing has been hit. -/
theorem toggled_blank (d : Display) : toggled d .blank = ⟨d, false⟩ := by
  have hdisplay : d.toggle .blank = d := by
    ext x y
    simp
  have hcollided : d.overlaps .blank = false := by
    rw [Bool.eq_false_iff]
    intro h
    obtain ⟨x, y, -, hblank⟩ := Display.overlaps_iff.1 h
    rw [Display.pixel_blank] at hblank
    cases hblank
  rw [toggled, hdisplay, hcollided]

/-- A pixel that has not been toggled yet is met as it was at the beginning. -/
theorem plot_toggled {d seen : Display} {x : Column} {y : Row} (hfresh : seen.pixel x y = false) :
    (toggled d seen).plot x y = toggled d (seen.flip x y) := by
  simp only [plot, toggled, Display.toggle_flip, Display.overlaps_flip hfresh, Display.pixel_toggle,
    hfresh, Bool.xor_false]

end Canvas

namespace Sprite

variable (memory : Memory) (base : Address) (left : Column) (top : Row)

/-- What has been drawn of a sprite when its bit `c` of row `r` is met: the rows above, and in row
`r` the bits to the left. -/
def drawnBefore (r c : Nat) : Display :=
  Display.ofFn fun x y =>
    (decide ((y - top).toNat < r) ||
        decide ((y - top).toNat = r) && decide ((x - left).toNat < c)) &&
      (memory.get (base + (y - top).setWidth 12)).getMsbD (x - left).toNat

/-- A pixel has been drawn before a bit is met if its own bit is set and comes earlier in the walk.
-/
theorem pixel_drawnBefore (r c : Nat) (x : Column) (y : Row) :
    (drawnBefore memory base left top r c).pixel x y =
      ((decide ((y - top).toNat < r) ||
          decide ((y - top).toNat = r) && decide ((x - left).toNat < c)) &&
        (memory.get (base + (y - top).setWidth 12)).getMsbD (x - left).toNat) :=
  Display.pixel_ofFn _ _ _

theorem drawnBefore_zero : drawnBefore memory base left top 0 0 = .blank := by
  ext x y
  simp [pixel_drawnBefore]

/-- After the eight bits of a row the next row begins. -/
theorem drawnBefore_eight (r : Nat) :
    drawnBefore memory base left top r 8 = drawnBefore memory base left top (r + 1) 0 := by
  ext x y
  rw [pixel_drawnBefore, pixel_drawnBefore]
  by_cases hx : (x - left).toNat < 8
  · have hrow : (y - top).toNat < r + 1 ↔ (y - top).toNat < r ∨ (y - top).toNat = r := by omega
    simp only [hx, hrow, Nat.not_lt_zero, decide_true, decide_false, Bool.and_true, Bool.and_false,
      Bool.or_false, Bool.decide_or]
  · -- to the right of the sprite there is no bit
    rw [BitVec.getMsbD_of_ge _ _ (Nat.le_of_not_lt hx), Bool.and_false, Bool.and_false]

/-- The whole sprite is its mask. -/
theorem drawnBefore_height (height : Nat) :
    drawnBefore memory base left top height 0 = mask memory base left top height := by
  ext x y
  rw [pixel_drawnBefore, pixel_mask]
  simp only [Nat.not_lt_zero, decide_false, Bool.and_false, Bool.or_false, Int.ofNat_lt]

/-- The pixel that a bit is drawn to, by its distances from the corner. -/
theorem toNat_sub_eq_iff {w n : Nat} (a b : BitVec w) (hn : n < 2 ^ w) :
    (a - b).toNat = n ↔ a = b + BitVec.ofNat w n := by
  constructor
  · intro h
    rw [← h, BitVec.ofNat_toNat, BitVec.setWidth_eq, BitVec.add_comm, BitVec.sub_add_cancel]
  · intro h
    rw [h, BitVec.add_comm, BitVec.add_sub_cancel, BitVec.toNat_ofNat, Nat.mod_eq_of_lt hn]

theorem toNat_add_ofNat_sub {w n : Nat} (b : BitVec w) (hn : n < 2 ^ w) :
    (b + BitVec.ofNat w n - b).toNat = n :=
  (toNat_sub_eq_iff _ _ hn).2 rfl

/-- The bits of a row from the left are those of its byte from the highest on. -/
theorem getMsbD_eq_getLsbD {c : Nat} (hc : c < 8) (byte : Byte) :
    byte.getMsbD c = byte.getLsbD (7 - c) := by
  rw [BitVec.getMsbD_eq_getLsbD, decide_eq_true hc, Bool.true_and]

/-- Bit `c` of row `r` has not been drawn when it is met. -/
theorem pixel_drawnBefore_self {r c : Nat} (hr : r < 32) (hc : c < 64) :
    (drawnBefore memory base left top r c).pixel (left + BitVec.ofNat 6 c)
      (top + BitVec.ofNat 5 r) = false := by
  rw [pixel_drawnBefore, toNat_add_ofNat_sub left hc, toNat_add_ofNat_sub top hr]
  simp

/-- Meeting a bit that is set draws its pixel, and meeting one that is clear draws none. -/
theorem drawnBefore_succ {r c : Nat} (hr : r < 32) (hc : c < 64) :
    drawnBefore memory base left top r (c + 1) =
      if (memory.get (base + BitVec.ofNat 12 r)).getMsbD c then
        (drawnBefore memory base left top r c).flip (left + BitVec.ofNat 6 c)
          (top + BitVec.ofNat 5 r)
      else drawnBefore memory base left top r c := by
  ext x y
  by_cases hmet : x = left + BitVec.ofNat 6 c ∧ y = top + BitVec.ofNat 5 r
  · -- the pixel of the bit itself: dark before, and now as the bit says
    have hdark := pixel_drawnBefore_self memory base left top hr hc
    obtain ⟨rfl, rfl⟩ := hmet
    rw [pixel_drawnBefore, ← BitVec.ofNat_toNat 12, toNat_add_ofNat_sub left hc,
      toNat_add_ofNat_sub top hr]
    split
    next hbit =>
      rw [Display.pixel_flip, if_pos ⟨rfl, rfl⟩, hdark, hbit]
      simp
    next hbit =>
      rw [hdark, eq_false_of_ne_true hbit, Bool.and_false]
  · -- any other pixel lies at another distance, so it is drawn as it was
    have hdistance : ¬ ((y - top).toNat = r ∧ (x - left).toNat = c) := by
      rintro ⟨hy, hx⟩
      exact hmet ⟨(toNat_sub_eq_iff _ _ hc).1 hx, (toNat_sub_eq_iff _ _ hr).1 hy⟩
    have hkept : ((y - top).toNat = r ∧ (x - left).toNat < c + 1) ↔
        ((y - top).toNat = r ∧ (x - left).toNat < c) := by omega
    have hright : ∀ (d : Display) (bit : Bool), (if bit then d.flip (left + BitVec.ofNat 6 c)
        (top + BitVec.ofNat 5 r) else d).pixel x y = d.pixel x y := by
      intro d bit
      cases bit
      · rfl
      · exact (Display.pixel_flip ..).trans (if_neg hmet)
    simp only [hright, pixel_drawnBefore, ← Bool.decide_and, hkept]

end Sprite

namespace Machine

/-! ## The walk over the bits -/

/-- Meets bit `c` of row `r` of the sprite at `I`, with its corner at column `x0` and row `y0`. -/
def drawBit (m : Machine) (x0 y0 r : Nat) (s : Canvas) (c : Nat) : Canvas :=
  if (m.memory.get (BitVec.ofNat 12 (m.index.toNat + r))).getLsbD (7 - c) then
    s.plot (BitVec.ofNat 6 (x0 + c)) (BitVec.ofNat 5 (y0 + r))
  else s

/-- Meets the bits of row `r` from the left. -/
def drawRow (m : Machine) (x0 y0 : Nat) (s : Canvas) (r : Nat) : Canvas :=
  (List.range 8).foldl (m.drawBit x0 y0 r) s

/-- Meets the bits of the first `n` rows from the top, beginning with the display as it is. The
corner is at column `VX` modulo 64 and row `VY` modulo 32. -/
def drawLoop (m : Machine) (x y : Register) (n : BitVec 4) : Canvas :=
  (List.range n.toNat).foldl
    (m.drawRow ((m.v.get x).toNat % Display.width) ((m.v.get y).toNat % Display.height))
    ⟨m.display, false⟩

/-- The canvas when bit `c` of row `r` is met. -/
def canvasBefore (m : Machine) (x y : Register) (r c : Nat) : Canvas :=
  .toggled m.display (Sprite.drawnBefore m.memory (addressOf m.index) ((m.v.get x).setWidth 6)
    ((m.v.get y).setWidth 5) r c)

/-- The remainder by a power of two is the low bits. -/
theorem ofNat_mod_of_eq_two_pow {v w k : Nat} (hk : k = 2 ^ w) (a : BitVec v) :
    BitVec.ofNat w (a.toNat % k) = a.setWidth w := by
  subst hk
  apply BitVec.eq_of_toNat_eq
  rw [BitVec.toNat_ofNat, BitVec.toNat_setWidth, Nat.mod_mod]

/-- One step of the walk. -/
theorem drawBit_canvasBefore (m : Machine) (x y : Register) {r c : Nat} (hr : r < 32)
    (hc : c < 8) :
    m.drawBit ((m.v.get x).toNat % Display.width) ((m.v.get y).toNat % Display.height) r
      (m.canvasBefore x y r c) c = m.canvasBefore x y r (c + 1) := by
  have hcell : BitVec.ofNat 12 (m.index.toNat + r) = addressOf m.index + BitVec.ofNat 12 r := by
    rw [BitVec.ofNat_add, BitVec.ofNat_toNat, addressOf]
  have hcolumn : BitVec.ofNat 6 ((m.v.get x).toNat % Display.width + c) =
      (m.v.get x).setWidth 6 + BitVec.ofNat 6 c := by
    rw [BitVec.ofNat_add, ofNat_mod_of_eq_two_pow (by decide : Display.width = 2 ^ 6)]
  have hrow : BitVec.ofNat 5 ((m.v.get y).toNat % Display.height + r) =
      (m.v.get y).setWidth 5 + BitVec.ofNat 5 r := by
    rw [BitVec.ofNat_add, ofNat_mod_of_eq_two_pow (by decide : Display.height = 2 ^ 5)]
  have hfresh := Sprite.pixel_drawnBefore_self m.memory (addressOf m.index)
    ((m.v.get x).setWidth 6) ((m.v.get y).setWidth 5) hr (Nat.lt_trans hc (by decide : 8 < 64))
  -- the walk counts bits from the right, the mask from the left
  rw [drawBit, hcell, hcolumn, hrow, ← Sprite.getMsbD_eq_getLsbD hc, canvasBefore, canvasBefore,
    Canvas.plot_toggled hfresh, Sprite.drawnBefore_succ _ _ _ _ hr (by omega)]
  split <;> rfl

/-- The walk along one row. -/
theorem drawRow_canvasBefore (m : Machine) (x y : Register) {r : Nat} (hr : r < 32) :
    m.drawRow ((m.v.get x).toNat % Display.width) ((m.v.get y).toNat % Display.height)
      (m.canvasBefore x y r 0) r = m.canvasBefore x y (r + 1) 0 := by
  -- on the number of bits met so far
  have hwalk : ∀ c ≤ 8, (List.range c).foldl
      (m.drawBit ((m.v.get x).toNat % Display.width) ((m.v.get y).toNat % Display.height) r)
      (m.canvasBefore x y r 0) = m.canvasBefore x y r c := by
    intro c hc
    induction c with
    | zero => rfl
    | succ c ih =>
      rw [List.range_succ, List.foldl_append, ih (by omega), List.foldl_cons, List.foldl_nil]
      exact drawBit_canvasBefore m x y hr hc
  rw [drawRow, hwalk 8 (Nat.le_refl 8), canvasBefore, Sprite.drawnBefore_eight, canvasBefore]

/-- The whole walk toggles the mask of the sprite. -/
theorem drawLoop_eq (m : Machine) (x y : Register) (n : BitVec 4) :
    m.drawLoop x y n = .toggled m.display (m.sprite x y n) := by
  -- on the number of rows walked so far; no sprite has as many as the display
  have hwalk : ∀ r ≤ 32, (List.range r).foldl
      (m.drawRow ((m.v.get x).toNat % Display.width) ((m.v.get y).toNat % Display.height))
      ⟨m.display, false⟩ = m.canvasBefore x y r 0 := by
    intro r hr
    induction r with
    | zero =>
      rw [canvasBefore, Sprite.drawnBefore_zero, Canvas.toggled_blank]
      rfl
    | succ r ih =>
      rw [List.range_succ, List.foldl_append, ih (by omega), List.foldl_cons, List.foldl_nil]
      exact drawRow_canvasBefore m x y hr
  have hn : n.toNat ≤ 32 := by omega
  rw [drawLoop, hwalk _ hn, canvasBefore, Sprite.drawnBefore_height, sprite]

/-- Executing a draw instruction is the walk over the bits of its sprite: the display becomes the
one drawn, `VF` tells whether the walk has hit a lit pixel, and nothing else changes. It has hit
one exactly if some pixel goes dark. -/
theorem execute_draw_eq_drawLoop (m : Machine) (x y : Register) (n : BitVec 4) :
    m.execute (Instruction.draw x y n).word =
        { m with
          display := (m.drawLoop x y n).display
          v := m.v.set flagRegister (if (m.drawLoop x y n).collided then 1 else 0) } ∧
      ((m.drawLoop x y n).collided = true ↔
        ∃ px py, m.display.pixel px py = true ∧
          (m.execute (Instruction.draw x y n).word).display.pixel px py = false) := by
  have hexecute : m.execute (Instruction.draw x y n).word =
      { m with
        display := (m.drawLoop x y n).display
        v := m.v.set flagRegister (if (m.drawLoop x y n).collided then 1 else 0) } := by
    rw [execute_word, drawLoop_eq]
    rfl
  refine ⟨hexecute, ?_⟩
  rw [hexecute, drawLoop_eq]
  simp only [Canvas.toggled, Display.overlaps_iff, Display.pixel_toggle]
  -- a pixel of the mask goes dark if it was lit, and no other pixel changes
  constructor
  · rintro ⟨px, py, hlit, hmask⟩
    exact ⟨px, py, hlit, by rw [hlit, hmask]; rfl⟩
  · rintro ⟨px, py, hlit, hdark⟩
    rw [hlit, Bool.true_xor] at hdark
    exact ⟨px, py, hlit, by simpa using hdark⟩

end Machine

end Chip8
