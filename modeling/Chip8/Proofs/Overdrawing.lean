import Chip8.Proofs.Drawing

/-!
# Sprites drawn over one another

Drawing a sprite toggles the pixels of its mask. Toggling the pixels of several masks is the same in
any order, and to toggle those of one mask twice is to leave them as they were. Where a sprite goes
and what it looks like depends on two registers, `I` and the memory. A draw instruction changes none
of these, unless one of the two registers is `VF`.

A `Draw` is a draw instruction that does not look at `VF`. Its mask is therefore the same before and
after other such instructions (`Machine.maskOf_execute`), and a list of them toggles the masks that
they have at the start (`Machine.display_executeAll`).

* `Machine.draws_commute_and_cancel`: the order does not matter, and equal pairs cancel.
-/

namespace Chip8

namespace Display

variable {d mask : Display}

/-- Two masks are toggled in either order. -/
theorem toggle_right_comm (d mask₁ mask₂ : Display) :
    (d.toggle mask₁).toggle mask₂ = (d.toggle mask₂).toggle mask₁ := by
  ext x y
  simp only [pixel_toggle]
  exact Bool.xor_right_comm _ _ _

theorem toggle_toggle_self (d mask : Display) : (d.toggle mask).toggle mask = d := by
  ext x y
  rw [pixel_toggle, pixel_toggle, Bool.xor_assoc, Bool.xor_self, Bool.xor_false]

/-- After its pixels have been toggled, a mask meets those that were dark before. -/
theorem overlaps_toggle_iff :
    (d.toggle mask).overlaps mask = true ↔
      ∃ x y, mask.pixel x y = true ∧ d.pixel x y = false := by
  have hpixel (x : Column) (y : Row) :
      ((d.toggle mask).pixel x y = true ∧ mask.pixel x y = true) ↔
        (mask.pixel x y = true ∧ d.pixel x y = false) := by
    rw [pixel_toggle]
    cases d.pixel x y <;> cases mask.pixel x y <;> simp
  simp only [overlaps_iff, hpixel]

/-- Masks may be toggled in any order. -/
theorem foldl_toggle_perm {masks₁ masks₂ : List Display} (h : masks₁.Perm masks₂) (d : Display) :
    masks₁.foldl toggle d = masks₂.foldl toggle d :=
  h.foldl_eq' (fun mask₁ _ mask₂ _ d => toggle_right_comm d mask₁ mask₂) d

/-- Two equal masks cancel each other, wherever they stand. -/
theorem foldl_toggle_pair (d mask : Display) (before between after : List Display) :
    (before ++ mask :: between ++ mask :: after).foldl toggle d =
      (before ++ between ++ after).foldl toggle d := by
  have hfront : (before ++ mask :: between ++ mask :: after).Perm
      (mask :: mask :: (before ++ between ++ after)) := by
    have hsecond : (before ++ mask :: between ++ mask :: after).Perm
        (mask :: (before ++ mask :: between ++ after)) := List.perm_middle
    have hfirst : (before ++ mask :: between).Perm (mask :: (before ++ between)) :=
      List.perm_middle
    exact hsecond.trans ((hfirst.append_right after).cons mask)
  rw [foldl_toggle_perm hfront, List.foldl_cons, List.foldl_cons, toggle_toggle_self]

end Display

/-- A draw instruction that takes its position from registers other than `VF`. -/
structure Draw where
  /-- The register with the column. -/
  x : Register
  /-- The register with the row. -/
  y : Register
  /-- The number of rows of the sprite. -/
  rows : BitVec 4
  /-- The column is not in the register that tells of collisions. -/
  x_ne : x ≠ flagRegister
  /-- The row is not in the register that tells of collisions. -/
  y_ne : y ≠ flagRegister

/-- The word of the instruction. -/
def Draw.word (d : Draw) : Word :=
  (Instruction.draw d.x d.y d.rows).word

namespace Machine

/-- Executes several words, the first of the list first. -/
def executeAll (m : Machine) (ws : List Word) : Machine :=
  ws.foldl execute m

/-- The display that shows nothing but the sprite of a draw instruction. -/
def maskOf (m : Machine) (d : Draw) : Display :=
  m.sprite d.x d.y d.rows

/-- A drawing changes the display and `VF`, and nothing else. -/
theorem execute_draw (m : Machine) (d : Draw) :
    m.execute d.word =
      { m with
        display := m.display.toggle (m.maskOf d)
        v := m.v.set flagRegister (if m.display.overlaps (m.maskOf d) then 1 else 0) } :=
  execute_word m _

theorem display_execute (m : Machine) (d : Draw) :
    (m.execute d.word).display = m.display.toggle (m.maskOf d) := by
  rw [execute_draw]

/-- A draw instruction leaves the masks of the others as they are. -/
theorem maskOf_execute (m : Machine) (d e : Draw) : (m.execute d.word).maskOf e = m.maskOf e := by
  have hx : (m.execute d.word).v.get e.x = m.v.get e.x := by
    rw [execute_draw]
    exact Table.get_set_of_ne _ _ e.x_ne
  have hy : (m.execute d.word).v.get e.y = m.v.get e.y := by
    rw [execute_draw]
    exact Table.get_set_of_ne _ _ e.y_ne
  rw [maskOf, sprite, hx, hy, execute_draw]
  rfl

/-- Draw instructions toggle the masks that they have at the start. -/
theorem display_executeAll (m : Machine) (ds : List Draw) :
    (m.executeAll (ds.map Draw.word)).display =
      (ds.map m.maskOf).foldl Display.toggle m.display := by
  -- on the instructions, from the machine that the first of them leaves to the others
  induction ds generalizing m with
  | nil => rfl
  | cons d ds ih =>
    have hrest : ((m.execute d.word).executeAll (ds.map Draw.word)).display = _ := ih _
    have hmasks : ds.map (m.execute d.word).maskOf = ds.map m.maskOf :=
      List.map_congr_left fun e _ => maskOf_execute m d e
    rw [hmasks, display_execute] at hrest
    exact hrest

/-- The second of two equal drawings is flagged for the pixels that the first has lit. -/
theorem flag_executeAll_twice (m : Machine) (d : Draw) :
    (m.executeAll [d.word, d.word]).v.get flagRegister =
      if (m.display.toggle (m.maskOf d)).overlaps (m.maskOf d) then 1 else 0 := by
  show ((m.execute d.word).execute d.word).v.get flagRegister = _
  rw [execute_draw (m.execute d.word) d, maskOf_execute, display_execute]
  exact Table.get_set_self _ _ _

/-- Drawing sprites is toggling pixels: the order does not matter, and pairs cancel. A list of draw
instructions that do not look at `VF` toggles the masks that its instructions have at the start. The
display is therefore the same after the instructions in another order, and after the list with two
equal instructions less. An instruction that is executed twice in a row restores the display, and
`VF` is one after that exactly if some pixel of the sprite was dark before, and else zero. -/
theorem draws_commute_and_cancel (m : Machine) :
    (∀ ds : List Draw, (m.executeAll (ds.map Draw.word)).display =
      (ds.map m.maskOf).foldl Display.toggle m.display) ∧
    (∀ ds es : List Draw, ds.Perm es →
      (m.executeAll (ds.map Draw.word)).display = (m.executeAll (es.map Draw.word)).display) ∧
    (∀ (d : Draw) (before between after : List Draw),
      (m.executeAll ((before ++ d :: between ++ d :: after).map Draw.word)).display =
        (m.executeAll ((before ++ between ++ after).map Draw.word)).display) ∧
    ∀ d : Draw, (m.executeAll [d.word, d.word]).display = m.display ∧
      ((m.executeAll [d.word, d.word]).v.get flagRegister = 1 ↔
        ∃ x y, (m.maskOf d).pixel x y = true ∧ m.display.pixel x y = false) ∧
      ((m.executeAll [d.word, d.word]).v.get flagRegister = 0 ∨
        (m.executeAll [d.word, d.word]).v.get flagRegister = 1) := by
  refine ⟨display_executeAll m, fun ds es hperm => ?_, fun d before between after => ?_,
    fun d => ⟨?_, ?_, ?_⟩⟩
  · rw [display_executeAll, display_executeAll]
    exact Display.foldl_toggle_perm (hperm.map _) _
  · rw [display_executeAll, display_executeAll]
    simp only [List.map_append, List.map_cons]
    exact Display.foldl_toggle_pair _ _ _ _ _
  · have htwice := display_executeAll m [d, d]
    exact htwice.trans (Display.toggle_toggle_self _ _)
  · -- the second drawing meets what the first has lit
    rw [flag_executeAll_twice, ← Display.overlaps_toggle_iff]
    split
    next h => exact iff_of_true rfl h
    next h => exact iff_of_false (by decide) h
  · rw [flag_executeAll_twice]
    split
    · exact .inr rfl
    · exact .inl rfl

/-- A machine with the sprite of a digit at `I` and a position near the lower right corner. -/
def overdrawing : Machine :=
  { create .zero .modern with
    index := 0x050
    v := (Table.replicate 4 0).write 0 [62, 30, 61] }

/-- The digit near the corner, where it comes around at both edges. -/
def cornerDraw : Draw := ⟨0, 1, 5, by decide, by decide⟩

/-- The same digit one column to the left. -/
def shiftedDraw : Draw := ⟨2, 1, 5, by decide, by decide⟩

/-- Digits that meet at the corner of the display are drawn in either order, and cancel. -/
theorem draws_commute_and_cancel_corner :
    (overdrawing.executeAll [cornerDraw.word, shiftedDraw.word]).display =
        (overdrawing.executeAll [shiftedDraw.word, cornerDraw.word]).display ∧
      (overdrawing.executeAll [cornerDraw.word, shiftedDraw.word, cornerDraw.word]).display =
        (overdrawing.executeAll [shiftedDraw.word]).display ∧
      (overdrawing.executeAll [cornerDraw.word, cornerDraw.word]).v.get flagRegister = 1 := by
  obtain ⟨-, hperm, hpair, htwice⟩ := draws_commute_and_cancel overdrawing
  refine ⟨hperm _ _ (.swap shiftedDraw cornerDraw []), hpair cornerDraw [] [shiftedDraw] [], ?_⟩
  exact (htwice cornerDraw).2.1.2 ⟨62, 30, by decide +kernel, by decide +kernel⟩

end Machine

end Chip8
