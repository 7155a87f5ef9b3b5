import Chip8.Proofs.Drawing
import Mathlib.Data.BitVec
import Mathlib.Data.FinEnum
import Mathlib.Data.Fintype.Prod

/-!
# Sprites on a torus

Columns come around after 64 pixels and rows after 32, so the display is a torus. A sprite whose
corner is moved looks the same, moved as far on the torus (`Sprite.pixel_mask_add`). It is uncovered
from the top: a sprite of more rows lights all pixels that one of fewer rows lights
(`Sprite.isWithin_mask`), and past 32 rows nothing is added (`Sprite.mask_of_le`).

No bit of a sprite is lost, and none is shown twice. This is read off the walk over its bits that
draws it (`Sprite.drawnBefore`): a bit that is set lights one dark pixel (`Display.litCount_flip`),
so after each row as many pixels have been added as bits are set in its byte
(`Sprite.litCount_drawnBefore`).

Places and heights come in as integers that have to fit into 64 bits (`Integer.Fits`). A place may
be negative or large, since it comes around in any case. A height is counted in 32 bits with a sign,
so among heights that do not fit there (`Integer.FitsWord`) the greater one may be that of the lower
sprite.

* `Sprite.IsTorusMask`: how a mask is related to those of the same sprite at other places and
  heights, and how many pixels it lights.
* `Sprite.maskAt_on_torus`: there is such a mask at all integers that fit.
* `Sprite.not_isWithin_of_wide_height`: what comes of a height of `2 ^ 32` and of a place at
  `2 ^ 64`.
-/

namespace Chip8

-- Powers of natural numbers are those that `BitVec` is stated with, whatever else is in scope.
attribute [local instance (high)] instPowNat

/-! ## Integers from outside -/

namespace Integer

/-- An integer fits into 32 bits, one of them for the sign. -/
def FitsWord (n : Int) : Prop :=
  -0x80000000 ≤ n ∧ n < 0x80000000

instance (n : Int) : Decidable (FitsWord n) :=
  inferInstanceAs (Decidable (_ ∧ _))

/-- What fits into 32 bits fits into 64. -/
theorem FitsWord.fits {n : Int} (h : FitsWord n) : Fits n := by
  obtain ⟨hlow, hhigh⟩ := h
  exact ⟨by omega, by omega⟩

/-- What fits into 32 bits is read back from them. -/
theorem FitsWord.bmod_eq {n : Int} (h : FitsWord n) : n.bmod 0x100000000 = n := by
  obtain ⟨hlow, hhigh⟩ := h
  rw [Int.bmod_eq_of_le_mul_two] <;> omega

/-- What is read from 32 bits fits into them. -/
theorem fitsWord_bmod (n : Int) : FitsWord (n.bmod 0x100000000) := by
  have hlow := Int.le_bmod (x := n) (m := 0x100000000) (by decide)
  have hhigh := Int.bmod_lt (x := n) (m := 0x100000000) (by decide)
  exact ⟨by omega, by omega⟩

end Integer

/-- Fewer of the low bits of a number may be taken out of more of them. -/
theorem setWidth_ofInt {v w : Nat} (h : v ≤ w) (n : Int) :
    (BitVec.ofInt w n).setWidth v = BitVec.ofInt v n := by
  have hdvd : ((2 ^ v : Nat) : Int) ∣ ((2 ^ w : Nat) : Int) :=
    Int.natCast_dvd_natCast.2 (Nat.pow_dvd_pow 2 h)
  have hpos : (0 : Int) ≤ n % (2 ^ w : Nat) :=
    Int.emod_nonneg _ (Int.natCast_ne_zero.2 (Nat.two_pow_pos w).ne')
  apply BitVec.eq_of_toNat_eq
  rw [BitVec.toNat_setWidth, BitVec.toNat_ofInt, BitVec.toNat_ofInt, ← Int.emod_emod_of_dvd n hdvd,
    Int.toNat_emod hpos (Int.natCast_nonneg _), Int.toNat_natCast]

/-- A place on an axis that comes around is found again after a whole number of turns. -/
theorem ofInt_add_mul_two_pow (w : Nat) (n k : Int) :
    BitVec.ofInt w (n + (2 ^ w : Nat) * k) = BitVec.ofInt w n := by
  apply BitVec.eq_of_toNat_eq
  rw [BitVec.toNat_ofInt, BitVec.toNat_ofInt, Int.add_mul_emod_self_left]

/-- The place on an axis that is reached from another. -/
theorem ofInt_toNat_add {w : Nat} (p : BitVec w) (a : Int) :
    BitVec.ofInt w (p.toNat + a) = p + BitVec.ofInt w a := by
  rw [BitVec.ofInt_add, BitVec.ofInt_natCast, BitVec.ofNat_toNat, BitVec.setWidth_eq]

/-! ## Lit pixels -/

/-- Looking at the bits of a word from the left finds as many that are set as there are. -/
theorem countP_getMsbD {w : Nat} (x : BitVec w) :
    (List.range w).countP x.getMsbD = x.cpop.toNat := by
  -- on the number of bits looked at, from the right
  have hright (y : BitVec w) (k : Nat) : (List.range k).countP y.getLsbD = y.cpopNatRec k 0 := by
    induction k with
    | zero => rfl
    | succ k ih =>
      rw [List.range_succ, List.countP_append, List.countP_singleton, ih, BitVec.cpopNatRec_succ,
        BitVec.cpopNatRec_eq (0 + _)]
      cases y.getLsbD k <;> simp
  have hreverse : x.reverse.getLsbD = x.getMsbD := funext fun _ => BitVec.getLsbD_reverse
  rw [← BitVec.cpop_reverse, BitVec.toNat_cpop, ← hright, hreverse]

namespace Display

/-- Every pixel that is lit in `d` is lit in `e`. -/
def IsWithin (d e : Display) : Prop :=
  ∀ x y, d.pixel x y = true → e.pixel x y = true

/-- The number of pixels that are lit. -/
def litCount (d : Display) : Nat :=
  (Finset.univ.filter fun p : Column × Row => d.pixel p.1 p.2 = true).card

theorem litCount_blank : blank.litCount = 0 := by
  simp [litCount]

/-- Toggling a dark pixel lights one more. -/
theorem litCount_flip {d : Display} {x : Column} {y : Row} (hdark : d.pixel x y = false) :
    (d.flip x y).litCount = d.litCount + 1 := by
  have hnew : (x, y) ∉ Finset.univ.filter fun p : Column × Row => d.pixel p.1 p.2 = true := by
    simp [hdark]
  rw [litCount, litCount, ← Finset.card_insert_of_notMem hnew]
  -- the pixels lit afterwards are those lit before and the new one
  refine congrArg Finset.card (Finset.ext fun ⟨px, py⟩ => ?_)
  by_cases h : px = x ∧ py = y
  · obtain ⟨rfl, rfl⟩ := h
    simp [pixel_flip, hdark]
  · simp [pixel_flip, h]

end Display

namespace Sprite

variable (memory : Memory) (base : Address) (left : Column) (top : Row)

/-! ## One mask and another -/

/-- A sprite whose corner is moved has all its pixels moved as far. -/
theorem pixel_mask_add (a x : Column) (b y : Row) (height : Int) :
    (mask memory base (left + a) (top + b) height).pixel (x + a) (y + b) =
      (mask memory base left top height).pixel x y := by
  rw [pixel_mask, pixel_mask, add_sub_add_right_eq_sub, add_sub_add_right_eq_sub]

/-- A sprite of no rows or fewer shows nothing. -/
theorem mask_of_nonpos {height : Int} (h : height ≤ 0) :
    mask memory base left top height = .blank := by
  ext x y
  have hrow : ¬ ((y - top).toNat : Int) < height := by omega
  rw [pixel_mask, decide_eq_false hrow, Bool.false_and, Display.pixel_blank]

/-- A sprite shows no more than 32 rows. -/
theorem mask_of_le {height : Int} (h : 32 ≤ height) :
    mask memory base left top height = mask memory base left top 32 := by
  ext x y
  have hrow : (y - top).toNat < 32 := (y - top).isLt
  have hshown : ((y - top).toNat : Int) < height := by omega
  have hshown' : ((y - top).toNat : Int) < 32 := by omega
  rw [pixel_mask, pixel_mask, decide_eq_true hshown, decide_eq_true hshown']

/-- A taller sprite shows what a lower one at the same place shows. -/
theorem isWithin_mask {height taller : Int} (h : height ≤ taller) :
    (mask memory base left top height).IsWithin (mask memory base left top taller) := by
  intro x y hlit
  rw [pixel_mask, Bool.and_eq_true, decide_eq_true_iff] at hlit ⊢
  exact ⟨hlit.1.trans_le h, hlit.2⟩

/-! ## Counting pixels -/

/-- Along a row the walk lights one pixel for each bit that is set. -/
theorem litCount_drawnBefore {r c : Nat} (hr : r < 32) (hc : c ≤ 8) :
    (drawnBefore memory base left top r c).litCount =
      (drawnBefore memory base left top r 0).litCount +
        (List.range c).countP (memory.get (base + BitVec.ofNat 12 r)).getMsbD := by
  induction c with
  | zero => simp
  | succ c ih =>
    -- the pixel of the next bit is still dark
    have hdark := pixel_drawnBefore_self memory base left top hr (show c < 64 by omega)
    rw [drawnBefore_succ memory base left top hr (show c < 64 by omega), List.range_succ,
      List.countP_append, List.countP_singleton, ← Nat.add_assoc, ← ih (by omega)]
    split
    · exact Display.litCount_flip hdark
    · exact (Nat.add_zero _).symm

/-- A sprite that is not higher than the display lights as many pixels as its bytes have bits. -/
theorem litCount_mask {height : Nat} (h : height ≤ 32) :
    (mask memory base left top height).litCount =
      ((List.range height).map fun r =>
        (memory.get (base + BitVec.ofNat 12 r)).cpop.toNat).sum := by
  rw [← drawnBefore_height]
  -- on the number of rows walked so far
  induction height with
  | zero => simp [drawnBefore_zero, Display.litCount_blank]
  | succ r ih =>
    rw [← drawnBefore_eight, litCount_drawnBefore memory base left top h (Nat.le_refl 8),
      ih (Nat.le_of_succ_le h), countP_getMsbD, List.range_succ, List.map_append, List.sum_append,
      List.map_singleton, List.sum_singleton]

/-! ## Masks at integers from outside -/

open Integer

variable {memory base} {x y height : Int}

/-- The mask at integers that fit. The place comes around on the display, and the height comes
around in 32 bits. -/
theorem maskAt_of_fits (hx : Fits x) (hy : Fits y) (hheight : Fits height) :
    maskAt memory base x y height =
      .ok (mask memory base (BitVec.ofInt 6 x) (BitVec.ofInt 5 y) (height.bmod 0x100000000)) := by
  have hleft : (BitVec.ofInt 32 x).setWidth 6 = BitVec.ofInt 6 x := setWidth_ofInt (by decide) x
  have htop : (BitVec.ofInt 32 y).setWidth 5 = BitVec.ofInt 5 y := setWidth_ofInt (by decide) y
  have hrows : (BitVec.ofInt 32 height).toInt = height.bmod 0x100000000 :=
    BitVec.toInt_ofInt height
  rw [maskAt, narrow_of_fits hx, narrow_of_fits hy, narrow_of_fits hheight]
  show Except.ok (mask memory base ((BitVec.ofInt 32 x).setWidth 6) ((BitVec.ofInt 32 y).setWidth 5)
    (BitVec.ofInt 32 height).toInt) = _
  rw [hleft, htop, hrows]

/-- Inside the limits, the mask is that of the place modulo the size of the display. -/
theorem maskAt_of_fitsWord (hx : Fits x) (hy : Fits y) (hheight : FitsWord height) :
    maskAt memory base x y height =
      .ok (mask memory base (BitVec.ofInt 6 x) (BitVec.ofInt 5 y) height) := by
  rw [maskAt_of_fits hx hy hheight.fits, hheight.bmod_eq]

/-- An integer that does not fit is refused. -/
theorem maskAt_of_not_fits (h : ¬ (Fits x ∧ Fits y ∧ Fits height)) :
    ∃ n ∈ [x, y, height], ¬ Fits n ∧ maskAt memory base x y height = .error ⟨n⟩ := by
  -- they are taken in one after another, so it is the first of them that does not fit
  by_cases hx : Fits x
  · by_cases hy : Fits y
    · have hheight : ¬ Fits height := fun hheight => h ⟨hx, hy, hheight⟩
      refine ⟨height, by simp, hheight, ?_⟩
      rw [maskAt, narrow_of_fits hx, narrow_of_fits hy, narrow_of_not_fits hheight]
      rfl
    · refine ⟨y, by simp, hy, ?_⟩
      rw [maskAt, narrow_of_fits hx, narrow_of_not_fits hy]
      rfl
  · refine ⟨x, by simp, hx, ?_⟩
    rw [maskAt, narrow_of_not_fits hx]
    rfl

/-- How the mask `d` of the sprite at `I`, with its corner at column `x` and row `y`, is related to
the masks of this sprite at other places and heights, and how many pixels it lights. -/
structure IsTorusMask (m : Machine) (x y height : Int) (d : Display) : Prop where
  /-- If the corner is moved, each pixel is moved as far, around the edges of the display. -/
  moved : ∀ a b, Fits (x + a) → Fits (y + b) →
    ∃ e, maskAt m.memory (addressOf m.index) (x + a) (y + b) height = .ok e ∧
      ∀ (px : Column) (py : Row),
        e.pixel (BitVec.ofInt 6 (px.toNat + a)) (BitVec.ofInt 5 (py.toNat + b)) = d.pixel px py
  /-- After 64 columns and after 32 rows, in either direction, the mask is the same. -/
  periodic : ∀ k l, Fits (x + 64 * k) → Fits (y + 32 * l) →
    maskAt m.memory (addressOf m.index) (x + 64 * k) (y + 32 * l) height = .ok d
  /-- Of the height only the low 32 bits count, as a number with a sign. -/
  low_height : maskAt m.memory (addressOf m.index) x y (height.bmod 0x100000000) = .ok d
  /-- A sprite of more rows lights all pixels that are lit, and maybe others. -/
  within : FitsWord height → ∀ taller, FitsWord taller → height ≤ taller →
    ∃ e, maskAt m.memory (addressOf m.index) x y taller = .ok e ∧ d.IsWithin e
  /-- A sprite without rows lights no pixel. -/
  eq_blank : FitsWord height → height ≤ 0 → d = .blank
  /-- A sprite of 32 rows or more lights what one of 32 rows lights. -/
  saturated : FitsWord height → 32 ≤ height →
    maskAt m.memory (addressOf m.index) x y 32 = .ok d
  /-- Up to 32 rows, each bit that is set in the byte of a row lights one pixel. -/
  litCount_eq : 0 ≤ height → height ≤ 32 →
    d.litCount = ((List.range height.toNat).map fun r =>
      (m.memory.get (BitVec.ofNat 12 (m.index.toNat + r))).cpop.toNat).sum

/-- The mask at integers that fit is that of a sprite on a torus. -/
theorem isTorusMask (m : Machine) (hx : Fits x) (hy : Fits y) (hheight : Fits height) :
    IsTorusMask m x y height (mask m.memory (addressOf m.index) (BitVec.ofInt 6 x)
      (BitVec.ofInt 5 y) (height.bmod 0x100000000)) where
  moved a b hxa hyb := by
    refine ⟨_, maskAt_of_fits hxa hyb hheight, fun px py => ?_⟩
    rw [ofInt_toNat_add, ofInt_toNat_add, BitVec.ofInt_add, BitVec.ofInt_add, pixel_mask_add]
  periodic k l hxk hyl := by
    have hcolumn : BitVec.ofInt 6 (x + 64 * k) = BitVec.ofInt 6 x := ofInt_add_mul_two_pow 6 x k
    have hrow : BitVec.ofInt 5 (y + 32 * l) = BitVec.ofInt 5 y := ofInt_add_mul_two_pow 5 y l
    rw [maskAt_of_fits hxk hyl hheight, hcolumn, hrow]
  low_height := maskAt_of_fitsWord hx hy (fitsWord_bmod height)
  within hword taller htaller hle := by
    rw [hword.bmod_eq]
    exact ⟨_, maskAt_of_fitsWord hx hy htaller, isWithin_mask _ _ _ _ hle⟩
  eq_blank hword hle := by
    rw [hword.bmod_eq]
    exact mask_of_nonpos _ _ _ _ hle
  saturated hword hle := by
    rw [hword.bmod_eq, mask_of_le _ _ _ _ hle]
    exact maskAt_of_fitsWord hx hy (by decide)
  litCount_eq hnonneg hle := by
    -- such a height is the number of rows that the walk passes
    obtain ⟨rows, rfl⟩ := Int.eq_ofNat_of_zero_le hnonneg
    have hword : FitsWord rows := ⟨by omega, by omega⟩
    rw [hword.bmod_eq, litCount_mask _ _ _ _ (Int.ofNat_le.1 hle), Int.toNat_natCast]
    simp only [BitVec.ofNat_add, BitVec.ofNat_toNat, addressOf]

/-- The masks of a sprite are all of one picture on a torus, uncovered from the top. There is a mask
at every place and height that fits into 64 bits, and it is related to the other masks of the sprite
in this way. An integer that does not fit is refused. -/
theorem maskAt_on_torus (m : Machine) (x y height : Int) :
    (Fits x ∧ Fits y ∧ Fits height →
        ∃ d, maskAt m.memory (addressOf m.index) x y height = .ok d ∧
          IsTorusMask m x y height d) ∧
      (¬ (Fits x ∧ Fits y ∧ Fits height) →
        ∃ n ∈ [x, y, height], ¬ Fits n ∧
          maskAt m.memory (addressOf m.index) x y height = .error ⟨n⟩) := by
  refine ⟨?_, maskAt_of_not_fits⟩
  rintro ⟨hx, hy, hheight⟩
  exact ⟨_, maskAt_of_fits hx hy hheight, isTorusMask m hx hy hheight⟩

/-- A machine with a sprite of three rows, the last of which is in the first cell. -/
def atMemoryEnd : Machine :=
  { Machine.create .zero .modern with
    memory := (Table.replicate 12 0).write 0xFFE [0x81, 0xFF, 0x18]
    index := 0x1FFE }

/-- A sprite that comes around at the left edge and at the top, the same sprite far to the right,
and a place that is too far. -/
theorem maskAt_on_torus_aroundCorner :
    (∃ d e, maskAt atMemoryEnd.memory (addressOf atMemoryEnd.index) (-3) (-1) 3 = .ok d ∧
      maskAt atMemoryEnd.memory (addressOf atMemoryEnd.index) (-3 + 0x10000000000000000) (-1) 3 =
        .ok e ∧
      d.litCount = 12 ∧
      ∀ (px : Column) (py : Row), e.pixel (BitVec.ofInt 6 (px.toNat + 0x10000000000000000))
        (BitVec.ofInt 5 (py.toNat + 0)) = d.pixel px py) ∧
    ∃ n ∈ [0x10000000000000000, -1, 3], ¬ Fits n ∧
      maskAt atMemoryEnd.memory (addressOf atMemoryEnd.index) 0x10000000000000000 (-1) 3 =
        .error ⟨n⟩ := by
  have hfits : Fits (-3) ∧ Fits (-1) ∧ Fits 3 := by decide
  obtain ⟨d, hd, htorus⟩ := (maskAt_on_torus atMemoryEnd (-3) (-1) 3).1 hfits
  obtain ⟨e, he, hmoved⟩ := htorus.moved 0x10000000000000000 0 (by decide) (by decide)
  have hcount : d.litCount = 12 := (htorus.litCount_eq (by decide) (by decide)).trans
    (by decide +kernel)
  exact ⟨⟨d, e, hd, he, hcount, hmoved⟩, (maskAt_on_torus _ _ _ _).2 (by decide)⟩

/-- A height past 32 bits comes around: `2 ^ 32` rows light nothing, though three rows and 32 rows
light something. And there is no mask at a place past 64 bits. -/
theorem not_isWithin_of_wide_height :
    let maskOf := maskAt atMemoryEnd.memory (addressOf atMemoryEnd.index)
    (3 : Int) ≤ 0x100000000 ∧
      (¬ ∃ d e, maskOf 0 0 3 = .ok d ∧ maskOf 0 0 0x100000000 = .ok e ∧ d.IsWithin e) ∧
      (32 : Int) ≤ 0x100000000 ∧
      (¬ ∃ d, maskOf 0 0 32 = .ok d ∧ maskOf 0 0 0x100000000 = .ok d) ∧
      ¬ ∃ d e, maskOf 0 0 3 = .ok d ∧ maskOf (0 + 0x10000000000000000) (0 + 0) 3 = .ok e ∧
        ∀ (px : Column) (py : Row), e.pixel (BitVec.ofInt 6 (px.toNat + 0x10000000000000000))
          (BitVec.ofInt 5 (py.toNat + 0)) = d.pixel px py := by
  intro maskOf
  have hlow : maskOf 0 0 3 = .ok (mask atMemoryEnd.memory (addressOf atMemoryEnd.index) 0 0 3) :=
    maskAt_of_fitsWord (by decide) (by decide) (by decide)
  have hfull : maskOf 0 0 32 = .ok (mask atMemoryEnd.memory (addressOf atMemoryEnd.index) 0 0 32) :=
    maskAt_of_fitsWord (by decide) (by decide) (by decide)
  -- the low 32 bits of the height are those of zero
  have hnone : maskOf 0 0 0x100000000 = .ok .blank :=
    (maskAt_of_fits (by decide) (by decide) (by decide)).trans
      (congrArg Except.ok (mask_of_nonpos _ _ _ _ (by decide)))
  have hrefused : ∃ n ∈ [0 + 0x10000000000000000, 0 + 0, 3], ¬ Fits n ∧
      maskOf (0 + 0x10000000000000000) (0 + 0) 3 = .error ⟨n⟩ := maskAt_of_not_fits (by decide)
  have hlit : (mask atMemoryEnd.memory (addressOf atMemoryEnd.index) 0 0 3).pixel 0 0 = true := by
    decide +kernel
  have hlit' : (mask atMemoryEnd.memory (addressOf atMemoryEnd.index) 0 0 32).pixel 0 0 = true :=
    isWithin_mask _ _ _ _ (by decide) 0 0 hlit
  refine ⟨by decide, ?_, by decide, ?_, ?_⟩
  · rintro ⟨d, e, hd, he, hwithin⟩
    cases hlow.symm.trans hd
    cases hnone.symm.trans he
    exact absurd (hwithin 0 0 hlit) (by simp)
  · rintro ⟨d, hd, he⟩
    cases hnone.symm.trans he
    rw [Except.ok.inj (hfull.symm.trans hd)] at hlit'
    exact absurd hlit' (by simp)
  · rintro ⟨d, e, -, he, -⟩
    obtain ⟨n, -, -, herror⟩ := hrefused
    cases herror.symm.trans he

end Sprite

end Chip8
