import Chip8.Proofs.Pictures

/-!
# Pictures at every scale

The picture of a display at a scale shows each of its pixels as a square, in the colour for lit or
for dark pixels. Nothing is lost: if the two colours differ, the display can be read off the
picture. And a picture may be enlarged in two steps, by one factor of its scale and then by the other
(`Image.enlarge_enlarge`).

There is such a picture at every scale at which its array is not too large (`Image.PictureFits`).
Larger ones are refused, as long as the extents can still be told: they are computed in 64 bits,
and come around from a scale of `2 ^ 59` on.

* `Display.IsShownOn`: what is seen on the picture of a display.
* `Image.IsRepeated`: an image in which each pixel of another is a square.
* `Image.ofArray_exact`: the picture that is made shows the display, at any scale and in any two
  colours.
-/

namespace Chip8

/-- A colour: three numbers, each of which fits into a byte. -/
structure IsColor (l : List Int) : Prop where
  /-- There is a number for red, one for green and one for blue. -/
  length_eq : l.length = 3
  /-- Each of them fits into a byte. -/
  bounds : ∀ n ∈ l, 0 ≤ n ∧ n ≤ 255

instance (l : List Int) : Decidable (IsColor l) :=
  decidable_of_iff (l.length = 3 ∧ ∀ n ∈ l, 0 ≤ n ∧ n ≤ 255)
    ⟨fun h => ⟨h.1, h.2⟩, fun h => ⟨h.1, h.2⟩⟩

namespace Pixel

@[simp]
theorem length_toInts (p : Pixel) : p.toInts.length = p.length := by
  simp [toInts]

/-- A pixel is known by the numbers of its channels. -/
theorem toInts_inj {p q : Pixel} : p.toInts = q.toInts ↔ p = q := by
  have hbyte : Function.Injective fun b : Byte => (b.toNat : Int) := by
    intro b c h
    have hsame : (b.toNat : Int) = c.toNat := h
    exact BitVec.eq_of_toNat_eq (by omega)
  rw [toInts, toInts, List.map_inj_right hbyte]

/-- Numbers that fit into bytes are those of a pixel. -/
theorem exists_toInts {l : List Int} (h : ∀ n ∈ l, 0 ≤ n ∧ n ≤ 255) :
    ∃ p : Pixel, p.toInts = l := by
  refine ⟨l.map (BitVec.ofInt 8), ?_⟩
  rw [toInts, List.map_map]
  calc l.map ((fun b : Byte => (b.toNat : Int)) ∘ BitVec.ofInt 8)
    _ = l.map id := by
      refine List.map_congr_left fun n hn => ?_
      have hbounds := h n hn
      show ((BitVec.ofInt 8 n).toNat : Int) = n
      rw [BitVec.toNat_ofInt]
      omega
    _ = l := List.map_id l

end Pixel

namespace Image

/-! ## Enlarging -/

/-- An image may be enlarged in two steps. -/
theorem enlarge_enlarge (img : Image) (a b : Nat) :
    (img.enlarge a).enlarge b = img.enlarge (a * b) := by
  have hheight : ((img.enlarge a).enlarge b).height = img.height * (a * b) := Nat.mul_assoc _ _ _
  have hwidth : ((img.enlarge a).enlarge b).width = img.width * (a * b) := Nat.mul_assoc _ _ _
  refine ext_pixel hheight hwidth rfl fun r hr c hc => ?_
  have hr' : r < img.height * a * b := hr
  have hc' : c < img.width * a * b := hc
  -- a pixel of the first step stands for the pixel whose numbers are the quotients
  have hrow : r / b < img.height * a := Nat.div_lt_of_lt_mul (Nat.mul_comm _ b ▸ hr')
  have hcolumn : c / b < img.width * a := Nat.div_lt_of_lt_mul (Nat.mul_comm _ b ▸ hc')
  rw [pixel_enlarge _ _ _ _ hr hc, pixel_enlarge _ _ _ _ hrow hcolumn,
    pixel_enlarge _ _ _ _ (hheight ▸ hr) (hwidth ▸ hc), Nat.div_div_eq_div_mul,
    Nat.div_div_eq_div_mul, Nat.mul_comm b a]

/-- Each pixel of `img` is a square of `k` by `k` pixels in `big`. -/
structure IsRepeated (big img : Image) (k : Nat) : Prop where
  /-- Each row is there `k` times. -/
  height_eq : big.height = img.height * k
  /-- Each column is there `k` times. -/
  width_eq : big.width = img.width * k
  /-- The channels are the same. -/
  channels_eq : big.channels = img.channels
  /-- The pixels of a square are all the same. -/
  pixel_eq : ∀ r < img.height, ∀ c < img.width, ∀ i < k, ∀ j < k,
    big.pixel (r * k + i) (c * k + j) = img.pixel r c

/-- An enlarged image has a square for each pixel. -/
theorem isRepeated_enlarge (img : Image) (k : Nat) : (img.enlarge k).IsRepeated img k where
  height_eq := rfl
  width_eq := rfl
  channels_eq := rfl
  pixel_eq r hr c hc i hi j hj := by
    -- quotient and remainder of a coordinate tell the square and the place in it
    have hbound {n q p : Nat} (hq : q < n) (hp : p < k) : q * k + p < n * k :=
      calc q * k + p < q * k + k := Nat.add_lt_add_left hp _
        _ = (q + 1) * k := (Nat.succ_mul q k).symm
        _ ≤ n * k := Nat.mul_le_mul_right k hq
    have hquotient {q p : Nat} (hp : p < k) : (q * k + p) / k = q := by
      rw [Nat.mul_comm, Nat.mul_add_div (Nat.zero_lt_of_lt hp), Nat.div_eq_of_lt hp, Nat.add_zero]
    rw [pixel_enlarge _ _ _ _ (hbound hr hi) (hbound hc hj), hquotient hi, hquotient hj]

/-! ## Limits -/

/-- The array of the picture of a display at a scale is not too large. -/
def PictureFits (scale : Int) : Prop :=
  32 * scale * (64 * scale) * 3 < 0x8000000000000000

instance (scale : Int) : Decidable (PictureFits scale) :=
  inferInstanceAs (Decidable (_ < _))

/-- For a natural number the limit is one of natural numbers. -/
theorem pictureFits_natCast {k : Nat} :
    PictureFits k ↔ 32 * k * (64 * k) * 3 < 0x8000000000000000 := by
  have hcast : 32 * (k : Int) * (64 * k) * 3 = (32 * k * (64 * k) * 3 : Nat) := by
    push_cast
    rfl
  rw [PictureFits, hcast]
  omega

/-- A smaller picture fits too. -/
theorem PictureFits.mono {a b : Nat} (h : PictureFits b) (hle : a ≤ b) : PictureFits a := by
  rw [pictureFits_natCast] at h ⊢
  have hrows : 32 * a ≤ 32 * b := Nat.mul_le_mul_left 32 hle
  have hcolumns : 64 * a ≤ 64 * b := Nat.mul_le_mul_left 64 hle
  exact Nat.lt_of_le_of_lt (Nat.mul_le_mul_right 3 (Nat.mul_le_mul hrows hcolumns)) h

/-- A scale whose picture is not too large is granted as it is. -/
theorem factor_of_pictureFits {k : Nat} (hk : 0 < k) (hfits : PictureFits k) :
    factor 3 k = .ok k :=
  factor_natCast (by decide) hk (pictureFits_natCast.1 hfits)

/-- In 64 bits, an extent past the greatest that has a sign comes out negative. -/
theorem bmod_neg {n : Int} (hlarge : 0x8000000000000000 ≤ n) (hsmall : n < 0x10000000000000000) :
    n.bmod 0x10000000000000000 < 0 := by
  rw [Int.bmod_def]
  omega

/-- A picture whose extents are refused is refused. -/
theorem factor_error_of_extents {channels : Nat} {scale : Int} (hlarge : 1 < scale)
    (hsigned : Integer.fitsSigned scale = true)
    (h : ∃ reason, Shape.ofExtents [(Display.height * scale).bmod 0x10000000000000000,
      (Display.width * scale).bmod 0x10000000000000000, channels] = .error reason) :
    ∃ reason, factor channels scale = .error (.extents reason) := by
  obtain ⟨reason, hreason⟩ := h
  rw [factor, if_neg (Int.not_le.mpr hlarge), Integer.signed, if_pos hsigned]
  -- the picture may be refused before it is enlarged across
  change ∃ reason, (do
    let _ ← (Shape.ofExtents [(Display.height * scale).bmod 0x10000000000000000, Display.width,
      channels]).mapError ImageError.extents
    let _ ← (Shape.ofExtents [(Display.height * scale).bmod 0x10000000000000000,
      (Display.width * scale).bmod 0x10000000000000000, channels]).mapError ImageError.extents
    pure scale.toNat) = Except.error (ImageError.extents reason)
  rw [hreason]
  cases Shape.ofExtents [(Display.height * scale).bmod 0x10000000000000000, Display.width,
    channels] with
  | error first => exact ⟨first, rfl⟩
  | ok shape => exact ⟨reason, rfl⟩

/-- A picture that is too large is refused, if its extents can be told. -/
theorem factor_of_not_pictureFits {k : Nat} (hlarge : ¬ PictureFits k)
    (hk : k < 0x800000000000000) : ∃ reason, factor 3 k = .error (.extents reason) := by
  -- without enlarging the picture fits, so the scale is one at which rows and columns are repeated
  have hone : 1 < k := by
    by_contra hle
    exact hlarge (PictureFits.mono (b := 1) (by decide) (Nat.not_lt.mp hle))
  refine factor_error_of_extents (by omega) (Integer.fitsSigned_natCast (by omega)) ?_
  simp only [Display.height, Display.width]
  by_cases hwraps : 0x200000000000000 ≤ k
  · -- the rows come out negative, or else the columns do
    apply Shape.ofExtents_error_of_neg
    by_cases hrows : 0x400000000000000 ≤ k
    · exact ⟨_, List.mem_cons_self, bmod_neg (by omega) (by omega)⟩
    · exact ⟨_, List.mem_cons_of_mem _ List.mem_cons_self, bmod_neg (by omega) (by omega)⟩
  · -- the extents are what they should be
    have hrows : (((32 : Nat) : Int) * k).bmod 0x10000000000000000 = (32 * k : Nat) := by
      rw [Int.bmod_eq_of_le_mul_two] <;> omega
    have hcolumns : (((64 : Nat) : Int) * k).bmod 0x10000000000000000 = (64 * k : Nat) := by
      rw [Int.bmod_eq_of_le_mul_two] <;> omega
    rw [hrows, hcolumns]
    have hprod : 0x8000000000000000 ≤ [32 * k, 64 * k, 3].prod := by
      rw [pictureFits_natCast, Nat.not_lt] at hlarge
      simpa only [List.prod_cons, List.prod_nil, Nat.mul_one, ← Nat.mul_assoc] using hlarge
    have herror := Shape.ofExtents_error (by simp; omega) hprod
    simpa only [List.map_cons, List.map_nil, Int.ofNat_eq_natCast] using herror

/-- A scale that does not fit into 64 bits, one of them for the sign, is refused. -/
theorem factor_of_wide {scale : Int} (hwide : 0x8000000000000000 ≤ scale) :
    factor 3 scale = .error (.scale ⟨scale⟩) := by
  have hsigned : Integer.fitsSigned scale = false := by
    simp only [Integer.fitsSigned, Bool.and_eq_false_iff, decide_eq_false_iff_not]
    omega
  rw [factor, if_neg (by omega), Integer.signed, hsigned]
  rfl

end Image

/-! ## What is seen -/

namespace Display

/-- What is seen on the picture of a display at a scale, in the colours `on` and `off`. -/
structure IsShownOn (d : Display) (scale : Int) (on off : List Int) (img : Image) : Prop where
  /-- Each row of the display is as high as the scale. -/
  height_eq : (img.height : Int) = 32 * scale
  /-- Each column of the display is as wide as the scale. -/
  width_eq : (img.width : Int) = 64 * scale
  /-- The pixels are red, green and blue. -/
  channels_eq : img.channels = 3
  /-- A pixel has the colour of the pixel of the display in whose square it lies. -/
  pixel_eq : ∀ r < img.height, ∀ c < img.width, (img.pixel r c).toInts =
    if d.pixel (BitVec.ofNat 6 (c / scale.toNat)) (BitVec.ofNat 5 (r / scale.toNat)) then on
    else off
  /-- If the colours differ, the corner of each square tells whether the pixel is lit. -/
  corner_iff : on ≠ off → ∀ (x : Column) (y : Row), d.pixel x y = true ↔
    (img.pixel (y.toNat * scale.toNat) (x.toNat * scale.toNat)).toInts = on

variable {on off : Pixel} {k : Nat}

/-- The picture of a display shows it, in its two colours. -/
theorem isShownOn_picture (d : Display) (hon : on.length = 3) (hk : 0 < k) :
    d.IsShownOn k on.toInts off.toInts (d.picture on off k) where
  height_eq := by simp
  width_eq := by simp
  channels_eq := hon
  pixel_eq r hr c hc := by
    rw [pixel_picture _ _ _ _ hr hc, apply_ite Pixel.toInts]
    rfl
  corner_iff hcolors x y := by
    have hne : off ≠ on := fun h => hcolors (congrArg Pixel.toInts h.symm)
    -- what is read off the corner is the display
    have hread := congrArg (fun e => e.pixel x y) (d.readDisplay_picture hne hk)
    rw [Image.readDisplay] at hread
    simp only [pixel_ofFn] at hread
    rw [Pixel.toInts_inj, ← hread, beq_iff_eq]
    rfl

/-- The picture at a scale with two factors. -/
theorem isRepeated_picture (d : Display) (on off : Pixel) (a b : Nat) :
    (d.picture on off (a * b)).IsRepeated (d.picture on off a) b := by
  rw [picture, ← Image.enlarge_enlarge]
  exact Image.isRepeated_enlarge _ _

end Display

namespace Image

/-- If it is not too large, there is a picture of the display in any two colours. -/
theorem ofArray_of_pictureFits (d : Display) {on off : Pixel} (hon : on.length = 3)
    (hoff : off.length = 3) {k : Nat} (hk : 0 < k) (hfits : PictureFits k) :
    ofArray d.toArray k on.toInts off.toInts = .ok (d.picture on off k) := by
  rw [ofArray_toArray d k (hoff.trans hon.symm), hon, factor_of_pictureFits hk hfits]
  rfl

/-- If it is too large there is no picture of any display, for the same reason. -/
theorem ofArray_of_not_pictureFits {on off : Pixel} (hon : on.length = 3)
    (hoff : off.length = 3) {k : Nat} (hlarge : ¬ PictureFits k) (hk : k < 0x800000000000000) :
    ∃ reason, ∀ d : Display,
      ofArray d.toArray k on.toInts off.toInts = .error (.extents reason) := by
  obtain ⟨reason, hreason⟩ := factor_of_not_pictureFits hlarge hk
  refine ⟨reason, fun d => ?_⟩
  rw [ofArray_toArray d k (hoff.trans hon.symm), hon, hreason]
  rfl

/-- The picture of a display is exact. At every scale at which it fits into an array, and in any two
colours, there is a picture, and what is seen on it is the display, with a square for each of its
pixels. If the colours differ, different displays have different pictures. The picture at a scale
with two factors is the picture at the first, with each pixel repeated as often as the second says
in both directions. A picture that is too large is refused for its extents, as long as these can be
told, and a scale of more than 64 bits is refused for itself. -/
theorem ofArray_exact {on off : List Int} (hon : IsColor on) (hoff : IsColor off) {scale : Int}
    (hscale : 1 ≤ scale) :
    (PictureFits scale →
        (∀ d : Display, ∃ img,
          ofArray d.toArray scale on off = .ok img ∧ d.IsShownOn scale on off img) ∧
        (on ≠ off → ∀ d e : Display,
          ofArray d.toArray scale on off = ofArray e.toArray scale on off → d = e) ∧
        ∀ (d : Display) (a b : Int), 1 ≤ a → 1 ≤ b → scale = a * b →
          ∃ img big, ofArray d.toArray a on off = .ok img ∧
            ofArray d.toArray scale on off = .ok big ∧ big.IsRepeated img b.toNat) ∧
      (¬ PictureFits scale → scale < 0x800000000000000 → ∃ reason, ∀ d : Display,
        ofArray d.toArray scale on off = .error (.extents reason)) ∧
      (0x8000000000000000 ≤ scale → ∀ d : Display,
        ofArray d.toArray scale on off = .error (.scale ⟨scale⟩)) := by
  obtain ⟨on, rfl⟩ := Pixel.exists_toInts hon.bounds
  obtain ⟨off, rfl⟩ := Pixel.exists_toInts hoff.bounds
  have hon : on.length = 3 := by simpa using hon.length_eq
  have hoff : off.length = 3 := by simpa using hoff.length_eq
  obtain ⟨k, rfl⟩ := Int.eq_ofNat_of_zero_le (Int.le_trans Int.one_nonneg hscale)
  have hk : 0 < k := by omega
  refine ⟨fun hfits => ⟨?_, ?_, ?_⟩, ?_, ?_⟩
  · intro d
    exact ⟨_, ofArray_of_pictureFits d hon hoff hk hfits, d.isShownOn_picture hon hk⟩
  · intro hcolors d e hsame
    have hne : off ≠ on := fun h => hcolors (congrArg Pixel.toInts h.symm)
    rw [ofArray_of_pictureFits d hon hoff hk hfits, ofArray_of_pictureFits e hon hoff hk hfits,
      Except.ok.injEq] at hsame
    -- both are read off the same picture
    rw [← d.readDisplay_picture hne hk, hsame, e.readDisplay_picture hne hk]
  · intro d a b ha hb hab
    obtain ⟨a, rfl⟩ := Int.eq_ofNat_of_zero_le (Int.le_trans Int.one_nonneg ha)
    obtain ⟨b, rfl⟩ := Int.eq_ofNat_of_zero_le (Int.le_trans Int.one_nonneg hb)
    obtain rfl : k = a * b := by exact_mod_cast hab
    -- the first step is no larger than the whole, so it fits as well
    have hle : a ≤ a * b := Nat.le_mul_of_pos_right a (by omega)
    exact ⟨_, _, ofArray_of_pictureFits d hon hoff (by omega) (hfits.mono hle),
      ofArray_of_pictureFits d hon hoff hk hfits, d.isRepeated_picture on off a b⟩
  · intro hlarge htold
    exact ofArray_of_not_pictureFits hon hoff hlarge (by omega)
  · intro hwide d
    rw [ofArray_toArray d k (hoff.trans hon.symm), hon, factor_of_wide hwide]
    rfl

/-- A picture at a scale of six, and how it comes from the picture at a scale of two. -/
theorem ofArray_exact_sixfold :
    let d := Display.ofFn fun x y => x.toNat < y.toNat
    (∃ img, ofArray d.toArray 6 [238, 238, 238] [34, 34, 34] = .ok img ∧
      d.IsShownOn 6 [238, 238, 238] [34, 34, 34] img) ∧
    ∃ img big, ofArray d.toArray 2 [238, 238, 238] [34, 34, 34] = .ok img ∧
      ofArray d.toArray 6 [238, 238, 238] [34, 34, 34] = .ok big ∧ big.IsRepeated img 3 := by
  intro d
  have hon : IsColor [238, 238, 238] := by decide
  have hoff : IsColor [34, 34, 34] := by decide
  have hscale : (1 : Int) ≤ 6 := by decide
  obtain ⟨hfits, -⟩ := ofArray_exact hon hoff hscale
  obtain ⟨hshown, -, hfactors⟩ := hfits (by decide)
  exact ⟨hshown d, hfactors d 2 3 (by decide) (by decide) (by decide)⟩

/-- There is no picture at a scale at which it would not fit into an array. -/
theorem not_exists_ofArray_of_huge_scale :
    IsColor [0, 255, 0] ∧ IsColor [0, 0, 0] ∧ (1 : Int) ≤ 10000000000000000 ∧
      ¬ ∃ img, ofArray Display.blank.toArray 10000000000000000 [0, 255, 0] [0, 0, 0] = .ok img ∧
        Display.blank.IsShownOn 10000000000000000 [0, 255, 0] [0, 0, 0] img := by
  refine ⟨by decide, by decide, by decide, ?_⟩
  rintro ⟨img, hok, -⟩
  have hlarge : ¬ PictureFits (10000000000000000 : Nat) := by decide
  have hon : ([0, 255, 0] : Pixel).length = 3 := rfl
  have hoff : ([0, 0, 0] : Pixel).length = 3 := rfl
  obtain ⟨reason, herror⟩ := ofArray_of_not_pictureFits hon hoff hlarge (by decide)
  cases hok.symm.trans (herror .blank)

end Image

end Chip8
