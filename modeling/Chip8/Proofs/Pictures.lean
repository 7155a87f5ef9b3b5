import Chip8.Image.Picture
import Mathlib.Algebra.BigOperators.Group.List.Lemmas

/-!
# Pictures of displays

What is seen on the picture of a display, when there is one, and how it is read.

An image is determined by its extents and its pixels (`Image.ext_pixel`). The picture of a display
at a scale shows the pixel in column `x` and row `y` as a square of image pixels
(`Display.pixel_picture`), and `Image.readDisplay` finds it again in the corner of that square.

* `Shape.ofExtents_ofNat`, `Shape.ofExtents_error`: there is an array exactly if the product of its
  extents is small enough.
* `Image.ofArray_toArray`: the picture of the array of a display.
* `Image.ofArrayIn_eq_ofArray`: the colours of a scheme go in like any others.
* `Display.readDisplay_picture`: a display can be read off its picture if its two colours differ.
-/

namespace Chip8

/-! ## Images -/

namespace Image

/-- An image is determined by its extents and its pixels. -/
theorem ext_pixel {img other : Image} (hheight : img.height = other.height)
    (hwidth : img.width = other.width) (hchannels : img.channels = other.channels)
    (hpixel : ∀ r < img.height, ∀ c < img.width, img.pixel r c = other.pixel r c) :
    img = other := by
  obtain ⟨height, width, channels, rows⟩ := img
  obtain ⟨_, _, _, rows'⟩ := other
  dsimp only at hheight hwidth hchannels hpixel
  subst hheight hwidth hchannels
  have hrows : rows = rows' := by
    refine Vector.ext fun r hr => Vector.ext fun c hc => ?_
    simpa [pixel, hr, hc] using hpixel r hr c hc
  rw [hrows]

/-- The display that is read off the corners of squares with `k` pixels on each side: what has the
colour `on` is lit. -/
def readDisplay (img : Image) (k : Nat) (on : Pixel) : Display :=
  Display.ofFn fun x y => img.pixel (y.toNat * k) (x.toNat * k) == on

end Image

namespace Display

/-- The picture of a display with squares of `k` by `k` pixels. -/
def picture (d : Display) (on off : Pixel) (k : Nat) : Image :=
  (Image.ofDisplay d on off).enlarge k

variable (d : Display) (on off : Pixel) (k : Nat)

@[simp]
theorem height_picture : (d.picture on off k).height = 32 * k := rfl

@[simp]
theorem width_picture : (d.picture on off k).width = 64 * k := rfl

@[simp]
theorem channels_picture : (d.picture on off k).channels = on.length := rfl

/-- A pixel of the picture has the colour of the pixel of the display whose square it is in. -/
theorem pixel_picture {r c : Nat} (hr : r < 32 * k) (hc : c < 64 * k) :
    (d.picture on off k).pixel r c =
      if d.pixel (BitVec.ofNat 6 (c / k)) (BitVec.ofNat 5 (r / k)) then on else off := by
  have hr' : r / k < 32 := Nat.div_lt_of_lt_mul (Nat.mul_comm 32 k ▸ hr)
  have hc' : c / k < 64 := Nat.div_lt_of_lt_mul (Nat.mul_comm 64 k ▸ hc)
  rw [picture, Image.pixel_enlarge _ _ _ _ hr hc]
  exact Image.pixel_ofFn _ _ _ _ hr' hc'

/-- A display can be read off its picture if its two colours differ. -/
theorem readDisplay_picture {on off : Pixel} {k : Nat} (hcolors : off ≠ on) (hk : 0 < k) :
    (d.picture on off k).readDisplay k on = d := by
  ext x y
  have hx : x.toNat * k < 64 * k := Nat.mul_lt_mul_of_pos_right x.isLt hk
  have hy : y.toNat * k < 32 * k := Nat.mul_lt_mul_of_pos_right y.isLt hk
  rw [Image.readDisplay, pixel_ofFn, pixel_picture _ _ _ _ hy hx, Nat.mul_div_cancel _ hk,
    Nat.mul_div_cancel _ hk, BitVec.ofNat_toNat, BitVec.ofNat_toNat, BitVec.setWidth_eq,
    BitVec.setWidth_eq]
  by_cases hlit : d.pixel x y = true <;> simp [hlit, hcolors]

end Display

/-! ## Limits -/

/-- A natural number of at most 63 bits passes the range check. -/
theorem Integer.fitsSigned_natCast {n : Nat} (h : n < 0x8000000000000000) :
    Integer.fitsSigned (n : Int) = true := by
  simp only [Integer.fitsSigned, Bool.and_eq_true, decide_eq_true_eq]
  omega

namespace Shape

/-- An extent is refused if it is negative, skipped if it is zero, and otherwise multiplied into the
product, as long as that stays small enough. -/
theorem measure_cons (product : Nat) (n : Int) (rest : List Int) :
    measure product (n :: rest) =
      if n < 0 then .error .negative
      else if n = 0 then measure product rest
      else if 0x8000000000000000 ≤ product * n.toNat then .error .tooLarge
      else measure (product * n.toNat) rest := rfl

/-- Extents that are not zero can be multiplied exactly if their product fits. -/
theorem measure_ofNat {extents : List Nat} (hpos : ∀ n ∈ extents, 0 < n) {product : Nat}
    (hproduct : product < 0x8000000000000000) :
    measure product (extents.map Int.ofNat) =
      if product * extents.prod < 0x8000000000000000 then .ok () else .error .tooLarge := by
  induction extents generalizing product with
  | nil =>
    rw [List.prod_nil, Nat.mul_one, if_pos hproduct]
    rfl
  | cons n rest ih =>
    have hn : 0 < n := hpos n List.mem_cons_self
    have hrest : ∀ m ∈ rest, 0 < m := fun m hm => hpos m (List.mem_cons_of_mem n hm)
    have hsign : ¬ Int.ofNat n < 0 := by simp
    have hzero : Int.ofNat n ≠ 0 := by simpa using Nat.ne_of_gt hn
    have htoNat : (Int.ofNat n).toNat = n := rfl
    rw [List.map_cons, measure_cons, if_neg hsign, if_neg hzero, htoNat, List.prod_cons,
      ← Nat.mul_assoc]
    by_cases hlarge : 0x8000000000000000 ≤ product * n
    · -- the rest of the extents does not make the product smaller again
      have hall : product * n ≤ product * n * rest.prod :=
        Nat.le_mul_of_pos_right _ (List.prod_pos_iff_forall_pos_nat.mpr hrest)
      rw [if_pos hlarge, if_neg (Nat.not_lt.mpr (Nat.le_trans hlarge hall))]
    · rw [if_neg hlarge]
      exact ih hrest (Nat.lt_of_not_le hlarge)

/-- Few extents that are not zero make a shape if their product fits. -/
theorem ofExtents_ofNat {extents : List Nat} (hrank : extents.length ≤ maxRank)
    (hpos : ∀ n ∈ extents, 0 < n) (hfits : extents.prod < 0x8000000000000000) :
    ofExtents (extents.map Int.ofNat) = .ok extents := by
  -- each extent divides the product, so it fits if the product does
  have hsigned : (extents.map Int.ofNat).find? (fun n => !Integer.fitsSigned n) = none := by
    rw [List.find?_eq_none]
    intro n hn
    obtain ⟨m, hm, rfl⟩ := List.mem_map.mp hn
    have hle : m ≤ extents.prod :=
      Nat.le_of_dvd (List.prod_pos_iff_forall_pos_nat.mpr hpos) (List.dvd_prod hm)
    rw [Int.ofNat_eq_natCast, Integer.fitsSigned_natCast (Nat.lt_of_le_of_lt hle hfits)]
    decide
  have hmeasure : measure 1 (extents.map Int.ofNat) = .ok () := by
    rw [measure_ofNat hpos (by decide), Nat.one_mul, if_pos hfits]
  have hback : (extents.map Int.ofNat).map Int.toNat = extents := by
    simp [Function.comp_def]
  rw [ofExtents, List.length_map, if_neg (Nat.not_lt.mpr hrank), hsigned, hmeasure, hback]
  rfl

/-- Extents whose multiplication fails make no shape. -/
theorem ofExtents_error_of_measure {extents : List Int} {reason : ExtentError}
    (h : measure 1 extents = .error reason) : ∃ reason, ofExtents extents = .error reason := by
  rw [ofExtents]
  split
  next => exact ⟨_, rfl⟩
  next =>
    split
    next => exact ⟨_, rfl⟩
    next =>
      rw [h]
      exact ⟨_, rfl⟩

/-- Extents that are not zero make no shape if their product does not fit. -/
theorem ofExtents_error {extents : List Nat} (hpos : ∀ n ∈ extents, 0 < n)
    (hlarge : 0x8000000000000000 ≤ extents.prod) :
    ∃ reason, ofExtents (extents.map Int.ofNat) = .error reason := by
  have hmeasure : measure 1 (extents.map Int.ofNat) = .error .tooLarge := by
    rw [measure_ofNat hpos (by decide), Nat.one_mul, if_neg (Nat.not_lt.mpr hlarge)]
  exact ofExtents_error_of_measure hmeasure

/-- Extents make no shape if one of them is negative. It may come too late to be the reason. -/
theorem ofExtents_error_of_neg {extents : List Int} (h : ∃ n ∈ extents, n < 0) :
    ∃ reason, ofExtents extents = .error reason := by
  -- whatever stands before the negative extent, the measure ends there or earlier
  have hmeasure : ∀ product, ∃ reason, measure product extents = .error reason := by
    induction extents with
    | nil => simp at h
    | cons n rest ih =>
      intro product
      rw [measure_cons]
      by_cases hn : n < 0
      · exact ⟨_, if_pos hn⟩
      · rw [if_neg hn]
        have hrest : ∃ n ∈ rest, n < 0 := by
          simpa [hn] using h
        split
        next => exact ih hrest product
        next =>
          split
          next => exact ⟨_, rfl⟩
          next => exact ih hrest _
  obtain ⟨reason, hreason⟩ := hmeasure 1
  exact ofExtents_error_of_measure hreason

/-- An image has a shape if its array fits. -/
theorem ofExtents_image {height width channels : Nat} (hheight : 0 < height) (hwidth : 0 < width)
    (hchannels : 0 < channels) (hfits : height * width * channels < 0x8000000000000000) :
    ofExtents [(height : Int), width, channels] = .ok [height, width, channels] := by
  have hrank : [height, width, channels].length ≤ maxRank := by
    simp [maxRank]
  have hpos : ∀ n ∈ [height, width, channels], 0 < n := by
    simp [hheight, hwidth, hchannels]
  have hprod : [height, width, channels].prod < 0x8000000000000000 := by
    simpa only [List.prod_cons, List.prod_nil, Nat.mul_one, ← Nat.mul_assoc] using hfits
  have h := ofExtents_ofNat hrank hpos hprod
  simpa only [List.map_cons, List.map_nil, Int.ofNat_eq_natCast] using h

end Shape

namespace Image

/-- A picture of a display can be enlarged if its array then still fits. -/
theorem factor_natCast {channels : Nat} (hchannels : 0 < channels) {k : Nat} (hk : 0 < k)
    (hfits : 32 * k * (64 * k) * channels < 0x8000000000000000) : factor channels k = .ok k := by
  rw [factor]
  split
  next hsmall =>
    have hone : k = 1 := by omega
    rw [hone]
    rfl
  next =>
    -- before it is enlarged across, the picture is smaller
    have hdown : 32 * k * Display.width * channels ≤ 32 * k * (64 * k) * channels :=
      Nat.mul_le_mul_right _ (Nat.mul_le_mul_left _ (Nat.le_mul_of_pos_right 64 hk))
    have hwide : 64 * k < 0x8000000000000000 := by
      calc 64 * k = 1 * (64 * k) * 1 := by rw [Nat.one_mul, Nat.mul_one]
        _ ≤ 32 * k * (64 * k) * channels :=
          Nat.mul_le_mul (Nat.mul_le_mul_right _ (by omega)) hchannels
        _ < 0x8000000000000000 := hfits
    have hsigned : (Integer.signed (k : Int)).mapError ImageError.scale = pure (k : Int) := by
      rw [Integer.signed, if_pos (Integer.fitsSigned_natCast (by omega))]
      rfl
    have hrows : (Display.height * (k : Int)).bmod 0x10000000000000000 = (32 * k : Nat) := by
      simp only [Display.height]
      rw [Int.bmod_eq_of_le_mul_two] <;> omega
    have hcolumns : (Display.width * (k : Int)).bmod 0x10000000000000000 = (64 * k : Nat) := by
      simp only [Display.width]
      rw [Int.bmod_eq_of_le_mul_two] <;> omega
    rw [hsigned, pure_bind, hrows, hcolumns]
    dsimp only
    rw [Shape.ofExtents_image (by omega) (by decide) hchannels (Nat.lt_of_le_of_lt hdown hfits),
      Shape.ofExtents_image (by omega) (by omega) hchannels hfits]
    rfl

end Image

/-! ## Pictures of arrays -/

/-- The channels of a pixel as numbers. -/
def Pixel.toInts (p : Pixel) : List Int :=
  p.map fun b => (b.toNat : Int)

theorem Pixel.ofInts_toInts (p : Pixel) : ofInts p.toInts = .ok p := by
  induction p with
  | nil => rfl
  | cons b rest ih =>
    have hbyte : (0 : Int) ≤ b.toNat ∧ (b.toNat : Int) < 256 := by
      have := b.isLt
      omega
    rw [toInts] at ih
    rw [toInts, List.map_cons, ofInts, if_pos hbyte, ih, BitVec.ofInt_natCast, BitVec.ofNat_toNat,
      BitVec.setWidth_eq]
    rfl

namespace Image

/-- A colour stays as it is where it has as many channels as are asked for. -/
theorem spread_length (p : Pixel) : spread p.length p = p := by
  match p with
  | [] => rfl
  | [_] => rfl
  | _ :: _ :: _ => rfl

/-- In the colours of a scheme, the picture of the array of a display is refused for its scale
alone. -/
theorem ofArrayIn_toArray (scheme : ColorScheme) (d : Display) (scale : Int) :
    ofArrayIn scheme d.toArray scale =
      (factor scheme.on.length scale).map (d.picture scheme.on scheme.off) := by
  rw [ofArrayIn, Display.ofArray_toArray]
  cases factor scheme.on.length scale <;> rfl

/-- The picture of the array of a display in two colours with as many channels. -/
theorem ofArray_toArray (d : Display) (scale : Int) {on off : Pixel}
    (hlength : off.length = on.length) :
    ofArray d.toArray scale on.toInts off.toInts =
      (factor on.length scale).map (d.picture on off) := by
  have hoff : spread on.length off = off := by rw [← hlength, spread_length]
  have hshared : sharedChannels on off = .ok on.length := by
    rw [sharedChannels, if_pos hlength.symm]
  rw [ofArray, Display.ofArray_toArray, Pixel.ofInts_toInts, Pixel.ofInts_toInts]
  change (do
    let channels ← sharedChannels on off
    let factor ← factor channels scale
    pure ((ofDisplay d (spread channels on) (spread channels off)).enlarge factor)) = _
  rw [hshared]
  change (do
    let factor ← factor on.length scale
    pure ((ofDisplay d (spread on.length on) (spread on.length off)).enlarge factor)) = _
  rw [spread_length, hoff]
  cases factor on.length scale <;> rfl

end Image

theorem ColorScheme.length_off (scheme : ColorScheme) : scheme.off.length = scheme.on.length := by
  cases scheme <;> rfl

theorem ColorScheme.length_on (scheme : ColorScheme) : scheme.on.length = 3 := by
  cases scheme <;> rfl

theorem ColorScheme.off_ne_on (scheme : ColorScheme) : scheme.off ≠ scheme.on := by
  cases scheme <;> decide

/-- The colours of a scheme go in like any others. -/
theorem Image.ofArrayIn_eq_ofArray (scheme : ColorScheme) (d : Display) (scale : Int) :
    ofArrayIn scheme d.toArray scale =
      ofArray d.toArray scale scheme.on.toInts scheme.off.toInts := by
  rw [ofArrayIn_toArray, ofArray_toArray d scale scheme.length_off]

end Chip8
