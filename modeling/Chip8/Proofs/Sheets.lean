import Chip8.Proofs.Pictures
import Chip8.Proofs.Tiling

/-!
# Sheets of displays

What is seen on the sheet of several displays. `Sheet.placeAll` puts one picture after another into
its place; inside the sheet, that is the same as laying them over it as tiles (`Sheet.placeAll_eq`).
So a pixel is that of the last picture whose rectangle it lies in (`Sheet.pixel_of_isGreatest`), and
black if there is none.

The only reason not to make a sheet, when there are displays and neighbours overlap by no more than
the height of a tile, is that an array would get too large (`Sheet.Fits`).

* `Sheet.Places`: what is seen on a sheet, for any number of displays, scale and padding.
* `Sheet.render_places`: the sheet that is made shows that.
-/

namespace Chip8

namespace Sheet

variable {scheme : ColorScheme} {cols rows k i : Nat} {padding : Int}

/-! ## Putting the pictures into their places -/

/-- A stretch that lies within an axis is what its ends say. -/
theorem span_eq {length : Nat} {first size : Int} (hfirst : 0 ≤ first) (hsize : 0 ≤ size)
    (hlast : first + size ≤ length) :
    span length first (first + size) = ⟨first.toNat, size.toNat⟩ := by
  have hposition : ∀ p : Int, 0 ≤ p → p ≤ length → position length p = p.toNat := by
    intro p hp hle
    rw [position, if_neg (Int.not_lt.mpr hp), Int.min_eq_left hle]
  rw [span, hposition first hfirst (by omega), hposition _ (by omega) hlast]
  congr 1
  omega

/-- A picture goes into a rectangle inside the sheet that has its size. -/
theorem place_inside {sheet picture : Image} {q : Rectangle} (hinside : q.Inside sheet)
    (hheight : q.height = picture.height) (hwidth : q.width = picture.width) :
    place sheet q.top (q.top + q.height) q.left (q.left + q.width) picture =
      .ok (sheet.paste q.top.toNat q.left.toNat picture) := by
  have hvertical := span_eq hinside.top_nonneg (by omega) hinside.bottom_le
  have hhorizontal := span_eq hinside.left_nonneg (by omega) hinside.right_le
  have hsize : q.height.toNat = picture.height ∧ q.width.toNat = picture.width := by
    omega
  rw [place, hvertical, hhorizontal]
  exact if_pos hsize

/-- The picture of a display, lying on its rectangle. -/
def tile (scheme : ColorScheme) (cols k : Nat) (padding : Int) (d : Display) (i : Nat) : Tile where
  top := (rectangle cols k padding i).top.toNat
  left := (rectangle cols k padding i).left.toNat
  picture := d.picture scheme.on scheme.off k

/-- To place a display inside the sheet is to lay its tile over it. -/
theorem placeDisplay_eq {sheet : Image} {d : Display}
    (hfactor : Image.factor scheme.on.length k = .ok k)
    (hinside : (rectangle cols k padding i).Inside sheet) :
    placeDisplay scheme k padding cols sheet i d.toArray =
      .ok (sheet.pasteTile (tile scheme cols k padding d i)) := by
  have hheight : (rectangle cols k padding i).height =
      (d.picture scheme.on scheme.off k).height := by
    simp only [rectangle, Display.height_picture]
    omega
  have hwidth : (rectangle cols k padding i).width =
      (d.picture scheme.on scheme.off k).width := by
    simp only [rectangle, Display.width_picture]
    omega
  have hplaced := place_inside hinside hheight hwidth
  have htall : (Display.height : Int) = 32 := rfl
  have hwide : (Display.width : Int) = 64 := rfl
  rw [placeDisplay, Image.ofArrayIn_eq_ofArray, Image.ofArray_toArray d k scheme.length_off,
    hfactor, htall, hwide]
  exact hplaced

/-- The tiles of displays, the first one on rectangle `i`. -/
def tiles (scheme : ColorScheme) (cols k : Nat) (padding : Int) (displays : List Display)
    (i : Nat) : List Tile :=
  (displays.zipIdx i).map fun (d, j) => tile scheme cols k padding d j

/-- To place displays inside the sheet is to lay their tiles over it, one after another. -/
theorem placeAll_eq {sheet : Image} {displays : List Display}
    (hfactor : Image.factor scheme.on.length k = .ok k)
    (hinside : ∀ j < i + displays.length, (rectangle cols k padding j).Inside sheet) :
    placeAll scheme k padding cols sheet i (displays.map Display.toArray) =
      .ok (sheet.pasteAll (tiles scheme cols k padding displays i)) := by
  induction displays generalizing sheet i with
  | nil => rfl
  | cons d rest ih =>
    rw [List.map_cons, placeAll, placeDisplay_eq hfactor (hinside i (by simp))]
    refine ih fun j hj => ?_
    have hj : j < i + (d :: rest).length := by
      rw [List.length_cons]
      omega
    -- a pasted picture does not change the size of the sheet
    exact ⟨(hinside j hj).top_nonneg, (hinside j hj).bottom_le, (hinside j hj).left_nonneg,
      (hinside j hj).right_le⟩

section Pixels

variable {sheet : Image} {displays : List Display} {r c : Nat}

/-- Inside the sheet a tile covers the pixels of its rectangle. -/
theorem covers_tile_iff {d : Display} (hinside : (rectangle cols k padding i).Inside sheet) :
    (tile scheme cols k padding d i).Covers r c ↔ (rectangle cols k padding i).Contains r c := by
  have htop := hinside.top_nonneg
  have hleft := hinside.left_nonneg
  simp only [Tile.Covers, tile, Rectangle.Contains, Display.height_picture, Display.width_picture]
  simp only [rectangle] at htop hleft ⊢
  omega

theorem getElem_tiles (hi : i < (tiles scheme cols k padding displays 0).length)
    (hi' : i < displays.length) :
    (tiles scheme cols k padding displays 0)[i] = tile scheme cols k padding displays[i] i := by
  simp [tiles]

theorem length_tiles : (tiles scheme cols k padding displays i).length = displays.length := by
  simp [tiles]

variable (hinside : ∀ j < displays.length, (rectangle cols k padding j).Inside sheet)

include hinside

/-- A pixel of the sheet belongs to the last picture whose rectangle it lies in. -/
theorem pixel_of_isGreatest (hr : r < sheet.height) (hc : c < sheet.width)
    (hi : i < displays.length)
    (hlast : IsGreatest {j | j < displays.length ∧ (rectangle cols k padding j).Contains r c} i) :
    (sheet.pasteAll (tiles scheme cols k padding displays 0)).pixel r c =
      (displays[i].picture scheme.on scheme.off k).pixel
        (r - (rectangle cols k padding i).top.toNat)
        (c - (rectangle cols k padding i).left.toNat) := by
  have hi' : i < (tiles scheme cols k padding displays 0).length := by rwa [length_tiles]
  have hcovers : (tiles scheme cols k padding displays 0)[i].Covers r c := by
    rw [getElem_tiles hi' hi]
    exact (covers_tile_iff (hinside i hi)).mpr hlast.1.2
  -- a later tile over the pixel would have a rectangle that contains it
  have hafter : ∀ j (hj : j < (tiles scheme cols k padding displays 0).length), i < j →
      ¬ (tiles scheme cols k padding displays 0)[j].Covers r c := by
    intro j hj hij hcovers
    have hj' : j < displays.length := by rwa [length_tiles] at hj
    rw [getElem_tiles hj hj'] at hcovers
    exact Nat.not_lt.mpr (hlast.2 ⟨hj', (covers_tile_iff (hinside j hj')).mp hcovers⟩) hij
  rw [Image.pixel_pasteAll_of_last hr hc hi' hcovers hafter, getElem_tiles hi' hi]
  rfl

/-- A pixel of the sheet that lies in no rectangle stays as it is. -/
theorem pixel_of_uncovered (hr : r < sheet.height) (hc : c < sheet.width)
    (hnone : ∀ j < displays.length, ¬ (rectangle cols k padding j).Contains r c) :
    (sheet.pasteAll (tiles scheme cols k padding displays 0)).pixel r c = sheet.pixel r c := by
  refine Image.pixel_pasteAll_of_uncovered hr hc fun t ht hcovers => ?_
  obtain ⟨j, hj, rfl⟩ := List.getElem_of_mem ht
  have hj' : j < displays.length := by rwa [length_tiles] at hj
  rw [getElem_tiles hj hj'] at hcovers
  exact hnone j hj' ((covers_tile_iff (hinside j hj')).mp hcovers)

end Pixels

/-! ## Sheets of displays -/

variable {displays : List Display}

/-- Displays can be laid one after the other if their array fits. -/
theorem checkShapes_eq (hne : displays ≠ []) :
    checkShapes (displays.map Display.toArray) =
      if displays.length * (64 * 32) < 0x8000000000000000 then .ok ()
      else .error (.extents .tooLarge) := by
  match displays, hne with
  | d :: rest, _ =>
    have hsame : ((rest.map Display.toArray).any fun b => b.shape != d.toArray.shape) = false := by
      simp [Display.toArray]
    have hpos : ∀ n ∈ [rest.length + 1, 64, 32], 0 < n := by
      simp
    have hmeasure := Shape.measure_ofNat hpos (by decide : 1 < 0x8000000000000000)
    simp only [List.prod_cons, List.prod_nil, Nat.one_mul, Nat.mul_one] at hmeasure
    rw [List.map_cons, checkShapes, hsame, List.length_map, List.length_cons]
    -- neither the shapes nor their number of extents are refused
    change (Shape.measure 1 ([rest.length + 1, 64, 32].map Int.ofNat)).mapError _ = _
    rw [hmeasure]
    split <;> rfl

/-- The sheet for a grid, with no picture on it. -/
def background (cols rows : Nat) (scale padding : Int) : Image :=
  Image.filled (extent rows (32 * scale) padding).toNat (extent cols (64 * scale) padding).toNat
    [0, 0, 0]

/-- A sheet is made in three steps: the displays are weighed, then the sheet, and then the pictures
are put into their places. -/
theorem render_eq_steps {scale : Int} (hne : displays ≠ [])
    (hgrid : IsGrid displays.length cols rows) :
    render (displays.map Display.toArray) scale scheme.name padding = (do
      checkShapes (displays.map Display.toArray)
      let _ ← (Shape.ofExtents [extent rows (32 * scale) padding, extent cols (64 * scale) padding,
        (3 : Nat)]).mapError ImageError.extents
      placeAll scheme scale padding cols (background cols rows scale padding) 0
        (displays.map Display.toArray)) := by
  have hcount : 0 < displays.length := List.length_pos_iff.mpr hne
  obtain ⟨rfl, rfl⟩ := hgrid.eq hcount
  have hname : (ColorScheme.ofName scheme.name).mapError ImageError.scheme = pure scheme := by
    rw [ColorScheme.ofName_name]
    rfl
  rw [render, hname, pure_bind, List.length_map]
  dsimp only
  rw [if_neg (Nat.ne_of_gt hcount)]
  rfl

/-- The arrays that it takes to make a sheet fit: that of all displays, and that of the sheet. -/
structure Fits (count cols rows : Nat) (scale padding : Int) : Prop where
  /-- The displays fit into an array, one after the other. -/
  displays_fit : count * (64 * 32) < 0x8000000000000000
  /-- The sheet fits into an array. -/
  sheet_fits : extent rows (32 * scale) padding * extent cols (64 * scale) padding * 3 <
    0x8000000000000000

/-- A sheet has at least the extent of one tile. -/
theorem tile_le_extent {tiles : Nat} {tile : Int} (htiles : 0 < tiles)
    (hstep : 0 ≤ tile + padding) : tile ≤ extent tiles tile padding := by
  have hend := end_le_extent htiles hstep
  simpa using hend

section Render

variable (hne : displays ≠ []) (hgrid : IsGrid displays.length cols rows)
  (hpadding : -(32 * (k : Int)) ≤ padding)

include hne hgrid hpadding

/-- The sheet is as high as its rows with the padding between them, and high enough for one tile. -/
theorem height_background :
    ((background cols rows k padding).height : Int) = extent rows (32 * k) padding ∧
      32 * k ≤ (background cols rows k padding).height := by
  have hrows : 0 < rows := by
    simpa using hgrid.row_lt (List.length_pos_iff.mpr hne)
  have htile : 32 * (k : Int) ≤ extent rows (32 * k) padding := tile_le_extent hrows (by omega)
  rw [background, Image.filled]
  dsimp only
  omega

/-- The sheet is as wide as its columns with the padding between them, and wide enough for one tile.
-/
theorem width_background :
    ((background cols rows k padding).width : Int) = extent cols (64 * k) padding ∧
      64 * k ≤ (background cols rows k padding).width := by
  have hcols : 0 < cols := hgrid.cols_pos (List.length_pos_iff.mpr hne)
  have htile : 64 * (k : Int) ≤ extent cols (64 * k) padding := tile_le_extent hcols (by omega)
  rw [background, Image.filled]
  dsimp only
  omega

/-- The limit on a sheet is one on the array of its background. -/
theorem background_fits_iff :
    extent rows (32 * k) padding * extent cols (64 * k) padding * 3 < 0x8000000000000000 ↔
      (background cols rows k padding).height * (background cols rows k padding).width * 3 <
        0x8000000000000000 := by
  rw [← (height_background hne hgrid hpadding).1, ← (width_background hne hgrid hpadding).1,
    ← Int.natCast_mul]
  omega

/-- If the sheet is not too large, then none of its tiles is. -/
theorem factor_of_fits (hk : 0 < k) (hfits : Fits displays.length cols rows k padding) :
    Image.factor scheme.on.length k = .ok k := by
  have htall := (height_background hne hgrid hpadding).2
  have hwide := (width_background hne hgrid hpadding).2
  rw [scheme.length_on]
  -- a picture is no larger than the sheet
  refine Image.factor_natCast (by decide) hk (Nat.lt_of_le_of_lt ?_
    ((background_fits_iff hne hgrid hpadding).mp hfits.sheet_fits))
  exact Nat.mul_le_mul_right 3 (Nat.mul_le_mul htall hwide)

/-- Every rectangle lies inside the sheet. -/
theorem inside_background :
    ∀ j < displays.length,
      (rectangle cols k padding j).Inside (background cols rows k padding) := fun _ hj =>
  rectangle_inside hgrid hj (Int.natCast_nonneg k) hpadding
    (height_background hne hgrid hpadding).1 (width_background hne hgrid hpadding).1

/-- Displays whose arrays fit have a sheet: it is black, with their pictures put over it. -/
theorem render_eq_pasteAll (hk : 0 < k) (hfits : Fits displays.length cols rows k padding) :
    render (displays.map Display.toArray) k scheme.name padding =
      .ok ((background cols rows k padding).pasteAll
        (tiles scheme cols k padding displays 0)) := by
  obtain ⟨hheight, htall⟩ := height_background hne hgrid hpadding
  obtain ⟨hwidth, hwide⟩ := width_background hne hgrid hpadding
  have hsize := (background_fits_iff hne hgrid hpadding).mp hfits.sheet_fits
  have hinside : ∀ j < 0 + displays.length,
      (rectangle cols k padding j).Inside (background cols rows k padding) := by
    rw [Nat.zero_add]
    exact inside_background hne hgrid hpadding
  rw [render_eq_steps hne hgrid, checkShapes_eq hne, if_pos hfits.displays_fit, ← hheight,
    ← hwidth, Shape.ofExtents_image (by omega) (by omega) (by decide) hsize,
    placeAll_eq (factor_of_fits hne hgrid hpadding hk hfits) hinside]
  rfl

/-- Displays whose arrays do not fit have no sheet. -/
theorem render_eq_error (hk : 0 < k) (hlarge : ¬ Fits displays.length cols rows k padding) :
    ∃ reason, render (displays.map Display.toArray) k scheme.name padding =
      .error (.extents reason) := by
  obtain ⟨hheight, htall⟩ := height_background hne hgrid hpadding
  obtain ⟨hwidth, hwide⟩ := width_background hne hgrid hpadding
  rw [render_eq_steps hne hgrid, checkShapes_eq hne]
  -- either the displays are too many for one array, or the sheet is too large for one
  by_cases hdisplays : displays.length * (64 * 32) < 0x8000000000000000
  · have hsheet : 0x8000000000000000 ≤ [(background cols rows k padding).height,
        (background cols rows k padding).width, 3].prod := by
      rw [← Nat.not_lt]
      intro hsmall
      refine hlarge ⟨hdisplays, (background_fits_iff hne hgrid hpadding).mpr ?_⟩
      simpa only [List.prod_cons, List.prod_nil, Nat.mul_one, ← Nat.mul_assoc] using hsmall
    obtain ⟨reason, hreason⟩ := Shape.ofExtents_error (by simp; omega) hsheet
    simp only [List.map_cons, List.map_nil, Int.ofNat_eq_natCast] at hreason
    rw [if_pos hdisplays, ← hheight, ← hwidth, hreason]
    exact ⟨reason, rfl⟩
  · rw [if_neg hdisplays]
    exact ⟨.tooLarge, rfl⟩

end Render

/-- What is seen on the sheet of some displays: in the grid, each picture lies in its rectangle, and
there is nothing else. -/
structure Places (displays : List Display) (scale padding : Int) (scheme : ColorScheme)
    (cols rows : Nat) (img : Image) : Prop where
  /-- The sheet is as high as its rows and what lies between them. -/
  height_eq : (img.height : Int) = rows * (32 * scale) + (rows - 1) * padding
  /-- The sheet is as wide as its columns and what lies between them. -/
  width_eq : (img.width : Int) = cols * (64 * scale) + (cols - 1) * padding
  /-- The pixels are red, green and blue. -/
  channels_eq : img.channels = 3
  /-- The rectangle of every picture lies inside the sheet. -/
  inside : ∀ i < displays.length, (rectangle cols scale padding i).Inside img
  /-- A pixel is that of the last picture whose rectangle it lies in. -/
  covered : ∀ r < img.height, ∀ c < img.width, ∀ i (hi : i < displays.length),
    IsGreatest {j | j < displays.length ∧ (rectangle cols scale padding j).Contains r c} i →
      ∃ picture, Image.ofArray displays[i].toArray scale scheme.on.toInts scheme.off.toInts =
          .ok picture ∧
        img.pixel r c = picture.pixel (r - (rectangle cols scale padding i).top).toNat
          (c - (rectangle cols scale padding i).left).toNat
  /-- A pixel that lies in no rectangle is black. -/
  uncovered : ∀ r < img.height, ∀ c < img.width,
    (∀ j < displays.length, ¬ (rectangle cols scale padding j).Contains r c) →
      img.pixel r c = [0, 0, 0]
  /-- Without a negative padding, no pixel lies in two rectangles. -/
  disjoint : 0 ≤ padding → ∀ i < displays.length, ∀ j < displays.length, ∀ r c,
    (rectangle cols scale padding i).Contains r c →
      (rectangle cols scale padding j).Contains r c → i = j
  /-- Without a negative padding, each rectangle holds the picture of its display, and the display
  can be read off it. -/
  readBack : 0 ≤ padding → ∀ i (hi : i < displays.length),
    ∃ picture, Image.ofArray displays[i].toArray scale scheme.on.toInts scheme.off.toInts =
        .ok picture ∧
      img.crop (rectangle cols scale padding i) = picture ∧
      picture.readDisplay scale.toNat scheme.on = displays[i]

section Render

variable (hne : displays ≠ []) (hgrid : IsGrid displays.length cols rows)
  (hpadding : -(32 * (k : Int)) ≤ padding)

include hne hgrid hpadding

/-- If the sheet is not too large, there is a picture of each display. -/
theorem ofArray_of_fits (hk : 0 < k) (hfits : Fits displays.length cols rows k padding)
    (d : Display) : Image.ofArray d.toArray k scheme.on.toInts scheme.off.toInts =
      .ok (d.picture scheme.on scheme.off k) := by
  rw [Image.ofArray_toArray d k scheme.length_off, factor_of_fits hne hgrid hpadding hk hfits]
  rfl

/-- Without a negative padding, each rectangle holds the picture of its display. -/
theorem crop_pasteAll (hnonneg : 0 ≤ padding) (hi : i < displays.length) :
    ((background cols rows k padding).pasteAll (tiles scheme cols k padding displays 0)).crop
      (rectangle cols k padding i) = displays[i].picture scheme.on scheme.off k := by
  have hinside := inside_background hne hgrid hpadding
  have hheight : (rectangle cols k padding i).height.toNat = 32 * k := by
    simp only [rectangle]
    omega
  have hwidth : (rectangle cols k padding i).width.toNat = 64 * k := by
    simp only [rectangle]
    omega
  refine Image.ext_pixel hheight hwidth ?_ fun r hr c hc => ?_
  · rw [Image.crop, Image.ofFn, Image.channels_pasteAll, Display.channels_picture,
      scheme.length_on]
    rfl
  · have hr : r < (rectangle cols k padding i).height.toNat := hr
    have hc : c < (rectangle cols k padding i).width.toNat := hc
    have hcontains := (hinside i hi).contains_add hr hc
    obtain ⟨htop, hbottom, hleft, hright⟩ := hinside i hi
    -- no other picture lies there, so the last one there is this one
    have hlast := isGreatest_of_contains (Int.natCast_nonneg k) hnonneg hi hcontains
    rw [Image.crop, Image.pixel_ofFn _ _ _ _ hr hc,
      pixel_of_isGreatest hinside (by omega) (by omega) hi hlast, Nat.add_sub_cancel_left,
      Nat.add_sub_cancel_left]

/-- The tiles of the displays, laid over the background, are what is seen on a sheet. -/
theorem places_pasteAll (hk : 0 < k) (hfits : Fits displays.length cols rows k padding) :
    Places displays k padding scheme cols rows
      ((background cols rows k padding).pasteAll (tiles scheme cols k padding displays 0)) where
  height_eq := by
    rw [Image.height_pasteAll, (height_background hne hgrid hpadding).1, extent]
  width_eq := by
    rw [Image.width_pasteAll, (width_background hne hgrid hpadding).1, extent]
  channels_eq := by
    rw [Image.channels_pasteAll]
    rfl
  inside i hi := by
    obtain ⟨htop, hbottom, hleft, hright⟩ := inside_background hne hgrid hpadding i hi
    exact ⟨htop, by rwa [Image.height_pasteAll], hleft, by rwa [Image.width_pasteAll]⟩
  covered r hr c hc i hi hlast := by
    rw [Image.height_pasteAll] at hr
    rw [Image.width_pasteAll] at hc
    have hinside := inside_background hne hgrid hpadding
    obtain ⟨htop, -, hleft, -⟩ := hinside i hi
    refine ⟨_, ofArray_of_fits hne hgrid hpadding hk hfits _, ?_⟩
    -- the corner has no negative coordinates, so it may be taken off before or after conversion
    rw [pixel_of_isGreatest hinside hr hc hi hlast]
    congr 1 <;> omega
  uncovered r hr c hc hnone := by
    rw [Image.height_pasteAll] at hr
    rw [Image.width_pasteAll] at hc
    rw [pixel_of_uncovered (inside_background hne hgrid hpadding) hr hc hnone]
    exact Image.pixel_filled _ hr hc
  disjoint hnonneg i _ j _ r c := eq_of_contains (Int.natCast_nonneg k) hnonneg
  readBack hnonneg i hi :=
    ⟨_, ofArray_of_fits hne hgrid hpadding hk hfits _, crop_pasteAll hne hgrid hpadding hnonneg hi,
      Display.readDisplay_picture _ scheme.off_ne_on hk⟩

end Render

/-- If the displays and the sheet fit into arrays, then there is a sheet, and it shows every display
in its place and nothing else. Otherwise it is refused for its size. -/
theorem render_places {displays : List Display} (hne : displays ≠ []) {scale padding : Int}
    (hscale : 1 ≤ scale) (hpadding : -(32 * scale) ≤ padding) (scheme : ColorScheme)
    {cols rows : Nat} (hgrid : IsGrid displays.length cols rows) :
    (Fits displays.length cols rows scale padding →
        ∃ img, render (displays.map Display.toArray) scale scheme.name padding = .ok img ∧
          Places displays scale padding scheme cols rows img) ∧
      (¬ Fits displays.length cols rows scale padding →
        ∃ reason, render (displays.map Display.toArray) scale scheme.name padding =
          .error (.extents reason)) := by
  obtain ⟨k, rfl⟩ := Int.eq_ofNat_of_zero_le (Int.le_trans Int.one_nonneg hscale)
  have hk : 0 < k := by omega
  exact ⟨fun hfits => ⟨_, render_eq_pasteAll hne hgrid hpadding hk hfits,
    places_pasteAll hne hgrid hpadding hk hfits⟩, render_eq_error hne hgrid hpadding hk⟩

/-- Three displays on a sheet with two columns and two rows, where neighbours overlap. -/
theorem render_places_overlapping :
    ∃ img, render ([.blank, .ofFn fun x y => x.toNat < y.toNat, .blank].map Display.toArray) 2
        "vip" (-5) = .ok img ∧
      Places [.blank, .ofFn fun x y => x.toNat < y.toNat, .blank] 2 (-5) .vip 2 2 img :=
  (render_places (List.cons_ne_nil _ _) (by decide) (by decide) .vip (isGrid (by decide))).1
    ⟨by decide, by decide⟩

/-- Two displays that lie too far apart have no sheet. -/
theorem not_exists_render_of_wide_padding :
    [Display.blank, Display.blank] ≠ [] ∧ (1 : Int) ≤ 1 ∧ -(32 * 1) ≤ (0x2000000000000000 : Int) ∧
      IsGrid [Display.blank, Display.blank].length 2 1 ∧
      ¬ ∃ img, render ([.blank, .blank].map Display.toArray) 1 "classic" 0x2000000000000000 =
          .ok img ∧
        Places [.blank, .blank] 1 0x2000000000000000 .classic 2 1 img := by
  have hne : [Display.blank, Display.blank] ≠ [] := List.cons_ne_nil _ _
  have hgrid : IsGrid [Display.blank, Display.blank].length 2 1 := isGrid (by decide)
  refine ⟨hne, by decide, by decide, hgrid, ?_⟩
  rintro ⟨img, hok, -⟩
  have hlarge : ¬ Fits [Display.blank, Display.blank].length 2 1 (1 : Nat) 0x2000000000000000 :=
    fun hfits => absurd hfits.sheet_fits (by decide)
  have herror : ∃ reason, render ([.blank, .blank].map Display.toArray) (1 : Nat)
      ColorScheme.classic.name 0x2000000000000000 = .error (.extents reason) :=
    render_eq_error hne hgrid (by decide) (by decide) hlarge
  obtain ⟨reason, herror⟩ := herror
  cases hok.symm.trans herror

end Sheet

end Chip8
