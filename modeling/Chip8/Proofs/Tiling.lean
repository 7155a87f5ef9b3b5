import Chip8.Image.Sheet
import Mathlib.Order.Bounds.Basic

/-!
# Tiles

Pictures that are laid over an image as tiles, one after another, and the places that they have on a
sheet.

An image shows a tile where no later one lies over it (`Image.pixel_pasteAll_of_last`). On a sheet,
the tiles lie in the cells of a grid (`Sheet.IsGrid`), and the rectangle of a tile is the product of
two stretches, one on each axis. So both that it lies inside the sheet (`Sheet.rectangle_inside`)
and that it lies apart from all others (`Sheet.eq_of_contains`) are shown for one axis first.
-/

namespace Chip8

/-! ## Tiles on an image -/

/-- A picture and the place of its corner on an image. -/
structure Tile where
  /-- The row of the corner. -/
  top : Nat
  /-- The column of the corner. -/
  left : Nat
  /-- The picture. -/
  picture : Image

namespace Tile

/-- A tile lies over the pixel in row `r` and column `c`. -/
def Covers (t : Tile) (r c : Nat) : Prop :=
  (t.top ≤ r ∧ r < t.top + t.picture.height) ∧ t.left ≤ c ∧ c < t.left + t.picture.width

/-- What a tile shows in row `r` and column `c` of the image that it lies on. -/
def pixel (t : Tile) (r c : Nat) : Pixel :=
  t.picture.pixel (r - t.top) (c - t.left)

end Tile

namespace Image

/-- Puts a tile over an image. -/
def pasteTile (img : Image) (t : Tile) : Image :=
  img.paste t.top t.left t.picture

/-- Puts tiles over an image, one after another. -/
def pasteAll (img : Image) (tiles : List Tile) : Image :=
  tiles.foldl pasteTile img

variable {img : Image} {tiles : List Tile} {t : Tile} {r c : Nat}

/-- What a tile lies over shows the tile. -/
theorem pixel_pasteTile_of_covers (hr : r < img.height) (hc : c < img.width)
    (ht : t.Covers r c) : (img.pasteTile t).pixel r c = t.pixel r c :=
  (pixel_paste _ _ _ _ hr hc).trans (if_pos ht)

/-- What a tile does not lie over stays as it is. -/
theorem pixel_pasteTile_of_not_covers (hr : r < img.height) (hc : c < img.width)
    (ht : ¬ t.Covers r c) : (img.pasteTile t).pixel r c = img.pixel r c :=
  (pixel_paste _ _ _ _ hr hc).trans (if_neg ht)

theorem pasteAll_append (before after : List Tile) :
    img.pasteAll (before ++ after) = (img.pasteAll before).pasteAll after :=
  List.foldl_append

@[simp]
theorem height_pasteAll : (img.pasteAll tiles).height = img.height := by
  induction tiles generalizing img with
  | nil => rfl
  | cons t tiles ih => exact ih

@[simp]
theorem width_pasteAll : (img.pasteAll tiles).width = img.width := by
  induction tiles generalizing img with
  | nil => rfl
  | cons t tiles ih => exact ih

@[simp]
theorem channels_pasteAll : (img.pasteAll tiles).channels = img.channels := by
  induction tiles generalizing img with
  | nil => rfl
  | cons t tiles ih => exact ih

/-- What no tile lies over stays as it is. -/
theorem pixel_pasteAll_of_uncovered (hr : r < img.height) (hc : c < img.width)
    (h : ∀ t ∈ tiles, ¬ t.Covers r c) : (img.pasteAll tiles).pixel r c = img.pixel r c := by
  induction tiles generalizing img with
  | nil => rfl
  | cons t tiles ih =>
    have ht : ¬ t.Covers r c := h t List.mem_cons_self
    have htiles : ∀ u ∈ tiles, ¬ u.Covers r c := fun u hu => h u (List.mem_cons_of_mem t hu)
    calc (img.pasteAll (t :: tiles)).pixel r c
        = (img.pasteTile t).pixel r c := ih hr hc htiles
      _ = img.pixel r c := pixel_pasteTile_of_not_covers hr hc ht

/-- What a tile lies over shows that tile, unless a later one lies over it too. -/
theorem pixel_pasteAll_of_topmost {before after : List Tile} (hr : r < img.height)
    (hc : c < img.width) (ht : t.Covers r c) (hafter : ∀ u ∈ after, ¬ u.Covers r c) :
    (img.pasteAll (before ++ t :: after)).pixel r c = t.pixel r c := by
  have hr' : r < (img.pasteAll before).height := by rwa [height_pasteAll]
  have hc' : c < (img.pasteAll before).width := by rwa [width_pasteAll]
  rw [pasteAll_append]
  calc (((img.pasteAll before).pasteTile t).pasteAll after).pixel r c
      = ((img.pasteAll before).pasteTile t).pixel r c :=
        pixel_pasteAll_of_uncovered hr' hc' hafter
    _ = t.pixel r c := pixel_pasteTile_of_covers hr' hc' ht

/-- What a tile lies over shows that tile if it is the last one there. -/
theorem pixel_pasteAll_of_last (hr : r < img.height) (hc : c < img.width) {i : Nat}
    (hi : i < tiles.length) (hcovers : tiles[i].Covers r c)
    (hlast : ∀ j (hj : j < tiles.length), i < j → ¬ tiles[j].Covers r c) :
    (img.pasteAll tiles).pixel r c = tiles[i].pixel r c := by
  have hsplit : tiles = tiles.take i ++ tiles[i] :: tiles.drop (i + 1) := by
    rw [← List.drop_eq_getElem_cons hi, List.take_append_drop]
  have hafter : ∀ u ∈ tiles.drop (i + 1), ¬ u.Covers r c := by
    intro u hu
    obtain ⟨j, hj, rfl⟩ := List.mem_drop_iff_getElem.mp hu
    exact hlast (i + 1 + j) (by omega) (by omega)
  calc (img.pasteAll tiles).pixel r c
      = (img.pasteAll (tiles.take i ++ tiles[i] :: tiles.drop (i + 1))).pixel r c := by
        rw [← hsplit]
    _ = tiles[i].pixel r c := pixel_pasteAll_of_topmost hr hc hcovers hafter

end Image

/-! ## Rectangles -/

/-- A rectangle of pixels. -/
structure Rectangle where
  /-- The first row. -/
  top : Int
  /-- The first column. -/
  left : Int
  /-- The number of rows. -/
  height : Int
  /-- The number of columns. -/
  width : Int

namespace Rectangle

/-- The pixel in row `r` and column `c` lies in a rectangle. -/
def Contains (q : Rectangle) (r c : Nat) : Prop :=
  (q.top ≤ r ∧ r < q.top + q.height) ∧ q.left ≤ c ∧ c < q.left + q.width

/-- A rectangle lies inside an image. -/
structure Inside (q : Rectangle) (img : Image) : Prop where
  /-- It does not begin above the image. -/
  top_nonneg : 0 ≤ q.top
  /-- It does not end below the image. -/
  bottom_le : q.top + q.height ≤ img.height
  /-- It does not begin to the left of the image. -/
  left_nonneg : 0 ≤ q.left
  /-- It does not end to the right of the image. -/
  right_le : q.left + q.width ≤ img.width

/-- The pixels of a rectangle are counted from its corner. -/
theorem Inside.contains_add {q : Rectangle} {img : Image} (h : q.Inside img) {r c : Nat}
    (hr : r < q.height.toNat) (hc : c < q.width.toNat) :
    q.Contains (q.top.toNat + r) (q.left.toNat + c) := by
  have htop := h.top_nonneg
  have hleft := h.left_nonneg
  rw [Contains]
  omega

end Rectangle

/-- The part of an image that lies in a rectangle. -/
def Image.crop (img : Image) (q : Rectangle) : Image :=
  ofFn q.height.toNat q.width.toNat img.channels fun r c =>
    img.pixel (q.top.toNat + r) (q.left.toNat + c)

namespace Sheet

/-! ## The grid -/

/-- The grid for a number of pictures: it is as square as possible, and has no row too many. -/
structure IsGrid (count cols rows : Nat) : Prop where
  /-- There are no more columns than it takes for a square. -/
  cols_least : IsLeast {c | count ≤ c * c} cols
  /-- There are no more rows than it takes with these columns. -/
  rows_least : IsLeast {r | count ≤ r * cols} rows

/-- The columns are the least number whose square has room for all displays. -/
theorem columns_isLeast (count : Nat) : IsLeast {c | count ≤ c * c} (columns count) := by
  have hself : count ≤ count * count := Nat.le_mul_self count
  obtain ⟨c, hfind⟩ : ∃ c, (List.range (count + 1)).find? (fun c => count ≤ c * c) = some c := by
    rw [← Option.isSome_iff_exists, List.find?_isSome]
    exact ⟨count, List.mem_range.mpr (Nat.lt_succ_self count), by simpa using hself⟩
  have hcolumns : columns count = c := by rw [columns, hfind, Option.getD_some]
  obtain ⟨henough, -, hleast⟩ := List.find?_range_eq_some.mp hfind
  rw [hcolumns]
  refine ⟨by simpa using henough, fun b hb => Nat.le_of_not_lt fun hlt => ?_⟩
  have hfew : ¬ count ≤ b * b := by simpa using hleast b hlt
  exact hfew hb

theorem columns_pos {count : Nat} (hcount : 0 < count) : 0 < columns count := by
  have henough : count ≤ columns count * columns count := (columns_isLeast count).1
  exact Nat.pos_of_mul_pos_left (Nat.lt_of_lt_of_le hcount henough)

/-- The rows are the least number that has room for all displays in that many columns. -/
theorem rowsFor_isLeast {count : Nat} (hcount : 0 < count) :
    IsLeast {r | count ≤ r * columns count} (rowsFor count) := by
  have hpos := columns_pos hcount
  rw [rowsFor]
  generalize columns count = cols at hpos ⊢
  constructor
  · -- rounding up leaves no picture without a row
    have hdiv := Nat.div_add_mod (count + cols - 1) cols
    have hmod := Nat.mod_lt (count + cols - 1) hpos
    rw [Nat.mul_comm] at hdiv
    show count ≤ _
    omega
  · -- and every number of rows with that much room is as large as the quotient
    intro r hr
    have hr : count ≤ r * cols := hr
    refine Nat.le_of_lt_succ ((Nat.div_lt_iff_lt_mul hpos).mpr ?_)
    rw [Nat.succ_mul]
    omega

/-- Columns and rows together make a grid that has room for all displays. -/
theorem isGrid {count : Nat} (hcount : 0 < count) :
    IsGrid count (columns count) (rowsFor count) :=
  ⟨columns_isLeast count, rowsFor_isLeast hcount⟩

/-- A sheet has the grid that its pictures need. -/
theorem IsGrid.eq {count cols rows : Nat} (h : IsGrid count cols rows) (hcount : 0 < count) :
    columns count = cols ∧ rowsFor count = rows := by
  have hcols : columns count = cols := (columns_isLeast count).unique h.cols_least
  have hrows := rowsFor_isLeast hcount
  rw [hcols] at hrows
  exact ⟨hcols, hrows.unique h.rows_least⟩

/-! ## The places of the pictures -/

/-- The rectangle of picture `i` on a sheet with a number of columns. -/
def rectangle (cols : Nat) (scale padding : Int) (i : Nat) : Rectangle where
  top := (i / cols : Nat) * (32 * scale + padding)
  left := (i % cols : Nat) * (64 * scale + padding)
  height := 32 * scale
  width := 64 * scale

section Axis

variable {tiles q : Nat} {tile padding : Int}

theorem start_nonneg (hstep : 0 ≤ tile + padding) : 0 ≤ q * (tile + padding) :=
  Int.mul_nonneg (Int.natCast_nonneg q) hstep

/-- A tile ends where the sheet ends, or before that. -/
theorem end_le_extent (hq : q < tiles) (hstep : 0 ≤ tile + padding) :
    q * (tile + padding) + tile ≤ extent tiles tile padding := by
  have hafter : 0 ≤ ((tiles : Int) - 1 - q) * (tile + padding) :=
    Int.mul_nonneg (by omega) hstep
  have hsum : extent tiles tile padding =
      q * (tile + padding) + tile + ((tiles : Int) - 1 - q) * (tile + padding) := by
    rw [extent]
    grind
  omega

/-- A tile ends before a later one begins, or where it begins. -/
theorem end_le_start {p : Nat} (hqp : q < p) (htile : 0 ≤ tile) (hpadding : 0 ≤ padding) :
    q * (tile + padding) + tile ≤ p * (tile + padding) := by
  have hbetween : 0 ≤ ((p : Int) - 1 - q) * (tile + padding) :=
    Int.mul_nonneg (by omega) (Int.add_nonneg htile hpadding)
  have hsum : (p : Int) * (tile + padding) =
      q * (tile + padding) + tile + padding + ((p : Int) - 1 - q) * (tile + padding) := by
    grind
  omega

/-- A position lies on one tile only, unless neighbours overlap. -/
theorem eq_of_mem_tile {p : Nat} {x : Int} (htile : 0 ≤ tile) (hpadding : 0 ≤ padding)
    (hq : q * (tile + padding) ≤ x ∧ x < q * (tile + padding) + tile)
    (hp : p * (tile + padding) ≤ x ∧ x < p * (tile + padding) + tile) : q = p := by
  rcases Nat.lt_trichotomy q p with hlt | heq | hgt
  · have := end_le_start hlt htile hpadding
    omega
  · exact heq
  · have := end_le_start hgt htile hpadding
    omega

end Axis

variable {count cols rows i j : Nat} {scale padding : Int}

theorem IsGrid.cols_pos (h : IsGrid count cols rows) (hcount : 0 < count) : 0 < cols :=
  (h.eq hcount).1 ▸ columns_pos hcount

/-- Every display has a row in the grid. -/
theorem IsGrid.row_lt (h : IsGrid count cols rows) (hi : i < count) : i / cols < rows := by
  have henough : count ≤ rows * cols := h.rows_least.1
  exact Nat.div_lt_of_lt_mul (Nat.mul_comm rows cols ▸ Nat.lt_of_lt_of_le hi henough)

/-- The rectangle of every picture lies inside the sheet. -/
theorem rectangle_inside {img : Image} (hgrid : IsGrid count cols rows) (hi : i < count)
    (hscale : 0 ≤ scale) (hpadding : -(32 * scale) ≤ padding)
    (hheight : (img.height : Int) = extent rows (32 * scale) padding)
    (hwidth : (img.width : Int) = extent cols (64 * scale) padding) :
    (rectangle cols scale padding i).Inside img where
  top_nonneg := start_nonneg (by omega)
  bottom_le := hheight ▸ end_le_extent (hgrid.row_lt hi) (by omega)
  left_nonneg := start_nonneg (by omega)
  right_le :=
    hwidth ▸ end_le_extent (Nat.mod_lt i (hgrid.cols_pos (Nat.zero_lt_of_lt hi))) (by omega)

/-- No pixel lies in the rectangles of two pictures, unless neighbours overlap. -/
theorem eq_of_contains {r c : Nat} (hscale : 0 ≤ scale) (hpadding : 0 ≤ padding)
    (hi : (rectangle cols scale padding i).Contains r c)
    (hj : (rectangle cols scale padding j).Contains r c) : i = j := by
  have hrow : i / cols = j / cols := eq_of_mem_tile (by omega) hpadding hi.1 hj.1
  have hcol : i % cols = j % cols := eq_of_mem_tile (by omega) hpadding hi.2 hj.2
  rw [← Nat.div_add_mod i cols, ← Nat.div_add_mod j cols, hrow, hcol]

/-- Unless neighbours overlap, the rectangle that a pixel lies in is the last one. -/
theorem isGreatest_of_contains {r c : Nat} (hscale : 0 ≤ scale) (hpadding : 0 ≤ padding)
    (hi : i < count) (h : (rectangle cols scale padding i).Contains r c) :
    IsGreatest {j | j < count ∧ (rectangle cols scale padding j).Contains r c} i :=
  ⟨⟨hi, h⟩, fun _ hj => Nat.le_of_eq (eq_of_contains hscale hpadding hj.2 h)⟩

end Sheet

end Chip8
