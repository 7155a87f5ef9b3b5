import Chip8.Font

/-!
# Images

An image is a rectangle of pixels, and a pixel holds one byte for each channel, usually red, green
and blue. The one view of an image is `Image.pixel`.
-/

namespace Chip8

/-- The channels of a pixel. -/
abbrev Pixel := List Byte

/-- A rectangle of pixels. -/
structure Image where
  /-- The number of rows. -/
  height : Nat
  /-- The number of columns. -/
  width : Nat
  /-- The number of channels of each pixel. -/
  channels : Nat
  /-- The rows from the top, each with its pixels from the left. -/
  rows : Vector (Vector Pixel width) height

namespace Image

/-- The pixel in row `r` and column `c`. Outside the image it has no channels. -/
def pixel (img : Image) (r c : Nat) : Pixel :=
  if hr : r < img.height then
    if hc : c < img.width then
      img.rows[r][c]
    else []
  else []

/-- The image whose pixel in row `r` and column `c` is `f r c`. -/
def ofFn (height width channels : Nat) (f : Nat → Nat → Pixel) : Image where
  height := height
  width := width
  channels := channels
  rows := Vector.ofFn fun r => Vector.ofFn fun c => f r c

/-- The image with the same pixel everywhere. -/
def filled (height width : Nat) (p : Pixel) : Image where
  height := height
  width := width
  channels := p.length
  rows := Vector.replicate height (Vector.replicate width p)

/-- Every entry of a vector, repeated `k` times in its place. -/
def repeatEach {α : Type} {n : Nat} (k : Nat) (v : Vector α n) : Vector α (n * k) :=
  (v.map fun a => Vector.replicate k a).flatten

/-- Enlarges an image: every pixel becomes a square of `k` by `k` pixels. -/
def enlarge (img : Image) (k : Nat) : Image where
  height := img.height * k
  width := img.width * k
  channels := img.channels
  rows := repeatEach k (img.rows.map fun row => repeatEach k row)

/-- Puts `tile` over the image with its corner at row `top` and column `left`. What would leave the
image is dropped. -/
def paste (img : Image) (top left : Nat) (tile : Image) : Image where
  height := img.height
  width := img.width
  channels := img.channels
  rows := img.rows.mapIdx fun r row =>
    if top ≤ r ∧ r < top + tile.height then
      row.mapIdx fun c p =>
        if left ≤ c ∧ c < left + tile.width then tile.pixel (r - top) (c - left) else p
    else row

theorem pixel_ofFn (height width channels : Nat) (f : Nat → Nat → Pixel) {r c : Nat}
    (hr : r < height) (hc : c < width) : (ofFn height width channels f).pixel r c = f r c := by
  simp [pixel, ofFn, hr, hc]

theorem pixel_filled {height width : Nat} (p : Pixel) {r c : Nat}
    (hr : r < height) (hc : c < width) : (filled height width p).pixel r c = p := by
  simp [pixel, filled, hr, hc]

/-- An entry of the repeated vector is the one whose block of `k` it is in. -/
theorem getElem_repeatEach {α : Type} {n k i : Nat} (v : Vector α n) (h : i < n * k)
    (hd : i / k < n) : (repeatEach k v)[i] = v[i / k] := by
  simp [repeatEach, Vector.getElem_flatten]

/-- A pixel of an enlarged image is the one of the image whose block it is in. -/
theorem pixel_enlarge (img : Image) (k r c : Nat) (hr : r < img.height * k)
    (hc : c < img.width * k) : (img.enlarge k).pixel r c = img.pixel (r / k) (c / k) := by
  have hr' : r / k < img.height := Nat.div_lt_of_lt_mul (Nat.mul_comm _ k ▸ hr)
  have hc' : c / k < img.width := Nat.div_lt_of_lt_mul (Nat.mul_comm _ k ▸ hc)
  simp [pixel, enlarge, hr, hc, hr', hc', getElem_repeatEach]

/-- What has been pasted shows the tile inside the rectangle of the tile, and the image around it.
-/
theorem pixel_paste (img tile : Image) (top left : Nat) {r c : Nat}
    (hr : r < img.height) (hc : c < img.width) :
    (img.paste top left tile).pixel r c =
      if (top ≤ r ∧ r < top + tile.height) ∧ left ≤ c ∧ c < left + tile.width then
        tile.pixel (r - top) (c - left)
      else img.pixel r c := by
  by_cases hrow : top ≤ r ∧ r < top + tile.height <;> simp [pixel, paste, hr, hc, hrow]

end Image

end Chip8
