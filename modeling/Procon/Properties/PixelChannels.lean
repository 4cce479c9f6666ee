import Procon.Construction.ImageProcess
import Mathlib.Data.List.GetD

/-!
# The channels that `image2Binary` extracts

Each of the four lists should hold one channel of the image, the entry for the pixel `(x, y)` at
`x * height + y`.  The loop stays inside the pixel data and keeps that order, and the padding of
the rows does not matter: `readChannels_eq` is the list of what it reads, pixel by pixel.  But the
list `g` is filled by `getBlue` and the list `b` by `getGreen`, so the lists are right exactly for
the images whose pixels all have as much green as blue (`extracts_faithfully_iff`).
-/

namespace Procon

open NestedLoop CollectingLoop

namespace PixelBuffer

/-- The bytes of the buffer are those of an image with padded rows. -/
structure Padded (pixelBuffer : PixelBuffer) : Prop where
  row : 4 * pixelBuffer.width ≤ pixelBuffer.bytesPerRow
  data : pixelBuffer.bytesPerRow * pixelBuffer.height ≤ pixelBuffer.pixelData.length

/-- Byte number `offset` of the pixel `(x, y)`: red, green, blue and alpha in this order. -/
def pixelByte (pixelBuffer : PixelBuffer) (x y offset : ℕ) : UInt8 :=
  pixelBuffer.pixelData.getD (pixelBuffer.bytesPerRow * y + 4 * x + offset) 0

/-- A byte of a pixel as a component of a color. -/
def componentOf (pixelBuffer : PixelBuffer) (x y offset : ℕ) : CGFloat :=
  ((pixelBuffer.pixelByte x y offset).toNat : CGFloat) / 255

/-- The two buffers hold the same pixels, whatever pads their rows. -/
structure SamePixels (pixelBuffer pixelBuffer' : PixelBuffer) : Prop where
  width : pixelBuffer'.width = pixelBuffer.width
  height : pixelBuffer'.height = pixelBuffer.height
  pixelByte : ∀ x < pixelBuffer.width, ∀ y < pixelBuffer.height, ∀ offset < 4,
    pixelBuffer'.pixelByte x y offset = pixelBuffer.pixelByte x y offset

end PixelBuffer

/-- What the lists of an image should be: they are extracted without a read outside the pixel
data, have one entry for each pixel, hold at `x * height + y` the components of the pixel
`(x, y)`, and depend on nothing else. -/
def ExtractsFaithfully (pixelBuffer : PixelBuffer) : Prop :=
  ∃ lists, readChannels pixelBuffer = .ok lists ∧
    (∀ list ∈ [lists.r, lists.g, lists.b, lists.a],
      list.length = pixelBuffer.width * pixelBuffer.height) ∧
    (∀ x < pixelBuffer.width, ∀ y < pixelBuffer.height,
      lists.r[x * pixelBuffer.height + y]? = some (pixelBuffer.componentOf x y 0) ∧
      lists.g[x * pixelBuffer.height + y]? = some (pixelBuffer.componentOf x y 1) ∧
      lists.b[x * pixelBuffer.height + y]? = some (pixelBuffer.componentOf x y 2) ∧
      lists.a[x * pixelBuffer.height + y]? = some (pixelBuffer.componentOf x y 3)) ∧
    ∀ pixelBuffer', pixelBuffer'.Padded → pixelBuffer.SamePixels pixelBuffer' →
      readChannels pixelBuffer' = .ok lists

/-! ## The loop -/

/-- The loop of `image2Binary` as a gathering loop. -/
lemma readChannels_eq_gather (pixelBuffer : PixelBuffer) :
    readChannels pixelBuffer = gather (fun p => readSample pixelBuffer p.1 p.2) Channels.append
      (grid pixelBuffer.width pixelBuffer.height) .empty :=
  nestedLoop_eq_foldlM _ _

lemma foldl_append (samples : List Sample) (lists : Channels) :
    samples.foldl Channels.append lists =
      ⟨lists.r ++ samples.map Sample.r, lists.g ++ samples.map Sample.g,
        lists.b ++ samples.map Sample.b, lists.a ++ samples.map Sample.a⟩ := by
  induction samples generalizing lists with
  | nil => simp
  | cons sample samples ih => simp [ih, Channels.append]

variable {pixelBuffer pixelBuffer' : PixelBuffer} {x y offset : ℕ} {lists : Channels}

/-- The lists of a completed loop are the four columns of one list of samples. -/
lemma exists_samples_of_readChannels (h : readChannels pixelBuffer = .ok lists) :
    ∃ samples, List.Forall₂ (fun p sample => readSample pixelBuffer p.1 p.2 = .ok sample)
        (grid pixelBuffer.width pixelBuffer.height) samples ∧
      lists = ⟨samples.map Sample.r, samples.map Sample.g, samples.map Sample.b,
        samples.map Sample.a⟩ := by
  rw [readChannels_eq_gather, gather_eq_ok_iff] at h
  obtain ⟨samples, hsamples, rfl⟩ := h
  exact ⟨samples, hsamples, by simp [foldl_append, Channels.empty]⟩

namespace PixelBuffer

/-- The four bytes of a pixel lie inside the pixel data. -/
lemma Padded.index_lt (h : pixelBuffer.Padded) (hx : x < pixelBuffer.width)
    (hy : y < pixelBuffer.height) (hoffset : offset < 4) :
    pixelBuffer.bytesPerRow * y + 4 * x + offset < pixelBuffer.pixelData.length := by
  have hrow := h.row
  calc pixelBuffer.bytesPerRow * y + 4 * x + offset
      < pixelBuffer.bytesPerRow * y + pixelBuffer.bytesPerRow := by omega
    _ = pixelBuffer.bytesPerRow * (y + 1) := by ring
    _ ≤ pixelBuffer.bytesPerRow * pixelBuffer.height := Nat.mul_le_mul_left _ hy
    _ ≤ pixelBuffer.pixelData.length := h.data

lemma Padded.component_eq (h : pixelBuffer.Padded) (hx : x < pixelBuffer.width)
    (hy : y < pixelBuffer.height) (hoffset : offset < 4) :
    pixelBuffer.component offset x y = .ok (pixelBuffer.componentOf x y offset) := by
  have hindex : pixelBuffer.pixelInfo x y + offset =
      pixelBuffer.bytesPerRow * y + 4 * x + offset := by
    rw [pixelInfo, bytesPerPixel]
    omega
  have hlt := h.index_lt hx hy hoffset
  rw [component, hindex, subscript_of_getElem? (List.getElem?_eq_getElem hlt), componentOf,
    pixelByte, List.getD_eq_getElem _ _ hlt]
  rfl

/-- The sample of a pixel, with green and blue the wrong way round. -/
def sampleOf (pixelBuffer : PixelBuffer) (p : ℕ × ℕ) : Sample where
  r := pixelBuffer.componentOf p.1 p.2 0
  g := pixelBuffer.componentOf p.1 p.2 2
  b := pixelBuffer.componentOf p.1 p.2 1
  a := pixelBuffer.componentOf p.1 p.2 3

lemma Padded.readSample_eq (h : pixelBuffer.Padded) (hx : x < pixelBuffer.width)
    (hy : y < pixelBuffer.height) :
    readSample pixelBuffer x y = .ok (pixelBuffer.sampleOf (x, y)) := by
  rw [readSample, getRed, getBlue, getGreen, getAlpha, h.component_eq hx hy (by omega),
    h.component_eq hx hy (by omega), h.component_eq hx hy (by omega),
    h.component_eq hx hy (by omega)]
  rfl

/-- The lists of a padded buffer, position by position. -/
def channelsOf (pixelBuffer : PixelBuffer) : Channels :=
  let samples := (grid pixelBuffer.width pixelBuffer.height).map pixelBuffer.sampleOf
  ⟨samples.map Sample.r, samples.map Sample.g, samples.map Sample.b, samples.map Sample.a⟩

/-- **What the loop reads.** -/
theorem Padded.readChannels_eq (h : pixelBuffer.Padded) :
    readChannels pixelBuffer = .ok pixelBuffer.channelsOf := by
  rw [readChannels_eq_gather, gather_eq_ok_iff]
  refine ⟨(grid pixelBuffer.width pixelBuffer.height).map pixelBuffer.sampleOf, ?_, ?_⟩
  · rw [List.forall₂_map_right_iff, List.forall₂_same]
    rintro ⟨x, y⟩ hp
    obtain ⟨hx, hy⟩ := mem_grid.mp hp
    exact h.readSample_eq hx hy
  · rw [foldl_append]
    simp [channelsOf, Channels.empty]

/-- Only the pixels decide about the lists. -/
lemma SamePixels.channelsOf_eq (h : pixelBuffer.SamePixels pixelBuffer') :
    pixelBuffer'.channelsOf = pixelBuffer.channelsOf := by
  have hsamples : (grid pixelBuffer.width pixelBuffer.height).map pixelBuffer'.sampleOf =
      (grid pixelBuffer.width pixelBuffer.height).map pixelBuffer.sampleOf := by
    refine List.map_congr_left ?_
    rintro ⟨x, y⟩ hp
    obtain ⟨hx, hy⟩ := mem_grid.mp hp
    simp [sampleOf, componentOf, h.pixelByte x hx y hy]
  rw [channelsOf, channelsOf, h.width, h.height, hsamples]

lemma componentOf_inj {offset' : ℕ}
    (h : pixelBuffer.componentOf x y offset = pixelBuffer.componentOf x y offset') :
    pixelBuffer.pixelByte x y offset = pixelBuffer.pixelByte x y offset' := by
  rw [componentOf, componentOf, div_left_inj' (by norm_num), Nat.cast_inj] at h
  exact UInt8.toNat.inj h

/-- The entry for a pixel stands at its place in each list. -/
lemma getElem?_channelsOf (hx : x < pixelBuffer.width) (hy : y < pixelBuffer.height)
    (field : Sample → CGFloat) :
    (((grid pixelBuffer.width pixelBuffer.height).map pixelBuffer.sampleOf).map
      field)[x * pixelBuffer.height + y]? = some (field (pixelBuffer.sampleOf (x, y))) := by
  rw [List.getElem?_map, List.getElem?_map, getElem?_grid_iff.mpr ⟨hx, hy, rfl⟩]
  rfl

end PixelBuffer

/-- **Which images are extracted faithfully.**  The loop stays inside the data, the lists have the
right length and order and the padding does not matter; the channels are right exactly when every
pixel has as much green as blue. -/
theorem extracts_faithfully_iff (pixelBuffer : PixelBuffer) (hpadded : pixelBuffer.Padded) :
    ExtractsFaithfully pixelBuffer ↔
      ∀ x < pixelBuffer.width, ∀ y < pixelBuffer.height,
        pixelBuffer.pixelByte x y 1 = pixelBuffer.pixelByte x y 2 := by
  constructor
  · rintro ⟨lists, hlists, -, hentry, -⟩ x hx y hy
    rw [hpadded.readChannels_eq] at hlists
    obtain rfl := Except.ok.inj hlists
    obtain ⟨-, hg, -, -⟩ := hentry x hx y hy
    rw [PixelBuffer.channelsOf, PixelBuffer.getElem?_channelsOf hx hy, Option.some.injEq] at hg
    exact (PixelBuffer.componentOf_inj hg).symm
  · intro hsame
    refine ⟨pixelBuffer.channelsOf, hpadded.readChannels_eq, ?_, ?_, ?_⟩
    · simp [PixelBuffer.channelsOf]
    · intro x hx y hy
      have hgreen : pixelBuffer.componentOf x y 2 = pixelBuffer.componentOf x y 1 := by
        rw [PixelBuffer.componentOf, PixelBuffer.componentOf, hsame x hx y hy]
      simp only [PixelBuffer.channelsOf, PixelBuffer.getElem?_channelsOf hx hy]
      simp [PixelBuffer.sampleOf, hgreen]
    · intro pixelBuffer' hpadded' hpixels
      rw [hpadded'.readChannels_eq, hpixels.channelsOf_eq]

/-! ### Two pixels -/

/-- Two rows of one grey pixel each, with two bytes of padding. -/
def greyColumn : PixelBuffer := ⟨[7, 7, 7, 255, 0, 0, 9, 9, 9, 255, 0, 0], 1, 2, 6⟩

theorem extracts_faithfully_iff_greyColumn :
    ExtractsFaithfully greyColumn ↔
      ∀ x < greyColumn.width, ∀ y < greyColumn.height,
        greyColumn.pixelByte x y 1 = greyColumn.pixelByte x y 2 :=
  extracts_faithfully_iff greyColumn ⟨by decide, by decide⟩

/-- One green pixel. -/
def greenPixel : PixelBuffer := ⟨[0, 255, 0, 255], 1, 1, 4⟩

/-- The green of the pixel ends up in the list of the blue channel. -/
theorem green_extracted_as_blue :
    greenPixel.Padded ∧ readChannels greenPixel = .ok ⟨[0], [0], [1], [1]⟩ ∧
      ¬ ExtractsFaithfully greenPixel := by
  have hlists : readChannels greenPixel = .ok ⟨[0], [0], [1], [1]⟩ := by decide +kernel
  refine ⟨⟨by decide, by decide⟩, hlists, ?_⟩
  rintro ⟨lists, hlists', -, hentry, -⟩
  obtain rfl := Except.ok.inj (hlists.symm.trans hlists')
  obtain ⟨-, hg, -, -⟩ := hentry 0 (by decide) 0 (by decide)
  revert hg
  decide +kernel

end Procon
