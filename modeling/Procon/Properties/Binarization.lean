import Procon.Properties.PixelChannels

/-!
# The samples of a binarized image

`createBinarizedImage` reads the entry `w * wid + h` of each list for the pixel `(w, h)`.  The
lists were filled column by column, so that the entry for `(w, h)` is the one at `w * hei + h`: the
two agree for all pixels exactly when the image is square, has at most one column or has no rows.
An image that `PixelBuffer` rejects comes with empty lists, and any pixel of it reads out of range.
`decides_by_own_sample_iff` puts the cases together.
-/

namespace Procon

open NestedLoop CollectingLoop

/-- The size of an image with a pixel buffer is its size in pixels. -/
def BitmapImage.PixelSized (image : BitmapImage) : Prop :=
  ∀ pixelBuffer, PixelBuffer.init image = .ok (some pixelBuffer) →
    image.size = ⟨pixelBuffer.width, pixelBuffer.height⟩

/-- Every pixel is decided by its own sample: all reads are in range; the entry read for a pixel is
the one that was appended for it; and the pixel is drawn white exactly when the weighted sum of
its sample exceeds the threshold, with the alpha of the sample. -/
structure DecidesByOwnSample (image : BitmapImage) (lists : Channels) : Prop where
  inRange : ∀ w < image.wid, ∀ h < image.hei, ∀ list ∈ [lists.r, lists.g, lists.b, lists.a],
    image.index w h < list.length
  ownSample : ∀ pixelBuffer, PixelBuffer.init image = .ok (some pixelBuffer) →
    ∀ w < image.wid, ∀ h < image.hei,
      (grid pixelBuffer.width pixelBuffer.height)[image.index w h]? = some (w, h)
  drawn : ∀ pixelBuffer, PixelBuffer.init image = .ok (some pixelBuffer) →
    ∃ drawn, image.createBinarizedImage lists.r lists.g lists.b lists.a = .ok drawn ∧
      ∀ w < image.wid, ∀ h < image.hei, ∀ sample, readSample pixelBuffer w h = .ok sample →
        ∃ pixel, drawn[w * image.hei + h]? = some pixel ∧ pixel.drawRect = ⟨w, h, 1, 1⟩ ∧
          (pixel.color.isWhite ↔ threshold < weightedSum sample.r sample.g sample.b) ∧
          pixel.color.alpha = sample.a

/-- The index that the drawing loop computes is the right one for every pixel of the image. -/
def BitmapImage.IndexFits (image : BitmapImage) : Prop :=
  (∀ pixelBuffer, PixelBuffer.init image = .ok (some pixelBuffer) →
    image.wid = image.hei ∨ image.wid ≤ 1 ∨ image.hei = 0) ∧
  (PixelBuffer.init image = .ok none → image.wid = 0 ∨ image.hei = 0)

/-! ## Indices -/

variable {image : BitmapImage} {pixelBuffer : PixelBuffer} {lists : Channels} {w h : ℕ}

lemma wid_hei_of_pixelSized (hsize : image.PixelSized)
    (hinit : PixelBuffer.init image = .ok (some pixelBuffer)) :
    image.wid = pixelBuffer.width ∧ image.hei = pixelBuffer.height := by
  rw [BitmapImage.wid, BitmapImage.hei, hsize pixelBuffer hinit]
  simp

/-- The two strides agree on every pixel only for these images. -/
lemma forall_index_eq_iff {W H : ℕ} :
    (∀ w < W, ∀ h < H, w * W + h = w * H + h) ↔ W = H ∨ W ≤ 1 ∨ H = 0 := by
  constructor
  · intro hindex
    by_contra hne
    rw [not_or, not_or] at hne
    have h1 := hindex 1 (by omega) 0 (by omega)
    omega
  · rintro (rfl | hW | rfl) w hw h hh
    · rfl
    · obtain rfl : w = 0 := by omega
      omega
    · exact absurd hh (Nat.not_lt_zero h)

/-! ## The drawing loop -/

lemma createBinarizedImage_eq_gather (r g b a : List CGFloat) :
    image.createBinarizedImage r g b a =
      gather (fun p => image.drawPixel r g b a p.1 p.2) (fun drawn pixel => drawn ++ [pixel])
        (grid image.wid image.hei) [] :=
  nestedLoop_eq_foldlM _ _

/-- What one iteration draws for the sample it reads. -/
def drawingOf (w h : ℕ) (sample : Sample) : PixelDrawing :=
  let color := if weightedSum sample.r sample.g sample.b > threshold then 255 else 0
  ⟨⟨color, color, color, sample.a⟩, ⟨w, h, 1, 1⟩⟩

lemma drawPixel_eq {r g b a : List CGFloat} {sample : Sample}
    (hr : r[image.index w h]? = some sample.r) (hg : g[image.index w h]? = some sample.g)
    (hb : b[image.index w h]? = some sample.b) (ha : a[image.index w h]? = some sample.a) :
    image.drawPixel r g b a w h = .ok (drawingOf w h sample) := by
  rw [BitmapImage.drawPixel, subscript_of_getElem? hr, subscript_of_getElem? hg,
    subscript_of_getElem? hb, subscript_of_getElem? ha]
  rfl

lemma isWhite_drawingOf {sample : Sample} :
    (drawingOf w h sample).color.isWhite ↔
      threshold < weightedSum sample.r sample.g sample.b := by
  rw [drawingOf, UIColor.isWhite]
  split <;> rename_i hsum
  · simpa using hsum
  · rw [gt_iff_lt] at hsum
    norm_num [hsum]

/-- The lists of an accepted image hold, at the place of a pixel, the sample of that pixel. -/
lemma exists_sample_of_readChannels (hlists : readChannels pixelBuffer = .ok lists) {i : ℕ}
    (hi : (grid pixelBuffer.width pixelBuffer.height)[i]? = some (w, h)) :
    ∃ sample, readSample pixelBuffer w h = .ok sample ∧ lists.r[i]? = some sample.r ∧
      lists.g[i]? = some sample.g ∧ lists.b[i]? = some sample.b ∧ lists.a[i]? = some sample.a := by
  obtain ⟨samples, hsamples, rfl⟩ := exists_samples_of_readChannels hlists
  obtain ⟨sample, hsample, hread⟩ := exists_of_forall₂ hsamples hi
  exact ⟨sample, hread, by simp [hsample], by simp [hsample], by simp [hsample], by simp [hsample]⟩

lemma length_of_readChannels (hlists : readChannels pixelBuffer = .ok lists) :
    ∀ list ∈ [lists.r, lists.g, lists.b, lists.a],
      list.length = pixelBuffer.width * pixelBuffer.height := by
  obtain ⟨samples, hsamples, rfl⟩ := exists_samples_of_readChannels hlists
  have hlen := hsamples.length_eq
  rw [length_grid] at hlen
  simp [hlen]

/-- A loop that reads, for every pixel, the entry at its place draws every pixel by its sample. -/
lemma drawn_of_index (hlists : readChannels pixelBuffer = .ok lists)
    (hplace : ∀ w < image.wid, ∀ h < image.hei,
      (grid pixelBuffer.width pixelBuffer.height)[image.index w h]? = some (w, h)) :
    ∃ drawn, image.createBinarizedImage lists.r lists.g lists.b lists.a = .ok drawn ∧
      ∀ w < image.wid, ∀ h < image.hei, ∀ sample, readSample pixelBuffer w h = .ok sample →
        drawn[w * image.hei + h]? = some (drawingOf w h sample) := by
  have hpixel : ∀ w < image.wid, ∀ h < image.hei, ∃ sample,
      readSample pixelBuffer w h = .ok sample ∧
        image.drawPixel lists.r lists.g lists.b lists.a w h = .ok (drawingOf w h sample) := by
    intro w hw h hh
    obtain ⟨sample, hread, hr, hg, hb, ha⟩ :=
      exists_sample_of_readChannels hlists (hplace w hw h hh)
    exact ⟨sample, hread, drawPixel_eq hr hg hb ha⟩
  have hreads : ∀ p ∈ grid image.wid image.hei, ∃ pixel,
      image.drawPixel lists.r lists.g lists.b lists.a p.1 p.2 = .ok pixel := by
    rintro ⟨w, h⟩ hp
    obtain ⟨hw, hh⟩ := mem_grid.mp hp
    obtain ⟨sample, -, hdraw⟩ := hpixel w hw h hh
    exact ⟨_, hdraw⟩
  rw [createBinarizedImage_eq_gather]
  obtain ⟨pixels, hpixels, hdrawn⟩ :=
    exists_gather (fun drawn pixel => drawn ++ [pixel]) [] hreads
  rw [foldl_concat, List.nil_append] at hdrawn
  refine ⟨pixels, hdrawn, ?_⟩
  intro w hw h hh sample hsample
  obtain ⟨pixel, hget, hdraw⟩ := exists_of_forall₂ hpixels (getElem?_grid_iff.mpr ⟨hw, hh, rfl⟩)
  obtain ⟨sample', hsample', hdraw'⟩ := hpixel w hw h hh
  rw [hsample, Except.ok.injEq] at hsample'
  rw [hdraw', Except.ok.injEq] at hdraw
  rw [hget, ← hdraw, hsample']

/-- The index of the drawing loop is the place of the pixel exactly when the index fits. -/
lemma place_iff_of_init (hsize : image.PixelSized)
    (hinit : PixelBuffer.init image = .ok (some pixelBuffer)) :
    (∀ w < image.wid, ∀ h < image.hei,
      (grid pixelBuffer.width pixelBuffer.height)[image.index w h]? = some (w, h)) ↔
      image.wid = image.hei ∨ image.wid ≤ 1 ∨ image.hei = 0 := by
  obtain ⟨hwid, hhei⟩ := wid_hei_of_pixelSized hsize hinit
  rw [← hwid, ← hhei, ← forall_index_eq_iff]
  simp only [getElem?_grid_iff, BitmapImage.index]
  constructor
  · intro hplace w hw h hh
    exact (hplace w hw h hh).2.2
  · intro hindex w hw h hh
    exact ⟨hw, hh, hindex w hw h hh⟩

/-- An image that the buffer rejects is decided, for lack of samples, only when it has no pixels. -/
lemma decidesByOwnSample_iff_of_rejected (hinit : PixelBuffer.init image = .ok none) :
    DecidesByOwnSample image .empty ↔ image.wid = 0 ∨ image.hei = 0 := by
  have hnone : ∀ pixelBuffer, PixelBuffer.init image ≠ .ok (some pixelBuffer) := by
    intro pixelBuffer hsome
    rw [hinit] at hsome
    cases hsome
  constructor
  · intro hown
    by_contra hne
    rw [not_or] at hne
    have hrange := hown.inRange 0 (by omega) 0 (by omega) [] (by simp [Channels.empty])
    exact absurd hrange (Nat.not_lt_zero _)
  · intro hempty
    refine ⟨?_, fun pixelBuffer hsome => absurd hsome (hnone pixelBuffer),
      fun pixelBuffer hsome => absurd hsome (hnone pixelBuffer)⟩
    intro w hw h hh
    omega

/-- An accepted image is decided by its own samples exactly when the index fits. -/
lemma decidesByOwnSample_iff_of_accepted (hsize : image.PixelSized)
    (hinit : PixelBuffer.init image = .ok (some pixelBuffer))
    (hread : readChannels pixelBuffer = .ok lists) :
    DecidesByOwnSample image lists ↔
      image.wid = image.hei ∨ image.wid ≤ 1 ∨ image.hei = 0 := by
  rw [← place_iff_of_init hsize hinit]
  constructor
  · intro hown
    exact hown.ownSample pixelBuffer hinit
  · intro hplace
    have hunique : ∀ pixelBuffer', PixelBuffer.init image = .ok (some pixelBuffer') →
        pixelBuffer' = pixelBuffer := by
      intro pixelBuffer' hinit'
      rw [hinit] at hinit'
      exact (Option.some.inj (Except.ok.inj hinit')).symm
    refine ⟨?_, ?_, ?_⟩
    · intro w hw h hh list hlist
      rw [length_of_readChannels hread list hlist, ← length_grid]
      exact (List.getElem?_eq_some_iff.mp (hplace w hw h hh)).1
    · intro pixelBuffer' hinit'
      rw [hunique pixelBuffer' hinit']
      exact hplace
    · intro pixelBuffer' hinit'
      rw [hunique pixelBuffer' hinit']
      obtain ⟨drawn, hdrawn, hpixel⟩ := drawn_of_index hread hplace
      refine ⟨drawn, hdrawn, fun w hw h hh sample hsample => ?_⟩
      exact ⟨_, hpixel w hw h hh sample hsample, rfl, isWhite_drawingOf, rfl⟩

/-- **Which images are decided pixel by pixel.**  For the lists that `image2Binary` builds, every
read is in range and every pixel is drawn by its own sample exactly when an accepted image is
square, at most one pixel wide or empty, and a rejected one is empty. -/
theorem decides_by_own_sample_iff (image : BitmapImage) (lists : Channels)
    (hlists : image.channels = .ok lists) (hsize : image.PixelSized) :
    DecidesByOwnSample image lists ↔ image.IndexFits := by
  unfold BitmapImage.IndexFits
  obtain ⟨init, hinit, hread⟩ := bind_eq_ok_iff.mp hlists
  cases init with
  | none =>
      obtain rfl : Channels.empty = lists := Except.ok.inj hread
      rw [decidesByOwnSample_iff_of_rejected hinit, hinit]
      simp
  | some pixelBuffer =>
      rw [decidesByOwnSample_iff_of_accepted hsize hinit hread, hinit]
      simp

/-! ### Two images of two pixels -/

/-- An image of the expected format, with its bytes. -/
def imageOf (width height : ℕ) (pixelData : List UInt8) : BitmapImage where
  size := ⟨width, height⟩
  cgImage := some ⟨8, 32, width, height, 4 * width, some ⟨some pixelData⟩⟩

/-- A white pixel above a black one. -/
def tallImage : BitmapImage := imageOf 1 2 [255, 255, 255, 255, 0, 0, 0, 255]

theorem decides_by_own_sample_iff_tallImage :
    DecidesByOwnSample tallImage ⟨[1, 0], [1, 0], [1, 0], [1, 1]⟩ ↔ tallImage.IndexFits :=
  decides_by_own_sample_iff tallImage _ (by decide +kernel) (by
    rintro pixelBuffer hinit
    obtain rfl := Option.some.inj (Except.ok.inj hinit)
    rfl)

/-- A white pixel beside a black one. -/
def wideImage : BitmapImage := imageOf 2 1 [255, 255, 255, 255, 0, 0, 0, 255]

/-- The second pixel reads the entry number two of lists with two entries. -/
theorem wide_image_traps :
    wideImage.channels = .ok ⟨[1, 0], [1, 0], [1, 0], [1, 1]⟩ ∧
      image2Binary wideImage = .error (.indexOutOfRange "r") ∧
      ¬ DecidesByOwnSample wideImage ⟨[1, 0], [1, 0], [1, 0], [1, 1]⟩ := by
  refine ⟨by decide +kernel, by decide +kernel, ?_⟩
  intro hown
  have hrange := hown.inRange 1 (by decide +kernel) 0 (by decide +kernel) [1, 0] (by simp)
  revert hrange
  decide +kernel

end Procon
