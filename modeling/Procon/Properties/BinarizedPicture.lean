import Procon.Construction.GraphicsContext
import Procon.Properties.Binarization

/-!
# The picture that `image2Binary` returns

The drawing loop reads entry `w * wid + h` of lists that were filled column by column.  Where all
these entries exist a picture comes out, whatever the shape of the image, and each of its unit
squares shows the sample that happens to stand there: that of the pixel in column `i / height` and
row `i % height` for the index `i`.  `returns_picture_iff` says when this is so, and
`binarized_picture` what the picture looks like, point by point.

The squares do not overlap, so each is painted by the two strokes of its own iteration
(`Painting.paint_flatMap_of_unique`).
-/

namespace Procon

open NestedLoop Painting

variable {image : BitmapImage} {pixelBuffer : PixelBuffer} {lists : Channels}
  {sample : ℕ → Sample} {sourceAlpha : CGPoint → CGFloat} {p : CGPoint} {n w h : ℕ}

/-! ## The lists -/

/-- The lists have `n` entries each, and the entries of an index are those of a sample. -/
structure Channels.Holds (lists : Channels) (n : ℕ) (sample : ℕ → Sample) : Prop where
  length : lists.r.length = n
  r : ∀ i < n, lists.r[i]? = some (sample i).r
  g : ∀ i < n, lists.g[i]? = some (sample i).g
  b : ∀ i < n, lists.b[i]? = some (sample i).b
  a : ∀ i < n, lists.a[i]? = some (sample i).a

/-- The pixel whose sample stands at an index. -/
def PixelBuffer.sampleAt (pixelBuffer : PixelBuffer) (i : ℕ) : Sample :=
  pixelBuffer.sampleOf (i / pixelBuffer.height, i % pixelBuffer.height)

lemma holds_channelsOf (pixelBuffer : PixelBuffer) :
    pixelBuffer.channelsOf.Holds (pixelBuffer.width * pixelBuffer.height) pixelBuffer.sampleAt := by
  have hentry : ∀ i < pixelBuffer.width * pixelBuffer.height, ∀ field : Sample → CGFloat,
      (((grid pixelBuffer.width pixelBuffer.height).map pixelBuffer.sampleOf).map field)[i]? =
        some (field (pixelBuffer.sampleAt i)) := by
    intro i hi field
    have hheight : 0 < pixelBuffer.height := by
      by_contra hzero
      rw [Nat.eq_zero_of_not_pos hzero] at hi
      omega
    have hx : i / pixelBuffer.height < pixelBuffer.width :=
      Nat.div_lt_of_lt_mul (Nat.mul_comm .. ▸ hi)
    have hget := PixelBuffer.getElem?_channelsOf hx (Nat.mod_lt i hheight) field
    rwa [Nat.div_add_mod'] at hget
  refine ⟨?_, fun i hi => hentry i hi Sample.r, fun i hi => hentry i hi Sample.g,
    fun i hi => hentry i hi Sample.b, fun i hi => hentry i hi Sample.a⟩
  simp [PixelBuffer.channelsOf]

lemma holds_empty : Channels.empty.Holds 0 sample :=
  ⟨rfl, fun i hi => absurd hi (Nat.not_lt_zero i), fun i hi => absurd hi (Nat.not_lt_zero i),
    fun i hi => absurd hi (Nat.not_lt_zero i), fun i hi => absurd hi (Nat.not_lt_zero i)⟩

/-! ## The drawing loop -/

/-- Lists with `n` entries have one for every index of the loop. -/
def BitmapImage.ReadsWithin (image : BitmapImage) (n : ℕ) : Prop :=
  image.wid = 0 ∨ image.hei = 0 ∨ image.index (image.wid - 1) (image.hei - 1) < n

instance (image : BitmapImage) (n : ℕ) : Decidable (image.ReadsWithin n) :=
  inferInstanceAs (Decidable (_ ∨ _ ∨ _))

/-- The last index of the loop is the largest. -/
lemma readsWithin_iff :
    image.ReadsWithin n ↔ ∀ w < image.wid, ∀ h < image.hei, image.index w h < n := by
  constructor
  · rintro (hwid | hhei | hlast) w hw h hh
    · omega
    · omega
    · have hmul : w * image.wid ≤ (image.wid - 1) * image.wid :=
        Nat.mul_le_mul_right _ (by omega)
      unfold BitmapImage.index at hlast ⊢
      omega
  · intro hall
    by_contra hnot
    unfold BitmapImage.ReadsWithin at hnot
    rw [not_or, not_or] at hnot
    exact hnot.2.2 (hall _ (by omega) _ (by omega))

/-- The drawings of a loop that finds all its samples. -/
def BitmapImage.drawings (image : BitmapImage) (sample : ℕ → Sample) : List PixelDrawing :=
  (grid image.wid image.hei).map fun q => drawingOf q.1 q.2 (sample (image.index q.1 q.2))

/-- **The drawing loop** draws the samples it finds, and traps when one is missing. -/
lemma createBinarizedImage_eq (hlists : lists.Holds n sample) :
    image.createBinarizedImage lists.r lists.g lists.b lists.a =
      if image.ReadsWithin n then .ok (image.drawings sample)
      else .error (.indexOutOfRange "r") := by
  have hfound : ∀ w h, image.index w h < n →
      image.drawPixel lists.r lists.g lists.b lists.a w h =
        .ok (drawingOf w h (sample (image.index w h))) := fun w h hi =>
    drawPixel_eq (hlists.r _ hi) (hlists.g _ hi) (hlists.b _ hi) (hlists.a _ hi)
  have hmissing : ∀ w h, ¬ image.index w h < n →
      image.drawPixel lists.r lists.g lists.b lists.a w h = .error (.indexOutOfRange "r") := by
    intro w h hi
    have hnone : lists.r[image.index w h]? = none := by
      rw [List.getElem?_eq_none_iff, hlists.length]
      omega
    unfold BitmapImage.drawPixel subscript
    dsimp only
    rw [hnone]
    rfl
  rw [createBinarizedImage_eq_gather]
  by_cases hwithin : image.ReadsWithin n
  · rw [if_pos hwithin, gather_of_forall (g := fun q : ℕ × ℕ =>
      drawingOf q.1 q.2 (sample (image.index q.1 q.2))), foldl_concat, List.nil_append]
    · rfl
    · rintro ⟨w, h⟩ hq
      obtain ⟨hw, hh⟩ := mem_grid.mp hq
      exact hfound w h (readsWithin_iff.mp hwithin w hw h hh)
  · rw [if_neg hwithin]
    refine gather_eq_error _ _ ?_ ?_
    · rintro ⟨w, h⟩ -
      by_cases hi : image.index w h < n
      · exact Or.inl ⟨_, hfound w h hi⟩
      · exact Or.inr (hmissing w h hi)
    · rw [readsWithin_iff] at hwithin
      push Not at hwithin
      obtain ⟨w, hw, h, hh, hi⟩ := hwithin
      exact ⟨(w, h), mem_grid.mpr ⟨hw, hh⟩, hmissing w h (by omega)⟩

/-- An image that the buffer rejects leaves the lists empty. -/
lemma image2Binary_of_rejected (hinit : PixelBuffer.init image = .ok none) :
    image2Binary image =
      if image.ReadsWithin 0 then .ok (image.drawings fun _ => ⟨0, 0, 0, 0⟩)
      else .error (.indexOutOfRange "r") := by
  have hlists : image.channels = .ok .empty := by
    unfold BitmapImage.channels
    rw [hinit]
    rfl
  unfold image2Binary
  rw [hlists]
  exact createBinarizedImage_eq holds_empty

lemma image2Binary_of_accepted (hinit : PixelBuffer.init image = .ok (some pixelBuffer))
    (hpadded : pixelBuffer.Padded) :
    image2Binary image =
      if image.ReadsWithin (pixelBuffer.width * pixelBuffer.height) then
        .ok (image.drawings pixelBuffer.sampleAt)
      else .error (.indexOutOfRange "r") := by
  have hlists : image.channels = .ok pixelBuffer.channelsOf := by
    unfold BitmapImage.channels
    rw [hinit]
    exact hpadded.readChannels_eq
  unfold image2Binary
  rw [hlists]
  exact createBinarizedImage_eq (holds_channelsOf pixelBuffer)

/-! ## The picture -/

/-- The point lies in the unit square of a position. -/
def InSquare (w h : ℕ) (p : CGPoint) : Prop :=
  (w : CGFloat) ≤ p.1 ∧ p.1 < w + 1 ∧ (h : CGFloat) ≤ p.2 ∧ p.2 < h + 1

lemma covers_unit_iff : CGRect.covers ⟨w, h, 1, 1⟩ p = true ↔ InSquare w h p := by
  unfold CGRect.covers InSquare
  rw [decide_eq_true_iff]
  rfl

/-- A point lies in one square only. -/
lemma InSquare.unique {w' h' : ℕ} (hsquare : InSquare w h p) (hsquare' : InSquare w' h' p) :
    w = w' ∧ h = h' := by
  obtain ⟨hw, hw', hh, hh'⟩ := hsquare
  obtain ⟨kw, kw', kh, kh'⟩ := hsquare'
  have h1 : (w : CGFloat) < w' + 1 := hw.trans_lt kw'
  have h2 : (w' : CGFloat) < w + 1 := kw.trans_lt hw'
  have h3 : (h : CGFloat) < h' + 1 := hh.trans_lt kh'
  have h4 : (h' : CGFloat) < h + 1 := kh.trans_lt hh'
  norm_cast at h1 h2 h3 h4
  omega

/-- The two strokes of an iteration reach its square only. -/
lemma covers_strokes {s : Sample} (stroke : Stroke CGPoint UIColor)
    (hstroke : stroke ∈ (drawingOf w h s).strokes sourceAlpha) :
    stroke.covers p = CGRect.covers ⟨w, h, 1, 1⟩ p := by
  unfold PixelDrawing.strokes at hstroke
  rcases List.mem_pair.mp hstroke with rfl | rfl
  · rfl
  · rfl

/-- The color that an iteration gives to the points of its square. -/
def squareColor (sourceAlpha : CGPoint → CGFloat) (s : Sample) (corner : CGPoint) : UIColor :=
  let color : CGFloat := if threshold < weightedSum s.r s.g s.b then 255 else 0
  ⟨color, color, color, s.a * sourceAlpha corner⟩

lemma paint_strokes {s : Sample} (hsquare : InSquare w h p) :
    paint ((drawingOf w h s).strokes sourceAlpha) p .clear =
      squareColor sourceAlpha s (p.1 - w, p.2 - h) := by
  have hcovers := covers_unit_iff.mpr hsquare
  have hfill : (UIRectFill (drawingOf w h s).color (drawingOf w h s).drawRect).apply p .clear =
      (drawingOf w h s).color := if_pos hcovers
  show (drawDestinationIn sourceAlpha ⟨w, h, 1, 1⟩).apply p
    ((UIRectFill (drawingOf w h s).color (drawingOf w h s).drawRect).apply p .clear) = _
  rw [hfill]
  refine (if_pos hcovers).trans ?_
  show UIColor.mk _ _ _ (s.a * sourceAlpha ((p.1 - w) / 1, (p.2 - h) / 1)) = _
  rw [div_one, div_one]
  rfl

/-- **What the strokes of the loop paint.** -/
lemma paint_drawings :
    (∀ w < image.wid, ∀ h < image.hei, InSquare w h p →
      paint ((image.drawings sample).flatMap (PixelDrawing.strokes sourceAlpha)) p .clear =
        squareColor sourceAlpha (sample (image.index w h)) (p.1 - w, p.2 - h)) ∧
    ((∀ w < image.wid, ∀ h < image.hei, ¬ InSquare w h p) →
      paint ((image.drawings sample).flatMap (PixelDrawing.strokes sourceAlpha)) p .clear =
        .clear) := by
  unfold BitmapImage.drawings
  rw [List.flatMap_map]
  constructor
  · intro w hw h hh hsquare
    have hmem : (w, h) ∈ grid image.wid image.hei := mem_grid.mpr ⟨hw, hh⟩
    rw [paint_flatMap_of_unique nodup_grid hmem]
    · exact paint_strokes hsquare
    · rintro ⟨w', h'⟩ - hne stroke hstroke
      rw [covers_strokes stroke hstroke, Bool.eq_false_iff]
      intro hcovers
      obtain ⟨rfl, rfl⟩ := hsquare.unique (covers_unit_iff.mp hcovers)
      exact hne rfl
  · intro hout
    refine paint_of_forall_not_covers fun stroke hstroke => ?_
    obtain ⟨⟨w, h⟩, hq, hstroke⟩ := List.mem_flatMap.mp hstroke
    obtain ⟨hw, hh⟩ := mem_grid.mp hq
    rw [covers_strokes stroke hstroke, Bool.eq_false_iff]
    exact fun hcovers => hout w hw h hh (covers_unit_iff.mp hcovers)

/-- A context of some size gives a picture of what has been drawn. -/
lemma unwrap_imageFromCurrentContext_eq_ok_iff {size : CGSize} {drawn : List PixelDrawing}
    {picture : Picture} :
    unwrap "UIGraphicsGetImageFromCurrentImageContext()"
        (imageFromCurrentContext sourceAlpha size drawn) = .ok picture ↔
      (0 < size.width ∧ 0 < size.height) ∧
        picture = fun p => paint (drawn.flatMap (PixelDrawing.strokes sourceAlpha)) p .clear := by
  unfold imageFromCurrentContext
  by_cases hsize : 0 < size.width ∧ 0 < size.height
  · rw [if_pos hsize]
    exact ⟨fun h => ⟨hsize, (Except.ok.inj h).symm⟩, fun h => congrArg Except.ok h.2.symm⟩
  · rw [if_neg hsize]
    exact ⟨nofun, fun h => absurd h.1 hsize⟩

lemma binarizedPicture_eq_ok_iff {picture : Picture} {n : ℕ}
    (himage : image2Binary image =
      if image.ReadsWithin n then .ok (image.drawings sample)
      else .error (.indexOutOfRange "r")) :
    binarizedPicture sourceAlpha image = .ok picture ↔
      image.ReadsWithin n ∧ (0 < image.size.width ∧ 0 < image.size.height) ∧
        picture = fun p =>
          paint ((image.drawings sample).flatMap (PixelDrawing.strokes sourceAlpha)) p .clear := by
  unfold binarizedPicture
  rw [himage]
  by_cases hwithin : image.ReadsWithin n
  · rw [if_pos hwithin, and_iff_right hwithin]
    exact unwrap_imageFromCurrentContext_eq_ok_iff
  · rw [if_neg hwithin]
    exact ⟨nofun, fun h => absurd h.1 hwithin⟩

lemma exists_picture_iff {n : ℕ}
    (himage : image2Binary image =
      if image.ReadsWithin n then .ok (image.drawings sample)
      else .error (.indexOutOfRange "r")) :
    (∃ picture, binarizedPicture sourceAlpha image = .ok picture) ↔
      (0 < image.size.width ∧ 0 < image.size.height) ∧ image.ReadsWithin n := by
  constructor
  · rintro ⟨picture, hpicture⟩
    obtain ⟨hwithin, hsize, -⟩ := (binarizedPicture_eq_ok_iff himage).mp hpicture
    exact ⟨hsize, hwithin⟩
  · rintro ⟨hsize, hwithin⟩
    exact ⟨_, (binarizedPicture_eq_ok_iff himage).mpr ⟨hwithin, hsize, rfl⟩⟩

/-- **Which images give a picture.**  Those with an area whose last index, if they have a pixel at
all, is one of the buffer; a buffer that rejects the image has none. -/
theorem returns_picture_iff (sourceAlpha : CGPoint → CGFloat) (image : BitmapImage)
    (hpadded : ∀ pixelBuffer, PixelBuffer.init image = .ok (some pixelBuffer) →
      pixelBuffer.Padded) :
    (∃ picture, binarizedPicture sourceAlpha image = .ok picture) ↔
      (0 < image.size.width ∧ 0 < image.size.height) ∧
        ∃ buffer, PixelBuffer.init image = .ok buffer ∧
          (image.wid = 0 ∨ image.hei = 0 ∨ ∃ pixelBuffer, buffer = some pixelBuffer ∧
            image.index (image.wid - 1) (image.hei - 1) <
              pixelBuffer.width * pixelBuffer.height) := by
  rcases hinit : PixelBuffer.init image with trap | _ | pixelBuffer
  · refine iff_of_false ?_ ?_
    · rintro ⟨picture, hpicture⟩
      unfold binarizedPicture image2Binary BitmapImage.channels at hpicture
      rw [hinit] at hpicture
      cases hpicture
    · rintro ⟨-, buffer, hbuffer, -⟩
      cases hbuffer
  · rw [exists_picture_iff (image2Binary_of_rejected hinit)]
    refine and_congr_right fun _ => ?_
    constructor
    · rintro (hwid | hhei | hlast)
      · exact ⟨none, rfl, Or.inl hwid⟩
      · exact ⟨none, rfl, Or.inr (Or.inl hhei)⟩
      · exact absurd hlast (Nat.not_lt_zero _)
    · rintro ⟨buffer, hbuffer, hwid | hhei | ⟨pixelBuffer, rfl, -⟩⟩
      · exact Or.inl hwid
      · exact Or.inr (Or.inl hhei)
      · cases hbuffer
  · rw [exists_picture_iff (image2Binary_of_accepted hinit (hpadded pixelBuffer hinit))]
    refine and_congr_right fun _ => ?_
    constructor
    · rintro (hwid | hhei | hlast)
      · exact ⟨_, rfl, Or.inl hwid⟩
      · exact ⟨_, rfl, Or.inr (Or.inl hhei)⟩
      · exact ⟨_, rfl, Or.inr (Or.inr ⟨pixelBuffer, rfl, hlast⟩)⟩
    · rintro ⟨buffer, hbuffer, hwid | hhei | ⟨found, rfl, hlast⟩⟩
      · exact Or.inl hwid
      · exact Or.inr (Or.inl hhei)
      · obtain rfl := Option.some.inj (Except.ok.inj hbuffer)
        exact Or.inr (Or.inr hlast)

/-- **What the picture shows.**  The square of a position shows the pixel that stands at its index
when the columns are read one after another, black or white by a sum in which green and blue have
changed places, with the alpha of that pixel and of the image scaled down to the square; everything
else is clear. -/
theorem binarized_picture (sourceAlpha : CGPoint → CGFloat) (image : BitmapImage)
    (pixelBuffer : PixelBuffer) (hinit : PixelBuffer.init image = .ok (some pixelBuffer))
    (hpadded : pixelBuffer.Padded) (picture : Picture)
    (hpicture : binarizedPicture sourceAlpha image = .ok picture) (p : CGPoint) :
    (∀ w < image.wid, ∀ h < image.hei, InSquare w h p →
      let i := w * image.wid + h
      let component := pixelBuffer.componentOf (i / pixelBuffer.height) (i % pixelBuffer.height)
      let level : CGFloat := if 128 / 255 < 0.2126 * component 0 + 0.7152 * component 2 +
        0.0722 * component 1 then 255 else 0
      picture p = ⟨level, level, level, component 3 * sourceAlpha (p.1 - w, p.2 - h)⟩) ∧
    ((∀ w < image.wid, ∀ h < image.hei, ¬ InSquare w h p) → picture p = .clear) := by
  obtain ⟨-, -, rfl⟩ :=
    (binarizedPicture_eq_ok_iff (image2Binary_of_accepted hinit hpadded)).mp hpicture
  constructor
  · intro w hw h hh hsquare
    exact paint_drawings.1 w hw h hh hsquare
  · intro hout
    exact paint_drawings.2 hout

/-! ### A column of two pixels -/

theorem returns_picture_iff_tallImage :
    ∃ picture, binarizedPicture (fun _ => 1) tallImage = .ok picture :=
  (returns_picture_iff (fun _ => 1) tallImage (by
    rintro pixelBuffer hinit
    obtain rfl := Option.some.inj (Except.ok.inj hinit)
    exact ⟨by decide, by decide⟩)).mpr
    ⟨by decide +kernel, _, rfl, Or.inr (Or.inr ⟨_, rfl, by decide +kernel⟩)⟩

/-- The lower pixel is black. -/
theorem binarized_picture_tallImage :
    ∃ picture, binarizedPicture (fun _ => 1) tallImage = .ok picture ∧
      picture (1 / 2, 3 / 2) = ⟨0, 0, 0, 1⟩ := by
  refine ⟨_, rfl, ?_⟩
  have hsquare : InSquare 0 1 (1 / 2, 3 / 2) := by norm_num [InSquare]
  have hcolor := (binarized_picture (fun _ => 1) tallImage _ rfl ⟨by decide, by decide⟩ _ rfl
    (1 / 2, 3 / 2)).1 0 (by decide +kernel) 1 (by decide +kernel) hsquare
  refine hcolor.trans ?_
  decide +kernel

end Procon
