import Procon.Construction.OpenCVUtils
import Mathlib.Data.Rat.Cast.Order
import Mathlib.Tactic.Linarith
import Mathlib.Tactic.Positivity

/-!
# What `rgb2binary` makes of an image

A binarized image has two values, white where the luminance of the pixel exceeds the threshold and
another one elsewhere.  `rgb2binary` converts to grey levels and stops there, and the weights of
red and blue are interchanged on the way.  `pixels_rgb2binary` says what each pixel becomes, and
`binarizes_iff` for which images this happens to be a binarization by the threshold.

That no other image than a black one is binarized by every threshold, `forall_binarizes_iff`, does
not depend on how the levels are weighted and rounded.
-/

namespace Procon

open OpenCVUtils

namespace Pixel

/-- The luminance of a pixel. -/
def luminance (pixel : Pixel) : ℚ :=
  0.299 * pixel.red.toNat + 0.587 * pixel.green.toNat + 0.114 * pixel.blue.toNat

/-- The luminance with the weights of red and blue interchanged, in units of `2 ^ -15`. -/
def swappedLuminance (pixel : Pixel) : ℕ :=
  3735 * pixel.red.toNat + 19235 * pixel.green.toNat + 9798 * pixel.blue.toNat

/-- The level that a pixel is converted to. -/
def level (pixel : Pixel) : UInt8 := RGB2GrayConvert pixel.red pixel.green pixel.blue

end Pixel

/-- The result has the size of the image and two values, white and one that is not, and it is
white exactly where the luminance exceeds the threshold. -/
def Binarizes (cv : OpenCV) (image : PixelImage) (threshold : ℤ) : Prop :=
  (rgb2binary cv image threshold).width = image.width ∧
  (rgb2binary cv image threshold).pixels.length = image.pixels.length ∧
  ∃ dark : UInt8, dark ≠ 255 ∧ ∀ (i : ℕ) (pixel : Pixel), image.pixels[i]? = some pixel →
    ∃ pixel', (rgb2binary cv image threshold).pixels[i]? = some pixel' ∧
      (pixel' = .white ∨ pixel' = .grey dark) ∧ (pixel' = .white ↔ threshold < pixel.luminance)

/-! ## Grey levels -/

variable {cv : OpenCV} {image : PixelImage} {threshold : ℤ} {pixel : Pixel} {level dark : UInt8}

lemma grey_injective : Function.Injective Pixel.grey := fun _ _ h => congrArg Pixel.red h

lemma toNat_level : pixel.level.toNat = (pixel.swappedLuminance + 2 ^ 14) / 2 ^ 15 := by
  have hr := pixel.red.toNat_lt
  have hg := pixel.green.toNat_lt
  have hb := pixel.blue.toNat_lt
  have hsum : pixel.red.toNat * BY15 + pixel.green.toNat * GY15 + pixel.blue.toNat * RY15 =
      pixel.swappedLuminance := by
    unfold BY15 GY15 RY15 Pixel.swappedLuminance
    omega
  have hle : pixel.swappedLuminance ≤ 255 * 2 ^ 15 := by
    unfold Pixel.swappedLuminance
    omega
  unfold Pixel.level RGB2GrayConvert CV_DESCALE gray_shift
  rw [hsum, UInt8.toNat_ofNat', Nat.shiftRight_eq_div_pow, Nat.shiftLeft_eq]
  omega

/-- A level stands for the sums within half a level of it. -/
lemma level_eq_iff : pixel.level = level ↔
    level.toNat * 2 ^ 15 ≤ pixel.swappedLuminance + 2 ^ 14 ∧
      pixel.swappedLuminance + 2 ^ 14 < (level.toNat + 1) * 2 ^ 15 := by
  rw [← UInt8.toNat_inj, toNat_level]
  omega

/-- No sum is above that of white. -/
lemma level_eq_white_iff : pixel.level = 255 ↔ 255 * 2 ^ 15 ≤ pixel.swappedLuminance + 2 ^ 14 := by
  have hr := pixel.red.toNat_lt
  have hg := pixel.green.toNat_lt
  have hb := pixel.blue.toNat_lt
  rw [level_eq_iff, show (255 : UInt8).toNat = 255 from rfl, Pixel.swappedLuminance]
  omega

/-- **What `rgb2binary` makes of a pixel**, whatever the threshold. -/
theorem pixels_rgb2binary (hcv : cv.Documented) (threshold : ℤ) {i : ℕ}
    (hpixel : image.pixels[i]? = some pixel) :
    (rgb2binary cv image threshold).pixels[i]? = some (.grey pixel.level) := by
  have hmat : (cv.UIImageToMat image).elements[i]? =
      some [pixel.red, pixel.green, pixel.blue, pixel.alpha] := by
    rw [hcv.elements_UIImageToMat, List.getElem?_map, hpixel]
    rfl
  exact hcv.pixels_MatToUIImage _ i _ (hcv.elements_cvtColor _ i _ _ _ _ hmat)

lemma size_rgb2binary (hcv : cv.KeepsSize) (image : PixelImage) (threshold : ℤ) :
    (rgb2binary cv image threshold).width = image.width ∧
      (rgb2binary cv image threshold).pixels.length = image.pixels.length := by
  constructor
  · rw [rgb2binary, hcv.width_MatToUIImage, hcv.cols_cvtColor, hcv.cols_UIImageToMat]
  · rw [rgb2binary, hcv.length_MatToUIImage, hcv.length_cvtColor, hcv.length_UIImageToMat]

/-- A binarization in terms of levels. -/
lemma binarizes_iff_level (hcv : cv.Documented) :
    Binarizes cv image threshold ↔
      ∃ dark : UInt8, dark ≠ 255 ∧ ∀ pixel ∈ image.pixels,
        (threshold < pixel.luminance ∧ pixel.level = 255) ∨
        (pixel.luminance ≤ threshold ∧ pixel.level = dark) := by
  constructor
  · rintro ⟨-, -, dark, hne, hpixels⟩
    refine ⟨dark, hne, fun pixel hmem => ?_⟩
    obtain ⟨i, hi⟩ := List.mem_iff_getElem?.mp hmem
    obtain ⟨pixel', hpixel', hvalue, hwhite⟩ := hpixels i pixel hi
    obtain rfl : Pixel.grey pixel.level = pixel' :=
      Option.some.inj ((pixels_rgb2binary hcv threshold hi).symm.trans hpixel')
    by_cases hlt : threshold < pixel.luminance
    · exact Or.inl ⟨hlt, grey_injective (hwhite.mpr hlt)⟩
    · exact Or.inr ⟨not_lt.mp hlt,
        grey_injective (hvalue.resolve_left fun h => hlt (hwhite.mp h))⟩
  · rintro ⟨dark, hne, hpixels⟩
    obtain ⟨hwidth, hlength⟩ := size_rgb2binary hcv.toKeepsSize image threshold
    refine ⟨hwidth, hlength, dark, hne, fun i pixel hi => ?_⟩
    refine ⟨.grey pixel.level, pixels_rgb2binary hcv threshold hi, ?_⟩
    rcases hpixels pixel (List.mem_of_getElem? hi) with ⟨hlt, hwhite⟩ | ⟨hle, hlow⟩
    · rw [hwhite]
      exact ⟨Or.inl rfl, iff_of_true rfl hlt⟩
    · rw [hlow]
      refine ⟨Or.inr rfl, iff_of_false ?_ (not_lt.mpr hle)⟩
      exact fun h => hne (grey_injective h)

/-- **Which images are binarized.**  The result is a binarization by the threshold exactly when
every pixel above the threshold is within half a level of white once red and blue have changed
places, and all other pixels are within half a level of one darker level. -/
theorem binarizes_iff (cv : OpenCV) (hcv : cv.Documented) (image : PixelImage) (threshold : ℤ) :
    Binarizes cv image threshold ↔
      ∃ dark : UInt8, dark ≠ 255 ∧ ∀ pixel ∈ image.pixels,
        (threshold < pixel.luminance ∧ 255 * 2 ^ 15 ≤ pixel.swappedLuminance + 2 ^ 14) ∨
        (pixel.luminance ≤ threshold ∧
          dark.toNat * 2 ^ 15 ≤ pixel.swappedLuminance + 2 ^ 14 ∧
          pixel.swappedLuminance + 2 ^ 14 < (dark.toNat + 1) * 2 ^ 15) := by
  simp only [binarizes_iff_level hcv, ← level_eq_white_iff, ← level_eq_iff]

/-! ## All thresholds of the slider -/

lemma component_le (c : UInt8) : (c.toNat : ℚ) ≤ 255 := by
  have h := c.toNat_lt
  have hle : c.toNat ≤ 255 := by omega
  exact_mod_cast hle

lemma luminance_le (pixel : Pixel) : pixel.luminance ≤ 255 := by
  have hr := component_le pixel.red
  have hg := component_le pixel.green
  have hb := component_le pixel.blue
  rw [Pixel.luminance]
  linarith

lemma luminance_nonneg (pixel : Pixel) : 0 ≤ pixel.luminance := by
  rw [Pixel.luminance]
  positivity

lemma eq_black_of_luminance (h : pixel.luminance = 0) : pixel = ⟨0, 0, 0, pixel.alpha⟩ := by
  obtain ⟨red, green, blue, alpha⟩ := pixel
  have hr : (0 : ℚ) ≤ red.toNat := Nat.cast_nonneg _
  have hg : (0 : ℚ) ≤ green.toNat := Nat.cast_nonneg _
  have hb : (0 : ℚ) ≤ blue.toNat := Nat.cast_nonneg _
  have hzero : ∀ {c : UInt8}, (c.toNat : ℚ) ≤ 0 → c = 0 := by
    intro c hc
    have hnat : c.toNat ≤ 0 := by exact_mod_cast hc
    exact UInt8.toNat.inj (Nat.le_zero.mp hnat)
  rw [Pixel.luminance] at h
  dsimp only at h
  rw [hzero (c := red) (by linarith), hzero (c := green) (by linarith),
    hzero (c := blue) (by linarith)]

/-- **Only a black image is binarized by every threshold of the slider.** -/
theorem forall_binarizes_iff (hcv : cv.KeepsBlack) :
    (∀ threshold : ℤ, 0 ≤ threshold → threshold ≤ 255 → Binarizes cv image threshold) ↔
      ∀ pixel ∈ image.pixels, pixel.luminance = 0 := by
  constructor
  · intro hall pixel hmem
    obtain ⟨i, hi⟩ := List.mem_iff_getElem?.mp hmem
    -- nothing is above the last threshold, so the pixel does not become white
    obtain ⟨-, -, _, -, hlast⟩ := hall 255 (by omega) (by omega)
    obtain ⟨last, hlast, -, hwhite⟩ := hlast i pixel hi
    have hne : last ≠ .white := by
      intro heq
      exact absurd (hwhite.mp heq) (not_lt.mpr (by exact_mod_cast luminance_le pixel))
    -- it becomes the same at the first threshold, which is not used
    obtain ⟨-, -, _, -, hfirst⟩ := hall 0 (by omega) (by omega)
    obtain ⟨first, hfirst, -, hwhite⟩ := hfirst i pixel hi
    obtain rfl : last = first := Option.some.inj (hlast.symm.trans hfirst)
    have hle : pixel.luminance ≤ 0 := by
      by_contra hlt
      exact hne (hwhite.mpr (by exact_mod_cast not_le.mp hlt))
    exact le_antisymm hle (luminance_nonneg pixel)
  · intro hblack threshold hthreshold _
    obtain ⟨hwidth, hlength⟩ := size_rgb2binary hcv.toKeepsSize image threshold
    refine ⟨hwidth, hlength, 0, by decide, fun i pixel hi => ?_⟩
    have hzero := hblack pixel (List.mem_of_getElem? hi)
    have hpixel : image.pixels[i]? = some ⟨0, 0, 0, pixel.alpha⟩ :=
      hi.trans (congrArg some (eq_black_of_luminance hzero))
    obtain ⟨rest, hmat⟩ := hcv.black_UIImageToMat image i pixel.alpha hpixel
    refine ⟨.grey 0, hcv.black_MatToUIImage _ i (hcv.black_cvtColor _ i rest hmat), Or.inr rfl,
      iff_of_false (by decide) ?_⟩
    rw [hzero]
    exact not_lt.mpr (by exact_mod_cast hthreshold)

/-! ### A grey pixel -/

lemma keepsSize_documentedOpenCV : documentedOpenCV.KeepsSize where
  cols_UIImageToMat _ := rfl
  length_UIImageToMat _ := List.length_map _
  cols_cvtColor _ _ := rfl
  length_cvtColor _ _ := List.length_map _
  width_MatToUIImage _ := rfl
  length_MatToUIImage _ := List.length_map _

lemma documented_documentedOpenCV : documentedOpenCV.Documented where
  toKeepsSize := keepsSize_documentedOpenCV
  elements_UIImageToMat _ := rfl
  elements_cvtColor mat i c₀ c₁ c₂ rest h := by simp [documentedOpenCV, h]
  pixels_MatToUIImage mat i level h := by simp [documentedOpenCV, h]

/-- What is documented keeps black. -/
lemma OpenCV.Documented.keepsBlack (hcv : cv.Documented) : cv.KeepsBlack where
  toKeepsSize := hcv.toKeepsSize
  black_UIImageToMat image i alpha h := by
    refine ⟨[alpha], ?_⟩
    rw [hcv.elements_UIImageToMat, List.getElem?_map, h]
    rfl
  black_cvtColor mat i rest h := hcv.elements_cvtColor mat i 0 0 0 rest h
  black_MatToUIImage mat i h := hcv.pixels_MatToUIImage mat i 0 h

/-- One pixel of a middle grey. -/
def greyImage : PixelImage := ⟨1, [.grey 100]⟩

theorem binarizes_iff_greyImage :
    Binarizes documentedOpenCV greyImage 50 ↔
      ∃ dark : UInt8, dark ≠ 255 ∧ ∀ pixel ∈ greyImage.pixels,
        ((50 : ℤ) < pixel.luminance ∧ 255 * 2 ^ 15 ≤ pixel.swappedLuminance + 2 ^ 14) ∨
        (pixel.luminance ≤ (50 : ℤ) ∧
          dark.toNat * 2 ^ 15 ≤ pixel.swappedLuminance + 2 ^ 14 ∧
          pixel.swappedLuminance + 2 ^ 14 < (dark.toNat + 1) * 2 ^ 15) :=
  binarizes_iff documentedOpenCV documented_documentedOpenCV greyImage 50

theorem forall_binarizes_iff_greyImage :
    (∀ threshold : ℤ, 0 ≤ threshold → threshold ≤ 255 →
        Binarizes documentedOpenCV greyImage threshold) ↔
      ∀ pixel ∈ greyImage.pixels, pixel.luminance = 0 :=
  forall_binarizes_iff documented_documentedOpenCV.keepsBlack

/-- The pixel is brighter than the threshold and stays grey. -/
theorem grey_pixel_stays_grey :
    documentedOpenCV.Documented ∧
      (rgb2binary documentedOpenCV greyImage 50).pixels = [.grey 100] ∧
      (50 : ℤ) < (Pixel.grey 100).luminance ∧ ¬ Binarizes documentedOpenCV greyImage 50 := by
  have hresult : (rgb2binary documentedOpenCV greyImage 50).pixels = [.grey 100] := by decide
  have hbright : ((50 : ℤ) : ℚ) < (Pixel.grey 100).luminance := by decide +kernel
  refine ⟨documented_documentedOpenCV, hresult, hbright, ?_⟩
  rintro ⟨-, -, dark, -, hpixels⟩
  obtain ⟨pixel', hpixel', -, hwhite⟩ := hpixels 0 (.grey 100) rfl
  rw [hresult] at hpixel'
  obtain rfl := Option.some.inj hpixel'
  exact absurd (hwhite.mpr hbright) (by decide)

end Procon
