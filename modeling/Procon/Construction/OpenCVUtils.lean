import Mathlib.Data.Int.Notation
import Mathlib.Data.List.Basic

/-!
# `OpenCVUtils`

`rgb2binary` hands an image to OpenCV, converts it and takes it back; all the work is done by
three functions of the library.  `OpenCV` is the library as a parameter, and `OpenCV.Documented`
what is known of the three: `UIImageToMat` yields the channels in the order red, green, blue,
alpha, `cvtColor` with `COLOR_BGR2GRAY` weights the channels 0, 1 and 2 by 0.114, 0.587 and 0.299,
and `MatToUIImage` shows a matrix of one channel in grey.  How `cvtColor` rounds is not documented;
`RGB2GrayConvert` is the fixed-point arithmetic of the library's headers.
-/

namespace Procon

/-- A pixel of an image. -/
structure Pixel where
  red : UInt8
  green : UInt8
  blue : UInt8
  alpha : UInt8
  deriving DecidableEq

namespace Pixel

/-- The opaque pixel of a grey level. -/
def grey (level : UInt8) : Pixel := ⟨level, level, level, 255⟩

def white : Pixel := grey 255

end Pixel

/-- The pixels of an image, row after row. -/
structure PixelImage where
  width : ℕ
  pixels : List Pixel
  deriving DecidableEq

/-! ## The library -/

/-- `cv::Mat`: the channels of each element, row after row. -/
structure Mat where
  cols : ℕ
  elements : List (List UInt8)
  deriving DecidableEq

inductive ColorConversionCode
  | COLOR_BGR2GRAY
  deriving DecidableEq

/-- The three functions of OpenCV that the app calls. -/
structure OpenCV where
  UIImageToMat : PixelImage → Mat
  cvtColor : Mat → ColorConversionCode → Mat
  MatToUIImage : Mat → PixelImage

def gray_shift : ℕ := 15
def RY15 : ℕ := 9798
def GY15 : ℕ := 19235
def BY15 : ℕ := 3735

def CV_DESCALE (x n : ℕ) : ℕ := (x + 1 <<< (n - 1)) >>> n

/-- The level of an element, the weights being rounded to multiples of `2 ^ -15`. -/
def RGB2GrayConvert (b g r : UInt8) : UInt8 :=
  .ofNat (CV_DESCALE (b.toNat * BY15 + g.toNat * GY15 + r.toNat * RY15) gray_shift)

/-- The three functions keep the size of an image. -/
structure OpenCV.KeepsSize (cv : OpenCV) : Prop where
  cols_UIImageToMat : ∀ image, (cv.UIImageToMat image).cols = image.width
  length_UIImageToMat : ∀ image, (cv.UIImageToMat image).elements.length = image.pixels.length
  cols_cvtColor : ∀ mat code, (cv.cvtColor mat code).cols = mat.cols
  length_cvtColor : ∀ mat code, (cv.cvtColor mat code).elements.length = mat.elements.length
  width_MatToUIImage : ∀ mat, (cv.MatToUIImage mat).width = mat.cols
  length_MatToUIImage : ∀ mat, (cv.MatToUIImage mat).pixels.length = mat.elements.length

/-- Black stays black all the way, however the channels are ordered and weighted. -/
structure OpenCV.KeepsBlack (cv : OpenCV) : Prop extends cv.KeepsSize where
  black_UIImageToMat : ∀ (image : PixelImage) (i : ℕ) (alpha : UInt8),
    image.pixels[i]? = some ⟨0, 0, 0, alpha⟩ →
      ∃ rest, (cv.UIImageToMat image).elements[i]? = some (0 :: 0 :: 0 :: rest)
  black_cvtColor : ∀ (mat : Mat) (i : ℕ) (rest : List UInt8),
    mat.elements[i]? = some (0 :: 0 :: 0 :: rest) →
      (cv.cvtColor mat .COLOR_BGR2GRAY).elements[i]? = some [0]
  black_MatToUIImage : ∀ (mat : Mat) (i : ℕ),
    mat.elements[i]? = some [0] → (cv.MatToUIImage mat).pixels[i]? = some (.grey 0)

/-- What the documentation and the headers of OpenCV say of the three functions. -/
structure OpenCV.Documented (cv : OpenCV) : Prop extends cv.KeepsSize where
  elements_UIImageToMat : ∀ image, (cv.UIImageToMat image).elements =
    image.pixels.map fun pixel => [pixel.red, pixel.green, pixel.blue, pixel.alpha]
  elements_cvtColor : ∀ (mat : Mat) (i : ℕ) (c₀ c₁ c₂ : UInt8) (rest : List UInt8),
    mat.elements[i]? = some (c₀ :: c₁ :: c₂ :: rest) →
      (cv.cvtColor mat .COLOR_BGR2GRAY).elements[i]? = some [RGB2GrayConvert c₀ c₁ c₂]
  pixels_MatToUIImage : ∀ (mat : Mat) (i : ℕ) (level : UInt8),
    mat.elements[i]? = some [level] → (cv.MatToUIImage mat).pixels[i]? = some (.grey level)

/-- The three functions, as the headers have them. -/
def documentedOpenCV : OpenCV where
  UIImageToMat image := ⟨image.width,
    image.pixels.map fun pixel => [pixel.red, pixel.green, pixel.blue, pixel.alpha]⟩
  cvtColor mat _ := ⟨mat.cols, mat.elements.map fun
    | c₀ :: c₁ :: c₂ :: _ => [RGB2GrayConvert c₀ c₁ c₂]
    | element => element⟩
  MatToUIImage mat := ⟨mat.cols, mat.elements.map fun
    | [level] => .grey level
    | _ => .white⟩

/-! ## The app's function -/

namespace OpenCVUtils

/-- `rgb2binary:threshold:`, which does not use its threshold. -/
def rgb2binary (cv : OpenCV) (image : PixelImage) (_threshold : ℤ) : PixelImage :=
  let img_Mat := cv.UIImageToMat image
  let img_Mat := cv.cvtColor img_Mat .COLOR_BGR2GRAY
  cv.MatToUIImage img_Mat

end OpenCVUtils

end Procon
