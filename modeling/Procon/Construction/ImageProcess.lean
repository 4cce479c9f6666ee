import Procon.Construction.CoreGraphics
import Procon.Framework.NestedLoop
import Mathlib.Data.Rat.Floor

/-!
# Binarizing an image

`image2Binary` reads the pixels of an image into four lists, one for each channel, and
`createBinarizedImage` draws a black or white pixel for each entry.  `PixelBuffer` gives access to
the bytes of an image with four bytes to a pixel; a row of it may be padded.  The two functions
agree on nothing but the order of the entries: the first appends column by column, the second
computes an index into the lists.
-/

namespace Procon

open NestedLoop

/-! ## Images -/

structure DataProvider where
  data : Option (List UInt8)

structure CGImage where
  bitsPerComponent : ℕ
  bitsPerPixel : ℕ
  width : ℕ
  height : ℕ
  bytesPerRow : ℕ
  dataProvider : Option DataProvider

/-- A `UIImage`, as far as its bitmap tells. -/
structure BitmapImage where
  size : CGSize
  cgImage : Option CGImage

/-! ## The pixel buffer -/

structure PixelBuffer where
  pixelData : List UInt8
  width : ℕ
  height : ℕ
  bytesPerRow : ℕ

namespace PixelBuffer

/-- Only data with four bytes to a pixel is handled. -/
def bytesPerPixel : ℕ := 4

/-- `init?(uiImage:)`: nil for an image of another format. -/
def init (uiImage : BitmapImage) : Except Trap (Option PixelBuffer) :=
  match uiImage.cgImage with
  | none => .ok none
  | some cgImage =>
      if cgImage.bitsPerComponent = 8 ∧ cgImage.bitsPerPixel = bytesPerPixel * 8 then do
        let dataProvider ← unwrap "cgImage.dataProvider" cgImage.dataProvider
        let pixelData ← unwrap "cgImage.dataProvider!.data" dataProvider.data
        return some ⟨pixelData, cgImage.width, cgImage.height, cgImage.bytesPerRow⟩
      else
        .ok none

def pixelInfo (pixelBuffer : PixelBuffer) (x y : ℕ) : ℕ :=
  pixelBuffer.bytesPerRow * y + x * bytesPerPixel

/-- The component of a pixel that is `offset` bytes into it. -/
def component (pixelBuffer : PixelBuffer) (offset x y : ℕ) : Except Trap CGFloat :=
  (subscript "pixelData" pixelBuffer.pixelData (pixelBuffer.pixelInfo x y + offset)).map
    fun byte => (byte.toNat : CGFloat) / 255

def getRed (pixelBuffer : PixelBuffer) (x y : ℕ) : Except Trap CGFloat :=
  pixelBuffer.component 0 x y

def getGreen (pixelBuffer : PixelBuffer) (x y : ℕ) : Except Trap CGFloat :=
  pixelBuffer.component 1 x y

def getBlue (pixelBuffer : PixelBuffer) (x y : ℕ) : Except Trap CGFloat :=
  pixelBuffer.component 2 x y

def getAlpha (pixelBuffer : PixelBuffer) (x y : ℕ) : Except Trap CGFloat :=
  pixelBuffer.component 3 x y

end PixelBuffer

/-! ## The producer -/

/-- What one iteration appends to the four lists. -/
structure Sample where
  r : CGFloat
  g : CGFloat
  b : CGFloat
  a : CGFloat
  deriving DecidableEq

/-- The four lists of `image2Binary`. -/
structure Channels where
  r : List CGFloat
  g : List CGFloat
  b : List CGFloat
  a : List CGFloat
  deriving DecidableEq

namespace Channels

def empty : Channels := ⟨[], [], [], []⟩

def append (lists : Channels) (sample : Sample) : Channels where
  r := lists.r ++ [sample.r]
  g := lists.g ++ [sample.g]
  b := lists.b ++ [sample.b]
  a := lists.a ++ [sample.a]

end Channels

/-- The four reads of one iteration: `g` gets what `getBlue` returns, `b` what `getGreen` does. -/
def readSample (pixelBuffer : PixelBuffer) (x y : ℕ) : Except Trap Sample := do
  let red ← pixelBuffer.getRed x y
  let blue ← pixelBuffer.getBlue x y
  let green ← pixelBuffer.getGreen x y
  let alpha ← pixelBuffer.getAlpha x y
  return { r := red, g := blue, b := green, a := alpha }

/-- The loop that fills the lists. -/
def readChannels (pixelBuffer : PixelBuffer) : Except Trap Channels :=
  nestedLoop pixelBuffer.width pixelBuffer.height
    (fun x y lists => (readSample pixelBuffer x y).map lists.append) .empty

/-- The lists that `image2Binary` passes on: they stay empty for an image of another format. -/
def BitmapImage.channels (image : BitmapImage) : Except Trap Channels := do
  match ← PixelBuffer.init image with
  | some pixelBuffer => readChannels pixelBuffer
  | none => return .empty

/-! ## The consumer -/

structure UIColor where
  red : CGFloat
  green : CGFloat
  blue : CGFloat
  alpha : CGFloat
  deriving DecidableEq

/-- A color is white when all its components are at their maximum or beyond. -/
def UIColor.isWhite (color : UIColor) : Prop := 1 ≤ color.red ∧ 1 ≤ color.green ∧ 1 ≤ color.blue

instance (color : UIColor) : Decidable color.isWhite := inferInstanceAs (Decidable (_ ∧ _))

/-- What one iteration draws: the rectangle filled with the color, and the image drawn into it
with `.destinationIn`, which keeps the color and scales its alpha by that of the image. -/
structure PixelDrawing where
  color : UIColor
  drawRect : CGRect
  deriving DecidableEq

def threshold : CGFloat := 128 / 255

/-- The weighted sum of a sample that is compared with the threshold. -/
def weightedSum (r g b : CGFloat) : CGFloat := 0.2126 * r + 0.7152 * g + 0.0722 * b

namespace BitmapImage

/-- `Int(size.width)`; no size is negative. -/
def wid (image : BitmapImage) : ℕ := ⌊image.size.width⌋.toNat

def hei (image : BitmapImage) : ℕ := ⌊image.size.height⌋.toNat

/-- The index of the entry for the position `(w, h)`. -/
def index (image : BitmapImage) (w h : ℕ) : ℕ := (w * image.wid) + h

/-- One iteration of the drawing loop. -/
def drawPixel (image : BitmapImage) (r g b a : List CGFloat) (w h : ℕ) :
    Except Trap PixelDrawing := do
  let index := image.index w h
  let color := weightedSum (← subscript "r" r index) (← subscript "g" g index)
    (← subscript "b" b index)
  let color := if color > threshold then 255 else 0
  let alpha ← subscript "a" a index
  return ⟨⟨color, color, color, alpha⟩, ⟨w, h, 1, 1⟩⟩

/-- The drawing of the image that `createBinarizedImage(r:g:b:a:)` returns. -/
def createBinarizedImage (image : BitmapImage) (r g b a : List CGFloat) :
    Except Trap (List PixelDrawing) :=
  nestedLoop image.wid image.hei
    (fun w h drawn => (image.drawPixel r g b a w h).map fun pixel => drawn ++ [pixel]) []

end BitmapImage

def image2Binary (image : BitmapImage) : Except Trap (List PixelDrawing) := do
  let lists ← image.channels
  image.createBinarizedImage lists.r lists.g lists.b lists.a

end Procon
