import Procon.Construction.ImageProcess
import Procon.Framework.Painting

/-!
# The graphics context of `createBinarizedImage`

Each iteration of the drawing loop fills a unit square of the image context, and then draws the
image itself into that square with `.destinationIn`: the whole image, scaled down to the square,
whose alpha scales the alpha of what is there and leaves its color.  How a scaled image is sampled
is up to Core Graphics; `sourceAlpha` is the alpha that it finds, in coordinates of the square.

The context is as large as the image and clear at first.  There is none for a size without area,
and then `UIGraphicsGetImageFromCurrentImageContext` is nil.
-/

namespace Procon

open Painting

abbrev CGPoint := CGFloat × CGFloat

/-- The points that a filled rectangle covers: of its edges, the upper and the left one. -/
def CGRect.covers (rect : CGRect) (p : CGPoint) : Bool :=
  decide (rect.x ≤ p.1 ∧ p.1 < rect.maxX ∧ rect.y ≤ p.2 ∧ p.2 < rect.maxY)

def UIColor.clear : UIColor := ⟨0, 0, 0, 0⟩

/-- `UIRectFill` with the color that is set: a copy, whatever is there. -/
def UIRectFill (color : UIColor) (rect : CGRect) : Stroke CGPoint UIColor where
  covers := CGRect.covers rect
  recolor _ _ := color

/-- `draw(in:blendMode:alpha:)` with `.destinationIn` and alpha 1. -/
def drawDestinationIn (sourceAlpha : CGPoint → CGFloat) (rect : CGRect) :
    Stroke CGPoint UIColor where
  covers := CGRect.covers rect
  recolor p color :=
    { color with
      alpha := color.alpha *
        sourceAlpha ((p.1 - rect.x) / rect.width, (p.2 - rect.y) / rect.height) }

/-- The two strokes of one iteration. -/
def PixelDrawing.strokes (sourceAlpha : CGPoint → CGFloat) (pixel : PixelDrawing) :
    List (Stroke CGPoint UIColor) :=
  [UIRectFill pixel.color pixel.drawRect, drawDestinationIn sourceAlpha pixel.drawRect]

/-- A picture gives each point its color. -/
abbrev Picture := CGPoint → UIColor

/-- `UIGraphicsGetImageFromCurrentImageContext()` after some drawings. -/
def imageFromCurrentContext (sourceAlpha : CGPoint → CGFloat) (size : CGSize)
    (drawn : List PixelDrawing) : Option Picture :=
  if 0 < size.width ∧ 0 < size.height then
    some fun p => paint (drawn.flatMap (PixelDrawing.strokes sourceAlpha)) p .clear
  else none

/-- What `ImageProcess.image2Binary(image:)` returns. -/
def binarizedPicture (sourceAlpha : CGPoint → CGFloat) (image : BitmapImage) :
    Except Trap Picture := do
  let drawn ← image2Binary image
  unwrap "UIGraphicsGetImageFromCurrentImageContext()"
    (imageFromCurrentContext sourceAlpha image.size drawn)

end Procon
