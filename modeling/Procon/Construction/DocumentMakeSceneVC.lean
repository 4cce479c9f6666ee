import Procon.Construction.OpenCVUtils

/-!
# Recognizing the text of a picture

`DocumentMakeSceneVC` shows the picture that was picked last and a text view.  A tap on extract
hands the picture to the text recognizer, as it is or in binary; the reply overwrites the text
view whenever it arrives, and nothing in it tells which picture was asked about.  A tap on save
fills in the next screen with the picture and the text that are shown.

`outcome n` is what the recognizer makes of its `n`-th request: the texts of the blocks it finds,
or `none` for an error.  Replies arrive in any order, each at most once.  The user does not edit
the text.
-/

namespace Procon

/-- A request to the recognizer. -/
structure TextRequest where
  /-- The target image when the button was tapped. -/
  target : PixelImage
  /-- The image that the recognizer processes. -/
  image : PixelImage
  answered : Bool
  deriving DecidableEq

/-- What the make screen fills in on the save screen. -/
structure ReceivedDocument where
  receivedImage : Option PixelImage
  receivedTextFromPreScene : String
  deriving DecidableEq

structure DocumentMakeSceneVC where
  targetImage : Option PixelImage
  /-- `readImage.image`. -/
  readImage : Option PixelImage
  /-- `sentenceView.text`. -/
  sentenceView : String
  /-- The requests made so far. -/
  requests : List TextRequest
  deriving DecidableEq

inductive MakeEvent
  /-- `info[.originalImage] as? UIImage`. -/
  | didFinishPickingMedia (originalImage : Option PixelImage)
  /-- The state of the switch, and `Int32(sliderValue.value)`. -/
  | extractButtonTapped (binarySwitchIsOn : Bool) (threshold : ℤ)
  /-- The reply to a request. -/
  | processed (request : ℕ)
  | saveButtonTapped
  deriving DecidableEq

/-- The sentence that is put together from the blocks of a result. -/
def recognizedSentence (blocks : List String) : String :=
  blocks.foldl (fun recognizedSentence blockText => recognizedSentence ++ (blockText ++ " ")) ""

namespace DocumentMakeSceneVC

def updateSentenceView (sentence : String) (vc : DocumentMakeSceneVC) : DocumentMakeSceneVC :=
  { vc with sentenceView := sentence }

/-- `viewDidLoad()`; the storyboard provides the picture that is shown at first. -/
def viewDidLoad (noimage : Option PixelImage) : DocumentMakeSceneVC :=
  updateSentenceView "text field for recognized text"
    { targetImage := none
      readImage := noimage
      sentenceView := ""
      requests := [] }

/-- `extractTextFromImage(_:)` hands an image over that was made from the picture `target`. -/
def extractTextFromImage (image target : PixelImage) (vc : DocumentMakeSceneVC) :
    DocumentMakeSceneVC :=
  { vc with requests := vc.requests ++ [{ target := target, image := image, answered := false }] }

/-- The completion handler of a request. -/
def process (outcome : Option (List String)) (vc : DocumentMakeSceneVC) : DocumentMakeSceneVC :=
  match outcome with
  | none => vc.updateSentenceView "failed to recognize text from image"
  | some blocks => vc.updateSentenceView (recognizedSentence blocks)

def extractButtonTapped (cv : OpenCV) (binarySwitchIsOn : Bool) (threshold : ℤ)
    (vc : DocumentMakeSceneVC) : DocumentMakeSceneVC :=
  match vc.targetImage with
  | some target =>
      if binarySwitchIsOn then
        vc.extractTextFromImage (OpenCVUtils.rgb2binary cv target threshold) target
      else
        vc.extractTextFromImage target target
  | none => vc

/-- `imagePickerController(_:didFinishPickingMediaWithInfo:)`. -/
def imagePickerController (originalImage : Option PixelImage) (vc : DocumentMakeSceneVC) :
    DocumentMakeSceneVC :=
  match originalImage with
  | some pickedImage => { vc with readImage := some pickedImage, targetImage := some pickedImage }
  | none => vc

/-- What `saveButtonTapped(_:)` sets in the next scene. -/
def saveButtonTapped (vc : DocumentMakeSceneVC) : ReceivedDocument where
  receivedImage := vc.readImage
  receivedTextFromPreScene := vc.sentenceView

/-- One event of the screen. -/
def step (cv : OpenCV) (outcome : ℕ → Option (List String)) (vc : DocumentMakeSceneVC) :
    MakeEvent → Option DocumentMakeSceneVC
  | .didFinishPickingMedia originalImage => some (vc.imagePickerController originalImage)
  | .extractButtonTapped binarySwitchIsOn threshold =>
      some (vc.extractButtonTapped cv binarySwitchIsOn threshold)
  | .processed n =>
      match vc.requests[n]? with
      | some request =>
          if request.answered then none
          else some { vc.process (outcome n) with
            requests := vc.requests.set n { request with answered := true } }
      | none => none
  | .saveButtonTapped => some vc

end DocumentMakeSceneVC

end Procon
