import Procon.Construction.CoreGraphics

/-!
# The keyboard on the save screen

`DocumentSaveSceneVC` has three text inputs in a scroll view.  It remembers the frame of the input
that was selected last, and when the keyboard has appeared it scrolls that input above it: it
measures by how much the input is covered, in coordinates of the screen, and assigns the content
offset of the scroll view.  When the keyboard has gone it scrolls back to the top.

A step is one event of the screen.  The user may scroll to any offset.  The keyboard appears only
for an input that is being edited, also while it is up already, when another input is selected.
-/

namespace Procon

/-- The text inputs of the screen. -/
inductive TextInput
  | header
  | date
  | context
  deriving DecidableEq

inductive ModalPresentationStyle
  | pageSheet
  | fullScreen
  deriving DecidableEq

/-- What does not change while the screen is shown. -/
structure SaveScreen where
  /-- `UIScreen.main.bounds.size.height`. -/
  screenHeight : CGFloat
  modalPresentationStyle : ModalPresentationStyle
  /-- The frame of each input in the scroll view. -/
  frame : TextInput → CGRect

/-- The screen, as far as the keyboard concerns it. -/
structure DocumentSaveSceneVC where
  /-- `scrollView.contentOffset.y`. -/
  contentOffset : CGFloat
  currentSelectedTextInputFrame : Option CGRect
  /-- The input that is being edited. -/
  firstResponder : Option TextInput
  keyboardIsUp : Bool

inductive KeyboardEvent
  | scroll (contentOffset : CGFloat)
  | shouldBeginEditing (input : TextInput)
  | endEditing
  | keyboardDidShow (keyboardHeight : CGFloat)
  | keyboardDidHide

namespace DocumentSaveSceneVC

def viewDidLoad : DocumentSaveSceneVC where
  contentOffset := 0
  currentSelectedTextInputFrame := none
  firstResponder := none
  keyboardIsUp := false

/-- `self.view.convert(_:from: scrollView)` subtracts the content offset. -/
def convert (vc : DocumentSaveSceneVC) (frame : CGRect) : CGRect :=
  { frame with y := frame.y - vc.contentOffset }

/-- The top edge of a keyboard. -/
def topKeyboard (screen : SaveScreen) (keyboardHeight : CGFloat) : CGFloat :=
  let modalHeightDiff := if screen.modalPresentationStyle = .pageSheet then 30 else 0
  screen.screenHeight - keyboardHeight - modalHeightDiff

/-- `keyboardDidShow(_:)`. -/
def keyboardDidShow (screen : SaveScreen) (keyboardHeight : CGFloat) (vc : DocumentSaveSceneVC) :
    Except Trap DocumentSaveSceneVC := do
  let frame ← unwrap "currentSelectedTextInputFrame" vc.currentSelectedTextInputFrame
  let convertedTextFieldFrameBottom := (vc.convert frame).maxY
  let distance := convertedTextFieldFrameBottom - topKeyboard screen keyboardHeight
  let scrollOffset := 50
  return if distance ≥ 0 then { vc with contentOffset := distance + scrollOffset } else vc

/-- `keyboardWillHide(_:)`, which is called when the keyboard has gone. -/
def keyboardWillHide (vc : DocumentSaveSceneVC) : DocumentSaveSceneVC :=
  { vc with contentOffset := 0 }

/-- `textViewShouldBeginEditing(_:)` and `textFieldShouldBeginEditing(_:)`. -/
def shouldBeginEditing (screen : SaveScreen) (input : TextInput) (vc : DocumentSaveSceneVC) :
    DocumentSaveSceneVC :=
  { vc with currentSelectedTextInputFrame := some (screen.frame input) }

/-- One event of the screen; a handler that traps does not return. -/
def step (screen : SaveScreen) (vc : DocumentSaveSceneVC) : KeyboardEvent →
    Option DocumentSaveSceneVC
  | .scroll contentOffset => some { vc with contentOffset := contentOffset }
  | .shouldBeginEditing input =>
      some { vc.shouldBeginEditing screen input with firstResponder := some input }
  | .endEditing => some { vc with firstResponder := none }
  | .keyboardDidShow keyboardHeight =>
      if vc.firstResponder.isSome then
        ((vc.keyboardDidShow screen keyboardHeight).map fun vc =>
          { vc with keyboardIsUp := true }).toOption
      else none
  | .keyboardDidHide =>
      if vc.keyboardIsUp then some { vc.keyboardWillHide with keyboardIsUp := false } else none

end DocumentSaveSceneVC

end Procon
