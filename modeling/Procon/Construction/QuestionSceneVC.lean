import Procon.Construction.CoreGraphics

/-!
# The question screen

`QuestionSceneVC` lists its questions and, below them, its answers in a scroll view.
`initializeScrollView` computes the height of the content and the frames of the two titles;
`QuestionScrollComponents.add2ScrollView` computes the frames of the four views of one question
from the lower edges of the titles, with constants of its own.

The views are told by what they show and by their frames.
-/

namespace Procon

/-! ## Views -/

structure UILabel where
  text : Option String
  frame : CGRect
  deriving DecidableEq

structure UIImageView where
  /-- The `systemName` of the image. -/
  image : String
  frame : CGRect
  deriving DecidableEq

structure CustomLabelSwitchButton where
  /-- The `systemName` of the background image. -/
  backgroundImage : String
  frame : CGRect
  deriving DecidableEq

inductive Subview
  | label (view : UILabel)
  | imageView (view : UIImageView)
  | button (view : CustomLabelSwitchButton)
  deriving DecidableEq

def Subview.frame : Subview → CGRect
  | .label view => view.frame
  | .imageView view => view.frame
  | .button view => view.frame

structure UIScrollView where
  contentSize : CGSize
  subviews : List Subview
  deriving DecidableEq

def UIScrollView.addSubview (scrollView : UIScrollView) (view : Subview) : UIScrollView :=
  { scrollView with subviews := scrollView.subviews ++ [view] }

/-- The frame of a view that has not been laid out. -/
def CGRect.zero : CGRect := ⟨0, 0, 0, 0⟩

/-! ## The views of one question -/

structure QuestionScrollComponents where
  id : ℤ
  questionLabel : UILabel
  answerLabel : UILabel
  questionNumImageView : UIImageView
  answerDisplaySwitch : CustomLabelSwitchButton
  deriving DecidableEq

namespace QuestionScrollComponents

/-- `init(id:question:answer:)`. -/
def init (id : ℤ) (question answer : String) : QuestionScrollComponents where
  id := id
  questionLabel := ⟨some question, .zero⟩
  answerLabel := ⟨some answer, .zero⟩
  questionNumImageView := ⟨toString id ++ ".square", .zero⟩
  answerDisplaySwitch := ⟨toString id ++ ".square.fill", .zero⟩

/-- The frames that `add2ScrollView` assigns. -/
def layout (questionLabelUnderHeight answerLabelUnderHeight : CGFloat)
    (component : QuestionScrollComponents) : QuestionScrollComponents :=
  let contentSize : CGFloat := 100
  let contentOffset : CGFloat := 20
  let textWidth : CGFloat := 600
  let initialOffsetX : CGFloat := 5
  let initialOffsetY : CGFloat := 5
  let questionContentHeight := questionLabelUnderHeight + initialOffsetY +
    (contentSize + contentOffset) * (component.id - 1 : ℤ)
  let answerContentHeight := answerLabelUnderHeight + initialOffsetY +
    (contentSize + contentOffset) * (component.id - 1 : ℤ)
  { component with
    questionNumImageView.frame :=
      ⟨initialOffsetX, questionContentHeight, contentSize, contentSize⟩
    questionLabel.frame :=
      ⟨initialOffsetX * 2 + contentSize, questionContentHeight, textWidth, contentSize⟩
    answerDisplaySwitch.frame :=
      ⟨initialOffsetX, answerContentHeight, contentSize, contentSize⟩
    answerLabel.frame :=
      ⟨initialOffsetX * 2 + contentSize, answerContentHeight, textWidth, contentSize⟩ }

/-- The views of a component in the order in which they are added. -/
def subviews (component : QuestionScrollComponents) : List Subview :=
  [.imageView component.questionNumImageView, .label component.questionLabel,
    .button component.answerDisplaySwitch, .label component.answerLabel]

/-- `add2ScrollView(scrollView:questionLabelUnderHeight:answerLabelUnderHeight:)`. -/
def add2ScrollView (scrollView : UIScrollView)
    (questionLabelUnderHeight answerLabelUnderHeight : CGFloat)
    (component : QuestionScrollComponents) : UIScrollView :=
  (component.layout questionLabelUnderHeight answerLabelUnderHeight).subviews.foldl
    UIScrollView.addSubview scrollView

end QuestionScrollComponents

/-! ## The screen -/

structure QuestionSceneVC where
  questions : List String
  answers : List String
  questionTitle : UILabel
  answerTitle : UILabel
  deriving DecidableEq

namespace QuestionSceneVC

/-- The component of an index. -/
def component (vc : QuestionSceneVC) (index : ℕ) : Except Trap QuestionScrollComponents := do
  let question ← subscript "questions" vc.questions index
  let answer ← subscript "answers" vc.answers index
  return .init (index + 1) question answer

/-- `initializeScrollView(scrollView:)`. -/
def initializeScrollView (screenSize : CGSize) (scrollView : UIScrollView) (vc : QuestionSceneVC) :
    Except Trap (QuestionSceneVC × UIScrollView) :=
  let initialOffsetX : CGFloat := 5
  let initialOffsetY : CGFloat := 5
  let contentSize : CGFloat := 100
  let contentOffset : CGFloat := 20
  let labelWidth : CGFloat := 200
  let labelHeight : CGFloat := 35
  let scrollContentHeight :=
    (contentSize + contentOffset) * (vc.questions.length + vc.answers.length : ℕ) +
      labelHeight * 2 + initialOffsetY * 3
  let scrollView := { scrollView with contentSize := ⟨screenSize.width, scrollContentHeight⟩ }
  let questionTitle : UILabel :=
    ⟨some "Question", ⟨initialOffsetX, initialOffsetY, labelWidth, labelHeight⟩⟩
  let answerTitleHeight := initialOffsetY * 2 + labelHeight +
    (contentSize + contentOffset) * vc.questions.length
  let answerTitle : UILabel :=
    ⟨some "Answer", ⟨initialOffsetX, answerTitleHeight, labelWidth, labelHeight⟩⟩
  let scrollView := (scrollView.addSubview (.label questionTitle)).addSubview (.label answerTitle)
  let vc := { vc with questionTitle := questionTitle, answerTitle := answerTitle }
  ((List.range vc.questions.length).foldlM (fun scrollView index =>
    (vc.component index).map fun component =>
      component.add2ScrollView scrollView vc.questionTitle.frame.maxY vc.answerTitle.frame.maxY)
    scrollView).map fun scrollView => (vc, scrollView)

end QuestionSceneVC

end Procon
