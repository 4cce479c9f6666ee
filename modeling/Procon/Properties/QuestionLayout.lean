import Procon.Construction.QuestionSceneVC
import Procon.Framework.NestedLoop
import Mathlib.Data.List.GetD
import Mathlib.Tactic.Linarith
import Mathlib.Tactic.NormNum
import Mathlib.Tactic.Ring

/-!
# The layout of the question screen

The questions and the answers are two columns of rows that are 120 points apart, the answer title
stands where the next question would, and the content ends where the next answer would.  That the
frames are disjoint and within the content follows from `Rectangles.rowTop_add_lt` alone: a row of
100 points ends above every later one.  `initializeScrollView_eq` computes the views of the screen
and `question_layout` says that they are laid out as they should.
-/

namespace Procon

open NestedLoop Rectangles QuestionSceneVC QuestionScrollComponents

variable {vc : QuestionSceneVC} {screenSize : CGSize} {scrollView : UIScrollView} {i n : ℕ}

namespace QuestionScrollComponents

/-- The frames of a component in the section of the questions. -/
def questionFrames (component : QuestionScrollComponents) : List CGRect :=
  [component.questionNumImageView.frame, component.questionLabel.frame]

/-- The frames of a component in the section of the answers. -/
def answerFrames (component : QuestionScrollComponents) : List CGRect :=
  [component.answerDisplaySwitch.frame, component.answerLabel.frame]

end QuestionScrollComponents

/-- The views of the screen. -/
def views (questionTitle answerTitle : UILabel) (components : List QuestionScrollComponents) :
    List Subview :=
  .label questionTitle :: .label answerTitle :: components.flatMap QuestionScrollComponents.subviews

/-- No two views overlap and none is clipped at the upper or lower edge; the questions are above
the answer title and the answers below it, both in the order of their lists. -/
structure LaidOut (questions answers : List String) (questionTitle answerTitle : UILabel)
    (components : List QuestionScrollComponents) (height : CGFloat) : Prop where
  disjoint : ((views questionTitle answerTitle components).map Subview.frame).Pairwise
    Rect.Disjoint
  inside : ∀ view ∈ views questionTitle answerTitle components,
    0 ≤ view.frame.y ∧ view.frame.maxY ≤ height
  questions_above : ∀ component ∈ components, ∀ frame ∈ component.questionFrames,
    frame.Above answerTitle.frame
  answers_below : ∀ component ∈ components, ∀ frame ∈ component.answerFrames,
    answerTitle.frame.Above frame
  places : components.Pairwise fun c c' =>
    (∀ r ∈ c.questionFrames, ∀ s ∈ c'.questionFrames, r.Above s) ∧
      ∀ r ∈ c.answerFrames, ∀ s ∈ c'.answerFrames, r.Above s
  questions_eq : components.map (·.questionLabel.text) = questions.map some
  answers_eq : components.map (·.answerLabel.text) = answers.map some

/-! ## What the screen computes -/

lemma foldl_addSubview (added : List Subview) (scrollView : UIScrollView) :
    added.foldl UIScrollView.addSubview scrollView =
      { scrollView with subviews := scrollView.subviews ++ added } := by
  induction added generalizing scrollView with
  | nil => simp
  | cons view added ih =>
      rw [List.foldl_cons, ih, UIScrollView.addSubview]
      simp

lemma foldl_add2ScrollView {questionsUnder answersUnder : CGFloat}
    (components : List QuestionScrollComponents) (scrollView : UIScrollView) :
    components.foldl (fun scrollView component =>
        component.add2ScrollView scrollView questionsUnder answersUnder) scrollView =
      { scrollView with
        subviews := scrollView.subviews ++
          (components.map (·.layout questionsUnder answersUnder)).flatMap
            QuestionScrollComponents.subviews } := by
  induction components generalizing scrollView with
  | nil => simp
  | cons component components ih =>
      rw [List.foldl_cons, ih, add2ScrollView, foldl_addSubview]
      simp

namespace QuestionSceneVC

/-- The title above the questions. -/
def questionTitleLabel : UILabel := ⟨some "Question", ⟨5, 5, 200, 35⟩⟩

/-- The title above the answers stands in the row after the last of `n` questions. -/
def answerTitleLabel (n : ℕ) : UILabel := ⟨some "Answer", ⟨5, rowTop 45 120 n, 200, 35⟩⟩

/-- The component of an index that is in the range of both lists. -/
def componentAt (vc : QuestionSceneVC) (index : ℕ) : QuestionScrollComponents :=
  (QuestionScrollComponents.init (index + 1) (vc.questions.getD index "")
    (vc.answers.getD index "")).layout 40 (rowTop 80 120 vc.questions.length)

def components (vc : QuestionSceneVC) : List QuestionScrollComponents :=
  (List.range vc.questions.length).map vc.componentAt

end QuestionSceneVC

/-! ### The numbers -/

lemma answerTitleHeight_eq (n : ℕ) :
    (5 * 2 + 35 + (100 + 20) * n : CGFloat) = rowTop 45 120 n := by
  rw [rowTop]
  norm_num

lemma scrollContentHeight_eq (n m : ℕ) :
    ((100 + 20) * (n + m : ℕ) + 35 * 2 + 5 * 3 : CGFloat) = rowTop (rowTop 85 120 n) 120 m := by
  rw [rowTop, rowTop]
  push_cast
  ring

lemma maxY_questionTitleLabel : questionTitleLabel.frame.maxY = 40 := by
  norm_num [questionTitleLabel, Rect.maxY]

lemma maxY_answerTitleLabel (n : ℕ) : (answerTitleLabel n).frame.maxY = rowTop 80 120 n := by
  rw [answerTitleLabel, Rect.maxY, rowTop, rowTop]
  ring

/-! ### The views -/

lemma component_eq (hquestion : i < vc.questions.length) (hanswer : i < vc.answers.length) :
    vc.component i = .ok (.init (i + 1) (vc.questions.getD i "") (vc.answers.getD i "")) := by
  rw [component, subscript_of_getElem? (List.getElem?_eq_getElem hquestion),
    subscript_of_getElem? (List.getElem?_eq_getElem hanswer),
    List.getD_eq_getElem _ _ hquestion, List.getD_eq_getElem _ _ hanswer]
  rfl

/-- **The views of the screen.**  They are added when no answer is missing. -/
theorem initializeScrollView_eq (hle : vc.questions.length ≤ vc.answers.length) :
    vc.initializeScrollView screenSize scrollView = .ok
      ({ vc with
          questionTitle := questionTitleLabel
          answerTitle := answerTitleLabel vc.questions.length },
        { contentSize := ⟨screenSize.width,
            rowTop (rowTop 85 120 vc.questions.length) 120 vc.answers.length⟩
          subviews := scrollView.subviews ++
            views questionTitleLabel (answerTitleLabel vc.questions.length) vc.components }) := by
  have hcomponents : ∀ index ∈ List.range vc.questions.length,
      vc.component index = .ok (.init (index + 1) (vc.questions.getD index "")
        (vc.answers.getD index "")) := by
    intro index hindex
    rw [List.mem_range] at hindex
    exact component_eq hindex (hindex.trans_le hle)
  have hloop := gather_of_forall (fun scrollView component =>
      QuestionScrollComponents.add2ScrollView scrollView questionTitleLabel.frame.maxY
        (answerTitleLabel vc.questions.length).frame.maxY component)
    { contentSize := ⟨screenSize.width,
        rowTop (rowTop 85 120 vc.questions.length) 120 vc.answers.length⟩
      subviews := scrollView.subviews ++ [.label questionTitleLabel] ++
        [.label (answerTitleLabel vc.questions.length)] } hcomponents
  rw [initializeScrollView]
  dsimp only
  rw [answerTitleHeight_eq, scrollContentHeight_eq]
  refine (congrArg (Except.map _) hloop).trans ?_
  rw [foldl_add2ScrollView, maxY_questionTitleLabel, maxY_answerTitleLabel, List.map_map,
    List.append_assoc, List.append_assoc]
  rfl

/-! ## The rows -/

section Rows

variable {frame frame' : CGRect} {top : CGFloat} {j : ℕ}

/-- The frames of a question stand next to each other in the row of its index. -/
lemma questionFrames_componentAt (vc : QuestionSceneVC) (i : ℕ) :
    (vc.componentAt i).questionFrames =
      [⟨5, rowTop 45 120 i, 100, 100⟩, ⟨110, rowTop 45 120 i, 600, 100⟩] := by
  have hy : (40 + 5 + (100 + 20) * ((i + 1 - 1 : ℤ) : CGFloat)) = rowTop 45 120 i := by
    rw [rowTop]
    push_cast
    ring
  rw [questionFrames, componentAt, layout, init, hy]
  norm_num

/-- So do those of an answer. -/
lemma answerFrames_componentAt (vc : QuestionSceneVC) (i : ℕ) :
    (vc.componentAt i).answerFrames =
      [⟨5, rowTop (rowTop 85 120 vc.questions.length) 120 i, 100, 100⟩,
        ⟨110, rowTop (rowTop 85 120 vc.questions.length) 120 i, 600, 100⟩] := by
  have hy : (rowTop 80 120 vc.questions.length + 5 + (100 + 20) * ((i + 1 - 1 : ℤ) : CGFloat)) =
      rowTop (rowTop 85 120 vc.questions.length) 120 i := by
    rw [rowTop, rowTop, rowTop]
    push_cast
    ring
  rw [answerFrames, componentAt, layout, init, hy]
  norm_num

/-- A frame of 100 points in the `i`-th row. -/
def InRow (top : CGFloat) (i : ℕ) (frame : CGRect) : Prop :=
  frame.y = rowTop top 120 i ∧ frame.height = 100

lemma inRow_of_mem_questionFrames (h : frame ∈ (vc.componentAt i).questionFrames) :
    InRow 45 i frame := by
  rw [questionFrames_componentAt] at h
  rcases List.mem_pair.mp h with rfl | rfl <;> exact ⟨rfl, rfl⟩

lemma inRow_of_mem_answerFrames (h : frame ∈ (vc.componentAt i).answerFrames) :
    InRow (rowTop 85 120 vc.questions.length) i frame := by
  rw [answerFrames_componentAt] at h
  rcases List.mem_pair.mp h with rfl | rfl <;> exact ⟨rfl, rfl⟩

lemma InRow.maxY_lt (h : InRow top i frame) (hij : i < j) : frame.maxY < rowTop top 120 j := by
  rw [Rect.maxY, h.1, h.2]
  exact rowTop_add_lt (by norm_num) (by norm_num) hij

lemma InRow.le_y (h : InRow top i frame) : top ≤ frame.y := by
  rw [h.1]
  exact le_rowTop (by norm_num)

lemma InRow.above (h : InRow top i frame) (h' : InRow top j frame') (hij : i < j) :
    frame.Above frame' := by
  rw [Rect.Above, h'.1]
  exact h.maxY_lt hij

/-- The first frame of a row is left of the second. -/
lemma leftOf_row (y : CGFloat) : Rect.LeftOf (⟨5, y, 100, 100⟩ : CGRect) ⟨110, y, 600, 100⟩ := by
  norm_num [Rect.LeftOf, Rect.maxX]

/-! ### Around the titles -/

lemma questionTitle_above (h : InRow 45 i frame) : questionTitleLabel.frame.Above frame := by
  rw [Rect.Above, maxY_questionTitleLabel]
  exact lt_of_lt_of_le (by norm_num) h.le_y

lemma above_answerTitle (h : InRow 45 i frame) (hi : i < n) :
    frame.Above (answerTitleLabel n).frame := h.maxY_lt hi

lemma answerTitle_above (h : InRow (rowTop 85 120 n) i frame) :
    (answerTitleLabel n).frame.Above frame := by
  rw [Rect.Above, maxY_answerTitleLabel]
  refine lt_of_lt_of_le ?_ h.le_y
  rw [rowTop, rowTop]
  norm_num

lemma questionTitle_above_answerTitle (n : ℕ) :
    questionTitleLabel.frame.Above (answerTitleLabel n).frame := by
  rw [Rect.Above, maxY_questionTitleLabel]
  exact lt_of_lt_of_le (by norm_num) (le_rowTop (by norm_num) : (45 : CGFloat) ≤ rowTop 45 120 n)

lemma y_le_maxY_answerTitle (n : ℕ) :
    (answerTitleLabel n).frame.y ≤ (answerTitleLabel n).frame.maxY := by
  norm_num [answerTitleLabel, Rect.maxY]

/-- Every question is above every answer. -/
lemma question_above_answer (h : InRow 45 i frame) (hi : i < n)
    (h' : InRow (rowTop 85 120 n) j frame') : frame.Above frame' :=
  (above_answerTitle h hi).trans (answerTitle_above h') (y_le_maxY_answerTitle n)

end Rows

/-! ## The layout -/

lemma mem_components {component : QuestionScrollComponents} (h : component ∈ vc.components) :
    ∃ i < vc.questions.length, component = vc.componentAt i := by
  obtain ⟨i, hi, rfl⟩ := List.mem_map.mp h
  exact ⟨i, List.mem_range.mp hi, rfl⟩

/-- What holds of the components of two indices in order holds along the list. -/
lemma pairwise_components {R : QuestionScrollComponents → QuestionScrollComponents → Prop}
    (h : ∀ i j, i < j → j < vc.questions.length → R (vc.componentAt i) (vc.componentAt j)) :
    vc.components.Pairwise R := by
  rw [components, List.pairwise_map]
  refine List.pairwise_lt_range.imp_of_mem fun {i j} _ hj hij => ?_
  exact h i j hij (List.mem_range.mp hj)

lemma map_frame_views {questionTitle answerTitle : UILabel}
    {components : List QuestionScrollComponents} :
    (views questionTitle answerTitle components).map Subview.frame =
      questionTitle.frame :: answerTitle.frame ::
        components.flatMap fun component => component.questionFrames ++ component.answerFrames := by
  rw [views, List.map_cons, List.map_cons, List.map_flatMap]
  rfl

lemma mem_frames {frame : CGRect}
    (h : frame ∈ (vc.componentAt i).questionFrames ++ (vc.componentAt i).answerFrames) :
    InRow 45 i frame ∨ InRow (rowTop 85 120 vc.questions.length) i frame :=
  (List.mem_append.mp h).imp inRow_of_mem_questionFrames inRow_of_mem_answerFrames

/-- The frames of one component stand apart. -/
lemma pairwise_apart_componentAt (hi : i < vc.questions.length) :
    ((vc.componentAt i).questionFrames ++ (vc.componentAt i).answerFrames).Pairwise Rect.Apart := by
  rw [List.pairwise_append]
  refine ⟨?_, ?_, fun r hr s hs => ?_⟩
  · rw [questionFrames_componentAt, List.pairwise_pair]
    exact .inr (.inr (.inl (leftOf_row _)))
  · rw [answerFrames_componentAt, List.pairwise_pair]
    exact .inr (.inr (.inl (leftOf_row _)))
  · exact .inl (question_above_answer (inRow_of_mem_questionFrames hr) hi
      (inRow_of_mem_answerFrames hs))

/-- All frames of the screen stand apart. -/
theorem pairwise_apart_views :
    ((views questionTitleLabel (answerTitleLabel vc.questions.length) vc.components).map
      Subview.frame).Pairwise Rect.Apart := by
  rw [map_frame_views, List.pairwise_cons, List.pairwise_cons, List.pairwise_flatMap]
  refine ⟨?_, ?_, ?_, ?_⟩
  · intro frame hframe
    rcases List.mem_cons.mp hframe with rfl | hframe
    · exact .inl (questionTitle_above_answerTitle _)
    · obtain ⟨component, hcomponent, hframe⟩ := List.mem_flatMap.mp hframe
      obtain ⟨i, hi, rfl⟩ := mem_components hcomponent
      rcases mem_frames hframe with hquestion | hanswer
      · exact .inl (questionTitle_above hquestion)
      · exact .inl ((questionTitle_above_answerTitle _).trans (answerTitle_above hanswer)
          (y_le_maxY_answerTitle _))
  · intro frame hframe
    obtain ⟨component, hcomponent, hframe⟩ := List.mem_flatMap.mp hframe
    obtain ⟨i, hi, rfl⟩ := mem_components hcomponent
    rcases mem_frames hframe with hquestion | hanswer
    · exact .inr (.inl (above_answerTitle hquestion hi))
    · exact .inl (answerTitle_above hanswer)
  · intro component hcomponent
    obtain ⟨i, hi, rfl⟩ := mem_components hcomponent
    exact pairwise_apart_componentAt hi
  · refine pairwise_components fun i j hij hj r hr s hs => ?_
    rcases mem_frames hr with hr | hr <;> rcases mem_frames hs with hs | hs
    · exact .inl (hr.above hs hij)
    · exact .inl (question_above_answer hr (hij.trans hj) hs)
    · exact .inr (.inl (question_above_answer hs hj hr))
    · exact .inl (hr.above hs hij)

/-- No frame is clipped when there are at least as many answers as questions. -/
lemma inside_views (hle : vc.questions.length ≤ vc.answers.length) {frame : CGRect}
    (hframe : frame ∈ (views questionTitleLabel (answerTitleLabel vc.questions.length)
      vc.components).map Subview.frame) :
    0 ≤ frame.y ∧
      frame.maxY ≤ rowTop (rowTop 85 120 vc.questions.length) 120 vc.answers.length := by
  have hanswers : rowTop 85 120 vc.questions.length ≤
      rowTop (rowTop 85 120 vc.questions.length : CGFloat) 120 vc.answers.length :=
    le_rowTop (by norm_num)
  have hfirst : (85 : CGFloat) ≤ rowTop 85 120 vc.questions.length := le_rowTop (by norm_num)
  rw [map_frame_views, List.mem_cons, List.mem_cons] at hframe
  rcases hframe with rfl | rfl | hframe
  · rw [maxY_questionTitleLabel]
    exact ⟨by norm_num [questionTitleLabel], by linarith⟩
  · rw [maxY_answerTitleLabel]
    have htop : (45 : CGFloat) ≤ rowTop 45 120 vc.questions.length := le_rowTop (by norm_num)
    exact ⟨le_trans (by norm_num) htop, (rowTop_le_rowTop (by norm_num)).trans hanswers⟩
  · obtain ⟨component, hcomponent, hframe⟩ := List.mem_flatMap.mp hframe
    obtain ⟨i, hi, rfl⟩ := mem_components hcomponent
    rcases mem_frames hframe with hquestion | hanswer
    · refine ⟨le_trans (by norm_num) hquestion.le_y, (hquestion.maxY_lt hi).le.trans ?_⟩
      exact (rowTop_le_rowTop (by norm_num)).trans hanswers
    · refine ⟨?_, (hanswer.maxY_lt (hi.trans_le hle)).le⟩
      exact le_trans (by norm_num) (hfirst.trans hanswer.le_y)

lemma map_getD_range (texts : List String) :
    (List.range texts.length).map (fun i => some (texts.getD i "")) = texts.map some := by
  refine List.ext_getElem (by simp) fun i _ hi => ?_
  rw [List.length_map] at hi
  simp [hi]

lemma map_questionText : vc.components.map (·.questionLabel.text) = vc.questions.map some := by
  rw [components, List.map_map]
  exact map_getD_range vc.questions

lemma map_answerText (hlen : vc.questions.length = vc.answers.length) :
    vc.components.map (·.answerLabel.text) = vc.answers.map some := by
  rw [components, List.map_map, hlen]
  exact map_getD_range vc.answers

/-- **The layout of the question screen.**  With an answer for every question the screen is laid
out: its views do not overlap, none is clipped, and questions and answers stand in order above
and below the answer title. -/
theorem question_layout (vc : QuestionSceneVC) (screenSize : CGSize) (scrollView : UIScrollView)
    (hlen : vc.questions.length = vc.answers.length) :
    ∃ vc' scrollView' components,
      vc.initializeScrollView screenSize scrollView = .ok (vc', scrollView') ∧
      scrollView'.subviews =
        scrollView.subviews ++ views vc'.questionTitle vc'.answerTitle components ∧
      LaidOut vc.questions vc.answers vc'.questionTitle vc'.answerTitle components
        scrollView'.contentSize.height := by
  refine ⟨_, _, vc.components, initializeScrollView_eq hlen.le, rfl, ?_⟩
  exact
    { disjoint := pairwise_apart_views.imp Rect.Apart.disjoint
      inside := fun view hview => inside_views hlen.le (List.mem_map_of_mem hview)
      questions_above := by
        intro component hcomponent frame hframe
        obtain ⟨i, hi, rfl⟩ := mem_components hcomponent
        exact above_answerTitle (inRow_of_mem_questionFrames hframe) hi
      answers_below := by
        intro component hcomponent frame hframe
        obtain ⟨i, hi, rfl⟩ := mem_components hcomponent
        exact answerTitle_above (inRow_of_mem_answerFrames hframe)
      places := pairwise_components fun i j hij _ =>
        ⟨fun r hr s hs =>
          (inRow_of_mem_questionFrames hr).above (inRow_of_mem_questionFrames hs) hij,
        fun r hr s hs =>
          (inRow_of_mem_answerFrames hr).above (inRow_of_mem_answerFrames hs) hij⟩
      questions_eq := map_questionText
      answers_eq := map_answerText hlen }

/-- Two questions and their answers. -/
def twoQuestions : QuestionSceneVC where
  questions := ["What happened?", "Where?"]
  answers := ["Nothing.", "Nowhere."]
  questionTitle := ⟨none, .zero⟩
  answerTitle := ⟨none, .zero⟩

theorem question_layout_twoQuestions :
    ∃ vc' scrollView' components,
      twoQuestions.initializeScrollView ⟨800, 1200⟩ ⟨⟨0, 0⟩, []⟩ = .ok (vc', scrollView') ∧
      scrollView'.subviews = [] ++ views vc'.questionTitle vc'.answerTitle components ∧
      LaidOut twoQuestions.questions twoQuestions.answers vc'.questionTitle vc'.answerTitle
        components scrollView'.contentSize.height :=
  question_layout twoQuestions ⟨800, 1200⟩ ⟨⟨0, 0⟩, []⟩ rfl

end Procon
