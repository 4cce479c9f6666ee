import Procon.Construction.DocumentSaveSceneVC
import Procon.Framework.Run
import Mathlib.Tactic.Linarith
import Mathlib.Tactic.Ring

/-!
# The keyboard and the selected input

When the keyboard has appeared the selected input should not be covered by it.  The handler
measures the overlap on the screen, where the content offset is subtracted already, and assigns
the overlap as the new offset: this is right only if the offset it replaces does not exceed the 50
points that are added for good measure.  `visible_after_show_iff` is the exact condition for one
notification and `keyboard_clear_iff` for all notifications of a run; in particular a keyboard
that appears while another one is up may cover the input.
-/

namespace Procon

open LabelledRun DocumentSaveSceneVC

variable {screen : SaveScreen} {vc vc' : DocumentSaveSceneVC} {frame : CGRect}
  {keyboardHeight : CGFloat} {tr : List KeyboardEvent} {e : KeyboardEvent}

/-- The bottom edge of the selected input on the screen is at or above the keyboard. -/
def SelectedInputVisible (screen : SaveScreen) (keyboardHeight : CGFloat)
    (vc : DocumentSaveSceneVC) : Prop :=
  ∃ frame, vc.currentSelectedTextInputFrame = some frame ∧
    frame.maxY - vc.contentOffset ≤ topKeyboard screen keyboardHeight

/-- The screen is scrolled by at most 50 points, or the selected input is clear of the keyboard
as it is. -/
def ScrolledLittle (screen : SaveScreen) (keyboardHeight : CGFloat)
    (vc : DocumentSaveSceneVC) : Prop :=
  ∀ frame, vc.currentSelectedTextInputFrame = some frame →
    vc.contentOffset ≤ 50 ∨ frame.maxY - vc.contentOffset < topKeyboard screen keyboardHeight

/-! ## One notification -/

lemma maxY_convert : (vc.convert frame).maxY = frame.maxY - vc.contentOffset := by
  rw [convert, Rectangles.Rect.maxY, Rectangles.Rect.maxY]
  ring

/-- What a keyboard that appears does to the screen. -/
lemma keyboardDidShow_eq (hframe : vc.currentSelectedTextInputFrame = some frame) :
    vc.keyboardDidShow screen keyboardHeight = .ok
      (if topKeyboard screen keyboardHeight ≤ frame.maxY - vc.contentOffset then
        { vc with
          contentOffset := frame.maxY - vc.contentOffset -
            topKeyboard screen keyboardHeight + 50 }
      else vc) := by
  rw [keyboardDidShow, hframe]
  simp only [unwrap, bind, Except.bind, pure, Except.pure, maxY_convert, ge_iff_le, sub_nonneg]

lemma step_keyboardDidShow (hframe : vc.currentSelectedTextInputFrame = some frame)
    (hstep : step screen vc (.keyboardDidShow keyboardHeight) = some vc') :
    vc'.currentSelectedTextInputFrame = some frame ∧
      vc'.contentOffset =
        if topKeyboard screen keyboardHeight ≤ frame.maxY - vc.contentOffset then
          frame.maxY - vc.contentOffset - topKeyboard screen keyboardHeight + 50
        else vc.contentOffset := by
  rw [step, keyboardDidShow_eq hframe] at hstep
  split at hstep
  · obtain rfl := Option.some.inj hstep
    split <;> exact ⟨hframe, rfl⟩
  · cases hstep

/-- **One notification.**  The input is visible afterwards exactly when the screen was scrolled
little or the input was clear of the keyboard. -/
theorem visible_after_show_iff (hframe : vc.currentSelectedTextInputFrame = some frame)
    (hstep : step screen vc (.keyboardDidShow keyboardHeight) = some vc') :
    SelectedInputVisible screen keyboardHeight vc' ↔
      ScrolledLittle screen keyboardHeight vc := by
  obtain ⟨hframe', hoffset⟩ := step_keyboardDidShow hframe hstep
  simp only [SelectedInputVisible, ScrolledLittle, hframe, hframe', Option.some.injEq,
    exists_eq_left', forall_eq', hoffset]
  split
  · rename_i hcovered
    constructor
    · intro hvisible
      left
      linarith
    · rintro (hlittle | hclear)
      · linarith
      · exact absurd hclear (not_lt.mpr hcovered)
  · rename_i hclear
    rw [not_le] at hclear
    exact iff_of_true hclear.le (Or.inr hclear)

/-! ## Whole runs -/

/-- An input that is being edited has been remembered. -/
def Remembered (vc : DocumentSaveSceneVC) : Prop :=
  vc.firstResponder.isSome → vc.currentSelectedTextInputFrame.isSome

lemma isSome_firstResponder_of_show
    (hstep : step screen vc (.keyboardDidShow keyboardHeight) = some vc') :
    vc.firstResponder.isSome := by
  by_contra hnot
  simp [step, hnot] at hstep

lemma step_keyboardDidHide_eq_some :
    step screen vc .keyboardDidHide = some vc' ↔
      vc.keyboardIsUp = true ∧ { vc with contentOffset := 0, keyboardIsUp := false } = vc' := by
  rw [step, Option.ite_none_right_eq_some, Option.some.injEq, keyboardWillHide]

lemma keyboardIsUp_of_show (hstep : step screen vc (.keyboardDidShow keyboardHeight) = some vc') :
    vc'.keyboardIsUp = true := by
  rw [step, Option.ite_none_right_eq_some] at hstep
  obtain ⟨-, hshow⟩ := hstep
  cases hresult : vc.keyboardDidShow screen keyboardHeight with
  | error trap =>
      rw [hresult] at hshow
      cases hshow
  | ok next =>
      rw [hresult] at hshow
      obtain rfl := Option.some.inj hshow
      rfl

lemma Remembered.step (hvc : Remembered vc) (hstep : step screen vc e = some vc') :
    Remembered vc' := by
  cases e with
  | scroll contentOffset =>
      obtain rfl := Option.some.inj hstep
      exact hvc
  | shouldBeginEditing input =>
      obtain rfl := Option.some.inj hstep
      exact fun _ => rfl
  | endEditing =>
      obtain rfl := Option.some.inj hstep
      intro hediting
      cases hediting
  | keyboardDidShow keyboardHeight =>
      obtain ⟨frame, hframe⟩ :=
        Option.isSome_iff_exists.mp (hvc (isSome_firstResponder_of_show hstep))
      intro _
      rw [(step_keyboardDidShow hframe hstep).1]
      rfl
  | keyboardDidHide =>
      obtain ⟨-, rfl⟩ := step_keyboardDidHide_eq_some.mp hstep
      exact hvc

lemma remembered_viewDidLoad : Remembered viewDidLoad := by
  intro hediting
  cases hediting

/-- The keyboard of a run appears for an input that has been remembered. -/
lemma exists_frame_of_takes {vc₁ : DocumentSaveSceneVC}
    (h : run (step screen) viewDidLoad tr = some vc)
    (ht : Takes (step screen) viewDidLoad tr vc₁ (.keyboardDidShow keyboardHeight)) :
    ∃ frame, vc₁.currentSelectedTextInputFrame = some frame := by
  obtain ⟨vc₂, hstep, -⟩ := ht.exists_next h
  have hremembered : Remembered vc₁ := visits_invariant remembered_viewDidLoad
    (fun _ _ _ hvc hstep => hvc.step hstep) ht.visits
  exact Option.isSome_iff_exists.mp (hremembered (isSome_firstResponder_of_show hstep))

/-- **Which runs keep the selected input clear of the keyboard.**  After every notification of a
run that a keyboard has appeared the selected input is visible, exactly when at each of them the
screen is scrolled by at most 50 points or the input is clear of the keyboard as it is. -/
theorem keyboard_clear_iff (screen : SaveScreen) (tr : List KeyboardEvent)
    (vc : DocumentSaveSceneVC) (h : run (step screen) viewDidLoad tr = some vc) :
    (∀ vc₁ keyboardHeight vc₂,
      Takes (step screen) viewDidLoad tr vc₁ (.keyboardDidShow keyboardHeight) →
        step screen vc₁ (.keyboardDidShow keyboardHeight) = some vc₂ →
          SelectedInputVisible screen keyboardHeight vc₂) ↔
      ∀ vc₁ keyboardHeight,
        Takes (step screen) viewDidLoad tr vc₁ (.keyboardDidShow keyboardHeight) →
          ScrolledLittle screen keyboardHeight vc₁ := by
  constructor
  · intro hvisible vc₁ keyboardHeight ht
    obtain ⟨frame, hframe⟩ := exists_frame_of_takes h ht
    obtain ⟨vc₂, hstep, -⟩ := ht.exists_next h
    exact (visible_after_show_iff hframe hstep).mp (hvisible vc₁ keyboardHeight vc₂ ht hstep)
  · intro hlittle vc₁ keyboardHeight vc₂ ht hstep
    obtain ⟨frame, hframe⟩ := exists_frame_of_takes h ht
    exact (visible_after_show_iff hframe hstep).mpr (hlittle vc₁ keyboardHeight ht)

/-! ## Keyboards that appear one at a time -/

/-- Scrolling stays within 50 points, and a keyboard appears only while none is up. -/
def OneAtATime (vc : DocumentSaveSceneVC) : KeyboardEvent → Prop
  | .scroll contentOffset => contentOffset ≤ 50
  | .keyboardDidShow _ => vc.keyboardIsUp = false
  | _ => True

instance (vc : DocumentSaveSceneVC) : (e : KeyboardEvent) → Decidable (OneAtATime vc e)
  | .scroll contentOffset => inferInstanceAs (Decidable (contentOffset ≤ 50))
  | .keyboardDidShow _ => inferInstanceAs (Decidable (vc.keyboardIsUp = false))
  | .shouldBeginEditing _ | .endEditing | .keyboardDidHide => isTrue trivial

/-- While no keyboard is up the screen is scrolled by at most 50 points. -/
def LittleWithoutKeyboard (vc : DocumentSaveSceneVC) : Prop :=
  vc.keyboardIsUp = false → vc.contentOffset ≤ 50

lemma LittleWithoutKeyboard.step (hvc : LittleWithoutKeyboard vc) (he : OneAtATime vc e)
    (hstep : step screen vc e = some vc') : LittleWithoutKeyboard vc' := by
  cases e with
  | scroll contentOffset =>
      obtain rfl := Option.some.inj hstep
      exact fun _ => he
  | shouldBeginEditing input =>
      obtain rfl := Option.some.inj hstep
      exact hvc
  | endEditing =>
      obtain rfl := Option.some.inj hstep
      exact hvc
  | keyboardDidShow keyboardHeight =>
      intro hdown
      rw [keyboardIsUp_of_show hstep] at hdown
      cases hdown
  | keyboardDidHide =>
      obtain ⟨-, rfl⟩ := step_keyboardDidHide_eq_some.mp hstep
      intro _
      show (0 : CGFloat) ≤ 50
      norm_num

lemma littleWithoutKeyboard_of_run (h : run (step screen) viewDidLoad tr = some vc)
    (hone : ∀ vc e, Takes (step screen) viewDidLoad tr vc e → OneAtATime vc e) :
    LittleWithoutKeyboard vc := by
  refine takes_invariant (C := OneAtATime) ?_ (fun _ _ _ hvc he hstep => hvc.step he hstep) h hone
  intro _
  show (0 : CGFloat) ≤ 50
  norm_num

/-- **Keyboards that appear one at a time** never cover the input. -/
theorem visible_of_oneAtATime (h : run (step screen) viewDidLoad tr = some vc)
    (hone : ∀ vc e, Takes (step screen) viewDidLoad tr vc e → OneAtATime vc e)
    {vc₁ vc₂ : DocumentSaveSceneVC}
    (ht : Takes (step screen) viewDidLoad tr vc₁ (.keyboardDidShow keyboardHeight))
    (hstep : step screen vc₁ (.keyboardDidShow keyboardHeight) = some vc₂) :
    SelectedInputVisible screen keyboardHeight vc₂ := by
  obtain ⟨frame, hframe⟩ := exists_frame_of_takes h ht
  rw [visible_after_show_iff hframe hstep]
  obtain ⟨done, rest, rfl, hrun⟩ := takes_iff.mp ht
  have hle := littleWithoutKeyboard_of_run hrun
    fun vc e he => hone vc e (he.append hrun _)
  exact fun _ _ => Or.inl (hle (hone vc₁ _ ht))

/-! ### Two inputs one after the other -/

/-- A page sheet with two inputs near its lower edge. -/
def lowInputs : SaveScreen where
  screenHeight := 1000
  modalPresentationStyle := .pageSheet
  frame
    | .header => ⟨0, 760, 100, 40⟩
    | .date => ⟨0, 810, 100, 40⟩
    | .context => ⟨0, 860, 100, 40⟩

theorem keyboard_clear_iff_lowInputs :
    ∃ vc, run (step lowInputs) viewDidLoad [.shouldBeginEditing .header, .keyboardDidShow 300] =
        some vc ∧
      ((∀ vc₁ keyboardHeight vc₂,
        Takes (step lowInputs) viewDidLoad [.shouldBeginEditing .header, .keyboardDidShow 300] vc₁
            (.keyboardDidShow keyboardHeight) →
          step lowInputs vc₁ (.keyboardDidShow keyboardHeight) = some vc₂ →
            SelectedInputVisible lowInputs keyboardHeight vc₂) ↔
        ∀ vc₁ keyboardHeight,
          Takes (step lowInputs) viewDidLoad [.shouldBeginEditing .header, .keyboardDidShow 300]
              vc₁ (.keyboardDidShow keyboardHeight) →
            ScrolledLittle lowInputs keyboardHeight vc₁) :=
  ⟨_, rfl, keyboard_clear_iff lowInputs _ _ rfl⟩

/-- The first input scrolls the screen by 180 points.  The second one, which is covered by 50, then
scrolls it back to 100 and ends up 130 points below the upper edge of the keyboard. -/
theorem second_input_covered :
    ∃ vc, run (step lowInputs) viewDidLoad
        [.shouldBeginEditing .header, .keyboardDidShow 300,
          .shouldBeginEditing .context, .keyboardDidShow 300] = some vc ∧
      ¬ SelectedInputVisible lowInputs 300 vc := by
  have hend : (run (step lowInputs) viewDidLoad
      [.shouldBeginEditing .header, .keyboardDidShow 300,
        .shouldBeginEditing .context, .keyboardDidShow 300]).map (fun vc =>
        (vc.currentSelectedTextInputFrame, vc.contentOffset)) =
      some (some ⟨0, 860, 100, 40⟩, 100) := by
    decide +kernel
  obtain ⟨vc, hrun, hend⟩ := Option.map_eq_some_iff.mp hend
  obtain ⟨hframe, hoffset⟩ := Prod.mk.inj hend
  refine ⟨vc, hrun, ?_⟩
  rintro ⟨frame, hframe', hvisible⟩
  obtain rfl := Option.some.inj (hframe.symm.trans hframe')
  rw [hoffset] at hvisible
  revert hvisible
  decide +kernel

/-- The keyboard is hidden before the second input is selected. -/
def hidesBetween : List KeyboardEvent :=
  [.shouldBeginEditing .header, .keyboardDidShow 300, .keyboardDidHide,
    .shouldBeginEditing .context]

theorem visible_of_oneAtATime_hidesBetween :
    ∃ vc, run (step lowInputs) viewDidLoad (hidesBetween ++ [.keyboardDidShow 300]) = some vc ∧
      SelectedInputVisible lowInputs 300 vc := by
  have hrun : (run (step lowInputs) viewDidLoad
      (hidesBetween ++ [.keyboardDidShow 300])).isSome := by
    decide +kernel
  obtain ⟨vc, hvc⟩ := Option.isSome_iff_exists.mp hrun
  obtain ⟨vc₁, hvc₁, hstep⟩ := run_concat_eq_some.mp hvc
  have hone : ∀ x ∈ steps (step lowInputs) viewDidLoad (hidesBetween ++ [.keyboardDidShow 300]),
      OneAtATime x.1 x.2 := by
    decide +kernel
  exact ⟨vc, hvc, visible_of_oneAtATime hvc (fun vc e ht => hone (vc, e) ht)
    (takes_iff.mpr ⟨hidesBetween, [], rfl, hvc₁⟩) hstep⟩

end Procon
