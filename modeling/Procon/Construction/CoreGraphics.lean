import Procon.Construction.DocumentInfo
import Procon.Framework.Rectangles
import Mathlib.Algebra.Order.Ring.Rat

/-!
# Core Graphics and Swift

The geometric types of the screens and images, and the two operations of Swift that trap on a
missing value.  A `CGFloat` is an exact rational here.
-/

namespace Procon

abbrev CGFloat := ℚ

abbrev CGRect := Rectangles.Rect CGFloat

structure CGSize where
  width : CGFloat
  height : CGFloat
  deriving DecidableEq

/-- A subscript of an array or of a `Data` value. -/
def subscript {α : Type*} (collection : String) (elements : List α) (i : ℕ) : Except Trap α :=
  match elements[i]? with
  | some element => .ok element
  | none => .error (.indexOutOfRange collection)

/-- A forced unwrap. -/
def unwrap {α : Type*} (expression : String) : Option α → Except Trap α
  | some value => .ok value
  | none => .error (.forcedUnwrap expression)

variable {α : Type*} {collection : String} {elements : List α} {i : ℕ} {element : α}

lemma subscript_of_getElem? (h : elements[i]? = some element) :
    subscript collection elements i = .ok element := by
  rw [subscript, h]

end Procon
