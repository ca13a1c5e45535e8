import Reckon.Fault
import Reckon.Formula.Function
import Reckon.Formula.Token

/-
Repair of a typed formula: display signs become operators, operators typed twice
become one, and missing closing parentheses are added at the end. A formula that
ends with an opened call is refused before anything is added.
-/
namespace Reckon.Formula
open Text

/-- The operator that a display sign stands for. -/
def operatorOf : Char → Char
  | '×' => '*'
  | '÷' => '/'
  | '−' => '-'
  | c => c

/-- Display signs replaced by operators. -/
def normalize (s : List Char) : List Char := s.map operatorOf

/-- An operator of which a run counts as one. -/
def isRepeatable (c : Char) : Bool := c == '+' || c == '-' || c == '*' || c == '/'

/-- Each run of one and the same operator shortened to one. -/
def collapse : List Char → List Char
  | [] => []
  | [c] => [c]
  | c :: d :: r => if c = d && isRepeatable c then collapse (d :: r) else c :: collapse (d :: r)

/-- Closing parentheses that are missing in all. -/
def missing (s : List Char) : Nat := s.count '(' - s.count ')'

/-- The text with the missing closing parentheses at its end. -/
def balance (s : List Char) : List Char := s ++ List.replicate (missing s) ')'

/-- The letters, digits and underscores at the end of a text. -/
def lastWord (s : List Char) : List Char := (s.reverse.takeWhile isNameChar).reverse

/-- The function whose call is opened at the end of a text and has nothing in it. -/
def incompleteCall? (s : List Char) : Option Function :=
  match (trimEnd s).reverse with
  | '(' :: r => Function.ofName? (String.ofList (lastWord r.reverse))
  | _ => none

def repair (s : List Char) : Except Fault (List Char) :=
  let s := collapse s
  match incompleteCall? s with
  | some f => .error (.incompleteCall f.name)
  | none => .ok (balance s)

/-! ## First facts -/

@[simp] theorem normalize_normalize (s : List Char) : normalize (normalize s) = normalize s := by
  have h (c : Char) : operatorOf (operatorOf c) = operatorOf c := by
    by_cases h₁ : c = '×'
    · subst h₁; rfl
    by_cases h₂ : c = '÷'
    · subst h₂; rfl
    by_cases h₃ : c = '−'
    · subst h₃; rfl
    have : operatorOf c = c := by simp [operatorOf]
    rw [this, this]
  simp [normalize, h]

@[simp] theorem collapse_collapse (s : List Char) : collapse (collapse s) = collapse s := by
  fun_induction collapse s with
  | case1 => rfl
  | case2 c => rfl
  | case3 c d r h ih => exact ih
  | case4 c d r h ih =>
    -- the collapsed rest still starts with `d`
    have start : ∀ (t : List Char) (x : Char), ∃ u, collapse (x :: t) = x :: u := by
      intro t
      induction t with
      | nil => intro x; exact ⟨[], rfl⟩
      | cons y t iht =>
        intro x
        by_cases hxy : (x = y && isRepeatable x) = true
        · obtain ⟨u, hu⟩ := iht y
          have : x = y := by simpa using (Bool.and_eq_true_iff.1 hxy).1
          exact ⟨u, by rw [collapse, if_pos hxy, hu, this]⟩
        · exact ⟨collapse (y :: t), by rw [collapse, if_neg hxy]⟩
    obtain ⟨u, hu⟩ := start r d
    rw [hu] at ih ⊢
    rw [collapse, if_neg h, ih]

end Reckon.Formula
