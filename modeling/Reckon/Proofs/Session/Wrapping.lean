import Mathlib.Data.List.Basic
import Reckon.Proofs.Formula.Seams
import Reckon.Session.Basic

/-
Keys that put something around the expression on screen. They take the expression as it was
typed, with the parentheses that are still open, and what is missing is added only later, at
the very end of the text. Where nothing is missing, or where the text that is put behind the
expression is one closing parenthesis, that makes no difference: the repaired text is what is
put around the repaired expression. A square or a cube of an expression with an open
parenthesis is the exception, for it is the part behind that parenthesis that is raised
(`wrapped_repair`, `openProduct_squared`).
-/
namespace Reckon
open Formula Text

/-- What is put around an expression opens one parenthesis right before it and closes one right
behind it, and nothing in it is to be repaired. -/
structure Wrapping.Encloses (w : Wrapping) : Prop where
  normal_before : normalize w.before.toList = w.before.toList
  normal_after : normalize w.after.toList = w.after.toList
  short_before : collapse w.before.toList = w.before.toList
  short_after : collapse w.after.toList = w.after.toList
  opens : w.before.toList.getLast? = some '('
  closes : w.after.toList.head? = some ')'
  goes_on : w.after.toList.tail.head? ≠ some ')'
  ends : ∃ c, w.after.toList.getLast? = some c ∧ isBlank c = false ∧ c ≠ '('
  count_opening : (w.before.toList ++ w.after.toList).count '(' = 1
  count_closing : (w.before.toList ++ w.after.toList).count ')' = 1

theorem Key.wrappings_enclose {name : String} {w : Wrapping} (hw : (name, w) ∈ Key.wrappings) :
    w.Encloses := by
  have hall : ∀ p ∈ Key.wrappings,
      normalize p.2.before.toList = p.2.before.toList ∧
      normalize p.2.after.toList = p.2.after.toList ∧
      collapse p.2.before.toList = p.2.before.toList ∧
      collapse p.2.after.toList = p.2.after.toList ∧
      p.2.before.toList.getLast? = some '(' ∧ p.2.after.toList.head? = some ')' ∧
      p.2.after.toList.tail.head? ≠ some ')' ∧
      p.2.after.toList.getLast?.any (fun c => !isBlank c && c ≠ '(') = true ∧
      (p.2.before.toList ++ p.2.after.toList).count '(' = 1 ∧
      (p.2.before.toList ++ p.2.after.toList).count ')' = 1 := by decide +kernel
  obtain ⟨nb, na, sb, sa, o, c, g, e, co, cc⟩ := hall _ hw
  obtain ⟨x, hx, hb⟩ := (Option.any_eq_true _ _).1 e
  exact ⟨nb, na, sb, sa, o, c, g, ⟨x, hx, by simpa using hb⟩, co, cc⟩

/-- A key that puts something around the expression is found by its name. -/
theorem Key.read_wrapping {name : String} {w : Wrapping} (hw : (name, w) ∈ Key.wrappings) :
    Key.read name.toList = .ok (.wrap w) := by
  have hall : ∀ p ∈ Key.wrappings, Key.ofText? p.1.toList = some (.wrap p.2) := by decide
  rw [Key.read, hall _ hw]

namespace Wrapping.Encloses

variable {w : Wrapping}

theorem normalize_around (hw : w.Encloses) (s : List Char) :
    normalize (w.around s) = w.around (normalize s) := by
  simp only [around, normalize_append, hw.normal_before, hw.normal_after]

/-- Neither parenthesis merges with what is next to it. -/
theorem collapse_around (hw : w.Encloses) (s : List Char) :
    collapse (w.around s) = w.around (collapse s) := by
  -- an opening and a closing parenthesis are at the seams, and no run of those is shortened
  have behind : collapse (w.before.toList ++ s ++ w.after.toList) =
      collapse (w.before.toList ++ s) ++ collapse w.after.toList := by
    refine collapse_append fun x _ y hy hxy => ?_
    obtain rfl : y = ')' := Option.some.inj (hy.symm.trans hw.closes)
    subst hxy
    rfl
  have front : collapse (w.before.toList ++ s) = collapse w.before.toList ++ collapse s := by
    refine collapse_append fun x hx _ _ _ => ?_
    obtain rfl : x = '(' := Option.some.inj (hx.symm.trans hw.opens)
    rfl
  rw [around, behind, front, hw.short_before, hw.short_after, around]

theorem missing_around (hw : w.Encloses) (s : List Char) :
    missing (w.around s) = missing s := by
  have ho := hw.count_opening
  have hc := hw.count_closing
  simp only [missing, around, List.count_append] at ho hc ⊢
  omega

theorem incompleteCall?_around (hw : w.Encloses) (s : List Char) :
    incompleteCall? (w.around s) = none := by
  obtain ⟨c, hlast, hblank, hopening⟩ := hw.ends
  obtain ⟨front, hfront⟩ := List.getLast?_eq_some_iff.1 hlast
  rw [around, hfront, ← List.append_assoc]
  exact incompleteCall?_of_last hblank hopening

/-- The repaired text: what is missing stands at its very end. -/
theorem repair_around (hw : w.Encloses) (s : List Char) :
    repair (normalize (w.around s)) =
      .ok (w.around (collapse (normalize s)) ++ List.replicate (missing s) ')') := by
  simp only [repair, hw.normalize_around, hw.collapse_around, hw.incompleteCall?_around, balance,
    hw.missing_around, missing_collapse, missing_normalize]

/-- Parentheses at the very end are parentheses behind the expression only where they meet
nothing but the one that is put there. -/
theorem around_append_eq_iff (hw : w.Encloses) (s : List Char) (m : Nat) :
    w.around s ++ List.replicate m ')' = w.around (s ++ List.replicate m ')') ↔
      m = 0 ∨ w.after = ")" := by
  obtain ⟨t, hafter⟩ : ∃ t, w.after.toList = ')' :: t := by
    have hc := hw.closes
    cases h : w.after.toList with
    | nil => simp [h] at hc
    | cons c t =>
      rw [h] at hc
      obtain rfl : c = ')' := Option.some.inj hc
      exact ⟨t, rfl⟩
  have hgoes : t.head? ≠ some ')' := by simpa [hafter] using hw.goes_on
  have hnil : w.after = ")" ↔ t = [] := by
    rw [← String.toList_inj, hafter]
    simp
  have cancel : w.around s ++ List.replicate m ')' = w.around (s ++ List.replicate m ')') ↔
      t ++ List.replicate m ')' = List.replicate m ')' ++ t := by
    have turned : List.replicate m ')' ++ ')' :: t = ')' :: (List.replicate m ')' ++ t) := by
      rw [← List.singleton_append, ← List.append_assoc, ← List.replicate_succ', List.replicate_succ]
      rfl
    simp only [around, hafter, List.append_assoc, List.append_cancel_left_eq, turned,
      List.cons_append, List.cons.injEq, true_and]
  -- parentheses commute with `t` only if there are none or it is empty, for it starts otherwise
  rw [cancel, hnil]
  constructor
  · intro h
    cases m with
    | zero => exact .inl rfl
    | succ m =>
      cases t with
      | nil => exact .inr rfl
      | cons c t =>
        rw [List.replicate_succ, List.cons_append, List.cons_append] at h
        exact absurd (congrArg some (List.cons.inj h).1) hgoes
  · rintro (rfl | rfl) <;> simp

end Wrapping.Encloses

namespace Session

variable {τ : Type} [LE τ] [DecidableLE τ]

/-- The expression after a key that puts something around it. -/
theorem pressNamed_wrapping (s : Session τ) {name : String} {w : Wrapping}
    (hw : (name, w) ∈ Key.wrappings) (now : τ) :
    (s.pressNamed name.toList now).session.expression = w.around s.expression := by
  rw [pressNamed, Key.read_wrapping hw]
  rfl

/-- A key puts its text around the expression as it was typed, and what is missing goes to the
very end. That is its text around the repaired expression exactly where nothing is missing or
nothing but one parenthesis is put behind. -/
theorem wrapped_repair (s : Session τ) {name : String} {w : Wrapping}
    (hw : (name, w) ∈ Key.wrappings) (now : τ) {r : List Char}
    (hr : repair (normalize s.expression) = .ok r) :
    repair (normalize (s.pressNamed name.toList now).session.expression) =
      .ok (w.around (collapse (normalize s.expression)) ++
        List.replicate (missing s.expression) ')') ∧
    (repair (normalize (s.pressNamed name.toList now).session.expression) = .ok (w.around r) ↔
      missing s.expression = 0 ∨ w.after = ")") := by
  have henc := Key.wrappings_enclose hw
  have hbalance : r = collapse (normalize s.expression) ++
      List.replicate (missing s.expression) ')' := by
    rw [eq_balance_of_repair hr, balance, missing_collapse, missing_normalize]
  rw [s.pressNamed_wrapping hw, henc.repair_around, hbalance]
  refine ⟨rfl, ?_⟩
  rw [Except.ok.injEq]
  exact henc.around_append_eq_iff _ _

/-- A product with an open parenthesis in it, which comes to six. -/
def openProduct : Session Nat :=
  { expression := "2×(3".toList, controller := { mode := .scientific, policy := ⟨2, 1, false⟩ } }

/-- Its reciprocal. -/
theorem wrapped_repair_reciprocal :
    ("1/x", ⟨"1/(", ")"⟩) ∈ Key.wrappings ∧
    repair (normalize openProduct.expression) = .ok "2*(3)".toList ∧
    repair (normalize (openProduct.pressNamed "1/x".toList 0).session.expression) =
      .ok "1/(2*(3))".toList :=
  have hw : ("1/x", ⟨"1/(", ")"⟩) ∈ Key.wrappings := by decide
  have hr : repair (normalize openProduct.expression) = .ok "2*(3)".toList := by decide
  ⟨hw, hr, (wrapped_repair openProduct hw 0 hr).2.2 (.inr rfl)⟩

/-- Its square: only the last factor is squared, and eighteen is shown. -/
theorem openProduct_squared :
    repair (normalize openProduct.expression) = .ok "2*(3)".toList ∧
    repair (normalize (openProduct.pressNamed "x²".toList 0).session.expression) ≠
      .ok (Wrapping.around ⟨"(", ")^2"⟩ "2*(3)".toList) ∧
    Evaluator.display Evaluator.usualRoom .scientific openProduct.expression = .ok ['6'] ∧
    Evaluator.display Evaluator.usualRoom .scientific
      (openProduct.pressNamed "x²".toList 0).session.expression = .ok "18".toList := by
  decide +kernel

end Session

end Reckon
