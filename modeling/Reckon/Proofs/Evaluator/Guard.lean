import Reckon.Proofs.Evaluator.Stages
import Reckon.Proofs.Formula.Room

/-
The check as the last gate in front of the evaluator. Only formulas pass it, and nothing
else is evaluated: a text whose tree has a foreign construct anywhere in it fails with one
and the same failure whatever would evaluate it. `parseWith` is the way from a text to a value
with the evaluator left open. A value that the check knows is a binary fraction, so there is
no infinity among them; if the fractions in the tree are doubles, it is in their range. With
room for the calls that a tree takes the check never breaks down. With less it may, and a sum
that is long enough is a formula for which it does (`longSum_breaks`).
-/
namespace Reckon.Evaluator
open Number Formula

/-- A formula without substituting anything, by any evaluator of trees. -/
def parseWith (evaluate : Tree → Except Fault Value) (room : Nat) (mode : Mode)
    (unknowns : List String) (s : List Char) : Except Failure Value := do
  let tree ← (treeOf room unknowns s).mapError .fault
  let _ ← checkMagnitude (enabled mode) (room - 1) tree
  (evaluate tree).mapError .fault

/-- The failure is a fault of the result or of the evaluator, or there was no room for the tree. -/
def IsRefusal (room : Nat) (t : Tree) (e : Failure) : Prop :=
  (∃ f, e = .fault f ∧ (f.kind = .invalidResult ∨ f.kind = .evaluator)) ∨
    e = .breakdown .tooDeep ∧ room < t.calls

theorem isRefusal_of_refuses {room : Nat} {t : Tree} {e : Failure} (h : Refuses room t e) :
    IsRefusal room t e := by
  obtain rfl | ⟨f, rfl, hk, _⟩ | h := h
  · exact .inl ⟨_, rfl, .inl rfl⟩
  · exact .inl ⟨f, rfl, .inr hk⟩
  · exact .inr h

/-- A text whose tree is no formula fails alike whatever would evaluate it. -/
theorem parseWith_of_not_formula (room : Nat) (mode : Mode) (unknowns : List String)
    {s : List Char} {tree : Tree} (ht : Formula.parse (prepare s) = some tree)
    (hn : ¬ IsFormula tree) :
    ∃ e, IsRefusal (room - 1) tree e ∧
      ∀ evaluate, parseWith evaluate room mode unknowns s = .error e := by
  have hfront := treeOf_ends room unknowns s
  have hcheck := checkMagnitude_ends (enabled mode) (room - 1) tree
  cases hs : treeOf room unknowns s with
  | error f =>
    refine ⟨.fault f, .inl ⟨f, rfl, .inr (hfront.of_error hs)⟩, fun evaluate => ?_⟩
    rw [parseWith, hs]
    rfl
  | ok tree' =>
    have htree := hfront.of_ok hs
    rw [ht] at htree
    cases htree
    -- the check comes out the same whatever stands behind it
    cases hc : checkMagnitude (enabled mode) (room - 1) tree with
    | ok v => exact absurd (hcheck.of_ok hc).1 hn
    | error e =>
      refine ⟨e, isRefusal_of_refuses (hcheck.of_error hc), fun evaluate => ?_⟩
      rw [parseWith, hs]
      simp only [Except.mapError, ok_bind, hc, error_bind]

/-- The check lets only formulas pass that there is room for, whose known values are numbers in
the range of doubles, and refuses all else as too large or as no formula, or breaks down where
there is too little room; beyond the calls that a tree takes the room makes no difference, and with
less the check of a tree that would pass breaks down. Nothing foreign is in a formula, and a text
whose tree is no formula never gets to an evaluator. -/
theorem only_formulas_evaluated (enabled : Function → Bool) (room : Nat) (t : Tree) :
    (∀ v, checkMagnitude enabled room t = .ok v →
      IsFormula t ∧ t.calls ≤ room ∧ (t.Doubles → ∀ x, v = some x → |x.toRat| < 2 ^ 1024)) ∧
    (∀ e, checkMagnitude enabled room t = .error e →
      e = .fault .tooLarge ∧ Fault.tooLarge.kind = .invalidResult ∨
      (∃ f, e = .fault f ∧ f.kind = .evaluator ∧ ¬ IsFormula t) ∨
      e = .breakdown .tooDeep ∧ room < t.calls) ∧
    (t.calls ≤ room → checkMagnitude enabled room t = checkMagnitude enabled t.calls t) ∧
    (∀ v, checkMagnitude enabled t.calls t = .ok v →
      (checkMagnitude enabled room t = .error (.breakdown .tooDeep) ↔ room < t.calls)) ∧
    (∀ u : Tree, u.Within t → u.IsForeign → ¬ IsFormula t) ∧
    (∀ mode, parse room mode = parseWith (evaluateTree mode) room mode) ∧
    (∀ (mode : Mode) (unknowns : List String) (s : List Char),
      Formula.parse (prepare s) = some t → ¬ IsFormula t →
      ∃ e, IsRefusal (room - 1) t e ∧
        ∀ evaluate, parseWith evaluate room mode unknowns s = .error e) := by
  refine ⟨?_, ?_, ?_, ?_, ?_, fun _ => rfl, ?_⟩
  · intro v hv
    obtain ⟨ht, hroom, hrange⟩ := (checkMagnitude_ends enabled room t).of_ok hv
    refine ⟨ht, hroom, fun hd x hx => ?_⟩
    calc |x.toRat| < 2 ^ magnitude x := abs_toRat_lt x
      _ ≤ 2 ^ (1024 : Int) := zpow_le_zpow_right₀ (by norm_num) (hrange hd x hx)
      _ = 2 ^ 1024 := zpow_natCast 2 1024
  · intro e he
    obtain rfl | he := (checkMagnitude_ends enabled room t).of_error he
    · exact .inl ⟨rfl, rfl⟩
    · exact .inr he
  · intro hroom
    exact checkMagnitude_of_calls_le hroom
  · intro v hv
    exact tooDeep_iff_of_passes hv
  · intro u hu hf ht
    exact ht.not_foreign_within hu hf
  · intro mode unknowns s ht hn
    exact parseWith_of_not_formula room mode unknowns ht hn

/-- Minus seven passes as a formula; seven divided with the fraction dropped never gets to
an evaluator. -/
theorem minusSeven_passes :
    IsFormula (.unary .neg (.literal (.whole 7))) ∧ |(-(ofInt 7)).toRat| < 2 ^ 1024 ∧
    (Tree.unary .neg (.literal (.whole 7))).calls ≤ 3 ∧
    Formula.parse (prepare "7//2".toList) = some (.binary .floorDiv
      (.callOf "Integer" [.literal (.whole 7)]) (.callOf "Integer" [.literal (.whole 2)])) ∧
    ∃ e, IsRefusal (usualRoom - 1) (.binary .floorDiv
      (.callOf "Integer" [.literal (.whole 7)]) (.callOf "Integer" [.literal (.whole 2)])) e ∧
      ∀ evaluate, parseWith evaluate usualRoom .standard [] "7//2".toList = .error e := by
  have hv : checkMagnitude (enabled .standard) 3 (.unary .neg (.literal (.whole 7))) =
      .ok (some (-(ofInt 7))) := by with_unfolding_all rfl
  have ht : Formula.parse (prepare "7//2".toList) = some (.binary .floorDiv
      (.callOf "Integer" [.literal (.whole 7)]) (.callOf "Integer" [.literal (.whole 2)])) := by
    with_unfolding_all rfl
  obtain ⟨passes, -⟩ := only_formulas_evaluated (enabled .standard) 3
    (.unary .neg (.literal (.whole 7)))
  obtain ⟨-, -, -, -, foreign, -, refused⟩ := only_formulas_evaluated (enabled .standard) usualRoom
    (.binary .floorDiv (.callOf "Integer" [.literal (.whole 7)])
      (.callOf "Integer" [.literal (.whole 2)]))
  obtain ⟨hf, hroom, hrange⟩ := passes _ hv
  refine ⟨hf, hrange (fun d hd => ?_) _ rfl, hroom, ht, ?_⟩
  · simp at hd
  · exact refused .standard [] _ ht (foreign _ (.refl _) (.floorDiv _ _))

/-! ## Long sums -/

/-- So many ones added to a one, from the left. -/
def sumOfOnes : Nat → Tree
  | 0 => .callOf "Integer" [.literal (.whole 1)]
  | n + 1 => .binary .add (sumOfOnes n) (.callOf "Integer" [.literal (.whole 1)])

theorem isFormula_sumOfOnes (n : Nat) : IsFormula (sumOfOnes n) := by
  have hone : IsFormula (.callOf "Integer" [.literal (.whole 1)]) := .wrapper (by decide)
  induction n with
  | zero => exact hone
  | succ n ih => exact .binary (by decide) ih hone

/-- A sum is walked from the left, so the walk goes down as far as there is room. -/
theorem checkMagnitude_sumOfOnes (enabled : Function → Bool) {room n : Nat} (h : room ≤ n) :
    checkMagnitude enabled room (sumOfOnes n) = .error (.breakdown .tooDeep) := by
  induction n generalizing room with
  | zero =>
    obtain rfl := Nat.le_zero.1 h
    exact checkMagnitude_zero enabled _
  | succ n ih =>
    cases room with
    | zero => exact checkMagnitude_zero enabled _
    | succ room =>
      simp only [sumOfOnes, checkMagnitude, ih (Nat.le_of_succ_le_succ h), error_bind]
      rfl

def sumOfOnesText (n : Nat) : List Char := '1' :: (List.replicate n "+1".toList).flatten

/-- A sum of twelve hundred ones is a formula, and yet the check neither lets it pass nor refuses
it by a fault: it breaks down, and so does the evaluation of the text. -/
theorem longSum_breaks :
    IsFormula (sumOfOnes 1199) ∧
    checkMagnitude (enabled .standard) usualRoom (sumOfOnes 1199) =
      .error (.breakdown .tooDeep) ∧
    evaluate usualRoom .standard (sumOfOnesText 1199) [] = .error (.breakdown .tooDeep) :=
  ⟨isFormula_sumOfOnes 1199, checkMagnitude_sumOfOnes _ (by decide),
    Ends.eq_error (by decide +kernel)⟩

end Reckon.Evaluator
