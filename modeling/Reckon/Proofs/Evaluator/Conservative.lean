import Reckon.Proofs.Evaluator.Stages
import Reckon.Proofs.Formula.Gate

/-
Standard mode as a part of Scientific mode. What Standard mode can evaluate calls basic
functions only, so it never came across a function that is switched off, and Scientific mode
checks and evaluates it to the same value. The gate of names in front lets pass in Scientific
mode whatever it lets pass in Standard mode, so the whole way to the display agrees as well.
-/
namespace Reckon.Evaluator
open Number Formula

/-- Modes in which all that a text calls is enabled parse it alike. -/
theorem parse_congr {room : Nat} {m m' : Mode} {unknowns : List String} {s : List Char}
    {tree : Tree} (ht : treeOf room unknowns s = .ok tree) (h : tree.CallsOnly (enabled m))
    (h' : tree.CallsOnly (enabled m')) : parse room m unknowns s = parse room m' unknowns s := by
  rw [parse_of_tree ht, parse_of_tree ht, checkMagnitude_congr h h', evaluateTree_congr h h']

theorem enabled_of_standard {g : Function} (mode : Mode) (h : enabled .standard g = true) :
    enabled mode g = true := by
  cases mode with
  | standard => exact h
  | scientific => rfl

section Room

variable {room : Nat}

/-- A formula with a value in Standard mode calls basic functions only, and has the same
value in Scientific mode. -/
theorem evaluate_standard {s : List Char} {bs : Bindings} {d : Double}
    (h : evaluate room .standard s bs = .ok d) :
    (∃ tree, Formula.parse (prepare s) = some tree ∧ tree.CallsOnly Function.isBasic) ∧
      evaluate room .scientific s bs = .ok d := by
  have hends := parse_ends (room - 1) .standard (bs.map Prod.fst) s
  cases hp : parse (room - 1) .standard (bs.map Prod.fst) s with
  | error e =>
    simp only [evaluate, hp] at h
    cases h
  | ok v =>
    obtain ⟨tree, ht, hc⟩ := hends.of_ok hp
    refine ⟨⟨tree, (treeOf_ends _ _ s).of_ok ht, hc⟩, ?_⟩
    have hsame := parse_congr ht hc (hc.mono fun g hg => enabled_of_standard .scientific hg)
    simp only [evaluate] at h ⊢
    rw [← hsame]
    exact h

/-- A text made ready for Standard mode is as ready for Scientific mode. -/
theorem ready_standard {s r : List Char} (h : ready s .standard = .ok r) :
    ready s .scientific = .ok r := by
  obtain ⟨hrepair, _⟩ := ready_eq_ok_iff.1 h
  exact ready_eq_ok_iff.2 ⟨hrepair, rfl⟩

/-- A text with a display in Standard mode calls basic functions only once it is ready, and
has the same display in Scientific mode. -/
theorem display_standard {s text : List Char} (h : display room .standard s = .ok text) :
    (∃ r tree, ready s .standard = .ok r ∧ Formula.parse (prepare r) = some tree ∧
      tree.CallsOnly Function.isBasic) ∧ display room .scientific s = .ok text := by
  cases hr : ready s .standard with
  | error f =>
    simp only [display, hr] at h
    cases h
  | ok r =>
    simp only [display, hr] at h
    cases he : evaluate (room - 1) .standard r [] with
    | error f =>
      rw [he] at h
      cases h
    | ok d =>
      obtain ⟨⟨tree, ht, hc⟩, hsci⟩ := evaluate_standard he
      refine ⟨⟨r, tree, rfl, ht, hc⟩, ?_⟩
      simp only [display, ready_standard hr, hsci]
      rw [he] at h
      exact h

end Room

/-- Standard mode is a part of Scientific mode: whatever it comes to calls basic functions
only, and comes to the same in Scientific mode. -/
theorem standard_within_scientific (room : Nat) (s : List Char) :
    (∀ (bs : Bindings) (d : Double), evaluate room .standard s bs = .ok d →
      (∃ tree, Formula.parse (prepare s) = some tree ∧ tree.CallsOnly Function.isBasic) ∧
      evaluate room .scientific s bs = .ok d) ∧
    (∀ text : List Char, display room .standard s = .ok text →
      (∃ r tree, ready s .standard = .ok r ∧ Formula.parse (prepare r) = some tree ∧
        tree.CallsOnly Function.isBasic) ∧
      display room .scientific s = .ok text) :=
  ⟨fun _ _ h => evaluate_standard h, fun _ h => display_standard h⟩

/-- The distance of a variable from zero is the same in both modes, and so is its display. -/
theorem abs_within_scientific :
    evaluate usualRoom .standard "abs(x)".toList [("x", .int (-2))] = .ok (Double.ofInt 2) ∧
    evaluate usualRoom .scientific "abs(x)".toList [("x", .int (-2))] = .ok (Double.ofInt 2) ∧
    display usualRoom .standard "abs(-2)".toList = .ok "2".toList ∧
    display usualRoom .scientific "abs(-2)".toList = .ok "2".toList := by
  have hv : evaluate usualRoom .standard "abs(x)".toList [("x", .int (-2))] =
      .ok (Double.ofInt 2) := eq_ok_of_toOption (by decide +kernel)
  have hd : display usualRoom .standard "abs(-2)".toList = .ok "2".toList :=
    eq_ok_of_toOption (by decide +kernel)
  have sameValue := ((standard_within_scientific usualRoom "abs(x)".toList).1 _ _ hv).2
  have sameDisplay := ((standard_within_scientific usualRoom "abs(-2)".toList).2 _ hd).2
  exact ⟨hv, sameValue, hd, sameDisplay⟩

end Reckon.Evaluator
