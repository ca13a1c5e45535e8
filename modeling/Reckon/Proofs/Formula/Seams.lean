import Reckon.Formula.Repair

/-
Repair of a text that is put together from parts. Where the characters at a seam cannot merge,
runs are shortened in each part by itself (`collapse_append`); neither that nor the replacement
of display signs changes how many parentheses there are, so what is missing can be counted in
the text as it was typed (`missing_collapse`, `missing_normalize`).
-/
namespace Reckon.Formula
open Text

/-! ## Signs and runs -/

theorem normalize_append (a b : List Char) : normalize (a ++ b) = normalize a ++ normalize b :=
  List.map_append

/-- Across a seam at which no run goes on, the parts are shortened one by one. -/
theorem collapse_append {a b : List Char}
    (h : ∀ x ∈ a.getLast?, ∀ y ∈ b.head?, x = y → isRepeatable x = false) :
    collapse (a ++ b) = collapse a ++ collapse b := by
  -- only the last character of `a` meets `b`, so the cases of `collapse` carry over
  fun_induction collapse a with
  | case1 => rfl
  | case2 c =>
    cases b with
    | nil => rfl
    | cons d r =>
      have hcd : ¬(c = d && isRepeatable c) = true := by
        intro hc
        obtain ⟨heq, hrep⟩ := Bool.and_eq_true_iff.1 hc
        have hno := h c rfl d rfl (of_decide_eq_true heq)
        rw [hno] at hrep
        cases hrep
      exact if_neg hcd
  | case3 c d r hc ih =>
    rw [List.cons_append, List.cons_append, collapse, if_pos hc]
    exact ih (by simpa using h)
  | case4 c d r hc ih =>
    have hrest := ih (by simpa using h)
    rw [List.cons_append, List.cons_append, collapse, if_neg hc, List.cons_append,
      ← List.cons_append, hrest]

theorem count_collapse {c : Char} (hc : isRepeatable c = false) (s : List Char) :
    (collapse s).count c = s.count c := by
  fun_induction collapse s with
  | case1 => rfl
  | case2 d => rfl
  | case3 d e r hd ih =>
    -- a character that is dropped is one of those that repeat
    have hne : d ≠ c := by
      rintro rfl
      simp [hc] at hd
    rw [ih, List.count_cons_of_ne hne]
  | case4 d e r hd ih => rw [List.count_cons, List.count_cons, ih]

theorem count_normalize {c : Char} (hc : ∀ d, operatorOf d = c ↔ d = c) (s : List Char) :
    (normalize s).count c = s.count c := by
  rw [normalize, List.count, List.countP_map]
  refine List.countP_congr fun d _ => ?_
  simp [hc d]

/-! ## Parentheses -/

theorem operatorOf_eq_iff {c : Char} (hc : c ∉ ['×', '÷', '−', '*', '/', '-']) (d : Char) :
    operatorOf d = c ↔ d = c := by
  simp only [List.mem_cons, List.not_mem_nil, or_false, not_or] at hc
  unfold operatorOf
  split <;> simp_all [eq_comm]

@[simp] theorem missing_collapse (s : List Char) : missing (collapse s) = missing s := by
  rw [missing, missing, count_collapse rfl, count_collapse rfl]

@[simp] theorem missing_normalize (s : List Char) : missing (normalize s) = missing s := by
  rw [missing, missing, count_normalize (operatorOf_eq_iff (by decide)),
    count_normalize (operatorOf_eq_iff (by decide))]

/-! ## What a repair leaves -/

/-- A text whose last character is no opening parenthesis and no white space opens no call. -/
theorem incompleteCall?_of_last {s : List Char} {c : Char} (hc : isBlank c = false)
    (hp : c ≠ '(') : incompleteCall? (s ++ [c]) = none := by
  have htrim : trimEnd (s ++ [c]) = s ++ [c] := by simp [trimEnd, hc]
  rw [incompleteCall?, htrim, List.reverse_append, List.reverse_singleton, List.singleton_append]
  split
  · next heq => exact absurd (List.cons.inj heq).1 hp
  · rfl

/-- A repair gives a text unless a call is left open. -/
theorem repair_eq_ok_iff {s r : List Char} :
    repair s = .ok r ↔ incompleteCall? (collapse s) = none ∧ r = balance (collapse s) := by
  simp only [repair]
  cases incompleteCall? (collapse s) with
  | none => simp [eq_comm]
  | some f => simp

theorem eq_balance_of_repair {s r : List Char} (h : repair s = .ok r) :
    r = balance (collapse s) :=
  (repair_eq_ok_iff.1 h).2

end Reckon.Formula
