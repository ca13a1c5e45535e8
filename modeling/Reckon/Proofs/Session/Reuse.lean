import Reckon.Proofs.Evaluator.Settled
import Reckon.Proofs.Evaluator.Verdict
import Reckon.Proofs.Formula.Screening
import Reckon.Proofs.Number.Displayed
import Reckon.Proofs.Session.Steps

/-
Calculating with what is displayed. The text of a displayed number is a literal, with a minus in
front of it if the number is below zero. Such a text has no names, nothing to repair and nothing
that a mode could refuse (`settled_literal`); the spelling that the evaluator reads is a literal
again, and passes the screen (`reusable_literal`). So every displayed number can be typed again,
and what the percent key leaves is one (`resultText_reusable`).
-/
namespace Reckon
open Number Text Formula

/-- A text that is calculated with as it stands, whatever the mode and the variables. -/
structure Reusable (s : List Char) : Prop where
  nonempty : s ≠ []
  noError : s ≠ Session.errorDisplay
  nameless : names s = []
  ready : ∀ mode, ready s mode = .ok s
  screened : ∀ unknowns, screen unknowns (prepare s) = .ok ()

/-! ## Characters -/

theorem operatorOf_eq_self {c : Char} (h : c ∉ "×÷−".toList) : operatorOf c = c := by
  unfold operatorOf
  split
  · exact absurd (by decide) h
  · exact absurd (by decide) h
  · exact absurd (by decide) h
  · rfl

theorem incompleteCall?_of_notMem {s : List Char} (h : '(' ∉ s) : incompleteCall? s = none := by
  unfold incompleteCall?
  split
  · next r hr =>
    have hmem : '(' ∈ trimEnd s := by
      rw [← List.mem_reverse, hr]
      exact List.mem_cons_self
    have hsub : trimEnd s ⊆ s := fun c hc =>
      List.mem_reverse.1 ((List.dropWhile_sublist _).subset (List.mem_reverse.1 hc))
    exact absurd (hsub hmem) h
  · rfl

theorem isFormulaChar_of_isNumeral {c : Char} (h : IsNumeral c) : isFormulaChar c = true := by
  obtain h | h := h
  · have hdigit : isAsciiDigit c = true := by
      simpa [Char.isDigit, isAsciiDigit, Char.le_def] using h
    simp [isFormulaChar, hdigit]
  · have hall : "+-.einfa".toList.all isFormulaChar = true := by decide
    exact List.all_eq_true.1 hall c h

section Literal

variable {f : Figures} (hv : f.Valid) (negative : Bool)
include hv

/-- A literal with its sign has nothing but digits and the characters around them. -/
theorem mem_minus_text {c : Char} (h : c ∈ minus negative ++ f.text) :
    isDigit c = true ∨ c ∈ ".eE+-".toList := by
  obtain h | h := List.mem_append.1 h
  · unfold minus at h
    split at h
    · obtain rfl := List.mem_singleton.1 h
      exact .inr (by decide)
    · cases h
  · exact hv.mem_text h

/-- No character of a list that has none of these is in a literal. -/
theorem notMem_minus_text {c : Char} (hdigit : isDigit c = false) (hc : c ∉ ".eE+-".toList) :
    c ∉ minus negative ++ f.text := by
  intro h
  obtain h | h := mem_minus_text hv negative h
  · rw [hdigit] at h
    cases h
  · exact hc h

/-! ## Repair -/

/-- A sign stands in front of the literal or behind the letter of its exponent, so no two signs
meet. -/
theorem noRun_minus_text : NoRun (minus negative ++ f.text) := by
  have hdigit {c : Char} (hc : isDigit c = true) : isRepeatable c = false := by
    by_contra h
    simp only [isRepeatable, Bool.not_eq_false, Bool.or_eq_true, beq_iff_eq] at h
    obtain ((rfl | rfl) | rfl) | rfl := h <;> exact absurd hc (by decide)
  have hmantissa : ∀ c ∈ f.mantissa, isRepeatable c = false := by
    intro c hc
    obtain hc | hc := List.mem_append.1 hc
    · exact hdigit (List.all_eq_true.1 hv.whole c hc)
    · cases hf : f.fraction with
      | none => simp [hf] at hc
      | some fs =>
        simp only [hf, Option.map_some, Option.getD_some, List.mem_cons] at hc
        obtain rfl | hc := hc
        · rfl
        · exact hdigit (List.all_eq_true.1 (hv.fraction fs hf) c hc)
  have hpower : NoRun f.power := by
    cases hx : f.exponent with
    | none => simp [Figures.power, hx, NoRun]
    | some e =>
      obtain ⟨hm, -, hds⟩ := hv.exponent e hx
      have hmark : ∀ m ∈ exponentMarks, NoRun m := by decide
      have hplain : ∀ c ∈ e.2, isRepeatable c = false := fun c hc =>
        hdigit (List.all_eq_true.1 hds c hc)
      simp only [Figures.power, hx, Option.map_some, Option.getD_some]
      refine List.isChain_append.2 ⟨hmark _ hm, noRun_of_plain hplain, fun a _ b hb hab => ?_⟩
      exact hab ▸ hplain b (List.mem_of_mem_head? hb)
  have hminus : NoRun (minus negative) := by cases negative <;> decide
  have htext : NoRun f.text :=
    List.isChain_append.2 ⟨noRun_of_plain hmantissa, hpower, fun a ha _ _ _ =>
      hmantissa a (List.mem_of_mem_getLast? ha)⟩
  refine List.isChain_append.2 ⟨hminus, htext, fun a _ b hb hab => ?_⟩
  -- the literal starts with a digit or a point
  obtain ⟨r, hr⟩ := List.head?_eq_some_iff.1 hb
  obtain hb | ⟨rfl, _⟩ := hv.head hr
  · exact hab ▸ hdigit hb
  · rw [hab]
    rfl

theorem settled_literal : Settled (minus negative ++ f.text) where
  plain c hc := operatorOf_eq_self fun hsign => by
    have hall : "×÷−".toList.all (fun c => !isDigit c && !".eE+-".toList.contains c) = true := by
      decide
    have hno := List.all_eq_true.1 hall c hsign
    simp only [Bool.and_eq_true, Bool.not_eq_true', List.contains_eq_mem, decide_eq_false_iff_not]
      at hno
    exact notMem_minus_text hv negative hno.1 hno.2 hc
  noRun := noRun_minus_text hv negative
  closed := by
    have hopen := notMem_minus_text hv negative (c := '(') (by decide) (by decide)
    rw [missing, List.count_eq_zero.2 hopen, Nat.zero_sub]
  complete := incompleteCall?_of_notMem (notMem_minus_text hv negative (by decide) (by decide))

/-! ## Words -/

theorem tokens_literal : tokens (minus negative ++ f.text) =
    (if negative then [.other '-'] else []) ++ [.number f.text] := by
  have hnumber : Reads f.text [.number f.text] := by
    have hends : Token.EndsAt (.number f.text) [] := ⟨f, hv, rfl, f.endsAt_nil⟩
    simpa [Token.text] using Reads.cons hends .nil
  refine tokens_eq_iff.2 ?_
  cases negative with
  | false => exact hnumber
  | true => exact .cons (t := .other '-') ⟨by decide, by decide, by simp⟩ hnumber

theorem names_literal : names (minus negative ++ f.text) = [] := by
  rw [names, tokens_literal hv]
  cases negative <;> rfl

/-- The spelling that the evaluator reads is a literal with the same sign. -/
theorem prepare_literal :
    prepare (minus negative ++ f.text) = minus negative ++ f.unzeroed.text := by
  have h := (reads_tokens (prepare (minus negative ++ f.text))).text
  rw [tokens_prepare, tokens_literal hv] at h
  rw [h, hv.text_unzeroed]
  cases negative <;> simp [respell, Token.read, Token.unzeroed, Token.unworded, Token.text, minus]

theorem dropNumbers_literal : dropNumbers (minus negative ++ f.text) = minus negative := by
  have hreads := reads_tokens (minus negative ++ f.text)
  rw [tokens_literal hv, ← List.append_nil (ite _ _ _ ++ _)] at hreads
  rw [dropNumbers_append hreads (by cases negative <;> simp)]
  cases negative <;> simp [Token.left, Token.text, minus, dropNumbers]

end Literal

/-- A literal with its sign, in the characters of written numbers, is calculated with as it
stands. -/
theorem reusable_literal {f : Figures} (hv : f.Valid) {negative : Bool}
    (hw : Written (minus negative ++ f.text)) : Reusable (minus negative ++ f.text) where
  nonempty := by simp [hv.text_ne_nil]
  noError h := absurd (h ▸ hw) (by decide)
  nameless := names_literal hv negative
  ready mode := by
    obtain ⟨hplain, hrepair⟩ := settled_iff.1 (settled_literal hv negative)
    refine ready_eq_ok_iff.2 ⟨by rw [hplain, hrepair], ?_⟩
    rw [names_literal hv]
    cases mode <;> rfl
  screened unknowns := by
    rw [prepare_literal hv, screen_eq_ok_iff, dropNumbers_literal hv.unzeroed,
      names_literal hv.unzeroed]
    refine ⟨List.all_eq_true.2 fun c hc => isFormulaChar_of_isNumeral (hw c ?_), ?_, by simp⟩
    · rw [hv.text_unzeroed, dropLeadingZeros_eq] at hc
      exact ((dropZeros_sublist f.text).append_left _).subset hc
    · cases negative <;> decide

/-! ## Displayed numbers -/

theorem reusable_resultText {d : Double} {x : Dyadic} (hv : d.value? = some x) (hx : IsDouble x) :
    Reusable (resultText d) := by
  obtain ⟨y, hy, hd, -⟩ := roundPlaces_spec (n := resultPlaces) hv hx (by decide) (by decide)
  obtain ⟨f, hf, htext, -⟩ := exists_figures_resultText hy hd
  have hw := written_resultText d
  rw [htext] at hw ⊢
  exact reusable_literal hf hw

/-! ## The percent key -/

theorem Term.isDouble_of_toDouble {t : Term} {d : Double} (h : t.toDouble = .ok d) :
    ∃ x, d.value? = some x ∧ IsDouble x := by
  unfold Term.toDouble at h
  split at h
  · cases h
  split at h
  · cases h
  split at h
  · cases h
  split at h
  · next z _ =>
    split at h
    · dsimp only at h
      split at h
      · next hfinite =>
        cases h
        obtain ⟨x, hx⟩ := Option.isSome_iff_exists.1 hfinite
        exact ⟨x, hx, Double.isDouble_ofDyadic hx⟩
      · cases h
    · cases h
  · split at h <;> cases h

theorem Session.isDouble_of_value {room : Nat} {mode : Mode} {s : List Char} {v : Double}
    (h : value room mode s = .ok v) : ∃ x, v.value? = some x ∧ IsDouble x := by
  simp only [value, Evaluator.evaluate] at h
  split at h
  · cases h
  next r _ =>
  cases hp : Evaluator.parse (room - 1) mode [] r with
  | error e =>
    rw [List.map_nil, hp] at h
    cases h
  | ok w =>
    rw [List.map_nil, hp, ok_bind] at h
    cases w with
    | term t =>
      simp only [Evaluator.valueOf] at h
      split at h
      · cases h
      · exact Term.isDouble_of_toDouble h
    | list items =>
      have hv : ∀ t, Formula.Value.list items ≠ .term t := by
        intro t ht
        cases ht
      rw [Evaluator.valueOf_of_ne_term _ hv] at h
      cases h
    | function f =>
      have hv : ∀ t, Formula.Value.function f ≠ .term t := by
        intro t ht
        cases ht
      rw [Evaluator.valueOf_of_ne_term _ hv] at h
      cases h

theorem Number.Double.exists_hundredth {v : Double} {x : Dyadic} (hv : v.value? = some x)
    (hx : IsDouble x) : ∃ y, (v / 100).value? = some y ∧ IsDouble y := by
  have hhundred : (100 : Double) = .finite (.ofOdd 25 (-2) (by decide)) := by decide +kernel
  have hlarge : 1 ≤ |(Dyadic.ofOdd 25 (-2) (by decide)).toRat| := by
    rw [Dyadic.toRat_ofOdd_eq_mul_two_pow]
    norm_num
  have hdiv : v / 100 = ofQuotient v.signBit x (.ofOdd 25 (-2) (by decide)) := by
    rw [hhundred]
    cases v with
    | finite y =>
      obtain rfl := Option.some.inj hv
      show div (.finite y) _ = _
      have hsign : isNegative (.ofOdd 25 (-2) (by decide)) = false := by decide
      simp [div, value?, signBit, isZero, hsign]
    | negZero =>
      obtain rfl := Option.some.inj hv
      rfl
    | infinite b => cases hv
    | nan => cases hv
  rw [hdiv]
  exact exists_value?_ofQuotient v.signBit hx hlarge

/-- Every displayed number can be calculated with again, and so can what the percent key makes of
an expression that has a value. -/
theorem Session.resultText_reusable :
    (∀ (d : Double) (x : Dyadic), d.value? = some x → IsDouble x → Reusable (resultText d)) ∧
    ∀ (τ : Type) (s : Session τ) (now : τ) (v : Double), s.expression ≠ [] →
      value (s.room - 2) s.mode s.expression = .ok v → Reusable (s.percent now).session.expression := by
  refine ⟨fun d x hv hx => reusable_resultText hv hx, fun τ s now v hne hvalue => ?_⟩
  obtain ⟨hempty, _⟩ | ⟨w, _, hw, hs⟩ | ⟨f, _, hf, _⟩ | ⟨e, _, he, _⟩ := s.percent_cases now
  · exact absurd hempty hne
  · cases hw.symm.trans hvalue
    obtain ⟨x, hv, hx⟩ := isDouble_of_value hvalue
    obtain ⟨y, hv', hy⟩ := Double.exists_hundredth hv hx
    rw [hs]
    exact reusable_resultText hv' hy
  · cases hf.symm.trans hvalue
  · cases he.symm.trans hvalue

/-- A number below zero with a negative exponent, and an eighth of which a hundredth is taken. -/
theorem Session.resultText_reusable_small :
    Reusable (resultText (.ofRatio true 1 (10 ^ 10))) ∧
    value (Evaluator.usualRoom - 2) .standard "1/8".toList = .ok (.ofRatio false 1 8) ∧
    Reusable (percent ({ fresh ⟨2, 1, false⟩ .standard with expression := "1/8".toList } :
      Session Int) 0).session.expression := by
  have hsmall : (Double.ofRatio true 1 (10 ^ 10)).value? ≠ none := by decide +kernel
  obtain ⟨x, hx⟩ := Option.ne_none_iff_exists'.1 hsmall
  have hvalue : (value (Evaluator.usualRoom - 2) .standard "1/8".toList).toOption = some (.ofRatio false 1 8) := by
    decide +kernel
  obtain ⟨hresult, hpercent⟩ := resultText_reusable
  exact ⟨hresult _ x hx (Double.isDouble_ofRatio true (by decide) hx), eq_ok_of_toOption hvalue,
    hpercent Int _ 0 _ (List.cons_ne_nil _ _) (eq_ok_of_toOption hvalue)⟩

example : resultText (.ofRatio true 1 (10 ^ 10)) = "-1e-10".toList := by decide +kernel

end Reckon
