import Mathlib.Data.List.TakeWhile
import Reckon.Proofs.Number.Written
import Reckon.Proofs.Session.Steps

/-
A converted number is not converted again. The expression that stands beside a number in
another base is recognised as such (`isConverted_expression`), and it is no whole number
itself, so converting it ends in a fault whatever is shown beside it.
-/
namespace Reckon
open Number Text

/-! ## Text that survives trimming -/

theorem Text.mem_dropWhile {s : List Char} {c : Char} (h : c ∈ s) (hb : isBlank c = false) :
    c ∈ s.dropWhile isBlank := by
  rw [← List.takeWhile_append_dropWhile (p := isBlank) (l := s)] at h
  rcases List.mem_append.1 h with h | h
  · have := List.mem_takeWhile_imp h
    rw [hb] at this
    simp at this
  · exact h

theorem Text.mem_trim {s : List Char} {c : Char} (h : c ∈ s) (hb : isBlank c = false) :
    c ∈ trim s := by
  unfold trim trimEnd trimStart
  rw [List.mem_reverse]
  exact mem_dropWhile (List.mem_reverse.2 (mem_dropWhile h hb)) hb

/-! ## Whole numbers and their digits -/

namespace Conversion

theorem isWhole_intDigits (i : Int) : isWhole (intDigits i) = true := by
  have hall : (decimalDigits i.natAbs).all isDigit = true :=
    List.all_eq_true.2 fun c hc => isDigit_of_mem_decimalDigits hc
  have hne := decimalDigits_ne_nil i.natAbs
  unfold intDigits
  split
  · simp [isWhole, hall, hne]
  · unfold isWhole
    split
    · next r hr =>
      -- a digit is no minus
      have hm : isDigit '-' = true := isDigit_of_mem_decimalDigits (n := i.natAbs) (by simp [hr])
      exact absurd hm (by decide)
    · simp [hall, hne]

theorem mem_of_isWhole {s : List Char} (h : isWhole s = true) {c : Char} (hc : c ∈ s) :
    c = '-' ∨ isDigit c = true := by
  unfold isWhole at h
  split at h
  · next r =>
    rcases List.mem_cons.1 hc with rfl | hc
    · exact .inl rfl
    · exact .inr (List.all_eq_true.1 (Bool.and_eq_true_iff.1 h).2 c hc)
  · exact .inr (List.all_eq_true.1 (Bool.and_eq_true_iff.1 h).2 c hc)

/-! ## The expression beside a converted number -/

theorem isExpressionOf_expression (r : Radix) (i : Int) :
    isExpressionOf r (r.expression i) = true := by
  have hx : r.expression i = (r.caption ++ ['(']) ++ (intDigits i ++ [')']) := by
    simp [Radix.expression]
  simp only [isExpressionOf, hx, List.drop_left, List.dropLast_concat, List.getLast?_concat,
    isWhole_intDigits]
  simp

theorem isConverted_expression (r : Radix) (i : Int) : isConverted (r.expression i) = true := by
  have hr : r ∈ Radix.all := by cases r <;> decide
  exact List.any_eq_true.2 ⟨r, hr, isExpressionOf_expression r i⟩

/-- What is converted where nothing is shown beside such an expression is no whole number. -/
theorem source_expression_not_whole (r : Radix) (i : Int) :
    isWhole (source [] (r.expression i)) = false := by
  have hw : 'd' ∈ "dec_to_".toList := by decide
  have hx : 'd' ∈ r.expression i := List.mem_append_left _ (List.mem_append_left _ hw)
  have hd : 'd' ∈ Formula.normalize (r.expression i) := by
    unfold Formula.normalize
    exact List.mem_map.2 ⟨'d', hx, by decide⟩
  have hb : isBlank 'd' = false := by decide
  have hs : 'd' ∈ source [] (r.expression i) := by
    simp only [source, List.isEmpty_nil, if_true]
    exact mem_trim hd hb
  cases h : isWhole (source [] (r.expression i)) with
  | false => rfl
  | true =>
    rcases mem_of_isWhole h hs with hc | hc
    · simp at hc
    · exact absurd hc (by decide)

/-- Beside a converted number there is nothing to convert, whatever is shown. -/
theorem number_expression (shown : List Char) (r : Radix) (i : Int) :
    ∃ f, number shown (r.expression i) = .error (.fault f) ∧ f.kind = .conversion := by
  unfold number
  cases shown with
  | nil =>
    refine ⟨.notWhole (source [] (r.expression i)), ?_, rfl⟩
    simp [source_expression_not_whole]
  | cons c shown =>
    refine ⟨.alreadyConverted, ?_, rfl⟩
    simp [isConverted_expression]

end Conversion

namespace Session

variable {τ : Type}

theorem convert_expression {s : Session τ} {r : Radix} {i : Int} (h : s.expression = r.expression i)
    (r' : Radix) :
    ∃ f, f.kind = .conversion ∧ s.convert r' = ⟨s.failed f, .ok errorDisplay, none⟩ := by
  obtain ⟨f, hf, hk⟩ := Conversion.number_expression s.convertible r i
  refine ⟨f, hk, ?_⟩
  unfold convert
  rw [h, hf]
  rfl

end Session

end Reckon
