import Mathlib.Data.List.Basic
import Reckon.Number.Display

/-
The characters of written numbers. Whatever its layout, the text of a double is made of digits,
signs, a point, the letter of an exponent, and the letters of the values that are no numbers
(`written_resultText`). So no result reads like a word with any other letter.
-/
namespace Reckon.Number

/-- A character of numbers: a digit, a sign, a point, or a letter of an exponent or of a value
that is no number. -/
def IsNumeral (c : Char) : Prop := c.isDigit = true ∨ c ∈ "+-.einfa".toList

instance (c : Char) : Decidable (IsNumeral c) := inferInstanceAs (Decidable (_ ∨ _))

/-- A text of such characters. -/
def Written (s : List Char) : Prop := ∀ c ∈ s, IsNumeral c

instance (s : List Char) : Decidable (Written s) := List.decidableBAll IsNumeral s

theorem written_nil : Written [] := by
  intro c hc
  cases hc

theorem written_of_digits {s : List Char} (h : ∀ c ∈ s, c.isDigit = true) : Written s :=
  fun c hc => .inl (h c hc)

theorem Written.append {s t : List Char} (hs : Written s) (ht : Written t) : Written (s ++ t) :=
  fun c hc => (List.mem_append.1 hc).elim (hs c) (ht c)

theorem Written.cons {c : Char} {s : List Char} (hs : Written s) (hc : IsNumeral c) :
    Written (c :: s) := by
  intro d hd
  obtain rfl | hd := List.mem_cons.1 hd
  · exact hc
  · exact hs d hd

theorem Written.of_subset {s t : List Char} (ht : Written t) (h : ∀ c ∈ s, c ∈ t) : Written s :=
  fun c hc => ht c (h c hc)

/-! ## Digits -/

theorem isDigit_of_mem_decimalDigits {n : Nat} {c : Char} (h : c ∈ decimalDigits n) :
    Text.isDigit c = true := by
  have hd := Nat.isDigit_of_mem_toDigits (by decide) (by decide) h
  exact Text.isDigit_of_ascii hd

theorem decimalDigits_ne_nil (n : Nat) : decimalDigits n ≠ [] := Nat.toDigits_ne_nil

theorem written_decimalDigits (n : Nat) : Written (decimalDigits n) :=
  written_of_digits fun _ hc => Nat.isDigit_of_mem_toDigits (by decide) (by decide) hc

theorem written_intDigits (i : Int) : Written (intDigits i) := by
  unfold intDigits
  split
  · exact (written_decimalDigits _).cons (by decide)
  · exact written_decimalDigits _

theorem written_zeros (n : Nat) : Written (zeros n) :=
  written_of_digits fun c hc => by rw [List.eq_of_mem_replicate hc]; rfl

theorem written_dropTrailingZeros {ds : List Char} (h : Written ds) :
    Written (dropTrailingZeros ds) := by
  refine h.of_subset fun c hc => ?_
  have hc' := List.mem_reverse.1 hc
  exact List.mem_reverse.1 ((List.dropWhile_sublist _).mem hc')

/-! ## Layouts -/

theorem written_exponentText (l : Layout) (e : Int) : Written (l.exponentText e) := by
  have hsign : Written ((if e < 0 then '-' else '+') ::
      (zeros (l.exponentDigits - (decimalDigits e.natAbs).length) ++ decimalDigits e.natAbs)) := by
    refine ((written_zeros _).append (written_decimalDigits _)).cons ?_
    split <;> decide
  exact hsign.cons (by decide)

theorem written_layout {l : Layout} (hl : Written l.afterSoleDigit) {ds : List Char}
    (hds : Written ds) (k : Int) : Written (l.text ds k) := by
  have hpoint : IsNumeral '.' := by decide
  have hzero : IsNumeral '0' := by decide
  unfold Layout.text
  split
  · split
    · exact written_nil
    · next d => exact (hl.append (written_exponentText l _)).cons (hds d (by simp))
    · next d r _ =>
      have hr : Written r := fun c hc => hds c (List.mem_cons_of_mem d hc)
      exact ((hr.append (written_exponentText l _)).cons hpoint).cons (hds d (by simp))
  · split
    · exact (((written_zeros _).append hds).cons hpoint).cons hzero
    · have hwhole : Written (ds.take k.toNat) := hds.of_subset fun _ => List.mem_of_mem_take
      have hfraction : Written (ds.drop k.toNat) := hds.of_subset fun _ => List.mem_of_mem_drop
      refine (hwhole.append (written_zeros _)).append (Written.cons ?_ hpoint)
      split
      · exact written_nil.cons hzero
      · exact hfraction

theorem written_decimal (d : Decimal) : Written (d.text .plain) :=
  written_layout written_nil (written_dropTrailingZeros (written_decimalDigits _)) _

theorem written_double (d : Double) : Written d.text := by
  have hminus (negative : Bool) : Written (if negative then ['-'] else []) := by
    cases negative <;> decide
  cases d with
  | nan => decide
  | negZero => decide
  | infinite negative => exact (hminus negative).append (by decide)
  | finite x =>
    simp only [Double.text]
    split
    · decide
    · exact (hminus (isNegative x)).append (written_decimal _)

theorem written_resultText (d : Double) : Written (resultText d) := by
  simp only [resultText, resultTextTo]
  split
  · exact written_double _
  · split
    · decide
    · split
      · exact written_intDigits _
      · exact written_double _

end Reckon.Number
