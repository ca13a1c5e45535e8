import Reckon.Proofs.Number.Numeral
import Reckon.Proofs.Session.Interruption

/-
Conversion to another base is exact. The text on screen is read as a decimal numeral, in the
digits of any script. What is shown for it, and the number named in the expression beside it,
are the numerals of the same integer (`convert_exact`), of whatever size it is up to the greatest
number of digits that can be read.
-/
namespace Reckon
open Number

namespace Conversion

variable {shown expression : List Char}

theorem number_of_whole (hw : isWhole (source shown expression) = true)
    (hlen : (unsigned (source shown expression)).length ≤ greatestDigitCount)
    (hnew : ¬ (shown ≠ [] ∧ isConverted expression = true)) :
    number shown expression = .ok (value (source shown expression)) := by
  have hnew : (!shown.isEmpty && isConverted expression) = false := by simpa using hnew
  simp [number, hnew, hw, hlen]

theorem number_of_not_whole (h : isWhole (source shown expression) = false ∨
    shown ≠ [] ∧ isConverted expression = true) :
    ∃ f, f.kind = .conversion ∧ number shown expression = .error (.fault f) := by
  unfold number
  dsimp only
  split
  · exact ⟨_, rfl, rfl⟩
  · next hold =>
    have hw : isWhole (source shown expression) = false := by
      refine h.resolve_right fun hc => hold ?_
      simp [hc]
    exact ⟨.notWhole (source shown expression), rfl, by simp [hw]⟩

end Conversion

namespace Session

variable {τ : Type}

/-- The text that a conversion of the session reads. -/
def source (s : Session τ) : List Char := Conversion.source s.convertible s.expression

/-- What is shown is a number that was converted. -/
def ShowsConverted (s : Session τ) : Prop :=
  s.convertible ≠ [] ∧ Conversion.isConverted s.expression = true

instance (s : Session τ) : Decidable s.ShowsConverted := inferInstanceAs (Decidable (_ ∧ _))

/-- A decimal numeral on screen that was not converted before becomes the numeral of the same
integer in the other base, beside the same integer in decimal; one of too many digits breaks the
conversion off. Anything else ends in a fault of the conversion, and the expression stays as it
was. -/
theorem convert_exact (s : Session τ) (r : Radix) :
    (∀ i, integer? Text.digitValue? 10 s.source = some i →
      (Conversion.unsigned s.source).length ≤ Conversion.greatestDigitCount → ¬ s.ShowsConverted →
      ∃ text decimal, IsNumeralOf r.base text i ∧ IsNumeralOf 10 decimal i ∧
        ∃ expression, expression = r.caption ++ '(' :: (decimal ++ [')']) ∧
          s.convert r = ⟨{ s with expression := expression, result := text, fault := none },
            .ok text, some ⟨expression, text, s.mode⟩⟩) ∧
    (∀ i, integer? Text.digitValue? 10 s.source = some i →
      Conversion.greatestDigitCount < (Conversion.unsigned s.source).length → ¬ s.ShowsConverted →
      s.convert r = ⟨s, .error (Conversion.tooLongFailure s.convertible s.expression), none⟩) ∧
    (integer? Text.digitValue? 10 s.source = none ∨ s.ShowsConverted →
      ∃ f, f.kind = .conversion ∧ s.convert r = ⟨s.failed f, .ok errorDisplay, none⟩ ∧
        (s.convert r).session.expression = s.expression) := by
  rw [Conversion.integer?_eq]
  refine ⟨fun i hi hlen hnew => ?_, fun i hi hlen hnew => ?_, fun h => ?_⟩
  · obtain ⟨hw, hi⟩ := Option.ite_none_right_eq_some.1 hi
    obtain rfl := Option.some.inj hi
    have hn := Conversion.number_of_whole hw hlen hnew
    refine ⟨r.write _, intDigits _, r.isNumeralOf_write _, isNumeralOf_intDigits _, _, rfl, ?_⟩
    rw [convert, hn]
    rfl
  · have hw := (Option.ite_none_right_eq_some.1 hi).1
    have hconverted : s.convertible.isEmpty = true ∨
        Conversion.isConverted s.expression = false := by
      simpa [ShowsConverted, or_iff_not_imp_left] using hnew
    rw [convert, Conversion.number_of_tooLong ⟨hconverted, hw, hlen⟩]
    rfl
  · have hw : Conversion.isWhole s.source = false ∨ s.ShowsConverted := by
      refine h.imp_left fun h => ?_
      split at h
      · cases h
      · next hw => simpa using hw
    obtain ⟨f, hf, hn⟩ := Conversion.number_of_not_whole hw
    have hs : s.convert r = ⟨s.failed f, .ok errorDisplay, none⟩ := by
      rw [convert, hn]
      rfl
    exact ⟨f, hf, hs, by rw [hs]; rfl⟩

/-- A negative number with a zero in front, in the signs of the screen. -/
def minusLead : Session Int := { fresh ⟨2, 1, false⟩ .standard with expression := "−0255".toList }

/-- One digit more than can be read. -/
def manyOnes : Session Int :=
  { fresh ⟨2, 1, false⟩ .standard with expression := List.replicate 4301 '1' }

/-- The first is converted once and not again, and the second is not converted at all. -/
theorem convert_exact_minusLead :
    (∃ text decimal, IsNumeralOf 16 text (-255) ∧ IsNumeralOf 10 decimal (-255) ∧
        ∃ expression, expression = "dec_to_hex(".toList ++ (decimal ++ [')']) ∧
          minusLead.convert .hexadecimal =
            ⟨{ minusLead with expression := expression, result := text, fault := none },
              .ok text, some ⟨expression, text, .standard⟩⟩) ∧
      manyOnes.convert .octal =
        ⟨manyOnes, .error (Conversion.tooLongFailure manyOnes.convertible manyOnes.expression),
          none⟩ ∧
      ∃ f, f.kind = .conversion ∧
        (minusLead.convert .hexadecimal).session.convert .binary =
          ⟨(minusLead.convert .hexadecimal).session.failed f, .ok errorDisplay, none⟩ ∧
        ((minusLead.convert .hexadecimal).session.convert .binary).session.expression =
          (minusLead.convert .hexadecimal).session.expression := by
  have hones : integer? Text.digitValue? 10 manyOnes.source =
      some (Conversion.value manyOnes.source) := by
    rw [Conversion.integer?_eq, if_pos (by decide +kernel)]
  exact ⟨(convert_exact minusLead .hexadecimal).1 (-255) (by decide) (by decide) (by decide),
    (convert_exact manyOnes .octal).2.1 _ hones (by decide +kernel) (by decide),
    (convert_exact (minusLead.convert .hexadecimal).session .binary).2.2 (.inr (by decide))⟩

/-- A three in the digits of another script. -/
def foreignThree : Session Int := { fresh ⟨2, 1, false⟩ .standard with expression := ['٣'] }

/-- It is no ASCII digit, and it is converted. -/
theorem foreignThree_converts :
    foreignThree.source.all Text.isAsciiDigit = false ∧
      (foreignThree.convert .binary).answer = .ok "11".toList ∧
      (foreignThree.convert .binary).session.expression = "dec_to_bin(3)".toList := by
  exact ⟨by decide, rfl, by decide⟩

end Session

end Reckon
