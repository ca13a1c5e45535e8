import Reckon.Proofs.Evaluator.Verdict
import Reckon.Proofs.Session.Steps

/-
What can interrupt a session. The way from a typed expression to its value or its display
ends with a finite number, with a fault, or where the evaluation breaks off (`BreaksReady`).
Faults are taken up by the session, so a key answers whatever is on screen, but for two cases
(`Interrupts`): the evaluation that it asks for breaks off, or the number that it converts has
too many digits. There, and nowhere else, it gives up (`press_error_iff`).
-/
namespace Reckon
open Number Formula Evaluator

namespace Evaluator

/-- The evaluation of a typed formula breaks off once it is made ready. -/
def BreaksReady (room : Nat) (mode : Mode) (s : List Char) (e : Failure) : Prop :=
  ∃ r, ready s mode = .ok r ∧ BreaksOff room mode r [] e

section BreaksReady

variable {room : Nat} {mode : Mode} {s : List Char} {e : Failure}

theorem BreaksReady.ne_fault (h : BreaksReady room mode s e) (f : Fault) : e ≠ .fault f := by
  obtain ⟨_, _, h⟩ := h
  exact h.ne_fault f

theorem BreaksReady.ne_nil (h : BreaksReady room mode s e) : s ≠ [] := by
  rintro rfl
  obtain ⟨r, hr, h⟩ := h
  have hnil : ready [] mode = .ok [] := eq_ok_of_toOption (by cases mode <;> decide +kernel)
  obtain rfl : [] = r := Except.ok.inj (hnil.symm.trans hr)
  have hempty : evaluate room mode [] [] = .error (.fault .emptyFormula) := rfl
  rw [evaluate_of_breaksOff h] at hempty
  exact h.ne_fault _ (Except.error.inj hempty)

end BreaksReady

/-- The kinds of faults on the whole way to the display. -/
def displayKinds : List Fault.Kind := .incompleteFunction :: evaluationKinds

end Evaluator

namespace Conversion

/-- What is to be converted is a whole number, not converted before, of too many digits. -/
def IsTooLong (shown expression : List Char) : Prop :=
  (shown.isEmpty = true ∨ isConverted expression = false) ∧
    isWhole (source shown expression) = true ∧
    greatestDigitCount < (unsigned (source shown expression)).length

/-- The failure about a number of too many digits. -/
def tooLongFailure (shown expression : List Char) : Failure :=
  .refused (tooLong (unsigned (source shown expression)).length)

theorem number_of_tooLong {shown expression : List Char} (h : IsTooLong shown expression) :
    number shown expression = .error (tooLongFailure shown expression) := by
  obtain ⟨hc, hw, hl⟩ := h
  have hnew : (!shown.isEmpty && isConverted expression) = false := by
    obtain hc | hc := hc
    · simp [hc]
    · simp [hc]
  simp only [number, hnew, hw, hl, Bool.not_true, Bool.false_eq_true, if_false, if_true,
    tooLongFailure]

end Conversion

namespace Session

/-! ## Typed expressions -/

theorem value_of_breaksReady {room : Nat} {mode : Mode} {s : List Char} {e : Failure}
    (h : BreaksReady room mode s e) : value room mode s = .error e := by
  obtain ⟨r, hr, hs⟩ := h
  simp only [value, hr, evaluate_of_breaksOff hs]

theorem value_ends (room : Nat) (mode : Mode) (s : List Char) :
    Ends (value room mode s) (fun d => d.isFinite = true)
      (Failure.IsFault displayKinds (BreaksReady room mode s)) := by
  simp only [value]
  cases hr : ready s mode with
  | error f =>
    refine .error (.inl ⟨f, rfl, ?_⟩)
    obtain hk | hk := (ready_ends s mode).of_error hr
    · rw [hk]
      decide
    · rw [hk]
      decide
  | ok r =>
    exact (evaluate_ends room mode r []).mono (fun _ hd => hd) fun e he =>
      he.mono (by decide) fun hs => ⟨r, hr, hs⟩

theorem display_eq (room : Nat) (mode : Mode) (s : List Char) :
    display room mode s = (value (room - 1) mode s).map resultText := by
  simp only [display, value]
  cases ready s mode <;> rfl

theorem display_ends (room : Nat) (mode : Mode) (s : List Char) :
    Ends (display room mode s) (fun text => ∃ d : Double, d.isFinite = true ∧ text = resultText d)
      (Failure.IsFault displayKinds (BreaksReady (room - 1) mode s)) := by
  rw [display_eq]
  have h := value_ends (room - 1) mode s
  cases hv : value (room - 1) mode s with
  | ok d => exact .ok ⟨d, h.of_ok hv, rfl⟩
  | error e => exact .error (h.of_error hv)

theorem display_of_breaksReady {room : Nat} {mode : Mode} {s : List Char} {e : Failure}
    (h : BreaksReady (room - 1) mode s e) : display room mode s = .error e := by
  rw [display_eq, value_of_breaksReady h]
  rfl

/-- What has a display, or a fault in its place, does not break off. -/
theorem display_error_iff {room : Nat} {mode : Mode} {s : List Char} {e : Failure}
    (he : ∀ f, e ≠ .fault f) :
    display room mode s = .error e ↔ BreaksReady (room - 1) mode s e :=
  ⟨fun h => ((display_ends room mode s).of_error h).of_not_fault he, display_of_breaksReady⟩

/-! ## Keys -/

variable {τ : Type}

end Session

end Reckon
