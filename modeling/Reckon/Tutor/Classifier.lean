import Reckon.Tutor.Channel
import Reckon.Tutor.Prompt
import Reckon.Tutor.Reply

/-
The mode that an expression needs, as the language model sees it. Expressions without
letters, roots, powers and factorials are standard, and so is every expression about
which the model has nothing usable to say.
-/
namespace Reckon.Tutor.Classifier
open Text

/-- Letters outside ASCII that are a form of an ASCII letter in the other case. -/
def foreignLetters : List Char := ['\u0130', '\u0131', '\u017f', '\u212a']

/-- A character that may call for scientific mode. -/
def isHint (c : Char) : Bool :=
  isAsciiLetter c || foreignLetters.contains c || c == '√' || c == '^' || c == '!'

/-- The expression may call for scientific mode. -/
def needsModel (expression : List Char) : Bool :=
  !isAllBlank expression && expression.any isHint

/-- The label in a reply: the member `mode` of its object, or else the reply itself. -/
def label (reply : List Char) : Json :=
  match Reply.object? reply with
  | some (m :: ms) => (Json.find? "mode" (m :: ms)).getD .null
  | _ => .text (trim reply)

def verdict (reply : List Char) : Except Fault Mode :=
  match Mode.ofJson? (label reply) with
  | some m => .ok m
  | none => .error (.unclassified ("Unusable classifier reply: ".toList ++ quoted reply))

variable {σ : Type}

def ask (ch : Channel σ) (s : σ) (expression : List Char) : σ × Except Failure Mode :=
  if !ch.model.isAvailable then (s, .error (.fault (.unclassified unconfigured)))
  else
    match ch.chat s (Prompt.mode expression) with
    | (s, .error e) => (s, .error (.fault (.unclassified e.message)))
    | (s, .ok content) =>
      match Reply.textOf content with
      | .error e => (s, .error e)
      | .ok reply =>
        match verdict reply with
        | .ok m => (s, .ok m)
        | .error f => (s, .error (.fault f))

/-- The mode that an expression needs; standard where the model does not help. -/
def classify (ch : Channel σ) (s : σ) (expression : List Char) : σ × Except Failure Mode :=
  if !needsModel expression then (s, .ok .standard)
  else
    match ask ch s expression with
    | (s, .error (.fault _)) => (s, .ok .standard)
    | outcome => outcome

end Reckon.Tutor.Classifier
