import Reckon.Evaluator
import Reckon.Mode.Controller
import Reckon.Session.Key
import Reckon.Session.Voice

/-
A session: the expression being typed, the result beside it, and the mode. Keys,
keyboard and voice change the expression; a fault shows as "Error" and is told to the
user once. Every operation that depends on time is given the time.
-/
namespace Reckon
open Number Mode

/-- A note to the user. -/
structure Note where
  kind : String
  title : String
  text : List Char
  deriving DecidableEq

/-- A finished calculation, as it is recorded. -/
structure Calculation where
  expression : List Char
  result : List Char
  mode : Mode
  deriving DecidableEq

/-- A session. The result is empty while the expression is edited. The room is what the stack
has for calls once an operation of the session runs; a key of the keyboard, which takes one call
more than one of the keypad, is given as much. -/
structure Session (τ : Type) where
  expression : List Char := []
  result : List Char := []
  fault : Option Fault := none
  notes : List Note := []
  controller : Controller τ
  room : Nat := Evaluator.usualRoom

/-- What an operation leaves: the session after it, its answer, and the calculation to
be recorded, if it finished one. -/
structure Step (τ α : Type) where
  session : Session τ
  answer : Except Failure α
  entry : Option Calculation := none

namespace Session

variable {τ : Type}

/-- What is shown for a calculation without a result. -/
def errorDisplay : List Char := "Error".toList

def mode (s : Session τ) : Mode := s.controller.mode

/-- A note is put behind those already there. -/
def note (s : Session τ) (n : Note) : Session τ := { s with notes := s.notes ++ [n] }

def faultNote (f : Fault) : Note := ⟨"error", f.title, f.userMessage⟩

/-- The session after a fault: it is shown, kept, and told to the user. -/
def failed (s : Session τ) (f : Fault) : Session τ :=
  { s with result := errorDisplay, fault := some f }.note (faultNote f)

def drain (s : Session τ) : Session τ × List Note := ({ s with notes := [] }, s.notes)

/-! ## Editing -/

/-- The expression is edited; the result disappears. -/
def edit (s : Session τ) (text : List Char) (now : τ) : Session τ :=
  { s with expression := text, result := [], controller := s.controller.changed text now }

/-- A token is put behind the expression. -/
def type (s : Session τ) (token : List Char) (now : τ) : Session τ :=
  s.edit (s.expression ++ token) now

def wrap (s : Session τ) (w : Wrapping) (now : τ) : Session τ := s.edit (w.around s.expression) now

section Lock

variable [LE τ] [DecidableLE τ]

/-- The expression is replaced by another one; an empty one clears it. -/
def replace (s : Session τ) (text : List Char) (now : τ) : Session τ :=
  if text.isEmpty then
    { s with expression := [], result := [], controller := (s.controller.cleared now).1 }
  else s.edit text now

/-- The last character is taken away. -/
def backspace (s : Session τ) (now : τ) : Session τ := s.replace s.expression.dropLast now

def clear (s : Session τ) (now : τ) : Session τ := { s.replace [] now with fault := none }

end Lock

/-! ## Calculating -/

/-- The outcome of a calculation on the session: a fault is shown, a breakdown leaves
the session as it was. -/
def settle {α : Type} (s : Session τ) (outcome : Except Failure α) (shown : Session τ → List Char)
    (done : α → Step τ (List Char)) : Step τ (List Char) :=
  match outcome with
  | .ok a => done a
  | .error (.fault f) => ⟨s.failed f, .ok (shown (s.failed f)), none⟩
  | .error e => ⟨s, .error e, none⟩

/-- The expression is evaluated and its result shown. -/
def evaluate (s : Session τ) : Step τ (List Char) :=
  if s.expression.isEmpty then ⟨s, .ok s.result, none⟩
  else
    s.settle (Evaluator.display (s.room - 2) s.mode s.expression) Session.result fun text =>
      ⟨{ s with result := text, fault := none }, .ok text, some ⟨s.expression, text, s.mode⟩⟩

def value (room : Nat) (mode : Mode) (expression : List Char) : Except Failure Double :=
  match Formula.ready expression mode with
  | .error f => .error (.fault f)
  | .ok r => Evaluator.evaluate room mode r []

/-- The expression is replaced by the hundredth part of its value. -/
def percent (s : Session τ) (now : τ) : Step τ (List Char) :=
  if s.expression.isEmpty then ⟨s, .ok s.expression, none⟩
  else
    s.settle (value (s.room - 2) s.mode s.expression) Session.expression fun v =>
      let text := resultText (v / 100)
      ⟨{ s.edit text now with fault := none }, .ok text, none⟩

/-- The result that can be converted: an error cannot. -/
def convertible (s : Session τ) : List Char := if s.result = errorDisplay then [] else s.result

/-- The whole number on screen is shown in another base. -/
def convert (s : Session τ) (r : Radix) : Step τ (List Char) :=
  s.settle (Conversion.number s.convertible s.expression) Session.result fun i =>
    let expression := r.expression i
    let text := r.write i
    ⟨{ s with expression := expression, result := text, fault := none }, .ok text,
      some ⟨expression, text, s.mode⟩⟩

/-! ## Keys and voice -/

section Input

variable [LE τ] [DecidableLE τ]

/-- The answer of an edit is the expression after it. -/
def edited (s : Session τ) : Step τ (List Char) := ⟨s, .ok s.expression, none⟩

def press (s : Session τ) (k : Key) (now : τ) : Step τ (List Char) :=
  match k with
  | .equals => s.evaluate
  | .clear => (s.clear now).edited
  | .backspace => (s.backspace now).edited
  | .percent => s.percent now
  | .convert r => s.convert r
  | .wrap w => (s.wrap w now).edited
  | .type token => (s.type token now).edited

/-- A key of the keypad is pressed, given by its name. -/
def pressNamed (s : Session τ) (name : List Char) (now : τ) : Step τ (List Char) :=
  match Key.read name with
  | .ok k => s.press k now
  | .error e => ⟨s, .error e, none⟩

/-- A key of the keyboard is pressed, given by its name. -/
def pressKeyboard (s : Session τ) (name : List Char) (now : τ) : Step τ (List Char) :=
  s.pressNamed (Key.ofKeyboard name) now

/-- A spoken expression replaces the one on screen, unless nothing but a closing word was
said; with a closing word it is evaluated. -/
def listen (s : Session τ) (transcript : List Char) (now : τ) : Step τ (List Char) :=
  let (text, asked) := Voice.hear transcript
  let s := if text.isEmpty then s else s.replace text now
  if asked then s.evaluate else s.edited

end Input

/-! ## Modes -/

/-- The user switches the mode; a different mode starts a fresh calculation. -/
def switchTo [Add τ] (s : Session τ) (m : Mode) (now : τ) : Session τ × Bool :=
  let (controller, changed) := s.controller.switchTo m now
  if changed then
    ({ s with expression := [], result := [], fault := none, controller := controller }, true)
  else ({ s with controller := controller }, false)

/-- The user switches to a mode given by its name. -/
def switchNamed [Add τ] (s : Session τ) (m : Json) (now : τ) : Step τ Bool :=
  match Mode.read m with
  | .ok m => let (s, changed) := s.switchTo m now; ⟨s, .ok changed, none⟩
  | .error e => ⟨s, .error e, none⟩

section Classification

variable [Sub τ] [LT τ] [DecidableLT τ] [LE τ] [DecidableLE τ]

/-- The expression that is due to be classified. -/
def request (s : Session τ) (now : τ) : Session τ × Option (List Char) :=
  let (controller, text) := s.controller.due now
  ({ s with controller := controller }, text)

/-- A verdict arrives for an expression. -/
def receive (s : Session τ) (requestedFor : List Char) (verdict : Mode) (now : τ) :
    Session τ × Bool :=
  let (controller, changed) := s.controller.deliver requestedFor verdict s.expression now
  ({ s with controller := controller }, changed)

/-- A verdict arrives for an expression, given by the name of a mode. -/
def receiveNamed (s : Session τ) (requestedFor : List Char) (verdict : Json) (now : τ) :
    Step τ Bool :=
  let (controller, answer) := s.controller.deliverNamed requestedFor verdict s.expression now
  ⟨{ s with controller := controller }, answer, none⟩

/-- An expression that is due is classified, and the verdict applied. The classifier has
a state `σ` of its own. -/
def tick {σ : Type} (classify : σ → List Char → σ × Except Failure Mode) (helper : σ)
    (s : Session τ) (now : τ) : σ × Step τ Bool :=
  match s.request now with
  | (s, none) => (helper, ⟨s, .ok false, none⟩)
  | (s, some text) =>
    match classify helper text with
    | (helper, .error e) => (helper, ⟨s, .error e, none⟩)
    | (helper, .ok m) =>
      let (s, changed) := s.receive text m now
      (helper, ⟨s, .ok changed, none⟩)

end Classification

/-! ## What is seen -/

/-- What is going on in a session. -/
inductive Phase where
  | empty
  | editing
  | resultShown
  deriving DecidableEq

def Phase.name : Phase → String
  | .empty => "Empty"
  | .editing => "Editing"
  | .resultShown => "ResultShown"

/-- What is going on: a result is shown, an expression edited, or neither. -/
def phase (s : Session τ) : Phase :=
  if !s.result.isEmpty then .resultShown
  else if !s.expression.isEmpty then .editing
  else .empty

/-- What is seen of a session. -/
structure View where
  expression : List Char
  result : List Char
  mode : Mode
  phase : Phase
  isLocked : Bool
  fault : Option Fault.Kind
  deriving DecidableEq

/-- What is seen at a time; a lock that has run out is removed. -/
def view [LE τ] [DecidableLE τ] (s : Session τ) (now : τ) : Session τ × View :=
  ({ s with controller := s.controller.expire now },
    ⟨s.expression, s.result, s.mode, s.phase, s.controller.isLocked now, s.fault.map Fault.kind⟩)

end Session

end Reckon
