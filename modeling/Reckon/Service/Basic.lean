import Reckon.History.Cell
import Reckon.Service.Answer
import Reckon.Service.Request
import Reckon.Session.Teaching
import Reckon.Tutor.Classifier
import Reckon.Tutor.Solver

/-
The service: sessions under their names, the history, and the language model. Each
request is answered at a time; nothing else passes from one request to the next.
-/
namespace Reckon.Service
open Mode Tutor

/-- The state of the service. The sessions are named by the order of their creation; `line` is the
state of the way to the language model. -/
structure State (τ σ : Type) where
  sessions : List (List Char × Session τ) := []
  created : Nat := 0
  history : History := {}
  line : σ

/-- What stays the same: the rules for modes, the way to the language model, and the room that
the stack has for calls once a handler runs. -/
structure Setup (τ σ : Type) where
  policy : Policy τ
  channel : Channel σ
  room : Nat := Evaluator.usualRoom

/-- When a request is answered: the time of the clock, and the time of day as text. -/
structure Moment (τ : Type) where
  now : τ
  time : List Char

namespace State

variable {τ σ : Type}

/-- The name of the session created as number `n`. -/
def sessionName (n : Nat) : List Char := 's' :: Number.decimalDigits n

def find? (v : State τ σ) (id : List Char) : Option (Session τ) := v.sessions.lookup id

/-- A session is put in the place of the one with its name. -/
def store (v : State τ σ) (id : List Char) (s : Session τ) : State τ σ :=
  { v with sessions := v.sessions.map fun p => if p.1 = id then (id, s) else p }

/-- A new session in a mode. -/
def create (v : State τ σ) (setup : Setup τ σ) (m : Mode) : State τ σ × List Char :=
  let id := sessionName (v.created + 1)
  let s : Session τ :=
    { controller := { mode := m, policy := setup.policy }, room := setup.room - 1 }
  ({ v with sessions := v.sessions ++ [(id, s)], created := v.created + 1 }, id)

def remove (v : State τ σ) (id : List Char) : State τ σ :=
  { v with sessions := v.sessions.filter fun p => p.1 ≠ id }

/-- A finished calculation is put into the history of the user, if there is one. -/
def record (v : State τ σ) (user : Option (List Char)) (time : List Char) :
    Option Calculation → State τ σ
  | none => v
  | some c =>
    match user with
    | none => v
    | some u =>
      { v with history := (v.history.add u c.expression c.result time (some c.mode.name.toList)).1 }

/-! ## Sessions -/

section Session

variable [LE τ] [DecidableLE τ]

/-- The answer that shows a session, with more members; its notes are handed out. -/
def present (v : State τ σ) (id : List Char) (s : Session τ) (now : τ) (status : Nat)
    (more : Json.Members) : State τ σ × Answer :=
  let (s, view) := s.view now
  let (s, notes) := s.drain
  (v.store id s, .data status (.object (("id", .text id) :: (viewMembers view ++
    ("notifications", .array (notes.map noteJson)) :: more))))

/-- A step of a session that an action had done is answered: the session is shown, or the
failure told. What the step finished is recorded. -/
def conclude {α : Type} (v : State τ σ) (r : Request) (at_ : Moment τ) (id : List Char)
    (a : Action) (step : Step τ α) (more : α → Json.Members) : State τ σ × Answer :=
  let v := (v.store id step.session).record r.user at_.time step.entry
  match step.answer with
  | .ok reply => v.present id step.session at_.now 200 (more reply)
  | .error e => (v, a.answerTo e)

/-- A new session is made, in the mode that the body names. -/
def createFor (v : State τ σ) (setup : Setup τ σ) (r : Request) (at_ : Moment τ) :
    State τ σ × Answer :=
  let mode := do
    let ms ← r.members
    Mode.read ((Json.find? "mode" ms).getD (.string Mode.standard.name))
  match mode with
  | .error e => (v, .ofFailure e)
  | .ok m =>
    let (v, id) := v.create setup m
    match v.find? id with
    | some s => v.present id s at_.now 201 []
    | none => (v, .crash)

/-- The reason when a request names no key. -/
def noKey : Answer := .failure 400 "key or keyboard is required".toList

/-- A text stands somewhere in another one. -/
def occurs (word : List Char) : List Char → Bool
  | [] => word.isEmpty
  | c :: r => word.isPrefixOf (c :: r) || occurs word r

/-- A member is named by an item of a list or stands in a text. -/
def mentions (body : Json) (name : String) : Bool :=
  match body with
  | .array items => items.any fun v => v matches .string _ && v.asText = name.toList
  | .string s => occurs name.toList s.toList
  | _ => false

/-- A key is pressed, on the keyboard or on the keypad. A body that is no object names no
key; a list or a text that mentions one breaks the request off. -/
def press (v : State τ σ) (r : Request) (at_ : Moment τ) (id : List Char) (s : Session τ) :
    State τ σ × Answer :=
  let answer (step : Step τ (List Char)) := v.conclude r at_ id .keys step fun _ => []
  match r.body with
  | .object ms =>
    match Json.find? "keyboard" ms, Json.find? "key" ms with
    | some k, _ => answer (s.pressKeyboard k.asText at_.now)
    | none, some k => answer (s.pressNamed k.asText at_.now)
    | none, none => (v, noKey)
  | .array _ | .string _ =>
    if mentions r.body "keyboard" || mentions r.body "key" then (v, .crash) else (v, noKey)
  | b => if b.isTruthy then (v, .crash) else (v, noKey)

def listen (v : State τ σ) (r : Request) (at_ : Moment τ) (id : List Char) (s : Session τ) :
    State τ σ × Answer :=
  match r.members with
  | .error e => (v, .ofFailure e)
  | .ok ms =>
    match Json.find? "transcript" ms with
    | some (.string t) =>
      if Text.isAllBlank t.toList then (v, .failure 400 "transcript is required".toList)
      else v.conclude r at_ id .voice (s.listen t.toList at_.now) fun _ => []
    | _ => (v, .failure 400 "transcript is required".toList)

def switch [Add τ] (v : State τ σ) (r : Request) (at_ : Moment τ) (id : List Char)
    (s : Session τ) : State τ σ × Answer :=
  match r.members with
  | .error e => (v, .ofFailure e)
  | .ok ms =>
    v.conclude r at_ id .mode (s.switchNamed ((Json.find? "mode" ms).getD .null) at_.now)
      fun changed => [("changed", .bool changed)]

/-- The expression is classified if that is due. -/
def classify [Sub τ] [LT τ] [DecidableLT τ] (v : State τ σ) (setup : Setup τ σ) (r : Request)
    (at_ : Moment τ) (id : List Char) (s : Session τ) : State τ σ × Answer :=
  let (line, step) := Session.tick (Classifier.classify setup.channel) v.line s at_.now
  { v with line := line }.conclude r at_ id .classify step
    fun changed => [("changed", .bool changed)]

/-- The expression is explained step by step. -/
def teach (v : State τ σ) (setup : Setup τ σ) (r : Request) (at_ : Moment τ) (id : List Char)
    (s : Session τ) : State τ σ × Answer :=
  if s.expression.isEmpty then (v, .failure 400 "Nothing to explain".toList)
  else
    let (line, step) := s.explain (Solver.solve setup.channel) v.line
    { v with line := line }.conclude r at_ id .teacher step fun solution =>
      [("solution", Json.ofOption (solution.map Solution.toJson))]

end Session

/-! ## Requests without a session -/

/-- The name and the version of the calculator. -/
def title : String := "AllCalc All-in-One Calculator"
def version : String := "1.0.0"

/-- All that can be asked for. -/
def endpoints : List String := [
  "POST /api/sessions",
  "GET /api/sessions/<id>",
  "DELETE /api/sessions/<id>",
  "POST /api/sessions/<id>/keys",
  "POST /api/sessions/<id>/voice",
  "POST /api/sessions/<id>/mode",
  "POST /api/sessions/<id>/classify",
  "POST /api/sessions/<id>/teacher",
  "POST /api/evaluate",
  "POST /api/equations",
  "GET /api/calculations",
  "DELETE /api/calculations",
  "GET /api/graph"]

def info : Answer :=
  .data 200 (.object [("name", .string title), ("version", .string version),
    ("endpoints", .array (endpoints.map .string))])

/-- The answer to a calculation that failed. Only a fault is told; any other failure breaks the
request off. -/
def failedCalculation (expression : List Char) : Failure → Answer
  | .fault f =>
    .failureWith 400 f.userMessage [("category", .string f.kind.name),
      ("data", .object [("expression", .text expression), ("result", .text Session.errorDisplay)])]
  | _ => .crash

/-- An expression is evaluated on its own. -/
def evaluate (v : State τ σ) (setup : Setup τ σ) (r : Request) (time : List Char) :
    State τ σ × Answer :=
  match r.members with
  | .error e => (v, .ofFailure e)
  | .ok ms =>
    match Json.find? "expression" ms with
    | some (.string t) =>
      let expression := t.toList
      if Text.isAllBlank expression then (v, .failure 400 "expression is required".toList)
      else
        match Mode.read ((Json.find? "mode" ms).getD (.string Mode.standard.name)) with
        | .error e => (v, .ofFailure e)
        | .ok m =>
          match Evaluator.display (setup.room - 1) m expression with
          | .ok result =>
            (v.record r.user time (some ⟨expression, result, m⟩),
              .data 200 (.object [("expression", .text expression), ("result", .text result)]))
          | .error e => (v, failedCalculation expression e)
    | _ => (v, .failure 400 "expression is required".toList)

/-- An equation is solved step by step. -/
def solve (v : State τ σ) (setup : Setup τ σ) (r : Request) : State τ σ × Answer :=
  match r.members with
  | .error e => (v, .ofFailure e)
  | .ok ms =>
    let (line, outcome) := Solver.teachEquation setup.channel v.line
      ((Json.find? "equation" ms).getD .null)
    ({ v with line := line }, match outcome with
      | .ok solution => .data 200 solution.toJson
      | .error (.fault f) => .failure 502 f.userMessage
      | .error _ => .crash)

def wholeNumber? (s : List Char) : Option Int :=
  if Conversion.greatestDigitCount < (s.filter Text.isDigit).length then none else Number.readInt s

/-- The history of a user, newest first: the latest rows, or those after a number. -/
def showHistory (v : State τ σ) (r : Request) : Answer :=
  match r.user with
  | none => .failure 401 "Sign in to see your history".toList
  | some user =>
    let limit := match r.ask? "limit" with
      | none => some History.pageSize
      | some t => wholeNumber? t
    let after := match (r.ask? "after").filter (!·.isEmpty) with
      | none => some none
      | some t => (wholeNumber? t).map some
    match limit, after with
    | some limit, some after =>
      if !History.fits limit || !after.all History.fits then
        .failure 500 History.Refusal.tooBig.message.toList
      else
        let rows := v.history.page user limit after
        .success 200 [("data", .array (rows.map rowJson)), ("count", .int rows.length)]
    | _, _ => .failure 400 "limit and after must be integers".toList

/-- The history of a user is removed. -/
def clearHistory (v : State τ σ) (r : Request) : State τ σ × Answer :=
  match r.user with
  | none => (v, .failure 401 "Sign in to clear your history".toList)
  | some user =>
    let (history, n) := v.history.clear user
    ({ v with history := history }, .success 200 [("deleted", .int n)])

/-- An end of the range of a graph: the number in the query, or the usual one. -/
def rangeEnd (r : Request) (name : String) (usual : Number.Double) :
    Except Failure Number.Double :=
  match r.ask? name with
  | none => .ok usual
  | some t =>
    match Number.readDouble t with
    | some d => .ok d
    | none => .error (.refused ("could not convert string to float: ".toList ++ Text.quoted t))

def graphPoints (setup : Setup τ σ) (r : Request) (expression : List Char) :
    Except Failure Graph.Sampled := do
  let lo ← rangeEnd r "xmin" Graph.defaultRange.1
  let hi ← rangeEnd r "xmax" Graph.defaultRange.2
  Graph.sample (setup.room - 3) expression lo hi Graph.defaultSamples

def graph (setup : Setup τ σ) (r : Request) : Answer :=
  let expression := (r.ask? "expression").getD []
  if Text.isAllBlank expression then .failure 400 "expression is required".toList
  else
    match graphPoints setup r expression with
    | .ok s => ⟨200, .picture s⟩
    | .error (.fault f) => .failure 400 f.userMessage
    | .error e => .ofFailure e

/-! ## Answering -/

variable [Add τ] [Sub τ] [LE τ] [LT τ] [DecidableLE τ] [DecidableLT τ]

def act (v : State τ σ) (setup : Setup τ σ) (r : Request) (at_ : Moment τ) (id : List Char)
    (s : Session τ) : Action → State τ σ × Answer
  | .keys => v.press r at_ id s
  | .voice => v.listen r at_ id s
  | .mode => v.switch r at_ id s
  | .classify => v.classify setup r at_ id s
  | .teacher => v.teach setup r at_ id s

/-- A request to a route that is made for its method. -/
def serve (v : State τ σ) (setup : Setup τ σ) (r : Request) (at_ : Moment τ) :
    Route → State τ σ × Answer
  | .info => (v, info)
  | .sessions => v.createFor setup r at_
  | .session id =>
    match v.find? id with
    | none => (v, .unknownSession)
    | some s =>
      if r.method = "DELETE" then (v.remove id, .success 200 [])
      else v.present id s at_.now 200 []
  | .action id a =>
    match v.find? id with
    | none => (v, .unknownSession)
    | some s => v.act setup r at_ id s a
  | .evaluate => v.evaluate setup r at_.time
  | .equations => v.solve setup r
  | .calculations =>
    if r.method = "DELETE" then v.clearHistory r else (v, v.showHistory r)
  | .graph => (v, graph setup r)

/-- A request is answered. Where a value can be had, its status alone can be had too. -/
def answer (v : State τ σ) (setup : Setup τ σ) (r : Request) (at_ : Moment τ) :
    State τ σ × Answer :=
  match Route.ofPath r.path with
  | none => (v, .bare 404)
  | some route =>
    if route.methods.contains r.method then v.serve setup r at_ route
    else if r.method = "OPTIONS" then (v, .bare 200)
    else if r.method = "HEAD" && route.methods.contains "GET" then
      let (v, a) := v.serve setup { r with method := "GET" } at_ route
      (v, .bare a.status)
    else (v, .bare 405)

end State

end Reckon.Service
