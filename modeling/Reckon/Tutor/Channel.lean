import Reckon.Json.Value
import Reckon.Number.Decimal

/-
Talking to a language model: the request that carries a question, what may come back,
and the answer in it. How a request travels is left open: a channel has a state `σ`
and a function that hands a request over.
-/
namespace Reckon.Tutor
open Number

/-- A language model: where it is, how it is called, and how it is to answer. -/
structure Model where
  baseUrl : List Char
  apiKey : List Char
  name : List Char
  timeout : Json
  temperature : Json

/-- A request. -/
structure Post where
  url : List Char
  headers : List (String × List Char)
  body : Json
  timeout : Json

/-- What comes back: nothing, or a response with a status and a body that may not be
readable. -/
inductive Response where
  | offline (reason : List Char)
  | received (status : Int) (body : Except (List Char) Json)

/-- Why a question has no answer. -/
inductive ChatError where
  /-- The model cannot be reached. -/
  | offline (reason : List Char)
  /-- The response reports an error. -/
  | status (code : Int)
  /-- The body of the response cannot be read. -/
  | unreadable (reason : List Char)
  /-- The body has no answer where one is expected. -/
  | noContent

def ChatError.message : ChatError → List Char
  | .offline reason => reason
  | .status code => intDigits code ++ " error".toList
  | .unreadable reason => reason
  | .noContent => "Chat completion without message content".toList

/-- A way to a language model. -/
structure Channel (σ : Type) where
  model : Model
  send : σ → Post → σ × Response

namespace Model

/-- The model can be asked: its place and its name are known. -/
def isAvailable (m : Model) : Bool := !m.baseUrl.isEmpty && !m.name.isEmpty

def absent : Model := ⟨[], [], [], .int 20, .number (.ofRatio false 1 5)⟩

/-- An address without the slashes at its end. -/
def plainUrl (url : List Char) : List Char := (url.reverse.dropWhile (· = '/')).reverse

/-- The request that carries a question. -/
def post (m : Model) (question : List Char) : Post where
  url := plainUrl m.baseUrl ++ "/v1/chat/completions".toList
  headers :=
    [("Content-Type", "application/json".toList), ("Accept", "application/json".toList)] ++
      if m.apiKey.isEmpty then [] else [("Authorization", "Bearer ".toList ++ m.apiKey)]
  body := .object [
    ("model", .text m.name),
    ("messages", .array [.object [("role", .string "user"), ("content", .text question)]]),
    ("temperature", m.temperature)]
  timeout := m.timeout

end Model

namespace Response

/-- The answer in the body of a response: the content of the message of the first
choice. -/
def content? (body : Json) : Option Json :=
  match body.member? "choices" with
  | some (.array (choice :: _)) => (choice.member? "message").bind (Json.member? "content")
  | _ => none

/-- The least status that reports an error. There is no greatest one, as in the responses of the
tests; an HTTP client may take a status from 600 on, which is none of the standard, for no error. -/
def firstErrorStatus : Int := 400

def answer : Response → Except ChatError Json
  | .offline reason => .error (.offline reason)
  | .received status body =>
    if firstErrorStatus ≤ status then .error (.status status)
    else
      match body with
      | .error reason => .error (.unreadable reason)
      | .ok body =>
        match content? body with
        | some v => .ok v
        | none => .error .noContent

end Response

/-- A question is asked; the answer may be any value. -/
def Channel.chat {σ : Type} (ch : Channel σ) (s : σ) (question : List Char) :
    σ × Except ChatError Json :=
  let (s, response) := ch.send s (ch.model.post question)
  (s, response.answer)

/-- Asking where no model is configured. -/
def unconfigured : List Char := "No language model configured".toList

end Reckon.Tutor
