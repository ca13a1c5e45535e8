import Reckon.Fault
import Reckon.Json.Reader

/-
Requests to the service: where they go and what they bring along.
-/
namespace Reckon.Service
open Text

/-- A request. A body that is missing or cannot be read is null; one whose values stand too deep
inside one another for the stack to read them is left out. -/
structure Request where
  method : String
  path : List Char
  body : Json
  query : List (String × List Char)
  user : Option (List Char)

/-- What is done with a session. -/
inductive Action where
  | keys
  | voice
  | mode
  | classify
  | teacher
  deriving DecidableEq

def Action.name : Action → String
  | .keys => "keys"
  | .voice => "voice"
  | .mode => "mode"
  | .classify => "classify"
  | .teacher => "teacher"

def Action.all : List Action := [.keys, .voice, .mode, .classify, .teacher]

/-- Where a request goes. -/
inductive Route where
  | info
  | sessions
  | session (id : List Char)
  | action (id : List Char) (a : Action)
  | evaluate
  | equations
  | calculations
  | graph
  deriving DecidableEq

/-- The parts of a text between separators. -/
def splitAt (separator : Char) : List Char → List (List Char)
  | [] => [[]]
  | c :: r =>
    match splitAt separator r with
    | [] => [[c]]
    | part :: parts => if c = separator then [] :: part :: parts else (c :: part) :: parts

namespace Route

/-- The route of a path behind its first part. -/
def ofParts : List String → Option Route
  | [] => some .info
  | ["sessions"] => some .sessions
  | ["sessions", id] => if id = "" then none else some (.session id.toList)
  | ["sessions", id, a] =>
    if id = "" then none
    else (Action.all.find? fun x => x.name = a).map (Route.action id.toList)
  | ["evaluate"] => some .evaluate
  | ["equations"] => some .equations
  | ["calculations"] => some .calculations
  | ["graph"] => some .graph
  | _ => none

def ofPath (path : List Char) : Option Route :=
  match (splitAt '/' path).map String.ofList with
  | "" :: "api" :: parts => ofParts parts
  | _ => none

/-- The methods that a route is made for. -/
def methods : Route → List String
  | .info | .graph => ["GET"]
  | .sessions | .action .. | .evaluate | .equations => ["POST"]
  | .session _ | .calculations => ["GET", "DELETE"]

end Route

/-! ## What a request brings along -/

/-- The mark that a text may start with to tell its encoding. -/
def encodingMark : Char := '\ufeff'

/-- The value of a body; a body that cannot be read has none. -/
def bodyOfText (s : List Char) : Json :=
  let t := match s with
    | c :: r => if c = encodingMark then r else s
    | [] => s
  (Json.read t).getD .null

/-- The user that a request names, white space not counting. -/
def userOf (named : List Char) : Option (List Char) :=
  if (trim named).isEmpty then none else some (trim named)

namespace Request

def ask? (r : Request) (name : String) : Option (List Char) := r.query.lookup name

/-- The members of the body: none if there is no body; a body that is neither empty nor
an object breaks the request off. -/
def members (r : Request) : Except Failure Json.Members :=
  match r.body with
  | .object ms => .ok ms
  | v => if v.isTruthy then .error (.breakdown .noMember) else .ok []

end Request

end Reckon.Service
