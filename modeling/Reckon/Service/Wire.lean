import Reckon.Service.Answer
import Reckon.Service.Request

/-
Requests and answers as JSON values, one for each line of a conversation.
-/
namespace Reckon.Service
open Json

/-- The text of a member; a member that is no text is empty. -/
def textMember (name : String) (v : Json) : List Char :=
  match v.member? name with
  | some (.string s) => s.toList
  | _ => []

/-- A part of a query as text; null and an empty list are no part, and of a list only the
first item counts. -/
def queryText? : Json → Option (List Char)
  | .null | .array [] => none
  | .array (v :: _) => some v.asText
  | v => some v.asText

def queryOf (v : Json) : List (String × List Char) :=
  match v.member? "query" with
  | some (.object ms) => ms.filterMap fun (name, part) => (queryText? part).map fun t => (name, t)
  | _ => []

/-- The request that an object stands for. Its body is given as a value or as a text. -/
def Request.ofJson (v : Json) : Request where
  method := String.ofList (textMember "method" v)
  path := textMember "path" v
  body := (v.member? "json").getD (bodyOfText (textMember "body" v))
  query := queryOf v
  user := userOf (textMember "user" v)

/-- What an answer holds, as members of an object. -/
def Content.members : Content → Members
  | .nothing => []
  | .json v => [("json", v)]
  | .picture _ => [("png", .bool true),
      ("size", .array [.int Graph.pictureSize.1, .int Graph.pictureSize.2])]

def Answer.toJson (a : Answer) : Json :=
  .object (("status", .int a.status) :: a.content.members)

end Reckon.Service
