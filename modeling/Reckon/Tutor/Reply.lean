import Reckon.Fault
import Reckon.Json.Reader

/-
The JSON object in a reply of the language model. The reply may be the object itself,
a fenced block that holds it, or prose around it.
-/
namespace Reckon.Tutor.Reply
open Text

def fence : List Char := "```".toList

/-- A character of the language tag of a fence. -/
def isTag (c : Char) : Bool := isAsciiLetter c || isAsciiDigit c || c == '_' || c == '-'

/-- What is behind the opening line of a fence; without such a line, all of it. -/
def dropOpening (s : List Char) : List Char :=
  match (s.drop fence.length).dropWhile isTag with
  | '\n' :: r => r
  | _ => s

/-- What is before the closing line of a fence; without such a line, all of it. -/
def dropClosing (s : List Char) : List Char :=
  let closing := '\n' :: fence
  let t := trimEnd s
  if closing.isSuffixOf t then t.take (t.length - closing.length) else s

/-- The text inside a fence, or the text itself where there is none. -/
def unfenced (s : List Char) : List Char :=
  if fence.isPrefixOf s then trim (dropClosing (dropOpening s)) else s

/-- The text from its first opening brace to its last closing one. -/
def braced? (s : List Char) : Option (List Char) :=
  let upTo := (s.dropWhile (· ≠ '{')).reverse.dropWhile (· ≠ '}')
  if upTo.isEmpty then none else some upTo.reverse

/-- The members of the object that a text stands for. -/
def members? (s : List Char) : Option Json.Members :=
  match Json.read s with
  | some (.object ms) => some ms
  | _ => none

def object? (reply : List Char) : Option Json.Members :=
  let s := unfenced (trim reply)
  (members? s).or ((braced? s).bind members?)

/-- The text of what a reply holds; nothing counts as an empty text, and a reply that is
no text breaks the exchange off. -/
def textOf (content : Json) : Except Failure (List Char) :=
  match content with
  | .string s => .ok s.toList
  | v => if v.isTruthy then .error (.breakdown .noMember) else .ok []

end Reckon.Tutor.Reply
