import Reckon.Text.Blank
import Reckon.Text.Letter
import Reckon.Text.Lowercase

/-
Spoken expressions: words for operators become their symbols, white space goes, and
a closing word for "equals" asks for the result.
-/
namespace Reckon.Voice
open Text

/-- Words for operators, in the order in which they are replaced. -/
def operators : List (String × Char) := [
  ("multiplied by", '×'),
  ("divided by", '÷'),
  ("open bracket", '('),
  ("open parenthesis", '('),
  ("close bracket", ')'),
  ("close parenthesis", ')'),
  ("to the power of", '^'),
  ("plus", '+'),
  ("minus", '-'),
  ("times", '×'),
  ("over", '÷'),
  ("point", '.')]

/-- Words that ask for the result, longer ones first. -/
def closings : List String := ["is equal to", "equal to", "equals", "equal", "="]

/-- No word goes on behind a place: what follows is not a word character. -/
def endsWord : List Char → Bool
  | [] => true
  | c :: _ => !isWord c

/-- Each `phrase` that stands as words of its own replaced by a symbol; `inWord` tells
that the character before is a word character, and `skip` characters belong to a phrase
already replaced. -/
def replaceFrom (phrase : List Char) (symbol : Char) : Nat → Bool → List Char → List Char
  | _, _, [] => []
  | skip + 1, _, c :: r => replaceFrom phrase symbol skip (isWord c) r
  | 0, inWord, c :: r =>
    if !inWord && phrase.isPrefixOf (c :: r) && endsWord ((c :: r).drop phrase.length) then
      symbol :: replaceFrom phrase symbol (phrase.length - 1) (isWord c) r
    else c :: replaceFrom phrase symbol 0 (isWord c) r

/-- Each phrase that stands as words of its own replaced by a symbol. -/
def replace (phrase : List Char) (symbol : Char) (s : List Char) : List Char :=
  replaceFrom phrase symbol 0 false s

/-- The text without the closing word, if it ends with one, and whether it did. -/
def splitClosing (s : List Char) : List Char × Bool :=
  match closings.find? fun w => w.toList.isSuffixOf s with
  | some w => (trimEnd (s.take (s.length - w.length)), true)
  | none => (s, false)

/-- What was said: the expression, and whether its result is asked for. -/
def hear (transcript : List Char) : List Char × Bool :=
  let (text, asked) := splitClosing (lowercase (trim transcript))
  let written := operators.foldl (fun s p => replace p.1.toList p.2 s) text
  (written.filter fun c => !isBlank c, asked)

end Reckon.Voice
