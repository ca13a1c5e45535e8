import Reckon.Formula.Screen
import Reckon.Formula.Tree

/-
The signs that a formula is parsed from. Blanks between signs do not count, so two
stars with a blank between them are one power sign; a line end counts only in that
it keeps signs apart, and only inside parentheses may there be one at all.
-/
namespace Reckon.Formula
open Text

/-- A sign of a formula. -/
inductive Lexeme where
  | number (text : List Char)
  | name (s : String)
  | plus | minus | times | over | floorOver | percent | power
  | opening | closing | comma
  | lineEnd
  deriving DecidableEq

/-- The signs of a character outside numbers and names; nothing for one that no
formula has. A caret is a power sign, written as two stars. -/
def lexemesOfChar : Char → Option (List Lexeme)
  | '+' => some [.plus]
  | '-' => some [.minus]
  | '*' => some [.times]
  | '/' => some [.over]
  | '%' => some [.percent]
  | '^' => some [.times, .times]
  | '(' => some [.opening]
  | ')' => some [.closing]
  | ',' => some [.comma]
  | '\n' | '\r' => some [.lineEnd]
  | ' ' | '\t' | '\x0c' => some []
  | _ => none

def lexemesOfToken : Token → Option (List Lexeme)
  | .number t => some [.number t]
  | .name t => some [.name (String.ofList t)]
  | .other c => lexemesOfChar c

/-- The signs of words, one after the other. -/
def lexemesOf : List Token → Option (List Lexeme)
  | [] => some []
  | t :: r => do
    let a ← lexemesOfToken t
    let b ← lexemesOf r
    pure (a ++ b)

/-- Two stars become a power sign, two slashes a division that drops the fraction. -/
def joinSigns : List Lexeme → List Lexeme
  | .times :: .times :: r => .power :: joinSigns r
  | .over :: .over :: r => .floorOver :: joinSigns r
  | l :: r => l :: joinSigns r
  | [] => []

/-- Greatest number of parentheses inside one another, counting those that stand
around a literal. -/
def greatestDepth : Nat := 200

/-- Line ends inside parentheses left out; nothing if one stands outside or if the
parentheses are too deep. -/
def dropLineEnds : Nat → List Lexeme → Option (List Lexeme)
  | _, [] => some []
  | depth, l :: r =>
    match l with
    | .lineEnd => if depth = 0 then none else dropLineEnds depth r
    | .opening => if greatestDepth ≤ depth then none else (dropLineEnds (depth + 1) r).map (l :: ·)
    | .closing => (dropLineEnds (depth - 1) r).map (l :: ·)
    | .number _ => if greatestDepth ≤ depth then none else (dropLineEnds depth r).map (l :: ·)
    | .name s =>
      let isVariable := (Function.ofName? s).isNone && (Constant.ofName? s).isNone
      if isVariable && greatestDepth ≤ depth then none else (dropLineEnds depth r).map (l :: ·)
    | l => (dropLineEnds depth r).map (l :: ·)

def lexemes (s : List Char) : Option (List Lexeme) := do
  let ls ← lexemesOf (tokens (trim s))
  dropLineEnds 0 (joinSigns ls)

end Reckon.Formula
