import Reckon.Text.Letter

/-
The words of a formula. A text is read from the left: a number literal, exponent
included, wins over a name, and every other character stands for itself.
-/
namespace Reckon.Formula
open Text

/-- A letter or underscore of the ASCII range: the start of a name. -/
def isNameStart (c : Char) : Bool := isAsciiLetter c || c == '_'

def isNameChar (c : Char) : Bool := isNameStart c || isAsciiDigit c

/-- A word of a formula. -/
inductive Token where
  | number (text : List Char)
  | name (text : List Char)
  | other (c : Char)
  deriving DecidableEq

def Token.text : Token → List Char
  | .number t => t
  | .name t => t
  | .other c => [c]

/-- Digits at the front, and the rest. -/
def spanDigits (s : List Char) : List Char × List Char :=
  (s.takeWhile isDigit, s.dropWhile isDigit)

/-- An exponent at the front, if it is complete, and the rest. -/
def spanExponent : List Char → List Char × List Char
  | [] => ([], [])
  | c :: r =>
    if c = 'e' || c = 'E' then
      match r with
      | [] => ([], c :: r)
      | d :: r' =>
        if d = '+' || d = '-' then
          match spanDigits r' with
          | ([], _) => ([], c :: r)
          | (ds, rest) => (c :: d :: ds, rest)
        else
          match spanDigits r with
          | ([], _) => ([], c :: r)
          | (ds, rest) => (c :: ds, rest)
    else ([], c :: r)

/-- The digits and the point of a number literal at the front; nothing if there is
no digit. -/
def spanMantissa (s : List Char) : List Char × List Char :=
  match spanDigits s with
  | ([], '.' :: r) =>
    match spanDigits r with
    | ([], _) => ([], s)
    | (ds, rest) => ('.' :: ds, rest)
  | ([], _) => ([], s)
  | (ds, '.' :: r) => let (fs, rest) := spanDigits r; (ds ++ '.' :: fs, rest)
  | (ds, rest) => (ds, rest)

/-- A number literal at the front, and the rest. -/
def spanNumber (s : List Char) : List Char × List Char :=
  match spanMantissa s with
  | ([], _) => ([], s)
  | (m, r) => let (e, rest) := spanExponent r; (m ++ e, rest)

/-- The first word of the text `c :: r` and what follows it. -/
def nextToken (c : Char) (r : List Char) : Token × List Char :=
  match spanNumber (c :: r) with
  | ([], _) =>
    if isNameStart c then (.name (c :: r.takeWhile isNameChar), r.dropWhile isNameChar)
    else (.other c, r)
  | (n, rest) => (.number n, rest)

/-! ## Nothing is lost -/

theorem spanDigits_append (s : List Char) : (spanDigits s).1 ++ (spanDigits s).2 = s :=
  List.takeWhile_append_dropWhile

theorem spanExponent_append (s : List Char) : (spanExponent s).1 ++ (spanExponent s).2 = s := by
  unfold spanExponent
  split
  · rfl
  · split
    · split
      · rfl
      · rename_i d r'
        split
        · have h := spanDigits_append r'
          split
          · rfl
          · rename_i heq; rw [heq] at h; simpa using h
        · have h := spanDigits_append (d :: r')
          split
          · rfl
          · rename_i heq; rw [heq] at h; simpa using h
    · rfl

theorem spanMantissa_append (s : List Char) : (spanMantissa s).1 ++ (spanMantissa s).2 = s := by
  have h := spanDigits_append s
  unfold spanMantissa
  split
  · rename_i r heq
    rw [heq] at h
    have h' := spanDigits_append r
    split
    · rfl
    · rename_i heq'
      rw [heq'] at h'
      simp only [List.nil_append] at h
      simp only [List.cons_append, ← h, ← h']
  · rfl
  · rename_i r _ heq
    rw [heq] at h
    simpa [spanDigits_append r] using h
  · rename_i heq
    rw [heq] at h
    exact h

theorem spanNumber_append (s : List Char) : (spanNumber s).1 ++ (spanNumber s).2 = s := by
  have h := spanMantissa_append s
  unfold spanNumber
  split
  · rfl
  · rename_i r _ heq
    rw [heq] at h
    simp only [List.append_assoc, spanExponent_append r]
    exact h

theorem nextToken_append (c : Char) (r : List Char) :
    (nextToken c r).1.text ++ (nextToken c r).2 = c :: r := by
  have h := spanNumber_append (c :: r)
  unfold nextToken
  split
  · split
    · simp [Token.text, List.takeWhile_append_dropWhile]
    · rfl
  · rename_i heq
    rw [heq] at h
    exact h

theorem nextToken_text_ne_nil (c : Char) (r : List Char) : (nextToken c r).1.text ≠ [] := by
  unfold nextToken
  split
  · split <;> simp [Token.text]
  · rename_i n rest hn _
    exact fun h => hn h

theorem nextToken_length (c : Char) (r : List Char) :
    (nextToken c r).2.length < (c :: r).length := by
  have h := congrArg List.length (nextToken_append c r)
  have hn := List.length_pos_iff.2 (nextToken_text_ne_nil c r)
  simp only [List.length_append] at h
  omega

/-! ## All words -/

/-- The words of a text, in order. -/
def tokens : List Char → List Token
  | [] => []
  | c :: r => (nextToken c r).1 :: tokens (nextToken c r).2
termination_by s => s.length
decreasing_by exact nextToken_length c r

theorem tokens_append (s : List Char) : (tokens s).flatMap Token.text = s := by
  fun_induction tokens s with
  | case1 => rfl
  | case2 c r ih => rw [List.flatMap_cons, ih, nextToken_append]

/-- The list without later copies of what came before. -/
def firstOccurrences (seen : List String) : List String → List String
  | [] => []
  | n :: r => if seen.contains n then firstOccurrences seen r else n :: firstOccurrences (n :: seen) r

def Token.name? : Token → Option String
  | .name t => some (String.ofList t)
  | _ => none

/-- The names of a text, each once, in order of first appearance. -/
def names (s : List Char) : List String := firstOccurrences [] ((tokens s).filterMap Token.name?)

end Reckon.Formula
