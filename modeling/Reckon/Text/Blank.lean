import Reckon.Text.Range

/-
White space of the whole Unicode range, and trimming.
-/
namespace Reckon.Text

/-- Code points of white space: controls that separate, blanks and line ends. -/
def blanks : Ranges := [
  (0x9, 0xd), (0x1c, 0x20), (0x85, 0x85), (0xa0, 0xa0), (0x1680, 0x1680), (0x2000, 0x200a),
  (0x2028, 0x2029), (0x202f, 0x202f), (0x205f, 0x205f), (0x3000, 0x3000)]

def isBlank (c : Char) : Bool := blanks.has c.toNat

/-- Text without the white space before it. -/
def trimStart (s : List Char) : List Char := s.dropWhile isBlank

/-- Text without the white space after it. -/
def trimEnd (s : List Char) : List Char := (s.reverse.dropWhile isBlank).reverse

/-- Text without the white space around it. -/
def trim (s : List Char) : List Char := trimEnd (trimStart s)

def isAllBlank (s : List Char) : Bool := s.all isBlank

/-- What is left of a trimmed text starts with a character that is not white space. -/
theorem trimStart_head {s : List Char} {c : Char} {r : List Char} (h : trimStart s = c :: r) :
    isBlank c = false := by
  induction s with
  | nil => simp [trimStart] at h
  | cons d t ih =>
    by_cases hd : isBlank d = true
    · exact ih (by simpa [trimStart, List.dropWhile_cons, hd] using h)
    · have hcd : d = c := by
        have : d :: t = c :: r := by simpa [trimStart, List.dropWhile_cons, hd] using h
        exact (List.cons.inj this).1
      simpa [← hcd] using hd

theorem trimStart_of_head {c : Char} {r : List Char} (h : isBlank c = false) :
    trimStart (c :: r) = c :: r := by
  simp [trimStart, h]

theorem trimEnd_cons {c : Char} {r : List Char} (h : isBlank c = false) :
    trimEnd (c :: r) = c :: trimEnd r := by
  have hc : [c].dropWhile isBlank = [c] := by simp [h]
  by_cases hr : r.reverse.dropWhile isBlank = []
  · simp [trimEnd, List.dropWhile_append, hr, hc]
  · simp [trimEnd, List.dropWhile_append, hr]

theorem trimEnd_trimEnd (s : List Char) : trimEnd (trimEnd s) = trimEnd s := by
  have h : ∀ t : List Char, (t.dropWhile isBlank).dropWhile isBlank = t.dropWhile isBlank := by
    intro t
    induction t with
    | nil => rfl
    | cons c t ih => cases hc : isBlank c <;> simp [hc, ih]
  rw [trimEnd, trimEnd, List.reverse_reverse, h]

/-- A text that was trimmed has nothing more to trim. -/
theorem trim_trim (s : List Char) : trim (trim s) = trim s := by
  unfold trim
  cases h : trimStart s with
  | nil => rfl
  | cons c r =>
    have hc : isBlank c = false := trimStart_head h
    rw [trimEnd_cons hc, trimStart_of_head hc, ← trimEnd_cons hc, trimEnd_trimEnd]

end Reckon.Text
