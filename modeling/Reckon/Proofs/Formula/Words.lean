import Mathlib.Data.List.TakeWhile
import Reckon.Formula.Token

/-
Words of a formula as they stand in a text. A word is told apart from what follows it by the
first characters behind it alone (`Token.EndsAt`), and a text has the words `ts` exactly if it
is made up of them and each of them ends where the next one starts (`tokens_eq_iff`). So the
words of a text that was changed here and there are known as soon as it is known that the
changed words still end where they should.

A number literal is looked at by its parts (`Figures`): digits, a point with digits behind it, a
mark with the digits of an exponent.
-/
namespace Reckon.Formula
open Text

/-! ## Characters -/

theorem of_ascii {p q : Char → Bool}
    (h : ∀ n < 128, p (Char.ofNat n) = true → q (Char.ofNat n) = true)
    {c : Char} (hc : c.toNat < 128) (hp : p c = true) : q c = true := by
  have hq := h _ hc
  rw [Char.ofNat_toNat] at hq
  exact hq hp

/-- The characters of names are of the ASCII range. -/
theorem toNat_lt_of_isNameChar {c : Char} (h : isNameChar c = true) : c.toNat < 128 := by
  simp only [isNameChar, isNameStart, isAsciiLetter, isAsciiDigit, Bool.or_eq_true,
    Bool.and_eq_true, decide_eq_true_eq, beq_iff_eq] at h
  have le {a b : Char} (hab : a ≤ b) : a.toNat ≤ b.toNat := hab
  obtain ((⟨_, h⟩ | ⟨_, h⟩) | rfl) | ⟨_, h⟩ := h
  · exact Nat.lt_of_le_of_lt (le h) (by decide)
  · exact Nat.lt_of_le_of_lt (le h) (by decide)
  · decide
  · exact Nat.lt_of_le_of_lt (le h) (by decide)

theorem isNameChar_of_isNameStart {c : Char} (h : isNameStart c = true) : isNameChar c = true := by
  rw [isNameChar, h, Bool.true_or]

theorem isDigit_of_isNameStart {c : Char} (h : isNameStart c = true) : isDigit c = false := by
  have hnot : (!isDigit c) = true :=
    of_ascii (p := isNameStart) (q := fun c => !isDigit c) (by decide)
      (toNat_lt_of_isNameChar (isNameChar_of_isNameStart h)) h
  simpa using hnot

theorem isDigit_point : isDigit '.' = false := by decide

/-! ## Digits -/

theorem span_of_append {p : Char → Bool} {run rest : List Char} (hrun : run.all p = true)
    (hrest : rest.head?.any p = false) :
    (run ++ rest).takeWhile p = run ∧ (run ++ rest).dropWhile p = rest := by
  have hall := List.all_eq_true.1 hrun
  have hnone : rest.takeWhile p = [] ∧ rest.dropWhile p = rest := by
    cases rest with
    | nil => exact ⟨rfl, rfl⟩
    | cons c r =>
      have hc : p c = false := hrest
      simp [hc]
  rw [List.takeWhile_append_of_pos hall, List.dropWhile_append_of_pos hall, hnone.1, hnone.2,
    List.append_nil]
  exact ⟨rfl, rfl⟩

theorem head_dropWhile (p : Char → Bool) (s : List Char) :
    (s.dropWhile p).head?.any p = false := by
  have h := List.head?_dropWhile_not p s
  cases hd : (s.dropWhile p).head? with
  | none => rfl
  | some c =>
    rw [hd] at h
    simpa using h

theorem getLast_append_any {p : Char → Bool} (a : List Char) {b : List Char}
    (h : b.getLast?.any p = true) : (a ++ b).getLast?.any p = true := by
  rw [List.getLast?_append]
  cases hb : b.getLast? with
  | none => simp [hb] at h
  | some c => simpa [hb] using h

theorem getLast_any_of_all {p : Char → Bool} {s : List Char} (hne : s ≠ [])
    (h : s.all p = true) : s.getLast?.any p = true := by
  rw [List.getLast?_eq_some_getLast hne]
  exact List.all_eq_true.1 h _ (List.getLast_mem hne)

theorem spanDigits_of_append {ds r : List Char} (hds : ds.all isDigit = true)
    (hr : r.head?.any isDigit = false) : spanDigits (ds ++ r) = (ds, r) :=
  have h := span_of_append hds hr
  Prod.ext h.1 h.2

theorem all_spanDigits (s : List Char) : (spanDigits s).1.all isDigit = true :=
  List.all_takeWhile

theorem head_spanDigits (s : List Char) : (spanDigits s).2.head?.any isDigit = false :=
  head_dropWhile isDigit s

theorem spanDigits_eq_nil_iff {s : List Char} :
    (spanDigits s).1 = [] ↔ s.head?.any isDigit = false := by
  cases s with
  | nil => simp [spanDigits]
  | cons c r => cases hc : isDigit c <;> simp [spanDigits, hc]

/-! ## Exponents -/

/-- What the digits of an exponent stand behind. -/
def exponentMarks : List (List Char) :=
  [['e'], ['e', '+'], ['e', '-'], ['E'], ['E', '+'], ['E', '-']]

theorem spanExponent_of_mark {m ds rest : List Char} (hm : m ∈ exponentMarks) (hne : ds ≠ [])
    (hds : ds.all isDigit = true) (hrest : rest.head?.any isDigit = false) :
    spanExponent (m ++ (ds ++ rest)) = (m ++ ds, rest) := by
  obtain ⟨d, r, rfl⟩ := List.exists_cons_of_ne_nil hne
  have hspan := spanDigits_of_append hds hrest
  have hd : isDigit d = true := by
    simp only [List.all_cons, Bool.and_eq_true] at hds
    exact hds.1
  have hsign : ¬(d = '+' ∨ d = '-') := by
    rintro (rfl | rfl) <;> exact absurd hd (by decide)
  simp only [List.cons_append] at hspan ⊢
  simp only [exponentMarks, List.mem_cons, List.not_mem_nil, or_false] at hm
  obtain rfl | rfl | rfl | rfl | rfl | rfl := hm <;>
    simp [spanExponent, hspan, hsign]

/-- A text starts with no exponent, or with a mark and digits behind it. -/
theorem spanExponent_cases (s : List Char) :
    (spanExponent s).1 = [] ∨
    ∃ m ds rest, m ∈ exponentMarks ∧ ds ≠ [] ∧ ds.all isDigit = true ∧
      rest.head?.any isDigit = false ∧ s = m ++ (ds ++ rest) := by
  -- the letter is there or not, a sign behind it or not, digits behind that or not
  cases s with
  | nil => exact .inl rfl
  | cons c r =>
    by_cases hc : c = 'e' ∨ c = 'E'
    · cases r with
      | nil => simp [spanExponent]
      | cons d r' =>
        by_cases hd : d = '+' ∨ d = '-'
        · by_cases hds : (spanDigits r').1 = []
          · left
            obtain ⟨rest, hspan⟩ : ∃ rest, spanDigits r' = ([], rest) := ⟨_, Prod.ext hds rfl⟩
            simp [spanExponent, hc, hd, hspan]
          · right
            refine ⟨[c, d], (spanDigits r').1, (spanDigits r').2, ?_, hds, all_spanDigits r',
              head_spanDigits r', ?_⟩
            · obtain rfl | rfl := hc <;> obtain rfl | rfl := hd <;> decide
            · rw [spanDigits_append]
              rfl
        · by_cases hds : (spanDigits (d :: r')).1 = []
          · left
            obtain ⟨rest, hspan⟩ : ∃ rest, spanDigits (d :: r') = ([], rest) :=
              ⟨_, Prod.ext hds rfl⟩
            simp [spanExponent, hc, hd, hspan]
          · right
            refine ⟨[c], (spanDigits (d :: r')).1, (spanDigits (d :: r')).2, ?_, hds,
              all_spanDigits _, head_spanDigits _, ?_⟩
            · obtain rfl | rfl := hc <;> decide
            · rw [spanDigits_append]
              rfl
    · exact .inl (by simp [spanExponent, hc])

theorem spanExponent_snd {s : List Char} (h : (spanExponent s).1 = []) :
    spanExponent s = ([], s) := by
  have happ := spanExponent_append s
  rw [h, List.nil_append] at happ
  exact Prod.ext h happ

theorem head_of_mark {m : List Char} (hm : m ∈ exponentMarks) :
    m.head? = some 'e' ∨ m.head? = some 'E' := by
  revert m
  decide

/-! ## Number literals -/

theorem spanNumber_of_mantissa {s : List Char} (h : (spanMantissa s).1 ≠ []) :
    spanNumber s = ((spanMantissa s).1 ++ (spanExponent (spanMantissa s).2).1,
      (spanExponent (spanMantissa s).2).2) := by
  unfold spanNumber
  split
  · next hm => exact absurd (by rw [hm]) h
  · next hm => rw [hm]

/-- The parts of a number literal: the digits in front of the point, those behind it if there is
a point, and the mark and the digits of the exponent if there is one. -/
structure Figures where
  whole : List Char
  fraction : Option (List Char) := none
  exponent : Option (List Char × List Char) := none

namespace Figures

def mantissa (f : Figures) : List Char := f.whole ++ (f.fraction.map ('.' :: ·)).getD []

def power (f : Figures) : List Char := (f.exponent.map fun e => e.1 ++ e.2).getD []

def text (f : Figures) : List Char := f.mantissa ++ f.power

/-- There are digits where there should be, and nothing but digits. -/
structure Valid (f : Figures) : Prop where
  whole : f.whole.all isDigit = true
  fraction : ∀ fs ∈ f.fraction, fs.all isDigit = true
  filled : f.whole ≠ [] ∨ ∃ fs ∈ f.fraction, fs ≠ []
  exponent : ∀ e ∈ f.exponent, e.1 ∈ exponentMarks ∧ e.2 ≠ [] ∧ e.2.all isDigit = true

/-- A text does not carry the literal on. -/
structure EndsAt (f : Figures) (rest : List Char) : Prop where
  digit : rest.head?.any isDigit = false
  point : f.fraction = none → f.exponent = none → rest.head? ≠ some '.'
  exponent : f.exponent = none → (spanExponent rest).1 = []

theorem Valid.mantissa_ne_nil {f : Figures} (hv : f.Valid) : f.mantissa ≠ [] := by
  obtain h | ⟨fs, hfs, h⟩ := hv.filled
  · simp [mantissa, h]
  · simp [mantissa, Option.mem_def.1 hfs]

theorem Valid.text_ne_nil {f : Figures} (hv : f.Valid) : f.text ≠ [] := by
  simp [text, hv.mantissa_ne_nil]

theorem Valid.mem_power {f : Figures} (hv : f.Valid) {c : Char} (h : c ∈ f.power) :
    isDigit c = true ∨ c ∈ "eE+-".toList := by
  cases hx : f.exponent with
  | none => simp [power, hx] at h
  | some e =>
    obtain ⟨hm, _, hds⟩ := hv.exponent e hx
    simp only [power, hx, Option.map_some, Option.getD_some, List.mem_append] at h
    obtain h | h := h
    · have hmarks : ∀ m ∈ exponentMarks, m.all "eE+-".toList.contains = true := by decide
      have hc := List.all_eq_true.1 (hmarks _ hm) c h
      exact .inr (by simpa using hc)
    · exact .inl (List.all_eq_true.1 hds c h)

theorem Valid.mem_text {f : Figures} (hv : f.Valid) {c : Char} (h : c ∈ f.text) :
    isDigit c = true ∨ c ∈ ".eE+-".toList := by
  rw [text, mantissa, List.mem_append, List.mem_append] at h
  obtain (h | h) | h := h
  · exact .inl (List.all_eq_true.1 hv.whole c h)
  · cases hf : f.fraction with
    | none => simp [hf] at h
    | some fs =>
      simp only [hf, Option.map_some, Option.getD_some, List.mem_cons] at h
      obtain rfl | h := h
      · exact .inr (by decide)
      · exact .inl (List.all_eq_true.1 (hv.fraction fs hf) c h)
  · exact (hv.mem_power h).imp_right (List.mem_cons_of_mem _)

/-- An exponent starts with its letter, and what is behind a literal with no digit. -/
theorem Valid.head_power_append {f : Figures} (hv : f.Valid) {rest : List Char}
    (he : f.EndsAt rest) : (f.power ++ rest).head?.any isDigit = false := by
  cases hf : f.exponent with
  | none =>
    rw [power, hf]
    exact he.digit
  | some e =>
    have hhead := head_of_mark (hv.exponent e hf).1
    rw [power, hf]
    simp only [Option.map_some, Option.getD_some, List.head?_append]
    obtain h | h := hhead <;> rw [h]
    · exact (by decide : isDigit 'e' = false)
    · exact (by decide : isDigit 'E' = false)

/-- The mantissa is read up to what cannot carry it on. -/
theorem spanMantissa_mantissa {f : Figures} (hv : f.Valid) {r : List Char}
    (hdigit : r.head?.any isDigit = false) (hpoint : f.fraction = none → r.head? ≠ some '.') :
    spanMantissa (f.mantissa ++ r) = (f.mantissa, r) := by
  obtain ⟨whole, fraction, exponent⟩ := f
  cases fraction with
  | none =>
    have hne : whole ≠ [] := by
      obtain h | ⟨_, hfs, _⟩ := hv.filled
      · exact h
      · cases hfs
    have hspan := spanDigits_of_append hv.whole hdigit
    have hno := hpoint rfl
    simp only [mantissa, Option.map_none, Option.getD_none, List.append_nil]
    unfold spanMantissa
    rw [hspan]
    split <;> simp_all
  | some fs =>
    have hfs := hv.fraction fs rfl
    have hspan' := spanDigits_of_append hfs hdigit
    have hspan := spanDigits_of_append (r := '.' :: (fs ++ r)) hv.whole isDigit_point
    simp only [mantissa, Option.map_some, Option.getD_some, List.append_assoc, List.cons_append]
    unfold spanMantissa
    rw [hspan]
    cases whole with
    | nil =>
      have hne : fs ≠ [] := by
        obtain h | ⟨_, hfs', h⟩ := hv.filled
        · exact absurd rfl h
        · cases hfs'
          exact h
      simp only [hspan', List.nil_append]
    | cons d ds => simp [hspan']

/-- The whole literal is read up to what cannot carry it on. -/
theorem spanNumber_text {f : Figures} (hv : f.Valid) {rest : List Char} (he : f.EndsAt rest) :
    spanNumber (f.text ++ rest) = (f.text, rest) := by
  have hne := hv.mantissa_ne_nil
  obtain ⟨whole, fraction, exponent⟩ := f
  cases exponent with
  | none =>
    have hmantissa := spanMantissa_mantissa hv he.digit fun h => he.point h rfl
    have hexponent := spanExponent_snd (he.exponent rfl)
    simp only [text, power, Option.map_none, Option.getD_none, List.append_nil]
    rw [spanNumber, hmantissa]
    split <;> simp_all
  | some e =>
    -- the mantissa ends at the letter, where the exponent is then found
    obtain ⟨m, ds⟩ := e
    obtain ⟨hm, hds, hall⟩ := hv.exponent _ rfl
    have hexponent := spanExponent_of_mark hm hds hall he.digit
    have hhead : (m ++ (ds ++ rest)).head? = some 'e' ∨ (m ++ (ds ++ rest)).head? = some 'E' := by
      obtain h | h := head_of_mark hm
      · exact .inl (by simp [List.head?_append, h])
      · exact .inr (by simp [List.head?_append, h])
    have hmantissa := spanMantissa_mantissa hv (r := m ++ (ds ++ rest))
      (by obtain h | h := hhead <;> rw [h] <;> decide)
      fun _ => by obtain h | h := hhead <;> rw [h] <;> decide
    simp only [text, power, Option.map_some, Option.getD_some, List.append_assoc]
    rw [spanNumber, hmantissa]
    split <;> simp_all

theorem of_spanMantissa (s : List Char) :
    (spanMantissa s).1 = [] ∨
    ∃ f : Figures, f.Valid ∧ f.exponent = none ∧ f.mantissa = (spanMantissa s).1 ∧
      (spanMantissa s).2.head?.any isDigit = false ∧
      (f.fraction = none → (spanMantissa s).2.head? ≠ some '.') := by
  have hall := all_spanDigits s
  have hhead := head_spanDigits s
  unfold spanMantissa
  split
  · next r hs =>
    have hall' := all_spanDigits r
    have hhead' := head_spanDigits r
    split
    · exact .inl rfl
    · next fs rest hne hr =>
      rw [hr] at hall' hhead'
      refine .inr ⟨⟨[], some fs, none⟩, ⟨rfl, ?_, ?_, by simp⟩, rfl, rfl, hhead', by simp⟩
      · rintro _ ⟨⟩
        exact hall'
      · exact .inr ⟨fs, rfl, fun h => hne h⟩
  · exact .inl rfl
  · next ds r hne hs =>
    rw [hs] at hall
    refine .inr ⟨⟨ds, some (spanDigits r).1, none⟩, ⟨hall, ?_, ?_, by simp⟩, rfl, rfl,
      head_spanDigits r, by simp⟩
    · rintro _ ⟨⟩
      exact all_spanDigits r
    · exact .inl fun h => hne h
  · next ds rest _ hne hpoint hs =>
    rw [hs] at hall hhead
    refine .inr ⟨⟨ds, none, none⟩, ⟨hall, by simp, .inl fun h => hne h, by simp⟩, rfl, ?_, hhead,
      fun _ => ?_⟩
    · simp [mantissa]
    · cases rest with
      | nil => simp
      | cons c r =>
        intro h
        obtain rfl : c = '.' := Option.some.inj h
        exact hpoint r rfl

/-- What is read as a number literal has its parts, and ends where it should. -/
theorem of_spanNumber (s : List Char) :
    (spanNumber s).1 = [] ∨
    ∃ f : Figures, f.Valid ∧ f.text = (spanNumber s).1 ∧ f.EndsAt (spanNumber s).2 := by
  obtain hnil | ⟨f, hv, hnone, htext, hdigit, hpoint⟩ := of_spanMantissa s
  · left
    unfold spanNumber
    split
    · rfl
    · next hm => simp_all
  · right
    rw [spanNumber_of_mantissa (htext ▸ hv.mantissa_ne_nil), ← htext]
    obtain hexp | ⟨m, ds, rest, hm, hne, hds, hrest, heq⟩ := spanExponent_cases (spanMantissa s).2
    · rw [spanExponent_snd hexp]
      refine ⟨f, hv, ?_, hdigit, fun h _ => hpoint h, fun _ => hexp⟩
      simp [text, power, hnone]
    · rw [heq, spanExponent_of_mark hm hne hds hrest]
      refine ⟨{ f with exponent := some (m, ds) },
        ⟨hv.whole, hv.fraction, hv.filled, ?_⟩, rfl, hrest, by simp, by simp⟩
      rintro _ ⟨⟩
      exact ⟨hm, hne, hds⟩

end Figures

/-! ## Words -/

/-- A text does not carry a word on. -/
def Token.EndsAt : Token → List Char → Prop
  | .number n, rest => ∃ f : Figures, f.Valid ∧ f.text = n ∧ f.EndsAt rest
  | .name n, rest => (∃ c r, n = c :: r ∧ isNameStart c = true ∧ r.all isNameChar = true) ∧
      rest.head?.any isNameChar = false
  | .other c, rest => isNameStart c = false ∧ isDigit c = false ∧
      (c = '.' → rest.head?.any isDigit = false)

theorem Figures.Valid.head {f : Figures} (hv : f.Valid) {c : Char} {r : List Char}
    (h : f.text = c :: r) : isDigit c = true ∨ c = '.' ∧ r.head?.any isDigit = true := by
  obtain ⟨whole, fraction, exponent⟩ := f
  cases whole with
  | cons d ds =>
    obtain rfl : d = c := by simpa [text, mantissa] using congrArg List.head? h
    have hall := hv.whole
    simp only [List.all_cons, Bool.and_eq_true] at hall
    exact .inl hall.1
  | nil =>
    obtain hne | ⟨fs, hfs, hne⟩ := hv.filled
    · exact absurd rfl hne
    · obtain ⟨d, ds, rfl⟩ := List.exists_cons_of_ne_nil hne
      have hall := hv.fraction _ hfs
      simp only [List.all_cons, Bool.and_eq_true] at hall
      cases hfs
      simp only [text, mantissa, Option.map_some, Option.getD_some, List.nil_append,
        List.cons_append, List.cons.injEq] at h
      obtain ⟨rfl, rfl⟩ := h
      exact .inr ⟨rfl, hall.1⟩

/-- A literal starts with a digit, or with a point and a digit. -/
theorem spanNumber_cons_eq_nil_iff (c : Char) (r : List Char) :
    (spanNumber (c :: r)).1 = [] ↔
      isDigit c = false ∧ (c = '.' → r.head?.any isDigit = false) := by
  constructor
  · intro h
    have hm : (spanMantissa (c :: r)).1 = [] := by
      by_contra hne
      rw [spanNumber_of_mantissa hne] at h
      exact hne (List.append_eq_nil_iff.1 h).1
    unfold spanMantissa at hm
    constructor
    · by_contra hc
      have hdigit : isDigit c = true := by simpa using hc
      have hspan : spanDigits (c :: r) = (c :: (spanDigits r).1, (spanDigits r).2) := by
        simp [spanDigits, hdigit]
      rw [hspan] at hm
      split at hm <;> simp_all
    · rintro rfl
      have hspan : spanDigits ('.' :: r) = ([], '.' :: r) := by
        simp [spanDigits, isDigit_point]
      rw [← spanDigits_eq_nil_iff]
      simp only [hspan] at hm
      split at hm
      · next hr => rw [hr]
      · cases hm
  · rintro ⟨hc, hpoint⟩
    obtain h | ⟨f, hv, htext, _⟩ := Figures.of_spanNumber (c :: r)
    · exact h
    · have happ := spanNumber_append (c :: r)
      rw [← htext] at happ
      obtain ⟨d, t, ht⟩ := List.exists_cons_of_ne_nil hv.text_ne_nil
      rw [ht, List.cons_append, List.cons.injEq] at happ
      obtain ⟨rfl, happ⟩ := happ
      obtain hd | ⟨rfl, hd⟩ := hv.head ht
      · rw [hd] at hc
        cases hc
      · have hno := hpoint rfl
        cases t with
        | nil => cases hd
        | cons x t =>
          rw [← happ] at hno
          exact absurd hd (by simpa using hno)

/-- Where there is no literal, there is a name or a character by itself. -/
theorem nextToken_of_nil {c : Char} {r : List Char} (h : (spanNumber (c :: r)).1 = []) :
    nextToken c r =
      if isNameStart c then (.name (c :: r.takeWhile isNameChar), r.dropWhile isNameChar)
      else (.other c, r) := by
  unfold nextToken
  split
  · rfl
  · next hne hs =>
    rw [hs] at h
    exact absurd h fun h => hne h

theorem Token.EndsAt.text_ne_nil {t : Token} {rest : List Char} (h : t.EndsAt rest) :
    t.text ≠ [] := by
  cases t with
  | number n =>
    obtain ⟨f, hv, rfl, _⟩ := h
    exact hv.text_ne_nil
  | name n =>
    obtain ⟨⟨c, r, rfl, _⟩, _⟩ := h
    exact List.cons_ne_nil c r
  | other c => exact List.cons_ne_nil c []

theorem endsAt_of_nextToken {c : Char} {r rest : List Char} {t : Token}
    (h : nextToken c r = (t, rest)) : t.EndsAt rest := by
  obtain hnil | ⟨f, hv, htext, hends⟩ := Figures.of_spanNumber (c :: r)
  · obtain ⟨hdigit, hpoint⟩ := (spanNumber_cons_eq_nil_iff c r).1 hnil
    rw [nextToken_of_nil hnil] at h
    split at h
    · next hstart =>
      cases h
      exact ⟨⟨c, _, rfl, hstart, List.all_takeWhile⟩, head_dropWhile isNameChar r⟩
    · next hstart =>
      cases h
      exact ⟨by simpa using hstart, hdigit, hpoint⟩
  · have hne := hv.text_ne_nil
    unfold nextToken at h
    split at h
    · next hs =>
      rw [hs] at htext
      exact absurd htext hne
    · next hs =>
      rw [hs] at htext hends
      cases h
      exact ⟨f, hv, htext, hends⟩

/-- A word that ends where the rest starts is read as the first one. -/
theorem nextToken_of_endsAt {c : Char} {r rest : List Char} {t : Token}
    (happ : c :: r = t.text ++ rest) (hends : t.EndsAt rest) : nextToken c r = (t, rest) := by
  cases t with
  | number n =>
    obtain ⟨f, hv, rfl, hf⟩ := hends
    unfold nextToken
    rw [happ, Token.text, Figures.spanNumber_text hv hf]
    split
    · next hs => exact absurd (congrArg Prod.fst hs) hv.text_ne_nil
    · next hs =>
      cases hs
      rfl
  | name n =>
    -- a literal would win, but none starts with the first character of a name
    obtain ⟨⟨d, run, rfl, hstart, hrun⟩, hrest⟩ := hends
    rw [Token.text, List.cons_append, List.cons.injEq] at happ
    obtain ⟨rfl, rfl⟩ := happ
    have hpoint : c ≠ '.' := by
      rintro rfl
      exact absurd hstart (by decide)
    have hnil := (spanNumber_cons_eq_nil_iff c (run ++ rest)).2
      ⟨isDigit_of_isNameStart hstart, fun h => absurd h hpoint⟩
    obtain ⟨htake, hdrop⟩ := span_of_append hrun hrest
    rw [nextToken_of_nil hnil, if_pos hstart, htake, hdrop]
  | other d =>
    obtain ⟨hstart, hdigit, hpoint⟩ := hends
    obtain ⟨rfl, rfl⟩ := List.cons.inj happ
    have hnil := (spanNumber_cons_eq_nil_iff c r).2 ⟨hdigit, hpoint⟩
    rw [nextToken_of_nil hnil, hstart]
    rfl

/-- The first word of a text, and what follows it. -/
theorem nextToken_eq_iff {c : Char} {r rest : List Char} {t : Token} :
    nextToken c r = (t, rest) ↔ c :: r = t.text ++ rest ∧ t.EndsAt rest := by
  refine ⟨fun h => ⟨?_, endsAt_of_nextToken h⟩, fun ⟨happ, hends⟩ => nextToken_of_endsAt happ hends⟩
  have happ := nextToken_append c r
  rw [h] at happ
  exact happ.symm

/-- A text is made up of words, each of which ends where the next one starts. -/
inductive Reads : List Char → List Token → Prop
  | nil : Reads [] []
  | cons {t : Token} {ts : List Token} {rest : List Char} :
      t.EndsAt rest → Reads rest ts → Reads (t.text ++ rest) (t :: ts)

theorem reads_tokens (s : List Char) : Reads s (tokens s) := by
  fun_induction tokens s with
  | case1 => exact .nil
  | case2 c r ih =>
    obtain ⟨htext, hends⟩ := nextToken_eq_iff.1 (rfl : nextToken c r = _)
    rw [htext]
    exact .cons hends ih

/-- The words of a text are those that it is made up of. -/
theorem tokens_eq_iff {s : List Char} {ts : List Token} : tokens s = ts ↔ Reads s ts := by
  refine ⟨fun h => h ▸ reads_tokens s, fun h => ?_⟩
  -- where each word ends is decided by what follows, so the first word is the one that is read
  induction h with
  | nil => rw [tokens]
  | @cons t ts rest hends _ ih =>
    obtain ⟨c, r, htext⟩ := List.exists_cons_of_ne_nil hends.text_ne_nil
    have hnext : nextToken c (r ++ rest) = (t, rest) := by
      rw [nextToken_eq_iff, htext]
      exact ⟨rfl, hends⟩
    rw [htext, List.cons_append, tokens, hnext, ih]

section Reads

variable {s : List Char} {before after : List Token} {t : Token}

theorem Reads.text {ts : List Token} (h : Reads s ts) : s = ts.flatMap Token.text := by
  induction h with
  | nil => rfl
  | cons _ _ ih => rw [List.flatMap_cons, ← ih]

/-- Later words are those of what is left when earlier ones are taken away. -/
theorem Reads.later (h : Reads s (before ++ after)) :
    Reads (after.flatMap Token.text) after := by
  induction before generalizing s with
  | nil =>
    have htext := h.text
    rw [List.nil_append] at h htext
    rwa [← htext]
  | cons u before ih =>
    cases h with
    | cons _ hrest => exact ih hrest

/-- A word ends where the text of the later ones starts. -/
theorem Reads.endsAt (h : Reads s (before ++ t :: after)) :
    t.EndsAt (after.flatMap Token.text) := by
  have hlater := h.later
  generalize (t :: after).flatMap Token.text = u at hlater
  cases hlater with
  | cons hends hrest => rwa [← hrest.text]

end Reads

/-! ## Names -/

theorem mem_firstOccurrences {seen l : List String} {n : String} :
    n ∈ firstOccurrences seen l ↔ n ∈ l ∧ n ∉ seen := by
  fun_induction firstOccurrences seen l with
  | case1 => simp
  | case2 seen m r hm ih =>
    have hmem : m ∈ seen := by simpa using hm
    rw [ih, List.mem_cons]
    constructor
    · rintro ⟨h, hs⟩
      exact ⟨.inr h, hs⟩
    · rintro ⟨rfl | h, hs⟩
      · exact absurd hmem hs
      · exact ⟨h, hs⟩
  | case3 seen m r hm ih =>
    have hmem : m ∉ seen := by simpa using hm
    rw [List.mem_cons, ih, List.mem_cons, List.mem_cons]
    by_cases h : n = m
    · subst h
      simp [hmem]
    · simp [h]

theorem mem_names {s : List Char} {n : String} :
    n ∈ names s ↔ ∃ t, .name t ∈ tokens s ∧ String.ofList t = n := by
  rw [names, mem_firstOccurrences, List.mem_filterMap]
  constructor
  · rintro ⟨⟨t, ht, hn⟩, _⟩
    cases t with
    | name t => exact ⟨t, ht, Option.some.inj hn⟩
    | _ => cases hn
  · rintro ⟨t, ht, rfl⟩
    exact ⟨⟨_, ht, rfl⟩, List.not_mem_nil⟩

end Reckon.Formula
