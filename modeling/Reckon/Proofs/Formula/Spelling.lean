import Mathlib.Data.List.Infix
import Reckon.Formula.Screen
import Reckon.Proofs.Formula.Words

/-
The spelling that the evaluator reads, word by word. Two changes are made to a text without a look
at its words: zeros go that stand in front of a digit and behind what is neither a digit nor a
point, and `mod` gives way to a sign where no word character stands on either side. Neither of
them moves the end of a word (`Edge`), so the words of the new text are those of the old one, each
changed by itself (`tokens_prepare`): a literal loses its leading zeros and those of its exponent
(`Figures.unzeroed`), a name the zeros that stand in it behind a letter and in front of a digit,
and a name `mod` that stands alone becomes the sign (`Token.read`).
-/
namespace Reckon.Formula
open Text

/-! ## What may stand behind a word -/

/-- What ends a word in front of the one text ends it in front of the other. -/
structure Edge (a b : List Char) : Prop where
  digit : a.head?.any isDigit = false → b.head?.any isDigit = false
  letter : a.head?.any isNameChar = false → b.head?.any isNameChar = false
  point : a.head? ≠ some '.' → b.head? ≠ some '.'
  exponent : (spanExponent a).1 = [] → (spanExponent b).1 = []

theorem Figures.EndsAt.of_edge {f : Figures} {a b : List Char} (h : f.EndsAt a) (he : Edge a b) :
    f.EndsAt b where
  digit := he.digit h.digit
  point hf hx := he.point (h.point hf hx)
  exponent hx := he.exponent (h.exponent hx)

theorem Token.EndsAt.of_edge {t : Token} {a b : List Char} (h : t.EndsAt a) (he : Edge a b) :
    t.EndsAt b := by
  cases t with
  | number n =>
    obtain ⟨f, hv, htext, hf⟩ := h
    exact ⟨f, hv, htext, hf.of_edge he⟩
  | name n => exact ⟨h.1, he.letter h.2⟩
  | other c => exact ⟨h.1, h.2.1, fun hc => he.digit (h.2.2 hc)⟩

/-- An exponent is its letter with digits behind it, or with a sign and digits. -/
theorem spanExponent_cons_eq_nil_iff (c : Char) (r : List Char) :
    (spanExponent (c :: r)).1 = [] ↔
      (c = 'e' ∨ c = 'E' → r.head?.any isDigit = false ∧
        ∀ d q, r = d :: q → d = '+' ∨ d = '-' → q.head?.any isDigit = false) := by
  by_cases hc : c = 'e' ∨ c = 'E'
  · cases r with
    | nil => simp [spanExponent]
    | cons d q =>
      by_cases hd : d = '+' ∨ d = '-'
      · have hdigit : isDigit d = false := by
          obtain rfl | rfl := hd <;> decide
        have hspan : (spanExponent (c :: d :: q)).1 = [] ↔ (spanDigits q).1 = [] := by
          simp only [spanExponent, hc, hd, Bool.or_eq_true, decide_eq_true_eq, if_true]
          split <;> simp_all
        rw [hspan, spanDigits_eq_nil_iff]
        simp [hc, hd, hdigit]
      · have hspan : (spanExponent (c :: d :: q)).1 = [] ↔ (spanDigits (d :: q)).1 = [] := by
          simp only [spanExponent, hc, hd, Bool.or_eq_true, decide_eq_true_eq, if_true, if_false]
          split <;> simp_all
        rw [hspan, spanDigits_eq_nil_iff]
        simp [hc, hd]
  · simp [spanExponent, hc]

/-- There is no exponent behind the letter where none was, if digits stay digits and what stands
behind a sign does so. -/
theorem spanExponent_cons_of {c : Char} {r r' : List Char} (h : (spanExponent (c :: r)).1 = [])
    (hdigit : r'.head?.any isDigit = r.head?.any isDigit)
    (hsign : ∀ d q', r' = d :: q' → d = '+' ∨ d = '-' →
      ∃ q, r = d :: q ∧ q'.head?.any isDigit = q.head?.any isDigit) :
    (spanExponent (c :: r')).1 = [] := by
  rw [spanExponent_cons_eq_nil_iff] at h ⊢
  intro hc
  obtain ⟨hr, hq⟩ := h hc
  refine ⟨hdigit.trans hr, fun d q' heq hd => ?_⟩
  obtain ⟨q, hrq, hqdigit⟩ := hsign d q' heq hd
  exact hqdigit.trans (hq d q hrq hd)

/-! ## Leading zeros -/

/-- A part of a text without its leading zeros, given whether a digit follows the part. -/
def dropZeros (followed start : Bool) : List Char → List Char
  | [] => []
  | c :: r =>
    if start && c == '0' && r.head?.elim followed isDigit then dropZeros followed true r
    else c :: dropZeros followed (!(isDigit c || c == '.')) r

section Zeros

variable {followed start : Bool}

/-- A text is a part that nothing follows. -/
theorem dropLeadingZeros_eq (start : Bool) (s : List Char) :
    dropLeadingZeros start s = dropZeros false start s := by
  induction s generalizing start with
  | nil => rfl
  | cons c r ih =>
    have hnext : r.head?.elim false isDigit = r.head?.any isDigit := by cases r <;> rfl
    rw [dropLeadingZeros, dropZeros, ih, ih, hnext]

theorem ne_zero_of_isDigit {c : Char} (h : isDigit c = false) : c ≠ '0' := by
  rintro rfl
  exact absurd h (by decide)

theorem head_ne_zero_of_isDigit {s : List Char} (h : s.head?.any isDigit = false) :
    s.head? ≠ some '0' := by
  intro hs
  rw [hs] at h
  exact absurd h (by decide)

theorem head_ne_zero_of_isNameChar {s : List Char} (h : s.head?.any isNameChar = false) :
    s.head? ≠ some '0' := by
  intro hs
  rw [hs] at h
  exact absurd h (by decide)

theorem dropLeadingZeros_cons {c : Char} (hc : c ≠ '0') (start : Bool) (r : List Char) :
    dropLeadingZeros start (c :: r) = c :: dropLeadingZeros (!(isDigit c || c == '.')) r := by
  simp [dropLeadingZeros, hc]

/-- What stands before a text matters only if the text starts with a zero. -/
theorem dropLeadingZeros_start {s : List Char} (h : s.head? ≠ some '0') (start start' : Bool) :
    dropLeadingZeros start s = dropLeadingZeros start' s := by
  cases s with
  | nil => rfl
  | cons c r =>
    have hc : c ≠ '0' := fun hc => h (congrArg some hc)
    rw [dropLeadingZeros_cons hc, dropLeadingZeros_cons hc]

theorem dropLeadingZeros_append (u : List Char) {v : List Char} (hv : v.head? ≠ some '0')
    (start : Bool) :
    dropLeadingZeros start (u ++ v) =
      dropZeros (v.head?.any isDigit) start u ++ dropLeadingZeros true v := by
  induction u generalizing start with
  | nil => exact dropLeadingZeros_start hv start true
  | cons c r ih =>
    have hnext : (r ++ v).head?.any isDigit = r.head?.elim (v.head?.any isDigit) isDigit := by
      cases r <;> rfl
    rw [List.cons_append, dropLeadingZeros, dropZeros, ih, ih, hnext]
    split <;> rfl

theorem dropZeros_sublist (s : List Char) : (dropZeros followed start s).Sublist s := by
  fun_induction dropZeros followed start s with
  | case1 => exact .slnil
  | case2 _ c r _ ih => exact ih.cons c
  | case3 _ c r _ ih => exact ih.cons_cons c

/-- A zero goes in front of a digit only, so a text still starts with a digit if it did. -/
theorem head_dropLeadingZeros_isDigit (start : Bool) (s : List Char) :
    (dropLeadingZeros start s).head?.any isDigit = s.head?.any isDigit := by
  fun_induction dropLeadingZeros start s with
  | case1 => rfl
  | case2 start c r h ih =>
    simp only [Bool.and_eq_true, beq_iff_eq] at h
    obtain ⟨⟨_, rfl⟩, hr⟩ := h
    rw [ih, hr]
    rfl
  | case3 => rfl

theorem head_dropLeadingZeros {s : List Char} (h : s.head? ≠ some '0') (start : Bool) :
    (dropLeadingZeros start s).head? = s.head? := by
  cases s with
  | nil => rfl
  | cons c r =>
    have hc : c ≠ '0' := fun hc => h (congrArg some hc)
    rw [dropLeadingZeros_cons hc]
    rfl

theorem dropLeadingZeros_eq_cons {s r' : List Char} {c : Char}
    (h : dropLeadingZeros start s = c :: r') (hc : isDigit c = false) :
    ∃ r, s = c :: r ∧ r' = dropLeadingZeros (!(c == '.')) r := by
  have hhead := head_dropLeadingZeros_isDigit start s
  rw [h] at hhead
  cases s with
  | nil => cases h
  | cons d r =>
    have hd : isDigit d = false := hhead.symm.trans hc
    rw [dropLeadingZeros_cons (ne_zero_of_isDigit hd), hd, Bool.false_or] at h
    obtain ⟨rfl, rfl⟩ := List.cons.inj h
    exact ⟨r, rfl, rfl⟩

/-- Words in front of a text end there as before when its leading zeros go. -/
theorem edge_dropLeadingZeros (start : Bool) (s : List Char) :
    Edge s (dropLeadingZeros start s) where
  digit h := by rw [head_dropLeadingZeros_isDigit, h]
  letter h := by rw [head_dropLeadingZeros (head_ne_zero_of_isNameChar h), h]
  point h := by
    intro hp
    obtain ⟨r', hr'⟩ := List.head?_eq_some_iff.1 hp
    obtain ⟨r, rfl, _⟩ := dropLeadingZeros_eq_cons hr' isDigit_point
    exact h rfl
  exponent h := by
    cases heq : dropLeadingZeros start s with
    | nil => rfl
    | cons c r' =>
      by_cases hc : isDigit c = true
      · rw [spanExponent_cons_eq_nil_iff]
        rintro (rfl | rfl) <;> exact absurd hc (by decide)
      obtain ⟨r, rfl, rfl⟩ := dropLeadingZeros_eq_cons heq (by simpa using hc)
      refine spanExponent_cons_of h (head_dropLeadingZeros_isDigit _ r) fun d q' hq hd => ?_
      have hdigit : isDigit d = false := by
        obtain rfl | rfl := hd <;> decide
      obtain ⟨q, rfl, rfl⟩ := dropLeadingZeros_eq_cons hq hdigit
      exact ⟨q, rfl, head_dropLeadingZeros_isDigit _ q⟩

theorem all_dropZeros {p : Char → Bool} {s : List Char} (h : s.all p = true) :
    (dropZeros followed start s).all p = true :=
  List.all_eq_true.2 fun c hc => List.all_eq_true.1 h c ((dropZeros_sublist s).subset hc)

theorem all_dropLeadingZeros {p : Char → Bool} {s : List Char} (h : s.all p = true) :
    (dropLeadingZeros start s).all p = true :=
  dropLeadingZeros_eq start s ▸ all_dropZeros h

theorem dropLeadingZeros_ne_nil {ds : List Char} (hne : ds ≠ []) (hds : ds.all isDigit = true) :
    dropLeadingZeros start ds ≠ [] := by
  intro h
  have hhead := head_dropLeadingZeros_isDigit start ds
  obtain ⟨d, r, rfl⟩ := List.exists_cons_of_ne_nil hne
  simp only [List.all_cons, Bool.and_eq_true] at hds
  rw [h, List.head?_cons, Option.any_some, hds.1] at hhead
  cases hhead

theorem dropLeadingZeros_append_of_head {v : List Char} (hv : v.head?.any isDigit = false)
    (u : List Char) (start : Bool) :
    dropLeadingZeros start (u ++ v) = dropLeadingZeros start u ++ dropLeadingZeros true v := by
  rw [dropLeadingZeros_append u (head_ne_zero_of_isDigit hv), hv, dropLeadingZeros_eq start u]

/-- Behind a digit or a point no zero of a run of digits goes. -/
theorem dropLeadingZeros_digits {ds : List Char} (hds : ds.all isDigit = true) :
    dropLeadingZeros false ds = ds := by
  induction ds with
  | nil => rfl
  | cons d r ih =>
    simp only [List.all_cons, Bool.and_eq_true] at hds
    simp [dropLeadingZeros, hds.1, ih hds.2]

theorem dropLeadingZeros_mark {m : List Char} (hm : m ∈ exponentMarks) (ds : List Char) :
    dropLeadingZeros true (m ++ ds) = m ++ dropLeadingZeros true ds := by
  have he : isDigit 'e' = false ∧ isDigit 'E' = false := by decide
  have hsign : isDigit '+' = false ∧ isDigit '-' = false := by decide
  simp only [exponentMarks, List.mem_cons, List.not_mem_nil, or_false] at hm
  obtain rfl | rfl | rfl | rfl | rfl | rfl := hm <;>
    simp [dropLeadingZeros, he, hsign]

end Zeros

namespace Figures

variable {f : Figures}

/-- The literal without its leading zeros: those of the digits in front of the point and of the
exponent. -/
def unzeroed (f : Figures) : Figures where
  whole := dropLeadingZeros true f.whole
  fraction := f.fraction
  exponent := f.exponent.map fun e => (e.1, dropLeadingZeros true e.2)

theorem Valid.unzeroed (hv : f.Valid) : f.unzeroed.Valid where
  whole := all_dropLeadingZeros hv.whole
  fraction := hv.fraction
  filled := hv.filled.imp (fun h => dropLeadingZeros_ne_nil h hv.whole) id
  exponent e he := by
    obtain ⟨e, hfe, rfl⟩ := Option.map_eq_some_iff.1 he
    obtain ⟨hm, hne, hds⟩ := hv.exponent e hfe
    exact ⟨hm, dropLeadingZeros_ne_nil hne hds, all_dropLeadingZeros hds⟩

theorem EndsAt.unzeroed {rest : List Char} (h : f.EndsAt rest) : f.unzeroed.EndsAt rest where
  digit := h.digit
  point hf hx := h.point hf (Option.map_eq_none_iff.1 hx)
  exponent hx := h.exponent (Option.map_eq_none_iff.1 hx)

theorem Valid.dropLeadingZeros_text (hv : f.Valid) {rest : List Char} (he : f.EndsAt rest) :
    dropLeadingZeros true (f.text ++ rest) = f.unzeroed.text ++ dropLeadingZeros true rest := by
  have hhead := hv.head_power_append he
  have hpower : dropLeadingZeros true (f.power ++ rest) =
      f.unzeroed.power ++ dropLeadingZeros true rest := by
    rw [dropLeadingZeros_append_of_head he.digit]
    cases hx : f.exponent with
    | none => simp [power, Figures.unzeroed, hx, dropLeadingZeros]
    | some e =>
      obtain ⟨hm, _, _⟩ := hv.exponent e hx
      simp [power, Figures.unzeroed, hx, dropLeadingZeros_mark hm]
  -- what is left are the digits in front of the point, and those behind it, where no zero goes
  rw [text, text, List.append_assoc, List.append_assoc, ← hpower]
  cases hf : f.fraction with
  | none =>
    simp only [mantissa, Figures.unzeroed, hf, Option.map_none, Option.getD_none, List.append_nil]
    exact dropLeadingZeros_append_of_head hhead f.whole true
  | some fs =>
    have hfs := dropLeadingZeros_digits (hv.fraction fs hf)
    simp only [mantissa, Figures.unzeroed, hf, Option.map_some, Option.getD_some, List.append_assoc]
    rw [dropLeadingZeros_append_of_head (by exact isDigit_point), List.cons_append,
      ← List.cons_append, dropLeadingZeros_append_of_head hhead]
    simp [dropLeadingZeros, hfs]

end Figures

/-- The word without the zeros that go, in front of a text. A name has no leading zeros, but its
zeros go where they stand behind a letter and in front of a digit. -/
def Token.unzeroed (rest : List Char) : Token → Token
  | .number n => .number (dropLeadingZeros true n)
  | .name n => .name (dropZeros (rest.head?.any isDigit) true n)
  | .other c => .other c

theorem dropZeros_of_isNameStart {c : Char} (h : isNameStart c = true) (followed start : Bool)
    (r : List Char) : dropZeros followed start (c :: r) = c :: dropZeros followed true r := by
  have hdigit := isDigit_of_isNameStart h
  have hpoint : c ≠ '.' := by
    rintro rfl
    exact absurd h (by decide)
  simp [dropZeros, ne_zero_of_isDigit hdigit, beq_eq_false_iff_ne.2 hpoint, hdigit]

theorem Token.EndsAt.text_unzeroed {t : Token} {rest : List Char} (h : t.EndsAt rest) :
    dropLeadingZeros true (t.text ++ rest) =
      (t.unzeroed rest).text ++ dropLeadingZeros true rest := by
  cases t with
  | number n =>
    obtain ⟨f, _, rfl, hf⟩ := h
    exact dropLeadingZeros_append_of_head hf.digit f.text true
  | name n => exact dropLeadingZeros_append n (head_ne_zero_of_isNameChar h.2) true
  | other c =>
    obtain ⟨_, hdigit, hpoint⟩ := h
    have hstart : dropLeadingZeros (!(c == '.')) rest = dropLeadingZeros true rest := by
      by_cases hc : c = '.'
      · exact dropLeadingZeros_start (head_ne_zero_of_isDigit (hpoint hc)) _ _
      · rw [beq_eq_false_iff_ne.2 hc]
        rfl
    have hcons := dropLeadingZeros_cons (ne_zero_of_isDigit hdigit) true rest
    rw [hdigit, Bool.false_or, hstart] at hcons
    exact hcons

theorem Token.EndsAt.unzeroed {t : Token} {rest : List Char} (h : t.EndsAt rest) :
    (t.unzeroed rest).EndsAt (dropLeadingZeros true rest) := by
  refine Token.EndsAt.of_edge ?_ (edge_dropLeadingZeros true rest)
  cases t with
  | number n =>
    obtain ⟨f, hv, rfl, hf⟩ := h
    have htext := hv.dropLeadingZeros_text hf
    rw [dropLeadingZeros_append_of_head hf.digit, List.append_cancel_right_eq] at htext
    exact ⟨f.unzeroed, hv.unzeroed, htext.symm, hf.unzeroed⟩
  | name n =>
    obtain ⟨⟨c, r, rfl, hstart, hrun⟩, hrest⟩ := h
    exact ⟨⟨c, _, dropZeros_of_isNameStart hstart _ _ r, hstart, all_dropZeros hrun⟩, hrest⟩
  | other c => exact h

/-! ## The word `mod` -/

theorem isWord_of_isDigit {c : Char} (h : isDigit c = true) : isWord c = true := by
  by_cases hascii : isAsciiDigit c = true
  · exact isWord_of_asciiDigit hascii
  · by_cases hsmall : c.toNat < 128
    · simp [isDigit, digitValue?, hascii, hsmall] at h
    · -- the ten digits of a script are in one of the ranges
      have hwide : wideZeros.all (fun z => wideAlphanumerics.any fun r =>
          r.1.ble z && (z + 9).ble r.2) = true := by decide +kernel
      simp only [isDigit, digitValue?, hascii, hsmall, Bool.false_eq_true, if_false,
        Option.isSome_map, List.find?_isSome, Bool.and_eq_true, decide_eq_true_eq] at h
      obtain ⟨z, hz, hle, hlt⟩ := h
      obtain ⟨r, hr, hrange⟩ := List.any_eq_true.1 (List.all_eq_true.1 hwide z hz)
      rw [Bool.and_eq_true, Nat.ble_eq, Nat.ble_eq] at hrange
      have hhas : wideAlphanumerics.has c.toNat = true := by
        refine List.any_eq_true.2 ⟨r, hr, ?_⟩
        rw [Bool.and_eq_true, decide_eq_true_eq, decide_eq_true_eq]
        omega
      simp only [isWord, hhas, Bool.and_true, Bool.or_eq_true, decide_eq_true_eq]
      exact .inr (Nat.le_of_not_lt hsmall)

theorem head_isWord_of_isDigit {s : List Char} (h : s.head?.any isDigit = true) :
    s.head?.any isWord = true := by
  obtain ⟨c, hc, hd⟩ := (Option.any_eq_true _ _).1 h
  exact (Option.any_eq_true _ _).2 ⟨c, hc, isWord_of_isDigit hd⟩

theorem isWord_of_isNameChar {c : Char} (h : isNameChar c = true) : isWord c = true := by
  simp only [isNameChar, isNameStart, Bool.or_eq_true] at h
  simp only [isWord, Bool.or_eq_true]
  tauto

theorem Token.EndsAt.all_isNameChar {n rest : List Char} (h : (Token.name n).EndsAt rest) :
    n.all isNameChar = true := by
  obtain ⟨⟨c, r, rfl, hstart, hrun⟩, _⟩ := h
  simp [isNameChar_of_isNameStart hstart, hrun]

theorem Token.EndsAt.all_isWord {n rest : List Char} (h : (Token.name n).EndsAt rest) :
    n.all isWord = true :=
  List.all_eq_true.2 fun c hc => isWord_of_isNameChar (List.all_eq_true.1 h.all_isNameChar c hc)

/-- A character stays, unless it starts the word `mod` where that stands alone. -/
theorem replaceMod_cons {inWord : Bool} {c : Char} {r : List Char}
    (h : ∀ rest, c :: r = "mod".toList ++ rest → inWord = false →
      rest.head?.any isWord = true) :
    replaceMod inWord (c :: r) = c :: replaceMod (isWord c) r := by
  have hm : isWord 'm' = true := by decide
  have ho : isWord 'o' = true := by decide
  have hd : isWord 'd' = true := by decide
  rw [replaceMod.eq_def]
  split
  · next heq => cases heq
  · next rest heq =>
    obtain ⟨rfl, rfl⟩ := List.cons.inj heq
    have hstay := h rest rfl
    rw [if_neg (by simpa using hstay)]
    simp [replaceMod, hm, ho, hd]
  · next heq =>
    obtain ⟨rfl, rfl⟩ := List.cons.inj heq
    rfl

theorem replaceMod_cons_of_ne {c : Char} (hc : c ≠ 'm') (inWord : Bool) (r : List Char) :
    replaceMod inWord (c :: r) = c :: replaceMod (isWord c) r :=
  replaceMod_cons fun _ h _ => absurd (List.cons.inj h).1 hc

theorem replaceMod_cons_inWord (c : Char) (r : List Char) :
    replaceMod true (c :: r) = c :: replaceMod (isWord c) r :=
  replaceMod_cons fun _ _ h => by cases h

/-- What stands before a text matters only if the text starts with the letter. -/
theorem replaceMod_start {s : List Char} (h : s.head? ≠ some 'm') (inWord inWord' : Bool) :
    replaceMod inWord s = replaceMod inWord' s := by
  cases s with
  | nil => rfl
  | cons c r =>
    have hc : c ≠ 'm' := fun hc => h (congrArg some hc)
    rw [replaceMod_cons_of_ne hc, replaceMod_cons_of_ne hc]

theorem replaceMod_mod {rest : List Char} (h : rest.head?.any isWord = false) :
    replaceMod false ("mod".toList ++ rest) = '%' :: replaceMod true rest := by
  have hrest : rest.head? ≠ some 'm' := by
    intro hm
    rw [hm] at h
    exact absurd h (by decide)
  rw [replaceMod_start hrest true false]
  simp [replaceMod, h]

theorem replaceMod_run {u : List Char} (hu : u.all isWord = true) (v : List Char) :
    replaceMod true (u ++ v) = u ++ replaceMod true v := by
  induction u with
  | nil => rfl
  | cons c r ih =>
    simp only [List.all_cons, Bool.and_eq_true] at hu
    rw [List.cons_append, replaceMod_cons_inWord, hu.1, ih hu.2, List.cons_append]

theorem replaceMod_append {u : List Char} (hu : 'm' ∉ u) (inWord : Bool) (v : List Char) :
    replaceMod inWord (u ++ v) = u ++ replaceMod (u.getLast?.elim inWord isWord) v := by
  induction u generalizing inWord with
  | nil => rfl
  | cons c r ih =>
    rw [List.mem_cons, not_or] at hu
    rw [List.cons_append, replaceMod_cons_of_ne (Ne.symm hu.1), ih hu.2, List.getLast?_cons]
    cases r.getLast? <;> rfl

/-- The first character stays, or it is the letter and the sign stands for the word. -/
theorem replaceMod_cons_cases (inWord : Bool) (c : Char) (r : List Char) :
    replaceMod inWord (c :: r) = c :: replaceMod (isWord c) r ∨
      c = 'm' ∧ ∃ r', replaceMod inWord (c :: r) = '%' :: r' := by
  by_cases hmod : ∀ rest, c :: r = "mod".toList ++ rest → inWord = false →
      rest.head?.any isWord = true
  · exact .inl (replaceMod_cons hmod)
  · push Not at hmod
    obtain ⟨rest, heq, rfl, hrest⟩ := hmod
    rw [heq, replaceMod_mod (by simpa using hrest)]
    exact .inr ⟨(List.cons.inj heq).1, _, rfl⟩

theorem replaceMod_eq_cons {inWord : Bool} {s r' : List Char} {c : Char}
    (h : replaceMod inWord s = c :: r') (hc : c ≠ '%') :
    ∃ r, s = c :: r ∧ r' = replaceMod (isWord c) r := by
  cases s with
  | nil => cases h
  | cons d r =>
    obtain hstay | ⟨_, q, hsign⟩ := replaceMod_cons_cases inWord d r
    · rw [hstay] at h
      obtain ⟨rfl, rfl⟩ := List.cons.inj h
      exact ⟨r, rfl, rfl⟩
    · rw [hsign] at h
      exact absurd (List.cons.inj h).1.symm hc

theorem head_replaceMod (inWord : Bool) (s : List Char) :
    (replaceMod inWord s).head? = s.head? ∨
      (replaceMod inWord s).head? = some '%' ∧ s.head? = some 'm' := by
  cases s with
  | nil => exact .inl rfl
  | cons c r =>
    obtain hstay | ⟨rfl, q, hsign⟩ := replaceMod_cons_cases inWord c r
    · exact .inl (by rw [hstay]; rfl)
    · exact .inr ⟨by rw [hsign]; rfl, rfl⟩

theorem head_replaceMod_isDigit (inWord : Bool) (s : List Char) :
    (replaceMod inWord s).head?.any isDigit = s.head?.any isDigit := by
  obtain h | ⟨h, h'⟩ := head_replaceMod inWord s
  · rw [h]
  · rw [h, h']
    decide

/-- Words in front of a text end there as before when `mod` is replaced in it. -/
theorem edge_replaceMod (inWord : Bool) (s : List Char) : Edge s (replaceMod inWord s) where
  digit h := by rw [head_replaceMod_isDigit, h]
  letter h := by
    obtain h' | ⟨h', _⟩ := head_replaceMod inWord s <;> rw [h']
    · exact h
    · decide
  point h := by
    obtain h' | ⟨h', _⟩ := head_replaceMod inWord s <;> rw [h']
    · exact h
    · decide
  exponent h := by
    cases heq : replaceMod inWord s with
    | nil => rfl
    | cons c r' =>
      by_cases hc : c = '%'
      · rw [spanExponent_cons_eq_nil_iff, hc]
        exact fun h => absurd h (by decide)
      obtain ⟨r, rfl, rfl⟩ := replaceMod_eq_cons heq hc
      refine spanExponent_cons_of h (head_replaceMod_isDigit _ r) fun d q' hq hd => ?_
      have hpercent : d ≠ '%' := by
        obtain rfl | rfl := hd <;> decide
      obtain ⟨q, rfl, rfl⟩ := replaceMod_eq_cons hq hpercent
      exact ⟨q, rfl, head_replaceMod_isDigit _ q⟩

/-- The word, or the sign that is put for it in front of a text: for the name `mod` with no word
character on either side. -/
def Token.unworded (inWord : Bool) (rest : List Char) (t : Token) : Token :=
  if t = .name "mod".toList ∧ inWord = false ∧ rest.head?.any isWord = false then .other '%' else t

/-- A name keeps its first letter unless it is the word to be replaced. -/
theorem replaceMod_name {inWord : Bool} {c : Char} {n rest : List Char}
    (hwords : (c :: n).all isWord = true) (hrest : rest.head?.any isNameChar = false)
    (hnext : c :: n = "mod".toList → inWord = false → rest.head?.any isWord = true) :
    replaceMod inWord (c :: (n ++ rest)) = c :: replaceMod (isWord c) (n ++ rest) := by
  refine replaceMod_cons fun rest' (heq : (c :: n) ++ rest = "mod".toList ++ rest') hin => ?_
  -- either the name ends with the word, or one of them goes on with a character of a name
  obtain ⟨a, hmod, hsplit⟩ | ⟨a, hname, hsplit⟩ := List.append_eq_append_iff.1 heq
  · cases a with
    | nil =>
      rw [List.nil_append] at hsplit
      exact hsplit ▸ hnext (by simpa using hmod.symm) hin
    | cons x a =>
      have hall : "mod".toList.all isNameChar = true := by decide
      have hx := List.all_eq_true.1 hall x (by simp [hmod])
      rw [hsplit, List.cons_append, List.head?_cons, Option.any_some, hx] at hrest
      cases hrest
  · cases a with
    | nil =>
      rw [List.nil_append] at hsplit
      exact hsplit ▸ hnext (by simpa using hname) hin
    | cons x a =>
      have hx := List.all_eq_true.1 hwords x (by simp [hname])
      rw [hsplit]
      exact hx

theorem Token.EndsAt.text_unworded {t : Token} {rest : List Char} (h : t.EndsAt rest)
    (inWord : Bool) :
    replaceMod inWord (t.text ++ rest) =
      (t.unworded inWord rest).text ++ replaceMod (t.text.getLast?.any isWord) rest := by
  have hlast : t.text.getLast?.elim inWord isWord = t.text.getLast?.any isWord := by
    rw [List.getLast?_eq_some_getLast h.text_ne_nil]
    rfl
  cases t with
  | number n =>
    obtain ⟨f, hv, rfl, _⟩ := h
    -- a literal has digits, a point, signs and the letter of its exponent
    have hm : 'm' ∉ f.text := by
      intro hm
      obtain hm | hm := hv.mem_text hm
      · exact absurd hm (by decide)
      · exact absurd hm (by decide)
    rw [← hlast]
    exact replaceMod_append hm inWord rest
  | other c =>
    have hm : c ≠ 'm' := by
      rintro rfl
      exact absurd h.1 (by decide)
    exact replaceMod_cons_of_ne hm inWord rest
  | name n =>
    have hwords := h.all_isWord
    obtain ⟨⟨c, r, rfl, _, _⟩, hrest⟩ := h
    rw [Token.text, getLast_any_of_all (List.cons_ne_nil c r) hwords]
    by_cases halone : Token.name (c :: r) = .name "mod".toList ∧ inWord = false ∧
        rest.head?.any isWord = false
    · rw [Token.unworded, if_pos halone]
      obtain ⟨hname, rfl, hnext⟩ := halone
      rw [Token.name.inj hname]
      exact replaceMod_mod hnext
    · have hnext (hname : c :: r = "mod".toList) (hin : inWord = false) :
          rest.head?.any isWord = true := by
        by_contra hno
        exact halone ⟨by rw [hname], hin, by simpa using hno⟩
      have hstay := replaceMod_name hwords hrest hnext
      simp only [List.all_cons, Bool.and_eq_true] at hwords
      rw [Token.unworded, if_neg halone, Token.text, List.cons_append, hstay, hwords.1,
        replaceMod_run hwords.2, List.cons_append]

theorem Token.EndsAt.unworded {t : Token} {rest rest' : List Char} (h : t.EndsAt rest')
    (inWord : Bool) : (t.unworded inWord rest).EndsAt rest' := by
  unfold Token.unworded
  split
  · exact ⟨by decide, by decide, fun hc => absurd hc (by decide)⟩
  · exact h

/-! ## Word by word -/

theorem getLast_dropLeadingZeros (start : Bool) (s : List Char) :
    (dropLeadingZeros start s).getLast? = s.getLast? := by
  fun_induction dropLeadingZeros start s with
  | case1 => rfl
  | case2 start c r h ih =>
    cases r with
    | nil => simp at h
    | cons d r => rw [ih, List.getLast?_cons_cons]
  | case3 start c r h ih => rw [List.getLast?_cons, List.getLast?_cons, ih]

theorem head_dropLeadingZeros_isWord (start : Bool) (s : List Char) :
    (dropLeadingZeros start s).head?.any isWord = s.head?.any isWord := by
  by_cases hdigit : s.head?.any isDigit = true
  · rw [head_isWord_of_isDigit hdigit,
      head_isWord_of_isDigit (head_dropLeadingZeros_isDigit start s ▸ hdigit)]
  · rw [head_dropLeadingZeros (head_ne_zero_of_isDigit (by simpa using hdigit))]

/-- The zeros that go leave a word character at the end, or none as before. -/
theorem Token.EndsAt.getLast_unzeroed {t : Token} {rest : List Char} (h : t.EndsAt rest) :
    (t.unzeroed rest).text.getLast?.any isWord = t.text.getLast?.any isWord := by
  cases t with
  | number n => rw [Token.unzeroed, Token.text, Token.text, getLast_dropLeadingZeros]
  | other c => rfl
  | name n =>
    have hwords := h.all_isWord
    obtain ⟨⟨c, r, rfl, hstart, hrun⟩, _⟩ := h
    rw [Token.text, getLast_any_of_all (List.cons_ne_nil c r) hwords, Token.unzeroed, Token.text,
      getLast_any_of_all _ (all_dropZeros hwords)]
    rw [dropZeros_of_isNameStart hstart]
    exact List.cons_ne_nil c _

/-- The word that is read for a word, where `inWord` tells that a word character stands before
it. -/
def Token.read (inWord : Bool) (rest : List Char) (t : Token) : Token :=
  (t.unzeroed rest).unworded inWord rest

/-- The words of the spelling that the evaluator reads, where `inWord` tells that a word character
stands before the first word. -/
def respell (inWord : Bool) : List Token → List Token
  | [] => []
  | t :: ts =>
    t.read inWord (ts.flatMap Token.text) :: respell (t.text.getLast?.any isWord) ts

theorem Reads.respell {s : List Char} {ts : List Token} (h : Reads s ts) (inWord : Bool) :
    Reads (replaceMod inWord (dropLeadingZeros true s)) (respell inWord ts) := by
  -- a word is changed by itself and ends in front of the changed text as it did before
  induction h generalizing inWord with
  | nil => exact .nil
  | @cons t ts rest hends hrest ih =>
    have hnext := head_dropLeadingZeros_isWord true rest
    rw [hends.text_unzeroed, hends.unzeroed.text_unworded, hends.getLast_unzeroed,
      Formula.respell, Token.read, ← hrest.text, Token.unworded, hnext, ← Token.unworded]
    exact .cons ((hends.unzeroed.of_edge (edge_replaceMod _ _)).unworded inWord) (ih _)

theorem tokens_prepare (s : List Char) : tokens (prepare s) = respell false (tokens s) :=
  tokens_eq_iff.2 ((reads_tokens s).respell false)

end Reckon.Formula
