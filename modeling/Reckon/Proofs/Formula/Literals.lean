import Mathlib.Data.List.Forall2
import Reckon.Number.Decimal
import Reckon.Proofs.Formula.Spelling

/-
The number literals of a formula. A literal is read by its parts: its digits, less one place for
each digit behind the point, times the power of ten of its exponent (`Figures.decimal`,
`Figures.Valid.readMagnitude_text`).

The spelling that the evaluator reads has the same literals, each without its leading zeros, for
leading zeros are dropped word by word. A zero in front counts for nothing, in the digits and in
the exponent alike, so no literal changes its value (`Figures.decimal_unzeroed`), and what is left
has no leading zero in either place (`literals_prepare`).
-/
namespace Reckon.Formula
open Text Number

/-! ## Digits -/

theorem digitsAfter_append (n : Nat) (a b : List Char) :
    digitsAfter n (a ++ b) = digitsAfter (digitsAfter n a) b := by
  induction a generalizing n with
  | nil => rfl
  | cons c r ih => exact ih _

theorem digitsAfter_zero (r : List Char) : digitsAfter 0 ('0' :: r) = digitsAfter 0 r := by
  have hzero : digitValue? '0' = some 0 := by decide
  rw [digitsAfter, hzero]
  rfl

theorem digitsValue_dropLeadingZeros {ds : List Char} (h : ds.all isDigit = true) :
    digitsValue (dropLeadingZeros true ds) = digitsValue ds := by
  induction ds with
  | nil => rfl
  | cons d r ih =>
    simp only [List.all_cons, Bool.and_eq_true] at h
    rw [dropLeadingZeros]
    split
    · next hdrop =>
      simp only [Bool.true_and, Bool.and_eq_true, beq_iff_eq] at hdrop
      rw [ih h.2, hdrop.1, digitsValue, digitsValue, digitsAfter_zero]
    · rw [h.1, Bool.true_or, Bool.not_true, dropLeadingZeros_digits h.2]

/-- Digits are read up to what cannot carry them on; an underscore could. -/
theorem takeDigits_of_append {ds rest : List Char} (hds : ds.all isDigit = true)
    (hrest : rest.head?.any isDigit = false) (hu : rest.head? ≠ some '_') :
    takeDigits (ds ++ rest) = (ds, rest) := by
  induction ds with
  | nil =>
    match rest with
    | [] => rfl
    | [c] =>
      have hc : isDigit c = false := hrest
      simp [takeDigits, hc]
    | c :: d :: r =>
      have hc : isDigit c = false := hrest
      simp [takeDigits, hc]
  | cons d ds ih =>
    simp only [List.all_cons, Bool.and_eq_true] at hds
    have hrec := ih hds.2
    cases hs : ds ++ rest with
    | nil =>
      obtain ⟨rfl, rfl⟩ := List.append_eq_nil_iff.1 hs
      simp [takeDigits, hds.1]
    | cons e t =>
      have he : e ≠ '_' := by
        rintro rfl
        cases ds with
        | nil => exact hu (by simpa using congrArg List.head? hs)
        | cons x ds =>
          obtain rfl : x = '_' := (List.cons.inj hs).1
          simp only [List.all_cons, Bool.and_eq_true] at hds
          exact absurd hds.2.1 (by decide)
      rw [hs] at hrec
      simp [hs, takeDigits, hds.1, he, hrec]

/-! ## What a literal stands for -/

/-- The exponent that digits behind a mark stand for. -/
def markedExponent (mark ds : List Char) : Int :=
  if '-' ∈ mark then -(digitsValue ds : Int) else digitsValue ds

theorem readExponent_of_mark {m ds : List Char} (hm : m ∈ exponentMarks) (hne : ds ≠ [])
    (hds : ds.all isDigit = true) : readExponent (m ++ ds) = some (markedExponent m ds) := by
  obtain ⟨d, r, rfl⟩ := List.exists_cons_of_ne_nil hne
  have htake : takeDigits (d :: r) = (d :: r, []) := by
    have h : takeDigits (d :: r ++ []) = (d :: r, []) := takeDigits_of_append hds rfl (by simp)
    simpa using h
  have hd : isDigit d = true := by
    simp only [List.all_cons, Bool.and_eq_true] at hds
    exact hds.1
  have hplus : d ≠ '+' := by
    rintro rfl
    exact absurd hd (by decide)
  have hminus : d ≠ '-' := by
    rintro rfl
    exact absurd hd (by decide)
  simp only [exponentMarks, List.mem_cons, List.not_mem_nil, or_false] at hm
  obtain rfl | rfl | rfl | rfl | rfl | rfl := hm <;>
    simp [readExponent, takeSign, htake, markedExponent, hplus, hminus]

namespace Figures

variable {f : Figures}

/-- The digits behind the point. -/
def places (f : Figures) : List Char := f.fraction.getD []

/-- The power of ten that the literal is marked with. -/
def order (f : Figures) : Int := (f.exponent.map fun e => markedExponent e.1 e.2).getD 0

/-- The decimal number that the literal stands for, with a sign. -/
def decimal (f : Figures) (negative : Bool) : Decimal :=
  ⟨negative, digitsValue (f.whole ++ f.places), f.order - f.places.length⟩

theorem Valid.readExponent_power (hv : f.Valid) : readExponent f.power = some f.order := by
  cases hx : f.exponent with
  | none => simp [power, order, hx, readExponent]
  | some e =>
    obtain ⟨hm, hne, hds⟩ := hv.exponent e hx
    simpa [power, order, hx] using readExponent_of_mark hm hne hds

/-- An exponent does not carry digits on. -/
theorem Valid.head_power (hv : f.Valid) :
    f.power.head?.any isDigit = false ∧ f.power.head? ≠ some '_' ∧ f.power.head? ≠ some '.' := by
  cases hx : f.exponent with
  | none => simp [power, hx]
  | some e =>
    have hhead := head_of_mark (hv.exponent e hx).1
    have hfirst : f.power.head? = some 'e' ∨ f.power.head? = some 'E' := by
      simp only [power, hx, Option.map_some, Option.getD_some, List.head?_append]
      exact hhead.imp (fun h => by rw [h]; rfl) fun h => by rw [h]; rfl
    obtain h | h := hfirst <;> rw [h] <;> decide

theorem Valid.readMagnitude_text (hv : f.Valid) (negative : Bool) :
    readMagnitude negative f.text = some (f.decimal negative) := by
  obtain ⟨hdigit, hu, hpoint⟩ := hv.head_power
  have hpower := hv.readExponent_power
  cases hf : f.fraction with
  | none =>
    have htext : f.text = f.whole ++ f.power := by simp [text, mantissa, hf]
    have hne : f.whole ≠ [] := by
      obtain h | ⟨_, hfs, _⟩ := hv.filled
      · exact h
      · rw [hf] at hfs
        cases hfs
    have hwhole := takeDigits_of_append hv.whole hdigit hu
    unfold readMagnitude
    rw [htext, hwhole]
    dsimp only
    split
    · next heq => exact absurd (by rw [heq]; rfl) hpoint
    · simp [hne, hpower, decimal, places, hf]
  | some fs =>
    have htext : f.text = f.whole ++ '.' :: (fs ++ f.power) := by simp [text, mantissa, hf]
    have hne : f.whole ≠ [] ∨ fs ≠ [] := by
      obtain h | ⟨_, hfs, h⟩ := hv.filled
      · exact .inl h
      · rw [hf] at hfs
        cases hfs
        exact .inr h
    have hwhole : takeDigits (f.whole ++ '.' :: (fs ++ f.power)) =
        (f.whole, '.' :: (fs ++ f.power)) := takeDigits_of_append hv.whole isDigit_point (by simp)
    have hfraction := takeDigits_of_append (hv.fraction fs hf) hdigit hu
    unfold readMagnitude
    rw [htext, hwhole]
    simp only [hfraction]
    rw [if_neg (by simpa using fun h => hne.resolve_left (not_not_intro h))]
    simp [hpower, decimal, places, hf]

/-- A literal stands for the same without its leading zeros. -/
theorem Valid.decimal_unzeroed (hv : f.Valid) (negative : Bool) :
    f.unzeroed.decimal negative = f.decimal negative := by
  have horder : f.unzeroed.order = f.order := by
    cases hx : f.exponent with
    | none => simp [order, Figures.unzeroed, hx]
    | some e =>
      obtain ⟨_, _, hds⟩ := hv.exponent e hx
      simp [order, Figures.unzeroed, hx, markedExponent, digitsValue_dropLeadingZeros hds]
  have hdigits : digitsValue (f.unzeroed.whole ++ f.places) =
      digitsValue (f.whole ++ f.places) := by
    have hwhole := digitsValue_dropLeadingZeros hv.whole
    simp only [digitsValue, digitsAfter_append] at hwhole ⊢
    rw [← hwhole]
    rfl
  rw [decimal, horder, show f.unzeroed.places = f.places from rfl, hdigits, decimal]

/-- No zero stands in front of another digit at the start of the literal or of its exponent. -/
def Unpadded (f : Figures) : Prop :=
  ∀ ds ∈ f.whole :: (f.exponent.map Prod.snd).toList, ∀ d r, ds ≠ '0' :: d :: r

theorem dropLeadingZeros_ne_zero_cons {ds : List Char} (hds : ds.all isDigit = true) (d : Char)
    (r : List Char) : dropLeadingZeros true ds ≠ '0' :: d :: r := by
  induction ds with
  | nil => simp [dropLeadingZeros]
  | cons c ds ih =>
    simp only [List.all_cons, Bool.and_eq_true] at hds
    rw [dropLeadingZeros]
    split
    · exact ih hds.2
    · next hstay =>
      rw [hds.1, Bool.true_or, Bool.not_true, dropLeadingZeros_digits hds.2]
      rintro ⟨⟩
      simp only [List.all_cons, Bool.and_eq_true] at hds
      simp [hds.2.1] at hstay

theorem Valid.unpadded_unzeroed (hv : f.Valid) : f.unzeroed.Unpadded := by
  intro ds hmem
  obtain rfl | hmem := List.mem_cons.1 hmem
  · exact dropLeadingZeros_ne_zero_cons hv.whole
  · cases hx : f.exponent with
    | none => simp [Figures.unzeroed, hx] at hmem
    | some e =>
      obtain ⟨_, _, hds⟩ := hv.exponent e hx
      obtain rfl : ds = dropLeadingZeros true e.2 := by simpa [Figures.unzeroed, hx] using hmem
      exact dropLeadingZeros_ne_zero_cons hds

end Figures

/-! ## The literals of a text -/

def Token.number? : Token → Option (List Char)
  | .number n => some n
  | _ => none

/-- The number literals of a text, in order. -/
def literals (s : List Char) : List (List Char) := (tokens s).filterMap Token.number?

theorem Token.number?_unworded (inWord : Bool) (rest : List Char) (t : Token) :
    (t.unworded inWord rest).number? = t.number? := by
  unfold Token.unworded
  split
  · next h =>
    rw [h.1]
    rfl
  · rfl

theorem Token.number?_read (inWord : Bool) (rest : List Char) (t : Token) :
    (t.read inWord rest).number? = t.number?.map (dropLeadingZeros true) := by
  rw [Token.read, Token.number?_unworded]
  cases t <;> rfl

theorem filterMap_respell (inWord : Bool) (ts : List Token) :
    (respell inWord ts).filterMap Token.number? =
      (ts.filterMap Token.number?).map (dropLeadingZeros true) := by
  induction ts generalizing inWord with
  | nil => rfl
  | cons t ts ih =>
    rw [respell, List.filterMap_cons, List.filterMap_cons, Token.number?_read, ih]
    cases t.number? <;> rfl

theorem literals_prepare_eq (s : List Char) :
    literals (prepare s) = (literals s).map (dropLeadingZeros true) := by
  rw [literals, tokens_prepare, filterMap_respell, literals]

theorem exists_figures_of_mem_literals {s n : List Char} (h : n ∈ literals s) :
    ∃ f : Figures, f.Valid ∧ f.text = n := by
  obtain ⟨t, ht, hn⟩ := List.mem_filterMap.1 h
  obtain ⟨before, after, hs⟩ := List.append_of_mem ht
  have hreads := reads_tokens s
  rw [hs] at hreads
  cases t with
  | number m =>
    obtain rfl : m = n := Option.some.inj hn
    obtain ⟨f, hv, htext, _⟩ := hreads.endsAt
    exact ⟨f, hv, htext⟩
  | name _ | other _ => cases hn

theorem Figures.endsAt_nil (f : Figures) : f.EndsAt [] := ⟨rfl, by simp, fun _ => rfl⟩

theorem Figures.Valid.text_unzeroed {f : Figures} (hv : f.Valid) :
    f.unzeroed.text = dropLeadingZeros true f.text := by
  have h := hv.dropLeadingZeros_text f.endsAt_nil
  simpa [dropLeadingZeros] using h.symm

/-- The spelling that the evaluator reads has as many number literals as the text. One by one they
stand for the same decimal numbers, and none of them has a leading zero, neither in front of the
point nor in its exponent. -/
theorem literals_prepare (s : List Char) :
    List.Forall₂
      (fun old new => ∃ d, readMagnitude false old = some d ∧ readMagnitude false new = some d)
      (literals s) (literals (prepare s)) ∧
    ∀ n ∈ literals (prepare s), ∃ f : Figures, f.Valid ∧ f.text = n ∧ f.Unpadded := by
  rw [literals_prepare_eq]
  constructor
  · rw [List.forall₂_map_right_iff, List.forall₂_same]
    intro n hn
    obtain ⟨f, hv, rfl⟩ := exists_figures_of_mem_literals hn
    refine ⟨f.decimal false, hv.readMagnitude_text false, ?_⟩
    rw [← hv.text_unzeroed, hv.unzeroed.readMagnitude_text, hv.decimal_unzeroed]
  · intro m hm
    obtain ⟨n, hn, rfl⟩ := List.mem_map.1 hm
    obtain ⟨f, hv, rfl⟩ := exists_figures_of_mem_literals hn
    exact ⟨f.unzeroed, hv.unzeroed, hv.text_unzeroed, hv.unpadded_unzeroed⟩

/-- A literal behind a chain of points, with a zero in its exponent that goes. -/
theorem literals_prepare_chain :
    ".03e-4".toList ∈ literals (prepare "1.2.03e-04".toList) ∧
    ∃ f : Figures, f.Valid ∧ f.text = ".03e-4".toList ∧ f.Unpadded := by
  have h : ".03e-4".toList ∈ literals (prepare "1.2.03e-04".toList) := by decide +kernel
  exact ⟨h, (literals_prepare _).2 _ h⟩

/-- Zeros behind a point stay, those of an exponent go, and those of a name are in no literal. -/
example : prepare "1.2.03e-04+log010".toList = "1.2.03e-4+log10".toList ∧
    literals "1.2.03e-04+log010".toList = ["1.2".toList, ".03e-04".toList] := by
  decide +kernel

end Reckon.Formula
