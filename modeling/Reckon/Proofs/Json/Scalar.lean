import Mathlib.Data.List.TakeDrop
import Mathlib.Data.List.TakeWhile
import Reckon.Json.Reader

/-
White space, strings, words and numbers of JSON text, each told by the text that the reader takes
off the front and by what may follow: nothing of it changes what a string or a word stands for
(`denotesString_of_readString`, `readWord_split`), and behind a number there has to be a mark that
is no part of numbers (`readUnsigned_split`).
-/
namespace Reckon.Json
open Number Text

/-! ## White space -/

def Blank (w : List Char) : Prop := ∀ c ∈ w, isSpace c = true

theorem blank_nil : Blank [] := by
  intro c hc
  cases hc

theorem skipSpace_append {w : List Char} (hw : Blank w) (s : List Char) :
    skipSpace (w ++ s) = skipSpace s := by
  simp only [skipSpace, List.dropWhile_append_of_pos hw]

theorem skipSpace_cons {c : Char} (hc : isSpace c = false) (s : List Char) :
    skipSpace (c :: s) = c :: s := by
  simp [skipSpace, hc]

theorem isSpace_head {s r : List Char} {c : Char} (h : skipSpace s = c :: r) :
    isSpace c = false := by
  have := List.head?_dropWhile_not isSpace s
  simp only [skipSpace] at h
  simpa [h] using this

theorem skipSpace_skipSpace (s : List Char) : skipSpace (skipSpace s) = skipSpace s := by
  cases h : skipSpace s with
  | nil => rfl
  | cons c r => exact skipSpace_cons (isSpace_head h) r

/-- A text is white space and then what is left without it. -/
theorem exists_blank (s : List Char) : ∃ w, Blank w ∧ s = w ++ skipSpace s :=
  ⟨s.takeWhile isSpace, fun _ hc => List.mem_takeWhile_imp hc, List.takeWhile_append_dropWhile.symm⟩

theorem blank_of_skipSpace {s : List Char} (h : skipSpace s = []) : Blank s :=
  List.dropWhile_eq_nil_iff.1 h

/-! ## Strings -/

/-- The text `u` inside a string stands for the units `us`, whatever comes behind it. -/
def DenotesUnits (u : List Char) (us : List Nat) : Prop :=
  ∀ s, readUnits (u ++ s) = (readUnits s).map fun p => (us ++ p.1, p.2)

namespace DenotesUnits

theorem nil : DenotesUnits [] [] := by
  intro s
  simp

theorem append {u u' : List Char} {us us' : List Nat} (h : DenotesUnits u us)
    (h' : DenotesUnits u' us') : DenotesUnits (u ++ u') (us ++ us') := by
  intro s
  rw [List.append_assoc, h, h', Option.map_map]
  simp [Function.comp_def]

theorem hex {a b c d : Char} {n : Nat} (h : hexFour? a b c d = some n) :
    DenotesUnits ['\\', 'u', a, b, c, d] [n] := by
  intro s
  simp only [List.cons_append, List.nil_append, readUnits, h]
  cases readUnits s <;> rfl

theorem escape {c e : Char} (h : escaped? c = some e) : DenotesUnits ['\\', c] [e.toNat] := by
  intro s
  have hu : c ≠ 'u' := by
    rintro rfl
    simp [escaped?] at h
  rw [List.cons_append, List.cons_append, List.nil_append, readUnits]
  · rw [h]
    cases readUnits s <;> rfl
  · rintro _ _ _ _ _ rfl
    exact absurd rfl hu

theorem plain {c : Char} (hq : c ≠ '"') (hb : c ≠ '\\') (hc : ¬ c.toNat < 32) :
    DenotesUnits [c] [c.toNat] := by
  intro s
  rw [List.singleton_append, readUnits]
  · rw [if_neg hc]
    cases readUnits s <;> rfl
  · exact fun h => hq h
  · exact fun _ _ _ _ _ h => absurd h hb
  · exact fun _ _ h => absurd h hb

end DenotesUnits

theorem denotesUnits_of_readUnits {s r : List Char} {us : List Nat}
    (h : readUnits s = some (us, r)) : ∃ u, s = u ++ '"' :: r ∧ DenotesUnits u us := by
  fun_induction readUnits s generalizing us r with
  | case1 => cases h
  | case2 =>
    cases h
    exact ⟨[], rfl, .nil⟩
  | case3 a b c d s ih =>
    cases hn : hexFour? a b c d with
    | none => simp [hn] at h
    | some n =>
      cases hs : readUnits s with
      | none => simp [hn, hs] at h
      | some p =>
        simp only [hn, hs] at h
        cases h
        obtain ⟨u, hu, hd⟩ := ih hs
        exact ⟨['\\', 'u', a, b, c, d] ++ u, by simp [hu], (DenotesUnits.hex hn).append hd⟩
  | case4 c s _ ih =>
    cases he : escaped? c with
    | none => simp [he] at h
    | some e =>
      cases hs : readUnits s with
      | none => simp [he, hs] at h
      | some p =>
        simp only [he, hs] at h
        cases h
        obtain ⟨u, hu, hd⟩ := ih hs
        exact ⟨['\\', c] ++ u, by simp [hu], (DenotesUnits.escape he).append hd⟩
  | case5 => cases h
  | case6 c s hq _ hb hc ih =>
    cases hs : readUnits s with
    | none => simp [hs] at h
    | some p =>
      simp only [hs] at h
      cases h
      obtain ⟨u, hu, hd⟩ := ih hs
      -- a backslash at the end of the text has nothing behind it to escape
      have hb : c ≠ '\\' := by
        rintro rfl
        cases s with
        | nil => simp [readUnits] at hs
        | cons d s => exact hb d s rfl rfl
      exact ⟨[c] ++ u, by simp [hu], (DenotesUnits.plain hq hb hc).append hd⟩

/-- The text `u` behind an opening quote is the rest of the string `x`. -/
def DenotesString (u : List Char) (x : String) : Prop := ∀ t, readString (u ++ t) = some (x, t)

theorem DenotesUnits.string {u : List Char} {us : List Nat} (h : DenotesUnits u us) :
    DenotesString (u ++ ['"']) (String.ofList (joinHalves us)) := by
  intro t
  simp only [readString, List.append_assoc, List.singleton_append, h ('"' :: t)]
  simp [readUnits]

theorem denotesString_of_readString {s r : List Char} {x : String}
    (h : readString s = some (x, r)) : ∃ u, s = u ++ r ∧ DenotesString u x := by
  simp only [readString, Option.map_eq_some_iff] at h
  obtain ⟨⟨us, r'⟩, hs, hx⟩ := h
  cases hx
  obtain ⟨u, rfl, hd⟩ := denotesUnits_of_readUnits hs
  exact ⟨u ++ ['"'], by simp, hd.string⟩

/-! ## Words -/

theorem dropWord_eq_some {word : String} {s r : List Char} (h : dropWord word s = some r) :
    s = word.toList ++ r := by
  unfold dropWord at h
  split at h
  · next hp =>
    cases h
    obtain ⟨t, rfl⟩ := List.isPrefixOf_iff_prefix.1 hp
    simp
  · cases h

theorem readWord_split {s r : List Char} {v : Json} (h : readWord s = some (v, r)) :
    ∃ u, s = u ++ r ∧ u ≠ [] ∧ ∀ t, readWord (u ++ t) = some (v, t) := by
  unfold readWord at h
  split at h
  case h_7 => cases h
  -- the six words are read alike
  all_goals
    have hr := ‹dropWord _ s = some _›
    cases h
    exact ⟨_, dropWord_eq_some hr, by simp, fun t => by simp [readWord, dropWord]⟩

theorem readWord_of_digit {c : Char} (hc : isAsciiDigit c = true) (s : List Char) :
    readWord (c :: s) = none ∧ readWord ('-' :: c :: s) = none := by
  have hne : ∀ d : Char, isAsciiDigit d = false → c ≠ d := by
    rintro d hd rfl
    simp [hc] at hd
  have hn := hne 'n' (by decide)
  have ht := hne 't' (by decide)
  have hf := hne 'f' (by decide)
  have hN := hne 'N' (by decide)
  have hI := hne 'I' (by decide)
  have hm := hne '-' (by decide)
  simp [readWord, dropWord, hn.symm, ht.symm, hf.symm, hN.symm, hI.symm, hm.symm]

/-! ## Numbers -/

/-- What ends a number: white space, or the mark behind an item or a member. -/
def marks : List Char := [' ', '\t', '\n', '\r', ',', ']', '}']

/-- Something follows that ends a number. -/
def Ended (t : List Char) : Prop := ∃ c r, t = c :: r ∧ c ∈ marks

/-- The first character, if there is one, is not of the kind `p`. -/
def Stops (p : Char → Bool) (t : List Char) : Prop := ∀ c r, t = c :: r → p c = false

theorem Ended.stops {t : List Char} (h : Ended t) {p : Char → Bool}
    (hp : marks.all (fun c => !p c) = true) : Stops p t := by
  obtain ⟨c, r, rfl, hc⟩ := h
  intro d r' hd
  cases hd
  simpa using List.all_eq_true.1 hp c hc

/-- White space with such a mark behind it ends a number. -/
theorem ended_append {w : List Char} (hw : Blank w) {c : Char} (hc : c ∈ marks) (t : List Char) :
    Ended (w ++ c :: t) := by
  cases w with
  | nil => exact ⟨c, t, rfl, hc⟩
  | cons d w =>
    have hd : isSpace d = true := hw d (by simp)
    refine ⟨d, w ++ c :: t, rfl, ?_⟩
    simp only [isSpace, Bool.or_eq_true, beq_iff_eq] at hd
    obtain ((rfl | rfl) | rfl) | rfl := hd <;> decide

theorem spanDigits_eq (s : List Char) :
    spanDigits s = (s.takeWhile isAsciiDigit, s.dropWhile isAsciiDigit) :=
  List.span_eq_takeWhile_dropWhile isAsciiDigit s

theorem spanDigits_append {ds t : List Char} (hds : ∀ c ∈ ds, isAsciiDigit c = true)
    (ht : Stops isAsciiDigit t) : spanDigits (ds ++ t) = (ds, t) := by
  have hd : t.dropWhile isAsciiDigit = t ∧ t.takeWhile isAsciiDigit = [] := by
    cases t with
    | nil => exact ⟨rfl, rfl⟩
    | cons c r => simp [ht c r rfl]
  rw [spanDigits_eq, List.takeWhile_append_of_pos hds, List.dropWhile_append_of_pos hds, hd.1, hd.2,
    List.append_nil]

theorem spanDigits_split {s ds r : List Char} (h : spanDigits s = (ds, r)) :
    s = ds ++ r ∧ ∀ c ∈ ds, isAsciiDigit c = true := by
  rw [spanDigits_eq] at h
  cases h
  exact ⟨List.takeWhile_append_dropWhile.symm, fun _ hc => List.mem_takeWhile_imp hc⟩

/-- What may stand behind the digits in front of the point. -/
theorem spanFraction_split {s ds r : List Char} (h : spanFraction s = (ds, r)) :
    ∃ u, s = u ++ r ∧ (u = [] ∨ ∃ w, u = '.' :: w) ∧
      ∀ t, Stops (fun c => isAsciiDigit c || c == '.') t → spanFraction (u ++ t) = (ds, t) := by
  have hnone : ∀ t, Stops (fun c => isAsciiDigit c || c == '.') t → spanFraction t = ([], t) := by
    intro t ht
    unfold spanFraction
    split
    · next w => simpa using ht '.' w rfl
    · rfl
  unfold spanFraction at h
  split at h
  · next w =>
    cases hw : spanDigits w with
    | mk ds' r' =>
      obtain ⟨rfl, hds⟩ := spanDigits_split hw
      rw [hw] at h
      cases ds' with
      | nil =>
        cases h
        exact ⟨[], rfl, .inl rfl, hnone⟩
      | cons d ds' =>
        cases h
        refine ⟨'.' :: d :: ds', rfl, .inr ⟨_, rfl⟩, fun t ht => ?_⟩
        have hstop : Stops isAsciiDigit t := fun c q hq => by
          have := ht c q hq
          simp_all
        simp only [List.cons_append, spanFraction]
        rw [← List.cons_append, spanDigits_append hds hstop]
  · cases h
    exact ⟨[], rfl, .inl rfl, hnone⟩

theorem takeSign_split (s : List Char) :
    ∃ u, s = u ++ (takeSign s).2 ∧
      ∀ c t, isAsciiDigit c = true → takeSign (u ++ c :: t) = ((takeSign s).1, c :: t) := by
  unfold takeSign
  split
  · exact ⟨['-'], rfl, fun _ _ _ => rfl⟩
  · exact ⟨['+'], rfl, fun _ _ _ => rfl⟩
  · refine ⟨[], rfl, fun c t hc => ?_⟩
    rw [List.nil_append]
    split
    · next h => cases h; exact absurd hc (by decide)
    · next h => cases h; exact absurd hc (by decide)
    · rfl

theorem spanExponent_of_ended {t : List Char} (ht : Ended t) : spanExponent t = (none, t) := by
  obtain ⟨c, r, rfl, hc⟩ := ht
  have hmarks : marks.all (fun c => !(decide (c = 'e') || decide (c = 'E'))) = true := by decide
  have hd := List.all_eq_true.1 hmarks c hc
  rw [Bool.not_eq_true'] at hd
  simp [spanExponent, hd]

/-- What may stand at the end of a number. -/
theorem spanExponent_split {s r : List Char} {e : Option Int} (h : spanExponent s = (e, r))
    (hr : Ended r) :
    ∃ u, s = u ++ r ∧ (u = [] ∨ ∃ c w, u = c :: w ∧ (c = 'e' ∨ c = 'E')) ∧
      ∀ t, Ended t → spanExponent (u ++ t) = (e, t) := by
  have hnone {e : Option Int} (h : (none, s) = (e, r)) :
      ∃ u, s = u ++ r ∧ (u = [] ∨ ∃ c w, u = c :: w ∧ (c = 'e' ∨ c = 'E')) ∧
        ∀ t, Ended t → spanExponent (u ++ t) = (e, t) := by
    cases h
    exact ⟨[], rfl, .inl rfl, fun t ht => spanExponent_of_ended ht⟩
  cases s with
  | nil => exact hnone h
  | cons c q =>
    by_cases hc : c = 'e' ∨ c = 'E'
    · have hd : (decide (c = 'e') || decide (c = 'E')) = true := by simpa using hc
      obtain ⟨u, hu, hsign⟩ := takeSign_split q
      cases hq : spanDigits (takeSign q).2 with
      | mk ds q' =>
        obtain ⟨hs, hds⟩ := spanDigits_split hq
        cases ds with
        | nil =>
          simp only [spanExponent, hd, if_true, hq] at h
          exact hnone h
        | cons d ds =>
          simp only [spanExponent, hd, if_true, hq] at h
          cases h
          refine ⟨c :: (u ++ d :: ds), ?_, .inr ⟨c, _, rfl, hc⟩, fun t ht => ?_⟩
          · rw [hu, hs]
            simp
          · have hstop : Stops isAsciiDigit t := ht.stops (by decide)
            simp only [List.cons_append, List.append_assoc, spanExponent, hd, if_true]
            rw [hsign d _ (hds d (by simp)), ← List.cons_append, spanDigits_append hds hstop]
    · have hd : (decide (c = 'e') || decide (c = 'E')) = false := by simpa using hc
      simp only [spanExponent, hd, Bool.false_eq_true, if_false] at h
      exact hnone h

/-- A number of which the digits in front of the point are read already. -/
def readFrom (negative : Bool) (whole : List Char) (s : List Char) : Option (Json × List Char) :=
  let (fraction, r) := spanFraction s
  let (exponent, r) := spanExponent r
  if fraction.isEmpty && exponent.isNone then
    if greatestDigitCount < whole.length then none
    else
      let n : Int := digitsValue whole
      some (.int (if negative then -n else n), r)
  else
    let d : Decimal :=
      ⟨negative, digitsValue (whole ++ fraction), exponent.getD 0 - fraction.length⟩
    some (.number d.toDouble, r)

theorem readUnsigned_nil {negative : Bool} {s r : List Char} (h : spanDigits s = ([], r)) :
    readUnsigned negative s = none := by
  simp only [readUnsigned, h]
  rfl

theorem readUnsigned_zero {negative : Bool} {s ds r : List Char} {d : Char}
    (h : spanDigits s = ('0' :: d :: ds, r)) :
    readUnsigned negative s = readFrom negative ['0'] (d :: ds ++ r) := by
  simp only [readUnsigned, h]
  rfl

theorem readUnsigned_digits {negative : Bool} {s ds r : List Char} {d : Char}
    (h : spanDigits s = (d :: ds, r)) (hz : d = '0' → ds = []) :
    readUnsigned negative s = readFrom negative (d :: ds) r := by
  simp only [readUnsigned, h]
  split
  · next hd =>
    cases hd
    simp at hz
  · rfl

theorem readFrom_split {negative : Bool} {whole s r : List Char} {v : Json}
    (h : readFrom negative whole s = some (v, r)) (hr : Ended r) :
    ∃ u, s = u ++ r ∧
      ∀ t, Ended t →
        Stops isAsciiDigit (u ++ t) ∧ readFrom negative whole (u ++ t) = some (v, t) := by
  cases hf : spanFraction s with
  | mk fraction s' =>
    cases he : spanExponent s' with
    | mk exponent s'' =>
      obtain ⟨f, rfl, hpoint, hfraction⟩ := spanFraction_split hf
      have hs'' : s'' = r := by
        simp only [readFrom, hf, he] at h
        split at h
        · split at h <;> cases h
          rfl
        · cases h
          rfl
      subst hs''
      obtain ⟨x, rfl, hletter, hexponent⟩ := spanExponent_split he hr
      refine ⟨f ++ x, by simp, fun t ht => ?_⟩
      have hx : Stops (fun c => isAsciiDigit c || c == '.') (x ++ t) := by
        obtain rfl | ⟨c, w, rfl, rfl | rfl⟩ := hletter
        · exact ht.stops (by decide)
        all_goals
          intro c r hc
          cases hc
          decide
      constructor
      · obtain rfl | ⟨w, rfl⟩ := hpoint
        · intro c r hc
          have := hx c r (by simpa using hc)
          simp_all
        · intro c r hc
          cases hc
          decide
      · simp only [readFrom, hf, he] at h
        simp only [readFrom, List.append_assoc, hfraction _ hx, hexponent t ht]
        split at h
        · next hi =>
          rw [if_pos hi]
          split at h
          · cases h
          · next hl =>
            cases h
            rw [if_neg hl]
        · next hi =>
          cases h
          rw [if_neg hi]

theorem readUnsigned_split {negative : Bool} {s r : List Char} {v : Json}
    (h : readUnsigned negative s = some (v, r)) (hr : Ended r) :
    ∃ c u, s = c :: u ++ r ∧ isAsciiDigit c = true ∧
      ∀ t, Ended t → readUnsigned negative (c :: u ++ t) = some (v, t) := by
  cases hw : spanDigits s with
  | mk whole s' =>
    obtain ⟨rfl, hdigits⟩ := spanDigits_split hw
    cases whole with
    | nil =>
      rw [readUnsigned_nil hw] at h
      cases h
    | cons d ds =>
      by_cases hz : d = '0' → ds = []
      · rw [readUnsigned_digits hw hz] at h
        obtain ⟨u, rfl, hu⟩ := readFrom_split h hr
        refine ⟨d, ds ++ u, by simp, hdigits d (by simp), fun t ht => ?_⟩
        obtain ⟨hstop, hread⟩ := hu t ht
        have hspan : spanDigits (d :: (ds ++ u) ++ t) = (d :: ds, u ++ t) := by
          simpa using spanDigits_append hdigits hstop
        rw [readUnsigned_digits hspan hz, hread]
      · -- behind a zero that stands alone a digit follows, which ends no number
        obtain ⟨rfl, hne⟩ : d = '0' ∧ ds ≠ [] := by simpa using hz
        cases ds with
        | nil => exact absurd rfl hne
        | cons c ds =>
          rw [readUnsigned_zero hw] at h
          obtain ⟨u, hu, hread⟩ := readFrom_split h hr
          have hc := (hread r hr).1 c _ hu.symm
          rw [hdigits c (by simp)] at hc
          cases hc

end Reckon.Json
