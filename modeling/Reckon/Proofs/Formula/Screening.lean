import Mathlib.Data.List.Basic
import Reckon.Formula.Screen
import Reckon.Proofs.Formula.Words

/-
What the screen lets through, told by words. Names are looked at word by word, but points are
looked for in what is left when literals are taken out wherever one is found, and inside a name
with a digit in it one is found where the words have none. Up to the first such name the two
readings go side by side (`dropNumbers_append`), so a point outside all literals comes after one;
and right before it there must be a literal for the other reading, hence a digit (`Leaves.getLast`).

So a point may stand behind a name such as `log10` (`strayPoint_screened`). No other point
outside a literal is let through, save one behind a literal with an exponent that the other
reading began in the middle (`screened_words`).
-/
namespace Reckon.Formula
open Text

/-! ## The point of a literal -/

namespace Figures

variable {f : Figures}

theorem Valid.point_notMem_power (hv : f.Valid) : '.' ∉ f.power := by
  intro h
  obtain h | h := hv.mem_power h
  · exact absurd h (by rw [isDigit_point]; decide)
  · exact absurd h (by decide)

/-- What stands in front of the point of a literal and behind it. -/
theorem Valid.text_eq_point (hv : f.Valid) {u v : List Char} (h : f.text = u ++ '.' :: v) :
    u = f.whole ∧ ∃ fs, f.fraction = some fs ∧ v = fs ++ f.power := by
  have hpower := hv.point_notMem_power
  have hwhole : '.' ∉ f.whole := fun hm =>
    absurd (List.all_eq_true.1 hv.whole _ hm) (by rw [isDigit_point]; decide)
  cases hf : f.fraction with
  | none =>
    have hm : '.' ∈ f.text := h ▸ by simp
    simp only [text, mantissa, hf, Option.map_none, Option.getD_none, List.append_nil,
      List.mem_append] at hm
    exact absurd hm (by simp [hwhole, hpower])
  | some fs =>
    have hfs : '.' ∉ fs := fun hm =>
      absurd (List.all_eq_true.1 (hv.fraction fs hf) _ hm) (by rw [isDigit_point]; decide)
    have hrest : '.' ∉ fs ++ f.power := by simp [hfs, hpower]
    have heq : u ++ '.' :: v = f.whole ++ '.' :: (fs ++ f.power) := by
      rw [← h]
      simp [text, mantissa, hf]
    obtain ⟨hu, _, hv⟩ := (List.append_cons_inj_of_notMem hwhole hrest).1 heq.symm
    exact ⟨hu.symm, fs, rfl, hv.symm⟩

end Figures

/-! ## What is left without literals -/

/-- A text is read for literals only: what is not part of one is left. -/
inductive Leaves : List Char → List Char → Prop
  | nil : Leaves [] []
  | literal {f : Figures} {rest left : List Char} :
      f.Valid → f.EndsAt rest → Leaves rest left → Leaves (f.text ++ rest) left
  | char {c : Char} {rest left : List Char} :
      isDigit c = false → (c = '.' → rest.head?.any isDigit = false) → Leaves rest left →
      Leaves (c :: rest) (c :: left)

theorem leaves_dropNumbers (s : List Char) : Leaves s (dropNumbers s) := by
  fun_induction dropNumbers s with
  | case1 => exact .nil
  | case2 c r _ hs ih =>
    obtain ⟨hdigit, hpoint⟩ := (spanNumber_cons_eq_nil_iff c r).1 (by rw [hs])
    exact .char hdigit hpoint ih
  | case3 c r d n rest hs ih =>
    obtain hnil | ⟨f, hv, htext, hends⟩ := Figures.of_spanNumber (c :: r)
    · rw [hs] at hnil
      cases hnil
    · rw [← spanNumber_append (c :: r), ← htext]
      rw [hs] at hends ⊢
      exact .literal hv hends ih

theorem Leaves.dropNumbers_eq {s left : List Char} (h : Leaves s left) :
    dropNumbers s = left := by
  induction h with
  | nil => rw [dropNumbers]
  | @literal f rest left hv hends _ ih =>
    obtain ⟨c, r, htext⟩ := List.exists_cons_of_ne_nil hv.text_ne_nil
    have hspan := Figures.spanNumber_text hv hends
    rw [htext, List.cons_append] at hspan ⊢
    rw [dropNumbers]
    split
    · next hs =>
      rw [hs] at hspan
      cases hspan
    · next hs =>
      rw [hs] at hspan
      cases hspan
      exact ih
  | @char c rest left hdigit hpoint _ ih =>
    have hnil := (spanNumber_cons_eq_nil_iff c rest).2 ⟨hdigit, hpoint⟩
    rw [dropNumbers]
    split
    · rw [ih]
    · next hs =>
      rw [hs] at hnil
      cases hnil

/-- A point that no digit follows is taken out only with a digit in front of it. -/
theorem Leaves.getLast {s left u v : List Char} (h : Leaves s left) (hleft : '.' ∉ left)
    (hs : s = u ++ '.' :: v) (hv : v.head?.any isDigit = false) :
    u.getLast?.any isDigit = true := by
  induction h generalizing u with
  | nil => simp at hs
  | @literal f rest left hf hends _ ih =>
    obtain ⟨a, rfl, hrest⟩ | ⟨a, htext, hrest⟩ := List.append_eq_append_iff.1 hs
    · exact getLast_append_any _ (ih hleft hrest)
    · cases a with
      | nil => exact absurd (ih (u := []) hleft hrest.symm) (by simp)
      | cons x a =>
        -- the point is that of the literal, and there are no digits behind it
        obtain ⟨rfl, rfl⟩ := List.cons.inj hrest
        obtain ⟨rfl, fs, hfs, rfl⟩ := hf.text_eq_point htext
        have hnil : fs = [] := by
          cases fs with
          | nil => rfl
          | cons d ds =>
            have hd := hf.fraction _ hfs
            simp only [List.all_cons, Bool.and_eq_true] at hd
            exact absurd hd.1 (by simpa using hv)
        have hne : f.whole ≠ [] := by
          obtain h | ⟨gs, hgs, h⟩ := hf.filled
          · exact h
          · rw [hfs] at hgs
            cases hgs
            exact absurd hnil h
        exact getLast_any_of_all hne hf.whole
  | @char c rest left hdigit hpoint _ ih =>
    cases u with
    | nil =>
      obtain rfl : c = '.' := (List.cons.inj hs).1
      simp at hleft
    | cons d u =>
      obtain ⟨rfl, hrest⟩ := List.cons.inj hs
      exact getLast_append_any [c] (ih (fun h => hleft (List.mem_cons_of_mem _ h)) hrest)

/-- Of two points with nothing but digits between them, the second one is left if no digit
follows. -/
theorem Leaves.second_point {s left u ds v : List Char} (h : Leaves s left)
    (hs : s = u ++ '.' :: (ds ++ '.' :: v)) (hds : ds.all isDigit = true)
    (hv : v.head?.any isDigit = false) : '.' ∈ left := by
  induction h generalizing u with
  | nil => simp at hs
  | @literal f rest left hf hends hrestLeaves ih =>
    obtain ⟨a, rfl, hrest⟩ | ⟨a, htext, hrest⟩ := List.append_eq_append_iff.1 hs
    · exact ih hrest
    · cases a with
      | nil => exact ih (u := []) hrest.symm
      | cons x a =>
        -- the first point is that of the literal, which ends in front of the second
        rw [List.cons_append, List.cons.injEq] at hrest
        obtain ⟨rfl, hrest⟩ := hrest
        obtain ⟨rfl, fs, hfs, rfl⟩ := hf.text_eq_point htext
        rw [List.append_assoc] at hrest
        have hspan := spanDigits_of_append hds (r := '.' :: v) isDigit_point
        have hspan' := spanDigits_of_append (hf.fraction fs hfs) (hf.head_power_append hends)
        rw [hrest, hspan', Prod.mk.injEq] at hspan
        have hpower := hf.point_notMem_power
        cases hp : f.power with
        | cons y p =>
          rw [hp, List.cons_append, List.cons.injEq] at hspan
          exact absurd (hp ▸ hspan.2.1 ▸ List.mem_cons_self) hpower
        | nil =>
          rw [hp, List.nil_append] at hspan
          obtain rfl := hspan.2
          have hleft := Leaves.char isDigit_point (fun _ => hv) (leaves_dropNumbers v)
          rw [← hrestLeaves.dropNumbers_eq, hleft.dropNumbers_eq]
          exact List.mem_cons_self
  | @char c rest left hdigit hpoint _ ih =>
    cases u with
    | nil =>
      obtain ⟨rfl, rfl⟩ := List.cons.inj hs
      exact List.mem_cons_self
    | cons d u => exact List.mem_cons_of_mem _ (ih (List.cons.inj hs).2)

/-! ## The two readings side by side -/

/-- What is left of a word where it is read for literals as it is read for words. -/
def Token.left : Token → List Char
  | .number _ => []
  | t => t.text

theorem dropNumbers_run {run rest : List Char}
    (h : ∀ c ∈ run, isDigit c = false ∧ c ≠ '.') :
    dropNumbers (run ++ rest) = run ++ dropNumbers rest := by
  induction run with
  | nil => rfl
  | cons c run ih =>
    obtain ⟨hdigit, hpoint⟩ := h c List.mem_cons_self
    have hrun := ih fun d hd => h d (List.mem_cons_of_mem _ hd)
    have hleaves :=
      Leaves.char hdigit (fun hc => absurd hc hpoint) (leaves_dropNumbers (run ++ rest))
    rw [List.cons_append, hleaves.dropNumbers_eq, hrun, List.cons_append]

/-- As long as no name has a digit, the text is read for literals as it is read for words. -/
theorem dropNumbers_append {s : List Char} {before ts : List Token} (h : Reads s (before ++ ts))
    (hnames : ∀ n, .name n ∈ before → n.any isDigit = false) :
    dropNumbers s = before.flatMap Token.left ++ dropNumbers (ts.flatMap Token.text) := by
  induction before generalizing s with
  | nil => rw [List.nil_append] at h; rw [h.text]; rfl
  | cons t before ih =>
    cases h with
    | @cons _ _ rest hends hrest =>
      have hrec := ih hrest fun n hn => hnames n (List.mem_cons_of_mem _ hn)
      rw [List.flatMap_cons, List.append_assoc, ← hrec]
      cases t with
      | number n =>
        obtain ⟨f, hv, rfl, hf⟩ := hends
        exact (Leaves.literal hv hf (leaves_dropNumbers rest)).dropNumbers_eq
      | name n =>
        obtain ⟨⟨c, run, rfl, hstart, hrun⟩, _⟩ := hends
        have hno := hnames _ List.mem_cons_self
        refine dropNumbers_run fun d hd => ⟨?_, ?_⟩
        · simpa using List.any_eq_false.1 hno d hd
        · rintro rfl
          obtain rfl | hd := List.mem_cons.1 hd
          · exact absurd hstart (by decide)
          · exact absurd (List.all_eq_true.1 hrun _ hd) (by decide)
      | other c =>
        obtain ⟨_, hdigit, hpoint⟩ := hends
        exact (Leaves.char hdigit hpoint (leaves_dropNumbers rest)).dropNumbers_eq

/-- A word behind which a point may stand that is in no literal: a name that ends in a digit, or
a literal with an exponent. -/
def Token.hidesPoint : Token → Bool
  | .name n => n.getLast?.any isDigit
  | .number n => n.any fun c => c == 'e' || c == 'E'
  | .other _ => false

/-- A literal that a point follows has an exponent, or has a point of its own. -/
theorem Figures.EndsAt.point_behind {f : Figures} {rest : List Char} (hv : f.Valid)
    (h : f.EndsAt ('.' :: rest)) :
    (Token.number f.text).hidesPoint = true ∨
    ∃ fs, f.fraction = some fs ∧ f.text = f.whole ++ '.' :: fs := by
  cases hexp : f.exponent with
  | some e =>
    left
    obtain ⟨hm, _, _⟩ := hv.exponent e hexp
    have hmark : e.1.any (fun c => c == 'e' || c == 'E') = true := by
      revert hm
      generalize e.1 = m
      revert m
      decide
    simp [Token.hidesPoint, text, power, hexp, hmark]
  | none =>
    cases hfs : f.fraction with
    | none => exact absurd rfl (h.point hfs hexp)
    | some fs => exact .inr ⟨fs, rfl, by simp [text, mantissa, power, hfs, hexp]⟩

/-- A point that is in no literal, and yet is not left, stands right behind a word that hides it,
and a name with a digit in it stands somewhere in front. -/
theorem point_behind {s : List Char} {before after : List Token}
    (h : Reads s (before ++ .other '.' :: after)) (hleft : '.' ∉ dropNumbers s) :
    (∃ n, .name n ∈ before ∧ n.any isDigit = true) ∧
    ∃ earlier t, before = earlier ++ [t] ∧ t.hidesPoint = true := by
  obtain ⟨_, _, hv⟩ := h.endsAt
  have hdigit := hv rfl
  have htext := h.text
  rw [List.flatMap_append, List.flatMap_cons] at htext
  constructor
  · -- as long as no name has a digit, the point is seen by both readings
    by_contra hno
    have hnames : ∀ n, .name n ∈ before → n.any isDigit = false := by
      intro n hn
      by_contra hd
      exact hno ⟨n, hn, by simpa using hd⟩
    have hpoint := Leaves.char isDigit_point hv (leaves_dropNumbers (after.flatMap Token.text))
    rw [dropNumbers_append h hnames, List.flatMap_cons] at hleft
    exact hleft (List.mem_append_right _ (hpoint.dropNumbers_eq ▸ List.mem_cons_self))
  · -- it was taken out with the digit in front of it, which ends the word before
    have hlast := (leaves_dropNumbers s).getLast hleft htext hdigit
    obtain rfl | ⟨earlier, t, rfl⟩ := before.eq_nil_or_concat'
    · cases hlast
    · refine ⟨earlier, t, rfl, ?_⟩
      rw [List.append_assoc, List.singleton_append] at h
      have hends := h.endsAt
      rw [List.flatMap_append, List.flatMap_singleton, List.getLast?_append] at hlast
      cases t with
      | name n =>
        obtain ⟨⟨c, r, rfl, _⟩, _⟩ := hends
        have hne : (c :: r).getLast?.or (earlier.flatMap Token.text).getLast? =
            (c :: r).getLast? := by simp [List.getLast?_cons]
        rwa [Token.text, hne] at hlast
      | other c =>
        obtain ⟨_, hc, _⟩ := hends
        simp [Token.text, hc] at hlast
      | number n =>
        obtain ⟨f, hf, rfl, hfends⟩ := hends
        obtain hhides | ⟨fs, hfs, heq⟩ := hfends.point_behind hf
        · exact hhides
        · -- the literal would end in front of a second point, which would be left
          refine absurd ((leaves_dropNumbers s).second_point
            (u := earlier.flatMap Token.text ++ f.whole) ?_ (hf.fraction fs hfs) hdigit) hleft
          simp [htext, Token.text, heq]

/-- What the screen lets through: its three tests. -/
theorem screen_eq_ok_iff {unknowns : List String} {s : List Char} :
    screen unknowns s = .ok () ↔
      s.all isFormulaChar = true ∧ '.' ∉ dropNumbers s ∧
        ∀ n ∈ names s, isKnown unknowns n = true := by
  unfold screen
  by_cases hchars : s.all isFormulaChar = true
  · by_cases hpoint : '.' ∈ dropNumbers s
    · rw [if_neg (by simp [hchars]), if_pos (List.contains_iff_mem.2 hpoint)]
      exact iff_of_false nofun fun h => h.2.1 hpoint
    · rw [if_neg (by simp [hchars]), if_neg (by simpa using hpoint)]
      cases hfind : (names s).find? fun n => !isKnown unknowns n with
      | none => exact iff_of_true rfl ⟨hchars, hpoint, by simpa using hfind⟩
      | some n =>
        refine iff_of_false nofun fun h => ?_
        have hknown := h.2.2 n (List.mem_of_find?_eq_some hfind)
        simpa [hknown] using List.find?_some hfind
  · rw [if_pos (by simpa using hchars)]
    exact iff_of_false nofun fun h => hchars h.1

/-- What the screen lets through, word by word: the names are known, and what is no literal and
no name is a sign, a blank or a point. A point that is in no literal stands right behind a name
that ends in a digit, or behind a literal with an exponent, and not in front of all names with a
digit in them. -/
theorem screened_words {unknowns : List String} {s : List Char}
    (h : screen unknowns s = .ok ()) :
    (∀ n, .name n ∈ tokens s → isKnown unknowns (String.ofList n) = true) ∧
    (∀ c, .other c ∈ tokens s → isSign c = true ∨ isBlank c = true ∨ c = '.') ∧
    ∀ before after, tokens s = before ++ .other '.' :: after →
      (∃ n, .name n ∈ before ∧ n.any isDigit = true) ∧
      ∃ earlier t, before = earlier ++ [t] ∧ t.hidesPoint = true := by
  obtain ⟨hchars, hleft, hknown⟩ := screen_eq_ok_iff.1 h
  have hreads := reads_tokens s
  refine ⟨fun n hn => hknown _ (mem_names.2 ⟨n, hn, rfl⟩), fun c hc => ?_,
    fun before after heq => ?_⟩
  · obtain ⟨before, after, heq⟩ := List.append_of_mem hc
    rw [heq] at hreads
    obtain ⟨hstart, hdigit, _⟩ := hreads.endsAt
    have hmem : c ∈ s := by simp [hreads.text, Token.text]
    have hchar := List.all_eq_true.1 hchars c hmem
    have hascii : isAsciiDigit c ≠ true := fun h => by simp [isDigit_of_ascii h] at hdigit
    have hletter : isAsciiLetter c ≠ true := fun h => by simp [isNameStart, h] at hstart
    simp only [isFormulaChar, Bool.or_eq_true, beq_iff_eq, hascii, hletter,
      Bool.false_eq_true, false_or] at hchar
    obtain (hc | hc) | hc := hchar
    · exact .inr (.inr hc)
    · exact .inl hc
    · exact .inr (.inl hc)
  · rw [heq] at hreads
    exact point_behind hreads hleft

/-- A point behind a name that ends in a digit. -/
theorem screened_words_pointed :
    screen [] "log10.e".toList = .ok () ∧
    ∀ before after, tokens "log10.e".toList = before ++ .other '.' :: after →
      (∃ n, .name n ∈ before ∧ n.any isDigit = true) ∧
      ∃ earlier t, before = earlier ++ [t] ∧ t.hidesPoint = true :=
  have h : screen [] "log10.e".toList = .ok () := by decide +kernel
  ⟨h, (screened_words h).2.2⟩

/-- It is let through, though it is in no literal. -/
theorem strayPoint_screened :
    screen [] "log10.e".toList = .ok () ∧ .other '.' ∈ tokens "log10.e".toList := by
  decide +kernel

/-- A point behind a literal with an exponent: the other reading has `10.e+5` and `3.` as
literals. -/
example : screen [] "log10.e+5e3.".toList = .ok () ∧
    tokens "log10.e+5e3.".toList = [.name "log10".toList, .other '.', .name ['e'], .other '+',
      .number "5e3".toList, .other '.'] := by
  decide +kernel

end Reckon.Formula
