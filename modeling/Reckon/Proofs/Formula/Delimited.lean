import Reckon.Formula.Function
import Reckon.Proofs.Formula.Spelling

/-
Names that stand apart in a text, with no character of a name on either side. The words of a text
that is put together from two parts are those of the parts, if the second one starts with a letter
and the last word of the first one ends in front of it (`Reads.append`): no word looks further ahead
than past a letter and a sign. A letter may still go to a number literal in front of it, as the mark
of an exponent, but not if another letter follows. So a name that starts with two letters and stands
apart is a word of the text, whatever stands around it (`tokens_of_apart`), and all functions and
all advanced names start with two letters (`Function.lettered_name`, `lettered_of_isAdvanced`).
-/
namespace Reckon.Formula
open Text

/-! ## Texts put together -/

/-- What ends a word in front of a text ends it there with more put behind that text, if this is
not the digits of an exponent or their sign. -/
theorem edge_append {a b : List Char} (ha : a ≠ []) (hdigit : b.head?.any isDigit = false)
    (hsign : ∀ x ∈ b.head?, x ≠ '+' ∧ x ≠ '-') : Edge a (a ++ b) := by
  obtain ⟨c, r, rfl⟩ := List.exists_cons_of_ne_nil ha
  have hnext : (r ++ b).head?.any isDigit = r.head?.any isDigit := by
    cases r with
    | nil => exact hdigit
    | cons x r => rfl
  refine ⟨fun h => h, fun h => h, fun h => h, fun h => spanExponent_cons_of h hnext ?_⟩
  intro x q' heq hx
  cases r with
  | nil =>
    obtain rfl : b = x :: q' := heq
    obtain ⟨hplus, hminus⟩ := hsign x rfl
    exact absurd hx (not_or.2 ⟨hplus, hminus⟩)
  | cons y r =>
    obtain ⟨rfl, rfl⟩ := List.cons.inj heq
    refine ⟨r, rfl, ?_⟩
    cases r with
    | nil => exact hdigit
    | cons z r => rfl

theorem no_sign_of_isNameStart {b : List Char} (hb : b.head?.any isNameStart = true) :
    ∀ x ∈ b.head?, x ≠ '+' ∧ x ≠ '-' := by
  intro x hx
  rw [Option.mem_def.1 hx, Option.any_some] at hb
  constructor <;> rintro rfl <;> exact absurd hb (by decide)

theorem no_digit_of_isNameStart {b : List Char} (hb : b.head?.any isNameStart = true) :
    b.head?.any isDigit = false := by
  obtain ⟨c, hc, hstart⟩ := (Option.any_eq_true _ _).1 hb
  rw [hc]
  exact isDigit_of_isNameStart hstart

section Append

variable {a b : List Char} {ts us : List Token} {t : Token}

theorem Reads.ne_nil (h : Reads a (t :: ts)) : a ≠ [] := by
  cases h with
  | cons hends _ => simp [hends.text_ne_nil]

theorem Reads.append (h : Reads a ts) (hb : Reads b us) (hhead : b.head?.any isNameStart = true)
    (hlast : ∀ t ∈ ts.getLast?, t.EndsAt b) : Reads (a ++ b) (ts ++ us) := by
  induction h with
  | nil => exact hb
  | @cons t ts rest hends hrest ih =>
    rw [List.append_assoc, List.cons_append]
    cases ts with
    | nil =>
      cases hrest
      exact .cons (hlast t rfl) hb
    | cons u ts =>
      have hlater := ih fun v hv => hlast v (by rwa [List.getLast?_cons_cons])
      have hedge := edge_append hrest.ne_nil (no_digit_of_isNameStart hhead)
        (no_sign_of_isNameStart hhead)
      exact .cons (hends.of_edge hedge) hlater

theorem getLast_texts (ts : List Token) (ht : t.text ≠ []) :
    ((ts ++ [t]).flatMap Token.text).getLast? = t.text.getLast? := by
  rw [List.flatMap_append, List.flatMap_singleton, List.getLast?_append,
    List.getLast?_eq_some_getLast ht, Option.some_or]

end Append

/-! ## Names of two letters and more -/

/-- A name that starts with two letters. -/
def isLettered : List Char → Bool
  | c :: d :: r => isNameStart c && isNameStart d && r.all isNameChar
  | _ => false

section Lettered

variable {w : List Char}

theorem eq_cons_of_isLettered (hw : isLettered w = true) :
    ∃ c d r, w = c :: d :: r ∧ isNameStart c = true ∧ isNameStart d = true ∧
      r.all isNameChar = true := by
  match w, hw with
  | c :: d :: r, hw =>
    simp only [isLettered, Bool.and_eq_true] at hw
    exact ⟨c, d, r, rfl, hw.1.1, hw.1.2, hw.2⟩

theorem all_isNameChar_of_isLettered (hw : isLettered w = true) : w.all isNameChar = true := by
  obtain ⟨c, d, r, rfl, hc, hd, hr⟩ := eq_cons_of_isLettered hw
  simp [isNameChar_of_isNameStart hc, isNameChar_of_isNameStart hd, hr]

theorem endsAt_of_isLettered (hw : isLettered w = true) {v : List Char}
    (hv : v.head?.any isNameChar = false) : (Token.name w).EndsAt v := by
  obtain ⟨c, d, r, rfl, hc, hd, hr⟩ := eq_cons_of_isLettered hw
  exact ⟨⟨c, d :: r, rfl, hc, by simp [isNameChar_of_isNameStart hd, hr]⟩, hv⟩

/-- The second letter is neither a digit nor a sign. -/
theorem spanExponent_of_isLettered (hw : isLettered w = true) (v : List Char) :
    (spanExponent (w ++ v)).1 = [] := by
  obtain ⟨c, d, r, rfl, _, hd, _⟩ := eq_cons_of_isLettered hw
  rw [List.cons_append, List.cons_append, spanExponent_cons_eq_nil_iff]
  refine fun _ => ⟨isDigit_of_isNameStart hd, fun x q heq hx => ?_⟩
  obtain rfl : d = x := (List.cons.inj heq).1
  obtain rfl | rfl := hx <;> exact absurd hd (by decide)

/-- Every word but a name ends in front of it. -/
theorem Token.EndsAt.before_lettered {t : Token} {rest : List Char} (h : t.EndsAt rest)
    (hname : ∀ n, t ≠ .name n) (hw : isLettered w = true) (v : List Char) :
    t.EndsAt (w ++ v) := by
  have hexp := spanExponent_of_isLettered hw v
  obtain ⟨c, d, r, rfl, hc, _, _⟩ := eq_cons_of_isLettered hw
  have hdigit := isDigit_of_isNameStart hc
  cases t with
  | name n => exact absurd rfl (hname n)
  | other x => exact ⟨h.1, h.2.1, fun _ => hdigit⟩
  | number n =>
    obtain ⟨f, hv, htext, _⟩ := h
    refine ⟨f, hv, htext, hdigit, fun _ _ hpoint => ?_, fun _ => hexp⟩
    obtain rfl : c = '.' := Option.some.inj hpoint
    exact absurd hc (by decide)

theorem tokens_of_apart {u v : List Char} (hw : isLettered w = true)
    (hu : u.getLast?.any isNameChar = false) (hv : v.head?.any isNameChar = false) :
    tokens (u ++ (w ++ v)) = tokens u ++ .name w :: tokens v := by
  have hhead : (w ++ v).head?.any isNameStart = true := by
    obtain ⟨c, d, r, rfl, hc, _, _⟩ := eq_cons_of_isLettered hw
    exact hc
  refine tokens_eq_iff.2 ((reads_tokens u).append (.cons (endsAt_of_isLettered hw hv)
    (reads_tokens v)) hhead fun t ht => ?_)
  obtain ⟨before, hbefore⟩ := List.getLast?_eq_some_iff.1 (Option.mem_def.1 ht)
  have hreads := reads_tokens u
  rw [hbefore] at hreads
  have hends := hreads.endsAt
  refine hends.before_lettered (fun n hn => ?_) hw v
  -- a name in front would end with a character of a name
  subst hn
  have hne : n ≠ [] := hends.text_ne_nil
  rw [hreads.text, getLast_texts before hends.text_ne_nil, Token.text,
    getLast_any_of_all hne hends.all_isNameChar] at hu
  cases hu

end Lettered

/-! ## Names that are known -/

theorem Function.ofName?_eq_some_iff {n : String} {f : Function} :
    Function.ofName? n = some f ↔ f.name = n := by
  constructor
  · intro h
    simpa using List.find?_some h
  · rintro rfl
    exact f.ofName?_name

theorem Function.lettered_name (f : Function) : isLettered f.name.toList = true := by
  cases f <;> decide

theorem lettered_of_isAdvanced {n : String} (h : isAdvanced n = true) :
    isLettered n.toList = true := by
  have hwords : ∀ w ∈ advancedWords, isLettered w.toList = true := by decide
  rw [isAdvanced, Bool.or_eq_true, List.contains_iff_mem] at h
  obtain hword | hfunction := h
  · exact hwords n hword
  · obtain ⟨f, hf, _⟩ := (Option.any_eq_true _ _).1 hfunction
    exact Function.ofName?_eq_some_iff.1 hf ▸ f.lettered_name

end Reckon.Formula
