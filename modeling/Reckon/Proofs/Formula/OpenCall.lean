import Mathlib.Data.List.DropRight
import Reckon.Proofs.Formula.Delimited
import Reckon.Proofs.Formula.Runs

/-
Calls that are left open. The check in front of a repair looks back from the end of a text: past the
white space and the parenthesis, over all characters of names, and what it then has must be the name
of a function. The words of the text are read from its front. Both come to the same name unless a
word in front of the name ends with a character of a name, which the look back takes in. No name
does, for the two would be one, and no sign; a number literal does if its last digit is one of the
ASCII range (`getLast_in_front`). So the check misses an open call there and nowhere else
(`incompleteCall?_eq_some_iff_words`), and a repair closes the call that it missed (`opened_call`).
-/
namespace Reckon.Formula
open Text

/-! ## White space -/

theorem codes_of_has {rs : Ranges} {n : Nat} (h : rs.has n = true) :
    n ∈ rs.flatMap fun r => List.range' r.1 (r.2 + 1 - r.1) := by
  obtain ⟨r, hr, hn⟩ := List.any_eq_true.1 h
  simp only [Bool.and_eq_true, decide_eq_true_eq] at hn
  refine List.mem_flatMap.2 ⟨r, hr, List.mem_range'_1.2 ?_⟩
  omega

/-- White space is in no number and in no name. -/
theorem plain_of_isBlank {c : Char} (h : isBlank c = true) :
    isNameChar c = false ∧ isDigit c = false ∧ c ≠ '.' ∧ c ≠ '+' ∧ c ≠ '-' := by
  have hall : (blanks.flatMap fun r => List.range' r.1 (r.2 + 1 - r.1)).all (fun n =>
      !(isNameChar (Char.ofNat n) || isDigit (Char.ofNat n) ||
        ".+-".toList.contains (Char.ofNat n))) = true := by
    decide
  have hc := List.all_eq_true.1 hall _ (codes_of_has h)
  rw [Char.ofNat_toNat] at hc
  simpa [and_assoc] using hc

theorem edge_blank {c : Char} (h : isBlank c = true) (a : List Char) : Edge a (a ++ [c]) := by
  obtain ⟨hname, hdigit, hpoint, hsign⟩ := plain_of_isBlank h
  cases a with
  | nil =>
    refine ⟨fun _ => hdigit, fun _ => hname, fun _ hc => hpoint (Option.some.inj hc), fun _ => ?_⟩
    rw [List.nil_append, spanExponent_cons_eq_nil_iff]
    exact fun _ => ⟨rfl, by simp⟩
  | cons d r =>
    refine edge_append (List.cons_ne_nil d r) hdigit ?_
    rintro _ ⟨⟩
    exact hsign

/-- White space behind a text is read by itself. -/
theorem Reads.concat_blank {s : List Char} {ts : List Token} (h : Reads s ts) {c : Char}
    (hc : isBlank c = true) : Reads (s ++ [c]) (ts ++ [.other c]) := by
  induction h with
  | nil =>
    obtain ⟨hname, hdigit, _⟩ := plain_of_isBlank hc
    have hstart : isNameStart c = false := (Bool.or_eq_false_iff.1 hname).1
    exact .cons (t := .other c) ⟨hstart, hdigit, fun _ => rfl⟩ .nil
  | @cons t ts rest hends _ ih =>
    rw [List.append_assoc]
    exact .cons (hends.of_edge (edge_blank hc rest)) ih

theorem tokens_append_blanks (s : List Char) {space : List Char}
    (hb : space.all isBlank = true) :
    tokens (s ++ space) = tokens s ++ space.map .other := by
  induction space generalizing s with
  | nil => simp
  | cons c r ih =>
    rw [List.all_cons, Bool.and_eq_true] at hb
    have hfirst := tokens_eq_iff.2 ((reads_tokens s).concat_blank hb.1)
    rw [List.append_cons s c r, ih (s ++ [c]) hb.2, hfirst, List.map_cons, List.append_assoc,
      List.singleton_append]

/-! ## Looking back from the end -/

theorem trimEnd_eq (s : List Char) : trimEnd s = s.rdropWhile isBlank := rfl

theorem lastWord_eq (s : List Char) : lastWord s = s.rtakeWhile isNameChar := rfl

/-- A run of characters of one kind at the end of a text, and what it stands behind. -/
theorem rspan_of_append {p : Char → Bool} {front run : List Char}
    (hfront : front.getLast?.any p = false) (hrun : run.all p = true) :
    (front ++ run).rdropWhile p = front ∧ (front ++ run).rtakeWhile p = run := by
  have hall : run.reverse.all p = true := by rwa [List.all_reverse]
  have hstop : front.reverse.head?.any p = false := by rwa [List.head?_reverse]
  obtain ⟨htake, hdrop⟩ := span_of_append hall hstop
  rw [List.rdropWhile, List.rtakeWhile, List.reverse_append, htake, hdrop]
  exact ⟨List.reverse_reverse front, List.reverse_reverse run⟩

theorem getLast_rdropWhile (p : Char → Bool) (s : List Char) :
    (s.rdropWhile p).getLast?.any p = false := by
  rw [List.rdropWhile, List.getLast?_reverse]
  exact head_dropWhile p _

/-- The check finds the name of a function that stands in front of the last parenthesis, and behind
no character of a name. -/
theorem incompleteCall?_eq_some_iff {s : List Char} {f : Function} :
    incompleteCall? s = some f ↔
      ∃ u, trimEnd s = u ++ (f.name.toList ++ ['(']) ∧ u.getLast?.any isNameChar = false := by
  constructor
  · intro h
    rw [incompleteCall?] at h
    split at h
    · next r hs =>
      refine ⟨r.reverse.rdropWhile isNameChar, ?_, getLast_rdropWhile _ _⟩
      rw [Function.ofName?_eq_some_iff.1 h, String.toList_ofList, lastWord_eq, ← List.append_assoc,
        List.rdropWhile_append_rtakeWhile, ← List.reverse_cons, ← hs, List.reverse_reverse]
    · cases h
  · rintro ⟨u, hs, hlast⟩
    have hrev : (trimEnd s).reverse = '(' :: (u ++ f.name.toList).reverse := by simp [hs]
    have hname := all_isNameChar_of_isLettered f.lettered_name
    rw [incompleteCall?, hrev]
    simp only
    rw [List.reverse_reverse, lastWord_eq, (rspan_of_append hlast hname).2, String.ofList_toList,
      f.ofName?_name]

/-- The check does not see whether runs of operators were shortened. -/
theorem incompleteCall?_collapse (s : List Char) :
    incompleteCall? (collapse s) = incompleteCall? s := by
  have hplain {p : Char → Bool} (hp : "+-*/".toList.all (!p ·) = true) (c : Char)
      (hc : isRepeatable c = true) : p c = false := by
    have hmem : c ∈ "+-*/".toList := by simpa [isRepeatable, or_assoc] using hc
    simpa using List.all_eq_true.1 hp c hmem
  have htrim : (trimEnd (collapse s)).reverse = collapse (trimEnd s).reverse := by
    rw [trimEnd, trimEnd, List.reverse_reverse, List.reverse_reverse, ← collapse_reverse,
      dropWhile_collapse (hplain (by decide))]
  rw [incompleteCall?, incompleteCall?, htrim]
  cases (trimEnd s).reverse with
  | nil => rfl
  | cons c r =>
    by_cases hc : c = '('
    · subst hc
      have hfirst : collapse ('(' :: r) = '(' :: collapse r :=
        collapse_append (a := ['(']) (by rintro _ ⟨⟩ _ _ _; rfl)
      have hword : lastWord (collapse r).reverse = lastWord r.reverse := by
        rw [lastWord, lastWord, List.reverse_reverse, List.reverse_reverse,
          takeWhile_collapse (hplain (by decide))]
      rw [hfirst]
      simp only [hword]
    · have hhead := head_collapse (c :: r)
      obtain ⟨q, hq⟩ := List.head?_eq_some_iff.1 hhead
      rw [hq]
      split
      · next heq => exact absurd (List.cons.inj heq).1 hc
      · split
        · next heq => exact absurd (List.cons.inj heq).1 hc
        · rfl

/-! ## Words in front of a name -/

/-- The word is a number literal, and its last character a digit of the ASCII range. -/
def Token.endsInDigit : Token → Bool
  | .number n => n.getLast?.any isAsciiDigit
  | _ => false

theorem isNameChar_of_isDigit {c : Char} (h : isDigit c = true) :
    isNameChar c = isAsciiDigit c := by
  have hstart : isNameStart c = false := by
    by_contra hc
    rw [isDigit_of_isNameStart (by simpa using hc)] at h
    cases h
  rw [isNameChar, hstart, Bool.false_or]

theorem isNameChar_of_not_isDigit {c : Char} (hstart : isNameStart c = false)
    (h : isDigit c = false) : isNameChar c = false := by
  rw [isNameChar, hstart, Bool.false_or]
  by_contra hc
  rw [isDigit_of_ascii (by simpa using hc)] at h
  cases h

/-- A literal ends with a digit or with its point. -/
theorem Figures.Valid.getLast_text {f : Figures} (hv : f.Valid) :
    f.text.getLast?.any (fun c => isDigit c || c == '.') = true := by
  have hdigits {ds : List Char} (h : ds.all isDigit = true) :
      ds.all (fun c => isDigit c || c == '.') = true :=
    List.all_eq_true.2 fun c hc => by rw [List.all_eq_true.1 h c hc, Bool.true_or]
  cases hf : f.exponent with
  | some e =>
    obtain ⟨_, hne, hds⟩ := hv.exponent e hf
    have hpower : f.power = e.1 ++ e.2 := by simp [power, hf]
    rw [text, hpower]
    exact getLast_append_any _ (getLast_append_any _ (getLast_any_of_all hne (hdigits hds)))
  | none =>
    have hpower : f.power = [] := by simp [power, hf]
    rw [text, hpower, List.append_nil]
    refine getLast_any_of_all hv.mantissa_ne_nil ?_
    rw [mantissa, List.all_append, hdigits hv.whole, Bool.true_and]
    cases hfs : f.fraction with
    | none => rfl
    | some fs => simpa using hdigits (hv.fraction fs hfs)

theorem Token.EndsAt.getLast_isNameChar {t : Token} {rest : List Char} (h : t.EndsAt rest)
    (hname : ∀ n, t ≠ .name n) : t.text.getLast?.any isNameChar = t.endsInDigit := by
  cases t with
  | name n => exact absurd rfl (hname n)
  | other c => exact isNameChar_of_not_isDigit h.1 h.2.1
  | number n =>
    obtain ⟨f, hv, rfl, _⟩ := h
    obtain ⟨c, hc, hlast⟩ := (Option.any_eq_true _ _).1 hv.getLast_text
    rw [Token.text, Token.endsInDigit, hc, Option.any_some, Option.any_some]
    obtain hdigit | hpoint := Bool.or_eq_true_iff.1 hlast
    · exact isNameChar_of_isDigit hdigit
    · rw [eq_of_beq hpoint]
      rfl

/-- A text in front of a name ends with a character of a name exactly if its last word is a number
literal that does. -/
theorem Reads.getLast_in_front {s w : List Char} {before after : List Token}
    (h : Reads s (before ++ .name w :: after)) :
    (before.flatMap Token.text).getLast?.any isNameChar = before.getLast?.any Token.endsInDigit := by
  obtain ⟨⟨c, r, rfl, hstart, _⟩, _⟩ := h.endsAt
  rcases List.eq_nil_or_concat' before with rfl | ⟨earlier, t, rfl⟩
  · rfl
  · rw [List.append_assoc, List.singleton_append] at h
    have hends := h.endsAt
    rw [getLast_texts earlier hends.text_ne_nil, List.getLast?_concat, Option.any_some]
    refine hends.getLast_isNameChar fun n hn => ?_
    -- a name would go on with the letter
    subst hn
    have hstop : isNameChar c = false := hends.2
    rw [isNameChar_of_isNameStart hstart] at hstop
    cases hstop

/-! ## Open calls -/

/-- The text ends with a name and an opening parenthesis, apart from white space. -/
def OpensCall (s : List Char) (before : List Token) (w : List Char) : Prop :=
  ∃ space : List Char, space.all isBlank = true ∧
    tokens s = before ++ .name w :: .other '(' :: space.map .other

theorem opensCall_iff {s w : List Char} {before : List Token} :
    OpensCall s before w ↔ tokens (trimEnd s) = before ++ [.name w, .other '('] := by
  constructor
  · rintro ⟨space, hb, hs⟩
    have htext : s = (before.flatMap Token.text ++ (w ++ ['('])) ++ space := by
      conv_lhs => rw [← tokens_append s, hs]
      simp [Token.text, List.flatMap_map]
    have htrim : trimEnd s = before.flatMap Token.text ++ (w ++ ['(']) := by
      rw [htext, trimEnd_eq]
      refine (rspan_of_append ?_ hb).1
      rw [← List.append_assoc, List.getLast?_concat]
      rfl
    rw [htext, tokens_append_blanks _ hb, ← htrim] at hs
    exact List.append_cancel_right (by simpa using hs)
  · intro h
    have hb : (s.rtakeWhile isBlank).all isBlank = true :=
      List.all_eq_true.2 fun c hc => List.mem_rtakeWhile_imp hc
    have hwords := tokens_append_blanks (trimEnd s) hb
    rw [trimEnd_eq, List.rdropWhile_append_rtakeWhile, ← trimEnd_eq, h] at hwords
    exact ⟨_, hb, by simpa using hwords⟩

theorem incompleteCall?_eq_some_iff_words {s : List Char} {f : Function} :
    incompleteCall? s = some f ↔
      ∃ before, OpensCall s before f.name.toList ∧
        before.getLast?.any Token.endsInDigit = false := by
  simp only [incompleteCall?_eq_some_iff, opensCall_iff]
  constructor
  · rintro ⟨u, hs, hu⟩
    have hwords := tokens_of_apart (v := ['(']) f.lettered_name hu rfl
    have hsign : tokens ['('] = [.other '('] := by decide +kernel
    rw [hsign, ← hs] at hwords
    refine ⟨tokens u, hwords, ?_⟩
    rw [← (tokens_eq_iff.1 hwords).getLast_in_front, tokens_append, hu]
  · rintro ⟨before, hs, hlast⟩
    have hreads := tokens_eq_iff.1 hs
    refine ⟨before.flatMap Token.text, ?_, hreads.getLast_in_front.trans hlast⟩
    rw [hreads.text]
    simp [Token.text]

/-- An open call is found by its name, as the words of the text have it, unless a number literal
that ends with an ASCII digit stands right in front. Such a call is not found at all: the text is
repaired as any other, and what is missing at its end is put there. -/
theorem opened_call (s : List Char) :
    (∀ f, incompleteCall? s = some f ↔
      ∃ before, OpensCall s before f.name.toList ∧
        before.getLast?.any Token.endsInDigit = false) ∧
    ∀ (f : Function) (before : List Token), OpensCall s before f.name.toList →
      repair s = if before.getLast?.any Token.endsInDigit
        then .ok (collapse s ++ List.replicate (s.count '(' - s.count ')') ')')
        else .error (.incompleteCall f.name) := by
  refine ⟨fun f => incompleteCall?_eq_some_iff_words, fun f before h => ?_⟩
  simp only [repair, incompleteCall?_collapse]
  cases hlast : before.getLast?.any Token.endsInDigit with
  | false =>
    have hfound := incompleteCall?_eq_some_iff_words.2 ⟨before, h, hlast⟩
    simp [hfound]
  | true =>
    -- whatever was found would be the same name, with the same words in front
    have hnone : incompleteCall? s = none := by
      refine Option.eq_none_iff_forall_not_mem.2 fun g hg => ?_
      obtain ⟨before', h', hlast'⟩ := incompleteCall?_eq_some_iff_words.1 hg
      have heq := (opensCall_iff.1 h).symm.trans (opensCall_iff.1 h')
      obtain ⟨rfl, _⟩ := List.append_inj' heq rfl
      rw [hlast] at hlast'
      cases hlast'
    simp only [hnone, balance, missing_collapse, if_true]
    rfl

/-- A call behind a number is not found, and is closed with nothing in it. -/
theorem doubledSine_closed :
    OpensCall "2sin(".toList [.number ['2']] "sin".toList ∧
    incompleteCall? "2sin(".toList = none ∧
    repair "2sin(".toList = .ok "2sin()".toList := by
  have hopen : OpensCall "2sin(".toList [.number ['2']] "sin".toList :=
    ⟨[], rfl, by decide +kernel⟩
  exact ⟨hopen, by decide, by decide⟩

end Reckon.Formula
