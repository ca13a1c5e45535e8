import Reckon.Formula.Function
import Reckon.Proofs.Formula.Spelling
import Reckon.Proofs.Session.Phrases
import Reckon.Proofs.Session.Steps

/-
A spoken expression is the typed one. What is said is a row of digits, names and words for
operators with white space between them (`Says`), and it is heard as what they are written as. A
closing word behind it is taken off and asks for the result (`listen_spoken`). One closing word does
not come off as it was said: behind a parenthesis and a single blank, "equal to" takes the last two
letters of the parenthesis with it.
-/
namespace Reckon.Voice
open Text Formula

/-! ## What is said -/

/-- The names of functions and constants that are all small letters. -/
def names : List String :=
  (Function.all.map Function.name ++ [Constant.pi, .e, .capitalE].map Constant.name).filter
    fun n => n.toList.all Char.isLower

/-- One thing that is said, and what is written for it. -/
inductive IsItem : List Char → List Char → Prop
  | digits {s : List Char} : s ≠ [] → s.all isDigit = true → IsItem s s
  | name {n : String} : n ∈ names → IsItem n.toList n.toList
  | operator {o : String × Char} : o ∈ operators → IsItem o.1.toList [o.2]

/-- Things that are said with white space between them, and what is written for them. -/
inductive Says : List Char → List Char → Prop
  | item {q w : List Char} : IsItem q w → Says q w
  | more {q w g s e : List Char} : IsItem q w → g ≠ [] → isAllBlank g = true →
      Says s e → Says (q ++ (g ++ s)) (w ++ e)

/-! ## Digits and white space -/

theorem isBlank_of_isDigit {c : Char} (h : isDigit c = true) : isBlank c = false := by
  refine Bool.eq_false_iff.2 fun hb => ?_
  have := isWord_of_isBlank hb
  rw [isWord_of_isDigit h] at this
  cases this

/-- Lower case leaves the character as it is. -/
def isSmall (c : Char) : Bool := c != 'Σ' && c != 'İ' && smallLetter c == c

theorem lowercase_of_small {s : List Char} (hs : s.all isSmall = true) : lowercase s = s := by
  have h := List.all_eq_true.1 hs
  clear hs
  have hafter (before : List Char) : lowercaseAfter before s = s := by
    induction s generalizing before with
    | nil => rfl
    | cons c s ih =>
      have hc := h c List.mem_cons_self
      simp only [isSmall, Bool.and_eq_true, bne_iff_ne, beq_iff_eq] at hc
      obtain ⟨⟨hsigma, hdotted⟩, hsmall⟩ := hc
      rw [lowercaseAfter, ih (fun d hd => h d (List.mem_cons_of_mem c hd))]
      simp [hsigma, hdotted, hsmall]
  exact hafter []

/-- The capitals beyond ASCII that have one small letter. -/
def capitals : Ranges := wideCapitals.map fun r => (r.first, r.last)

/-- The digits beyond ASCII. -/
def digits : Ranges := wideZeros.map fun z => (z, z + 9)

theorem isSmall_of_wide {c : Char} (hc : 128 ≤ c.toNat) (hdotted : c ≠ 'İ')
    (h : capitals.has c.toNat = false) : isSmall c = true := by
  have hfind : (wideCapitals.find? fun r => r.first ≤ c.toNat && c.toNat ≤ r.last
      && (c.toNat - r.first) % r.step == 0) = none := by
    refine List.find?_eq_none.2 fun r hr hrun => ?_
    have := List.any_eq_false.1 h _ (List.mem_map_of_mem hr)
    exact this (Bool.and_eq_true_iff.1 hrun).1
  have hZ : ¬ c ≤ 'Z' := fun hle => by
    have : c.toNat ≤ 90 := hle
    omega
  have hwide : ¬ c.toNat < 128 := by omega
  have hsmall : smallLetter c = c := by
    simp only [smallLetter, hZ, hwide, hfind, decide_false, Bool.and_false, Bool.false_eq_true,
      if_false]
  have hsigma : c ≠ 'Σ' := by
    rintro rfl
    exact absurd hsmall (by decide)
  simp [isSmall, hsmall, hsigma, hdotted]

theorem isSmall_of_isBlank {c : Char} (h : isBlank c = true) : isSmall c = true := by
  have hascii : ∀ n < 128, blanks.has n = true → isSmall (Char.ofNat n) = true := by decide
  have hapart : blanks.areApart capitals = true := by decide
  by_cases hc : c.toNat < 128
  · have := hascii c.toNat hc h
    rwa [Char.ofNat_toNat] at this
  · have hdotted : c ≠ 'İ' := by
      rintro rfl
      exact absurd h (by decide)
    exact isSmall_of_wide (Nat.le_of_not_lt hc) hdotted (Ranges.not_has_of_areApart hapart h)

theorem digits_has_of_isDigit {c : Char} (hc : 128 ≤ c.toNat) (h : isDigit c = true) :
    digits.has c.toNat = true := by
  have hdigit : isAsciiDigit c = false := by
    have hle : ¬ c ≤ '9' := fun hle => by
      have : c.toNat ≤ 57 := hle
      omega
    simp [isAsciiDigit, hle]
  have hwide : ¬ c.toNat < 128 := by omega
  simp only [isDigit, digitValue?, hdigit, hwide, Bool.false_eq_true, if_false, Option.isSome_map,
    List.find?_isSome, Bool.and_eq_true, decide_eq_true_eq] at h
  obtain ⟨z, hz, hle, hlt⟩ := h
  refine List.any_eq_true.2 ⟨_, List.mem_map_of_mem hz, ?_⟩
  simp only [Bool.and_eq_true, decide_eq_true_eq]
  omega

theorem isSmall_of_isDigit {c : Char} (h : isDigit c = true) : isSmall c = true := by
  have hascii : ∀ n < 128, isDigit (Char.ofNat n) = true → isSmall (Char.ofNat n) = true := by
    decide
  have hapart : digits.areApart capitals = true := by decide +kernel
  by_cases hc : c.toNat < 128
  · have := hascii c.toNat hc
    rw [Char.ofNat_toNat] at this
    exact this h
  · have hdotted : c ≠ 'İ' := by
      rintro rfl
      exact absurd h (by decide)
    have hwide := Nat.le_of_not_lt hc
    exact isSmall_of_wide hwide hdotted
      (Ranges.not_has_of_areApart hapart (digits_has_of_isDigit hwide h))

/-! ## White space at the ends -/

/-- There is no white space at either end, and there is something between them. -/
def isTight (s : List Char) : Bool :=
  s.head?.any (fun c => !isBlank c) && s.getLast?.any fun c => !isBlank c

section Ends

variable {s g : List Char}

theorem exists_cons_of_isTight (h : isTight s = true) : ∃ c r, s = c :: r ∧ isBlank c = false := by
  obtain ⟨c, hc, hb⟩ := (Option.any_eq_true _ _).1 (Bool.and_eq_true_iff.1 h).1
  obtain ⟨r, rfl⟩ := List.head?_eq_some_iff.1 hc
  exact ⟨c, r, rfl, by simpa using hb⟩

theorem exists_concat_of_isTight (h : isTight s = true) :
    ∃ r c, s = r ++ [c] ∧ isBlank c = false := by
  obtain ⟨c, hc, hb⟩ := (Option.any_eq_true _ _).1 (Bool.and_eq_true_iff.1 h).2
  obtain ⟨r, rfl⟩ := List.getLast?_eq_some_iff.1 hc
  exact ⟨r, c, rfl, by simpa using hb⟩

theorem isTight_append {t : List Char} (hs : isTight s = true) (ht : isTight t = true)
    (g : List Char) : isTight (s ++ (g ++ t)) = true := by
  obtain ⟨c, r, rfl, hc⟩ := exists_cons_of_isTight hs
  obtain ⟨r', d, rfl, hd⟩ := exists_concat_of_isTight ht
  have hlast : c :: r ++ (g ++ (r' ++ [d])) = (c :: (r ++ (g ++ r'))) ++ [d] := by simp
  rw [isTight, hlast, List.getLast?_concat]
  simp [hc, hd]

theorem trimEnd_append_blank {c : Char} (hc : isBlank c = false) (s : List Char)
    (hg : isAllBlank g = true) : trimEnd (s ++ [c] ++ g) = s ++ [c] := by
  rw [trimEnd, List.reverse_append, List.dropWhile_append_of_pos]
  · simp [hc]
  · exact fun d hd => List.all_eq_true.1 hg d (List.mem_reverse.1 hd)

theorem trim_of_isTight (h : isTight s = true) : trim s = s := by
  obtain ⟨c, r, hcr, hc⟩ := exists_cons_of_isTight h
  obtain ⟨r', d, hrd, hd⟩ := exists_concat_of_isTight h
  rw [trim, hcr, trimStart_of_head hc, ← hcr, hrd]
  simpa using trimEnd_append_blank (g := []) hd r' rfl

end Ends

/-! ## One item -/

/-- Neither text ends with the other, so no text ends with both. -/
def Apart (a b : List Char) : Prop := ¬ a <:+ b ∧ ¬ b <:+ a

instance (a b : List Char) : Decidable (Apart a b) := inferInstanceAs (Decidable (_ ∧ _))

theorem Apart.not_suffix {a b : List Char} (h : Apart a b) (x : List Char) : ¬ a <:+ x ++ b :=
  fun ha => (List.suffix_or_suffix_of_suffix ha (List.suffix_append x b)).elim h.1 h.2

/-- What there is to know of an item: how it is heard, and how it ends. A closing word never ends
as an item does, and only a parenthesis ends as the first word of a closing. -/
structure Audible (q w : List Char) : Prop where
  turns : ∀ atEnd, Turns operators atEnd q w
  tight : isTight q = true
  small : q.all isSmall = true
  written : w ≠ [] ∧ w.filter (fun c => !isBlank c) = w
  open_end : ∀ x ∈ closings, Apart x.toList q
  ends : Apart "is".toList q ∨
    (q, w) ∈ [("open parenthesis".toList, ['(']), ("close parenthesis".toList, [')'])]

theorem isPhrase_of_mem {o : String × Char} (ho : o ∈ operators) : IsPhrase o.1.toList := by
  have hall : ∀ o ∈ operators, (o.1.toList.head?.any fun c => !isBlank c) = true := by decide
  obtain ⟨c, hc, hb⟩ := (Option.any_eq_true _ _).1 (hall o ho)
  obtain ⟨p, hp⟩ := List.head?_eq_some_iff.1 hc
  exact ⟨c, p, hp, by simpa using hb⟩

theorem turns_of_digits {q : List Char} (hq : q.all isDigit = true) (atEnd : Bool) :
    Turns operators atEnd q q := by
  have hall : ∀ o ∈ operators, (o.1.toList.head?.any fun c => !isDigit c) = true := by decide
  generalize operators = os at hall
  induction os with
  | nil => exact ⟨rfl, rfl⟩
  | cons o os ih =>
    obtain ⟨c, hc, hd⟩ := (Option.any_eq_true _ _).1 (hall o List.mem_cons_self)
    obtain ⟨p, hp⟩ := List.head?_eq_some_iff.1 hc
    have hnot : c ∉ q := fun hm => by simp [List.all_eq_true.1 hq c hm] at hd
    have hneq : q ≠ o.1.toList := by
      rintro rfl
      exact hnot (by simp [hp])
    have hclear : clear o.1.toList atEnd false q = true := hp ▸ clear_of_not_mem hnot
    obtain ⟨hs, ht⟩ := ih fun o ho => hall o (List.mem_cons_of_mem _ ho)
    exact ⟨by simp [settles, hneq, hclear, hs], by simp [turned, hneq, ht]⟩

/-- Digits do not end as a text without digits does. -/
theorem apart_of_digits {a q : List Char} (hna : a ≠ []) (ha : a.any isDigit = false)
    (hne : q ≠ []) (hq : q.all isDigit = true) : Apart a q := by
  obtain ⟨c, r, rfl⟩ := List.exists_cons_of_ne_nil hne
  obtain ⟨d, t, rfl⟩ := List.exists_cons_of_ne_nil hna
  have hdigit := List.all_eq_true.1 hq
  have hnot := List.any_eq_false.1 ha
  refine ⟨fun h => ?_, fun h => ?_⟩
  · exact hnot d List.mem_cons_self (hdigit d (h.mem List.mem_cons_self))
  · exact hnot c (h.mem List.mem_cons_self) (hdigit c List.mem_cons_self)

theorem audible_of_digits {q : List Char} (hne : q ≠ []) (hq : q.all isDigit = true) :
    Audible q q where
  turns := turns_of_digits hq
  tight := by
    have hhead := isBlank_of_isDigit (List.all_eq_true.1 hq _ (List.head_mem hne))
    have hlast := isBlank_of_isDigit (List.all_eq_true.1 hq _ (List.getLast_mem hne))
    simp [isTight, List.head?_eq_some_head hne, List.getLast?_eq_some_getLast hne, hhead, hlast]
  small := List.all_eq_true.2 fun c hc => isSmall_of_isDigit (List.all_eq_true.1 hq c hc)
  written := by
    refine ⟨hne, List.filter_eq_self.2 fun c hc => ?_⟩
    rw [isBlank_of_isDigit (List.all_eq_true.1 hq c hc)]
    rfl
  open_end := by
    have hall : ∀ x ∈ closings, x.toList ≠ [] ∧ x.toList.any isDigit = false := by decide
    exact fun x hx => apart_of_digits (hall x hx).1 (hall x hx).2 hne hq
  ends := .inl (apart_of_digits (by decide) (by decide) hne hq)

/-- The names and the words for operators, with what is written for them. -/
def vocabulary : List (List Char × List Char) :=
  names.map (fun n => (n.toList, n.toList)) ++ operators.map fun o => (o.1.toList, [o.2])

theorem audible_of_mem {p : List Char × List Char} (hp : p ∈ vocabulary) : Audible p.1 p.2 where
  turns := by
    have h : ∀ p ∈ vocabulary, ∀ atEnd, Turns operators atEnd p.1 p.2 := by decide
    exact h p hp
  tight := by
    have h : ∀ p ∈ vocabulary, isTight p.1 = true := by decide
    exact h p hp
  small := by
    have h : ∀ p ∈ vocabulary, p.1.all isSmall = true := by decide
    exact h p hp
  written := by
    have h : ∀ p ∈ vocabulary, p.2 ≠ [] ∧ p.2.filter (fun c => !isBlank c) = p.2 := by decide
    exact h p hp
  open_end := by
    have h : ∀ p ∈ vocabulary, ∀ x ∈ closings, Apart x.toList p.1 := by decide
    exact h p hp
  ends := by
    have h : ∀ p ∈ vocabulary, Apart "is".toList p.1 ∨
        p ∈ [("open parenthesis".toList, ['(']), ("close parenthesis".toList, [')'])] := by decide
    exact h p hp

theorem IsItem.audible {q w : List Char} (h : IsItem q w) : Audible q w := by
  cases h with
  | digits hne hq => exact audible_of_digits hne hq
  | name hn => exact audible_of_mem (List.mem_append_left _ (List.mem_map_of_mem hn))
  | operator ho => exact audible_of_mem (List.mem_append_right _ (List.mem_map_of_mem ho))

/-! ## Closing words -/

/-- A closing word at the end is found, unless it is only the end of a longer one. -/
theorem find_closing {x : String} (hx : x ∈ closings) {b : List Char}
    (hb : x = "equal to" → ¬ "is ".toList <:+ b) :
    (closings.find? fun y => y.toList.isSuffixOf (b ++ x.toList)) = some x := by
  have hsplit : ∀ x ∈ closings, closings =
      closings.takeWhile (· ≠ x) ++ x :: (closings.dropWhile (· ≠ x)).tail := by decide
  have hfront : ∀ x ∈ closings, ∀ y ∈ closings.takeWhile (· ≠ x), Apart y.toList x.toList ∨
      y.toList = "is ".toList ++ x.toList ∧ x = "equal to" := by decide
  refine List.find?_eq_some_iff_append.2
    ⟨List.isSuffixOf_iff_suffix.2 (List.suffix_append b _), _, _, hsplit x hx, fun y hy => ?_⟩
  rw [Bool.not_eq_true', Bool.eq_false_iff, Ne, List.isSuffixOf_iff_suffix]
  obtain h | ⟨hyx, hto⟩ := hfront x hx y hy
  · exact h.not_suffix b
  · rw [hyx, List.suffix_append_self_iff]
    exact hb hto

theorem splitClosing_closing {x : String} (hx : x ∈ closings) {b : List Char}
    (hb : x = "equal to" → ¬ "is ".toList <:+ b) :
    splitClosing (b ++ x.toList) = (trimEnd b, true) := by
  simp [splitClosing, find_closing hx hb, ← String.length_toList]

theorem splitClosing_of_apart {q : List Char} (h : ∀ x ∈ closings, Apart x.toList q)
    (b : List Char) : splitClosing (b ++ q) = (b ++ q, false) := by
  have hnone : (closings.find? fun x => x.toList.isSuffixOf (b ++ q)) = none := by
    refine List.find?_eq_none.2 fun x hx => ?_
    rw [List.isSuffixOf_iff_suffix]
    exact (h x hx).not_suffix b
  simp [splitClosing, hnone]

theorem suffix_concat {a b : List Char} {c d : Char} (h : a ++ [c] <:+ b ++ [d]) :
    c = d ∧ a <:+ b := by
  obtain h | ⟨t, ht, hb⟩ := List.suffix_concat_iff.1 h
  · simp at h
  · obtain ⟨rfl, hcd⟩ := List.append_inj' ht rfl
    exact ⟨by simpa using hcd, hb⟩

/-- The first word of a closing with a blank behind it ends a text with white space behind it only
where that is one blank. -/
theorem blank_of_suffix {s g : List Char} (hs : isTight s = true)
    (hg : isAllBlank g = true) (h : "is".toList ++ [' '] <:+ s ++ g) :
    "is".toList <:+ s ∧ g = [' '] := by
  obtain rfl | ⟨g, d, rfl⟩ := List.eq_nil_or_concat' g
  · obtain ⟨r, c, rfl, hc⟩ := exists_concat_of_isTight hs
    rw [List.append_nil] at h
    obtain ⟨rfl, _⟩ := suffix_concat h
    exact absurd hc (by decide)
  · rw [← List.append_assoc] at h
    obtain ⟨rfl, his⟩ := suffix_concat h
    obtain rfl | ⟨g, d, rfl⟩ := List.eq_nil_or_concat' g
    · exact ⟨by simpa using his, rfl⟩
    · rw [← List.append_assoc] at his
      obtain ⟨rfl, _⟩ := suffix_concat (a := ['i']) (c := 's') his
      have hs : isBlank 's' = true := List.all_eq_true.1 hg 's' (by simp)
      exact absurd hs (by decide)

/-! ## What is heard -/

section Saying

variable {s e g : List Char}

theorem Says.isTight (h : Says s e) : isTight s = true := by
  induction h with
  | item hq => exact hq.audible.tight
  | more hq _ _ _ ih => exact isTight_append hq.audible.tight ih _

theorem Says.isSmall (h : Says s e) : s.all isSmall = true := by
  induction h with
  | item hq => exact hq.audible.small
  | more hq _ hg _ ih =>
    have hsmall := List.all_eq_true.2 fun c hc => isSmall_of_isBlank (List.all_eq_true.1 hg c hc)
    simp [hq.audible.small, hsmall, ih]

theorem Says.ne_nil (h : Says s e) : e ≠ [] := by
  cases h with
  | item hq => exact hq.audible.written.1
  | more hq _ _ _ => exact List.append_ne_nil_of_left_ne_nil hq.audible.written.1 _

/-- What is said in front of a last piece, and what is written for it. -/
def Leads (b e : List Char) : Prop :=
  ∀ q w, Turns operators true q w → ∃ t, Spaced (Turns operators) (b ++ q) t ∧
    t.filter (fun c => !isBlank c) = e ++ w.filter fun c => !isBlank c

theorem Says.split (h : Says s e) :
    ∃ b q e' w, s = b ++ q ∧ e = e' ++ w ∧ IsItem q w ∧ Leads b e' := by
  induction h with
  | @item q w hq => exact ⟨[], q, [], w, rfl, rfl, hq, fun q' w' h => ⟨w', .last h, rfl⟩⟩
  | @more q w g s e hq hne hg _ ih =>
    obtain ⟨b, q₀, e', w₀, rfl, rfl, hq₀, hb⟩ := ih
    refine ⟨q ++ (g ++ b), q₀, w ++ e', w₀, by simp, by simp, hq₀, fun q' w' h => ?_⟩
    obtain ⟨t, ht, hte⟩ := hb q' w' h
    have hblank : g.filter (fun c => !isBlank c) = [] :=
      List.filter_eq_nil_iff.2 fun c hc => by simp [List.all_eq_true.1 hg c hc]
    refine ⟨w ++ (g ++ t), ?_, ?_⟩
    · have := Spaced.more (hq.audible.turns false) hne hg ht
      simpa only [List.append_assoc] using this
    · rw [List.filter_append, List.filter_append, hblank, hte, hq.audible.written.2]
      simp

theorem hear_eq {x t u : List Char} {asked : Bool} (htight : Voice.isTight x = true)
    (hsmall : x.all Voice.isSmall = true) (hsplit : splitClosing x = (t, asked))
    (hs : Spaced (Turns operators) t u) :
    hear x = (u.filter (fun c => !isBlank c), asked) := by
  rw [hear, trim_of_isTight htight, lowercase_of_small hsmall, hsplit]
  simp only [foldl_replace (fun _ => isPhrase_of_mem) hs]

/-- What is said is heard as what is written for it. -/
theorem Says.hear (h : Says s e) : hear s = (e, false) := by
  obtain ⟨b, q, e', w, rfl, rfl, hq, hb⟩ := h.split
  obtain ⟨t, ht, hte⟩ := hb q w (hq.audible.turns true)
  rw [hear_eq h.isTight h.isSmall (splitClosing_of_apart hq.audible.open_end b) ht, hte,
    hq.audible.written.2]

theorem isTight_closing {x : String} (hx : x ∈ closings) : Voice.isTight x.toList = true := by
  have h : ∀ x ∈ closings, Voice.isTight x.toList = true := by decide
  exact h x hx

theorem isSmall_closing {x : String} (hx : x ∈ closings) : x.toList.all Voice.isSmall = true := by
  have h : ∀ x ∈ closings, x.toList.all Voice.isSmall = true := by decide
  exact h x hx

/-- What is heard where the closing word that is taken off leaves a row of pieces. -/
theorem Says.hear_of_split (h : Says s e) (hg : isAllBlank g = true) {x : String}
    (hx : x ∈ closings) {t u : List Char}
    (hsplit : splitClosing (s ++ (g ++ x.toList)) = (t, true))
    (ht : Spaced (Turns operators) t u) :
    Voice.hear (s ++ (g ++ x.toList)) = (u.filter (fun c => !isBlank c), true) := by
  refine hear_eq (isTight_append h.isTight (isTight_closing hx) g) ?_ hsplit ht
  have hsmall := List.all_eq_true.2 fun c hc => isSmall_of_isBlank (List.all_eq_true.1 hg c hc)
  simp [h.isSmall, hsmall, isSmall_closing hx]

/-- A closing word behind what is said asks for the result, and is taken off. -/
theorem Says.hear_closing (h : Says s e) (hg : isAllBlank g = true) {x : String}
    (hx : x ∈ closings)
    (hcut : ¬ ("parenthesis".toList <:+ s ∧ g = [' '] ∧ x = "equal to")) :
    Voice.hear (s ++ (g ++ x.toList)) = (e, true) := by
  obtain ⟨b, q, e', w, hs, rfl, hq, hb⟩ := h.split
  have hto : x = "equal to" → ¬ "is ".toList <:+ s ++ g := by
    intro hxto hsuffix
    obtain ⟨his, hblank⟩ := blank_of_suffix h.isTight hg hsuffix
    refine hcut ⟨?_, hblank, hxto⟩
    obtain hapart | hq := hq.audible.ends
    · exact absurd (hs ▸ his) (hapart.not_suffix b)
    · have hends : ∀ p ∈ [("open parenthesis".toList, ['(']), ("close parenthesis".toList, [')'])],
          "parenthesis".toList <:+ p.1 := by decide
      exact hs ▸ (hends _ hq).trans (List.suffix_append b q)
  have hsplit : splitClosing (s ++ (g ++ x.toList)) = (s, true) := by
    obtain ⟨r, c, rfl, hc⟩ := exists_concat_of_isTight h.isTight
    rw [← List.append_assoc, splitClosing_closing hx hto, trimEnd_append_blank hc r hg]
  obtain ⟨t, ht, hte⟩ := hb q w (hq.audible.turns true)
  rw [h.hear_of_split hg hx hsplit (hs ▸ ht), hte, hq.audible.written.2]

/-- What is written where the last two letters of a parenthesis are taken for a word of the
closing. -/
def torn (e : List Char) : List Char :=
  e.dropLast ++ (if e.getLast? = some '(' then "openparenthes" else "closeparenthes").toList

theorem torn_ne_nil (e : List Char) : torn e ≠ [] := by
  unfold torn
  split <;> simp

/-- Behind a parenthesis and one blank, a closing word takes the end of the parenthesis with it. -/
theorem Says.hear_torn (h : Says s e) (hp : "parenthesis".toList <:+ s) :
    Voice.hear (s ++ ([' '] ++ "equal to".toList)) = (torn e, true) := by
  obtain ⟨b, q, e', w, hs, rfl, hq, hb⟩ := h.split
  have his : ¬ Apart "is".toList q := fun hapart => by
    have hi : "is".toList <:+ "parenthesis".toList := by decide
    exact hapart.not_suffix b (hs ▸ hi.trans hp)
  -- the two parentheses, without their last two letters
  have htorn : ∃ r : List Char, q = r ++ ['s'] ++ "is".toList ∧
      Turns operators true (r ++ ['s']) (r ++ ['s']) ∧
      torn (e' ++ w) = e' ++ (r ++ ['s']).filter fun c => !isBlank c := by
    have hpair := hq.audible.ends.resolve_left his
    simp only [List.mem_cons, List.not_mem_nil, or_false, Prod.mk.injEq] at hpair
    obtain ⟨rfl, rfl⟩ | ⟨rfl, rfl⟩ := hpair
    · refine ⟨"open parenthe".toList, by decide, by decide, ?_⟩
      have hwritten : ("open parenthe".toList ++ ['s']).filter (fun c => !isBlank c) =
          "openparenthes".toList := by decide
      rw [hwritten, torn, List.getLast?_concat, if_pos rfl, List.dropLast_concat]
    · refine ⟨"close parenthe".toList, by decide, by decide, ?_⟩
      have hwritten : ("close parenthe".toList ++ ['s']).filter (fun c => !isBlank c) =
          "closeparenthes".toList := by decide
      rw [hwritten, torn, List.getLast?_concat, if_neg (by decide), List.dropLast_concat]
  obtain ⟨r, rfl, hturns, hte⟩ := htorn
  obtain ⟨t, ht, hfilter⟩ := hb _ _ hturns
  have hsplit : splitClosing (s ++ ([' '] ++ "equal to".toList)) = (b ++ (r ++ ['s']), true) := by
    have hx : s ++ ([' '] ++ "equal to".toList) = b ++ (r ++ ['s']) ++ "is equal to".toList := by
      rw [hs]
      simp
    have hne : "is equal to" ≠ "equal to" := by decide
    rw [hx, splitClosing_closing (by decide) (absurd · hne), ← List.append_assoc]
    simpa using trimEnd_append_blank (g := []) (by decide) (b ++ r) rfl
  rw [h.hear_of_split (by decide) (by decide) hsplit ht, hfilter, hte]

end Saying

end Reckon.Voice

namespace Reckon.Session
open Text Voice

variable {τ : Type} [LE τ] [DecidableLE τ]

/-- What is said replaces the expression by what is written for it. With a closing word behind it,
after any white space, the key for the result is pressed as well; and the expression is the same,
but where the closing word takes the end of a parenthesis with it. -/
theorem listen_spoken {text e : List Char} (h : Says text e) (s : Session τ) (now : τ) :
    (s.replace e now).expression = e ∧
    s.listen text now = (s.replace e now).edited ∧
    ∀ g, isAllBlank g = true → ∀ x ∈ closings,
      s.listen (text ++ (g ++ x.toList)) now =
        if "parenthesis".toList <:+ text ∧ g = [' '] ∧ x = "equal to" then
          (s.replace (torn e) now).press .equals now
        else (s.replace e now).press .equals now := by
  have hne : e.isEmpty = false := by simpa using h.ne_nil
  refine ⟨by rw [replace_of_ne h.ne_nil]; rfl, ?_, fun g hg x hx => ?_⟩
  · simp only [listen, h.hear, hne, Bool.false_eq_true, if_false]
  · split
    · next hcut =>
      obtain ⟨hp, rfl, rfl⟩ := hcut
      have htorn : (torn e).isEmpty = false := by simpa using torn_ne_nil e
      simp only [listen, h.hear_torn hp, htorn, Bool.false_eq_true, if_false, if_true, press]
    · next hcut =>
      simp only [listen, h.hear_closing hg hx hcut, hne, Bool.false_eq_true, if_false, if_true,
        press]

/-- Digits, a phrase of two words, a tab and a constant. -/
theorem says_product : Says "12 multiplied by\tpi".toList "12×pi".toList := by
  have hdigits : IsItem "12".toList "12".toList := .digits (by decide) (by decide)
  have htimes : IsItem "multiplied by".toList ['×'] :=
    .operator (o := ("multiplied by", '×')) (by decide)
  have hpi : IsItem "pi".toList "pi".toList := .name (by decide)
  exact .more (g := [' ']) hdigits (by decide) (by decide)
    (.more (g := ['\t']) htimes (by decide) (by decide) (.item hpi))

/-- With a closing word behind it, the product is typed and evaluated. -/
theorem listen_spoken_product :
    let s : Session Int := fresh ⟨2, 1, false⟩ .scientific
    Says "12 multiplied by\tpi".toList "12×pi".toList ∧
      s.listen ("12 multiplied by\tpi".toList ++ ("\n ".toList ++ "is equal to".toList)) 0 =
        (s.replace "12×pi".toList 0).press .equals 0 := by
  have h := (listen_spoken says_product (fresh ⟨2, 1, false⟩ .scientific : Session Int) 0).2.2
    "\n ".toList (by decide) "is equal to" (by decide)
  rw [if_neg (by decide)] at h
  exact ⟨says_product, h⟩

/-- Behind a parenthesis it is not. -/
theorem parenthesis_torn :
    Says "open parenthesis 7 close parenthesis".toList "(7)".toList ∧
      "equal to" ∈ closings ∧
      let step := (fresh ⟨2, 1, false⟩ .standard : Session Int).listen
        "open parenthesis 7 close parenthesis equal to".toList 0
      step.session.expression = "(7closeparenthes".toList ∧
        step.session.result = "Error".toList := by
  have hopening : IsItem "open parenthesis".toList ['('] :=
    .operator (o := ("open parenthesis", '(')) (by decide)
  have hseven : IsItem "7".toList "7".toList := .digits (by decide) (by decide)
  have hclosing : IsItem "close parenthesis".toList [')'] :=
    .operator (o := ("close parenthesis", ')')) (by decide)
  refine ⟨?_, by decide, ?_⟩
  · exact .more (g := [' ']) hopening (by decide) (by decide)
      (.more (g := [' ']) hseven (by decide) (by decide) (.item hclosing))
  · decide +kernel

end Reckon.Session
