import Mathlib.Data.List.Basic
import Reckon.Session.Voice

/-
Replacing the words for operators, piece by piece. A text is a row of pieces with white space
between them (`Spaced`). Since white space is no part of a word and no phrase starts with it, one
pass over the text changes each piece for itself: a piece that is the phrase becomes its symbol,
and a piece in which the phrase does not start anywhere stays (`clear`). So the passes for all
operators, one after the other, come to what they do to each piece (`foldl_replace`).
-/
namespace Reckon.Text

/-- No number lies in ranges of both lists. -/
def Ranges.areApart (as bs : Ranges) : Bool :=
  as.all fun a => bs.all fun b => a.2.blt b.1 || b.2.blt a.1

theorem Ranges.not_has_of_areApart {as bs : Ranges} (h : as.areApart bs = true) {n : Nat}
    (ha : as.has n = true) : bs.has n = false := by
  obtain ⟨a, ha, hna⟩ := List.any_eq_true.1 ha
  refine List.any_eq_false.2 fun b hb => ?_
  have hab := List.all_eq_true.1 (List.all_eq_true.1 h a ha) b hb
  simp only [Bool.and_eq_true, Bool.or_eq_true, decide_eq_true_eq, Nat.blt_eq] at hna hab ⊢
  omega

end Reckon.Text

namespace Reckon.Voice
open Text

/-! ## White space -/

theorem isWord_of_wide {c : Char} (h : 128 ≤ c.toNat) :
    isWord c = wideAlphanumerics.has c.toNat := by
  have hle (d : Char) (hd : d.toNat < 128) : ¬ c ≤ d := fun hcd => by
    have : c.toNat ≤ d.toNat := hcd
    omega
  have hne : c ≠ '_' := by
    rintro rfl
    exact absurd h (by decide)
  simp [isWord, isAsciiDigit, isAsciiLetter, hle, hne, h]

theorem isWord_of_isBlank {c : Char} (h : isBlank c = true) : isWord c = false := by
  have hascii : ∀ n < 128, blanks.has n = true → isWord (Char.ofNat n) = false := by decide
  have hapart : blanks.areApart wideAlphanumerics = true := by decide +kernel
  by_cases hc : c.toNat < 128
  · have := hascii c.toNat hc h
    rwa [Char.ofNat_toNat] at this
  · rw [isWord_of_wide (Nat.le_of_not_lt hc)]
    exact Ranges.not_has_of_areApart hapart h

/-! ## One phrase -/

/-- There is a word character in front of what follows a text. -/
def inWordAfter (inWord : Bool) (q : List Char) : Bool := q.foldl (fun _ c => isWord c) inWord

/-- The phrase does not start in the text, whatever follows it, or in the text as it is if
nothing does. -/
def clear (phrase : List Char) (atEnd : Bool) : Bool → List Char → Bool
  | _, [] => true
  | inWord, c :: r =>
    (inWord || !phrase.isPrefixOf (c :: r) && (atEnd || !(c :: r).isPrefixOf phrase)) &&
      clear phrase atEnd (isWord c) r

section Phrase

variable {phrase q t : List Char} {symbol : Char} {atEnd inWord : Bool}

/-- A phrase does not start in a text without its first character. -/
theorem clear_of_not_mem {c : Char} {p : List Char} (h : c ∉ q) :
    clear (c :: p) atEnd inWord q = true := by
  induction q generalizing inWord with
  | nil => rfl
  | cons d q ih =>
    have hd : c ≠ d := List.ne_of_not_mem_cons h
    simp [clear, ih (List.not_mem_of_not_mem_cons h), List.isPrefixOf, hd, Ne.symm hd]

theorem replaceFrom_append_of_clear (h : clear phrase atEnd inWord q = true)
    (ht : atEnd = true → t = []) :
    replaceFrom phrase symbol 0 inWord (q ++ t) =
      q ++ replaceFrom phrase symbol 0 (inWordAfter inWord q) t := by
  induction q generalizing inWord with
  | nil => rfl
  | cons c q ih =>
    simp only [clear, Bool.and_eq_true] at h
    obtain ⟨hstart, hrest⟩ := h
    -- what follows cannot complete the phrase
    have hno : (!inWord && phrase.isPrefixOf (c :: (q ++ t))) = false := by
      cases inWord with
      | true => rfl
      | false =>
        simp only [Bool.false_or, Bool.and_eq_true, Bool.not_eq_true', Bool.or_eq_true] at hstart
        obtain ⟨hp, hq⟩ := hstart
        rw [Bool.not_false, Bool.true_and, Bool.eq_false_iff, Ne, List.isPrefixOf_iff_prefix]
        intro hpre
        obtain he | hq := hq
        · rw [ht he, List.append_nil] at hpre
          rw [Bool.eq_false_iff] at hp
          exact hp (List.isPrefixOf_iff_prefix.2 hpre)
        · rw [Bool.eq_false_iff] at hp hq
          have hsum : c :: q <+: c :: (q ++ t) := List.prefix_append (c :: q) t
          obtain h | h := List.prefix_or_prefix_of_prefix hpre hsum
          · exact hp (List.isPrefixOf_iff_prefix.2 h)
          · exact hq (List.isPrefixOf_iff_prefix.2 h)
    rw [List.cons_append, replaceFrom, hno]
    simp [ih hrest, inWordAfter]

theorem replaceFrom_skip (q t : List Char) (inWord : Bool) :
    replaceFrom phrase symbol q.length inWord (q ++ t) =
      replaceFrom phrase symbol 0 (inWordAfter inWord q) t := by
  induction q generalizing inWord with
  | nil => rfl
  | cons c q ih => exact ih (isWord c)

/-- A phrase at which a word starts and ends becomes its symbol. -/
theorem replaceFrom_phrase (hp : phrase ≠ []) (ht : endsWord t = true) :
    replaceFrom phrase symbol 0 false (phrase ++ t) =
      symbol :: replaceFrom phrase symbol 0 (inWordAfter false phrase) t := by
  obtain ⟨c, p, rfl⟩ := List.exists_cons_of_ne_nil hp
  have hpre : (c :: p).isPrefixOf (c :: (p ++ t)) = true :=
    List.isPrefixOf_iff_prefix.2 (List.prefix_append (c :: p) t)
  have hdrop : (c :: (p ++ t)).drop (c :: p).length = t := by simp
  rw [List.cons_append, replaceFrom, hpre, hdrop, ht]
  exact congrArg (symbol :: ·) (replaceFrom_skip p t (isWord c))

end Phrase

/-! ## Pieces with white space between them -/

/-- Two texts with the same white space, between pieces that are related; the last pieces have
nothing behind them. -/
inductive Spaced (R : Bool → List Char → List Char → Prop) : List Char → List Char → Prop
  | last {q w : List Char} : R true q w → Spaced R q w
  | more {q w g s t : List Char} : R false q w → g ≠ [] → isAllBlank g = true →
      Spaced R s t → Spaced R (q ++ (g ++ s)) (w ++ (g ++ t))

/-- What becomes of a piece where the phrases are replaced one after the other. -/
def turned : List (String × Char) → List Char → List Char
  | [], q => q
  | o :: os, q => turned os (if q = o.1.toList then [o.2] else q)

/-- Each phrase, when its turn comes, is the piece or does not start in it. -/
def settles (atEnd : Bool) : List (String × Char) → List Char → Bool
  | [], _ => true
  | o :: os, q =>
    if q = o.1.toList then settles atEnd os [o.2]
    else clear o.1.toList atEnd false q && settles atEnd os q

/-- What the operators make of a piece. -/
def Turns (os : List (String × Char)) (atEnd : Bool) (q w : List Char) : Prop :=
  settles atEnd os q = true ∧ turned os q = w

instance (os : List (String × Char)) (atEnd : Bool) (q w : List Char) :
    Decidable (Turns os atEnd q w) := inferInstanceAs (Decidable (_ ∧ _))

/-- A phrase starts with something that is no white space. -/
def IsPhrase (phrase : List Char) : Prop :=
  ∃ c p, phrase = c :: p ∧ isBlank c = false

theorem inWordAfter_of_blank {g : List Char} (hne : g ≠ []) (hg : isAllBlank g = true)
    (inWord : Bool) : inWordAfter inWord g = false := by
  obtain ⟨b, c, rfl⟩ := List.eq_nil_or_concat' g |>.resolve_left hne
  have hc : isBlank c = true := List.all_eq_true.1 hg c (by simp)
  simp [inWordAfter, isWord_of_isBlank hc]

theorem endsWord_of_blank {g : List Char} (hne : g ≠ []) (hg : isAllBlank g = true)
    (s : List Char) : endsWord (g ++ s) = true := by
  obtain ⟨c, r, rfl⟩ := List.exists_cons_of_ne_nil hne
  have hc : isBlank c = true := List.all_eq_true.1 hg c (by simp)
  simp [endsWord, isWord_of_isBlank hc]

section Passes

variable {o : String × Char} {os : List (String × Char)}

/-- What a pass makes of a piece, if white space or nothing follows it. -/
theorem replaceFrom_piece {q t w : List Char} {atEnd : Bool} (hp : IsPhrase o.1.toList)
    (hq : Turns (o :: os) atEnd q w) (hend : atEnd = true → t = []) (ht : endsWord t = true) :
    ∃ q' inWord, Turns os atEnd q' w ∧
      replaceFrom o.1.toList o.2 0 false (q ++ t) =
        q' ++ replaceFrom o.1.toList o.2 0 inWord t := by
  obtain ⟨hs, hw⟩ := hq
  simp only [settles, turned] at hs hw
  split at hs
  · next heq =>
    obtain ⟨c, p, hcp, _⟩ := hp
    rw [if_pos heq] at hw
    refine ⟨[o.2], inWordAfter false o.1.toList, ⟨hs, hw⟩, ?_⟩
    rw [heq, replaceFrom_phrase (by simp [hcp]) ht]
    rfl
  · next hne =>
    rw [if_neg hne] at hw
    obtain ⟨hclear, hs⟩ := Bool.and_eq_true_iff.1 hs
    exact ⟨q, inWordAfter false q, ⟨hs, hw⟩, replaceFrom_append_of_clear hclear hend⟩

theorem replaceFrom_blank {g : List Char} (hp : IsPhrase o.1.toList) (hne : g ≠ [])
    (hg : isAllBlank g = true) (inWord : Bool) (s : List Char) :
    replaceFrom o.1.toList o.2 0 inWord (g ++ s) = g ++ replace o.1.toList o.2 s := by
  obtain ⟨c, p, hcp, hc⟩ := hp
  have hnot : c ∉ g := fun h => by simp [List.all_eq_true.1 hg c h] at hc
  have hclear : clear o.1.toList false inWord g = true := hcp ▸ clear_of_not_mem hnot
  rw [replaceFrom_append_of_clear hclear (by simp), inWordAfter_of_blank hne hg, replace]

theorem Spaced.replace {s t : List Char} (hp : IsPhrase o.1.toList)
    (h : Spaced (Turns (o :: os)) s t) :
    Spaced (Turns os) (replace o.1.toList o.2 s) t := by
  induction h with
  | @last q w hq =>
    obtain ⟨q', _, hq', hr⟩ := replaceFrom_piece (t := []) hp hq (fun _ => rfl) rfl
    rw [List.append_nil, replaceFrom, List.append_nil] at hr
    rw [Voice.replace, hr]
    exact .last hq'
  | @more q w g s t hq hne hg _ ih =>
    obtain ⟨q', inWord, hq', hr⟩ :=
      replaceFrom_piece (t := g ++ s) hp hq (by simp) (endsWord_of_blank hne hg s)
    rw [Voice.replace, hr, replaceFrom_blank hp hne hg]
    exact .more hq' hne hg ih

theorem foldl_replace {s t : List Char} (hp : ∀ o ∈ os, IsPhrase o.1.toList)
    (h : Spaced (Turns os) s t) :
    os.foldl (fun s p => Voice.replace p.1.toList p.2 s) s = t := by
  induction os generalizing s with
  | nil =>
    induction h with
    | last hq => exact hq.2
    | more hq _ _ _ ih => rw [← hq.2]; simpa [turned] using ih
  | cons o os ih =>
    exact ih (fun o ho => hp o (List.mem_cons_of_mem _ ho)) (h.replace (hp o List.mem_cons_self))

end Passes

end Reckon.Voice
