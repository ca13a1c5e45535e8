import Reckon.Formula.Screen
import Reckon.Proofs.Formula.Delimited
import Reckon.Proofs.Outcome

/-
The gate of Standard mode. It reads the names of a text, and a text has a name where its words have
one. So an advanced name is not let pass if it is a word, and it is one wherever it stands apart
from other characters of names: no number literal takes its first letter, and no name goes on around
it (`tokens_of_apart`). That a name is listed once only does not matter for the first one that is
advanced (`find?_firstOccurrences`), so the gate reports the first advanced word of the text
(`forbidden?_names_eq_some_iff`).
-/
namespace Reckon.Formula

/-! ## The first name that is not let pass -/

/-- The word is a name that only Scientific mode lets pass. -/
def Token.isAdvanced (t : Token) : Bool := t.name?.any Formula.isAdvanced

/-- Copies of what came before are never found first. -/
theorem find?_firstOccurrences {p : String → Bool} {seen : List String}
    (hseen : ∀ n ∈ seen, p n = false) (l : List String) :
    (firstOccurrences seen l).find? p = l.find? p := by
  fun_induction firstOccurrences seen l with
  | case1 => rfl
  | case2 seen n r hn ih =>
    have hp : p n = false := hseen n (List.contains_iff_mem.1 hn)
    rw [List.find?_cons_of_neg (by simp [hp])]
    exact ih hseen
  | case3 seen n r _ ih =>
    cases hp : p n with
    | true => rw [List.find?_cons_of_pos hp, List.find?_cons_of_pos hp]
    | false =>
      rw [List.find?_cons_of_neg (by simp [hp]), List.find?_cons_of_neg (by simp [hp])]
      exact ih fun m hm => by
        obtain rfl | hm := List.mem_cons.1 hm
        · exact hp
        · exact hseen m hm

theorem Token.name?_eq_some_iff {t : Token} {n : String} :
    t.name? = some n ↔ t = .name n.toList := by
  cases t with
  | number w => simp [Token.name?]
  | other c => simp [Token.name?]
  | name w =>
    simp only [Token.name?, Option.some.injEq, Token.name.injEq]
    exact ⟨fun h => by simp [← h], fun h => by simp [h]⟩

theorem forbidden?_names (s : List Char) :
    forbidden? .standard (names s) = ((tokens s).find? Token.isAdvanced).bind Token.name? := by
  rw [forbidden?, names, find?_firstOccurrences (by simp), List.find?_filterMap]
  rfl

/-- The name that is not let pass is the first advanced word. -/
theorem forbidden?_names_eq_some_iff {s : List Char} {n : String} :
    forbidden? .standard (names s) = some n ↔
      ∃ before after, tokens s = before ++ .name n.toList :: after ∧
        Formula.isAdvanced n = true ∧ ∀ t ∈ before, t.isAdvanced = false := by
  simp only [forbidden?_names, Option.bind_eq_some_iff, List.find?_eq_some_iff_append,
    Token.name?_eq_some_iff]
  constructor
  · rintro ⟨_, ⟨hn, before, after, hs, hbefore⟩, rfl⟩
    exact ⟨before, after, hs, by simpa [Token.isAdvanced, Token.name?] using hn,
      fun t ht => by simpa using hbefore t ht⟩
  · rintro ⟨before, after, hs, hn, hbefore⟩
    exact ⟨_, ⟨by simpa [Token.isAdvanced, Token.name?] using hn, before, after, hs,
      fun t ht => by simpa using hbefore t ht⟩, rfl⟩

theorem forbidden?_names_eq_none_iff {s : List Char} :
    forbidden? .standard (names s) = none ↔ ∀ t ∈ tokens s, t.isAdvanced = false := by
  rw [forbidden?_names, Option.bind_eq_none_iff]
  constructor
  · intro h t ht
    by_contra hadv
    -- an advanced word is a name, so the first of them has one
    rw [Bool.not_eq_false] at hadv
    obtain ⟨u, hu⟩ := Option.isSome_iff_exists.1 (List.find?_isSome.2 ⟨t, ht, hadv⟩)
    have hname : u.isAdvanced = true := List.find?_some hu
    simp [Token.isAdvanced, h u hu] at hname
  · intro h t ht
    have hadv := h t (List.mem_of_find?_eq_some ht)
    rw [List.find?_some ht] at hadv
    cases hadv

/-! ## The gate behind a repair -/

theorem authorize_eq_ok_iff {l : List String} {mode : Mode} :
    authorize l mode = .ok () ↔ forbidden? mode l = none := by
  rw [authorize]
  cases forbidden? mode l <;> simp

theorem ready_eq_ok_iff {s r : List Char} {mode : Mode} :
    ready s mode = .ok r ↔
      repair (normalize s) = .ok r ∧ authorize (names r) mode = .ok () := by
  rw [ready]
  cases repair (normalize s) with
  | error f => simp
  | ok t =>
    simp only [ok_bind, Except.ok.injEq]
    constructor
    · intro h
      cases ha : authorize (names t) mode with
      | error f =>
        rw [ha] at h
        cases h
      | ok u =>
        rw [ha] at h
        cases h
        exact ⟨rfl, ha⟩
    · rintro ⟨rfl, ha⟩
      rw [ha]
      rfl

theorem ready_eq_error_iff {s r : List Char} {mode : Mode} {f : Fault}
    (h : repair (normalize s) = .ok r) :
    ready s mode = .error f ↔ ∃ n, f = .forbidden n mode ∧ forbidden? mode (names r) = some n := by
  rw [ready, h, ok_bind, authorize]
  cases forbidden? mode (names r) with
  | none => simp [pure, Except.pure]
  | some n => simp [eq_comm]

/-- The gate of Standard mode is exact. A repaired text is refused if an advanced name stands apart
in it; when it is refused, it is for the first of its words that is an advanced name; and without
such a word it is as ready as for Scientific mode. -/
theorem standard_gate {s r : List Char} (h : repair (normalize s) = .ok r) :
    (∀ (n : String) (u v : List Char), r = u ++ (n.toList ++ v) → isAdvanced n = true →
      u.getLast?.any isNameChar = false → v.head?.any isNameChar = false →
      ∃ m, ready s .standard = .error (.forbidden m .standard)) ∧
    (∀ f, ready s .standard = .error f ↔
      ∃ n before after, f = .forbidden n .standard ∧
        tokens r = before ++ .name n.toList :: after ∧ isAdvanced n = true ∧
        ∀ t ∈ before, t.isAdvanced = false) ∧
    (ready s .standard = .ok r ↔ ∀ t ∈ tokens r, t.isAdvanced = false) ∧
    ready s .scientific = .ok r := by
  refine ⟨fun n u v hr hn hu hv => ?_, fun f => ?_, ?_, ready_eq_ok_iff.2 ⟨h, rfl⟩⟩
  · have hword : Token.name n.toList ∈ tokens r := by
      rw [hr, tokens_of_apart (lettered_of_isAdvanced hn) hu hv]
      simp
    cases hm : forbidden? .standard (names r) with
    | some m => exact ⟨m, (ready_eq_error_iff h).2 ⟨m, rfl, hm⟩⟩
    | none =>
      have hpassed := forbidden?_names_eq_none_iff.1 hm _ hword
      simp [Token.isAdvanced, Token.name?, hn] at hpassed
  · simp only [ready_eq_error_iff h, forbidden?_names_eq_some_iff, exists_and_left]
  · rw [ready_eq_ok_iff, and_iff_right h, authorize_eq_ok_iff, forbidden?_names_eq_none_iff]

/-- Two advanced names behind a number with an exponent, the first of which has a digit in it. -/
theorem standard_gate_logarithm :
    repair (normalize "2e5×log10(1)+sin(2".toList) = .ok "2e5*log10(1)+sin(2)".toList ∧
    ready "2e5×log10(1)+sin(2".toList .standard = .error (.forbidden "log10" .standard) ∧
    ready "2e5×log10(1)+sin(2".toList .scientific = .ok "2e5*log10(1)+sin(2)".toList := by
  have h : repair (normalize "2e5×log10(1)+sin(2".toList) = .ok "2e5*log10(1)+sin(2)".toList := by
    decide +kernel
  obtain ⟨_, hfault, _, hscientific⟩ := standard_gate h
  have hwords : tokens "2e5*log10(1)+sin(2)".toList =
      [.number "2e5".toList, .other '*'] ++ .name "log10".toList ::
        tokens "(1)+sin(2)".toList := by
    decide +kernel
  exact ⟨h, (hfault _).2 ⟨"log10", _, _, rfl, hwords, by decide, by decide⟩,
    hscientific⟩

end Reckon.Formula
