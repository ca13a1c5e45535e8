import Mathlib.Data.List.SplitBy
import Reckon.Proofs.Formula.Seams

/-
What is left of a text in which runs of operators are shortened. Only operators go, and what is
left has none twice in a row; a text that has none to begin with stays as it is (`filter_collapse`,
`noRun_collapse`, `collapse_eq_self_iff`). The text is cut into its runs, the longest pieces of one
and the same character (`List.splitBy`). A run of an operator is shortened to one of it, any other
run stays (`collapse_eq_runs`), for no run goes on across a cut. A text read backwards is
shortened alike, so what stands behind the last operator stands there as before
(`takeWhile_collapse`, `dropWhile_collapse`).
-/
namespace Reckon.Formula
open Text

/-! ## What is left -/

theorem head_collapse (s : List Char) : (collapse s).head? = s.head? := by
  fun_induction collapse s with
  | case1 => rfl
  | case2 c => rfl
  | case3 c d r h ih =>
    simp only [Bool.and_eq_true, decide_eq_true_eq] at h
    rw [ih, List.head?_cons, List.head?_cons, h.1]
  | case4 c d r h ih => rfl

theorem collapse_sublist (s : List Char) : (collapse s).Sublist s := by
  fun_induction collapse s with
  | case1 => exact .slnil
  | case2 c => exact .refl _
  | case3 c d r h ih => exact ih.cons c
  | case4 c d r h ih => exact ih.cons_cons c

theorem filter_collapse {p : Char → Bool} (hp : ∀ c, isRepeatable c = true → p c = false)
    (s : List Char) : (collapse s).filter p = s.filter p := by
  fun_induction collapse s with
  | case1 => rfl
  | case2 c => rfl
  | case3 c d r h ih =>
    simp only [Bool.and_eq_true] at h
    have hc : ¬ p c = true := by simp [hp c h.2]
    rw [ih, List.filter_cons_of_neg hc]
  | case4 c d r h ih => rw [List.filter_cons, List.filter_cons, ih]

/-- No operator stands twice in a row. -/
def NoRun (s : List Char) : Prop := s.IsChain fun a b => a = b → isRepeatable a = false

instance : DecidablePred NoRun := fun s =>
  inferInstanceAs (Decidable (s.IsChain fun a b => a = b → isRepeatable a = false))

theorem noRun_collapse (s : List Char) : NoRun (collapse s) := by
  fun_induction collapse s with
  | case1 => exact .nil
  | case2 c => exact .singleton c
  | case3 c d r h ih => exact ih
  | case4 c d r h ih =>
    refine List.isChain_cons.2 ⟨?_, ih⟩
    rw [head_collapse]
    rintro _ ⟨⟩ rfl
    simpa using h

theorem collapse_eq_self_iff {s : List Char} : collapse s = s ↔ NoRun s := by
  constructor
  · intro h
    have hleft := noRun_collapse s
    rwa [h] at hleft
  · intro h
    fun_induction collapse s with
    | case1 => rfl
    | case2 c => rfl
    | case3 c d r hc ih =>
      -- the two characters would be one operator
      simp only [Bool.and_eq_true, decide_eq_true_eq] at hc
      have hno := (List.isChain_cons_cons.1 h).1 hc.1
      rw [hc.2] at hno
      cases hno
    | case4 c d r hc ih => rw [ih (List.isChain_cons_cons.1 h).2]

theorem noRun_of_plain {s : List Char} (h : ∀ c ∈ s, isRepeatable c = false) : NoRun s := by
  refine List.isChain_iff_forall_rel_of_append_cons_cons.2 fun a b l r hs _ => h a ?_
  simp [hs]

/-! ## Runs -/

/-- A run as it is left: one for all if it is of an operator. -/
def shortened (run : List Char) : List Char :=
  if run.head?.any isRepeatable then run.take 1 else run

theorem collapse_replicate (n : Nat) (c : Char) :
    collapse (List.replicate (n + 1) c) = shortened (List.replicate (n + 1) c) := by
  cases hc : isRepeatable c with
  | true =>
    have hone : collapse (List.replicate (n + 1) c) = [c] := by
      induction n with
      | zero => rfl
      | succ n ih =>
        rw [List.replicate_succ, List.replicate_succ, collapse, if_pos (by simp [hc]),
          ← List.replicate_succ, ih]
    rw [hone]
    simp [shortened, List.replicate_succ, hc]
  | false =>
    have hplain : NoRun (List.replicate (n + 1) c) := by
      refine noRun_of_plain fun d hd => ?_
      rw [List.eq_of_mem_replicate hd, hc]
    rw [collapse_eq_self_iff.2 hplain]
    simp [shortened, List.replicate_succ, hc]

/-- Pieces of one character each, between which it changes, are shortened one by one. -/
theorem collapse_flatten {runs : List (List Char)}
    (hsame : ∀ run ∈ runs, ∃ n c, run = List.replicate (n + 1) c)
    (hcuts : runs.IsChain fun a b => a.getLast? ≠ b.head?) :
    collapse runs.flatten = runs.flatMap shortened := by
  induction runs with
  | nil => rfl
  | cons run runs ih =>
    rw [List.isChain_cons] at hcuts
    have hrest := ih (fun r hr => hsame r (List.mem_cons_of_mem _ hr)) hcuts.2
    obtain ⟨n, c, rfl⟩ := hsame run List.mem_cons_self
    have hseam : ∀ x ∈ (List.replicate (n + 1) c).getLast?, ∀ y ∈ runs.flatten.head?,
        x = y → isRepeatable x = false := by
      rintro x hx _ hy rfl
      cases runs with
      | nil => cases hy
      | cons next runs =>
        obtain ⟨m, d, rfl⟩ := hsame next (by simp)
        have hne := hcuts.1 _ rfl
        rw [Option.mem_def.1 hx] at hne
        exact absurd (Option.mem_def.1 hy).symm hne
    rw [List.flatten_cons, collapse_append hseam, collapse_replicate, hrest, List.flatMap_cons]

/-- Each of the longest pieces of one and the same character is shortened by itself. -/
theorem collapse_eq_runs (s : List Char) :
    collapse s = (s.splitBy (· == ·)).flatMap shortened := by
  have hsame : ∀ run ∈ s.splitBy (· == ·), ∃ n c, run = List.replicate (n + 1) c := by
    intro run hrun
    obtain ⟨c, r, rfl⟩ := List.exists_cons_of_ne_nil (List.ne_nil_of_mem_splitBy hrun)
    have hchain : (c :: r).IsChain (· = ·) := by
      simpa using List.isChain_of_mem_splitBy hrun
    exact ⟨r.length, c, List.isChain_eq_iff_eq_replicate.1 hchain c rfl⟩
  have hcuts : (s.splitBy (· == ·)).IsChain fun a b => a.getLast? ≠ b.head? := by
    refine (List.isChain_getLast_head_splitBy (· == ·) s).imp ?_
    rintro a b ⟨ha, hb, hne⟩
    rw [List.getLast?_eq_some_getLast ha, List.head?_eq_some_head hb]
    simpa using hne
  calc collapse s = collapse (s.splitBy (· == ·)).flatten := by rw [List.flatten_splitBy]
    _ = (s.splitBy (· == ·)).flatMap shortened := collapse_flatten hsame hcuts

/-! ## From behind -/

/-- A character at the end goes if it is an operator and stands in front of itself. -/
theorem collapse_concat (s : List Char) (c : Char) :
    collapse (s ++ [c]) =
      if s.getLast? = some c ∧ isRepeatable c = true then collapse s else collapse s ++ [c] := by
  fun_induction collapse s with
  | case1 => rfl
  | case2 d =>
    by_cases hd : d = c
    · subst hd
      simp [collapse]
    · simp [collapse, hd]
  | case3 d e r h ih =>
    rw [List.getLast?_cons_cons, ← ih, List.cons_append, List.cons_append, collapse, if_pos h]
  | case4 d e r h ih =>
    rw [List.getLast?_cons_cons, List.cons_append, List.cons_append, collapse, if_neg h,
      ← List.cons_append, ih]
    split <;> rfl

theorem collapse_reverse (s : List Char) : collapse s.reverse = (collapse s).reverse := by
  fun_induction collapse s with
  | case1 => rfl
  | case2 c => rfl
  | case3 c d r h ih =>
    simp only [Bool.and_eq_true, decide_eq_true_eq] at h
    have hlast : (d :: r).reverse.getLast? = some c := by simp [h.1]
    rw [List.reverse_cons, collapse_concat, if_pos ⟨hlast, h.2⟩, ih]
  | case4 c d r h ih =>
    have hlast : ¬((d :: r).reverse.getLast? = some c ∧ isRepeatable c = true) := by
      rw [List.getLast?_reverse, List.head?_cons, Option.some.injEq]
      rintro ⟨rfl, hc⟩
      simp [hc] at h
    rw [List.reverse_cons, collapse_concat, if_neg hlast, ih, List.reverse_cons]

section Classes

variable {p : Char → Bool}

/-- A run of characters that are no operators stands in front as before. -/
theorem takeWhile_collapse (hp : ∀ c, isRepeatable c = true → p c = false) (s : List Char) :
    (collapse s).takeWhile p = s.takeWhile p := by
  fun_induction collapse s with
  | case1 => rfl
  | case2 c => rfl
  | case3 c d r h ih =>
    simp only [Bool.and_eq_true, decide_eq_true_eq] at h
    obtain ⟨rfl, hc⟩ := h
    have hno := hp c hc
    rw [ih, List.takeWhile_cons_of_neg (by simp [hno]), List.takeWhile_cons_of_neg (by simp [hno])]
  | case4 c d r h ih => rw [List.takeWhile_cons, List.takeWhile_cons, ih]

theorem dropWhile_collapse (hp : ∀ c, isRepeatable c = true → p c = false) (s : List Char) :
    (collapse s).dropWhile p = collapse (s.dropWhile p) := by
  fun_induction collapse s with
  | case1 => rfl
  | case2 c => cases hc : p c <;> simp [hc, collapse]
  | case3 c d r h ih =>
    have hc := h
    simp only [Bool.and_eq_true, decide_eq_true_eq] at hc
    obtain ⟨rfl, hc⟩ := hc
    rw [ih, List.dropWhile_cons_of_neg (by simp [hp c hc]),
      List.dropWhile_cons_of_neg (by simp [hp c hc]), collapse, if_pos h]
  | case4 c d r h ih =>
    by_cases hc : p c = true
    · rw [List.dropWhile_cons_of_pos hc, List.dropWhile_cons_of_pos hc, ih]
    · rw [List.dropWhile_cons_of_neg hc, List.dropWhile_cons_of_neg hc, collapse, if_neg h]

end Classes

end Reckon.Formula
