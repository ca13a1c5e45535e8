import Mathlib.Data.List.Infix
import Reckon.Proofs.Formula.Runs

/-
The parentheses of a repaired text. Parentheses are counted in the text as a whole, but whether they
are nested is a matter of what stands in front: a text is nested if no beginning of it closes more
of them than it has opened, and all that are opened are closed (`nested_iff`). What a repair does is
seen by the second condition only. Shortened runs have no parentheses in them, and those that are
added stand behind all the others, so the first condition holds of the repaired text if it holds of
the one that was typed (`opensFirst_collapse`, `opensFirst_balance`), and the repaired text is
nested exactly then (`repaired_text`).
-/
namespace Reckon.Formula

/-! ## Nested texts -/

/-- Every parenthesis has its partner, and there is a nested text between the two. -/
inductive Nested : List Char → Prop
  | nil : Nested []
  | char {c : Char} {s : List Char} : c ≠ '(' → c ≠ ')' → Nested s → Nested (c :: s)
  | group {s t : List Char} : Nested s → Nested t → Nested ('(' :: s ++ ')' :: t)

/-- Nowhere have more parentheses been closed than opened. -/
def OpensFirst (s : List Char) : Prop := ∀ p, p <+: s → p.count ')' ≤ p.count '('

/-- A text that closes so many parentheses more than it opens, and is nested apart from that. -/
inductive Closes : Nat → List Char → Prop
  | nested {s : List Char} : Nested s → Closes 0 s
  | closing {n : Nat} {s t : List Char} : Nested s → Closes n t → Closes (n + 1) (s ++ ')' :: t)

theorem Closes.char {n : Nat} {c : Char} {s : List Char} (ho : c ≠ '(') (hc : c ≠ ')')
    (h : Closes n s) : Closes n (c :: s) := by
  cases h with
  | nested hs => exact .nested (.char ho hc hs)
  | closing hs ht => exact .closing (.char ho hc hs) ht

/-- The first parenthesis that is closed is the one in front. -/
theorem Closes.opening {n : Nat} {s : List Char} (h : Closes (n + 1) s) :
    Closes n ('(' :: s) := by
  cases h with
  | closing hs ht =>
    cases ht with
    | nested ht => exact .nested (.group hs ht)
    | closing hb hu =>
      rw [← List.cons_append, ← List.cons_append, ← List.append_assoc]
      exact .closing (.group hs hb) hu

theorem closes_of_count {n : Nat} {s : List Char}
    (hfirst : ∀ p, p <+: s → p.count ')' ≤ n + p.count '(')
    (hall : s.count ')' = n + s.count '(') : Closes n s := by
  -- `n` is the number of parentheses that are open where `s` starts
  induction s generalizing n with
  | nil =>
    obtain rfl : n = 0 := by simpa using hall.symm
    exact .nested .nil
  | cons c s ih =>
    have hbehind {p : List Char} (hp : p <+: s) :=
      hfirst (c :: p) (List.cons_prefix_cons.2 ⟨rfl, hp⟩)
    by_cases ho : c = '('
    · subst ho
      refine .opening (ih (fun p hp => ?_) ?_)
      · have hle := hbehind hp
        simp at hle
        omega
      · simp at hall
        omega
    by_cases hc : c = ')'
    · subst hc
      have hone : 1 ≤ n := by simpa using hbehind List.nil_prefix
      obtain ⟨m, rfl⟩ := Nat.exists_eq_add_of_le' hone
      refine .closing (s := []) .nil (ih (fun p hp => ?_) ?_)
      · have hle := hbehind hp
        simp at hle
        omega
      · simp at hall
        omega
    · refine .char ho hc (ih (fun p hp => ?_) ?_)
      · simpa [List.count_cons_of_ne ho, List.count_cons_of_ne hc] using hbehind hp
      · simpa [List.count_cons_of_ne ho, List.count_cons_of_ne hc] using hall

theorem prefix_append_cases {p a b : List Char} (h : p <+: a ++ b) :
    p <+: a ∨ ∃ q, q <+: b ∧ p = a ++ q := by
  obtain ⟨r, hr⟩ := h
  obtain ⟨q, rfl, _⟩ | ⟨q, rfl, rfl⟩ := List.append_eq_append_iff.1 hr
  · exact .inl (List.prefix_append p q)
  · exact .inr ⟨q, List.prefix_append q r, rfl⟩

theorem Nested.count_eq {s : List Char} (h : Nested s) : s.count ')' = s.count '(' := by
  induction h with
  | nil => rfl
  | char ho hc _ ih => rw [List.count_cons_of_ne hc, List.count_cons_of_ne ho, ih]
  | group _ _ ihs iht =>
    simp
    omega

theorem Nested.opensFirst {s : List Char} (h : Nested s) : OpensFirst s := by
  induction h with
  | nil =>
    intro p hp
    rw [List.prefix_nil.1 hp]
    rfl
  | char ho hc _ ih =>
    intro p hp
    obtain rfl | ⟨q, rfl, hq⟩ := List.prefix_cons_iff.1 hp
    · rfl
    · rw [List.count_cons_of_ne hc, List.count_cons_of_ne ho]
      exact ih q hq
  | @group s t hs _ ihs iht =>
    -- a beginning ends in front of the group, inside it, or behind it
    have hcount := hs.count_eq
    intro p hp
    obtain rfl | ⟨q, rfl, hq⟩ := List.prefix_cons_iff.1 hp
    · rfl
    obtain hinside | ⟨q, hbehind, rfl⟩ := prefix_append_cases hq
    · have hle := ihs q hinside
      simp
      omega
    · obtain rfl | ⟨u, rfl, hu⟩ := List.prefix_cons_iff.1 hbehind
      · simp
        omega
      · have hle := iht u hu
        simp
        omega

/-- Nested is a text that opens parentheses before it closes them, and closes all of them. -/
theorem nested_iff {s : List Char} :
    Nested s ↔ OpensFirst s ∧ s.count ')' = s.count '(' := by
  constructor
  · intro h
    exact ⟨h.opensFirst, h.count_eq⟩
  · rintro ⟨hfirst, hall⟩
    have hcloses : Closes 0 s :=
      closes_of_count (fun p hp => by simpa using hfirst p hp) (by simpa using hall)
    cases hcloses with
    | nested h => exact h

instance : DecidablePred OpensFirst := fun s =>
  decidable_of_iff (∀ p ∈ s.inits, p.count ')' ≤ p.count '(') (by simp [OpensFirst])

instance : DecidablePred Nested := fun _ => decidable_of_iff _ nested_iff.symm

/-! ## Parentheses of a repaired text -/

theorem opensFirst_filter {p : Char → Bool} (ho : p '(' = true) (hc : p ')' = true)
    (s : List Char) : OpensFirst (s.filter p) ↔ OpensFirst s := by
  constructor
  · intro h q hq
    have hle := h (q.filter p) (List.prefix_filter_iff.2 ⟨q, hq, rfl⟩)
    rwa [List.count_filter ho, List.count_filter hc] at hle
  · intro h q hq
    obtain ⟨t, ht, rfl⟩ := List.prefix_filter_iff.1 hq
    rw [List.count_filter ho, List.count_filter hc]
    exact h t ht

theorem opensFirst_collapse (s : List Char) : OpensFirst (collapse s) ↔ OpensFirst s := by
  have hkept : (collapse s).filter (!isRepeatable ·) = s.filter (!isRepeatable ·) :=
    filter_collapse (fun c hc => by simp [hc]) s
  rw [← opensFirst_filter (p := (!isRepeatable ·)) rfl rfl, hkept, opensFirst_filter rfl rfl]

theorem count_opening_balance (s : List Char) : (balance s).count '(' = s.count '(' := by
  simp [balance, List.count_append, List.count_replicate]

theorem count_closing_balance (s : List Char) :
    (balance s).count ')' = s.count ')' + missing s := by
  simp [balance, List.count_append]

theorem opensFirst_balance (s : List Char) : OpensFirst (balance s) ↔ OpensFirst s := by
  constructor
  · intro h p hp
    exact h p (hp.trans (List.prefix_append s _))
  · intro h p hp
    obtain hp | ⟨q, hq, rfl⟩ := prefix_append_cases hp
    · exact h p hp
    · -- of those that are added no more are closed than are open
      obtain ⟨hlen, hq⟩ := List.prefix_replicate_iff.1 hq
      have hle := h s List.prefix_rfl
      rw [hq]
      simp [List.count_append, List.count_replicate, missing] at hlen ⊢
      omega

theorem nested_balance_iff (s : List Char) : Nested (balance s) ↔ OpensFirst s := by
  rw [nested_iff, opensFirst_balance, count_opening_balance, count_closing_balance]
  refine and_iff_left_of_imp fun h => ?_
  have hle := h s List.prefix_rfl
  simp only [missing]
  omega

/-- No parenthesis is missing in a text to which the missing ones were added. -/
theorem missing_balance (s : List Char) : missing (balance s) = 0 := by
  rw [missing, count_opening_balance, count_closing_balance, missing]
  omega

theorem balance_eq_self_iff {s : List Char} : balance s = s ↔ missing s = 0 := by
  simp [balance]

/-- The closing parentheses that are added make no run. -/
theorem noRun_balance {s : List Char} (h : NoRun s) : NoRun (balance s) := by
  refine List.isChain_append.2 ⟨h, noRun_of_plain fun c hc => ?_, ?_⟩
  · rw [List.eq_of_mem_replicate hc]
    rfl
  · rintro x _ y hy rfl
    rw [List.eq_of_mem_replicate (List.mem_of_mem_head? hy)]
    rfl

/-- What a repair comes to: each run of an operator is one of it, all else stands as it stood, and
the closing parentheses that are missing stand at the end. No operator is left twice in a row, and
no parenthesis is left open. The text is nested exactly if none was closed before it was opened, and
it is the one that was typed exactly if there was nothing to repair. -/
theorem repaired_text {s r : List Char} (h : repair s = .ok r) :
    r = collapse s ++ List.replicate (s.count '(' - s.count ')') ')' ∧
    collapse s = (s.splitBy (· == ·)).flatMap shortened ∧
    NoRun r ∧
    r.count '(' ≤ r.count ')' ∧
    (Nested r ↔ OpensFirst s) ∧
    (r = s ↔ NoRun s ∧ s.count '(' ≤ s.count ')') := by
  have hr := eq_balance_of_repair h
  have hrun : NoRun r := hr ▸ noRun_balance (noRun_collapse s)
  have hcount : r.count '(' ≤ r.count ')' := by
    have hnone := missing_balance (collapse s)
    rw [← hr, missing] at hnone
    omega
  refine ⟨?_, collapse_eq_runs s, hrun, hcount, ?_, ?_⟩
  · rw [hr, balance, missing_collapse, missing]
  · rw [hr, nested_balance_iff, opensFirst_collapse]
  · constructor
    · rintro rfl
      exact ⟨hrun, hcount⟩
    · rintro ⟨hs, hle⟩
      have hnone : missing s = 0 := by
        rw [missing]
        omega
      rw [hr, collapse_eq_self_iff.2 hs, balance_eq_self_iff.2 hnone]

/-- A text with a run of an operator and two parentheses that are not closed. -/
theorem repaired_text_openProduct :
    repair "2*((3++4".toList = .ok "2*((3+4))".toList ∧
    OpensFirst "2*((3++4".toList ∧ Nested "2*((3+4))".toList ∧
    "2*((3+4))".toList ≠ "2*((3++4".toList := by
  have h : repair "2*((3++4".toList = .ok "2*((3+4))".toList := by decide
  have hfirst : OpensFirst "2*((3++4".toList := by decide
  obtain ⟨_, _, _, _, hnested, hsame⟩ := repaired_text h
  exact ⟨h, hfirst, hnested.2 hfirst, fun heq => absurd (hsame.1 heq).1 (by decide)⟩

end Reckon.Formula
