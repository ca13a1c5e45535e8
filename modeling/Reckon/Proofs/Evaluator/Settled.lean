import Reckon.Evaluator
import Reckon.Proofs.Formula.Gate
import Reckon.Proofs.Formula.Nesting

/-
Texts that are ready already. Whatever comes out of a repair has no display signs, no runs, no
parenthesis missing and no call left open (`settled_of_repair`), and these are the texts that a
repair leaves as they are (`settled_iff`): an added parenthesis is no sign of an operator, and a
text that ends with one opens no call. So a text that was made ready for a mode is made ready once
more without a change. In another mode it is let pass or refused as the text it came from, for the
names that are looked at are those of the repaired text, which is the same for both.
-/
namespace Reckon.Formula

/-! ## What a repair leaves as it is -/

/-- A text with nothing to replace, to shorten, to close or to refuse. -/
structure Settled (s : List Char) : Prop where
  plain : ∀ c ∈ s, operatorOf c = c
  noRun : NoRun s
  closed : missing s = 0
  complete : incompleteCall? s = none

theorem normalize_eq_self_iff {s : List Char} :
    normalize s = s ↔ ∀ c ∈ s, operatorOf c = c := by
  induction s with
  | nil => simp [normalize]
  | cons c s ih =>
    rw [normalize, List.map_cons, List.cons.injEq, List.forall_mem_cons]
    exact and_congr_right fun _ => ih

/-- Only a display sign is replaced, and by a character that is none. -/
theorem operatorOf_operatorOf (c : Char) : operatorOf (operatorOf c) = operatorOf c := by
  simpa [normalize] using normalize_normalize [c]

/-- A text is settled exactly if it is neither replaced nor repaired. -/
theorem settled_iff {s : List Char} : Settled s ↔ normalize s = s ∧ repair s = .ok s := by
  rw [normalize_eq_self_iff, repair_eq_ok_iff]
  constructor
  · intro h
    rw [collapse_eq_self_iff.2 h.noRun, balance_eq_self_iff.2 h.closed]
    exact ⟨h.plain, h.complete, rfl⟩
  · rintro ⟨hplain, hcall, hs⟩
    have hrun : NoRun s := hs ▸ noRun_balance (noRun_collapse s)
    rw [collapse_eq_self_iff.2 hrun] at hcall hs
    exact ⟨hplain, hrun, balance_eq_self_iff.1 hs.symm, hcall⟩

/-- A text to which parentheses were added opens no call. -/
theorem incompleteCall?_balance {s : List Char} (h : incompleteCall? s = none) :
    incompleteCall? (balance s) = none := by
  cases hm : missing s with
  | zero => rwa [balance_eq_self_iff.2 hm]
  | succ n =>
    rw [balance, hm, List.replicate_succ', ← List.append_assoc]
    exact incompleteCall?_of_last rfl (by decide)

theorem settled_of_repair {s r : List Char} (h : repair (normalize s) = .ok r) : Settled r := by
  obtain ⟨hcall, rfl⟩ := repair_eq_ok_iff.1 h
  refine ⟨fun c hc => ?_, noRun_balance (noRun_collapse _), missing_balance _,
    incompleteCall?_balance hcall⟩
  -- a character of the repaired text was there before, or it is a parenthesis that was added
  obtain hkept | hadded := List.mem_append.1 hc
  · obtain ⟨d, _, rfl⟩ := List.mem_map.1 ((collapse_sublist _).subset hkept)
    exact operatorOf_operatorOf d
  · rw [List.eq_of_mem_replicate hadded]
    rfl

theorem ready_congr {s t : List Char} (h : repair (normalize s) = repair (normalize t))
    (mode : Mode) : ready s mode = ready t mode := by
  rw [ready, ready, h]

end Reckon.Formula

namespace Reckon.Evaluator
open Formula

/-- A text that is ready stays as it is: there is nothing in it to replace, to repair or to refuse,
so it is ready as it stands, and every mode makes of it and shows for it what it makes of the text
that was typed. -/
theorem ready_settled {s r : List Char} {mode : Mode} (h : ready s mode = .ok r) :
    normalize r = r ∧ repair r = .ok r ∧ authorize (names r) mode = .ok () ∧
    ready r mode = .ok r ∧
    ∀ room m, ready r m = ready s m ∧ display room m r = display room m s := by
  obtain ⟨hrepair, hgate⟩ := ready_eq_ok_iff.1 h
  obtain ⟨hplain, hsame⟩ := settled_iff.1 (settled_of_repair hrepair)
  have hready (m : Mode) : ready r m = ready s m :=
    ready_congr (by rw [hplain, hsame, hrepair]) m
  refine ⟨hplain, hsame, hgate, (hready mode).trans h, fun room m => ⟨hready m, ?_⟩⟩
  rw [display, display, hready m]

/-- A text in which the two display signs become a run, and a parenthesis is added. -/
theorem ready_settled_signs :
    ready "2−-abs(3×4".toList .standard = .ok "2-abs(3*4)".toList ∧
    ready "2-abs(3*4)".toList .standard = .ok "2-abs(3*4)".toList ∧
    display usualRoom .standard "2-abs(3*4)".toList =
      display usualRoom .standard "2−-abs(3×4".toList := by
  have h : ready "2−-abs(3×4".toList .standard = .ok "2-abs(3*4)".toList := by decide +kernel
  obtain ⟨_, _, _, hready, hshown⟩ := ready_settled h
  exact ⟨h, hready, (hshown usualRoom .standard).2⟩

end Reckon.Evaluator
