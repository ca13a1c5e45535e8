import Mathlib.Data.List.Forall2
import Reckon.Proofs.Formula.Magnitude

/-
The check with more room. What it comes to with some room it comes to with more, unless there
was too little for it (`checkMagnitude_of_le`). So all that is enough for a tree is as good as the
calls that the tree takes, and with less the check of a tree that passes breaks down
(`checkMagnitude_of_calls_le`, `tooDeep_iff_of_passes`).
-/
namespace Reckon.Formula
open Number

/-- The first computation comes to what the second comes to, which alone may have too little
room. -/
def Roomier {α : Type} (x y : Except Failure α) : Prop :=
  Outlasts x y (· = ·) (· = .breakdown .tooDeep)

theorem Roomier.refl {α : Type} (x : Except Failure α) : Roomier x x :=
  Outlasts.refl (fun _ => rfl) x

theorem Roomier.bind {α β : Type} {x y : Except Failure α} {f g : α → Except Failure β}
    (h : Roomier x y) (hfg : ∀ a, Roomier (f a) (g a)) : Roomier (x >>= f) (y >>= g) := by
  refine Outlasts.bind h fun a _ heq => ?_
  rw [← heq]
  exact hfg a

theorem roomier_within {α : Type} (calls : Nat) {left left' : Nat} (h : left ≤ left')
    {x y : Except Failure α} (hxy : Roomier x y) :
    Roomier (within calls left' x) (within calls left y) := by
  unfold within
  by_cases hroom : left < calls
  · rw [if_pos hroom]
    exact .inr rfl
  · have hroom' : ¬ left' < calls := by omega
    rw [if_neg hroom, if_neg hroom']
    exact hxy

variable {enabled : Function → Bool} {room room' : Nat}

theorem roomier_list {ts : List Tree}
    (h : ∀ c ∈ ts, Roomier (checkMagnitude enabled room' c) (checkMagnitude enabled room c)) :
    Roomier (checkMagnitudes enabled room' ts) (checkMagnitudes enabled room ts) := by
  simp only [checkMagnitudes_eq]
  have hwalk := mapM_outlasts h
  rw [List.forall₂_eq_eq_eq] at hwalk
  exact hwalk

theorem roomier_callOf (hroom : room ≤ room') (f : String) {args : List Tree}
    (h : Roomier (checkMagnitudes enabled (room' - 2) args)
      (checkMagnitudes enabled (room - 2) args)) :
    Roomier (checkMagnitude enabled (room' + 1) (.callOf f args))
      (checkMagnitude enabled (room + 1) (.callOf f args)) := by
  simp only [Tree.callOf, checkMagnitude]
  refine roomier_within 1 hroom ?_
  split
  · split
    · split
      · exact .refl _
      · exact roomier_within 2 hroom (.refl _)
    · exact .refl _
  · split
    · exact .refl _
    · exact roomier_within 2 hroom (h.bind fun _ => .refl _)

theorem checkMagnitude_roomier (h : room ≤ room') (t : Tree) :
    Roomier (checkMagnitude enabled room' t) (checkMagnitude enabled room t) := by
  induction t using Tree.induct generalizing room room' with
  | step t ih =>
    match room, room', h with
    | 0, _, _ =>
      rw [checkMagnitude_zero enabled t]
      exact .inr rfl
    | room + 1, room' + 1, h =>
      have h : room ≤ room' := Nat.le_of_succ_le_succ h
      cases t.shape with
      | binary op l r =>
        simp only [checkMagnitude]
        split
        · exact (ih l (by simp) h).bind fun _ => (ih r (by simp) h).bind fun _ => .refl _
        · exact .refl _
      | unary op t =>
        simp only [checkMagnitude]
        split
        · exact (ih t (by simp) h).bind fun _ => .refl _
        · exact .refl _
      | tuple ts =>
        simp only [checkMagnitude]
        exact (roomier_list fun c hc => ih c hc h).bind fun _ => .refl _
      | call f args =>
        exact roomier_callOf h f (roomier_list fun c hc => ih c (by simp [hc]) (by omega))
      | oddCall f args keywords hk =>
        rw [checkMagnitude_oddCall hk, checkMagnitude_oddCall hk]
        exact .refl _
      | literal v =>
        cases v with
        | whole n => exact roomier_within 1 h (.refl _)
        | fraction d => exact roomier_within 1 h (.refl _)
        | text s => exact .refl _
        | word s => exact .refl _
      | name s => exact .refl _
      | starred t => exact .refl _
      | «attribute» t n => exact .refl _
      | other c ts => exact .refl _

/-- With more room the check comes to the same, unless there was too little before. -/
theorem checkMagnitude_of_le (enabled : Function → Bool) (h : room ≤ room') (t : Tree) :
    checkMagnitude enabled room t = .error (.breakdown .tooDeep) ∨
    checkMagnitude enabled room t = checkMagnitude enabled room' t := by
  have hroomier : Roomier (checkMagnitude enabled room' t) (checkMagnitude enabled room t) :=
    checkMagnitude_roomier h t
  cases hc : checkMagnitude enabled room t with
  | ok v =>
    obtain ⟨_, hv, rfl⟩ := hroomier.of_ok hc
    exact .inr hv.symm
  | error e =>
    obtain he | rfl := Ends.of_error hroomier hc
    · exact .inr he.symm
    · exact .inl rfl

theorem checkMagnitude_of_calls_le {t : Tree} (h : t.calls ≤ room) :
    checkMagnitude enabled room t = checkMagnitude enabled t.calls t := by
  obtain hdeep | hsame := checkMagnitude_of_le enabled h t
  · obtain h | ⟨f, h, _⟩ | ⟨_, h⟩ := (checkMagnitude_ends enabled t.calls t).of_error hdeep
    · cases h
    · cases h
    · exact absurd h (lt_irrefl _)
  · exact hsame.symm

/-- The check of a tree that would pass breaks down exactly if there is too little room. -/
theorem tooDeep_iff_of_passes {t : Tree} {v : Option Dyadic}
    (h : checkMagnitude enabled t.calls t = .ok v) :
    checkMagnitude enabled room t = .error (.breakdown .tooDeep) ↔ room < t.calls := by
  obtain hless | hmore := lt_or_ge room t.calls
  · refine iff_of_true ?_ hless
    obtain hdeep | hsame := checkMagnitude_of_le enabled hless.le t
    · exact hdeep
    · rw [h] at hsame
      exact absurd ((checkMagnitude_ends enabled room t).of_ok hsame).2.1 (not_le.2 hless)
  · refine iff_of_false ?_ (not_lt.2 hmore)
    rw [checkMagnitude_of_calls_le hmore, h]
    nofun

end Reckon.Formula
