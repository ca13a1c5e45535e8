import Mathlib.Data.List.Forall2
import Reckon.Proofs.Formula.Calls

/-
The check with fewer functions enabled. A call of a function that is not enabled has no known
value, and nothing is known of what it is a part of; so with fewer functions the check knows
fewer values and no others, and less is too large for it. `Vaguer` compares what is known of
two values, `Weaker` two checks: both walk the same parts in the same order, and only a size
can stop the one that knows more while the other goes on. A value is known only of a tree
whose calls are all enabled, which tells when it stays known.
-/
namespace Reckon.Formula
open Number

/-- Nothing is known of the first value, or the same as of the second. -/
def Vaguer (v w : Option Dyadic) : Prop := v = none ∨ v = w

theorem Vaguer.of_some {x : Dyadic} {w : Option Dyadic} (h : Vaguer (some x) w) : w = some x := by
  obtain h | h := h
  · cases h
  · exact h.symm

/-- Values that are all known are the same in a check that knows more. -/
theorem eq_of_allKnown {vs ws : List (Option Dyadic)} (h : List.Forall₂ Vaguer vs ws)
    {xs : List Dyadic} (hxs : allKnown vs = some xs) : ws = vs := by
  obtain rfl := allKnown_eq_some hxs
  have heq : List.Forall₂ (· = ·) (xs.map some) ws :=
    List.forall₂_map_left_iff.2 ((List.forall₂_map_left_iff.1 h).imp fun _ _ hw => hw.of_some.symm)
  rw [List.forall₂_eq_eq_eq] at heq
  exact heq.symm

/-- The first check goes at least as far as the second, and knows no other value; the second
may find a value too large of which the first one does not know. -/
def Weaker (x y : Except Failure (Option Dyadic)) : Prop :=
  Outlasts x y Vaguer (· = .fault .tooLarge)

theorem Weaker.refl (x : Except Failure (Option Dyadic)) : Weaker x x :=
  Outlasts.refl (fun _ => .inr rfl) x

theorem weaker_none_outcome (e : Estimate) : Weaker (pure none) e.outcome := by
  cases e with
  | known x => exact Outlasts.ok (.inl rfl)
  | unknown => exact Weaker.refl _
  | tooLarge => exact .inr rfl

/-! ## Steps -/

variable {A B : Function → Bool} {room : Nat}

theorem weaker_binary {op : BinaryOp} {l r : Tree}
    (hl : Weaker (checkMagnitude A room l) (checkMagnitude B room l))
    (hr : Weaker (checkMagnitude A room r) (checkMagnitude B room r)) :
    Weaker (checkMagnitude A (room + 1) (.binary op l r))
      (checkMagnitude B (room + 1) (.binary op l r)) := by
  simp only [checkMagnitude]
  split
  · refine hl.bind fun x x' hx => ?_
    refine hr.bind fun y y' hy => ?_
    split
    · obtain rfl := hx.of_some
      obtain rfl := hy.of_some
      exact Weaker.refl _
    · split
      · exact weaker_none_outcome _
      · exact Weaker.refl _
  · exact Weaker.refl _

theorem weaker_unary {op : UnaryOp} {t : Tree}
    (h : Weaker (checkMagnitude A room t) (checkMagnitude B room t)) :
    Weaker (checkMagnitude A (room + 1) (.unary op t))
      (checkMagnitude B (room + 1) (.unary op t)) := by
  simp only [checkMagnitude]
  split
  · refine h.bind fun x x' hx => ?_
    cases x with
    | some x =>
      obtain rfl := hx.of_some
      exact Weaker.refl _
    | none =>
      cases x' with
      | some x' => exact weaker_none_outcome _
      | none => exact Weaker.refl _
  · exact Weaker.refl _

theorem weaker_tuple {ts : List Tree}
    (h : ∀ c ∈ ts, Weaker (checkMagnitude A room c) (checkMagnitude B room c)) :
    Weaker (checkMagnitude A (room + 1) (.tuple ts)) (checkMagnitude B (room + 1) (.tuple ts)) := by
  simp only [checkMagnitude, checkMagnitudes_eq]
  exact (mapM_outlasts h).bind fun _ _ _ => Weaker.refl _

/-- A call with no known value is weaker than what it comes to with more functions enabled. -/
theorem weaker_none_call (g : Function) (ws : List (Option Dyadic)) :
    Weaker (pure none) (if B g then
      match allKnown ws with
      | some xs => (Estimate.call g xs).outcome
      | none => pure none
    else pure none) := by
  split
  · split
    · exact weaker_none_outcome _
    · exact Weaker.refl _
  · exact Weaker.refl _

/-- The one place where the check asks what is enabled; the arguments are walked before. -/
theorem weaker_function (hAB : ∀ g, A g = true → B g = true) {f : String}
    (hf : isWrapper f = false) {args : List Tree}
    (h : ∀ c ∈ args, Weaker (checkMagnitude A (room - 2) c) (checkMagnitude B (room - 2) c)) :
    Weaker (checkMagnitude A (room + 1) (.callOf f args))
      (checkMagnitude B (room + 1) (.callOf f args)) := by
  simp only [Tree.callOf, checkMagnitude, hf, Bool.false_eq_true, if_false, checkMagnitudes_eq]
  refine within_outlasts 1 room ?_
  split
  · exact Weaker.refl _
  · next g _ =>
    refine within_outlasts 2 room ((mapM_outlasts h).bind fun vs ws hvs => ?_)
    split
    · next hg =>
      split
      · next xs hxs =>
        rw [eq_of_allKnown hvs hxs, if_pos (hAB g hg), hxs]
        exact Weaker.refl _
      · exact weaker_none_call g ws
    · exact weaker_none_call g ws

theorem checkMagnitude_weaker (hAB : ∀ g, A g = true → B g = true) (room : Nat) (t : Tree) :
    Weaker (checkMagnitude A room t) (checkMagnitude B room t) := by
  induction t using Tree.induct generalizing room with
  | step t ih =>
    cases room with
    | zero =>
      rw [checkMagnitude_zero, checkMagnitude_zero]
      exact Weaker.refl _
    | succ room =>
      cases t.shape with
      | binary op l r => exact weaker_binary (ih l (by simp) room) (ih r (by simp) room)
      | unary op t => exact weaker_unary (ih t (by simp) room)
      | tuple ts => exact weaker_tuple fun c hc => ih c hc room
      | call f args =>
        cases hf : isWrapper f with
        | true =>
          -- a wrapper is not asked whether it is enabled
          simp only [Tree.callOf, checkMagnitude, hf, if_true]
          exact Weaker.refl _
        | false => exact weaker_function hAB hf fun c hc => ih c (by simp [hc]) (room - 2)
      | oddCall f args keywords h =>
        rw [checkMagnitude_oddCall h, checkMagnitude_oddCall h]
        exact Weaker.refl _
      | literal v => cases v <;> exact Weaker.refl _
      | _ => exact Weaker.refl _

/-! ## Values that stay known -/

variable {t : Tree}

/-- The value is known only if the tree calls no function but those of `A`. -/
def KnownBy (A : Function → Bool) (t : Tree) (v : Option Dyadic) : Prop :=
  ∀ x, v = some x → t.CallsOnly A

theorem knownBy_none : KnownBy A t none := fun _ h => nomatch h

theorem ends_knownBy (h : t.CallsOnly A) (x : Except Failure (Option Dyadic)) :
    Ends x (KnownBy A t) fun _ => True :=
  (Ends.anyhow x).mono (fun _ _ _ _ => h) fun _ h => h

theorem knownBy_within {calls left : Nat} {x : Except Failure (Option Dyadic)}
    (h : Ends x (KnownBy A t) fun _ => True) :
    Ends (within calls left x) (KnownBy A t) fun _ => True := by
  unfold within
  split
  · exact .error trivial
  · exact h

theorem knownBy_call {f : String} {args : List Tree}
    (h : ∀ c ∈ args, Ends (checkMagnitude A (room - 2) c) (KnownBy A c) fun _ => True) :
    Ends (checkMagnitude A (room + 1) (.callOf f args)) (KnownBy A (.callOf f args))
      fun _ => True := by
  simp only [Tree.callOf, checkMagnitude, checkMagnitudes_eq]
  refine knownBy_within ?_
  split
  · next hf =>
    split
    · exact ends_knownBy (Tree.callsOnly_wrapper hf) _
    · exact .error trivial
  split
  · exact .error trivial
  next g hg =>
  refine knownBy_within ((mapM_ends h).bind fun vs hvs => ?_)
  split
  · next hen =>
    split
    · next xs hxs =>
      refine ends_knownBy (Tree.callsOnly_callOf ⟨f, rfl, .inr ⟨g, hg, hen⟩⟩ fun c hc => ?_) _
      obtain ⟨v, hv, hk⟩ := hvs.1 c hc
      rw [allKnown_eq_some hxs, List.mem_map] at hv
      obtain ⟨x, _, rfl⟩ := hv
      exact hk x rfl
    · exact .ok knownBy_none
  · exact .ok knownBy_none

/-- The value of a tree is known only if all that the tree calls is enabled. -/
theorem checkMagnitude_knownBy (A : Function → Bool) (room : Nat) (t : Tree) :
    Ends (checkMagnitude A room t) (KnownBy A t) fun _ => True := by
  induction t using Tree.induct generalizing room with
  | step t ih =>
    cases room with
    | zero =>
      rw [checkMagnitude_zero]
      exact .error trivial
    | succ room =>
      cases t.shape with
      | literal v => exact ends_knownBy (Tree.IsLeaf.callsOnly (.inr ⟨v, rfl⟩)) _
      | name s => exact ends_knownBy (Tree.IsLeaf.callsOnly (.inl ⟨s, rfl⟩)) _
      | binary op l r =>
        simp only [checkMagnitude]
        split
        · refine (ih l (by simp) room).bind fun _ hx => ?_
          refine (ih r (by simp) room).bind fun _ hy => ?_
          split
          · next x y => exact ends_knownBy (Tree.callsOnly_binary (hx x rfl) (hy y rfl)) _
          · exact .ok knownBy_none
        · exact .error trivial
      | unary op t =>
        simp only [checkMagnitude]
        split
        · refine (ih t (by simp) room).bind fun _ hx => ?_
          split
          · next x => exact ends_knownBy (Tree.callsOnly_unary (hx x rfl)) _
          · exact .ok knownBy_none
        · exact .error trivial
      | call f args => exact knownBy_call fun c hc => ih c (by simp [hc]) (room - 2)
      | oddCall f args keywords h =>
        rw [checkMagnitude_oddCall h]
        exact .error trivial
      | tuple ts =>
        simp only [checkMagnitude]
        exact (Ends.anyhow _).bind fun _ _ => .ok knownBy_none
      | starred t => exact .error trivial
      | «attribute» t n => exact .error trivial
      | other c ts => exact .error trivial

/-- A known value stays known exactly if all that the tree calls is enabled still. -/
theorem known_iff_callsOnly (hAB : ∀ g, A g = true → B g = true) {x : Dyadic}
    (hx : checkMagnitude B room t = .ok (some x)) :
    checkMagnitude A room t = .ok (some x) ↔ t.CallsOnly A := by
  refine ⟨fun h => (checkMagnitude_knownBy A room t).of_ok h x rfl, fun h => ?_⟩
  rw [checkMagnitude_congr h (h.mono hAB), hx]

/-- With fewer functions enabled the check lets pass whatever it let pass before, with the
same value or with none that is known; a known value stays known exactly if all that the tree
calls is enabled still. What it refuses was refused before, for the same reason or for its
size. -/
theorem fewer_enabled_pass (hAB : ∀ g, A g = true → B g = true) (room : Nat) (t : Tree) :
    (∀ v, checkMagnitude B room t = .ok v →
      checkMagnitude A room t = .ok v ∨ checkMagnitude A room t = .ok none) ∧
    (∀ x, checkMagnitude B room t = .ok (some x) →
      (checkMagnitude A room t = .ok (some x) ↔ t.CallsOnly A)) ∧
    (∀ e, checkMagnitude A room t = .error e →
      checkMagnitude B room t = .error e ∨ checkMagnitude B room t = .error (.fault .tooLarge)) := by
  have hweaker := checkMagnitude_weaker hAB room t
  refine ⟨fun v hv => ?_, fun x hx => known_iff_callsOnly hAB hx, fun e he => ?_⟩
  · obtain ⟨w, hw, rfl | rfl⟩ := hweaker.of_ok hv
    · exact .inr hw
    · exact .inl hw
  · obtain he | ⟨_, hB, rfl⟩ := hweaker.of_error he
    · exact .inl he
    · exact .inr hB

def distanceAndRoot : Tree :=
  .binary .add (.callOf "abs" [.unary .neg (.callOf "Integer" [.literal (.whole 2)])])
    (.callOf "sqrt" [.callOf "Integer" [.literal (.whole 4)]])

def powerAndShare : Tree :=
  .binary .add (.callOf "exp" [.callOf "Integer" [.literal (.whole 1000)]])
    (.binary .floorDiv (.callOf "Integer" [.literal (.whole 7)])
      (.callOf "Integer" [.literal (.whole 2)]))

/-- With the root switched off, the sum has no known value either. A power of e that is too large
stops the check in Scientific mode, before the construct that Standard mode goes on to. -/
theorem fewer_enabled_pass_standard :
    (∀ g, enabled .standard g = true → enabled .scientific g = true) ∧
    checkMagnitude (enabled .scientific) 8 distanceAndRoot = .ok (some (ofInt 4)) ∧
    checkMagnitude (enabled .standard) 8 distanceAndRoot = .ok none ∧
    ¬ distanceAndRoot.CallsOnly (enabled .standard) ∧
    checkMagnitude (enabled .standard) 8 powerAndShare = .error (.fault (.unsupported "BinOp")) ∧
    checkMagnitude (enabled .scientific) 8 powerAndShare = .error (.fault .tooLarge) := by
  have hmodes : ∀ g, enabled .standard g = true → enabled .scientific g = true := fun _ _ => rfl
  have hknown : checkMagnitude (enabled .scientific) 8 distanceAndRoot = .ok (some (ofInt 4)) :=
    eq_ok_of_toOption (by decide +kernel)
  have hroot : checkMagnitude (enabled .standard) 8 distanceAndRoot ≠ .ok (some (ofInt 4)) := by
    with_unfolding_all nofun
  have hshare : checkMagnitude (enabled .standard) 8 powerAndShare =
      .error (.fault (.unsupported "BinOp")) := by with_unfolding_all rfl
  have hpower : checkMagnitude (enabled .scientific) 8 powerAndShare ≠
      .error (.fault (.unsupported "BinOp")) := by with_unfolding_all nofun
  obtain ⟨passes, known, _⟩ := fewer_enabled_pass hmodes 8 distanceAndRoot
  obtain ⟨_, _, refused⟩ := fewer_enabled_pass hmodes 8 powerAndShare
  refine ⟨hmodes, hknown, (passes _ hknown).resolve_left hroot, ?_, hshare, ?_⟩
  · exact fun h => hroot ((known _ hknown).2 h)
  · exact (refused _ hshare).resolve_left hpower

end Reckon.Formula
