import Reckon.Formula.Evaluation
import Reckon.Proofs.Formula.Magnitude

/-
What the calls in a tree decide. A tree can be evaluated in a mode only if all that it calls
is enabled there, however deep the calls are; and two modes in which all that a tree calls is
enabled check it alike and evaluate it alike.
-/
namespace Reckon.Formula

/-- A wrapper of literals, or a function that is allowed. -/
def IsAllowed (allowed : Function → Bool) (f : Tree) : Prop :=
  ∃ n, f = .name n ∧ (isWrapper n = true ∨ ∃ g, Function.ofName? n = some g ∧ allowed g = true)

/-- All that the tree calls anywhere is allowed. -/
def Tree.CallsOnly (allowed : Function → Bool) (t : Tree) : Prop :=
  ∀ f args keywords, (Tree.call f args keywords).Within t → IsAllowed allowed f

section CallsOnly

variable {A B : Function → Bool} {t : Tree}

theorem Tree.CallsOnly.child {c : Tree} (h : t.CallsOnly A) (hc : c ∈ t.children) :
    c.CallsOnly A :=
  fun f args keywords hw => h f args keywords (.child hw hc)

theorem Tree.CallsOnly.mono (h : t.CallsOnly A) (hAB : ∀ g, A g = true → B g = true) :
    t.CallsOnly B := by
  intro f args keywords hw
  obtain ⟨n, rfl, hn | ⟨g, hg, ha⟩⟩ := h f args keywords hw
  · exact ⟨n, rfl, .inl hn⟩
  · exact ⟨n, rfl, .inr ⟨g, hg, hAB g ha⟩⟩

theorem Tree.callsOnly_of_children (own : ∀ f args keywords, t = .call f args keywords →
    IsAllowed A f) (h : ∀ c ∈ t.children, c.CallsOnly A) : t.CallsOnly A := by
  intro f args keywords hw
  obtain rfl | ⟨c, hc, hw⟩ := within_iff.1 hw
  · exact own f args keywords rfl
  · exact h c hc f args keywords hw

theorem Tree.IsLeaf.callsOnly (h : t.IsLeaf) : t.CallsOnly A := by
  obtain ⟨s, rfl⟩ | ⟨v, rfl⟩ := h
  · intro f args keywords hw
    cases within_name.1 hw
  · intro f args keywords hw
    cases within_literal.1 hw

theorem Tree.callsOnly_binary {op : BinaryOp} {l r : Tree} (hl : l.CallsOnly A)
    (hr : r.CallsOnly A) : (Tree.binary op l r).CallsOnly A := by
  refine callsOnly_of_children (fun _ _ _ h => nomatch h) fun c hc => ?_
  obtain rfl | rfl := mem_children_binary.1 hc
  · exact hl
  · exact hr

theorem Tree.callsOnly_unary {op : UnaryOp} (h : t.CallsOnly A) :
    (Tree.unary op t).CallsOnly A := by
  refine callsOnly_of_children (fun _ _ _ h => nomatch h) fun c hc => ?_
  obtain rfl := mem_children_unary.1 hc
  exact h

/-- A call of a name is fine if the name and the arguments are. -/
theorem Tree.callsOnly_callOf {f : String} {args : List Tree} (hf : IsAllowed A (.name f))
    (h : ∀ c ∈ args, c.CallsOnly A) : (Tree.callOf f args).CallsOnly A := by
  refine callsOnly_of_children (fun _ _ _ h => ?_) fun c hc => ?_
  · cases h
    exact hf
  · obtain rfl | hc := mem_children_callOf.1 hc
    · exact IsLeaf.callsOnly (.inl ⟨f, rfl⟩)
    · exact h c hc

theorem Tree.callsOnly_wrapper {f : String} {v : Literal} (hf : isWrapper f = true) :
    (Tree.callOf f [.literal v]).CallsOnly A := by
  refine callsOnly_callOf ⟨f, rfl, .inl hf⟩ fun c hc => ?_
  exact IsLeaf.callsOnly (.inr ⟨v, List.mem_singleton.1 hc⟩)

theorem Tree.CallsOnly.function {f : String} {args : List Tree} {g : Function}
    (h : (Tree.callOf f args).CallsOnly A) (hg : Function.ofName? f = some g) : A g = true := by
  obtain ⟨n, hn, hw | ⟨g', hg', ha⟩⟩ := h (.name f) args [] (.refl _)
  · cases hn
    rw [ofName?_of_isWrapper hw] at hg
    cases hg
  · cases hn
    rw [hg'] at hg
    cases hg
    exact ha

end CallsOnly

/-! ## Evaluation -/

/-- The fault of something that has no value: it cannot be formed, or it calls a function
that the mode does not have. -/
def IsRaised (f : Fault) : Prop := f.kind = .evaluator ∨ f.kind = .forbiddenFunction

theorem ends_orRejected {v? : Option Value} {P : Value → Prop} (h : ∀ v, P v) :
    Ends (Value.orRejected v?) P IsRaised := by
  cases v? with
  | none => exact .error (.inl rfl)
  | some v => exact .ok (h v)

theorem evaluateTrees_eq (mode : Mode) (ts : List Tree) :
    evaluateTrees mode ts = ts.mapM (evaluateTree mode) := by
  induction ts with
  | nil => rfl
  | cons t ts ih => rw [List.mapM_cons, evaluateTrees, ih]

theorem evaluateTree_oddCall (mode : Mode) {f : Tree} {args : List Tree}
    {keywords : List (Option String × Tree)} (h : ∀ n, f = .name n → keywords ≠ []) :
    evaluateTree mode (.call f args keywords) = .error .rejected := by
  unfold evaluateTree
  split
  all_goals simp_all

theorem evaluateTree_wrapper (mode : Mode) {f : String} (hf : isWrapper f = true)
    (args : List Tree) :
    (∃ v, args = [.literal v]) ∨ evaluateTree mode (.callOf f args) = .error .rejected := by
  simp only [Tree.callOf, evaluateTree, if_pos hf]
  split
  · exact .inl ⟨_, rfl⟩
  · exact .inl ⟨_, rfl⟩
  · exact .inr rfl

theorem ends_evaluate_wrapper (mode : Mode) {f : String} (hf : isWrapper f = true)
    (args : List Tree) :
    Ends (evaluateTree mode (.callOf f args))
      (fun _ => (Tree.callOf f args).CallsOnly (enabled mode)) IsRaised := by
  obtain ⟨v, rfl⟩ | h := evaluateTree_wrapper mode hf args
  · have hcalls : (Tree.callOf f [.literal v]).CallsOnly (enabled mode) :=
      Tree.callsOnly_wrapper hf
    simp only [Tree.callOf, evaluateTree, if_pos hf]
    split
    · split
      · exact .ok hcalls
      · exact ends_orRejected fun _ => hcalls
    · exact ends_orRejected fun _ => hcalls
    · exact .error (.inl rfl)
  · rw [h]
    exact .error (.inl rfl)

theorem ends_evaluate_function {mode : Mode} {f : String} (hf : isWrapper f = false)
    {args : List Tree} (h : ∀ c ∈ args,
      Ends (evaluateTree mode c) (fun _ => c.CallsOnly (enabled mode)) IsRaised) :
    Ends (evaluateTree mode (.callOf f args))
      (fun _ => (Tree.callOf f args).CallsOnly (enabled mode)) IsRaised := by
  simp only [Tree.callOf, evaluateTree, hf, Bool.false_eq_true, if_false, evaluateTrees_eq]
  split
  · exact .error (.inl rfl)
  · next g hg =>
    refine (mapM_ends h).bind fun vs hvs => ?_
    split
    · next hen =>
      refine ends_orRejected fun _ => ?_
      refine Tree.callsOnly_callOf ⟨f, rfl, .inr ⟨g, hg, hen⟩⟩ fun c hc => ?_
      obtain ⟨_, _, hc⟩ := hvs.1 c hc
      exact hc
    · exact .error (.inr rfl)

/-- What can be evaluated calls nothing that is not enabled. -/
theorem evaluateTree_ends (mode : Mode) (t : Tree) :
    Ends (evaluateTree mode t) (fun _ => t.CallsOnly (enabled mode)) IsRaised := by
  induction t using Tree.induct with
  | step t ih =>
    cases t.shape with
    | literal v => exact ends_orRejected fun _ => Tree.IsLeaf.callsOnly (.inr ⟨v, rfl⟩)
    | name s =>
      have hcalls : (Tree.name s).CallsOnly (enabled mode) := Tree.IsLeaf.callsOnly (.inl ⟨s, rfl⟩)
      simp only [evaluateTree]
      split
      · exact .ok hcalls
      · split
        · exact .ok hcalls
        · exact .error (.inl rfl)
    | binary op l r =>
      simp only [evaluateTree]
      refine (ih l (by simp)).bind fun _ hl => ?_
      refine (ih r (by simp)).bind fun _ hr => ?_
      exact ends_orRejected fun _ => Tree.callsOnly_binary hl hr
    | unary op t =>
      simp only [evaluateTree]
      refine (ih t (by simp)).bind fun _ ht => ?_
      exact ends_orRejected fun _ => Tree.callsOnly_unary ht
    | call f args =>
      cases hf : isWrapper f with
      | true => exact ends_evaluate_wrapper mode hf args
      | false =>
        refine ends_evaluate_function hf fun c hc => ih c ?_
        simp [hc]
    | oddCall f args keywords h =>
      rw [evaluateTree_oddCall mode h]
      exact .error (.inl rfl)
    | tuple ts =>
      simp only [evaluateTree, evaluateTrees_eq]
      refine (mapM_ends ih).bind fun vs hvs => ?_
      refine .ok (Tree.callsOnly_of_children (fun _ _ _ h => nomatch h) fun c hc => ?_)
      obtain ⟨_, _, h⟩ := hvs.1 c hc
      exact h
    | starred t => exact .error (.inl rfl)
    | «attribute» t n => exact .error (.inl rfl)
    | other c ts => exact .error (.inl rfl)

/-! ## Agreement -/

/-- Two modes in which all that a tree calls is enabled evaluate it alike. -/
theorem evaluateTree_congr {m m' : Mode} {t : Tree} (h : t.CallsOnly (enabled m))
    (h' : t.CallsOnly (enabled m')) : evaluateTree m t = evaluateTree m' t := by
  induction t using Tree.induct with
  | step t ih =>
    have ih : ∀ c ∈ t.children, evaluateTree m c = evaluateTree m' c :=
      fun c hc => ih c hc (h.child hc) (h'.child hc)
    cases t.shape with
    | binary op l r =>
      simp only [evaluateTree, ih l (by simp), ih r (by simp)]
    | unary op t => simp only [evaluateTree, ih t (by simp)]
    | tuple ts =>
      have hts := mapM_congr ih
      rw [Tree.children_tuple] at hts
      simp only [evaluateTree, evaluateTrees_eq, hts]
    | call f args =>
      have hargs : args.mapM (evaluateTree m) = args.mapM (evaluateTree m') :=
        mapM_congr fun c hc => ih c (by simp [hc])
      simp only [Tree.callOf, evaluateTree, evaluateTrees_eq, hargs]
      split
      · rfl
      · -- the one place where the mode is asked
        cases hg : Function.ofName? f with
        | none => rfl
        | some g => simp only [h.function hg, h'.function hg, if_true]
    | oddCall f args keywords hk => rw [evaluateTree_oddCall m hk, evaluateTree_oddCall m' hk]
    | _ => rfl

/-- Two sets of functions with all that a tree calls in them check it alike. -/
theorem checkMagnitude_congr {A B : Function → Bool} {room : Nat} {t : Tree} (hA : t.CallsOnly A)
    (hB : t.CallsOnly B) : checkMagnitude A room t = checkMagnitude B room t := by
  induction t using Tree.induct generalizing room with
  | step t ih =>
    cases room with
    | zero => rw [checkMagnitude_zero, checkMagnitude_zero]
    | succ room =>
      have ih : ∀ c ∈ t.children, ∀ left, checkMagnitude A left c = checkMagnitude B left c :=
        fun c hc _ => ih c hc (hA.child hc) (hB.child hc)
      cases t.shape with
      | binary op l r =>
        simp only [checkMagnitude, ih l (by simp), ih r (by simp)]
      | unary op t => simp only [checkMagnitude, ih t (by simp)]
      | tuple ts =>
        have hts : ts.mapM (checkMagnitude A room) = ts.mapM (checkMagnitude B room) :=
          mapM_congr fun c hc => ih c hc room
        simp only [checkMagnitude, checkMagnitudes_eq, hts]
      | call f args =>
        have hargs : args.mapM (checkMagnitude A (room - 2)) =
            args.mapM (checkMagnitude B (room - 2)) :=
          mapM_congr fun c hc => ih c (by simp [hc]) (room - 2)
        simp only [Tree.callOf, checkMagnitude, checkMagnitudes_eq, hargs]
        split
        · rfl
        · -- a call that is not enabled would have no known value
          cases hg : Function.ofName? f with
          | none => rfl
          | some g => simp only [hA.function hg, hB.function hg]
      | oddCall f args keywords hk => rw [checkMagnitude_oddCall hk, checkMagnitude_oddCall hk]
      | literal v => cases v <;> rfl
      | _ => rfl

end Reckon.Formula
