import Reckon.Evaluator
import Reckon.Proofs.Formula.Calls

/-
The stages from a text to a value. No mode has a say in the tree of a text (`treeOf`): the text
is screened and parsed. What comes behind it is the check of the tree and its evaluation. The
faults of each stage are of its own kinds (`screen_ends`, `treeOf_ends`, `parse_ends`,
`ready_ends`), and only the check may break down, where there is no room to walk the tree
(`Overflows`).
-/
namespace Reckon

/-- The failure is a fault of one of the kinds, or one of the exceptions. -/
def Failure.IsFault (kinds : List Fault.Kind) (exception : Failure → Prop) (e : Failure) : Prop :=
  (∃ f, e = .fault f ∧ f.kind ∈ kinds) ∨ exception e

theorem Failure.IsFault.mono {kinds kinds' : List Fault.Kind}
    {exception exception' : Failure → Prop} {e : Failure} (h : e.IsFault kinds exception)
    (hk : ∀ k ∈ kinds, k ∈ kinds') (he : exception e → exception' e) :
    e.IsFault kinds' exception' := by
  obtain ⟨f, rfl, hf⟩ | h := h
  · exact .inl ⟨f, rfl, hk _ hf⟩
  · exact .inr (he h)

theorem Failure.IsFault.of_not_fault {kinds : List Fault.Kind} {exception : Failure → Prop}
    {e : Failure} (h : e.IsFault kinds exception) (hf : ∀ f, e ≠ .fault f) : exception e := by
  obtain ⟨f, rfl, _⟩ | h := h
  · exact absurd rfl (hf f)
  · exact h

namespace Evaluator
open Formula Text

theorem screen_ends (unknowns : List String) (s : List Char) :
    Ends (screen unknowns s) (fun _ => True) (·.kind = .evaluator) := by
  simp only [screen]
  split
  · exact .error rfl
  split
  · exact .error rfl
  split
  · exact .error rfl
  · exact .ok ⟨⟩

/-- Only a tree that was parsed from the text comes through. -/
theorem treeOf_ends (room : Nat) (unknowns : List String) (s : List Char) :
    Ends (treeOf room unknowns s) (fun tree => Formula.parse (prepare s) = some tree)
      (·.kind = .evaluator) := by
  simp only [treeOf]
  split
  · exact .error rfl
  · refine (screen_ends unknowns (prepare s)).bind fun _ _ => ?_
    split
    · exact .error rfl
    · next tree ht =>
      split
      · exact .error rfl
      · exact .ok ht

theorem parse_of_tree {room : Nat} {unknowns : List String} {s : List Char} {tree : Tree}
    (h : treeOf room unknowns s = .ok tree) (mode : Mode) :
    parse room mode unknowns s = (checkMagnitude (enabled mode) (room - 1) tree >>= fun _ =>
      (evaluateTree mode tree).mapError .fault) := by
  rw [parse, h]
  rfl

/-- There is no room to walk the tree of the text. -/
def Overflows (room : Nat) (mode : Mode) (unknowns : List String) (s : List Char) : Prop :=
  ∃ tree, treeOf room unknowns s = .ok tree ∧
    checkMagnitude (enabled mode) (room - 1) tree = .error (.breakdown .tooDeep)

/-- The kinds of faults that evaluating a formula may have. -/
def evaluationKinds : List Fault.Kind := [.evaluator, .invalidResult, .forbiddenFunction]

/-- What has a value in a mode has a tree in which all calls are enabled there. -/
theorem parse_ends (room : Nat) (mode : Mode) (unknowns : List String) (s : List Char) :
    Ends (parse room mode unknowns s)
      (fun _ => ∃ tree, treeOf room unknowns s = .ok tree ∧ tree.CallsOnly (enabled mode))
      (Failure.IsFault evaluationKinds
        fun e => e = .breakdown .tooDeep ∧ Overflows room mode unknowns s) := by
  cases ht : treeOf room unknowns s with
  | error f =>
    have hk := (treeOf_ends room unknowns s).of_error ht
    rw [parse, ht]
    exact .error (.inl ⟨f, rfl, by simp [evaluationKinds, hk]⟩)
  | ok tree =>
    rw [parse_of_tree ht]
    have hcheck : Ends (checkMagnitude (enabled mode) (room - 1) tree) (fun _ => True)
        (Failure.IsFault evaluationKinds
          fun e => e = .breakdown .tooDeep ∧ Overflows room mode unknowns s) := by
      cases hc : checkMagnitude (enabled mode) (room - 1) tree with
      | ok v => exact .ok ⟨⟩
      | error e =>
        obtain rfl | ⟨f, rfl, hk, _⟩ | ⟨rfl, _⟩ :=
          (checkMagnitude_ends (enabled mode) (room - 1) tree).of_error hc
        · exact .error (.inl ⟨_, rfl, by decide⟩)
        · exact .error (.inl ⟨f, rfl, by simp [evaluationKinds, hk]⟩)
        · exact .error (.inr ⟨rfl, tree, ht, hc⟩)
    refine hcheck.bind fun _ _ => ?_
    refine ((evaluateTree_ends mode tree).mono (fun _ h => ⟨tree, rfl, h⟩) fun _ hf => hf).mapError
      fun f hf => .inl ⟨f, rfl, ?_⟩
    obtain hk | hk := hf
    · simp [evaluationKinds, hk]
    · simp [evaluationKinds, hk]

/-- A text is made ready, or it ends with an opened call or names what is forbidden. -/
theorem ready_ends (s : List Char) (mode : Mode) :
    Ends (ready s mode) (fun _ => True)
      fun f => f.kind = .incompleteFunction ∨ f.kind = .forbiddenFunction := by
  have hrepair : Ends (repair (normalize s)) (fun _ => True)
      fun f => f.kind = .incompleteFunction ∨ f.kind = .forbiddenFunction := by
    simp only [repair]
    split
    · exact .error (.inl rfl)
    · exact .ok ⟨⟩
  refine hrepair.bind fun r _ => ?_
  simp only [authorize]
  split
  · exact .error (.inr rfl)
  · exact .ok ⟨⟩

end Evaluator

end Reckon
