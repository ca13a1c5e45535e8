import Reckon.Formula.Function
import Reckon.Formula.Tree
import Mathlib.Data.List.Basic

/-
Trees as nested constructs. `children` are the trees directly under a tree, `Within` holds
of a tree and everything that it is made of, and `Tree.induct` proves a property from the
children up. Walks over trees tell calls of a name from all other calls, which is what
`Shape` does. `IsForeign` marks the constructs that are no arithmetic at all.
-/
namespace Reckon.Formula

namespace Tree

/-- The trees directly under a tree. -/
def children : Tree → List Tree
  | .literal _ | .name _ => []
  | .binary _ l r => [l, r]
  | .unary _ t | .starred t | .attribute t _ => [t]
  | .call f args keywords => f :: args ++ keywords.map Prod.snd
  | .tuple ts | .other _ ts => ts

section Children

variable {c l r t : Tree}

@[simp] theorem children_literal (v : Literal) : (literal v).children = [] := rfl

@[simp] theorem children_name (s : String) : (name s).children = [] := rfl

@[simp] theorem children_tuple (ts : List Tree) : (tuple ts).children = ts := rfl

@[simp] theorem mem_children_binary {op : BinaryOp} :
    c ∈ (binary op l r).children ↔ c = l ∨ c = r := by
  simp [children]

@[simp] theorem mem_children_unary {op : UnaryOp} : c ∈ (unary op t).children ↔ c = t := by
  simp [children]

@[simp] theorem mem_children_callOf {f : String} {args : List Tree} :
    c ∈ (callOf f args).children ↔ c = .name f ∨ c ∈ args := by
  simp [children, callOf]

end Children

theorem sizeOf_child {c t : Tree} (h : c ∈ t.children) : sizeOf c < sizeOf t := by
  cases t with
  | binary op l r =>
    obtain rfl | rfl := mem_children_binary.1 h
    · simp only [binary.sizeOf_spec]; omega
    · simp only [binary.sizeOf_spec]; omega
  | call f args keywords =>
    simp only [children, List.cons_append, List.mem_cons, List.mem_append, List.mem_map] at h
    simp only [call.sizeOf_spec]
    rcases h with rfl | h | ⟨⟨k, u⟩, h, rfl⟩
    · omega
    · have := List.sizeOf_lt_of_mem h
      omega
    · have := List.sizeOf_lt_of_mem h
      simp only [Prod.mk.sizeOf_spec] at this ⊢
      omega
  | tuple ts =>
    have := List.sizeOf_lt_of_mem (show c ∈ ts from h)
    simp only [tuple.sizeOf_spec]; omega
  | other n ts =>
    have := List.sizeOf_lt_of_mem (show c ∈ ts from h)
    simp only [other.sizeOf_spec]; omega
  | literal v => simp at h
  | name s => simp at h
  | unary op t =>
    obtain rfl := mem_children_unary.1 h
    simp only [unary.sizeOf_spec]; omega
  | starred t =>
    obtain rfl := List.mem_singleton.1 h
    simp only [starred.sizeOf_spec]; omega
  | «attribute» t n =>
    obtain rfl := List.mem_singleton.1 h
    simp only [attribute.sizeOf_spec]; omega

/-- What holds of a tree whenever it holds of all its children holds of every tree. -/
theorem induct {P : Tree → Prop} (step : ∀ t, (∀ c ∈ t.children, P c) → P t) (t : Tree) : P t :=
  step t fun c _ => induct step c
termination_by sizeOf t
decreasing_by exact sizeOf_child ‹_›

/-! ## Parts of a tree -/

/-- The first tree is the second, or is in one of its children. -/
inductive Within : Tree → Tree → Prop
  | refl (t : Tree) : Within t t
  | child {u c t : Tree} (h : Within u c) (hc : c ∈ t.children) : Within u t

theorem within_iff {u t : Tree} : u.Within t ↔ u = t ∨ ∃ c ∈ t.children, u.Within c := by
  refine ⟨fun h => ?_, fun h => ?_⟩
  · cases h with
    | refl => exact .inl rfl
    | child h hc => exact .inr ⟨_, hc, h⟩
  · obtain rfl | ⟨c, hc, h⟩ := h
    · exact .refl u
    · exact .child h hc

@[simp] theorem within_literal {u : Tree} {v : Literal} :
    u.Within (.literal v) ↔ u = .literal v := by
  rw [within_iff]
  simp

@[simp] theorem within_name {u : Tree} {s : String} : u.Within (.name s) ↔ u = .name s := by
  rw [within_iff]
  simp

@[simp] theorem within_unary {u t : Tree} {op : UnaryOp} :
    u.Within (.unary op t) ↔ u = .unary op t ∨ u.Within t := by
  rw [within_iff]
  simp

/-! ## Shapes -/

/-- The shapes that a walk tells apart. -/
inductive Shape : Tree → Prop
  | literal (v : Literal) : Shape (.literal v)
  | name (s : String) : Shape (.name s)
  | binary (op : BinaryOp) (l r : Tree) : Shape (.binary op l r)
  | unary (op : UnaryOp) (t : Tree) : Shape (.unary op t)
  | call (f : String) (args : List Tree) : Shape (.callOf f args)
  | oddCall (f : Tree) (args : List Tree) (keywords : List (Option String × Tree))
      (h : ∀ n, f = .name n → keywords ≠ []) : Shape (.call f args keywords)
  | tuple (ts : List Tree) : Shape (.tuple ts)
  | starred (t : Tree) : Shape (.starred t)
  | attribute (t : Tree) (n : String) : Shape (.attribute t n)
  | other (c : String) (ts : List Tree) : Shape (.other c ts)

theorem shape (t : Tree) : Shape t := by
  cases t with
  | call f args keywords =>
    by_cases h : ∀ n, f = .name n → keywords ≠ []
    · exact .oddCall f args keywords h
    · push Not at h
      obtain ⟨n, rfl, rfl⟩ := h
      exact .call n args
  | _ => constructor

/-- The construct is no arithmetic: an attribute, a starred or a named argument, a division
that drops the fraction, any other operator that is none of arithmetic, a call of something
that is neither a function nor the wrapper of one literal, or one of the constructs without
a place in a formula. -/
inductive IsForeign : Tree → Prop
  | attribute (t : Tree) (n : String) : IsForeign (.attribute t n)
  | starred (t : Tree) : IsForeign (.starred t)
  | keyword (f : Tree) (args : List Tree) (k : Option String × Tree)
      (ks : List (Option String × Tree)) : IsForeign (.call f args (k :: ks))
  | floorDiv (l r : Tree) : IsForeign (.binary .floorDiv l r)
  | binary (n : String) (l r : Tree) : IsForeign (.binary (.foreign n) l r)
  | unary (n : String) (t : Tree) : IsForeign (.unary (.foreign n) t)
  | call (f : Tree) (args : List Tree) (keywords : List (Option String × Tree))
      (h : ∀ n, f = .name n → Function.ofName? n = none ∧
        (isWrapper n = true → ∀ v, args ≠ [.literal v])) : IsForeign (.call f args keywords)
  | other (c : String) (ts : List Tree) : IsForeign (.other c ts)

/-- A tree without parts. -/
def IsLeaf (t : Tree) : Prop := (∃ s, t = .name s) ∨ ∃ v, t = .literal v

theorem IsLeaf.not_foreign {t u : Tree} (h : t.IsLeaf) (hu : u.Within t) : ¬ u.IsForeign := by
  intro hf
  obtain ⟨s, rfl⟩ | ⟨v, rfl⟩ := h
  · obtain rfl := within_name.1 hu
    cases hf
  · obtain rfl := within_literal.1 hu
    cases hf

end Tree

/-- A name that wraps literals names no function. -/
theorem ofName?_of_isWrapper {f : String} (h : isWrapper f = true) :
    Function.ofName? f = none := by
  simp only [isWrapper, literalWrappers, variableWrapper, Bool.or_eq_true, beq_iff_eq,
    List.contains_iff_mem, List.mem_cons, List.not_mem_nil, or_false] at h
  rcases h with (rfl | rfl | rfl) | rfl <;> decide

end Reckon.Formula
