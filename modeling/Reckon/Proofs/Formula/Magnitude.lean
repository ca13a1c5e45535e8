import Reckon.Proofs.Formula.Estimate
import Reckon.Proofs.Formula.Tree
import Reckon.Proofs.Outcome

/-
What the check in front of the evaluator lets pass. A tree that passes is a formula down to
its last part, so there is nothing foreign in it, and the value that is known of it lies in
the range of doubles. A tree that is refused is too large somewhere, or it is no formula; a
formula is refused for its size only. The check breaks down only where a tree takes more calls
inside one another than there is room for (`Tree.calls`), and no such tree passes.
-/
namespace Reckon.Formula
open Number

/-- A tree that is made of arithmetic only. -/
inductive IsFormula : Tree → Prop
  | whole (n : Nat) : IsFormula (.literal (.whole n))
  | fraction (d : Double) : IsFormula (.literal (.fraction d))
  | constant {s : String} (h : (Constant.ofName? s).isSome = true) : IsFormula (.name s)
  | function {s : String} (h : (Function.ofName? s).isSome = true) : IsFormula (.name s)
  | binary {op : BinaryOp} {l r : Tree} (hop : op ∈ [.add, .sub, .mul, .div, .mod, .pow])
      (hl : IsFormula l) (hr : IsFormula r) : IsFormula (.binary op l r)
  | unary {op : UnaryOp} {t : Tree} (hop : op ∈ [.neg, .pos]) (ht : IsFormula t) :
      IsFormula (.unary op t)
  | tuple {ts : List Tree} (h : ∀ t ∈ ts, IsFormula t) : IsFormula (.tuple ts)
  | call {f : String} {args : List Tree} (hf : (Function.ofName? f).isSome = true)
      (h : ∀ t ∈ args, IsFormula t) : IsFormula (.callOf f args)
  | wrapper {f : String} {v : Literal} (hf : isWrapper f = true) :
      IsFormula (.callOf f [.literal v])

section IsFormula

variable {t c : Tree}

theorem IsFormula.of_binary {op : BinaryOp} {l r : Tree} (h : IsFormula (.binary op l r)) :
    op ∈ [.add, .sub, .mul, .div, .mod, .pow] ∧ IsFormula l ∧ IsFormula r := by
  cases h with
  | binary hop hl hr => exact ⟨hop, hl, hr⟩

theorem IsFormula.of_unary {op : UnaryOp} (h : IsFormula (.unary op t)) :
    op ∈ [.neg, .pos] ∧ IsFormula t := by
  cases h with
  | unary hop ht => exact ⟨hop, ht⟩

theorem IsFormula.of_tuple {ts : List Tree} (h : IsFormula (.tuple ts)) :
    ∀ t ∈ ts, IsFormula t := by
  cases h with
  | tuple h => exact h

/-- A call in a formula is one of a function, or it wraps a literal. -/
theorem IsFormula.of_callOf {f : String} {args : List Tree} (h : IsFormula (.callOf f args)) :
    ((Function.ofName? f).isSome = true ∧ ∀ t ∈ args, IsFormula t) ∨
    (isWrapper f = true ∧ ∃ v, args = [.literal v]) := by
  generalize hc : Tree.callOf f args = t at h
  cases h with
  | call hf ha =>
    cases hc
    exact .inl ⟨hf, ha⟩
  | wrapper hf =>
    cases hc
    exact .inr ⟨hf, _, rfl⟩
  | _ => cases hc

/-- Under a formula are formulas, apart from the name in front of a call and the literal in
a wrapper. -/
theorem IsFormula.of_child (h : IsFormula t) (hc : c ∈ t.children) :
    IsFormula c ∨ c.IsLeaf := by
  cases h with
  | @binary _ l r _ hl hr =>
    obtain rfl | rfl := Tree.mem_children_binary.1 hc
    · exact .inl hl
    · exact .inl hr
  | unary _ ht =>
    obtain rfl := Tree.mem_children_unary.1 hc
    exact .inl ht
  | tuple h => exact .inl (h c hc)
  | @call f args _ h =>
    obtain rfl | hc := Tree.mem_children_callOf.1 hc
    · exact .inr (.inl ⟨f, rfl⟩)
    · exact .inl (h c hc)
  | @wrapper f v _ =>
    obtain rfl | hc := Tree.mem_children_callOf.1 hc
    · exact .inr (.inl ⟨f, rfl⟩)
    · exact .inr (.inr ⟨v, List.mem_singleton.1 hc⟩)
  | _ => cases hc

theorem IsFormula.not_isForeign (h : IsFormula t) : ¬ t.IsForeign := by
  intro hf
  cases hf with
  | floorDiv l r =>
    have hop := h.of_binary.1
    simp at hop
  | binary n l r =>
    have hop := h.of_binary.1
    simp at hop
  | unary n t =>
    have hop := h.of_unary.1
    simp at hop
  | call f args keywords hn =>
    cases h with
    | call hg => simp [(hn _ rfl).1] at hg
    | wrapper hw => exact (hn _ rfl).2 hw _ rfl
  | _ => cases h

theorem IsFormula.not_foreign_within {u : Tree} (h : IsFormula t) (hu : u.Within t) :
    ¬ u.IsForeign := by
  induction hu with
  | refl => exact h.not_isForeign
  | child hu hc ih =>
    obtain hf | hl := h.of_child hc
    · exact ih hf
    · exact hl.not_foreign hu

end IsFormula

/-- The fractions in a tree are doubles that there are. -/
def Tree.Doubles (t : Tree) : Prop :=
  ∀ d, (Tree.literal (.fraction d)).Within t → d.Bounded

theorem Tree.Doubles.child {t c : Tree} (h : t.Doubles) (hc : c ∈ t.children) : c.Doubles :=
  fun d hd => h d (.child hd hc)

/-! ## The check -/

mutual

/-- How many calls inside one another the check of a tree takes if nothing stops it before. -/
def Tree.calls : Tree → Nat
  | .literal _ => 2
  | .binary _ l r => max l.calls r.calls + 1
  | .unary _ t => t.calls + 1
  | .call (.name f) args [] =>
    if isWrapper f then (if f = variableWrapper then 2 else 3) else Tree.mostCalls args + 3
  | .tuple ts => Tree.mostCalls ts + 1
  | _ => 1

/-- The same for the one of several trees that takes the most. -/
def Tree.mostCalls : List Tree → Nat
  | [] => 0
  | t :: ts => max t.calls (Tree.mostCalls ts)

end

attribute [local simp] Tree.calls Tree.mostCalls checkMagnitude checkMagnitudes

theorem Tree.calls_pos (t : Tree) : 0 < t.calls := by
  unfold calls
  split
  all_goals first | omega | (split <;> (try split) <;> omega)

theorem Tree.mostCalls_le_iff {ts : List Tree} {n : Nat} :
    Tree.mostCalls ts ≤ n ↔ ∀ t ∈ ts, t.calls ≤ n := by
  induction ts with
  | nil => simp
  | cons t ts ih => rw [mostCalls, max_le_iff, ih, List.forall_mem_cons]

theorem Tree.calls_le_mostCalls {t : Tree} {ts : List Tree} (h : t ∈ ts) :
    t.calls ≤ Tree.mostCalls ts :=
  mostCalls_le_iff.1 le_rfl t h

/-- The tree is a formula that there is room for, and the value is one that doubles have. -/
def Passes (room : Nat) (t : Tree) (v : Option Dyadic) : Prop :=
  IsFormula t ∧ t.calls ≤ room ∧ (t.Doubles → ∀ x, v = some x → magnitude x ≤ 1024)

/-- The failure is the fault of size, or one of the evaluator and the tree is no formula, or there
is no room for the tree. -/
def Refuses (room : Nat) (t : Tree) (e : Failure) : Prop :=
  e = .fault .tooLarge ∨ (∃ f, e = .fault f ∧ f.kind = .evaluator ∧ ¬ IsFormula t) ∨
    e = .breakdown .tooDeep ∧ room < t.calls

section Refuses

variable {room : Nat} {t : Tree}

theorem Refuses.tooDeep (h : room < t.calls) : Refuses room t (.breakdown .tooDeep) :=
  .inr (.inr ⟨rfl, h⟩)

theorem Refuses.foreign {f : Fault} (hk : f.kind = .evaluator) (ht : ¬ IsFormula t) :
    Refuses room t (.fault f) :=
  .inr (.inl ⟨f, rfl, hk, ht⟩)

/-- What a part is refused for, the whole is refused for. -/
theorem ends_part {β : Type} {x : Except Failure β} {P : β → Prop} {c : Tree} {left : Nat}
    (h : Ends x P (Refuses left c)) (part : IsFormula t → IsFormula c)
    (deep : left < c.calls → room < t.calls) : Ends x P (Refuses room t) := by
  refine h.mono (fun _ hP => hP) fun e he => ?_
  obtain he | ⟨f, rfl, hk, hc⟩ | ⟨rfl, hroom⟩ := he
  · exact .inl he
  · exact .foreign hk fun ht => hc (part ht)
  · exact .tooDeep (deep hroom)

/-- What takes calls ends if there is room for them, and else breaks down. -/
theorem ends_within {α : Type} {calls left : Nat} {x : Except Failure α} {P : α → Prop}
    (deep : left < calls → room < t.calls) (h : calls ≤ left → Ends x P (Refuses room t)) :
    Ends (within calls left x) P (Refuses room t) := by
  unfold within
  split
  · next hroom => exact .error (.tooDeep (deep hroom))
  · next hroom => exact h (not_lt.1 hroom)

end Refuses

theorem within_outlasts {α β : Type} (calls left : Nat) {x : Except Failure α}
    {y : Except Failure β} {R : α → β → Prop} {L : Failure → Prop} (h : Outlasts x y R L) :
    Outlasts (within calls left x) (within calls left y) R L := by
  unfold within
  split
  · exact .error
  · exact h

theorem checkMagnitude_zero (enabled : Function → Bool) (t : Tree) :
    checkMagnitude enabled 0 t = .error (.breakdown .tooDeep) := by
  unfold checkMagnitude
  rfl

theorem checkMagnitudes_eq (enabled : Function → Bool) (room : Nat) (ts : List Tree) :
    checkMagnitudes enabled room ts = ts.mapM (checkMagnitude enabled room) := by
  induction ts with
  | nil => rfl
  | cons t ts ih => rw [List.mapM_cons, checkMagnitudes, ih]

theorem allKnown_eq_some {vs : List (Option Dyadic)} {xs : List Dyadic}
    (h : allKnown vs = some xs) : vs = xs.map some := by
  induction vs generalizing xs with
  | nil => cases h; rfl
  | cons v vs ih =>
    cases v with
    | none => cases h
    | some x =>
      simp only [allKnown, Option.map_eq_some_iff] at h
      obtain ⟨ys, hys, rfl⟩ := h
      rw [ih hys, List.map_cons]

theorem isArithmetic_binary {op : BinaryOp} :
    op.isArithmetic = true ↔ op ∈ [.add, .sub, .mul, .div, .mod, .pow] := by
  cases op <;> simp [BinaryOp.isArithmetic]

theorem isArithmetic_unary {op : UnaryOp} : op.isArithmetic = true ↔ op ∈ [.neg, .pos] := by
  cases op <;> simp [UnaryOp.isArithmetic]

/-! ## Steps -/

/-- A formula whose value is worked out passes with it, or is too large. -/
theorem ends_outcome {room : Nat} {t : Tree} (ht : IsFormula t) (hroom : t.calls ≤ room)
    {e : Estimate} (he : t.Doubles → e.Bounded) :
    Ends e.outcome (Passes room t) (Refuses room t) := by
  cases e with
  | known x =>
    refine .ok ⟨ht, hroom, fun hd y hy => ?_⟩
    cases hy
    exact he hd x rfl
  | unknown =>
    refine .ok ⟨ht, hroom, fun _ y hy => ?_⟩
    cases hy
  | tooLarge => exact .error (.inl rfl)

theorem ends_none {room : Nat} {t : Tree} (ht : IsFormula t) (hroom : t.calls ≤ room) :
    Ends (pure none : Except Failure (Option Dyadic)) (Passes room t) (Refuses room t) :=
  ends_outcome (e := .unknown) ht hroom fun _ => Estimate.bounded_unknown

variable {enabled : Function → Bool} {room : Nat}

theorem ends_binary {op : BinaryOp} {l r : Tree}
    (hl : Ends (checkMagnitude enabled room l) (Passes room l) (Refuses room l))
    (hr : Ends (checkMagnitude enabled room r) (Passes room r) (Refuses room r)) :
    Ends (checkMagnitude enabled (room + 1) (.binary op l r)) (Passes (room + 1) (.binary op l r))
      (Refuses (room + 1) (.binary op l r)) := by
  have hcalls : (Tree.binary op l r).calls = max l.calls r.calls + 1 := by simp only [Tree.calls]
  simp only [checkMagnitude]
  split
  · next hop =>
    rw [isArithmetic_binary] at hop
    -- both sides are walked, also where the value of one is not known
    refine (ends_part hl (fun ht => ht.of_binary.2.1) fun h => by omega).bind fun x hx => ?_
    refine (ends_part hr (fun ht => ht.of_binary.2.2) fun h => by omega).bind fun y hy => ?_
    have ht : IsFormula (.binary op l r) := .binary hop hx.1 hy.1
    have hroom : (Tree.binary op l r).calls ≤ room + 1 := by
      have := hx.2.1
      have := hy.2.1
      omega
    split
    · exact ends_outcome ht hroom fun _ => Estimate.bounded_binary _ _ _
    · exact ends_none ht hroom
  · next hop =>
    exact .error (.foreign rfl fun ht => hop (isArithmetic_binary.2 ht.of_binary.1))

theorem ends_unary {op : UnaryOp} {t : Tree}
    (h : Ends (checkMagnitude enabled room t) (Passes room t) (Refuses room t)) :
    Ends (checkMagnitude enabled (room + 1) (.unary op t)) (Passes (room + 1) (.unary op t))
      (Refuses (room + 1) (.unary op t)) := by
  have hcalls : (Tree.unary op t).calls = t.calls + 1 := by simp only [Tree.calls]
  simp only [checkMagnitude]
  split
  · next hop =>
    rw [isArithmetic_unary] at hop
    refine (ends_part h (fun ht => ht.of_unary.2) fun h => by omega).bind fun x hx => ?_
    have ht : IsFormula (.unary op t) := .unary hop hx.1
    have hroom : (Tree.unary op t).calls ≤ room + 1 := by
      have := hx.2.1
      omega
    cases x with
    | none => exact ends_none ht hroom
    | some x =>
      refine ends_outcome ht hroom fun hd => Estimate.bounded_unary op ?_
      exact hx.2.2 (hd.child (by simp)) x rfl
  · next hop =>
    exact .error (.foreign rfl fun ht => hop (isArithmetic_unary.2 ht.of_unary.1))

/-- A walk over parts of a tree: what one of them is refused for, the tree is refused for. -/
theorem ends_list {t : Tree} {ts : List Tree} {left : Nat}
    (part : IsFormula t → ∀ c ∈ ts, IsFormula c) (deep : left < Tree.mostCalls ts → room < t.calls)
    (h : ∀ c ∈ ts, Ends (checkMagnitude enabled left c) (Passes left c) (Refuses left c)) :
    Ends (checkMagnitudes enabled left ts)
      (fun vs => (∀ c ∈ ts, ∃ v ∈ vs, Passes left c v) ∧ ∀ v ∈ vs, ∃ c ∈ ts, Passes left c v)
      (Refuses room t) := by
  rw [checkMagnitudes_eq]
  refine mapM_ends fun c hc => ends_part (h c hc) (fun ht => part ht c hc) fun hroom => ?_
  exact deep (hroom.trans_le (Tree.calls_le_mostCalls hc))

theorem ends_tuple {ts : List Tree}
    (h : ∀ c ∈ ts, Ends (checkMagnitude enabled room c) (Passes room c) (Refuses room c)) :
    Ends (checkMagnitude enabled (room + 1) (.tuple ts)) (Passes (room + 1) (.tuple ts))
      (Refuses (room + 1) (.tuple ts)) := by
  have hcalls : (Tree.tuple ts).calls = Tree.mostCalls ts + 1 := by simp only [Tree.calls]
  simp only [checkMagnitude]
  refine (ends_list IsFormula.of_tuple (fun h => by omega) h).bind fun vs hvs => ?_
  refine ends_none (.tuple fun c hc => ?_) ?_
  · obtain ⟨_, _, hp⟩ := hvs.1 c hc
    exact hp.1
  · rw [hcalls, Nat.add_le_add_iff_right, Tree.mostCalls_le_iff]
    intro c hc
    obtain ⟨_, _, hp⟩ := hvs.1 c hc
    exact hp.2.1

theorem ends_literal (v : Literal) :
    Ends (checkMagnitude enabled (room + 1) (.literal v)) (Passes (room + 1) (.literal v))
      (Refuses (room + 1) (.literal v)) := by
  have hcalls : (Tree.literal v).calls = 2 := by simp only [Tree.calls]
  cases v with
  | whole n =>
    simp only [checkMagnitude]
    refine ends_within (fun h => by omega) fun h => ?_
    exact ends_outcome (.whole n) (by omega) fun _ => Estimate.bounded_literal fun d hd => nomatch hd
  | fraction d =>
    simp only [checkMagnitude]
    refine ends_within (fun h => by omega) fun h => ?_
    refine ends_outcome (.fraction d) (by omega) fun hd => Estimate.bounded_literal fun d' hd' => ?_
    cases hd'
    exact hd d (.refl _)
  | text s => exact .error (.foreign rfl fun ht => nomatch ht)
  | word s => exact .error (.foreign rfl fun ht => nomatch ht)

theorem ends_name (s : String) :
    Ends (checkMagnitude enabled (room + 1) (.name s)) (Passes (room + 1) (.name s))
      (Refuses (room + 1) (.name s)) := by
  have hroom : (Tree.name s).calls ≤ room + 1 := by
    simp only [Tree.calls]
    omega
  simp only [checkMagnitude]
  split
  · next c hc =>
    have ht : IsFormula (.name s) := .constant (by simp [hc])
    exact ends_outcome (e := .known (Estimate.constant c)) ht hroom fun _ =>
      Estimate.bounded_known (Estimate.magnitude_constant c)
  · next hc =>
    split
    · next hf => exact ends_none (.function hf) hroom
    · next hf =>
      refine .error (.foreign rfl fun ht => ?_)
      cases ht with
      | constant h => simp [hc] at h
      | function h => exact hf h

theorem ends_wrapper {f : String} (hf : isWrapper f = true) (args : List Tree) :
    Ends (checkMagnitude enabled (room + 1) (.callOf f args)) (Passes (room + 1) (.callOf f args))
      (Refuses (room + 1) (.callOf f args)) := by
  have hcalls : (Tree.callOf f args).calls = if f = variableWrapper then 2 else 3 := by
    simp only [Tree.callOf, Tree.calls, if_pos hf]
  have htwo : 2 ≤ (Tree.callOf f args).calls := by
    rw [hcalls]
    split <;> omega
  simp only [Tree.callOf, checkMagnitude, if_pos hf]
  refine ends_within (t := .callOf f args) (fun h => by omega) fun h => ?_
  split
  · next v =>
    have ht : IsFormula (.callOf f [.literal v]) := .wrapper hf
    split
    · next hv =>
      have hroom : (Tree.callOf f [.literal v]).calls ≤ room + 1 := by
        rw [hcalls, if_pos hv]
        omega
      exact ends_none ht hroom
    · next hv =>
      rw [if_neg hv] at hcalls
      refine ends_within (t := .callOf f [.literal v]) (fun h => by omega) fun h => ?_
      refine ends_outcome ht (by omega) fun hd => Estimate.bounded_literal fun d hv => ?_
      subst hv
      exact hd d (.child (.refl _) (by simp))
  · next h =>
    refine .error (.foreign rfl fun ht => ?_)
    -- a wrapper names no function, so a literal alone makes it a formula
    obtain ⟨hg, _⟩ | ⟨_, v, hv⟩ := IsFormula.of_callOf ht
    · simp [ofName?_of_isWrapper hf] at hg
    · exact h v hv

/-- A function passes if its arguments do; its value is known if theirs are. -/
theorem ends_function {f : String} (hf : isWrapper f = false) {args : List Tree}
    (h : ∀ c ∈ args, Ends (checkMagnitude enabled (room - 2) c) (Passes (room - 2) c)
      (Refuses (room - 2) c)) :
    Ends (checkMagnitude enabled (room + 1) (.callOf f args)) (Passes (room + 1) (.callOf f args))
      (Refuses (room + 1) (.callOf f args)) := by
  have parts : IsFormula (.callOf f args) →
      (Function.ofName? f).isSome = true ∧ ∀ c ∈ args, IsFormula c := by
    intro ht
    obtain h | ⟨hw, _⟩ := ht.of_callOf
    · exact h
    · simp [hf] at hw
  have hcalls : (Tree.callOf f args).calls = Tree.mostCalls args + 3 := by
    simp only [Tree.callOf, Tree.calls, hf, Bool.false_eq_true, if_false]
  simp only [Tree.callOf, checkMagnitude, hf, Bool.false_eq_true, if_false]
  refine ends_within (t := .callOf f args) (fun h => by omega) fun _ => ?_
  split
  · next hg =>
    refine .error (.foreign rfl fun ht => ?_)
    simpa [hg] using (parts ht).1
  · next g hg =>
    refine ends_within (t := .callOf f args) (fun h => by omega) fun htwo => ?_
    -- the arguments are walked whether or not the function is enabled
    refine (ends_list (t := .callOf f args) (fun ht => (parts ht).2) (fun h => by omega) h).bind
      fun vs hvs => ?_
    have ht : IsFormula (.callOf f args) := by
      refine .call (by simp [hg]) fun c hc => ?_
      obtain ⟨_, _, hp⟩ := hvs.1 c hc
      exact hp.1
    have hroom : (Tree.callOf f args).calls ≤ room + 1 := by
      have hmost : Tree.mostCalls args ≤ room - 2 := Tree.mostCalls_le_iff.2 fun c hc => by
        obtain ⟨_, _, hp⟩ := hvs.1 c hc
        exact hp.2.1
      omega
    split
    · split
      · next xs hxs =>
        refine ends_outcome ht hroom fun hd => Estimate.bounded_call g fun x hx => ?_
        obtain ⟨c, hc, hp⟩ := hvs.2 (some x) (by simp [allKnown_eq_some hxs, hx])
        exact hp.2.2 (hd.child (by simp [hc])) x rfl
      · exact ends_none ht hroom
    · exact ends_none ht hroom

theorem checkMagnitude_oddCall {f : Tree} {args : List Tree}
    {keywords : List (Option String × Tree)} (h : ∀ n, f = .name n → keywords ≠ []) :
    checkMagnitude enabled (room + 1) (.call f args keywords) =
      .error (.fault (.unsupported "Call")) := by
  unfold checkMagnitude
  split
  all_goals simp_all [Tree.construct]

/-! ## The whole tree -/

/-- Every tree passes as a formula or is refused. -/
theorem checkMagnitude_ends (enabled : Function → Bool) (room : Nat) (t : Tree) :
    Ends (checkMagnitude enabled room t) (Passes room t) (Refuses room t) := by
  induction t using Tree.induct generalizing room with
  | step t ih =>
    cases room with
    | zero =>
      rw [checkMagnitude_zero]
      exact .error (.tooDeep t.calls_pos)
    | succ room =>
      cases t.shape with
      | literal v => exact ends_literal v
      | name s => exact ends_name s
      | binary op l r =>
        exact ends_binary (ih l (by simp) room) (ih r (by simp) room)
      | unary op t => exact ends_unary (ih t (by simp) room)
      | call f args =>
        cases hf : isWrapper f with
        | true => exact ends_wrapper hf args
        | false => exact ends_function hf fun c hc => ih c (by simp [hc]) (room - 2)
      | oddCall f args keywords h =>
        rw [checkMagnitude_oddCall h]
        refine .error (.foreign rfl fun ht => ?_)
        cases ht with
        | call _ _ => exact h _ rfl rfl
        | wrapper _ => exact h _ rfl rfl
      | tuple ts => exact ends_tuple fun c hc => ih c hc room
      | starred t => exact .error (.foreign rfl fun ht => nomatch ht)
      | «attribute» t n => exact .error (.foreign rfl fun ht => nomatch ht)
      | other c ts => exact .error (.foreign rfl fun ht => nomatch ht)

end Reckon.Formula
