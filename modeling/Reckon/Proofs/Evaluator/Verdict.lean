import Reckon.Proofs.Evaluator.Stages

/-
How an evaluation ends. Every stage has its own kinds of faults, so a formula comes to a
finite number or to a fault of the evaluator, of the result or of a function that is
forbidden; on the way to the display there may be an incomplete call as well. The exceptions are
exact (`BreaksOff`): there is no room to walk the tree, or a value is known to be real but no
number can be had for it, or the fault about a value would spell what cannot be spelled. Plain
values end alike, with the last of these exceptions only (`IsUnspelled`). The room is that for
the calls of the program itself: what is computed with terms is taken to fit on the stack.
-/
namespace Reckon

theorem Json.Obstacle.failure_ne_fault (o : Json.Obstacle) (f : Fault) : o.failure ≠ .fault f := by
  cases o <;> nofun

theorem Fault.spelling_isFault {f : Fault} {kinds : List Fault.Kind} (hf : f.kind ∈ kinds)
    {o? : Option Json.Obstacle} {exception : Failure → Prop}
    (h : ∀ o, o? = some o → exception o.failure) : (f.spelling o?).IsFault kinds exception := by
  cases o? with
  | none => exact .inl ⟨f, rfl, hf⟩
  | some o => exact .inr (h o rfl)

namespace Term
open Number

/-- The value is known to be real, and no number can be had for it. -/
def IsUnsettled (t : Term) : Prop :=
  hasVariable t = false ∧ hasNoNumber t = false ∧ hasEmptyCall t = false ∧ point? t = none ∧
    isKnownReal t = true

/-- The fault about the value would spell a number of too many digits: either in the value as it
stands, or, where that is not known to be real, in what is left of it once it is rounded. -/
def IsUnspelled (t : Term) : Prop :=
  (hasVariable t = true ∨ hasNoNumber t = true ∨ hasEmptyCall t = true) ∧ t.isSpellable = false ∨
  hasVariable t = false ∧ hasNoNumber t = false ∧ hasEmptyCall t = false ∧ point? t = none ∧
    isKnownReal t = false ∧ t.isSpellableRounded = false

theorem toDouble_of_unsettled {t : Term} (h : t.IsUnsettled) :
    t.toDouble = .error (.breakdown .wrongKind) := by
  obtain ⟨hv, hb, hc, hp, hr⟩ := h
  simp only [toDouble, hv, hb, hc, hp, hr, Bool.false_eq_true, if_false, if_true]

theorem failure_of_unspellable {f : Fault} {spellable : Bool} (h : spellable = false) :
    failure f spellable = .refused Json.unspellable := by
  rw [h]
  rfl

theorem toDouble_of_unspelled {t : Term} (h : t.IsUnspelled) :
    t.toDouble = .error (.refused Json.unspellable) := by
  unfold toDouble
  obtain ⟨hcase, hs⟩ | ⟨hv, hb, hc, hp, hr, hs⟩ := h
  · simp only [failure_of_unspellable hs]
    cases hv : hasVariable t with
    | true => rfl
    | false =>
      cases hb : hasNoNumber t with
      | true => rfl
      | false =>
        have hc : hasEmptyCall t = true := by simpa [hv, hb] using hcase
        simp only [hc, Bool.false_eq_true, if_false, if_true]
  · simp only [hv, hb, hc, hp, hr, Bool.false_eq_true, if_false, failure_of_unspellable hs]

/-- The exceptions are a value that is known to be real without a number, and a fault that is not
spelled. -/
theorem toDouble_ends (t : Term) :
    Ends t.toDouble (fun d => d.isFinite = true)
      (Failure.IsFault [.evaluator, .invalidResult] fun e =>
        e = .breakdown .wrongKind ∧ t.IsUnsettled ∨
        e = .refused Json.unspellable ∧ t.IsUnspelled) := by
  have hunspelled {spellable : Bool} (h : spellable = false → t.IsUnspelled) :
      ∀ o : Json.Obstacle, (if spellable then none else some .tooLong) = some o →
        o.failure = .breakdown .wrongKind ∧ t.IsUnsettled ∨
        o.failure = .refused Json.unspellable ∧ t.IsUnspelled := by
    intro o ho
    cases spellable with
    | true => cases ho
    | false =>
      cases ho
      exact .inr ⟨rfl, h rfl⟩
  unfold toDouble failure
  split
  · next hv =>
    exact .error (Fault.spelling_isFault (by decide) (hunspelled fun h => .inl ⟨.inl hv, h⟩))
  next hv =>
  split
  · next hb =>
    exact .error (Fault.spelling_isFault (by decide)
      (hunspelled fun h => .inl ⟨.inr (.inl hb), h⟩))
  next hb =>
  split
  · next hc =>
    exact .error (Fault.spelling_isFault (by decide)
      (hunspelled fun h => .inl ⟨.inr (.inr hc), h⟩))
  next hc =>
  rw [Bool.not_eq_true] at hv hb hc
  split
  · split
    · dsimp only
      split
      · next hd => exact .ok hd
      · exact .error (.inl ⟨_, rfl, by decide⟩)
    · exact .error (.inl ⟨_, rfl, by decide⟩)
  · next hp =>
    split
    · next hr => exact .error (.inr (.inl ⟨rfl, hv, hb, hc, hp, hr⟩))
    · next hr =>
      rw [Bool.not_eq_true] at hr
      exact .error (Fault.spelling_isFault (by decide)
        (hunspelled fun h => .inr ⟨hv, hb, hc, hp, hr, h⟩))

end Term

namespace Evaluator
open Number Formula

/-! ## Formulas -/

/-- How the evaluation of a formula breaks off. -/
inductive BreaksOff (room : Nat) (mode : Mode) (s : List Char) (bs : Bindings) : Failure → Prop
  /-- There is no room to walk its tree. -/
  | overflows (h : Overflows (room - 1) mode (bs.map Prod.fst) s) :
      BreaksOff room mode s bs (.breakdown .tooDeep)
  /-- Its value is known to be real, and no number can be had for it. -/
  | stalls {t t' : Term} (hp : parse (room - 1) mode (bs.map Prod.fst) s = .ok (.term t))
      (hb : bind t bs = some t') (ht : t'.IsUnsettled) :
      BreaksOff room mode s bs (.breakdown .wrongKind)
  /-- The fault about its value would spell a number of too many digits. -/
  | unspelled {t t' : Term} (hp : parse (room - 1) mode (bs.map Prod.fst) s = .ok (.term t))
      (hb : bind t bs = some t') (ht : t'.IsUnspelled) :
      BreaksOff room mode s bs (.refused Json.unspellable)
  /-- It comes to a list or a function, and something keeps that from being spelled. -/
  | unlisted {v : Value} {o : Json.Obstacle} (hp : parse (room - 1) mode (bs.map Prod.fst) s = .ok v)
      (hv : ∀ t, v ≠ .term t) (ho : v.obstacle? (room - 3) = some o) :
      BreaksOff room mode s bs o.failure

section BreaksOff

variable {room : Nat} {mode : Mode} {s : List Char} {bs : Bindings}

theorem BreaksOff.ne_fault {e : Failure} (h : BreaksOff room mode s bs e) (f : Fault) :
    e ≠ .fault f := by
  cases h with
  | unlisted _ _ _ => exact Json.Obstacle.failure_ne_fault _ f
  | _ => nofun

theorem parse_of_overflows {unknowns : List String} (h : Overflows room mode unknowns s) :
    parse room mode unknowns s = .error (.breakdown .tooDeep) := by
  obtain ⟨tree, ht, hc⟩ := h
  rw [parse_of_tree ht, hc, error_bind]

theorem valueOf_of_ne_term (room : Nat) {v : Value} (hv : ∀ t, v ≠ .term t) (bs : Bindings) :
    valueOf room (.parsed v) bs = .error (Fault.noNumber.spelling (v.obstacle? (room - 2))) := by
  cases v with
  | term t => exact absurd rfl (hv t)
  | list items => rfl
  | function f => rfl

/-- The message about a list spells its items, and a whole number of thousands of digits may be one
of them. -/
example : Ends (valueOf usualRoom (.parsed (.list [.term (.numeral (.exact (10 ^ 5000)))])) [])
    (fun _ => False) (· = .refused Json.unspellable) := by
  decide +kernel

theorem evaluate_of_breaksOff {e : Failure} (h : BreaksOff room mode s bs e) :
    evaluate room mode s bs = .error e := by
  cases h with
  | overflows h =>
    rw [evaluate, parse_of_overflows h, error_bind]
  | stalls hp hb ht =>
    simp only [evaluate, hp, ok_bind, valueOf, hb, Term.toDouble_of_unsettled ht]
  | unspelled hp hb ht =>
    simp only [evaluate, hp, ok_bind, valueOf, hb, Term.toDouble_of_unspelled ht]
  | unlisted hp hv ho =>
    rw [evaluate, hp, ok_bind, valueOf_of_ne_term _ hv, show room - 1 - 2 = room - 3 by omega, ho]
    rfl

theorem evaluate_ends (room : Nat) (mode : Mode) (s : List Char) (bs : Bindings) :
    Ends (evaluate room mode s bs) (fun d => d.isFinite = true)
      (Failure.IsFault evaluationKinds (BreaksOff room mode s bs)) := by
  rw [evaluate]
  cases hp : parse (room - 1) mode (bs.map Prod.fst) s with
  | error e =>
    refine .error (((parse_ends _ mode _ s).of_error hp).mono (fun _ hk => hk) ?_)
    rintro ⟨rfl, h⟩
    exact .overflows h
  | ok v =>
    rw [ok_bind]
    by_cases hv : ∀ t, v ≠ .term t
    · rw [valueOf_of_ne_term _ hv, show room - 1 - 2 = room - 3 by omega]
      exact .error (Fault.spelling_isFault (by decide) fun o ho => .unlisted hp hv ho)
    · push Not at hv
      obtain ⟨t, rfl⟩ := hv
      simp only [valueOf]
      cases hb : bind t bs with
      | none => exact .error (.inl ⟨_, rfl, by decide⟩)
      | some t' =>
        refine t'.toDouble_ends.mono (fun _ hd => hd) fun e he => he.mono (by decide) ?_
        rintro (⟨rfl, ht⟩ | ⟨rfl, ht⟩)
        · exact .stalls hp hb ht
        · exact .unspelled hp hb ht

end BreaksOff

/-! ## Plain values -/

/-- The fault about a plain value would spell it, and something keeps it from being spelled. -/
def IsUnspelled (room : Nat) (v : Json) (o : Json.Obstacle) : Prop :=
  (∀ d, v ≠ .number d) ∧ (∀ i, v = .int i → (Double.ofInt i).isFinite = false) ∧
    v.obstacle? room = some o

end Evaluator

end Reckon
