import Mathlib.Data.List.Basic

/-
Computations that end with a value or with a fault. `Ends x P Q` says what is known of
each: a value has `P`, a fault has `Q`. It goes from the steps of a computation to the
whole of it, and from the items of a list to a walk over the list. `Outlasts x y R L` says
the same of two computations step by step: where `y` has a value, `x` has one that `R`
relates to it, and where `y` fails, `x` fails alike unless the fault is one that `L` lets
only `y` have.
-/
namespace Reckon

variable {ε α β : Type}

@[simp] theorem ok_bind (a : α) (f : α → Except ε β) : (Except.ok a >>= f) = f a := rfl

@[simp] theorem error_bind (e : ε) (f : α → Except ε β) :
    ((Except.error e : Except ε α) >>= f) = .error e := rfl

theorem eq_ok_of_toOption {x : Except ε α} {a : α} (h : x.toOption = some a) : x = .ok a := by
  cases x with
  | ok b =>
    cases h
    rfl
  | error e => cases h

/-- A value has `P`, a fault has `Q`. -/
def Ends (x : Except ε α) (P : α → Prop) (Q : ε → Prop) : Prop :=
  match x with
  | .ok a => P a
  | .error e => Q e

instance {x : Except ε α} {P : α → Prop} {Q : ε → Prop} [DecidablePred P] [DecidablePred Q] :
    Decidable (Ends x P Q) :=
  match x with
  | .ok a => inferInstanceAs (Decidable (P a))
  | .error e => inferInstanceAs (Decidable (Q e))

namespace Ends

variable {x : Except ε α} {P P' : α → Prop} {Q Q' : ε → Prop}

theorem ok {a : α} (h : P a) : Ends (.ok a : Except ε α) P Q := h

theorem error {e : ε} (h : Q e) : Ends (.error e : Except ε α) P Q := h

theorem anyhow (x : Except ε α) : Ends x (fun _ => True) fun _ => True := by cases x <;> trivial

theorem of_ok (h : Ends x P Q) {a : α} (hx : x = .ok a) : P a := by
  subst hx
  exact h

theorem of_error (h : Ends x P Q) {e : ε} (hx : x = .error e) : Q e := by
  subst hx
  exact h

theorem eq_error {e : ε} (h : Ends x (fun _ => False) (· = e)) : x = .error e := by
  cases x with
  | ok a => exact h.elim
  | error e' => exact congrArg Except.error h

theorem mono (h : Ends x P Q) (hP : ∀ a, P a → P' a) (hQ : ∀ e, Q e → Q' e) : Ends x P' Q' := by
  cases x with
  | ok a => exact hP a h
  | error e => exact hQ e h

theorem mapError {δ : Type} {f : ε → δ} {S : δ → Prop} (h : Ends x P Q)
    (hf : ∀ e, Q e → S (f e)) : Ends (x.mapError f) P S := by
  cases x with
  | ok a => exact h
  | error e => exact hf e h

theorem bind {f : α → Except ε β} {R : β → Prop} (h : Ends x P Q)
    (hf : ∀ a, P a → Ends (f a) R Q) : Ends (x >>= f) R Q := by
  cases x with
  | ok a => exact hf a h
  | error e => exact h

end Ends

/-- A walk that ends has a value for every item, and no others. -/
theorem mapM_ends {f : α → Except ε β} {l : List α} {R : α → β → Prop} {Q : ε → Prop}
    (h : ∀ a ∈ l, Ends (f a) (R a) Q) :
    Ends (l.mapM f) (fun bs => (∀ a ∈ l, ∃ b ∈ bs, R a b) ∧ ∀ b ∈ bs, ∃ a ∈ l, R a b) Q := by
  induction l with
  | nil => exact .ok (by simp)
  | cons a l ih =>
    rw [List.mapM_cons]
    refine (h a (by simp)).bind fun b hb => ?_
    refine (ih fun x hx => h x (by simp [hx])).bind fun bs hbs => .ok ⟨?_, ?_⟩
    · intro x hx
      obtain rfl | hx := List.mem_cons.1 hx
      · exact ⟨b, by simp, hb⟩
      · obtain ⟨y, hy, hR⟩ := hbs.1 x hx
        exact ⟨y, by simp [hy], hR⟩
    · intro y hy
      obtain rfl | hy := List.mem_cons.1 hy
      · exact ⟨a, by simp, hb⟩
      · obtain ⟨x, hx, hR⟩ := hbs.2 y hy
        exact ⟨x, by simp [hx], hR⟩

theorem mapM_congr {f g : α → Except ε β} {l : List α} (h : ∀ a ∈ l, f a = g a) :
    l.mapM f = l.mapM g := by
  induction l with
  | nil => rfl
  | cons a l ih =>
    rw [List.mapM_cons, List.mapM_cons, h a (by simp), ih fun x hx => h x (by simp [hx])]

/-! ## Two computations -/

/-- The first computation gets at least as far as the second, to a value that `R` relates;
faults with `L` may stop the second one alone. -/
def Outlasts {γ : Type} (x : Except ε α) (y : Except ε γ) (R : α → γ → Prop) (L : ε → Prop) :
    Prop :=
  Ends y (fun c => ∃ a, x = .ok a ∧ R a c) fun e => x = .error e ∨ L e

namespace Outlasts

variable {γ δ : Type} {x : Except ε α} {y : Except ε γ} {R : α → γ → Prop} {L : ε → Prop}

theorem ok {a : α} {c : γ} (h : R a c) :
    Outlasts (.ok a : Except ε α) (.ok c : Except ε γ) R L := ⟨a, rfl, h⟩

theorem error {e : ε} : Outlasts (.error e : Except ε α) (.error e : Except ε γ) R L := .inl rfl

theorem refl {R : α → α → Prop} (h : ∀ a, R a a) (x : Except ε α) : Outlasts x x R L := by
  cases x with
  | ok a => exact ok (h a)
  | error e => exact error

/-- A fault of the first computation is one of the second, unless that was stopped alone. -/
theorem of_error (h : Outlasts x y R L) {e : ε} (hx : x = .error e) :
    y = .error e ∨ ∃ e', y = .error e' ∧ L e' := by
  cases y with
  | ok c =>
    obtain ⟨a, ha, _⟩ := h
    rw [hx] at ha
    cases ha
  | error e' =>
    obtain he | hL := h
    · rw [hx] at he
      cases he
      exact .inl rfl
    · exact .inr ⟨e', rfl, hL⟩

theorem bind {f : α → Except ε β} {g : γ → Except ε δ} {S : β → δ → Prop}
    (h : Outlasts x y R L) (hfg : ∀ a c, R a c → Outlasts (f a) (g c) S L) :
    Outlasts (x >>= f) (y >>= g) S L := by
  cases y with
  | ok c =>
    obtain ⟨a, rfl, hR⟩ := h
    exact hfg a c hR
  | error e =>
    obtain rfl | hL := h
    · exact error
    · exact .inr hL

theorem mono {L' : ε → Prop} (h : Outlasts x y R L) (hL : ∀ e, L e → L' e) :
    Outlasts x y R L' :=
  Ends.mono h (fun _ hc => hc) fun e he => he.imp_right (hL e)

theorem mapError {ζ : Type} {f : ε → ζ} {L' : ζ → Prop} (h : Outlasts x y R L)
    (hL : ∀ e, L e → L' (f e)) : Outlasts (x.mapError f) (y.mapError f) R L' := by
  cases y with
  | ok c =>
    obtain ⟨a, rfl, hR⟩ := h
    exact ok hR
  | error e =>
    obtain rfl | he := h
    · exact error
    · exact .inr (hL e he)

theorem map {f : α → β} {g : γ → δ} {S : β → δ → Prop} (h : Outlasts x y R L)
    (hfg : ∀ a c, R a c → S (f a) (g c)) : Outlasts (x.map f) (y.map g) S L := by
  cases y with
  | ok c =>
    obtain ⟨a, rfl, hR⟩ := h
    exact ok (hfg a c hR)
  | error e =>
    obtain rfl | he := h
    · exact error
    · exact .inr he

end Outlasts

/-- A walk outlasts another one if it does at every item. -/
theorem mapM_outlasts {γ : Type} {f : α → Except ε β} {g : α → Except ε γ} {l : List α}
    {R : β → γ → Prop} {L : ε → Prop} (h : ∀ a ∈ l, Outlasts (f a) (g a) R L) :
    Outlasts (l.mapM f) (l.mapM g) (List.Forall₂ R) L := by
  induction l with
  | nil => exact .ok .nil
  | cons a l ih =>
    rw [List.mapM_cons, List.mapM_cons]
    refine (h a (by simp)).bind fun b c hbc => ?_
    refine (ih fun x hx => h x (by simp [hx])).bind fun bs cs hbcs => ?_
    exact .ok (.cons hbc hbcs)

end Reckon
