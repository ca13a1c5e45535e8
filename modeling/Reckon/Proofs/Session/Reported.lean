import Mathlib.Data.List.Induction
import Reckon.Proofs.Number.Written
import Reckon.Proofs.Session.Failure
import Reckon.Proofs.Session.Interruption

/-
What is reported of a fault. A step ends in one of four ways (`Ended`): it meets a fault, which is
shown as "Error" and kept; it settles the matter, so that neither is left; it keeps both as they
were; or it edits the expression, and then "Error" goes while the fault stays. So in every run
"Error" is shown beside the fault that was met last, but a fault may be reported where nothing is
shown of it any more: exactly where the expression was edited beside an "Error"
(`reported_beside_error`).
-/
namespace Reckon
open Number

/-- A key edits the expression, and neither calculates nor clears. -/
def Key.Edits : Key → Prop
  | .backspace | .wrap _ | .type _ => True
  | .equals | .clear | .percent | .convert _ => False

namespace Session

/-! ## What is never shown as a result -/

theorem ne_errorDisplay {s : List Char} (h : 'r' ∉ s) : s ≠ errorDisplay := by
  rintro rfl
  exact h (by decide)

theorem nil_ne_error : ([] : List Char) ≠ errorDisplay := by decide

theorem display_ne_error {room : Nat} {mode : Mode} {expression text : List Char}
    (h : Evaluator.display room mode expression = .ok text) : text ≠ errorDisplay := by
  obtain ⟨d, _, rfl⟩ := (display_ends room mode expression).of_ok h
  refine ne_errorDisplay fun hr => ?_
  exact absurd (written_resultText d 'r' hr) (by decide)

theorem toUpper_ne_r (c : Char) : c.toUpper ≠ 'r' := by
  intro h
  unfold Char.toUpper at h
  split at h
  · next hc =>
    have hval : c.val + ('A'.val - 'a'.val) = 'r'.val := by rw [← h]
    have hc' : c.val = 'r'.val - ('A'.val - 'a'.val) := by rw [← hval, UInt32.add_sub_cancel]
    rw [hc'] at hc
    exact absurd hc (by decide)
  · next hc =>
    subst h
    exact hc (by decide)

theorem write_ne_error (r : Radix) (i : Int) : r.write i ≠ errorDisplay := by
  have hdigits (n : Nat) : 'r' ∉ r.digits n := by
    intro hr
    obtain ⟨c, _, hc⟩ := List.mem_map.1 hr
    exact toUpper_ne_r c hc
  refine ne_errorDisplay fun hr => ?_
  unfold Radix.write at hr
  split at hr
  · obtain hr | hr := List.mem_cons.1 hr
    · cases hr
    · exact hdigits _ hr
  · exact hdigits _ hr

variable {τ : Type}

/-! ## How a step ends -/

/-- An operation edits the expression on screen, and no calculation comes of it. What was said
is an edit too where it is not evaluated, or where its evaluation breaks off. -/
def Operation.Edits (s : Session τ) : Operation → Prop
  | .press name => ∃ k, Key.ofText? name = some k ∧ k.Edits
  | .keyboard name => ∃ k, Key.ofText? (Key.ofKeyboard name) = some k ∧ k.Edits
  | .listen transcript =>
    (Voice.hear transcript).1 ≠ [] ∧
      ((Voice.hear transcript).2 = true →
        ∃ e, Evaluator.BreaksReady (s.room - 3) s.mode (s.said transcript) e)
  | .replace _ | .type _ => True
  | _ => False

/-- How a step ends that meets a certain fault, if any, and is an edit or not. -/
inductive Ended (s : Session τ) (met : Option Fault) (edits : Prop) (s' : Session τ) : Prop
  | failed {f : Fault} : met = some f → ¬ edits → s'.result = errorDisplay → s'.fault = some f →
      Ended s met edits s'
  | settled : ¬ edits → s'.result ≠ errorDisplay → s'.fault = none → Ended s met edits s'
  | kept : ¬ edits → s'.result = s.result → s'.fault = s.fault → Ended s met edits s'
  | edited : edits → s'.result = [] → s'.fault = s.fault → Ended s met edits s'

theorem Ended.of_iff {s t s' : Session τ} {met : Option Fault} {edits edits' : Prop}
    (h : Ended t met edits s') (he : edits ↔ edits') (hr : t.result = s.result)
    (hf : t.fault = s.fault) : Ended s met edits' s' := by
  cases h with
  | failed hm hn hr' hf' => exact .failed hm (mt he.2 hn) hr' hf'
  | settled hn hr' hf' => exact .settled (mt he.2 hn) hr' hf'
  | kept hn hr' hf' => exact .kept (mt he.2 hn) (hr'.trans hr) (hf'.trans hf)
  | edited hy hr' hf' => exact .edited (he.1 hy) hr' (hf'.trans hf)

theorem evaluate_ended (s : Session τ) {edits : Prop} (h : ¬ edits) :
    Ended s (evaluationFault? (s.room - 2) s.mode s.expression) edits s.evaluate.session := by
  obtain ⟨_, hs⟩ | ⟨text, _, hd, hs⟩ | ⟨f, hx, hd, hs⟩ | ⟨_, _, _, _, hs⟩ := s.evaluate_cases <;>
    rw [hs]
  · exact .kept h rfl rfl
  · exact .settled h (display_ne_error hd) rfl
  · exact .failed (evaluationFault?_eq_some.2 ⟨hx, hd⟩) h rfl rfl
  · exact .kept h rfl rfl

theorem edit_ended (s : Session τ) (text : List Char) (now : τ) {met : Option Fault}
    {edits : Prop} (h : edits) : Ended s met edits (s.edit text now) := .edited h rfl rfl

/-- A new expression that is evaluated at once: only where that breaks off nothing comes of it. -/
theorem edit_evaluate_ended (s : Session τ) {text : List Char} (hx : text ≠ []) (now : τ) :
    Ended s (evaluationFault? (s.room - 2) s.mode text)
      (∃ e, Evaluator.BreaksReady (s.room - 3) s.mode text e)
      (s.edit text now).evaluate.session := by
  obtain ⟨hnil, _⟩ | ⟨_, _, hd, hs⟩ | ⟨f, _, hd, hs⟩ | ⟨e, _, hd, hf, hs⟩ :=
    (s.edit text now).evaluate_cases
  · exact absurd hnil hx
  all_goals
    rw [s.edit_mode text now] at hd
    change Evaluator.display (s.room - 2) s.mode text = _ at hd
    rw [hs]
  · refine .settled ?_ (display_ne_error hd) rfl
    rintro ⟨e, he⟩
    cases hd.symm.trans (display_of_breaksReady he)
  · refine .failed (evaluationFault?_eq_some.2 ⟨hx, hd⟩) ?_ rfl rfl
    rintro ⟨e, he⟩
    exact he.ne_fault f (Except.error.inj (hd.symm.trans (display_of_breaksReady he))).symm
  · exact .edited ⟨e, (display_error_iff hf).1 hd⟩ rfl rfl

theorem percent_ended (s : Session τ) (now : τ) :
    Ended s (s.keyFault? .percent) (Key.Edits .percent) (s.percent now).session := by
  obtain ⟨_, hs⟩ | ⟨_, _, _, hs⟩ | ⟨f, hx, hv, hs⟩ | ⟨_, _, _, _, hs⟩ := s.percent_cases now <;>
    rw [hs]
  · exact .kept id rfl rfl
  · exact .settled id nil_ne_error rfl
  · have hf : s.keyFault? .percent = some f := by rw [keyFault?, if_neg hx, hv]; rfl
    exact .failed hf id rfl rfl
  · exact .kept id rfl rfl

theorem convert_ended (s : Session τ) (r : Radix) :
    Ended s (s.keyFault? (.convert r)) (Key.Edits (.convert r)) (s.convert r).session := by
  obtain ⟨i, _, hs⟩ | ⟨f, hi, hs⟩ | ⟨_, _, _, hs⟩ := s.convert_cases r <;> rw [hs]
  · exact .settled id (write_ne_error r i) rfl
  · exact .failed (faultOf?_eq_some.2 hi) id rfl rfl
  · exact .kept id rfl rfl

theorem explain_ended (s : Session τ) (solve : List Char → Except Failure Tutor.Solution) :
    Ended s (Operation.fault? s (.explain solve)) (Operation.Edits s (.explain solve))
      (Session.explain (fun (_ : Unit) text => ((), solve text)) () s).2.session := by
  obtain ⟨_, hs⟩ | ⟨_, _, ho, hs⟩ | ⟨f, _, ho, hs⟩ | ⟨_, _, _, _, hs⟩ :=
    s.explain_split (fun (_ : Unit) text => ((), solve text)) ()
  · rw [hs]
    exact .kept id rfl rfl
  · rw [hs, Operation.fault?, show solve s.expression = _ from ho]
    exact s.evaluate_ended id
  · rw [hs, Operation.fault?, show solve s.expression = _ from ho]
    exact ((s.note (noSteps f)).evaluate_ended id).of_iff .rfl rfl rfl
  · rw [hs]
    exact .kept id rfl rfl

theorem switchNamed_ended [Add τ] (s : Session τ) (v : Json) (now : τ) :
    Ended s none False (s.switchNamed v now).session := by
  cases h : Mode.ofJson? v with
  | none =>
    rw [switchNamed_of_unknown h]
    exact .kept id rfl rfl
  | some m =>
    rw [switchNamed_of_known h]
    simp only [switchTo]
    split
    · exact .settled id nil_ne_error rfl
    · exact .kept id rfl rfl

section Lock

variable [LE τ] [DecidableLE τ]

theorem replace_edited (s : Session τ) (text : List Char) (now : τ) :
    (s.replace text now).result = [] ∧ (s.replace text now).fault = s.fault := by
  unfold replace
  split <;> exact ⟨rfl, rfl⟩

theorem press_ended (s : Session τ) (k : Key) (now : τ) :
    Ended s (s.keyFault? k) k.Edits (s.press k now).session := by
  cases k with
  | equals => exact s.evaluate_ended id
  | clear => exact .settled id nil_ne_error rfl
  | backspace =>
    obtain ⟨hr, hf⟩ := s.replace_edited s.expression.dropLast now
    exact .edited ⟨⟩ hr hf
  | percent => exact s.percent_ended now
  | convert r => exact s.convert_ended r
  | wrap w => exact s.edit_ended _ now ⟨⟩
  | type token => exact s.edit_ended _ now ⟨⟩

theorem pressNamed_ended (s : Session τ) (name : List Char) (now : τ) :
    Ended s ((Key.ofText? name).bind s.keyFault?) (∃ k, Key.ofText? name = some k ∧ k.Edits)
      (s.pressNamed name now).session := by
  cases h : Key.ofText? name with
  | none =>
    rw [(pressNamed_of_unknown h).1]
    exact .kept (by rintro ⟨_, ⟨⟩, _⟩) rfl rfl
  | some k =>
    have he : k.Edits ↔ ∃ k', some k = some k' ∧ k'.Edits := by simp
    rw [pressNamed_of_key h]
    exact (s.press_ended k now).of_iff he rfl rfl

theorem listen_of_silence {transcript : List Char} (h : (Voice.hear transcript).1 = [])
    (s : Session τ) (now : τ) :
    s.listen transcript now = if (Voice.hear transcript).2 then s.evaluate else s.edited := by
  simp only [listen, h, List.isEmpty_nil, if_true]

theorem listen_of_words {transcript : List Char} (h : (Voice.hear transcript).1 ≠ [])
    (s : Session τ) (now : τ) :
    s.listen transcript now =
      if (Voice.hear transcript).2 then (s.edit (Voice.hear transcript).1 now).evaluate
      else (s.edit (Voice.hear transcript).1 now).edited := by
  have he : (Voice.hear transcript).1.isEmpty = false := by simpa using h
  simp only [listen, he, Bool.false_eq_true, if_false, replace_of_ne h]

theorem listen_ended (s : Session τ) (transcript : List Char) (now : τ) :
    Ended s (Operation.fault? s (.listen transcript)) (Operation.Edits s (.listen transcript))
      (s.listen transcript now).session := by
  have hsaid : s.said transcript = if (Voice.hear transcript).1 = [] then s.expression
    else (Voice.hear transcript).1 := rfl
  by_cases hx : (Voice.hear transcript).1 = []
  · have hno : ¬ Operation.Edits s (.listen transcript) := fun he => he.1 hx
    rw [listen_of_silence hx, Operation.fault?, hsaid, if_pos hx]
    by_cases hasked : (Voice.hear transcript).2 = true
    · rw [if_pos hasked, if_pos hasked]
      exact s.evaluate_ended hno
    · rw [if_neg hasked, if_neg hasked]
      exact .kept hno rfl rfl
  · rw [if_neg hx] at hsaid
    rw [listen_of_words hx, Operation.fault?, hsaid]
    by_cases hasked : (Voice.hear transcript).2 = true
    · rw [if_pos hasked, if_pos hasked]
      refine (s.edit_evaluate_ended hx now).of_iff ?_ rfl rfl
      rw [Operation.Edits, hsaid]
      exact ⟨fun hs => ⟨hx, fun _ => hs⟩, fun he => he.2 hasked⟩
    · rw [if_neg hasked, if_neg hasked]
      exact s.edit_ended _ now ⟨hx, fun h => absurd h hasked⟩

variable [Add τ] [Sub τ] [LT τ] [DecidableLT τ]

theorem perform_ended (s : Session τ) (now : τ) (o : Operation) :
    Ended s (o.fault? s) (o.Edits s) (s.perform now o).session := by
  cases o with
  | press name => exact s.pressNamed_ended name now
  | keyboard name => exact s.pressNamed_ended (Key.ofKeyboard name) now
  | listen transcript => exact s.listen_ended transcript now
  | replace text =>
    obtain ⟨hr, hf⟩ := s.replace_edited text now
    exact .edited ⟨⟩ hr hf
  | type token => exact s.edit_ended _ now ⟨⟩
  | switch v => exact s.switchNamed_ended v now
  | explain solve => exact s.explain_ended solve
  | tick classify =>
    cases classify with
    | none => exact .kept id rfl rfl
    | some classify =>
      obtain ⟨_, h⟩ | ⟨_, _, _, _, h⟩ := s.tick_cases classify now <;>
        exact .kept id (by rw [perform, h]; rfl) (by rw [perform, h]; rfl)
  | request | receive _ _ | view | drain => exact .kept id rfl rfl

theorem fault_of_met {s : Session τ} {o : Operation} {f : Fault} (h : o.fault? s = some f)
    (now : τ) : (s.perform now o).session.fault = some f := by
  have ho : o ≠ .drain := by
    rintro rfl
    cases h
  exact ((s.perform_notes now ho).2 f h).2

/-! ## Runs -/

/-- Beside an "Error" the expression was edited, and the fault has stayed since. -/
def LeftOver (s : Session τ) (es : List (Event τ)) : Prop :=
  ∃ before e rest, es = before ++ e :: rest ∧ (s.run before).result = errorDisplay ∧
    e.operation.Edits (s.run before) ∧ (s.run es).fault = (s.run before).fault

theorem last_of_error (policy : Mode.Policy τ) (m : Mode) (room : Nat) (es : List (Event τ))
    (h : ((fresh policy m room).run es).result = errorDisplay) :
    ∃ f, ((fresh policy m room).faults es).getLast? = some f ∧
      ((fresh policy m room).run es).fault = some f := by
  induction es using List.reverseRecOn with
  | nil => exact absurd h nil_ne_error
  | append_singleton es e ih =>
    rw [run_concat] at h ⊢
    rw [faults_concat]
    have hended := ((fresh policy m room).run es).perform_ended e.time e.operation
    cases hmet : e.operation.fault? ((fresh policy m room).run es) with
    | some f =>
      exact ⟨f, List.getLast?_concat, fault_of_met hmet e.time⟩
    | none =>
      rw [hmet] at hended
      rw [Option.toList_none, List.append_nil]
      cases hended with
      | failed hm _ _ _ => cases hm
      | settled _ hr _ => exact absurd h hr
      | kept _ hr hf =>
        obtain ⟨f, hlast, hfault⟩ := ih (hr.symm.trans h)
        exact ⟨f, hlast, hf.trans hfault⟩
      | edited _ hr _ => exact absurd (hr.symm.trans h) nil_ne_error

theorem error_or_leftOver (policy : Mode.Policy τ) (m : Mode) (room : Nat)
    (es : List (Event τ)) {f : Fault}
    (h : ((fresh policy m room).run es).fault = some f) :
    ((fresh policy m room).run es).result = errorDisplay ∨ LeftOver (fresh policy m room) es := by
  induction es using List.reverseRecOn with
  | nil => cases h
  | append_singleton es e ih =>
    have hrun := (fresh policy m room).run_concat es e
    have extend (hf : (((fresh policy m room).run es).after e).fault =
        ((fresh policy m room).run es).fault) :
        LeftOver (fresh policy m room) es → LeftOver (fresh policy m room) (es ++ [e]) := by
      rintro ⟨before, e', rest, rfl, hr, he, hfault⟩
      exact ⟨before, e', rest ++ [e], by simp, hr, he, by rw [hrun]; exact hf.trans hfault⟩
    rw [hrun] at h ⊢
    cases ((fresh policy m room).run es).perform_ended e.time e.operation with
    | failed _ _ hr _ => exact .inl hr
    | settled _ _ hf => cases hf.symm.trans h
    | kept _ hr hf => exact (ih (hf.symm.trans h)).imp hr.trans (extend hf)
    | edited he _ hf =>
      obtain hr | hl := ih (hf.symm.trans h)
      · exact .inr ⟨es, e, [], rfl, hr, he, by rw [hrun]; exact hf⟩
      · exact .inr (extend hf hl)

/-- In every run of a fresh session an "Error" that is seen comes with its category, which is
that of the fault met last. A category is seen without an "Error" only where the expression was
edited beside one; and so is it there, for no edit touches the fault. -/
theorem reported_beside_error (policy : Mode.Policy τ) (m : Mode) (room : Nat) :
    (∀ (es : List (Event τ)) (now : τ),
      ((((fresh policy m room).run es).view now).2.result = errorDisplay →
        ∃ f, ((fresh policy m room).faults es).getLast? = some f ∧
          (((fresh policy m room).run es).view now).2.fault = some f.kind) ∧
      ((((fresh policy m room).run es).view now).2.fault.isSome →
        (((fresh policy m room).run es).view now).2.result = errorDisplay ∨
          LeftOver (fresh policy m room) es)) ∧
    ∀ (s : Session τ) (now later : τ) (o : Operation), o.Edits s →
      ((s.perform now o).session.view later).2.result = [] ∧
        ((s.perform now o).session.view later).2.fault = (s.view now).2.fault := by
  refine ⟨fun es now => ⟨?_, ?_⟩, ?_⟩
  · intro h
    obtain ⟨f, hlast, hfault⟩ := last_of_error policy m room es h
    exact ⟨f, hlast, congrArg (Option.map Fault.kind) hfault⟩
  · intro h
    obtain ⟨f, hf⟩ := Option.isSome_iff_exists.1 (Option.isSome_map ▸ h)
    exact error_or_leftOver policy m room es hf
  · intro s now later o ho
    cases s.perform_ended now o with
    | failed _ he _ _ | settled he _ _ | kept he _ _ => exact absurd ho he
    | edited _ hr hf => exact ⟨hr, congrArg (Option.map Fault.kind) hf⟩

end Lock

/-- One is divided by zero, the result asked for, and the calculation gone on with. -/
def goneOn : List (Event ℤ) :=
  [⟨0, .type "1/0".toList⟩, ⟨1, .press "=".toList⟩, ⟨2, .press "+".toList⟩]

/-- The "Error" comes with the category of the division, which outlasts it. -/
theorem goneOn_leftOver :
    (∃ f, ((fresh ⟨2, 1, false⟩ .standard).faults (goneOn.take 2)).getLast? = some f ∧
      (((fresh ⟨2, 1, false⟩ .standard).run (goneOn.take 2)).view 1).2.fault = some f.kind) ∧
    (((fresh ⟨2, 1, false⟩ .standard).run goneOn).view 3).2.fault = some .invalidResult ∧
    LeftOver (fresh ⟨2, 1, false⟩ .standard) goneOn := by
  obtain ⟨runs, edits⟩ := reported_beside_error (⟨2, 1, false⟩ : Mode.Policy ℤ) .standard
    Evaluator.usualRoom
  let shown : Session ℤ := (fresh ⟨2, 1, false⟩ .standard).run (goneOn.take 2)
  have hfault : (shown.view 2).2.fault = some .invalidResult := by decide +kernel
  obtain ⟨hnil, hkept⟩ := edits shown 2 3 (.press "+".toList) ⟨.type ['+'], by decide, ⟨⟩⟩
  have hstays := hkept.trans hfault
  refine ⟨(runs (goneOn.take 2) 1).1 (by decide +kernel), hstays, ?_⟩
  refine ((runs goneOn 3).2 (Option.isSome_of_eq_some hstays)).resolve_left fun hr => ?_
  exact absurd (hnil.symm.trans hr) nil_ne_error

/-- Nothing is shown of the division any more, and its category is reported. -/
theorem goneOn_still_reported :
    (((fresh ⟨2, 1, false⟩ .standard).run goneOn).view 3).2.result ≠ errorDisplay ∧
    (((fresh ⟨2, 1, false⟩ .standard).run goneOn).view 3).2.fault = some .invalidResult := by
  decide +kernel

end Session

end Reckon
