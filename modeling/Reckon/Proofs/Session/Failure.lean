import Reckon.Proofs.Session.Steps

/-
What a fault leaves behind. `Operation.fault?` names the fault that an operation meets: the
one of the expression that is evaluated, of the value that is divided, or of the number that
is converted. Whoever meets a fault shows "Error", keeps the fault and tells it in one note
(`press_of_fault`); a name that stands for nothing is refused and changes nothing
(`perform_unknown`). Seen from the notes there is one error for each fault and no other: for
an operation this is `perform_notes`, for a run `run_errors`.
-/
namespace Reckon
open Number Tutor

/-- The fault that a calculation ended in. -/
def faultOf? {α : Type} : Except Failure α → Option Fault
  | .error (.fault f) => some f
  | _ => none

theorem faultOf?_eq_some {α : Type} {outcome : Except Failure α} {f : Fault} :
    faultOf? outcome = some f ↔ outcome = .error (.fault f) := by
  match outcome with
  | .ok _ | .error (.refused _) | .error (.breakdown _) => simp [faultOf?]
  | .error (.fault _) => simp [faultOf?]

theorem faultOf?_of_failure {α : Type} {e : Failure} (h : ∀ f, e ≠ .fault f) :
    faultOf? (.error e : Except Failure α) = none := by
  cases e with
  | fault f => exact absurd rfl (h f)
  | refused _ => rfl
  | breakdown _ => rfl

namespace Session

variable {τ : Type}

def errors (ns : List Note) : List Note := ns.filter fun n => n.kind = "error"

theorem errors_append (ms ns : List Note) : errors (ms ++ ns) = errors ms ++ errors ns :=
  List.filter_append ..

theorem errors_faultNotes (fs : List Fault) :
    errors (fs.map faultNote) = fs.map faultNote := by
  simp [errors, faultNote]

/-- The warning that a solver leaves, if it leaves one. -/
def warnings : Except Failure Solution → List Note
  | .error (.fault f) => [noSteps f]
  | _ => []

theorem errors_warnings (outcome : Except Failure Solution) : errors (warnings outcome) = [] := by
  unfold warnings
  split <;> rfl

/-! ## The fault that is met -/

/-- The fault that evaluating an expression meets. Without an expression nothing is
evaluated. -/
def evaluationFault? (room : Nat) (mode : Mode) (expression : List Char) : Option Fault :=
  if expression = [] then none else faultOf? (Evaluator.display room mode expression)

theorem evaluationFault?_eq_some {room : Nat} {mode : Mode} {expression : List Char} {f : Fault} :
    evaluationFault? room mode expression = some f ↔
      expression ≠ [] ∧ Evaluator.display room mode expression = .error (.fault f) := by
  simp [evaluationFault?, faultOf?_eq_some]

def keyFault? (s : Session τ) : Key → Option Fault
  | .equals => evaluationFault? (s.room - 2) s.mode s.expression
  | .percent => if s.expression = [] then none else faultOf? (value (s.room - 2) s.mode s.expression)
  | .convert _ => faultOf? (Conversion.number s.convertible s.expression)
  | _ => none

/-- The fault that an operation meets. What was said is evaluated behind a closing word, and
an explanation evaluates unless the solver broke off. -/
def Operation.fault? (s : Session τ) : Operation → Option Fault
  | .press name => (Key.ofText? name).bind s.keyFault?
  | .keyboard name => (Key.ofText? (Key.ofKeyboard name)).bind s.keyFault?
  | .listen transcript =>
    if (Voice.hear transcript).2 then evaluationFault? (s.room - 2) s.mode (s.said transcript) else none
  | .explain solve =>
    match solve s.expression with
    | .ok _ | .error (.fault _) => evaluationFault? (s.room - 2) s.mode s.expression
    | .error _ => none
  | _ => none

/-- The warning that an operation leaves, if it leaves one: a solver was asked, and failed. -/
def Operation.warnings (s : Session τ) : Operation → List Note
  | .explain solve => if s.expression = [] then [] else Session.warnings (solve s.expression)
  | _ => []

theorem Operation.errors_warnings (s : Session τ) (o : Operation) :
    errors (o.warnings s) = [] := by
  unfold Operation.warnings
  split
  · split
    · rfl
    · exact Session.errors_warnings _
  · rfl

/-- The key or the mode that an operation names does not exist. -/
def Operation.NamesUnknown : Operation → Prop
  | .press name => Key.ofText? name = none
  | .keyboard name => Key.ofText? (Key.ofKeyboard name) = none
  | .switch m => Mode.ofJson? m = none
  | _ => False

/-! ## Notes of the steps -/

/-- A step tells the fault that it meets in one error behind the notes, and shows and keeps
it; there is no other error. -/
def Tells {α : Type} (ns : List Note) (fault : Option Fault) (step : Step τ α) : Prop :=
  (∃ new, step.session.notes = ns ++ new ∧ errors new = fault.toList.map faultNote) ∧
    ∀ f ∈ fault, step.session.result = errorDisplay ∧ step.session.fault = some f

/-- A step leaves one error for the fault that it meets behind the notes, and nothing else. -/
def TellsOnly {α : Type} (ns : List Note) (fault : Option Fault) (step : Step τ α) : Prop :=
  step.session.notes = ns ++ fault.toList.map faultNote ∧
    ∀ f ∈ fault, step.session.result = errorDisplay ∧ step.session.fault = some f

theorem TellsOnly.silent {α : Type} {ns : List Note} {step : Step τ α}
    (h : step.session.notes = ns) : TellsOnly ns none step :=
  ⟨h.trans (List.append_nil ns).symm, by simp⟩

theorem TellsOnly.unwarned {α : Type} {ns : List Note} {fault : Option Fault} {step : Step τ α}
    (h : TellsOnly ns fault step) : TellsOnly (ns ++ []) fault step := by
  rwa [List.append_nil]

theorem TellsOnly.map {α β : Type} {ns : List Note} {fault : Option Fault} {step : Step τ α}
    (h : TellsOnly ns fault step) (f : α → β) : TellsOnly ns fault (step.map f) := h

theorem TellsOnly.tells {α : Type} {ns ws : List Note} {fault : Option Fault} {step : Step τ α}
    (h : TellsOnly (ns ++ ws) fault step) (hws : errors ws = []) : Tells ns fault step := by
  obtain ⟨hn, hf⟩ := h
  refine ⟨⟨ws ++ fault.toList.map faultNote, ?_, ?_⟩, hf⟩
  · rw [hn, List.append_assoc]
  · rw [errors_append, hws, List.nil_append, errors_faultNotes]

theorem tellsOnly_failed {α : Type} (s : Session τ) (f : Fault) (answer : Except Failure α) :
    TellsOnly s.notes (some f) ⟨s.failed f, answer, none⟩ := by
  refine ⟨rfl, ?_⟩
  intro g hg
  obtain rfl : f = g := by simpa using hg
  exact ⟨rfl, rfl⟩

theorem evaluate_tellsOnly (s : Session τ) :
    TellsOnly s.notes (evaluationFault? (s.room - 2) s.mode s.expression) s.evaluate := by
  obtain ⟨hx, h⟩ | ⟨text, hx, hd, h⟩ | ⟨f, hx, hd, h⟩ | ⟨e, hx, hd, hf, h⟩ := s.evaluate_cases
  · rw [h, evaluationFault?, if_pos hx]
    exact .silent rfl
  · rw [h, evaluationFault?, if_neg hx, hd]
    exact .silent rfl
  · rw [h, evaluationFault?, if_neg hx, hd]
    exact s.tellsOnly_failed f _
  · rw [h, evaluationFault?, if_neg hx, hd, faultOf?_of_failure hf]
    exact .silent rfl

theorem percent_tellsOnly (s : Session τ) (now : τ) :
    TellsOnly s.notes (s.keyFault? .percent) (s.percent now) := by
  obtain ⟨hx, h⟩ | ⟨v, hx, hv, h⟩ | ⟨f, hx, hv, h⟩ | ⟨e, hx, hv, hf, h⟩ := s.percent_cases now
  · rw [h, keyFault?, if_pos hx]
    exact .silent rfl
  · rw [h, keyFault?, if_neg hx, hv]
    exact .silent rfl
  · rw [h, keyFault?, if_neg hx, hv]
    exact s.tellsOnly_failed f _
  · rw [h, keyFault?, if_neg hx, hv, faultOf?_of_failure hf]
    exact .silent rfl

theorem convert_tellsOnly (s : Session τ) (r : Radix) :
    TellsOnly s.notes (s.keyFault? (.convert r)) (s.convert r) := by
  obtain ⟨i, hi, h⟩ | ⟨f, hi, h⟩ | ⟨e, hi, hf, h⟩ := s.convert_cases r
  · rw [h, keyFault?, hi]
    exact .silent rfl
  · rw [h, keyFault?, hi]
    exact s.tellsOnly_failed f _
  · rw [h, keyFault?, hi, faultOf?_of_failure hf]
    exact .silent rfl

theorem explain_tellsOnly (s : Session τ) (solve : List Char → Except Failure Solution) :
    TellsOnly (s.notes ++ Operation.warnings s (.explain solve))
      (Operation.fault? s (.explain solve))
      (Session.explain (fun (_ : Unit) text => ((), solve text)) () s).2 := by
  simp only [Operation.fault?, Operation.warnings]
  obtain ⟨hx, h⟩ | ⟨solution, hx, ho, h⟩ | ⟨f, hx, ho, h⟩ | ⟨e, hx, ho, hf, h⟩ :=
    s.explain_split (fun (_ : Unit) text => ((), solve text)) ()
  · have hnone : evaluationFault? (s.room - 2) s.mode s.expression = none := if_pos hx
    rw [h, if_pos hx, hnone]
    split <;> exact (TellsOnly.silent rfl).unwarned
  · rw [h, if_neg hx, show solve s.expression = _ from ho]
    exact (s.evaluate_tellsOnly.map _).unwarned
  · rw [h, if_neg hx, show solve s.expression = _ from ho]
    exact (s.note (noSteps f)).evaluate_tellsOnly.map _
  · rw [h, if_neg hx, show solve s.expression = _ from ho]
    cases e with
    | fault f => exact absurd rfl (hf f)
    | refused _ | breakdown _ => exact (TellsOnly.silent rfl).unwarned

section Lock

variable [LE τ] [DecidableLE τ]

theorem replace_notes (s : Session τ) (text : List Char) (now : τ) :
    (s.replace text now).notes = s.notes := by
  unfold replace
  split <;> rfl

theorem press_tellsOnly (s : Session τ) (k : Key) (now : τ) :
    TellsOnly s.notes (s.keyFault? k) (s.press k now) := by
  cases k with
  | equals => exact s.evaluate_tellsOnly
  | percent => exact s.percent_tellsOnly now
  | convert r => exact s.convert_tellsOnly r
  | clear => exact .silent (s.replace_notes [] now)
  | backspace => exact .silent (s.replace_notes s.expression.dropLast now)
  | wrap w => exact .silent rfl
  | type token => exact .silent rfl

theorem pressNamed_tellsOnly (s : Session τ) (name : List Char) (now : τ) :
    TellsOnly s.notes ((Key.ofText? name).bind s.keyFault?) (s.pressNamed name now) := by
  cases h : Key.ofText? name with
  | none => exact .silent (by rw [(pressNamed_of_unknown h).1])
  | some k =>
    rw [pressNamed_of_key h]
    exact s.press_tellsOnly k now

theorem listen_tellsOnly (s : Session τ) (transcript : List Char) (now : τ) :
    TellsOnly s.notes (Operation.fault? s (.listen transcript)) (s.listen transcript now) := by
  obtain ⟨s', hx, hm, hr, hn, _, h⟩ := s.listen_split transcript now
  by_cases hasked : (Voice.hear transcript).2 = true
  · rw [h, if_pos hasked, Operation.fault?, if_pos hasked, ← hx, ← hm, ← hr, ← hn]
    exact s'.evaluate_tellsOnly
  · rw [h, if_neg hasked, Operation.fault?, if_neg hasked]
    exact .silent hn

theorem press_of_fault {s : Session τ} {k : Key} {f : Fault} (h : s.keyFault? k = some f)
    (now : τ) : (s.press k now).session = s.failed f ∧ (s.press k now).entry = none := by
  cases k with
  | equals =>
    obtain ⟨hx, hd⟩ := evaluationFault?_eq_some.1 h
    have he : s.expression.isEmpty = false := by simpa using hx
    simp only [press, evaluate, he, Bool.false_eq_true, if_false, hd, settle, and_self]
  | percent =>
    obtain ⟨hx, hv⟩ : s.expression ≠ [] ∧
        value (s.room - 2) s.mode s.expression = .error (.fault f) := by
      simpa [keyFault?, faultOf?_eq_some] using h
    have he : s.expression.isEmpty = false := by simpa using hx
    simp only [press, percent, he, Bool.false_eq_true, if_false, hv, settle, and_self]
  | convert r =>
    have hn : Conversion.number s.convertible s.expression = .error (.fault f) :=
      faultOf?_eq_some.1 h
    simp only [press, convert, hn, settle, and_self]
  | _ => cases h

end Lock

variable [Add τ] [Sub τ] [LE τ] [LT τ] [DecidableLE τ] [DecidableLT τ]

/-! ## Operations -/

/-- Every operation but the one that hands the notes out leaves its warning behind the notes, and
one error for the fault that it meets. -/
theorem perform_tellsOnly (s : Session τ) (now : τ) {o : Operation} (ho : o ≠ .drain) :
    TellsOnly (s.notes ++ o.warnings s) (o.fault? s) (s.perform now o) := by
  cases o with
  | press name => exact ((s.pressNamed_tellsOnly name now).map _).unwarned
  | keyboard name => exact ((s.pressNamed_tellsOnly (Key.ofKeyboard name) now).map _).unwarned
  | listen transcript => exact ((s.listen_tellsOnly transcript now).map _).unwarned
  | replace text => exact (TellsOnly.silent (s.replace_notes text now)).unwarned
  | type token => exact (TellsOnly.silent rfl).unwarned
  | switch m =>
    refine (TellsOnly.silent ?_).unwarned
    simp only [perform, switchNamed, Step.map_session]
    split
    · simp only [switchTo]
      split <;> rfl
    · rfl
  | request => exact (TellsOnly.silent rfl).unwarned
  | receive requestedFor verdict => exact (TellsOnly.silent rfl).unwarned
  | tick classify =>
    cases classify with
    | none => exact (TellsOnly.silent rfl).unwarned
    | some classify =>
      refine (TellsOnly.silent ?_).unwarned
      obtain ⟨_, h⟩ | ⟨_, _, _, _, h⟩ := s.tick_cases classify now
      · simp only [perform, h, Step.map_session, request]
      · simp only [perform, h, Step.map_session, request, receive]
  | explain solve => exact (s.explain_tellsOnly solve).map _
  | view => exact (TellsOnly.silent rfl).unwarned
  | drain => exact absurd rfl ho

/-- Every operation but the one that hands the notes out tells the fault that it meets once,
and no other error. -/
theorem perform_notes (s : Session τ) (now : τ) {o : Operation} (ho : o ≠ .drain) :
    Tells s.notes (o.fault? s) (s.perform now o) :=
  (s.perform_tellsOnly now ho).tells (o.errors_warnings s)

/-- A name that stands for nothing is refused, and the session is left as it was. -/
theorem perform_unknown (s : Session τ) (now : τ) {o : Operation} (h : o.NamesUnknown) :
    ∃ reason, s.perform now o = ⟨s, .error (.refused reason), none⟩ := by
  cases o with
  | press name =>
    have hk : Key.ofText? name = none := h
    simp only [perform, pressNamed, Key.read, hk]
    exact ⟨_, rfl⟩
  | keyboard name =>
    have hk : Key.ofText? (Key.ofKeyboard name) = none := h
    simp only [perform, pressKeyboard, pressNamed, Key.read, hk]
    exact ⟨_, rfl⟩
  | switch m =>
    have hm : Mode.ofJson? m = none := h
    simp only [perform, switchNamed, Mode.read, hm]
    exact ⟨_, rfl⟩
  | _ => exact h.elim

/-! ## Runs -/

/-- The faults that events meet, in their order. -/
def faults (s : Session τ) : List (Event τ) → List Fault
  | [] => []
  | e :: es => (e.operation.fault? s).toList ++ (s.after e).faults es

theorem faults_concat (s : Session τ) (es : List (Event τ)) (e : Event τ) :
    s.faults (es ++ [e]) = s.faults es ++ (e.operation.fault? (s.run es)).toList := by
  induction es generalizing s with
  | nil => simp [faults, run]
  | cons e' es ih =>
    rw [List.cons_append, faults, ih, faults, List.append_assoc]
    rfl

/-- As long as the notes are not handed out, the errors among them are those of the faults
that were met, one for each. -/
theorem run_errors (s : Session τ) (es : List (Event τ)) (h : ∀ e ∈ es, e.operation ≠ .drain) :
    errors (s.run es).notes = errors s.notes ++ (s.faults es).map faultNote := by
  induction es generalizing s with
  | nil => simp [run, faults]
  | cons e es ih =>
    obtain ⟨⟨new, hn, he⟩, _⟩ := s.perform_notes e.time (h e List.mem_cons_self)
    have hs : errors (s.after e).notes =
        errors s.notes ++ (e.operation.fault? s).toList.map faultNote := by
      rw [after, hn, errors_append, he]
    calc errors (s.run (e :: es)).notes
        = errors ((s.after e).run es).notes := rfl
      _ = errors (s.after e).notes ++ ((s.after e).faults es).map faultNote :=
          ih (s.after e) fun e' he' => h e' (List.mem_cons_of_mem e he')
      _ = errors s.notes ++ (s.faults (e :: es)).map faultNote := by
          rw [hs, faults, List.map_append, List.append_assoc]

/-- Whatever the session: a calculation that meets a fault changes nothing but what it shows
and keeps of the fault, and tells it in one error; an unknown name changes nothing; and no
operation tells an error but for the fault that it meets, so that after any events there is
one error for each fault. -/
theorem faults_told_once (s : Session τ) (now : τ) :
    (∀ k f, s.keyFault? k = some f →
      (s.press k now).session = { s with
        result := errorDisplay, fault := some f,
        notes := s.notes ++ [⟨"error", f.title, f.userMessage⟩] } ∧
      (s.press k now).entry = none) ∧
    (∀ o : Operation, o.NamesUnknown →
      ∃ reason, s.perform now o = ⟨s, .error (.refused reason), none⟩) ∧
    (∀ o : Operation, o ≠ .drain → Tells s.notes (o.fault? s) (s.perform now o)) ∧
    ∀ es : List (Event τ), (∀ e ∈ es, e.operation ≠ .drain) →
      errors (s.run es).notes = errors s.notes ++ (s.faults es).map faultNote := by
  refine ⟨?_, ?_, ?_, ?_⟩
  · intro k f hf
    exact press_of_fault hf now
  · intro o ho
    exact s.perform_unknown now ho
  · intro o ho
    exact s.perform_notes now ho
  · intro es hes
    exact s.run_errors es hes

/-- A division by zero on screen. -/
def division : Session Int := { fresh ⟨2, 1, false⟩ .standard with expression := "1/0".toList }

/-- The result is asked for twice, with a key that does not exist in between. -/
def askedTwice : List (Event Int) :=
  [⟨0, .press "=".toList⟩, ⟨1, .press "?".toList⟩, ⟨2, .keyboard "Enter".toList⟩]

/-- The division shows "Error" and is told in one error each time that it is asked for; a key
that does not exist is refused. -/
theorem division_told :
    (division.press .equals 0).session = { division with
      result := errorDisplay, fault := some .notReal,
      notes := [⟨"error", "Invalid Result", "Please check your calculation.".toList⟩] } ∧
    (∃ reason,
      division.perform 0 (.press "?".toList) = ⟨division, .error (.refused reason), none⟩) ∧
    Tells [] (some .notReal) (division.perform 0 (.keyboard "Enter".toList)) ∧
    errors (division.run askedTwice).notes = [faultNote .notReal, faultNote .notReal] := by
  obtain ⟨told, unknown, once, runs⟩ := faults_told_once division 0
  refine ⟨?_, unknown (.press "?".toList) ?_, ?_, ?_⟩
  · exact (told .equals .notReal (by decide +kernel)).1
  · show Key.ofText? "?".toList = none
    decide
  · have hf : Operation.fault? division (.keyboard "Enter".toList) = some .notReal := by
      decide +kernel
    have h := once (.keyboard "Enter".toList) (by simp)
    rwa [hf] at h
  · have hfaults : division.faults askedTwice = [.notReal, .notReal] := by decide +kernel
    rw [runs askedTwice (by simp [askedTwice]), hfaults]
    rfl

end Session

end Reckon
