import Reckon.Proofs.Outcome
import Reckon.Tutor.Classifier
import Reckon.Tutor.Solver

/-
How asking the language model ends. Whatever comes back — nothing, an error status, a body
that cannot be read, any body at all — there are three cases (`consult_cases`): the question
brings a text, which is then read; it brings a value that is filled and no text; or it brings
nothing, and the reason is told as a fault. Only the second case breaks the exchange off. So
the classifier names scientific mode exactly where a reply does, and standard mode otherwise;
the solver gives a solution exactly where a reply holds one, and otherwise its own fault; and
both break down exactly where what is brought is filled and no text (`exchange_outcomes`).
-/
namespace Reckon.Tutor

/-! ## What a question brings -/

/-- A content that is filled and no text. -/
def Reply.IsForeign (content : Json) : Prop :=
  content.isTruthy = true ∧ ∀ t, content ≠ .string t

theorem Reply.textOf_cases (content : Json) :
    (∃ reply, textOf content = .ok reply ∧ ¬ IsForeign content) ∨
    (textOf content = .error (.breakdown .noMember) ∧ IsForeign content) := by
  cases content with
  | string t => exact .inl ⟨t.toList, rfl, fun h => h.2 t rfl⟩
  | _ =>
    simp only [textOf, IsForeign]
    split
    · next h => exact .inr ⟨rfl, h, nofun⟩
    · next h => exact .inl ⟨[], rfl, fun hf => h hf.1⟩

theorem Response.answer_eq_ok_iff (r : Response) (content : Json) :
    r.answer = .ok content ↔ ∃ status body, r = .received status (.ok body) ∧
      status < firstErrorStatus ∧ content? body = some content := by
  cases r with
  | offline reason => simp [answer]
  | received status body =>
    by_cases hs : firstErrorStatus ≤ status
    · simp [answer, hs, Int.not_lt.2 hs]
    · cases body with
      | error reason => simp [answer, hs]
      | ok body => cases hc : content? body <;> simp [answer, hs, hc, Int.not_le.1 hs]

namespace Channel

variable {σ : Type} (ch : Channel σ) (s : σ) (question : List Char)

/-- The question brings a content: a model is configured, and the response to the question
reports no error and has the content in its body. -/
def Brings (content : Json) : Prop :=
  ch.model.isAvailable = true ∧ ∃ status body,
    (ch.send s (ch.model.post question)).2 = .received status (.ok body) ∧
      status < Response.firstErrorStatus ∧ Response.content? body = some content

/-- The question brings a text; nothing counts as an empty one. -/
def Replies (reply : List Char) : Prop :=
  ∃ content, ch.Brings s question content ∧ Reply.textOf content = .ok reply

/-- The question brings something that is filled and no text. -/
def BringsForeign : Prop := ∃ content, ch.Brings s question content ∧ Reply.IsForeign content

variable {ch s question}

theorem brings_iff {content : Json} :
    ch.Brings s question content ↔
      ch.model.isAvailable = true ∧ (ch.chat s question).2 = .ok content :=
  and_congr_right fun _ => (Response.answer_eq_ok_iff _ content).symm

theorem Brings.unique {content content' : Json} (h : ch.Brings s question content)
    (h' : ch.Brings s question content') : content = content' :=
  Except.ok.inj ((brings_iff.1 h).2.symm.trans (brings_iff.1 h').2)

theorem Replies.unique {reply reply' : List Char} (h : ch.Replies s question reply)
    (h' : ch.Replies s question reply') : reply = reply' := by
  obtain ⟨content, hb, ht⟩ := h
  obtain ⟨content', hb', ht'⟩ := h'
  obtain rfl := hb.unique hb'
  exact Except.ok.inj (ht.symm.trans ht')

theorem Replies.not_bringsForeign {reply : List Char} (h : ch.Replies s question reply) :
    ¬ ch.BringsForeign s question := by
  rintro ⟨content', hb', hf⟩
  obtain ⟨content, hb, ht⟩ := h
  obtain rfl := hb.unique hb'
  obtain ⟨_, _, hn⟩ | ⟨he, _⟩ := Reply.textOf_cases content
  · exact hn hf
  · rw [ht] at he
    cases he

end Channel

/-! ## Asking and reading -/

section Consult

variable {σ α : Type}

/-- The model is asked and its reply read; `fault` is the fault about a question that brings
nothing. -/
def consult (ch : Channel σ) (s : σ) (question : List Char) (fault : List Char → Fault)
    (read : List Char → Except Fault α) : σ × Except Failure α :=
  if !ch.model.isAvailable then (s, .error (.fault (fault unconfigured)))
  else
    match ch.chat s question with
    | (s, .error e) => (s, .error (.fault (fault e.message)))
    | (s, .ok content) =>
      match Reply.textOf content with
      | .error e => (s, .error e)
      | .ok reply =>
        match read reply with
        | .ok a => (s, .ok a)
        | .error f => (s, .error (.fault f))

theorem Classifier.ask_eq_consult (ch : Channel σ) (s : σ) (expression : List Char) :
    ask ch s expression = consult ch s (Prompt.mode expression) .unclassified verdict := by
  unfold ask consult
  split
  · rfl
  · obtain ⟨s', _ | content⟩ := ch.chat s (Prompt.mode expression)
    · rfl
    · simp only
      cases Reply.textOf content with
      | error e => rfl
      | ok reply =>
        simp only
        cases verdict reply <;> rfl

theorem Solver.run_eq_consult (ch : Channel σ) (s : σ) (question : List Char) :
    run ch s question = consult ch s question .unsolved Solution.ofReply := by
  unfold run consult
  split
  · rfl
  · obtain ⟨s', _ | content⟩ := ch.chat s question
    · rfl
    · simp only
      cases Reply.textOf content with
      | error e => rfl
      | ok reply =>
        simp only
        cases Solution.ofReply reply <;> rfl

variable (ch : Channel σ) (s : σ) (question : List Char) (fault : List Char → Fault)
  (read : List Char → Except Fault α)

theorem consult_cases :
    (∃ reply, ch.Replies s question reply ∧
      (consult ch s question fault read).2 = (read reply).mapError .fault) ∨
    (ch.BringsForeign s question ∧
      (consult ch s question fault read).2 = .error (.breakdown .noMember)) ∨
    ((∀ content, ¬ ch.Brings s question content) ∧
      ∃ reason, (consult ch s question fault read).2 = .error (.fault (fault reason))) := by
  by_cases ha : ch.model.isAvailable = true
  · simp only [consult, ha, Bool.not_true, Bool.false_eq_true, if_false]
    cases hc : ch.chat s question with
    | mk s' outcome =>
      cases outcome with
      | error e =>
        refine .inr (.inr ⟨fun content hb => ?_, e.message, rfl⟩)
        have hok := (Channel.brings_iff.1 hb).2
        rw [hc] at hok
        cases hok
      | ok content =>
        have hb : ch.Brings s question content := Channel.brings_iff.2 ⟨ha, by rw [hc]⟩
        obtain ⟨reply, ht, _⟩ | ⟨ht, hf⟩ := Reply.textOf_cases content
        · refine .inl ⟨reply, ⟨content, hb, ht⟩, ?_⟩
          simp only [ht]
          cases read reply <;> rfl
        · refine .inr (.inl ⟨⟨content, hb, hf⟩, ?_⟩)
          simp only [ht]
  · refine .inr (.inr ⟨fun content h => ha h.1, unconfigured, ?_⟩)
    simp only [consult, ha, Bool.not_false, if_true]

/-- The model's help is had where its reply can be read. -/
theorem consult_eq_ok_iff (a : α) :
    (consult ch s question fault read).2 = .ok a ↔
      ∃ reply, ch.Replies s question reply ∧ read reply = .ok a := by
  obtain ⟨reply, hr, h⟩ | ⟨hf, h⟩ | ⟨hn, reason, h⟩ := consult_cases ch s question fault read
  · rw [h]
    refine ⟨fun ha => ⟨reply, hr, ?_⟩, ?_⟩
    · cases hread : read reply with
      | ok b =>
        rw [hread] at ha
        exact congrArg _ (Except.ok.inj ha)
      | error f =>
        rw [hread] at ha
        cases ha
    · rintro ⟨reply', hr', ha⟩
      obtain rfl := hr.unique hr'
      rw [ha]
      rfl
  · rw [h]
    refine ⟨nofun, ?_⟩
    rintro ⟨reply, hr, _⟩
    exact absurd hf hr.not_bringsForeign
  · rw [h]
    refine ⟨nofun, ?_⟩
    rintro ⟨reply, ⟨content, hb, _⟩, _⟩
    exact absurd hb (hn content)

/-- The exchange breaks off where what is brought is filled and no text, and nowhere else. -/
theorem consult_breaks_iff (e : Failure) :
    ((consult ch s question fault read).2 = .error e ∧ ∀ f, e ≠ .fault f) ↔
      e = .breakdown .noMember ∧ ch.BringsForeign s question := by
  obtain ⟨reply, hr, h⟩ | ⟨hf, h⟩ | ⟨hn, reason, h⟩ := consult_cases ch s question fault read
  · rw [h]
    refine ⟨?_, fun ⟨_, hf⟩ => absurd hf hr.not_bringsForeign⟩
    rintro ⟨he, hno⟩
    cases hread : read reply with
    | ok b =>
      rw [hread] at he
      cases he
    | error f =>
      rw [hread] at he
      exact absurd (Except.error.inj he).symm (hno f)
  · rw [h]
    refine ⟨?_, ?_⟩
    · rintro ⟨he, _⟩
      exact ⟨(Except.error.inj he).symm, hf⟩
    · rintro ⟨rfl, _⟩
      exact ⟨rfl, nofun⟩
  · rw [h]
    refine ⟨?_, ?_⟩
    · rintro ⟨he, hno⟩
      exact absurd (Except.error.inj he).symm (hno _)
    · rintro ⟨_, content, hb, _⟩
      exact absurd hb (hn content)

variable {ch s question fault read} in
/-- A fault is the reader's, or the one about a question that brings nothing. -/
theorem consult_fault {P : Fault → Prop} (hfault : ∀ reason, P (fault reason))
    (hread : ∀ reply f, read reply = .error f → P f) {f : Fault}
    (h : (consult ch s question fault read).2 = .error (.fault f)) : P f := by
  obtain ⟨reply, _, hc⟩ | ⟨_, hc⟩ | ⟨_, reason, hc⟩ := consult_cases ch s question fault read
  · rw [hc] at h
    cases hr : read reply with
    | ok b =>
      rw [hr] at h
      cases h
    | error g =>
      rw [hr] at h
      obtain rfl : g = f := Failure.fault.inj (Except.error.inj h)
      exact hread reply g hr
  · rw [hc] at h
    cases h
  · rw [hc] at h
    obtain rfl : fault reason = f := Failure.fault.inj (Except.error.inj h)
    exact hfault reason

end Consult

/-! ## Modes -/

namespace Reply

/-- The reply names a mode: as the member `mode` of its object, or, where there is no object
or an empty one, as all that it says. -/
def Names (reply : List Char) (m : Mode) : Prop :=
  (∃ ms v, object? reply = some ms ∧ Json.find? "mode" ms = some v ∧ Mode.ofJson? v = some m) ∨
  ((object? reply = none ∨ object? reply = some []) ∧ Mode.ofText? reply = some m)

end Reply

namespace Classifier

theorem verdict_eq_ok_iff {reply : List Char} {m : Mode} :
    verdict reply = .ok m ↔ Reply.Names reply m := by
  have hv : verdict reply = .ok m ↔ Mode.ofJson? (label reply) = some m := by
    unfold verdict
    cases Mode.ofJson? (label reply) <;> simp
  have hall : Mode.ofJson? (.text (Text.trim reply)) = Mode.ofText? reply := by
    simp [Mode.ofJson?, Mode.ofText?, Json.asText, Json.text, Text.trim_trim]
  have hnull : Mode.ofJson? .null = none := by decide +kernel
  rw [hv, label, Reply.Names]
  match Reply.object? reply with
  | none => simp [hall]
  | some [] => simp [hall, Json.find?]
  | some (p :: ps) => cases hm : Json.find? "mode" (p :: ps) <;> simp [hm, hnull]

variable {σ : Type} {ch : Channel σ} {s : σ} {expression : List Char}

theorem classify_eq_scientific_iff :
    (classify ch s expression).2 = .ok .scientific ↔ needsModel expression = true ∧
      ∃ reply, ch.Replies s (Prompt.mode expression) reply ∧ Reply.Names reply .scientific := by
  have hok := consult_eq_ok_iff ch s (Prompt.mode expression) .unclassified verdict .scientific
  simp only [← ask_eq_consult, verdict_eq_ok_iff] at hok
  rw [← hok, classify]
  cases needsModel expression with
  | false => simp
  | true =>
    match ask ch s expression with
    | (_, .ok _) | (_, .error (.fault _)) | (_, .error (.refused _))
    | (_, .error (.breakdown _)) => simp

theorem classify_eq_error_iff {e : Failure} :
    (classify ch s expression).2 = .error e ↔ e = .breakdown .noMember ∧
      needsModel expression = true ∧ ch.BringsForeign s (Prompt.mode expression) := by
  have hbreaks := consult_breaks_iff ch s (Prompt.mode expression) .unclassified verdict e
  rw [← ask_eq_consult] at hbreaks
  rw [and_left_comm, ← hbreaks, classify]
  cases needsModel expression with
  | false => simp
  | true =>
    match ask ch s expression with
    | (_, .ok _) | (_, .error (.fault _)) | (_, .error (.refused _))
    | (_, .error (.breakdown _)) => simp +contextual [eq_comm]

end Classifier

/-! ## Solutions -/

namespace SolutionStep

/-- A value tells a step: it is an object that says what is done. -/
def IsTold (v : Json) : Prop := ∃ ms, v = .object ms ∧ (Json.find? "step" ms).isSome = true

theorem ofJson_ends (v : Json) :
    Ends (ofJson v) (fun _ => IsTold v)
      (fun f => (∃ reason, f = .unsolved reason) ∧ ¬ IsTold v) := by
  cases v with
  | object ms =>
    simp only [ofJson]
    split
    · next h => exact .ok ⟨ms, rfl, h⟩
    · next h =>
      refine .error ⟨⟨_, rfl⟩, ?_⟩
      rintro ⟨ms', hms, h'⟩
      cases hms
      exact h h'
  | _ => exact .error ⟨⟨_, rfl⟩, fun ⟨_, h, _⟩ => nomatch h⟩

end SolutionStep

namespace Solution

/-- A reply holds a solution: an object with a list of steps, each of which is told. -/
def IsTold (reply : List Char) : Prop :=
  ∃ ms items, Reply.object? reply = some ms ∧ Json.find? "steps" ms = some (.array items) ∧
    ∀ v ∈ items, SolutionStep.IsTold v

theorem steps_ends (items : List Json) :
    Ends (items.mapM SolutionStep.ofJson) (fun _ => ∀ v ∈ items, SolutionStep.IsTold v)
      (fun f => (∃ reason, f = .unsolved reason) ∧ ¬ ∀ v ∈ items, SolutionStep.IsTold v) := by
  have each : ∀ v ∈ items, Ends (SolutionStep.ofJson v) (fun _ => SolutionStep.IsTold v)
      (fun f => (∃ reason, f = .unsolved reason) ∧ ¬ ∀ v ∈ items, SolutionStep.IsTold v) := by
    intro v hv
    refine (SolutionStep.ofJson_ends v).mono (fun _ h => h) ?_
    rintro f ⟨hf, hn⟩
    exact ⟨hf, fun hall => hn (hall v hv)⟩
  refine (mapM_ends each).mono ?_ fun _ h => h
  rintro steps ⟨h, _⟩ v hv
  obtain ⟨_, _, htold⟩ := h v hv
  exact htold

theorem ofReply_ends (reply : List Char) :
    Ends (ofReply reply) (fun _ => IsTold reply)
      (fun f => (∃ reason, f = .unsolved reason) ∧ ¬ IsTold reply) := by
  unfold ofReply
  cases ho : Reply.object? reply with
  | none => exact .error ⟨⟨_, rfl⟩, fun ⟨_, _, h, _⟩ => nomatch ho.symm.trans h⟩
  | some ms =>
    have absent_ends (h : ∀ items, Json.find? "steps" ms ≠ some (.array items)) :
        Ends (.error absent : Except Fault Solution) (fun _ => IsTold reply)
          (fun f => (∃ reason, f = .unsolved reason) ∧ ¬ IsTold reply) := by
      refine .error ⟨⟨_, rfl⟩, ?_⟩
      rintro ⟨ms', items, ho', hs, _⟩
      obtain rfl : ms = ms' := Option.some.inj (ho.symm.trans ho')
      exact h items hs
    simp only [ofMembers]
    split
    · next items hs =>
      have told : (∀ v ∈ items, SolutionStep.IsTold v) ↔ IsTold reply := by
        refine ⟨fun h => ⟨ms, items, ho, hs, h⟩, ?_⟩
        rintro ⟨ms', items', ho', hs', h⟩
        obtain rfl : ms = ms' := Option.some.inj (ho.symm.trans ho')
        rw [hs] at hs'
        cases hs'
        exact h
      have hsteps := steps_ends items
      rw [told] at hsteps
      exact hsteps.bind fun steps h => .ok h
    · next hs => exact absent_ends hs

end Solution

namespace Solver

/-- How asking for steps ends: with a solution exactly where one is told, otherwise with the
fault of the solver or a breakdown, and with the breakdown exactly where what was brought is
foreign. -/
structure Settles (outcome : Except Failure Solution) (told foreign : Prop) : Prop where
  solved : (∃ solution, outcome = .ok solution) ↔ told
  failed : ∀ e, outcome = .error e →
    (∃ reason, e = .fault (.unsolved reason)) ∨ e = .breakdown .noMember
  broken : outcome = .error (.breakdown .noMember) ↔ foreign

variable {σ : Type} (ch : Channel σ) (s : σ)

theorem run_settles (question : List Char) :
    Settles (run ch s question).2
      (∃ reply, ch.Replies s question reply ∧ Solution.IsTold reply)
      (ch.BringsForeign s question) := by
  rw [run_eq_consult]
  refine ⟨⟨?_, ?_⟩, ?_, ⟨?_, ?_⟩⟩
  · rintro ⟨solution, h⟩
    obtain ⟨reply, hr, hread⟩ := (consult_eq_ok_iff ..).1 h
    exact ⟨reply, hr, (Solution.ofReply_ends reply).of_ok hread⟩
  · rintro ⟨reply, hr, htold⟩
    cases hread : Solution.ofReply reply with
    | ok solution => exact ⟨solution, (consult_eq_ok_iff ..).2 ⟨reply, hr, hread⟩⟩
    | error f => exact absurd htold ((Solution.ofReply_ends reply).of_error hread).2
  · intro e he
    by_cases hf : ∃ f, e = .fault f
    · obtain ⟨f, rfl⟩ := hf
      obtain ⟨reason, rfl⟩ : ∃ reason, f = .unsolved reason :=
        consult_fault (fun reason => ⟨reason, rfl⟩)
          (fun reply f h => ((Solution.ofReply_ends reply).of_error h).1) he
      exact .inl ⟨reason, rfl⟩
    · exact .inr ((consult_breaks_iff ..).1 ⟨he, not_exists.1 hf⟩).1
  · intro h
    exact ((consult_breaks_iff ..).1 ⟨h, nofun⟩).2
  · intro h
    exact ((consult_breaks_iff ..).2 ⟨rfl, h⟩).1

/-- An equation that has not exactly one equals sign is not asked about. -/
theorem solveEquation_settles (equation : List Char) :
    Settles (solveEquation ch s equation).2
      (equation.count '=' = 1 ∧
        ∃ reply, ch.Replies s (Prompt.equation equation) reply ∧ Solution.IsTold reply)
      (equation.count '=' = 1 ∧ ch.BringsForeign s (Prompt.equation equation)) := by
  unfold solveEquation
  by_cases hone : equation.count '=' = 1
  · simpa [hone] using run_settles ch s (Prompt.equation equation)
  · rw [if_pos hone]
    refine ⟨⟨nofun, fun h => absurd h.1 hone⟩, ?_, ⟨nofun, fun h => absurd h.1 hone⟩⟩
    intro e he
    exact .inl ⟨_, (Except.error.inj he).symm⟩

end Solver

/-! ## All outcomes -/

/-- Whatever a question brings: the classifier gives scientific mode exactly where the reply
names it, and standard mode otherwise, and the solver gives a solution exactly where the reply
tells one, and otherwise its fault; but where what is brought is filled and no text, and only
there, both break down. -/
theorem exchange_outcomes {σ : Type} (ch : Channel σ) (s : σ) :
    (∀ expression : List Char,
      ((Classifier.classify ch s expression).2 = .ok .scientific ↔
        Classifier.needsModel expression = true ∧
          ∃ reply, ch.Replies s (Prompt.mode expression) reply ∧
            Reply.Names reply .scientific) ∧
      (∀ e, (Classifier.classify ch s expression).2 = .error e ↔
        e = .breakdown .noMember ∧ Classifier.needsModel expression = true ∧
          ch.BringsForeign s (Prompt.mode expression))) ∧
    (∀ expression : List Char,
      Solver.Settles (Solver.solve ch s expression).2
        (∃ reply, ch.Replies s (Prompt.expression expression) reply ∧ Solution.IsTold reply)
        (ch.BringsForeign s (Prompt.expression expression))) ∧
    ∀ equation : List Char,
      Solver.Settles (Solver.solveEquation ch s equation).2
        (equation.count '=' = 1 ∧
          ∃ reply, ch.Replies s (Prompt.equation equation) reply ∧ Solution.IsTold reply)
        (equation.count '=' = 1 ∧ ch.BringsForeign s (Prompt.equation equation)) := by
  refine ⟨?_, ?_, ?_⟩
  · intro expression
    exact ⟨Classifier.classify_eq_scientific_iff, fun e => Classifier.classify_eq_error_iff⟩
  · intro expression
    exact Solver.run_settles ch s (Prompt.expression expression)
  · intro equation
    exact Solver.solveEquation_settles ch s equation

/-- A model that answers every question with the number five. -/
def fiveReplied : Channel Unit where
  model := ⟨"http://llm.local".toList, [], "tutor".toList, .int 3, .int 0⟩
  send _ _ := ((), .received 200 (.ok (.object [("choices", .array [
    .object [("message", .object [("content", .int 5)])]])])))

/-- A number is filled and no text: neither a mode nor steps are had, and no fault is told. -/
theorem fiveReplied_breaks :
    (Classifier.classify fiveReplied () "sin(1)".toList).2 = .error (.breakdown .noMember) ∧
    (Solver.solve fiveReplied () "1+1".toList).2 = .error (.breakdown .noMember) ∧
    (Solver.solveEquation fiveReplied () "x=1".toList).2 = .error (.breakdown .noMember) :=
  ⟨rfl, rfl, rfl⟩

end Reckon.Tutor
