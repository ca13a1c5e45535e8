import Reckon.Proofs.Session.Failure
import Reckon.Session.Historian

/-
Who has no say in what a session calculates: the historian that keeps its results, the user in
whose name they are kept, and the solver that explains them. All that a solver can do to a
session is to leave a warning among its notes. So two runs with the same operations, whatever
becomes of their calculations and explanations, are compared by what is left of their sessions
without the warnings, and by what the replies tell of the session itself (`unswayed`).

No operation but handing the notes out reads the notes: it does behind any notes what it does
behind none (`perform_behind`). An explanation is an evaluation behind its warning
(`explain_of_settled`), so it does not matter which of the solvers was asked.
-/
namespace Reckon
open Tutor

variable {τ η α β : Type}

/-! ## Handing over -/

theorem Historian.record_ok (historian : Option (Historian η)) (user : Json) (kept : η)
    (c : Calculation) : (Historian.record historian user kept c).2 = .ok () := by
  unfold record
  split
  · rfl
  · split
    · split <;> rfl
    · rfl

/-- What becomes of its calculation does not change a step. -/
theorem Step.handOver_snd (historian : Option (Historian η)) (user : Json) (kept : η)
    (st : Step τ α) : (st.handOver historian user kept).2 = st := by
  unfold handOver
  split
  · rfl
  · next c _ =>
    have h := Historian.record_ok historian user kept c
    split
    · rfl
    · next he =>
      rw [he] at h
      cases h

/-! ## Notes that were there before -/

def Session.behind (ns : List Note) (s : Session τ) : Session τ := { s with notes := ns ++ s.notes }

/-- A step to a session behind more notes. -/
def Step.behind (ns : List Note) (st : Step τ α) : Step τ α :=
  { st with session := st.session.behind ns }

theorem Step.behind_map (ns : List Note) (st : Step τ α) (f : α → β) :
    (st.behind ns).map f = (st.map f).behind ns := rfl

namespace Session

def withoutNotes (s : Session τ) : Session τ := { s with notes := [] }

theorem behind_withoutNotes (s : Session τ) : s.withoutNotes.behind s.notes = s := by
  simp [behind, withoutNotes]

section Behind

variable (ns : List Note) (s : Session τ)

theorem failed_behind (f : Fault) : (s.behind ns).failed f = (s.failed f).behind ns := by
  simp [failed, note, behind]

theorem settle_behind {outcome : Except Failure α} {shown : Session τ → List Char}
    {done done' : α → Step τ (List Char)} (hshown : ∀ s, shown (behind ns s) = shown s)
    (hdone : ∀ a, done' a = (done a).behind ns) :
    (s.behind ns).settle outcome shown done' = (s.settle outcome shown done).behind ns := by
  unfold settle
  split
  · exact hdone _
  · rw [failed_behind, hshown]
    rfl
  · rfl

theorem evaluate_behind : (s.behind ns).evaluate = s.evaluate.behind ns := by
  have hx : (s.behind ns).expression = s.expression := rfl
  unfold evaluate
  rw [hx]
  split
  · rfl
  · exact settle_behind ns s (fun _ => rfl) fun _ => rfl

theorem percent_behind (now : τ) : (s.behind ns).percent now = (s.percent now).behind ns := by
  have hx : (s.behind ns).expression = s.expression := rfl
  unfold percent
  rw [hx]
  split
  · rfl
  · exact settle_behind ns s (fun _ => rfl) fun _ => rfl

theorem convert_behind (r : Radix) : (s.behind ns).convert r = (s.convert r).behind ns :=
  settle_behind ns s (fun _ => rfl) fun _ => rfl

theorem explain_behind {σ : Type} (solve : σ → List Char → σ × Except Failure Solution)
    (helper : σ) :
    ((s.behind ns).explain solve helper).2 = ((s.explain solve helper).2).behind ns := by
  have hx : (s.behind ns).expression = s.expression := rfl
  have hnote (f : Fault) : (s.behind ns).note (noSteps f) = (s.note (noSteps f)).behind ns := by
    simp [note, behind]
  unfold explain
  rw [hx]
  split
  · rfl
  · match solve helper s.expression with
    | (_, .ok _) => simp only [evaluate_behind, Step.behind]
    | (_, .error (.fault f)) => simp only [hnote, evaluate_behind, Step.behind]
    | (_, .error (.refused _)) | (_, .error (.breakdown _)) => rfl

theorem switchNamed_behind [Add τ] (m : Json) (now : τ) :
    (s.behind ns).switchNamed m now = (s.switchNamed m now).behind ns := by
  have hc : (s.behind ns).controller = s.controller := rfl
  simp only [switchNamed, switchTo, hc]
  cases Mode.read m with
  | error e => rfl
  | ok m =>
    dsimp only
    split <;> rfl

section Lock

variable [LE τ] [DecidableLE τ]

theorem replace_behind (text : List Char) (now : τ) :
    (s.behind ns).replace text now = (s.replace text now).behind ns := by
  unfold replace
  split <;> rfl

theorem press_behind (k : Key) (now : τ) :
    (s.behind ns).press k now = (s.press k now).behind ns := by
  cases k with
  | equals => exact evaluate_behind ns s
  | percent => exact percent_behind ns s now
  | convert r => exact convert_behind ns s r
  | clear =>
    simp only [press, clear, replace_behind]
    rfl
  | backspace =>
    simp only [press, backspace, replace_behind]
    rfl
  | wrap w => rfl
  | type token => rfl

/-- The result is worked out without the notes, which stay before what is noted then. -/
theorem press_equals_eq (now : τ) :
    s.press .equals now = s.withoutNotes.evaluate.behind s.notes := by
  rw [← evaluate_behind, behind_withoutNotes]
  rfl

theorem pressNamed_behind (name : List Char) (now : τ) :
    (s.behind ns).pressNamed name now = (s.pressNamed name now).behind ns := by
  unfold pressNamed
  split
  · exact press_behind ns s _ now
  · rfl

theorem listen_behind (transcript : List Char) (now : τ) :
    (s.behind ns).listen transcript now = (s.listen transcript now).behind ns := by
  unfold listen
  obtain ⟨text, asked⟩ := Voice.hear transcript
  have hs : (if text.isEmpty then s.behind ns else (s.behind ns).replace text now) =
      (if text.isEmpty then s else s.replace text now).behind ns := by
    rw [replace_behind]
    split <;> rfl
  dsimp only
  rw [hs]
  cases asked with
  | true => exact evaluate_behind ns _
  | false => rfl

theorem tick_behind [Sub τ] [LT τ] [DecidableLT τ] {σ : Type}
    (classify : σ → List Char → σ × Except Failure Mode) (helper : σ) (now : τ) :
    (Session.tick classify helper (s.behind ns) now).2 =
      ((Session.tick classify helper s now).2).behind ns := by
  have hr : (s.behind ns).request now = ((s.request now).1.behind ns, (s.request now).2) := rfl
  unfold tick
  rw [hr]
  cases s.request now with
  | mk s' text =>
    cases text with
    | none => rfl
    | some text =>
      dsimp only
      cases classify helper text with
      | mk _ outcome => cases outcome <;> rfl

variable [Add τ] [Sub τ] [LT τ] [DecidableLT τ]

/-- What an operation does to a session it does behind any notes, unless it hands them out. -/
theorem perform_behind {o : Operation} (ho : o ≠ .drain) (now : τ) :
    (s.behind ns).perform now o = (s.perform now o).behind ns := by
  cases o with
  | press name => simp only [perform, pressNamed_behind, Step.behind_map]
  | keyboard name => simp only [perform, pressKeyboard, pressNamed_behind, Step.behind_map]
  | listen transcript => simp only [perform, listen_behind, Step.behind_map]
  | replace text =>
    simp only [perform, replace_behind]
    rfl
  | type token => rfl
  | switch m => simp only [perform, switchNamed_behind, Step.behind_map]
  | request => rfl
  | receive requestedFor verdict => rfl
  | tick classify =>
    cases classify with
    | none => rfl
    | some classify => simp only [perform, tick_behind, Step.behind_map]
  | explain solve => simp only [perform, explain_behind, Step.behind_map]
  | view => rfl
  | drain => exact absurd rfl ho

end Lock

end Behind

/-! ## What is the session's own -/

/-- A session with the errors among its notes only. -/
def withoutWarnings (s : Session τ) : Session τ := { s with notes := errors s.notes }

/-- What a reply tells of the session itself. An explanation is the solver's, and so is what
it warns of. -/
def Reply.own : Reply → Reply
  | .solution _ => .solution none
  | .notes ns => .notes (errors ns)
  | r => r

/-- A solver comes to an end: with a solution, or without one. -/
inductive Settled : Except Failure Solution → Prop
  | solved (solution : Solution) : Settled (.ok solution)
  | unsolved (reason : List Char) : Settled (.error (.fault (.unsolved reason)))

/-- The same operation, although the solver that it asks may be another one. -/
inductive Operation.Alike : Operation → Operation → Prop
  | same (o : Operation) : Alike o o
  | explain {solve solve' : List Char → Except Failure Solution}
      (settled : ∀ text, Settled (solve text)) (settled' : ∀ text, Settled (solve' text)) :
      Alike (.explain solve) (.explain solve')

theorem withoutWarnings_behind (ns : List Note) (s : Session τ) :
    (s.behind ns).withoutWarnings = s.withoutWarnings.behind (errors ns) := by
  simp only [withoutWarnings, behind, errors_append]

section Perform

variable [Add τ] [Sub τ] [LE τ] [LT τ] [DecidableLE τ] [DecidableLT τ]

theorem explain_of_empty {s : Session τ} (hx : s.expression = [])
    (solve : List Char → Except Failure Solution) (now : τ) :
    s.perform now (.explain solve) = ⟨s, .ok (.solution none), none⟩ := by
  simp only [perform, explain, hx, List.isEmpty_nil, if_true]
  rfl

/-- An explanation evaluates behind the notes and the warning of the solver. -/
theorem explain_of_settled {s : Session τ} (hx : s.expression ≠ [])
    {solve : List Char → Except Failure Solution} (h : Settled (solve s.expression)) (now : τ) :
    s.perform now (.explain solve) =
      (s.withoutNotes.evaluate.behind (s.notes ++ warnings (solve s.expression))).map
        fun _ => .solution (solve s.expression).toOption := by
  have hevaluate (ns : List Note) :
      { s with notes := ns }.evaluate = s.withoutNotes.evaluate.behind ns := by
    rw [← evaluate_behind]
    simp [behind, withoutNotes]
  obtain ⟨hempty, _⟩ | ⟨solution, _, ho, he⟩ | ⟨f, _, ho, he⟩ | ⟨e, _, ho, hf, _⟩ :=
    s.explain_split (fun (_ : Unit) text => ((), solve text)) ()
  · exact absurd hempty hx
  · have ho : solve s.expression = .ok solution := ho
    rw [perform, he, ho, ← hevaluate]
    simp only [warnings, List.append_nil, Step.map, Except.toOption]
    cases s.evaluate.answer <;> rfl
  · have ho : solve s.expression = .error (.fault f) := ho
    rw [perform, he, ho, ← hevaluate]
    simp only [warnings, note, Step.map, Except.toOption]
    cases { s with notes := s.notes ++ [noSteps f] }.evaluate.answer <;> rfl
  · -- A solver that has come to an end did not break off.
    rw [show solve s.expression = .error e from ho] at h
    cases h with
    | unsolved reason => exact absurd rfl (hf (.unsolved reason))

/-- Sessions that differ in warnings only are still such after the same operation, and what
the replies tell of them is the same. -/
theorem perform_alike {s s' : Session τ} (h : s.withoutWarnings = s'.withoutWarnings)
    {o o' : Operation} (ho : o.Alike o') (now : τ) :
    (s.perform now o).session.withoutWarnings = (s'.perform now o').session.withoutWarnings ∧
    (s.perform now o).answer.map Reply.own = (s'.perform now o').answer.map Reply.own := by
  have hnotes : errors s.notes = errors s'.notes := (congrArg Session.notes h :)
  have hrest : s.withoutNotes = s'.withoutNotes := (congrArg withoutNotes h :)
  cases ho with
  | same =>
    by_cases hd : o = .drain
    · subst hd
      refine ⟨hrest, ?_⟩
      simp only [perform, drain, Except.map, Reply.own, hnotes]
    · -- Both sessions are one and the same behind different notes.
      rw [← s.behind_withoutNotes, ← s'.behind_withoutNotes, perform_behind _ _ hd,
        perform_behind _ _ hd, hrest]
      refine ⟨?_, rfl⟩
      simp only [Step.behind, withoutWarnings_behind, hnotes]
  | explain settled settled' =>
    have hx : s.expression = s'.expression := (congrArg Session.expression h :)
    by_cases hempty : s.expression = []
    · rw [explain_of_empty hempty, explain_of_empty (hx ▸ hempty)]
      exact ⟨h, rfl⟩
    · -- Either way it is one evaluation without notes, put behind notes with the same errors.
      rw [explain_of_settled hempty (settled _), explain_of_settled (hx ▸ hempty) (settled' _),
        hrest]
      refine ⟨?_, ?_⟩
      · simp only [Step.behind, Step.map_session, withoutWarnings_behind, errors_append,
          errors_warnings, hnotes]
      · simp only [Step.behind, Step.map]
        cases s'.withoutNotes.evaluate.answer <;> rfl

/-! ## Runs -/

/-- An event, and the user in whose name it happens. -/
structure Turn (τ : Type) where
  event : Event τ
  user : Json

/-- The same operation at the same time, in whatever name. -/
def Turn.Alike (t t' : Turn τ) : Prop :=
  t.event.time = t'.event.time ∧ t.event.operation.Alike t'.event.operation

/-- A session with its historian: what was kept, and what was answered so far. -/
structure Attended (τ η : Type) where
  session : Session τ
  kept : η
  answers : List (Except Failure Reply) := []

/-- A turn of a session: what it finishes is handed over before it is answered. -/
def Attended.turn (historian : Option (Historian η)) (r : Attended τ η) (t : Turn τ) :
    Attended τ η :=
  let (kept, step) :=
    (r.session.perform t.event.time t.event.operation).handOver historian t.user r.kept
  ⟨step.session, kept, r.answers ++ [step.answer]⟩

def Attended.run (historian : Option (Historian η)) (r : Attended τ η) (ts : List (Turn τ)) :
    Attended τ η := ts.foldl (Attended.turn historian) r

/-- Two runs have come to the same, but for what is not the session's own. -/
def Attended.Alike {η η' : Type} (r : Attended τ η) (r' : Attended τ η') : Prop :=
  r.session.withoutWarnings = r'.session.withoutWarnings ∧
  r.answers.map (Except.map Reply.own) = r'.answers.map (Except.map Reply.own)

section Run

variable {η' : Type} {historian : Option (Historian η)} {historian' : Option (Historian η')}
  {r : Attended τ η} {r' : Attended τ η'}

theorem Attended.turn_eq (historian : Option (Historian η)) (r : Attended τ η) (t : Turn τ) :
    (r.turn historian t).session = (r.session.perform t.event.time t.event.operation).session ∧
    (r.turn historian t).answers =
      r.answers ++ [(r.session.perform t.event.time t.event.operation).answer] := by
  have h := (r.session.perform t.event.time t.event.operation).handOver_snd historian t.user r.kept
  simp only [turn, h, and_self]

theorem Attended.Alike.turn (h : r.Alike r') {t t' : Turn τ} (ht : t.Alike t') :
    (r.turn historian t).Alike (r'.turn historian' t') := by
  obtain ⟨hsession, hanswers⟩ := h
  obtain ⟨htime, hoperation⟩ := ht
  obtain ⟨hsession', hanswer⟩ := perform_alike hsession hoperation t.event.time
  obtain ⟨hs, ha⟩ := r.turn_eq historian t
  obtain ⟨hs', ha'⟩ := r'.turn_eq historian' t'
  rw [← htime] at hs' ha'
  refine ⟨?_, ?_⟩
  · rw [hs, hs', hsession']
  · rw [ha, ha', List.map_append, List.map_append, hanswers]
    exact congrArg (fun a => r'.answers.map (Except.map Reply.own) ++ [a]) hanswer

theorem Attended.Alike.run (h : r.Alike r') {ts ts' : List (Turn τ)}
    (hts : List.Forall₂ Turn.Alike ts ts') :
    (r.run historian ts).Alike (r'.run historian' ts') := by
  induction hts generalizing r r' with
  | nil => exact h
  | cons ht _ ih => exact ih (h.turn ht)

end Run

/-- Whatever historian there is, whether it keeps what it is told or fails, in whose name the
operations are, and however the solvers come to an end: the replies tell the same of the session,
and the session is the same but for warnings. An explanation does what asking for the result
does, with a warning before its notes if the solver failed. -/
theorem unswayed (s : Session τ) :
    (∀ {η η' : Type} (historian : Option (Historian η)) (historian' : Option (Historian η'))
      (kept : η) (kept' : η') (ts ts' : List (Turn τ)), List.Forall₂ Turn.Alike ts ts' →
      (Attended.run historian ⟨s, kept, []⟩ ts).Alike
        (Attended.run historian' ⟨s, kept', []⟩ ts')) ∧
    ∀ (now : τ) (solve : List Char → Except Failure Solution), s.expression ≠ [] →
      Settled (solve s.expression) →
      ∃ new, (s.press .equals now).session.notes = s.notes ++ new ∧
        s.perform now (.explain solve) =
          ⟨{ (s.press .equals now).session with
              notes := s.notes ++ warnings (solve s.expression) ++ new },
            (s.press .equals now).answer.map fun _ => .solution (solve s.expression).toOption,
            (s.press .equals now).entry⟩ := by
  refine ⟨?_, ?_⟩
  · intro η η' historian historian' kept kept' ts ts' hts
    have start : Attended.Alike (⟨s, kept, []⟩ : Attended τ η) (⟨s, kept', []⟩ : Attended τ η') :=
      ⟨rfl, rfl⟩
    exact start.run hts
  · intro now solve hx hsolve
    rw [press_equals_eq, explain_of_settled hx hsolve]
    exact ⟨s.withoutNotes.evaluate.session.notes, rfl, rfl⟩

end Perform

/-- A historian that keeps what it is told. -/
def recorder : Historian (List Calculation) := ⟨fun kept _ c => (kept ++ [c], .ok ())⟩

/-- A historian that fails at every second call, and counts them. -/
def failsSometimes : Historian Nat :=
  ⟨fun calls _ _ => (calls + 1, if calls % 2 = 0 then .error (.breakdown .wrongKind) else .ok ())⟩

/-- A product is typed, explained twice, and shown; then the notes are handed out. -/
def explainedTwice (user : String) (solve : List Char → Except Failure Solution) :
    List (Turn Int) := [
  ⟨⟨0, .press "6×7".toList⟩, .string user⟩,
  ⟨⟨1, .explain solve⟩, .string user⟩,
  ⟨⟨2, .explain solve⟩, .string user⟩,
  ⟨⟨3, .view⟩, .string user⟩,
  ⟨⟨4, .drain⟩, .string user⟩]

def product : Session Int := { fresh ⟨2, 1, false⟩ .standard with expression := "6×7".toList }

/-- With a solver that answers, for a user whose results are kept, and with one that fails, for
a user whose results are not all kept: the session is the same. -/
theorem explainedTwice_unswayed :
    List.Forall₂ Turn.Alike (explainedTwice "ann" fun _ => .ok ⟨[], "42".toList⟩)
      (explainedTwice "bob" fun _ => .error (.fault (.unsolved "offline".toList))) ∧
    (Attended.run (some recorder) ⟨fresh ⟨2, 1, false⟩ .standard, [], []⟩
      (explainedTwice "ann" fun _ => .ok ⟨[], "42".toList⟩)).kept =
        [⟨"6×7".toList, "42".toList, .standard⟩, ⟨"6×7".toList, "42".toList, .standard⟩] ∧
    (Attended.run (some recorder) ⟨fresh ⟨2, 1, false⟩ .standard, [], []⟩
      (explainedTwice "ann" fun _ => .ok ⟨[], "42".toList⟩)).Alike
      (Attended.run (some failsSometimes) ⟨fresh ⟨2, 1, false⟩ .standard, 0, []⟩
        (explainedTwice "bob" fun _ => .error (.fault (.unsolved "offline".toList)))) ∧
    ∃ new, (product.press .equals 1).session.notes = [] ++ new ∧
      product.perform 1 (.explain fun _ => .error (.fault (.unsolved "offline".toList))) =
        ⟨{ (product.press .equals 1).session with
            notes := [] ++ [noSteps (.unsolved "offline".toList)] ++ new },
          (product.press .equals 1).answer.map fun _ => .solution none,
          (product.press .equals 1).entry⟩ := by
  have halike : List.Forall₂ Turn.Alike (explainedTwice "ann" fun _ => .ok ⟨[], "42".toList⟩)
      (explainedTwice "bob" fun _ => .error (.fault (.unsolved "offline".toList))) := by
    have hexplain : Operation.Alike (.explain fun _ => .ok ⟨[], "42".toList⟩)
        (.explain fun _ => .error (.fault (.unsolved "offline".toList))) :=
      .explain (fun _ => .solved _) fun _ => .unsolved _
    exact .cons ⟨rfl, .same _⟩ (.cons ⟨rfl, hexplain⟩ (.cons ⟨rfl, hexplain⟩
      (.cons ⟨rfl, .same _⟩ (.cons ⟨rfl, .same _⟩ .nil))))
  refine ⟨halike, by decide +kernel, ?_, ?_⟩
  · exact (unswayed (fresh ⟨2, 1, false⟩ .standard)).1 _ _ _ _ _ _ halike
  · exact (unswayed product).2 1 _ (by decide) (.unsolved _)

end Session

end Reckon
