import Reckon.Proofs.Service.Visits
import Reckon.Proofs.Session.Collaborators

/-
How notes reach the user. What an operation notes waits in the session until an answer shows the
session, and that answer hands all of it out. So for each request the notes that waited before
and those that it leaves are those that its answer carries and those that wait afterwards
(`answer_delivers`), and over any requests all notes of a session are handed out once, in their
order, but for those that still wait (`delivered_once`).

One request shows a session without an answer that could hold its notes: the one that asks for
the status alone. The notes that wait are dropped by it.
-/
namespace Reckon.Service
open Mode Tutor

variable {τ σ : Type}

/-! ## Answers and their notes -/

/-- The notes that an answer carries for a session: those that are shown with it. -/
def Answer.carried (a : Answer) (id : List Char) : List Json :=
  match a.at? ["data", "id"], a.at? ["data", "notifications"] with
  | some (.string name), some (.array notes) => if name.toList = id then notes else []
  | _, _ => []

namespace Answer

theorem carried_of_not_shown {a : Answer} (h : a.at? ["data", "id"] = none) (id : List Char) :
    a.carried id = [] := by
  simp only [carried, h]

theorem bare_carried (status : Nat) (id : List Char) : (bare status).carried id = [] :=
  carried_of_not_shown rfl id

theorem failure_carried (status : Nat) (reason id : List Char) :
    (failure status reason).carried id = [] :=
  carried_of_not_shown (by simp [at?, failure, failureWith, Json.member?, Json.find?]) id

theorem ofFailure_carried (e : Failure) (id : List Char) : (ofFailure e).carried id = [] := by
  obtain h | ⟨reason, h⟩ := ofFailure_cases e
  · exact h ▸ bare_carried 500 id
  · exact h ▸ failure_carried 400 reason id

end Answer

theorem Action.answerTo_carried (a : Action) (e : Failure) (id : List Char) :
    (a.answerTo e).carried id = [] := by
  obtain h | ⟨reason, _, h⟩ := a.answerTo_cases e
  · exact h ▸ Answer.bare_carried 500 id
  · exact h ▸ Answer.failure_carried 400 reason id

namespace State

/-- The notes that wait in a session, if there is one. -/
def queue (v : State τ σ) (id : List Char) : List Note := (v.find? id).elim [] Session.notes

theorem queue_of_found {v : State τ σ} {id : List Char} {s : Session τ}
    (h : v.find? id = some s) : v.queue id = s.notes := by
  simp only [queue, h, Option.elim]

theorem queue_of_nothing {v : State τ σ} {id : List Char} (h : v.find? id = none) :
    v.queue id = [] := by
  simp only [queue, h, Option.elim]

end State

/-! ## What requests leave and drop -/

/-- The notes that an action leaves in a session: a warning if a solver was asked in vain, and
an error for the fault that is met. -/
def Helpers.leaves (h : Helpers) (r : Request) (s : Session τ) (a : Action) : List Note :=
  match h.asks r s a with
  | .error _ => []
  | .ok o => o.warnings s ++ (o.fault? s).toList.map Session.faultNote

/-- A request asks for the status of the answer that would show a session. -/
def Request.AsksStatus (r : Request) (id : List Char) : Prop :=
  r.method = "HEAD" ∧ Route.ofPath r.path = some (.session id)

instance (r : Request) (id : List Char) : Decidable (r.AsksStatus id) :=
  inferInstanceAs (Decidable (_ ∧ _))

namespace State

variable (v : State τ σ) (setup : Setup τ σ) {r : Request} {id : List Char}

/-- The notes that a request leaves in a session: those of the action that it asks for. -/
def leaves (r : Request) (id : List Char) : List Note :=
  match Route.ofPath r.path with
  | some (.action other a) =>
    if other = id ∧ r.method = "POST" then
      (v.find? id).elim [] fun s => (setup.helpers v.line).leaves r s a
    else []
  | _ => []

/-- The notes that a request drops: those that wait in a session of which it asks for the status
alone. -/
def drops (r : Request) (id : List Char) : List Note :=
  if r.AsksStatus id then v.queue id else []

theorem leaves_of_not_visits (h : ¬ r.Visits id) : v.leaves setup r id = [] := by
  unfold leaves
  split
  · next other a hp =>
    refine if_neg ?_
    rintro ⟨rfl, _⟩
    exact h ⟨some a, hp⟩
  · rfl

theorem drops_of_not_visits (h : ¬ r.Visits id) : v.drops r id = [] := by
  refine if_neg ?_
  rintro ⟨_, hp⟩
  exact h ⟨none, hp⟩

/-! ## Answers that show no session -/

theorem evaluate_carried (r : Request) (time : List Char) :
    (v.evaluate setup r time).2.carried id = [] := by
  have hfailed (expression : List Char) (e : Failure) :
      (failedCalculation expression e).carried id = [] := by
    cases e with
    | fault f =>
      exact Answer.carried_of_not_shown (by
        simp [failedCalculation, Answer.at?, Answer.failureWith, Json.member?, Json.find?]) id
    | refused _ | breakdown _ => exact Answer.bare_carried 500 id
  unfold evaluate
  split
  · exact Answer.ofFailure_carried _ id
  · split
    · dsimp only
      split
      · exact Answer.failure_carried 400 _ id
      · split
        · exact Answer.ofFailure_carried _ id
        · split
          · exact Answer.carried_of_not_shown (by
              simp [Answer.at?, Answer.data, Answer.success, Json.member?, Json.find?]) id
          · exact hfailed _ _
    · exact Answer.failure_carried 400 _ id

theorem solve_carried (r : Request) : (v.solve setup r).2.carried id = [] := by
  unfold solve
  split
  · exact Answer.ofFailure_carried _ id
  · dsimp only
    split
    · exact Answer.carried_of_not_shown (by
        simp [Answer.at?, Answer.data, Answer.success, Json.member?, Json.find?,
          Solution.toJson]) id
    · exact Answer.failure_carried 502 _ id
    · exact Answer.bare_carried 500 id

theorem showHistory_carried (r : Request) : (v.showHistory r).carried id = [] := by
  unfold showHistory
  split
  · exact Answer.failure_carried 401 _ id
  · dsimp only
    split
    · split
      · exact Answer.failure_carried 500 _ id
      · exact Answer.carried_of_not_shown (by
          simp [Answer.at?, Answer.success, Json.member?, Json.find?]) id
    · exact Answer.failure_carried 400 _ id

theorem graph_carried (r : Request) : (graph setup r).carried id = [] := by
  unfold graph
  dsimp only
  split
  · exact Answer.failure_carried 400 _ id
  · split
    · rfl
    · exact Answer.failure_carried 400 _ id
    · exact Answer.ofFailure_carried _ id

end State

theorem Helpers.asks_carried {h : Helpers} {r : Request} {s : Session τ} {a : Action}
    {refusal : Answer} (ha : h.asks r s a = .error refusal) (id : List Char) :
    refusal.carried id = [] := by
  obtain rfl | ⟨reason, rfl⟩ := (h.asks_ends r s a).of_error ha
  · exact Answer.bare_carried 500 id
  · exact Answer.failure_carried 400 reason id

section Visit

variable [LE τ] [DecidableLE τ]

theorem payload_carried (other id : List Char) (s : Session τ) (now : τ) (status : Nat)
    (more : Json.Members) :
    (payload other s now status more).carried id =
      if other = id then s.notes.map noteJson else [] := by
  simp [Answer.carried, payload, Answer.at?, Answer.data, Answer.success, Json.member?, Json.find?,
    viewMembers, Json.text]

variable [Add τ] [Sub τ] [LT τ] [DecidableLT τ]

/-- What waited and what an action leaves is carried by its answer, or waits. -/
theorem Helpers.attend_delivers (h : Helpers) (r : Request) (at_ : Moment τ) (id : List Char)
    (s : Session τ) (a : Action) :
    (s.notes ++ h.leaves r s a).map noteJson =
      (h.attend r at_ id s a).2.carried id ++ (h.attend r at_ id s a).1.notes.map noteJson := by
  unfold leaves attend
  cases ha : h.asks r s a with
  | error refusal => simp [asks_carried ha]
  | ok o =>
    obtain ⟨hnotes, _⟩ := s.perform_tellsOnly at_.now (o := o) ((h.asks_ends r s a).of_ok ha)
    simp only [settled]
    cases (s.perform at_.now o).answer with
    | ok reply =>
      simp [payload_carried, hnotes, Session.shown, Session.drain]
    | error e => simp [Action.answerTo_carried, hnotes]

theorem Helpers.attend_carried (h : Helpers) (r : Request) (at_ : Moment τ) {other id : List Char}
    (hid : other ≠ id) (s : Session τ) (a : Action) :
    (h.attend r at_ other s a).2.carried id = [] := by
  unfold attend
  cases ha : h.asks r s a with
  | error refusal => exact asks_carried ha id
  | ok o =>
    simp only [settled]
    cases (s.perform at_.now o).answer with
    | ok reply => rw [payload_carried, if_neg hid]
    | error e => exact a.answerTo_carried e id

/-! ## Requests -/

namespace State

variable (v : State τ σ) (setup : Setup τ σ) {r : Request} (at_ : Moment τ) {id : List Char}

/-- A request that goes to a session is answered by what waited there and what it leaves, unless
it removes the session. -/
theorem visit_delivers (hvisits : r.Visits id)
    (hkept : (v.find? id).isSome → ((v.answer setup r at_).1.find? id).isSome) :
    (v.queue id ++ v.leaves setup r id).map noteJson =
      (v.answer setup r at_).2.carried id ++ (v.drops r id).map noteJson ++
        ((v.answer setup r at_).1.queue id).map noteJson := by
  obtain ⟨place, hp⟩ := hvisits
  obtain ⟨hbecomes, hanswer⟩ := answer_visits setup at_ v hp
  simp only [queue, drops, Request.AsksStatus, leaves, hanswer, hbecomes.found, hp]
  rw [hbecomes.found] at hkept
  cases hs : v.find? id with
  | none =>
    have hcarried : (handled (.into id place) r none
        ((setup.helpers v.line).visit at_ id place none)).2.carried id = [] :=
      handled_answer (P := fun a => a.carried id = []) (fun status => Answer.bare_carried status id)
        fun _ => Answer.failure_carried 404 _ id
    rw [hcarried, Helpers.handled_visit_nothing]
    cases place <;> simp [Route.into]
  | some s =>
    simp only [hs] at hkept
    cases place with
    | none =>
      simp only [Route.into, handled, Helpers.visit, Route.methods] at hkept ⊢
      by_cases hdelete : r.method = "DELETE"
      · simp [hdelete] at hkept
      · by_cases hget : r.method = "GET"
        · simp [hget, payload_carried, Session.shown, Session.drain]
        · by_cases hhead : r.method = "HEAD"
          · simp [hhead, Answer.bare_carried, Session.shown, Session.drain]
          · by_cases hoptions : r.method = "OPTIONS"
            · simp [hoptions, Answer.bare_carried]
            · simp [hdelete, hget, hhead, hoptions, Answer.bare_carried]
    | some a =>
      simp only [Route.into, handled, Helpers.visit, Route.methods]
      by_cases hpost : r.method = "POST"
      · simpa [hpost] using (setup.helpers v.line).attend_delivers r at_ id s a
      · by_cases hoptions : r.method = "OPTIONS"
        · simp [hoptions, Answer.bare_carried]
        · simp [hpost, hoptions, Answer.bare_carried]

variable {v}

/-- The answer to a request that does not go to a session carries nothing for it. -/
theorem Named.carried_of_not_visits (hv : v.Named) (hvisits : ¬ r.Visits id) :
    (v.answer setup r at_).2.carried id = [] := by
  have hbare (status : Nat) : (Answer.bare status).carried id = [] := Answer.bare_carried status id
  cases hp : Route.ofPath r.path with
  | none =>
    simp only [answer, hp]
    exact hbare 404
  | some route =>
    rw [answer_eq setup at_ v hp]
    refine handled_answer (P := fun a => a.carried id = []) hbare fun hm => ?_
    cases route with
    | info => rfl
    | graph => exact graph_carried setup r
    | evaluate => exact v.evaluate_carried setup r at_.time
    | equations => exact v.solve_carried setup r
    | calculations =>
      simp only [serve]
      split
      · unfold clearHistory
        split
        · exact Answer.failure_carried 401 _ id
        · rfl
      · exact v.showHistory_carried r
    | sessions =>
      simp only [serve]
      cases hmode : r.mode with
      | error e =>
        rw [v.createFor_of_error setup hmode at_]
        exact Answer.ofFailure_carried e id
      | ok m =>
        rw [hv.createFor_of_mode setup hmode at_]
        -- A new session has no notes, whatever its name.
        refine (payload_carried ..).trans ?_
        split <;> rfl
    | session other =>
      have hid : other ≠ id := by
        rintro rfl
        exact hvisits ⟨none, hp⟩
      simp only [serve]
      cases v.find? other with
      | none => exact Answer.failure_carried 404 _ id
      | some s =>
        dsimp only
        split
        · rfl
        · exact (payload_carried ..).trans (if_neg hid)
    | action other a =>
      have hid : other ≠ id := by
        rintro rfl
        exact hvisits ⟨some a, hp⟩
      simp only [serve]
      cases hs : v.find? other with
      | none => exact Answer.failure_carried 404 _ id
      | some s =>
        dsimp only
        rw [(v.act_becomes setup r at_ hs a).2]
        exact (setup.helpers v.line).attend_carried r at_ hid s a

/-- Each request: what waited in a session, and what the request leaves there, is carried by its
answer, dropped, or waits; unless it removes the session. -/
theorem Named.answer_delivers (hv : v.Named)
    (hkept : (v.find? id).isSome → ((v.answer setup r at_).1.find? id).isSome) :
    (v.queue id ++ v.leaves setup r id).map noteJson =
      (v.answer setup r at_).2.carried id ++ (v.drops r id).map noteJson ++
        ((v.answer setup r at_).1.queue id).map noteJson := by
  by_cases hvisits : r.Visits id
  · exact v.visit_delivers setup at_ hvisits hkept
  · have hqueue : (v.answer setup r at_).1.queue id = v.queue id := by
      by_cases hopens : ∃ m, r.Opens m
      · obtain ⟨m, hm⟩ := hopens
        obtain ⟨hfound, hothers, _⟩ := hv.answer_opens setup at_ hm
        by_cases hid : id = sessionName (v.created + 1)
        · subst hid
          rw [queue_of_found hfound, queue_of_nothing hv.find?_next]
          rfl
        · rw [queue, hothers id hid, queue]
      · rw [queue, (v.answer_passes setup at_ hvisits (not_exists.1 hopens)).1, queue]
    rw [hqueue, hv.carried_of_not_visits setup at_ hvisits, v.leaves_of_not_visits setup hvisits,
      v.drops_of_not_visits hvisits]
    simp

/-! ## Sequences of requests -/

/-- What the answer to a request carries for a session. -/
def carries (v : State τ σ) (setup : Setup τ σ) (id : List Char) (a : Arrival τ) : List Json :=
  (v.answer setup a.request a.moment).2.carried id

/-- Over any requests: what waited in a session that is still there, and what they left in it, was
carried by answers or dropped, or waits. -/
theorem Named.run_delivers (hv : v.Named) (as : List (Arrival τ))
    (hkept : ((v.run setup as).find? id).isSome) :
    (v.queue id).map noteJson ++
        (v.gather setup (fun v a => v.leaves setup a.request id) as).map noteJson =
      v.gather setup
        (fun v a => v.carries setup id a ++ (v.drops a.request id).map noteJson) as ++
        ((v.run setup as).queue id).map noteJson := by
  induction as generalizing v with
  | nil => simp [gather, run]
  | cons a as ih =>
    have hnext : (v.after setup a).Named := answer_named hv setup a.request a.moment
    have hkeeps : (v.find? id).isSome → ((v.after setup a).find? id).isSome := by
      intro hfound
      by_contra hnone
      obtain ⟨s, hs⟩ := Option.isSome_iff_exists.1 hfound
      have hgone := hv.gone_of_answer setup a.moment hs (by simpa [after] using hnone)
      have hnothing : ((v.after setup a).run setup as).find? id = none :=
        (hgone.run setup hnext as).nothing
      rw [show v.run setup (a :: as) = (v.after setup a).run setup as from rfl, hnothing] at hkept
      cases hkept
    have hstep := hv.answer_delivers setup a.moment hkeeps
    have hrest := ih hnext hkept
    simp only [gather, List.map_append, ← List.append_assoc] at hstep ⊢
    rw [hstep, List.append_assoc _ ((v.answer setup a.request a.moment).1.queue id |>.map _)]
    exact (congrArg _ hrest).trans (List.append_assoc ..).symm

end State

/-- Whatever the service is asked from its start on, refusals among it: the notes that were left
in a session which is still there, an error for each fault that was met and a warning for each
solver that failed, are in their order those that the answers for this session carried or that
were dropped with their answers, and behind them those that wait. None is dropped unless the
status of the session is asked for alone. -/
theorem delivered_once (setup : Setup τ σ) (h : History) (line : σ) (as : List (Arrival τ))
    (id : List Char)
    (hkept : ((({ history := h, line := line } : State τ σ).run setup as).find? id).isSome) :
    let v : State τ σ := { history := h, line := line }
    let left := (v.gather setup (fun v a => v.leaves setup a.request id) as).map noteJson
    let waiting := ((v.run setup as).queue id).map noteJson
    left = v.gather setup
      (fun v a => v.carries setup id a ++ (v.drops a.request id).map noteJson) as ++ waiting ∧
    ((∀ a ∈ as, ¬ a.request.AsksStatus id) →
      left = v.gather setup (fun v a => v.carries setup id a) as ++ waiting) := by
  intro v left waiting
  have hall : left = v.gather setup
      (fun v a => v.carries setup id a ++ (v.drops a.request id).map noteJson) as ++ waiting :=
    (State.named_new h line).run_delivers setup as hkept
  refine ⟨hall, ?_⟩
  intro hstatus
  rw [hall]
  refine congrArg (· ++ waiting) (State.gather_congr setup ?_ v)
  intro a ha w
  rw [State.drops, if_neg (hstatus a ha), List.map_nil, List.append_nil]

end Visit

/-- A quotient fails on a session, a key is refused there, and the quotient is explained; then an
explanation breaks off after the warning, and another session is asked for. -/
def unluckySession : List (Arrival Int) := [
  posted "ann" "/api/sessions" [("mode", .string "Scientific")],
  posted "ann" "/api/sessions/s1/keys" [("key", .string "1÷0")],
  posted "ann" "/api/sessions/s1/keys" [("key", .string "=")],
  posted "ann" "/api/sessions/s1/keys" [("key", .string "?")],
  posted "ann" "/api/sessions/s1/teacher" [],
  posted "ann" "/api/sessions/s1/voice" [("transcript", .string "sqrt(-1)%2")],
  posted "ann" "/api/sessions/s1/teacher" [],
  asked "/api/sessions/s2"]

/-- The errors and the first warning are carried by answers; the last warning waits. -/
theorem unluckySession_delivers :
    let error := Session.faultNote .notReal
    let warning := Session.noSteps (.unsolved [])
    started.gather offline (fun v a => v.leaves offline a.request "s1".toList) unluckySession =
      [error, warning, error, warning] ∧
    (started.run offline unluckySession).queue "s1".toList = [warning] ∧
    started.gather offline (fun v a => v.carries offline "s1".toList a) unluckySession =
      [error, warning, error].map noteJson := by
  intro error warning
  have hleft : started.gather offline (fun v a => v.leaves offline a.request "s1".toList)
      unluckySession = [error, warning, error, warning] := by decide +kernel
  have hwaiting : (started.run offline unluckySession).queue "s1".toList = [warning] := by
    decide +kernel
  refine ⟨hleft, hwaiting, ?_⟩
  have h := (delivered_once offline {} () unluckySession "s1".toList (by decide +kernel)).2
    (by decide +kernel)
  rw [show ({ history := {}, line := () } : State Int Unit) = started from rfl, hleft,
    hwaiting] at h
  have hcarried : [error, warning, error].map noteJson ++ [warning].map noteJson = _ := h
  exact (List.append_cancel_right hcarried).symm

/-- The result of an expression is asked for that cannot be evaluated. -/
def silentFailure : List (Arrival Int) := [
  posted "ann" "/api/sessions" [("mode", .string "Scientific")],
  posted "ann" "/api/sessions/s1/voice" [("transcript", .string "sqrt(-1)%2")],
  posted "ann" "/api/sessions/s1/keys" [("key", .string "=")],
  asked "/api/sessions/s1"]

/-- It fails, and no error is told by any answer, nor does one wait. -/
theorem silentFailure_untold :
    Evaluator.display (offline.room - 3) .scientific "sqrt(-1)%2".toList =
      .error (.breakdown .wrongKind) ∧
    ((started.run offline silentFailure).find? "s1".toList).map
        (fun s => (s.mode, s.expression)) = some (.scientific, "sqrt(-1)%2".toList) ∧
    started.gather offline (fun v a => v.carries offline "s1".toList a) silentFailure = [] ∧
    (started.run offline silentFailure).queue "s1".toList = [] := by
  refine ⟨Ends.eq_error (by decide +kernel), by decide +kernel, ?_, by decide +kernel⟩
  exact List.eq_nil_of_length_eq_zero (by decide +kernel)

end Reckon.Service
