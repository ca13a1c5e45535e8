import Reckon.Proofs.Service.Keypad
import Reckon.Proofs.Service.Refusal

/-
What a request does to the session that it goes to. An action reads its request and then either
answers by itself or has one operation performed on the session (`Helpers.asks`), whose reply is
told beside what is seen of the session (`tells`). So what is found under a name after a request
to it, and what is answered, can be told from what was found there before (`Helpers.visit`), and
nothing is done under any other name (`answer_visits`). The only other request that does anything
to the sessions is the one that opens one (`answer_opens`, `answer_passes`). A name
that was given and under which nothing is found any more stays free (`Gone.answer`).
-/
namespace Reckon.Service
open Mode Tutor

variable {τ σ : Type}

/-- Who is asked by a session: what the classifier and the solver say to an expression. -/
structure Helpers where
  classify : List Char → Except Failure Mode
  solve : List Char → Except Failure Solution

/-- What the language model says while it is in a state. -/
def Setup.helpers (setup : Setup τ σ) (line : σ) : Helpers where
  classify text := (Classifier.classify setup.channel line text).2
  solve text := (Solver.solve setup.channel line text).2

/-! ## Reading a request -/

/-- The mode that a request for a new session names. -/
def Request.mode (r : Request) : Except Failure Mode := do
  let ms ← r.members
  Mode.read ((Json.find? "mode" ms).getD (.string Mode.standard.name))

/-- The keys trip over a body that is no object: it mentions one, or is nothing that could. -/
def trips : Json → Bool
  | .object _ => false
  | .array items => State.mentions (.array items) "keyboard" || State.mentions (.array items) "key"
  | .string s => State.mentions (.string s) "keyboard" || State.mentions (.string s) "key"
  | v => v.isTruthy

/-- What an action asks of a session: an operation, or nothing, and then its answer stands. -/
def Helpers.asks (h : Helpers) (r : Request) (s : Session τ) :
    Action → Except Answer Session.Operation
  | .keys =>
    match r.body with
    | .object ms =>
      match keyNamed? ms with
      | some name => .ok (.press name)
      | none => .error State.noKey
    | body => .error (if trips body then .crash else State.noKey)
  | .voice =>
    match r.members with
    | .error e => .error (.ofFailure e)
    | .ok ms =>
      match Json.find? "transcript" ms with
      | some (.string t) =>
        if Text.isAllBlank t.toList then .error (.failure 400 "transcript is required".toList)
        else .ok (.listen t.toList)
      | _ => .error (.failure 400 "transcript is required".toList)
  | .mode =>
    match r.members with
    | .error e => .error (.ofFailure e)
    | .ok ms => .ok (.switch ((Json.find? "mode" ms).getD .null))
  | .classify => .ok (.tick (some h.classify))
  | .teacher =>
    if s.expression.isEmpty then .error (.failure 400 "Nothing to explain".toList)
    else .ok (.explain h.solve)

theorem Answer.ofFailure_cases (e : Failure) :
    ofFailure e = .crash ∨ ∃ reason, ofFailure e = .failure 400 reason := by
  cases e with
  | refused reason => exact .inr ⟨reason, rfl⟩
  | fault _ | breakdown _ => exact .inl rfl

/-- An action asks for what can be done to a session, but not for its notes alone; what it
answers by itself is that it breaks off, or a refusal. -/
theorem Helpers.asks_ends (h : Helpers) (r : Request) (s : Session τ) (a : Action) :
    Ends (h.asks r s a) (fun o => o ≠ .drain)
      (fun refusal => refusal = .crash ∨ ∃ reason, refusal = .failure 400 reason) := by
  cases a with
  | keys =>
    simp only [asks]
    split
    · split
      · exact .ok nofun
      · exact .error (.inr ⟨_, rfl⟩)
    · refine .error ?_
      split
      · exact .inl rfl
      · exact .inr ⟨_, rfl⟩
  | voice =>
    simp only [asks]
    cases r.members with
    | error e => exact .error (Answer.ofFailure_cases e)
    | ok ms =>
      dsimp only
      split
      · split
        · exact .error (.inr ⟨_, rfl⟩)
        · exact .ok nofun
      · exact .error (.inr ⟨_, rfl⟩)
  | mode =>
    simp only [asks]
    cases r.members with
    | error e => exact .error (Answer.ofFailure_cases e)
    | ok ms => exact .ok nofun
  | classify => exact .ok nofun
  | teacher =>
    simp only [asks]
    split
    · exact .error (.inr ⟨_, rfl⟩)
    · exact .ok nofun

/-- What is told of a reply beside what is seen of the session. -/
def tells : Session.Reply → Json.Members
  | .flag changed => [("changed", .bool changed)]
  | .solution solution => [("solution", Json.ofOption (solution.map Solution.toJson))]
  | _ => []

/-! ## Helpers asked once -/

/-- It does not matter to a session how its classifier goes on. -/
theorem tick_snd [Sub τ] [LE τ] [DecidableLE τ] [LT τ] [DecidableLT τ]
    (classify : σ → List Char → σ × Except Failure Mode) (line : σ) (s : Session τ) (now : τ) :
    (Session.tick classify line s now).2 =
      (Session.tick (fun (_ : Unit) text => ((), (classify line text).2)) () s now).2 := by
  unfold Session.tick
  cases s.request now with
  | mk s' text =>
    cases text with
    | none => rfl
    | some text =>
      dsimp only
      cases classify line text with
      | mk _ outcome => cases outcome <;> rfl

theorem explain_snd (solve : σ → List Char → σ × Except Failure Solution) (line : σ)
    (s : Session τ) :
    (s.explain solve line).2 =
      (s.explain (fun (_ : Unit) text => ((), (solve line text).2)) ()).2 := by
  unfold Session.explain
  split
  · rfl
  · dsimp only
    cases solve line s.expression with
    | mk _ outcome =>
      match outcome with
      | .ok _ | .error (.fault _) => rfl
      | .error (.refused _) | .error (.breakdown _) => rfl

/-! ## Sessions under their names -/

/-- Between two states nothing has changed about sessions but under one name, where the one that
is given is found now, if any. -/
structure State.Becomes (v : State τ σ) (id : List Char) (found : Option (Session τ))
    (w : State τ σ) : Prop where
  found : w.find? id = found
  others : ∀ other, other ≠ id → w.find? other = v.find? other
  created : w.created = v.created

namespace State

section Becomes

variable {v w : State τ σ} {id : List Char} {found : Option (Session τ)}

theorem Becomes.idle (h : v.find? id = found) : v.Becomes id found v := ⟨h, fun _ _ => rfl, rfl⟩

theorem Becomes.sessions (h : v.Becomes id found w) {w' : State τ σ}
    (hsessions : w'.sessions = w.sessions) (hcreated : w'.created = w.created) :
    v.Becomes id found w' where
  found := (congrArg (List.lookup id) hsessions).trans h.found
  others other ho := (congrArg (List.lookup other) hsessions).trans (h.others other ho)
  created := hcreated.trans h.created

theorem Becomes.store (h : v.Becomes id found w) (hfound : found.isSome) (s : Session τ) :
    v.Becomes id (some s) (w.store id s) where
  found := by
    obtain ⟨s₀, hs₀⟩ := Option.isSome_iff_exists.1 hfound
    exact find?_store (h.found.trans hs₀) s
  others other ho := (w.find?_store_of_ne ho s).trans (h.others other ho)
  created := h.created

theorem Becomes.record (h : v.Becomes id found w) (user : Option (List Char)) (time : List Char)
    (entry : Option Calculation) : v.Becomes id found (w.record user time entry) := by
  cases entry <;> cases user <;> exact h.sessions rfl rfl

theorem Becomes.remove (h : v.Becomes id found w) : v.Becomes id none (w.remove id) where
  found := by
    simp only [find?, State.remove, List.lookup_eq_none_iff]
    intro p hp
    simpa using Ne.symm (by simpa using (List.mem_filter.1 hp).2)
  others other ho := by
    refine Eq.trans ?_ (h.others other ho)
    simp only [find?, State.remove]
    induction w.sessions with
    | nil => rfl
    | cons p ps ih =>
      obtain ⟨name, s⟩ := p
      by_cases hp : name = id
      · have hne : (other == name) = false := by simpa [hp] using ho
        simp only [List.filter_cons, hp, ne_eq, not_true, decide_false, Bool.false_eq_true, if_false,
          ih, List.lookup_cons, hp ▸ hne]
      · simp only [List.filter_cons, hp, ne_eq, not_false_eq_true, decide_true, if_true,
          List.lookup_cons, ih]
  created := h.created

end Becomes

end State

/-! ## Actions as operations -/

section Session

variable [LE τ] [DecidableLE τ]

/-- The answer that shows a session, with more members. -/
def payload (id : List Char) (s : Session τ) (now : τ) (status : Nat) (more : Json.Members) :
    Answer :=
  .data status (.object (("id", .text id) :: (viewMembers (s.view now).2 ++
    ("notifications", .array (s.notes.map noteJson)) :: more)))

theorem State.present_eq (v : State τ σ) (id : List Char) (s : Session τ) (now : τ) (status : Nat)
    (more : Json.Members) :
    v.present id s now status more = (v.store id (s.shown now), payload id s now status more) := rfl

theorem State.conclude_map {α β : Type} (v : State τ σ) (r : Request) (at_ : Moment τ)
    (id : List Char) (a : Action) (step : Step τ α) (f : α → β) (more : β → Json.Members) :
    v.conclude r at_ id a (step.map f) more = v.conclude r at_ id a step fun x => more (f x) := by
  obtain ⟨session, answer, entry⟩ := step
  cases answer <;> rfl

/-- A step of a session that an action had done is answered: the session is shown, or the failure
told. -/
def settled (id : List Char) (a : Action) (now : τ) (step : Step τ Session.Reply) :
    Session τ × Answer :=
  match step.answer with
  | .ok reply => (step.session.shown now, payload id step.session now 200 (tells reply))
  | .error e => (step.session, a.answerTo e)

theorem State.conclude_becomes {v w : State τ σ} {id : List Char} {s : Session τ} (r : Request)
    (at_ : Moment τ) (hw : v.Becomes id (some s) w) (a : Action) (step : Step τ Session.Reply) :
    v.Becomes id (some (settled id a at_.now step).1) (w.conclude r at_ id a step tells).1 ∧
    (w.conclude r at_ id a step tells).2 = (settled id a at_.now step).2 := by
  have hstored := (hw.store rfl step.session).record r.user at_.time step.entry
  unfold conclude settled
  cases step.answer with
  | ok reply => exact ⟨hstored.store rfl _, rfl⟩
  | error e => exact ⟨hstored, rfl⟩

theorem State.createFor_of_error (v : State τ σ) (setup : Setup τ σ) {r : Request} {e : Failure}
    (h : r.mode = .error e) (at_ : Moment τ) :
    v.createFor setup r at_ = (v, .ofFailure e) := by
  unfold Request.mode at h
  simp only [createFor, h]

/-- A new session is made under the next name. -/
theorem State.Named.createFor_of_mode {v : State τ σ} (hv : v.Named) (setup : Setup τ σ)
    {r : Request} {m : Mode} (h : r.mode = .ok m) (at_ : Moment τ) :
    v.createFor setup r at_ = (v.create setup m).1.present (State.sessionName (v.created + 1))
      (.fresh setup.policy m (setup.room - 1)) at_.now 201 [] := by
  have hname : (v.create setup m).2 = State.sessionName (v.created + 1) := rfl
  unfold Request.mode at h
  simp only [State.createFor, h, hname, hv.find?_create]

variable [Add τ] [Sub τ] [LT τ] [DecidableLT τ]

/-- What an action does to the service: it answers by itself, or has an operation performed on the
session and answers with its reply. What becomes of the way to the language model is left open. -/
def State.Attends (v : State τ σ) (h : Helpers) (r : Request) (at_ : Moment τ) (id : List Char)
    (s : Session τ) (a : Action) (p : State τ σ × Answer) : Prop :=
  (∃ refusal, h.asks r s a = .error refusal ∧ p = (v, refusal)) ∨
  ∃ o line, h.asks r s a = .ok o ∧
    p = ({ v with line := line } : State τ σ).conclude r at_ id a (s.perform at_.now o) tells

section Attends

variable (v : State τ σ) (setup : Setup τ σ) (r : Request) (at_ : Moment τ) (id : List Char)
  (s : Session τ)

theorem State.press_attends :
    v.Attends (setup.helpers v.line) r at_ id s .keys (v.press r at_ id s) := by
  unfold press Attends Helpers.asks
  match r.body with
  | .object ms =>
    have pressed (name : List Char) :
        v.conclude r at_ id .keys (s.pressNamed name at_.now) (fun _ => []) =
          v.conclude r at_ id .keys (s.perform at_.now (.press name)) tells := by
      rw [Session.perform, conclude_map]
      rfl
    cases hb : Json.find? "keyboard" ms with
    | some k =>
      refine .inr ⟨.press (Key.ofKeyboard k.asText), v.line, ?_, ?_⟩
      · simp only [keyNamed?, hb]
      · simp only [hb]
        exact pressed (Key.ofKeyboard k.asText)
    | none =>
      cases hk : Json.find? "key" ms with
      | some k =>
        refine .inr ⟨.press k.asText, v.line, ?_, ?_⟩
        · simp only [keyNamed?, hb, hk]
        · simp only [hb, hk]
          exact pressed k.asText
      | none => exact .inl ⟨noKey, by simp only [keyNamed?, hb, hk], by simp only [hb, hk]⟩
  | .array _ | .string _ | .null | .bool _ | .int _ | .number _ =>
    exact .inl ⟨_, rfl, (apply_ite (Prod.mk v) _ _ _).symm⟩

theorem State.listen_attends :
    v.Attends (setup.helpers v.line) r at_ id s .voice (v.listen r at_ id s) := by
  unfold listen Attends Helpers.asks
  cases r.members with
  | error e => exact .inl ⟨_, rfl, rfl⟩
  | ok ms =>
    dsimp only
    match Json.find? "transcript" ms with
    | some (.string t) =>
      cases hb : Text.isAllBlank t.toList with
      | true =>
        exact .inl ⟨.failure 400 "transcript is required".toList, by simp only [hb, if_true],
          by simp only [hb, if_true]⟩
      | false =>
        refine .inr ⟨.listen t.toList, v.line, ?_, ?_⟩
        · simp only [hb, Bool.false_eq_true, if_false]
        · simp only [hb, Bool.false_eq_true, if_false, Session.perform, conclude_map]
          rfl
    | none | some .null | some (.bool _) | some (.int _) | some (.number _) | some (.array _)
    | some (.object _) => exact .inl ⟨_, rfl, rfl⟩

theorem State.act_attends (a : Action) :
    v.Attends (setup.helpers v.line) r at_ id s a (v.act setup r at_ id s a) := by
  cases a with
  | keys => exact v.press_attends setup r at_ id s
  | voice => exact v.listen_attends setup r at_ id s
  | mode =>
    unfold act switch Attends Helpers.asks
    cases r.members with
    | error e => exact .inl ⟨_, rfl, rfl⟩
    | ok ms =>
      refine .inr ⟨_, v.line, rfl, ?_⟩
      rw [Session.perform, conclude_map]
      rfl
  | classify =>
    refine .inr ⟨_, (Session.tick (Classifier.classify setup.channel) v.line s at_.now).1, rfl, ?_⟩
    rw [Session.perform, conclude_map]
    simp only [act, State.classify, tick_snd (Classifier.classify setup.channel) v.line]
    rfl
  | teacher =>
    unfold act teach Attends Helpers.asks
    by_cases hx : s.expression.isEmpty = true
    · exact .inl ⟨_, if_pos hx, if_pos hx⟩
    · refine .inr ⟨_, (s.explain (Solver.solve setup.channel) v.line).1, if_neg hx, ?_⟩
      rw [if_neg hx, Session.perform, conclude_map]
      simp only [explain_snd (Solver.solve setup.channel) v.line]
      rfl

end Attends

/-! ## Sessions seen by themselves -/

/-- What an action leaves of a session, and what it answers. -/
def Helpers.attend (h : Helpers) (r : Request) (at_ : Moment τ) (id : List Char) (s : Session τ)
    (a : Action) : Session τ × Answer :=
  match h.asks r s a with
  | .error refusal => (s, refusal)
  | .ok o => settled id a at_.now (s.perform at_.now o)

/-- A session is visited, for an action on it or as a whole: what is found under its name
afterwards, and what is answered. -/
def Helpers.visit (h : Helpers) (at_ : Moment τ) (id : List Char) (place : Option Action)
    (found : Option (Session τ)) (r : Request) : Option (Session τ) × Answer :=
  match found, place with
  | none, _ => (none, .unknownSession)
  | some s, none =>
    if r.method = "DELETE" then (none, .success 200 [])
    else (some (s.shown at_.now), payload id s at_.now 200 [])
  | some s, some a => (some (h.attend r at_ id s a).1, (h.attend r at_ id s a).2)

namespace State

theorem act_becomes (v : State τ σ) (setup : Setup τ σ) (r : Request) (at_ : Moment τ)
    {id : List Char} {s : Session τ} (hs : v.find? id = some s) (a : Action) :
    v.Becomes id (some ((setup.helpers v.line).attend r at_ id s a).1)
      (v.act setup r at_ id s a).1 ∧
    (v.act setup r at_ id s a).2 = ((setup.helpers v.line).attend r at_ id s a).2 := by
  unfold Helpers.attend
  obtain ⟨refusal, ho, ha⟩ | ⟨o, line, ho, ha⟩ := v.act_attends setup r at_ id s a
  · rw [ha, ho]
    exact ⟨Becomes.idle hs, rfl⟩
  · rw [ha, ho]
    have hline : v.Becomes id (some s) { v with line := line } :=
      (Becomes.idle hs).sessions rfl rfl
    exact conclude_becomes r at_ hline a _

end State

/-! ## Requests -/

/-- A request goes to a session. -/
def Request.Visits (r : Request) (id : List Char) : Prop :=
  ∃ place, Route.ofPath r.path = some (.into id place)

/-- A request opens a session in a mode. -/
structure Request.Opens (r : Request) (m : Mode) : Prop where
  route : Route.ofPath r.path = some .sessions
  method : r.method = "POST"
  mode : r.mode = .ok m

/-- A request to a route, by the way it is served there; `idle` is what there is if it is not. -/
def handled {α : Type} (route : Route) (r : Request) (idle : α) (serve : Request → α × Answer) :
    α × Answer :=
  if route.methods.contains r.method then serve r
  else if r.method = "OPTIONS" then (idle, .bare 200)
  else if r.method = "HEAD" && route.methods.contains "GET" then
    let (a, answer) := serve { r with method := "GET" }
    (a, .bare answer.status)
  else (idle, .bare 405)

/-- What is served in two ways with the same answer is handled in both with the same answer. -/
theorem handled_related {α β : Type} {R : α → β → Prop} (route : Route) (r : Request) {a : α}
    {b : β} (hidle : R a b) {serve : Request → α × Answer} {serve' : Request → β × Answer}
    (h : ∀ q : Request, R (serve q).1 (serve' q).1 ∧ (serve q).2 = (serve' q).2) :
    R (handled route r a serve).1 (handled route r b serve').1 ∧
    (handled route r a serve).2 = (handled route r b serve').2 := by
  unfold handled
  split
  · exact h r
  · split
    · exact ⟨hidle, rfl⟩
    · split
      · obtain ⟨hr, ha⟩ := h { r with method := "GET" }
        exact ⟨hr, congrArg (fun answer : Answer => Answer.bare answer.status) ha⟩
      · exact ⟨hidle, rfl⟩

/-- What holds of an answer without an object holds of the answer to a request, if it holds of
what is served. -/
theorem handled_answer {α : Type} {P : Answer → Prop} {route : Route} {r : Request} {a : α}
    {serve : Request → α × Answer} (hbare : ∀ status, P (.bare status))
    (hserve : r.method ∈ route.methods → P (serve r).2) : P (handled route r a serve).2 := by
  unfold handled
  split
  · next hm => exact hserve (by simpa using hm)
  · split
    · exact hbare 200
    · split
      · exact hbare _
      · exact hbare 405

theorem Helpers.handled_visit_nothing (h : Helpers) (at_ : Moment τ) (id : List Char)
    (place : Option Action) (r : Request) :
    (handled (.into id place) r none (h.visit at_ id place none)).1 = none := by
  unfold handled
  split
  · rfl
  · split
    · rfl
    · split <;> rfl

namespace State

variable {v : State τ σ} (setup : Setup τ σ) {r : Request} (at_ : Moment τ) {id : List Char}

theorem answer_eq (v : State τ σ) {route : Route} (hp : Route.ofPath r.path = some route) :
    v.answer setup r at_ = handled route r v fun q => v.serve setup q at_ route := by
  simp only [answer, hp, handled]

/-- A request to a session does what is done on a visit, and nothing else to any session. -/
theorem answer_visits (v : State τ σ) {place : Option Action}
    (hp : Route.ofPath r.path = some (.into id place)) :
    let visit := handled (.into id place) r (v.find? id)
      ((setup.helpers v.line).visit at_ id place (v.find? id))
    v.Becomes id visit.1 (v.answer setup r at_).1 ∧ (v.answer setup r at_).2 = visit.2 := by
  rw [answer_eq setup at_ v hp]
  refine handled_related (R := fun w found => v.Becomes id found w) _ r (.idle rfl) fun q => ?_
  cases place with
  | none =>
    simp only [Route.into, serve]
    cases hs : v.find? id with
    | none => exact ⟨.idle hs, rfl⟩
    | some s =>
      simp only [Helpers.visit]
      split
      · exact ⟨(Becomes.idle rfl).remove, rfl⟩
      · exact ⟨(Becomes.idle hs).store rfl _, rfl⟩
  | some a =>
    simp only [Route.into, serve]
    cases hs : v.find? id with
    | none => exact ⟨.idle hs, rfl⟩
    | some s => exact v.act_becomes setup q at_ hs a

/-- A request that goes to no session and opens none does nothing to them. -/
theorem serve_elsewhere (v : State τ σ) (r : Request) {route : Route}
    (hinto : ∀ id place, route ≠ .into id place) (hopen : route ≠ .sessions) :
    (v.serve setup r at_ route).1.sessions = v.sessions ∧
    (v.serve setup r at_ route).1.created = v.created := by
  cases route with
  | info | graph => exact ⟨rfl, rfl⟩
  | sessions => exact absurd rfl hopen
  | session id => exact absurd rfl (hinto id none)
  | action id a => exact absurd rfl (hinto id (some a))
  | evaluate =>
    have hrecord (entry : Option Calculation) : (v.record r.user at_.time entry).sessions =
        v.sessions ∧ (v.record r.user at_.time entry).created = v.created := by
      cases entry <;> cases r.user <;> exact ⟨rfl, rfl⟩
    simp only [serve, evaluate]
    split
    · exact ⟨rfl, rfl⟩
    · split
      · split
        · exact ⟨rfl, rfl⟩
        · split
          · exact ⟨rfl, rfl⟩
          · split
            · exact hrecord _
            · exact ⟨rfl, rfl⟩
      · exact ⟨rfl, rfl⟩
  | equations =>
    simp only [serve, solve]
    split <;> exact ⟨rfl, rfl⟩
  | calculations =>
    simp only [serve]
    split
    · unfold clearHistory
      split <;> exact ⟨rfl, rfl⟩
    · exact ⟨rfl, rfl⟩

/-- A request that opens a session does so under the next name, and nothing else to any. -/
theorem Named.answer_opens (hv : v.Named) {m : Mode} (h : r.Opens m) :
    let w := (v.answer setup r at_).1
    w.find? (sessionName (v.created + 1)) =
      some ((Session.fresh setup.policy m (setup.room - 1)).shown at_.now) ∧
    (∀ other, other ≠ sessionName (v.created + 1) → w.find? other = v.find? other) ∧
    w.created = v.created + 1 ∧
    (v.answer setup r at_).2 = payload (sessionName (v.created + 1))
      (.fresh setup.policy m (setup.room - 1)) at_.now 201 [] := by
  have hanswer : v.answer setup r at_ = (v.create setup m).1.present
      (sessionName (v.created + 1)) (.fresh setup.policy m (setup.room - 1)) at_.now 201 [] := by
    rw [answer_post setup v at_ h.route h.method (by simp [Route.methods])]
    exact hv.createFor_of_mode setup h.mode at_
  rw [hanswer, present_eq]
  refine ⟨find?_store (hv.find?_create setup m) _, ?_, rfl, rfl⟩
  intro other ho
  have hne : (other == sessionName (v.created + 1)) = false := by simpa using ho
  refine (find?_store_of_ne _ ho _).trans ?_
  simp [find?, State.create, List.lookup_append, List.lookup_cons, hne]

/-- Any other request does nothing to the sessions that it does not go to. -/
theorem answer_passes (v : State τ σ) (hvisits : ¬ r.Visits id) (hopens : ∀ m, ¬ r.Opens m) :
    (v.answer setup r at_).1.find? id = v.find? id ∧
    (v.answer setup r at_).1.created = v.created := by
  cases hp : Route.ofPath r.path with
  | none => simp only [answer, hp, and_self]
  | some route =>
    by_cases hinto : ∃ other place, route = .into other place
    · obtain ⟨other, place, rfl⟩ := hinto
      have hother : id ≠ other := by
        rintro rfl
        exact hvisits ⟨place, hp⟩
      obtain ⟨hbecomes, _⟩ := answer_visits setup at_ v hp
      exact ⟨hbecomes.others id hother, hbecomes.created⟩
    · rw [answer_eq setup at_ v hp]
      have hsame (w : State τ σ) (h : w.sessions = v.sessions ∧ w.created = v.created) :
          w.find? id = v.find? id ∧ w.created = v.created :=
        ⟨congrArg (List.lookup id) h.1, h.2⟩
      refine hsame _ ?_
      by_cases hs : route = .sessions
      · subst hs
        unfold handled
        split
        · next hm =>
          have hmethod : r.method = "POST" := by simpa [Route.methods] using hm
          simp only [serve]
          cases hmode : r.mode with
          | error e =>
            rw [v.createFor_of_error setup hmode at_]
            exact ⟨rfl, rfl⟩
          | ok m => exact absurd ⟨hp, hmethod, hmode⟩ (hopens m)
        · split
          · exact ⟨rfl, rfl⟩
          · simp [Route.methods]
      · unfold handled
        have helsewhere (q : Request) := v.serve_elsewhere setup at_ q
          (fun other place h => hinto ⟨other, place, h⟩) hs
        split
        · exact helsewhere r
        · split
          · exact ⟨rfl, rfl⟩
          · split
            · exact helsewhere _
            · exact ⟨rfl, rfl⟩

/-! ## Sequences of requests -/

/-- What is read off each of a sequence of requests, in their order. -/
def gather {α : Type} (v : State τ σ) (setup : Setup τ σ)
    (read : State τ σ → Arrival τ → List α) : List (Arrival τ) → List α
  | [] => []
  | a :: as => read v a ++ (v.after setup a).gather setup read as

/-- What is read off each request in the same way is the same for all of them. -/
theorem gather_congr {α : Type} {read read' : State τ σ → Arrival τ → List α}
    {as : List (Arrival τ)} (h : ∀ a ∈ as, ∀ v, read v a = read' v a) (v : State τ σ) :
    v.gather setup read as = v.gather setup read' as := by
  induction as generalizing v with
  | nil => rfl
  | cons a as ih =>
    rw [gather, gather, h a List.mem_cons_self,
      ih fun b hb => h b (List.mem_cons_of_mem a hb)]

/-! ## Sessions that are removed -/

/-- A name was given, and nothing is found under it any more. -/
structure Gone (v : State τ σ) (id : List Char) : Prop where
  nothing : v.find? id = none
  given : ∃ n ≤ v.created, id = sessionName n

theorem Named.created_le (hv : v.Named) (r : Request) :
    v.created ≤ (v.answer setup r at_).1.created := by
  by_cases hvisits : r.Visits []
  · obtain ⟨place, hp⟩ := hvisits
    exact (answer_visits setup at_ v hp).1.created.ge
  · by_cases hopens : ∃ m, r.Opens m
    · obtain ⟨m, hm⟩ := hopens
      rw [(hv.answer_opens setup at_ hm).2.2.1]
      exact Nat.le_succ _
    · exact (v.answer_passes setup at_ hvisits (not_exists.1 hopens)).2.ge

/-- A session that is not found any more after a request is gone. -/
theorem Named.gone_of_answer (hv : v.Named) {s : Session τ} (hs : v.find? id = some s)
    (hnone : (v.answer setup r at_).1.find? id = none) : (v.answer setup r at_).1.Gone id := by
  obtain ⟨n, hn, hid⟩ := hv.given hs
  exact ⟨hnone, n, hn.trans (hv.created_le setup at_ r), hid⟩

theorem Gone.answer (h : v.Gone id) (hv : v.Named) (r : Request) :
    (v.answer setup r at_).1.Gone id := by
  obtain ⟨n, hn, hid⟩ := h.given
  refine ⟨?_, n, hn.trans (hv.created_le setup at_ r), hid⟩
  by_cases hvisits : r.Visits id
  · obtain ⟨place, hp⟩ := hvisits
    rw [(answer_visits setup at_ v hp).1.found, h.nothing]
    exact (setup.helpers v.line).handled_visit_nothing at_ id place r
  · by_cases hopens : ∃ m, r.Opens m
    · obtain ⟨m, hm⟩ := hopens
      obtain ⟨_, hothers, _⟩ := hv.answer_opens setup at_ hm
      refine (hothers id ?_).trans h.nothing
      rintro rfl
      have := sessionName_injective hid
      omega
    · exact (v.answer_passes setup at_ hvisits (not_exists.1 hopens)).1.trans h.nothing

theorem Gone.run (h : v.Gone id) (hv : v.Named) (as : List (Arrival τ)) :
    (v.run setup as).Gone id := by
  induction as generalizing v with
  | nil => exact h
  | cons a as ih =>
    exact ih (h.answer setup a.moment hv a.request) (answer_named hv setup a.request a.moment)

end State

end Session

end Reckon.Service
