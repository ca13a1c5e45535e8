import Reckon.Proofs.Service.Names
import Reckon.Proofs.Session.Interruption

/-
Requests that are refused. Inside a session a request is refused for a name that stands for
nothing or a number that has too many digits, at a key or a switch of the mode only, and nothing
has been done by then (`IsAtomic`, shown for both); whatever another action fails with breaks the
request off, and that is no refusal. What the routes refuse by themselves they refuse before they
touch a session or the history. So a refused request leaves the service unchanged, whatever its
state (`refused_unchanged`).
-/
namespace Reckon

/-- If the step is refused the session is as before, and nothing is finished. -/
def Step.IsAtomic {τ α : Type} (s : Session τ) (step : Step τ α) : Prop :=
  ∀ reason, step.answer = .error (.refused reason) → step.session = s ∧ step.entry = none

/-! ## Steps -/

namespace Session

variable {τ : Type}

theorem settle_of_error {α : Type} {s : Session τ} {outcome : Except Failure α}
    {shown : Session τ → List Char} {done : α → Step τ (List Char)} {e : Failure}
    (hdone : ∀ a, ∃ text, (done a).answer = .ok text)
    (h : (s.settle outcome shown done).answer = .error e) :
    s.settle outcome shown done = ⟨s, .error e, none⟩ := by
  obtain ⟨a, _, hs⟩ | ⟨_, _, hs⟩ | ⟨_, _, _, hs⟩ := s.settle_cases outcome shown done
  · obtain ⟨text, ht⟩ := hdone a
    rw [hs, ht] at h
    cases h
  · rw [hs] at h
    cases h
  · rw [hs] at h ⊢
    cases h
    rfl

/-- Whatever a key fails with, it has done nothing. -/
theorem press_of_error [LE τ] [DecidableLE τ] {s : Session τ} {k : Key} {now : τ} {e : Failure}
    (h : (s.press k now).answer = .error e) : s.press k now = ⟨s, .error e, none⟩ := by
  cases k with
  | equals =>
    rw [press, evaluate] at h ⊢
    split at h
    · cases h
    · next hx =>
      rw [if_neg hx]
      exact settle_of_error (fun _ => ⟨_, rfl⟩) h
  | percent =>
    rw [press, percent] at h ⊢
    split at h
    · cases h
    · next hx =>
      rw [if_neg hx]
      exact settle_of_error (fun _ => ⟨_, rfl⟩) h
  | convert r => exact settle_of_error (fun _ => ⟨_, rfl⟩) h
  | _ => cases h

theorem pressNamed_isAtomic [LE τ] [DecidableLE τ] (s : Session τ) (name : List Char) (now : τ) :
    (s.pressNamed name now).IsAtomic s := by
  intro reason h
  cases hk : Key.ofText? name with
  | none => exact pressNamed_of_unknown hk
  | some k =>
    rw [pressNamed_of_key hk] at h ⊢
    rw [press_of_error h]
    exact ⟨rfl, rfl⟩

theorem switchNamed_isAtomic [Add τ] (s : Session τ) (v : Json) (now : τ) :
    (s.switchNamed v now).IsAtomic s := by
  intro reason h
  unfold switchNamed at h ⊢
  cases hm : Mode.read v with
  | error e => exact ⟨rfl, rfl⟩
  | ok m =>
    rw [hm] at h
    cases h

end Session

/-! ## States -/

namespace Service

/-- A status tells that the request is refused, by the service or on the way behind it. -/
def IsRefusal (status : Nat) : Prop := 400 ≤ status ∧ status < 500 ∨ status = 502

instance (status : Nat) : Decidable (IsRefusal status) := inferInstanceAs (Decidable (_ ∨ _))

/-- An action breaks the request off, or tells that something is refused. -/
theorem Action.answerTo_cases (a : Action) (e : Failure) :
    a.answerTo e = .crash ∨ ∃ reason, e = .refused reason ∧ a.answerTo e = .failure 400 reason := by
  cases a with
  | keys | mode =>
    cases e with
    | refused reason => exact .inr ⟨reason, rfl, rfl⟩
    | fault _ | breakdown _ => exact .inl rfl
  | voice | classify | teacher => exact .inl rfl

namespace State

variable {τ σ : Type}

/-- Between two states nothing has changed, but perhaps on the way to the language model: under
each name the same session is found, if any, the same names are given, and the history is the
same. -/
structure Unchanged (v w : State τ σ) : Prop where
  found : ∀ id, w.find? id = v.find? id
  names : SameNames v w
  history : w.history = v.history

theorem Unchanged.refl (v : State τ σ) : Unchanged v v := ⟨fun _ => rfl, .refl v, rfl⟩

theorem find?_store_of_ne (v : State τ σ) {id other : List Char} (h : other ≠ id)
    (s : Session τ) : (v.store id s).find? other = v.find? other := by
  simp only [find?, store]
  induction v.sessions with
  | nil => rfl
  | cons p ps ih =>
    obtain ⟨name, t⟩ := p
    by_cases hp : name = id
    · have hne : (other == id) = false := by simpa using h
      simp only [List.map_cons, hp, if_true, List.lookup_cons, hne, ih]
    · simp only [List.map_cons, hp, if_false, List.lookup_cons, ih]

theorem store_unchanged {v : State τ σ} {id : List Char} {s : Session τ}
    (h : v.find? id = some s) : Unchanged v (v.store id s) := by
  refine ⟨fun other => ?_, v.store_sameNames id s, rfl⟩
  by_cases hid : other = id
  · rw [hid, find?_store h, h]
  · exact v.find?_store_of_ne hid s

/-- If the answer refuses the request the state is unchanged. -/
def Intact (v : State τ σ) (p : State τ σ × Answer) : Prop :=
  IsRefusal p.2.status → Unchanged v p.1

variable {v : State τ σ}

theorem Intact.of_unchanged {w : State τ σ} (h : Unchanged v w) (a : Answer) : Intact v (w, a) :=
  fun _ => h

theorem Intact.untouched (v : State τ σ) (a : Answer) : Intact v (v, a) := .of_unchanged (.refl v) a

theorem Intact.of_status {p : State τ σ × Answer} {status : Nat} (h : ¬ IsRefusal status)
    (hp : p.2.status = status) : Intact v p :=
  fun hr => absurd (hp ▸ hr) h

theorem Intact.of_done {p : State τ σ × Answer} (h : p.2.status = 200) : Intact v p :=
  .of_status (by decide) h

theorem Intact.of_crash {p : State τ σ × Answer} (h : p.2.status = 500) : Intact v p :=
  .of_status (by decide) h

/-- The way to the language model does not count. -/
theorem line_unchanged (v : State τ σ) (line : σ) : Unchanged v { v with line := line } :=
  ⟨fun _ => rfl, .refl v, rfl⟩

/-! ## Routes -/

section Session

variable [LE τ] [DecidableLE τ]

/-- An atomic step is answered: where it is refused the session is put back. -/
theorem conclude_intact {α : Type} (r : Request) (at_ : Moment τ) {id : List Char} {s : Session τ}
    (hs : v.find? id = some s) (a : Action) {step : Step τ α} (hstep : step.IsAtomic s)
    (more : α → Json.Members) : Intact v (v.conclude r at_ id a step more) := by
  unfold conclude
  cases ha : step.answer with
  | ok reply => exact .of_done rfl
  | error e =>
    obtain hcrash | ⟨reason, rfl, _⟩ := a.answerTo_cases e
    · exact .of_crash (congrArg Answer.status hcrash)
    · obtain ⟨hsession, hentry⟩ := hstep reason ha
      refine .of_unchanged ?_ _
      rw [hsession, hentry]
      exact store_unchanged hs

/-- A step that breaks off whatever it fails with is never refused. -/
theorem conclude_intact_of_crash {α : Type} {w : State τ σ} (r : Request) (at_ : Moment τ)
    (id : List Char) {a : Action} (ha : ∀ e, a.answerTo e = .crash) (step : Step τ α)
    (more : α → Json.Members) : Intact v (w.conclude r at_ id a step more) := by
  unfold conclude
  cases step.answer with
  | ok reply => exact .of_done rfl
  | error e => exact .of_crash (congrArg Answer.status (ha e))

theorem createFor_intact (setup : Setup τ σ) (r : Request) (at_ : Moment τ) :
    Intact v (v.createFor setup r at_) := by
  unfold createFor
  dsimp only
  split
  · exact .untouched v _
  · split
    · exact .of_status (show ¬ IsRefusal 201 by decide) rfl
    · exact .of_crash rfl

theorem press_intact {id : List Char} {s : Session τ} (hs : v.find? id = some s) (r : Request)
    (at_ : Moment τ) : Intact v (v.press r at_ id s) := by
  unfold press
  dsimp only
  split
  · split
    · exact conclude_intact r at_ hs _ (s.pressNamed_isAtomic _ _) _
    · exact conclude_intact r at_ hs _ (s.pressNamed_isAtomic _ _) _
    · exact .untouched v _
  · split <;> exact .untouched v _
  · split <;> exact .untouched v _
  · split <;> exact .untouched v _

theorem listen_intact (id : List Char) (s : Session τ) (r : Request) (at_ : Moment τ) :
    Intact v (v.listen r at_ id s) := by
  unfold listen
  split
  · exact .untouched v _
  · split
    · split
      · exact .untouched v _
      · exact conclude_intact_of_crash r at_ id (fun _ => rfl) _ _
    · exact .untouched v _

section Answer

variable [Add τ] [Sub τ] [LT τ] [DecidableLT τ]

theorem act_intact {id : List Char} {s : Session τ} (hs : v.find? id = some s)
    (setup : Setup τ σ) (r : Request) (at_ : Moment τ) (a : Action) :
    Intact v (v.act setup r at_ id s a) := by
  cases a with
  | keys => exact press_intact hs r at_
  | voice => exact listen_intact id s r at_
  | mode =>
    simp only [act, switch]
    split
    · exact .untouched v _
    · exact conclude_intact r at_ hs _ (s.switchNamed_isAtomic _ _) _
  | classify => exact conclude_intact_of_crash r at_ id (fun _ => rfl) _ _
  | teacher =>
    simp only [act, teach]
    split
    · exact .untouched v _
    · exact conclude_intact_of_crash r at_ id (fun _ => rfl) _ _

theorem serve_intact (v : State τ σ) (setup : Setup τ σ) (r : Request) (at_ : Moment τ)
    (route : Route) : Intact v (v.serve setup r at_ route) := by
  cases route with
  | info => exact .untouched v _
  | graph => exact .untouched v _
  | sessions => exact createFor_intact setup r at_
  | session id =>
    simp only [serve]
    split
    · exact .untouched v _
    · split
      · exact .of_done rfl
      · exact .of_done rfl
  | action id a =>
    simp only [serve]
    split
    · exact .untouched v _
    · next s hs => exact act_intact hs setup r at_ a
  | evaluate =>
    simp only [serve, evaluate]
    split
    · exact .untouched v _
    · split
      · split
        · exact .untouched v _
        · split
          · exact .untouched v _
          · split
            · exact .of_done rfl
            · exact .untouched v _
      · exact .untouched v _
  | equations =>
    simp only [serve, solve]
    split
    · exact .untouched v _
    · exact .of_unchanged (v.line_unchanged _) _
  | calculations =>
    simp only [serve]
    split
    · unfold clearHistory
      split
      · exact .untouched v _
      · exact .of_done rfl
    · exact .untouched v _

/-- A request that is refused, for whatever reason, changes no session, neither gives nor takes
a name, and leaves the history as it was. -/
theorem refused_unchanged (v : State τ σ) (setup : Setup τ σ) (r : Request) (at_ : Moment τ)
    (h : IsRefusal (v.answer setup r at_).2.status) : Unchanged v (v.answer setup r at_).1 := by
  revert h
  change Intact v (v.answer setup r at_)
  unfold answer
  split
  · exact .untouched v _
  · split
    · exact v.serve_intact setup r at_ _
    · split
      · exact .untouched v _
      · split
        · -- The status of the answer to GET is the one that is answered.
          exact v.serve_intact setup { r with method := "GET" } at_ _
        · exact .untouched v _

end Answer

end Session

end State

/-- Something is asked for without a name. -/
def asked (path : String) : Arrival Int :=
  ⟨.object [("method", .string "GET"), ("path", .string path)], ⟨0, "noon".toList⟩⟩

/-- A service with one session, in a mode that was picked, where a quotient has failed and still
waits to be classified. -/
def failedQuotient : State Int Unit := started.run offline [
  posted "ann" "/api/sessions" [],
  posted "ann" "/api/sessions/s1/mode" [("mode", .string "Scientific")],
  posted "ann" "/api/sessions/s1/keys" [("key", .string "1÷0")],
  posted "ann" "/api/sessions/s1/keys" [("key", .string "=")]]

/-- Requests that are refused, each for another reason. -/
def refusedRequests : List (Arrival Int) := [
  posted "ann" "/api/sessions/s9/keys" [("key", .string "1")],
  posted "ann" "/api/sessions/s1/keys" [("key", .string "?")],
  posted "ann" "/api/sessions/s1/voice" [("transcript", .string " ")],
  posted "ann" "/api/sessions/s1/mode" [("mode", .string "Roman")],
  posted "ann" "/api/evaluate" [("expression", .string "1÷0")],
  posted "ann" "/api/equations" [("equation", .string "x")],
  asked "/api/calculations"]

/-- None of them changes anything. -/
theorem refusedRequests_unchanged :
    (refusedRequests.map fun a => (failedQuotient.answer offline a.request a.moment).2.status) =
      [404, 400, 400, 400, 400, 502, 401] ∧
    refusedRequests.Forall fun a =>
      State.Unchanged failedQuotient (failedQuotient.after offline a) := by
  have hstatus : (refusedRequests.map fun a =>
      (failedQuotient.answer offline a.request a.moment).2.status) =
      [404, 400, 400, 400, 400, 502, 401] := by decide +kernel
  refine ⟨hstatus, List.forall_iff_forall_mem.2 fun a ha => ?_⟩
  have hmem : (failedQuotient.answer offline a.request a.moment).2.status ∈
      [404, 400, 400, 400, 400, 502, 401] := hstatus ▸ List.mem_map_of_mem ha
  have hrefusals : ∀ status ∈ [404, 400, 400, 400, 400, 502, 401], IsRefusal status := by decide
  exact State.refused_unchanged failedQuotient offline a.request a.moment (hrefusals _ hmem)

end Service

end Reckon
