import Reckon.Proofs.Session.Finished
import Reckon.Service.Basic

/-
What the service records. A request may finish a calculation (`Finishes`): by a key, by what
is said, by asking for an explanation, or by giving an expression to evaluate. If it names a
user the calculation is put into the history, and nothing else happens to the history unless
a user's is removed (`answer_records`). There is one lemma for each route, and for the routes
of a session one for each action.
-/
namespace Reckon.Service
open Mode Tutor

/-! ## What a request finishes -/

/-- The key that members name, as one of the keypad. -/
def keyNamed? (ms : Json.Members) : Option (List Char) :=
  match Json.find? "keyboard" ms, Json.find? "key" ms with
  | some k, _ => some (Key.ofKeyboard k.asText)
  | none, some k => some k.asText
  | none, none => none

namespace State

variable {τ σ : Type}

/-- What an action on a session finishes: a key does what it does, a closing word asks for
the result of what was said, and an explanation shows the result as well. -/
def ActionFinishes (v : State τ σ) (setup : Setup τ σ) (r : Request) (s : Session τ) :
    Action → Calculation → Prop
  | .keys, c => ∃ ms name k, r.members = .ok ms ∧ keyNamed? ms = some name ∧
      Key.ofText? name = some k ∧ s.KeyFinishes k c
  | .voice, c => ∃ ms t, r.members = .ok ms ∧ Json.find? "transcript" ms = some (.string t) ∧
      Text.isAllBlank t.toList = false ∧ (Voice.hear t.toList).2 = true ∧
      c.IsOf (s.room - 2) s.mode (s.said t.toList)
  | .teacher, c =>
      (∀ e, (Solver.solve setup.channel v.line s.expression).2 = .error e → ∃ f, e = .fault f) ∧
      c.IsOf (s.room - 2) s.mode s.expression
  | .mode, _ | .classify, _ => False

/-- What a request to a route finishes. -/
def RouteFinishes (v : State τ σ) (setup : Setup τ σ) (r : Request) : Route → Calculation → Prop
  | .action id a, c => ∃ s, v.find? id = some s ∧ v.ActionFinishes setup r s a c
  | .evaluate, c => ∃ ms t m, r.members = .ok ms ∧
      Json.find? "expression" ms = some (.string t) ∧ Text.isAllBlank t.toList = false ∧
      Mode.read ((Json.find? "mode" ms).getD (.string Mode.standard.name)) = .ok m ∧
      c.IsOf (setup.room - 1) m t.toList
  | _, _ => False

/-- A request finishes a calculation. -/
def Finishes (v : State τ σ) (setup : Setup τ σ) (r : Request) (c : Calculation) : Prop :=
  ∃ route, Route.ofPath r.path = some route ∧ r.method = "POST" ∧ v.RouteFinishes setup r route c

/-! ## The history behind a step -/

/-- What is finished is put into the history, and nothing else happens to it. -/
def Records (v : State τ σ) (r : Request) (at_ : Moment τ) (finishes : Calculation → Prop)
    (w : State τ σ) : Prop :=
  ∃ entry : Option Calculation, (∀ c, entry = some c ↔ finishes c) ∧
    w.history = (v.record r.user at_.time entry).history

variable {v w : State τ σ} {r : Request} {at_ : Moment τ} {finishes : Calculation → Prop}

theorem record_history (h : v.history = w.history) (user : Option (List Char)) (time : List Char)
    (entry : Option Calculation) :
    (v.record user time entry).history = (w.record user time entry).history := by
  cases entry with
  | none => exact h
  | some c =>
    cases user with
    | none => exact h
    | some u => simp only [record, h]

theorem Records.nothing (hc : ∀ c, ¬ finishes c) (h : w.history = v.history) :
    v.Records r at_ finishes w :=
  ⟨none, fun c => by simp [hc c], h⟩

/-- What a step of a session finishes is recorded with its answer, whether it succeeded or
not. -/
theorem conclude_records [LE τ] [DecidableLE τ] {α : Type} (hw : w.history = v.history)
    (id : List Char) (a : Action) {step : Step τ α} (more : α → Json.Members)
    (h : ∀ c, step.entry = some c ↔ finishes c) :
    v.Records r at_ finishes (w.conclude r at_ id a step more).1 := by
  refine ⟨step.entry, h, ?_⟩
  have hs : (w.store id step.session).history = v.history := hw
  unfold conclude
  cases step.answer with
  | ok reply => exact record_history hs r.user at_.time step.entry
  | error e => exact record_history hs r.user at_.time step.entry

/-! ## Actions on a session -/

theorem members_of_object {ms : Json.Members} (h : r.body = .object ms) : r.members = .ok ms := by
  simp only [Request.members, h]

theorem members_ok {ms : Json.Members} (h : r.members = .ok ms) :
    r.body = .object ms ∨ ms = [] := by
  unfold Request.members at h
  split at h
  · next hb => exact .inl (by rw [hb, Except.ok.inj h])
  · split at h
    · cases h
    · exact .inr (Except.ok.inj h).symm

section Action

variable [LE τ] [DecidableLE τ] (setup : Setup τ σ) (id : List Char) (s : Session τ)

theorem press_records :
    v.Records r at_ (v.ActionFinishes setup r s .keys) (v.press r at_ id s).1 := by
  -- A body that is no object names no key, whatever is answered.
  have other (h : ∀ ms, r.body ≠ .object ms) (c : Calculation) :
      ¬ v.ActionFinishes setup r s .keys c := by
    rintro ⟨ms, name, k, hm, hn, _⟩
    obtain hb | rfl := members_ok hm
    · exact h ms hb
    · cases hn
  unfold press
  split
  · next ms hb =>
    have hm : r.members = .ok ms := members_of_object hb
    have named (name : List Char) (hn : keyNamed? ms = some name) (c : Calculation) :
        (s.pressNamed name at_.now).entry = some c ↔ v.ActionFinishes setup r s .keys c := by
      rw [Session.pressNamed_entry]
      simp [ActionFinishes, hm, hn]
    split
    · next k _ hk => exact conclude_records rfl id _ _ (named _ (by simp only [keyNamed?, hk]))
    · next k hk hk' => exact conclude_records rfl id _ _ (named _ (by simp only [keyNamed?, hk, hk']))
    · next hk hk' =>
      exact .nothing (fun c => by simp [ActionFinishes, hm, keyNamed?, hk, hk']) rfl
  · next hb =>
    refine .nothing (other fun ms => by simp [hb]) ?_
    split <;> rfl
  · next hb =>
    refine .nothing (other fun ms => by simp [hb]) ?_
    split <;> rfl
  · next hb _ _ =>
    refine .nothing (other fun ms hm => hb ms hm) ?_
    split <;> rfl

theorem listen_records :
    v.Records r at_ (v.ActionFinishes setup r s .voice) (v.listen r at_ id s).1 := by
  unfold listen
  split
  · next e he => exact .nothing (fun c => by simp [ActionFinishes, he]) rfl
  · next ms hm =>
    split
    · next t ht =>
      have said (c : Calculation) : v.ActionFinishes setup r s .voice c ↔
          Text.isAllBlank t.toList = false ∧ (Voice.hear t.toList).2 = true ∧
            c.IsOf (s.room - 2) s.mode (s.said t.toList) := by
        simp [ActionFinishes, hm, ht]
      split
      · next hb => exact .nothing (fun c => by simp [said, hb]) rfl
      · next hb =>
        refine conclude_records rfl id _ _ fun c => ?_
        rw [said, Session.listen_entry]
        simp [hb]
    · next hn =>
      refine .nothing ?_ rfl
      rintro c ⟨ms', t, hm', ht, _⟩
      obtain rfl : ms = ms' := Except.ok.inj (hm.symm.trans hm')
      exact hn t ht

theorem teach_records :
    v.Records r at_ (v.ActionFinishes setup r s .teacher) (v.teach setup r at_ id s).1 := by
  unfold teach
  split
  · next hx =>
    refine .nothing ?_ rfl
    rintro c ⟨_, hne, _⟩
    exact hne (by simpa using hx)
  · have h := Session.explain_entry (Solver.solve setup.channel) v.line s
    cases hp : s.explain (Solver.solve setup.channel) v.line with
    | mk line step =>
      rw [hp] at h
      refine conclude_records ?_ id _ _ ?_
      · rfl
      · exact h

theorem act_records [Add τ] [Sub τ] [LT τ] [DecidableLT τ] (a : Action) :
    v.Records r at_ (v.ActionFinishes setup r s a) (v.act setup r at_ id s a).1 := by
  cases a with
  | keys => exact press_records setup id s
  | voice => exact listen_records setup id s
  | teacher => exact teach_records setup id s
  | mode =>
    simp only [act, switch]
    split
    · exact .nothing (fun _ h => h) rfl
    · exact conclude_records rfl _ _ _ fun c => by simp [Session.switchNamed_entry, ActionFinishes]
  | classify =>
    unfold act State.classify
    have h := Session.tick_entry (Classifier.classify setup.channel) v.line s at_.now
    cases hp : Session.tick (Classifier.classify setup.channel) v.line s at_.now with
    | mk line step =>
      rw [hp] at h
      have h : step.entry = none := h
      refine conclude_records ?_ id _ _ ?_
      · rfl
      · intro c
        simp [h, ActionFinishes]

end Action

/-! ## Requests -/

/-- A user's history is to be removed. -/
def Clears (r : Request) : Prop :=
  Route.ofPath r.path = some .calculations ∧ r.method = "DELETE"

instance (r : Request) : Decidable (Clears r) := inferInstanceAs (Decidable (_ ∧ _))

theorem evaluate_records (setup : Setup τ σ) :
    v.Records r at_ (v.RouteFinishes setup r .evaluate) (v.evaluate setup r at_.time).1 := by
  unfold evaluate
  split
  · next e he => exact .nothing (fun c => by simp [RouteFinishes, he]) rfl
  · next ms hm =>
    split
    · next t ht =>
      have given (c : Calculation) : v.RouteFinishes setup r .evaluate c ↔
          Text.isAllBlank t.toList = false ∧ ∃ m,
            Mode.read ((Json.find? "mode" ms).getD (.string Mode.standard.name)) = .ok m ∧
            c.IsOf (setup.room - 1) m t.toList := by
        simp [RouteFinishes, hm, ht]
      dsimp only
      split
      · next hb => exact .nothing (fun c => by simp [given, hb]) rfl
      · next hb =>
        have hne : t.toList ≠ [] := by
          intro hnil
          exact hb (by rw [hnil]; rfl)
        split
        · next e he => exact .nothing (fun c => by simp [given, he]) rfl
        · next m hmode =>
          have finished (c : Calculation) :
              v.RouteFinishes setup r .evaluate c ↔ c.IsOf (setup.room - 1) m t.toList := by
            simp [given, hb, hmode]
          split
          · next result hd =>
            refine ⟨some ⟨t.toList, result, m⟩, fun c => ?_, rfl⟩
            rw [finished, Calculation.isOf_of_display hne hd, Option.some.injEq, eq_comm]
          · next e hd => exact .nothing (fun c => by simp [finished, Calculation.IsOf, hd]) rfl
    · next hn =>
      refine .nothing ?_ rfl
      rintro c ⟨ms', t, m, hm', ht, _⟩
      obtain rfl : ms = ms' := Except.ok.inj (hm.symm.trans hm')
      exact hn t ht

/-- A request to a route finishes what the route finishes, if something is sent there. -/
theorem finishes_at {setup : Setup τ σ} {route : Route} (hp : Route.ofPath r.path = some route)
    (c : Calculation) :
    v.Finishes setup r c ↔ r.method = "POST" ∧ v.RouteFinishes setup r route c := by
  refine ⟨?_, fun ⟨hm, h⟩ => ⟨route, hp, hm, h⟩⟩
  rintro ⟨route', hp', hm, h⟩
  obtain rfl : route = route' := Option.some.inj (hp.symm.trans hp')
  exact ⟨hm, h⟩

theorem finishes_iff {setup : Setup τ σ} {route : Route} (hp : Route.ofPath r.path = some route)
    (hm : r.method = "POST") (c : Calculation) :
    v.RouteFinishes setup r route c ↔ v.Finishes setup r c :=
  ((finishes_at hp c).trans (and_iff_right hm)).symm

theorem not_finishes {setup : Setup τ σ} {route : Route} (hp : Route.ofPath r.path = some route)
    (h : ∀ c, ¬ v.RouteFinishes setup r route c) (c : Calculation) : ¬ v.Finishes setup r c :=
  fun hc => h c ((finishes_at hp c).1 hc).2

/-- A request of a method that its route is not made for finishes nothing. -/
theorem not_finishes_other {setup : Setup τ σ} {route : Route}
    (hp : Route.ofPath r.path = some route) (hm : r.method ∉ route.methods) (c : Calculation) :
    ¬ v.Finishes setup r c := by
  rw [finishes_at hp]
  rintro ⟨hpost, hc⟩
  cases route with
  | action id a => exact hm (by simp [Route.methods, hpost])
  | evaluate => exact hm (by simp [Route.methods, hpost])
  | _ => exact hc

theorem Records.congr {finishes' : Calculation → Prop} (h : v.Records r at_ finishes w)
    (hc : ∀ c, finishes c ↔ finishes' c) : v.Records r at_ finishes' w := by
  obtain ⟨entry, he, hw⟩ := h
  exact ⟨entry, fun c => (he c).trans (hc c), hw⟩

theorem Records.unchanged (h : v.Records r at_ finishes w) (hc : ∀ c, ¬ finishes c) :
    w.history = v.history := by
  obtain ⟨entry, he, hw⟩ := h
  cases entry with
  | none => exact hw
  | some c => exact absurd ((he c).1 rfl) (hc c)

theorem createFor_history [LE τ] [DecidableLE τ] (setup : Setup τ σ) :
    (v.createFor setup r at_).1.history = v.history := by
  unfold createFor
  dsimp only
  split
  · rfl
  · split <;> rfl

section Answer

variable [Add τ] [Sub τ] [LE τ] [LT τ] [DecidableLE τ] [DecidableLT τ] (setup : Setup τ σ)

/-- A route that is made for the method of a request records what the request finishes, or
removes a user's history. -/
theorem serve_records {route : Route} (hp : Route.ofPath r.path = some route)
    (hm : r.method ∈ route.methods) :
    v.Records r at_ (v.Finishes setup r) (v.serve setup r at_ route).1 ∨
    Clears r ∧ ∃ u, (v.serve setup r at_ route).1.history = (v.history.clear u).1 := by
  cases route with
  | action id a =>
    have hpost : r.method = "POST" := by simpa [Route.methods] using hm
    refine .inl (.congr ?_ (finishes_iff hp hpost))
    simp only [serve]
    cases hs : v.find? id with
    | none => exact .nothing (fun c => by simp [RouteFinishes, hs]) rfl
    | some s => exact (act_records setup id s a).congr fun c => by simp [RouteFinishes, hs]
  | evaluate =>
    have hpost : r.method = "POST" := by simpa [Route.methods] using hm
    exact .inl ((evaluate_records setup).congr (finishes_iff hp hpost))
  | info => exact .inl (.nothing (not_finishes hp fun _ h => h) rfl)
  | graph => exact .inl (.nothing (not_finishes hp fun _ h => h) rfl)
  | sessions =>
    exact .inl (.nothing (not_finishes hp fun _ h => h) (createFor_history setup))
  | session id =>
    refine .inl (.nothing (not_finishes hp fun _ h => h) ?_)
    simp only [serve]
    split
    · rfl
    · split <;> rfl
  | equations =>
    refine .inl (.nothing (not_finishes hp fun _ h => h) ?_)
    simp only [serve, solve]
    split <;> rfl
  | calculations =>
    by_cases hd : r.method = "DELETE"
    · simp only [serve, if_pos hd, clearHistory]
      cases r.user with
      | none => exact .inl (.nothing (not_finishes hp fun _ h => h) rfl)
      | some u => exact .inr ⟨⟨hp, hd⟩, u, rfl⟩
    · simp only [serve, if_neg hd]
      exact .inl (.nothing (not_finishes hp fun _ h => h) rfl)

/-- A request is answered: what it finishes is recorded and nothing else happens to the
history, unless it removes a user's. -/
theorem answer_records (v : State τ σ) (r : Request) (at_ : Moment τ) :
    v.Records r at_ (v.Finishes setup r) (v.answer setup r at_).1 ∨
    Clears r ∧ ∃ u, (v.answer setup r at_).1.history = (v.history.clear u).1 := by
  unfold answer
  split
  · next hp =>
    refine .inl (.nothing ?_ rfl)
    rintro c ⟨route, hp', _⟩
    rw [hp] at hp'
    cases hp'
  · next route hp =>
    by_cases hm : r.method ∈ route.methods
    · rw [if_pos (by simpa using hm)]
      exact serve_records setup hp hm
    · rw [if_neg (by simpa using hm)]
      refine .inl (.nothing (not_finishes_other hp hm) ?_)
      split
      · rfl
      · split
        · next hhead =>
          -- What can be had by GET is worked out as by GET.
          have hget : "GET" ∈ route.methods := by simpa using (Bool.and_eq_true_iff.1 hhead).2
          show (v.serve setup { r with method := "GET" } at_ route).1.history = v.history
          obtain h | ⟨⟨_, hd⟩, _⟩ :=
            serve_records (v := v) (r := { r with method := "GET" }) setup hp hget
          · exact h.unchanged fun c ⟨_, _, hpost, _⟩ => absurd hpost (by simp)
          · exact absurd hd (by simp)
        · rfl

end Answer

end State

end Reckon.Service
