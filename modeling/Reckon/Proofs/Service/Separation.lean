import Reckon.Proofs.Service.Visits

/-
Sessions do not influence each other. A session is asked about by the requests that go to it and
by the one that opens it; if these alone are put to another service that was just started, they
are answered alike, but for the name under which the session is shown. It does not matter what
else was asked in between, what the histories hold, and how far the language model got, as long
as its answers depend on what it is asked only (`sessions_separate`).

Both services are carried along the requests by what they find under the two names
(`Alike`): it is the same as long as both are asked about it, and nothing else touches it.
-/
namespace Reckon

theorem Json.find?_put_of_ne {name other : String} (h : other ≠ name) (value : Json)
    (ms : Json.Members) : find? other (put name value ms) = find? other ms := by
  induction ms with
  | nil => simp [put, find?, Ne.symm h]
  | cons m ms ih =>
    obtain ⟨n, v⟩ := m
    simp only [find?] at ih ⊢
    by_cases hn : n = name
    · simp [put, hn, Ne.symm h]
    · by_cases ho : n = other
      · simp [put, ho, h]
      · simpa [put, hn, ho] using ih

namespace Service
open Mode Tutor

variable {τ σ : Type}

/-! ## The same request to another session -/

def Arrival.movedTo (a : Arrival τ) (path : List Char) : Arrival τ :=
  match a.object with
  | .object ms => { a with object := .object (Json.put "path" (.text path) ms) }
  | _ => a

/-- The request that goes to another session instead. -/
def Arrival.turnedTo (a : Arrival τ) (name : List Char) : Arrival τ :=
  match Route.ofPath a.request.path with
  | some (.session _) => a.movedTo (pathInto name none)
  | some (.action _ action) => a.movedTo (pathInto name (some action))
  | _ => a

theorem Arrival.movedTo_request {a : Arrival τ} {ms : Json.Members} (h : a.object = .object ms)
    (path : List Char) : (a.movedTo path).request = { a.request with path := path } := by
  have hother (name : String) (hn : name ≠ "path") :
      (Json.object (Json.put "path" (.text path) ms)).member? name =
        (Json.object ms).member? name :=
    Json.find?_put_of_ne hn _ _
  have hpath : (Json.object (Json.put "path" (.text path) ms)).member? "path" =
      some (.text path) := Json.find?_put_same ..
  simp only [movedTo, request, Request.ofJson, textMember, queryOf, h, hpath,
    hother "method" (by decide), hother "json" (by decide), hother "body" (by decide),
    hother "query" (by decide), hother "user" (by decide)]
  simp [Json.text]

/-- A request that goes to a session goes to the other one when it is turned there, and is the
same otherwise. -/
theorem Arrival.turnedTo_request {a : Arrival τ} {id : List Char} {place : Option Action}
    (hp : Route.ofPath a.request.path = some (.into id place)) (name : List Char) :
    (a.turnedTo name).request = { a.request with path := pathInto name place } ∧
    (a.turnedTo name).moment = a.moment := by
  have hmoved : a.turnedTo name = a.movedTo (pathInto name place) := by
    unfold turnedTo
    rw [hp]
    cases place <;> rfl
  obtain ⟨ms, hms⟩ : ∃ ms, a.object = .object ms := by
    match ho : a.object with
    | .object ms => exact ⟨ms, rfl⟩
    | .null | .bool _ | .int _ | .number _ | .string _ | .array _ =>
      -- Without members there is no path, and so no route.
      have hpath : a.request.path = [] := by
        simp [request, Request.ofJson, textMember, Json.member?, ho]
      rw [hpath] at hp
      cases hp
  rw [hmoved]
  refine ⟨movedTo_request hms _, ?_⟩
  simp only [movedTo, hms]

/-! ## Requests about a session -/

def Route.session? : Route → Option (List Char)
  | .session id | .action id _ => some id
  | _ => none

theorem Request.visits_iff {r : Request} {id : List Char} :
    r.Visits id ↔ (Route.ofPath r.path).bind Route.session? = some id := by
  unfold Visits
  cases Route.ofPath r.path with
  | none => simp
  | some route =>
    refine ⟨?_, fun h => ?_⟩
    · rintro ⟨place, hp⟩
      obtain rfl := Option.some.inj hp
      cases place <;> rfl
    · cases route with
      | session other =>
        cases h
        exact ⟨none, rfl⟩
      | action other a =>
        cases h
        exact ⟨some a, rfl⟩
      | _ => cases h

instance (r : Request) (id : List Char) : Decidable (r.Visits id) :=
  decidable_of_iff _ Request.visits_iff.symm

theorem Request.opens_iff {r : Request} :
    (∃ m, r.Opens m) ↔ Route.ofPath r.path = some .sessions ∧ r.method = "POST" ∧
      r.mode.toOption.isSome := by
  refine ⟨?_, ?_⟩
  · rintro ⟨m, hroute, hmethod, hmode⟩
    exact ⟨hroute, hmethod, by rw [hmode]; rfl⟩
  · rintro ⟨hroute, hmethod, hmode⟩
    obtain ⟨m, hm⟩ := Option.isSome_iff_exists.1 hmode
    exact ⟨m, hroute, hmethod, eq_ok_of_toOption hm⟩

instance (r : Request) : Decidable (∃ m, r.Opens m) :=
  decidable_of_iff _ Request.opens_iff.symm

namespace State

/-- A request is about a session: it goes to it, or opens it. -/
def IsAbout (v : State τ σ) (id : List Char) (r : Request) : Prop :=
  r.Visits id ∨ (∃ m, r.Opens m) ∧ id = sessionName (v.created + 1)

instance (v : State τ σ) (id : List Char) (r : Request) : Decidable (v.IsAbout id r) :=
  inferInstanceAs (Decidable (_ ∨ _))

/-- A request about a session, turned to another one. -/
def kept (v : State τ σ) (id name : List Char) (a : Arrival τ) : List (Arrival τ) :=
  if v.IsAbout id a.request then [a.turnedTo name] else []

end State

/-! ## The same visit under another name -/

/-- The answer with another name for the session that it shows. -/
def Answer.under (a : Answer) (name : List Char) : Answer :=
  match a with
  | ⟨status, .json (.object [success, ("data", .object (("id", _) :: members))])⟩ =>
    ⟨status, .json (.object [success, ("data", .object (("id", .text name) :: members))])⟩
  | a => a

theorem Answer.under_status (a : Answer) (name : List Char) : (a.under name).status = a.status := by
  unfold under
  split <;> rfl

theorem Action.answerTo_under (a : Action) (e : Failure) (name : List Char) :
    (a.answerTo e).under name = a.answerTo e := by
  obtain he | ⟨reason, _, he⟩ := a.answerTo_cases e <;> rw [he] <;> rfl

/-- Answers that are served in another way are handled in this way, if it keeps their status. -/
theorem handled_map {α : Type} {f : Answer → Answer}
    (hbare : ∀ status, f (.bare status) = .bare status)
    (hstatus : ∀ a, (f a).status = a.status) (route : Route) (r : Request) (a : α)
    (serve : Request → α × Answer) :
    handled route r a (fun q => ((serve q).1, f (serve q).2)) =
      ((handled route r a serve).1, f (handled route r a serve).2) := by
  unfold handled
  split
  · rfl
  · split
    · rw [hbare]
    · split
      · simp only [hbare, hstatus]
      · rw [hbare]

section Visit

variable [LE τ] [DecidableLE τ]

theorem payload_under (id name : List Char) (s : Session τ) (now : τ) (status : Nat)
    (more : Json.Members) :
    (payload id s now status more).under name = payload name s now status more := rfl

variable [Add τ] [Sub τ] [LT τ] [DecidableLT τ]

theorem Helpers.attend_under (h : Helpers) (r : Request) (at_ : Moment τ) (id name : List Char)
    (s : Session τ) (a : Action) :
    h.attend r at_ name s a =
      ((h.attend r at_ id s a).1, (h.attend r at_ id s a).2.under name) := by
  unfold attend
  cases ha : h.asks r s a with
  | error refusal =>
    obtain rfl | ⟨reason, rfl⟩ := (h.asks_ends r s a).of_error ha <;> rfl
  | ok o =>
    simp only [settled]
    cases (s.perform at_.now o).answer with
    | ok reply => rfl
    | error e => exact Prod.ext rfl (a.answerTo_under e name).symm

theorem Helpers.visit_under (h : Helpers) (at_ : Moment τ) (id name : List Char)
    (place : Option Action) (found : Option (Session τ)) (q : Request) :
    h.visit at_ name place found q =
      ((h.visit at_ id place found q).1, (h.visit at_ id place found q).2.under name) := by
  cases found with
  | none => rfl
  | some s =>
    cases place with
    | none =>
      simp only [visit]
      split <;> rfl
    | some a =>
      simp only [visit]
      rw [h.attend_under q at_ id name s a]

/-- A visit does the same under another name, and answers the same but for the name. -/
theorem Helpers.handled_visit_under (h : Helpers) (at_ : Moment τ) (id name : List Char)
    (place : Option Action) (found : Option (Session τ)) (r : Request) (path : List Char) :
    let visit := handled (.into id place) r found (h.visit at_ id place found)
    handled (.into name place) { r with path := path } found (h.visit at_ name place found) =
      (visit.1, visit.2.under name) := by
  intro visit
  have hserve : h.visit at_ name place found = fun q =>
      ((h.visit at_ id place found q).1, (h.visit at_ id place found q).2.under name) :=
    funext (h.visit_under at_ id name place found)
  have hpath : handled (.into name place) { r with path := path } found
      (h.visit at_ name place found) =
      handled (.into id place) r found (h.visit at_ name place found) := by
    -- Neither the methods of the route nor the visit depend on the path.
    cases found <;> cases place <;> rfl
  rw [hpath, hserve]
  exact handled_map (f := fun a => a.under name) (fun _ => rfl) (fun a => a.under_status name) ..

/-! ## Two services -/

namespace State

def answered (v : State τ σ) (setup : Setup τ σ) (a : Arrival τ) : Answer :=
  (v.answer setup a.request a.moment).2

/-- The answer to a request about a session. -/
def told (v : State τ σ) (setup : Setup τ σ) (id : List Char) (a : Arrival τ) : List Answer :=
  if v.IsAbout id a.request then [v.answered setup a] else []

/-- What one service finds under a name another one finds under its first name, which it has
given only if the name was given by the one. -/
structure Alike (v : State τ σ) (id : List Char) (w : State τ σ) : Prop where
  found : w.find? (sessionName 1) = v.find? id
  opened : w.created = 0 ∨ ∃ n ≤ v.created, id = sessionName n

variable {v w : State τ σ} {setup : Setup τ σ} {id : List Char} {a : Arrival τ}

/-- A request about the session does the same in both services, and is answered alike. -/
theorem Alike.about (h : v.Alike id w) (hv : v.Named) (hw : w.Named)
    (hsteady : ∀ line line', setup.helpers line = setup.helpers line')
    (ha : v.IsAbout id a.request) :
    (v.after setup a).Alike id (w.after setup (a.turnedTo (sessionName 1))) ∧
    w.answered setup (a.turnedTo (sessionName 1)) =
      (v.answered setup a).under (sessionName 1) := by
  obtain ⟨place, hp⟩ | ⟨⟨m, hm⟩, hid⟩ := ha
  · obtain ⟨hrequest, hmoment⟩ := Arrival.turnedTo_request hp (sessionName 1)
    have hp' : Route.ofPath (a.turnedTo (sessionName 1)).request.path =
        some (.into (sessionName 1) place) := by
      rw [hrequest]
      exact ofPath_pathInto (List.cons_ne_nil _ _) (slash_not_mem_sessionName 1) place
    obtain ⟨hbecomes, hanswer⟩ := answer_visits setup a.moment v hp
    obtain ⟨hbecomes', hanswer'⟩ := answer_visits setup a.moment w hp'
    have hsame := (setup.helpers v.line).handled_visit_under a.moment id (sessionName 1) place
      (v.find? id) a.request (pathInto (sessionName 1) place)
    rw [hsteady w.line v.line, h.found, hrequest, hsame] at hbecomes' hanswer'
    refine ⟨⟨?_, ?_⟩, ?_⟩
    · rw [after, after, hmoment, hrequest, hbecomes'.found, hbecomes.found]
    · rw [after, after, hmoment, hrequest, hbecomes'.created, hbecomes.created]
      exact h.opened
    · rw [answered, answered, hmoment, hrequest, hanswer', hanswer]
  · -- Neither name was given before, and both are given now.
    have hturned : a.turnedTo (sessionName 1) = a := by
      unfold Arrival.turnedTo
      rw [hm.route]
    have hfirst : w.created = 0 := by
      obtain h0 | ⟨n, hn, hid'⟩ := h.opened
      · exact h0
      · have := sessionName_injective (hid.symm.trans hid')
        omega
    obtain ⟨hfound, _, hcreated, hanswer⟩ := hv.answer_opens setup a.moment hm
    obtain ⟨hfound', _, _, hanswer'⟩ := hw.answer_opens setup a.moment hm
    rw [hfirst] at hfound' hanswer'
    rw [← hid] at hfound hanswer
    rw [hturned]
    refine ⟨⟨hfound'.trans hfound.symm, .inr ⟨v.created + 1, hcreated.ge, hid⟩⟩, ?_⟩
    rw [answered, answered, hanswer', hanswer, payload_under]

theorem Alike.apart (h : v.Alike id w) (hv : v.Named) (ha : ¬ v.IsAbout id a.request) :
    (v.after setup a).Alike id w := by
  obtain ⟨hvisits, hnew⟩ := not_or.1 ha
  have hopened : w.created = 0 ∨ ∃ n ≤ (v.after setup a).created, id = sessionName n :=
    h.opened.imp_right fun ⟨n, hn, hid⟩ =>
      ⟨n, hn.trans (hv.created_le setup a.moment a.request), hid⟩
  by_cases hopens : ∃ m, a.request.Opens m
  · obtain ⟨m, hm⟩ := hopens
    obtain ⟨_, hothers, _⟩ := hv.answer_opens setup a.moment hm
    exact ⟨h.found.trans (hothers id fun hid => hnew ⟨⟨m, hm⟩, hid⟩).symm, hopened⟩
  · have hpasses := (v.answer_passes setup a.moment hvisits (not_exists.1 hopens)).1
    exact ⟨h.found.trans hpasses.symm, hopened⟩

/-- Over any requests: what is told about a session is answered alike where nothing else is
asked. -/
theorem Alike.run (h : v.Alike id w) (hv : v.Named) (hw : w.Named)
    (hsteady : ∀ line line', setup.helpers line = setup.helpers line') (as : List (Arrival τ)) :
    w.gather setup (fun w a => [w.answered setup a])
        (v.gather setup (fun v a => v.kept id (sessionName 1) a) as) =
      (v.gather setup (fun v a => v.told setup id a) as).map
        fun answer => answer.under (sessionName 1) := by
  induction as generalizing v w with
  | nil => rfl
  | cons a as ih =>
    have hv' : (v.after setup a).Named := answer_named hv setup a.request a.moment
    by_cases ha : v.IsAbout id a.request
    · obtain ⟨hnext, hanswer⟩ := h.about hv hw hsteady ha
      have hw' : (w.after setup (a.turnedTo (sessionName 1))).Named := answer_named hw setup _ _
      have hkept : v.kept id (sessionName 1) a = [a.turnedTo (sessionName 1)] := if_pos ha
      have htold : v.told setup id a = [v.answered setup a] := if_pos ha
      simp only [gather, hkept, htold, List.singleton_append, List.map_cons, hanswer,
        ih hnext hv' hw']
    · have hkept : v.kept id (sessionName 1) a = [] := if_neg ha
      have htold : v.told setup id a = [] := if_neg ha
      simp only [gather, hkept, htold, List.nil_append]
      exact ih (h.apart hv ha) hv' hw

/-! ## After a session was removed -/

theorem Gone.answered (h : v.Gone id) {place : Option Action}
    (hp : Route.ofPath a.request.path = some (.into id place))
    (hmethod : a.request.method ∈ (Route.into id place).methods) :
    v.answered setup a = .unknownSession := by
  obtain ⟨_, hanswer⟩ := answer_visits setup a.moment v hp
  have hm : (Route.into id place).methods.contains a.request.method = true := by
    simpa using hmethod
  rw [State.answered, hanswer, h.nothing, handled, if_pos hm]
  rfl

/-- A session is gone after the request that removes it. -/
theorem Named.gone_of_delete (hv : v.Named) (setup : Setup τ σ) (hfound : (v.find? id).isSome)
    (hp : Route.ofPath a.request.path = some (.session id))
    (hmethod : a.request.method = "DELETE") : (v.after setup a).Gone id := by
  obtain ⟨s, hs⟩ := Option.isSome_iff_exists.1 hfound
  have hinto : Route.ofPath a.request.path = some (.into id none) := hp
  obtain ⟨hbecomes, _⟩ := answer_visits setup a.moment v hinto
  refine hv.gone_of_answer setup a.moment hs (hbecomes.found.trans ?_)
  simp [handled, Helpers.visit, Route.into, Route.methods, hmethod, hs]

end State

/-- If the language model answers by what it is asked only: whatever else a service is asked from
its start on, about other sessions or about none, what it answers about one session is, but for
the name of the session, what another service answers from its start on that is asked about this
session only. And once a session is removed its name is unknown for ever. -/
theorem sessions_separate (setup : Setup τ σ) (h h' : History) (line line' : σ) :
    let v : State τ σ := { history := h, line := line }
    let w : State τ σ := { history := h', line := line' }
    ((∀ line line', setup.helpers line = setup.helpers line') →
      ∀ (as : List (Arrival τ)) (id : List Char),
        w.gather setup (fun w a => [w.answered setup a])
            (v.gather setup (fun v a => v.kept id (State.sessionName 1) a) as) =
          (v.gather setup (fun v a => v.told setup id a) as).map
            fun answer => answer.under (State.sessionName 1)) ∧
    ∀ (before between : List (Arrival τ)) (id : List Char) (removing a : Arrival τ)
      (place : Option Action), ((v.run setup before).find? id).isSome →
      Route.ofPath removing.request.path = some (.session id) →
      removing.request.method = "DELETE" →
      Route.ofPath a.request.path = some (.into id place) →
      a.request.method ∈ (Route.into id place).methods →
      (v.run setup (before ++ removing :: between)).answered setup a = .unknownSession := by
  intro v w
  have hv : v.Named := State.named_new h line
  have hw : w.Named := State.named_new h' line'
  refine ⟨?_, ?_⟩
  · intro hsteady as id
    have hstart : v.Alike id w := ⟨rfl, .inl rfl⟩
    exact hstart.run hv hw hsteady as
  · intro before between id removing a place hfound hdelete hmethod hp hallowed
    have hbefore : (v.run setup before).Named := State.run_named hv setup before
    have hgone := hbefore.gone_of_delete setup hfound hdelete hmethod
    have hlater : (v.run setup (before ++ removing :: between)).Gone id := by
      rw [State.run_append]
      exact hgone.run setup (State.answer_named hbefore setup _ _) between
    exact hlater.answered hp hallowed

end Visit

/-- A session is removed. -/
def removal (path : String) : Arrival Int :=
  ⟨.object [("method", .string "DELETE"), ("path", .string path)], ⟨5, "noon".toList⟩⟩

/-- Two sessions are opened; the second one is asked for a quotient while the first one is
used. -/
def quotientAside : List (Arrival Int) := [
  posted "ann" "/api/sessions" [],
  posted "bob" "/api/sessions" [("mode", .string "Scientific")],
  posted "ann" "/api/sessions/s1/keys" [("key", .string "7")],
  posted "bob" "/api/sessions/s2/keys" [("key", .string "1÷0")],
  posted "ann" "/api/evaluate" [("expression", .string "1+1")],
  posted "bob" "/api/sessions/s2/keys" [("key", .string "=")]]

/-- The second session, which is removed and asked for again after a third one was opened, is
answered like the only one of a service; then it is unknown. -/
theorem quotientAside_separate :
    let later := [posted "ann" "/api/sessions" []]
    let all := quotientAside ++ removal "/api/sessions/s2" :: later ++ [asked "/api/sessions/s2"]
    let told := started.gather offline (fun v a => v.told offline "s2".toList a) all
    let kept := started.gather offline
      (fun v a => v.kept "s2".toList (State.sessionName 1) a) all
    told.map Answer.status = [201, 200, 200, 200, 404] ∧
    kept.map (fun a => a.request.path) = ["/api/sessions", "/api/sessions/s1/keys",
      "/api/sessions/s1/keys", "/api/sessions/s1", "/api/sessions/s1"].map String.toList ∧
    started.gather offline (fun w a => [w.answered offline a]) kept =
      told.map (fun answer => answer.under (State.sessionName 1)) ∧
    (started.run offline (quotientAside ++ removal "/api/sessions/s2" :: later)).answered offline
      (asked "/api/sessions/s2") = .unknownSession := by
  intro later all told kept
  obtain ⟨separate, gone⟩ := sessions_separate offline {} {} () ()
  refine ⟨by decide +kernel, by decide +kernel, ?_, ?_⟩
  · exact separate (fun _ _ => rfl) all "s2".toList
  · exact gone quotientAside later "s2".toList (removal "/api/sessions/s2")
      (asked "/api/sessions/s2") none (by decide +kernel) (by decide +kernel) (by decide +kernel)
      (by decide +kernel) (by decide +kernel)

end Service

end Reckon
