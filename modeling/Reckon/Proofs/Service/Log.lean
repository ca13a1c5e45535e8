import Reckon.Proofs.History.Numbering
import Reckon.Proofs.Service.Recording
import Reckon.Service.Wire

/-
What a sequence of requests adds to the history. A request that finishes a calculation for a
user adds one row under the next number (`added_of_finishes`), any other adds none
(`added_of_nothing`). Numbers are never given twice, so the rows that a request adds can be
told from those that were there, and by induction the log of a sequence is the one that it is
to have (`recorded_iff`).
-/
namespace Reckon.Service
open Tutor

/-- A request as it arrives: the object that it is sent as, and the moment of its answer. -/
structure Arrival (τ : Type) where
  object : Json
  moment : Moment τ

namespace Arrival

variable {τ : Type}

def request (a : Arrival τ) : Request := .ofJson a.object

/-- The user that the request names, without the white space around the name. -/
def user (a : Arrival τ) : List Char := Text.trim (textMember "user" a.object)

theorem request_user_of_ne {a : Arrival τ} (h : a.user ≠ []) : a.request.user = some a.user := by
  have he : (Text.trim (textMember "user" a.object)).isEmpty = false := by simpa [user] using h
  simp only [request, Request.ofJson, userOf, he, Bool.false_eq_true, if_false, user]

theorem request_user_of_blank {a : Arrival τ} (h : a.user = []) : a.request.user = none := by
  have he : Text.trim (textMember "user" a.object) = [] := h
  simp only [request, Request.ofJson, userOf, he, List.isEmpty_nil, if_true]

end Arrival

namespace State

variable {τ σ : Type}

/-- A request finishes something for a user, or there is nothing to add. -/
theorem finishes_or_nothing (v : State τ σ) (setup : Setup τ σ) (a : Arrival τ) :
    (∃ c, v.Finishes setup a.request c ∧ a.user ≠ []) ∨
    (a.user = [] ∨ ∀ c, ¬ v.Finishes setup a.request c) := by
  by_cases hu : a.user = []
  · exact .inr (.inl hu)
  · by_cases hc : ∃ c, v.Finishes setup a.request c
    · obtain ⟨c, hc⟩ := hc
      exact .inl ⟨c, hc, hu⟩
    · exact .inr (.inr (not_exists.1 hc))

variable [Add τ] [Sub τ] [LE τ] [LT τ] [DecidableLE τ] [DecidableLT τ]

def after (v : State τ σ) (setup : Setup τ σ) (a : Arrival τ) : State τ σ :=
  (v.answer setup a.request a.moment).1

/-- The service after requests. -/
def run (v : State τ σ) (setup : Setup τ σ) (as : List (Arrival τ)) : State τ σ :=
  as.foldl (fun v a => v.after setup a) v

/-- The rows that a request adds: those that were not in the table before. -/
def added (v : State τ σ) (setup : Setup τ σ) (a : Arrival τ) : List Row :=
  (v.after setup a).history.rows.filter fun r => r ∉ v.history.rows

/-- The rows that requests add, in their order. -/
def log (v : State τ σ) (setup : Setup τ σ) : List (Arrival τ) → List Row
  | [] => []
  | a :: as => v.added setup a ++ (v.after setup a).log setup as

/-- The rows that requests are to add: one for each calculation that is finished by a request
that names a user. -/
inductive Recorded (setup : Setup τ σ) : State τ σ → List (Arrival τ) → List Row → Prop
  | nil {v : State τ σ} : Recorded setup v [] []
  | row {v : State τ σ} {a : Arrival τ} {as : List (Arrival τ)} {rows : List Row}
      {c : Calculation} (finished : v.Finishes setup a.request c) (named : a.user ≠ [])
      (rest : Recorded setup (v.after setup a) as rows) :
      Recorded setup v (a :: as) (⟨v.history.lastId + 1, a.user, c.expression, c.result,
        a.moment.time, some c.mode.name.toList⟩ :: rows)
  | silent {v : State τ σ} {a : Arrival τ} {as : List (Arrival τ)} {rows : List Row}
      (nothing : a.user = [] ∨ ∀ c, ¬ v.Finishes setup a.request c)
      (rest : Recorded setup (v.after setup a) as rows) : Recorded setup v (a :: as) rows

variable {v : State τ σ} {setup : Setup τ σ} {a : Arrival τ}

theorem after_history_of_finishes {c : Calculation} (hc : v.Finishes setup a.request c)
    (hu : a.user ≠ []) :
    (v.after setup a).history =
      (v.history.add a.user c.expression c.result a.moment.time (some c.mode.name.toList)).1 := by
  obtain ⟨entry, he, hw⟩ | ⟨⟨_, hd⟩, _⟩ := v.answer_records setup a.request a.moment
  · obtain rfl : entry = some c := (he c).2 hc
    rw [after, hw, Arrival.request_user_of_ne hu]
    rfl
  · obtain ⟨_, _, hpost, _⟩ := hc
    rw [hpost] at hd
    exact absurd hd (by simp)

/-- Otherwise the history stays, unless a user's is removed. -/
theorem after_history_of_nothing (h : a.user = [] ∨ ∀ c, ¬ v.Finishes setup a.request c) :
    (v.after setup a).history = v.history ∨
    Clears a.request ∧ ∃ u, (v.after setup a).history = (v.history.clear u).1 := by
  obtain hr | hr := v.answer_records setup a.request a.moment
  · obtain hu | hc := h
    · obtain ⟨entry, _, hw⟩ := hr
      rw [Arrival.request_user_of_blank hu] at hw
      refine .inl (hw.trans ?_)
      cases entry <;> rfl
    · exact .inl (hr.unchanged hc)
  · exact .inr hr

theorem after_numbered (hv : v.history.Numbered) (setup : Setup τ σ) (a : Arrival τ) :
    (v.after setup a).history.Numbered := by
  obtain ⟨c, hc, hu⟩ | hnone := v.finishes_or_nothing setup a
  · exact after_history_of_finishes hc hu ▸ hv.add ..
  · obtain h | ⟨_, u, h⟩ := after_history_of_nothing hnone
    · exact h ▸ hv
    · exact h ▸ hv.clear u

theorem added_of_finishes (hv : v.history.Numbered) {c : Calculation}
    (hc : v.Finishes setup a.request c) (hu : a.user ≠ []) :
    v.added setup a = [⟨v.history.lastId + 1, a.user, c.expression, c.result, a.moment.time,
      some c.mode.name.toList⟩] := by
  have hnew : (⟨v.history.lastId + 1, a.user, c.expression, c.result, a.moment.time,
      some c.mode.name.toList⟩ : Row) ∉ v.history.rows := hv.not_mem (Nat.lt_succ_self _)
  have hold : v.history.rows.filter (fun r => r ∉ v.history.rows) = [] := by simp
  rw [added, after_history_of_finishes hc hu, History.add, List.filter_append, hold]
  simp [hnew]

theorem added_of_nothing (h : a.user = [] ∨ ∀ c, ¬ v.Finishes setup a.request c) :
    v.added setup a = [] := by
  rw [added, List.filter_eq_nil_iff]
  intro r hr
  obtain hw | ⟨_, u, hw⟩ := after_history_of_nothing h
  · rw [hw] at hr
    simpa using hr
  · rw [hw] at hr
    simpa using (List.mem_filter.1 hr).1

theorem run_append (v : State τ σ) (setup : Setup τ σ) (as bs : List (Arrival τ)) :
    v.run setup (as ++ bs) = (v.run setup as).run setup bs := List.foldl_append

/-- What requests are to add is what they add. -/
theorem recorded_iff (hv : v.history.Numbered) (as : List (Arrival τ)) (rows : List Row) :
    Recorded setup v as rows ↔ rows = v.log setup as := by
  refine ⟨fun h => ?_, ?_⟩
  · induction h with
    | nil => rfl
    | row finished named _ ih =>
      rw [log, added_of_finishes hv finished named, ← ih (after_numbered hv setup _)]
      rfl
    | silent nothing _ ih =>
      rw [log, added_of_nothing nothing, ← ih (after_numbered hv setup _)]
      rfl
  · rintro rfl
    induction as generalizing v with
    | nil => exact .nil
    | cons a as ih =>
      have rest := ih (after_numbered hv setup a)
      obtain ⟨c, hc, hu⟩ | hnone := v.finishes_or_nothing setup a
      · rw [log, added_of_finishes hv hc hu]
        exact .row hc hu rest
      · rw [log, added_of_nothing hnone]
        exact .silent hnone rest

/-- As long as no history is removed, a request puts what it adds behind the table. -/
theorem after_rows (hv : v.history.Numbered) (ha : ¬ Clears a.request) :
    (v.after setup a).history.rows = v.history.rows ++ v.added setup a := by
  obtain ⟨c, hc, hu⟩ | hnone := v.finishes_or_nothing setup a
  · rw [added_of_finishes hv hc hu, after_history_of_finishes hc hu]
    rfl
  · obtain h | ⟨hclears, _⟩ := after_history_of_nothing hnone
    · rw [added_of_nothing hnone, List.append_nil, h]
    · exact absurd hclears ha

theorem run_rows (hv : v.history.Numbered) {as : List (Arrival τ)}
    (has : ∀ a ∈ as, ¬ Clears a.request) :
    (v.run setup as).history.rows = v.history.rows ++ v.log setup as := by
  induction as generalizing v with
  | nil => simp [run, log]
  | cons a as ih =>
    calc (v.run setup (a :: as)).history.rows
        = ((v.after setup a).run setup as).history.rows := rfl
      _ = (v.after setup a).history.rows ++ (v.after setup a).log setup as :=
          ih (after_numbered hv setup a) fun b hb => has b (List.mem_cons_of_mem a hb)
      _ = v.history.rows ++ v.log setup (a :: as) := by
          rw [after_rows hv (has a List.mem_cons_self), log, List.append_assoc]

/-- The rows that any requests add are one row for each calculation that is finished by a
request that names a user, in their order. They are what is behind the old rows of the table,
unless a history is removed meanwhile. -/
theorem log_exact (hv : v.history.Numbered) (setup : Setup τ σ) (as : List (Arrival τ)) :
    (∀ rows, Recorded setup v as rows ↔ rows = v.log setup as) ∧
    ((∀ a ∈ as, ¬ Clears a.request) →
      (v.run setup as).history.rows = v.history.rows ++ v.log setup as) := by
  refine ⟨?_, ?_⟩
  · intro rows
    exact recorded_iff hv as rows
  · intro has
    exact run_rows hv has

end State

/-- A service that was just started, without a language model. -/
def started : State Int Unit := { line := () }

/-- The rules of a service without a language model. -/
def offline : Setup Int Unit where
  policy := ⟨2, 1, false⟩
  channel := ⟨Model.absent, fun _ _ => ((), .offline [])⟩

/-- Something is sent by a user. -/
def posted (user path : String) (body : Json.Members) : Arrival Int :=
  ⟨.object [("method", .string "POST"), ("path", .string path), ("user", .string user),
    ("json", .object body)], ⟨0, "noon".toList⟩⟩

/-- Two users share a session, which is asked for a result without a name as well; then one of
them evaluates a quotient that fails, and a product. -/
def sharedSession : List (Arrival Int) := [
  posted "ann" "/api/sessions" [],
  posted "ann" "/api/sessions/s1/keys" [("key", .string "10")],
  posted " bob " "/api/sessions/s1/keys" [("key", .string "=")],
  posted "" "/api/sessions/s1/keys" [("keyboard", .string "Enter")],
  posted "ann" "/api/sessions/s1/keys" [("key", .string "bin")],
  posted "ann" "/api/evaluate" [("expression", .string "1÷0")],
  posted "ann" "/api/evaluate" [("expression", .string "2×(3")]]

/-- One row for each result that a user got, under the name of who asked for it. -/
theorem sharedSession_log :
    State.Recorded offline started sharedSession [
      ⟨1, "bob".toList, "10".toList, "10".toList, "noon".toList, some "Standard".toList⟩,
      ⟨2, "ann".toList, "dec_to_bin(10)".toList, "1010".toList, "noon".toList,
        some "Standard".toList⟩,
      ⟨3, "ann".toList, "2×(3".toList, "6".toList, "noon".toList, some "Standard".toList⟩] ∧
    (started.run offline sharedSession).history.rows = started.log offline sharedSession := by
  obtain ⟨recorded, rows⟩ :=
    State.log_exact (v := started) History.numbered_new offline sharedSession
  refine ⟨(recorded _).2 (by decide +kernel), ?_⟩
  exact rows (by decide +kernel)

end Reckon.Service
