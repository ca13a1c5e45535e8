import Reckon.Proofs.Service.Log
import Reckon.Proofs.Session.Conversion

/-
The names of sessions. A session is named by its number, and no number is given twice: whatever
the service is asked, its sessions have numbers up to the number of sessions created (`Named`,
kept by each request in `answer_named`). So the name of the next session is free, and what is
found under it is the new session (`find?_create`).
-/
namespace Reckon.Service.State

variable {τ σ : Type}

/-! ## Names -/

theorem sessionName_injective {m n : Nat} (h : sessionName m = sessionName n) : m = n := by
  have hdigits : Nat.toDigits 10 m = Nat.toDigits 10 n := (List.cons.inj h).2
  rw [← Nat.ofDigitChars_ten_toDigits (n := m), hdigits, Nat.ofDigitChars_ten_toDigits]

theorem slash_not_mem_sessionName (n : Nat) : '/' ∉ sessionName n := by
  intro h
  obtain h | h := List.mem_cons.1 h
  · cases h
  · exact absurd (Number.isDigit_of_mem_decimalDigits h) (by decide)

def names (v : State τ σ) : List (List Char) := v.sessions.map Prod.fst

/-- The sessions have numbers up to that of the last one created. -/
def Named (v : State τ σ) : Prop := ∀ id ∈ v.names, ∃ n ≤ v.created, id = sessionName n

/-- A service that was just started has no sessions. -/
theorem named_new (h : History) (line : σ) :
    Named ({ history := h, line := line } : State τ σ) := by
  intro id hid
  cases hid

theorem Named.next_free {v : State τ σ} (hv : v.Named) : sessionName (v.created + 1) ∉ v.names := by
  intro h
  obtain ⟨n, hn, he⟩ := hv _ h
  have := sessionName_injective he
  omega

/-! ## Sessions under their names -/

theorem find?_store {v : State τ σ} {id : List Char} {s₀ : Session τ} (h : v.find? id = some s₀)
    (s : Session τ) : (v.store id s).find? id = some s := by
  have stored (ps : List (List Char × Session τ)) (hps : ps.lookup id = some s₀) :
      (ps.map fun p => if p.1 = id then (id, s) else p).lookup id = some s := by
    induction ps with
    | nil => simp at hps
    | cons p ps ih =>
      obtain ⟨name, t⟩ := p
      by_cases hp : name = id
      · simp [hp]
      · have hne : (id == name) = false := by simpa using Ne.symm hp
        rw [List.lookup_cons, hne] at hps
        rw [List.map_cons, if_neg hp, List.lookup_cons, hne]
        exact ih hps
  exact stored v.sessions h

/-- Nothing is found under the next name. -/
theorem Named.find?_next {v : State τ σ} (hv : v.Named) :
    v.find? (sessionName (v.created + 1)) = none := by
  rw [find?, List.lookup_eq_none_iff]
  intro p hp
  have hne : sessionName (v.created + 1) ≠ p.1 := fun he =>
    hv.next_free (he.symm ▸ List.mem_map_of_mem hp)
  simpa using hne

/-- What is found under the name of a new session is this session. -/
theorem Named.find?_create {v : State τ σ} (hv : v.Named) (setup : Setup τ σ) (m : Mode) :
    (v.create setup m).1.find? (sessionName (v.created + 1)) =
      some (.fresh setup.policy m (setup.room - 1)) := by
  have hnone : v.sessions.lookup (sessionName (v.created + 1)) = none := hv.find?_next
  simp [find?, create, Session.fresh, List.lookup_append, hnone]

theorem Named.given {v : State τ σ} (hv : v.Named) {id : List Char} {s : Session τ}
    (hs : v.find? id = some s) : ∃ n ≤ v.created, id = sessionName n := by
  obtain ⟨before, behind, hsessions, _⟩ := List.lookup_eq_some_iff.1 hs
  refine hv id ?_
  simp [names, hsessions]

/-! ## Requests -/

/-- The same names are given and taken. -/
def SameNames (v w : State τ σ) : Prop := w.names = v.names ∧ w.created = v.created

variable {v w : State τ σ}

theorem Named.same (hv : v.Named) (h : SameNames v w) : w.Named := by
  intro id hid
  rw [h.1] at hid
  rw [h.2]
  exact hv id hid

theorem SameNames.refl (v : State τ σ) : SameNames v v := ⟨rfl, rfl⟩

theorem SameNames.trans {u : State τ σ} (huv : SameNames u v) (hvw : SameNames v w) :
    SameNames u w := ⟨hvw.1.trans huv.1, hvw.2.trans huv.2⟩

theorem store_sameNames (v : State τ σ) (id : List Char) (s : Session τ) :
    SameNames v (v.store id s) := by
  refine ⟨?_, rfl⟩
  simp only [names, store, List.map_map]
  refine List.map_congr_left fun p _ => ?_
  by_cases hp : p.1 = id
  · simp [hp]
  · simp [hp]

theorem record_sameNames (v : State τ σ) (user : Option (List Char)) (time : List Char)
    (entry : Option Calculation) : SameNames v (v.record user time entry) := by
  cases entry <;> cases user <;> exact .refl v

theorem Named.create (hv : v.Named) (setup : Setup τ σ) (m : Mode) :
    (v.create setup m).1.Named := by
  intro id hid
  simp only [State.create, names, List.map_append, List.map_cons, List.map_nil, List.mem_append,
    List.mem_singleton] at hid ⊢
  obtain hid | rfl := hid
  · obtain ⟨n, hn, he⟩ := hv id hid
    exact ⟨n, Nat.le_succ_of_le hn, he⟩
  · exact ⟨v.created + 1, Nat.le_refl _, rfl⟩

theorem Named.remove (hv : v.Named) (id : List Char) : (v.remove id).Named := by
  intro other hother
  obtain ⟨p, hp, rfl⟩ := List.mem_map.1 hother
  exact hv p.1 (List.mem_map_of_mem (List.mem_filter.1 hp).1)

section Session

variable [LE τ] [DecidableLE τ]

theorem present_sameNames (v : State τ σ) (id : List Char) (s : Session τ) (now : τ) (status : Nat)
    (more : Json.Members) : SameNames v (v.present id s now status more).1 :=
  v.store_sameNames id _

theorem conclude_sameNames {α : Type} (v : State τ σ) (r : Request) (at_ : Moment τ)
    (id : List Char) (a : Action) (step : Step τ α) (more : α → Json.Members) :
    SameNames v (v.conclude r at_ id a step more).1 := by
  have hrecord := (v.store_sameNames id step.session).trans
    ((v.store id step.session).record_sameNames r.user at_.time step.entry)
  unfold conclude
  cases step.answer with
  | ok reply => exact hrecord.trans (present_sameNames ..)
  | error e => exact hrecord

theorem press_sameNames (v : State τ σ) (r : Request) (at_ : Moment τ) (id : List Char)
    (s : Session τ) : SameNames v (v.press r at_ id s).1 := by
  unfold press
  split
  · split
    · exact v.conclude_sameNames ..
    · exact v.conclude_sameNames ..
    · exact .refl v
  · split <;> exact .refl v
  · split <;> exact .refl v
  · split <;> exact .refl v

theorem listen_sameNames (v : State τ σ) (r : Request) (at_ : Moment τ) (id : List Char)
    (s : Session τ) : SameNames v (v.listen r at_ id s).1 := by
  unfold listen
  split
  · exact .refl v
  · split
    · split
      · exact .refl v
      · exact v.conclude_sameNames ..
    · exact .refl v

theorem createFor_named (hv : v.Named) (setup : Setup τ σ) (r : Request) (at_ : Moment τ) :
    (v.createFor setup r at_).1.Named := by
  unfold createFor
  dsimp only
  split
  · exact hv
  · next m _ =>
    split
    · exact (hv.create setup m).same (present_sameNames ..)
    · exact hv.create setup m

section Answer

variable [Add τ] [Sub τ] [LT τ] [DecidableLT τ]

theorem act_sameNames (v : State τ σ) (setup : Setup τ σ) (r : Request) (at_ : Moment τ)
    (id : List Char) (s : Session τ) (a : Action) : SameNames v (v.act setup r at_ id s a).1 := by
  cases a with
  | keys => exact v.press_sameNames r at_ id s
  | voice => exact v.listen_sameNames r at_ id s
  | mode =>
    simp only [act, switch]
    split
    · exact .refl v
    · exact v.conclude_sameNames ..
  | classify =>
    simp only [act, State.classify]
    exact conclude_sameNames { v with line := _ } ..
  | teacher =>
    simp only [act, teach]
    split
    · exact .refl v
    · exact conclude_sameNames { v with line := _ } ..

theorem serve_named (hv : v.Named) (setup : Setup τ σ) (r : Request) (at_ : Moment τ)
    (route : Route) : (v.serve setup r at_ route).1.Named := by
  cases route with
  | info => exact hv
  | graph => exact hv
  | sessions => exact createFor_named hv setup r at_
  | session id =>
    simp only [serve]
    split
    · exact hv
    · split
      · exact hv.remove id
      · exact hv.same (v.present_sameNames ..)
  | action id a =>
    simp only [serve]
    split
    · exact hv
    · exact hv.same (v.act_sameNames ..)
  | evaluate =>
    refine hv.same ?_
    simp only [serve, evaluate]
    split
    · exact .refl v
    · split
      · split
        · exact .refl v
        · split
          · exact .refl v
          · split
            · exact v.record_sameNames ..
            · exact .refl v
      · exact .refl v
  | equations =>
    refine hv.same ?_
    simp only [serve, solve]
    split <;> exact .refl v
  | calculations =>
    refine hv.same ?_
    simp only [serve]
    split
    · unfold clearHistory
      split <;> exact .refl v
    · exact .refl v

theorem answer_named (hv : v.Named) (setup : Setup τ σ) (r : Request) (at_ : Moment τ) :
    (v.answer setup r at_).1.Named := by
  unfold answer
  split
  · exact hv
  · split
    · exact serve_named hv setup r at_ _
    · split
      · exact hv
      · split
        · -- What can be had by GET is worked out as by GET, with a session shown on the way.
          exact serve_named hv setup _ at_ _
        · exact hv

/-- Whatever a service is asked, its sessions keep to the names that were given. -/
theorem run_named (hv : v.Named) (setup : Setup τ σ) (as : List (Arrival τ)) :
    (v.run setup as).Named := by
  induction as generalizing v with
  | nil => exact hv
  | cons a as ih => exact ih (answer_named hv setup a.request a.moment)

end Answer

end Session

end Reckon.Service.State
