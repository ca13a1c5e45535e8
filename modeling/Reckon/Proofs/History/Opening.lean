import Reckon.History.Cell
import Reckon.Proofs.History.Numbering
import Reckon.Proofs.Outcome

/-
Opening a history. A table is made where there is none, and the mode is added to rows that
have none; both happen on every start, over whatever is found. An opening keeps all rows and
the last number given (`opened_rows`, `opened_lastId`), and what it leaves has modes, so that
the next one has nothing to do (`execute_reopen`).

Over a whole life (`opening_safe`) the numbers are what has to be carried along: the last
number given never goes down (`lastId_le_execute`), it is the number of the row that was added
last, and clearing leaves it alone. So the numbers of the rows that are found, followed by those
that are given later, form one growing list, whatever was cleared in between.
-/
namespace Reckon

/-- A row without its mode. -/
def Row.early (r : Row) : EarlyRow := ⟨r.id, r.user, r.expression, r.result, r.time⟩

namespace Stored

/-- The rows that are found, without their modes. -/
def rows : Stored → List EarlyRow
  | .nothing => []
  | .early rows _ => rows
  | .current h => h.rows.map Row.early

/-- The last number given when the history is found. -/
def lastId : Stored → Nat
  | .nothing => 0
  | .early _ lastId => lastId
  | .current h => h.lastId

/-- The numbers of the rows that are found. -/
def ids (s : Stored) : List Nat := s.rows.map EarlyRow.id

/-- Row numbers grow along the table that is found, and none is above the last number given. -/
structure Numbered (s : Stored) : Prop where
  increasing : s.ids.Pairwise (· < ·)
  le_lastId : ∀ n ∈ s.ids, n ≤ s.lastId

/-! ## One opening -/

theorem early_migrate (r : EarlyRow) : (migrate r).early = r := rfl

theorem opened_rows (s : Stored) : s.opened.1.rows.map Row.early = s.rows := by
  cases s with
  | nothing => rfl
  | early rows lastId =>
    calc (rows.map migrate).map Row.early
        = rows.map fun r => (migrate r).early := List.map_map
      _ = rows := by simp only [early_migrate, List.map_id']
  | current h => rfl

theorem opened_lastId (s : Stored) : s.opened.1.lastId = s.lastId := by cases s <;> rfl

theorem opened_migrated (s : Stored) : s.opened.2 = !s.hasMode := by cases s <;> rfl

/-- Rows to which a mode is added get the Standard one. -/
theorem opened_modes {s : Stored} (hs : s.hasMode = false) :
    ∀ r ∈ s.opened.1.rows, r.mode = some Mode.standard.name.toList := by
  cases s with
  | nothing => exact fun r hr => absurd hr List.not_mem_nil
  | early rows lastId =>
    intro r hr
    obtain ⟨e, _, rfl⟩ := List.mem_map.1 hr
    rfl
  | current h => cases hs

theorem opened_current {s : Stored} (hs : s.hasMode = true) : s = .current s.opened.1 := by
  cases s with
  | current h => rfl
  | _ => cases hs

end Stored

namespace History
open Stored (migrationNotice)

/-! ## A life -/

/-- What is asked of a history once it is opened. -/
inductive Command where
  | reopen
  | add (user expression result : Json) (time : List Char) (mode : Json)
  | clear (user : Json)

/-- What comes of it. -/
inductive Effect where
  | opened (migrated : Bool)
  | added (id : Nat)
  | cleared (n : Nat)
  | refused (r : Refusal)

/-- What is told about an effect on the console. -/
def Effect.notices : Effect → List String
  | .opened true => [migrationNotice]
  | _ => []

/-- The number that an effect gives. -/
def Effect.ids : Effect → List Nat
  | .added id => [id]
  | _ => []

def execute (h : History) : Command → History × Effect
  | .reopen =>
    let (h, migrated) := (Stored.current h).opened
    (h, .opened migrated)
  | .add user expression result time mode =>
    match h.addValues user expression result time mode with
    | .ok (h, id) => (h, .added id)
    | .error r => (h, .refused r)
  | .clear user =>
    match h.clearValues user with
    | .ok (h, n) => (h, .cleared n)
    | .error r => (h, .refused r)

def after (h : History) (commands : List Command) : History :=
  commands.foldl (fun h c => (h.execute c).1) h

/-- What comes of commands, one after the other. -/
def effects : History → List Command → List Effect
  | _, [] => []
  | h, c :: cs => (h.execute c).2 :: (h.execute c).1.effects cs

/-- What comes of a whole life, from the first opening on. -/
def life (s : Stored) (commands : List Command) : List Effect :=
  .opened s.opened.2 :: s.opened.1.effects commands

/-! ## What a command does -/

theorem execute_reopen (h : History) : h.execute .reopen = (h, .opened false) := rfl

/-- A row that is added gets the next number. -/
theorem addValues_ends (h : History) (user expression result mode : Json) (time : List Char) :
    Ends (h.addValues user expression result time mode)
      (fun p => p.2 = h.lastId + 1 ∧ p.1.lastId = h.lastId + 1) fun _ => True :=
  -- four values are checked and three texts made before the row is added
  (Ends.anyhow _).bind fun _ _ => (Ends.anyhow _).bind fun _ _ => (Ends.anyhow _).bind fun _ _ =>
    (Ends.anyhow _).bind fun _ _ => (Ends.anyhow _).bind fun _ _ => (Ends.anyhow _).bind fun _ _ =>
    (Ends.anyhow _).bind fun _ _ => .ok ⟨rfl, rfl⟩

theorem clearValues_ends (h : History) (user : Json) :
    Ends (h.clearValues user) (fun p => p.1.lastId = h.lastId) fun _ => True := by
  refine (Ends.anyhow _).bind fun _ _ => .ok ?_
  cases cellText user <;> rfl

/-- A command gives no number and leaves the last one given, or it gives the next one. -/
theorem execute_numbers (h : History) (c : Command) :
    ((h.execute c).2.ids = [] ∧ (h.execute c).1.lastId = h.lastId) ∨
    ((h.execute c).2.ids = [h.lastId + 1] ∧ (h.execute c).1.lastId = h.lastId + 1) := by
  cases c with
  | reopen => exact .inl ⟨rfl, rfl⟩
  | add user expression result time mode =>
    have ends := h.addValues_ends user expression result mode time
    simp only [execute]
    split
    · next hadd =>
      obtain ⟨hid, hlast⟩ := ends.of_ok hadd
      exact .inr ⟨congrArg (fun n => [n]) hid, hlast⟩
    · exact .inl ⟨rfl, rfl⟩
  | clear user =>
    have ends := h.clearValues_ends user
    simp only [execute]
    split
    · next hclear => exact .inl ⟨rfl, ends.of_ok hclear⟩
    · exact .inl ⟨rfl, rfl⟩

/-- Nothing is told about the mode once there is one. -/
theorem execute_notices (h : History) (c : Command) : (h.execute c).2.notices = [] := by
  cases c with
  | reopen => rfl
  | _ =>
    simp only [execute]
    split <;> rfl

/-! ## What a life does -/

theorem effects_notices (h : History) (commands : List Command) :
    (h.effects commands).flatMap Effect.notices = [] := by
  induction commands generalizing h with
  | nil => rfl
  | cons c cs ih => rw [effects, List.flatMap_cons, execute_notices, ih, List.nil_append]

/-- The numbers that are given grow, and all are above the last one given before. -/
theorem effects_ids (h : History) (commands : List Command) :
    ((h.effects commands).flatMap Effect.ids).Pairwise (· < ·) ∧
    ∀ n ∈ (h.effects commands).flatMap Effect.ids, h.lastId < n := by
  -- what carries the induction is the bound, that of the history after the first command
  induction commands generalizing h with
  | nil => exact ⟨.nil, by simp [effects]⟩
  | cons c cs ih =>
    obtain ⟨grow, above⟩ := ih (h.execute c).1
    rw [effects, List.flatMap_cons]
    obtain ⟨hids, hlast⟩ | ⟨hids, hlast⟩ := h.execute_numbers c
    · rw [hlast] at above
      rw [hids, List.nil_append]
      exact ⟨grow, above⟩
    · rw [hlast] at above
      simp only [hids, List.singleton_append, List.pairwise_cons, List.mem_cons, forall_eq_or_imp]
      exact ⟨⟨above, grow⟩, Nat.lt_succ_self _, fun n hn => Nat.lt_of_succ_lt (above n hn)⟩

/-- Opening is a safe migration that can be repeated. The rows that are found are kept, in their
order, with the mode they have or else the Standard one; every later opening leaves the history
as it is. That the mode was added is told exactly if there was none, so at most once in a life.
A number that is given is above all that were given before, to rows that are still there and to
others. -/
theorem opening_safe {s : Stored} (hs : s.Numbered) (commands : List Command) :
    (s.opened.1.rows.map Row.early = s.rows ∧ s.opened.1.lastId = s.lastId ∧
      (s.hasMode = false → ∀ r ∈ s.opened.1.rows, r.mode = some Mode.standard.name.toList) ∧
      (s.hasMode = true → s = .current s.opened.1)) ∧
    (∀ before rest, commands = before ++ .reopen :: rest →
      (s.opened.1.after before).execute .reopen = (s.opened.1.after before, .opened false)) ∧
    (life s commands).flatMap Effect.notices = (if s.hasMode then [] else [migrationNotice]) ∧
    (s.ids ++ (life s commands).flatMap Effect.ids).Pairwise (· < ·) ∧
    ∀ n ∈ (life s commands).flatMap Effect.ids, s.lastId < n := by
  obtain ⟨grow, above⟩ := s.opened.1.effects_ids commands
  rw [s.opened_lastId] at above
  have hids : (life s commands).flatMap Effect.ids =
      (s.opened.1.effects commands).flatMap Effect.ids := rfl
  refine ⟨⟨s.opened_rows, s.opened_lastId, Stored.opened_modes, Stored.opened_current⟩,
    fun before rest _ => execute_reopen _, ?_, ?_, by rwa [hids]⟩
  · rw [life, List.flatMap_cons, effects_notices, List.append_nil, s.opened_migrated]
    cases s.hasMode <;> rfl
  · rw [hids]
    refine List.pairwise_append.2 ⟨hs.increasing, grow, fun m hm n hn => ?_⟩
    exact Nat.lt_of_le_of_lt (hs.le_lastId m hm) (above n hn)

/-- Two rows from before there were modes; the rows 2 and 4 were cleared. -/
def twoEarly : Stored :=
  .early [⟨1, "ann".toList, "1+1".toList, "2".toList, "noon".toList⟩,
    ⟨3, "bob".toList, "2+2".toList, "4".toList, "noon".toList⟩] 4

/-- ann adds a row, is refused one without a name, and clears hers; bob goes on after a new
start. -/
def laterCommands : List Command := [
  .add (.string "ann") (.string "3+3") (.string "6") "noon".toList (.string "Scientific"),
  .reopen,
  .add .null (.string "4+4") (.string "8") "noon".toList (.string "Standard"),
  .clear (.string "ann"),
  .reopen,
  .add (.string "bob") (.string "5+5") (.string "10") "noon".toList (.string "Standard")]

/-- The numbers 1 and 3 are found and 5 and 6 given, although 3 alone is still there at the end. -/
theorem laterCommands_safe :
    twoEarly.Numbered ∧
    twoEarly.ids ++ (life twoEarly laterCommands).flatMap Effect.ids = [1, 3, 5, 6] ∧
    ((twoEarly.opened.1.after laterCommands).rows.map fun r => (r.id, r.mode.map String.ofList)) =
      [(3, some "Standard"), (6, some "Standard")] ∧
    (life twoEarly laterCommands).flatMap Effect.notices = [migrationNotice] ∧
    ∀ n ∈ (life twoEarly laterCommands).flatMap Effect.ids, twoEarly.lastId < n := by
  have hn : twoEarly.Numbered := ⟨by decide, by decide⟩
  obtain ⟨_, _, notices, _, above⟩ := opening_safe hn laterCommands
  exact ⟨hn, by decide +kernel, by decide +kernel, notices, above⟩

end History

end Reckon
