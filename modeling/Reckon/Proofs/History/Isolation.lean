import Mathlib.Order.Monotone.Basic
import Reckon.Proofs.History.Paging
import Reckon.Proofs.Outcome

/-
What one user sees of a history that many users share. All rows stand in one table and take
their numbers from one sequence, so the numbers that a user is given depend on what the others
add; nothing else does. Take any calls of any users, and of them only those of one user, with
the row numbers in them renamed: the user gets the same replies, with their numbers renamed in
the same way, and the renaming keeps the order (`isolated`).

The renaming counts: a number becomes the number of rows that the user has added up to it
(`renumber`). What makes it work is that it goes up at every number of the user's own and
nowhere else, so that it tells a row of the user from all numbers below it (`Marks`). The two
runs are then compared call by call, the user's rows in one being the renamed rows of the
other (`Matched`).
-/
namespace Reckon.History

/-! ## Calls -/

/-- What can be asked of a history. -/
inductive Act where
  | add (expression result time mode : List Char)
  | list (limit : Int)
  | stream (after : Option Int) (limit : Int)
  | clear
  | reopen

/-- An act, and the user in whose name it is done. -/
structure Call where
  user : List Char
  act : Act

/-- What is replied. -/
inductive Reply where
  | number (id : Nat)
  | rows (rs : List Row)
  | count (n : Nat)
  | opened (migrated : Bool)

/-- The user that a row is added for by a call, if one is. -/
def Call.adds? (c : Call) : Option (List Char) :=
  match c.act with
  | .add .. => some c.user
  | _ => none

/-- A page of a user's rows: the latest, or those behind a number. -/
def pageOf (h : History) (user : List Char) (limit : Int) (after : Option Int) :
    Except Refusal (List Row) :=
  h.pageValues (.text user) (.int limit) (Json.ofOption (after.map .int))

def perform (h : History) (c : Call) : History × Except Refusal Reply :=
  match c.act with
  | .add expression result time mode =>
    match h.addValues (.text c.user) (.text expression) (.text result) time (.text mode) with
    | .ok (h, id) => (h, .ok (.number id))
    | .error e => (h, .error e)
  | .list limit => (h, (h.pageOf c.user limit none).map .rows)
  | .stream after limit => (h, (h.pageOf c.user limit after).map .rows)
  | .clear =>
    match h.clearValues (.text c.user) with
    | .ok (h, n) => (h, .ok (.count n))
    | .error e => (h, .error e)
  | .reopen =>
    let (h, migrated) := (Stored.current h).opened
    (h, .ok (.opened migrated))

/-- The replies to the calls of a user, in a run of calls of all users. -/
def repliesTo (user : List Char) : History → List Call → List (Except Refusal Reply)
  | _, [] => []
  | h, c :: cs =>
    if c.user = user then (h.perform c).2 :: repliesTo user (h.perform c).1 cs
    else repliesTo user (h.perform c).1 cs

/-! ## What a call does -/

theorem perform_add (h : History) (user expression result time mode : List Char) :
    h.perform ⟨user, .add expression result time mode⟩ =
      ((h.add user expression result time (some mode)).1, .ok (.number (h.lastId + 1))) := by
  simp [perform, addValues, checkStorable, required, cellText, Json.text, add]

theorem perform_clear (h : History) (user : List Char) :
    h.perform ⟨user, .clear⟩ = ((h.clear user).1, .ok (.count (h.rowsOf user).length)) := by
  simp [perform, clearValues, checkStorable, cellText, Json.text, clear]

/-- A page is refused when one of its numbers cannot be stored. -/
theorem pageOf_eq (h : History) (user : List Char) (limit : Int) (after : Option Int) :
    h.pageOf user limit after =
      if after.all fits && fits limit then .ok (h.page user limit after) else .error .tooBig := by
  cases after with
  | some a => exact h.stream_eq user limit a
  | none =>
    have hu : cellText (.text user) = some user := by simp [Json.text, cellText]
    simp only [pageOf, Option.map_none, Json.ofOption, pageValues, checkStorable, limitOf,
      Json.text, boundOf] at hu ⊢
    cases fits limit <;> simp [hu]

theorem perform_lastId (h : History) (c : Call) :
    (h.perform c).1.lastId = h.lastId + if c.adds?.isSome then 1 else 0 := by
  obtain ⟨user, act⟩ := c
  cases act with
  | add expression result time mode =>
    rw [perform_add]
    rfl
  | clear =>
    rw [perform_clear]
    rfl
  | _ => rfl

theorem mem_of_mem_cut {limit : Int} {rs : List Row} {r : Row} (hr : r ∈ cut limit rs) :
    r ∈ rs := by
  unfold cut at hr
  split at hr
  · exact hr
  · exact List.mem_of_mem_take hr

theorem mem_rowsOf_of_mem_page {h : History} {user : List Char} {limit : Int} {after : Option Int}
    {r : Row} (hr : r ∈ h.page user limit after) : r ∈ h.rowsOf user := by
  cases after with
  | none => exact List.mem_reverse.1 (mem_of_mem_cut hr)
  | some a => exact (List.mem_filter.1 (mem_of_mem_cut (List.mem_reverse.1 hr))).1

theorem add_rowsOf_self (h : History) (user expression result time : List Char)
    (mode : Option (List Char)) :
    (h.add user expression result time mode).1.rowsOf user =
      h.rowsOf user ++ [⟨h.lastId + 1, user, expression, result, time, mode⟩] := by
  simp [add, rowsOf, List.filter_append]

theorem add_rowsOf_other {user other : List Char} (hne : other ≠ user) (h : History)
    (expression result time : List Char) (mode : Option (List Char)) :
    (h.add other expression result time mode).1.rowsOf user = h.rowsOf user := by
  simp [add, rowsOf, List.filter_append, hne]

theorem clear_rowsOf_self (h : History) (user : List Char) :
    (h.clear user).1.rowsOf user = [] := by
  simp [clear, rowsOf, List.filter_filter]

theorem clear_rowsOf_other {user other : List Char} (hne : other ≠ user) (h : History) :
    (h.clear other).1.rowsOf user = h.rowsOf user := by
  simp only [clear, rowsOf, List.filter_filter]
  refine List.filter_congr fun r _ => ?_
  by_cases hr : r.user = user
  · simp [hr, hne.symm]
  · simp [hr]

/-- What somebody else does leaves the rows of a user. -/
theorem perform_rowsOf_other {user : List Char} {c : Call} (hne : c.user ≠ user) (h : History) :
    (h.perform c).1.rowsOf user = h.rowsOf user := by
  obtain ⟨other, act⟩ := c
  cases act with
  | add expression result time mode =>
    rw [perform_add]
    exact add_rowsOf_other hne h expression result time (some mode)
  | clear =>
    rw [perform_clear]
    exact clear_rowsOf_other hne h
  | _ => rfl

/-! ## Renaming numbers -/

/-- A row under another number. -/
def renameRow (ρ : Nat → Nat) (r : Row) : Row := { r with id := ρ r.id }

/-- A reply with the row numbers in it renamed. -/
def Reply.rename (ρ : Nat → Nat) : Reply → Reply
  | .number id => .number (ρ id)
  | .rows rs => .rows (rs.map (renameRow ρ))
  | r => r

def Reply.numbers : Reply → List Nat
  | .number id => [id]
  | .rows rs => rs.map Row.id
  | _ => []

/-- A starting point renamed. What is no row number, being negative or too great to be stored,
is left as it is. -/
def renameAfter (ρ : Nat → Nat) (a : Int) : Int := if 0 ≤ a ∧ fits a then ρ a.toNat else a

/-- A call with the row number in it renamed. -/
def Call.rename (ρ : Nat → Nat) (c : Call) : Call :=
  match c.act with
  | .stream after limit => { c with act := .stream (after.map (renameAfter ρ)) limit }
  | _ => c

@[simp] theorem Call.rename_user (ρ : Nat → Nat) (c : Call) : (c.rename ρ).user = c.user := by
  unfold rename
  split <;> rfl

/-- A renaming that keeps the order of numbers, although it may take two to the same, and never
makes a number greater. -/
structure Gentle (ρ : Nat → Nat) : Prop where
  monotone : Monotone ρ
  le_self : ∀ n, ρ n ≤ n

/-- A number is told from all numbers below it. -/
def Marks (ρ : Nat → Nat) (n : Nat) : Prop := ∀ i < n, ρ i < ρ n

section Rename

variable {ρ : Nat → Nat}

theorem Marks.lt_iff (hρ : Monotone ρ) {n : Nat} (hn : Marks ρ n) (i : Nat) :
    ρ i < ρ n ↔ i < n := by
  refine ⟨fun h => ?_, hn i⟩
  by_contra hle
  exact absurd (hρ (Nat.le_of_not_lt hle)) (Nat.not_le.2 h)

theorem fits_renameAfter (hρ : Gentle ρ) (a : Int) : fits (renameAfter ρ a) = fits a := by
  unfold renameAfter
  split
  · next h =>
    have hle : ((ρ a.toNat : Nat) : Int) ≤ a.toNat := Int.ofNat_le.2 (hρ.le_self _)
    rw [h.2]
    exact fits_of_le (hρ.le_self a.toNat) (by rw [Int.toNat_of_nonneg h.1]; exact h.2)
  · rfl

/-- A number that is told from those below it is behind a starting point exactly if, renamed, it
is behind the renamed one. -/
theorem renameAfter_lt_iff (hρ : Monotone ρ) {n : Nat} (hn : Marks ρ n) {a : Int}
    (ha : fits a = true) : renameAfter ρ a < (ρ n : Nat) ↔ a < n := by
  unfold renameAfter
  by_cases h0 : 0 ≤ a
  · rw [if_pos ⟨h0, ha⟩, Int.ofNat_lt, hn.lt_iff hρ]
    omega
  · rw [if_neg fun h => h0 h.1]
    omega

theorem cut_map (limit : Int) (f : Row → Row) (rs : List Row) :
    cut limit (rs.map f) = (cut limit rs).map f := by
  unfold cut
  split
  · rfl
  · exact List.map_take.symm

end Rename

/-! ## The two runs side by side -/

/-- A history of all users, and one that has seen the calls of one user only: the rows of the
user are the same but for their numbers, the last number given is the renamed one, and the
renaming tells the user's numbers from all below them. -/
structure Matched (ρ : Nat → Nat) (user : List Char) (h h' : History) : Prop where
  rows : h'.rowsOf user = (h.rowsOf user).map (renameRow ρ)
  last : h'.lastId = ρ h.lastId
  marks : ∀ r ∈ h.rowsOf user, Marks ρ r.id

/-- The renaming goes up by one with the number that a call of the user gives, and stays with
the number that a call of somebody else gives. -/
def Steps (ρ : Nat → Nat) (user : List Char) (h : History) (c : Call) : Prop :=
  ∀ u, c.adds? = some u → ρ (h.lastId + 1) = ρ h.lastId + if u = user then 1 else 0

/-- The same along a run. -/
def StepsAlong (ρ : Nat → Nat) (user : List Char) : History → List Call → Prop
  | _, [] => True
  | h, c :: cs => Steps ρ user h c ∧ StepsAlong ρ user (h.perform c).1 cs

section Run

variable {ρ : Nat → Nat} {user : List Char} {h h' : History}

theorem Matched.page (hm : Matched ρ user h h') (hρ : Monotone ρ) (limit : Int)
    {after : Option Int} (ha : after.all fits = true) :
    h'.page user limit (after.map (renameAfter ρ)) =
      (h.page user limit after).map (renameRow ρ) := by
  cases after with
  | none =>
    simp only [History.page, Option.map_none, latest, hm.rows, ← List.map_reverse, cut_map]
  | some a =>
    have hfilter : (h'.rowsOf user).filter (fun r => renameAfter ρ a < r.id) =
        ((h.rowsOf user).filter fun r => a < r.id).map (renameRow ρ) := by
      rw [hm.rows, List.filter_map]
      congr 1
      refine List.filter_congr fun r hr => ?_
      simp only [Function.comp_apply, renameRow, renameAfter_lt_iff hρ (hm.marks r hr) ha]
    simp only [History.page, Option.map_some, following, hfilter, cut_map, List.map_reverse]

theorem Matched.pageOf (hm : Matched ρ user h h') (hρ : Gentle ρ) (limit : Int)
    (after : Option Int) :
    (h'.pageOf user limit (after.map (renameAfter ρ))).map .rows =
      ((h.pageOf user limit after).map .rows).map (Reply.rename ρ) := by
  have hfits : (after.map (renameAfter ρ)).all fits = after.all fits := by
    cases after with
    | none => rfl
    | some a => exact fits_renameAfter hρ a
  rw [pageOf_eq, pageOf_eq, hfits]
  by_cases hf : after.all fits = true ∧ fits limit = true
  · simp only [hf.1, hf.2, hm.page hρ.monotone limit hf.1, Bool.and_self, if_true, Except.map,
      Reply.rename]
  · rw [if_neg (by simpa using hf), if_neg (by simpa using hf)]
    rfl

/-- The number that the user is given is told from all below it. -/
theorem marks_next (hρ : Monotone ρ) (hstep : ρ (h.lastId + 1) = ρ h.lastId + 1) :
    Marks ρ (h.lastId + 1) := by
  intro i hi
  have hle : ρ i ≤ ρ h.lastId := hρ (Nat.lt_succ_iff.1 hi)
  omega

theorem Matched.shown (hm : Matched ρ user h h') {limit : Int} {after : Option Int}
    {reply : Reply} (hr : (h.pageOf user limit after).map .rows = .ok reply) :
    ∀ n ∈ reply.numbers, Marks ρ n := by
  rw [pageOf_eq] at hr
  split at hr
  · cases hr
    intro n hn
    obtain ⟨r, hr, rfl⟩ := List.mem_map.1 hn
    exact hm.marks r (mem_rowsOf_of_mem_page hr)
  · cases hr

theorem Matched.add (hm : Matched ρ user h h') (hρ : Monotone ρ)
    (hnext : ρ (h.lastId + 1) = ρ h.lastId + 1) (expression result time : List Char)
    (mode : Option (List Char)) :
    Matched ρ user (h.add user expression result time mode).1
      (h'.add user expression result time mode).1 := by
  have hid : h'.lastId + 1 = ρ (h.lastId + 1) := by rw [hm.last, hnext]
  refine ⟨?_, hid, ?_⟩
  · rw [add_rowsOf_self, add_rowsOf_self, List.map_append, hm.rows, hid]
    rfl
  · intro r hr
    rw [add_rowsOf_self] at hr
    obtain hr | hr := List.mem_append.1 hr
    · exact hm.marks r hr
    · obtain rfl := List.mem_singleton.1 hr
      exact marks_next hρ hnext

/-- A call of the user keeps the two histories alike, and the replies are the same but for the
numbers in them, all of which are the user's own. -/
theorem Matched.own (hm : Matched ρ user h h') (hρ : Gentle ρ) {c : Call} (hc : c.user = user)
    (hs : Steps ρ user h c) :
    Matched ρ user (h.perform c).1 (h'.perform (c.rename ρ)).1 ∧
    (h'.perform (c.rename ρ)).2 = (h.perform c).2.map (Reply.rename ρ) ∧
    ∀ reply, (h.perform c).2 = .ok reply → ∀ n ∈ reply.numbers, Marks ρ n := by
  obtain ⟨u, act⟩ := c
  obtain rfl : u = user := hc
  cases act with
  | add expression result time mode =>
    have hnext : ρ (h.lastId + 1) = ρ h.lastId + 1 := by simpa using hs u rfl
    simp only [Call.rename, perform_add]
    refine ⟨hm.add hρ.monotone hnext expression result time (some mode), ?_, ?_⟩
    · rw [hm.last, ← hnext]
      rfl
    · intro reply hreply n hn
      cases hreply
      obtain rfl := List.mem_singleton.1 hn
      exact marks_next hρ.monotone hnext
  | list limit => exact ⟨hm, hm.pageOf hρ limit none, fun _ => hm.shown⟩
  | stream after limit => exact ⟨hm, hm.pageOf hρ limit after, fun _ => hm.shown⟩
  | clear =>
    simp only [Call.rename, perform_clear]
    refine ⟨⟨?_, hm.last, ?_⟩, ?_, ?_⟩
    · rw [clear_rowsOf_self, clear_rowsOf_self]
      rfl
    · rw [clear_rowsOf_self]
      simp
    · rw [hm.rows, List.length_map]
      rfl
    · intro reply hreply n hn
      cases hreply
      simp [Reply.numbers] at hn
  | reopen =>
    refine ⟨hm, rfl, ?_⟩
    intro reply hreply n hn
    cases hreply
    simp [Reply.numbers] at hn

/-- A call of somebody else keeps the two histories alike, although only one of them sees it. -/
theorem Matched.other (hm : Matched ρ user h h') {c : Call} (hc : c.user ≠ user)
    (hs : Steps ρ user h c) : Matched ρ user (h.perform c).1 h' := by
  have hlast : ρ (h.perform c).1.lastId = ρ h.lastId := by
    rw [perform_lastId]
    cases ha : c.adds? with
    | none => rfl
    | some u =>
      have hu : u ≠ user := by
        rintro rfl
        unfold Call.adds? at ha
        split at ha
        · exact hc (Option.some.inj ha)
        · cases ha
      simpa [hu] using hs u ha
  have hrows := perform_rowsOf_other hc h
  exact ⟨by rw [hrows, hm.rows], by rw [hlast, hm.last], by rw [hrows]; exact hm.marks⟩

/-- The replies that the user gets in the two runs, and the numbers in them. -/
theorem Matched.run (hρ : Gentle ρ) (calls : List Call) (hm : Matched ρ user h h')
    (hs : StepsAlong ρ user h calls) :
    h'.repliesTo user ((calls.filter fun c => c.user = user).map (Call.rename ρ)) =
      (h.repliesTo user calls).map (Except.map (Reply.rename ρ)) ∧
    ∀ reply, .ok reply ∈ h.repliesTo user calls → ∀ n ∈ reply.numbers, Marks ρ n := by
  induction calls generalizing h h' with
  | nil => exact ⟨rfl, fun reply hr => by simp [repliesTo] at hr⟩
  | cons c cs ih =>
    by_cases hc : c.user = user
    · obtain ⟨hnext, hreply, hmarks⟩ := hm.own hρ hc hs.1
      obtain ⟨hrest, hrestMarks⟩ := ih hnext hs.2
      simp only [List.filter_cons, hc, decide_true, if_true, List.map_cons, repliesTo,
        Call.rename_user]
      refine ⟨by rw [hreply, hrest], ?_⟩
      intro reply hr
      obtain hr | hr := List.mem_cons.1 hr
      · exact hmarks reply hr.symm
      · exact hrestMarks reply hr
    · simpa only [List.filter_cons, hc, decide_false, Bool.false_eq_true, if_false, repliesTo]
        using ih (hm.other hc hs.1) hs.2

end Run

/-! ## The renaming that counts -/

/-- The users that rows are added for by calls, in their order. -/
def adders (calls : List Call) : List (List Char) := calls.filterMap Call.adds?

/-- A number counted over: up to `base` it stays, and behind it only the rows of the user count,
`owners` being the users of the rows behind `base`. -/
def renumber (user : List Char) (base : Nat) (owners : List (List Char)) (n : Nat) : Nat :=
  min n base + (owners.take (n - base)).count user

section Renumber

variable {user : List Char} {base : Nat} {owners : List (List Char)}

theorem renumber_of_le {n : Nat} (hn : n ≤ base) : renumber user base owners n = n := by
  simp [renumber, Nat.min_eq_left hn, Nat.sub_eq_zero_of_le hn]

theorem renumber_behind (user : List Char) (base : Nat) (done rest : List (List Char)) :
    renumber user base (done ++ rest) (base + done.length) = base + done.count user := by
  simp [renumber]

theorem gentle_renumber (user : List Char) (base : Nat) (owners : List (List Char)) :
    Gentle (renumber user base owners) := by
  refine ⟨fun m n hmn => ?_, fun n => ?_⟩
  · have hmin : min m base ≤ min n base := by omega
    have htake : (owners.take (m - base)).Sublist (owners.take (n - base)) :=
      (List.take_prefix_take_left (by omega)).sublist
    exact Nat.add_le_add hmin (htake.count_le user)
  · have hcount : (owners.take (n - base)).count user ≤ n - base :=
      Nat.le_trans List.count_le_length (List.length_take_le _ _)
    simp only [renumber]
    omega

/-- With the calls of a run counted over, the renaming goes along with the run. -/
theorem stepsAlong_renumber (done : List (List Char)) (calls : List Call) {h : History}
    (hlast : h.lastId = base + done.length) :
    StepsAlong (renumber user base (done ++ adders calls)) user h calls := by
  induction calls generalizing done h with
  | nil => trivial
  | cons c cs ih =>
    cases ha : c.adds? with
    | none =>
      have howners : adders (c :: cs) = adders cs := List.filterMap_cons_none ha
      rw [howners]
      refine ⟨?_, ih done ?_⟩
      · intro u hu
        rw [ha] at hu
        cases hu
      · rw [perform_lastId, ha]
        exact hlast
    | some u =>
      have howners : done ++ adders (c :: cs) = (done ++ [u]) ++ adders cs := by
        rw [adders, List.filterMap_cons_some ha, List.append_assoc]
        rfl
      refine ⟨fun v hv => ?_, ?_⟩
      · obtain rfl : u = v := Option.some.inj (ha.symm.trans hv)
        have hnext := renumber_behind user base (done ++ [u]) (adders cs)
        rw [← howners, List.length_append, List.length_singleton, ← Nat.add_assoc] at hnext
        rw [hlast, hnext, renumber_behind, List.count_append, List.count_singleton, Nat.add_assoc]
        simp
      · rw [howners]
        refine ih (done ++ [u]) ?_
        rw [perform_lastId, ha, hlast, List.length_append, List.length_singleton, Nat.add_assoc]
        rfl

theorem Numbered.matched_renumber {h : History} (hn : h.Numbered) (user : List Char)
    (owners : List (List Char)) : Matched (renumber user h.lastId owners) user h h := by
  have hle : ∀ r ∈ h.rowsOf user, r.id ≤ h.lastId := fun r hr =>
    hn.le_lastId r (List.mem_filter.1 hr).1
  refine ⟨?_, (renumber_of_le (Nat.le_refl _)).symm, ?_⟩
  · symm
    refine (List.map_congr_left fun r hr => ?_).trans (List.map_id _)
    rw [renameRow, renumber_of_le (hle r hr)]
    rfl
  · intro r hr i hi
    rw [renumber_of_le (hle r hr), renumber_of_le (Nat.le_trans (Nat.le_of_lt hi) (hle r hr))]
    exact hi

end Renumber

/-! ## Isolation -/

/-- What the others do does not matter to a user: the replies that the user gets are those of a
run with the user's own calls only, the row numbers in the calls and in the replies being renamed
alike, and in their order. -/
theorem isolated {h : History} (hn : h.Numbered) (user : List Char) (calls : List Call) :
    ∃ ρ : Nat → Nat, Monotone ρ ∧
      StrictMonoOn ρ {n | ∃ reply, .ok reply ∈ h.repliesTo user calls ∧ n ∈ reply.numbers} ∧
      h.repliesTo user ((calls.filter fun c => c.user = user).map (Call.rename ρ)) =
        (h.repliesTo user calls).map (Except.map (Reply.rename ρ)) := by
  -- The renaming is fixed by the whole run before the run is walked through.
  have hρ := gentle_renumber user h.lastId (adders calls)
  obtain ⟨replies, marks⟩ := (hn.matched_renumber user (adders calls)).run hρ calls
    (stepsAlong_renumber [] calls (by simp))
  refine ⟨_, hρ.monotone, ?_, replies⟩
  rintro m _ n ⟨reply, hreply, hnumber⟩ hmn
  exact marks reply hreply n hnumber m hmn

/-- Calls of two users on a table of three rows: ann adds a row and reads on behind 3, the last
number that she was given, while bob adds two rows and clears his. -/
def mixedCalls : List Call := [
  ⟨"bob".toList, .add "4+4".toList "8".toList "noon".toList "Standard".toList⟩,
  ⟨"bob".toList, .add "5+5".toList "10".toList "noon".toList "Standard".toList⟩,
  ⟨"ann".toList, .add "6+6".toList "12".toList "noon".toList "Standard".toList⟩,
  ⟨"bob".toList, .clear⟩,
  ⟨"ann".toList, .stream (some 3) 10⟩,
  ⟨"ann".toList, .reopen⟩,
  ⟨"ann".toList, .list 2⟩,
  ⟨"bob".toList, .list 2⟩,
  ⟨"ann".toList, .clear⟩]

/-- Her new row has the number 6 among all calls and would have the number 4 among her own. -/
theorem mixedCalls_isolated :
    threeSums.Numbered ∧
    (threeSums.repliesTo "ann".toList mixedCalls).map (fun r => r.toOption.map Reply.numbers) =
      [some [6], some [6], some [], some [6, 3], some []] ∧
    ∃ ρ : Nat → Nat, Monotone ρ ∧
      StrictMonoOn ρ
        {n | ∃ reply, .ok reply ∈ threeSums.repliesTo "ann".toList mixedCalls ∧
          n ∈ reply.numbers} ∧
      threeSums.repliesTo "ann".toList
          ((mixedCalls.filter fun c => c.user = "ann".toList).map (Call.rename ρ)) =
        (threeSums.repliesTo "ann".toList mixedCalls).map (Except.map (Reply.rename ρ)) := by
  have hn : threeSums.Numbered := numbered_new.addAll _
  exact ⟨hn, by decide +kernel, isolated hn "ann".toList mixedCalls⟩

end Reckon.History
