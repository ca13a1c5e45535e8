import Reckon.Mode.Basic

/-
The history of calculations: one table of rows, each of them a user's. Row numbers
grow and are never given twice, also not after rows were removed.
-/
namespace Reckon

/-- A calculation in the history. -/
structure Row where
  id : Nat
  user : List Char
  expression : List Char
  result : List Char
  time : List Char
  mode : Option (List Char)
  deriving DecidableEq

/-- The rows, in the order of their numbers, and the last number given. -/
structure History where
  rows : List Row := []
  lastId : Nat := 0
  deriving DecidableEq

namespace History

def rowsOf (h : History) (user : List Char) : List Row := h.rows.filter fun r => r.user = user

/-- A row is put at the end, under the next number. -/
def add (h : History) (user expression result time : List Char) (mode : Option (List Char)) :
    History × Nat :=
  let id := h.lastId + 1
  (⟨h.rows ++ [⟨id, user, expression, result, time, mode⟩], id⟩, id)

/-- At most `limit` rows from the front; a negative limit does not cut. -/
def cut (limit : Int) (rows : List Row) : List Row :=
  if limit < 0 then rows else rows.take limit.toNat

/-- The latest rows of a user, the newest first. -/
def latest (h : History) (user : List Char) (limit : Int) : List Row :=
  cut limit (h.rowsOf user).reverse

/-- The rows of a user that follow a number: the earliest of them, the newest first. -/
def following (h : History) (user : List Char) (after limit : Int) : List Row :=
  (cut limit ((h.rowsOf user).filter fun r => after < r.id)).reverse

/-- A page of a user's rows, the newest first: the latest ones, or those that follow a
number. -/
def page (h : History) (user : List Char) (limit : Int) : Option Int → List Row
  | none => h.latest user limit
  | some after => h.following user after limit

/-- A user's rows are removed; the number tells how many. -/
def clear (h : History) (user : List Char) : History × Nat :=
  ({ h with rows := h.rows.filter fun r => r.user ≠ user }, (h.rowsOf user).length)

/-! ## How many rows are asked for -/

/-- Rows of a page where no number is given. -/
def pageSize : Int := 50

/-- Rows that are read where no number is given. -/
def greatestSize : Int := 100

end History

/-! ## Opening -/

/-- A row written before rows had a mode. -/
structure EarlyRow where
  id : Nat
  user : List Char
  expression : List Char
  result : List Char
  time : List Char
  deriving DecidableEq

/-- What is found when the history is opened: nothing, rows without a mode, or a
history. -/
inductive Stored where
  | nothing
  | early (rows : List EarlyRow) (lastId : Nat)
  | current (h : History)

namespace Stored

/-- A row with the mode in which all calculations were made before there were two. -/
def migrate (r : EarlyRow) : Row :=
  ⟨r.id, r.user, r.expression, r.result, r.time, some Mode.standard.name.toList⟩

/-- What is told when the mode is added to the rows. -/
def migrationNotice : String := "Database migrated: Added mode column to calculations"

/-- A table is made if there is none. It is made as it was before rows had a mode. -/
def create : Stored → Stored
  | .nothing => .early [] 0
  | s => s

/-- There is a table, and its rows have a mode. -/
def hasMode : Stored → Bool
  | .current _ => true
  | _ => false

/-- The mode is added to the rows that are there. -/
def addMode : Stored → Stored
  | .early rows lastId => .current ⟨rows.map migrate, lastId⟩
  | s => s

/-- The history that can be read and written: that of a table whose rows have a mode. -/
def history : Stored → History
  | .current h => h
  | _ => {}

/-- The history that is opened, and whether the mode had to be added to it. -/
def opened (s : Stored) : History × Bool :=
  let s := s.create
  if s.hasMode then (s.history, false) else (s.addMode.history, true)

end Stored

end Reckon
