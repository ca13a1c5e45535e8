import Reckon.History.Basic

/-
The numbers of rows. They grow along the table and none is above the last one given
(`Numbered`); a new history is numbered, and adding and clearing keep it so. Rows are only
ever put at the end, so what was added by a number of entries is a list of new rows behind
the old ones (`addAll_rows`).
-/
namespace Reckon.History

/-- Row numbers grow along the table, and none is above the last number given. -/
structure Numbered (h : History) : Prop where
  increasing : h.rows.Pairwise fun a b => a.id < b.id
  le_lastId : ∀ r ∈ h.rows, r.id ≤ h.lastId

theorem numbered_new : Numbered {} := ⟨.nil, by simp⟩

theorem Numbered.add {h : History} (hn : h.Numbered) (user expression result time : List Char)
    (mode : Option (List Char)) : (h.add user expression result time mode).1.Numbered := by
  refine ⟨?_, fun r hr => ?_⟩
  · refine List.pairwise_append.2 ⟨hn.increasing, List.pairwise_singleton _ _, fun a ha b hb => ?_⟩
    obtain rfl := List.mem_singleton.1 hb
    exact Nat.lt_succ_of_le (hn.le_lastId a ha)
  · obtain hr | hr := List.mem_append.1 hr
    · exact Nat.le_succ_of_le (hn.le_lastId r hr)
    · obtain rfl := List.mem_singleton.1 hr
      exact Nat.le_refl _

theorem Numbered.clear {h : History} (hn : h.Numbered) (user : List Char) :
    (h.clear user).1.Numbered :=
  ⟨hn.increasing.filter _, fun r hr => hn.le_lastId r (List.mem_filter.1 hr).1⟩

theorem Numbered.rowsOf {h : History} (hn : h.Numbered) (user : List Char) :
    (h.rowsOf user).Pairwise fun a b => a.id < b.id :=
  hn.increasing.filter _

/-- A row under the next number is none of those that are there. -/
theorem Numbered.not_mem {h : History} (hn : h.Numbered) {r : Row} (hr : h.lastId < r.id) :
    r ∉ h.rows :=
  fun hm => absurd (hn.le_lastId r hm) (Nat.not_le.2 hr)

/-! ## Many entries -/

/-- A calculation as it is added: all of a row but its number. -/
structure Entry where
  user : List Char
  expression : List Char
  result : List Char
  time : List Char
  mode : Option (List Char)

def addAll (h : History) (entries : List Entry) : History :=
  entries.foldl (fun h e => (h.add e.user e.expression e.result e.time e.mode).1) h

theorem addAll_cons (h : History) (e : Entry) (es : List Entry) :
    h.addAll (e :: es) = (h.add e.user e.expression e.result e.time e.mode).1.addAll es := rfl

theorem addAll_append (h : History) (as bs : List Entry) :
    h.addAll (as ++ bs) = (h.addAll as).addAll bs := List.foldl_append

theorem Numbered.addAll {h : History} (hn : h.Numbered) (entries : List Entry) :
    (h.addAll entries).Numbered := by
  induction entries generalizing h with
  | nil => exact hn
  | cons e es ih => exact ih (hn.add _ _ _ _ _)

theorem addAll_rows (h : History) (entries : List Entry) :
    ∃ new, (h.addAll entries).rows = h.rows ++ new := by
  induction entries generalizing h with
  | nil => exact ⟨[], by simp [addAll]⟩
  | cons e es ih =>
    obtain ⟨new, hnew⟩ := ih (h.add e.user e.expression e.result e.time e.mode).1
    exact ⟨_, by rw [addAll_cons, hnew, add, List.append_assoc]⟩

theorem addAll_rowsOf (h : History) (entries : List Entry) (user : List Char) :
    ∃ new, (h.addAll entries).rowsOf user = h.rowsOf user ++ new := by
  obtain ⟨new, hnew⟩ := h.addAll_rows entries
  exact ⟨_, by rw [rowsOf, hnew, List.filter_append]; rfl⟩

theorem lastId_le_addAll (h : History) (entries : List Entry) :
    h.lastId ≤ (h.addAll entries).lastId := by
  induction entries generalizing h with
  | nil => exact Nat.le_refl _
  | cons e es ih =>
    exact Nat.le_trans (Nat.le_succ _) (ih (h.add e.user e.expression e.result e.time e.mode).1)

end Reckon.History
