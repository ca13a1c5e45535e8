import Reckon.History.Cell
import Reckon.Proofs.History.Numbering

/-
Reading a history forward, page after page. A reader asks for the rows behind the highest
number it has seen, at most so many of them, until a page is empty; meanwhile rows are
added, for the reader's user and for others. What keeps pages from losing or repeating rows
is `behind_addAll`: whatever is added later, a page is the front of the rows that are wanted,
and those behind its highest number are exactly the rest. The pages, each turned around, are
then the rows of the user behind the starting point, in order (`Reading.pages_eq`).
-/
namespace Reckon.History

/-- The page that is read: at most `limit` rows of a user behind the number `after`. -/
def stream (h : History) (user : List Char) (limit after : Int) : Except Refusal (List Row) :=
  h.pageValues (.text user) (.int limit) (.int after)

/-- The highest number seen, after a page. -/
def highest (seen : Int) (page : List Row) : Int := page.foldl (fun m r => max m r.id) seen

/-- A reader at work: the history and the highest number seen when it starts, the batches of
entries that are added after each page, the pages it gets, and the history at the end. It
stops at an empty page. -/
inductive Reading (user : List Char) (limit : Int) :
    History → Int → List (List Entry) → List (List Row) → History → Prop
  | done {h : History} {seen : Int} {batches : List (List Entry)} :
      h.stream user limit seen = .ok [] → Reading user limit h seen batches [] h
  | next {h h' : History} {seen : Int} {batches : List (List Entry)} {page : List Row}
      {pages : List (List Row)} :
      h.stream user limit seen = .ok page → page ≠ [] →
      Reading user limit (h.addAll (batches.headD [])) (highest seen page) batches.tail pages h' →
      Reading user limit h seen batches (page :: pages) h'

/-- The rows of a user behind a number. -/
def behind (h : History) (user : List Char) (seen : Int) : List Row :=
  (h.rowsOf user).filter fun r => seen < r.id

theorem mem_behind {h : History} {user : List Char} {seen : Int} {r : Row} :
    r ∈ h.behind user seen ↔ (r ∈ h.rows ∧ r.user = user) ∧ seen < r.id := by
  simp only [behind, rowsOf, List.mem_filter, decide_eq_true_eq]

theorem Numbered.behind {h : History} (hn : h.Numbered) (user : List Char) (seen : Int) :
    (h.behind user seen).Pairwise fun a b => a.id < b.id :=
  (hn.rowsOf user).filter _

/-! ## The highest number -/

theorem le_highest (seen : Int) (page : List Row) : seen ≤ highest seen page := by
  induction page generalizing seen with
  | nil => exact Int.le_refl _
  | cons r page ih => exact Int.le_trans (Int.le_max_left _ _) (ih _)

theorem id_le_highest (seen : Int) {page : List Row} {r : Row} (hr : r ∈ page) :
    (r.id : Int) ≤ highest seen page := by
  induction page generalizing seen with
  | nil => simp at hr
  | cons x page ih =>
    obtain rfl | hr := List.mem_cons.1 hr
    · exact Int.le_trans (Int.le_max_right _ _) (le_highest _ page)
    · exact ih _ hr

theorem highest_mem (seen : Int) (page : List Row) :
    highest seen page = seen ∨ ∃ r ∈ page, highest seen page = r.id := by
  induction page generalizing seen with
  | nil => exact .inl rfl
  | cons x page ih =>
    obtain h | ⟨r, hr, h⟩ := ih (max seen x.id)
    · obtain hm | hm : max seen (x.id : Int) = seen ∨ max seen (x.id : Int) = x.id := by omega
      · exact .inl (h.trans hm)
      · exact .inr ⟨x, by simp, h.trans hm⟩
    · exact .inr ⟨r, by simp [hr], h⟩

/-- Where a page is the front of the rows behind a number, those behind its highest number
are the rest. -/
theorem Numbered.behind_highest {h : History} (hn : h.Numbered) {user : List Char} {seen : Int}
    {page rest : List Row} (hb : h.behind user seen = page.reverse ++ rest) :
    h.behind user (highest seen page) = rest := by
  have hseen : ∀ x ∈ rest, seen < x.id := fun x hx =>
    (mem_behind.1 (by rw [hb]; exact List.mem_append_right _ hx)).2
  have hordered : ∀ r ∈ page, ∀ x ∈ rest, r.id < x.id := by
    have hp := hn.behind user seen
    rw [hb] at hp
    intro r hr x hx
    exact (List.pairwise_append.1 hp).2.2 r (by simp [hr]) x hx
  calc h.behind user (highest seen page)
      = (h.behind user seen).filter fun r => highest seen page < r.id := by
        simp only [History.behind]
        rw [List.filter_filter]
        refine List.filter_congr fun r _ => ?_
        by_cases hr : highest seen page < r.id
        · simp [hr, Int.lt_of_le_of_lt (le_highest seen page) hr]
        · simp [hr]
    _ = page.reverse.filter (fun r => highest seen page < r.id) ++
          rest.filter (fun r => highest seen page < r.id) := by rw [hb, List.filter_append]
    _ = [] ++ rest := by
        congr 1
        · refine List.filter_eq_nil_iff.2 fun r hr => ?_
          simpa using id_le_highest seen (List.mem_reverse.1 hr)
        · refine List.filter_eq_self.2 fun x hx => ?_
          obtain he | ⟨r, hr, he⟩ := highest_mem seen page
          · simpa [he] using hseen x hx
          · simpa [he] using hordered r hr x hx
    _ = rest := rfl

/-! ## A page -/

/-- A page is refused when one of its numbers cannot be stored, and else is what follows. -/
theorem stream_eq (h : History) (user : List Char) (limit after : Int) :
    h.stream user limit after =
      if fits after && fits limit then .ok (h.following user after limit) else .error .tooBig := by
  have hu : cellText (.text user) = some user := by simp [Json.text, cellText]
  simp only [stream, pageValues, checkStorable, limitOf, Json.text, boundOf] at hu ⊢
  cases fits after <;> cases fits limit <;> simp [hu, page, bind, Except.bind, pure, Except.pure]

section Page

variable {h : History} {user : List Char} {limit after : Int} {page : List Row}

/-- A page is the front of the rows that are wanted, turned around. -/
theorem stream_ok (hl : 1 ≤ limit) (hp : h.stream user limit after = .ok page) :
    page = ((h.behind user after).take limit.toNat).reverse := by
  rw [stream_eq] at hp
  split at hp
  · cases hp
    have hneg : ¬ limit < 0 := by omega
    simp only [following, cut, if_neg hneg, behind]
  · cases hp

theorem behind_eq_append (hl : 1 ≤ limit) (hp : h.stream user limit after = .ok page) :
    ∃ rest, h.behind user after = page.reverse ++ rest := by
  rw [stream_ok hl hp, List.reverse_reverse]
  exact ⟨_, (List.take_append_drop _ _).symm⟩

/-- A page is empty only if nothing is wanted. -/
theorem behind_of_empty (hl : 1 ≤ limit) (hp : h.stream user limit after = .ok []) :
    h.behind user after = [] := by
  have htake := stream_ok hl hp
  have hpos : limit.toNat ≠ 0 := by omega
  simpa [hpos] using htake.symm

theorem page_length_le (hl : 1 ≤ limit) (hp : h.stream user limit after = .ok page) :
    (page.length : Int) ≤ limit := by
  have hle : page.length ≤ limit.toNat := by
    rw [stream_ok hl hp, List.length_reverse]
    exact List.length_take_le _ _
  omega

/-- The rows of a page come from the highest number down. -/
theorem Numbered.page_descending (hn : h.Numbered) (hl : 1 ≤ limit)
    (hp : h.stream user limit after = .ok page) : page.Pairwise fun a b => b.id < a.id := by
  obtain ⟨rest, hrest⟩ := behind_eq_append hl hp
  have hrows := hn.behind user after
  rw [hrest] at hrows
  exact List.pairwise_reverse.1 (List.pairwise_append.1 hrows).1

/-- Whatever is added later, a page is the front of the rows that are wanted, and the rest of
them are those behind its highest number. -/
theorem Numbered.behind_addAll (hn : h.Numbered) (hl : 1 ≤ limit)
    (hp : h.stream user limit after = .ok page) (entries : List Entry) :
    (h.addAll entries).behind user after =
      page.reverse ++ (h.addAll entries).behind user (highest after page) := by
  obtain ⟨rest, hrest⟩ := behind_eq_append hl hp
  obtain ⟨new, hnew⟩ := h.addAll_rowsOf entries user
  have hfront : (h.addAll entries).behind user after =
      page.reverse ++ (rest ++ new.filter fun r => after < r.id) := by
    rw [History.behind, hnew, List.filter_append, ← List.append_assoc, ← hrest]
    rfl
  rw [(hn.addAll entries).behind_highest hfront, hfront]

end Page

/-! ## A reading -/

namespace Reading

variable {user : List Char} {limit seen : Int} {h h' : History} {batches : List (List Entry)}
  {pages : List (List Row)}

/-- In the end the history has some entries more. -/
theorem grown (hr : Reading user limit h seen batches pages h') :
    ∃ entries, h' = h.addAll entries := by
  induction hr with
  | done _ => exact ⟨[], rfl⟩
  | next _ _ _ ih =>
    obtain ⟨entries, rfl⟩ := ih
    exact ⟨_ ++ entries, (addAll_append _ _ _).symm⟩

/-- The pages, each turned around, are the rows of the user behind the starting point. -/
theorem pages_eq (hr : Reading user limit h seen batches pages h') (hn : h.Numbered)
    (hl : 1 ≤ limit) : pages.flatMap List.reverse = h'.behind user seen := by
  induction hr with
  | done hp => rw [behind_of_empty hl hp]; rfl
  | next hp _ hr ih =>
    obtain ⟨entries, hgrown⟩ := hr.grown
    rw [List.flatMap_cons, ih (hn.addAll _), hgrown, ← addAll_append, ← hn.behind_addAll hl hp]

/-- A row that is read is one of the user's, behind the starting point. -/
theorem mem_pages (hr : Reading user limit h seen batches pages h') (hn : h.Numbered)
    (hl : 1 ≤ limit) {page : List Row} (hp : page ∈ pages) {r : Row} (hm : r ∈ page) :
    r ∈ h'.behind user seen := by
  rw [← hr.pages_eq hn hl]
  exact List.mem_flatMap.2 ⟨page, hp, List.mem_reverse.2 hm⟩

/-- A row is read once if it is one of the user's behind the starting point, and else not. -/
theorem count_pages (hr : Reading user limit h seen batches pages h') (hn : h.Numbered)
    (hl : 1 ≤ limit) (r : Row) :
    pages.flatten.count r = if (r ∈ h'.rows ∧ r.user = user) ∧ seen < r.id then 1 else 0 := by
  obtain ⟨entries, rfl⟩ := hr.grown
  have hnodup : ((h.addAll entries).behind user seen).Nodup :=
    ((hn.addAll entries).behind user seen).imp fun hlt heq => Nat.ne_of_lt hlt (congrArg Row.id heq)
  calc pages.flatten.count r
      = (pages.flatMap List.reverse).count r := by
        simp [List.count_flatten, List.count_flatMap, Function.comp_def]
    _ = ((h.addAll entries).behind user seen).count r := by rw [hr.pages_eq hn hl]
    _ = _ := by rw [hnodup.count]; simp only [mem_behind]

/-- Every page is in order and not too long. -/
theorem each_page (hr : Reading user limit h seen batches pages h') (hn : h.Numbered)
    (hl : 1 ≤ limit) :
    ∀ page ∈ pages, page.Pairwise (fun a b => b.id < a.id) ∧ (page.length : Int) ≤ limit := by
  induction hr with
  | done _ => simp
  | next hp _ _ ih =>
    intro q hq
    obtain rfl | hq := List.mem_cons.1 hq
    · exact ⟨hn.page_descending hl hp, page_length_le hl hp⟩
    · exact ih (hn.addAll _) q hq

/-- All numbers of a page are above those of the pages before it. -/
theorem pages_increasing (hr : Reading user limit h seen batches pages h') (hn : h.Numbered)
    (hl : 1 ≤ limit) : pages.Pairwise fun p q => ∀ a ∈ p, ∀ b ∈ q, a.id < b.id := by
  induction hr with
  | done _ => exact .nil
  | @next h h' seen batches page pages _ _ hr ih =>
    refine .cons (fun q hq a ha b hb => ?_) (ih (hn.addAll _))
    have hbelow := id_le_highest seen ha
    have habove := (mem_behind.1 (hr.mem_pages (hn.addAll _) hl hq hb)).2
    omega

end Reading

/-! ## Coming to an end -/

theorem fits_of_le {n m : Nat} (h : n ≤ m) (hm : fits m = true) : fits n = true := by
  simp only [fits, Bool.and_eq_true, decide_eq_true_eq] at hm ⊢
  have hpow : (0 : Int) ≤ Int.pow 2 63 := by decide
  omega

/-- The highest number seen can be stored if the start and the last number can. -/
theorem Numbered.fits_highest {h : History} (hn : h.Numbered) {user : List Char}
    {limit seen : Int} {page : List Row} (hl : 1 ≤ limit)
    (hp : h.stream user limit seen = .ok page) (hseen : fits seen = true)
    (hlast : fits h.lastId = true) : fits (highest seen page) = true := by
  obtain he | ⟨r, hr, he⟩ := highest_mem seen page
  · rw [he]
    exact hseen
  · rw [he]
    obtain ⟨rest, hrest⟩ := behind_eq_append hl hp
    have hr : r ∈ h.behind user seen := by simp [hrest, hr]
    exact fits_of_le (hn.le_lastId r (mem_behind.1 hr).1.1) hlast

/-- A reader whose numbers can be stored comes to an end. -/
theorem Numbered.exists_reading {user : List Char} {limit : Int} (hl : 1 ≤ limit)
    (hlimit : fits limit = true) {h : History} (hn : h.Numbered) (seen : Int)
    (batches : List (List Entry)) (hseen : fits seen = true)
    (hlast : fits (h.addAll batches.flatten).lastId = true) :
    ∃ pages h', Reading user limit h seen batches pages h' := by
  have hp : h.stream user limit seen = .ok (h.following user seen limit) := by
    rw [stream_eq, hseen, hlimit]
    rfl
  by_cases hempty : h.following user seen limit = []
  · exact ⟨[], h, .done (by rw [hp, hempty])⟩
  · have hsplit : h.addAll batches.flatten =
        (h.addAll (batches.headD [])).addAll batches.tail.flatten := by
      rw [← addAll_append]
      cases batches <;> rfl
    have hfewer := congrArg List.length (hn.behind_addAll hl hp batches.flatten)
    have hnonempty := List.length_pos_iff.2 hempty
    have hlast' := fits_of_le (h.lastId_le_addAll batches.flatten) hlast
    obtain ⟨pages, h', hr⟩ := Numbered.exists_reading hl hlimit (hn.addAll (batches.headD []))
      (highest seen (h.following user seen limit)) batches.tail
      (hn.fits_highest hl hp hseen hlast') (by rw [← hsplit]; exact hlast)
    exact ⟨_ :: pages, h', .next hp hempty hr⟩
-- with every page fewer rows are wanted of the history at the end
termination_by ((h.addAll batches.flatten).behind user seen).length
decreasing_by
  rw [← hsplit]
  simp only [List.length_append, List.length_reverse] at hfewer
  omega

/-! ## Paging -/

/-- A reader gets every row of its user behind the starting point once and no others, in pages
that are in order, not too long, and behind each other. It comes to an end if its limit, its
starting point and the numbers of the rows can be stored; a limit or a starting point that
cannot be stored is refused. -/
theorem reading_exact {h : History} (hn : h.Numbered) (user : List Char) {limit : Int}
    (hl : 1 ≤ limit) (seen : Int) :
    (∀ batches pages h', Reading user limit h seen batches pages h' →
      (∀ r : Row, pages.flatten.count r =
        if (r ∈ h'.rows ∧ r.user = user) ∧ seen < r.id then 1 else 0) ∧
      (∀ page ∈ pages, page.Pairwise (fun a b => b.id < a.id) ∧ (page.length : Int) ≤ limit) ∧
      pages.Pairwise fun p q => ∀ a ∈ p, ∀ b ∈ q, a.id < b.id) ∧
    (∀ batches, fits limit = true → fits seen = true →
      fits (h.addAll batches.flatten).lastId = true →
      ∃ pages h', Reading user limit h seen batches pages h') ∧
    ((fits limit && fits seen) = false → h.stream user limit seen = .error .tooBig) := by
  refine ⟨?_, ?_, ?_⟩
  · intro batches pages h' hr
    exact ⟨hr.count_pages hn hl, hr.each_page hn hl, hr.pages_increasing hn hl⟩
  · intro batches hlimit hseen hlast
    exact hn.exists_reading hl hlimit seen batches hseen hlast
  · intro hbig
    rw [stream_eq, Bool.and_comm, hbig]
    rfl

/-- An entry of a sum worked out in standard mode. -/
def sumEntry (user expression result : String) : Entry :=
  ⟨user.toList, expression.toList, result.toList, "noon".toList, some Mode.standard.name.toList⟩

/-- Two rows of one user and one of another. -/
def threeSums : History :=
  ({} : History).addAll
    [sumEntry "ann" "1+1" "2", sumEntry "bob" "2+2" "4", sumEntry "ann" "3+3" "6"]

/-- While the first page is read, each of the users gets one more row. -/
def lateSums : List Entry := [sumEntry "bob" "4+4" "8", sumEntry "ann" "5+5" "10"]

/-- The rows of a reader with pages of two: those that were there, then the late one. -/
theorem threeSums_read :
    threeSums.Numbered ∧ (∃ pages, Reading "ann".toList 2 threeSums 0 [lateSums] pages
      (threeSums.addAll lateSums) ∧ pages.map (List.map Row.id) = [[3, 1], [5]] ∧
      ∀ r : Row, pages.flatten.count r =
        if (r ∈ (threeSums.addAll lateSums).rows ∧ r.user = "ann".toList) ∧ (0 : Int) < r.id
        then 1 else 0) ∧
    ∃ pages h', Reading "ann".toList 2 threeSums 0 [lateSums] pages h' := by
  have hn : threeSums.Numbered := numbered_new.addAll _
  obtain ⟨exact, ends, _⟩ := reading_exact hn "ann".toList (show (1 : Int) ≤ 2 by decide) 0
  have hr : Reading "ann".toList 2 threeSums 0 [lateSums]
      [threeSums.following "ann".toList 0 2, (threeSums.addAll lateSums).following "ann".toList 3 2]
      (threeSums.addAll lateSums) :=
    .next rfl (by decide) (.next rfl (by decide) (.done rfl))
  exact ⟨hn, ⟨_, hr, by decide, (exact _ _ _ hr).1⟩, ends [lateSums] rfl rfl (by decide)⟩

/-- The least limit that cannot be stored, two to the sixty-third. -/
def greatLimit : Int := 9223372036854775808

/-- A reader whose limit cannot be stored gets nothing, although there are rows for it. -/
theorem greatLimit_unread :
    1 ≤ greatLimit ∧ threeSums.behind "ann".toList 0 ≠ [] ∧
    threeSums.stream "ann".toList greatLimit 0 = .error .tooBig ∧
    ∀ batches pages h', ¬ Reading "ann".toList greatLimit threeSums 0 batches pages h' := by
  have hrefused : threeSums.stream "ann".toList greatLimit 0 = .error .tooBig := rfl
  refine ⟨by decide, by decide, hrefused, fun batches pages h' hr => ?_⟩
  cases hr with
  | done hp =>
    rw [hrefused] at hp
    cases hp
  | next hp _ _ =>
    rw [hrefused] at hp
    cases hp

end Reckon.History
