import Reckon.Proofs.Json.Printed
import Reckon.Tutor.Reply

/-
The object in a reply. Trimming and taking a fence away only cut something off the two ends of a
reply, no opening brace in front and no closing brace behind (`Frames.object?`). What is left
is the object with some text around it, and the reader stops where the object ends. So the text
up to the last closing brace is read as the object if that brace is its own, and as nothing at
all if another closing brace follows.
-/
namespace Reckon.Tutor.Reply
open Text Json

/-- The text `u` stands in `t`, without an opening brace in front of it, and `b` tells whether
there is a closing brace behind it. -/
def Frames (u : List Char) (b : Prop) (t : List Char) : Prop :=
  ∃ p s, t = p ++ (u ++ s) ∧ '{' ∉ p ∧ ('}' ∈ s ↔ b)

/-- A text with its braces at both ends. -/
def Braced (u : List Char) : Prop := ∃ m, u = '{' :: (m ++ ['}'])

section Cutting

variable {u d t t' : List Char} {b : Prop}

/-- Nothing of the text is cut off with something in front that has no opening brace. -/
theorem Frames.of_append_left (hu : Braced u) (h : Frames u b (d ++ t)) (hd : '{' ∉ d) :
    Frames u b t := by
  obtain ⟨m, rfl⟩ := hu
  obtain ⟨p, s, ht, hp, hs⟩ := h
  obtain ⟨a, rfl, ha⟩ | ⟨c, rfl, hc⟩ := List.append_eq_append_iff.1 ht
  · exact ⟨a, s, ha, by simp_all, hs⟩
  · cases c with
    | nil => exact ⟨[], s, by simpa using hc.symm, by simp, hs⟩
    | cons x c =>
      have hx : x = '{' := by simp_all
      simp [hx] at hd

/-- Nothing of the text is cut off with something behind that has no closing brace. -/
theorem Frames.of_append_right (hu : Braced u) (h : Frames u b (t ++ d)) (hd : '}' ∉ d) :
    Frames u b t := by
  obtain ⟨m, rfl⟩ := hu
  obtain ⟨p, s, ht, hp, hs⟩ := h
  have ht : t ++ d = (p ++ '{' :: m) ++ ('}' :: s) := by simp [ht]
  obtain ⟨a, _, rfl⟩ | ⟨c, rfl, hc⟩ := List.append_eq_append_iff.1 ht
  · simp at hd
  · cases c with
    | nil =>
      rw [List.nil_append] at hc
      simp [← hc] at hd
    | cons x c =>
      obtain ⟨rfl, rfl⟩ : x = '}' ∧ s = c ++ d := by simpa [eq_comm] using hc
      exact ⟨p, c, by simp, hp, by rw [← hs]; simp [hd]⟩

end Cutting

/-! ## What is cut off -/

theorem trimStart_split (t : List Char) : ∃ d, t = d ++ trimStart t ∧ '{' ∉ d := by
  refine ⟨t.takeWhile isBlank, List.takeWhile_append_dropWhile.symm, fun h => ?_⟩
  exact absurd (List.mem_takeWhile_imp h) (by decide)

theorem trimEnd_split (t : List Char) : ∃ d, t = trimEnd t ++ d ∧ '}' ∉ d := by
  refine ⟨(t.reverse.takeWhile isBlank).reverse, ?_, fun h => ?_⟩
  · rw [trimEnd, ← List.reverse_append, List.takeWhile_append_dropWhile, List.reverse_reverse]
  · exact absurd (List.mem_takeWhile_imp (List.mem_reverse.1 h)) (by decide)

theorem dropOpening_split {t : List Char} (h : fence.isPrefixOf t = true) :
    ∃ d, t = d ++ dropOpening t ∧ '{' ∉ d := by
  obtain ⟨q, rfl⟩ := List.isPrefixOf_iff_prefix.1 h
  unfold dropOpening
  split
  · next r hr =>
    rw [List.drop_left] at hr
    have hq : q = q.takeWhile isTag ++ '\n' :: r := by
      rw [← hr, List.takeWhile_append_dropWhile]
    refine ⟨fence ++ (q.takeWhile isTag ++ ['\n']), ?_, fun hm => ?_⟩
    · conv_lhs => rw [hq]
      simp
    · simp only [List.mem_append, List.mem_singleton] at hm
      obtain hm | hm | hm := hm
      · exact absurd hm (by decide)
      · exact absurd (List.mem_takeWhile_imp hm) (by decide)
      · exact absurd hm (by decide)
  · exact ⟨[], rfl, by simp⟩

theorem dropClosing_split (t : List Char) : ∃ d, t = dropClosing t ++ d ∧ '}' ∉ d := by
  obtain ⟨d, ht, hd⟩ := trimEnd_split t
  simp only [dropClosing]
  split
  · next hs =>
    obtain ⟨q, hq⟩ := List.isSuffixOf_iff_suffix.1 hs
    refine ⟨('\n' :: fence) ++ d, ?_, by simp [hd, fence]⟩
    rw [← hq, List.length_append, Nat.add_sub_cancel, List.take_left, ← List.append_assoc, hq, ← ht]
  · exact ⟨[], by simp, by simp⟩

section Keeping

variable {u t : List Char} {b : Prop}

theorem Frames.trim (hu : Braced u) (h : Frames u b t) : Frames u b (trim t) := by
  obtain ⟨d, ht, hd⟩ := trimStart_split t
  obtain ⟨d', ht', hd'⟩ := trimEnd_split (trimStart t)
  rw [ht] at h
  have h := h.of_append_left hu hd
  rw [ht'] at h
  exact h.of_append_right hu hd'

theorem Frames.unfenced (hu : Braced u) (h : Frames u b t) : Frames u b (unfenced t) := by
  unfold Reply.unfenced
  split
  · next hf =>
    obtain ⟨d, ht, hd⟩ := dropOpening_split hf
    obtain ⟨d', ht', hd'⟩ := dropClosing_split (dropOpening t)
    rw [ht] at h
    have h := h.of_append_left hu hd
    rw [ht'] at h
    exact (h.of_append_right hu hd').trim hu
  · exact h

end Keeping

/-! ## What is read -/

section Reading

variable {p u s : List Char} {ms : Members}

/-- What stands in front of the first opening brace is the same in equal texts. -/
theorem front_unique {w x y : List Char} (hp : '{' ∉ p) (hw : '{' ∉ w)
    (h : p ++ '{' :: x = w ++ '{' :: y) : p = w := by
  have hfront {q : List Char} (hq : '{' ∉ q) (z : List Char) :
      (q ++ '{' :: z).takeWhile (· ≠ '{') = q := by
    rw [List.takeWhile_append_of_pos]
    · simp
    · intro c hc
      simpa using fun (h : c = '{') => hq (h ▸ hc)
  rw [← hfront hp x, ← hfront hw y, h]

/-- With anything but white space around it, an object is not read as one. -/
theorem members?_cases (hd : Denotes u (.object ms)) (hp : '{' ∉ p) :
    members? (p ++ (u ++ s)) = none ∨ Blank s ∧ members? (p ++ (u ++ s)) = some ms := by
  cases hr : read (p ++ (u ++ s)) with
  | none => simp [members?, hr]
  | some v =>
    cases v with
    | object ms' =>
      obtain ⟨w, u', w', hw, _, ht, hd'⟩ := denotes_of_read (v := .object ms') rfl hr
      have hpw : p = w := by
        obtain ⟨m, rfl⟩ := hd.braces
        obtain ⟨m', rfl⟩ := hd'.braces
        exact front_unique hp (fun h => absurd (hw _ h) (by decide)) ht
      rw [read_denotes (hpw ▸ hw) hd rfl] at hr
      split at hr
      · next hs =>
        have hr' := read_denotes (hpw ▸ hw) hd rfl s
        rw [if_pos hs] at hr'
        exact .inr ⟨blank_of_skipSpace hs, by simp [members?, hr']⟩
      · cases hr
    | _ => simp [members?, hr]

theorem members?_eq_some (hd : Denotes u (.object ms)) : members? u = some ms := by
  have h := read_denotes blank_nil hd rfl []
  simp only [List.nil_append, List.append_nil] at h
  simp [members?, h, skipSpace]

theorem members?_print (ms : Members) (h : IsPlain (.object ms)) :
    members? (print (.object ms)) = some ms := by
  simp [members?, read_print h]

/-- From the first opening brace on, up to the last closing one. -/
theorem braced?_eq {z : List Char} (hp : '{' ∉ p) (hs : '}' ∉ s) :
    braced? (p ++ ('{' :: (z ++ '}' :: s))) = some ('{' :: (z ++ ['}'])) := by
  have hskip {c : Char} {q : List Char} (hq : c ∉ q) (x : List Char) :
      (q ++ c :: x).dropWhile (· ≠ c) = c :: x := by
    rw [List.dropWhile_append_of_pos]
    · simp
    · intro d hd
      simpa using fun (h : d = c) => hq (h ▸ hd)
  have hback : ('{' :: (z ++ '}' :: s)).reverse = s.reverse ++ '}' :: (z.reverse ++ ['{']) := by
    simp
  simp only [braced?, hskip hp, hback, hskip (c := '}') (q := s.reverse) (by simpa using hs)]
  simp

/-- The object is read where no closing brace follows it. -/
theorem Frames.object?_eq_some {t : List Char} (hd : Denotes u (.object ms))
    (h : Frames u False t) : (members? t).or ((braced? t).bind members?) = some ms := by
  obtain ⟨p, s, rfl, hp, hs⟩ := h
  obtain hm | ⟨_, hm⟩ := members?_cases (s := s) hd hp
  · have hu := members?_eq_some hd
    obtain ⟨m, rfl⟩ := hd.braces
    have ht : p ++ ('{' :: (m ++ ['}']) ++ s) = p ++ '{' :: (m ++ '}' :: s) := by simp
    rw [hm, Option.none_or, ht, braced?_eq hp (by simpa using hs)]
    exact hu
  · rw [hm]
    rfl

/-- Nothing is read where a closing brace follows the object. -/
theorem Frames.object?_eq_none {t : List Char} (hd : Denotes u (.object ms))
    (h : Frames u True t) : (members? t).or ((braced? t).bind members?) = none := by
  obtain ⟨p, s, rfl, hp, hs⟩ := h
  have hs : '}' ∈ s := hs.2 trivial
  have hnone {q x : List Char} (hq : '{' ∉ q) (hx : '}' ∈ x) : members? (q ++ (u ++ x)) = none := by
    obtain hm | ⟨hb, _⟩ := members?_cases (s := x) hd hq
    · exact hm
    · exact absurd (hb _ hx) (by decide)
  obtain ⟨a, x, hax, ha⟩ := List.eq_append_cons_of_mem (List.mem_reverse.2 hs)
  have hsx : s = x.reverse ++ '}' :: a.reverse := by
    rw [← List.reverse_reverse s, hax]
    simp
  have hlast := hnone (q := []) (x := x.reverse ++ ['}']) (by simp) (by simp)
  have hfirst := hnone hp hs
  obtain ⟨m, rfl⟩ := hd.braces
  have ht : p ++ ('{' :: (m ++ ['}']) ++ s) =
      p ++ '{' :: ((m ++ '}' :: x.reverse) ++ '}' :: a.reverse) := by
    simp [hsx]
  rw [hfirst, Option.none_or, ht, braced?_eq hp (by simpa using ha)]
  simpa using hlast

end Reading

/-! ## The object in a reply -/

/-- The text of an object stands in a reply that has no opening brace in front of it. -/
theorem frames_of_members? {p x s : List Char} {ms : Members} (hp : '{' ∉ p)
    (hx : members? x = some ms) :
    ∃ u, Denotes u (.object ms) ∧ Frames u ('}' ∈ s) (unfenced (trim (p ++ (x ++ s)))) := by
  have hr : Json.read x = some (.object ms) := by
    unfold members? at hx
    split at hx
    · next h => cases hx; exact h
    · cases hx
  obtain ⟨w, u, w', hw, hw', rfl, hd⟩ := denotes_of_read (v := .object ms) rfl hr
  have hframes : Frames u ('}' ∈ s) (p ++ (w ++ (u ++ w') ++ s)) := by
    have hpw : '{' ∉ p ++ w := by
      have : '{' ∉ w := fun h => absurd (hw _ h) (by decide)
      simp [hp, this]
    have hws : '}' ∈ w' ++ s ↔ '}' ∈ s := by
      have : '}' ∉ w' := fun h => absurd (hw' _ h) (by decide)
      simp [this]
    exact ⟨p ++ w, w' ++ s, by simp, hpw, hws⟩
  exact ⟨u, hd, (hframes.trim hd.braces).unfenced hd.braces⟩

/-- An object that stands in a reply is read if no closing brace follows it. -/
theorem object?_eq_some {p x s : List Char} {ms : Members} (hp : '{' ∉ p)
    (hx : members? x = some ms) (hs : '}' ∉ s) : object? (p ++ (x ++ s)) = some ms := by
  obtain ⟨u, hd, hu⟩ := frames_of_members? (s := s) hp hx
  rw [eq_false hs] at hu
  exact hu.object?_eq_some hd

theorem object?_eq_none {p x s : List Char} {ms : Members} (hp : '{' ∉ p)
    (hx : members? x = some ms) (hs : '}' ∈ s) : object? (p ++ (x ++ s)) = none := by
  obtain ⟨u, hd, hu⟩ := frames_of_members? (s := s) hp hx
  rw [eq_true hs] at hu
  exact hu.object?_eq_none hd

/-- The first object of a reply is the one that is read, whatever text stands around it, unless
a closing brace follows it: then none is. -/
theorem first_object_read {p x s : List Char} {ms : Members} (hp : '{' ∉ p)
    (hx : members? x = some ms) :
    ('}' ∉ s → object? (p ++ (x ++ s)) = some ms) ∧
      ('}' ∈ s → object? (p ++ (x ++ s)) = none) :=
  ⟨object?_eq_some hp hx, object?_eq_none hp hx⟩

/-- Prose and a fence around an object with a brace in a text of its own, and a brace in the prose
behind it. -/
theorem first_object_read_fenced :
    object? ("Sure:\n```json\n".toList ++
        ("\x7b\"a\": \"\x7db\"\x7d".toList ++ "\n```\nDone.".toList)) =
        some [("a", .string "\x7db")] ∧
      object? ("Sure:\n```json\n".toList ++
        ("\x7b\"a\": \"\x7db\"\x7d".toList ++ "\n```\nDone :\x7d".toList)) = none := by
  have hx : members? "\x7b\"a\": \"\x7db\"\x7d".toList = some [("a", .string "\x7db")] := by
    have ht : print (.object [("a", .string "\x7db")]) = "\x7b\"a\": \"\x7db\"\x7d".toList := rfl
    rw [← ht]
    exact members?_print _ (by simp [IsPlain, MembersPlain])
  have hp : '{' ∉ "Sure:\n```json\n".toList := by decide
  have hs : '}' ∉ "\n```\nDone.".toList := by decide
  have hs' : '}' ∈ "\n```\nDone :\x7d".toList := by decide
  exact ⟨(first_object_read hp hx).1 hs, (first_object_read hp hx).2 hs'⟩

/-- Of two objects in a reply none is read. -/
theorem twoObjects_unread :
    members? "\x7b\"mode\": \"Standard\"\x7d".toList = some [("mode", .string "Standard")] ∧
      object? ("\x7b\"mode\": \"Standard\"\x7d".toList ++
        " or \x7b\"mode\": \"Scientific\"\x7d".toList) = none := by
  have hx : members? "\x7b\"mode\": \"Standard\"\x7d".toList =
      some [("mode", .string "Standard")] := by
    have ht : print (.object [("mode", .string "Standard")]) =
        "\x7b\"mode\": \"Standard\"\x7d".toList := rfl
    rw [← ht]
    exact members?_print _ (by simp [IsPlain, MembersPlain])
  have hbrace : '}' ∈ " or \x7b\"mode\": \"Scientific\"\x7d".toList := by decide
  have hnone := object?_eq_none List.not_mem_nil hx hbrace
  rw [List.nil_append] at hnone
  exact ⟨hx, hnone⟩

end Reckon.Tutor.Reply
