import Reckon.Proofs.Formula.Gate
import Reckon.Proofs.Formula.Spelling

/-
Which names a formula has in the spelling that the evaluator reads. They are the names that it was
written with, `mod` apart, exactly if no name is written with a zero that stands between a letter
and a digit, and `mod` stands nowhere right beside a word character (`names_prepare`). A zero inside
a name goes like a leading zero, so `log010` is read as `log10` (`innerZero_renamed`).
-/
namespace Reckon.Formula
open Text

/-! ## Zeros of a name -/

theorem length_dropZeros_le (followed start : Bool) (s : List Char) :
    (dropZeros followed start s).length ≤ s.length :=
  (dropZeros_sublist s).length_le

/-- No zero goes where none stands in front of a digit and behind what is no digit and no point. -/
theorem dropZeros_eq_self_iff {t : List Char} (ht : t.length ≤ 1) (start : Bool) (s : List Char) :
    dropZeros (t.head?.any isDigit) start s = s ↔
      (start = true → ∀ d, ['0', d] <+: s ++ t → isDigit d = false) ∧
      ∀ c d, [c, '0', d] <:+: s ++ t → isDigit d = true → isDigit c = true ∨ c = '.' := by
  -- a zero at the front depends on `start`, every other one on the character before it
  induction s generalizing start with
  | nil =>
    have hshort {l : List Char} (hl : 2 ≤ l.length) : ¬ l <:+: t := fun h => by
      have hle := h.length_le
      omega
    exact iff_of_true rfl ⟨fun _ d h => absurd h.isInfix (hshort le_rfl),
      fun c d h => absurd h (hshort (by simp))⟩
  | cons c r ih =>
    have hnext : r.head?.elim (t.head?.any isDigit) isDigit = (r ++ t).head?.any isDigit := by
      cases r <;> rfl
    rw [dropZeros, hnext, List.cons_append]
    by_cases hdrop : (start && c == '0' && (r ++ t).head?.any isDigit) = true
    · rw [if_pos hdrop]
      constructor
      · intro h
        have hle := length_dropZeros_le (t.head?.any isDigit) true r
        rw [h, List.length_cons] at hle
        omega
      · rintro ⟨hfirst, _⟩
        simp only [Bool.and_eq_true, beq_iff_eq, Option.any_eq_true] at hdrop
        obtain ⟨⟨hstart, rfl⟩, d, hd, hdigit⟩ := hdrop
        obtain ⟨q, hq⟩ := List.head?_eq_some_iff.1 hd
        have hzero := hfirst hstart d ⟨q, by rw [hq]; rfl⟩
        rw [hzero] at hdigit
        cases hdigit
    · rw [if_neg hdrop, List.cons.injEq, and_iff_right rfl, ih]
      constructor
      · rintro ⟨hfirst, hlater⟩
        refine ⟨fun hstart d hd => ?_, fun x d hx hdigit => ?_⟩
        · obtain ⟨rfl, q, hq⟩ := List.cons_prefix_cons.1 hd
          rw [← hq] at hdrop
          simpa [hstart] using hdrop
        · obtain hx | hx := List.infix_cons_iff.1 hx
          · obtain ⟨rfl, hpre⟩ := List.cons_prefix_cons.1 hx
            by_contra hno
            have hzero := hfirst (by simpa using hno) d hpre
            rw [hzero] at hdigit
            cases hdigit
          · exact hlater x d hx hdigit
      · rintro ⟨_, hall⟩
        refine ⟨fun hstart d hd => ?_, fun x d hx => hall x d (List.infix_cons hx)⟩
        by_contra hdigit
        have hc := hall c d (List.cons_prefix_cons.2 ⟨rfl, hd⟩).isInfix (by simpa using hdigit)
        obtain hc | hc := hc <;> simp [hc] at hstart

/-- A name is read as it stands: it has no zero between a letter, or the underscore, and a digit,
and `mod` has no word character on either side. -/
structure Kept (before n after : List Char) : Prop where
  zeros : ∀ c d, [c, '0', d] <:+: n ++ after.take 1 → isNameStart c = true → isDigit d = false
  alone : n = "mod".toList →
    before.getLast?.any isWord = false ∧ after.head?.any isWord = false

theorem head_take_one {α : Type} (l : List α) : (l.take 1).head? = l.head? := by
  cases l <;> rfl

/-- Of three characters in a row, of which at most one stands behind a text, the first is in it. -/
theorem mem_of_infix_append {a b c : Char} {s t : List Char} (ht : t.length ≤ 1)
    (h : [a, b, c] <:+: s ++ t) : a ∈ s := by
  obtain ⟨u, v, heq⟩ := h
  rw [List.append_assoc] at heq
  obtain ⟨w, rfl, hrest⟩ | ⟨w, _, hrest⟩ := List.append_eq_append_iff.1 heq
  · cases w with
    | nil =>
      have hl := congrArg List.length hrest
      simp only [List.length_append, List.length_cons, List.length_nil] at hl
      omega
    | cons x w =>
      obtain rfl : a = x := (List.cons.inj hrest).1
      simp
  · have hl := congrArg List.length hrest
    simp only [List.length_append, List.length_cons, List.length_nil] at hl
    omega

/-- A name is read with all its zeros if none of them stands between a letter and a digit. -/
theorem Token.EndsAt.dropZeros_eq_self_iff {n rest : List Char}
    (h : (Token.name n).EndsAt rest) :
    dropZeros (rest.head?.any isDigit) true n = n ↔
      ∀ c d, [c, '0', d] <:+: n ++ rest.take 1 → isNameStart c = true → isDigit d = false := by
  have hchars := List.all_eq_true.1 h.all_isNameChar
  have hlen : (rest.take 1).length ≤ 1 := List.length_take_le 1 rest
  obtain ⟨⟨x, r, rfl, hstart, _⟩, _⟩ := h
  rw [← head_take_one, Formula.dropZeros_eq_self_iff hlen]
  constructor
  · rintro ⟨_, hall⟩ c d hin hc
    by_contra hd
    obtain hdigit | rfl := hall c d hin (by simpa using hd)
    · rw [isDigit_of_isNameStart hc] at hdigit
      cases hdigit
    · exact absurd hc (by decide)
  · intro hall
    refine ⟨fun _ d hd => ?_, fun c d hin hd => ?_⟩
    · obtain ⟨rfl, _⟩ := List.cons_prefix_cons.1 hd
      exact absurd hstart (by decide)
    · have hc := hchars c (mem_of_infix_append hlen hin)
      rw [isNameChar, Bool.or_eq_true] at hc
      obtain hc | hc := hc
      · rw [hall c d hin hc] at hd
        cases hd
      · exact .inl (isDigit_of_ascii hc)

/-- A part keeps a digit if it had one and no digit follows it. -/
theorem any_dropLeadingZeros (start : Bool) (s : List Char) :
    (dropLeadingZeros start s).any isDigit = s.any isDigit := by
  fun_induction dropLeadingZeros start s with
  | case1 => rfl
  | case2 start c r h ih =>
    simp only [Bool.and_eq_true] at h
    have hr : r.any isDigit = true := by
      cases r with
      | nil => simp at h
      | cons d r =>
        have hd : isDigit d = true := h.2
        rw [List.any_cons, hd, Bool.true_or]
    rw [ih, List.any_cons, hr, Bool.or_true]
  | case3 start c r h ih => rw [List.any_cons, List.any_cons, ih]

theorem dropLeadingZeros_of_no_digit {s : List Char} (h : s.any isDigit = false) (start : Bool) :
    dropLeadingZeros start s = s := by
  induction s generalizing start with
  | nil => rfl
  | cons c r ih =>
    rw [List.any_cons, Bool.or_eq_false_iff] at h
    rw [dropLeadingZeros_cons (ne_zero_of_isDigit h.1), ih h.2]

/-! ## The names of a text -/

/-- The names of a text as they stand in it. -/
def words (s : List Char) : List String := (tokens s).filterMap Token.name?

/-- The names, without the operator that is written as one. -/
def operands (l : List String) : List String := l.filter (· ≠ "mod")

theorem Token.read_name (inWord : Bool) (n rest : List Char) :
    (Token.name n).read inWord rest =
      if n = "mod".toList ∧ inWord = false ∧ rest.head?.any isWord = false then .other '%'
      else .name (dropZeros (rest.head?.any isDigit) true n) := by
  have hiff (hrest : rest.head?.any isWord = false) :
      dropZeros (rest.head?.any isDigit) true n = "mod".toList ↔ n = "mod".toList := by
    have hdigit : rest.head?.any isDigit = false := by
      by_contra hd
      rw [head_isWord_of_isDigit (by simpa using hd)] at hrest
      cases hrest
    have hmod : "mod".toList.any isDigit = false := by decide
    rw [hdigit, ← dropLeadingZeros_eq]
    constructor
    · intro h
      have hn : n.any isDigit = false := by rw [← any_dropLeadingZeros true, h, hmod]
      rwa [dropLeadingZeros_of_no_digit hn] at h
    · rintro rfl
      exact dropLeadingZeros_of_no_digit hmod true
  simp only [Token.read, Token.unzeroed, Token.unworded, Token.name.injEq]
  refine if_congr ?_ rfl rfl
  constructor
  · rintro ⟨hn, hin, hrest⟩
    exact ⟨(hiff hrest).1 hn, hin, hrest⟩
  · rintro ⟨hn, hin, hrest⟩
    exact ⟨(hiff hrest).2 hn, hin, hrest⟩

theorem dropZeros_mod (followed : Bool) : dropZeros followed true "mod".toList = "mod".toList := by
  simp [dropZeros]

/-- A name is read as itself, or `mod` as a sign, exactly if it is kept. -/
theorem Token.EndsAt.read_iff {t : Token} {rest : List Char} (h : t.EndsAt rest)
    (past : List Char) :
    (operands t.name?.toList).length ≤
        (t.read (past.getLast?.any isWord) rest).name?.toList.length ∧
    ((t.read (past.getLast?.any isWord) rest).name?.toList = operands t.name?.toList ↔
      ∀ n, t = .name n → Kept past n rest) := by
  cases t with
  | number n => simp [Token.read, Token.unzeroed, Token.unworded, name?, operands]
  | other c => simp [Token.read, Token.unzeroed, Token.unworded, name?, operands]
  | name n =>
    have hzeros := h.dropZeros_eq_self_iff
    have hname (a : List Char) : (Token.name a).name?.toList = [String.ofList a] := rfl
    rw [Token.read_name]
    by_cases hmod : n = "mod".toList
    · subst hmod
      have hkeep := dropZeros_mod (rest.head?.any isDigit)
      have hno : operands (Token.name "mod".toList).name?.toList = [] := by decide
      rw [hno, hkeep]
      by_cases halone : past.getLast?.any isWord = false ∧ rest.head?.any isWord = false
      · rw [if_pos ⟨rfl, halone⟩]
        refine ⟨Nat.zero_le _, iff_of_true rfl ?_⟩
        rintro _ ⟨⟩
        exact ⟨hzeros.1 hkeep, fun _ => halone⟩
      · rw [if_neg fun h => halone h.2]
        refine ⟨Nat.zero_le _, iff_of_false (List.cons_ne_nil _ _) fun h => ?_⟩
        exact halone ((h _ rfl).alone rfl)
    · have hyes : operands (Token.name n).name?.toList = [String.ofList n] := by
        have hne : String.ofList n ≠ "mod" := fun heq => hmod (by rw [← heq, String.toList_ofList])
        simp [operands, hname, hne]
      rw [hyes, if_neg fun h => hmod h.1, hname, List.cons.injEq, and_iff_left rfl,
        String.ofList_inj, hzeros]
      refine ⟨le_rfl, fun h m hm => ?_, fun h => (h n rfl).zeros⟩
      cases hm
      exact ⟨h, fun heq => absurd heq hmod⟩

/-- Every name among the words is kept, where `past` is the text before the first of them. -/
def KeepsNames (past : List Char) (ts : List Token) : Prop :=
  ∀ before n after, ts = before ++ .name n :: after →
    Kept (past ++ before.flatMap Token.text) n (after.flatMap Token.text)

theorem keepsNames_cons {past : List Char} {t : Token} {ts : List Token} :
    KeepsNames past (t :: ts) ↔
      (∀ n, t = .name n → Kept past n (ts.flatMap Token.text)) ∧
      KeepsNames (past ++ t.text) ts := by
  constructor
  · intro h
    refine ⟨fun n hn => ?_, fun before n after heq => ?_⟩
    · simpa using h [] n ts (by rw [hn]; rfl)
    · simpa using h (t :: before) n after (by rw [heq]; rfl)
  · rintro ⟨hfirst, hlater⟩ before n after heq
    cases before with
    | nil =>
      obtain ⟨hn, rfl⟩ := List.cons.inj heq
      simpa using hfirst n hn
    | cons u before =>
      obtain ⟨rfl, hts⟩ := List.cons.inj heq
      simpa using hlater before n after hts

theorem append_eq_append_iff_of_length_le {α : Type} {a b l m : List α}
    (hab : b.length ≤ a.length) (hlm : m.length ≤ l.length) :
    a ++ l = b ++ m ↔ a = b ∧ l = m := by
  constructor
  · intro h
    have hlen := congrArg List.length h
    simp only [List.length_append] at hlen
    exact List.append_inj h (by omega)
  · rintro ⟨rfl, rfl⟩
    rfl

theorem Token.EndsAt.getLast_append {t : Token} {rest : List Char} (h : t.EndsAt rest)
    (past : List Char) :
    (past ++ t.text).getLast?.any isWord = t.text.getLast?.any isWord := by
  rw [List.getLast?_append, List.getLast?_eq_some_getLast h.text_ne_nil]
  rfl

/-- No name is lost but `mod`; the names are those that were written exactly if all are kept. -/
theorem Reads.words_respell {s : List Char} {ts : List Token} (h : Reads s ts)
    (past : List Char) :
    (operands (ts.filterMap Token.name?)).length ≤
        ((Formula.respell (past.getLast?.any isWord) ts).filterMap Token.name?).length ∧
      ((Formula.respell (past.getLast?.any isWord) ts).filterMap Token.name? =
        operands (ts.filterMap Token.name?) ↔ KeepsNames past ts) := by
  -- names may stay that should go, but none goes that should stay: so two lists that are equal
  -- are cut at the same places, and are equal word by word
  induction h generalizing past with
  | nil => simp [Formula.respell, operands, KeepsNames]
  | @cons t ts rest hends hrest ih =>
    have hpast := hends.getLast_append past
    obtain ⟨hle, hiff⟩ := ih (past ++ t.text)
    obtain ⟨hle', hiff'⟩ := hends.read_iff past
    rw [hpast] at hle hiff
    have hsplit : operands ((t :: ts).filterMap Token.name?) =
        operands t.name?.toList ++ operands (ts.filterMap Token.name?) := by
      rw [operands, operands, operands, ← List.filter_append, List.filterMap_eq_flatMap_toList,
        List.filterMap_eq_flatMap_toList, List.flatMap_cons]
    have hread : (Formula.respell (past.getLast?.any isWord) (t :: ts)).filterMap Token.name? =
        (t.read (past.getLast?.any isWord) rest).name?.toList ++
          (Formula.respell (t.text.getLast?.any isWord) ts).filterMap Token.name? := by
      rw [Formula.respell, ← hrest.text, List.filterMap_eq_flatMap_toList,
        List.filterMap_eq_flatMap_toList, List.flatMap_cons]
    rw [hsplit, hread, List.length_append, List.length_append, keepsNames_cons, ← hrest.text,
      append_eq_append_iff_of_length_le hle' hle, hiff, hiff']
    exact ⟨Nat.add_le_add hle' hle, Iff.rfl⟩

theorem words_prepare_iff (s : List Char) :
    words (prepare s) = operands (words s) ↔ KeepsNames [] (tokens s) := by
  have h := ((reads_tokens s).words_respell []).2
  rwa [words, tokens_prepare]

theorem firstOccurrences_filter {p : String → Bool} {seen seen' : List String}
    (hseen : ∀ n, p n = true → (n ∈ seen' ↔ n ∈ seen)) (l : List String) :
    firstOccurrences seen' (l.filter p) = (firstOccurrences seen l).filter p := by
  induction l generalizing seen seen' with
  | nil => rfl
  | cons n l ih =>
    by_cases hp : p n = true
    · have hcontains : seen'.contains n = seen.contains n := by
        rw [Bool.eq_iff_iff, List.contains_iff_mem, List.contains_iff_mem, hseen n hp]
      have hcons (m : String) (hm : p m = true) : m ∈ n :: seen' ↔ m ∈ n :: seen := by
        rw [List.mem_cons, List.mem_cons, hseen m hm]
      rw [List.filter_cons_of_pos hp, firstOccurrences, firstOccurrences, hcontains, ih hseen,
        ih hcons]
      split
      · rfl
      · rw [List.filter_cons_of_pos hp]
    · rw [List.filter_cons_of_neg hp, firstOccurrences]
      split
      · exact ih hseen
      · rw [List.filter_cons_of_neg hp]
        refine ih fun m hm => ?_
        have hne : m ≠ n := by
          rintro rfl
          exact hp hm
        rw [List.mem_cons, hseen m hm, or_iff_right hne]

/-- The words that are read are those that were written, each as it is read where it stands. -/
theorem Reads.mem_respell {s : List Char} {ts : List Token} (h : Reads s ts) (past : List Char)
    {u : Token} :
    u ∈ Formula.respell (past.getLast?.any isWord) ts ↔
      ∃ before t after, ts = before ++ t :: after ∧
        t.read ((past ++ before.flatMap Token.text).getLast?.any isWord)
          (after.flatMap Token.text) = u := by
  induction h generalizing past with
  | nil => simp [Formula.respell]
  | @cons t ts rest hends hrest ih =>
    have hpast := hends.getLast_append past
    have hih := ih (past ++ t.text)
    rw [hpast] at hih
    rw [Formula.respell, List.mem_cons, hih]
    constructor
    · rintro (rfl | ⟨before, v, after, rfl, hv⟩)
      · exact ⟨[], t, ts, rfl, by simp⟩
      · exact ⟨t :: before, v, after, rfl, by simpa using hv⟩
    · rintro ⟨before, v, after, heq, hv⟩
      cases before with
      | nil =>
        obtain ⟨rfl, rfl⟩ := List.cons.inj heq
        exact .inl (by simpa using hv.symm)
      | cons w before =>
        obtain ⟨rfl, rfl⟩ := List.cons.inj heq
        exact .inr ⟨before, v, after, rfl, by simpa using hv⟩

theorem Token.EndsAt.head_isDigit {n rest : List Char} (h : (Token.name n).EndsAt rest)
    (hrest : ∀ c ∈ rest, isDigit c = true → isAsciiDigit c = true) :
    rest.head?.any isDigit = false := by
  cases rest with
  | nil => rfl
  | cons c r =>
    have hc : isNameChar c = false := h.2
    by_contra hd
    have hascii := hrest c List.mem_cons_self (by simpa using hd)
    rw [isNameChar, hascii, Bool.or_true] at hc
    cases hc

theorem dropLeadingZeros_dropLeadingZeros (start : Bool) (s : List Char) :
    dropLeadingZeros start (dropLeadingZeros start s) = dropLeadingZeros start s := by
  fun_induction dropLeadingZeros start s with
  | case1 => rfl
  | case2 start c r h ih =>
    simp only [Bool.and_eq_true] at h
    rw [h.1.1, ih]
  | case3 start c r h ih =>
    rw [dropLeadingZeros, head_dropLeadingZeros_isDigit, if_neg h, ih]

theorem names_eq (s : List Char) : names s = firstOccurrences [] (words s) := rfl

theorem names_prepare_of_words {s : List Char} (h : words (prepare s) = operands (words s)) :
    names (prepare s) = operands (names s) := by
  rw [names_eq, h]
  exact firstOccurrences_filter (fun _ _ => Iff.rfl) (words s)

/-- Where the only digits are those of the ASCII range, the names alone tell that all are kept. -/
theorem keepsNames_of_names {s : List Char}
    (hascii : ∀ c ∈ s, isDigit c = true → isAsciiDigit c = true)
    (h : names (prepare s) = operands (names s)) : KeepsNames [] (tokens s) := by
  have hread (u : Token) : u ∈ tokens (prepare s) ↔ ∃ before t after,
      tokens s = before ++ t :: after ∧
        t.read ((before.flatMap Token.text).getLast?.any isWord) (after.flatMap Token.text) = u :=
    tokens_prepare s ▸ (reads_tokens s).mem_respell []
  have hbehind {before after : List Token} {n : List Char}
      (heq : tokens s = before ++ .name n :: after) :
      (Token.name n).EndsAt (after.flatMap Token.text) ∧
        (after.flatMap Token.text).head?.any isDigit = false := by
    have hreads := reads_tokens s
    rw [heq] at hreads
    refine ⟨hreads.endsAt, hreads.endsAt.head_isDigit fun c hc => hascii c ?_⟩
    rw [hreads.text, List.flatMap_append, List.flatMap_cons]
    exact List.mem_append_right _ (List.mem_append_right _ hc)
  intro before n after heq
  obtain ⟨hends, hnext⟩ := hbehind heq
  refine ⟨hends.dropZeros_eq_self_iff.1 ?_, fun hmod => ?_⟩
  · by_cases hmod : n = "mod".toList
    · rw [hmod, dropZeros_mod]
    · -- the name is among those that are read, and what is read has no zero left that would go
      have hwritten : String.ofList n ∈ operands (names s) := by
        refine List.mem_filter.2 ⟨mem_names.2 ⟨n, by simp [heq], rfl⟩, ?_⟩
        simpa using fun hn => hmod (by rw [← hn, String.toList_ofList])
      rw [← h] at hwritten
      obtain ⟨m, hm, hmn⟩ := mem_names.1 hwritten
      obtain rfl := String.ofList_inj.1 hmn
      obtain ⟨before', t, after', heq', ht⟩ := (hread _).1 hm
      cases t with
      | number k => simp [Token.read, Token.unzeroed, Token.unworded] at ht
      | other c => simp [Token.read, Token.unzeroed, Token.unworded] at ht
      | name k =>
        rw [Token.read_name, (hbehind heq').2] at ht
        split at ht
        · cases ht
        · rw [hnext, ← Token.name.inj ht]
          simp only [← dropLeadingZeros_eq, dropLeadingZeros_dropLeadingZeros]
  · -- beside a word character it would stay a name, and be among those that are read
    by_contra hno
    subst hmod
    have hmod : .name "mod".toList ∈ tokens (prepare s) := by
      refine (hread _).2 ⟨before, _, after, heq, ?_⟩
      rw [Token.read_name, if_neg fun h => hno (by simpa using h.2), dropZeros_mod]
    have hnames : "mod" ∈ names (prepare s) := mem_names.2 ⟨_, hmod, rfl⟩
    rw [h] at hnames
    exact absurd (List.mem_filter.1 hnames).2 (by decide)

/-- The gate of standard mode lets no `mod` pass. -/
theorem operands_of_authorized {l : List String} (h : authorize l .standard = .ok ()) :
    operands l = l := by
  have hnone : forbidden? .standard l = none := authorize_eq_ok_iff.1 h
  refine List.filter_eq_self.2 fun n hn => ?_
  have hadvanced := List.find?_eq_none.1 hnone n hn
  have hne : n ≠ "mod" := by
    rintro rfl
    exact hadvanced (by decide)
  simpa using hne

/-- The names that are read are those that were written, `mod` apart, exactly if all of them are
kept: name by name as they stand in the text, and as a list in which each stands once unless there
are digits of another script. Those that the gate of standard mode let pass are then all of them. -/
theorem names_prepare (s : List Char) :
    (words (prepare s) = operands (words s) ↔ KeepsNames [] (tokens s)) ∧
    ((∀ c ∈ s, isDigit c = true → isAsciiDigit c = true) →
      (names (prepare s) = operands (names s) ↔ KeepsNames [] (tokens s))) ∧
    (KeepsNames [] (tokens s) →
      names (prepare s) = operands (names s) ∧
        (authorize (names s) .standard = .ok () → names (prepare s) = names s)) := by
  have hkept : KeepsNames [] (tokens s) → names (prepare s) = operands (names s) := fun h =>
    names_prepare_of_words ((words_prepare_iff s).2 h)
  refine ⟨words_prepare_iff s, fun hascii => ⟨keepsNames_of_names hascii, hkept⟩, fun h => ?_⟩
  exact ⟨hkept h, fun hgate => (hkept h).trans (operands_of_authorized hgate)⟩

/-- Leading zeros go from numbers only, and the gate sees the names that are read. -/
theorem names_prepare_leadingZeros :
    (∀ c ∈ "abs(007)+abs(70)".toList, isDigit c = true → isAsciiDigit c = true) ∧
    KeepsNames [] (tokens "abs(007)+abs(70)".toList) ∧
    authorize (names "abs(007)+abs(70)".toList) .standard = .ok () ∧
    names (prepare "abs(007)+abs(70)".toList) = names "abs(007)+abs(70)".toList :=
  have hall : "abs(007)+abs(70)".toList.all (fun c => !isDigit c || isAsciiDigit c) = true := by
    decide
  have hascii : ∀ c ∈ "abs(007)+abs(70)".toList, isDigit c = true → isAsciiDigit c = true := by
    intro c hc hd
    simpa [hd] using List.all_eq_true.1 hall c hc
  have hkept := ((names_prepare _).2.1 hascii).1 (by decide +kernel)
  have hgate : authorize (names "abs(007)+abs(70)".toList) .standard = .ok () := by
    decide +kernel
  ⟨hascii, hkept, hgate, ((names_prepare _).2.2 hkept).2 hgate⟩

/-- A zero inside a name goes, and the name is read as that of another function. -/
theorem innerZero_renamed :
    names "log010(100)".toList = ["log010"] ∧
    names (prepare "log010(100)".toList) = ["log10"] ∧
    names (prepare "log010(100)".toList) ≠ operands (names "log010(100)".toList) := by
  decide +kernel

end Reckon.Formula
