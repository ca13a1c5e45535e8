import Reckon.Proofs.Json.Scalar

/-
What the reader of JSON text takes off the front of a text does not depend on what follows.
`Denotes u v` says that `u` is read as `v` in front of every text, `DenotesItems` and
`DenotesMembers` the same of what stands between brackets and braces; a number needs something
behind it that ends it. Each of the three is put together from its parts, and whatever is read
splits into such a text and the rest (`reads`), by induction on the fuel. A text of length `n`
needs fuel for `2 * n` calls and no more.
-/
namespace Reckon.Json
open Number Text

/-! ## Values -/

/-- The value is a number. -/
def isNumeric : Json → Bool
  | .int _ => true
  | .number _ => true
  | _ => false

/-- The text `u` stands for the value `v`, whatever comes behind it, if only it ends a number. -/
def Denotes (u : List Char) (v : Json) : Prop :=
  ∀ t fuel, (v.isNumeric = true → Ended t) → 2 * u.length ≤ fuel →
    readValue fuel (u ++ t) = some (v, t)

/-- The text `u` in front of a closing bracket stands for the items `vs`. -/
def DenotesItems (u : List Char) (vs : List Json) : Prop :=
  ∀ t fuel, 2 * u.length + 2 ≤ fuel → readItems fuel (u ++ ']' :: t) = some (vs, t)

/-- The text `u` in front of a closing brace turns the members `done` into `ms`. -/
def DenotesMembers (done : Members) (u : List Char) (ms : Members) : Prop :=
  ∀ t fuel, 2 * u.length + 2 ≤ fuel → readMembers fuel done (u ++ '}' :: t) = some (ms, t)

attribute [local simp] readValue readItems readMembers

theorem readItems_skipSpace (fuel : Nat) (s : List Char) :
    readItems fuel (skipSpace s) = readItems fuel s := by
  cases fuel <;> simp only [readItems, skipSpace_skipSpace]

section Opening

variable {s r : List Char} (fuel : Nat)

theorem readValue_emptyArray (h : skipSpace s = ']' :: r) :
    readValue (fuel + 1) ('[' :: s) = some (.array [], r) := by
  simp only [readValue, h]

theorem readValue_array (h : ∀ r, skipSpace s ≠ ']' :: r) :
    readValue (fuel + 1) ('[' :: s) = (readItems fuel s).map fun p => (.array p.1, p.2) := by
  rw [← readItems_skipSpace fuel s]
  simp only [readValue]

theorem readValue_emptyObject (h : skipSpace s = '}' :: r) :
    readValue (fuel + 1) ('{' :: s) = some (.object [], r) := by
  simp only [readValue, h]

theorem readValue_object (h : ∀ r, skipSpace s ≠ '}' :: r) :
    readValue (fuel + 1) ('{' :: s) =
      (readMembers fuel [] (skipSpace s)).map fun p => (.object p.1, p.2) := by
  simp only [readValue]

/-- No value starts with white space or with a closing bracket. -/
theorem readValue_eq_none {c : Char} (hc : isSpace c = true ∨ c = ']') (s : List Char) :
    readValue fuel (c :: s) = none := by
  cases fuel with
  | zero => simp
  | succ fuel =>
    have hc : c ∈ [' ', '\t', '\n', '\r', ']'] := by
      simpa [isSpace, or_assoc] using hc
    have hspan : spanDigits (c :: s) = ([], c :: s) := by
      have hall : [' ', '\t', '\n', '\r', ']'].all (fun d => !isAsciiDigit d) = true := by decide
      have hd : isAsciiDigit c = false := by simpa using List.all_eq_true.1 hall c hc
      rw [spanDigits_eq]
      simp [hd]
    simp only [List.mem_cons, List.not_mem_nil, or_false] at hc
    obtain rfl | rfl | rfl | rfl | rfl := hc <;>
      simp [readUnsigned_nil hspan, readWord, dropWord]

theorem readItems_eq_none (s : List Char) : readItems fuel (']' :: s) = none := by
  cases fuel with
  | zero => simp
  | succ fuel =>
    have hs : skipSpace (']' :: s) = ']' :: s := rfl
    simp [hs, readValue_eq_none]

theorem readMembers_eq_none {c : Char} (hc : c ≠ '"') (done : Members) (s : List Char) :
    readMembers fuel done (c :: s) = none := by
  cases fuel with
  | zero => simp
  | succ fuel => simp [hc]

end Opening

theorem Denotes.head {u : List Char} {v : Json} (h : Denotes u v) :
    ∃ c r, u = c :: r ∧ isSpace c = false ∧ c ≠ ']' := by
  have hr := h [','] (2 * u.length) (fun _ => ⟨',', [], rfl, by decide⟩) le_rfl
  cases u with
  | nil => simp at hr
  | cons c r =>
    refine ⟨c, r, rfl, ?_⟩
    by_contra hc
    have hc : isSpace c = true ∨ c = ']' := by
      by_cases hs : isSpace c = true <;> simp_all
    simp [readValue_eq_none _ hc] at hr

theorem skipSpace_denotes {u : List Char} {v : Json} (h : Denotes u v) (t : List Char) :
    skipSpace (u ++ t) = u ++ t := by
  obtain ⟨c, r, rfl, hc, _⟩ := h.head
  exact skipSpace_cons hc (r ++ t)

theorem DenotesString.denotes {u : List Char} {x : String} (h : DenotesString u x) :
    Denotes ('"' :: u) (.string x) := by
  intro t fuel _ hf
  obtain ⟨fuel, rfl⟩ := Nat.exists_eq_add_of_lt (show 0 < fuel by simp at hf; omega)
  simp [h t]

theorem denotes_emptyArray {w : List Char} (hw : Blank w) :
    Denotes ('[' :: (w ++ [']'])) (.array []) := by
  intro t fuel _ hf
  obtain ⟨fuel, rfl⟩ := Nat.exists_eq_add_of_lt (show 0 < fuel by simp at hf; omega)
  have hs : skipSpace (w ++ [']'] ++ t) = ']' :: t := by
    rw [List.append_assoc, skipSpace_append hw]
    rfl
  exact readValue_emptyArray _ hs

theorem DenotesItems.blank {w u : List Char} {vs : List Json} (hw : Blank w)
    (h : DenotesItems u vs) : DenotesItems (w ++ u) vs := by
  intro t fuel hf
  simp only [List.length_append] at hf
  rw [List.append_assoc, ← readItems_skipSpace, skipSpace_append hw, readItems_skipSpace]
  exact h t fuel (by omega)

theorem DenotesItems.array {u : List Char} {vs : List Json} (h : DenotesItems u vs) :
    Denotes ('[' :: (u ++ [']'])) (.array vs) := by
  intro t fuel _ hf
  simp only [List.length_cons, List.length_append, List.length_nil] at hf
  obtain ⟨fuel, rfl⟩ := Nat.exists_eq_add_of_lt (show 0 < fuel by omega)
  have hs : u ++ [']'] ++ t = u ++ ']' :: t := by simp
  have hne : ∀ r, skipSpace (u ++ ']' :: t) ≠ ']' :: r := by
    intro r hr
    have hi := h t (2 * u.length + 2) le_rfl
    rw [← readItems_skipSpace, hr, readItems_eq_none] at hi
    cases hi
  rw [List.cons_append, hs, Nat.zero_add, readValue_array _ hne, h t fuel (by omega)]
  rfl

theorem denotes_emptyObject {w : List Char} (hw : Blank w) :
    Denotes ('{' :: (w ++ ['}'])) (.object []) := by
  intro t fuel _ hf
  obtain ⟨fuel, rfl⟩ := Nat.exists_eq_add_of_lt (show 0 < fuel by simp at hf; omega)
  have hs : skipSpace (w ++ ['}'] ++ t) = '}' :: t := by
    rw [List.append_assoc, skipSpace_append hw]
    rfl
  exact readValue_emptyObject _ hs

theorem DenotesMembers.head {done ms : Members} {u : List Char} (h : DenotesMembers done u ms) :
    ∃ r, u = '"' :: r := by
  have hr := h [] (2 * u.length + 2) le_rfl
  cases u with
  | nil => rw [List.nil_append, readMembers_eq_none _ (by decide)] at hr; cases hr
  | cons c r =>
    by_cases hc : c = '"'
    · exact ⟨r, by rw [hc]⟩
    · rw [List.cons_append, readMembers_eq_none _ hc] at hr
      cases hr

theorem DenotesMembers.object {w u : List Char} {ms : Members} (hw : Blank w)
    (h : DenotesMembers [] u ms) : Denotes ('{' :: (w ++ u ++ ['}'])) (.object ms) := by
  intro t fuel _ hf
  simp only [List.length_cons, List.length_append, List.length_nil] at hf
  obtain ⟨fuel, rfl⟩ := Nat.exists_eq_add_of_lt (show 0 < fuel by omega)
  have hs : skipSpace (w ++ u ++ ['}'] ++ t) = u ++ '}' :: t := by
    obtain ⟨r, rfl⟩ := h.head
    simp only [List.append_assoc]
    rw [skipSpace_append hw]
    rfl
  have hne : ∀ r, skipSpace (w ++ u ++ ['}'] ++ t) ≠ '}' :: r := by
    obtain ⟨r, rfl⟩ := h.head
    rw [hs]
    simp
  rw [List.cons_append, Nat.zero_add, readValue_object _ hne, hs, h t fuel (by omega)]
  rfl

section Items

variable {w w' u u' s : List Char} {v : Json} {vs : List Json}

/-- The first item is read, and what stands behind it decides how to go on. -/
theorem readItems_item (hw : Blank w) (h : Denotes u v) (hs : Ended s) {fuel : Nat}
    (hf : 2 * u.length ≤ fuel) :
    readItems (fuel + 1) (w ++ (u ++ s)) =
      match skipSpace s with
      | ']' :: r => some ([v], r)
      | ',' :: r => (readItems fuel r).bind fun p => some (v :: p.1, p.2)
      | _ => none := by
  have hu : skipSpace (w ++ (u ++ s)) = u ++ s := by
    rw [skipSpace_append hw, skipSpace_denotes h]
  simp only [readItems, hu, h s fuel (fun _ => hs) hf, readItems_skipSpace, Option.bind_eq_bind,
    Option.bind_some]
  rfl

theorem Denotes.item (hw : Blank w) (h : Denotes u v) (hw' : Blank w') :
    DenotesItems (w ++ (u ++ w')) [v] := by
  intro t fuel hf
  simp only [List.length_append] at hf
  obtain ⟨fuel, rfl⟩ := Nat.exists_eq_add_of_lt (show 0 < fuel by omega)
  have hend : skipSpace (w' ++ ']' :: t) = ']' :: t := by
    rw [skipSpace_append hw']
    rfl
  simp only [Nat.zero_add, List.append_assoc]
  rw [readItems_item hw h (ended_append hw' (by decide) t) (by omega), hend]
  rfl

theorem DenotesItems.cons (hw : Blank w) (h : Denotes u v) (hw' : Blank w')
    (h' : DenotesItems u' vs) : DenotesItems (w ++ (u ++ (w' ++ ',' :: u'))) (v :: vs) := by
  intro t fuel hf
  simp only [List.length_append, List.length_cons] at hf
  obtain ⟨fuel, rfl⟩ := Nat.exists_eq_add_of_lt (show 0 < fuel by omega)
  have hend : skipSpace (w' ++ ',' :: (u' ++ ']' :: t)) = ',' :: (u' ++ ']' :: t) := by
    rw [skipSpace_append hw']
    rfl
  simp only [Nat.zero_add, List.append_assoc, List.cons_append]
  rw [readItems_item hw h (ended_append hw' (by decide) _) (by omega), hend]
  simp [h' t fuel (by omega)]

end Items

section Members

variable {done ms : Members} {n w w₁ w₂ w₃ u u' s : List Char} {name : String} {v : Json}

/-- The first member is read, and what stands behind it decides how to go on. -/
theorem readMembers_member (hn : DenotesString n name) (hw₁ : Blank w₁) (hw₂ : Blank w₂)
    (h : Denotes u v) (hs : Ended s) {fuel : Nat} (hf : 2 * u.length ≤ fuel) :
    readMembers (fuel + 1) done ('"' :: (n ++ (w₁ ++ ':' :: (w₂ ++ (u ++ s))))) =
      match skipSpace s with
      | '}' :: r => some (put name v done, r)
      | ',' :: r => readMembers fuel (put name v done) (skipSpace r)
      | _ => none := by
  have hcolon : skipSpace (w₁ ++ ':' :: (w₂ ++ (u ++ s))) = ':' :: (w₂ ++ (u ++ s)) := by
    rw [skipSpace_append hw₁]
    rfl
  have hvalue : skipSpace (w₂ ++ (u ++ s)) = u ++ s := by
    rw [skipSpace_append hw₂, skipSpace_denotes h]
  simp only [readMembers, hn _, Option.bind_eq_bind, Option.bind_some, hcolon, hvalue,
    h s fuel (fun _ => hs) hf]
  rfl

theorem Denotes.member (hn : DenotesString n name) (hw₁ : Blank w₁) (hw₂ : Blank w₂)
    (h : Denotes u v) (hw₃ : Blank w₃) :
    DenotesMembers done ('"' :: (n ++ (w₁ ++ ':' :: (w₂ ++ (u ++ w₃))))) (put name v done) := by
  intro t fuel hf
  simp only [List.length_append, List.length_cons] at hf
  obtain ⟨fuel, rfl⟩ := Nat.exists_eq_add_of_lt (show 0 < fuel by omega)
  have hend : skipSpace (w₃ ++ '}' :: t) = '}' :: t := by
    rw [skipSpace_append hw₃]
    rfl
  simp only [Nat.zero_add, List.append_assoc, List.cons_append]
  rw [readMembers_member hn hw₁ hw₂ h (ended_append hw₃ (by decide) t) (by omega), hend]
  rfl

theorem DenotesMembers.cons (hn : DenotesString n name) (hw₁ : Blank w₁) (hw₂ : Blank w₂)
    (h : Denotes u v) (hw₃ : Blank w₃) (hw : Blank w)
    (h' : DenotesMembers (put name v done) u' ms) :
    DenotesMembers done
      ('"' :: (n ++ (w₁ ++ ':' :: (w₂ ++ (u ++ (w₃ ++ ',' :: (w ++ u'))))))) ms := by
  intro t fuel hf
  simp only [List.length_append, List.length_cons] at hf
  obtain ⟨fuel, rfl⟩ := Nat.exists_eq_add_of_lt (show 0 < fuel by omega)
  have hend : skipSpace (w₃ ++ ',' :: (w ++ (u' ++ '}' :: t))) =
      ',' :: (w ++ (u' ++ '}' :: t)) := by
    rw [skipSpace_append hw₃]
    rfl
  have hnext : skipSpace (w ++ (u' ++ '}' :: t)) = u' ++ '}' :: t := by
    obtain ⟨r, rfl⟩ := h'.head
    rw [skipSpace_append hw]
    rfl
  simp only [Nat.zero_add, List.append_assoc, List.cons_append]
  rw [readMembers_member hn hw₁ hw₂ h (ended_append hw₃ (by decide) _) (by omega), hend]
  simp only [hnext, h' t fuel (by omega)]

end Members

/-! ## What is read -/

/-- What is read off a text with some fuel stands in it, in front of the rest. -/
def ReadsValues (fuel : Nat) : Prop :=
  ∀ ⦃s r v⦄, readValue fuel s = some (v, r) → (v.isNumeric = true → Ended r) →
    ∃ u, s = u ++ r ∧ Denotes u v

def ReadsItems (fuel : Nat) : Prop :=
  ∀ ⦃s r vs⦄, readItems fuel s = some (vs, r) → ∃ u, s = u ++ ']' :: r ∧ DenotesItems u vs

def ReadsMembers (fuel : Nat) : Prop :=
  ∀ ⦃done s r ms⦄, readMembers fuel done s = some (ms, r) →
    ∃ u, s = u ++ '}' :: r ∧ DenotesMembers done u ms

theorem readsItems_succ {fuel : Nat} (hv : ReadsValues fuel) (hi : ReadsItems fuel) :
    ReadsItems (fuel + 1) := by
  intro s r vs h
  simp only [readItems, Option.bind_eq_bind, Option.bind_eq_some_iff] at h
  obtain ⟨⟨v, s'⟩, hs, h⟩ := h
  obtain ⟨w, hw, hsw⟩ := exists_blank s
  obtain ⟨w', hw', hsw'⟩ := exists_blank s'
  split at h
  · next q hq =>
    cases h
    rw [hq] at hsw'
    obtain ⟨u, hu, hd⟩ := hv hs fun _ => hsw' ▸ ended_append hw' (by decide) _
    exact ⟨w ++ (u ++ w'), by rw [hsw, hu, hsw']; simp, hd.item hw hw'⟩
  · next q hq =>
    rw [hq] at hsw'
    obtain ⟨u, hu, hd⟩ := hv hs fun _ => hsw' ▸ ended_append hw' (by decide) _
    rw [Option.bind_eq_some_iff] at h
    obtain ⟨⟨vs', q'⟩, hq', h⟩ := h
    cases h
    rw [readItems_skipSpace] at hq'
    obtain ⟨u', rfl, hd'⟩ := hi hq'
    exact ⟨w ++ (u ++ (w' ++ ',' :: u')), by rw [hsw, hu, hsw']; simp, hd'.cons hw hd hw'⟩
  · cases h

theorem readsMembers_succ {fuel : Nat} (hv : ReadsValues fuel) (hm : ReadsMembers fuel) :
    ReadsMembers (fuel + 1) := by
  intro done s r ms h
  unfold readMembers at h
  split at h
  · next q =>
    simp only [Option.bind_eq_bind, Option.bind_eq_some_iff] at h
    obtain ⟨⟨name, s₁⟩, hs, h⟩ := h
    obtain ⟨n, rfl, hn⟩ := denotesString_of_readString hs
    obtain ⟨w₁, hw₁, hsw₁⟩ := exists_blank s₁
    split at h
    · next s₂ hs₂ =>
      rw [hs₂] at hsw₁
      rw [Option.bind_eq_some_iff] at h
      obtain ⟨⟨v, s₃⟩, hs, h⟩ := h
      obtain ⟨w₂, hw₂, hsw₂⟩ := exists_blank s₂
      obtain ⟨w₃, hw₃, hsw₃⟩ := exists_blank s₃
      split at h
      · next q hq =>
        cases h
        rw [hq] at hsw₃
        obtain ⟨u, hu, hd⟩ := hv hs fun _ => hsw₃ ▸ ended_append hw₃ (by decide) _
        refine ⟨_, ?_, hd.member hn hw₁ hw₂ hw₃⟩
        rw [hsw₁, hsw₂, hu, hsw₃]
        simp
      · next q hq =>
        rw [hq] at hsw₃
        obtain ⟨u, hu, hd⟩ := hv hs fun _ => hsw₃ ▸ ended_append hw₃ (by decide) _
        obtain ⟨w, hw, hqw⟩ := exists_blank q
        obtain ⟨u', hu', hd'⟩ := hm h
        refine ⟨_, ?_, hd'.cons hn hw₁ hw₂ hd hw₃ hw⟩
        rw [hsw₁, hsw₂, hu, hsw₃, hqw, hu']
        simp
      · cases h
    · cases h
  · cases h

theorem isNumeric_of_readFrom {negative : Bool} {whole s r : List Char} {v : Json}
    (h : readFrom negative whole s = some (v, r)) : v.isNumeric = true := by
  simp only [readFrom] at h
  split at h
  · split at h
    · cases h
    · cases h
      rfl
  · cases h
    rfl

theorem isNumeric_of_readUnsigned {negative : Bool} {s r : List Char} {v : Json}
    (h : readUnsigned negative s = some (v, r)) : v.isNumeric = true := by
  cases hw : spanDigits s with
  | mk whole s' =>
    cases whole with
    | nil =>
      rw [readUnsigned_nil hw] at h
      cases h
    | cons d ds =>
      by_cases hz : d = '0' → ds = []
      · rw [readUnsigned_digits hw hz] at h
        exact isNumeric_of_readFrom h
      · obtain ⟨rfl, hne⟩ : d = '0' ∧ ds ≠ [] := by simpa using hz
        cases ds with
        | nil => exact absurd rfl hne
        | cons c ds =>
          rw [readUnsigned_zero hw] at h
          exact isNumeric_of_readFrom h

theorem readValue_of_readWord {s : List Char} {p : Json × List Char} (h : readWord s = some p)
    (fuel : Nat) : readValue (fuel + 1) s = some p := by
  unfold readValue
  split
  · simp [readWord, dropWord] at h
  · simp [readWord, dropWord] at h
  · simp [readWord, dropWord] at h
  · rw [h]
    rfl
  · rw [h]
    rfl

theorem denotes_word {u : List Char} {v : Json} (hne : u ≠ [])
    (h : ∀ t, readWord (u ++ t) = some (v, t)) : Denotes u v := by
  intro t fuel _ hf
  have hpos := List.length_pos_iff.2 hne
  obtain ⟨fuel, rfl⟩ := Nat.exists_eq_add_of_lt (show 0 < fuel by omega)
  exact readValue_of_readWord (h t) _

theorem denotes_of_readWord {s r : List Char} {v : Json} (h : readWord s = some (v, r)) :
    ∃ u, s = u ++ r ∧ Denotes u v := by
  obtain ⟨u, hu, hne, hd⟩ := readWord_split h
  exact ⟨u, hu, denotes_word hne hd⟩

theorem denotes_unsigned {c : Char} {u : List Char} {v : Json} (hc : isAsciiDigit c = true)
    (h : ∀ t, Ended t → readUnsigned false (c :: u ++ t) = some (v, t)) (hv : v.isNumeric = true) :
    Denotes (c :: u) v := by
  intro t fuel ht hf
  obtain ⟨fuel, rfl⟩ := Nat.exists_eq_add_of_lt (show 0 < fuel by simp at hf; omega)
  have hn := h t (ht hv)
  rw [List.cons_append] at hn ⊢
  rw [Nat.zero_add, readValue, (readWord_of_digit hc _).1, hn]
  · rfl
  -- a digit opens no string, array or object, and is no minus
  all_goals
    intro _ h
    cases h
    exact absurd hc (by decide)

theorem denotes_negative {c : Char} {u : List Char} {v : Json} (hc : isAsciiDigit c = true)
    (h : ∀ t, Ended t → readUnsigned true (c :: u ++ t) = some (v, t)) (hv : v.isNumeric = true) :
    Denotes ('-' :: c :: u) v := by
  intro t fuel ht hf
  obtain ⟨fuel, rfl⟩ := Nat.exists_eq_add_of_lt (show 0 < fuel by simp at hf; omega)
  have hn := h t (ht hv)
  rw [List.cons_append] at hn
  simp only [List.cons_append, readValue, (readWord_of_digit hc _).2, hn]
  rfl

theorem readsValues_succ {fuel : Nat} (hi : ReadsItems fuel) (hm : ReadsMembers fuel) :
    ReadsValues (fuel + 1) := by
  intro s r v h hr
  unfold readValue at h
  split at h
  · next q =>
    simp only [Option.map_eq_some_iff] at h
    obtain ⟨⟨x, q'⟩, hq, h⟩ := h
    cases h
    obtain ⟨u, rfl, hd⟩ := denotesString_of_readString hq
    exact ⟨'"' :: u, rfl, hd.denotes⟩
  · next q =>
    obtain ⟨w, hw, hqw⟩ := exists_blank q
    split at h
    · next q' hq' =>
      cases h
      exact ⟨_, by rw [hqw, hq']; simp, denotes_emptyArray hw⟩
    · simp only [Option.map_eq_some_iff] at h
      obtain ⟨⟨vs, q'⟩, hq', h⟩ := h
      cases h
      obtain ⟨u, hu, hd⟩ := hi hq'
      exact ⟨_, by rw [hqw, hu]; simp, (hd.blank hw).array⟩
  · next q =>
    obtain ⟨w, hw, hqw⟩ := exists_blank q
    split at h
    · next q' hq' =>
      cases h
      exact ⟨_, by rw [hqw, hq']; simp, denotes_emptyObject hw⟩
    · simp only [Option.map_eq_some_iff] at h
      obtain ⟨⟨ms, q'⟩, hq', h⟩ := h
      cases h
      obtain ⟨u, hu, hd⟩ := hm hq'
      exact ⟨_, by rw [hqw, hu]; simp, hd.object hw⟩
  · next q =>
    obtain hq | ⟨_, hq⟩ := Option.or_eq_some_iff.1 h
    · exact denotes_of_readWord hq
    · obtain ⟨c, u, rfl, hc, hd⟩ := readUnsigned_split hq (hr (isNumeric_of_readUnsigned hq))
      exact ⟨'-' :: c :: u, rfl, denotes_negative hc hd (isNumeric_of_readUnsigned hq)⟩
  · obtain hq | ⟨_, hq⟩ := Option.or_eq_some_iff.1 h
    · exact denotes_of_readWord hq
    · obtain ⟨c, u, rfl, hc, hd⟩ := readUnsigned_split hq (hr (isNumeric_of_readUnsigned hq))
      exact ⟨c :: u, rfl, denotes_unsigned hc hd (isNumeric_of_readUnsigned hq)⟩

theorem reads (fuel : Nat) : ReadsValues fuel ∧ ReadsItems fuel ∧ ReadsMembers fuel := by
  induction fuel with
  | zero =>
    refine ⟨fun s r v h => ?_, fun s r vs h => ?_, fun done s r ms h => ?_⟩
    · simp at h
    · simp at h
    · simp at h
  | succ fuel ih =>
    obtain ⟨hv, hi, hm⟩ := ih
    exact ⟨readsValues_succ hi hm, readsItems_succ hv hi, readsMembers_succ hv hm⟩

/-! ## Whole texts -/

/-- A text that stands for a value other than a number, with white space around it. -/
theorem denotes_of_read {s : List Char} {v : Json} (hv : v.isNumeric = false)
    (h : read s = some v) : ∃ w u w', Blank w ∧ Blank w' ∧ s = w ++ (u ++ w') ∧ Denotes u v := by
  unfold read at h
  split at h
  · next v' r hr =>
    split at h
    · next hb =>
      cases h
      obtain ⟨w, hw, hs⟩ := exists_blank s
      obtain ⟨u, hu, hd⟩ := (reads _).1 hr fun h => by simp [hv] at h
      have hr : Blank r := blank_of_skipSpace (by simpa using hb)
      exact ⟨w, u, r, hw, hr, by rw [← hu, ← hs], hd⟩
    · cases h
  · cases h

/-- Such a text is read as its value, unless something else follows it. -/
theorem read_denotes {w u : List Char} {v : Json} (hw : Blank w) (hd : Denotes u v)
    (hv : v.isNumeric = false) (t : List Char) :
    read (w ++ (u ++ t)) = if skipSpace t = [] then some v else none := by
  have hs : skipSpace (w ++ (u ++ t)) = u ++ t := by
    rw [skipSpace_append hw, skipSpace_denotes hd]
  have hf : 2 * u.length ≤ 2 * (w ++ (u ++ t)).length + 2 := by
    simp only [List.length_append]
    omega
  simp only [read, hs, hd t _ (fun h => by simp [hv] at h) hf, List.isEmpty_iff]

/-- Neither a word nor a number is an object. -/
theorem no_object (negative : Bool) (s s' : List Char) {r : List Char} {ms : Members} :
    (readWord s).or (readUnsigned negative s') ≠ some (.object ms, r) := by
  intro h
  obtain h | ⟨_, h⟩ := Option.or_eq_some_iff.1 h
  · unfold readWord at h
    split at h <;> cases h
  · cases isNumeric_of_readUnsigned h

theorem readValue_braces {fuel : Nat} {s r : List Char} {ms : Members}
    (h : readValue fuel s = some (.object ms, r)) : ∃ m, s = '{' :: (m ++ '}' :: r) := by
  cases fuel with
  | zero => simp at h
  | succ fuel =>
    unfold readValue at h
    split at h
    · simp at h
    · split at h <;> simp at h
    · next q =>
      obtain ⟨w, _, hq⟩ := exists_blank q
      split at h
      · next q' hq' =>
        cases h
        exact ⟨w, by rw [hq, hq']⟩
      · simp only [Option.map_eq_some_iff] at h
        obtain ⟨⟨ms', q'⟩, hq', h⟩ := h
        cases h
        obtain ⟨m, hm, _⟩ := (reads fuel).2.2 hq'
        exact ⟨w ++ m, by rw [hq, hm]; simp⟩
    · exact absurd h (no_object true _ _)
    · exact absurd h (no_object false _ _)

theorem Denotes.braces {u : List Char} {ms : Members} (h : Denotes u (.object ms)) :
    ∃ m, u = '{' :: (m ++ ['}']) := by
  obtain ⟨m, hm⟩ := readValue_braces (h [] _ (fun h => by cases h) le_rfl)
  exact ⟨m, by simpa using hm⟩

end Reckon.Json
