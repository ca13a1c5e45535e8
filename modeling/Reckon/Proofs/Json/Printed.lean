import Mathlib.Data.List.Nodup
import Reckon.Json.Printer
import Reckon.Proofs.Json.Denotation

/-
Printed JSON text is read back. A string is printed by its UTF-16 units, every one of them
spelled in ASCII, and the reader joins them again (`denotesString_print`). From there on the text
of a value is put together as the value is, so it stands for it, as long as no number occurs in
it and no object names a member twice (`denotes_print`).
-/
namespace Reckon.Json

/-! ## Strings -/

/-- The UTF-16 units of a character. -/
def units (c : Char) : List Nat :=
  if c.toNat < 0x10000 then [c.toNat]
  else [0xd800 + (c.toNat - 0x10000) / 1024, 0xdc00 + (c.toNat - 0x10000) % 1024]

theorem hexValue?_hexDigit : ∀ d < 16, hexValue? (hexDigit d) = some d := by decide

theorem denotesUnits_escapeUnit {n : Nat} (h : n < 0x10000) : DenotesUnits (escapeUnit n) [n] := by
  have hdigit (k : Nat) : hexValue? (hexDigit (k % 16)) = some (k % 16) :=
    hexValue?_hexDigit _ (Nat.mod_lt k (by decide))
  refine DenotesUnits.hex ?_
  simp only [hexFour?, hdigit]
  have hn : ((n / 16 / 16 / 16 % 16 * 16 + n / 16 / 16 % 16) * 16 + n / 16 % 16) * 16 + n % 16 =
      n := by
    omega
  simp [hn]

theorem toNat_valid (c : Char) : c.toNat < 0xd800 ∨ 0xdfff < c.toNat ∧ c.toNat < 0x110000 := c.valid

theorem toNat_lt (c : Char) : c.toNat < 0x110000 := by
  have := toNat_valid c
  omega

theorem denotesUnits_printChar (c : Char) : DenotesUnits (printChar c) (units c) := by
  unfold printChar
  split
  · exact .escape rfl
  · exact .escape rfl
  · exact .escape rfl
  · exact .escape rfl
  · exact .escape rfl
  · exact .escape rfl
  · exact .escape rfl
  · next hq hb _ _ _ _ _ =>
    split
    · next hc =>
      have hc : c.toNat < 0x10000 := by simp at hc; omega
      rw [units, if_pos hc]
      exact denotesUnits_escapeUnit hc
    · next hc =>
      split
      · next hsmall =>
        rw [units, if_pos (by omega)]
        exact .plain hq hb (by simp at hc; omega)
      · next hsmall =>
        have hbig : ¬ c.toNat < 0x10000 := by simp at hc; omega
        rw [units, if_neg hbig]
        have hmax := toNat_lt c
        exact (denotesUnits_escapeUnit (by omega)).append (denotesUnits_escapeUnit (by omega))

theorem joinHalves_units (c : Char) (us : List Nat) :
    joinHalves (units c ++ us) = c :: joinHalves us := by
  have hvalid := toNat_valid c
  unfold units
  split
  · have hh : isHighHalf c.toNat = false := by
      simp [isHighHalf]
      omega
    have hl : isLowHalf c.toNat = false := by
      simp [isLowHalf]
      omega
    cases us <;> simp [joinHalves, hh, hl]
  · generalize hn : c.toNat - 0x10000 = n
    have hh : isHighHalf (0xd800 + n / 1024) = true := by
      simp [isHighHalf]
      omega
    have hl : isLowHalf (0xdc00 + n % 1024) = true := by
      simp [isLowHalf]
      omega
    have hc : 0x10000 + (0xd800 + n / 1024 - 0xd800) * 1024 + (0xdc00 + n % 1024 - 0xdc00) =
        c.toNat := by
      omega
    simp only [List.cons_append, List.nil_append, joinHalves, hh, hl, Bool.and_self, if_true, hc,
      Char.ofNat_toNat]

theorem joinHalves_flatMap (s : List Char) : joinHalves (s.flatMap units) = s := by
  induction s with
  | nil => rfl
  | cons c s ih => rw [List.flatMap_cons, joinHalves_units, ih]

theorem denotesUnits_flatMap (s : List Char) :
    DenotesUnits (s.flatMap printChar) (s.flatMap units) := by
  induction s with
  | nil => exact .nil
  | cons c s ih => exact (denotesUnits_printChar c).append ih

theorem denotesString_print (x : String) :
    DenotesString (x.toList.flatMap printChar ++ ['"']) x := by
  have h := (denotesUnits_flatMap x.toList).string
  rwa [joinHalves_flatMap, String.ofList_toList] at h

/-! ## Values -/

mutual

/-- No number occurs in the value, and no object in it names a member twice. -/
def IsPlain : Json → Prop
  | .int _ => False
  | .number _ => False
  | .array items => AllPlain items
  | .object members => (members.map Prod.fst).Nodup ∧ MembersPlain members
  | _ => True

def AllPlain : List Json → Prop
  | [] => True
  | v :: r => IsPlain v ∧ AllPlain r

def MembersPlain : List (String × Json) → Prop
  | [] => True
  | (_, v) :: r => IsPlain v ∧ MembersPlain r

end

theorem put_of_not_mem {name : String} {done : Members} (h : name ∉ done.map Prod.fst) (v : Json) :
    put name v done = done ++ [(name, v)] := by
  induction done with
  | nil => rfl
  | cons m done ih =>
    obtain ⟨n, v'⟩ := m
    simp only [List.map_cons, List.mem_cons, not_or] at h
    simp [put, Ne.symm h.1, ih h.2]

theorem blank_space : Blank [' '] := by
  intro c hc
  rw [List.mem_singleton.1 hc]
  rfl

theorem denotes_print_null : Denotes (print .null) .null := by
  rw [print]
  exact denotes_word (by simp) fun t => by simp [readWord, dropWord]

theorem denotes_print_bool (b : Bool) : Denotes (print (.bool b)) (.bool b) := by
  rw [print]
  cases b with
  | false => exact denotes_word (by simp) fun t => by simp [readWord, dropWord]
  | true => exact denotes_word (by simp) fun t => by simp [readWord, dropWord]

theorem not_mem_of_nodup {done r : Members} {n : String} {v : Json}
    (h : ((done ++ (n, v) :: r).map Prod.fst).Nodup) : n ∉ done.map Prod.fst := by
  rw [List.map_append, List.nodup_append] at h
  exact fun hm => h.2.2 n hm n (by simp) rfl

mutual

theorem denotes_print : ∀ v : Json, IsPlain v → Denotes (print v) v
  | .null, _ => denotes_print_null
  | .bool b, _ => denotes_print_bool b
  | .string x, _ => (denotesString_print x).denotes
  | .array [], _ => denotes_emptyArray blank_nil
  | .array (v :: r), h => (denotes_printItems (v :: r) (by simp) h).array
  | .object [], _ => denotes_emptyObject blank_nil
  | .object (m :: r), h => (denotes_printMembers (m :: r) [] (by simp) h.2 h.1).object blank_nil

theorem denotes_printItems : ∀ vs : List Json, vs ≠ [] → AllPlain vs →
    DenotesItems (printItems vs) vs
  | [], hne, _ => absurd rfl hne
  | [v], _, h => by
    simpa [printItems] using (denotes_print v h.1).item blank_nil blank_nil
  | v :: v' :: r, _, h => by
    have hr := (denotes_printItems (v' :: r) (by simp) h.2).blank blank_space
    simpa [printItems] using hr.cons blank_nil (denotes_print v h.1) blank_nil

theorem denotes_printMembers : ∀ (ms done : Members), ms ≠ [] → MembersPlain ms →
    ((done ++ ms).map Prod.fst).Nodup → DenotesMembers done (printMembers ms) (done ++ ms)
  | [], _, hne, _, _ => absurd rfl hne
  | [(n, v)], done, _, h, hn => by
    rw [← put_of_not_mem (not_mem_of_nodup hn) v]
    simpa [printMembers, printString] using
      (denotes_print v h.1).member (denotesString_print n) blank_nil blank_space blank_nil
  | (n, v) :: m :: r, done, _, h, hn => by
    have hdone : done ++ (n, v) :: m :: r = put n v done ++ m :: r := by
      rw [put_of_not_mem (not_mem_of_nodup hn) v]
      simp
    rw [hdone] at hn ⊢
    have hr := denotes_printMembers (m :: r) (put n v done) (by simp) h.2 hn
    simpa [printMembers, printString] using
      hr.cons (denotesString_print n) blank_nil blank_space (denotes_print v h.1) blank_nil
        blank_space

end

theorem read_print {v : Json} (h : IsPlain v) : read (print v) = some v := by
  have hv : v.isNumeric = false := by
    cases v <;> simp_all [IsPlain, isNumeric]
  have := read_denotes blank_nil (denotes_print v h) hv []
  simpa [skipSpace] using this

end Reckon.Json
