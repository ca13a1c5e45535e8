import Mathlib.Data.Nat.Digits.Defs
import Reckon.Session.Radix

/-
Numerals of whole numbers. A text is read in a base by the values of its digits and their
places (`natural?`, `integer?`); which characters are digits, and of which value, is left open.
The numeral of an integer is the text that reads as it and has no zero in front and no sign for
zero (`IsNumeralOf`). The digits that are written, in base ten and in the bases of a conversion,
are the numeral in that base.
-/
namespace Reckon.Number

/-! ## Reading -/

/-- The number that digits stand for in base `b`, those of the greatest place first. -/
def natural? (digit? : Char → Option Nat) (b : Nat) (s : List Char) : Option Nat :=
  if !s.isEmpty && s.all (fun c => (digit? c).isSome) then
    some (Nat.ofDigits b (s.filterMap digit?).reverse)
  else none

/-- The integer that digits behind an optional minus stand for. -/
def integer? (digit? : Char → Option Nat) (b : Nat) : List Char → Option Int
  | '-' :: s => (natural? digit? b s).map fun (n : Nat) => -(n : Int)
  | s => (natural? digit? b s).map fun (n : Nat) => (n : Int)

/-- The value of a digit in a base up to sixteen, the letters being capitals. -/
def capitalDigit? (b : Nat) (c : Char) : Option Nat :=
  ("0123456789ABCDEF".toList.take b).idxOf? c

/-- A text that reads as the integer `i` in base `b`, without a zero in front of other digits
and without a sign for zero. -/
structure IsNumeralOf (b : Nat) (s : List Char) (i : Int) : Prop where
  reads : integer? (capitalDigit? b) b s = some i
  noLeadingZero : ∀ r, Conversion.unsigned s = '0' :: r → r = []
  noSignedZero : s ≠ ['-', '0']

section Reading

variable {digit? : Char → Option Nat} {b : Nat}

theorem natural?_eq_some {s : List Char} (hne : s ≠ []) (h : ∀ c ∈ s, (digit? c).isSome = true) :
    natural? digit? b s = some (Nat.ofDigits b (s.filterMap digit?).reverse) := by
  have hall : s.all (fun c => (digit? c).isSome) = true := List.all_eq_true.2 h
  simp [natural?, hne, hall]

theorem natural?_append {s : List Char} {n d : Nat} {c : Char} (hs : natural? digit? b s = some n)
    (hc : digit? c = some d) : natural? digit? b (s ++ [c]) = some (b * n + d) := by
  unfold natural? at hs
  split at hs
  · next h =>
    obtain ⟨_, hall⟩ := Bool.and_eq_true_iff.1 h
    obtain rfl := Option.some.inj hs
    rw [natural?_eq_some (by simp)]
    · simp [hc, Nat.ofDigits_cons, Nat.add_comm]
    · intro e he
      obtain he | rfl := (List.mem_append.1 he).imp_right List.mem_singleton.1
      · exact List.all_eq_true.1 hall e he
      · simp [hc]
  · cases hs

theorem natural?_singleton {c : Char} {d : Nat} (hc : digit? c = some d) :
    natural? digit? b [c] = some d := by
  simp [natural?, hc]

theorem integer?_of_natural? {s : List Char} {n : Nat} (h : natural? digit? b s = some n)
    (hs : s.head? ≠ some '-') : integer? digit? b s = some (n : Int) := by
  unfold integer?
  split
  · simp at hs
  · simp [h]

end Reading

/-! ## Written digits -/

section Writing

variable {digit? : Char → Option Nat} {f : Char → Char} {b : Nat}

theorem natural?_toDigits (hb : 1 < b) (hf : ∀ d < b, digit? (f d.digitChar) = some d) (n : Nat) :
    natural? digit? b ((Nat.toDigits b n).map f) = some n := by
  induction n using Nat.strong_induction_on with
  | _ n ih =>
    by_cases hn : n < b
    · rw [Nat.toDigits_of_lt_base hn]
      exact natural?_singleton (hf n hn)
    · have hdiv : n / b < n := Nat.div_lt_self (by omega) hb
      rw [Nat.toDigits_of_base_le hb (by omega), List.map_append]
      rw [List.map_singleton, natural?_append (ih _ hdiv) (hf _ (Nat.mod_lt n (by omega)))]
      rw [Nat.div_add_mod]

theorem head_toDigits (hb : 1 < b) (hf : ∀ d < b, digit? (f d.digitChar) = some d) {n : Nat}
    (hn : 0 < n) : ((Nat.toDigits b n).map f).head?.bind digit? ≠ some 0 := by
  induction n using Nat.strong_induction_on with
  | _ n ih =>
    by_cases hlt : n < b
    · rw [Nat.toDigits_of_lt_base hlt]
      simp [hf n hlt, Nat.pos_iff_ne_zero.1 hn]
    · have hdiv : n / b < n := Nat.div_lt_self hn hb
      have hpos : 0 < n / b := Nat.div_pos (by omega) (by omega)
      have h := ih _ hdiv hpos
      obtain ⟨c, r, hr⟩ := List.exists_cons_of_ne_nil (Nat.toDigits_ne_nil (b := b) (n := n / b))
      rw [Nat.toDigits_of_base_le hb (by omega), hr]
      rwa [hr] at h

/-- Only zero is written with a zero in front. -/
theorem eq_nil_of_toDigits (hb : 1 < b) (hf : ∀ d < b, digit? (f d.digitChar) = some d)
    (h0 : f '0' = '0') {n : Nat} {r : List Char} (h : (Nat.toDigits b n).map f = '0' :: r) :
    n = 0 ∧ r = [] := by
  obtain rfl | hn := Nat.eq_zero_or_pos n
  · rw [Nat.toDigits_zero, List.map_singleton, h0] at h
    exact ⟨rfl, (List.cons.inj h).2.symm⟩
  · have hhead := head_toDigits hb hf hn
    have hzero : digit? '0' = some 0 := by
      have := hf 0 (by omega)
      rwa [show Nat.digitChar 0 = '0' from rfl, h0] at this
    rw [h] at hhead
    exact absurd hzero hhead

theorem isNumeralOf_toDigits (hb : 1 < b)
    (hf : ∀ d < b, capitalDigit? b (f d.digitChar) = some d) (h0 : f '0' = '0') (i : Int) :
    IsNumeralOf b (if i < 0 then '-' :: (Nat.toDigits b i.natAbs).map f
      else (Nat.toDigits b i.natAbs).map f) i := by
  have hreads := natural?_toDigits hb hf i.natAbs
  have hzero {r : List Char} := eq_nil_of_toDigits (r := r) hb hf h0 (n := i.natAbs)
  have hminus : capitalDigit? b '-' = none := by
    refine List.idxOf?_eq_none_iff.2 fun h => ?_
    exact absurd (List.mem_of_mem_take h) (by decide)
  have hhead : ((Nat.toDigits b i.natAbs).map f).head? ≠ some '-' := by
    intro h
    obtain ⟨r, hr⟩ := List.head?_eq_some_iff.1 h
    rw [hr] at hreads
    simp [natural?, hminus] at hreads
  split
  · next hi =>
    refine ⟨?_, fun r hr => (hzero hr).2, fun h => ?_⟩
    · have habs : -(i.natAbs : Int) = i := by omega
      simp only [integer?, hreads, Option.map_some, habs]
    · have := (hzero (List.cons.inj h).2).1
      omega
  · next hi =>
    refine ⟨?_, fun r hr => (hzero (r := r) ?_).2, fun h => hhead (by rw [h]; rfl)⟩
    · have habs : (i.natAbs : Int) = i := by omega
      rw [integer?_of_natural? hreads hhead, habs]
    · unfold Conversion.unsigned at hr
      split at hr
      · next h => rw [h] at hhead; simp at hhead
      · exact hr

end Writing

theorem isNumeralOf_intDigits (i : Int) : IsNumeralOf 10 (intDigits i) i := by
  have h := isNumeralOf_toDigits (b := 10) (f := id) (by decide) (by decide) rfl i
  simpa only [List.map_id, intDigits, decimalDigits] using h

end Reckon.Number

namespace Reckon
open Number

theorem Radix.isNumeralOf_write (r : Radix) (i : Int) : IsNumeralOf r.base (r.write i) i := by
  have hb : 1 < r.base := by cases r <;> decide
  have hf : ∀ d < r.base, capitalDigit? r.base d.digitChar.toUpper = some d := by
    cases r <;> decide
  exact isNumeralOf_toDigits hb hf rfl i

/-! ## The text that is converted -/

namespace Conversion

theorem digitsAfter_eq {s : List Char} (h : ∀ c ∈ s, Text.isDigit c = true) (n : Nat) :
    digitsAfter n s =
      n * 10 ^ s.length + Nat.ofDigits 10 (s.filterMap Text.digitValue?).reverse := by
  induction s generalizing n with
  | nil => simp [digitsAfter]
  | cons c s ih =>
    obtain ⟨d, hd⟩ := Option.isSome_iff_exists.1 (h c List.mem_cons_self)
    have hs : ∀ e ∈ s, (Text.digitValue? e).isSome = true :=
      fun e he => h e (List.mem_cons_of_mem c he)
    have hlen : (s.filterMap Text.digitValue?).length = s.length := by
      rw [List.length_filterMap_eq_countP, List.countP_eq_length]
      exact hs
    rw [digitsAfter, ih hs, hd, List.filterMap_cons_some hd, List.reverse_cons,
      Nat.ofDigits_append, List.length_reverse, hlen, List.length_cons]
    simp only [Option.getD_some, Nat.ofDigits_singleton]
    ring

/-- The texts that can be converted are the decimal numerals in the digits of any script, and
they are converted as what they stand for. -/
theorem integer?_eq (s : List Char) :
    integer? Text.digitValue? 10 s = if isWhole s = true then some (value s) else none := by
  have hnat (r : List Char) : natural? Text.digitValue? 10 r =
      if (!r.isEmpty && r.all Text.isDigit) = true then some (digitsValue r) else none := by
    refine ite_congr rfl (fun h => ?_) fun _ => rfl
    have hall := List.all_eq_true.1 (Bool.and_eq_true_iff.1 h).2
    rw [digitsValue, digitsAfter_eq hall, Nat.zero_mul, Nat.zero_add]
  unfold integer? isWhole
  split
  · simp only [hnat, value, unsigned, List.head?_cons, if_true]
    split <;> rfl
  · next hminus =>
    have hs : s.head? ≠ some '-' := by
      intro h
      obtain ⟨r, rfl⟩ := List.head?_eq_some_iff.1 h
      exact hminus r rfl
    have hu : unsigned s = s := by
      unfold unsigned
      split
      · simp at hs
      · rfl
    simp only [hnat, value, hs, if_false, hu]
    split <;> rfl

end Conversion

end Reckon
