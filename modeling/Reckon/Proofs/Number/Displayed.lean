import Reckon.Proofs.Formula.Literals
import Reckon.Proofs.Number.Numeral
import Reckon.Proofs.Number.Places
import Reckon.Proofs.Number.Written

/-
Displayed numbers read back. Whatever its layout, the text of a decimal number is a literal that
stands for it (`exists_figures_layout`), so the text of a displayed result is a sign, if there is
one, and a literal that is read as the number displayed (`exists_figures_resultText`): a whole
number is on the grid of doubles, and every other text was chosen among those that read back. The
number displayed is the double rounded to ten places, so what is read back is near the double, and
displaying it once more gives the same text (`resultText_reads_back`).
-/
namespace Reckon.Number
open Text Formula

/-! ## Digits -/

theorem isDigit_decimalDigits (n : ℕ) : (decimalDigits n).all isDigit = true :=
  List.all_eq_true.2 fun _ hc => isDigit_of_mem_decimalDigits hc

theorem digitsValue_decimalDigits (n : ℕ) : digitsValue (decimalDigits n) = n := by
  have h : natural? digitValue? 10 ((Nat.toDigits 10 n).map id) = some n :=
    natural?_toDigits (by decide) (by decide) n
  rw [List.map_id, natural?_eq_some Nat.toDigits_ne_nil] at h
  · have hdigits := Conversion.digitsAfter_eq (List.all_eq_true.1 (isDigit_decimalDigits n)) 0
    rw [Nat.zero_mul, Nat.zero_add] at hdigits
    exact hdigits.trans (Option.some.inj h)
  · exact List.all_eq_true.1 (isDigit_decimalDigits n)

theorem isDigit_zeros (n : ℕ) : (zeros n).all isDigit = true := by
  refine List.all_eq_true.2 fun c hc => ?_
  rw [List.eq_of_mem_replicate hc]
  decide

theorem digitsAfter_zeros (n k : ℕ) : digitsAfter n (zeros k) = n * 10 ^ k := by
  induction k generalizing n with
  | zero => simp [zeros, digitsAfter]
  | succ k ih =>
    have hzero : digitValue? '0' = some 0 := by decide
    have hstep := ih (10 * n + 0)
    rw [zeros, List.replicate_succ, digitsAfter, hzero]
    rw [zeros] at hstep
    rw [Option.getD_some, hstep, Nat.pow_succ]
    ring

theorem digitsValue_append_zeros (ds : List Char) (k : ℕ) :
    digitsValue (ds ++ zeros k) = digitsValue ds * 10 ^ k := by
  rw [digitsValue, digitsAfter_append, digitsAfter_zeros, digitsValue]

theorem digitsValue_zeros_append (ds : List Char) (k : ℕ) :
    digitsValue (zeros k ++ ds) = digitsValue ds := by
  rw [digitsValue, digitsAfter_append, digitsAfter_zeros, Nat.zero_mul, digitsValue]

theorem dropTrailingZeros_append (ds : List Char) :
    ∃ k, dropTrailingZeros ds ++ zeros k = ds := by
  refine ⟨(ds.reverse.takeWhile (· == '0')).length, ?_⟩
  have hzeros : (ds.reverse.takeWhile (· == '0')).reverse =
      zeros (ds.reverse.takeWhile (· == '0')).length := by
    refine List.eq_replicate_iff.2 ⟨List.length_reverse, fun c hc => ?_⟩
    simpa using List.mem_takeWhile_imp (List.mem_reverse.1 hc)
  rw [dropTrailingZeros, ← hzeros, ← List.reverse_append, List.takeWhile_append_dropWhile,
    List.reverse_reverse]

/-! ## Layouts -/

theorem Figures.size_decimal (f : Figures) (negative : Bool) :
    (f.decimal negative).size =
      digitsValue (f.whole ++ f.places) * 10 ^ (f.order - f.places.length) := rfl

theorem Figures.valid_digits {ds : List Char} (hds : ds.all isDigit = true) (hne : ds ≠ []) :
    (⟨ds, none, none⟩ : Figures).Valid :=
  ⟨hds, by simp, .inl hne, by simp⟩

/-- The mark and the digits of an exponent. -/
def exponentParts (e : ℤ) : List Char × List Char :=
  (['e', if e < 0 then '-' else '+'],
    zeros (2 - (decimalDigits e.natAbs).length) ++ decimalDigits e.natAbs)

theorem exponentText_eq (e : ℤ) :
    Layout.plain.exponentText e = (exponentParts e).1 ++ (exponentParts e).2 := rfl

theorem exponentParts_valid (e : ℤ) : (exponentParts e).1 ∈ exponentMarks ∧
    (exponentParts e).2 ≠ [] ∧ (exponentParts e).2.all isDigit = true := by
  refine ⟨?_, ?_, ?_⟩
  · simp only [exponentParts]
    split <;> decide
  · simp [exponentParts, decimalDigits_ne_nil]
  · simp [exponentParts, List.all_append, isDigit_zeros, isDigit_decimalDigits]

theorem markedExponent_exponentParts (e : ℤ) :
    markedExponent (exponentParts e).1 (exponentParts e).2 = e := by
  simp only [markedExponent, exponentParts, digitsValue_zeros_append, digitsValue_decimalDigits]
  split
  · rw [if_pos (by decide)]
    omega
  · rw [if_neg (by decide)]
    omega

section Layout

variable {ds : List Char} (hds : ds.all isDigit = true)
include hds

/-- One digit in front of the point, and an exponent. -/
theorem exists_figures_scientific {d : Char} {r : List Char} (h : ds = d :: r) (k : ℤ) :
    ∃ f : Figures, f.Valid ∧
      f.text = d :: (if r = [] then [] else '.' :: r) ++ Layout.plain.exponentText (k - 1) ∧
      ∀ negative, (f.decimal negative).size = digitsValue ds * 10 ^ (k - ds.length) := by
  subst h
  simp only [List.all_cons, Bool.and_eq_true] at hds
  refine ⟨⟨[d], if r = [] then none else some r, some (exponentParts (k - 1))⟩, ⟨?_, ?_, ?_, ?_⟩,
    ?_, fun negative => ?_⟩
  · simpa using hds.1
  · intro fs hfs
    split at hfs <;> cases hfs
    exact hds.2
  · exact .inl (List.cons_ne_nil _ _)
  · rintro e ⟨⟩
    exact exponentParts_valid _
  · rw [exponentText_eq]
    split <;> simp [Figures.text, Figures.mantissa, Figures.power, *]
  · have hplaces : (if r = [] then none else some r).getD [] = r := by
      split <;> simp [*]
    rw [Figures.size_decimal]
    simp only [Figures.places, Figures.order, hplaces, Option.map_some, Option.getD_some,
      markedExponent_exponentParts, List.cons_append, List.nil_append, List.length_cons]
    congr 2
    push_cast
    ring

/-- A zero in front of the point, and more behind it. -/
theorem exists_figures_leading {k : ℤ} (h : k ≤ 0) :
    ∃ f : Figures, f.Valid ∧ f.text = '0' :: '.' :: (zeros (-k).toNat ++ ds) ∧
      ∀ negative, (f.decimal negative).size = digitsValue ds * 10 ^ (k - ds.length) := by
  refine ⟨⟨['0'], some (zeros (-k).toNat ++ ds), none⟩, ⟨?_, ?_, ?_, by simp⟩, ?_,
    fun negative => ?_⟩
  · exact isDigit_zeros 1
  · rintro fs ⟨⟩
    simp [isDigit_zeros, hds]
  · exact .inl (List.cons_ne_nil _ _)
  · simp [Figures.text, Figures.mantissa, Figures.power]
  · have hzeros : digitsValue (['0'] ++ (zeros (-k).toNat ++ ds)) = digitsValue ds :=
      digitsValue_zeros_append ds ((-k).toNat + 1)
    rw [Figures.size_decimal]
    simp only [Figures.places, Figures.order, Option.getD_some, Option.map_none, Option.getD_none]
    rw [hzeros, List.length_append, zeros, List.length_replicate]
    congr 2
    push_cast
    omega

/-- Digits in front of the point, filled up with zeros, and behind it what is left of them. -/
theorem exists_figures_positional (hne : ds ≠ []) {k : ℤ} (h : 0 < k) :
    ∃ f : Figures, f.Valid ∧
      f.text = ds.take k.toNat ++ zeros (k.toNat - (ds.take k.toNat).length) ++
        '.' :: (if (ds.drop k.toNat).isEmpty then ['0'] else ds.drop k.toNat) ∧
      ∀ negative, (f.decimal negative).size = digitsValue ds * 10 ^ (k - ds.length) := by
  have hwhole : (ds.take k.toNat ++ zeros (k.toNat - (ds.take k.toNat).length)).all isDigit =
      true := by
    rw [List.all_append, isDigit_zeros, Bool.and_true]
    exact List.all_eq_true.2 fun c hc => List.all_eq_true.1 hds c (List.mem_of_mem_take hc)
  have hfirst : ds.take k.toNat ++ zeros (k.toNat - (ds.take k.toNat).length) ≠ [] := by
    have hpos : k.toNat ≠ 0 := by omega
    simp [List.take_eq_nil_iff, hne, hpos]
  refine ⟨⟨_, some (if (ds.drop k.toNat).isEmpty then ['0'] else ds.drop k.toNat), none⟩,
    ⟨hwhole, ?_, .inl hfirst, by simp⟩, ?_, fun negative => ?_⟩
  · rintro fs ⟨⟩
    split
    · decide
    · exact List.all_eq_true.2 fun c hc => List.all_eq_true.1 hds c (List.mem_of_mem_drop hc)
  · simp [Figures.text, Figures.mantissa, Figures.power]
  · rw [Figures.size_decimal]
    simp only [Figures.places, Figures.order, Option.getD_some, Option.map_none, Option.getD_none]
    split
    · next hempty =>
      -- all digits are in front of the point, and a zero stands behind it
      have hlen : ds.length ≤ k.toNat := by simpa using hempty
      have htake : ds.take k.toNat = ds := List.take_of_length_le hlen
      have hzeros : zeros (k.toNat - ds.length) ++ ['0'] = zeros (k.toNat - ds.length + 1) := by
        rw [zeros, zeros, List.replicate_succ']
      rw [htake, List.append_assoc, hzeros, digitsValue_append_zeros]
      push_cast
      rw [mul_assoc, ← zpow_natCast, ← zpow_add₀ (by norm_num)]
      congr 2
      push_cast [Nat.cast_sub hlen]
      rw [List.length_singleton]
      omega
    · next hmore =>
      have hlen : k.toNat < ds.length := by simpa using hmore
      have htake : (ds.take k.toNat).length = k.toNat := by
        rw [List.length_take]
        omega
      rw [htake, Nat.sub_self, zeros, List.replicate_zero, List.append_nil,
        List.take_append_drop, List.length_drop]
      congr 2
      omega

/-- However digits are laid out, the text is a literal that stands for them, the point being where
it should. -/
theorem exists_figures_layout (hne : ds ≠ []) (k : ℤ) :
    ∃ f : Figures, f.Valid ∧ f.text = Layout.plain.text ds k ∧
      ∀ negative, (f.decimal negative).size = digitsValue ds * 10 ^ (k - ds.length) := by
  unfold Layout.text
  split
  · obtain ⟨d, r, h⟩ := List.exists_cons_of_ne_nil hne
    obtain ⟨f, hv, htext, hsize⟩ := exists_figures_scientific hds h k
    refine ⟨f, hv, ?_, hsize⟩
    subst h
    cases r with
    | nil => exact htext
    | cons e r => exact htext
  split
  · next hk => exact exists_figures_leading hds hk
  · next hk => exact exists_figures_positional hds hne (not_le.1 hk)

end Layout

/-- The text of a decimal number above zero is a literal that stands for it. -/
theorem Decimal.exists_figures {d : Decimal} (h : d.digits ≠ 0) :
    ∃ f : Figures, f.Valid ∧ f.text = d.text .plain ∧
      ∀ negative, (f.decimal negative).size = d.size := by
  obtain ⟨k, hk⟩ := dropTrailingZeros_append (decimalDigits d.digits)
  have hall := isDigit_decimalDigits d.digits
  have hvalue := digitsValue_decimalDigits d.digits
  have hlen := congrArg List.length hk
  rw [← hk, List.all_append, Bool.and_eq_true] at hall
  rw [← hk, digitsValue_append_zeros] at hvalue
  rw [List.length_append, zeros, List.length_replicate] at hlen
  have hne : dropTrailingZeros (decimalDigits d.digits) ≠ [] := by
    intro hnil
    rw [hnil, digitsValue, digitsAfter, Nat.zero_mul] at hvalue
    exact h hvalue.symm
  obtain ⟨f, hv, htext, hsize⟩ := exists_figures_layout hall.1 hne
    (d.exponent + (decimalDigits d.digits).length)
  refine ⟨f, hv, htext, fun negative => ?_⟩
  have hdigits : (d.digits : ℚ) = digitsValue (dropTrailingZeros (decimalDigits d.digits)) *
      10 ^ (k : ℤ) := by
    rw [zpow_natCast]
    exact_mod_cast hvalue.symm
  rw [hsize, Decimal.size, hdigits, mul_assoc, ← zpow_add₀ (by norm_num), ← hlen]
  congr 2
  push_cast
  ring

/-! ## Reading -/

/-- A minus for a number below zero. -/
def minus (negative : Bool) : List Char := if negative then ['-'] else []

theorem isBlank_of_isNumeral {c : Char} (h : IsNumeral c) : isBlank c = false := by
  obtain h | h := h
  · have hrange : 48 ≤ c.toNat ∧ c.toNat ≤ 57 := by
      simpa [Char.isDigit, Char.le_def, UInt32.le_iff_toNat_le] using h
    simp only [isBlank, blanks, Ranges.has_cons, Ranges.has_nil, Bool.or_false]
    simp only [Bool.or_eq_false_iff, Bool.and_eq_false_iff, decide_eq_false_iff_not]
    omega
  · have hall : "+-.einfa".toList.all (fun c => !isBlank c) = true := by decide
    simpa using List.all_eq_true.1 hall c h

/-- A text without white space is trimmed to itself. -/
theorem trim_eq_self {s : List Char} (h : ∀ c ∈ s, isBlank c = false) : trim s = s := by
  have hdrop {t : List Char} (ht : ∀ c ∈ t, isBlank c = false) : t.dropWhile isBlank = t := by
    cases t with
    | nil => rfl
    | cons c t => simp [ht c List.mem_cons_self]
  rw [trim, trimStart, hdrop h, trimEnd, hdrop fun c hc => h c (List.mem_reverse.1 hc),
    List.reverse_reverse]

theorem takeSign_minus {f : Figures} (hv : f.Valid) (negative : Bool) :
    takeSign (minus negative ++ f.text) = (negative, f.text) := by
  cases negative with
  | true => rfl
  | false =>
    obtain ⟨c, r, htext⟩ := List.exists_cons_of_ne_nil hv.text_ne_nil
    have hplus : c ≠ '+' := by
      rintro rfl
      obtain h | ⟨h, _⟩ := hv.head htext
      · exact absurd h (by decide)
      · exact absurd h (by decide)
    have hminus : c ≠ '-' := by
      rintro rfl
      obtain h | ⟨h, _⟩ := hv.head htext
      · exact absurd h (by decide)
      · exact absurd h (by decide)
    simp [minus, htext, takeSign, hplus, hminus]

/-- A sign and a literal are read as the double nearest to what they stand for. -/
theorem readDouble_minus {f : Figures} (hv : f.Valid) (negative : Bool)
    (hw : Written (minus negative ++ f.text)) :
    readDouble (minus negative ++ f.text) = some (f.decimal negative).toDouble := by
  rw [readDouble, trim_eq_self fun c hc => isBlank_of_isNumeral (hw c hc)]
  simp only [takeSign_minus hv, hv.readMagnitude_text]

/-! ## Whole numbers -/

theorem floorInt_of_isWhole {x : Dyadic} (h : isWhole x = true) : (floorInt x : ℚ) = x.toRat := by
  have hparts : 0 ≤ (parts x).2 := by
    cases x with
    | zero => exact le_rfl
    | ofOdd n k hn =>
      simp only [isWhole, decide_eq_true_eq] at h
      simp only [parts]
      omega
  rw [toRat_eq_parts]
  simp only [floorInt, if_pos hparts, Int.shiftLeft_eq]
  push_cast
  rw [← zpow_natCast, Int.toNat_of_nonneg hparts]

theorem truncInt_of_isWhole {x : Dyadic} (h : isWhole x = true) : (truncInt x : ℚ) = x.toRat := by
  have hneg : isWhole (-x) = true := by
    cases x with
    | zero => rfl
    | ofOdd n k hn => simpa [Dyadic.neg_ofOdd, isWhole] using h
  unfold truncInt
  split
  · rw [Int.cast_neg, floorInt_of_isWhole hneg, Dyadic.toRat_neg, neg_neg]
  · exact floorInt_of_isWhole h

theorem toRat_absolute (x : Dyadic) : (absolute x).toRat = |x.toRat| := by
  cases x with
  | zero =>
    rw [absolute, toRat_zero, abs_zero]
  | ofOdd n k h =>
    have hpos : (0 : ℚ) < 2 ^ (-k) := by positivity
    rw [Dyadic.toRat_ofOdd_eq_mul_two_pow, abs_mul, abs_of_pos hpos, ← Int.cast_abs]
    simp only [absolute]
    split
    · next hn => rw [Dyadic.toRat_ofOdd_eq_mul_two_pow, abs_of_neg hn]
    · next hn => rw [Dyadic.toRat_ofOdd_eq_mul_two_pow, abs_of_nonneg (not_lt.1 hn)]

/-! ## The text of a result -/

theorem intDigits_eq (i : ℤ) : intDigits i = minus (decide (i < 0)) ++ decimalDigits i.natAbs := by
  unfold intDigits minus
  split <;> simp [*]

section Result

variable {d : Double} {x y : Dyadic}

theorem exists_figures_whole (hwhole : isWhole y = true) (hd : IsDouble y) :
    ∃ f : Figures, f.Valid ∧ intDigits (truncInt y) = minus (isNegative y) ++ f.text ∧
      (f.decimal (isNegative y)).nearest = |y.toRat| := by
  have htrunc := truncInt_of_isWhole hwhole
  have hsign : decide (truncInt y < 0) = isNegative y := by
    rw [Bool.eq_iff_iff, decide_eq_true_eq, isNegative_iff, ← htrunc, Int.cast_lt_zero]
  have habs : (((truncInt y).natAbs : ℕ) : ℚ) = |y.toRat| := by
    rw [Nat.cast_natAbs, Int.cast_abs, htrunc]
  refine ⟨⟨decimalDigits (truncInt y).natAbs, none, none⟩,
    Figures.valid_digits (isDigit_decimalDigits _) (decimalDigits_ne_nil _), ?_, ?_⟩
  · rw [intDigits_eq, hsign]
    simp [Figures.text, Figures.mantissa, Figures.power]
  · have hsize : ((⟨decimalDigits (truncInt y).natAbs, none, none⟩ : Figures).decimal
        (isNegative y)).size = |y.toRat| := by
      rw [Figures.size_decimal]
      simp [Figures.places, Figures.order, digitsValue_decimalDigits, habs]
    rw [Decimal.nearest_eq_size (by rw [hsize]; exact onGrid_abs.2 hd.1), hsize]

/-- The shortest decimal number of a double reads back as the double, without its sign. -/
theorem nearest_shortest (hne : y ≠ .zero) (hd : IsDouble y) :
    (shortest (absolute y)).nearest = |y.toRat| := by
  have hpos : 0 < (absolute y).toRat := by
    rw [toRat_absolute, abs_pos]
    exact fun h => hne (Dyadic.toRat_eq_zero_iff.1 h)
  have hback := toDouble_shortest (x := absolute y)
    (by rwa [IsDouble, toRat_absolute, onGrid_abs, abs_abs]) hpos
  obtain ⟨hnearest, -⟩ := Decimal.toRat_of_value?_toDouble (congrArg Double.value? hback)
  have habs := congrArg abs hnearest
  rwa [abs_signed, abs_of_nonneg (Decimal.nearest_nonneg _), toRat_absolute, abs_abs,
    eq_comm] at habs

theorem digits_shortest_ne_zero (hne : y ≠ .zero) (hd : IsDouble y) :
    (shortest (absolute y)).digits ≠ 0 := by
  intro h
  have hsize : (shortest (absolute y)).size = 0 := by rw [Decimal.size, h, Nat.cast_zero, zero_mul]
  have hnearest := nearest_shortest hne hd
  rw [Decimal.nearest_eq_size (hsize ▸ onGrid_zero), hsize, eq_comm, abs_eq_zero] at hnearest
  exact hne (Dyadic.toRat_eq_zero_iff.1 hnearest)

/-- The text of a result is a sign, if there is one, and a literal that is read as the number
displayed. -/
theorem exists_figures_resultText (hy : (roundPlaces resultPlaces d).value? = some y)
    (hd : IsDouble y) :
    ∃ f : Figures, f.Valid ∧ resultText d = minus (isNegative y) ++ f.text ∧
      (f.decimal (isNegative y)).nearest = |y.toRat| := by
  simp only [resultText, resultTextTo, hy]
  split
  · next hzero =>
    obtain rfl := isZero_iff.1 hzero
    refine ⟨⟨['0'], none, none⟩, Figures.valid_digits (by decide) (by decide), rfl, ?_⟩
    have hsize : ((⟨['0'], none, none⟩ : Figures).decimal (isNegative .zero)).size = 0 := by
      have hdigits : digitsValue ['0'] = 0 := by decide
      simp [Figures.size_decimal, Figures.places, hdigits]
    rw [toRat_zero, abs_zero, Decimal.nearest_eq_size (hsize ▸ onGrid_zero), hsize]
  next hzero =>
  have hne : y ≠ .zero := fun h => hzero (isZero_iff.2 h)
  split
  · next hwhole => exact exists_figures_whole (Bool.and_eq_true_iff.1 hwhole).1 hd
  · obtain ⟨f, hv, htext, hsize⟩ := Decimal.exists_figures (digits_shortest_ne_zero hne hd)
    refine ⟨f, hv, ?_, ?_⟩
    · rw [Double.eq_finite_of_value? hy hne, Double.text, if_neg hzero, htext]
      rfl
    · rw [Decimal.nearest_congr (hsize (isNegative y)), nearest_shortest hne hd]

/-- A text read back: as a decimal number, and as the double nearest to it. -/
structure ReadsBack (s : List Char) (p : Decimal) (r : Double) (y : Dyadic) : Prop where
  decimal : readMagnitude (takeSign s).1 (takeSign s).2 = some p
  double : readDouble s = some r
  value : r.value? = some y
  isDouble : IsDouble y
  nearest : ∀ z, IsDouble z → |y.toRat - p.value| ≤ |z.toRat - p.value|

theorem exists_readsBack (hy : (roundPlaces resultPlaces d).value? = some y) (hd : IsDouble y) :
    ∃ p r, ReadsBack (resultText d) p r y := by
  obtain ⟨f, hv, htext, hnearest⟩ := exists_figures_resultText hy hd
  have hlt : (f.decimal (isNegative y)).nearest < 2 ^ 1024 := by
    rw [hnearest]
    exact hd.2
  obtain ⟨z, hz, hzr⟩ := Decimal.value?_toDouble hlt
  rw [hnearest, show (f.decimal (isNegative y)).negative = isNegative y from rfl,
    signed_isNegative] at hzr
  obtain rfl : z = y := Dyadic.toRat_inj.1 hzr
  refine ⟨f.decimal (isNegative z), _, ?_, ?_, hz, hd, fun w hw => ?_⟩
  · rw [htext, takeSign_minus hv, hv.readMagnitude_text]
  · have hwritten := written_resultText d
    rw [htext] at hwritten ⊢
    exact readDouble_minus hv _ hwritten
  · exact Decimal.abs_value_sub_le hz hw

theorem resultText_of_zero (h : d.value? = some .zero) : resultText d = ['0'] := by
  cases d with
  | finite x =>
    obtain rfl := Option.some.inj h
    decide
  | negZero => decide
  | infinite b => cases h
  | nan => cases h

theorem resultText_of_rounds_to_zero (hy : (roundPlaces resultPlaces d).value? = some .zero) :
    resultText d = ['0'] := by
  simp only [resultText, resultTextTo, hy]
  rfl

theorem resultText_roundPlaces (hv : d.value? = some x) (hx : IsDouble x) :
    resultText (roundPlaces resultPlaces d) = resultText d := by
  rw [resultText, resultText, resultTextTo, resultTextTo,
    roundPlaces_roundPlaces hv hx (by decide) (by decide)]

/-- The text of a result reads back, as a decimal number rounded to the nearest double, as a double
that differs from the one displayed by `10 ^ -10` at most and is displayed by the same text. -/
theorem resultText_reads_back (hv : d.value? = some x) (hx : IsDouble x) :
    ∃ p r y, ReadsBack (resultText d) p r y ∧ |y.toRat - x.toRat| ≤ 1 / 10 ^ 10 ∧
      resultText r = resultText d := by
  obtain ⟨y, hy, hd, -, herror⟩ := roundPlaces_spec (n := resultPlaces) hv hx (by decide) (by decide)
  obtain ⟨p, r, hback⟩ := exists_readsBack hy hd
  refine ⟨p, r, y, hback, ?_, ?_⟩
  · have hplaces : (10 : ℚ) ^ (-resultPlaces) = 1 / 10 ^ 10 := by
      rw [resultPlaces, zpow_neg, one_div]
      rfl
    exact hplaces ▸ herror
  · have hr := hback.value
    by_cases hzero : y = .zero
    · subst hzero
      rw [resultText_of_zero hr, resultText_of_rounds_to_zero hy]
    · rw [Double.eq_finite_of_value? hr hzero, ← Double.eq_finite_of_value? hy hzero,
        resultText_roundPlaces hv hx]

/-- A third is not displayed in full. -/
theorem resultText_reads_back_third :
    (Double.ofRatio false 1 3).value? = some (.ofOdd 6004799503160661 54 (by decide)) ∧
    ∃ p r y, ReadsBack (resultText (.ofRatio false 1 3)) p r y ∧
      |y.toRat - (Dyadic.ofOdd 6004799503160661 54 (by decide)).toRat| ≤ 1 / 10 ^ 10 ∧
      resultText r = resultText (.ofRatio false 1 3) := by
  have hv : (Double.ofRatio false 1 3).value? = some (.ofOdd 6004799503160661 54 (by decide)) := by
    decide +kernel
  exact ⟨hv, resultText_reads_back hv (Double.isDouble_ofRatio false (by decide) hv)⟩

example : resultText (.ofRatio false 1 3) = "0.3333333333".toList := by decide +kernel

end Result

end Reckon.Number
