import Intake.Proofs.Decimal.Range
import Intake.Proofs.Json.Text
import Mathlib.Data.List.DropRight

/-!
# Floating-point numbers are read back

A floating-point number is written as a decimal in one of four forms.  With the parts of its text
named, each form is read in the same way, and every form has the value of the decimal.  So what is
read back is finite, though it need not be the number that was written.
-/

namespace Intake.Json

open Decimal (digitsFrom maxDigits)

/-! ## The values of digits -/

theorem digitsValue_eq_digitsFrom (digits : List Char) :
    digitsValue digits = digitsFrom 0 (digits.map digitValue) := by
  rw [digitsFrom, List.foldl_map]
  rfl

theorem digitsValue_append (digits more : List Char) :
    digitsValue (digits ++ more) = digitsFrom (digitsValue digits) (more.map digitValue) := by
  rw [digitsFrom, List.foldl_map, digitsValue, List.foldl_append]
  rfl

/-- The first digits of a number stand for a number that is no greater. -/
theorem digitsValue_take_le (digits : List Char) (count : Nat) :
    digitsValue (digits.take count) ≤ digitsValue digits := by
  conv_rhs => rw [← List.take_append_drop count digits, digitsValue_append]
  exact Decimal.le_digitsFrom _ _

@[simp]
theorem digitsValue_zeros_append (count : Nat) (digits : List Char) :
    digitsValue (List.replicate count '0' ++ digits) = digitsValue digits := by
  induction count with
  | zero => rfl
  | succ count ih => exact ih

@[simp]
theorem digitsValue_append_zeros (digits : List Char) (count : Nat) :
    digitsValue (digits ++ List.replicate count '0') = digitsValue digits * 10 ^ count := by
  induction count with
  | zero => rw [List.replicate_zero, List.append_nil, Nat.pow_zero, Nat.mul_one]
  | succ count ih =>
    rw [List.replicate_succ', ← List.append_assoc, digitsValue_append, ih, Nat.pow_succ,
      ← Nat.mul_assoc]
    rfl

theorem digitValue_lt {c : Char} (hc : isDigit c = true) : digitValue c < 10 := by
  simp only [isDigit, Bool.and_eq_true, decide_eq_true_eq] at hc
  have hle : c.toNat ≤ '9'.toNat := hc.2
  have hnine : '9'.toNat = '0'.toNat + 9 := rfl
  unfold digitValue
  omega

theorem digitsValue_lt {digits : List Char} (hdigits : ∀ c ∈ digits, isDigit c = true) :
    digitsValue digits < 10 ^ digits.length := by
  induction digits using List.reverseRecOn with
  | nil => exact Nat.one_pos
  | append_singleton digits c ih =>
    rw [List.forall_mem_append, List.forall_mem_singleton] at hdigits
    have hlast := digitValue_lt hdigits.2
    have hfirst := ih hdigits.1
    have hvalue : digitsValue (digits ++ [c]) = digitsValue digits * 10 + digitValue c := by
      rw [digitsValue_append]
      rfl
    rw [hvalue, List.length_append, List.length_singleton, Nat.pow_succ]
    omega

theorem digitsToOverflow_eq_none {digits : List Char} (hle : digitsValue digits ≤ exponentLimit) :
    digitsToOverflow digits = none := by
  rw [digitsToOverflow, List.find?_eq_none]
  intro count _
  rw [decide_eq_true_eq, Nat.not_lt]
  exact (digitsValue_take_le digits count).trans hle

/-! ## The parts of a decimal in a text -/

/-- What stands before the point, after it and after the mark of the exponent. -/
structure DecimalText where
  whole : List Char
  fraction : List Char
  power : Option Int

namespace DecimalText

def exponentChars (t : DecimalText) : List Char := (t.power.map Binary64.exponentText).getD []

def fractionChars (t : DecimalText) : List Char :=
  if t.fraction.isEmpty then [] else '.' :: t.fraction

def chars (t : DecimalText) : List Char := t.whole ++ t.fractionChars ++ t.exponentChars

/-- The number that the parts are read as. -/
def read? (t : DecimalText) (negative : Bool) : Option Binary64 :=
  (Decimal.ofDigits (t.whole.map digitValue) (t.fraction.map digitValue)
    (t.power.getD 0)).scaled? negative

def value (t : DecimalText) : ℚ :=
  digitsValue (t.whole ++ t.fraction) * 10 ^ (t.power.getD 0 - t.fraction.length)

/-- The parts make up a number for the reader, one that it does not take for a whole number. -/
structure Readable (t : DecimalText) : Prop where
  whole_ne : t.whole ≠ []
  whole_digits : ∀ c ∈ t.whole, isDigit c = true
  no_leading_zero : ∀ more, t.whole = '0' :: more → more = []
  fraction_digits : ∀ c ∈ t.fraction, isDigit c = true
  not_whole : t.fraction = [] → t.power ≠ none
  power_le : ∀ power ∈ t.power, power.natAbs ≤ exponentLimit

variable {t : DecimalText} {rest : List Char}

theorem exponentPart_exponentText (power : Int) (hrest : EndsNumber rest) :
    exponentPart (Binary64.exponentText power ++ rest) =
      .ok (some ⟨power < 0, Nat.toDigits 10 power.natAbs⟩, rest) := by
  have hdigits := someDigits_append (Nat.toDigits_ne_nil (b := 10) (n := power.natAbs))
    (fun c hc => isDigit_of_mem_toDigits hc) (fun c hc => (hrest c hc).1)
  by_cases hnegative : power < 0
  · simp only [Binary64.exponentText, if_pos hnegative, List.cons_append, exponentPart, hdigits,
      ok_bind, pure_eq_ok, decide_eq_true hnegative]
  · simp only [Binary64.exponentText, if_neg hnegative, List.cons_append, exponentPart, hdigits,
      ok_bind, pure_eq_ok, decide_eq_false hnegative]

theorem exponentPart_exponentChars (t : DecimalText) (hrest : EndsNumber rest) :
    exponentPart (t.exponentChars ++ rest) =
      .ok (t.power.map fun power => ⟨power < 0, Nat.toDigits 10 power.natAbs⟩, rest) := by
  unfold exponentChars
  cases t.power with
  | none => exact exponentPart_of_endsNumber hrest
  | some power => exact exponentPart_exponentText power hrest

/-- What follows the fraction is neither a digit nor a point. -/
theorem head_exponentChars (t : DecimalText) (hrest : EndsNumber rest) :
    ∀ c ∈ (t.exponentChars ++ rest).head?, isDigit c = false ∧ c ≠ '.' := by
  unfold exponentChars
  cases t.power with
  | none => exact fun c hc => ⟨(hrest c hc).1, (hrest c hc).2.1⟩
  | some power =>
    intro c hc
    cases hc
    decide

theorem fractionDigits_fractionChars (hreadable : t.Readable)
    (hrest : ∀ c ∈ rest.head?, isDigit c = false ∧ c ≠ '.') :
    fractionDigits (t.fractionChars ++ rest) =
      .ok (if t.fraction.isEmpty then none else some t.fraction, rest) := by
  unfold fractionChars
  cases hfraction : t.fraction with
  | nil => exact fractionDigits_of_head hrest
  | cons d digits =>
    have hdigits : ∀ c ∈ d :: digits, isDigit c = true := hfraction ▸ hreadable.fraction_digits
    have hsome := someDigits_append (List.cons_ne_nil d digits) hdigits fun c hc => (hrest c hc).1
    simp only [List.isEmpty_cons, Bool.false_eq_true, if_false, List.cons_append] at hsome ⊢
    simp only [fractionDigits, hsome, ok_bind, pure_eq_ok]

/-- An exponent is told by its sign and its digits. -/
theorem signed_natAbs (power : Int) :
    (if decide (power < 0) = true then -(power.natAbs : Int) else power.natAbs) = power := by
  by_cases hnegative : power < 0
  · rw [if_pos (decide_eq_true hnegative)]
    omega
  · rw [if_neg fun h => hnegative (of_decide_eq_true h)]
    omega

theorem getD_fraction (t : DecimalText) :
    (if t.fraction.isEmpty = true then none else some t.fraction).getD [] = t.fraction := by
  cases t.fraction with
  | nil => rfl
  | cons d digits => rfl

theorem floatOf?_eq (t : DecimalText) (negative : Bool) :
    floatOf? negative t.whole t.fraction (t.power.getD 0) = (t.read? negative).map .float := rfl

theorem wholeDigits_chars (hreadable : t.Readable) (hrest : EndsNumber rest) :
    wholeDigits (t.chars ++ rest) = .ok (t.whole, t.fractionChars ++ (t.exponentChars ++ rest)) := by
  rw [chars, List.append_assoc, List.append_assoc]
  apply wholeDigits_append hreadable.whole_ne hreadable.whole_digits hreadable.no_leading_zero
  unfold fractionChars
  split
  next => exact fun c hc => (t.head_exponentChars hrest c hc).1
  next =>
    intro c hc
    cases hc
    decide

/-- The text of a decimal is read as its parts. -/
theorem unsignedNumber_chars (hreadable : t.Readable) {negative : Bool} {x : Binary64}
    (hx : t.read? negative = some x) (hrest : EndsNumber rest) :
    unsignedNumber negative (t.chars ++ rest) = .ok (.float x, rest) := by
  have hnumber := t.floatOf?_eq negative
  rw [hx, Option.map_some] at hnumber
  simp only [unsignedNumber, wholeDigits_chars hreadable hrest,
    fractionDigits_fractionChars hreadable (t.head_exponentChars hrest),
    exponentPart_exponentChars t hrest, ok_bind]
  cases hpower : t.power with
  | none =>
    rw [hpower, Option.getD_none] at hnumber
    cases hfraction : t.fraction with
    | nil => exact absurd hpower (hreadable.not_whole hfraction)
    | cons d digits =>
      rw [hfraction] at hnumber
      simp only [List.isEmpty_cons, Bool.false_eq_true, if_false, Option.map_none, Option.getD_some,
        hnumber]
  | some power =>
    rw [hpower, Option.getD_some] at hnumber
    have hoverflow : digitsToOverflow (Nat.toDigits 10 power.natAbs) = none := by
      apply digitsToOverflow_eq_none
      rw [digitsValue_toDigits]
      exact hreadable.power_le power hpower
    simp only [Option.map_some, hoverflow, digitsValue_toDigits, signed_natAbs,
      getD_fraction, hnumber]

/-- A decimal up to the safe limit is read as a finite number. -/
theorem exists_read? (t : DecimalText) (negative : Bool)
    (hwhole : digitsValue t.whole ≤ maxDigits) (hsafe : t.value ≤ Binary64.safeLimit) :
    ∃ x, t.read? negative = some x := by
  rw [digitsValue_eq_digitsFrom] at hwhole
  obtain ⟨hdigits, hvalue⟩ :=
    Decimal.ofDigits_bounds hwhole (t.fraction.map digitValue) (t.power.getD 0)
  rw [← List.map_append, ← digitsValue_eq_digitsFrom, List.length_map] at hvalue
  exact Decimal.exists_scaled? hdigits (hvalue.trans hsafe)

end DecimalText

/-! ## The forms in which a decimal is written -/

namespace DecimalText

/-- One digit before the point and the others after it, with an exponent. -/
def scientific (digits : List Char) (places : Int) : DecimalText :=
  ⟨digits.take 1, digits.drop 1, some (places - 1)⟩

/-- All digits after the point and the zeros. -/
def belowOne (digits : List Char) (places : Int) : DecimalText :=
  ⟨['0'], List.replicate (-places).toNat '0' ++ digits, none⟩

/-- The digits up to a place, filled up with zeros to it, and those after the place, or a zero. -/
def pointed (digits : List Char) (places : Int) : DecimalText :=
  let fraction := digits.drop places.toNat
  ⟨digits.take places.toNat ++ List.replicate (places.toNat - digits.length) '0',
    if fraction.isEmpty then ['0'] else fraction, none⟩

/-- The parts of the text of a decimal. -/
def ofDecimal (style : Binary64.FloatStyle) (d : Decimal) : DecimalText :=
  let digits := Binary64.significantDigits d
  let places := d.magnitude
  if d.digits = 0 then ⟨['0'], ['0'], none⟩
  else if places ≤ style.leastPlain || style.firstLarge < places then scientific digits places
  else if places ≤ 0 then belowOne digits places
  else pointed digits places

section Values

variable (digits : List Char) {places : Int}

theorem value_scientific (hne : digits ≠ []) :
    (scientific digits places).value = digitsValue digits * 10 ^ (places - digits.length) := by
  cases digits with
  | nil => exact absurd rfl hne
  | cons first others =>
    have hexponent : places - 1 - others.length = places - (others.length + 1 : Nat) := by omega
    exact congrArg _ (congrArg _ hexponent)

theorem value_belowOne (hplaces : places ≤ 0) :
    (belowOne digits places).value = digitsValue digits * 10 ^ (places - digits.length) := by
  have hexponent : (0 : Int) - (List.replicate (-places).toNat '0' ++ digits).length =
      places - digits.length := by
    rw [List.length_append, List.length_replicate]
    omega
  unfold belowOne value
  dsimp only
  rw [Option.getD_none, hexponent, ← List.append_assoc, ← List.replicate_one,
    ← List.replicate_add, digitsValue_zeros_append]

theorem value_pointed (hplaces : 0 ≤ places) :
    (pointed digits places).value = digitsValue digits * 10 ^ (places - digits.length) := by
  unfold pointed value
  dsimp only
  split
  next hempty =>
    have hshort : digits.length ≤ places.toNat := List.drop_eq_nil_iff.1 (List.isEmpty_iff.1 hempty)
    obtain ⟨count, hcount⟩ : ∃ count, places.toNat = digits.length + count :=
      Nat.exists_eq_add_of_le hshort
    have hexponent : places - digits.length = count := by omega
    have hzeros : List.replicate count '0' ++ ['0'] = List.replicate (count + 1) '0' :=
      List.replicate_succ'.symm
    rw [List.take_of_length_le hshort, hexponent, hcount, Nat.add_sub_cancel_left, List.append_assoc,
      hzeros, digitsValue_append_zeros, Option.getD_none, List.length_singleton, zpow_natCast]
    push_cast
    rw [zpow_neg_one, pow_succ, ← mul_assoc]
    exact mul_inv_cancel_right₀ (by norm_num) _
  next hnonempty =>
    have hlong : places.toNat < digits.length :=
      Nat.lt_of_not_le fun hle => hnonempty (List.isEmpty_iff.2 (List.drop_eq_nil_iff.2 hle))
    have hnone : places.toNat - digits.length = 0 := by omega
    have hexponent : (0 : Int) - (digits.drop places.toNat).length = places - digits.length := by
      rw [List.length_drop]
      omega
    rw [hnone, List.replicate_zero, List.append_nil, List.take_append_drop, Option.getD_none,
      hexponent]

end Values

section Forms

variable {first : Char} {others : List Char} {places : Int}

theorem readable_zero : (⟨['0'], ['0'], none⟩ : DecimalText).Readable where
  whole_ne := List.cons_ne_nil '0' []
  whole_digits := List.forall_mem_singleton.2 rfl
  no_leading_zero more heq := (List.cons.inj heq).2.symm
  fraction_digits := List.forall_mem_singleton.2 rfl
  not_whole hempty := by cases hempty
  power_le power hpower := by cases hpower

theorem readable_scientific (hfirst : first ≠ '0')
    (hdigits : ∀ c ∈ first :: others, isDigit c = true) (hplaces : places.natAbs ≤ 1127) :
    (scientific (first :: others) places).Readable where
  whole_ne := List.cons_ne_nil first []
  whole_digits c hc := by
    rw [List.mem_singleton.1 hc]
    exact hdigits first List.mem_cons_self
  no_leading_zero more heq := absurd (List.cons.inj heq).1 hfirst
  fraction_digits c hc := hdigits c (List.mem_cons_of_mem first hc)
  not_whole _ hpower := by cases hpower
  power_le power hpower := by
    cases hpower
    have hlimit : 1128 ≤ exponentLimit := by decide
    omega

theorem readable_belowOne (hdigits : ∀ c ∈ first :: others, isDigit c = true) :
    (belowOne (first :: others) places).Readable where
  whole_ne := List.cons_ne_nil '0' []
  whole_digits c hc := by
    rw [List.mem_singleton.1 hc]
    rfl
  no_leading_zero more heq := (List.cons.inj heq).2.symm
  fraction_digits c hc := by
    rcases List.mem_append.1 hc with hc | hc
    · rw [List.eq_of_mem_replicate hc]
      rfl
    · exact hdigits c hc
  not_whole hempty := absurd (List.append_eq_nil_iff.1 hempty).2 (List.cons_ne_nil first others)
  power_le power hpower := by cases hpower

theorem whole_pointed (first : Char) (others : List Char) (hplaces : 0 < places) :
    ∃ more, (pointed (first :: others) places).whole = first :: more ∧
      (more.length : Int) + 1 = places ∧ ∀ c ∈ more, c ∈ others ∨ c = '0' := by
  obtain ⟨count, hcount⟩ : ∃ count : Nat, places.toNat = count + 1 :=
    Nat.exists_eq_add_one.2 (by omega)
  refine ⟨others.take count ++ List.replicate (count - others.length) '0', ?_, ?_, ?_⟩
  · unfold pointed
    dsimp only
    rw [hcount, List.take_succ_cons, List.length_cons, Nat.add_sub_add_right]
    rfl
  · rw [List.length_append, List.length_take, List.length_replicate]
    omega
  · intro c hc
    rcases List.mem_append.1 hc with hc | hc
    · exact .inl (List.mem_of_mem_take hc)
    · exact .inr (List.eq_of_mem_replicate hc)

theorem whole_digits_pointed (hdigits : ∀ c ∈ first :: others, isDigit c = true)
    (hplaces : 0 < places) : ∀ c ∈ (pointed (first :: others) places).whole, isDigit c = true := by
  obtain ⟨more, hwhole, -, hmore⟩ := whole_pointed first others hplaces
  intro c hc
  rw [hwhole] at hc
  rcases List.mem_cons.1 hc with rfl | hc
  · exact hdigits c List.mem_cons_self
  · rcases hmore c hc with hc | rfl
    · exact hdigits c (List.mem_cons_of_mem first hc)
    · rfl

theorem readable_pointed (hfirst : first ≠ '0')
    (hdigits : ∀ c ∈ first :: others, isDigit c = true) (hplaces : 0 < places) :
    (pointed (first :: others) places).Readable := by
  obtain ⟨more, hwhole, -, -⟩ := whole_pointed first others hplaces
  constructor
  · rw [hwhole]
    exact List.cons_ne_nil first more
  · exact whole_digits_pointed hdigits hplaces
  · intro rest heq
    rw [hwhole] at heq
    exact absurd (List.cons.inj heq).1 hfirst
  · intro c hc
    unfold pointed at hc
    dsimp only at hc
    split at hc
    next =>
      rw [List.mem_singleton.1 hc]
      rfl
    next => exact hdigits c (List.mem_of_mem_drop hc)
  · intro hempty
    unfold pointed at hempty
    dsimp only at hempty
    split at hempty
    next => cases hempty
    next hnonempty => exact absurd (List.isEmpty_iff.2 hempty) hnonempty
  · intro power hpower
    cases hpower

end Forms

/-! ## Decimals in their forms -/

section OfDecimal

variable {d : Decimal}

open Binary64 (significantDigits)

/-- The digits of a decimal are the significant ones and then zeros. -/
theorem exists_zeros (d : Decimal) :
    ∃ count, Nat.toDigits 10 d.digits = significantDigits d ++ List.replicate count '0' := by
  have hzeros : ∀ c ∈ (Nat.toDigits 10 d.digits).rtakeWhile (· == '0'), c = '0' :=
    fun c hc => by simpa using List.mem_rtakeWhile_imp hc
  have hsplit := List.rdropWhile_append_rtakeWhile
    (p := (· == '0')) (l := Nat.toDigits 10 d.digits)
  rw [List.eq_replicate_of_mem hzeros] at hsplit
  exact ⟨_, hsplit.symm⟩

/-- The significant digits of a decimal that is not zero, and its value in terms of them. -/
theorem significantDigits_cons (hd : d.digits ≠ 0) :
    ∃ first others, significantDigits d = first :: others ∧ first ≠ '0' ∧
      (∀ c ∈ first :: others, isDigit c = true) ∧
      d.value = digitsValue (first :: others) *
        10 ^ (d.magnitude - (first :: others).length) := by
  obtain ⟨count, hsplit⟩ := exists_zeros d
  have hvalue := digitsValue_toDigits d.digits
  have hhead := head_toDigits_ne_zero (Nat.pos_of_ne_zero hd)
  have hlength := congrArg List.length hsplit
  have hdigits : ∀ c ∈ Nat.toDigits 10 d.digits, isDigit c = true :=
    fun c hc => isDigit_of_mem_toDigits hc
  rw [hsplit, digitsValue_append_zeros] at hvalue
  rw [hsplit] at hhead hdigits
  rw [List.length_append, List.length_replicate] at hlength
  cases hsignificant : significantDigits d with
  | nil =>
    rw [hsignificant] at hvalue
    exact absurd (hvalue.symm.trans (Nat.zero_mul _)) hd
  | cons first others =>
    rw [hsignificant] at hvalue hhead hdigits hlength
    refine ⟨first, others, rfl, ?_, fun c hc => hdigits c (List.mem_append_left _ hc), ?_⟩
    · rintro rfl
      exact hhead rfl
    · have hexponent : d.magnitude - (first :: others).length = count + d.exponent := by
        rw [Decimal.magnitude, hlength]
        omega
      rw [hexponent, zpow_add₀ (by norm_num), zpow_natCast, ← mul_assoc, Decimal.value, ← hvalue]
      push_cast
      rfl

theorem write_eq (style : Binary64.FloatStyle) (d : Decimal) :
    style.write d = (ofDecimal style d).chars := by
  unfold Binary64.FloatStyle.write ofDecimal
  dsimp only
  split
  next => rfl
  next hd =>
    obtain ⟨first, others, hdigits, -⟩ := significantDigits_cons hd
    rw [hdigits]
    split
    next => rfl
    next =>
      split
      next => simp [belowOne, chars, fractionChars, exponentChars]
      next =>
        by_cases hempty : (List.drop d.magnitude.toNat (first :: others)).isEmpty = true
        · simp [pointed, chars, fractionChars, exponentChars, hempty]
        · simp [pointed, chars, fractionChars, exponentChars, hempty]

/-- Every form has the value of the decimal. -/
theorem value_ofDecimal (style : Binary64.FloatStyle) (d : Decimal) :
    (ofDecimal style d).value = d.value := by
  unfold ofDecimal
  dsimp only
  split
  next hd =>
    rw [Decimal.value, hd, Nat.cast_zero, zero_mul]
    exact zero_mul _
  next hd =>
    obtain ⟨first, others, hdigits, -, -, hvalue⟩ := significantDigits_cons hd
    rw [hdigits, hvalue]
    split
    next => exact value_scientific _ (List.cons_ne_nil first others)
    next =>
      split
      next hplaces => exact value_belowOne _ hplaces
      next hplaces => exact value_pointed _ (by omega)

/-- What this library writes for a decimal can be read, unless its place is far beyond those of all
numbers. -/
theorem readable_ofDecimal (hplaces : d.magnitude.natAbs ≤ 1127) :
    (ofDecimal Binary64.jsonStyle d).Readable := by
  unfold ofDecimal
  dsimp only
  split
  next => exact readable_zero
  next hd =>
    obtain ⟨first, others, hdigits, hfirst, hall, -⟩ := significantDigits_cons hd
    rw [hdigits]
    split
    next => exact readable_scientific hfirst hall hplaces
    next =>
      split
      next => exact readable_belowOne hall
      next hpositive => exact readable_pointed hfirst hall (by omega)

/-- No more than sixteen digits are written before the point. -/
theorem whole_ofDecimal_le (d : Decimal) :
    digitsValue (ofDecimal Binary64.jsonStyle d).whole ≤ maxDigits := by
  unfold ofDecimal
  dsimp only
  split
  next => decide
  next hd =>
    obtain ⟨first, others, hdigits, -, hall, -⟩ := significantDigits_cons hd
    have hone : digitsValue [first] < 10 ^ 1 :=
      digitsValue_lt fun c hc => hall c (List.mem_singleton.1 hc ▸ List.mem_cons_self)
    rw [hdigits]
    split
    next => exact hone.le.trans (by decide)
    next hstyle =>
      split
      next => exact Nat.zero_le maxDigits
      next hpositive =>
        have hplaces : 0 < d.magnitude := by omega
        have hlarge : d.magnitude ≤ 16 := by
          have hlt : ¬Binary64.jsonStyle.firstLarge < d.magnitude :=
            fun hlt => hstyle (by rw [decide_eq_true hlt, Bool.or_true])
          exact Int.not_lt.1 hlt
        obtain ⟨more, hwhole, hlength, -⟩ :=
          whole_pointed first others hplaces
        have hvalue := digitsValue_lt (whole_digits_pointed hall hplaces)
        rw [hwhole, List.length_cons] at hvalue
        rw [hwhole]
        calc digitsValue (first :: more) ≤ 10 ^ (more.length + 1) := hvalue.le
          _ ≤ 10 ^ 16 := Nat.pow_le_pow_right (by decide) (by omega)
          _ ≤ maxDigits := by decide

end OfDecimal

end DecimalText

/-! ## The numbers themselves -/

/-- The three greatest magnitudes are read as finite numbers too.  Their decimals are near enough to
the limit that only the roundings themselves tell. -/
theorem read?_greatest : ∀ negative, ∀ mantissa ∈ [2 ^ 53 - 1, 2 ^ 53 - 2, 2 ^ 53 - 3],
    ∀ x ∈ Binary64.ofParts? negative mantissa 971,
      ((DecimalText.ofDecimal Binary64.jsonStyle x.shortest).read? x.negative).isSome = true := by
  decide +kernel

theorem exists_read?_shortest (x : Binary64) :
    ∃ y, (DecimalText.ofDecimal Binary64.jsonStyle x.shortest).read? x.negative = some y := by
  -- The bounds on the roundings leave out the three greatest magnitudes, which are run through.
  by_cases hsmall : x.exponent < 971 ∨ x.mantissa + 3 < 2 ^ 53
  · apply DecimalText.exists_read? _ _ (DecimalText.whole_ofDecimal_le x.shortest)
    rw [DecimalText.value_ofDecimal]
    exact Decimal.value_shortest_le hsmall
  · obtain ⟨hexponent, hmantissa⟩ := not_or.1 hsmall
    have htop : x.exponent = 971 := le_antisymm x.exponent_le (not_lt.1 hexponent)
    have hgreatest : x.mantissa ∈ [2 ^ 53 - 1, 2 ^ 53 - 2, 2 ^ 53 - 3] := by
      have hlt : x.mantissa < 2 ^ 53 := x.mantissa_lt
      simp only [List.mem_cons, List.not_mem_nil, or_false]
      omega
    exact Option.isSome_iff_exists.1
      (read?_greatest x.negative x.mantissa hgreatest x (htop ▸ x.ofParts?_eq))

theorem readable_shortest (x : Binary64) :
    (DecimalText.ofDecimal Binary64.jsonStyle x.shortest).Readable := by
  apply DecimalText.readable_ofDecimal
  by_cases hmantissa : x.mantissa = 0
  · rw [Binary64.shortest, if_pos hmantissa]
    decide
  · obtain ⟨hlow, hhigh⟩ := (Decimal.shortest_bounds hmantissa).2
    omega

/-- The number that the text of a number is read as. -/
def reread (x : Binary64) : Binary64 :=
  ((DecimalText.ofDecimal Binary64.jsonStyle x.shortest).read? x.negative).getD x

theorem unsignedNumber_write (x : Binary64) {rest : List Char} (hrest : EndsNumber rest) :
    unsignedNumber x.negative (Binary64.jsonStyle.write x.shortest ++ rest) =
      .ok (.float (reread x), rest) := by
  obtain ⟨y, hy⟩ := exists_read?_shortest x
  have hreread : reread x = y := by rw [reread, hy, Option.getD_some]
  rw [DecimalText.write_eq, hreread]
  exact DecimalText.unsignedNumber_chars (readable_shortest x) hy hrest

theorem head_write (x : Binary64) :
    ∃ c cs, Binary64.jsonStyle.write x.shortest = c :: cs ∧ isDigit c = true := by
  have hreadable := readable_shortest x
  rw [DecimalText.write_eq, DecimalText.chars]
  cases hwhole : (DecimalText.ofDecimal Binary64.jsonStyle x.shortest).whole with
  | nil => exact absurd hwhole hreadable.whole_ne
  | cons c cs =>
    have hc : c ∈ (DecimalText.ofDecimal Binary64.jsonStyle x.shortest).whole :=
      hwhole ▸ List.mem_cons_self
    exact ⟨c, _, rfl, hreadable.whole_digits c hc⟩

theorem head_toChars (x : Binary64) :
    ∃ c cs, x.toChars = c :: cs ∧ (c = '-' ∨ isDigit c = true) := by
  rw [Binary64.toChars]
  split
  next => exact ⟨'-', _, rfl, .inl rfl⟩
  next =>
    obtain ⟨c, cs, hcs, hc⟩ := head_write x
    exact ⟨c, cs, hcs, .inr hc⟩

/-- The text of a floating-point number is read as a finite one. -/
theorem number_toChars (x : Binary64) {rest : List Char} (hrest : EndsNumber rest) :
    number (x.toChars ++ rest) = .ok (.float (reread x), rest) := by
  have hunsigned := unsignedNumber_write x hrest
  rw [Binary64.toChars]
  cases hnegative : x.negative with
  | true =>
    rw [hnegative] at hunsigned
    exact hunsigned
  | false =>
    obtain ⟨c, cs, hcs, hc⟩ := head_write x
    rw [hnegative, hcs] at hunsigned
    rw [hcs]
    exact (number_of_isDigit hc).trans hunsigned

end Intake.Json
