import Intake.Decimal.Scaled
import Intake.Decimal.Shortest
import Intake.Proofs.Decimal.Rounding

/-!
# Decimals that are read as finite numbers

A decimal is read in two roundings, of its digits and of a power of ten, and a third of their
product.  Together they enlarge it by little more than two parts in `2 ^ 53`, so every decimal that
is some places below the greatest number is read as a finite one.  The decimal by which a number is
written is at most half a place above the number, which leaves the three greatest numbers; for those
the decimal is worked out.
-/

namespace Intake

open Binary64 (tooLarge)

/-- The rational number that a decimal stands for. -/
def Decimal.value (d : Decimal) : ℚ := d.digits * 10 ^ d.exponent

namespace Binary64

section Arithmetic

variable {x y : Binary64}

theorem quotient_eq (x : Binary64) :
    0 < x.quotient.2 ∧ (x.quotient.1 / x.quotient.2 : ℚ) = x.magnitude := by
  unfold quotient
  split
  next hexponent =>
    refine ⟨Nat.one_pos, ?_⟩
    rw [Nat.cast_mul, cast_two_pow hexponent, Nat.cast_one, div_one, magnitude]
  next hexponent =>
    have hpower : ((Nat.pow 2 (-x.exponent).toNat : Nat) : ℚ) = 2 ^ (-x.exponent) :=
      cast_two_pow (by omega)
    refine ⟨Nat.two_pow_pos _, ?_⟩
    rw [hpower, zpow_neg, div_inv_eq_mul, magnitude]

theorem magnitude_lt_tooLarge (x : Binary64) : x.magnitude < tooLarge := by
  have hmantissa : (x.mantissa : ℚ) ≤ 2 ^ 53 - 1 := by
    rw [le_sub_iff_add_le]
    exact_mod_cast x.mantissa_lt
  calc x.magnitude ≤ (2 ^ 53 - 1) * 2 ^ x.exponent := by
        unfold magnitude
        gcongr
    _ ≤ (2 ^ 53 - 1) * 2 ^ (971 : ℤ) :=
        mul_le_mul_of_nonneg_left (zpow_le_zpow_right₀ one_le_two x.exponent_le) (by norm_num)
    _ = (2 ^ 53 - 1) * 2 * 2 ^ (970 : ℤ) := by rw [mul_assoc, two_zpow_top]
    _ < tooLarge := by
        unfold tooLarge
        gcongr
        norm_num

theorem magnitude_nonneg (x : Binary64) : 0 ≤ x.magnitude := by
  unfold magnitude
  positivity

theorem mul?_eq (x y : Binary64) :
    x.mul? y = ofQuotient? (x.negative != y.negative) (x.quotient.1 * y.quotient.1)
      (x.quotient.2 * y.quotient.2) := rfl

theorem div?_eq (x y : Binary64) :
    x.div? y = ofQuotient? (x.negative != y.negative) (x.quotient.1 * y.quotient.2)
      (x.quotient.2 * y.quotient.1) := rfl

/-- A product that is not too large has a nearest number. -/
theorem exists_mul? (hlt : x.magnitude * y.magnitude < tooLarge) :
    ∃ z, x.mul? y = some z := by
  obtain ⟨hxDen, hx⟩ := x.quotient_eq
  obtain ⟨hyDen, hy⟩ := y.quotient_eq
  rw [mul?_eq]
  apply exists_ofQuotient? (Nat.mul_pos hxDen hyDen)
  rw [Nat.cast_mul, Nat.cast_mul, mul_div_mul_comm, hx, hy]
  exact hlt

/-- A quotient by a number that is not below one has a nearest number. -/
theorem exists_div? (x : Binary64) (hy : 1 ≤ y.magnitude) : ∃ z, x.div? y = some z := by
  obtain ⟨hxDen, hxQuotient⟩ := x.quotient_eq
  obtain ⟨hyDen, hyQuotient⟩ := y.quotient_eq
  have hyNum : 0 < y.quotient.1 := by
    apply Nat.pos_of_ne_zero
    intro hzero
    rw [← hyQuotient, hzero, Nat.cast_zero, zero_div] at hy
    norm_num at hy
  rw [div?_eq]
  apply exists_ofQuotient? (Nat.mul_pos hxDen hyNum)
  rw [Nat.cast_mul, Nat.cast_mul, mul_div_mul_comm, hxQuotient, ← inv_div, hyQuotient,
    ← div_eq_mul_inv]
  calc x.magnitude / y.magnitude ≤ x.magnitude := by
        exact div_le_self x.magnitude_nonneg hy
    _ < tooLarge := x.magnitude_lt_tooLarge

end Arithmetic

theorem natCast_ten_pow (power : Nat) : ((10 ^ power : Nat) : ℚ) = 10 ^ power := by
  rw [Nat.cast_pow, Nat.cast_ofNat]

theorem natCast_mul_two_pow (digits power : Nat) :
    ((digits * 2 ^ power : Nat) : ℚ) = digits * 2 ^ (power : ℤ) := by
  rw [Nat.cast_mul, Nat.cast_pow, Nat.cast_ofNat, zpow_natCast]

theorem tooLarge_eq : tooLarge = ((18014398509481983 * 2 ^ 970 : Nat) : ℚ) := by
  have hdigits : (2 ^ 54 - 1 : ℚ) = 18014398509481983 := by norm_num
  rw [natCast_mul_two_pow, tooLarge, hdigits]
  rfl

theorem maxPowerOfTen_lt_tooLarge : (10 : ℚ) ^ maxPowerOfTen < tooLarge := by
  have hnat : 10 ^ maxPowerOfTen < 18014398509481983 * 2 ^ 970 := by decide +kernel
  rw [tooLarge_eq, ← natCast_ten_pow]
  exact Nat.cast_lt.2 hnat

/-- The finite powers of ten. -/
theorem exists_powerOfTen? {power : Nat} (hpower : power ≤ maxPowerOfTen) :
    ∃ y, powerOfTen? power = some y ∧ 1 ≤ y.magnitude ∧
      y.magnitude ≤ 10 ^ power * (1 + 1 / 2 ^ 53) := by
  have hcast : ((Nat.pow 10 power : Nat) / (1 : Nat) : ℚ) = 10 ^ power := by
    rw [Nat.pow_eq]
    push_cast
    rw [div_one]
  have hone : (1 : ℚ) ≤ (Nat.pow 10 power : Nat) / (1 : Nat) := by
    rw [hcast]
    exact one_le_pow₀ (by norm_num)
  have hlt : ((Nat.pow 10 power : Nat) / (1 : Nat) : ℚ) < tooLarge := by
    rw [hcast]
    exact lt_of_le_of_lt (pow_le_pow_right₀ (by norm_num) hpower) maxPowerOfTen_lt_tooLarge
  obtain ⟨y, hy⟩ : ∃ y, ofQuotient? false (Nat.pow 10 power) 1 = some y :=
    exists_ofQuotient? Nat.one_pos hlt
  have hupper := magnitude_le_of_ofQuotient? Nat.one_pos hone hy
  rw [hcast] at hupper
  refine ⟨y, ?_, one_le_magnitude Nat.one_pos hone hy, hupper⟩
  rw [powerOfTen?, if_pos hpower, hy]

/-- Dividing by a power of ten never leaves the finite numbers. -/
theorem exists_shrink? (x : Binary64) (power : Nat) : ∃ y, x.shrink? power = some y := by
  induction power using Nat.strong_induction_on generalizing x with
  | _ power ih =>
    rw [shrink?]
    split
    next => exact ⟨x, rfl⟩
    next =>
      split
      next hpower =>
        obtain ⟨step, hstep, hone, -⟩ := exists_powerOfTen? hpower
        rw [hstep, Option.bind_some]
        exact exists_div? x hone
      next hpower =>
        obtain ⟨step, hstep, hone, -⟩ := exists_powerOfTen? (le_refl maxPowerOfTen)
        obtain ⟨y, hy⟩ := exists_div? x hone
        obtain ⟨z, hz⟩ := ih (power - maxPowerOfTen) (by grind [maxPowerOfTen]) y
        refine ⟨z, ?_⟩
        simp only [hstep, hy, hz, Option.bind_eq_bind, Option.bind_some]

/-- Decimals up to this one are read as finite numbers. -/
def safeLimit : ℚ := (2 ^ 54 - 7) * 2 ^ (970 : ℤ)

theorem safeLimit_eq : safeLimit = ((18014398509481977 * 2 ^ 970 : Nat) : ℚ) := by
  have hdigits : (2 ^ 54 - 7 : ℚ) = 18014398509481977 := by norm_num
  rw [natCast_mul_two_pow, safeLimit, hdigits]
  rfl

theorem safeLimit_lt : safeLimit * (1 + 1 / 2 ^ 53) * (1 + 1 / 2 ^ 53) < tooLarge := by
  have hfactor : (2 ^ 54 - 7 : ℚ) * (1 + 1 / 2 ^ 53) * (1 + 1 / 2 ^ 53) < 2 ^ 54 - 1 := by norm_num
  have hunit : (0 : ℚ) < 2 ^ (970 : ℤ) := by positivity
  calc safeLimit * (1 + 1 / 2 ^ 53) * (1 + 1 / 2 ^ 53)
      = (2 ^ 54 - 7) * (1 + 1 / 2 ^ 53) * (1 + 1 / 2 ^ 53) * 2 ^ (970 : ℤ) := by
        unfold safeLimit
        ring
    _ < tooLarge := mul_lt_mul_of_pos_right hfactor hunit

theorem power_le_of_safe {power : Nat} (hpower : (10 : ℚ) ^ power ≤ safeLimit) :
    power ≤ maxPowerOfTen := by
  have hnat : 18014398509481977 * 2 ^ 970 < 10 ^ (maxPowerOfTen + 1) := by decide +kernel
  have hlt : safeLimit < 10 ^ (maxPowerOfTen + 1) := by
    rw [safeLimit_eq, ← natCast_ten_pow]
    exact Nat.cast_lt.2 hnat
  exact Nat.lt_succ_iff.1 ((pow_lt_pow_iff_right₀ (by norm_num)).1 (lt_of_le_of_lt hpower hlt))

/-- A significand that was rounded once is multiplied by a power of ten within the limit. -/
theorem exists_grow? {x : Binary64} {digits : ℚ} {power : Nat} (hone : 1 ≤ digits)
    (hx : x.magnitude ≤ digits * (1 + 1 / 2 ^ 53)) (hsafe : digits * 10 ^ power ≤ safeLimit) :
    ∃ y, x.grow? power = some y := by
  have hpower : power ≤ maxPowerOfTen := by
    apply power_le_of_safe
    calc (10 : ℚ) ^ power = 1 * 10 ^ power := (one_mul _).symm
      _ ≤ digits * 10 ^ power := by gcongr
      _ ≤ safeLimit := hsafe
  obtain ⟨step, hstep, -, hstepUpper⟩ := exists_powerOfTen? hpower
  rw [grow?]
  split
  next => exact ⟨x, rfl⟩
  next =>
    rw [hstep, Option.bind_some]
    apply exists_mul?
    -- The significand and the power of ten are each rounded once before they meet.
    calc x.magnitude * step.magnitude
        ≤ digits * (1 + 1 / 2 ^ 53) * (10 ^ power * (1 + 1 / 2 ^ 53)) := by
          apply mul_le_mul hx hstepUpper
          · exact magnitude_nonneg step
          · positivity
      _ = digits * 10 ^ power * (1 + 1 / 2 ^ 53) * (1 + 1 / 2 ^ 53) := by ring
      _ ≤ safeLimit * (1 + 1 / 2 ^ 53) * (1 + 1 / 2 ^ 53) := by gcongr
      _ < tooLarge := safeLimit_lt

end Binary64

namespace Decimal

open Binary64 (safeLimit)

theorem maxDigits_lt : (maxDigits : ℚ) < tooLarge := by
  have hnat : maxDigits < 18014398509481983 * 2 ^ 970 := by decide +kernel
  rw [Binary64.tooLarge_eq]
  exact Nat.cast_lt.2 hnat

/-- A decimal with a significand of 64 bits that is not too near to the greatest number is read as a
finite number. -/
theorem exists_scaled? {negative : Bool} {d : Decimal} (hdigits : d.digits ≤ maxDigits)
    (hsafe : d.value ≤ safeLimit) : ∃ y, d.scaled? negative = some y := by
  have hden : (d.digits / (1 : Nat) : ℚ) = d.digits := by rw [Nat.cast_one, div_one]
  have hlt : (d.digits / (1 : Nat) : ℚ) < tooLarge :=
    hden.symm ▸ lt_of_le_of_lt (Nat.cast_le.2 hdigits) maxDigits_lt
  obtain ⟨x, hx⟩ : ∃ x, Binary64.ofQuotient? negative d.digits 1 = some x :=
    Binary64.exists_ofQuotient? Nat.one_pos hlt
  rw [scaled?, hx, Option.bind_eq_bind, Option.bind_some]
  split
  next hexponent =>
    rcases Nat.eq_zero_or_pos d.digits with hzero | hpos
    · rw [hzero] at hx
      cases hx
      exact ⟨_, rfl⟩
    · have hone : (1 : ℚ) ≤ d.digits := by exact_mod_cast hpos
      have hrounded := Binary64.magnitude_le_of_ofQuotient? Nat.one_pos (hden.symm ▸ hone) hx
      have hvalue : d.value = d.digits * 10 ^ d.exponent.toNat := by
        rw [value, ← zpow_natCast, Int.toNat_of_nonneg hexponent]
      exact Binary64.exists_grow? hone (hden ▸ hrounded) (hvalue ▸ hsafe)
  next => exact Binary64.exists_shrink? x _

/-! ## Digits that do not fit -/

/-- The number whose digits are those of `n` and then the others. -/
def digitsFrom (n : Nat) (digits : List Nat) : Nat := digits.foldl (fun n d => n * 10 + d) n

theorem mul_pow_le_digitsFrom (n : Nat) (digits : List Nat) :
    n * 10 ^ digits.length ≤ digitsFrom n digits := by
  induction digits generalizing n with
  | nil => exact (Nat.mul_one n).le
  | cons d digits ih =>
    calc n * 10 ^ (digits.length + 1) = n * 10 * 10 ^ digits.length := by
          rw [Nat.pow_succ', Nat.mul_assoc]
      _ ≤ (n * 10 + d) * 10 ^ digits.length := Nat.mul_le_mul_right _ (Nat.le_add_right _ d)
      _ ≤ digitsFrom (n * 10 + d) digits := ih (n * 10 + d)

theorem le_digitsFrom (n : Nat) (digits : List Nat) : n ≤ digitsFrom n digits :=
  (Nat.le_mul_of_pos_right n (by positivity)).trans (mul_pow_le_digitsFrom n digits)

/-- Digits that all fit are all taken. -/
theorem extend_of_le {n : Nat} {digits : List Nat} (hfits : digitsFrom n digits ≤ maxDigits) :
    extend n digits = (digitsFrom n digits, 0) := by
  induction digits generalizing n with
  | nil => rfl
  | cons d digits ih =>
    have hnext : n * 10 + d ≤ maxDigits := (le_digitsFrom (n * 10 + d) digits).trans hfits
    rw [extend, if_neg (Nat.not_lt.2 hnext)]
    exact ih hfits

/-- The digits that are taken fit, and to leave out the others makes the number no greater. -/
theorem extend_bounds {n : Nat} (hn : n ≤ maxDigits) (digits : List Nat) :
    (extend n digits).1 ≤ maxDigits ∧
      (extend n digits).1 * 10 ^ (extend n digits).2 ≤ digitsFrom n digits := by
  induction digits generalizing n with
  | nil => exact ⟨hn, (Nat.mul_one n).le⟩
  | cons d digits ih =>
    rw [extend]
    split
    next => exact ⟨hn, mul_pow_le_digitsFrom n (d :: digits)⟩
    next hfits => exact ih (Nat.not_lt.1 hfits)

/-- A decimal whose digits before the point fit is cut to one that is no greater. -/
theorem ofDigits_bounds {whole : List Nat} (hwhole : digitsFrom 0 whole ≤ maxDigits)
    (fraction : List Nat) (power : Int) :
    (ofDigits whole fraction power).digits ≤ maxDigits ∧
      (ofDigits whole fraction power).value ≤
        digitsFrom 0 (whole ++ fraction) * 10 ^ (power - fraction.length) := by
  obtain ⟨hdigits, hvalue⟩ := extend_bounds hwhole fraction
  have hof : ofDigits whole fraction power =
      ⟨(extend (digitsFrom 0 whole) fraction).1,
        power - fraction.length + (extend (digitsFrom 0 whole) fraction).2⟩ := by
    rw [ofDigits, extend_of_le hwhole]
    simp only [Decimal.mk.injEq, true_and]
    omega
  have happend : digitsFrom 0 (whole ++ fraction) = digitsFrom (digitsFrom 0 whole) fraction :=
    List.foldl_append
  have hcast : ((extend (digitsFrom 0 whole) fraction).1 : ℚ) *
      10 ^ (extend (digitsFrom 0 whole) fraction).2 ≤ digitsFrom (digitsFrom 0 whole) fraction := by
    exact_mod_cast hvalue
  rw [hof, happend]
  refine ⟨hdigits, ?_⟩
  rw [value, add_comm, zpow_add₀ (by norm_num), zpow_natCast, ← mul_assoc]
  gcongr

/-! ## The decimal a number is written by -/

/-- A decimal that rounds to a number other than zero is at most half a place above it. -/
theorem value_le_of_toBinary64? {negative : Bool} {d : Decimal} {x : Binary64}
    (hx : d.toBinary64? negative = some x) (hmantissa : x.mantissa ≠ 0) :
    d.value ≤ (x.mantissa + 1 / 2) * 2 ^ x.exponent ∧ -330 ≤ d.magnitude ∧ d.magnitude ≤ 310 := by
  have hzero : some (Binary64.zero negative) ≠ some x := by
    intro heq
    cases heq
    exact hmantissa rfl
  unfold toBinary64? at hx
  split at hx
  next => exact absurd hx hzero
  next =>
    split at hx
    next => cases hx
    next hlarge =>
      split at hx
      next => exact absurd hx hzero
      next hsmall =>
        refine ⟨?_, by omega, by omega⟩
        split at hx
        next hexponent =>
          have hle := Binary64.le_of_ofQuotient? Nat.one_pos hx
          have hpower : ((Nat.pow 10 d.exponent.toNat : Nat) : ℚ) = 10 ^ d.exponent := by
            exact_mod_cast Binary64.natCast_pow_toNat hexponent 10
          rw [Nat.cast_mul, hpower, Nat.cast_one, div_one] at hle
          exact hle
        next hexponent =>
          have hnonneg : 0 ≤ -d.exponent := by omega
          have hpos : 0 < Nat.pow 10 (-d.exponent).toNat := Nat.pow_pos (by decide)
          have hpower : ((Nat.pow 10 (-d.exponent).toNat : Nat) : ℚ) = 10 ^ (-d.exponent) := by
            exact_mod_cast Binary64.natCast_pow_toNat hnonneg 10
          have hle := Binary64.le_of_ofQuotient? hpos hx
          rw [hpower, zpow_neg, div_inv_eq_mul] at hle
          exact hle

theorem value_exactDecimal (x : Binary64) : x.exactDecimal.value = x.magnitude := by
  unfold Binary64.exactDecimal
  split
  next hexponent =>
    rw [value, zpow_zero, mul_one, Nat.cast_mul, Binary64.cast_two_pow hexponent, Binary64.magnitude]
  next hexponent =>
    have hnonneg : 0 ≤ -x.exponent := by omega
    have hpower : ((Nat.pow 5 (-x.exponent).toNat : Nat) : ℚ) = 5 ^ (-x.exponent) := by
      exact_mod_cast Binary64.natCast_pow_toNat hnonneg 5
    have hten : (10 : ℚ) = 5 * 2 := by norm_num
    rw [value, Nat.cast_mul, hpower, hten, mul_zpow, zpow_neg, mul_assoc, ← mul_assoc _ _ (2 ^ _),
      inv_mul_cancel₀ (by positivity), one_mul, Binary64.magnitude]

theorem length_toDigits_bounds (n : Nat) {bound : Nat} (hbound : 0 < bound) (hlt : n < 10 ^ bound) :
    1 ≤ (Nat.toDigits 10 n).length ∧ (Nat.toDigits 10 n).length ≤ bound :=
  ⟨Nat.length_toDigits_pos, (Nat.length_toDigits_le_iff (by decide) hbound).2 hlt⟩

theorem mul_pow_lt {mantissa size base power bound : Nat} (hmantissa : mantissa < 10 ^ size)
    (hbase : base ≤ 10) (hpower : power ≤ bound) :
    mantissa * Nat.pow base power < 10 ^ (size + bound) := by
  calc mantissa * Nat.pow base power ≤ mantissa * 10 ^ bound :=
        Nat.mul_le_mul_left _
          ((Nat.pow_le_pow_left hbase power).trans (Nat.pow_le_pow_right (by decide) hpower))
    _ < 10 ^ size * 10 ^ bound := Nat.mul_lt_mul_of_pos_right hmantissa (by positivity)
    _ = 10 ^ (size + bound) := (Nat.pow_add 10 size bound).symm

/-- The digits of a number written out in full, with room to spare. -/
theorem magnitude_exactDecimal (x : Binary64) :
    -1073 ≤ x.exactDecimal.magnitude ∧ x.exactDecimal.magnitude ≤ 1127 := by
  have hmantissa : x.mantissa < 10 ^ 53 := lt_of_lt_of_le x.mantissa_lt (by decide +kernel)
  have hlow := x.exponent_ge
  have hhigh := x.exponent_le
  unfold Binary64.exactDecimal magnitude
  split
  next hexponent =>
    have hpower : x.exponent.toNat ≤ 1074 := by omega
    obtain ⟨hleast, hmost⟩ :=
      length_toDigits_bounds _ (by decide) (mul_pow_lt hmantissa (by decide : 2 ≤ 10) hpower)
    constructor <;> dsimp only <;> omega
  next hexponent =>
    have hpower : (-x.exponent).toNat ≤ 1074 := by omega
    obtain ⟨hleast, hmost⟩ :=
      length_toDigits_bounds _ (by decide) (mul_pow_lt hmantissa (by decide : 5 ≤ 10) hpower)
    constructor <;> dsimp only <;> omega

/-- The decimal a number is written by is at most half a place above it. -/
theorem shortest_bounds {x : Binary64} (hmantissa : x.mantissa ≠ 0) :
    x.shortest.value ≤ (x.mantissa + 1 / 2) * 2 ^ x.exponent ∧
      -1073 ≤ x.shortest.magnitude ∧ x.shortest.magnitude ≤ 1127 := by
  rw [Binary64.shortest, if_neg hmantissa]
  dsimp only
  -- The shortest decimal that rounds to the number, or else its digits written out in full.
  generalize hfound : List.find? _ _ = found
  cases found with
  | some d =>
    have hx : d.toBinary64? x.negative = some x := by simpa using List.find?_some hfound
    obtain ⟨hvalue, hlow, hhigh⟩ := value_le_of_toBinary64? hx hmantissa
    rw [Option.getD_some]
    exact ⟨hvalue, by omega, by omega⟩
  | none =>
    refine ⟨?_, magnitude_exactDecimal x⟩
    rw [Option.getD_none, value_exactDecimal, Binary64.magnitude]
    gcongr
    exact le_add_of_nonneg_right (by norm_num)

/-- All but the three greatest magnitudes are written by decimals up to the safe limit. -/
theorem value_shortest_le {x : Binary64}
    (hsmall : x.exponent < 971 ∨ x.mantissa + 3 < 2 ^ 53) : x.shortest.value ≤ safeLimit := by
  by_cases hmantissa : x.mantissa = 0
  · rw [Binary64.shortest, if_pos hmantissa, value, Nat.cast_zero, zero_mul]
    unfold safeLimit
    norm_num
  · apply (shortest_bounds hmantissa).1.trans
    rcases hsmall with hexponent | hsmall
    · have hmantissa : (x.mantissa : ℚ) + 1 / 2 ≤ 2 ^ 54 - 7 := by
        have hlt : (x.mantissa : ℚ) < 2 ^ 53 := by exact_mod_cast x.mantissa_lt
        linarith
      calc (x.mantissa + 1 / 2 : ℚ) * 2 ^ x.exponent ≤ (2 ^ 54 - 7) * 2 ^ x.exponent := by gcongr
        _ ≤ (2 ^ 54 - 7) * 2 ^ (970 : ℤ) :=
            mul_le_mul_of_nonneg_left (zpow_le_zpow_right₀ one_le_two (by omega)) (by norm_num)
        _ = safeLimit := rfl
    · have hmantissa : ((x.mantissa : ℚ) + 1 / 2) * 2 ≤ 2 ^ 54 - 7 := by
        have hle : (x.mantissa : ℚ) + 4 ≤ 2 ^ 53 := by exact_mod_cast hsmall
        linarith
      calc (x.mantissa + 1 / 2 : ℚ) * 2 ^ x.exponent
          ≤ (x.mantissa + 1 / 2) * 2 ^ (971 : ℤ) :=
            mul_le_mul_of_nonneg_left (zpow_le_zpow_right₀ one_le_two x.exponent_le) (by positivity)
        _ = (x.mantissa + 1 / 2) * 2 * 2 ^ (970 : ℤ) := by
            rw [mul_assoc, Binary64.two_zpow_top]
        _ ≤ safeLimit := mul_le_mul_of_nonneg_right hmantissa (by positivity)

end Decimal

end Intake
