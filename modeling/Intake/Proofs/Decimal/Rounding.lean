import Intake.Decimal.Binary64
import Mathlib.Algebra.Order.Field.Power
import Mathlib.Data.Rat.Cast.Order
import Mathlib.Tactic.FieldSimp
import Mathlib.Tactic.Linarith
import Mathlib.Tactic.NormNum
import Mathlib.Tactic.Positivity
import Mathlib.Tactic.Ring

/-!
# How far rounding moves a quotient

Magnitudes are rational numbers here.  A rounded quotient is within half a unit of its last place,
and every quotient below the middle between the greatest number and the next power of two has a
rounded one.
-/

namespace Intake.Binary64

/-- The magnitude of a number. -/
def magnitude (x : Binary64) : ℚ := x.mantissa * 2 ^ x.exponent

/-- The least magnitude that has no nearest number. -/
def tooLarge : ℚ := (2 ^ 54 - 1) * 2 ^ (970 : ℤ)

theorem two_zpow_top : (2 : ℚ) ^ (971 : ℤ) = 2 * 2 ^ (970 : ℤ) := zpow_one_add₀ two_ne_zero 970

section Quotients

variable {num den : Nat}

/-- A rounded quotient is off by one half at most. -/
theorem roundQuotient_bounds (num : Nat) (hden : 0 < den) :
    (roundQuotient num den : ℚ) ≤ num / den + 1 / 2 ∧
      (num / den : ℚ) ≤ roundQuotient num den + 1 / 2 := by
  have hsplit : den * (num / den) + num % den = num := Nat.div_add_mod num den
  have hrest : num % den < den := Nat.mod_lt num hden
  have hhalf : num / den % 2 = 0 ∨ num / den % 2 = 1 := Nat.mod_two_eq_zero_or_one _
  have hnat : 2 * (den * roundQuotient num den) ≤ 2 * num + den ∧
      2 * num ≤ 2 * (den * roundQuotient num den) + den := by
    unfold roundQuotient
    dsimp only
    split
    next hlt => omega
    next hge =>
      split
      next hlt =>
        rw [Nat.mul_add, Nat.mul_one]
        omega
      next hle =>
        rw [Nat.mul_add]
        rcases hhalf with heven | hodd
        · rw [heven]
          omega
        · rw [hodd]
          omega
  have hpos : (0 : ℚ) < den := by exact_mod_cast hden
  obtain ⟨hlow, hhigh⟩ := hnat
  have hlowCast : 2 * ((den : ℚ) * roundQuotient num den) ≤ 2 * num + den := by
    exact_mod_cast hlow
  have hhighCast : 2 * (num : ℚ) ≤ 2 * (den * roundQuotient num den) + den := by
    exact_mod_cast hhigh
  constructor
  · rw [← sub_le_iff_le_add, le_div_iff₀ hpos]
    linarith
  · rw [div_le_iff₀ hpos]
    linarith

theorem natCast_pow_toNat {exponent : Int} (hexponent : 0 ≤ exponent) (base : Nat) :
    ((Nat.pow base exponent.toNat : Nat) : ℚ) = (base : ℚ) ^ exponent := by
  rw [Nat.pow_eq, Nat.cast_pow, ← zpow_natCast, Int.toNat_of_nonneg hexponent]

theorem cast_two_pow {exponent : Int} (hexponent : 0 ≤ exponent) :
    ((Nat.pow 2 exponent.toNat : Nat) : ℚ) = 2 ^ exponent := by
  exact_mod_cast natCast_pow_toNat hexponent 2

/-- The scaled quotient is off by one half at most. -/
theorem scaled_bounds (num : Nat) (hden : 0 < den) (exponent : Int) :
    (scaled num den exponent : ℚ) ≤ num / den / 2 ^ exponent + 1 / 2 ∧
      (num / den / 2 ^ exponent : ℚ) ≤ scaled num den exponent + 1 / 2 := by
  unfold scaled
  split
  next hexponent =>
    have hpower := cast_two_pow hexponent
    have hscaled : 0 < den * Nat.pow 2 exponent.toNat := Nat.mul_pos hden (Nat.two_pow_pos _)
    have hbounds := roundQuotient_bounds num hscaled
    rw [Nat.cast_mul, hpower, ← div_div] at hbounds
    exact hbounds
  next hexponent =>
    have hpower : ((Nat.pow 2 (-exponent).toNat : Nat) : ℚ) = 2 ^ (-exponent) :=
      cast_two_pow (by omega)
    have hbounds := roundQuotient_bounds (num * Nat.pow 2 (-exponent).toNat) hden
    rw [Nat.cast_mul, hpower, zpow_neg, ← div_eq_mul_inv, div_right_comm] at hbounds
    exact hbounds

theorem two_zpow_le_log2 {n : Nat} (hn : 0 < n) :
    (2 : ℚ) ^ (Nat.log2 n : Int) ≤ n ∧ (n : ℚ) < 2 ^ ((Nat.log2 n : Int) + 1) := by
  have hne : n ≠ 0 := Nat.ne_of_gt hn
  constructor
  · rw [zpow_natCast]
    exact_mod_cast Nat.log2_self_le hne
  · rw [← Nat.cast_succ, zpow_natCast]
    exact_mod_cast Nat.lt_log2_self

/-- The difference of the logarithms is the logarithm of the quotient, or one more. -/
theorem log2_guess_bounds (hnum : 0 < num) (hden : 0 < den) :
    (2 : ℚ) ^ ((Nat.log2 num : Int) - Nat.log2 den - 1) ≤ num / den ∧
      (num / den : ℚ) < 2 ^ ((Nat.log2 num : Int) - Nat.log2 den + 1) := by
  obtain ⟨hnumLow, hnumHigh⟩ := two_zpow_le_log2 hnum
  obtain ⟨hdenLow, hdenHigh⟩ := two_zpow_le_log2 hden
  have hpos : (0 : ℚ) < den := by exact_mod_cast hden
  constructor
  · rw [le_div_iff₀ hpos]
    calc (2 : ℚ) ^ ((Nat.log2 num : Int) - Nat.log2 den - 1) * den
        ≤ 2 ^ ((Nat.log2 num : Int) - Nat.log2 den - 1) * 2 ^ ((Nat.log2 den : Int) + 1) := by
          gcongr
      _ = 2 ^ (Nat.log2 num : Int) := by
          rw [← zpow_add₀ two_ne_zero]
          congr 1
          omega
      _ ≤ num := hnumLow
  · rw [div_lt_iff₀ hpos]
    calc (num : ℚ) < 2 ^ ((Nat.log2 num : Int) + 1) := hnumHigh
      _ = 2 ^ ((Nat.log2 num : Int) - Nat.log2 den + 1) * 2 ^ (Nat.log2 den : Int) := by
          rw [← zpow_add₀ two_ne_zero]
          congr 1
          omega
      _ ≤ 2 ^ ((Nat.log2 num : Int) - Nat.log2 den + 1) * den := by gcongr

/-- Whether a quotient reaches a power of two is told by whole numbers. -/
theorem reached_iff (num : Nat) (hden : 0 < den) (guess : Int) :
    (if 0 ≤ guess then den * Nat.pow 2 guess.toNat ≤ num
      else den ≤ num * Nat.pow 2 (-guess).toNat) ↔ (2 : ℚ) ^ guess ≤ num / den := by
  have hpos : (0 : ℚ) < den := by exact_mod_cast hden
  rw [le_div_iff₀ hpos]
  split
  next hguess =>
    rw [← cast_two_pow hguess, mul_comm]
    exact_mod_cast Iff.rfl
  next hguess =>
    have hpower : ((Nat.pow 2 (-guess).toNat : Nat) : ℚ) = 2 ^ (-guess) :=
      cast_two_pow (by omega)
    have hflip : (2 : ℚ) ^ guess * den ≤ num ↔ (den : ℚ) ≤ num * 2 ^ (-guess) := by
      rw [zpow_neg, ← div_eq_mul_inv, le_div_iff₀ (by positivity), mul_comm]
    rw [hflip, ← hpower]
    exact_mod_cast Iff.rfl

/-- The quotient lies between two neighbouring powers of two. -/
theorem log2Quotient_bounds (hnum : 0 < num) (hden : 0 < den) :
    (2 : ℚ) ^ log2Quotient num den ≤ num / den ∧
      (num / den : ℚ) < 2 ^ (log2Quotient num den + 1) := by
  obtain ⟨hbelow, habove⟩ := log2_guess_bounds hnum hden
  have hreached := reached_iff num hden ((Nat.log2 num : Int) - Nat.log2 den)
  unfold log2Quotient
  dsimp only
  by_cases hle : (2 : ℚ) ^ ((Nat.log2 num : Int) - Nat.log2 den) ≤ num / den
  · rw [if_pos (hreached.2 hle)]
    exact ⟨hle, habove⟩
  · rw [if_neg fun hyes => hle (hreached.1 hyes), sub_add_cancel]
    exact ⟨hbelow, lt_of_not_ge hle⟩

end Quotients

theorem ofParts?_eq (x : Binary64) : ofParts? x.negative x.mantissa x.exponent = some x := by
  rw [ofParts?, dif_pos ⟨x.mantissa_lt, x.exponent_ge, x.exponent_le, x.isLeast⟩]

theorem ofParts?_eq_some {negative : Bool} {mantissa : Nat} {exponent : Int} {x : Binary64}
    (hparts : ofParts? negative mantissa exponent = some x) :
    x.negative = negative ∧ x.mantissa = mantissa ∧ x.exponent = exponent := by
  unfold ofParts? at hparts
  split at hparts
  next =>
    cases hparts
    exact ⟨rfl, rfl, rfl⟩
  next => cases hparts

/-! ## The number nearest to a quotient -/

section Nearest

variable {num den : Nat} {negative : Bool} {x : Binary64}

/-- The exponent that the number nearest to a quotient has before its mantissa is rounded. -/
def placeOf (num den : Nat) : Int := max (-1074) (log2Quotient num den - 52)

theorem ofQuotient?_of_pos (hnum : 0 < num) :
    ofQuotient? negative num den =
      if scaled num den (placeOf num den) = Nat.pow 2 53 then
        ofParts? negative (Nat.pow 2 52) (placeOf num den + 1)
      else ofParts? negative (scaled num den (placeOf num den)) (placeOf num den) := by
  rw [ofQuotient?, if_neg (Nat.ne_of_gt hnum)]
  rfl

/-- What the rounded mantissa of a quotient may be. -/
theorem scaled_placeOf (hnum : 0 < num) (hden : 0 < den) :
    scaled num den (placeOf num den) ≤ 2 ^ 53 ∧
      (2 ^ 52 ≤ scaled num den (placeOf num den) ∨ placeOf num den = -1074) := by
  obtain ⟨hlow, hhigh⟩ := log2Quotient_bounds hnum hden
  obtain ⟨hupper, hlower⟩ := scaled_bounds num hden (placeOf num den)
  have hunit : (0 : ℚ) < 2 ^ placeOf num den := by positivity
  constructor
  · have hbelow : (num / den / 2 ^ placeOf num den : ℚ) < 2 ^ 53 := by
      rw [div_lt_iff₀ hunit]
      calc (num / den : ℚ) < 2 ^ (log2Quotient num den + 1) := hhigh
        _ ≤ 2 ^ (53 + placeOf num den) := by
            apply zpow_le_zpow_right₀ one_le_two
            unfold placeOf
            omega
        _ = 2 ^ 53 * 2 ^ placeOf num den := by
            rw [zpow_add₀ two_ne_zero]
            norm_num
    have hlt : (scaled num den (placeOf num den) : ℚ) < 2 ^ 53 + 1 := by linarith
    exact Nat.lt_succ_iff.1 (by exact_mod_cast hlt)
  · by_cases hplace : placeOf num den = -1074
    · exact .inr hplace
    · left
      have habove : (2 : ℚ) ^ 52 ≤ num / den / 2 ^ placeOf num den := by
        rw [le_div_iff₀ hunit]
        calc (2 : ℚ) ^ 52 * 2 ^ placeOf num den = 2 ^ (52 + placeOf num den) := by
              rw [zpow_add₀ two_ne_zero]
              norm_num
          _ = 2 ^ log2Quotient num den := by
              congr 1
              unfold placeOf at hplace ⊢
              omega
          _ ≤ num / den := hlow
      have hlt : (2 : ℚ) ^ 52 < scaled num den (placeOf num den) + 1 := by linarith
      exact Nat.lt_succ_iff.1 (by exact_mod_cast hlt)

theorem exists_ofParts? {mantissa : Nat} {exponent : Int} (hmantissa : mantissa < 2 ^ 53)
    (hexponent : exponent ≤ 971) (hleast : 2 ^ 52 ≤ mantissa ∧ -1074 ≤ exponent ∨ exponent = -1074) :
    ∃ x, ofParts? negative mantissa exponent = some x := by
  have hparts : mantissa < Nat.pow 2 53 ∧ -1074 ≤ exponent ∧ exponent ≤ 971 ∧
      (Nat.pow 2 52 ≤ mantissa ∨ exponent = -1074) := by
    refine ⟨hmantissa, by omega, hexponent, ?_⟩
    rcases hleast with ⟨hleast, -⟩ | hleast
    · exact .inl hleast
    · exact .inr hleast
  rw [ofParts?, dif_pos hparts]
  exact ⟨_, rfl⟩

/-- The place of a quotient that is not too large is not above the greatest one. -/
theorem placeOf_le (hnum : 0 < num) (hden : 0 < den) (hlt : (num / den : ℚ) < tooLarge) :
    placeOf num den ≤ 971 := by
  obtain ⟨hlow, -⟩ := log2Quotient_bounds hnum hden
  have hpower : (2 : ℚ) ^ log2Quotient num den < 2 ^ (1024 : ℤ) := by
    calc (2 : ℚ) ^ log2Quotient num den ≤ num / den := hlow
      _ < tooLarge := hlt
      _ ≤ 2 ^ 54 * 2 ^ (970 : ℤ) := by
          unfold tooLarge
          gcongr
          norm_num
      _ = 2 ^ (1024 : ℤ) := by
          rw [← zpow_natCast, ← zpow_add₀ two_ne_zero]
          norm_num
  have hlog := (zpow_lt_zpow_iff_right₀ one_lt_two).1 hpower
  unfold placeOf
  omega

/-- At the greatest place a quotient that is not too large does not round up to the next one. -/
theorem scaled_top_ne (num : Nat) (hden : 0 < den) (hlt : (num / den : ℚ) < tooLarge) :
    scaled num den 971 ≠ 2 ^ 53 := by
  intro hfull
  obtain ⟨hupper, -⟩ := scaled_bounds num hden 971
  rw [hfull] at hupper
  have hhalf : (2 ^ 54 - 1 : ℚ) = (2 ^ 53 - 1 / 2) * 2 := by norm_num
  have hbelow : (num / den / 2 ^ (971 : ℤ) : ℚ) < 2 ^ 53 - 1 / 2 := by
    rw [div_lt_iff₀ (by positivity)]
    calc (num / den : ℚ) < tooLarge := hlt
      _ = (2 ^ 53 - 1 / 2) * 2 * 2 ^ (970 : ℤ) := congrArg (· * (2 : ℚ) ^ (970 : ℤ)) hhalf
      _ = (2 ^ 53 - 1 / 2) * 2 ^ (971 : ℤ) := by rw [mul_assoc, two_zpow_top]
  -- The power is out of the way before the numbers are compared.
  generalize (num / den / 2 ^ (971 : ℤ) : ℚ) = quotient at hupper hbelow
  push_cast at hupper
  linarith

/-- A quotient that is not too large has a nearest number. -/
theorem exists_ofQuotient? (hden : 0 < den) (hlt : (num / den : ℚ) < tooLarge) :
    ∃ x, ofQuotient? negative num den = some x := by
  rcases Nat.eq_zero_or_pos num with rfl | hnum
  · exact ⟨zero negative, rfl⟩
  obtain ⟨hmantissa, hleast⟩ := scaled_placeOf hnum hden
  have hplace := placeOf_le hnum hden hlt
  have hplaceLow : -1074 ≤ placeOf num den := le_max_left _ _
  rw [ofQuotient?_of_pos hnum]
  split
  next hfull =>
    have hbelow : placeOf num den ≠ 971 := by
      intro heq
      rw [heq] at hfull
      exact scaled_top_ne num hden hlt hfull
    exact exists_ofParts? (by norm_num) (by omega) (.inl ⟨le_refl _, by omega⟩)
  next hnotFull =>
    have hmantissaLt : scaled num den (placeOf num den) < 2 ^ 53 := lt_of_le_of_ne hmantissa hnotFull
    refine exists_ofParts? hmantissaLt hplace ?_
    rcases hleast with hleast | hleast
    · exact .inl ⟨hleast, hplaceLow⟩
    · exact .inr hleast

/-- The magnitude of the nearest number is the rounded mantissa at its place. -/
theorem magnitude_of_ofQuotient? (hnum : 0 < num) (hx : ofQuotient? negative num den = some x) :
    x.magnitude = scaled num den (placeOf num den) * 2 ^ placeOf num den ∧
      placeOf num den ≤ x.exponent := by
  rw [ofQuotient?_of_pos hnum] at hx
  split at hx
  next hfull =>
    obtain ⟨-, hmantissa, hexponent⟩ := ofParts?_eq_some hx
    rw [magnitude, hmantissa, hexponent, hfull]
    constructor
    · rw [zpow_add₀ two_ne_zero]
      push_cast
      ring
    · omega
  next =>
    obtain ⟨-, hmantissa, hexponent⟩ := ofParts?_eq_some hx
    rw [magnitude, hmantissa, hexponent]
    exact ⟨rfl, le_refl _⟩

/-- A quotient is at most half a place above its nearest number. -/
theorem le_of_ofQuotient? (hden : 0 < den) (hx : ofQuotient? negative num den = some x) :
    (num / den : ℚ) ≤ (x.mantissa + 1 / 2) * 2 ^ x.exponent := by
  rcases Nat.eq_zero_or_pos num with rfl | hnum
  · rw [Nat.cast_zero, zero_div]
    positivity
  obtain ⟨hmagnitude, hplace⟩ := magnitude_of_ofQuotient? hnum hx
  obtain ⟨-, hlower⟩ := scaled_bounds num hden (placeOf num den)
  rw [div_le_iff₀ (by positivity)] at hlower
  calc (num / den : ℚ)
      ≤ (scaled num den (placeOf num den) + 1 / 2) * 2 ^ placeOf num den := hlower
    _ = x.magnitude + 1 / 2 * 2 ^ placeOf num den := by rw [hmagnitude, add_mul]
    _ ≤ x.magnitude + 1 / 2 * 2 ^ x.exponent := by gcongr; exact one_le_two
    _ = (x.mantissa + 1 / 2) * 2 ^ x.exponent := by rw [magnitude, add_mul]

/-- The place of a quotient that is not below one. -/
theorem placeOf_of_one_le (hnum : 0 < num) (hden : 0 < den) (hone : (1 : ℚ) ≤ num / den) :
    0 ≤ log2Quotient num den ∧ placeOf num den = log2Quotient num den - 52 := by
  obtain ⟨-, hhigh⟩ := log2Quotient_bounds hnum hden
  have hpower : (2 : ℚ) ^ (0 : ℤ) < 2 ^ (log2Quotient num den + 1) := by
    rw [zpow_zero]
    exact lt_of_le_of_lt hone hhigh
  have hlog := (zpow_lt_zpow_iff_right₀ one_lt_two).1 hpower
  unfold placeOf
  omega

theorem num_pos_of_one_le (hone : (1 : ℚ) ≤ num / den) : 0 < num := by
  apply Nat.pos_of_ne_zero
  rintro rfl
  norm_num at hone

/-- Rounding a quotient that is not below one enlarges it by one part in `2 ^ 53` at most. -/
theorem magnitude_le_of_ofQuotient? (hden : 0 < den) (hone : (1 : ℚ) ≤ num / den)
    (hx : ofQuotient? negative num den = some x) :
    x.magnitude ≤ num / den * (1 + 1 / 2 ^ 53) := by
  have hnum := num_pos_of_one_le hone
  obtain ⟨hlow, -⟩ := log2Quotient_bounds hnum hden
  obtain ⟨-, hplace⟩ := placeOf_of_one_le hnum hden hone
  obtain ⟨hmagnitude, -⟩ := magnitude_of_ofQuotient? hnum hx
  obtain ⟨hupper, -⟩ := scaled_bounds num hden (placeOf num den)
  have hunit : (2 : ℚ) ^ placeOf num den ≤ num / den / 2 ^ 52 := by
    rw [hplace, zpow_sub₀ two_ne_zero]
    gcongr
    norm_num
  rw [hmagnitude]
  calc (scaled num den (placeOf num den) : ℚ) * 2 ^ placeOf num den
      ≤ (num / den / 2 ^ placeOf num den + 1 / 2) * 2 ^ placeOf num den := by gcongr
    _ = num / den + 1 / 2 * 2 ^ placeOf num den := by
        rw [add_mul, div_mul_cancel₀ _ (by positivity)]
    _ ≤ num / den + 1 / 2 * (num / den / 2 ^ 52) := by gcongr
    _ = num / den * (1 + 1 / 2 ^ 53) := by ring

/-- A quotient that is not below one has a nearest number that is not below one. -/
theorem one_le_magnitude (hden : 0 < den) (hone : (1 : ℚ) ≤ num / den)
    (hx : ofQuotient? negative num den = some x) : 1 ≤ x.magnitude := by
  have hnum := num_pos_of_one_le hone
  obtain ⟨hlog, hplace⟩ := placeOf_of_one_le hnum hden hone
  obtain ⟨hmagnitude, -⟩ := magnitude_of_ofQuotient? hnum hx
  have hleast : 2 ^ 52 ≤ scaled num den (placeOf num den) := by
    rcases (scaled_placeOf hnum hden).2 with hleast | hleast
    · exact hleast
    · omega
  have hleastCast : (2 : ℚ) ^ 52 ≤ scaled num den (placeOf num den) := by exact_mod_cast hleast
  rw [hmagnitude]
  calc (1 : ℚ) ≤ 2 ^ log2Quotient num den := one_le_zpow₀ one_le_two hlog
    _ = 2 ^ 52 * 2 ^ placeOf num den := by
        rw [hplace, zpow_sub₀ two_ne_zero]
        field_simp
    _ ≤ scaled num den (placeOf num den) * 2 ^ placeOf num den := by gcongr

end Nearest

end Intake.Binary64
