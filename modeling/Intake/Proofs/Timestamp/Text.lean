import Intake.Proofs.Json.Text
import Intake.Timestamp.Reader

/-!
# Timestamps round trip through their text

A number padded to the width of its field is read back with the text after it, because the reader
takes the digits of the field and stops.  Every part of a timestamp is such a number or a separator,
so the parts are read one after the other and the written text is read back as the timestamp.
-/

namespace Intake

/-- A day that exists is made of its parts. -/
theorem Date.of?_self (date : Date) : Date.of? date.year date.month date.day = some date :=
  dif_pos ⟨date.year_ge, date.year_le, date.month_pos, date.month_le, date.day_pos, date.day_le⟩

theorem TimeOfDay.of?_self (time : TimeOfDay) :
    TimeOfDay.of? time.hour time.minute time.second time.nano = some time :=
  dif_pos ⟨time.hour_lt, time.minute_lt, time.second_le, time.nano_lt⟩

theorem Date.day_le_31 (date : Date) : date.day ≤ 31 := by
  apply Nat.le_trans date.day_le
  unfold Calendar.daysInMonth
  split
  · split <;> decide
  all_goals decide

namespace Timestamp

open Json (isDigit digitsValue)
open Text (dropBlanks isBlank)

section Padded

variable {width n : Nat} {rest : List Char}

theorem isDigit_of_mem_paddedChars {c : Char} (hc : c ∈ paddedChars width n) :
    isDigit c = true := by
  simp only [paddedChars, List.mem_append] at hc
  rcases hc with hzero | hdigit
  · rw [List.eq_of_mem_replicate hzero]
    decide
  · exact Json.isDigit_of_mem_toDigits hdigit

theorem digitsValue_paddedChars (width n : Nat) : digitsValue (paddedChars width n) = n := by
  have hzeros : ∀ k : Nat, Nat.ofDigitChars 10 (List.replicate k '0') 0 = 0 := by
    intro k
    induction k with
    | zero => rfl
    | succ k ih =>
      rw [List.replicate_succ, Nat.ofDigitChars_cons]
      exact ih
  rw [paddedChars, Json.digitsValue_eq, Nat.ofDigitChars_append, hzeros,
    Nat.ofDigitChars_ten_toDigits]

theorem paddedChars_ne_nil (width n : Nat) : paddedChars width n ≠ [] := by
  intro hnil
  exact Nat.toDigits_ne_nil (List.append_eq_nil_iff.1 hnil).2

/-- A number that fits its field fills it. -/
theorem length_paddedChars (hwidth : 0 < width) (hn : n < Nat.pow 10 width) :
    (paddedChars width n).length = width := by
  have hlength := (Nat.length_toDigits_le_iff (b := 10) (by decide) hwidth).2 hn
  simp only [paddedChars, List.length_append, List.length_replicate]
  omega

theorem isBlank_of_isDigit {c : Char} (hc : isDigit c = true) : isBlank c = false := by
  have hrange : 48 ≤ c.toNat ∧ c.toNat ≤ 57 := by
    simpa [isDigit, Char.le_def, UInt32.le_iff_toNat_le] using hc
  simp only [isBlank, Bool.or_eq_false_iff, Bool.and_eq_false_iff, decide_eq_false_iff_not,
    beq_eq_false_iff_ne]
  omega

theorem dropBlanks_cons {c : Char} (hc : isBlank c = false) (rest : List Char) :
    dropBlanks (c :: rest) = c :: rest :=
  Text.dropBlanks_eq_self fun _ h => (Option.some.inj h) ▸ hc

theorem dropBlanks_paddedChars (rest : List Char) :
    dropBlanks (paddedChars width n ++ rest) = paddedChars width n ++ rest := by
  obtain ⟨c, digits, heq⟩ := List.exists_cons_of_ne_nil (paddedChars_ne_nil width n)
  have hmem : c ∈ paddedChars width n := by simp [heq]
  have hc : isDigit c = true := isDigit_of_mem_paddedChars hmem
  rw [heq, List.cons_append, dropBlanks_cons (isBlank_of_isDigit hc)]

/-- The reader takes the digits of a field: as many as there may be, or up to something else. -/
theorem digitsUpTo_append {digits : List Char} {limit : Nat} (hne : digits ≠ [])
    (hdigits : ∀ c ∈ digits, isDigit c = true)
    (hlimit : digits.length = limit ∨
      digits.length ≤ limit ∧ ∀ c ∈ rest.head?, isDigit c = false) :
    digitsUpTo limit (digits ++ rest) = .ok (digitsValue digits, rest) := by
  have htake : ((digits ++ rest).take limit).takeWhile isDigit = digits := by
    have hle : digits.length ≤ limit := by omega
    rw [List.take_append, List.take_of_length_le hle, List.takeWhile_append_of_pos hdigits]
    suffices hstop : (rest.take (limit - digits.length)).takeWhile isDigit = [] by
      rw [hstop, List.append_nil]
    rcases hlimit with heq | ⟨-, hhead⟩
    · simp [heq]
    · cases hrest : rest.take (limit - digits.length) with
      | nil => rfl
      | cons c tail =>
        have hc : c ∈ rest.head? := by
          cases rest with
          | nil => simp at hrest
          | cons first others =>
            cases hcount : limit - digits.length with
            | zero => simp [hcount] at hrest
            | succ count =>
              rw [hcount, List.take_succ_cons] at hrest
              cases hrest
              rfl
        simp [hhead c hc]
  have hempty : (digits ++ rest).isEmpty = false := by
    cases digits with
    | nil => exact absurd rfl hne
    | cons _ _ => rfl
  have hdigitsEmpty : digits.isEmpty = false := by
    cases digits with
    | nil => exact absurd rfl hne
    | cons _ _ => rfl
  simp only [digitsUpTo, htake, hempty, hdigitsEmpty, Bool.false_eq_true, if_false,
    List.drop_left]

theorem digitsUpTo_paddedChars (hwidth : 0 < width) (hn : n < Nat.pow 10 width) (rest : List Char) :
    digitsUpTo width (paddedChars width n ++ rest) = .ok (n, rest) := by
  rw [digitsUpTo_append (paddedChars_ne_nil _ _) (fun _ => isDigit_of_mem_paddedChars)
    (.inl (length_paddedChars hwidth hn)), digitsValue_paddedChars]

theorem field_paddedChars {least greatest : Nat} (hleast : least ≤ n) (hgreatest : n ≤ greatest)
    (hn : n < 100) (rest : List Char) :
    field least greatest (paddedChars 2 n ++ rest) = .ok (n, rest) := by
  rw [field, dropBlanks_paddedChars, digitsUpTo_paddedChars (by decide) hn, ok_bind]
  exact if_pos ⟨hleast, hgreatest⟩

end Padded

theorem separator_cons {c : Char} (hc : isBlank c = false) (rest : List Char) :
    separator c (c :: rest) = .ok rest := by
  simp only [separator, dropBlanks_cons hc, if_true]

section Parts

/-- Signed years have digits up to the hyphen, others have four. -/
theorem year_yearChars {y : Int} (hleast : Calendar.firstYear ≤ y)
    (hgreatest : y ≤ Calendar.lastYear) (rest : List Char) :
    year (yearChars y ++ '-' :: rest) = .ok (y, '-' :: rest) := by
  have hlimit : -yearLimit ≤ y ∧ y < yearLimit := by
    simp only [Calendar.firstYear, Calendar.lastYear, yearLimit] at *
    omega
  have hsigned : digitsUpTo (paddedChars 4 y.natAbs ++ '-' :: rest).length
      (paddedChars 4 y.natAbs ++ '-' :: rest) = .ok (y.natAbs, '-' :: rest) := by
    rw [digitsUpTo_append (paddedChars_ne_nil _ _) (fun _ => isDigit_of_mem_paddedChars),
      digitsValue_paddedChars]
    refine .inr ⟨by simp, ?_⟩
    intro c hc
    cases hc
    decide
  unfold yearChars
  split
  next hplain =>
    obtain ⟨c, digits, heq⟩ := List.exists_cons_of_ne_nil (paddedChars_ne_nil 4 y.toNat)
    have hmem : c ∈ paddedChars 4 y.toNat := by simp [heq]
    have hc : isDigit c = true := isDigit_of_mem_paddedChars hmem
    have hfits : y.toNat < Nat.pow 10 4 := by
      show y.toNat < 10000
      omega
    have hread : digitsUpTo 4 (paddedChars 4 y.toNat ++ '-' :: rest) = .ok (y.toNat, '-' :: rest) :=
      digitsUpTo_paddedChars (by decide) hfits _
    have hy : (y.toNat : Int) = y := Int.toNat_of_nonneg hplain.1
    rw [year, dropBlanks_paddedChars, heq, List.cons_append]
    rw [heq, List.cons_append] at hread
    split
    next hminus =>
      cases hminus
      exact absurd hc (by decide)
    next hplus =>
      cases hplus
      exact absurd hc (by decide)
    next =>
      rw [hread]
      simp only [Except.map, ok_bind, hy]
      exact if_pos hlimit
  next hother =>
    by_cases hneg : y < 0
    · have hy : -(y.natAbs : Int) = y := by omega
      rw [if_pos hneg, year, List.cons_append, dropBlanks_cons (by decide)]
      simp only [hsigned, Except.map, ok_bind, hy]
      exact if_pos hlimit
    · have hy : (y.natAbs : Int) = y := by omega
      rw [if_neg hneg, year, List.cons_append, dropBlanks_cons (by decide)]
      simp only [hsigned, Except.map, ok_bind, hy]
      exact if_pos hlimit

/-- A group of digits stands for as many nanoseconds as its width leaves. -/
theorem fraction_paddedChars {width n : Nat} (hwidth : 0 < width) (hle : width ≤ 9)
    (hn : n < Nat.pow 10 width) {c : Char} (hc : isDigit c = false) (rest : List Char) :
    fraction ('.' :: paddedChars width n ++ c :: rest) =
      .ok (n * Nat.pow 10 (9 - width), c :: rest) := by
  have hread : digitsUpTo 9 (paddedChars width n ++ c :: rest) = .ok (n, c :: rest) := by
    rw [digitsUpTo_append (paddedChars_ne_nil _ _) (fun _ => isDigit_of_mem_paddedChars),
      digitsValue_paddedChars]
    refine .inr ⟨by rwa [length_paddedChars hwidth hn], ?_⟩
    intro d hd
    cases hd
    exact hc
  have hcount : (paddedChars width n ++ c :: rest).length - (c :: rest).length = width := by
    rw [List.length_append, length_paddedChars hwidth hn, Nat.add_sub_cancel]
  have hdrop : (c :: rest).dropWhile isDigit = c :: rest := by simp [hc]
  rw [List.cons_append, fraction, hread, ok_bind]
  simp only [hcount, hdrop, pure_eq_ok]

theorem fraction_fractionChars {nano : Nat} (hnano : nano < 1000000000) (rest : List Char) :
    fraction (fractionChars nano ++ 'Z' :: rest) = .ok (nano, 'Z' :: rest) := by
  unfold fractionChars
  split
  next hzero => rw [hzero]; rfl
  next =>
    split
    next hmilli =>
      have hfits : nano / 1000000 < Nat.pow 10 3 := by
        show nano / 1000000 < 1000
        omega
      rw [fraction_paddedChars (by decide) (by decide) hfits (by decide)]
      have hvalue : nano / 1000000 * Nat.pow 10 (9 - 3) = nano := by
        show nano / 1000000 * 1000000 = nano
        omega
      rw [hvalue]
    next =>
      split
      next hmicro =>
        have hfits : nano / 1000 < Nat.pow 10 6 := by
          show nano / 1000 < 1000000
          omega
        rw [fraction_paddedChars (by decide) (by decide) hfits (by decide)]
        have hvalue : nano / 1000 * Nat.pow 10 (9 - 6) = nano := by
          show nano / 1000 * 1000 = nano
          omega
        rw [hvalue]
      next =>
        have hfits : nano < Nat.pow 10 9 := hnano
        rw [fraction_paddedChars (by decide) (by decide) hfits (by decide)]
        simp

end Parts


/-- A time that is not ahead of UTC is its own time in UTC. -/
theorem ofLocal?_zero (date : Date) (time : TimeOfDay) :
    ofLocal? date time 0 = some ⟨date, time⟩ := by
  have hhour := time.hour_lt
  have hminute := time.minute_lt
  have hminutes : ((time.hour * 60 + time.minute : Nat) - (0 : Int)) % 1440
      = (time.hour * 60 + time.minute : Nat) := by omega
  have hdiv : (time.hour * 60 + time.minute) / 60 = time.hour := by omega
  have hmod : (time.hour * 60 + time.minute) % 60 = time.minute := by omega
  have hbefore : ¬((time.hour * 60 + time.minute : Nat) - (0 : Int)) < 0 := by omega
  have hafter : ¬(1440 : Int) ≤ ((time.hour * 60 + time.minute : Nat) - (0 : Int)) := by omega
  simp only [ofLocal?, hminutes, Int.toNat_natCast, hdiv, hmod, TimeOfDay.of?_self, if_neg hbefore,
    if_neg hafter]

theorem read_toChars (t : Timestamp) : read t.toChars = .ok t := by
  have hmonth := t.date.month_le
  have hday := t.date.day_le_31
  have hhour := t.time.hour_lt
  have hminute := t.time.minute_lt
  have hsecond := t.time.second_le
  have hzone : offset (dropBlanks ['Z']) = .ok (0, []) := rfl
  have hend : (dropBlanks []).isEmpty = true := rfl
  rw [read, toChars]
  simp only [List.append_assoc, List.cons_append]
  rw [year_yearChars t.date.year_ge t.date.year_le, ok_bind]
  simp only [separator_cons (c := '-') (by decide), ok_bind,
    field_paddedChars t.date.month_pos hmonth (by omega),
    field_paddedChars t.date.day_pos hday (by omega), dayEnd, true_or, if_true,
    separator_cons (c := ':') (by decide),
    field_paddedChars (Nat.zero_le _) (Nat.le_of_lt_succ hhour) (by omega),
    field_paddedChars (Nat.zero_le _) (Nat.le_of_lt_succ hminute) (by omega),
    field_paddedChars (Nat.zero_le _) hsecond (by omega), fraction_fractionChars t.time.nano_lt,
    hzone, hend, Date.of?_self, TimeOfDay.of?_self, ofLocal?_zero]
  rfl

/-- A written timestamp is read back. -/
theorem parse_toString (t : Timestamp) : parse t.toString = .ok t := by
  rw [parse, toString, String.toList_ofList, read_toChars]

end Timestamp

end Intake
