import Intake.Proofs.Entry.Text
import Intake.Proofs.Identifier.Generated
import Intake.Proofs.Text.Order

/-!
# Identifiers are ordered as their times

Numbers written with the same number of digits are ordered as their texts, whatever follows the
digits.  A time below 2 ^ 48 milliseconds fits the digits it has in an identifier, so an identifier
made earlier is smaller, whatever the random digits are.
-/

namespace Intake.Identifier

open Text (bytes)

/-- A number in hexadecimal digits with leading zeros up to a width. -/
def paddedDigits (width n : Nat) : List Char :=
  List.replicate (width - (Nat.toDigits 16 n).length) '0' ++ Nat.toDigits 16 n

theorem timeDigits_eq (millis : Nat) : timeDigits millis = paddedDigits 12 millis := rfl

theorem paddedDigits_one {n : Nat} (hn : n < 16) : paddedDigits 1 n = [Nat.digitChar n] := by
  rw [paddedDigits, Nat.toDigits_of_lt_base hn]
  rfl

/-- The last digit comes off the end. -/
theorem paddedDigits_succ {width : Nat} (hwidth : 0 < width) (n : Nat) :
    paddedDigits (width + 1) n = paddedDigits width (n / 16) ++ [Nat.digitChar (n % 16)] := by
  by_cases hn : n < 16
  · have hzeros : List.replicate (width - 1) '0' ++ ['0'] = List.replicate width '0' := by
      rw [← List.replicate_succ', Nat.sub_add_cancel hwidth]
    rw [Nat.div_eq_of_lt hn, Nat.mod_eq_of_lt hn, paddedDigits, paddedDigits,
      Nat.toDigits_of_lt_base hn, Nat.toDigits_zero]
    exact congrArg (· ++ [Nat.digitChar n]) hzeros.symm
  · have hdigits := Nat.toDigits_of_base_le (b := 16) (by decide) (Nat.le_of_not_lt hn)
    rw [paddedDigits, paddedDigits, hdigits, List.length_append, List.length_singleton,
      Nat.add_sub_add_right, List.append_assoc]

theorem digitChar_lt_digitChar {c d : Nat} (hlt : c < d) (hd : d < 16) :
    Nat.digitChar c < Nat.digitChar d := by
  have hdigits : ∀ d < 16, ∀ c < d, Nat.digitChar c < Nat.digitChar d := by decide
  exact hdigits d hd c hlt

/-- A smaller number has the smaller digits, whatever follows them. -/
theorem paddedDigits_append_lt {width m n : Nat} (hlt : m < n) (hn : n < 16 ^ width)
    (xs ys : List Char) : paddedDigits width m ++ xs < paddedDigits width n ++ ys := by
  induction width generalizing m n xs ys with
  | zero => omega
  | succ width ih =>
    rcases Nat.eq_zero_or_pos width with rfl | hwidth
    · rw [paddedDigits_one (by omega), paddedDigits_one (by omega)]
      exact List.cons_lt_cons_iff.2 (.inl (digitChar_lt_digitChar hlt hn))
    · rw [paddedDigits_succ hwidth, paddedDigits_succ hwidth, List.append_assoc, List.append_assoc]
      -- Either the digits before the last decide, or these are the same and the last one does.
      rcases Nat.lt_or_eq_of_le (Nat.div_le_div_right (c := 16) (Nat.le_of_lt hlt)) with
        hbefore | hbefore
      · exact ih hbefore (Nat.div_lt_of_lt_mul (by rwa [Nat.mul_comm, ← Nat.pow_succ])) _ _
      · have hlast : m % 16 < n % 16 := by omega
        rw [hbefore]
        apply List.append_left_lt
        exact List.cons_lt_cons_iff.2
          (.inl (digitChar_lt_digitChar hlast (Nat.mod_lt _ (by decide))))

theorem generatedText_lt {earlier later : Nat} (hlt : earlier < later) (hlater : later < 2 ^ 48)
    (uuid other : Uuid) : generatedText earlier uuid < generatedText later other := by
  rw [String.lt_iff, generatedText, generatedText, String.toList_ofList, String.toList_ofList,
    timeDigits_eq, timeDigits_eq]
  exact paddedDigits_append_lt hlt hlater _ _

/-- An identifier with the smaller text comes first, also in the order of bytes. -/
theorem precedes_of_lt {first second : Identifier} (hlt : first.text < second.text) :
    second.le first = false ∧ bytes first.text < bytes second.text := by
  have hbytes := Text.bytes_lt_bytes hlt
  have hcompare : compare second.text first.text = .gt :=
    Std.OrientedCmp.gt_of_lt (Text.compare_eq_lt_iff.2 hbytes)
  refine ⟨?_, hbytes⟩
  rw [le, hcompare]
  rfl

theorem read_render_toJson (identifier : Identifier) :
    Json.read identifier.toJson.render = .ok identifier.toJson := by
  have hfits : Json.Fits 0 identifier.toJson := Json.fits_str _
  exact Json.read_render hfits.1 (Nat.le_trans hfits.2 (Nat.zero_le _))

/-- Of two clocks that show times below 2 ^ 48 milliseconds, the earlier one makes the smaller
identifier.  Whatever the clock shows, the text of the identifier is accepted as it stands, and the
identifier that is read from it or from what is written of it is the same. -/
theorem fresh_ordered :
    (∀ (earlier later : Int) (uuid other : Uuid),
      0 ≤ earlier → earlier < later → later < 2 ^ 48 →
        ∃ first second, fresh earlier uuid = .ok first ∧ fresh later other = .ok second ∧
          second.le first = false ∧ bytes first.text < bytes second.text) ∧
    ∀ (clock : Int) (uuid : Uuid), ∃ identifier, fresh clock uuid = .ok identifier ∧
      identifier.text = generatedText clock.toNat uuid ∧
      parse identifier.text = .ok identifier ∧
      decode identifier.toJson = .ok identifier ∧
      Json.read identifier.toJson.render = .ok identifier.toJson := by
  constructor
  · intro earlier later uuid other hearlier hlt hlater
    obtain ⟨first, hfirst, hfirstText⟩ := exists_generate earlier.toNat uuid
    obtain ⟨second, hsecond, hsecondText⟩ := exists_generate later.toNat other
    have htext : first.text < second.text := by
      rw [hfirstText, hsecondText]
      exact generatedText_lt (by omega) (by omega) uuid other
    exact ⟨first, second, hfirst, hsecond, precedes_of_lt htext⟩
  · intro clock uuid
    obtain ⟨identifier, hfresh, htext⟩ := exists_generate clock.toNat uuid
    exact ⟨identifier, hfresh, htext, parse_text identifier, decode_toJson .written identifier,
      read_render_toJson identifier⟩

/-- The random digits are the highest on the earlier side and the lowest on the later side, and a
carry runs through all the digits of the time but the first. -/
theorem fresh_ordered_carry :
    let highest : Uuid := ⟨List.replicate 32 15, by decide⟩
    let lowest : Uuid := ⟨List.replicate 32 0, by decide⟩
    ∃ first second, fresh (2 ^ 44 - 1) highest = .ok first ∧ fresh (2 ^ 44) lowest = .ok second ∧
      second.le first = false ∧ bytes first.text < bytes second.text :=
  fresh_ordered.1 (2 ^ 44 - 1) (2 ^ 44) _ _ (by decide) (by decide) (by decide)

end Intake.Identifier
