import Intake.Proofs.Entry.Codec

/-!
# Identifiers made at a time

The text of an identifier made at a time is made of hexadecimal digits and a hyphen.  None of them
is blank or the delimiter, so the text is accepted as it stands.
-/

namespace Intake.Identifier

theorem exists_digit_of_mem_toDigits {n : Nat} {c : Char} (hc : c ∈ Nat.toDigits 16 n) :
    ∃ d < 16, c = Nat.digitChar d := by
  induction n using Nat.strongRecOn with
  | ind n ih =>
    by_cases hsmall : n < 16
    · rw [Nat.toDigits_of_lt_base hsmall, List.mem_singleton] at hc
      exact ⟨n, hsmall, hc⟩
    · rw [Nat.toDigits_of_base_le (by decide) (by omega), List.mem_append, List.mem_singleton] at hc
      rcases hc with hc | hc
      · exact ih (n / 16) (by omega) hc
      · exact ⟨n % 16, Nat.mod_lt _ (by decide), hc⟩

/-- The characters of a generated identifier are digits but for one hyphen. -/
theorem digit_or_hyphen {millis : Nat} {uuid : Uuid} {c : Char}
    (hc : c ∈ (generatedText millis uuid).toList) : c = '-' ∨ ∃ d < 16, c = Nat.digitChar d := by
  rw [generatedText, String.toList_ofList, List.mem_append, List.mem_cons] at hc
  rcases hc with htime | hhyphen | hrandom
  · rcases List.mem_append.1 htime with hzero | hdigit
    · exact .inr ⟨0, by decide, List.eq_of_mem_replicate hzero⟩
    · exact .inr (exists_digit_of_mem_toDigits hdigit)
  · exact .inl hhyphen
  · obtain ⟨d, -, rfl⟩ := List.mem_map.1 hrandom
    exact .inr ⟨d, d.isLt, rfl⟩

theorem not_blank_of_generated {millis : Nat} {uuid : Uuid} {c : Char}
    (hc : c ∈ (generatedText millis uuid).toList) :
    Text.isBlank c = false ∧ c ≠ keyDelimiter := by
  have hdigits : ∀ d < 16, Text.isBlank (Nat.digitChar d) = false ∧
      Nat.digitChar d ≠ keyDelimiter := by decide
  rcases digit_or_hyphen hc with rfl | ⟨d, hd, rfl⟩
  · decide
  · exact hdigits d hd

/-- An identifier made at a time has the text it was made of. -/
theorem exists_generate (millis : Nat) (uuid : Uuid) :
    ∃ identifier, generate millis uuid = .ok identifier ∧
      identifier.text = generatedText millis uuid := by
  have hne : generatedText millis uuid ≠ "" := by
    intro hempty
    have hnil := congrArg String.toList hempty
    rw [generatedText, String.toList_ofList] at hnil
    exact List.append_ne_nil_of_right_ne_nil _ (List.cons_ne_nil _ _) hnil
  have htrim : Text.trim (generatedText millis uuid) = generatedText millis uuid := by
    rw [Text.trim, Text.trimChars_eq_self, String.ofList_toList]
    · exact fun c hc => (not_blank_of_generated (List.mem_of_mem_head? hc)).1
    · exact fun c hc => (not_blank_of_generated (List.mem_of_getLast? hc)).1
  have hfree : holdsDelimiter (generatedText millis uuid) = false := by
    rw [holdsDelimiter, List.contains_eq_mem, decide_eq_false_iff_not]
    exact fun hmem => (not_blank_of_generated hmem).2 rfl
  have hparse := parse_text ⟨generatedText millis uuid, hne, htrim, hfree⟩
  exact ⟨_, hparse, rfl⟩

end Intake.Identifier
