import Intake.Proofs.Identifier.Generated
import Intake.Proofs.Key.Partition

/-!
# Which entries have keys

Identifiers cannot stand in the way of a key: a text that holds the delimiter is no identifier.  So
the keys of an entry fail for its customer or its owner alone, for the customer first, and the error
tells a component that is not given from one that holds the delimiter.
-/

namespace Intake

namespace Key

/-- A component that is not given, or given as blanks only. -/
def IsLacking (value : Option String) : Prop :=
  ∀ text, value = some text → ∀ c ∈ text.toList, Text.isBlank c = true

/-- A component that is given, holds a character that is not blank, and not the delimiter. -/
def IsUsable (value : Option String) : Prop :=
  ∃ text, value = some text ∧ (∃ c ∈ text.toList, Text.isBlank c = false) ∧
    keyDelimiter ∉ text.toList

/-- What is said of a component that cannot be used. -/
inductive Blames (t : EntryType) (identifier : String) (component : KeyComponent)
    (value : Option String) : KeyError → Prop where
  | lacking (hlacking : IsLacking value) :
      Blames t identifier component value (.missingComponent component t identifier)
  | delimited {text : String} (hvalue : value = some text) (hgiven : ¬IsLacking value)
      (hdelimiter : keyDelimiter ∈ text.toList) :
      Blames t identifier component value (.delimiterInComponent component text)

section Required

variable {t : EntryType} {identifier text : String} {component : KeyComponent}
  {value : Option String}

theorem isLacking_some_iff : IsLacking (some text) ↔ Text.isBlankText text = true := by
  simp [IsLacking, Text.isBlankText]

theorem isUsable_some_iff :
    IsUsable (some text) ↔ Text.isBlankText text = false ∧ holdsDelimiter text = false := by
  simp [IsUsable, Text.isBlankText, holdsDelimiter]

/-- A component that cannot be used is lacking or holds the delimiter. -/
theorem required_of_not_isUsable (hnot : ¬IsUsable value) :
    ∃ error, required component t identifier value = .error error ∧
      Blames t identifier component value error := by
  cases value with
  | none => exact ⟨_, rfl, .lacking nofun⟩
  | some text =>
    cases hblank : Text.isBlankText text with
    | true =>
      refine ⟨_, ?_, .lacking (isLacking_some_iff.2 hblank)⟩
      rw [required, if_pos hblank]
    | false =>
      have hdelimiter : holdsDelimiter text = true := by
        rw [isUsable_some_iff, not_and, Bool.not_eq_false] at hnot
        exact hnot hblank
      have hgiven : ¬IsLacking (some text) := by
        rw [isLacking_some_iff, hblank]
        exact Bool.false_ne_true
      refine ⟨_, ?_, .delimited rfl hgiven (by simpa [holdsDelimiter] using hdelimiter)⟩
      rw [required, hblank, if_neg Bool.false_ne_true, checked, if_pos hdelimiter]

theorem exists_required_iff :
    (∃ text, required component t identifier value = .ok text) ↔ IsUsable value := by
  constructor
  · rintro ⟨text, hok⟩
    by_contra hnot
    obtain ⟨error, herror, -⟩ := required_of_not_isUsable hnot
    rw [hok] at herror
    cases herror
  · rintro ⟨text, rfl, hrest⟩
    obtain ⟨hblank, hfree⟩ := isUsable_some_iff.1 ⟨text, rfl, hrest⟩
    refine ⟨text, ?_⟩
    rw [required, hblank, if_neg Bool.false_ne_true, checked_of_free hfree]

theorem Blames.not_isUsable {error : KeyError}
    (hblames : Blames t identifier component value error) : ¬IsUsable value := by
  rintro ⟨text, rfl, ⟨c, hc, hblank⟩, hfree⟩
  cases hblames with
  | lacking hlacking =>
    rw [hlacking text rfl c hc] at hblank
    cases hblank
  | delimited hvalue hgiven hdelimiter =>
    cases hvalue
    exact hfree hdelimiter

/-- Only one thing is said of a component. -/
theorem Blames.eq {error other : KeyError} (hblames : Blames t identifier component value error)
    (hother : Blames t identifier component value other) : error = other := by
  cases hblames with
  | lacking hlacking =>
    cases hother with
    | lacking _ => rfl
    | delimited _ hgiven _ => exact absurd hlacking hgiven
  | delimited hvalue hgiven _ =>
    cases hother with
    | lacking hlacking => exact absurd hlacking hgiven
    | delimited hotherValue _ _ =>
      rw [hvalue] at hotherValue
      cases hotherValue
      rfl

theorem required_eq_error_iff {error : KeyError} :
    required component t identifier value = .error error ↔
      Blames t identifier component value error := by
  constructor
  · intro herror
    have hnot : ¬IsUsable value := by
      rw [← exists_required_iff, herror]
      rintro ⟨text, hok⟩
      cases hok
    obtain ⟨blamed, hblamed, hblames⟩ := required_of_not_isUsable hnot
    rw [herror] at hblamed
    cases hblamed
    exact hblames
  · intro hblames
    obtain ⟨blamed, hblamed, hother⟩ := required_of_not_isUsable hblames.not_isUsable
    rw [hblamed, hother.eq hblames]

end Required

end Key

namespace Entry

variable (entry : Entry)

theorem exists_keys_iff : (∃ keys, entry.keys = .ok keys) ↔
    Key.IsUsable entry.metadata.customerId ∧ Key.IsUsable entry.metadata.owner := by
  simp only [keys_eq, bind_eq_ok_iff, pure_eq_ok, Except.ok.injEq]
  constructor
  · rintro ⟨_, customerId, hcustomer, owner, howner, -⟩
    exact ⟨Key.exists_required_iff.1 ⟨customerId, hcustomer⟩,
      Key.exists_required_iff.1 ⟨owner, howner⟩⟩
  · rintro ⟨hcustomer, howner⟩
    obtain ⟨customerId, hcustomer⟩ := Key.exists_required_iff.2 hcustomer
    obtain ⟨owner, howner⟩ := Key.exists_required_iff.2 howner
    exact ⟨_, customerId, hcustomer, owner, howner, rfl⟩

theorem keys_eq_error_iff {error : KeyError} : entry.keys = .error error ↔
    Key.Blames entry.entryType entry.identifier.text .customerId entry.metadata.customerId error ∨
      Key.IsUsable entry.metadata.customerId ∧
        Key.Blames entry.entryType entry.identifier.text .owner entry.metadata.owner error := by
  simp only [keys_eq, bind_eq_error_iff, pure_eq_ok, reduceCtorEq, and_false, exists_false,
    or_false, Key.required_eq_error_iff, exists_and_right, Key.exists_required_iff]

/-- No identifier is blamed, neither that of the entry nor that of the resource it is about. -/
theorem keys_ne_error_of_identifier {component : KeyComponent} (text : String)
    (hcustomer : component ≠ .customerId) (howner : component ≠ .owner) :
    entry.keys ≠ .error (.delimiterInComponent component text) := by
  rw [ne_eq, keys_eq_error_iff]
  rintro (hblames | ⟨-, hblames⟩)
  · cases hblames
    exact hcustomer rfl
  · cases hblames
    exact howner rfl

/-- An entry has keys exactly when its customer and its owner can be used.  Otherwise its customer
is blamed if that cannot be used, and its owner if it can, but never an identifier, whatever the
content of the entry.  An identifier made at a time is no exception: it is accepted as it stands. -/
theorem keys_decided :
    ((∃ keys, entry.keys = .ok keys) ↔
      Key.IsUsable entry.metadata.customerId ∧ Key.IsUsable entry.metadata.owner) ∧
    (∀ error, entry.keys = .error error ↔
      Key.Blames entry.entryType entry.identifier.text .customerId entry.metadata.customerId error ∨
        Key.IsUsable entry.metadata.customerId ∧
          Key.Blames entry.entryType entry.identifier.text .owner entry.metadata.owner error) ∧
    (∀ text, entry.keys ≠ .error (.delimiterInComponent .identifier text) ∧
      entry.keys ≠ .error (.delimiterInComponent .resourceIdentifier text)) ∧
    ∀ millis uuid, ∃ identifier, Identifier.generate millis uuid = .ok identifier ∧
      identifier.text = Identifier.generatedText millis uuid := by
  refine ⟨entry.exists_keys_iff, fun error => entry.keys_eq_error_iff, fun text => ⟨?_, ?_⟩,
    Identifier.exists_generate⟩
  · exact entry.keys_ne_error_of_identifier text nofun nofun
  · exact entry.keys_ne_error_of_identifier text nofun nofun

end Entry

end Intake
