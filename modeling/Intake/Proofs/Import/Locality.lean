import Intake.Proofs.Import.Summary

/-!
# Lines are read one by one

What a line holds follows from its own bytes, and its number only names it.  So the values and the
failures of a file are those of its parts, the later ones numbered on, and a line that cannot be
read changes nothing about the others.  The compact texts of documents are read back from a file of
one text per line.
-/

namespace Intake

/-- The failure of a line that stands so many lines further down.  The message starts with the new
number of the line; the rest, with the place of the fault inside the line, stays as it was. -/
def MappingFailure.IsMoved (lines : Nat) (failure moved : MappingFailure) : Prop :=
  moved.position = failure.position + lines ∧ moved.raw = failure.raw ∧
    ∃ reason, failure.message = "line " ++ toString failure.position ++ reason ∧
      moved.message = "line " ++ toString moved.position ++ reason

namespace Lines

/-- A line is blank, holds a value or cannot be read, for a reason of its own, whatever its
number. -/
theorem readLine_cases (line : List UInt8) :
    (∀ number, readLine number line = .blank) ∨
    (∃ value, ∀ number, readLine number line = .value value) ∨
    ∃ reason, ∀ number, ∃ error, readLine number line = .refused error ∧
      error.message = "line " ++ toString number ++ reason := by
  rcases text_or_error line with ⟨text, rfl⟩ | ⟨-, error, hdecode⟩
  · by_cases hblank : Text.trim text = ""
    · exact .inl fun number => by rw [readLine_bytes, if_pos hblank]
    · cases hparse : Json.parse (Text.trim text) with
      | ok value => exact .inr (.inl ⟨value, fun n => by rw [readLine_bytes, if_neg hblank, hparse]⟩)
      | error error =>
        refine .inr (.inr ⟨": invalid JSON: " ++ error.message, fun number => ?_⟩)
        exact ⟨_, by rw [readLine_bytes, if_neg hblank, hparse], String.append_assoc⟩
  · refine .inr (.inr ⟨": invalid UTF-8: " ++ error.message, fun number => ?_⟩)
    exact ⟨_, readLine_of_error hdecode, String.append_assoc⟩

theorem values_append (xs ys : List (Nat × Line)) :
    Lines.values (xs ++ ys) = Lines.values xs ++ Lines.values ys := List.filterMap_append

theorem failures_append (xs ys : List (Nat × Line)) :
    failures (xs ++ ys) = failures xs ++ failures ys := List.filterMap_append

theorem readFrom_append (number : Nat) (lines more : List (List UInt8)) :
    readFrom number (lines ++ more) =
      readFrom number lines ++ readFrom (number + lines.length) more := by
  induction lines generalizing number with
  | nil => rfl
  | cons line lines ih =>
    rw [List.cons_append, readFrom, readFrom, ih, List.cons_append, List.length_cons,
      Nat.add_assoc, Nat.add_comm 1]

/-- Lines that stand further down hold what they held, under later numbers. -/
theorem readFrom_moved (number further : Nat) (lines : List (List UInt8)) :
    Lines.values (readFrom (number + further) lines) =
        (Lines.values (readFrom number lines)).map (fun value => (value.1 + further, value.2)) ∧
      List.Forall₂ (MappingFailure.IsMoved further) (failures (readFrom number lines))
        (failures (readFrom (number + further) lines)) := by
  induction lines generalizing number with
  | nil => exact ⟨rfl, .nil⟩
  | cons line lines ih =>
    have hlater := ih (number + 1)
    rw [Nat.add_right_comm] at hlater
    rw [readFrom, readFrom]
    -- The number of a line shows in what is kept of it, but only a failure speaks of it.
    obtain hblank | ⟨value, hvalue⟩ | ⟨reason, hreason⟩ := readLine_cases line
    · rw [hblank, hblank]
      exact hlater
    · rw [hvalue, hvalue]
      exact ⟨congrArg ((number + further, value) :: ·) hlater.1, hlater.2⟩
    · obtain ⟨error, herror, hmessage⟩ := hreason number
      obtain ⟨moved, hmoved, hmovedMessage⟩ := hreason (number + further)
      rw [herror, hmoved]
      exact ⟨hlater.1, .cons ⟨rfl, rfl, reason, hmessage, hmovedMessage⟩ hlater.2⟩

theorem length_split (body : List UInt8) : (split body).length = body.count 0x0A + 1 := by
  rw [split_eq_splitOn]
  induction body with
  | nil => rfl
  | cons b body ih =>
    rw [List.splitOn_cons_eq_if_modifyHead]
    by_cases hfeed : b = 0x0A
    · rw [if_pos (beq_iff_eq.2 hfeed), List.length_cons, ih, hfeed, List.count_cons_self]
    · rw [if_neg (mt beq_iff_eq.1 hfeed), List.length_modifyHead, ih, List.count_cons_of_ne hfeed]

theorem split_append (body more : List UInt8) :
    split (body ++ 0x0A :: more) = split body ++ split more := by
  rw [split_eq_splitOn, split_eq_splitOn, split_eq_splitOn, List.splitOn_append_cons_self]

/-- A file that goes on after a line feed holds what its two parts hold. -/
theorem parse_append (body more : List UInt8) :
    ∃ moved, parse (body ++ 0x0A :: more) =
        ((parse body).1 ++
          (parse more).1.map fun value => (value.1 + (body.count 0x0A + 1), value.2),
        (parse body).2 ++ moved) ∧
      List.Forall₂ (MappingFailure.IsMoved (body.count 0x0A + 1)) (parse more).2 moved := by
  obtain ⟨hvalues, hfailures⟩ := readFrom_moved 1 (body.count 0x0A + 1) (split more)
  refine ⟨_, ?_, hfailures⟩
  rw [parse, read, split_append, readFrom_append, length_split, values_append, failures_append,
    hvalues]
  rfl

theorem mem_values_iff {lines : List (Nat × Line)} {value : Numbered} :
    value ∈ Lines.values lines ↔ (value.1, .value value.2) ∈ lines := by
  rw [Lines.values, List.mem_filterMap]
  constructor
  · rintro ⟨⟨number, line⟩, hmem, hvalue⟩
    cases line with
    | value v =>
      cases hvalue
      exact hmem
    | blank => cases hvalue
    | refused error => cases hvalue
  · exact fun hmem => ⟨_, hmem, rfl⟩

theorem mem_failures_iff {lines : List (Nat × Line)} {failure : MappingFailure} :
    failure ∈ failures lines ↔
      ∃ number error, (number, .refused error) ∈ lines ∧
        failure = ⟨number, error.message, none⟩ := by
  rw [failures, List.mem_filterMap]
  constructor
  · rintro ⟨⟨number, line⟩, hmem, hfailure⟩
    cases line with
    | refused error =>
      cases hfailure
      exact ⟨number, error, hmem, rfl⟩
    | blank => cases hfailure
    | value v => cases hfailure
  · rintro ⟨number, error, hmem, rfl⟩
    exact ⟨_, hmem, rfl⟩

section Others

variable {body other : List UInt8} {index : Nat}
  (hsame : ∀ i, i ≠ index → (body.splitOn 0x0A)[i]? = (other.splitOn 0x0A)[i]?)

include hsame

/-- Files that differ in one line have all other lines read alike. -/
theorem mem_read_of_others {numbered : Nat × Line} (hmem : numbered ∈ read body)
    (hother : numbered.1 ≠ index + 1) : numbered ∈ read other := by
  rw [read, split_eq_splitOn, mem_readFrom_iff] at hmem ⊢
  obtain ⟨i, line, hline, rfl⟩ := hmem
  have hne : i ≠ index := by
    rintro rfl
    exact hother (Nat.add_comm 1 i)
  exact ⟨i, line, hsame i hne ▸ hline, rfl⟩

theorem others_of_parse :
    (∀ value ∈ (parse body).1, value.1 ≠ index + 1 → value ∈ (parse other).1) ∧
      ∀ failure ∈ (parse body).2, failure.position ≠ index + 1 → failure ∈ (parse other).2 := by
  constructor
  · intro value hvalue hother
    exact mem_values_iff.2 (mem_read_of_others hsame (mem_values_iff.1 hvalue) hother)
  · intro failure hfailure hother
    obtain ⟨number, error, hmem, rfl⟩ := mem_failures_iff.1 hfailure
    exact mem_failures_iff.2 ⟨number, error, mem_read_of_others hsame hmem hother, rfl⟩

end Others

/-- A file of compact texts is read as the values that were written. -/
theorem parse_render {documents : List Json}
    (hfits : ∀ document ∈ documents, Json.Fits Json.maxDepth document) :
    parse (join (documents.map Json.render)) =
      ((List.range' 1 documents.length).zip (documents.map Json.canonical), []) := by
  have htexts : List.Forall₂
      (fun text value => ∀ number, readLine number (Text.bytes text) = .value value)
      (documents.map Json.render) (documents.map Json.canonical) := by
    rw [List.forall₂_map_left_iff, List.forall₂_map_right_iff, List.forall₂_same]
    exact fun document hdocument => readLine_render (hfits document hdocument)
  have hlines : ∀ text ∈ documents.map Json.render, '\n' ∉ text.toList := by
    rw [List.forall_mem_map]
    intro document hdocument
    rw [Json.render, String.toList_ofList]
    exact Json.lineFeed_not_mem_renderChars document (hfits document hdocument).1
  rw [parse_join htexts hlines (.inl rfl), List.length_map]

end Lines

/-- Every line of a file is read by itself.  What is put behind a file is read as a file of its own,
with its lines numbered on; another line in the place of one, readable or not, leaves all others as
they were; and values written one per line come back as they were written. -/
theorem parse_local :
    (∀ body more : List UInt8, ∃ moved, Lines.parse (body ++ 0x0A :: more) =
        ((Lines.parse body).1 ++
          (Lines.parse more).1.map fun value => (value.1 + (body.count 0x0A + 1), value.2),
        (Lines.parse body).2 ++ moved) ∧
      List.Forall₂ (MappingFailure.IsMoved (body.count 0x0A + 1)) (Lines.parse more).2 moved) ∧
    (∀ (body other : List UInt8) (index : Nat),
      (∀ i, i ≠ index → (body.splitOn 0x0A)[i]? = (other.splitOn 0x0A)[i]?) →
        (∀ value : Lines.Numbered, value.1 ≠ index + 1 →
          (value ∈ (Lines.parse body).1 ↔ value ∈ (Lines.parse other).1)) ∧
        ∀ failure : MappingFailure, failure.position ≠ index + 1 →
          (failure ∈ (Lines.parse body).2 ↔ failure ∈ (Lines.parse other).2)) ∧
    ∀ values : List Json, (∀ value ∈ values, value.canonical = value ∧ Json.Fits 127 value) →
      Lines.parse (Lines.join (values.map Json.render)) =
        ((List.range' 1 values.length).zip values, []) := by
  refine ⟨Lines.parse_append, ?_, ?_⟩
  · intro body other index hsame
    have hthere := Lines.others_of_parse hsame
    have hback := Lines.others_of_parse fun i hi => (hsame i hi).symm
    exact ⟨fun value hother => ⟨fun h => hthere.1 value h hother, fun h => hback.1 value h hother⟩,
      fun failure hother =>
        ⟨fun h => hthere.2 failure h hother, fun h => hback.2 failure h hother⟩⟩
  · intro values hvalues
    have hcanonical : values.map Json.canonical = values :=
      (List.map_congr_left fun value hvalue => (hvalues value hvalue).1).trans (List.map_id _)
    rw [Lines.parse_render fun value hvalue => (hvalues value hvalue).2, hcanonical]

/-- Two files that differ in their first line, an open bracket or a byte of no text, and a file with
a line feed and a blank inside a string. -/
theorem parse_local_openBracket :
    let values : List Json := [.num (.int (-7)), .str "a\n\u00A0", .arr [.obj [("k", .null)]]]
    (∀ i, i ≠ 0 → ([0x5B, 0x0A, 0x31].splitOn (0x0A : UInt8))[i]? =
      ([0xFF, 0x0A, 0x31].splitOn (0x0A : UInt8))[i]?) ∧
    (∀ value ∈ values, value.canonical = value ∧ Json.Fits 127 value) ∧
    (∀ value : Lines.Numbered, value.1 ≠ 1 →
      (value ∈ (Lines.parse [0x5B, 0x0A, 0x31]).1 ↔ value ∈ (Lines.parse [0xFF, 0x0A, 0x31]).1)) ∧
    Lines.parse (Lines.join (values.map Json.render)) = ([1, 2, 3].zip values, []) := by
  intro values
  have hsame : ∀ i, i ≠ 0 → ([0x5B, 0x0A, 0x31].splitOn (0x0A : UInt8))[i]? =
      ([0xFF, 0x0A, 0x31].splitOn (0x0A : UInt8))[i]? := by
    rintro (_ | i) hi
    · exact absurd rfl hi
    · rfl
  have hvalues : ∀ value ∈ values, value.canonical = value ∧ Json.Fits 127 value := by
    have hinteger : Json.InRange (-7) := ⟨by decide, by decide⟩
    rw [List.forall_mem_cons, List.forall_mem_cons, List.forall_mem_singleton]
    exact ⟨⟨rfl, hinteger, by decide⟩, ⟨rfl, trivial, by decide⟩,
      ⟨rfl, ⟨⟨trivial, trivial⟩, trivial⟩, by decide⟩⟩
  exact ⟨hsame, hvalues, (parse_local.2.1 _ _ 0 hsame).1, parse_local.2.2 values hvalues⟩

end Intake
