import Intake.Proofs.Json.Text
import Intake.Uuid

/-!
# UUIDs round trip through their text

Cutting the digits into groups and joining the groups by hyphens is undone by taking the hyphens out
again, for any sizes of the groups.  Digits and hyphens are one byte each, so the written text has
the size by which the reader knows the hyphenated form.
-/

namespace Intake.Uuid

theorem hexValue?_digitChar (d : Fin 16) : hexValue? (digitChar d) = some d := by
  rw [hexValue?, digitChar, Text.Hex.digit?_digitChar d.isLt, Option.bind_some, dif_pos d.isLt]

theorem mapM_hexValue?_map (digits : List (Fin 16)) :
    (digits.map digitChar).mapM hexValue? = some digits := by
  induction digits with
  | nil => rfl
  | cons d digits ih => simp [List.mapM_cons, hexValue?_digitChar, ih]

theorem ofChars?_simpleChars (uuid : Uuid) : ofChars? uuid.simpleChars = some uuid := by
  simp only [ofChars?, simpleChars, mapM_hexValue?_map, dif_pos uuid.length_digits]

section Groups

/-- The groups of a list with the hyphens between them. -/
def hyphenated (sizes : List Nat) (cs : List Char) : List Char :=
  List.intercalate ['-'] (groups sizes cs)

theorem hyphenated_nil (cs : List Char) : hyphenated [] cs = cs := by
  simp [hyphenated, groups]

theorem hyphenated_cons (size : Nat) (sizes : List Nat) (cs : List Char) :
    hyphenated (size :: sizes) cs = cs.take size ++ '-' :: hyphenated sizes (cs.drop size) := by
  have hne : groups sizes (cs.drop size) ≠ [] := by cases sizes <;> exact List.cons_ne_nil _ _
  obtain ⟨group, others, heq⟩ := List.exists_cons_of_ne_nil hne
  simp [hyphenated, groups, heq]

theorem length_hyphenated (sizes : List Nat) (cs : List Char) :
    (hyphenated sizes cs).length = cs.length + sizes.length := by
  induction sizes generalizing cs with
  | nil => rw [hyphenated_nil, List.length_nil, Nat.add_zero]
  | cons size sizes ih =>
    rw [hyphenated_cons, List.length_append, List.length_cons, ih, List.length_take,
      List.length_drop, List.length_cons]
    omega

theorem mem_hyphenated {sizes : List Nat} {cs : List Char} {c : Char}
    (hc : c ∈ hyphenated sizes cs) : c = '-' ∨ c ∈ cs := by
  induction sizes generalizing cs with
  | nil => exact .inr (hyphenated_nil cs ▸ hc)
  | cons size sizes ih =>
    rw [hyphenated_cons, List.mem_append, List.mem_cons] at hc
    rcases hc with htake | hhyphen | hrest
    · exact .inr (List.mem_of_mem_take htake)
    · exact .inl hhyphen
    · exact (ih hrest).imp_right List.mem_of_mem_drop

theorem ungroup_hyphenated {sizes : List Nat} {cs : List Char}
    (hsum : sizes.foldr (· + ·) 0 ≤ cs.length) :
    ungroup sizes (hyphenated sizes cs) = some cs := by
  induction sizes generalizing cs with
  | nil => rw [hyphenated_nil, ungroup]
  | cons size sizes ih =>
    rw [List.foldr_cons] at hsum
    have hlength : (cs.take size).length = size := List.length_take_of_le (by omega)
    have hrest : sizes.foldr (· + ·) 0 ≤ (cs.drop size).length := by
      rw [List.length_drop]
      omega
    rw [hyphenated_cons, ungroup, List.drop_left' hlength]
    simp only [ih hrest, Option.map_some, List.take_left' hlength, List.take_append_drop]

end Groups

theorem utf8Size_of_mem_toChars {uuid : Uuid} {c : Char} (hc : c ∈ uuid.toChars) :
    c.utf8Size = 1 := by
  rcases mem_hyphenated hc with hhyphen | hdigit
  · rw [hhyphen]
    rfl
  · obtain ⟨d, -, hd⟩ := List.mem_map.1 hdigit
    rw [← hd]
    exact Json.utf8Size_digitChar d.isLt

theorem length_simpleChars (uuid : Uuid) : uuid.simpleChars.length = 32 := by
  rw [simpleChars, List.length_map, uuid.length_digits]

/-- Characters of one byte each take as many bytes as there are. -/
theorem size_eq_length {cs : List Char} (hones : ∀ c ∈ cs, c.utf8Size = 1) :
    size cs = cs.length := by
  induction cs with
  | nil => rfl
  | cons c cs ih =>
    obtain ⟨hone, hrest⟩ := List.forall_mem_cons.1 hones
    have hsize := ih hrest
    rw [size] at hsize ⊢
    rw [List.foldr_cons, hone, hsize, List.length_cons, Nat.add_comm]

theorem size_toChars (uuid : Uuid) : size uuid.toChars = hyphenatedSize := by
  have hlength : uuid.toChars.length = 36 := by
    rw [toChars, ← hyphenated, length_hyphenated, length_simpleChars]
    rfl
  rw [size_eq_length fun c hc => utf8Size_of_mem_toChars hc, hlength]
  rfl

/-- A written UUID is read back. -/
theorem parse_toString (uuid : Uuid) : parse uuid.toString = .ok uuid := by
  have hungroup : ungroup [8, 4, 4, 4] uuid.toChars = some uuid.simpleChars := by
    apply ungroup_hyphenated
    rw [length_simpleChars]
    decide
  have hbody : hyphenatedBody? uuid.toChars = some uuid.toChars := by
    rw [hyphenatedBody?, if_pos uuid.size_toChars]
  have hshort : ¬maxSize < size uuid.toChars := by
    rw [size_toChars]
    decide
  rw [parse, toString, String.toList_ofList, read, if_neg hshort, hbody]
  simp only [hungroup, Option.bind_some, ofChars?_simpleChars]

end Intake.Uuid
