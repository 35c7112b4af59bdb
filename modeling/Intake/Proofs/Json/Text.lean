import Intake.Json.Printer
import Intake.Json.Reader
import Intake.Except

/-!
# Pieces of compact text are read back

Whole numbers, strings and containers are read back from what is written for them.  Each lemma
speaks of a piece of text with an arbitrary rest behind it, because that is how the reader meets it.
-/

namespace Intake.Json

/-! ## Digits -/

theorem digitsValue_eq (digits : List Char) :
    digitsValue digits = Nat.ofDigitChars 10 digits 0 := by
  rw [digitsValue, Nat.ofDigitChars_eq_foldl]
  congr 1
  funext value c
  rw [digitValue, Nat.mul_comm]

theorem isDigit_of_mem_toDigits {n : Nat} {c : Char} (hc : c ∈ Nat.toDigits 10 n) :
    isDigit c = true :=
  Nat.isDigit_of_mem_toDigits (by decide) (by decide) hc

@[simp]
theorem digitsValue_toDigits (n : Nat) : digitsValue (Nat.toDigits 10 n) = n := by
  rw [digitsValue_eq, Nat.ofDigitChars_ten_toDigits]

/-- A number that is not zero is not written with a zero in front. -/
theorem head_toDigits_ne_zero {n : Nat} (hn : 0 < n) : (Nat.toDigits 10 n).head? ≠ some '0' := by
  induction n using Nat.strongRecOn with
  | ind n ih =>
    by_cases hsmall : n < 10
    · rw [Nat.toDigits_of_lt_base hsmall]
      have hdigits : ∀ d < 10, 0 < d → [Nat.digitChar d].head? ≠ some '0' := by decide
      exact hdigits n hsmall hn
    · have hbase : 10 ≤ n := by omega
      rw [Nat.toDigits_of_base_le (by decide) hbase, List.head?_append]
      have hhead := ih (n / 10) (by omega) (by omega)
      cases hdigits : Nat.toDigits 10 (n / 10) with
      | nil => exact absurd hdigits Nat.toDigits_ne_nil
      | cons d digits => simpa [hdigits] using hhead

/-- The digits of a number and then something else are split where the digits end. -/
theorem someDigits_append {digits rest : List Char} (hne : digits ≠ [])
    (hdigits : ∀ c ∈ digits, isDigit c = true) (hrest : ∀ c ∈ rest.head?, isDigit c = false) :
    someDigits (digits ++ rest) = .ok (digits, rest) := by
  have htake : (digits ++ rest).takeWhile isDigit = digits := by
    rw [List.takeWhile_append_of_pos hdigits]
    cases rest with
    | nil => simp
    | cons c rest => simp [hrest c (by simp)]
  have hdrop : (digits ++ rest).dropWhile isDigit = rest := by
    rw [List.dropWhile_append_of_pos hdigits]
    cases rest with
    | nil => simp
    | cons c rest => simp [hrest c (by simp)]
  rw [someDigits, htake, hdrop]
  cases digits with
  | nil => exact absurd rfl hne
  | cons d digits => rfl

/-! ## Whole numbers -/

/-- What follows a number is not taken for a part of it. -/
def EndsNumber (rest : List Char) : Prop :=
  ∀ c ∈ rest.head?, isDigit c = false ∧ c ≠ '.' ∧ c ≠ 'e' ∧ c ≠ 'E'

theorem endsNumber_nil : EndsNumber [] := by
  simp [EndsNumber]

theorem endsNumber_cons {c : Char} (rest : List Char)
    (hc : isDigit c = false ∧ c ≠ '.' ∧ c ≠ 'e' ∧ c ≠ 'E') : EndsNumber (c :: rest) := by
  intro d hd
  cases hd
  exact hc

/-- Digits are read as a whole number when no zero stands before another digit. -/
theorem wholeDigits_append {digits rest : List Char} (hne : digits ≠ [])
    (hdigits : ∀ c ∈ digits, isDigit c = true) (hzero : ∀ more, digits = '0' :: more → more = [])
    (hrest : ∀ c ∈ rest.head?, isDigit c = false) :
    wholeDigits (digits ++ rest) = .ok (digits, rest) := by
  simp only [wholeDigits, someDigits_append hne hdigits hrest, ok_bind]
  split
  next next more => exact absurd (hzero _ rfl) (List.cons_ne_nil next more)
  next => rfl

theorem wholeDigits_toDigits (n : Nat) {rest : List Char} (hrest : EndsNumber rest) :
    wholeDigits (Nat.toDigits 10 n ++ rest) = .ok (Nat.toDigits 10 n, rest) := by
  refine wholeDigits_append Nat.toDigits_ne_nil (fun c hc => isDigit_of_mem_toDigits hc) ?_
    fun c hc => (hrest c hc).1
  intro more heq
  rcases Nat.eq_zero_or_pos n with hn | hn
  · rw [hn, Nat.toDigits_zero] at heq
    exact (List.cons.inj heq).2.symm
  · exact absurd (by rw [heq]; rfl) (head_toDigits_ne_zero hn)

theorem fractionDigits_of_head {rest : List Char}
    (hrest : ∀ c ∈ rest.head?, isDigit c = false ∧ c ≠ '.') :
    fractionDigits rest = .ok (none, rest) := by
  cases rest with
  | nil => rfl
  | cons c rest =>
    have hc := (hrest c rfl).2
    unfold fractionDigits
    split
    next heq => exact absurd (List.cons.inj heq).1 hc
    next => rfl

theorem fractionDigits_of_endsNumber {rest : List Char} (hrest : EndsNumber rest) :
    fractionDigits rest = .ok (none, rest) :=
  fractionDigits_of_head fun c hc => ⟨(hrest c hc).1, (hrest c hc).2.1⟩

theorem exponentPart_of_endsNumber {rest : List Char} (hrest : EndsNumber rest) :
    exponentPart rest = .ok (none, rest) := by
  cases rest with
  | nil => rfl
  | cons c rest =>
    obtain ⟨-, -, he, hE⟩ := hrest c (by simp)
    unfold exponentPart
    split
    next heq => exact absurd (List.cons.inj heq).1 he
    next heq => exact absurd (List.cons.inj heq).1 hE
    next => rfl

theorem unsignedNumber_toDigits (negative : Bool) (n : Nat) {number : Number} {rest : List Char}
    (hnumber : wholeNumber? negative (Nat.toDigits 10 n) = some number)
    (hrest : EndsNumber rest) :
    unsignedNumber negative (Nat.toDigits 10 n ++ rest) = .ok (number, rest) := by
  simp only [unsignedNumber, wholeDigits_toDigits n hrest, fractionDigits_of_endsNumber hrest,
    exponentPart_of_endsNumber hrest, ok_bind, hnumber]

/-- A whole number that the reader keeps whole. -/
def InRange (n : Int) : Prop := -((UInt64.size / 2 : Nat) : Int) ≤ n ∧ n < UInt64.size

theorem head_intChars (n : Int) :
    ∃ c cs, intChars n = c :: cs ∧ (c = '-' ∨ isDigit c = true) := by
  rw [intChars]
  split
  next => exact ⟨'-', _, rfl, .inl rfl⟩
  next =>
    cases hdigits : Nat.toDigits 10 n.natAbs with
    | nil => exact absurd hdigits Nat.toDigits_ne_nil
    | cons d digits =>
      have hd : isDigit d = true := isDigit_of_mem_toDigits (hdigits ▸ List.mem_cons_self)
      exact ⟨d, digits, rfl, .inr hd⟩

theorem number_of_isDigit {d : Char} {rest : List Char} (hd : isDigit d = true) :
    number (d :: rest) = unsignedNumber false (d :: rest) := by
  unfold number
  split
  next heq =>
    rw [(List.cons.inj heq).1] at hd
    exact absurd hd (by decide)
  next => rfl

theorem wholeNumber?_negative {n : Nat} (hpos : 0 < n) (hle : n ≤ UInt64.size / 2) :
    wholeNumber? true (Nat.toDigits 10 n) = some (.int (-(n : Int))) := by
  rw [wholeNumber?, digitsValue_toDigits]
  simp only [hpos, hle, Bool.true_and, decide_true, if_true]

theorem wholeNumber?_plain {n : Nat} (hlt : n < UInt64.size) :
    wholeNumber? false (Nat.toDigits 10 n) = some (.int n) := by
  rw [wholeNumber?, digitsValue_toDigits]
  simp only [hlt, Bool.false_and, Bool.not_false, Bool.true_and, decide_true, if_true,
    Bool.false_eq_true, if_false]

theorem number_intChars {n : Int} (hn : InRange n) {rest : List Char} (hrest : EndsNumber rest) :
    number (intChars n ++ rest) = .ok (.int n, rest) := by
  obtain ⟨hlow, hhigh⟩ := hn
  rw [intChars]
  split
  next hneg =>
    rw [List.cons_append, number]
    apply unsignedNumber_toDigits
    · have hvalue : -(n.natAbs : Int) = n := by omega
      rw [wholeNumber?_negative (by omega) (by omega), hvalue]
    · exact hrest
  next hneg =>
    have hunsigned : number (Nat.toDigits 10 n.natAbs ++ rest) =
        unsignedNumber false (Nat.toDigits 10 n.natAbs ++ rest) := by
      cases hdigits : Nat.toDigits 10 n.natAbs with
      | nil => exact absurd hdigits Nat.toDigits_ne_nil
      | cons d digits =>
        exact number_of_isDigit (isDigit_of_mem_toDigits (hdigits ▸ List.mem_cons_self))
    rw [hunsigned]
    apply unsignedNumber_toDigits
    · have hvalue : (n.natAbs : Int) = n := by omega
      rw [wholeNumber?_plain (by omega), hvalue]
    · exact hrest

/-! ## Strings -/

theorem utf8Size_digitChar {d : Nat} (hd : d < 16) : (Nat.digitChar d).utf8Size = 1 := by
  revert d
  decide

/-- A character that is written as itself is read as itself. -/
theorem stringBody_plain_cons {c : Char} (hquote : c ≠ '"') (hslash : c ≠ '\\')
    (hcontrol : ¬c.toNat < 0x20) (rest : List Char) :
    stringBody .plain (c :: rest) =
      (stringBody .plain rest).bind fun (cs, rest) => .ok (c :: cs, rest) := by
  rw [stringBody, if_neg hquote, if_neg hslash, if_neg hcontrol]
  rfl

/-- A character below U+0020 is read from the two digits of its escape. -/
theorem stringBody_unit {c : Char} (hcontrol : c.toNat < 0x20) (rest : List Char) :
    stringBody .plain ('\\' :: 'u' :: '0' :: '0' :: Nat.digitChar (c.toNat / 16) ::
        Nat.digitChar (c.toNat % 16) :: rest) =
      (stringBody .plain rest).bind fun (cs, rest) => .ok (c :: cs, rest) := by
  have hhigh : c.toNat / 16 < 16 := by omega
  have hlow : c.toNat % 16 < 16 := by omega
  have hvalue : (c.toNat / 16) * 16 + c.toNat % 16 = c.toNat := by omega
  have hzero : Text.Hex.digit? '0' = some 0 := by decide
  have hmeaning : unitMeaning none c.toNat = .char c := by
    have hhighUnit : isHighSurrogate c.toNat = false := by
      simp only [isHighSurrogate, Bool.and_eq_false_iff, decide_eq_false_iff_not]
      omega
    have hlowUnit : isLowSurrogate c.toNat = false := by
      simp only [isLowSurrogate, Bool.and_eq_false_iff, decide_eq_false_iff_not]
      omega
    simp only [unitMeaning, hhighUnit, hlowUnit, Bool.false_eq_true, if_false, Char.ofNat_toNat]
  rw [stringBody, if_neg (by decide), if_pos rfl, stringBody, if_pos rfl]
  rw [stringBody, if_pos (by decide), stringBody, if_pos (by decide), stringBody,
    if_pos (by rw [utf8Size_digitChar hhigh]; decide), stringBody,
    if_neg (by rw [utf8Size_digitChar hlow, utf8Size_digitChar hhigh]; decide)]
  simp only [pushHex, hzero, Text.Hex.digit?_digitChar hhigh, Text.Hex.digit?_digitChar hlow,
    Nat.zero_mul, Nat.zero_add, hvalue, hmeaning]
  rfl

theorem stringBody_escapeChar (c : Char) (rest : List Char) :
    stringBody .plain (escapeChar c ++ rest) =
      (stringBody .plain rest).bind fun (cs, rest) => .ok (c :: cs, rest) := by
  unfold escapeChar
  split
  next => rfl
  next => rfl
  next => rfl
  next => rfl
  next => rfl
  next => rfl
  next => rfl
  next hquote hslash _ _ _ _ _ =>
    split
    next hcontrol => exact stringBody_unit hcontrol rest
    next hcontrol => exact stringBody_plain_cons hquote hslash hcontrol rest

theorem stringBody_quoted (cs rest : List Char) :
    stringBody .plain (cs.flatMap escapeChar ++ '"' :: rest) = .ok (cs, rest) := by
  induction cs with
  | nil => rfl
  | cons c cs ih =>
    rw [List.flatMap_cons, List.append_assoc, stringBody_escapeChar, ih]
    rfl

theorem stringRest_quoted (text : String) (rest : List Char) :
    stringRest (text.toList.flatMap escapeChar ++ '"' :: rest) = .ok (text, rest) := by
  rw [stringRest, stringBody_quoted, ok_bind]
  simp only [String.ofList_toList, pure_eq_ok]

/-! ## Values -/

/-- What a value starts with is neither blank nor the end of a container. -/
def StartsValue (c : Char) : Prop := isSpace c = false ∧ c ≠ ']' ∧ c ≠ '}'

instance (c : Char) : Decidable (StartsValue c) :=
  inferInstanceAs (Decidable (_ ∧ _ ∧ _))

theorem ne_of_isDigit {c d : Char} (hc : isDigit c = true) (hd : isDigit d = false) : c ≠ d := by
  rintro rfl
  rw [hc] at hd
  cases hd

/-- What a number starts with is not taken for the start of anything else. -/
theorem ne_of_number {c d : Char} (hc : c = '-' ∨ isDigit c = true) (hminus : d ≠ '-')
    (hdigit : isDigit d = false) : c ≠ d := by
  rcases hc with rfl | hc
  · exact hminus.symm
  · exact ne_of_isDigit hc hdigit

theorem startsValue_of_number {c : Char} (hc : c = '-' ∨ isDigit c = true) : StartsValue c := by
  have hspace : isSpace c = false := by
    simp only [isSpace, Bool.or_eq_false_iff, beq_eq_false_iff_ne]
    exact ⟨⟨⟨ne_of_number hc (by decide) (by decide), ne_of_number hc (by decide) (by decide)⟩,
      ne_of_number hc (by decide) (by decide)⟩, ne_of_number hc (by decide) (by decide)⟩
  exact ⟨hspace, ne_of_number hc (by decide) (by decide), ne_of_number hc (by decide) (by decide)⟩

theorem skipSpace_cons {c : Char} (hc : isSpace c = false) (rest : List Char) :
    skipSpace (c :: rest) = c :: rest := by
  simp [skipSpace, hc]

theorem value_eq_scalar (nesting : Nat) {c : Char} (hspace : isSpace c = false) (hlist : c ≠ '[')
    (hobject : c ≠ '{') (rest : List Char) : value nesting (c :: rest) = scalar (c :: rest) := by
  cases nesting <;> rw [value, skipSpace_cons hspace] <;> split
  next heq => exact absurd (List.cons.inj heq).1 hlist
  next heq => exact absurd (List.cons.inj heq).1 hobject
  next => rfl
  next heq => exact absurd (List.cons.inj heq).1 hlist
  next heq => exact absurd (List.cons.inj heq).1 hobject
  next => rfl

theorem scalar_of_number {c : Char} (hc : c = '-' ∨ isDigit c = true) (rest : List Char) :
    scalar (c :: rest) = (number (c :: rest)).bind fun (n, rest) => .ok (.num n, rest) := by
  have hnumber : (c = '-' || isDigit c) = true := by
    rcases hc with rfl | hc
    · rfl
    · rw [hc, Bool.or_true]
  unfold scalar
  split
  next heq => cases heq
  next heq => exact absurd (List.cons.inj heq).1 (ne_of_number hc (by decide) (by decide))
  next heq => exact absurd (List.cons.inj heq).1 (ne_of_number hc (by decide) (by decide))
  next heq => exact absurd (List.cons.inj heq).1 (ne_of_number hc (by decide) (by decide))
  next heq => exact absurd (List.cons.inj heq).1 (ne_of_number hc (by decide) (by decide))
  next heq =>
    obtain ⟨rfl, rfl⟩ := List.cons.inj heq
    rw [if_pos hnumber]
    rfl

/-! ## Containers

Items and members are written alike, each after a comma; the first comma is then dropped.  The
lemmas are about any writer of items and a reader of one item, with what that reads for each item. -/

section Container

variable {α β : Type} {bracket : Bracket} {item : List Char → Except Fault (β × List Char)}
variable {write : α → List Char} {result : α → β}

/-- The items, each after a comma. -/
def commaItems (write : α → List Char) (xs : List α) : List Char :=
  xs.flatMap fun x => ',' :: write x

theorem renderItems_eq (xs : List Json) : renderItems xs = commaItems renderChars xs := by
  induction xs with
  | nil => rfl
  | cons x xs ih => rw [renderItems, ih]; rfl

def memberChars (m : Member) : List Char := quoteChars m.1.toList ++ ':' :: renderChars m.2

theorem renderMembers_eq (ms : List Member) : renderMembers ms = commaItems memberChars ms := by
  induction ms with
  | nil => rfl
  | cons m ms ih =>
    rw [renderMembers, ih]
    simp [commaItems, memberChars]

theorem endsNumber_commaItems (xs : List α) {close : Char}
    (hclose : isDigit close = false ∧ close ≠ '.' ∧ close ≠ 'e' ∧ close ≠ 'E')
    (rest : List Char) : EndsNumber (commaItems write xs ++ close :: rest) := by
  cases xs with
  | nil => exact endsNumber_cons rest hclose
  | cons x xs => exact endsNumber_cons _ (by decide)

/-- The bracket that closes a container is no blank, no comma and no part of a number. -/
structure Bracket.Closes (bracket : Bracket) : Prop where
  not_space : isSpace bracket.close = false
  ne_comma : bracket.close ≠ ','
  ends_number : isDigit bracket.close = false ∧ bracket.close ≠ '.' ∧ bracket.close ≠ 'e' ∧
    bracket.close ≠ 'E'

theorem listBracket_closes : listBracket.Closes := ⟨by decide, by decide, by decide⟩

theorem objectBracket_closes : objectBracket.Closes := ⟨by decide, by decide, by decide⟩

/-- What an item starts with is neither blank nor the end of its container. -/
def StartsItem (bracket : Bracket) (cs : List Char) : Prop :=
  ∃ c rest, cs = c :: rest ∧ isSpace c = false ∧ c ≠ bracket.close

theorem moreItems_commaItems (hcloses : bracket.Closes) (rest : List Char) :
    ∀ (xs : List α) (bound : Nat), xs.length < bound →
      (∀ x ∈ xs, StartsItem bracket (write x)) →
      (∀ x ∈ xs, ∀ rest, EndsNumber rest → item (write x ++ rest) = .ok (result x, rest)) →
      moreItems bracket item bound (commaItems write xs ++ bracket.close :: rest) =
        .ok (xs.map result, rest)
  | _, 0, hbound, _, _ => absurd hbound (Nat.not_lt_zero _)
  | [], bound + 1, _, _, _ => by
    show moreItems bracket item (bound + 1) (bracket.close :: rest) = _
    simp only [moreItems, skipSpace_cons hcloses.not_space, if_true, List.map_nil]
  | x :: xs, bound + 1, hbound, hstarts, hitem => by
    obtain ⟨c, cs, hcs, hspace, hclose⟩ := hstarts x List.mem_cons_self
    have hfirst := hitem x List.mem_cons_self (commaItems write xs ++ bracket.close :: rest)
      (endsNumber_commaItems xs hcloses.ends_number rest)
    have hmore := moreItems_commaItems hcloses rest xs bound (by simpa using hbound)
      (fun y hy => hstarts y (List.mem_cons_of_mem x hy))
      (fun y hy => hitem y (List.mem_cons_of_mem x hy))
    have htext : commaItems write (x :: xs) ++ bracket.close :: rest =
        ',' :: (write x ++ (commaItems write xs ++ bracket.close :: rest)) := by
      simp [commaItems]
    rw [hcs, List.cons_append] at hfirst
    rw [htext, hcs, List.cons_append]
    simp only [moreItems, skipSpace_cons (c := ',') (by decide), skipSpace_cons hspace,
      if_neg hcloses.ne_comma.symm, if_neg hclose, if_true, hfirst, ok_bind, hmore, pure_eq_ok,
      List.map_cons]

theorem length_le_length_commaItems (write : α → List Char) (xs : List α) :
    xs.length ≤ (commaItems write xs).length := by
  induction xs with
  | nil => exact Nat.zero_le _
  | cons x xs ih =>
    rw [commaItems, List.flatMap_cons, List.length_append, List.length_cons, List.length_cons,
      ← commaItems]
    omega

/-- A container is read when each of its items is. -/
theorem sequence_commaItems (write : α → List Char) (hcloses : bracket.Closes) (rest : List Char)
    (xs : List α)
    (hstarts : ∀ x ∈ xs, StartsItem bracket (write x))
    (hitem : ∀ x ∈ xs, ∀ rest, EndsNumber rest → item (write x ++ rest) = .ok (result x, rest)) :
    sequence bracket item ((commaItems write xs).drop 1 ++ bracket.close :: rest) =
      .ok (xs.map result, rest) := by
  cases xs with
  | nil =>
    show sequence bracket item (bracket.close :: rest) = _
    simp only [sequence, skipSpace_cons hcloses.not_space, if_true, List.map_nil]
  | cons x xs =>
    obtain ⟨c, cs, hcs, hspace, hclose⟩ := hstarts x List.mem_cons_self
    have hfirst := hitem x List.mem_cons_self (commaItems write xs ++ bracket.close :: rest)
      (endsNumber_commaItems xs hcloses.ends_number rest)
    have hlength : xs.length < (commaItems write xs ++ bracket.close :: rest).length + 1 := by
      have hle := length_le_length_commaItems write xs
      rw [List.length_append]
      omega
    have hmore := moreItems_commaItems hcloses rest xs _ hlength
      (fun y hy => hstarts y (List.mem_cons_of_mem x hy))
      (fun y hy => hitem y (List.mem_cons_of_mem x hy))
    have htext : (commaItems write (x :: xs)).drop 1 ++ bracket.close :: rest =
        write x ++ (commaItems write xs ++ bracket.close :: rest) := by
      simp [commaItems]
    rw [hcs, List.cons_append] at hfirst
    rw [htext, hcs, List.cons_append]
    simp only [sequence, skipSpace_cons hspace, if_neg hclose, hfirst, ok_bind, hmore,
      pure_eq_ok, List.map_cons]

end Container

end Intake.Json
