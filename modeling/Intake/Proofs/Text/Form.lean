import Intake.Import.Source
import Intake.Proofs.Text.Decoding
import Mathlib.Logic.ExistsUnique

/-!
# Form-encoded keys are read faithfully

A plus sign stands for a space, an escape for a byte, and every other character for its own bytes.
This can be said of characters, although decoding goes over bytes: no byte of a longer character is
a plus sign, a percent sign or a digit.  A key is read back from each of the ways to write it, with
every byte escaped or not as one likes, and a text is refused only if the bytes it stands for are no
text.
-/

namespace Intake.Text.Form

/-! ## What texts stand for -/

/-- The characters start with a percent sign and two hexadecimal digits. -/
def StartsEscape (cs : List Char) : Prop :=
  ∃ x y high low rest, cs = '%' :: x :: y :: rest ∧ Hex.digit? x = some high ∧
    Hex.digit? y = some low

/-- The bytes that characters stand for. -/
inductive StandsFor : List Char → List UInt8 → Prop where
  | nil : StandsFor [] []
  | space {cs : List Char} {bs : List UInt8} (hrest : StandsFor cs bs) :
      StandsFor ('+' :: cs) (0x20 :: bs)
  | escape {x y : Char} {high low : Nat} {cs : List Char} {bs : List UInt8}
      (hhigh : Hex.digit? x = some high) (hlow : Hex.digit? y = some low)
      (hrest : StandsFor cs bs) :
      StandsFor ('%' :: x :: y :: cs) (UInt8.ofNat (high * 16 + low) :: bs)
  | plain {c : Char} {cs : List Char} {bs : List UInt8} (hplus : c ≠ '+')
      (hescape : ¬StartsEscape (c :: cs)) (hrest : StandsFor cs bs) :
      StandsFor (c :: cs) (String.utf8EncodeChar c ++ bs)

/-- The ways to write bytes.  Each byte may be escaped; a space may be a plus sign, and any other
plain character that means nothing special may stand for itself. -/
inductive Written : List UInt8 → List Char → Prop where
  | nil : Written [] []
  | escaped {b : UInt8} {x y : Char} {bs : List UInt8} {cs : List Char}
      (hhigh : Hex.digit? x = some (b.toNat / 16)) (hlow : Hex.digit? y = some (b.toNat % 16))
      (hrest : Written bs cs) : Written (b :: bs) ('%' :: x :: y :: cs)
  | literal {c : Char} {bs : List UInt8} {cs : List Char} (hplain : c.toNat < 0x80)
      (hmeans : c ∉ ['%', '+', ' ']) (hrest : Written bs cs) :
      Written (UInt8.ofNat c.toNat :: bs) (c :: cs)
  | space {bs : List UInt8} {cs : List Char} (hrest : Written bs cs) :
      Written (0x20 :: bs) ('+' :: cs)

theorem encodeChar_plain {c : Char} (hplain : c.toNat < 0x80) :
    String.utf8EncodeChar c = [UInt8.ofNat c.toNat] := by
  rw [← Utf8.encodeChar_one hplain, Char.ofNat_toNat]

theorem toNat_lt_of_digit? {x : Char} {n : Nat} (hx : Hex.digit? x = some n) : x.toNat < 0x80 := by
  unfold Hex.digit? at hx
  split at hx
  next hrange => exact Nat.lt_of_le_of_lt hrange.2 (by decide)
  next =>
  split at hx
  next hrange => exact Nat.lt_of_le_of_lt hrange.2 (by decide)
  next =>
  split at hx
  next hrange => exact Nat.lt_of_le_of_lt hrange.2 (by decide)
  next => cases hx

/-- What is written stands for the bytes that were written. -/
theorem standsFor_of_written {bs : List UInt8} {cs : List Char} (hwritten : Written bs cs) :
    StandsFor cs bs := by
  induction hwritten with
  | nil => exact .nil
  | @escaped b x y bs cs hhigh hlow hrest ih =>
    have hbyte : UInt8.ofNat (b.toNat / 16 * 16 + b.toNat % 16) = b := by
      rw [Nat.div_add_mod', UInt8.ofNat_toNat]
    rw [← hbyte]
    exact .escape hhigh hlow ih
  | @literal c bs cs hplain hmeans hrest ih =>
    simp only [List.mem_cons, List.not_mem_nil, or_false, not_or] at hmeans
    have hstands : StandsFor (c :: cs) (String.utf8EncodeChar c ++ bs) := by
      refine .plain hmeans.2.1 ?_ ih
      rintro ⟨x, y, high, low, rest, heq, -, -⟩
      exact hmeans.1 (List.cons.inj heq).1
    rwa [encodeChar_plain hplain] at hstands
  | space hrest ih => exact .space ih

/-! ## Decoding over bytes -/

/-- The bytes of characters with a space for each plus sign. -/
def spaced (cs : List Char) : List UInt8 := (Utf8.encode cs).map plusToSpace

theorem decodedBytes_eq (text : String) : decodedBytes text = unescape (spaced text.toList) := rfl

theorem spaced_cons (c : Char) (cs : List Char) :
    spaced (c :: cs) = (String.utf8EncodeChar c).map plusToSpace ++ spaced cs := by
  rw [spaced, Utf8.encode, List.flatMap_cons, List.map_append, ← Utf8.encode, ← spaced]

/-- A byte of a character is a given plain one only if the character is. -/
theorem eq_of_mem_encodeChar {c d : Char} (hplain : d.toNat < 0x80)
    (hmem : UInt8.ofNat d.toNat ∈ String.utf8EncodeChar c) : c = d := by
  have hbyte := Utf8.toNat_of_mem_encodeChar hmem
  rw [Utf8.toNat_ofNat (by omega)] at hbyte
  have hsame : d.toNat = c.toNat := by omega
  rw [← Char.ofNat_toNat c, ← hsame, Char.ofNat_toNat]

theorem spaced_cons_of_ne {c : Char} (hplus : c ≠ '+') (cs : List Char) :
    spaced (c :: cs) = String.utf8EncodeChar c ++ spaced cs := by
  have hself : (String.utf8EncodeChar c).map plusToSpace = String.utf8EncodeChar c := by
    refine (List.map_congr_left fun b hb => ?_).trans (List.map_id _)
    rw [plusToSpace, if_neg, id]
    rintro rfl
    exact hplus (eq_of_mem_encodeChar (d := '+') (by decide) hb)
  rw [spaced_cons, hself]

theorem unescape_cons {a : UInt8} (ha : a ≠ 0x25) (bs : List UInt8) :
    unescape (a :: bs) = a :: unescape bs := by
  match bs with
  | [] => rfl
  | [_] => rfl
  | _ :: _ :: _ => rw [unescape, if_neg ha]

theorem unescape_append {as : List UInt8} (has : (0x25 : UInt8) ∉ as) (bs : List UInt8) :
    unescape (as ++ bs) = as ++ unescape bs := by
  induction as with
  | nil => rfl
  | cons a as ih =>
    rw [List.mem_cons, not_or] at has
    rw [List.cons_append, unescape_cons (Ne.symm has.1), ih has.2, List.cons_append]

theorem unescape_escape {b c : UInt8} {high low : Nat} (hb : hexValue? b = some high)
    (hc : hexValue? c = some low) (bs : List UInt8) :
    unescape (0x25 :: b :: c :: bs) = UInt8.ofNat (high * 16 + low) :: unescape bs := by
  rw [unescape, if_pos rfl, hb, hc]

/-- A percent sign without two digits stands for itself. -/
theorem unescape_stray {bs : List UInt8}
    (hstray : ∀ b c rest high low, bs = b :: c :: rest → hexValue? b = some high →
      hexValue? c ≠ some low) :
    unescape (0x25 :: bs) = 0x25 :: unescape bs := by
  match bs with
  | [] => rfl
  | [_] => rfl
  | b :: c :: rest =>
    rw [unescape, if_pos rfl]
    split
    next high low hb hc => exact absurd hc (hstray b c rest high low rfl hb)
    next => rfl

/-- The byte of a plain character has the value of the character as a digit. -/
theorem hexValue?_plain {c : Char} (hplain : c.toNat < 0x80) :
    hexValue? (plusToSpace (UInt8.ofNat c.toNat)) = Hex.digit? c := by
  by_cases hplus : c = '+'
  · subst hplus
    decide
  · have hbyte : UInt8.ofNat c.toNat ≠ 0x2B := by
      intro heq
      refine hplus (eq_of_mem_encodeChar (d := '+') (by decide) ?_)
      rw [encodeChar_plain hplain, heq]
      decide
    have hlow : UInt8.ofNat c.toNat < 0x80 := (Utf8.ofNat_lt_iff (by omega) _).2 hplain
    rw [plusToSpace, if_neg hbyte, hexValue?, if_pos hlow, Utf8.toNat_ofNat (by omega),
      Char.ofNat_toNat]

theorem spaced_digit {x : Char} {n : Nat} (hx : Hex.digit? x = some n) (cs : List Char) :
    ∃ b, spaced (x :: cs) = b :: spaced cs ∧ hexValue? b = some n := by
  have hplain := toNat_lt_of_digit? hx
  refine ⟨plusToSpace (UInt8.ofNat x.toNat), ?_, by rw [hexValue?_plain hplain, hx]⟩
  rw [spaced_cons, encodeChar_plain hplain]
  rfl

/-- A byte that is a digit is the whole of a character that is this digit. -/
theorem digit_of_spaced {cs : List Char} {b : UInt8} {bs : List UInt8} {n : Nat}
    (hspaced : spaced cs = b :: bs) (hb : hexValue? b = some n) :
    ∃ x rest, cs = x :: rest ∧ Hex.digit? x = some n ∧ bs = spaced rest := by
  cases cs with
  | nil => cases hspaced
  | cons x rest =>
    by_cases hplain : x.toNat < 0x80
    · rw [spaced_cons, encodeChar_plain hplain, List.map_cons, List.map_nil, List.cons_append,
        List.nil_append] at hspaced
      obtain ⟨rfl, rfl⟩ := List.cons.inj hspaced
      exact ⟨x, rest, rfl, by rw [← hexValue?_plain hplain, hb], rfl⟩
    · have hplus : x ≠ '+' := by
        rintro rfl
        exact hplain (by decide)
      rw [spaced_cons_of_ne hplus] at hspaced
      have hhigh : ¬b < 0x80 := by
        have hmem : b ∈ String.utf8EncodeChar x := by
          cases hchar : String.utf8EncodeChar x with
          | nil => exact absurd hchar (Utf8.encodeChar_ne_nil x)
          | cons first later =>
            rw [hchar, List.cons_append] at hspaced
            rw [(List.cons.inj hspaced).1]
            exact List.mem_cons_self
        have hbyte := Utf8.toNat_of_mem_encodeChar hmem
        simp only [UInt8.lt_iff_toNat_lt, UInt8.reduceToNat]
        omega
      rw [hexValue?, if_neg hhigh] at hb
      cases hb

/-- Decoding gives the bytes that the characters stand for. -/
theorem unescape_of_standsFor {cs : List Char} {bs : List UInt8} (hstands : StandsFor cs bs) :
    unescape (spaced cs) = bs := by
  induction hstands with
  | nil => rfl
  | @space cs bs hrest ih =>
    have hspaced : spaced ('+' :: cs) = 0x20 :: spaced cs := by
      rw [spaced_cons]
      rfl
    rw [hspaced, unescape_cons (by decide), ih]
  | @escape x y high low cs bs hhigh hlow hrest ih =>
    obtain ⟨b, hb, hbvalue⟩ := spaced_digit hhigh (y :: cs)
    obtain ⟨c, hc, hcvalue⟩ := spaced_digit hlow cs
    have hpercent : String.utf8EncodeChar '%' = [0x25] := by decide
    rw [spaced_cons_of_ne (by decide), hpercent, hb, hc, List.cons_append, List.nil_append,
      unescape_escape hbvalue hcvalue, ih]
  | @plain c cs bs hplus hescape hrest ih =>
    rw [spaced_cons_of_ne hplus]
    by_cases hpercent : c = '%'
    · subst hpercent
      have hbytes : String.utf8EncodeChar '%' = [0x25] := by decide
      rw [hbytes, List.cons_append, List.nil_append, unescape_stray, ih, List.cons_append,
        List.nil_append]
      intro b d rest high low hspaced hb hd
      obtain ⟨x, others, rfl, hx, hothers⟩ := digit_of_spaced hspaced hb
      obtain ⟨y, others, rfl, hy, -⟩ := digit_of_spaced hothers.symm hd
      exact hescape ⟨x, y, high, low, others, rfl, hx, hy⟩
    · have hnone : (0x25 : UInt8) ∉ String.utf8EncodeChar c := fun hmem =>
        hpercent (eq_of_mem_encodeChar (d := '%') (by decide) hmem)
      rw [unescape_append hnone, ih]

/-- Every text stands for some bytes. -/
theorem exists_standsFor (cs : List Char) : ∃ bs, StandsFor cs bs := by
  -- An escape takes three characters at once.
  induction hlength : cs.length using Nat.strongRecOn generalizing cs with
  | ind length ih =>
  subst hlength
  cases cs with
  | nil => exact ⟨[], .nil⟩
  | cons c rest =>
    by_cases hescape : StartsEscape (c :: rest)
    · obtain ⟨x, y, high, low, others, heq, hhigh, hlow⟩ := hescape
      obtain ⟨rfl, rfl⟩ := List.cons.inj heq
      obtain ⟨bs, hbs⟩ := ih others.length (by simp only [List.length_cons]; omega) others rfl
      exact ⟨_, .escape hhigh hlow hbs⟩
    · obtain ⟨bs, hbs⟩ := ih rest.length (by simp) rest rfl
      by_cases hplus : c = '+'
      · subst hplus
        exact ⟨_, .space hbs⟩
      · exact ⟨_, .plain hplus hescape hbs⟩

theorem standsFor_iff {text : String} {bs : List UInt8} :
    StandsFor text.toList bs ↔ decodedBytes text = bs := by
  rw [decodedBytes_eq]
  constructor
  · exact unescape_of_standsFor
  · rintro rfl
    obtain ⟨bs, hbs⟩ := exists_standsFor text.toList
    rwa [unescape_of_standsFor hbs]

end Intake.Text.Form

namespace Intake.Text

theorem isValidUTF8_iff {bs : List UInt8} :
    bs.toByteArray.IsValidUTF8 ↔ ∃ text, bytes text = bs := by
  constructor
  · rintro ⟨cs, heq⟩
    refine ⟨String.ofList cs, ?_⟩
    have hdata := congrArg (fun array => array.data.toList) heq
    simp only [List.utf8Encode, List.data_toByteArray] at hdata
    rw [bytes, String.toList_ofList, Utf8.encode, ← hdata]
  · rintro ⟨text, rfl⟩
    exact ⟨text.toList, rfl⟩

end Intake.Text

namespace Intake.Notification

open Text.Form (StandsFor Written)

/-- How a form-encoded key is read. -/
structure KeyRead (raw : String) : Prop where
  /-- Every way to write a key gives the key back. -/
  of_written : ∀ key, Written (Text.bytes key) raw.toList → decodeKey raw = .ok key
  existsUnique : ∃! bs, StandsFor raw.toList bs
  ok_iff : ∀ key, decodeKey raw = .ok key ↔ StandsFor raw.toList (Text.bytes key)
  error_iff : (∃ error, decodeKey raw = .error error) ↔
    ∃ bs, StandsFor raw.toList bs ∧ ¬bs.toByteArray.IsValidUTF8

/-- A key is the text that the form-encoded key stands for, and it is refused only if there is none;
in particular it is read back from each of its encodings. -/
theorem key_faithful (raw : String) : KeyRead raw := by
  have hok : ∀ key, decodeKey raw = .ok key ↔ StandsFor raw.toList (Text.bytes key) := by
    intro key
    rw [decodeKey, mapError_eq_ok_iff, Text.Form.decode_eq_ok_iff, Text.Form.standsFor_iff, eq_comm]
  constructor
  case of_written => exact fun key hwritten => (hok key).2 (Text.Form.standsFor_of_written hwritten)
  case existsUnique =>
    refine ⟨_, Text.Form.standsFor_iff.2 rfl, fun bs hbs => ?_⟩
    exact (Text.Form.standsFor_iff.1 hbs).symm
  case ok_iff => exact hok
  case error_iff =>
    have hvalid : ∀ bs, StandsFor raw.toList bs →
        (bs.toByteArray.IsValidUTF8 ↔ ∃ key, decodeKey raw = .ok key) := by
      intro bs hbs
      rw [Text.isValidUTF8_iff]
      simp only [hok, Text.Form.standsFor_iff.1 hbs, Text.Form.standsFor_iff, eq_comm]
    constructor
    · rintro ⟨error, herror⟩
      obtain ⟨bs, hbs⟩ := Text.Form.exists_standsFor raw.toList
      refine ⟨bs, hbs, fun hutf8 => ?_⟩
      obtain ⟨key, hkey⟩ := (hvalid bs hbs).1 hutf8
      cases hkey.symm.trans herror
    · rintro ⟨bs, hbs, hutf8⟩
      cases hdecode : decodeKey raw with
      | ok key => exact absurd ((hvalid bs hbs).2 ⟨key, hdecode⟩) hutf8
      | error error => exact ⟨error, rfl⟩

/-- A percent sign that starts no escape stays, and an escaped plus sign is no space. -/
example : decodeKey "100%+%c3%A5%2B%" = .ok "100% å+%" := by cbv

end Intake.Notification
