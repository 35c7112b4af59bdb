import Intake.Proofs.Text.Utf8
import Intake.Text.Form

/-!
# Only encoded text is decoded

Inside a character, decoding goes on only with a byte that may come next, so what was read can be
told from what is left to read.  Bytes are therefore decoded to a text exactly when they are the
bytes of that text, and everything else is refused.
-/

namespace Intake.Text.Utf8

section Sound

variable {index : Nat} {p : Partial} {bytes : List UInt8} {cs : List Char}

/-- Inside a character, decoding goes on with a byte that may come next. -/
theorem next_of_decodeFrom (hleast : 0x80 ≤ p.least.toNat) (hgreatest : p.greatest.toNat ≤ 0xBF)
    (hok : decodeFrom index (some p) bytes = .ok cs) :
    ∃ bits rest, bytes = UInt8.ofNat (bits + 0x80) :: rest ∧ bits < 0x40 ∧
      p.least.toNat ≤ bits + 0x80 ∧ bits + 0x80 ≤ p.greatest.toNat := by
  cases bytes with
  | nil =>
    rw [decodeFrom] at hok
    cases hok
  | cons b rest =>
    rw [decodeFrom] at hok
    split at hok
    next => cases hok
    next hrange =>
      rw [UInt8.lt_iff_toNat_lt, UInt8.lt_iff_toNat_lt] at hrange
      have hbits : b.toNat - 0x80 + 0x80 = b.toNat := by omega
      refine ⟨b.toNat - 0x80, rest, ?_, by omega, by omega, by omega⟩
      rw [hbits, UInt8.ofNat_toNat]

theorem last_of_decodeFrom (hleft : p.left = 1) (hleast : 0x80 ≤ p.least.toNat)
    (hgreatest : p.greatest.toNat ≤ 0xBF) (hok : decodeFrom index (some p) bytes = .ok cs) :
    ∃ bits rest later, bytes = UInt8.ofNat (bits + 0x80) :: rest ∧ bits < 0x40 ∧
      cs = Char.ofNat (p.value * 64 + bits) :: later ∧
      decodeFrom (index + 1) none rest = .ok later := by
  obtain ⟨bits, rest, rfl, hbits, hlow, hhigh⟩ := next_of_decodeFrom hleast hgreatest hok
  rw [decodeFrom_last hleft hbits hlow hhigh] at hok
  obtain ⟨later, hlater, hcs⟩ := map_eq_ok_iff.1 hok
  exact ⟨bits, rest, later, rfl, hbits, hcs.symm, hlater⟩

theorem more_of_decodeFrom (hleft : p.left ≠ 1) (hleast : 0x80 ≤ p.least.toNat)
    (hgreatest : p.greatest.toNat ≤ 0xBF) (hok : decodeFrom index (some p) bytes = .ok cs) :
    ∃ bits rest, bytes = UInt8.ofNat (bits + 0x80) :: rest ∧ bits < 0x40 ∧
      p.least.toNat ≤ bits + 0x80 ∧ bits + 0x80 ≤ p.greatest.toNat ∧
      decodeFrom (index + 1)
        (some ⟨p.start, p.seen + 1, p.left - 1, 0x80, 0xBF, p.value * 64 + bits⟩) rest =
          .ok cs := by
  obtain ⟨bits, rest, rfl, hbits, hlow, hhigh⟩ := next_of_decodeFrom hleast hgreatest hok
  rw [decodeFrom_more hleft hbits hlow hhigh] at hok
  exact ⟨bits, rest, rfl, hbits, hlow, hhigh, hok⟩

/-- The bytes that can start a character, by how many there will be. -/
theorem lead_cases (index : Nat) (b : UInt8) :
    (∃ n < 0x80, b = UInt8.ofNat n) ∨ (∃ n, 2 ≤ n ∧ n < 0x20 ∧ b = UInt8.ofNat (n + 0xC0)) ∨
      (∃ n < 0x10, b = UInt8.ofNat (n + 0xE0)) ∨ (∃ n < 5, b = UInt8.ofNat (n + 0xF0)) ∨
      lead index b = .invalid := by
  have hbyte := b.toNat_lt
  have hself : ∀ low, low ≤ b.toNat → b = UInt8.ofNat (b.toNat - low + low) := by
    intro low hlow
    rw [Nat.sub_add_cancel hlow, UInt8.ofNat_toNat]
  by_cases hone : b.toNat < 0x80
  · exact .inl ⟨b.toNat, hone, UInt8.ofNat_toNat.symm⟩
  by_cases htwo : 0xC2 ≤ b.toNat ∧ b.toNat < 0xE0
  · exact .inr (.inl ⟨b.toNat - 0xC0, by omega, by omega, hself _ (by omega)⟩)
  by_cases hthree : 0xE0 ≤ b.toNat ∧ b.toNat < 0xF0
  · exact .inr (.inr (.inl ⟨b.toNat - 0xE0, by omega, hself _ (by omega)⟩))
  by_cases hfour : 0xF0 ≤ b.toNat ∧ b.toNat < 0xF5
  · exact .inr (.inr (.inr (.inl ⟨b.toNat - 0xF0, by omega, hself _ (by omega)⟩)))
  refine .inr (.inr (.inr (.inr ?_)))
  simp only [lead, UInt8.lt_iff_toNat_lt, UInt8.reduceToNat]
  by_cases hlow : b.toNat < 0xC2
  · rw [if_neg hone, if_pos hlow]
  · rw [if_neg hone, if_neg hlow, if_neg (by omega), if_neg (by omega), if_neg (by omega)]

/-- A number that is no surrogate is the number of its character. -/
theorem toNat_charOfNat {n : Nat} (hvalid : n < 0xD800 ∨ 0xDFFF < n ∧ n < 0x110000) :
    (Char.ofNat n).toNat = n := by
  have hchar : n.isValidChar := hvalid
  rw [Char.ofNat, dif_pos hchar]
  rfl

section Values

variable {n a b c d : Nat}

theorem encodeChar_one (hn : n < 0x80) :
    String.utf8EncodeChar (Char.ofNat n) = [UInt8.ofNat n] := by
  have hchar := encodeChar_eq (Char.ofNat n)
  rw [toNat_charOfNat (by omega)] at hchar
  rcases hchar with h | h | h | h
  · exact h.2
  all_goals omega

theorem encodeChar_two (ha : 2 ≤ a ∧ a < 0x20) (hb : b < 0x40) :
    String.utf8EncodeChar (Char.ofNat (a * 64 + b)) =
      [UInt8.ofNat (a + 0xC0), UInt8.ofNat (b + 0x80)] := by
  have hchar := encodeChar_eq (Char.ofNat (a * 64 + b))
  rw [toNat_charOfNat (by omega)] at hchar
  rcases hchar with h | h | h | h
  rotate_left
  · have hlead : (a * 64 + b) / 64 = a := by omega
    have hlast : (a * 64 + b) % 64 = b := by omega
    rw [h.2, hlead, hlast]
  all_goals omega

theorem encodeChar_three (ha : a < 0x10) (hb : b < 0x40) (hc : c < 0x40)
    (hleast : a = 0 → 0x20 ≤ b) (hgreatest : a = 0xD → b < 0x20) :
    String.utf8EncodeChar (Char.ofNat ((a * 64 + b) * 64 + c)) =
      [UInt8.ofNat (a + 0xE0), UInt8.ofNat (b + 0x80), UInt8.ofNat (c + 0x80)] := by
  have hchar := encodeChar_eq (Char.ofNat ((a * 64 + b) * 64 + c))
  rw [toNat_charOfNat (by omega)] at hchar
  rcases hchar with h | h | h | h
  rotate_left 2
  · have hlead : ((a * 64 + b) * 64 + c) / 4096 = a := by omega
    have hmiddle : ((a * 64 + b) * 64 + c) / 64 % 64 = b := by omega
    have hlast : ((a * 64 + b) * 64 + c) % 64 = c := by omega
    rw [h.2, hlead, hmiddle, hlast]
  all_goals omega

theorem encodeChar_four (ha : a < 5) (hb : b < 0x40) (hc : c < 0x40) (hd : d < 0x40)
    (hleast : a = 0 → 0x10 ≤ b) (hgreatest : a = 4 → b < 0x10) :
    String.utf8EncodeChar (Char.ofNat (((a * 64 + b) * 64 + c) * 64 + d)) =
      [UInt8.ofNat (a + 0xF0), UInt8.ofNat (b + 0x80), UInt8.ofNat (c + 0x80),
        UInt8.ofNat (d + 0x80)] := by
  have hchar := encodeChar_eq (Char.ofNat (((a * 64 + b) * 64 + c) * 64 + d))
  rw [toNat_charOfNat (by omega)] at hchar
  rcases hchar with h | h | h | h
  rotate_left 3
  · have hlead : (((a * 64 + b) * 64 + c) * 64 + d) / 262144 = a := by omega
    have hsecond : (((a * 64 + b) * 64 + c) * 64 + d) / 4096 % 64 = b := by omega
    have hthird : (((a * 64 + b) * 64 + c) * 64 + d) / 64 % 64 = c := by omega
    have hlast : (((a * 64 + b) * 64 + c) * 64 + d) % 64 = d := by omega
    rw [h.2, hlead, hsecond, hthird, hlast]
  all_goals omega

end Values

/-- What decodes to a text is the encoding of that text. -/
theorem eq_encode_of_decodeFrom (hok : decodeFrom index none bytes = .ok cs) :
    bytes = encode cs := by
  induction hlength : bytes.length using Nat.strongRecOn generalizing index bytes cs with
  | ind length ih =>
  subst hlength
  cases bytes with
  | nil =>
    cases hok
    rfl
  | cons b rest =>
    have hfirst : ∀ {c : Char} {rest' : List UInt8} {next : Nat} {later : List Char},
        b :: rest = String.utf8EncodeChar c ++ rest' → decodeFrom next none rest' = .ok later →
          b :: rest = encode (c :: later) := by
      intro c rest' next later hsplit hlater
      have hshorter : rest'.length < (b :: rest).length := by
        have hpos := List.length_pos_iff.2 (encodeChar_ne_nil c)
        rw [hsplit, List.length_append]
        omega
      rw [hsplit, encode, List.flatMap_cons, ← encode, ← ih _ hshorter hlater rfl]
    rw [decodeFrom] at hok
    rcases lead_cases index b with ⟨n, hn, rfl⟩ | ⟨n, hlow, hhigh, rfl⟩ | ⟨n, hn, rfl⟩ |
      ⟨n, hn, rfl⟩ | hinvalid
    · rw [lead_one hn] at hok
      obtain ⟨later, hlater, rfl⟩ := map_eq_ok_iff.1 hok
      exact hfirst (by rw [encodeChar_one hn]; rfl) hlater
    · rw [lead_two hlow hhigh] at hok
      obtain ⟨bits, rest, later, rfl, hbits, rfl, hlater⟩ :=
        last_of_decodeFrom rfl (by simp) (by simp) hok
      exact hfirst (by rw [encodeChar_two ⟨hlow, hhigh⟩ hbits]; rfl) hlater
    · rw [lead_three hn] at hok
      obtain ⟨second, rest, rfl, hsecond, hleast, hgreatest, hok⟩ :=
        more_of_decodeFrom (by simp) (by dsimp only; split <;> simp) (by dsimp only; split <;> simp)
          hok
      obtain ⟨third, rest, later, rfl, hthird, rfl, hlater⟩ :=
        last_of_decodeFrom rfl (by simp) (by simp) hok
      have hlow : n = 0 → 0x20 ≤ second := by
        intro hzero
        simp [hzero] at hleast
        exact hleast
      have hhigh : n = 0xD → second < 0x20 := by
        intro htop
        simp [htop] at hgreatest
        omega
      exact hfirst (by rw [encodeChar_three hn hsecond hthird hlow hhigh]; rfl) hlater
    · rw [lead_four hn] at hok
      obtain ⟨second, rest, rfl, hsecond, hleast, hgreatest, hok⟩ :=
        more_of_decodeFrom (by simp) (by dsimp only; split <;> simp) (by dsimp only; split <;> simp)
          hok
      obtain ⟨third, rest, rfl, hthird, -, -, hok⟩ :=
        more_of_decodeFrom (by simp) (by simp) (by simp) hok
      obtain ⟨fourth, rest, later, rfl, hfourth, rfl, hlater⟩ :=
        last_of_decodeFrom rfl (by simp) (by simp) hok
      have hlow : n = 0 → 0x10 ≤ second := by
        intro hzero
        simp [hzero] at hleast
        omega
      have hhigh : n = 4 → second < 0x10 := by
        intro htop
        simp [htop] at hgreatest
        omega
      exact hfirst (by rw [encodeChar_four hn hsecond hthird hfourth hlow hhigh]; rfl) hlater
    · rw [hinvalid] at hok
      cases hok

/-- Bytes decode to a text exactly when they are its encoding. -/
theorem decode_eq_ok_iff : decode bytes = .ok cs ↔ bytes = encode cs := by
  constructor
  · exact eq_encode_of_decodeFrom
  · rintro rfl
    exact decode_encode cs

end Sound

end Intake.Text.Utf8

namespace Intake.Text.Form

/-- A form-encoded text is decoded to the text whose bytes it stands for, if there is one. -/
theorem decode_eq_ok_iff {raw text : String} :
    decode raw = .ok text ↔ bytes text = decodedBytes raw := by
  calc
    decode raw = .ok text ↔
        ∃ cs, Utf8.decode (decodedBytes raw) = .ok cs ∧ String.ofList cs = text := map_eq_ok_iff
    _ ↔ ∃ cs, decodedBytes raw = Utf8.encode cs ∧ String.ofList cs = text := by
      simp only [Utf8.decode_eq_ok_iff]
    _ ↔ bytes text = decodedBytes raw := by
      constructor
      · rintro ⟨cs, hbytes, rfl⟩
        rw [bytes, String.toList_ofList, hbytes]
      · exact fun hbytes => ⟨text.toList, hbytes.symm, String.ofList_toList⟩

end Intake.Text.Form
