import Intake.Except
import Intake.Text.Utf8

/-!
# Encoded text decodes to itself

The bytes of a text are decoded to that text.  A line feed is one byte, and that byte occurs in the
encoding of no other character, so a file can be cut into lines before it is decoded.
-/

namespace Intake.Text.Utf8

theorem toNat_ofNat {n : Nat} (hn : n < 256) : (UInt8.ofNat n).toNat = n := by
  rw [UInt8.toNat_ofNat', Nat.mod_eq_of_lt hn]

section Continue

variable {index value : Nat} {p : Partial} {bits : Nat} {rest : List UInt8}

/-- A byte that continues a character is one of the values it may have. -/
theorem not_refused (hbits : bits < 0x40) (hleast : p.least.toNat ≤ bits + 0x80)
    (hgreatest : bits + 0x80 ≤ p.greatest.toNat) :
    ¬(UInt8.ofNat (bits + 0x80) < p.least ∨ p.greatest < UInt8.ofNat (bits + 0x80)) := by
  rw [UInt8.lt_iff_toNat_lt, UInt8.lt_iff_toNat_lt, toNat_ofNat (by omega)]
  omega

theorem decodeFrom_last (hleft : p.left = 1) (hbits : bits < 0x40)
    (hleast : p.least.toNat ≤ bits + 0x80) (hgreatest : bits + 0x80 ≤ p.greatest.toNat) :
    decodeFrom index (some p) (UInt8.ofNat (bits + 0x80) :: rest) =
      (decodeFrom (index + 1) none rest).map (Char.ofNat (p.value * 64 + bits) :: ·) := by
  have hvalue : bits + 0x80 - 0x80 = bits := by omega
  rw [decodeFrom, if_neg (not_refused hbits hleast hgreatest), toNat_ofNat (by omega), hvalue]
  simp only [hleft, if_true]

theorem decodeFrom_more (hleft : p.left ≠ 1) (hbits : bits < 0x40)
    (hleast : p.least.toNat ≤ bits + 0x80) (hgreatest : bits + 0x80 ≤ p.greatest.toNat) :
    decodeFrom index (some p) (UInt8.ofNat (bits + 0x80) :: rest) =
      decodeFrom (index + 1)
        (some ⟨p.start, p.seen + 1, p.left - 1, 0x80, 0xBF, p.value * 64 + bits⟩) rest := by
  have hvalue : bits + 0x80 - 0x80 = bits := by omega
  rw [decodeFrom, if_neg (not_refused hbits hleast hgreatest), toNat_ofNat (by omega), hvalue]
  simp only [if_neg hleft]

end Continue

section Lead

variable {index n : Nat}

theorem ofNat_lt_iff (hn : n < 256) (bound : UInt8) : UInt8.ofNat n < bound ↔ n < bound.toNat := by
  rw [UInt8.lt_iff_toNat_lt, toNat_ofNat hn]

theorem ofNat_eq_iff (hn : n < 256) (b : UInt8) : UInt8.ofNat n = b ↔ n = b.toNat := by
  rw [← UInt8.toNat_inj, toNat_ofNat hn]

theorem lead_one (hn : n < 0x80) : lead index (UInt8.ofNat n) = .char (Char.ofNat n) := by
  have hbyte : n < 256 := by omega
  simp only [lead, ofNat_lt_iff hbyte, toNat_ofNat hbyte, UInt8.reduceToNat]
  rw [if_pos (by omega)]

theorem lead_two (hlow : 2 ≤ n) (hhigh : n < 0x20) :
    lead index (UInt8.ofNat (n + 0xC0)) = .longer ⟨index, 1, 1, 0x80, 0xBF, n⟩ := by
  have hbyte : n + 0xC0 < 256 := by omega
  simp only [lead, ofNat_lt_iff hbyte, toNat_ofNat hbyte, UInt8.reduceToNat]
  rw [if_neg (by omega), if_neg (by omega), if_pos (by omega), Nat.add_sub_cancel]

theorem lead_three (hn : n < 0x10) :
    lead index (UInt8.ofNat (n + 0xE0)) =
      .longer ⟨index, 1, 2, if n = 0 then 0xA0 else 0x80, if n = 0xD then 0x9F else 0xBF, n⟩ := by
  have hbyte : n + 0xE0 < 256 := by omega
  have hfirst : n + 0xE0 = 0xE0 ↔ n = 0 := by omega
  have hlast : n + 0xE0 = 0xED ↔ n = 0xD := by omega
  simp only [lead, ofNat_lt_iff hbyte, ofNat_eq_iff hbyte, toNat_ofNat hbyte, UInt8.reduceToNat]
  rw [if_neg (by omega), if_neg (by omega), if_neg (by omega), if_pos (by omega),
    Nat.add_sub_cancel]
  simp only [hfirst, hlast]

theorem lead_four (hn : n < 5) :
    lead index (UInt8.ofNat (n + 0xF0)) =
      .longer ⟨index, 1, 3, if n = 0 then 0x90 else 0x80, if n = 4 then 0x8F else 0xBF, n⟩ := by
  have hbyte : n + 0xF0 < 256 := by omega
  have hfirst : n + 0xF0 = 0xF0 ↔ n = 0 := by omega
  have hlast : n + 0xF0 = 0xF4 ↔ n = 4 := by omega
  simp only [lead, ofNat_lt_iff hbyte, ofNat_eq_iff hbyte, toNat_ofNat hbyte, UInt8.reduceToNat]
  rw [if_neg (by omega), if_neg (by omega), if_neg (by omega), if_neg (by omega),
    if_pos (by omega), Nat.add_sub_cancel]
  simp only [hfirst, hlast]

end Lead

/-- The bytes of a character, by how many there are. -/
theorem encodeChar_eq (c : Char) :
    c.toNat < 0x80 ∧ String.utf8EncodeChar c = [UInt8.ofNat c.toNat] ∨
    (0x80 ≤ c.toNat ∧ c.toNat < 0x800) ∧ String.utf8EncodeChar c =
      [UInt8.ofNat (c.toNat / 64 + 0xC0), UInt8.ofNat (c.toNat % 64 + 0x80)] ∨
    (0x800 ≤ c.toNat ∧ c.toNat < 0x10000) ∧ String.utf8EncodeChar c =
      [UInt8.ofNat (c.toNat / 4096 + 0xE0), UInt8.ofNat (c.toNat / 64 % 64 + 0x80),
        UInt8.ofNat (c.toNat % 64 + 0x80)] ∨
    (0x10000 ≤ c.toNat ∧ c.toNat < 0x110000) ∧ String.utf8EncodeChar c =
      [UInt8.ofNat (c.toNat / 262144 + 0xF0), UInt8.ofNat (c.toNat / 4096 % 64 + 0x80),
        UInt8.ofNat (c.toNat / 64 % 64 + 0x80), UInt8.ofNat (c.toNat % 64 + 0x80)] := by
  have hvalid : c.toNat < 0xD800 ∨ 0xDFFF < c.toNat ∧ c.toNat < 0x110000 := c.valid
  unfold String.utf8EncodeChar
  rw [← Char.toNat]
  generalize c.toNat = v at hvalid
  simp only []
  split
  next hone => exact .inl ⟨by omega, rfl⟩
  next hone =>
  split
  next htwo =>
    have hlead : v / 64 % 32 = v / 64 := by omega
    exact .inr (.inl ⟨by omega, by rw [hlead]⟩)
  next htwo =>
  split
  next hthree =>
    have hlead : v / 4096 % 16 = v / 4096 := by omega
    exact .inr (.inr (.inl ⟨by omega, by rw [hlead]⟩))
  next hthree =>
    have hlead : v / 262144 % 8 = v / 262144 := by omega
    exact .inr (.inr (.inr ⟨by omega, by rw [hlead]⟩))

theorem encodeChar_ne_nil (c : Char) : String.utf8EncodeChar c ≠ [] := by
  rcases encodeChar_eq c with ⟨-, hbytes⟩ | ⟨-, hbytes⟩ | ⟨-, hbytes⟩ | ⟨-, hbytes⟩
  all_goals
    rw [hbytes]
    exact List.cons_ne_nil _ _

/-- The bytes of a character are read as that character and the rest as before. -/
theorem decodeFrom_encodeChar (c : Char) (index : Nat) (rest : List UInt8) :
    ∃ next, decodeFrom index none (String.utf8EncodeChar c ++ rest) =
      (decodeFrom next none rest).map (c :: ·) := by
  have hchar : Char.ofNat c.toNat = c := Char.ofNat_toNat c
  have hvalid : c.toNat < 0xD800 ∨ 0xDFFF < c.toNat ∧ c.toNat < 0x110000 := c.valid
  have hbytes := encodeChar_eq c
  generalize c.toNat = v at hchar hvalid hbytes
  rcases hbytes with ⟨hone, heq⟩ | ⟨htwo, heq⟩ | ⟨hthree, heq⟩ | ⟨hfour, heq⟩
  · refine ⟨index + 1, ?_⟩
    rw [heq, List.cons_append, List.nil_append, decodeFrom, lead_one hone, hchar]
  · have hvalue : v / 64 * 64 + v % 64 = v := by omega
    refine ⟨index + 2, ?_⟩
    rw [heq, List.cons_append, List.cons_append, List.nil_append, decodeFrom,
      lead_two (by omega) (by omega)]
    simp only []
    rw [decodeFrom_last rfl (by omega) (by simp) (by simp; omega), hvalue, hchar]
  · have hleast : (if v / 4096 = 0 then (0xA0 : UInt8) else 0x80).toNat ≤ v / 64 % 64 + 0x80 := by
      split <;> simp
      omega
    have hgreatest : v / 64 % 64 + 0x80 ≤
        (if v / 4096 = 0xD then (0x9F : UInt8) else 0xBF).toNat := by
      split <;> (simp; omega)
    have hvalue : (v / 4096 * 64 + v / 64 % 64) * 64 + v % 64 = v := by omega
    refine ⟨index + 3, ?_⟩
    rw [heq, List.cons_append, List.cons_append, List.cons_append, List.nil_append, decodeFrom,
      lead_three (by omega)]
    simp only []
    rw [decodeFrom_more (by simp) (by omega) hleast hgreatest,
      decodeFrom_last rfl (by omega) (by simp) (by simp; omega), hvalue, hchar]
  · have hleast : (if v / 262144 = 0 then (0x90 : UInt8) else 0x80).toNat ≤
        v / 4096 % 64 + 0x80 := by
      split <;> simp
      omega
    have hgreatest : v / 4096 % 64 + 0x80 ≤
        (if v / 262144 = 4 then (0x8F : UInt8) else 0xBF).toNat := by
      split <;> (simp; omega)
    have hvalue : ((v / 262144 * 64 + v / 4096 % 64) * 64 + v / 64 % 64) * 64 + v % 64 = v := by
      omega
    refine ⟨index + 4, ?_⟩
    rw [heq, List.cons_append, List.cons_append, List.cons_append, List.cons_append,
      List.nil_append, decodeFrom, lead_four (by omega)]
    simp only []
    rw [decodeFrom_more (by simp) (by omega) hleast hgreatest,
      decodeFrom_more (by simp) (by omega) (by simp) (by simp; omega),
      decodeFrom_last rfl (by omega) (by simp) (by simp; omega), hvalue, hchar]

theorem decodeFrom_encode (cs : List Char) (index : Nat) :
    decodeFrom index none (encode cs) = .ok cs := by
  induction cs generalizing index with
  | nil => rfl
  | cons c cs ih =>
    obtain ⟨next, hnext⟩ := decodeFrom_encodeChar c index (encode cs)
    rw [encode, List.flatMap_cons, ← encode, hnext, ih]
    rfl

@[simp]
theorem decode_encode (cs : List Char) : decode (encode cs) = .ok cs :=
  decodeFrom_encode cs 0

/-- A byte below 0x80 stands for itself and is no part of any other character. -/
theorem toNat_of_mem_encodeChar {c : Char} {b : UInt8} (hmem : b ∈ String.utf8EncodeChar c) :
    b.toNat = c.toNat ∨ 0x80 ≤ b.toNat := by
  have hlong : ∀ n, 0x80 ≤ n → n < 256 → b = UInt8.ofNat n → 0x80 ≤ b.toNat := by
    intro n hn hbyte hb
    rw [hb, toNat_ofNat hbyte]
    exact hn
  rcases encodeChar_eq c with ⟨hone, heq⟩ | ⟨htwo, heq⟩ | ⟨hthree, heq⟩ | ⟨hfour, heq⟩
  all_goals
    rw [heq] at hmem
    simp only [List.mem_cons, List.not_mem_nil, or_false] at hmem
  · left
    rw [hmem, toNat_ofNat (by omega)]
  all_goals right
  · rcases hmem with hb | hb <;> exact hlong _ (by omega) (by omega) hb
  · rcases hmem with hb | hb | hb <;> exact hlong _ (by omega) (by omega) hb
  · rcases hmem with hb | hb | hb | hb <;> exact hlong _ (by omega) (by omega) hb

/-- The line feed is a byte of its own. -/
theorem lineFeed_mem_encode {cs : List Char} : 0x0A ∈ encode cs ↔ '\n' ∈ cs := by
  rw [encode, List.mem_flatMap]
  constructor
  · rintro ⟨c, hc, hmem⟩
    have hfeed : c.toNat = 10 := by
      rcases toNat_of_mem_encodeChar hmem with hbyte | hbyte
      · exact hbyte.symm
      · exact absurd hbyte (by decide)
    have hchar : c = '\n' := by
      rw [← Char.ofNat_toNat c, hfeed]
    exact hchar ▸ hc
  · intro hc
    exact ⟨'\n', hc, by decide⟩

end Intake.Text.Utf8
