import Intake.Proofs.Text.Utf8

/-!
# Texts are ordered as their bytes

Texts are compared character by character.  UTF-8 gives a smaller character the smaller bytes, and
no encoding of a character goes on where that of another ends, so comparing the bytes of two texts
comes to the same.
-/

namespace Intake.Text

namespace Utf8

/-- Whatever follows, the bytes of a smaller character are smaller. -/
theorem encodeChar_lt {c d : Char} (hlt : c < d) (xs ys : List UInt8) :
    String.utf8EncodeChar c ++ xs < String.utf8EncodeChar d ++ ys := by
  have hnat : c.toNat < d.toNat := UInt32.lt_iff_toNat_lt.1 hlt
  rcases encodeChar_eq c with ⟨hc, hbytesC⟩ | ⟨hc, hbytesC⟩ | ⟨hc, hbytesC⟩ | ⟨hc, hbytesC⟩
  all_goals
    rcases encodeChar_eq d with ⟨hd, hbytesD⟩ | ⟨hd, hbytesD⟩ | ⟨hd, hbytesD⟩ | ⟨hd, hbytesD⟩
  all_goals
    rw [hbytesC, hbytesD]
    simp (disch := omega) only [List.cons_append, List.nil_append, List.cons_lt_cons_iff,
      UInt8.lt_iff_toNat_lt, ← UInt8.toNat_inj, toNat_ofNat]
    omega

theorem encode_lt {cs ds : List Char} (hlt : cs < ds) : encode cs < encode ds := by
  induction cs generalizing ds with
  | nil =>
    cases ds with
    | nil => cases hlt
    | cons d ds =>
      obtain ⟨b, bs, hbytes⟩ := List.exists_cons_of_ne_nil (encodeChar_ne_nil d)
      rw [encode, encode, List.flatMap_nil, List.flatMap_cons, hbytes]
      exact List.nil_lt_cons _ _
  | cons c cs ih =>
    cases ds with
    | nil => cases hlt
    | cons d ds =>
      rw [encode, encode, List.flatMap_cons, List.flatMap_cons, ← encode, ← encode]
      rcases List.cons_lt_cons_iff.1 hlt with hfirst | ⟨rfl, hrest⟩
      · exact encodeChar_lt hfirst _ _
      · exact List.append_left_lt (ih hrest)

end Utf8

theorem bytes_lt_bytes {a b : String} (hlt : a < b) : bytes a < bytes b :=
  Utf8.encode_lt (String.lt_iff.1 hlt)

/-- Comparing texts is comparing their bytes. -/
theorem compare_eq_lt_iff {a b : String} : compare a b = .lt ↔ bytes a < bytes b := by
  constructor
  · intro hlt
    exact bytes_lt_bytes (compareOfLessAndEq_eq_lt.1 hlt)
  · intro hbytes
    cases hcompare : compare a b with
    | lt => rfl
    | eq =>
      rw [Std.LawfulEqCmp.eq_of_compare hcompare] at hbytes
      exact absurd hbytes (List.lt_irrefl _)
    | gt =>
      have hlt : compare b a = .lt := Std.OrientedCmp.lt_of_gt hcompare
      exact absurd (bytes_lt_bytes (compareOfLessAndEq_eq_lt.1 hlt)) (List.lt_asymm hbytes)

end Intake.Text
