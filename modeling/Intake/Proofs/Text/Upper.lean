import Intake.Text.Blank
import Intake.Text.Upper
import Mathlib.Data.List.Infix

/-!
# What becomes ASCII capitals

Besides the small ASCII letters, only the dotless i and the long s become a single ASCII capital;
some ligatures and the sharp s become several.  So the upper-case form of a text tells the text up
to the case of ASCII letters and these two, wherever no part of the form can come from a ligature.
-/

namespace Intake.Text

/-- The ASCII letter with the same capital, for the two letters outside ASCII that have one. -/
def plainLetter (c : Char) : Char :=
  if c = '\u0131' then 'i' else if c = '\u017F' then 's' else c

/-- The text with every dotless i and every long s replaced by the ASCII letter. -/
def plain (text : String) : String := String.ofList (text.toList.map plainLetter)

theorem plain_eq_self {text : String} (hdotless : '\u0131' ∉ text.toList)
    (hlong : '\u017F' ∉ text.toList) : plain text = text := by
  have hletters : text.toList.map plainLetter = text.toList.map id := by
    apply List.map_congr_left
    intro c hc
    rw [plainLetter, if_neg (ne_of_mem_of_not_mem hc hdotless),
      if_neg (ne_of_mem_of_not_mem hc hlong), id]
  rw [plain, hletters, List.map_id, String.ofList_toList]

namespace Upper

theorem ofChar_plainLetter (c : Char) : ofChar (plainLetter c) = ofChar c := by
  unfold plainLetter
  split_ifs with hdotless hlong
  · rw [hdotless]
    decide +kernel
  · rw [hlong]
    decide +kernel
  · rfl

/-- The characters that become a capital from A to Z. -/
theorem single_capital {n : Nat} (hleast : 65 ≤ single n) (hgreatest : single n ≤ 90) :
    n = single n ∨ n = single n + 32 ∨ n = 305 ∧ single n = 73 ∨ n = 383 ∧ single n = 83 := by
  have hranges : ∀ range ∈ ranges, 90 < range.first + range.shift ∨
      range.first = 97 ∧ range.shift = -32 ∨
      range.first = 305 ∧ range.last = 305 ∧ range.shift = -232 ∨
      range.first = 383 ∧ range.last = 383 ∧ range.shift = -300 := by
    decide +kernel
  unfold single at hleast hgreatest ⊢
  cases hfind : ranges.find? fun range => range.holds n with
  | none => exact .inl rfl
  | some range =>
    have hholds : range.holds n = true :=
      List.find?_some (p := fun range : Range => range.holds n) hfind
    simp only [Range.holds, Bool.and_eq_true, decide_eq_true_eq] at hholds
    have hrange := hranges range (List.mem_of_find?_eq_some hfind)
    simp only [hfind] at hleast hgreatest ⊢
    omega

theorem toLower_plainLetter {n : Nat} (hleast : 65 ≤ single n) (hgreatest : single n ≤ 90) :
    (plainLetter (Char.ofNat n)).toLower = (Char.ofNat (single n)).toLower := by
  have hletters : ∀ k < 26,
      (plainLetter (Char.ofNat (k + 65))).toLower = (Char.ofNat (k + 65)).toLower ∧
        (plainLetter (Char.ofNat (k + 97))).toLower = (Char.ofNat (k + 65)).toLower := by
    decide +kernel
  obtain ⟨k, hk, hsingle⟩ : ∃ k < 26, single n = k + 65 :=
    ⟨single n - 65, by omega, by omega⟩
  rcases single_capital hleast hgreatest with hself | hsmall | ⟨hdotless, hcapital⟩ |
    ⟨hlong, hcapital⟩
  · rw [hsingle, hself, hsingle]
    exact (hletters k hk).1
  · rw [hsingle, hsmall, hsingle]
    exact (hletters k hk).2
  · rw [hcapital, hdotless]
    decide +kernel
  · rw [hcapital, hlong]
    decide +kernel

theorem bounds_of_isUpper {n : Nat} (hupper : (Char.ofNat n).isUpper = true) :
    65 ≤ n ∧ n ≤ 90 := by
  by_cases hvalid : n.isValidChar
  · have hnumber : (Char.ofNat n).toNat = n := by
      rw [Char.ofNat, dif_pos hvalid]
      rfl
    obtain ⟨hleast, hgreatest⟩ := of_decide_eq_true hupper
    rw [← hnumber]
    exact ⟨UInt32.le_iff_toNat_le.1 hleast, UInt32.le_iff_toNat_le.1 hgreatest⟩
  · rw [Char.ofNat, dif_neg hvalid] at hupper
    exact absurd hupper (by decide)

/-- What a single character becomes that becomes several capitals from A to Z. -/
def merged : List (List Char) :=
  (sequences.filter fun s => s.2.all fun n => 65 ≤ n && n ≤ 90).map fun s => s.2.map Char.ofNat

theorem mem_merged {n : Nat} {ns : List Nat} (hmem : (n, ns) ∈ sequences)
    (hbounds : ∀ n ∈ ns, 65 ≤ n ∧ n ≤ 90) : ns.map Char.ofNat ∈ merged := by
  refine List.mem_map.2 ⟨(n, ns), List.mem_filter.2 ⟨hmem, ?_⟩, rfl⟩
  simpa only [List.all_eq_true, Bool.and_eq_true, decide_eq_true_eq] using hbounds

/-- Capitals from A to Z, no part of which can come from a single character. -/
def Letterwise (word : List Char) : Prop :=
  word.all Char.isUpper = true ∧ ∀ part ∈ merged, ¬part <:+: word

instance : DecidablePred Letterwise := fun _ => inferInstanceAs (Decidable (_ ∧ _))

/-- A text with such an upper-case form has the letters of the form, in any case. -/
theorem map_toLower_of_upper {cs word : List Char} (hword : Letterwise word)
    (hupper : cs.flatMap ofChar = word) :
    (cs.map plainLetter).map Char.toLower = word.map Char.toLower := by
  induction cs generalizing word with
  | nil => rw [← hupper]; rfl
  | cons c cs ih =>
    obtain ⟨hcapitals, hunmerged⟩ := hword
    rw [List.all_eq_true] at hcapitals
    rw [List.flatMap_cons] at hupper
    have hrest : Letterwise (cs.flatMap ofChar) := by
      have hsuffix : cs.flatMap ofChar <:+: word := ⟨ofChar c, [], by rw [List.append_nil, hupper]⟩
      exact ⟨List.all_eq_true.2 fun d hd => hcapitals d (hsuffix.subset hd),
        fun part hmerged hpart => hunmerged part hmerged (hpart.trans hsuffix)⟩
    -- A character that becomes several would leave them as neighbours in the word.
    have hsingle : ofChar c = [Char.ofNat (single c.toNat)] := by
      unfold ofChar
      split
      next ns hlookup =>
        obtain ⟨before, after, hsequences, -⟩ := List.lookup_eq_some_iff.1 hlookup
        have hmem : (c.toNat, ns) ∈ sequences := by
          rw [hsequences]
          exact List.mem_append_right _ List.mem_cons_self
        have hpart : ns.map Char.ofNat <:+: word :=
          ⟨[], cs.flatMap ofChar, by simpa [ofChar, hlookup] using hupper⟩
        have hbounds : ∀ n ∈ ns, 65 ≤ n ∧ n ≤ 90 := fun n hn =>
          bounds_of_isUpper (hcapitals _ (hpart.subset (List.mem_map_of_mem hn)))
        exact absurd hpart (hunmerged _ (mem_merged hmem hbounds))
      next => rfl
    rw [hsingle] at hupper
    obtain ⟨hleast, hgreatest⟩ := bounds_of_isUpper
      (hcapitals (Char.ofNat (single c.toNat)) (hupper ▸ List.mem_cons_self))
    have hlower := toLower_plainLetter hleast hgreatest
    rw [Char.ofNat_toNat] at hlower
    rw [← hupper, List.map_cons, List.map_cons, List.singleton_append, List.map_cons, hlower,
      ih hrest rfl]

end Upper

theorem upper_plain (text : String) : upper (plain text) = upper text := by
  rw [upper, upper, plain, String.toList_ofList, List.flatMap_map]
  exact congrArg String.ofList (List.flatMap_congr fun c _ => Upper.ofChar_plainLetter c)

theorem isBlank_plainLetter (c : Char) : isBlank (plainLetter c) = isBlank c := by
  unfold plainLetter
  split_ifs with hdotless hlong
  · rw [hdotless]
    decide
  · rw [hlong]
    decide
  · rfl

theorem trim_plain (text : String) : trim (plain text) = plain (trim text) := by
  have hdrop : ∀ cs : List Char,
      dropBlanks (cs.map plainLetter) = (dropBlanks cs).map plainLetter := by
    intro cs
    have hblank : isBlank ∘ plainLetter = isBlank := funext isBlank_plainLetter
    rw [dropBlanks, List.dropWhile_map, hblank, dropBlanks]
  rw [trim, plain, plain, toList_trim, String.toList_ofList, trimChars, hdrop, ← List.map_reverse,
    hdrop, ← List.map_reverse, trimChars]

end Intake.Text
