/-!
# Blank characters and trimming

A character is blank when it has the Unicode property White_Space.  Trimming removes the blanks at
both ends of a text and nothing else.  The lemmas say that trimming twice is trimming once and
that a trimmed text starts and ends with a character that is not blank.
-/

namespace Intake.Text

/-- The White_Space property. -/
def isBlank (c : Char) : Bool :=
  let n := c.toNat
  (9 ≤ n && n ≤ 13) || n == 0x20 || n == 0x85 || n == 0xA0 || n == 0x1680 ||
    (0x2000 ≤ n && n ≤ 0x200A) || n == 0x2028 || n == 0x2029 || n == 0x202F || n == 0x205F ||
    n == 0x3000

/-- The characters after the leading blanks. -/
def dropBlanks (cs : List Char) : List Char :=
  cs.dropWhile isBlank

/-- The characters between the leading and the trailing blanks. -/
def trimChars (cs : List Char) : List Char :=
  (dropBlanks (dropBlanks cs).reverse).reverse

def trim (text : String) : String :=
  String.ofList (trimChars text.toList)

/-- A text with no character other than blanks. -/
def isBlankText (text : String) : Bool :=
  text.toList.all isBlank

@[simp]
theorem toList_trim (text : String) : (trim text).toList = trimChars text.toList :=
  String.toList_ofList

theorem dropBlanks_eq_self {cs : List Char} (hhead : ∀ c ∈ cs.head?, isBlank c = false) :
    dropBlanks cs = cs := by
  cases cs with
  | nil => rfl
  | cons c rest => simp [dropBlanks, hhead c (by simp)]

/-- A text whose ends are not blank is its own trimmed form. -/
theorem trimChars_eq_self {cs : List Char} (hhead : ∀ c ∈ cs.head?, isBlank c = false)
    (hlast : ∀ c ∈ cs.getLast?, isBlank c = false) : trimChars cs = cs := by
  rw [trimChars, dropBlanks_eq_self hhead, dropBlanks_eq_self, List.reverse_reverse]
  simpa [List.head?_reverse] using hlast

theorem head_dropBlanks (cs : List Char) : ∀ c ∈ (dropBlanks cs).head?, isBlank c = false := by
  induction cs with
  | nil => simp [dropBlanks]
  | cons c rest ih =>
    by_cases hblank : isBlank c = true
    · simpa [dropBlanks, hblank] using ih
    · simp [dropBlanks, hblank]

theorem getLast_trimChars {cs : List Char} :
    ∀ c ∈ (trimChars cs).getLast?, isBlank c = false := by
  simpa [trimChars, List.getLast?_reverse] using head_dropBlanks (dropBlanks cs).reverse

theorem dropBlanks_suffix (cs : List Char) : dropBlanks cs <:+ cs :=
  List.dropWhile_suffix _

theorem head_trimChars {cs : List Char} : ∀ c ∈ (trimChars cs).head?, isBlank c = false := by
  intro c hc
  apply head_dropBlanks cs
  obtain ⟨blanks, hsplit⟩ := dropBlanks_suffix (dropBlanks cs).reverse
  have hsplit : trimChars cs ++ blanks.reverse = dropBlanks cs := by
    rw [trimChars, ← List.reverse_append, hsplit, List.reverse_reverse]
  rw [← hsplit]
  cases htrim : trimChars cs with
  | nil => simp [htrim] at hc
  | cons first rest => simpa [htrim] using hc

@[simp]
theorem trimChars_trimChars (cs : List Char) : trimChars (trimChars cs) = trimChars cs :=
  trimChars_eq_self head_trimChars getLast_trimChars

@[simp]
theorem trim_trim (text : String) : trim (trim text) = trim text := by
  simp [trim]

end Intake.Text
