import Intake.Proofs.Json.FloatText

/-!
# Documents are read back from their compact texts

A document whose whole numbers fit in 64 bits, and whose brackets are not nested beyond the reader's
bound, is read back from its compact text member for member.  Only a floating-point number may come
back as another one, so a document without any comes back as it was.
-/

namespace Intake.Json

/-! ## The numbers of a document -/

mutual

/-- All numbers are whole and fit in 64 bits. -/
def IsWhole : Json → Prop
  | .num (.int n) => InRange n
  | .num (.float _) => False
  | .arr xs => AreWhole xs
  | .obj ms => MembersWhole ms
  | .null => True
  | .bool _ => True
  | .str _ => True

def AreWhole : List Json → Prop
  | [] => True
  | x :: xs => IsWhole x ∧ AreWhole xs

def MembersWhole : List (String × Json) → Prop
  | [] => True
  | (_, x) :: ms => IsWhole x ∧ MembersWhole ms

end

mutual

/-- All whole numbers fit in 64 bits.  The reader gives no others: beyond that range it reads
floating-point numbers. -/
def IntsFit : Json → Prop
  | .num (.int n) => InRange n
  | .num (.float _) => True
  | .arr xs => ItemsFit xs
  | .obj ms => MembersFit ms
  | .null => True
  | .bool _ => True
  | .str _ => True

def ItemsFit : List Json → Prop
  | [] => True
  | x :: xs => IntsFit x ∧ ItemsFit xs

def MembersFit : List (String × Json) → Prop
  | [] => True
  | (_, x) :: ms => IntsFit x ∧ MembersFit ms

end

mutual

/-- The document with other floating-point numbers in it. -/
def mapFloats (f : Binary64 → Binary64) : Json → Json
  | .num (.float x) => .num (.float (f x))
  | .num (.int n) => .num (.int n)
  | .arr xs => .arr (mapItems f xs)
  | .obj ms => .obj (mapMembers f ms)
  | .null => .null
  | .bool b => .bool b
  | .str s => .str s

def mapItems (f : Binary64 → Binary64) : List Json → List Json
  | [] => []
  | x :: xs => mapFloats f x :: mapItems f xs

def mapMembers (f : Binary64 → Binary64) : List (String × Json) → List (String × Json)
  | [] => []
  | (name, x) :: ms => (name, mapFloats f x) :: mapMembers f ms

end

section MapFloats

variable (f : Binary64 → Binary64)

theorem mapItems_eq (xs : List Json) : mapItems f xs = xs.map (mapFloats f) := by
  induction xs with
  | nil => rfl
  | cons x xs ih => rw [mapItems, ih, List.map_cons]

theorem mapMembers_eq (ms : List Member) :
    mapMembers f ms = ms.map fun m => (m.1, mapFloats f m.2) := by
  induction ms with
  | nil => rfl
  | cons m ms ih => rw [mapMembers, ih, List.map_cons]

mutual

/-- A document of whole numbers has no other ones. -/
theorem intsFit_of_isWhole : ∀ document : Json, document.IsWhole →
    document.IntsFit ∧ document.mapFloats f = document
  | .null, _ => ⟨trivial, rfl⟩
  | .bool _, _ => ⟨trivial, rfl⟩
  | .str _, _ => ⟨trivial, rfl⟩
  | .num (.int _), hwhole => ⟨hwhole, rfl⟩
  | .num (.float _), hwhole => hwhole.elim
  | .arr xs, hwhole => by
    obtain ⟨hfit, hmap⟩ := itemsFit_of_areWhole xs hwhole
    exact ⟨hfit, by rw [mapFloats, hmap]⟩
  | .obj ms, hwhole => by
    obtain ⟨hfit, hmap⟩ := membersFit_of_membersWhole ms hwhole
    exact ⟨hfit, by rw [mapFloats, hmap]⟩

theorem itemsFit_of_areWhole : ∀ xs : List Json, AreWhole xs →
    ItemsFit xs ∧ mapItems f xs = xs
  | [], _ => ⟨trivial, rfl⟩
  | x :: xs, hwhole => by
    obtain ⟨hfirst, hfirstMap⟩ := intsFit_of_isWhole x hwhole.1
    obtain ⟨hrest, hrestMap⟩ := itemsFit_of_areWhole xs hwhole.2
    exact ⟨⟨hfirst, hrest⟩, by rw [mapItems, hfirstMap, hrestMap]⟩

theorem membersFit_of_membersWhole : ∀ ms : List (String × Json), MembersWhole ms →
    MembersFit ms ∧ mapMembers f ms = ms
  | [], _ => ⟨trivial, rfl⟩
  | (name, x) :: ms, hwhole => by
    obtain ⟨hfirst, hfirstMap⟩ := intsFit_of_isWhole x hwhole.1
    obtain ⟨hrest, hrestMap⟩ := membersFit_of_membersWhole ms hwhole.2
    exact ⟨⟨hfirst, hrest⟩, by rw [mapMembers, hfirstMap, hrestMap]⟩

end

end MapFloats

/-! ## Documents -/

theorem head_numberChars (n : Number) :
    ∃ c cs, numberChars n = c :: cs ∧ (c = '-' ∨ isDigit c = true) := by
  cases n with
  | int n => exact head_intChars n
  | float x => exact head_toChars x

theorem head_renderChars (document : Json) :
    ∃ c cs, document.renderChars = c :: cs ∧ StartsValue c := by
  cases document with
  | null => exact ⟨_, _, rfl, by decide⟩
  | bool b => cases b <;> exact ⟨_, _, rfl, by decide⟩
  | num n =>
    obtain ⟨c, cs, hcs, hc⟩ := head_numberChars n
    exact ⟨c, cs, hcs, startsValue_of_number hc⟩
  | str text => exact ⟨_, _, rfl, by decide⟩
  | arr items => exact ⟨_, _, rfl, by decide⟩
  | obj members => exact ⟨_, _, rfl, by decide⟩

theorem startsItem_renderChars {bracket : Bracket} (hbracket : bracket.close = ']')
    (document : Json) : StartsItem bracket document.renderChars := by
  obtain ⟨c, cs, hcs, hspace, hlist, hobject⟩ := head_renderChars document
  exact ⟨c, cs, hcs, hspace, hbracket ▸ hlist⟩

theorem member_memberChars {m : Member} {nesting : Nat} {document : Json}
    (hvalue : ∀ rest, EndsNumber rest →
      value nesting (m.2.renderChars ++ rest) = .ok (document, rest))
    {rest : List Char} (hrest : EndsNumber rest) :
    member (value nesting) (memberChars m ++ rest) = .ok ((m.1, document), rest) := by
  have hname : memberName (memberChars m ++ rest) =
      .ok (m.1, ':' :: (m.2.renderChars ++ rest)) := by
    have htext : memberChars m ++ rest =
        '"' :: (m.1.toList.flatMap escapeChar ++ '"' :: ':' :: (m.2.renderChars ++ rest)) := by
      simp [memberChars, quoteChars]
    rw [htext]
    exact stringRest_quoted m.1 _
  have hcolon : colon (':' :: (m.2.renderChars ++ rest)) = .ok (m.2.renderChars ++ rest) := by
    simp only [colon, skipSpace_cons (c := ':') (by decide)]
  simp only [member, hname, hcolon, hvalue rest hrest, ok_bind, pure_eq_ok]

/-- The text of a number is read as a value. -/
theorem value_numberChars {n read : Number} {rest : List Char} (nesting : Nat)
    (hnumber : number (numberChars n ++ rest) = .ok (read, rest)) :
    value nesting (numberChars n ++ rest) = .ok (.num read, rest) := by
  obtain ⟨c, cs, hcs, hc⟩ := head_numberChars n
  have hstart := startsValue_of_number hc
  have hlist : c ≠ '[' := ne_of_number hc (by decide) (by decide)
  have hobject : c ≠ '{' := ne_of_number hc (by decide) (by decide)
  rw [hcs, List.cons_append] at hnumber
  rw [hcs, List.cons_append, value_eq_scalar nesting hstart.1 hlist hobject, scalar_of_number hc,
    hnumber]
  rfl

mutual

/-- A document is read back from its text, whatever follows the text, except that its floating-point
numbers may come back as others. -/
theorem value_renderChars : ∀ (document : Json) (nesting : Nat) (rest : List Char),
    document.IntsFit → document.depth ≤ nesting → EndsNumber rest →
      value nesting (document.renderChars ++ rest) = .ok (document.mapFloats reread, rest)
  | .null, nesting, rest, _, _, _ => by
    rw [renderChars, List.cons_append, value_eq_scalar nesting (by decide) (by decide) (by decide)]
    rfl
  | .bool true, nesting, rest, _, _, _ => by
    rw [renderChars, List.cons_append, value_eq_scalar nesting (by decide) (by decide) (by decide)]
    rfl
  | .bool false, nesting, rest, _, _, _ => by
    rw [renderChars, List.cons_append, value_eq_scalar nesting (by decide) (by decide) (by decide)]
    rfl
  | .num (.float x), nesting, rest, _, _, hrest => by
    have hnumber : number (numberChars (.float x) ++ rest) = .ok (.float (reread x), rest) :=
      number_toChars x hrest
    exact value_numberChars nesting hnumber
  | .num (.int n), nesting, rest, hfit, _, hrest => by
    have hnumber : number (numberChars (.int n) ++ rest) = .ok (.int n, rest) :=
      number_intChars hfit hrest
    exact value_numberChars nesting hnumber
  | .str text, nesting, rest, _, _, _ => by
    have htext : renderChars (.str text) ++ rest =
        '"' :: (text.toList.flatMap escapeChar ++ '"' :: rest) := by
      simp [renderChars, quoteChars]
    rw [htext, value_eq_scalar nesting (by decide) (by decide) (by decide)]
    simp only [scalar, stringRest_quoted, ok_bind, pure_eq_ok, mapFloats]
  -- The reader's nesting stands in for the depth: each bracket takes one of it.
  | .arr xs, 0, _, _, hdepth, _ => by
    rw [depth] at hdepth
    omega
  | .obj ms, 0, _, _, hdepth, _ => by
    rw [depth] at hdepth
    omega
  | .arr xs, nesting + 1, rest, hfit, hdepth, _ => by
    rw [depth] at hdepth
    have hread := sequence_commaItems renderChars listBracket_closes rest xs
      (fun x _ => startsItem_renderChars rfl x) (value_renderItems xs nesting hfit (by omega))
    have htext : renderChars (.arr xs) ++ rest =
        '[' :: ((commaItems renderChars xs).drop 1 ++ listBracket.close :: rest) := by
      simp [renderChars, renderItems_eq, listBracket]
    rw [htext, value, skipSpace_cons (by decide)]
    simp only [hread, ok_bind, pure_eq_ok, mapFloats, mapItems_eq]
  | .obj ms, nesting + 1, rest, hfit, hdepth, _ => by
    rw [depth] at hdepth
    have hmembers := value_renderMembers ms nesting hfit (by omega)
    have hread := sequence_commaItems memberChars objectBracket_closes rest ms
      (fun m _ => ⟨'"', _, rfl, by decide, by decide⟩)
      (fun m hm rest hrest => member_memberChars (hmembers m hm) hrest)
    have htext : renderChars (.obj ms) ++ rest =
        '{' :: ((commaItems memberChars ms).drop 1 ++ objectBracket.close :: rest) := by
      simp [renderChars, renderMembers_eq, objectBracket]
    rw [htext, value, skipSpace_cons (by decide)]
    simp only [hread, ok_bind, pure_eq_ok, mapFloats, mapMembers_eq]

theorem value_renderItems : ∀ (xs : List Json) (nesting : Nat),
    ItemsFit xs → depthItems xs ≤ nesting →
      ∀ x ∈ xs, ∀ rest, EndsNumber rest →
        value nesting (x.renderChars ++ rest) = .ok (x.mapFloats reread, rest)
  | [], _, _, _, _, hx => absurd hx (List.not_mem_nil)
  | x :: xs, nesting, hfit, hdepth, y, hy => by
    rw [depthItems] at hdepth
    rcases List.mem_cons.1 hy with heq | hy
    · rw [heq]
      exact fun rest => value_renderChars x nesting rest hfit.1 (by omega)
    · exact value_renderItems xs nesting hfit.2 (by omega) y hy

theorem value_renderMembers : ∀ (ms : List (String × Json)) (nesting : Nat),
    MembersFit ms → depthMembers ms ≤ nesting →
      ∀ m ∈ ms, ∀ rest, EndsNumber rest →
        value nesting (m.2.renderChars ++ rest) = .ok (m.2.mapFloats reread, rest)
  | [], _, _, _, _, hm => absurd hm (List.not_mem_nil)
  | (name, x) :: ms, nesting, hfit, hdepth, m, hm => by
    rw [depthMembers] at hdepth
    rcases List.mem_cons.1 hm with heq | hm
    · rw [heq]
      exact fun rest => value_renderChars x nesting rest hfit.1 (by omega)
    · exact value_renderMembers ms nesting hfit.2 (by omega) m hm

end

/-- The compact text of a document holds that document, up to its floating-point numbers. -/
theorem read_render_mapFloats {document : Json} (hfit : document.IntsFit)
    (hdepth : document.depth ≤ maxDepth) :
    read document.render = .ok (document.mapFloats reread) := by
  have hvalue := value_renderChars document maxDepth [] hfit hdepth endsNumber_nil
  rw [List.append_nil] at hvalue
  rw [read, render, String.toList_ofList, Json.document, hvalue]
  rfl

/-- The compact text of a document of whole numbers holds that document. -/
theorem read_render {document : Json} (hwhole : document.IsWhole)
    (hdepth : document.depth ≤ maxDepth) : read document.render = .ok document := by
  obtain ⟨hfit, hmap⟩ := intsFit_of_isWhole reread document hwhole
  rw [read_render_mapFloats hfit hdepth, hmap]

/-- The value in the compact text of a document is the document's value. -/
theorem parse_render {document : Json} (hwhole : document.IsWhole)
    (hdepth : document.depth ≤ maxDepth) : parse document.render = .ok document.canonical := by
  rw [parse, read_render hwhole hdepth]
  rfl

end Intake.Json
