import Intake.Import.Dispatch
import Intake.Proofs.Entry.Text
import Intake.Proofs.Text.Utf8
import Mathlib.Data.List.Forall2

/-!
# Files of documents

The compact text of a document is one line: line feeds inside strings are escaped, and a text starts
and ends with no blank, so trimming does not touch it.  A file of such lines is read as the values of
its documents, numbered from one.  In a file of entries every one of them is mapped to the record of
its entry.
-/

namespace Intake

namespace Json

theorem lineFeed_not_mem_escapeChar (c : Char) : '\n' ∉ escapeChar c := by
  have hdigit : ∀ d, d < 16 → Nat.digitChar d ≠ '\n' := by decide
  unfold escapeChar
  split
  next => decide
  next => decide
  next => decide
  next => decide
  next => decide
  next => decide
  next => decide
  next hfeed _ _ =>
    split
    next hlow =>
      have hhigh := hdigit (c.toNat / 16) (by omega)
      have hrest := hdigit (c.toNat % 16) (by omega)
      simp [hhigh.symm, hrest.symm]
    next =>
      rw [List.mem_singleton]
      exact fun h => hfeed h.symm

theorem lineFeed_not_mem_quoteChars (cs : List Char) : '\n' ∉ quoteChars cs := by
  simp only [quoteChars, List.mem_cons, List.mem_append, List.mem_flatMap, not_or]
  refine ⟨by decide, ?_, by decide, List.not_mem_nil⟩
  rintro ⟨c, -, hc⟩
  exact lineFeed_not_mem_escapeChar c hc

theorem lineFeed_not_mem_intChars (n : Int) : '\n' ∉ intChars n := by
  have hdigits : ∀ m : Nat, '\n' ∉ Nat.toDigits 10 m := fun m hm =>
    absurd (isDigit_of_mem_toDigits hm) (by decide)
  unfold intChars
  split
  · rw [List.mem_cons, not_or]
    exact ⟨by decide, hdigits _⟩
  · exact hdigits _

mutual

/-- A compact text is one line. -/
theorem lineFeed_not_mem_renderChars : ∀ document : Json, document.IsWhole →
    '\n' ∉ document.renderChars
  | .null, _ => by decide
  | .bool true, _ => by decide
  | .bool false, _ => by decide
  | .num (.int n), _ => lineFeed_not_mem_intChars n
  | .num (.float _), hwhole => False.elim hwhole
  | .str s, _ => lineFeed_not_mem_quoteChars s.toList
  | .arr xs, hwhole => by
    have hitems := lineFeed_not_mem_renderItems xs hwhole
    simp only [renderChars, List.mem_cons, List.mem_append, not_or]
    exact ⟨by decide, fun h => hitems (List.mem_of_mem_drop h), by decide, List.not_mem_nil⟩
  | .obj ms, hwhole => by
    have hmembers := lineFeed_not_mem_renderMembers ms hwhole
    simp only [renderChars, List.mem_cons, List.mem_append, not_or]
    exact ⟨by decide, fun h => hmembers (List.mem_of_mem_drop h), by decide, List.not_mem_nil⟩

theorem lineFeed_not_mem_renderItems : ∀ xs : List Json, AreWhole xs → '\n' ∉ renderItems xs
  | [], _ => List.not_mem_nil
  | x :: xs, hwhole => by
    simp only [renderItems, List.mem_cons, List.mem_append, not_or]
    exact ⟨by decide, lineFeed_not_mem_renderChars x hwhole.1,
      lineFeed_not_mem_renderItems xs hwhole.2⟩

theorem lineFeed_not_mem_renderMembers : ∀ ms : List (String × Json), MembersWhole ms →
    '\n' ∉ renderMembers ms
  | [], _ => List.not_mem_nil
  | (name, x) :: ms, hwhole => by
    simp only [renderMembers, List.mem_cons, List.mem_append, not_or]
    exact ⟨by decide, lineFeed_not_mem_quoteChars name.toList, by decide,
      lineFeed_not_mem_renderChars x hwhole.1, lineFeed_not_mem_renderMembers ms hwhole.2⟩

end

/-! ## Trimming a compact text -/

theorem not_blank_of_mem_intChars {n : Int} {c : Char} (hc : c ∈ intChars n) :
    Text.isBlank c = false := by
  have hdigits : ∀ m, c ∈ Nat.toDigits 10 m → Text.isBlank c = false := fun m hm =>
    Timestamp.isBlank_of_isDigit (isDigit_of_mem_toDigits hm)
  rw [intChars] at hc
  split at hc
  · rcases List.mem_cons.1 hc with rfl | hc
    · decide
    · exact hdigits _ hc
  · exact hdigits _ hc

theorem trimChars_enclosed {first last : Char} (middle : List Char)
    (hfirst : Text.isBlank first = false) (hlast : Text.isBlank last = false) :
    Text.trimChars (first :: (middle ++ [last])) = first :: (middle ++ [last]) := by
  apply Text.trimChars_eq_self
  · intro c hc
    cases hc
    exact hfirst
  · intro c hc
    rw [← List.cons_append, List.getLast?_concat] at hc
    cases hc
    exact hlast

theorem trimChars_renderChars {document : Json} (hwhole : document.IsWhole) :
    Text.trimChars document.renderChars = document.renderChars := by
  cases document with
  | null => rfl
  | bool b => cases b <;> rfl
  | num n =>
    cases n with
    | int n =>
      exact Text.trimChars_eq_self
        (fun c hc => not_blank_of_mem_intChars (List.mem_of_mem_head? hc))
        (fun c hc => not_blank_of_mem_intChars (List.mem_of_getLast? hc))
    | float x => exact False.elim hwhole
  | str text => exact trimChars_enclosed _ (by decide) (by decide)
  | arr items => exact trimChars_enclosed _ (by decide) (by decide)
  | obj members => exact trimChars_enclosed _ (by decide) (by decide)

theorem trim_render {document : Json} (hwhole : document.IsWhole) :
    Text.trim document.render = document.render := by
  rw [Text.trim, render, String.toList_ofList, trimChars_renderChars hwhole]

theorem render_ne_empty (document : Json) : document.render ≠ "" := by
  obtain ⟨c, cs, hcs, -⟩ := head_renderChars document
  intro hempty
  have hchars := congrArg String.toList hempty
  rw [render, String.toList_ofList, hcs] at hchars
  cases hchars

end Json

namespace Lines

/-- A file with these lines. -/
def join (lines : List String) : List UInt8 := List.intercalate [0x0A] (lines.map Text.bytes)

theorem split_eq_splitOn (bytes : List UInt8) : split bytes = bytes.splitOn 0x0A := by
  induction bytes with
  | nil => rfl
  | cons b bytes ih =>
    rw [split, List.splitOn_cons_eq_if_modifyHead, ih]
    by_cases hfeed : b = 0x0A
    · rw [if_pos hfeed, if_pos (beq_iff_eq.2 hfeed)]
    · rw [if_neg hfeed, if_neg fun h => hfeed (beq_iff_eq.1 h)]
      cases hsplit : bytes.splitOn 0x0A with
      | nil => exact absurd hsplit (List.splitOn_ne_nil _ _)
      | cons line lines => rfl

/-- Lines without a line feed are split as they were joined. -/
theorem split_join {lines : List String} (hne : lines ≠ [])
    (hlines : ∀ line ∈ lines, '\n' ∉ line.toList) : split (join lines) = lines.map Text.bytes := by
  rw [split_eq_splitOn, join]
  apply List.splitOn_intercalate
  · intro bytes hbytes
    obtain ⟨line, hline, rfl⟩ := List.mem_map.1 hbytes
    rw [Text.bytes, Text.Utf8.lineFeed_mem_encode]
    exact hlines line hline
  · simpa using hne

/-- How a line is read that is the bytes of a text. -/
theorem readLine_bytes (number : Nat) (text : String) :
    readLine number (Text.bytes text) =
      if Text.trim text = "" then .blank
      else
        match Json.parse (Text.trim text) with
        | .ok value => .value value
        | .error error => .refused (.invalidJson number error) := by
  rw [readLine, Text.bytes, Text.Utf8.decode_encode, Text.trim]
  cases htrim : Text.trimChars text.toList with
  | nil => simp [htrim]
  | cons c cs =>
    have hne : String.ofList (c :: cs) ≠ "" := by
      intro hempty
      have hchars := congrArg String.toList hempty
      rw [String.toList_ofList] at hchars
      cases hchars
    cases hparse : Json.parse (String.ofList (c :: cs)) with
    | ok value => simp only [htrim, if_neg hne, hparse]
    | error error => simp only [htrim, if_neg hne, hparse]

/-- The line of a document's compact text holds its value. -/
theorem readLine_render {document : Json} (hfits : Json.Fits Json.maxDepth document)
    (number : Nat) :
    readLine number (Text.bytes document.render) = .value document.canonical := by
  rw [readLine_bytes, Json.trim_render hfits.1, if_neg (Json.render_ne_empty document),
    Json.parse_render hfits.1 hfits.2]

theorem readLine_nil (number : Nat) : readLine number [] = .blank := rfl

section Values

variable {texts : List String} {values : List Json}

/-- Lines that hold one value each are read as those values, whatever their numbers. -/
theorem readFrom_values
    (htexts : List.Forall₂
      (fun text value => ∀ number, readLine number (Text.bytes text) = .value value) texts values)
    (number : Nat) (rest : List (List UInt8)) :
    Lines.values (readFrom number (texts.map Text.bytes ++ rest)) =
        (List.range' number values.length).zip values ++
          Lines.values (readFrom (number + texts.length) rest) ∧
      failures (readFrom number (texts.map Text.bytes ++ rest)) =
        failures (readFrom (number + texts.length) rest) := by
  induction htexts generalizing number with
  | nil => exact ⟨rfl, rfl⟩
  | @cons text value texts values htext _ ih =>
    obtain ⟨hread, hfailures⟩ := ih (number + 1)
    have hnumber : number + (text :: texts).length = number + 1 + texts.length := by
      rw [List.length_cons]
      omega
    constructor
    · rw [hnumber, List.length_cons, List.range'_succ, List.zip_cons_cons, List.cons_append,
        ← hread]
      simp only [List.map_cons, List.cons_append, readFrom, htext, Lines.values,
        List.filterMap_cons]
    · rw [hnumber, ← hfailures]
      simp only [List.map_cons, List.cons_append, readFrom, htext, failures, List.filterMap_cons]

/-- A file of such lines is parsed without a failure, with or without a line feed at its end. -/
theorem parse_join
    (htexts : List.Forall₂
      (fun text value => ∀ number, readLine number (Text.bytes text) = .value value) texts values)
    (hlines : ∀ text ∈ texts, '\n' ∉ text.toList) {body : List UInt8}
    (hbody : body = join texts ∨ body = join (texts ++ [""])) :
    parse body = ((List.range' 1 values.length).zip values, []) := by
  obtain ⟨blanks, hblanks, hsplit⟩ : ∃ blanks : List (List UInt8), (blanks = [] ∨ blanks = [[]]) ∧
      split body = texts.map Text.bytes ++ blanks := by
    rcases hbody with rfl | rfl
    · by_cases hempty : texts = []
      · subst hempty
        exact ⟨[[]], .inr rfl, rfl⟩
      · exact ⟨[], .inl rfl, by rw [split_join hempty hlines, List.append_nil]⟩
    · refine ⟨[[]], .inr rfl, ?_⟩
      rw [split_join (List.append_ne_nil_of_right_ne_nil _ (List.cons_ne_nil _ _)), List.map_append]
      · rfl
      · intro line hline
        rcases List.mem_append.1 hline with htext | hblank
        · exact hlines line htext
        · rw [List.mem_singleton.1 hblank]
          exact List.not_mem_nil
  obtain ⟨hread, hfailures⟩ := readFrom_values htexts 1 blanks
  rw [parse, read, hsplit, hread, hfailures]
  rcases hblanks with rfl | rfl
  · simp [readFrom, Lines.values, failures]
  · simp [readFrom, readLine_nil, Lines.values, failures]

end Values

end Lines

namespace Entry

/-- The record that the entry mapper makes of an entry. -/
def record (entry : Entry) : Record := ⟨entry.identifier.text, entry.toValue⟩

/-- A compact text of an entry, its fields in their order or sorted by name. -/
def IsText (entry : Entry) (text : String) : Prop :=
  text = entry.render ∨ text = entry.toValue.render

variable {entry : Entry} {text : String}

theorem byEntry_of_decode {value : Json} {keys : KeySet} (hdecode : decode value = .ok entry)
    (hkeys : entry.keys = .ok keys) : Mapper.byEntry value = .ok entry.record := by
  rw [Mapper.byEntry, hdecode, mapError_ok, ok_bind, hkeys, mapError_ok, ok_bind, pure_eq_ok,
    record]

theorem lineFeed_not_mem_text (htext : entry.IsText text) : '\n' ∉ text.toList := by
  rcases htext with rfl | rfl
  · rw [render, Json.render, String.toList_ofList]
    exact Json.lineFeed_not_mem_renderChars _ entry.fits_toDocument.1
  · rw [Json.render, String.toList_ofList]
    exact Json.lineFeed_not_mem_renderChars _ entry.fits_toValue.1

/-- The line of an entry holds a value that is mapped to its record. -/
theorem readLine_text (htext : entry.IsText text) :
    ∃ value, (∀ number, Lines.readLine number (Text.bytes text) = .value value) ∧
      decode value = .ok entry := by
  rcases htext with rfl | rfl
  · have hfits := entry.fits_toDocument
    refine ⟨entry.toValue, ?_, decode_toValue entry⟩
    exact Lines.readLine_render (hfits.mono (by decide))
  · have hfits := entry.fits_toValue
    refine ⟨entry.toValue.canonical, ?_, decode_canonical_toValue entry⟩
    exact Lines.readLine_render (hfits.mono (by decide))

/-- The details of entries are different. -/
theorem detail_injective {a b : Entry} (heq : a.record.detail = b.record.detail) : a = b := by
  have hparse := congrArg parse heq
  rw [Record.detail, Record.detail, record, record, parse_render_toValue,
    parse_render_toValue] at hparse
  exact Except.ok.inj hparse

end Entry

theorem Dispatch.cons_of_mapped {mapper : Mapper} {value : Lines.Numbered} {record : Record}
    (values : List Lines.Numbered) (hmapped : mapper value.2 = .ok record) :
    records mapper (value :: values) = record :: records mapper values ∧
      refusals mapper (value :: values) = refusals mapper values := by
  constructor
  · simp only [records, List.filterMap_cons, hmapped, Except.toOption]
  · simp only [refusals, List.filterMap_cons, hmapped]

section Files

variable {entries : List Entry} {texts : List String}

/-- The bytes of a file that has one line for each of these entries. -/
def IsFileOf (entries : List Entry) (body : List UInt8) : Prop :=
  ∃ texts : List String, List.Forall₂ Entry.IsText entries texts ∧
    (body = Lines.join texts ∨ body = Lines.join (texts ++ [""]))

theorem exists_values (htexts : List.Forall₂ Entry.IsText entries texts) :
    ∃ values : List Json,
      List.Forall₂ (fun text value => ∀ number,
        Lines.readLine number (Text.bytes text) = .value value) texts values ∧
      List.Forall₂ (fun value entry => Entry.decode value = .ok entry) values entries ∧
      ∀ text ∈ texts, '\n' ∉ text.toList := by
  induction htexts with
  | nil => exact ⟨[], .nil, .nil, List.forall_mem_nil _⟩
  | @cons entry text entries texts htext _ ih =>
    obtain ⟨value, hread, hdecode⟩ := Entry.readLine_text htext
    obtain ⟨values, hreads, hdecodes, hlines⟩ := ih
    exact ⟨value :: values, .cons hread hreads, .cons hdecode hdecodes,
      List.forall_mem_cons.2 ⟨Entry.lineFeed_not_mem_text htext, hlines⟩⟩

/-- The entry mapper accepts all values of entries that can be keyed. -/
theorem records_of_decode {values : List Lines.Numbered}
    (hdecodes : List.Forall₂ (fun value entry => Entry.decode value.2 = .ok entry) values entries)
    (hkeys : ∀ entry ∈ entries, ∃ keys, entry.keys = .ok keys) :
    Dispatch.records Mapper.byEntry values = entries.map Entry.record ∧
      Dispatch.refusals Mapper.byEntry values = [] := by
  induction hdecodes with
  | nil => exact ⟨rfl, rfl⟩
  | @cons value entry values entries hdecode _ ih =>
    obtain ⟨⟨keys, hentry⟩, hrest⟩ := List.forall_mem_cons.1 hkeys
    obtain ⟨hrecords, hrefusals⟩ := ih hrest
    have hmapped := Entry.byEntry_of_decode hdecode hentry
    obtain ⟨hfirst, hpassed⟩ := Dispatch.cons_of_mapped values hmapped
    rw [hfirst, hpassed, hrecords, hrefusals]
    exact ⟨rfl, rfl⟩

/-- Dispatching a file of entries that can be keyed is emitting their records, in their order. -/
theorem dispatch_file {σ : Type} {body : List UInt8} (hbody : IsFileOf entries body)
    (hkeys : ∀ entry ∈ entries, ∃ keys, entry.keys = .ok keys) (emitter : Emitter) (bus : Bus σ)
    (schedule : Schedule) (state : σ) :
    Dispatch.file Mapper.byEntry emitter bus schedule body state =
      (⟨entries.length, [], (emitter.emit bus schedule (entries.map Entry.record) state).1⟩,
        (emitter.emit bus schedule (entries.map Entry.record) state).2) := by
  obtain ⟨texts, htexts, hends⟩ := hbody
  obtain ⟨values, hreads, hdecodes, hlines⟩ := exists_values htexts
  have hparse := Lines.parse_join hreads hlines hends
  have hnumbered : ((List.range' 1 values.length).zip values).map Prod.snd = values :=
    List.map_snd_zip (by rw [List.length_range'])
  rw [← hnumbered, List.forall₂_map_left_iff] at hdecodes
  obtain ⟨hrecords, hrefusals⟩ := records_of_decode hdecodes hkeys
  have hlength := hdecodes.length_eq
  have hsorted : ([] : List MappingFailure).mergeSort (fun a b => a.position ≤ b.position) = [] :=
    List.mergeSort_nil
  cases hemit : emitter.emit bus schedule (entries.map Entry.record) state with
  | mk report next =>
    simp only [Dispatch.file, Dispatch.values, hparse, hrecords, hrefusals, bind, StateT.bind,
      hemit, hlength]
    exact congrArg (fun failures => (DispatchSummary.mk _ failures report, next)) hsorted

end Files

end Intake
