import Intake.Import.ReportKey

/-!
# What keys of reports tell

The key of a report is a path.  Neither the source nor the part of a report puts a slash into it, so
each of them stays inside the segment that is made for it, and the key gives back its kind, the
source as it is written there, and the digest of the source.
-/

namespace Intake.ReportKey

/-! ## Segments -/

/-- A text that stands inside one segment of a path: ASCII letters and digits, and three marks. -/
def IsSegment (text : String) : Prop :=
  text ≠ "" ∧ ∀ c ∈ text.toList, c.isAlphanum ∨ c = '.' ∨ c = '_' ∨ c = '-'

theorem isAlphanum_or_mark_of_isSafe {c : Char} (hsafe : isSafe c = true) :
    c.isAlphanum ∨ c = '.' ∨ c = '_' ∨ c = '-' := by
  simp only [isSafe, Bool.or_eq_true, beq_iff_eq] at hsafe
  rcases hsafe with ((((hlower | hupper) | hdigit) | rfl) | rfl) | rfl
  · have halpha : c.isAlpha = true := Bool.or_eq_true_iff.2 (.inr hlower)
    exact .inl (Bool.or_eq_true_iff.2 (.inl halpha))
  · rw [Bool.and_eq_true, decide_eq_true_iff, decide_eq_true_iff] at hupper
    have halpha : c.isAlpha = true := Bool.or_eq_true_iff.2 (.inl (decide_eq_true hupper))
    exact .inl (Bool.or_eq_true_iff.2 (.inl halpha))
  · exact .inl (Bool.or_eq_true_iff.2 (.inr hdigit))
  · exact .inr (.inr (.inr rfl))
  · exact .inr (.inr (.inl rfl))
  · exact .inr (.inl rfl)

theorem isSafe_replaced (c : Char) : isSafe (if isSafe c then c else '_') = true := by
  split
  next hsafe => exact hsafe
  next => decide

theorem isSegment_segment (text : String) : IsSegment (segment text) := by
  unfold segment
  dsimp only
  split
  next =>
    have hsafe : "unknown".toList.all isSafe = true := by decide
    exact ⟨by decide, fun c hc => isAlphanum_or_mark_of_isSafe (List.all_eq_true.1 hsafe c hc)⟩
  next hsome =>
    constructor
    · intro hempty
      rw [String.ofList_eq_empty_iff] at hempty
      exact hsome (List.isEmpty_iff.2 hempty)
    · intro c hc
      rw [String.toList_ofList] at hc
      obtain ⟨original, -, rfl⟩ := List.mem_map.1 hc
      exact isAlphanum_or_mark_of_isSafe (isSafe_replaced original)

theorem IsSegment.slash_not_mem {text : String} (htext : IsSegment text) : '/' ∉ text.toList := by
  intro hslash
  exact absurd (htext.2 '/' hslash) (by decide)

/-! ## Digests -/

/-- So many digits of a number, in lower case. -/
def IsLowerHex (size : Nat) (text : String) : Prop :=
  text.length = size ∧ ∀ c ∈ text.toList, ('0' ≤ c ∧ c ≤ '9') ∨ ('a' ≤ c ∧ c ≤ 'f')

theorem isLowerHex_sourceDigest (source : String) : IsLowerHex 12 (sourceDigest source) := by
  constructor
  · rw [sourceDigest, String.length_ofList]
    rfl
  · intro c hc
    rw [sourceDigest, String.toList_ofList] at hc
    have hdigits : ∀ d < 16, ('0' ≤ Nat.digitChar d ∧ Nat.digitChar d ≤ '9') ∨
        ('a' ≤ Nat.digitChar d ∧ Nat.digitChar d ≤ 'f') := by decide
    obtain ⟨b, -, hpair⟩ := List.mem_flatMap.1 (List.mem_of_mem_take hc)
    have hbyte := b.toNat_lt
    rw [List.mem_cons, List.mem_singleton] at hpair
    rcases hpair with rfl | rfl
    · exact hdigits _ (by omega)
    · exact hdigits _ (by omega)

theorem IsLowerHex.slash_not_mem {size : Nat} {text : String} (htext : IsLowerHex size text) :
    '/' ∉ text.toList := by
  intro hslash
  exact absurd (htext.2 '/' hslash) (by decide)

/-! ## The base of the path -/

/-- A base without the slashes at its ends. -/
structure IsStem (base stem : String) : Prop where
  base_eq : ∃ before after, base.toList =
    List.replicate before '/' ++ stem.toList ++ List.replicate after '/'
  head_ne : stem.toList.head? ≠ some '/'
  last_ne : stem.toList.getLast? ≠ some '/'

theorem takeWhile_slash (cs : List Char) :
    cs.takeWhile (· == '/') = List.replicate (cs.takeWhile (· == '/')).length '/' := by
  apply List.eq_replicate_of_mem
  intro c hc
  exact beq_iff_eq.1 (List.all_eq_true.1 List.all_takeWhile c hc)

theorem head_dropSlashes (cs : List Char) : (cs.dropWhile (· == '/')).head? ≠ some '/' := by
  intro hslash
  have hhead := List.head?_dropWhile_not (· == '/') cs
  rw [hslash] at hhead
  exact absurd hhead (by decide)

theorem isStem_withoutSlashes (base : String) : IsStem base (withoutSlashes base) := by
  let start := base.toList.dropWhile (· == '/')
  let stem := (start.reverse.dropWhile (· == '/')).reverse
  have hstem : (withoutSlashes base).toList = stem := String.toList_ofList
  have hbase : base.toList.takeWhile (· == '/') ++ start = base.toList :=
    List.takeWhile_append_dropWhile
  have hstart : stem ++ (start.reverse.takeWhile (· == '/')).reverse = start := by
    rw [← List.reverse_append, List.takeWhile_append_dropWhile, List.reverse_reverse]
  constructor
  case base_eq =>
    rw [hstem, ← hbase, takeWhile_slash, ← hstart, takeWhile_slash start.reverse,
      List.reverse_replicate]
    exact ⟨_, _, (List.append_assoc _ _ _).symm⟩
  case head_ne =>
    rw [hstem]
    intro hslash
    apply head_dropSlashes base.toList
    show start.head? = some '/'
    rw [← hstart, List.head?_append, hslash]
    rfl
  case last_ne =>
    rw [hstem, List.getLast?_reverse]
    exact head_dropSlashes start.reverse

/-! ## The whole path -/

/-- The part of a key that stands before its source. -/
def beforeSource (base : String) (kind : ReportKind) (date : String) : String :=
  withoutSlashes base ++ "/dataset=" ++ kind.name ++ "/import_date=" ++ date

/-- Source and part stay inside their segments of the path. -/
theorem splitOn_make (base : String) (kind : ReportKind) (date source part : String) :
    (make base kind date source part).toList.splitOn '/' =
      (beforeSource base kind date).toList.splitOn '/' ++
        [("source=" ++ segment source).toList,
          ("part-" ++ segment part ++ "-" ++ sourceDigest source ++ ".json").toList] := by
  have hsource : '/' ∉ ("source=" ++ segment source).toList := by
    rw [String.toList_append, List.mem_append, not_or]
    exact ⟨by decide, (isSegment_segment source).slash_not_mem⟩
  have hpart : '/' ∉ ("part-" ++ segment part ++ "-" ++ sourceDigest source ++ ".json").toList := by
    simp only [String.toList_append, List.mem_append, not_or]
    exact ⟨⟨⟨⟨by decide, (isSegment_segment part).slash_not_mem⟩, by decide⟩,
      (isLowerHex_sourceDigest source).slash_not_mem⟩, by decide⟩
  have hkey : (make base kind date source part).toList =
      (beforeSource base kind date).toList ++ '/' :: (("source=" ++ segment source).toList ++
        '/' :: ("part-" ++ segment part ++ "-" ++ sourceDigest source ++ ".json").toList) := by
    simp only [make, folder, beforeSource, String.toList_append, List.append_assoc]
    rfl
  rw [hkey, List.splitOn_append_cons_self, List.splitOn_append_cons_self,
    List.splitOn_eq_singleton hsource, List.splitOn_eq_singleton hpart]
  rfl

/-- Reports of different kinds never have the same key. -/
theorem kind_injective {base date source label part : String} {kind other : ReportKind}
    (heq : make base kind date source part = make base other date label part) : kind = other := by
  have hchars := congrArg String.toList heq
  simp only [make, folder, String.toList_append, List.append_assoc, List.append_cancel_left_eq]
    at hchars
  cases kind <;> cases other
  · rfl
  · simp [ReportKind.name] at hchars
  · simp [ReportKind.name] at hchars
  · rfl

/-- A key gives back what it was made of, as far as it is written in it. -/
theorem make_inj {base date part source label : String} {kind other : ReportKind} :
    make base kind date source part = make base other date label part ↔
      kind = other ∧ segment source = segment label ∧ sourceDigest source = sourceDigest label := by
  constructor
  · intro heq
    obtain rfl := kind_injective heq
    have hsegments := congrArg (fun key => key.toList.splitOn '/') heq
    simp only [splitOn_make, List.append_cancel_left_eq, List.cons.injEq, and_true,
      String.toList_inj, String.append_left_inj, String.append_right_inj] at hsegments
    exact ⟨rfl, hsegments⟩
  · rintro ⟨rfl, hsegment, hdigest⟩
    rw [make, make, folder, folder, hsegment, hdigest]

/-- The parts of a key. -/
structure Laid (base : String) (kind : ReportKind) (date source part key : String) : Prop where
  key_eq : key = withoutSlashes base ++ "/dataset=" ++ kind.name ++ "/import_date=" ++ date ++
    "/source=" ++ segment source ++ "/part-" ++ segment part ++ "-" ++ sourceDigest source ++
    ".json"
  base_stem : IsStem base (withoutSlashes base)
  source_segment : IsSegment (segment source)
  part_segment : IsSegment (segment part)
  digest_hex : IsLowerHex 12 (sourceDigest source)
  /-- Whatever the source and the part are, each of them is written into one segment of the path,
  and these are its last two. -/
  path_eq : key.toList.splitOn '/' = (beforeSource base kind date).toList.splitOn '/' ++
    [("source=" ++ segment source).toList,
      ("part-" ++ segment part ++ "-" ++ sourceDigest source ++ ".json").toList]

/-- The keys of reports are laid out in one way, and reports of one import share a key exactly when
they are of one kind and their sources cannot be told apart by what is written of them. -/
theorem make_laid (base date part : String) :
    (∀ kind source, Laid base kind date source part (make base kind date source part)) ∧
      ∀ kind other source label,
        make base kind date source part = make base other date label part ↔
          kind = other ∧ segment source = segment label ∧
            sourceDigest source = sourceDigest label := by
  constructor
  · intro kind source
    constructor
    case key_eq =>
      apply String.toList_inj.1
      simp only [make, folder, String.toList_append, List.append_assoc]
    case base_stem => exact isStem_withoutSlashes base
    case source_segment => exact isSegment_segment source
    case part_segment => exact isSegment_segment part
    case digest_hex => exact isLowerHex_sourceDigest source
    case path_eq => exact splitOn_make base kind date source part
  · exact fun kind other source label => make_inj

example : make "publication-ingest/reports/" .emission "2026-02-14"
    "legacy-bucket/exports/2026/batch-01.jsonl" "request-1" =
      "publication-ingest/reports/dataset=emission_failures/import_date=2026-02-14/source=" ++
        "legacy-bucket_exports_2026_batch-01.jsonl/part-request-1-cd646a450c8d.json" := by
  decide +kernel

end Intake.ReportKey
