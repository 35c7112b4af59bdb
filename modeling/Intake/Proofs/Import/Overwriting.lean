import Intake.Proofs.Import.Refusal

/-!
# Reports that overwrite reports

The key of a report tells the kind of the report and the object that it is about, but not which of
several visits to the object it comes from.  So one import writes to a key at most as often as the
object is asked for, and never twice when no object is asked for twice.
-/

namespace Intake

/-! ## Labels -/

namespace ObjectRef

variable {object other : ObjectRef}

theorem splitOn_label (hfree : '/' ∉ object.bucket.toList) :
    object.label.toList.splitOn '/' = object.bucket.toList :: object.key.toList.splitOn '/' := by
  have hlabel : object.label.toList = object.bucket.toList ++ '/' :: object.key.toList := by
    rw [label, String.toList_append, String.toList_append, List.append_assoc]
    rfl
  rw [hlabel, List.splitOn_append_cons_self, List.splitOn_eq_singleton hfree]
  rfl

/-- Without a slash in the names of buckets, a label tells the object. -/
theorem label_injective (hobject : '/' ∉ object.bucket.toList) (hother : '/' ∉ other.bucket.toList)
    (heq : object.label = other.label) : object = other := by
  have hsplit := congrArg (fun text => text.toList.splitOn '/') heq
  simp only [splitOn_label hobject, splitOn_label hother, List.cons.injEq, String.toList_inj]
    at hsplit
  have hkey : object.key = other.key := by
    rwa [label, label, hsplit.1, String.append_right_inj] at heq
  exact congrArg₂ mk hsplit.1 hkey

end ObjectRef

/-- What keys write of the objects tells them apart. -/
structure Tellable (objects : List ObjectRef) : Prop where
  digests_ne : ∀ object ∈ objects, ∀ other ∈ objects, object.label ≠ other.label →
    ReportKey.sourceDigest object.label ≠ ReportKey.sourceDigest other.label
  buckets_free : ∀ object ∈ objects, '/' ∉ object.bucket.toList

theorem Tellable.eq_of_reportKey {objects : List ObjectRef} (htellable : Tellable objects)
    {object other : ObjectRef} (hobject : object ∈ objects) (hother : other ∈ objects)
    {importer : Importer} {kind otherKind : ReportKind}
    (heq : importer.reportKey kind object.label = importer.reportKey otherKind other.label) :
    object = other := by
  obtain ⟨-, -, hdigest⟩ := ReportKey.make_inj.1 heq
  have hlabel : object.label = other.label := by
    by_contra hne
    exact htellable.digests_ne object hobject other hother hne hdigest
  exact ObjectRef.label_injective (htellable.buckets_free object hobject)
    (htellable.buckets_free other hother) hlabel

/-! ## Writes of one visit -/

section Visit

variable {importer : Importer} {object : ObjectRef} {summary : DispatchSummary}
  {writes : List Write}

theorem count_key_eq (writes : List Write) (key : String) :
    (writes.map Write.key).count key = (writes.filter fun write => write.key = key).length := by
  rw [List.count, List.countP_map, List.countP_eq_length_filter]
  rfl

/-- A visit writes to a key once at most. -/
theorem Reported.count_key_le (hreported : Reported importer object summary writes) (key : String) :
    (writes.map Write.key).count key ≤ 1 := by
  by_cases hmem : key ∈ writes.map Write.key
  · obtain ⟨write, hwrite, rfl⟩ := List.mem_map.1 hmem
    rw [count_key_eq]
    rcases hreported.nothing_else write hwrite with hkey | hkey
    · have hfailed : summary.emission.failedRecords ≠ [] := fun hnone =>
        hreported.emission_none hnone write hwrite hkey
      obtain ⟨result, honce⟩ := hreported.emission_once hfailed
      rw [hkey, honce, List.length_singleton]
    · have hfailures : summary.mappingFailures ≠ [] := fun hnone =>
        hreported.mapping_none hnone write hwrite hkey
      obtain ⟨result, honce⟩ := hreported.mapping_once hfailures
      rw [hkey, honce, List.length_singleton]
  · rw [List.count_eq_zero_of_not_mem hmem]
    exact Nat.zero_le 1

theorem Reported.exists_kind (hreported : Reported importer object summary writes) {key : String}
    (hkey : key ∈ writes.map Write.key) : ∃ kind, key = importer.reportKey kind object.label := by
  obtain ⟨write, hwrite, rfl⟩ := List.mem_map.1 hkey
  rcases hreported.nothing_else write hwrite with hemission | hmapping
  · exact ⟨.emission, hemission⟩
  · exact ⟨.mapping, hmapping⟩

namespace Visit.SumsUp

variable {visit : Visit} {source : SourceSummary}

theorem count_key_le (hsums : visit.SumsUp importer source) (key : String) :
    (visit.writes.map Write.key).count key ≤ 1 := by
  cases hsums with
  | unread => exact Nat.zero_le 1
  | dispatched _ _ _ hreported => exact hreported.count_key_le key

theorem exists_kind (hsums : visit.SumsUp importer source) {key : String}
    (hkey : key ∈ visit.writes.map Write.key) :
    ∃ kind, key = importer.reportKey kind visit.object.label := by
  cases hsums with
  | unread => cases hkey
  | dispatched _ _ _ hreported => exact hreported.exists_kind hkey

end Visit.SumsUp

end Visit

/-! ## Writes of a whole import -/

/-- The key of the report that is to be written, if one is. -/
def Act.reportKey? : Act → Option String
  | .wrote write => some write.key
  | _ => none

theorem Visit.reportKeys_acts (visit : Visit) :
    visit.acts.filterMap Act.reportKey? = visit.writes.map Write.key := by
  cases visit with
  | unread object reason => rfl
  | dispatched object body calls summary writes =>
    have hcalls : (calls.map Act.called).filterMap Act.reportKey? = [] := by
      rw [List.filterMap_map, List.filterMap_eq_nil_iff]
      exact fun _ _ => rfl
    have hwrites : (writes.map Act.wrote).filterMap Act.reportKey? = writes.map Write.key := by
      rw [List.filterMap_map, ← List.filterMap_eq_map]
      rfl
    show (calls.map Act.called ++ writes.map Act.wrote).filterMap Act.reportKey? = _
    rw [List.filterMap_append, hcalls, hwrites]
    rfl

/-- The objects that an event asks for. -/
def World.asked {σ : Type} (world : World σ) (event : Json) (state : σ) : List ObjectRef :=
  match ImportSource.ofEvent event with
  | .error _ => []
  | .ok (.objects objects) => objects
  | .ok (.listing request) =>
    match (world.list request.bucket request.keyStart state).1 with
    | .error _ => []
    | .ok keys => keys.map fun key => ⟨request.bucket, key⟩

/-- The keys that reports are written to in an import, in their order. -/
def Importer.keysWritten {σ : Type} (importer : Importer) (world : World σ) (event : Json)
    (state : σ) : List String :=
  (importer.handle world.recorded event (state, [])).2.2.filterMap Act.reportKey?

section Run

variable {σ : Type} {importer : Importer} {world : World σ} {event : Json} {state : σ}

theorem Asks.asked_eq {objects : List ObjectRef} {before : List Act} {start : σ}
    (hasks : Asks world event state objects before start) : world.asked event state = objects := by
  cases hasks with
  | named hevent => rw [World.asked, hevent]
  | listed hevent hlist =>
    rw [World.asked, hevent]
    dsimp only
    rw [hlist]

theorem Asks.reportKeys_before {objects : List ObjectRef} {before : List Act} {start : σ}
    (hasks : Asks world event state objects before start) :
    before.filterMap Act.reportKey? = [] := by
  cases hasks with
  | named => rfl
  | listed => rfl

variable (importer world event state) in
/-- The keys written to are those of the visits to the objects that are asked for. -/
theorem keysWritten_visits :
    ∃ (visits : List Visit) (sources : List SourceSummary),
      visits.map Visit.object = world.asked event state ∧
      List.Forall₂ (Visit.SumsUp importer) visits sources ∧
      importer.keysWritten world event state =
        visits.flatMap fun visit => visit.writes.map Write.key := by
  obtain ⟨outcome, next, log, hhandled, -, hrecorded⟩ := handle_handled importer world event state
  rw [Importer.keysWritten, hrecorded]
  cases hhandled with
  | refused hevent =>
    have hasked : world.asked event state = [] := by rw [World.asked, hevent]
    exact ⟨[], [], hasked.symm, .nil, rfl⟩
  | unlisted hevent hlist =>
    have hasked : world.asked event state = [] := by
      rw [World.asked, hevent]
      dsimp only
      rw [hlist]
    exact ⟨[], [], hasked.symm, .nil, rfl⟩
  | @imported objects before start _ visits summary hasks hobjects hsums =>
    refine ⟨visits, summary.sources, hobjects.trans hasks.asked_eq.symm, hsums, ?_⟩
    dsimp only
    rw [List.filterMap_append, hasks.reportKeys_before, List.nil_append, List.filterMap_flatMap]
    simp only [Visit.reportKeys_acts]

/-- A key to which only visits to one object write is written to at most as often as the object is
visited. -/
theorem count_keys_le {visits : List Visit} {sources : List SourceSummary}
    (hsums : List.Forall₂ (Visit.SumsUp importer) visits sources) {key : String}
    {object : ObjectRef}
    (honly : ∀ visit ∈ visits, key ∈ visit.writes.map Write.key → visit.object = object) :
    (visits.flatMap fun visit => visit.writes.map Write.key).count key ≤
      (visits.map Visit.object).count object := by
  induction hsums with
  | nil => exact Nat.le_refl 0
  | @cons visit source visits sources hfirst hrest ih =>
    have hlater := ih fun other hother => honly other (List.mem_cons_of_mem visit hother)
    rw [List.flatMap_cons, List.count_append, List.map_cons]
    by_cases hkey : key ∈ visit.writes.map Write.key
    · have hobject := honly visit List.mem_cons_self hkey
      have honce := hfirst.count_key_le key
      rw [hobject, List.count_cons_self]
      omega
    · rw [List.count_eq_zero_of_not_mem hkey, Nat.zero_add]
      exact hlater.trans (List.count_le_count_cons)

end Run

/-- Every key that is written to is that of an object that was asked for, and it is written to at
most as often as that object was asked for.  So no report is overwritten in an import of different
objects. -/
theorem reports_counted {σ : Type} (importer : Importer) (world : World σ) (event : Json)
    (state : σ) (htellable : Tellable (world.asked event state)) :
    (∀ key ∈ importer.keysWritten world event state,
      ∃ kind, ∃ object ∈ world.asked event state, key = importer.reportKey kind object.label ∧
        (importer.keysWritten world event state).count key ≤
          (world.asked event state).count object) ∧
    ((world.asked event state).Nodup → (importer.keysWritten world event state).Nodup) := by
  obtain ⟨visits, sources, hobjects, hsums, hkeys⟩ := keysWritten_visits importer world event state
  have hasked : ∀ visit ∈ visits, visit.object ∈ world.asked event state := fun visit hvisit =>
    hobjects ▸ List.mem_map_of_mem hvisit
  have hkind : ∀ visit ∈ visits, ∀ key ∈ visit.writes.map Write.key,
      ∃ kind, key = importer.reportKey kind visit.object.label := by
    intro visit hvisit key hkey
    obtain ⟨source, hsum⟩ := exists_forall₂_iff.1 ⟨sources, hsums⟩ visit hvisit
    exact hsum.exists_kind hkey
  have hcounted : ∀ key ∈ importer.keysWritten world event state,
      ∃ kind, ∃ object ∈ world.asked event state, key = importer.reportKey kind object.label ∧
        (importer.keysWritten world event state).count key ≤
          (world.asked event state).count object := by
    intro key hkey
    rw [hkeys] at hkey
    obtain ⟨visit, hvisit, hwritten⟩ := List.mem_flatMap.1 hkey
    obtain ⟨kind, rfl⟩ := hkind visit hvisit key hwritten
    refine ⟨kind, visit.object, hasked visit hvisit, rfl, ?_⟩
    rw [hkeys, ← hobjects]
    apply count_keys_le hsums
    intro other hother hshared
    obtain ⟨otherKind, heq⟩ := hkind other hother _ hshared
    exact (htellable.eq_of_reportKey (hasked visit hvisit) (hasked other hother) heq).symm
  refine ⟨hcounted, fun hnodup => List.nodup_iff_count_le_one.2 fun key => ?_⟩
  by_cases hkey : key ∈ importer.keysWritten world event state
  · obtain ⟨-, object, -, -, hle⟩ := hcounted key hkey
    exact hle.trans (List.nodup_iff_count_le_one.1 hnodup object)
  · rw [List.count_eq_zero_of_not_mem hkey]
    exact Nat.zero_le 1

/-- A notification of one object for each of these keys. -/
def noticeOf (keys : List String) : Json := .obj [("Records", .arr (keys.map (notice "in")))]

/-- Two objects of one bucket, both without a value in them, have a report each. -/
theorem reports_counted_pair :
    let event := noticeOf ["broken", "spoiled"]
    Tellable (worstWorld.asked event []) ∧ (worstWorld.asked event []).Nodup ∧
      (plainImporter.keysWritten worstWorld event []).length = 2 ∧
      (plainImporter.keysWritten worstWorld event []).Nodup := by
  intro event
  have hasked : worstWorld.asked event [] = [⟨"in", "broken"⟩, ⟨"in", "spoiled"⟩] := by
    with_unfolding_all rfl
  have htellable : Tellable (worstWorld.asked event []) := by
    rw [hasked]
    constructor
    case digests_ne => decide +kernel
    case buckets_free => decide
  have hnodup : (worstWorld.asked event []).Nodup := by
    rw [hasked]
    decide
  exact ⟨htellable, hnodup, by decide +kernel,
    (reports_counted plainImporter worstWorld event [] htellable).2 hnodup⟩

/-- An object that is named twice in one notification is reported twice under one key, although its
label is the only one and its bucket has no slash. -/
theorem report_overwritten :
    let event := noticeOf ["broken", "broken"]
    Tellable (worstWorld.asked event []) ∧
      ¬(plainImporter.keysWritten worstWorld event []).Nodup := by
  intro event
  have hasked : worstWorld.asked event [] = [⟨"in", "broken"⟩, ⟨"in", "broken"⟩] := by
    with_unfolding_all rfl
  constructor
  · rw [hasked]
    constructor
    case digests_ne => decide +kernel
    case buckets_free => decide
  · decide +kernel

end Intake
