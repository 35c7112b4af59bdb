import Intake.Proofs.Import.Accounting
import Intake.Proofs.Text.Decoding
import Intake.Proofs.Traversal

/-!
# Refused events

A notification is read as a whole before anything is asked of the world, and a request is listed
only when it can be read.  So an event that is refused leaves no trace, whichever of its records is
bad, and one that is accepted leads to exactly the objects that its records name or its listing
gives.
-/

namespace Intake

/-! ## Notifications -/

namespace Json

theorem bind_asString?_eq_some_iff {found : Option Json} {text : String} :
    found.bind asString? = some text ↔ found = some (.str text) := by
  rcases found with _ | (_ | _ | _ | _ | _ | _) <;> simp [asString?]

theorem bind_asArray?_eq_some_iff {found : Option Json} {items : List Json} :
    found.bind asArray? = some items ↔ found = some (.arr items) := by
  rcases found with _ | (_ | _ | _ | _ | _ | _) <;> simp [asArray?]

end Json

namespace Notification

/-- The event is a notification with these records, all of them about objects. -/
structure IsNotice (event : Json) (records : List Json) : Prop where
  records_eq : event.get? "Records" = some (.arr records)
  records_ne : records ≠ []
  from_bucket : ∀ record ∈ records, record.get? "eventSource" = some (.str "aws:s3")

/-- The record names an object, whose key it has in form encoding. -/
inductive Names (record : Json) : ObjectRef → Prop where
  | mk {bucket raw key : String}
      (hbucket : record.at? ["s3", "bucket", "name"] = some (.str bucket))
      (hraw : record.at? ["s3", "object", "key"] = some (.str raw))
      (hkey : Text.bytes key = Text.Form.decodedBytes raw) : Names record ⟨bucket, key⟩

/-- The record lacks a part of its object, or its key stands for bytes that are no text. -/
inductive IsFaulty (record : Json) : Prop where
  | noBucket (hbucket : ∀ bucket, record.at? ["s3", "bucket", "name"] ≠ some (.str bucket))
  | noKey (hkey : ∀ raw, record.at? ["s3", "object", "key"] ≠ some (.str raw))
  | keyNotText {raw : String} (hraw : record.at? ["s3", "object", "key"] = some (.str raw))
      (hbytes : ∀ key, Text.bytes key ≠ Text.Form.decodedBytes raw)

theorem isNotification_iff {event : Json} :
    isNotification event = true ↔ ∃ records, IsNotice event records := by
  have hsource : ∀ record : Json, isFromBucket record = true ↔
      record.get? "eventSource" = some (.str "aws:s3") := by
    intro record
    rw [isFromBucket, beq_iff_eq, Json.bind_asString?_eq_some_iff]
  constructor
  · intro hnotice
    unfold isNotification at hnotice
    split at hnotice
    next records hrecords =>
      rw [Bool.and_eq_true, Bool.not_eq_true', List.all_eq_true] at hnotice
      refine ⟨records, Json.bind_asArray?_eq_some_iff.1 hrecords, ?_, ?_⟩
      · exact List.isEmpty_eq_false_iff.1 hnotice.1
      · exact fun record hrecord => (hsource record).1 (hnotice.2 record hrecord)
    next => cases hnotice
  · rintro ⟨records, hrecords, hne, hbucket⟩
    have hof : recordsOf event = some records := Json.bind_asArray?_eq_some_iff.2 hrecords
    rw [isNotification, hof]
    dsimp only
    rw [Bool.and_eq_true, Bool.not_eq_true', List.all_eq_true]
    exact ⟨List.isEmpty_eq_false_iff.2 hne, fun record hrecord =>
      (hsource record).2 (hbucket record hrecord)⟩

theorem decodeKey_eq_ok_iff {raw key : String} :
    decodeKey raw = .ok key ↔ Text.bytes key = Text.Form.decodedBytes raw := by
  rw [decodeKey, mapError_eq_ok_iff, Text.Form.decode_eq_ok_iff]

theorem objectOf_eq_ok_iff {record : Json} {object : ObjectRef} :
    objectOf record = .ok object ↔ Names record object := by
  constructor
  · intro hobject
    unfold objectOf at hobject
    split at hobject
    next => cases hobject
    next bucket hbucket =>
      split at hobject
      next => cases hobject
      next raw hraw =>
        obtain ⟨key, hkey, hobject⟩ := bind_eq_ok_iff.1 hobject
        cases hobject
        exact .mk (Json.bind_asString?_eq_some_iff.1 hbucket)
          (Json.bind_asString?_eq_some_iff.1 hraw) (decodeKey_eq_ok_iff.1 hkey)
  · rintro ⟨hbucket, hraw, hkey⟩
    rw [objectOf, Json.bind_asString?_eq_some_iff.2 hbucket]
    dsimp only
    rw [Json.bind_asString?_eq_some_iff.2 hraw]
    dsimp only
    rw [decodeKey_eq_ok_iff.2 hkey]
    rfl

/-- A record is faulty exactly when it names no object. -/
theorem isFaulty_iff {record : Json} : IsFaulty record ↔ ∀ object, ¬Names record object := by
  constructor
  · rintro hfaulty _ ⟨hbucket, hraw, hkey⟩
    cases hfaulty with
    | noBucket hnone => exact hnone _ hbucket
    | noKey hnone => exact hnone _ hraw
    | keyNotText hother hbytes =>
      rw [hraw] at hother
      cases hother
      exact hbytes _ hkey
  · intro hnone
    by_cases hbucket : ∃ bucket, record.at? ["s3", "bucket", "name"] = some (.str bucket)
    · by_cases hraw : ∃ raw, record.at? ["s3", "object", "key"] = some (.str raw)
      · obtain ⟨bucket, hbucket⟩ := hbucket
        obtain ⟨raw, hraw⟩ := hraw
        exact .keyNotText hraw fun key hkey => hnone _ (.mk hbucket hraw hkey)
      · exact .noKey (not_exists.1 hraw)
    · exact .noBucket (not_exists.1 hbucket)

end Notification

namespace Notification

variable {event : Json} {records : List Json}

theorem objects_of_isNotice (hnotice : IsNotice event records) :
    objects event = records.mapM objectOf := by
  have hof : recordsOf event = some records :=
    Json.bind_asArray?_eq_some_iff.2 hnotice.records_eq
  rw [objects, hof]

theorem objects_eq_ok_iff (hnotice : IsNotice event records) {objects : List ObjectRef} :
    Notification.objects event = .ok objects ↔ List.Forall₂ Names records objects := by
  rw [objects_of_isNotice hnotice, mapM_eq_ok_iff]
  simp only [objectOf_eq_ok_iff]

/-- One faulty record, wherever it stands, spoils the notification. -/
theorem exists_objects_iff (hnotice : IsNotice event records) :
    (∃ objects, Notification.objects event = .ok objects) ↔
      ∀ record ∈ records, ¬IsFaulty record := by
  simp only [objects_eq_ok_iff hnotice, exists_forall₂_iff, isFaulty_iff, not_forall, not_not]

end Notification

/-! ## Sources -/

open Notification (IsNotice Names IsFaulty)

/-- The event holds the request, and the request names a bucket. -/
def ImportRequest.IsIn (event : Json) (request : ImportRequest) : Prop :=
  ImportRequest.ofEvent event = .ok request ∧ Text.isBlankText request.bucket = false

namespace ImportSource

variable {event : Json} {source : ImportSource}

theorem ofEvent_eq_ok_of_notice {records : List Json} (hnotice : IsNotice event records) :
    ofEvent event = .ok source ↔
      ∃ objects, List.Forall₂ Names records objects ∧ .objects objects = source := by
  rw [ofEvent, if_pos (Notification.isNotification_iff.2 ⟨records, hnotice⟩)]
  simp only [← Notification.objects_eq_ok_iff hnotice]
  exact map_eq_ok_iff

theorem ofEvent_eq_ok_of_request (hother : ∀ records, ¬IsNotice event records) :
    ofEvent event = .ok source ↔ ∃ request, request.IsIn event ∧ .listing request = source := by
  rw [ofEvent, if_neg (mt Notification.isNotification_iff.1 (not_exists.2 hother)), bind_eq_ok_iff]
  refine exists_congr fun request => ?_
  rw [ImportRequest.IsIn, and_assoc]
  refine and_congr_right fun _ => ?_
  cases hblank : Text.isBlankText request.bucket with
  | true =>
    rw [if_pos rfl, throw_eq_error, error_bind]
    simp
  | false => simp

end ImportSource

/-! ## Handling -/

/-- What becomes of an event, and what is asked of the world meanwhile. -/
inductive Handled {σ : Type} (importer : Importer) (world : World σ) (event : Json) (state : σ) :
    ImportOutcome → σ → List Act → Prop where
  | refused {error : RequestError} (hevent : ImportSource.ofEvent event = .error error) :
      Handled importer world event state (.refused error) state []
  | unlisted {request : ImportRequest} {reason : String} {next : σ}
      (hevent : ImportSource.ofEvent event = .ok (.listing request))
      (hlist : world.list request.bucket request.keyStart state = (.error reason, next)) :
      Handled importer world event state (.listingFailed reason) next
        [.listed request.bucket request.keyStart (.error reason)]
  | imported {objects : List ObjectRef} {before : List Act} {start next : σ} {visits : List Visit}
      {summary : ImportSummary} (hasks : Asks world event state objects before start)
      (hobjects : visits.map Visit.object = objects)
      (hsums : List.Forall₂ (Visit.SumsUp importer) visits summary.sources) :
      Handled importer world event state (.done summary) next
        (before ++ visits.flatMap Visit.acts)

section Handling

variable {σ : Type} (importer : Importer) {world : World σ} {event : Json} {state : σ}

theorem handle_of_refused {error : RequestError}
    (hevent : ImportSource.ofEvent event = .error error) :
    importer.handle world event state = (.refused error, state) := by
  simp only [Importer.handle, hevent]
  rfl

theorem handle_of_unlisted {request : ImportRequest} {reason : String} {next : σ}
    (hevent : ImportSource.ofEvent event = .ok (.listing request))
    (hlist : world.list request.bucket request.keyStart state = (.error reason, next)) :
    importer.handle world event state = (.listingFailed reason, next) := by
  simp only [Importer.handle, hevent, bind, StateT.bind, hlist]
  rfl

theorem list_recorded {bucket keyStart : String} {result : Except String (List String)} {next : σ}
    (hlist : world.list bucket keyStart state = (result, next)) :
    world.recorded.list bucket keyStart (state, []) =
      (result, (next, [.listed bucket keyStart result])) := by
  simp only [World.recorded, logged, hlist]
  rfl

/-- What is asked for is asked for in a recorded world, and is in its log. -/
theorem Asks.recorded {objects : List ObjectRef} {before : List Act} {start : σ}
    (hasks : Asks world event state objects before start) :
    Asks world.recorded event (state, []) objects before (start, before) := by
  cases hasks with
  | named hevent => exact .named hevent
  | listed hevent hlist => exact .listed hevent (list_recorded hlist)

theorem handled_of_asks {objects : List ObjectRef} {before : List Act} {start : σ}
    (hasks : Asks world event state objects before start) :
    ∃ outcome next log, Handled importer world event state outcome next log ∧
      importer.handle world event state = (outcome, next) ∧
      importer.handle world.recorded event (state, []) = (outcome, (next, log)) := by
  obtain ⟨visits, sources, summary, next, hobjects, -, hsums, hsources, -, hrun, hrecorded⟩ :=
    foldlM_importObject_recorded importer world objects .empty start before
  rw [ImportSummary.empty, List.nil_append] at hsources
  refine ⟨_, next, _, .imported hasks hobjects (hsources ▸ hsums), ?_, ?_⟩
  · rw [hasks.handle_eq importer]
    simp only [Importer.importObjects, bind, StateT.bind, hrun]
    rfl
  · rw [hasks.recorded.handle_eq importer]
    simp only [Importer.importObjects, bind, StateT.bind, hrecorded]
    rfl

variable (world event state) in
/-- An event is refused, or cannot be listed, or is imported. -/
theorem handle_handled :
    ∃ outcome next log, Handled importer world event state outcome next log ∧
      importer.handle world event state = (outcome, next) ∧
      importer.handle world.recorded event (state, []) = (outcome, (next, log)) := by
  cases hevent : ImportSource.ofEvent event with
  | error error =>
    exact ⟨_, _, _, .refused hevent, handle_of_refused importer hevent,
      handle_of_refused importer hevent⟩
  | ok source =>
    cases source with
    | objects objects => exact handled_of_asks importer (.named hevent)
    | listing request =>
      cases hlist : world.list request.bucket request.keyStart state with
      | mk result next =>
        cases result with
        | error reason =>
          exact ⟨_, _, _, .unlisted hevent hlist, handle_of_unlisted importer hevent hlist,
            handle_of_unlisted importer hevent (list_recorded hlist)⟩
        | ok keys => exact handled_of_asks importer (.listed hevent hlist)

end Handling

/-- An import that is done is neither a refused one nor one that could not be listed. -/
theorem ImportSummary.statusCode_done (summary : ImportSummary) :
    (ImportOutcome.done summary).response.statusCode ≠ 400 ∧
      (ImportOutcome.done summary).response.statusCode ≠ 502 := by
  unfold ImportOutcome.response ImportOutcome.statusCode
  dsimp only
  split
  · exact ⟨by decide, by decide⟩
  · exact ⟨by decide, by decide⟩

/-- The import is done: the objects were visited in their order, and each is answered for. -/
def Imports (outcome : ImportOutcome) (objects : List ObjectRef) (acts : List Act) : Prop :=
  ∃ (visits : List Visit) (summary : ImportSummary),
    outcome = .done summary ∧ acts = visits.flatMap Visit.acts ∧ visits.map Visit.object = objects ∧
      summary.sources.map SourceSummary.object = objects

theorem imports_of_visits {importer : Importer} {visits : List Visit} {summary : ImportSummary}
    {objects : List ObjectRef} (hobjects : visits.map Visit.object = objects)
    (hsums : List.Forall₂ (Visit.SumsUp importer) visits summary.sources) :
    Imports (.done summary) objects (visits.flatMap Visit.acts) := by
  have hsources : visits.map Visit.object = summary.sources.map SourceSummary.object :=
    map_eq_of_sumsUp hsums fun _ _ hsum => hsum.counts_eq.1.symm
  exact ⟨visits, summary, rfl, rfl, hobjects, hsources.symm.trans hobjects⟩

/-- How what was asked of the world follows from an event and bears on its answer. -/
structure Guarded {σ : Type} (event : Json) (state : σ) (outcome : ImportOutcome) (next : σ)
    (log : List Act) : Prop where
  refused_silent : outcome.response.statusCode = 400 → log = [] ∧ next = state
  unlisted_silent : outcome.response.statusCode = 502 →
    ∃ bucket keyStart reason, log = [.listed bucket keyStart (.error reason)]
  notice_refused_iff : ∀ records, IsNotice event records →
    (outcome.response.statusCode = 400 ↔ ∃ record ∈ records, IsFaulty record)
  notice_imported : ∀ records, IsNotice event records → (∀ record ∈ records, ¬IsFaulty record) →
    ∃ objects, List.Forall₂ Names records objects ∧ Imports outcome objects log
  /-- Every other event is taken for a request. -/
  request_refused_iff : (∀ records, ¬IsNotice event records) →
    (outcome.response.statusCode = 400 ↔ ∀ request, ¬ImportRequest.IsIn event request)
  request_listed : (∀ records, ¬IsNotice event records) → ∀ request : ImportRequest,
    request.IsIn event →
      (∃ reason, outcome = .listingFailed reason ∧
        log = [.listed request.bucket request.keyStart (.error reason)]) ∨
      ∃ keys acts, log = .listed request.bucket request.keyStart (.ok keys) :: acts ∧
        Imports outcome (keys.map fun key => ⟨request.bucket, key⟩) acts

namespace Handled

variable {σ : Type} {importer : Importer} {world : World σ} {event : Json} {state next : σ}
  {outcome : ImportOutcome} {log : List Act}

/-- An event is refused when no source can be read from it, and for no other reason. -/
theorem refused_iff (hhandled : Handled importer world event state outcome next log) :
    outcome.response.statusCode = 400 ↔ ¬∃ source, ImportSource.ofEvent event = .ok source := by
  cases hhandled with
  | refused hevent => simp [ImportOutcome.response, ImportOutcome.statusCode, hevent]
  | unlisted hevent => simp [ImportOutcome.response, ImportOutcome.statusCode, hevent]
  | @imported _ _ _ _ _ summary hasks =>
    have hsource : ∃ source, ImportSource.ofEvent event = .ok source := by
      cases hasks with
      | named hevent => exact ⟨_, hevent⟩
      | listed hevent => exact ⟨_, hevent⟩
    exact iff_of_false (summary.statusCode_done).1 (not_not_intro hsource)

theorem imports (hhandled : Handled importer world event state outcome next log)
    {objects : List ObjectRef} (hevent : ImportSource.ofEvent event = .ok (.objects objects)) :
    Imports outcome objects log := by
  cases hhandled with
  | refused hother => cases hevent.symm.trans hother
  | unlisted hother => cases hevent.symm.trans hother
  | imported hasks hobjects hsums =>
    cases hasks with
    | listed hother => cases hevent.symm.trans hother
    | named hother =>
      cases hevent.symm.trans hother
      exact imports_of_visits hobjects hsums

theorem lists (hhandled : Handled importer world event state outcome next log)
    {request : ImportRequest} (hevent : ImportSource.ofEvent event = .ok (.listing request)) :
    (∃ reason, outcome = .listingFailed reason ∧
      log = [.listed request.bucket request.keyStart (.error reason)]) ∨
    ∃ keys acts, log = .listed request.bucket request.keyStart (.ok keys) :: acts ∧
      Imports outcome (keys.map fun key => ⟨request.bucket, key⟩) acts := by
  cases hhandled with
  | refused hother => cases hevent.symm.trans hother
  | unlisted hother =>
    cases hevent.symm.trans hother
    exact .inl ⟨_, rfl, rfl⟩
  | imported hasks hobjects hsums =>
    cases hasks with
    | named hother => cases hevent.symm.trans hother
    | listed hother =>
      cases hevent.symm.trans hother
      exact .inr ⟨_, _, rfl, imports_of_visits hobjects hsums⟩

theorem guarded (hhandled : Handled importer world event state outcome next log) :
    Guarded event state outcome next log := by
  constructor
  case refused_silent =>
    intro hstatus
    cases hhandled with
    | refused => exact ⟨rfl, rfl⟩
    | unlisted => cases hstatus
    | imported => exact absurd hstatus (ImportSummary.statusCode_done _).1
  case unlisted_silent =>
    intro hstatus
    cases hhandled with
    | refused => cases hstatus
    | unlisted => exact ⟨_, _, _, rfl⟩
    | imported => exact absurd hstatus (ImportSummary.statusCode_done _).2
  case notice_refused_iff =>
    intro records hnotice
    have hsound : (∃ source, ImportSource.ofEvent event = .ok source) ↔
        ∀ record ∈ records, ¬IsFaulty record := by
      rw [← Notification.exists_objects_iff hnotice]
      simp only [ImportSource.ofEvent_eq_ok_of_notice hnotice,
        Notification.objects_eq_ok_iff hnotice]
      exact ⟨fun ⟨_, objects, hobjects, _⟩ => ⟨objects, hobjects⟩,
        fun ⟨objects, hobjects⟩ => ⟨_, objects, hobjects, rfl⟩⟩
    rw [hhandled.refused_iff, hsound]
    simp only [not_forall, not_not, exists_prop]
  case notice_imported =>
    intro records hnotice hsound
    obtain ⟨objects, hobjects⟩ := (Notification.exists_objects_iff hnotice).2 hsound
    rw [Notification.objects_eq_ok_iff hnotice] at hobjects
    have hevent := (ImportSource.ofEvent_eq_ok_of_notice hnotice).2 ⟨objects, hobjects, rfl⟩
    exact ⟨objects, hobjects, hhandled.imports hevent⟩
  case request_refused_iff =>
    intro hother
    rw [hhandled.refused_iff, ← not_exists]
    simp only [ImportSource.ofEvent_eq_ok_of_request hother]
    exact not_congr ⟨fun ⟨_, request, hrequest, _⟩ => ⟨request, hrequest⟩,
      fun ⟨request, hrequest⟩ => ⟨_, request, hrequest, rfl⟩⟩
  case request_listed =>
    intro hother request hrequest
    exact hhandled.lists ((ImportSource.ofEvent_eq_ok_of_request hother).2 ⟨request, hrequest, rfl⟩)

end Handled

/-- Nothing is done for an event that is refused.  A notification is refused when any of its records
is faulty and else leads to the objects that its records name; any other event is refused when it
holds no request and else leads to the objects that are listed for it. -/
theorem import_guarded {σ : Type} (importer : Importer) (world : World σ) (event : Json)
    (state : σ) :
    ∃ log,
      importer.handle world.recorded event (state, []) =
        ((importer.handle world event state).1, ((importer.handle world event state).2, log)) ∧
      Guarded event state (importer.handle world event state).1
        (importer.handle world event state).2 log := by
  obtain ⟨outcome, next, log, hhandled, hrun, hrecorded⟩ :=
    handle_handled importer world event state
  rw [hrun]
  exact ⟨log, hrecorded, hhandled.guarded⟩

/-- The second key stands for a byte that is no text. -/
example :
    let event : Json := .obj [("Records", .arr [notice "in" "broken", notice "in" "%FF"])]
    (plainImporter.handle worstWorld event []).1.response.statusCode = 400 := by
  decide +kernel

end Intake
