import Intake.Proofs.Emission.Details
import Intake.Proofs.Import.Lines
import Intake.Proofs.Store.Deliveries

/-!
# From a file to the store

An imported file is dispatched, and the details that were put on the bus are delivered to an empty
store as events, in any order and as often as the bus likes.  If every batch that was accepted at
last arrives, every entry is stored once and as it was, unless the summary reports its record.
-/

namespace Intake

/-- An event with a detail, embedded as text or as the value of the text. -/
def Carries (event : Json) (detail : String) : Prop :=
  event.get? "detail" = some (.str detail) ∨
    ∃ value, Json.parse detail = .ok value ∧ event.get? "detail" = some value

theorem entryOf_of_carries {event : Json} {entry : Entry}
    (hcarries : Carries event entry.record.detail) : Delivery.entryOf event = .ok entry := by
  rw [Entry.record, Record.detail] at hcarries
  rcases hcarries with htext | ⟨value, hparse, hvalue⟩
  · simp only [Delivery.entryOf, htext, Entry.parse_render_toValue, mapError_ok]
  · have hfits := entry.fits_toValue
    rw [Json.parse_render hfits.1 (Nat.le_trans hfits.2 (by decide))] at hparse
    cases hparse
    have hdecode := entry.decode_canonical_toValue
    rw [Delivery.entryOf, hvalue]
    rw [Entry.toValue, Entry.toDocument, Json.canonical, Json.canonical] at hdecode ⊢
    simp only [hdecode, mapError_ok]

/-- The bus delivers only what was submitted to it, and at least once every detail of a call that it
accepted and that no call with the same details follows. -/
structure Delivered (calls : List Call) (events : List Json) : Prop where
  submitted : ∀ event ∈ events, ∃ call ∈ calls, ∃ detail ∈ call.details, Carries event detail
  complete : ∀ before call after, calls = before ++ call :: after → call.IsAccepted →
    (∀ later ∈ after, later.details ≠ call.details) →
      ∀ detail ∈ call.details, ∃ event ∈ events, Carries event detail

/-- What the summary of an import, the replies to its deliveries and the store tell in the end. -/
structure Persisted (entries : List Entry) (summary : DispatchSummary) (replies : List Event)
    (store : MemoryStore) : Prop where
  mapped : summary.mappingFailures = []
  settled : ∀ event ∈ replies, ∃ delivery, event.reply = .delivered (.ok delivery) ∧
    delivery.IsSettled
  /-- The item of an entry whose record is not reported is what is stored of its type and
  identifier, and the entry can be read back from it. -/
  stored_once : ∀ entry ∈ entries, entry.record ∉ summary.emission.failedRecords →
    ∃ item, entry.item = .ok item ∧ item.entry = .ok entry ∧
      ∀ key stored, (store.get? key = some stored ∧ stored.entryType = entry.entryType ∧
        stored.identifier = entry.identifier) ↔ key = item.keys.primary ∧ stored = item
  nothing_else : ∀ key stored, store.get? key = some stored →
    ∃ entry ∈ entries, entry.item = .ok stored

/-- Whatever the bus replies and in whatever order it delivers, an import of distinct entries that
can be keyed stores every entry that its summary does not report, and nothing else. -/
theorem import_persisted {σ : Type} (emitter : Emitter) (bus : Bus σ) (schedule : Schedule)
    (state : σ) {entries : List Entry} {body : List UInt8} {events : List Json}
    (hkeys : ∀ entry ∈ entries, ∃ keys, entry.keys = .ok keys) (hdistinct : AreDistinct entries)
    (hbody : IsFileOf entries body)
    (hdelivered : Delivered
      (Dispatch.file Mapper.byEntry emitter bus.recorded schedule body (state, [])).2.2 events) :
    let outcome := MemoryStore.asEntryStore.history (events.map .deliver) MemoryStore.empty
    Persisted entries (Dispatch.file Mapper.byEntry emitter bus schedule body state).1 outcome.1
      outcome.2 := by
  intro outcome
  have hitems : ∀ entry ∈ entries, ∃ item, entry.item = .ok item := by
    intro entry hentry
    obtain ⟨keys, hentryKeys⟩ := hkeys entry hentry
    exact ⟨_, Entry.item_eq_ok_iff.2 ⟨keys, hentryKeys, rfl⟩⟩
  have hdetails : ((entries.map Entry.record).map Record.detail).Nodup := by
    rw [List.map_map]
    exact (List.Nodup.of_map _ hdistinct).map fun a b heq => Entry.detail_injective heq
  rw [dispatch_file hbody hkeys] at hdelivered ⊢
  obtain ⟨hsubmitted, haccepted⟩ := emit_details emitter bus schedule hdetails state
  have hevents : ∀ event ∈ events, ∃ entry ∈ entries, Delivery.entryOf event = .ok entry := by
    intro event hevent
    obtain ⟨call, hcall, detail, hdetail, hcarries⟩ := hdelivered.submitted event hevent
    obtain ⟨record, hrecord, rfl⟩ := hsubmitted call hcall detail hdetail
    obtain ⟨entry, hentry, rfl⟩ := List.mem_map.1 hrecord
    exact ⟨entry, hentry, entryOf_of_carries hcarries⟩
  obtain ⟨hsettled, honly, hstored, -⟩ :=
    (MemoryStore.HoldsOnly.empty entries).deliveries hdistinct hitems events hevents
  constructor
  case mapped => rfl
  case settled => exact hsettled
  case nothing_else => exact fun key stored hget => honly.listed hget
  case stored_once =>
    intro entry hentry hkept
    obtain ⟨item, hitem⟩ := hitems entry hentry
    obtain ⟨before, call, after, hsplit, hcall, hlast, hdetail⟩ :=
      haccepted _ (List.mem_map_of_mem hentry) hkept
    obtain ⟨event, hevent, hcarries⟩ :=
      hdelivered.complete before call after hsplit hcall hlast _ hdetail
    have hget := hstored event hevent entry item (entryOf_of_carries hcarries) hitem
    refine ⟨item, hitem, Entry.entry_of_item hitem, ?_⟩
    intro key stored
    constructor
    · rintro ⟨hsame, htype, hidentifier⟩
      exact honly.eq_of_get? hdistinct hentry hitem hsame htype hidentifier
    · rintro ⟨rfl, rfl⟩
      exact ⟨hget, MemoryStore.entryType_of_item hitem, MemoryStore.identifier_of_item hitem⟩

/-- A bus that gives no reply to its first call and accepts all others. -/
def slowBus : Bus Nat where
  now := pure (MemoryStore.bareResource none).metadata.createdDate
  put _ := fun calls => (if calls = 0 then .error ⟨"timeout"⟩ else .ok ⟨0, []⟩, calls + 1)

theorem failedRecords_slowBus (record : Record) :
    (plainEmitter.emit slowBus .inOrder [record] 0).1.failedRecords = [] := by
  with_unfolding_all rfl

/-- An event that embeds the detail of an entry as text. -/
def eventOf (entry : Entry) : Json := .obj [("detail", .str entry.record.detail)]

theorem delivered_slowBus (entry : Entry) :
    Delivered (plainEmitter.emit slowBus.recorded .inOrder [entry.record] (0, [])).2.2
      [eventOf entry, eventOf entry] := by
  have hdetails : ([entry.record].map Record.detail).Nodup := List.nodup_singleton _
  obtain ⟨hsubmitted, haccepted⟩ := emit_details plainEmitter slowBus .inOrder hdetails 0
  have hcarries : Carries (eventOf entry) entry.record.detail := .inl rfl
  have hkept : entry.record ∉
      (plainEmitter.emit slowBus .inOrder [entry.record] 0).1.failedRecords := by
    rw [failedRecords_slowBus]
    exact List.not_mem_nil
  have hmem : ∀ (before : List Call) (call : Call) (after : List Call),
      call ∈ before ++ call :: after := by
    intro before call after
    exact List.mem_append_right _ List.mem_cons_self
  constructor
  case submitted =>
    obtain ⟨before, call, after, hsplit, -, -, hdetail⟩ :=
      haccepted entry.record List.mem_cons_self hkept
    intro event hevent
    have hsame : event = eventOf entry := by simpa using hevent
    exact ⟨call, hsplit ▸ hmem before call after, _, hdetail, hsame ▸ hcarries⟩
  case complete =>
    intro before call after hsplit _ _ detail hdetail
    obtain ⟨record, hrecord, rfl⟩ :=
      hsubmitted call (hsplit ▸ hmem before call after) detail hdetail
    rw [List.mem_singleton.1 hrecord]
    exact ⟨eventOf entry, List.mem_cons_self, hcarries⟩

/-- One entry is submitted twice, delivered twice and stored once. -/
theorem import_persisted_slowBus :
    let entry := MemoryStore.bareResource (some "owner@1")
    let summary := (Dispatch.file Mapper.byEntry plainEmitter slowBus .inOrder
      (Lines.join [entry.render]) 0).1
    let outcome := MemoryStore.asEntryStore.history
      ([eventOf entry, eventOf entry].map .deliver) MemoryStore.empty
    summary.emission.failedRecords = [] ∧ Persisted [entry] summary outcome.1 outcome.2 := by
  obtain ⟨item, hitem⟩ := MemoryStore.exists_item_bareResource
  obtain ⟨keys, hentry, -⟩ := Entry.item_eq_ok_iff.1 hitem
  generalize MemoryStore.bareResource (some "owner@1") = entry at hentry
  have hkeys : ∀ other ∈ [entry], ∃ keys, other.keys = .ok keys :=
    List.forall_mem_singleton.2 ⟨keys, hentry⟩
  have hdistinct : AreDistinct [entry] := List.nodup_singleton _
  have hbody : IsFileOf [entry] (Lines.join [entry.render]) :=
    ⟨[entry.render], .cons (.inl rfl) .nil, .inl rfl⟩
  have hfile := dispatch_file hbody hkeys plainEmitter slowBus .inOrder 0
  have hcomplete := congrArg (fun run => run.1.emission.failedRecords) hfile
  refine ⟨hcomplete.trans (failedRecords_slowBus entry.record), ?_⟩
  apply import_persisted plainEmitter slowBus .inOrder 0 hkeys hdistinct hbody
  rw [dispatch_file hbody hkeys]
  exact delivered_slowBus entry

end Intake
