import Intake.Proofs.Entry.Blind
import Intake.Proofs.Import.Persistence

/-!
# The gate of an import

The entry mapper lets a value through when it holds an entry that can be keyed.  A delivery asks the
same of the detail of its event, whether that embeds the value, is the compact text of the value, or
is the detail of the record that the mapper made of it.  So an event that an import put on the bus is
never refused for what it carries.
-/

namespace Intake

/-! ## Texts of values -/

/-- The compact text of a value and the value itself hold the same entry. -/
theorem Entry.parse_render_iff {raw : Json} (hfit : raw.IntsFit) (hdepth : raw.depth ≤ Json.maxDepth)
    {entry : Entry} : parse raw.render = .ok entry ↔ decode raw = .ok entry := by
  have hblind : decode (raw.mapFloats Json.reread) = .ok entry ↔ decode raw = .ok entry :=
    blind_decode raw entry
  rw [← hblind, parse, Json.read_render_mapFloats hfit hdepth]
  dsimp only
  cases decode (raw.mapFloats Json.reread) with
  | ok other =>
    dsimp only
    rw [Except.ok.injEq, Except.ok.injEq]
  | error e =>
    dsimp only
    constructor <;> intro hok <;> cases hok

/-! ## Values at the gate -/

/-- An event with nothing but a detail. -/
def detailEvent (detail : Json) : Json := .obj [("detail", detail)]

/-- An event whose detail is a value, embedded or as its compact text. -/
def CarriesValue (event raw : Json) : Prop :=
  event.get? "detail" = some raw ∨ event.get? "detail" = some (.str raw.render)

section Values

variable {raw : Json} {entry : Entry} {item : Item}

/-- Whatever way an event carries a value, the entry in it is the one in the value. -/
theorem entryOf_of_carriesValue (hfit : raw.IntsFit) (hdepth : raw.depth ≤ Json.maxDepth)
    (hraw : ∀ text, raw ≠ .str text) {event : Json} (hcarries : CarriesValue event raw) :
    Delivery.entryOf event = .ok entry ↔ Entry.decode raw = .ok entry := by
  unfold Delivery.entryOf
  rcases hcarries with hembedded | htext
  · rw [hembedded]
    split
    next hnone => cases hnone
    next hnull =>
      cases hnull
      constructor <;> intro hok <;> cases hok
    next text hsome =>
      cases hsome
      exact absurd rfl (hraw text)
    next detail _ _ hsome =>
      cases hsome
      exact mapError_eq_ok_iff
  · rw [htext, ← Entry.parse_render_iff hfit hdepth]
    exact mapError_eq_ok_iff

/-- The mapper lets through exactly the values of entries that can be keyed. -/
theorem Mapper.byEntry_eq_ok_iff {record : Record} : Mapper.byEntry raw = .ok record ↔
    ∃ entry item, Entry.decode raw = .ok entry ∧ entry.item = .ok item ∧ record = entry.record := by
  constructor
  · intro hmapped
    obtain ⟨entry, hentry, hrest⟩ := bind_eq_ok_iff.1 hmapped
    obtain ⟨keys, hkeys, hrecord⟩ := bind_eq_ok_iff.1 hrest
    rw [mapError_eq_ok_iff] at hentry hkeys
    have hitem := Entry.item_eq_ok_iff.2 ⟨keys, hkeys, rfl⟩
    exact ⟨entry, _, hentry, hitem, (Except.ok.inj hrecord).symm⟩
  · rintro ⟨entry, item, hdecode, hitem, rfl⟩
    obtain ⟨keys, hkeys, -⟩ := Entry.item_eq_ok_iff.1 hitem
    exact Entry.byEntry_of_decode hdecode hkeys

theorem deliver_empty {event : Json} (hbears : Bears event entry item) :
    MemoryStore.asEntryStore.deliver event .empty =
      (.ok (.created item.identifier item.rowVersion), MemoryStore.empty.file item) :=
  MemoryStore.deliver_of_created hbears.1 (MemoryStore.create_of_free hbears.2 rfl)

/-- The value is turned away by the mapper, and so is every event that carries it by every store. -/
structure Refused (raw : Json) : Prop where
  mapped : ∃ error, Mapper.byEntry raw = .error error
  embedded : ∃ error, MemoryStore.asEntryStore.deliver (detailEvent raw) .empty =
    (.error error, .empty)
  text : ∃ error, MemoryStore.asEntryStore.deliver (detailEvent (.str raw.render)) .empty =
    (.error error, .empty)
  anywhere : ∀ {σ : Type} (store : EntryStore σ) (state : σ) (event : Json),
    CarriesValue event raw →
      ∃ error, error.IsRefusal ∧ store.deliver event state = (.error error, state)

/-- The value is mapped to a record, and an empty store takes the value, its text and the detail of
the record alike.  The record is let through as it is. -/
structure Accepted (raw : Json) (record : Record) (identifier : Identifier) (version : RowVersion)
    (store : MemoryStore) : Prop where
  mapped : Mapper.byEntry raw = .ok record
  embedded : MemoryStore.asEntryStore.deliver (detailEvent raw) .empty =
    (.ok (.created identifier version), store)
  text : MemoryStore.asEntryStore.deliver (detailEvent (.str raw.render)) .empty =
    (.ok (.created identifier version), store)
  own : MemoryStore.asEntryStore.deliver (detailEvent (.str record.detail)) .empty =
    (.ok (.created identifier version), store)
  again : Mapper.byEntry record.payload = .ok record
  anywhere : ∀ {σ : Type} (store : EntryStore σ) (state : σ) (event : Json),
    CarriesValue event raw ∨ Carries event record.detail →
      ∀ error, (store.deliver event state).1 = .error error → ¬error.IsRefusal

section Agreement

variable (hfit : raw.IntsFit) (hdepth : raw.depth ≤ Json.maxDepth) (hraw : ∀ text, raw ≠ .str text)

include hfit hdepth hraw

theorem refused_of_unkeyed
    (hunkeyed : ∀ entry item, Entry.decode raw = .ok entry → entry.item ≠ .ok item) :
    Refused raw := by
  have hrefused : ∀ {σ : Type} (store : EntryStore σ) (state : σ) (event : Json),
      CarriesValue event raw →
        ∃ error, error.IsRefusal ∧ store.deliver event state = (.error error, state) := by
    intro σ store state event hcarries
    apply deliver_of_unborne
    rintro entry item ⟨hentry, hitem⟩
    exact hunkeyed entry item ((entryOf_of_carriesValue hfit hdepth hraw hcarries).1 hentry) hitem
  constructor
  case mapped =>
    cases hmapped : Mapper.byEntry raw with
    | error error => exact ⟨error, rfl⟩
    | ok record =>
      obtain ⟨entry, item, hdecode, hitem, -⟩ := Mapper.byEntry_eq_ok_iff.1 hmapped
      exact absurd hitem (hunkeyed entry item hdecode)
  case embedded =>
    obtain ⟨error, -, hdeliver⟩ :=
      hrefused MemoryStore.asEntryStore .empty (detailEvent raw) (.inl rfl)
    exact ⟨error, hdeliver⟩
  case text =>
    obtain ⟨error, -, hdeliver⟩ :=
      hrefused MemoryStore.asEntryStore .empty (detailEvent (.str raw.render)) (.inr rfl)
    exact ⟨error, hdeliver⟩
  case anywhere => exact hrefused

theorem accepted_of_keyed (hdecode : Entry.decode raw = .ok entry) (hitem : entry.item = .ok item) :
    Accepted raw entry.record item.identifier item.rowVersion (MemoryStore.empty.file item) := by
  have hvalue : ∀ {event : Json}, CarriesValue event raw → Bears event entry item :=
    fun hcarries => ⟨(entryOf_of_carriesValue hfit hdepth hraw hcarries).2 hdecode, hitem⟩
  have hdetail : ∀ {event : Json}, Carries event entry.record.detail → Bears event entry item :=
    fun hcarries => ⟨entryOf_of_carries hcarries, hitem⟩
  constructor
  case mapped => exact Mapper.byEntry_eq_ok_iff.2 ⟨entry, item, hdecode, hitem, rfl⟩
  case embedded => exact deliver_empty (hvalue (.inl rfl))
  case text => exact deliver_empty (hvalue (.inr rfl))
  case own => exact deliver_empty (hdetail (.inl rfl))
  case again => exact Mapper.byEntry_eq_ok_iff.2 ⟨entry, item, entry.decode_toValue, hitem, rfl⟩
  case anywhere =>
    rintro σ store state event (hcarries | hcarries) error herror
    · exact not_isRefusal_deliver store state (hvalue hcarries) herror
    · exact not_isRefusal_deliver store state (hdetail hcarries) herror

end Agreement

end Values

/-! ## Details on the bus -/

/-- Every detail that a dispatch puts on the bus is that of a record that the mapper made of a value
of the file. -/
theorem Dispatch.detail_of_file {σ : Type} (mapper : Mapper) (emitter : Emitter) (bus : Bus σ)
    (schedule : Schedule) (body : List UInt8) (state : σ) :
    ∀ call ∈ (Dispatch.file mapper emitter bus.recorded schedule body (state, [])).2.2,
      ∀ detail ∈ call.details, ∃ value ∈ (Lines.parse body).1, ∃ record,
        mapper value.2 = .ok record ∧ record.detail = detail := by
  intro call hcall detail hdetail
  obtain ⟨record, hrecord, hsame⟩ := detail_of_emit emitter bus schedule
    (records mapper (Lines.parse body).1) state call hcall detail hdetail
  obtain ⟨⟨position, value⟩, hvalue, hmapped⟩ := List.mem_filterMap.1 hrecord
  refine ⟨(position, value), hvalue, record, ?_, hsame⟩
  dsimp only at hmapped ⊢
  cases hmapper : mapper value with
  | error e =>
    rw [hmapper] at hmapped
    cases hmapped
  | ok other =>
    rw [hmapper] at hmapped
    cases hmapped
    rfl

/-- A detail that comes of a value of the file, and that no store refuses for what it carries. -/
structure Vetted (values : List Lines.Numbered) (detail : String) : Prop where
  mapped : ∃ value ∈ values, ∃ record,
    Mapper.byEntry value.2 = .ok record ∧ record.detail = detail
  anywhere : ∀ {σ : Type} (store : EntryStore σ) (state : σ) (event : Json),
    Carries event detail → ∀ error, (store.deliver event state).1 = .error error →
      ¬error.IsRefusal

theorem vetted_of_file {σ : Type} (emitter : Emitter) (bus : Bus σ) (schedule : Schedule)
    (body : List UInt8) (state : σ) :
    ∀ call ∈ (Dispatch.file Mapper.byEntry emitter bus.recorded schedule body (state, [])).2.2,
      ∀ detail ∈ call.details, Vetted (Lines.parse body).1 detail := by
  intro call hcall detail hdetail
  obtain ⟨value, hvalue, record, hmapped, rfl⟩ :=
    Dispatch.detail_of_file Mapper.byEntry emitter bus schedule body state call hcall detail hdetail
  refine ⟨⟨value, hvalue, record, hmapped, rfl⟩, ?_⟩
  intro τ store next event hcarries error herror
  obtain ⟨entry, item, -, hitem, rfl⟩ := Mapper.byEntry_eq_ok_iff.1 hmapped
  exact not_isRefusal_deliver store next ⟨entryOf_of_carries hcarries, hitem⟩ herror

/-- The gate of an import and the delivery of events accept the same values.  A value that is no
string and no deeper than the reader allows is turned away by the mapper and by every delivery of it,
or else is mapped to a record whose own detail is delivered as the value is.  So whatever an import
puts on the bus is never refused for its shape or its keys. -/
theorem gate_agrees {raw : Json} (hfit : raw.IntsFit) (hdepth : raw.depth ≤ Json.maxDepth)
    (hraw : ∀ text, raw ≠ .str text) :
    (Refused raw ∨ ∃ record identifier version store,
      Accepted raw record identifier version store) ∧
    ∀ {σ : Type} (emitter : Emitter) (bus : Bus σ) (schedule : Schedule) (body : List UInt8)
      (state : σ),
      ∀ call ∈ (Dispatch.file Mapper.byEntry emitter bus.recorded schedule body (state, [])).2.2,
        ∀ detail ∈ call.details, Vetted (Lines.parse body).1 detail := by
  constructor
  · by_cases hkeyed : ∃ entry item, Entry.decode raw = .ok entry ∧ entry.item = .ok item
    · right
      obtain ⟨entry, item, hdecode, hitem⟩ := hkeyed
      exact ⟨_, _, _, _, accepted_of_keyed hfit hdepth hraw hdecode hitem⟩
    · left
      apply refused_of_unkeyed hfit hdepth hraw
      exact fun entry item hdecode hitem => hkeyed ⟨entry, item, hdecode, hitem⟩
  · exact fun emitter bus schedule body state => vetted_of_file emitter bus schedule body state

/-- A published resource with blanks around its identifier and its status, a file in the form of a
list, and a member that belongs to no field. -/
def looseResource (owner : Json) : Json :=
  .obj [("associatedFiles",
      .arr [.arr [.str "67e55044-10b1-426f-9247-bb680e5fe0c8", .str "article.pdf"]]),
    ("createdDate", .str "2026-02-14T10:00:00Z"), ("customerId", .str "customer-1"),
    ("identifier", .str " X1 "), ("modifiedDate", .str "2026-02-14T10:00:00Z"), ("owner", owner),
    ("rowVersion", .str "v1"), ("status", .str " published "), ("type", .str "Resource"),
    ("weight", .num (.float
      ⟨false, 6755399441055744, -52, by decide, by decide, by decide, by decide⟩))]

/-- With an owner the value is accepted, and without one it is refused. -/
theorem gate_agrees_looseResource :
    (∃ record identifier version store,
      Accepted (looseResource (.str "owner@1")) record identifier version store) ∧
      Refused (looseResource .null) := by
  have hfit : ∀ owner : Json, owner.IntsFit → (looseResource owner).IntsFit := by
    intro owner howner
    simp [looseResource, Json.IntsFit, Json.MembersFit, Json.ItemsFit, howner]
  have hraw : ∀ owner text, looseResource owner ≠ .str text := fun _ _ => Json.noConfusion
  constructor
  · rcases (gate_agrees (hfit (.str "owner@1") trivial) (by decide) (hraw _)).1 with
      hrefused | haccepted
    · obtain ⟨error, herror⟩ := hrefused.mapped
      have hsome : (Mapper.byEntry (looseResource (.str "owner@1"))).toOption.isSome = true := by
        decide +kernel
      rw [herror] at hsome
      cases hsome
    · exact haccepted
  · rcases (gate_agrees (hfit .null trivial) (by decide) (hraw _)).1 with
      hrefused | ⟨record, identifier, version, store, haccepted⟩
    · exact hrefused
    · have hnone : (Mapper.byEntry (looseResource .null)).toOption = none := by decide +kernel
      rw [haccepted.mapped] at hnone
      cases hnone

end Intake
