import Intake.Proofs.Store.Listing
import Mathlib.Tactic.Tauto

/-!
# Delivery order and repetitions do not matter

A delivery files the item of its entry unless the type and the identifier are stored already, and
does nothing else.  As long as events with one type and identifier carry one entry, what is stored in
the end is therefore told by the store at the start and by which events occurred: their order and
their number leave no trace.  The second part reads the replies of one run in the same way.
-/

namespace Intake

/-- The type and the identifier of an entry, which are stored only once. -/
def Entry.handle (entry : Entry) : EntryType × Identifier := (entry.entryType, entry.identifier)

/-- Events with one type and identifier carry one entry.  Events without an entry do not count. -/
def Agree (events : List Json) : Prop :=
  ∀ first ∈ events, ∀ second ∈ events, ∀ entry other, Delivery.entryOf first = .ok entry →
    Delivery.entryOf second = .ok other → entry.handle = other.handle → entry = other

theorem Agree.of_subset {events others : List Json} (hagree : Agree events)
    (hsubset : ∀ event ∈ others, event ∈ events) : Agree others :=
  fun first hfirst second hsecond =>
    hagree first (hsubset first hfirst) second (hsubset second hsecond)

namespace MemoryStore

/-- Whether a type and an identifier are stored. -/
def Stores (store : MemoryStore) (handle : EntryType × Identifier) : Prop :=
  ∃ key stored, store.get? key = some stored ∧ (stored.entryType, stored.identifier) = handle

/-- The store after deliveries. -/
def delivered (store : MemoryStore) (events : List Json) : MemoryStore :=
  (asEntryStore.history (events.map .deliver) store).2

/-- What a delivery replies after others. -/
def replyAfter (store : MemoryStore) (before : List Json) (event : Json) :
    Except DeliveryError Delivery :=
  (asEntryStore.deliver event (store.delivered before)).1

section Delivered

variable {store : MemoryStore} {event : Json} {entry : Entry} {item : Item}

theorem delivered_nil (store : MemoryStore) : store.delivered [] = store := rfl

theorem delivered_cons (store : MemoryStore) (event : Json) (events : List Json) :
    store.delivered (event :: events) =
      delivered (asEntryStore.deliver event store).2 events := rfl

theorem delivered_append (store : MemoryStore) (before after : List Json) :
    store.delivered (before ++ after) = (store.delivered before).delivered after := by
  rw [delivered, List.map_append, history_append]
  rfl

theorem Consistent.deliver (hconsistent : store.Consistent) (event : Json) :
    (asEntryStore.deliver event store).2.Consistent :=
  hconsistent.step (step_deliver event store)

theorem Consistent.delivered (hconsistent : store.Consistent) (events : List Json) :
    (store.delivered events).Consistent :=
  hconsistent.history _

theorem handle_of_item (hitem : entry.item = .ok item) :
    (item.entryType, item.identifier) = entry.handle :=
  Prod.ext (entryType_of_item hitem) (identifier_of_item hitem)

theorem Consistent.isTaken_iff_stores (hconsistent : store.Consistent)
    (hitem : entry.item = .ok item) : store.isTaken item = true ↔ store.Stores entry.handle := by
  simp only [hconsistent.isTaken_iff hitem, Stores, Entry.handle, Prod.mk.injEq]

/-- Consistent stores with the same items have the same reservations. -/
theorem Consistent.ext {other : MemoryStore} (hconsistent : store.Consistent)
    (hother : other.Consistent) (hget : ∀ key, store.get? key = other.get? key) :
    store = other := by
  have hle : ∀ {a b : MemoryStore}, a.Consistent → b.Consistent →
      (∀ key, a.get? key = b.get? key) → ∀ {guard key}, a.reservations.get? guard = some key →
        b.reservations.get? guard = some key := by
    intro a b ha hb hsame guard key hreserved
    obtain ⟨item, hitem, rfl⟩ := ha.occupied hreserved
    exact hb.guarded ((hsame key).symm.trans hitem)
  have hitems : store.items = other.items := SortedMap.ext_get? hget
  have hreservations : store.reservations = other.reservations := by
    apply SortedMap.ext_get?
    intro guard
    apply Option.ext
    intro key
    exact ⟨hle hconsistent hother hget, hle hother hconsistent fun key => (hget key).symm⟩
  cases store
  cases other
  cases hitems
  cases hreservations
  rfl

/-- The three things that a delivery may do. -/
theorem deliver_cases (store : MemoryStore) (event : Json) :
    (∃ entry item, Bears event entry item ∧ store.isTaken item = false ∧
        asEntryStore.deliver event store =
          (.ok (.created entry.identifier entry.rowVersion), store.file item)) ∨
      (∃ entry item, Bears event entry item ∧ store.isTaken item = true ∧
        asEntryStore.deliver event store =
          (.ok (.ofStored entry (store.get? item.keys.primary)), store)) ∨
      ((∀ entry item, ¬Bears event entry item) ∧
        ∃ error, asEntryStore.deliver event store = (.error error, store)) := by
  by_cases hborne : ∃ entry item, Bears event entry item
  · obtain ⟨entry, item, hentry, hitem⟩ := hborne
    cases htaken : store.isTaken item with
    | true =>
      have hdeliver := deliver_of_taken hentry (create_of_taken hitem htaken)
      exact .inr (.inl ⟨entry, item, ⟨hentry, hitem⟩, htaken, hdeliver⟩)
    | false =>
      have hdeliver := deliver_of_created hentry (create_of_free hitem htaken)
      rw [identifier_of_item hitem, rowVersion_of_item hitem] at hdeliver
      exact .inl ⟨entry, item, ⟨hentry, hitem⟩, htaken, hdeliver⟩
  · have hnone : ∀ entry item, ¬Bears event entry item :=
      fun entry item hbears => hborne ⟨entry, item, hbears⟩
    obtain ⟨error, -, hdeliver⟩ := deliver_of_unborne asEntryStore store hnone
    exact .inr (.inr ⟨hnone, error, hdeliver⟩)

theorem stores_file (hitem : entry.item = .ok item) (hfree : store.isTaken item = false)
    (handle : EntryType × Identifier) :
    (store.file item).Stores handle ↔ store.Stores handle ∨ entry.handle = handle := by
  constructor
  · rintro ⟨key, stored, hget, hhandle⟩
    rw [get?_file] at hget
    split at hget
    next =>
      cases hget
      exact .inr ((handle_of_item hitem).symm.trans hhandle)
    next => exact .inl ⟨key, stored, hget, hhandle⟩
  · rintro (⟨key, stored, hget, hhandle⟩ | rfl)
    · refine ⟨key, stored, ?_, hhandle⟩
      rw [get?_file, if_neg, hget]
      rintro rfl
      rw [(isTaken_eq_false.1 hfree).1] at hget
      cases hget
    · exact ⟨item.keys.primary, item, by rw [get?_file, if_pos rfl], handle_of_item hitem⟩

/-- After a delivery, the type and the identifier that it bears are stored, whoever stored them. -/
theorem stores_deliver_iff (hconsistent : store.Consistent) (event : Json)
    (handle : EntryType × Identifier) :
    (asEntryStore.deliver event store).2.Stores handle ↔
      store.Stores handle ∨ ∃ entry item, Bears event entry item ∧ entry.handle = handle := by
  rcases store.deliver_cases event with
    ⟨entry, item, hbears, hfree, hdeliver⟩ | ⟨entry, item, hbears, htaken, hdeliver⟩ |
      ⟨hnone, error, hdeliver⟩
  · rw [hdeliver, stores_file hbears.2 hfree]
    apply or_congr_right
    constructor
    · exact fun hhandle => ⟨entry, item, hbears, hhandle⟩
    · rintro ⟨other, otherItem, hother, hhandle⟩
      rw [(hbears.eq hother).1, hhandle]
  · rw [hdeliver]
    refine ⟨.inl, ?_⟩
    rintro (hstores | ⟨other, otherItem, hother, rfl⟩)
    · exact hstores
    · rw [← (hbears.eq hother).1]
      exact (hconsistent.isTaken_iff_stores hbears.2).1 htaken
  · rw [hdeliver]
    refine ⟨.inl, ?_⟩
    rintro (hstores | ⟨other, otherItem, hother, -⟩)
    · exact hstores
    · exact absurd hother (hnone other otherItem)

theorem stores_delivered_iff (hconsistent : store.Consistent) (events : List Json)
    (handle : EntryType × Identifier) :
    (store.delivered events).Stores handle ↔
      store.Stores handle ∨
        ∃ event ∈ events, ∃ entry item, Bears event entry item ∧ entry.handle = handle := by
  induction events generalizing store with
  | nil => simp [delivered_nil]
  | cons event events ih =>
    rw [delivered_cons, ih (hconsistent.deliver event), stores_deliver_iff hconsistent, or_assoc]
    rw [List.exists_mem_cons_iff]

/-- The events that bear an item whose type and identifier were not stored. -/
def Adds (store : MemoryStore) (events : List Json) (item : Item) : Prop :=
  ∃ event ∈ events, ∃ entry, Bears event entry item ∧ ¬store.Stores entry.handle

theorem get?_deliver_iff (hconsistent : store.Consistent) (event : Json) (key : KeyPair)
    (item : Item) :
    (asEntryStore.deliver event store).2.get? key = some item ↔
      store.get? key = some item ∨ item.keys.primary = key ∧ store.Adds [event] item := by
  have hadds : store.Adds [event] item ↔ ∃ entry, Bears event entry item ∧
      ¬store.Stores entry.handle := by
    simp only [Adds, List.mem_singleton, exists_eq_left]
  rw [hadds]
  rcases store.deliver_cases event with
    ⟨entry, own, hbears, hfree, hdeliver⟩ | ⟨entry, own, hbears, htaken, hdeliver⟩ |
      ⟨hnone, error, hdeliver⟩
  · have hnew : ¬store.Stores entry.handle := by
      rw [← hconsistent.isTaken_iff_stores hbears.2, hfree]
      exact Bool.false_ne_true
    rw [hdeliver, get?_file]
    constructor
    · intro hget
      split at hget
      next hkey =>
        cases hget
        exact .inr ⟨hkey.symm, entry, hbears, hnew⟩
      next => exact .inl hget
    · rintro (hget | ⟨rfl, other, hother, -⟩)
      · rw [if_neg, hget]
        rintro rfl
        rw [(isTaken_eq_false.1 hfree).1] at hget
        cases hget
      · rw [(hbears.eq hother).2, if_pos rfl]
  · rw [hdeliver]
    refine ⟨.inl, ?_⟩
    rintro (hget | ⟨-, other, hother, hnew⟩)
    · exact hget
    · rw [← (hbears.eq hother).1] at hnew
      exact absurd ((hconsistent.isTaken_iff_stores hbears.2).1 htaken) hnew
  · rw [hdeliver]
    refine ⟨.inl, ?_⟩
    rintro (hget | ⟨-, other, hother, -⟩)
    · exact hget
    · exact absurd hother (hnone other item)

/-- What is stored after deliveries is told by the store before them and by which events they
were. -/
theorem get?_delivered_iff (hconsistent : store.Consistent) {events : List Json}
    (hagree : Agree events) (key : KeyPair) (item : Item) :
    (store.delivered events).get? key = some item ↔
      store.get? key = some item ∨ item.keys.primary = key ∧ store.Adds events item := by
  induction events generalizing store with
  | nil => simp [delivered_nil, Adds]
  | cons event events ih =>
    have hlater : Agree events := hagree.of_subset fun _ h => List.mem_cons_of_mem _ h
    rw [delivered_cons, ih (hconsistent.deliver event) hlater, get?_deliver_iff hconsistent,
      or_assoc, ← and_or_left]
    apply or_congr_right
    apply and_congr_right
    intro _
    -- An entry that the first event has stored is not new for the later ones, which carry it too.
    constructor
    · rintro (⟨first, hfirst, entry, hbears, hnew⟩ | ⟨later, hlater, entry, hbears, hnew⟩)
      · rw [List.mem_singleton.1 hfirst] at hbears
        exact ⟨event, List.mem_cons_self, entry, hbears, hnew⟩
      · rw [stores_deliver_iff hconsistent] at hnew
        exact ⟨later, List.mem_cons_of_mem _ hlater, entry, hbears, fun h => hnew (.inl h)⟩
    · rintro ⟨later, hmem, entry, hbears, hnew⟩
      rcases List.mem_cons.1 hmem with rfl | hmem
      · exact .inl ⟨later, List.mem_cons_self, entry, hbears, hnew⟩
      · by_cases hstored : (asEntryStore.deliver event store).2.Stores entry.handle
        · rw [stores_deliver_iff hconsistent] at hstored
          obtain ⟨other, otherItem, hother, hhandle⟩ := hstored.resolve_left hnew
          have hsame := hagree event List.mem_cons_self later (List.mem_cons_of_mem _ hmem) other
            entry hother.1 hbears.1 hhandle
          rw [hsame] at hother
          have hitem := hother.2
          rw [hbears.2] at hitem
          cases hitem
          exact .inl ⟨event, List.mem_cons_self, entry, hother, hnew⟩
        · exact .inr ⟨later, hmem, entry, hbears, hstored⟩

theorem Adds.of_subset {events others : List Json} (hadds : store.Adds events item)
    (hsubset : ∀ event ∈ events, event ∈ others) : store.Adds others item := by
  obtain ⟨event, hevent, hnew⟩ := hadds
  exact ⟨event, hsubset event hevent, hnew⟩

/-- Runs of the same events end in the same store. -/
theorem delivered_eq_of_same (hconsistent : store.Consistent) {events others : List Json}
    (hagree : Agree events) (hsame : ∀ event, event ∈ others ↔ event ∈ events) :
    store.delivered others = store.delivered events := by
  have hothers : Agree others := hagree.of_subset fun event h => (hsame event).1 h
  apply (hconsistent.delivered others).ext (hconsistent.delivered events)
  intro key
  apply Option.ext
  intro item
  rw [get?_delivered_iff hconsistent hothers, get?_delivered_iff hconsistent hagree]
  apply or_congr_right
  apply and_congr_right
  intro _
  exact ⟨fun h => h.of_subset fun event => (hsame event).1,
    fun h => h.of_subset fun event => (hsame event).2⟩

end Delivered

/-! ## The replies of one run -/

section Replies

variable {store : MemoryStore} {events : List Json}

theorem ofStored_ne_created (entry : Entry) (stored : Option Item) (identifier : Identifier)
    (version : RowVersion) : Delivery.ofStored entry stored ≠ .created identifier version := by
  unfold Delivery.ofStored
  dsimp only
  split
  · exact Delivery.noConfusion
  · exact Delivery.noConfusion

/-- A delivery creates what no one has stored, neither before the run nor in it. -/
theorem replyAfter_created_iff (hconsistent : store.Consistent) (before : List Json)
    (event : Json) :
    (∃ identifier version, store.replyAfter before event = .ok (.created identifier version)) ↔
      ∃ entry item, Bears event entry item ∧ ¬(store.delivered before).Stores entry.handle := by
  have hbefore := hconsistent.delivered before
  unfold replyAfter
  rcases (store.delivered before).deliver_cases event with
    ⟨entry, item, hbears, hfree, hdeliver⟩ | ⟨entry, item, hbears, htaken, hdeliver⟩ |
      ⟨hnone, error, hdeliver⟩
  · rw [hdeliver]
    refine ⟨fun _ => ⟨entry, item, hbears, ?_⟩, fun _ => ⟨_, _, rfl⟩⟩
    rw [← hbefore.isTaken_iff_stores hbears.2, hfree]
    exact Bool.false_ne_true
  · rw [hdeliver]
    constructor
    · rintro ⟨identifier, version, hcreated⟩
      exact absurd (Except.ok.inj hcreated) (ofStored_ne_created _ _ _ _)
    · rintro ⟨other, otherItem, hother, hnew⟩
      rw [← (hbears.eq hother).1] at hnew
      exact absurd ((hbefore.isTaken_iff_stores hbears.2).1 htaken) hnew
  · rw [hdeliver]
    constructor
    · rintro ⟨identifier, version, hcreated⟩
      cases hcreated
    · rintro ⟨other, otherItem, hother, -⟩
      exact absurd hother (hnone other otherItem)

/-- What the replies of a run and its stores tell, at any place of the run. -/
structure Orderly (store : MemoryStore) (events : List Json) : Prop where
  /-- A delivery creates exactly when it is the first one with its type and identifier, these were
  free at the start and the keys of its entry can be made. -/
  created_iff : ∀ before event after, events = before ++ event :: after →
    ((∃ identifier version, store.replyAfter before event = .ok (.created identifier version)) ↔
      ∃ entry keys, Delivery.entryOf event = .ok entry ∧ entry.keys = .ok keys ∧
        ¬store.Stores entry.handle ∧
          ∀ earlier ∈ before, ∀ other, Delivery.entryOf earlier = .ok other →
            other.handle ≠ entry.handle)
  /-- No type and identifier are created twice. -/
  created_once : ∀ before first between second after entry other identifier version again latest,
    events = before ++ first :: (between ++ second :: after) →
      Delivery.entryOf first = .ok entry → Delivery.entryOf second = .ok other →
        store.replyAfter before first = .ok (.created identifier version) →
          store.replyAfter (before ++ first :: between) second = .ok (.created again latest) →
            entry.handle ≠ other.handle
  /-- After its creation an entry is only a duplicate. -/
  duplicate : ∀ before first between second after entry identifier version,
    events = before ++ first :: (between ++ second :: after) →
      Delivery.entryOf first = .ok entry → Delivery.entryOf second = .ok entry →
        store.replyAfter before first = .ok (.created identifier version) →
          store.replyAfter (before ++ first :: between) second =
            .ok (.duplicate entry.identifier)
  /-- No delivery changes or removes what is stored. -/
  kept : ∀ before event after, events = before ++ event :: after →
    ∀ key item, (store.delivered before).get? key = some item →
      (store.delivered (before ++ [event])).get? key = some item

/-- An entry is created when nothing is stored of its type and identifier and no earlier event was
about them. -/
theorem replyAfter_created_iff_first (hconsistent : store.Consistent) (hagree : Agree events)
    {before after : List Json} {event : Json} (hevents : events = before ++ event :: after) :
    (∃ identifier version, store.replyAfter before event = .ok (.created identifier version)) ↔
      ∃ entry keys, Delivery.entryOf event = .ok entry ∧ entry.keys = .ok keys ∧
        ¬store.Stores entry.handle ∧
          ∀ earlier ∈ before, ∀ other, Delivery.entryOf earlier = .ok other →
            other.handle ≠ entry.handle := by
  subst hevents
  rw [replyAfter_created_iff hconsistent]
  constructor
  · rintro ⟨entry, item, ⟨hentry, hitem⟩, hnew⟩
    rw [stores_delivered_iff hconsistent, not_or] at hnew
    obtain ⟨keys, hkeys, -⟩ := Entry.item_eq_ok_iff.1 hitem
    refine ⟨entry, keys, hentry, hkeys, hnew.1, ?_⟩
    intro earlier hearlier other hother hhandle
    have hsame := hagree earlier (List.mem_append_left _ hearlier) event
      (List.mem_append_right _ List.mem_cons_self) other entry hother hentry hhandle
    rw [hsame] at hother
    exact hnew.2 ⟨earlier, hearlier, entry, item, ⟨hother, hitem⟩, rfl⟩
  · rintro ⟨entry, keys, hentry, hkeys, hfree, hfirst⟩
    refine ⟨entry, _, ⟨hentry, Entry.item_eq_ok_iff.2 ⟨keys, hkeys, rfl⟩⟩, ?_⟩
    rw [stores_delivered_iff hconsistent, not_or]
    refine ⟨hfree, ?_⟩
    rintro ⟨earlier, hearlier, other, item, hother, hhandle⟩
    exact hfirst earlier hearlier other hother.1 hhandle

/-- What one delivery has created is still stored after others. -/
theorem get?_delivered_of_created (hconsistent : store.Consistent) {before between : List Json}
    {first : Json} (hbetween : Agree between) (hbears : Bears first entry item)
    (hnew : ¬(store.delivered before).Stores entry.handle) :
    (store.delivered (before ++ first :: between)).get? item.keys.primary = some item := by
  have hbefore := hconsistent.delivered before
  have hfiled : (asEntryStore.deliver first (store.delivered before)).2.get?
      item.keys.primary = some item :=
    (get?_deliver_iff hbefore first _ item).2
      (.inr ⟨rfl, first, List.mem_cons_self, entry, hbears, hnew⟩)
  rw [delivered_append, delivered_cons]
  exact (get?_delivered_iff (hbefore.deliver first) hbetween _ item).2 (.inl hfiled)

theorem orderly (hconsistent : store.Consistent) (hagree : Agree events) :
    store.Orderly events := by
  constructor
  case created_iff =>
    exact fun before event after hevents =>
      replyAfter_created_iff_first hconsistent hagree hevents
  case created_once =>
    intro before first between second after entry other _ _ _ _ hevents hentry hother _ hagain
    rw [← List.cons_append, ← List.append_assoc] at hevents
    obtain ⟨found, -, hfound, -, -, hfirst⟩ :=
      (replyAfter_created_iff_first hconsistent hagree hevents).1 ⟨_, _, hagain⟩
    rw [hother] at hfound
    cases hfound
    exact hfirst first (List.mem_append_right _ List.mem_cons_self) entry hentry
  case duplicate =>
    rintro before first between second after entry identifier version rfl hentry hsecond hreply
    obtain ⟨found, item, hbears, hnew⟩ :=
      (replyAfter_created_iff hconsistent before first).1 ⟨_, _, hreply⟩
    have hfound := hbears.1
    rw [hentry] at hfound
    cases hfound
    have hbetween : Agree between := hagree.of_subset fun event hevent =>
      List.mem_append_right _ (List.mem_cons_of_mem _ (List.mem_append_left _ hevent))
    have hstored := get?_delivered_of_created hconsistent hbetween hbears hnew
    rw [replyAfter, deliver_of_stored hsecond hbears.2 hstored]
  case kept =>
    intro before event after _ key item hget
    rw [delivered_append, delivered_cons, delivered_nil]
    exact (get?_deliver_iff (hconsistent.delivered before) event key item).2 (.inl hget)

/-- Events delivered in any order and as often as one likes leave the same store, whatever was done
to it before, and every run of them is orderly. -/
theorem deliveries_confluent (operations : List Operation) {events others : List Json}
    (hagree : Agree events) (hsame : ∀ event, event ∈ others ↔ event ∈ events) :
    let store := (asEntryStore.history operations empty).2
    store.delivered others = store.delivered events ∧ store.Orderly events ∧
      store.Orderly others := by
  intro store
  have hconsistent : store.Consistent := Consistent.empty.history operations
  have hothers : Agree others := hagree.of_subset fun event h => (hsame event).1 h
  exact ⟨delivered_eq_of_same hconsistent hagree hsame, orderly hconsistent hagree,
    orderly hconsistent hothers⟩

/-- An event with an entry as text. -/
def textEvent (entry : Entry) : Json := .obj [("detail", .str entry.render)]

theorem entryOf_textEvent (entry : Entry) : Delivery.entryOf (textEvent entry) = .ok entry := by
  have hdetail : (textEvent entry).get? "detail" = some (.str entry.render) := rfl
  simp only [Delivery.entryOf, hdetail, Entry.parse_render, mapError_ok]

/-- A request to approve a resource, under the identifier of the resource. -/
def approvalOf (resource : Entry) : Entry :=
  { resource with content := .approvalRequest ⟨.new, resource.identifier⟩ none }

theorem agree_textEvents {entry other : Entry} (hhandle : entry.handle ≠ other.handle) :
    Agree [textEvent entry, textEvent other, .null] := by
  have hcarried : ∀ event ∈ [textEvent entry, textEvent other, .null], ∀ carried,
      Delivery.entryOf event = .ok carried → carried = entry ∨ carried = other := by
    simp only [List.forall_mem_cons, entryOf_textEvent]
    refine ⟨?_, ?_, ?_, List.forall_mem_nil _⟩
    · rintro carried ⟨⟩
      exact .inl rfl
    · rintro carried ⟨⟩
      exact .inr rfl
    · rintro carried ⟨⟩
  intro first hfirst second hsecond a b ha hb hsame
  rcases hcarried first hfirst a ha with rfl | rfl <;>
    rcases hcarried second hsecond b hb with rfl | rfl
  · rfl
  · exact absurd hsame hhandle
  · exact absurd hsame.symm hhandle
  · rfl

/-- A resource of another owner than the stored one, a new request and a malformed event. -/
theorem deliveries_confluent_of_stored :
    let resource := bareResource (some "owner@1")
    let store := (asEntryStore.history [.create resource] empty).2
    let moved := textEvent (bareResource (some "owner@2"))
    let request := textEvent (approvalOf resource)
    Agree [moved, request, .null] ∧
      store.delivered [.null, request, moved, request] = store.delivered [moved, request, .null] ∧
        store.Orderly [moved, request, .null] ∧
          store.Orderly [.null, request, moved, request] := by
  have hreordered : ∀ a b c event : Json, event ∈ [c, b, a, b] ↔ event ∈ [a, b, c] := by
    intro a b c event
    simp only [List.mem_cons, List.not_mem_nil, or_false]
    tauto
  intro resource store moved request
  have hhandle : (bareResource (some "owner@2")).handle ≠ (approvalOf resource).handle := by
    intro hhandle
    have htype : EntryType.resource = .approvalRequest := congrArg Prod.fst hhandle
    exact absurd htype (by decide)
  have hagree : Agree [moved, request, .null] := agree_textEvents hhandle
  exact ⟨hagree, deliveries_confluent [.create resource] hagree (hreordered moved request .null)⟩

end Replies

end MemoryStore

end Intake
