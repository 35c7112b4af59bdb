import Intake.Except
import Intake.Store.Delivery

/-!
# Refused events

An event is refused for its own sake when it carries no entry, or one that cannot be keyed.  That is
settled before the store is asked, so it is the same for every store, and every other error of a
delivery is one of the store.
-/

namespace Intake

/-- An event carries an entry, and the entry can be keyed. -/
def Bears (event : Json) (entry : Entry) (item : Item) : Prop :=
  Delivery.entryOf event = .ok entry ∧ entry.item = .ok item

theorem Bears.eq {event : Json} {entry other : Entry} {item otherItem : Item}
    (hbears : Bears event entry item) (hother : Bears event other otherItem) :
    entry = other ∧ item = otherItem := by
  obtain ⟨hentry, hitem⟩ := hbears
  obtain ⟨hotherEntry, hotherItem⟩ := hother
  rw [hentry] at hotherEntry
  cases hotherEntry
  rw [hitem] at hotherItem
  cases hotherItem
  exact ⟨rfl, rfl⟩

/-- An error of the event itself: it carries no entry, or one that cannot be keyed. -/
def DeliveryError.IsRefusal : DeliveryError → Prop
  | .missingDetail => True
  | .invalidEntry _ => True
  | .write (.key _) => True
  | .write (.store _) => False
  | .write (.primaryKeyChanged _ _ _) => False

section Deliver

variable {σ : Type} (store : EntryStore σ) (state : σ) {event : Json} {entry : Entry} {item : Item}

theorem isRefusal_of_mapError {ε : Type} {result : Except ε Entry} {toError : ε → EntryError}
    {error : DeliveryError}
    (herror : result.mapError (fun e => .invalidEntry (toError e)) = .error error) :
    error.IsRefusal := by
  cases result with
  | ok entry => cases herror
  | error e =>
    cases herror
    trivial

theorem isRefusal_of_entryOf {error : DeliveryError}
    (herror : Delivery.entryOf event = .error error) : error.IsRefusal := by
  unfold Delivery.entryOf at herror
  split at herror
  next =>
    cases herror
    trivial
  next =>
    cases herror
    trivial
  next => exact isRefusal_of_mapError herror
  next => exact isRefusal_of_mapError herror

omit store state in
/-- An event without an entry that can be keyed is refused, with one error by all stores. -/
theorem exists_refusal (hnone : ∀ entry item, ¬Bears event entry item) :
    ∃ error : DeliveryError, error.IsRefusal ∧
      ∀ {τ : Type} (store : EntryStore τ) (state : τ),
        store.deliver event state = (.error error, state) := by
  cases hentry : Delivery.entryOf event with
  | error error =>
    refine ⟨error, isRefusal_of_entryOf hentry, fun store state => ?_⟩
    simp only [EntryStore.deliver, hentry]
    rfl
  | ok entry =>
    cases hitem : entry.item with
    | ok item => exact absurd ⟨hentry, hitem⟩ (hnone entry item)
    | error e =>
      refine ⟨.write (.key e), trivial, fun store state => ?_⟩
      simp only [EntryStore.deliver, EntryStore.create, hentry, hitem]
      rfl

/-- An event without an entry that can be keyed is refused before the store is asked. -/
theorem deliver_of_unborne (hnone : ∀ entry item, ¬Bears event entry item) :
    ∃ error, error.IsRefusal ∧ store.deliver event state = (.error error, state) := by
  obtain ⟨error, hrefusal, hdeliver⟩ := exists_refusal hnone
  exact ⟨error, hrefusal, hdeliver store state⟩

/-- An event with an entry that can be keyed is not refused, whatever the store answers. -/
theorem not_isRefusal_deliver (hbears : Bears event entry item) {error : DeliveryError}
    (herror : (store.deliver event state).1 = .error error) : ¬error.IsRefusal := by
  obtain ⟨hentry, hitem⟩ := hbears
  rcases hput : store.putIfAbsent item state with ⟨refused | ⟨⟩, next⟩
  · have hcreate : store.create entry state = (.error (.store refused), next) := by
      simp only [EntryStore.create, hitem, bind, StateT.bind, hput]
      rfl
    cases refused with
    | alreadyExists key =>
      -- Only here does the delivery ask the store again.
      rcases hget : store.get key next with ⟨outage | stored, last⟩
      · simp only [EntryStore.deliver, hentry, bind, StateT.bind, hcreate, hget] at herror
        cases herror
        exact id
      · simp only [EntryStore.deliver, hentry, bind, StateT.bind, hcreate, hget] at herror
        cases herror
    | concurrentModification key expected =>
      simp only [EntryStore.deliver, hentry, bind, StateT.bind, hcreate] at herror
      cases herror
      exact id
    | unavailable outage =>
      simp only [EntryStore.deliver, hentry, bind, StateT.bind, hcreate] at herror
      cases herror
      exact id
  · have hcreate : store.create entry state = (.ok item, next) := by
      simp only [EntryStore.create, hitem, bind, StateT.bind, hput]
      rfl
    simp only [EntryStore.deliver, hentry, bind, StateT.bind, hcreate] at herror
    cases herror

end Deliver

end Intake
