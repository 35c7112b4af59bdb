import Intake.Proofs.Store.Outcome
import Intake.Proofs.Table.Pages

/-!
# Deliveries to the table

What a delivery says is what the service replied.  It writes once, both rows in one transaction and
each where none is yet.  Only if that was cancelled for a condition does it ask once more, for the
row that is in the way, and only that row can make it a duplicate or a conflict.  Whatever else the
service replies is an error, so that the event is delivered again.
-/

namespace Intake

namespace Table

/-- A request with the reply that it got. -/
structure Answered where
  request : Request
  reply : Reply

section Client

variable {σ : Type}

/-- A client that keeps a log of what it is asked and what it answers. -/
def Client.recorded (client : Client σ) : Client (σ × List Answered) :=
  fun request (state, log) =>
    let (reply, next) := client request state
    (reply, (next, log ++ [⟨request, reply⟩]))

theorem Client.recorded_of_eq {client : Client σ} {request : Request} {reply : Reply}
    {state next : σ} (hreply : client request state = (reply, next)) (log : List Answered) :
    client.recorded request (state, log) = (reply, (next, log ++ [⟨request, reply⟩])) := by
  simp only [recorded, hreply]

end Client

/-! ## Rows that are read back -/

/-- The look-up found no row. -/
def GivesNothing (reply : Reply) : Prop := ∃ output, reply = .done output ∧ output.item = none

/-- The look-up found a row whose data are an entry of a version that can be keyed. -/
def GivesVersion (reply : Reply) (version : RowVersion) : Prop :=
  ∃ output attributes data stored keys, reply = .done output ∧ output.item = some attributes ∧
    (SortedMap.ofList (AttributeValue.membersToJson attributes)).get? Attribute.data = some data ∧
    Entry.decode data = .ok stored ∧ stored.keys = .ok keys ∧ stored.rowVersion = version

/-- A row is read as the item of the entry that its data hold. -/
theorem toItem_eq_ok_iff {attributes : AttributeMap} {item : Item} :
    toItem attributes = .ok item ↔
      ∃ data stored,
        (SortedMap.ofList (AttributeValue.membersToJson attributes)).get? Attribute.data =
          some data ∧
        Entry.decode data = .ok stored ∧ stored.item = .ok item := by
  rw [toItem, mapError_eq_ok_iff, Item.ofAttributes]
  cases hdata : (SortedMap.ofList (AttributeValue.membersToJson attributes)).get?
      Attribute.data with
  | none => simp
  | some data => simp [bind_eq_ok_iff, mapError_eq_ok_iff]

theorem toItem_error {attributes : AttributeMap} {error : StoreError}
    (herror : toItem attributes = .error error) : ∃ outage, error = .unavailable outage := by
  rw [toItem] at herror
  cases hread : Item.ofAttributes (.ofList (AttributeValue.membersToJson attributes)) with
  | ok item =>
    rw [hread] at herror
    cases herror
  | error e =>
    rw [hread] at herror
    cases herror
    exact ⟨_, rfl⟩

/-- What a look-up under a key makes of the reply. -/
def readBack (key : KeyPair) : Reply → Except StoreError (Option Item)
  | .done output =>
    match output.item with
    | none => .ok none
    | some attributes => (toItem attributes).map some
  | _ => .error (failed (.get key))

section ReadBack

variable {key : KeyPair} {reply : Reply}

theorem get_eq {σ : Type} {client : Client σ} {state next : σ}
    (hreply : client (.get key) state = (reply, next)) :
    get client key state = (readBack key reply, next) := by
  simp only [get, bind, StateT.bind, hreply, readBack]
  cases reply with
  | done output => cases hitem : output.item <;> simp only [hitem] <;> rfl
  | refused code reasons => rfl
  | unreachable => rfl

theorem readBack_eq_none_iff : readBack key reply = .ok none ↔ GivesNothing reply := by
  constructor
  · intro hnone
    unfold readBack at hnone
    split at hnone
    next output =>
      split at hnone
      next hitem => exact ⟨output, rfl, hitem⟩
      next attributes hitem =>
        obtain ⟨item, -, hsome⟩ := map_eq_ok_iff.1 hnone
        cases hsome
    next => cases hnone
  · rintro ⟨output, rfl, hitem⟩
    simp only [readBack, hitem]

theorem readBack_version_iff {version : RowVersion} :
    (∃ stored, readBack key reply = .ok stored ∧ stored.map Item.rowVersion = some version) ↔
      GivesVersion reply version := by
  constructor
  · rintro ⟨stored, hread, hversion⟩
    obtain ⟨item, rfl, rfl⟩ := Option.map_eq_some_iff.1 hversion
    unfold readBack at hread
    split at hread
    next output =>
      split at hread
      next => cases hread
      next attributes hitem =>
        obtain ⟨_, hread, ⟨⟩⟩ := map_eq_ok_iff.1 hread
        obtain ⟨data, stored, hdata, hdecode, hstored⟩ := toItem_eq_ok_iff.1 hread
        obtain ⟨keys, hkeys, rfl⟩ := Entry.item_eq_ok_iff.1 hstored
        exact ⟨output, attributes, data, stored, keys, rfl, hitem, hdata, hdecode, hkeys, rfl⟩
    next => cases hread
  · rintro ⟨output, attributes, data, stored, keys, rfl, hitem, hdata, hdecode, hkeys, rfl⟩
    obtain ⟨item, hstored, hversion⟩ : ∃ item, stored.item = .ok item ∧
        item.rowVersion = stored.rowVersion := ⟨_, Entry.item_eq_ok_iff.2 ⟨keys, hkeys, rfl⟩, rfl⟩
    have hread := toItem_eq_ok_iff.2 ⟨data, stored, hdata, hdecode, hstored⟩
    refine ⟨some item, ?_, congrArg some hversion⟩
    simp only [readBack, hitem, hread]
    rfl

theorem readBack_error {error : StoreError} (herror : readBack key reply = .error error) :
    ∃ outage, error = .unavailable outage := by
  unfold readBack at herror
  split at herror
  next output =>
    split at herror
    next => cases herror
    next attributes hitem =>
      cases hread : toItem attributes with
      | ok item =>
        rw [hread] at herror
        cases herror
      | error e =>
        rw [hread] at herror
        cases herror
        exact toItem_error hread
  next =>
    cases herror
    exact ⟨_, rfl⟩

end ReadBack

/-! ## What a delivery makes of the replies -/

/-- The transaction was cancelled, and a condition that did not hold is one of the reasons. -/
def IsCancelled (reply : Reply) : Prop :=
  ∃ reasons, reply = .refused "TransactionCanceledException" reasons ∧
    some "ConditionalCheckFailed" ∈ reasons

theorem isConditionCancellation_iff {reply : Reply} :
    isConditionCancellation reply = true ↔ IsCancelled reply := by
  cases reply with
  | done output => simp [isConditionCancellation, IsCancelled]
  | refused code reasons =>
    simp only [isConditionCancellation, Bool.and_eq_true, beq_iff_eq, List.contains_iff_mem,
      IsCancelled, Reply.refused.injEq]
    constructor
    · rintro ⟨rfl, hreason⟩
      exact ⟨reasons, ⟨rfl, rfl⟩, hreason⟩
    · rintro ⟨_, ⟨rfl, rfl⟩, hreason⟩
      exact ⟨rfl, hreason⟩
  | unreachable => simp [isConditionCancellation, IsCancelled]

/-- What is said of an entry, given the reply to its write and the reply to its look-up if there was
one. -/
structure Acknowledges (entry : Entry) (first : Reply) (second : Option Reply)
    (result : Except DeliveryError Delivery) : Prop where
  looks_iff : second.isSome = true ↔ IsCancelled first
  created_iff : result = .ok (.created entry.identifier entry.rowVersion) ↔
    ∃ output, first = .done output
  duplicate_iff : result = .ok (.duplicate entry.identifier) ↔
    ∃ reply, second = some reply ∧ GivesVersion reply entry.rowVersion
  conflict_none_iff : result = .ok (.conflict entry.identifier none entry.rowVersion) ↔
    ∃ reply, second = some reply ∧ GivesNothing reply
  conflict_some_iff : ∀ version,
    result = .ok (.conflict entry.identifier (some version) entry.rowVersion) ↔
      version ≠ entry.rowVersion ∧ ∃ reply, second = some reply ∧ GivesVersion reply version
  unavailable : (∀ output, first ≠ .done output) →
    (∀ reply, second = some reply → ¬GivesNothing reply ∧ ∀ version, ¬GivesVersion reply version) →
      ∃ outage, result = .error (.write (.store (.unavailable outage)))
  nothing_else : result = .ok (.created entry.identifier entry.rowVersion) ∨
    result = .ok (.duplicate entry.identifier) ∨
    (∃ version, result = .ok (.conflict entry.identifier version entry.rowVersion)) ∨
    ∃ outage, result = .error (.write (.store (.unavailable outage)))

/-- What a delivery says after the look-up of a row that is in the way. -/
def afterLookUp (entry : Entry) (key : KeyPair) (reply : Reply) : Except DeliveryError Delivery :=
  match readBack key reply with
  | .ok stored => .ok (.ofStored entry stored)
  | .error error => .error (.write (.store error))

section Replies

variable {entry : Entry} {first second : Reply}

theorem acknowledges_of_done (entry : Entry) (output : Output) :
    Acknowledges entry (.done output) none
      (.ok (.created entry.identifier entry.rowVersion)) where
  looks_iff := ⟨nofun, nofun⟩
  created_iff := ⟨fun _ => ⟨output, rfl⟩, fun _ => rfl⟩
  duplicate_iff := ⟨nofun, nofun⟩
  conflict_none_iff := ⟨nofun, nofun⟩
  conflict_some_iff _ := ⟨nofun, nofun⟩
  unavailable hfirst := absurd rfl (hfirst output)
  nothing_else := .inl rfl

theorem acknowledges_of_failed (entry : Entry) (outage : Outage) (hdone : isDone first = false)
    (hcancelled : isConditionCancellation first = false) :
    Acknowledges entry first none (.error (.write (.store (.unavailable outage)))) where
  looks_iff := by
    rw [← isConditionCancellation_iff, hcancelled]
    exact Iff.rfl
  created_iff := by
    refine ⟨nofun, ?_⟩
    rintro ⟨output, rfl⟩
    cases hdone
  duplicate_iff := ⟨nofun, nofun⟩
  conflict_none_iff := ⟨nofun, nofun⟩
  conflict_some_iff _ := ⟨nofun, nofun⟩
  unavailable _ _ := ⟨outage, rfl⟩
  nothing_else := .inr (.inr (.inr ⟨outage, rfl⟩))

theorem afterLookUp_eq_ok_iff {key : KeyPair} {delivery : Delivery} :
    afterLookUp entry key second = .ok delivery ↔
      ∃ stored, readBack key second = .ok stored ∧ Delivery.ofStored entry stored = delivery := by
  unfold afterLookUp
  cases readBack key second with
  | error e => simp
  | ok stored => simp

theorem acknowledges_of_cancelled (entry : Entry) (key : KeyPair) (second : Reply)
    (hcancelled : isConditionCancellation first = true) :
    Acknowledges entry first (some second) (afterLookUp entry key second) := by
  have hfirst := isConditionCancellation_iff.1 hcancelled
  have hsome : ∀ {P : Reply → Prop}, (∃ reply, some second = some reply ∧ P reply) ↔ P second := by
    simp
  constructor
  case looks_iff => exact ⟨fun _ => hfirst, fun _ => rfl⟩
  case created_iff =>
    constructor
    · intro hcreated
      obtain ⟨stored, -, hstored⟩ := afterLookUp_eq_ok_iff.1 hcreated
      rcases Delivery.ofStored_cases entry stored with heq | ⟨version, heq⟩
      · cases heq.symm.trans hstored
      · cases heq.symm.trans hstored
    · rintro ⟨output, rfl⟩
      cases hcancelled
  case duplicate_iff =>
    rw [afterLookUp_eq_ok_iff, hsome, ← @readBack_version_iff key]
    simp only [Delivery.ofStored_eq_duplicate_iff]
  case conflict_none_iff =>
    rw [afterLookUp_eq_ok_iff, hsome, ← @readBack_eq_none_iff key]
    simp [Delivery.ofStored_eq_conflict_iff]
  case conflict_some_iff =>
    intro version
    rw [afterLookUp_eq_ok_iff, hsome, ← @readBack_version_iff key]
    simp only [Delivery.ofStored_eq_conflict_iff, ne_eq, Option.some.injEq]
    constructor
    · rintro ⟨stored, hread, hversion, hother⟩
      exact ⟨hother, stored, hread, hversion⟩
    · rintro ⟨hother, stored, hread, hversion⟩
      exact ⟨stored, hread, hversion, hother⟩
  case unavailable =>
    intro _ hother
    obtain ⟨hnothing, hversion⟩ := hother second rfl
    unfold afterLookUp
    cases hread : readBack key second with
    | error e =>
      obtain ⟨outage, rfl⟩ := readBack_error hread
      exact ⟨outage, rfl⟩
    | ok stored =>
      cases stored with
      | none => exact absurd (readBack_eq_none_iff.1 hread) hnothing
      | some item =>
        exact absurd (readBack_version_iff.1 ⟨some item, hread, rfl⟩) (hversion item.rowVersion)
  case nothing_else =>
    unfold afterLookUp
    cases hread : readBack key second with
    | error e =>
      obtain ⟨outage, rfl⟩ := readBack_error hread
      exact .inr (.inr (.inr ⟨outage, rfl⟩))
    | ok stored =>
      rcases Delivery.ofStored_cases entry stored with heq | ⟨version, heq⟩
      · exact .inr (.inl (congrArg _ heq))
      · exact .inr (.inr (.inl ⟨version, congrArg _ heq⟩))

end Replies

section Deliver

variable {σ : Type} {client : Client σ} {event : Json} {entry : Entry} {item : Item}
  {first second : Reply} {state middle next : σ}

theorem isDone_of_cancelled (hcancelled : isConditionCancellation first = true) :
    isDone first = false := by
  cases first with
  | done output => cases hcancelled
  | refused code reasons => rfl
  | unreachable => rfl

/-- What a creation makes of the reply to its write. -/
theorem create_eq (pageLimit : Nat) (hitem : entry.item = .ok item)
    (hfirst : client (putIfAbsentRequest item) state = (first, next)) :
    (asEntryStore client pageLimit).create entry state =
      (if isDone first then .ok item
        else if isConditionCancellation first then
          .error (.store (.alreadyExists item.keys.primary))
        else .error (.store (failed (putIfAbsentRequest item))), next) := by
  simp only [EntryStore.create, hitem, asEntryStore, putIfAbsent, write, bind, StateT.bind, hfirst]
  cases isDone first with
  | true => rfl
  | false => cases isConditionCancellation first <;> rfl

/-- A delivery that is written is told of as created. -/
theorem deliver_of_done (pageLimit : Nat) (hbears : Bears event entry item) {output : Output}
    (hfirst : client (putIfAbsentRequest item) state = (.done output, next)) :
    (asEntryStore client pageLimit).deliver event state =
      (.ok (.created entry.identifier entry.rowVersion), next) := by
  obtain ⟨hentry, hitem⟩ := hbears
  have hcreate := create_eq pageLimit hitem hfirst
  obtain ⟨keys, -, rfl⟩ := Entry.item_eq_ok_iff.1 hitem
  simp only [EntryStore.deliver, hentry, bind, StateT.bind, hcreate]
  rfl

/-- A write that failed for anything but a condition is an error. -/
theorem deliver_of_failed (pageLimit : Nat) (hbears : Bears event entry item)
    (hfirst : client (putIfAbsentRequest item) state = (first, next))
    (hdone : isDone first = false) (hcancelled : isConditionCancellation first = false) :
    (asEntryStore client pageLimit).deliver event state =
      (.error (.write (.store (failed (putIfAbsentRequest item)))), next) := by
  obtain ⟨hentry, hitem⟩ := hbears
  have hcreate := create_eq pageLimit hitem hfirst
  rw [hdone, hcancelled] at hcreate
  simp only [EntryStore.deliver, hentry, bind, StateT.bind, hcreate]
  rfl

/-- After a cancelled write the delivery is what the row in the way makes it. -/
theorem deliver_of_cancelled (pageLimit : Nat) (hbears : Bears event entry item)
    (hfirst : client (putIfAbsentRequest item) state = (first, middle))
    (hcancelled : isConditionCancellation first = true)
    (hsecond : client (.get item.keys.primary) middle = (second, next)) :
    (asEntryStore client pageLimit).deliver event state =
      (afterLookUp entry item.keys.primary second, next) := by
  obtain ⟨hentry, hitem⟩ := hbears
  have hcreate := create_eq pageLimit hitem hfirst
  have hget : (asEntryStore client pageLimit).get item.keys.primary middle =
      (readBack item.keys.primary second, next) := get_eq hsecond
  rw [isDone_of_cancelled hcancelled, hcancelled] at hcreate
  simp only [EntryStore.deliver, hentry, bind, StateT.bind, hcreate, Bool.false_eq_true, if_false,
    if_true, hget, afterLookUp]
  cases readBack item.keys.primary second with
  | ok stored => rfl
  | error e => rfl

end Deliver

/-- How an event is handled: what is asked of the service, and what is said of it. -/
structure Handled {σ : Type} (client : Client σ) (pageLimit : Nat) (event : Json) (state : σ)
    (log : List Answered) (result : Except DeliveryError Delivery) (next : σ) : Prop where
  run_eq : (asEntryStore client pageLimit).deliver event state = (result, next)
  recorded_eq : (asEntryStore client.recorded pageLimit).deliver event (state, []) =
    (result, (next, log))
  /-- Nothing is asked for an event without an entry that can be keyed. -/
  unborne : (∀ entry item, ¬Bears event entry item) →
    log = [] ∧ ∃ error, result = .error error ∧ error.IsRefusal
  /-- For any other one its rows are written, and its key is looked up after that or nothing is. -/
  borne : ∀ entry item, Bears event entry item → ∃ first second,
    log = ⟨.transact [.put (ofItem item) .absent, .put (guardOf item) .absent], first⟩ ::
      second.toList.map (fun reply => ⟨.get item.keys.primary, reply⟩) ∧
    Acknowledges entry first second result
  /-- The puts are carried out where there is no row yet. -/
  absent_iff : ∀ row, Condition.absent.expression.holds? row =
    some (row.bind (·.lookup Attribute.partitionKey)).isNone
  /-- The look-up is of what is stored now. -/
  consistent : ∀ table key,
    ((Request.get key).toJson table).get? "ConsistentRead" = some (.bool true)

section Run

variable {σ : Type} (client : Client σ) (pageLimit : Nat) {event : Json} {entry : Entry}
  {item : Item}

/-- The requests that a delivery of an entry makes, with the replies to them. -/
theorem exists_replies (hbears : Bears event entry item) (state : σ) :
    ∃ first second result next,
      (asEntryStore client pageLimit).deliver event state = (result, next) ∧
      (asEntryStore client.recorded pageLimit).deliver event (state, []) =
        (result, (next, ⟨putIfAbsentRequest item, first⟩ ::
          second.toList.map fun reply => ⟨.get item.keys.primary, reply⟩)) ∧
      Acknowledges entry first second result := by
  rcases hfirst : client (putIfAbsentRequest item) state with ⟨first, middle⟩
  have hfirstRecorded := Client.recorded_of_eq hfirst []
  cases hcancelled : isConditionCancellation first with
  | true =>
    rcases hsecond : client (.get item.keys.primary) middle with ⟨second, next⟩
    have hsecondRecorded := Client.recorded_of_eq hsecond [⟨putIfAbsentRequest item, first⟩]
    exact ⟨first, some second, _, next,
      deliver_of_cancelled pageLimit hbears hfirst hcancelled hsecond,
      deliver_of_cancelled pageLimit hbears hfirstRecorded hcancelled hsecondRecorded,
      acknowledges_of_cancelled entry item.keys.primary second hcancelled⟩
  | false =>
    cases hdone : isDone first with
    | true =>
      cases first with
      | done output =>
        exact ⟨.done output, none, _, middle, deliver_of_done pageLimit hbears hfirst,
          deliver_of_done pageLimit hbears hfirstRecorded, acknowledges_of_done entry output⟩
      | refused code reasons => cases hdone
      | unreachable => cases hdone
    | false =>
      exact ⟨first, none, _, middle,
        deliver_of_failed pageLimit hbears hfirst hdone hcancelled,
        deliver_of_failed pageLimit hbears hfirstRecorded hdone hcancelled,
        acknowledges_of_failed entry _ hdone hcancelled⟩

theorem consistent_get (table : String) (key : KeyPair) :
    ((Request.get key).toJson table).get? "ConsistentRead" = some (.bool true) := by
  rfl

/-- An event is handled by one guarded write and, only after that was cancelled for a condition, by
one look-up; it is acknowledged for what these replied and for nothing else. -/
theorem deliver_handled (event : Json) (state : σ) :
    ∃ log result next, Handled client pageLimit event state log result next := by
  by_cases hborne : ∃ entry item, Bears event entry item
  · obtain ⟨entry, item, hbears⟩ := hborne
    obtain ⟨first, second, result, next, hrun, hrecorded, hacknowledges⟩ :=
      exists_replies client pageLimit hbears state
    let log : List Answered := ⟨putIfAbsentRequest item, first⟩ ::
      second.toList.map fun reply => ⟨.get item.keys.primary, reply⟩
    refine ⟨log, result, next, ?_⟩
    constructor
    case run_eq => exact hrun
    case recorded_eq => exact hrecorded
    case unborne => exact fun hnone => absurd hbears (hnone entry item)
    case borne =>
      intro other otherItem hother
      obtain ⟨rfl, rfl⟩ := hbears.eq hother
      exact ⟨first, second, rfl, hacknowledges⟩
    case absent_iff => exact holds?_absent
    case consistent => exact consistent_get
  · have hnone : ∀ entry item, ¬Bears event entry item := fun entry item hbears =>
      hborne ⟨entry, item, hbears⟩
    obtain ⟨error, hrefusal, hdeliver⟩ := exists_refusal hnone
    refine ⟨[], .error error, state, ?_⟩
    constructor
    case run_eq => exact hdeliver _ state
    case recorded_eq => exact hdeliver _ (state, [])
    case unborne => exact fun _ => ⟨rfl, error, rfl, hrefusal⟩
    case borne => exact fun entry item hbears => absurd hbears (hnone entry item)
    case absent_iff => exact holds?_absent
    case consistent => exact consistent_get

end Run

/-- A service that gives out its replies one after the other. -/
def scripted : Client (List Reply) := fun _ replies => (replies.headD .unreachable, replies.tail)

/-- The write is cancelled for its second action, and no row is found after that. -/
theorem deliver_handled_cancelled :
    let entry := MemoryStore.bareResource (some "owner@1")
    let event := MemoryStore.textEvent entry
    let replies : List Reply :=
      [.refused "TransactionCanceledException" [some "None", some "ConditionalCheckFailed"],
        .done ⟨none, [], none⟩]
    (∃ item, Bears event entry item) ∧
      ∃ log result next, Handled scripted 1 event replies log result next := by
  intro entry event replies
  obtain ⟨item, hitem⟩ := MemoryStore.exists_item_bareResource
  have hbears : Bears event entry item := ⟨MemoryStore.entryOf_textEvent entry, hitem⟩
  exact ⟨⟨item, hbears⟩, deliver_handled scripted 1 event replies⟩

end Table

end Intake
