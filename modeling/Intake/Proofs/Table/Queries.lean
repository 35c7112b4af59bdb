import Intake.Proofs.Paging
import Intake.Proofs.Table.Deliveries
import Intake.Proofs.Traversal

/-!
# Queries that come in pages

A query goes on as long as the replies name a key to start from, and starts the next page at exactly
that key.  Rows are read only when all pages are there, so the result is all items, in the order of
their pages, or one error: that of the request that failed, or else that of the first row that
cannot be read.
-/

namespace Intake

namespace Table

/-! ## Rows that are read together -/

/-- The row holds an entry that can be keyed, and this is the item of the entry. -/
def Reads (row : AttributeMap) (item : Item) : Prop :=
  ∃ data stored,
    (SortedMap.ofList (AttributeValue.membersToJson row)).get? Attribute.data = some data ∧
      Entry.decode data = .ok stored ∧ stored.item = .ok item

/-- Why a row cannot be read. -/
inductive Spoils (row : AttributeMap) : ItemError → Prop where
  | noData (hdata : (SortedMap.ofList (AttributeValue.membersToJson row)).get? Attribute.data =
      none) : Spoils row (.missingAttribute Attribute.data)
  | undecodable {data : Json} {error : ShapeError}
      (hdata : (SortedMap.ofList (AttributeValue.membersToJson row)).get? Attribute.data =
        some data)
      (hdecode : Entry.decode data = .error error) : Spoils row (.data error)
  | unkeyed {data : Json} {stored : Entry} {error : KeyError}
      (hdata : (SortedMap.ofList (AttributeValue.membersToJson row)).get? Attribute.data =
        some data)
      (hdecode : Entry.decode data = .ok stored) (hkeys : stored.keys = .error error) :
      Spoils row (.key error)

section Rows

variable {row : AttributeMap} {rows : List AttributeMap}

theorem toItem_of_spoils {reason : ItemError} (hspoils : Spoils row reason) :
    toItem row = .error (.unavailable (.unreadableItem reason)) := by
  cases hspoils with
  | noData hdata =>
    rw [toItem, Item.ofAttributes, hdata]
    rfl
  | undecodable hdata hdecode =>
    simp only [toItem, Item.ofAttributes, hdata, hdecode]
    rfl
  | @unkeyed data stored error hdata hdecode hkeys =>
    have hitem : stored.item = .error error := by
      rw [Entry.item, hkeys, error_bind]
    simp only [toItem, Item.ofAttributes, hdata, hdecode, mapError_ok, ok_bind, hitem]
    rfl

theorem reads_or_spoils (row : AttributeMap) :
    (∃ item, Reads row item) ∨ ∃ reason, Spoils row reason := by
  cases hdata : (SortedMap.ofList (AttributeValue.membersToJson row)).get? Attribute.data with
  | none => exact .inr ⟨_, .noData hdata⟩
  | some data =>
    cases hdecode : Entry.decode data with
    | error error => exact .inr ⟨_, .undecodable hdata hdecode⟩
    | ok stored =>
      cases hkeys : stored.keys with
      | error error => exact .inr ⟨_, .unkeyed hdata hdecode hkeys⟩
      | ok keys =>
        exact .inl ⟨_, data, stored, hdata, hdecode, Entry.item_eq_ok_iff.2 ⟨keys, hkeys, rfl⟩⟩

theorem toItem_eq_error_iff {error : StoreError} :
    toItem row = .error error ↔
      ∃ reason, Spoils row reason ∧ error = .unavailable (.unreadableItem reason) := by
  constructor
  · intro herror
    rcases reads_or_spoils row with ⟨item, hreads⟩ | ⟨reason, hspoils⟩
    · cases (toItem_eq_ok_iff.2 hreads).symm.trans herror
    · cases (toItem_of_spoils hspoils).symm.trans herror
      exact ⟨reason, hspoils, rfl⟩
  · rintro ⟨reason, hspoils, rfl⟩
    exact toItem_of_spoils hspoils

/-- All rows are read, or the first one that cannot be read gives the error. -/
structure RowsRead (rows : List AttributeMap) (result : Except StoreError (List Item)) : Prop where
  ok_iff : ∀ items, result = .ok items ↔ List.Forall₂ Reads rows items
  error_iff : ∀ error, result = .error error ↔
    ∃ before row after reason, rows = before ++ row :: after ∧
      (∀ other ∈ before, ∃ item, Reads other item) ∧ Spoils row reason ∧
        error = .unavailable (.unreadableItem reason)

theorem rowsRead (rows : List AttributeMap) : RowsRead rows (rows.mapM toItem) := by
  have hreads : ∀ row item, toItem row = .ok item ↔ Reads row item := fun _ _ => toItem_eq_ok_iff
  constructor
  case ok_iff =>
    intro items
    simp only [mapM_eq_ok_iff, hreads]
  case error_iff =>
    intro error
    simp only [mapM_eq_error_iff, hreads, toItem_eq_error_iff, exists_and_left]

end Rows

/-! ## Pages -/

/-- The reply names the key that the next page starts from. -/
def Reply.LeadsTo (reply : Reply) (key : AttributeMap) : Prop :=
  ∃ output, reply = .done output ∧ output.lastKey = some key ∧ key ≠ []

/-- The rows on the page in a reply. -/
def Reply.rows : Reply → List AttributeMap
  | .done output => output.items
  | _ => []

section Pages

variable {σ : Type} (client : Client σ) (index : StoreIndex) (partition : String)

/-- The pages of a query. -/
def paging : Paging σ AttributeMap Reply AttributeMap StoreError where
  ask start := client (.query index partition start)
  read
    | .done output => .ok (output.items, nextStart output)
    | _ => .error (.unavailable (.operationFailed "Query"))

/-- A turn of a query as the log of the client has it. -/
def answeredQuery (turn : Paging.Turn AttributeMap Reply) : Answered :=
  ⟨.query index partition turn.start, turn.reply⟩

theorem nextStart_eq_some_iff {output : Output} {key : AttributeMap} :
    nextStart output = some key ↔ output.lastKey = some key ∧ key ≠ [] := by
  rcases hlast : output.lastKey with _ | _ | ⟨first, rest⟩
  · simp [nextStart, hlast]
  · simp [nextStart, hlast]
  · simp only [nextStart, hlast, Option.some.injEq]
    constructor
    · rintro rfl
      exact ⟨rfl, List.cons_ne_nil first rest⟩
    · exact And.left

theorem leadsTo_paging_iff {reply : Reply} {key : AttributeMap} :
    (paging client index partition).LeadsTo reply key ↔ reply.LeadsTo key := by
  cases reply with
  | done output =>
    simp only [Paging.LeadsTo, paging, Except.ok.injEq, Prod.mk.injEq, exists_eq_left',
      nextStart_eq_some_iff, Reply.LeadsTo, Reply.done.injEq]
  | refused code reasons => simp [Paging.LeadsTo, paging, Reply.LeadsTo]
  | unreachable => simp [Paging.LeadsTo, paging, Reply.LeadsTo]

theorem queryPages_eq (pages : Nat) (start : Option AttributeMap) :
    queryPages client index partition pages start =
      (paging client index partition).collect (.unavailable .endlessListing) pages start := by
  induction pages generalizing start with
  | zero => rfl
  | succ pages ih =>
    funext state
    simp only [queryPages, Paging.collect, paging, bind, StateT.bind]
    rcases client (.query index partition start) state with ⟨reply, next⟩
    cases reply with
    | done output =>
      cases hnext : nextStart output with
      | none => simp only [hnext]
      | some key =>
        simp only [hnext, ih]
        rfl
    | refused code reasons => rfl
    | unreachable => rfl

theorem collects_query :
    (paging client index partition).Collects (.unavailable .endlessListing)
      (· >>= (·.mapM toItem)) fun pageLimit => query client pageLimit index partition := by
  intro pageLimit state
  rcases hfound : (paging client index partition).collect (.unavailable .endlessListing) pageLimit
    none state with ⟨found, next⟩
  simp only [query, queryPages_eq, bind, StateT.bind, hfound]
  cases found <;> rfl

theorem collects_recorded :
    ((paging client index partition).recorded (answeredQuery index partition)).Collects
      (.unavailable .endlessListing) (· >>= (·.mapM toItem))
      fun pageLimit => query client.recorded pageLimit index partition :=
  collects_query client.recorded index partition

theorem start_sent (table : String) (turn : Paging.Turn AttributeMap Reply) :
    ((answeredQuery index partition turn).request.toJson table).get? "ExclusiveStartKey" =
      turn.start.map mapToJson := by
  obtain ⟨start, reply⟩ := turn
  cases index <;> cases start <;> rfl

end Pages

/-- A query that ends: its turns, its result, and the state of the service after it. -/
structure Queried {σ : Type} (client : Client σ) (index : StoreIndex) (partition : String)
    (state : σ) (turns : List (Paging.Turn AttributeMap Reply))
    (result : Except StoreError (List Item)) (next : σ) : Prop where
  ended : Paging.Ended Reply.LeadsTo (answeredQuery index partition)
    (fun pageLimit => query client pageLimit index partition)
    (fun pageLimit => query client.recorded pageLimit index partition) state turns result next
  /-- A request carries the start of its page as it is, and the first one carries none. -/
  sent : ∀ table, ∀ turn ∈ turns,
    ((answeredQuery index partition turn).request.toJson table).get? "ExclusiveStartKey" =
      turn.start.map mapToJson
  failed : ∀ turn ∈ turns, (∀ output, turn.reply ≠ .done output) →
    result = .error (.unavailable (.operationFailed "Query"))
  read : (∀ turn ∈ turns, ∃ output, turn.reply = .done output) →
    RowsRead (turns.flatMap fun turn => turn.reply.rows) result

section Run

variable {σ : Type} {client : Client σ} {index : StoreIndex} {partition : String} {state next : σ}
  {turns : List (Paging.Turn AttributeMap Reply)}

theorem read_of_not_done {reply : Reply} (hreply : ∀ output, reply ≠ .done output) :
    (paging client index partition).read reply =
      .error (.unavailable (.operationFailed "Query")) := by
  cases reply with
  | done output => exact absurd rfl (hreply output)
  | refused code reasons => rfl
  | unreachable => rfl

theorem queried_of_ended (hends : (paging client index partition).Ends none state turns next)
    (hended : Paging.Ended Reply.LeadsTo (answeredQuery index partition)
      (fun pageLimit => query client pageLimit index partition)
      (fun pageLimit => query client.recorded pageLimit index partition) state turns
      ((paging client index partition).outcome turns >>= (·.mapM toItem)) next) :
    Queried client index partition state turns
      ((paging client index partition).outcome turns >>= (·.mapM toItem)) next := by
  constructor
  case ended => exact hended
  case sent => exact fun table turn _ => start_sent index partition table turn
  case failed =>
    intro turn hmem hreply
    rw [hends.outcome_eq_error hmem (read_of_not_done hreply), error_bind]
  case read =>
    intro hdone
    have hfound : (paging client index partition).outcome turns =
        .ok (turns.flatMap fun turn => turn.reply.rows) := by
      apply Paging.outcome_eq_ok
      intro turn hmem
      obtain ⟨output, houtput⟩ := hdone turn hmem
      rw [houtput]
      rfl
    rw [hfound, ok_bind]
    exact rowsRead _

end Run

/-- A query asks for one page after another, each from the key that the reply before it named, for
as long as replies name one.  Its result has the items of all pages or is an error. -/
theorem query_paged {σ : Type} (client : Client σ) (index : StoreIndex) (partition : String)
    (state : σ) :
    (∃ turns result next, Queried client index partition state turns result next) ∨
      Paging.Endless Reply.LeadsTo (answeredQuery index partition)
        (fun pageLimit => query client pageLimit index partition)
        (fun pageLimit => query client.recorded pageLimit index partition)
        (.error (.unavailable .endlessListing)) state := by
  rcases Paging.ended_or_endless (leadsTo_paging_iff client index partition)
    (collects_query client index partition) (collects_recorded client index partition) state with
    ⟨turns, next, hends, hended⟩ | hendless
  · exact .inl ⟨turns, _, next, queried_of_ended hends hended⟩
  · exact .inr hendless

/-- A page without rows is not the last one, but one with an empty key is. -/
example :
    let key : AttributeMap := [(Attribute.partitionKey, .text "Resource")]
    let replies : List Reply :=
      [.done ⟨none, [], some key⟩, .done ⟨none, [], some []⟩, .unreachable]
    query scripted 5 .byResource "Resource" replies = (.ok [], [.unreachable]) := by
  rfl

end Table

end Intake
