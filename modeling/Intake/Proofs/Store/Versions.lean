import Intake.Proofs.Store.Consistency

/-!
# No update is lost

Between the creation of an entry and its removal, every successful update of its key names the
version that the write before it left in the store.  The invariant is that the store holds the entry
of the last successful write; it is kept by every operation, whoever performs it, because an update
or a removal has to name the stored version and a creation finds the key taken.
-/

namespace Intake

/-- The key under which an entry is stored, where its keys can be made. -/
def Entry.primary? (entry : Entry) : Option KeyPair := entry.keys.toOption.map KeySet.primary

/-- The row versions that a call names or brings along. -/
def Operation.versions : Operation → List RowVersion
  | .create entry => [entry.rowVersion]
  | .update previous updated stamp => [previous.rowVersion, updated.rowVersion, stamp.version]
  | .remove entry => [entry.rowVersion]
  | .deliver event => ((Delivery.entryOf event).toOption.map Entry.rowVersion).toList
  | .look _ => []
  | .list _ _ => []

/-- Every version that an update generates is new: no earlier call had it. -/
def FreshStamps (operations : List Operation) : Prop :=
  ∀ before previous updated stamp after,
    operations = before ++ .update previous updated stamp :: after →
      stamp.version ∉ before.flatMap Operation.versions

/-- The version that a successful update of a key named, and the entry that it returned. -/
def Event.updateOf (key : KeyPair) (event : Event) : Option (RowVersion × Entry) :=
  match event.change? with
  | some (.replaced base entry) => if entry.primary? = some key then some (base, entry) else none
  | _ => none

/-- The successful updates of a key in their order. -/
def updatesOf (key : KeyPair) (events : List Event) : List (RowVersion × Entry) :=
  events.filterMap (Event.updateOf key)

/-- Whether an event removed the entry under a key. -/
def Event.Removes (key : KeyPair) (event : Event) : Prop :=
  ∃ entry, event.change? = some (.removed entry) ∧ entry.primary? = some key

/-- Every update names the version that the write before it left. -/
def Chain : RowVersion → List (RowVersion × Entry) → Prop
  | _, [] => True
  | version, (base, entry) :: updates => base = version ∧ Chain entry.rowVersion updates

/-- The entry of the last successful write. -/
def latest (first : Entry) : List (RowVersion × Entry) → Entry
  | [] => first
  | (_, entry) :: updates => latest entry updates

/-- What a successful write replies about the entry it wrote. -/
def Reply.Returns (entry : Entry) : Reply → Prop
  | .created result => ∃ item, result = .ok item ∧ entry.item = .ok item
  | .delivered result => result = .ok (.created entry.identifier entry.rowVersion)
  | .updated result => result = .ok entry
  | _ => False

section Changes

variable {event : Event} {entry : Entry}

theorem Event.change?_of_updateOf {key : KeyPair} {base : RowVersion}
    (hupdate : event.updateOf key = some (base, entry)) :
    event.change? = some (.replaced base entry) ∧ entry.primary? = some key := by
  unfold Event.updateOf at hupdate
  split at hupdate
  next hchange =>
    split at hupdate
    next hkey =>
      cases hupdate
      exact ⟨hchange, hkey⟩
    next => cases hupdate
  next => cases hupdate

theorem Event.operation_of_removed (hchange : event.change? = some (.removed entry)) :
    event.operation = .remove entry := by
  unfold Event.change? at hchange
  split at hchange
  next => cases hchange
  next =>
    obtain ⟨_, -, hfiled⟩ := Option.map_eq_some_iff.1 hchange
    cases hfiled
  next => cases hchange
  next =>
    cases hchange
    rfl
  next => cases hchange

theorem Event.eq_update_of_replaced {base : RowVersion}
    (hchange : event.change? = some (.replaced base entry)) :
    ∃ previous updated stamp, event = ⟨.update previous updated stamp, .updated (.ok entry)⟩ ∧
      base = previous.rowVersion := by
  unfold Event.change? at hchange
  split at hchange
  next => cases hchange
  next =>
    obtain ⟨_, -, hfiled⟩ := Option.map_eq_some_iff.1 hchange
    cases hfiled
  next previous updated stamp next =>
    cases hchange
    exact ⟨previous, updated, stamp, rfl, rfl⟩
  next => cases hchange
  next => cases hchange

/-- An entry is stored for the first time by a creation or by the delivery of an event with it. -/
theorem Event.eq_create_of_filed (hchange : event.change? = some (.filed entry)) :
    (∃ item, event = ⟨.create entry, .created (.ok item)⟩) ∨
      ∃ json identifier version,
        event = ⟨.deliver json, .delivered (.ok (.created identifier version))⟩ ∧
          Delivery.entryOf json = .ok entry := by
  unfold Event.change? at hchange
  split at hchange
  next item =>
    cases hchange
    exact .inl ⟨item, rfl⟩
  next json identifier version =>
    obtain ⟨carried, hcarried, hfiled⟩ := Option.map_eq_some_iff.1 hchange
    cases hfiled
    refine .inr ⟨json, identifier, version, rfl, ?_⟩
    cases hentry : Delivery.entryOf json with
    | error e =>
      rw [hentry] at hcarried
      cases hcarried
    | ok other =>
      rw [hentry] at hcarried
      cases hcarried
      rfl
  next => cases hchange
  next => cases hchange
  next => cases hchange

end Changes

namespace MemoryStore

/-- The store holds an entry under a key. -/
def Holds (store : MemoryStore) (key : KeyPair) (entry : Entry) : Prop :=
  ∃ item, entry.item = .ok item ∧ item.keys.primary = key ∧ store.get? key = some item

section Steps

variable {store next : MemoryStore} {key : KeyPair} {current entry : Entry} {item : Item}

theorem primary?_of_item (hitem : entry.item = .ok item) :
    entry.primary? = some item.keys.primary := by
  obtain ⟨keys, hkeys, rfl⟩ := Entry.item_eq_ok_iff.1 hitem
  rw [Entry.primary?, hkeys]
  rfl

theorem Holds.version_eq (hholds : store.Holds key current) {version : RowVersion}
    (hversion : store.holdsVersion key version = true) : version = current.rowVersion := by
  obtain ⟨item, hitem, -, hget⟩ := hholds
  obtain ⟨stored, hstored, rfl⟩ := holdsVersion_iff.1 hversion
  rw [hget] at hstored
  cases hstored
  exact rowVersion_of_item hitem

theorem Holds.of_get? (hholds : store.Holds key current)
    (hget : next.get? key = store.get? key) : next.Holds key current := by
  obtain ⟨item, hitem, hprimary, hstored⟩ := hholds
  exact ⟨item, hitem, hprimary, hget.trans hstored⟩

/-- A creation leaves what is stored. -/
theorem Holds.file (hholds : store.Holds key current) (hfree : store.isTaken item = false) :
    (store.file item).Holds key current := by
  apply hholds.of_get?
  rw [get?_file, if_neg]
  rintro rfl
  obtain ⟨stored, -, -, hget⟩ := hholds
  rw [(isTaken_eq_false.1 hfree).1] at hget
  cases hget

/-- A replacement under the key names the stored version and puts its entry there. -/
theorem Holds.replace (hholds : store.Holds key current) {base : RowVersion}
    (hitem : entry.item = .ok item)
    (hversion : store.holdsVersion item.keys.primary base = true) :
    if entry.primary? = some key then
      base = current.rowVersion ∧ (store.replace item).Holds key entry
    else (store.replace item).Holds key current := by
  rw [primary?_of_item hitem]
  split
  next heq =>
    have hkey := Option.some.inj heq
    refine ⟨hholds.version_eq (hkey ▸ hversion), item, hitem, hkey, ?_⟩
    rw [get?_replace, if_pos hkey.symm]
  next hne =>
    apply hholds.of_get?
    rw [get?_replace, if_neg fun heq => hne (congrArg some heq.symm)]

/-- A removal under the key names the stored version, and others leave what is stored. -/
theorem Holds.discard (hholds : store.Holds key current) (hitem : entry.item = .ok item)
    (hversion : store.holdsVersion item.keys.primary entry.rowVersion = true) :
    if entry.primary? = some key then entry.rowVersion = current.rowVersion
    else (store.discard item).Holds key current := by
  rw [primary?_of_item hitem]
  split
  next heq => exact hholds.version_eq (Option.some.inj heq ▸ hversion)
  next hne =>
    apply hholds.of_get?
    rw [get?_discard, if_neg fun heq => hne (congrArg some heq.symm)]

/-- What one event does to the entry under a key that it does not remove. -/
theorem Holds.event (hholds : store.Holds key current) {event : Event}
    (hstep : Step store event.change? next) (hkept : ¬event.Removes key) :
    match event.updateOf key with
    | some (base, entry) => base = current.rowVersion ∧ next.Holds key entry
    | none => next.Holds key current := by
  unfold Event.updateOf
  cases hchange : event.change? with
  | none =>
    rw [hchange] at hstep
    cases hstep
    exact hholds
  | some change =>
    rw [hchange] at hstep
    cases hstep with
    | filed hitem hfree => exact hholds.file hfree
    | @replaced base entry item hitem hversion =>
      have hreplace := hholds.replace hitem hversion
      by_cases hkey : entry.primary? = some key
      · simpa only [hkey, if_true] using hreplace
      · simpa only [hkey, if_false] using hreplace
    | @removed entry item hitem hversion =>
      have hdiscard := hholds.discard hitem hversion
      rw [if_neg fun hkey => hkept ⟨entry, hchange, hkey⟩] at hdiscard
      exact hdiscard

/-- A run that does not remove the entry under a key chains its updates. -/
theorem Holds.history (hholds : store.Holds key current) (operations : List Operation)
    (hkept : ∀ event ∈ (asEntryStore.history operations store).1, ¬event.Removes key) :
    Chain current.rowVersion (updatesOf key (asEntryStore.history operations store).1) ∧
      (asEntryStore.history operations store).2.Holds key
        (latest current (updatesOf key (asEntryStore.history operations store).1)) := by
  induction operations generalizing store current with
  | nil => exact ⟨trivial, hholds⟩
  | cons operation operations ih =>
    rw [history_cons] at hkept ⊢
    obtain ⟨hfirst, hrest⟩ := List.forall_mem_cons.1 hkept
    have hevent := hholds.event (step_perform operation store) hfirst
    rw [updatesOf, List.filterMap_cons]
    cases hupdate : Event.updateOf key ⟨operation, (asEntryStore.perform operation store).1⟩ with
    | none =>
      rw [hupdate] at hevent
      exact ih hevent hrest
    | some update =>
      obtain ⟨base, entry⟩ := update
      rw [hupdate] at hevent
      obtain ⟨hchain, hfinal⟩ := ih hevent.2 hrest
      exact ⟨⟨hevent.1, hchain⟩, hfinal⟩

end Steps

/-! ## New versions -/

section Fresh

variable {store : MemoryStore} {key : KeyPair}

theorem update_eq_ok {previous updated entry : Entry} {stamp : Stamp}
    (hok : (asEntryStore.update previous updated stamp store).1 = .ok entry) :
    entry = updated.touched stamp.now stamp.version := by
  by_cases hsame : ∃ keys item, previous.keys = .ok keys ∧
      (updated.touched stamp.now stamp.version).item = .ok item ∧
        item.keys.primary = keys.primary
  · obtain ⟨keys, item, hkeys, hitem, hprimary⟩ := hsame
    cases hversion : store.holdsVersion item.keys.primary previous.rowVersion with
    | true =>
      rw [update_of_version hkeys hitem hprimary hversion] at hok
      exact (Except.ok.inj hok).symm
    | false =>
      rw [update_of_stale hkeys hitem hprimary hversion] at hok
      cases hok
  · obtain ⟨e, he⟩ := update_of_refused store fun keys item hkeys hitem hprimary =>
      hsame ⟨keys, item, hkeys, hitem, hprimary⟩
    rw [he] at hok
    cases hok

variable (store key) in
/-- The versions that updates generate are new, so they differ from one another. -/
theorem nodup_versions_updatesOf {operations : List Operation} {used : List RowVersion}
    (hfresh : ∀ before previous updated stamp after,
      operations = before ++ .update previous updated stamp :: after →
        stamp.version ∉ used ++ before.flatMap Operation.versions) :
    ((updatesOf key (asEntryStore.history operations store).1).map
        fun update => update.2.rowVersion).Nodup ∧
      ∀ update ∈ updatesOf key (asEntryStore.history operations store).1,
        update.2.rowVersion ∉ used := by
  induction operations generalizing store used with
  | nil => exact ⟨List.nodup_nil, List.forall_mem_nil _⟩
  | cons operation operations ih =>
    have hrest : ∀ before previous updated stamp after,
        operations = before ++ .update previous updated stamp :: after →
          stamp.version ∉ (used ++ operation.versions) ++ before.flatMap Operation.versions := by
      intro before previous updated stamp after heq
      have hnew := hfresh (operation :: before) previous updated stamp after (by rw [heq]; rfl)
      rwa [List.flatMap_cons, ← List.append_assoc] at hnew
    obtain ⟨hnodup, hunused⟩ := ih (asEntryStore.perform operation store).2 hrest
    rw [history_cons, updatesOf, List.filterMap_cons]
    cases hupdate : Event.updateOf key ⟨operation, (asEntryStore.perform operation store).1⟩ with
    | none =>
      refine ⟨hnodup, ?_⟩
      intro update hmem hused
      exact hunused update hmem (List.mem_append_left _ hused)
    | some update =>
      obtain ⟨base, entry⟩ := update
      obtain ⟨previous, updated, stamp, hevent, -⟩ :=
        Event.eq_update_of_replaced (Event.change?_of_updateOf hupdate).1
      obtain ⟨rfl, hreply⟩ := Event.mk.inj hevent
      have hversion : entry.rowVersion = stamp.version := by
        rw [update_eq_ok (Reply.updated.inj hreply)]
        rfl
      have hstamp := hfresh [] previous updated stamp operations rfl
      simp only [List.flatMap_nil, List.append_nil] at hstamp
      refine ⟨?_, ?_⟩
      · refine List.nodup_cons.2 ⟨?_, hnodup⟩
        intro hmem
        obtain ⟨other, hother, heq⟩ := List.mem_map.1 hmem
        have hsame : other.2.rowVersion = stamp.version := heq.trans hversion
        apply hunused other hother
        rw [hsame]
        simp [Operation.versions]
      · intro other hother hused
        rcases List.mem_cons.1 hother with rfl | hlater
        · exact hstamp (hversion ▸ hused)
        · exact hunused other hlater (List.mem_append_left _ hused)

theorem bases_prefix_of_chain {version : RowVersion} {updates : List (RowVersion × Entry)}
    (hchain : Chain version updates) :
    updates.map Prod.fst <+: version :: updates.map fun update => update.2.rowVersion := by
  induction updates generalizing version with
  | nil => exact List.nil_prefix
  | cons update updates ih =>
    obtain ⟨base, entry⟩ := update
    obtain ⟨rfl, hrest⟩ := hchain
    exact List.cons_prefix_cons.2 ⟨rfl, ih hrest⟩

end Fresh

/-! ## Spans from a creation to the next removal -/

section Spans

variable {store : MemoryStore} {key : KeyPair} {entry : Entry}

theorem create_eq_ok {item : Item} (hok : (asEntryStore.create entry store).1 = .ok item) :
    entry.item = .ok item := by
  cases hitem : entry.item with
  | error e =>
    rw [create_of_key_error hitem] at hok
    cases hok
  | ok own =>
    cases htaken : store.isTaken own with
    | true =>
      rw [create_of_taken hitem htaken] at hok
      cases hok
    | false =>
      have hcreate := create_of_free hitem htaken
      rw [hcreate] at hok
      rw [Except.ok.inj hok]

/-- A first write replies with what it stored, and its version is one of the call. -/
theorem perform_of_filed {operation : Operation}
    (hchange : Event.change? ⟨operation, (asEntryStore.perform operation store).1⟩ =
      some (.filed entry)) (hkey : entry.primary? = some key) :
    (asEntryStore.perform operation store).2.Holds key entry ∧
      (asEntryStore.perform operation store).1.Returns entry ∧
        entry.rowVersion ∈ operation.versions := by
  have hstep := step_perform operation store
  rw [hchange] at hstep
  generalize hnext : (asEntryStore.perform operation store).2 = next at hstep ⊢
  cases hstep with
  | @filed entry item hitem hfree =>
    rw [primary?_of_item hitem] at hkey
    refine ⟨⟨item, hitem, Option.some.inj hkey, ?_⟩, ?_⟩
    · rw [get?_file, if_pos (Option.some.inj hkey).symm]
    · rcases Event.eq_create_of_filed hchange with
        ⟨created, hevent⟩ | ⟨json, id, version, hevent, hentry⟩
      · obtain ⟨rfl, hreply⟩ := Event.mk.inj hevent
        have hcreated := create_eq_ok (Reply.created.inj hreply)
        rw [hreply]
        exact ⟨⟨created, rfl, hcreated⟩, List.mem_cons_self⟩
      · obtain ⟨rfl, hreply⟩ := Event.mk.inj hevent
        have hdeliver := deliver_of_created hentry (create_of_free hitem hfree)
        have hresult : (asEntryStore.deliver json store).1 =
            .ok (.created entry.identifier entry.rowVersion) := by
          rw [hdeliver, identifier_of_item hitem, rowVersion_of_item hitem]
        refine ⟨hresult, ?_⟩
        simp [Operation.versions, hentry, Except.toOption]

/-- An update of a key either succeeds and is one of the chain, or is told of the other one. -/
theorem perform_update_of_key {previous updated : Entry} {stamp : Stamp}
    (hprevious : previous.primary? = some key) (hupdated : updated.primary? = some key) :
    (∃ next, (asEntryStore.perform (.update previous updated stamp) store).1 = .updated (.ok next) ∧
      next.primary? = some key) ∨
      (asEntryStore.perform (.update previous updated stamp) store).1 =
        .updated (.error (.store (.concurrentModification key previous.rowVersion))) := by
  have hkeysOf : ∀ {e : Entry}, e.primary? = some key →
      ∃ keys, e.keys = .ok keys ∧ keys.primary = key := by
    intro e he
    unfold Entry.primary? at he
    cases hkeys : e.keys with
    | error error =>
      rw [hkeys] at he
      cases he
    | ok keys =>
      rw [hkeys] at he
      exact ⟨keys, rfl, Option.some.inj he⟩
  obtain ⟨keys, hkeys, hprimary⟩ := hkeysOf hprevious
  obtain ⟨nextKeys, hnextKeys, hnextPrimary⟩ := hkeysOf hupdated
  have hitem := Entry.item_eq_ok_iff.2
    ⟨nextKeys, (updated.keys_touched stamp.now stamp.version).trans hnextKeys, rfl⟩
  have hsame := hnextPrimary.trans hprimary.symm
  cases hversion : store.holdsVersion nextKeys.primary previous.rowVersion with
  | true =>
    have hupdate := update_of_version hkeys hitem hsame hversion
    refine .inl ⟨updated.touched stamp.now stamp.version, ?_, hupdated⟩
    exact congrArg (fun result => Reply.updated result.1) hupdate
  | false =>
    have hupdate := update_of_stale hkeys hitem hsame hversion
    refine .inr ?_
    rw [← hnextPrimary]
    exact congrArg (fun result => Reply.updated result.1) hupdate

/-- What holds of the events after a creation under a key, as long as none of them removes it. -/
structure Serial (key : KeyPair) (first : Event) (entry : Entry) (span after : List Event)
    (store : MemoryStore) : Prop where
  /-- The creation replied with the entry that it stored. -/
  answered : first.reply.Returns entry
  /-- The first update names the created version and every later one the version before it. -/
  chain : Chain entry.rowVersion (updatesOf key span)
  /-- No two updates from one version succeed. -/
  distinct : ((updatesOf key span).map Prod.fst).Nodup
  /-- Every other update of the key is told that the entry was modified. -/
  others : ∀ previous updated stamp reply, ⟨.update previous updated stamp, reply⟩ ∈ span →
    previous.primary? = some key → updated.primary? = some key →
      (∃ next, reply = .updated (.ok next) ∧ (previous.rowVersion, next) ∈ updatesOf key span) ∨
        reply = .updated (.error (.store (.concurrentModification key previous.rowVersion)))
  /-- A removal that comes next names the version of the last success. -/
  removal : ∀ event later removed, after = event :: later →
    event.change? = some (.removed removed) → removed.primary? = some key →
      removed.rowVersion = (latest entry (updatesOf key span)).rowVersion
  /-- The store holds the entry of the last success. -/
  stored : store.Holds key (latest entry (updatesOf key span))

theorem exists_store_of_mem_history {operations : List Operation} {operation : Operation}
    {reply : Reply} (hmem : ⟨operation, reply⟩ ∈ (asEntryStore.history operations store).1) :
    ∃ before, (asEntryStore.perform operation before).1 = reply := by
  induction operations generalizing store with
  | nil => cases hmem
  | cons first operations ih =>
    rw [history_cons] at hmem
    rcases List.mem_cons.1 hmem with hfirst | hlater
    · obtain ⟨rfl, rfl⟩ := Event.mk.inj hfirst
      exact ⟨store, rfl⟩
    · exact ih hlater

/-- A creation followed by calls that do not remove its entry, from any store. -/
theorem serial_of_operations {operation : Operation} {inside : List Operation}
    (later : List Operation)
    (hcreated : Event.change? ⟨operation, (asEntryStore.perform operation store).1⟩ =
      some (.filed entry)) (hkey : entry.primary? = some key)
    (hfresh : ∀ before previous updated stamp after,
      inside = before ++ .update previous updated stamp :: after →
        stamp.version ∉ operation.versions ++ before.flatMap Operation.versions)
    {created final : MemoryStore} (hnext : (asEntryStore.perform operation store).2 = created)
    (hfinal : (asEntryStore.history inside created).2 = final)
    (hspan : ∀ event ∈ (asEntryStore.history inside created).1, ¬event.Removes key) :
    Serial key ⟨operation, (asEntryStore.perform operation store).1⟩ entry
      (asEntryStore.history inside created).1 (asEntryStore.history later final).1 final := by
  obtain ⟨hholds, hreturns, hversion⟩ := perform_of_filed hcreated hkey
  rw [hnext] at hholds
  obtain ⟨hchain, hlatest⟩ := hholds.history inside hspan
  rw [hfinal] at hlatest
  obtain ⟨hnodup, hunused⟩ := nodup_versions_updatesOf created key hfresh
  constructor
  · exact hreturns
  · exact hchain
  · have hall : (entry.rowVersion :: (updatesOf key (asEntryStore.history inside created).1).map
        fun update => update.2.rowVersion).Nodup := by
      refine List.nodup_cons.2 ⟨?_, hnodup⟩
      intro hmem
      obtain ⟨update, hupdate, heq⟩ := List.mem_map.1 hmem
      exact hunused update hupdate (heq ▸ hversion)
    exact hall.sublist (bases_prefix_of_chain hchain).sublist
  · intro previous updated stamp reply hmem hprevious hupdated
    obtain ⟨before, rfl⟩ := exists_store_of_mem_history hmem
    rcases perform_update_of_key hprevious hupdated with ⟨next, hreply, hnextKey⟩ | hreply
    · refine .inl ⟨next, hreply, ?_⟩
      apply List.mem_filterMap.2
      refine ⟨_, hmem, ?_⟩
      simp only [Event.updateOf, hreply, Event.change?, hnextKey, if_true]
    · exact .inr hreply
  · intro event others removed hafter hchange hremoved
    cases later with
    | nil => cases hafter
    | cons operation later =>
      rw [history_cons] at hafter
      have hstep := step_perform operation final
      rw [(List.cons.inj hafter).1, hchange] at hstep
      generalize (asEntryStore.perform operation final).2 = next at hstep
      cases hstep with
      | removed hitem hheld =>
        have hprimary := (primary?_of_item hitem).symm.trans hremoved
        exact hlatest.version_eq (Option.some.inj hprimary ▸ hheld)
  · exact hlatest

/-- Between the creation of an entry and the next removal of its key no update is lost, in every
history in which the versions that updates generate are new. -/
theorem serial_of_history (operations : List Operation) (hfresh : FreshStamps operations)
    (key : KeyPair) (before span after : List Event) (first : Event) (entry : Entry)
    (hhistory : (asEntryStore.history operations empty).1 = before ++ first :: (span ++ after))
    (hfirst : first.change? = some (.filed entry)) (hkey : entry.primary? = some key)
    (hspan : ∀ event ∈ span, ¬event.Removes key) :
    Serial key first entry span after
      (asEntryStore.history ((before ++ first :: span).map Event.operation) empty).2 := by
  obtain ⟨hoperations, -, hrest⟩ := history_split hhistory
  generalize hstart : (asEntryStore.history (before.map Event.operation) empty).2 = start at hrest
  rw [List.map_cons, history_cons] at hrest
  obtain ⟨hfirstEq, hrest⟩ := List.cons.inj hrest
  generalize hcreated : (asEntryStore.perform first.operation start).2 = created at hrest
  obtain ⟨-, hspanEq, hafterEq⟩ := history_split hrest
  generalize hfinal : (asEntryStore.history (span.map Event.operation) created).2 = final
    at hafterEq
  have hstore : (asEntryStore.history ((before ++ first :: span).map Event.operation) empty).2 =
      final := by
    rw [List.map_append, history_append, hstart, List.map_cons, history_cons, hcreated, hfinal]
  have hnew : ∀ earlier previous updated stamp others,
      span.map Event.operation = earlier ++ .update previous updated stamp :: others →
        stamp.version ∉ first.operation.versions ++ earlier.flatMap Operation.versions := by
    intro earlier previous updated stamp others heq hmem
    refine hfresh (before.map Event.operation ++ first.operation :: earlier) previous updated stamp
      (others ++ after.map Event.operation) ?_ ?_
    · rw [hoperations, List.map_cons, List.map_append, heq]
      simp
    · rw [List.flatMap_append, List.flatMap_cons]
      exact List.mem_append_right _ hmem
  have hfiled : Event.change? ⟨first.operation, (asEntryStore.perform first.operation start).1⟩ =
      some (.filed entry) := by rw [hfirstEq, hfirst]
  have hkept : ∀ event ∈ (asEntryStore.history (span.map Event.operation) created).1,
      ¬event.Removes key := by
    rw [hspanEq]
    exact hspan
  have hserial := serial_of_operations (after.map Event.operation) hfiled hkey hnew hcreated hfinal
    hkept
  rw [hspanEq, hafterEq, hfirstEq] at hserial
  rw [hstore]
  exact hserial

/-- Two writers update one entry from the same version. -/
def twoWriters : List Operation :=
  let entry := bareResource (some "owner@1")
  [.update entry entry ⟨entry.metadata.createdDate, ⟨"v2"⟩⟩,
    .update entry entry ⟨entry.metadata.createdDate, ⟨"v3"⟩⟩]

theorem serial_of_twoWriters :
    let entry := bareResource (some "owner@1")
    let created := asEntryStore.perform (.create entry) empty
    let span := (asEntryStore.history twoWriters created.2).1
    Serial ⟨"Resource#Customer#customer-1#Owner#owner@1", "Resource#X1"⟩ ⟨.create entry, created.1⟩
      entry span [] (asEntryStore.history ((⟨.create entry, created.1⟩ :: span).map Event.operation)
        empty).2 := by
  intro entry created span
  have hfresh : FreshStamps (.create entry :: twoWriters) := by
    intro before previous updated stamp after heq
    rcases before with _ | ⟨first, _ | ⟨second, _ | ⟨third, others⟩⟩⟩
    · cases heq
    · cases heq
      decide
    · cases heq
      decide
    · have hlength := congrArg List.length heq
      simp [twoWriters] at hlength
  have hspan : ∀ event ∈ span, ¬event.Removes
      ⟨"Resource#Customer#customer-1#Owner#owner@1", "Resource#X1"⟩ := by
    intro event hevent
    have hoperation : event.operation ∈ twoWriters := by
      rw [← map_operation_history twoWriters created.2]
      exact List.mem_map_of_mem hevent
    rintro ⟨removed, hchange, -⟩
    rw [Event.operation_of_removed hchange] at hoperation
    simp [twoWriters] at hoperation
  have hkey : entry.primary? =
      some ⟨"Resource#Customer#customer-1#Owner#owner@1", "Resource#X1"⟩ := by decide +kernel
  have hhistory : (asEntryStore.history (.create entry :: twoWriters) empty).1 =
      [] ++ ⟨.create entry, created.1⟩ :: (span ++ []) := by
    rw [List.append_nil]
    rfl
  obtain ⟨item, hitem⟩ := exists_item_bareResource
  have hfree : empty.isTaken item = false := rfl
  have hfirst : Event.change? ⟨.create entry, created.1⟩ = some (.filed entry) := by
    show Event.change? ⟨_, .created (asEntryStore.create entry empty).1⟩ = _
    rw [create_of_free hitem hfree]
    rfl
  exact serial_of_history (.create entry :: twoWriters) hfresh _ [] span []
    ⟨.create entry, created.1⟩
    entry hhistory hfirst hkey hspan

end Spans

end MemoryStore

end Intake
