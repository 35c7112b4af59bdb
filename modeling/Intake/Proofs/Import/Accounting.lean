import Intake.Proofs.Import.Reports
import Intake.Proofs.Import.Summary
import Mathlib.Algebra.BigOperators.Group.List.Basic

/-!
# The counts of an import

An answer counts in two places: one summary takes up the summary of every object as the import goes
on, and a list gets one line for every object.  Both come from the same visits, so the counts are the
sums over the list, and the status can be read off the list and off which objects could be read.
-/

namespace Intake

namespace DispatchSummary

theorem absorb_empty (summary : DispatchSummary) : summary.absorb .empty = summary := by
  simp [absorb, empty, EmissionReport.empty]

/-- A count that adds up over two sources adds up over a list of them. -/
theorem count_foldl_absorb {count : DispatchSummary → Nat}
    (hadd : ∀ a b, count (absorb a b) = count a + count b) (summaries : List DispatchSummary)
    (so : DispatchSummary) :
    count (summaries.foldl absorb so) = count so + (summaries.map count).sum := by
  induction summaries generalizing so with
  | nil => rfl
  | cons first rest ih =>
    calc
      count ((first :: rest).foldl absorb so) = count (so.absorb first) + (rest.map count).sum :=
        ih (so.absorb first)
      _ = count so + ((first :: rest).map count).sum := by
        rw [hadd, List.map_cons, List.sum_cons, Nat.add_assoc]

theorem unmapped_absorb (a b : DispatchSummary) :
    (absorb a b).unmapped = a.unmapped + b.unmapped :=
  List.length_append

theorem unaccepted_absorb (a b : DispatchSummary) :
    (absorb a b).unaccepted = a.unaccepted + b.unaccepted :=
  List.length_append

theorem isComplete_iff (summary : DispatchSummary) :
    summary.isComplete = true ↔ summary.unmapped = 0 ∧ summary.unaccepted = 0 := by
  simp [isComplete, EmissionReport.isComplete, unmapped, unaccepted]

/-! ### Checked sums -/

theorem isCountable_iff (summary : DispatchSummary) :
    summary.isCountable = true ↔ summary.total < countLimit ∧
      summary.emission.totalRecords < countLimit ∧ summary.emission.submissions < countLimit := by
  simp [isCountable, and_assoc]

/-- Counts only grow, so what outgrows the limit stays beyond it. -/
theorem isCountable_of_absorb {a b : DispatchSummary} (hsum : (a.absorb b).isCountable = true) :
    a.isCountable = true := by
  obtain ⟨htotal, hrecords, hsubmissions⟩ := (isCountable_iff _).1 hsum
  exact (isCountable_iff a).2 ⟨Nat.lt_of_add_right_lt htotal, Nat.lt_of_add_right_lt hrecords,
    Nat.lt_of_add_right_lt hsubmissions⟩

/-- A checked sum is the sum, where that can be held. -/
theorem absorb?_eq_ok_iff {a b sum : DispatchSummary} :
    a.absorb? b = .ok sum ↔ sum = a.absorb b ∧ sum.isCountable = true := by
  rw [absorb?]
  cases hcountable : (a.absorb b).isCountable with
  | true =>
    rw [if_pos rfl, Except.ok.injEq]
    exact ⟨fun heq => ⟨heq.symm, heq ▸ hcountable⟩, fun ⟨heq, _⟩ => heq.symm⟩
  | false =>
    constructor
    · intro hok
      cases hok
    · rintro ⟨rfl, hsum⟩
      cases hcountable.symm.trans hsum

theorem isCountable_of_foldl {summaries : List DispatchSummary} {so : DispatchSummary}
    (hsum : (summaries.foldl absorb so).isCountable = true) : so.isCountable = true := by
  induction summaries generalizing so with
  | nil => exact hsum
  | cons first rest ih => exact isCountable_of_absorb (ih hsum)

/-- Sums that are checked one after the other give the sum of all, and they fail only where that
cannot be held. -/
theorem foldlM_absorb?_eq_ok_iff {summaries : List DispatchSummary} {so later : DispatchSummary}
    (hso : so.isCountable = true) :
    summaries.foldlM absorb? so = .ok later ↔
      later = summaries.foldl absorb so ∧ later.isCountable = true := by
  induction summaries generalizing so with
  | nil =>
    rw [List.foldlM_nil, pure_eq_ok, Except.ok.injEq, List.foldl_nil]
    exact ⟨fun heq => ⟨heq.symm, heq ▸ hso⟩, fun ⟨heq, _⟩ => heq.symm⟩
  | cons first rest ih =>
    rw [List.foldlM_cons, bind_eq_ok_iff, List.foldl_cons]
    constructor
    · rintro ⟨middle, hfirst, hrest⟩
      obtain ⟨rfl, hmiddle⟩ := absorb?_eq_ok_iff.1 hfirst
      exact (ih hmiddle).1 hrest
    · rintro ⟨rfl, hlater⟩
      have hmiddle := isCountable_of_foldl hlater
      exact ⟨_, absorb?_eq_ok_iff.2 ⟨rfl, hmiddle⟩, (ih hmiddle).2 ⟨rfl, hlater⟩⟩

end DispatchSummary

/-- No value of a file is counted both as unmapped and as undelivered. -/
theorem Dispatch.undelivered_file_le {σ : Type} (mapper : Mapper) (emitter : Emitter) (bus : Bus σ)
    (schedule : Schedule) (body : List UInt8) (state : σ) :
    (Dispatch.file mapper emitter bus schedule body state).1.unmapped +
        (Dispatch.file mapper emitter bus schedule body state).1.unaccepted ≤
      (Dispatch.file mapper emitter bus schedule body state).1.total := by
  let parsed := Lines.parse body
  have hmapped := Dispatch.length_records_add_refusals mapper parsed.1
  have hfailed :=
    (failedRecords_sublist emitter bus schedule (records mapper parsed.1) state).length_le
  have hunmapped : (Dispatch.file mapper emitter bus schedule body state).1.unmapped =
      (refusals mapper parsed.1).length + parsed.2.length :=
    (List.length_mergeSort _).trans List.length_append
  have htotal : (Dispatch.file mapper emitter bus schedule body state).1.total =
      parsed.1.length + parsed.2.length := rfl
  have hunaccepted : (Dispatch.file mapper emitter bus schedule body state).1.unaccepted =
      (emitter.emit bus schedule (records mapper parsed.1) state).1.failedRecords.length := rfl
  omega

namespace Visit

/-- The object could be read. -/
def isRead : Visit → Bool
  | .unread _ _ => false
  | .dispatched _ _ _ _ _ => true

/-- What was dispatched on a visit, which is nothing if the object could not be read. -/
def summary : Visit → DispatchSummary
  | .unread _ _ => .empty
  | .dispatched _ _ _ summary _ => summary

variable {importer : Importer} {visit : Visit} {source : SourceSummary}

/-- The line of an object names it and has the counts of its dispatch. -/
theorem SumsUp.counts_eq (hsums : visit.SumsUp importer source) :
    source.object = visit.object ∧ source.total = visit.summary.total ∧
      source.unmapped = visit.summary.unmapped ∧
      source.undelivered = visit.summary.unaccepted := by
  cases hsums with
  | unread object reason => exact ⟨rfl, rfl, rfl, rfl⟩
  | dispatched object body calls hreported herror => exact ⟨rfl, rfl, rfl, rfl⟩

section World

variable {σ : Type} {world : World σ} {state next : σ}

/-- What a visit dispatched is what is dispatched without a record of the calls. -/
theorem file_of_recorded {opened emitted : σ} {body : List UInt8} {calls : List Call}
    {summary : DispatchSummary}
    (hdispatch : Dispatch.file importer.mapper importer.emitter world.bus.recorded
      importer.schedule body (opened, []) = (summary, (emitted, calls))) :
    Dispatch.file importer.mapper importer.emitter world.bus importer.schedule body opened =
      (summary, emitted) := by
  obtain ⟨own, ownCalls, last, hrecorded, hfile, -⟩ :=
    file_recorded importer.mapper importer.emitter world importer.schedule body opened []
  rw [hrecorded] at hdispatch
  cases hdispatch
  exact hfile

theorem Made.within_total (hmade : visit.Made importer world state next) :
    visit.summary.unmapped + visit.summary.unaccepted ≤ visit.summary.total := by
  cases hmade with
  | unread hread => exact Nat.le_refl 0
  | @dispatched opened _ _ _ body _ _ _ hread hdispatch hwrites =>
    have hle := Dispatch.undelivered_file_le importer.mapper importer.emitter world.bus
      importer.schedule body opened
    rw [file_of_recorded hdispatch] at hle
    exact hle

/-- A visit adds what was dispatched to the summary, and a failed read to the count of these. -/
theorem Made.importObject_counts (hmade : visit.Made importer world state next)
    (so : ImportSummary) :
    (importer.importObject world so visit.object state).1.overall =
        so.overall.absorb visit.summary ∧
      (importer.importObject world so visit.object state).1.readFailures =
        so.readFailures + [visit].countP fun visit => !visit.isRead := by
  cases hmade with
  | unread hread =>
    simp only [Importer.importObject, bind, StateT.bind, object, hread]
    exact ⟨(DispatchSummary.absorb_empty so.overall).symm, rfl⟩
  | dispatched hread hdispatch hwrites =>
    simp only [Importer.importObject, bind, StateT.bind, object, hread, file_of_recorded hdispatch]
    exact ⟨rfl, rfl⟩

end World

end Visit

/-- A summary goes on with the lines of some visits and with what they dispatched. -/
structure ImportSummary.Takes (so : ImportSummary) (visits : List Visit)
    (sources : List SourceSummary) (later : ImportSummary) : Prop where
  sources_eq : later.sources = so.sources ++ sources
  overall_eq : later.overall = (visits.map Visit.summary).foldl .absorb so.overall
  readFailures_eq : later.readFailures =
    so.readFailures + visits.countP fun visit => !visit.isRead

namespace ImportSummary.Takes

variable {so middle later : ImportSummary} {visits moreVisits : List Visit}
  {sources moreSources : List SourceSummary}

theorem refl (so : ImportSummary) : so.Takes [] [] so where
  sources_eq := (List.append_nil _).symm
  overall_eq := rfl
  readFailures_eq := rfl

theorem trans (hfirst : so.Takes visits sources middle)
    (hrest : middle.Takes moreVisits moreSources later) :
    so.Takes (visits ++ moreVisits) (sources ++ moreSources) later where
  sources_eq := by rw [hrest.sources_eq, hfirst.sources_eq, List.append_assoc]
  overall_eq := by
    rw [hrest.overall_eq, hfirst.overall_eq, List.map_append, List.foldl_append]
  readFailures_eq := by
    rw [hrest.readFailures_eq, hfirst.readFailures_eq, List.countP_append, Nat.add_assoc]

end ImportSummary.Takes

section Run

variable {σ : Type} (importer : Importer) (world : World σ)

theorem importObject_takes (so : ImportSummary) (object : ObjectRef) (state : σ) :
    ∃ (visit : Visit) (source : SourceSummary) (later : ImportSummary) (next : σ),
      visit.object = object ∧ visit.Made importer world state next ∧
      visit.SumsUp importer source ∧ so.Takes [visit] [source] later ∧
      importer.importObject world so object state = (later, next) := by
  obtain ⟨visit, source, later, next, rfl, hmade, hsums, hsources, -, hrun, -⟩ :=
    importObject_recorded importer world so object state []
  obtain ⟨hoverall, hfailures⟩ := hmade.importObject_counts so
  rw [hrun] at hoverall hfailures
  exact ⟨visit, source, later, next, rfl, hmade, hsums, ⟨hsources, hoverall, hfailures⟩, hrun⟩

/-- Object after object, the summary takes up every visit. -/
theorem foldlM_importObject_takes (objects : List ObjectRef) (so : ImportSummary) (state : σ) :
    ∃ (visits : List Visit) (sources : List SourceSummary) (later : ImportSummary) (next : σ),
      visits.map Visit.object = objects ∧ Leads (Visit.Made importer world) state visits next ∧
      List.Forall₂ (Visit.SumsUp importer) visits sources ∧ so.Takes visits sources later ∧
      objects.foldlM (importer.importObject world) so state = (later, next) := by
  induction objects generalizing so state with
  | nil => exact ⟨[], [], so, state, rfl, .nil state, .nil, .refl so, rfl⟩
  | cons object objects ih =>
    obtain ⟨visit, source, middle, between, hobject, hmade, hsums, htakes, hrun⟩ :=
      importObject_takes importer world so object state
    obtain ⟨visits, sources, later, next, hobjects, hmadeRest, hsumsRest, htakesRest, hrest⟩ :=
      ih middle between
    refine ⟨visit :: visits, source :: sources, later, next, ?_, .cons hmade hmadeRest,
      .cons hsums hsumsRest, htakes.trans htakesRest, ?_⟩
    · rw [List.map_cons, hobject, hobjects]
    · simp only [List.foldlM_cons, bind, StateT.bind, hrun, hrest]

end Run

/-! ## The answer -/

/-- Every object could be read, and nothing of any of them was lost. -/
def AllDelivered (visits : List Visit) (sources : List SourceSummary) : Prop :=
  (∀ visit ∈ visits, visit.isRead) ∧
    ∀ source ∈ sources, source.unmapped = 0 ∧ source.undelivered = 0

instance (visits : List Visit) (sources : List SourceSummary) :
    Decidable (AllDelivered visits sources) :=
  inferInstanceAs (Decidable (_ ∧ _))

/-- How the answer to an import accounts for the objects that were asked for. -/
structure ImportTally {σ : Type} (importer : Importer) (world : World σ) (objects : List ObjectRef)
    (start : σ) (visits : List Visit) (sources : List SourceSummary) (next : σ)
    (response : HttpResponse) : Prop where
  objects_eq : visits.map Visit.object = objects
  /-- An object that cannot be read keeps no other from being dispatched. -/
  visits_made : Leads (Visit.Made importer world) start visits next
  sums_up : List.Forall₂ (Visit.SumsUp importer) visits sources
  sources_eq : sources.map SourceSummary.object = objects
  within_total : ∀ source ∈ sources, source.unmapped + source.undelivered ≤ source.total
  /-- The answer has one line for each object, the sums over the lines, and the status 200 or 207. -/
  response_eq : ∃ (message : String) (reports : List String),
    response = importAnswer (AllDelivered visits sources) message
      (sources.map SourceSummary.total).sum (sources.map SourceSummary.unmapped).sum
      (sources.map SourceSummary.undelivered).sum sources reports

section Answer

variable {importer : Importer} {visits : List Visit} {sources : List SourceSummary}
  {summary : ImportSummary}

/-- What is the same of every visit and its line is the same of both lists. -/
theorem map_eq_of_sumsUp {α : Type} (hsums : List.Forall₂ (Visit.SumsUp importer) visits sources)
    {ofVisit : Visit → α} {ofSource : SourceSummary → α}
    (hsame : ∀ (visit : Visit) source, visit.SumsUp importer source →
      ofVisit visit = ofSource source) :
    visits.map ofVisit = sources.map ofSource := by
  rw [← List.forall₂_eq_eq_eq, List.forall₂_map_left_iff, List.forall₂_map_right_iff]
  exact hsums.imp hsame

/-- No object is said to have lost more than it holds. -/
theorem within_total_of_made {σ : Type} {world : World σ} {start next : σ}
    (hmade : Leads (Visit.Made importer world) start visits next)
    (hsums : List.Forall₂ (Visit.SumsUp importer) visits sources) :
    ∀ source ∈ sources, source.unmapped + source.undelivered ≤ source.total := by
  induction hmade generalizing sources with
  | nil state =>
    cases hsums
    exact List.forall_mem_nil _
  | cons hfirst hrest ih =>
    cases hsums with
    | cons hsum hsumsRest =>
      obtain ⟨-, htotal, hunmapped, hundelivered⟩ := hsum.counts_eq
      refine List.forall_mem_cons.2 ⟨?_, ih hsumsRest⟩
      rw [htotal, hunmapped, hundelivered]
      exact hfirst.within_total

/-- A count of everything that was dispatched is the sum of what the lines say of it. -/
theorem count_eq_sum (hsums : List.Forall₂ (Visit.SumsUp importer) visits sources)
    (htakes : ImportSummary.empty.Takes visits sources summary)
    {count : DispatchSummary → Nat} {countOf : SourceSummary → Nat} (hempty : count .empty = 0)
    (hadd : ∀ a b, count (a.absorb b) = count a + count b)
    (hsame : ∀ (visit : Visit) source, visit.SumsUp importer source →
      count visit.summary = countOf source) :
    count summary.overall = (sources.map countOf).sum := by
  calc
    count summary.overall = count .empty + ((visits.map Visit.summary).map count).sum := by
      rw [htakes.overall_eq, DispatchSummary.count_foldl_absorb hadd]
      rfl
    _ = (visits.map (count ∘ Visit.summary)).sum := by
      rw [hempty, Nat.zero_add, List.map_map]
    _ = (sources.map countOf).sum := congrArg List.sum (map_eq_of_sumsUp hsums hsame)

theorem total_eq_sum (hsums : List.Forall₂ (Visit.SumsUp importer) visits sources)
    (htakes : ImportSummary.empty.Takes visits sources summary) :
    summary.overall.total = (sources.map SourceSummary.total).sum :=
  count_eq_sum hsums htakes rfl (fun _ _ => rfl) fun _ _ hsum => hsum.counts_eq.2.1.symm

theorem unmapped_eq_sum (hsums : List.Forall₂ (Visit.SumsUp importer) visits sources)
    (htakes : ImportSummary.empty.Takes visits sources summary) :
    summary.overall.unmapped = (sources.map SourceSummary.unmapped).sum :=
  count_eq_sum hsums htakes rfl DispatchSummary.unmapped_absorb
    fun _ _ hsum => hsum.counts_eq.2.2.1.symm

theorem unaccepted_eq_sum (hsums : List.Forall₂ (Visit.SumsUp importer) visits sources)
    (htakes : ImportSummary.empty.Takes visits sources summary) :
    summary.overall.unaccepted = (sources.map SourceSummary.undelivered).sum :=
  count_eq_sum hsums htakes rfl DispatchSummary.unaccepted_absorb
    fun _ _ hsum => hsum.counts_eq.2.2.2.symm

/-- An import is complete when it says so of every object. -/
theorem isComplete_iff_allDelivered
    (hsums : List.Forall₂ (Visit.SumsUp importer) visits sources)
    (htakes : ImportSummary.empty.Takes visits sources summary) :
    summary.isComplete = true ↔ AllDelivered visits sources := by
  have hreads : summary.readFailures = 0 ↔ ∀ visit ∈ visits, visit.isRead := by
    rw [htakes.readFailures_eq, ImportSummary.empty, Nat.zero_add, List.countP_eq_zero]
    simp
  have hunmapped : summary.overall.unmapped = 0 ↔ ∀ source ∈ sources, source.unmapped = 0 := by
    rw [unmapped_eq_sum hsums htakes, List.sum_eq_zero_iff_forall_eq_nat, List.forall_mem_map]
  have hunaccepted : summary.overall.unaccepted = 0 ↔
      ∀ source ∈ sources, source.undelivered = 0 := by
    rw [unaccepted_eq_sum hsums htakes, List.sum_eq_zero_iff_forall_eq_nat, List.forall_mem_map]
  calc
    summary.isComplete = true ↔ summary.overall.isComplete = true ∧ summary.readFailures = 0 := by
      rw [ImportSummary.isComplete, Bool.and_eq_true, beq_iff_eq]
    _ ↔ ((∀ source ∈ sources, source.unmapped = 0) ∧ ∀ source ∈ sources, source.undelivered = 0) ∧
        ∀ visit ∈ visits, visit.isRead := by
      rw [DispatchSummary.isComplete_iff, hunmapped, hunaccepted, hreads]
    _ ↔ AllDelivered visits sources := by
      rw [AllDelivered, and_comm, ← forall₂_and]

end Answer

/-- The answer to an import has one line for every object that was asked for, its counts are the
sums over the lines, and it is that of a completed import exactly when every object could be read
and no line tells of a loss. -/
theorem import_tally {σ : Type} (importer : Importer) (world : World σ) {event : Json}
    {state start : σ} {objects : List ObjectRef} {before : List Act}
    (hasks : Asks world event state objects before start) :
    ∃ visits sources,
      ImportTally importer world objects start visits sources
        (importer.handle world event state).2 (importer.handle world event state).1.response := by
  obtain ⟨visits, sources, summary, next, hobjects, hmade, hsums, htakes, hrun⟩ :=
    foldlM_importObject_takes importer world objects .empty start
  have hhandle : importer.handle world event state = (.done summary, next) := by
    rw [hasks.handle_eq importer]
    simp only [Importer.importObjects, bind, StateT.bind, hrun]
    rfl
  refine ⟨visits, sources, ?_⟩
  rw [hhandle]
  constructor
  case objects_eq => exact hobjects
  case visits_made => exact hmade
  case sums_up => exact hsums
  case sources_eq =>
    rw [← hobjects]
    exact (map_eq_of_sumsUp hsums fun _ _ hsum => hsum.counts_eq.1.symm).symm
  case within_total => exact within_total_of_made hmade hsums
  case response_eq =>
    have hcomplete : summary.isComplete = decide (AllDelivered visits sources) := by
      rw [Bool.eq_iff_iff, decide_eq_true_iff]
      exact isComplete_iff_allDelivered hsums htakes
    refine ⟨summary.overall.describe, summary.reports, ?_⟩
    rw [ImportOutcome.response_done, hcomplete, htakes.sources_eq, total_eq_sum hsums htakes,
      unmapped_eq_sum hsums htakes, unaccepted_eq_sum hsums htakes]
    rfl

/-- A notification of one object. -/
def notice (bucket key : String) : Json :=
  .obj [("eventSource", .str "aws:s3"),
    ("s3", .obj [("bucket", .obj [("name", .str bucket)]), ("object", .obj [("key", .str key)])])]

/-- Both objects of a notification are answered for, although neither of them gives a record. -/
theorem import_tally_notification :
    let event : Json := .obj [("Records", .arr [notice "in" "gone", notice "in" "broken"])]
    let objects : List ObjectRef := [⟨"in", "gone"⟩, ⟨"in", "broken"⟩]
    Asks worstWorld event [] objects [] [] ∧
      ∃ visits sources,
        ImportTally plainImporter worstWorld objects [] visits sources
          (plainImporter.handle worstWorld event []).2
          (plainImporter.handle worstWorld event []).1.response := by
  intro event objects
  have hevent : ImportSource.ofEvent event = .ok (.objects objects) := by
    with_unfolding_all rfl
  have hasks : Asks worstWorld event [] objects [] [] := .named hevent
  exact ⟨hasks, import_tally plainImporter worstWorld hasks⟩

end Intake
