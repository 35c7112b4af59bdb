import Intake.Proofs.Emission.Order
import Intake.Proofs.Import.Documents
import Intake.Proofs.Import.ReportKey
import Intake.Proofs.Import.Trace

/-!
# No failure goes unreported

Every object of an import is visited, whatever became of the objects before it.  What its dispatch
left undone is written in one report for each kind of failure, and neither a failing write nor an
object that cannot be read keeps anything else from being done.
-/

namespace Intake

/-- What an import does with one object. -/
inductive Visit where
  | unread (object : ObjectRef) (reason : String)
  | dispatched (object : ObjectRef) (body : List UInt8) (calls : List Call)
      (summary : DispatchSummary) (writes : List Write)

namespace Visit

def object : Visit → ObjectRef
  | .unread object _ => object
  | .dispatched object _ _ _ _ => object

/-- The reports that were attempted, in their order. -/
def writes : Visit → List Write
  | .unread _ _ => []
  | .dispatched _ _ _ _ writes => writes

/-- Everything that is asked of the world on a visit. -/
def acts : Visit → List Act
  | .unread object reason => [.read object (.error reason)]
  | .dispatched object body calls _ writes =>
    .read object (.ok body) :: (calls.map Act.called ++ writes.map Act.wrote)

end Visit

/-- The reports attempted for an object, given what its dispatch came to.  There is one for each
kind of failure that occurred, and no other. -/
structure Reported (importer : Importer) (object : ObjectRef) (summary : DispatchSummary)
    (writes : List Write) : Prop where
  emission_once : summary.emission.failedRecords ≠ [] → ∃ result,
    writes.filter (fun write => write.key = importer.reportKey .emission object.label) =
      [⟨importer.reportKey .emission object.label,
        Text.bytes (emissionDocument object summary.emission.rounds
          summary.emission.failedRecords summary.emission.lastFailures).render, result⟩]
  emission_none : summary.emission.failedRecords = [] →
    ∀ write ∈ writes, write.key ≠ importer.reportKey .emission object.label
  mapping_once : summary.mappingFailures ≠ [] → ∃ result,
    writes.filter (fun write => write.key = importer.reportKey .mapping object.label) =
      [⟨importer.reportKey .mapping object.label,
        Text.bytes (mappingDocument object summary.mappingFailures).render, result⟩]
  mapping_none : summary.mappingFailures = [] →
    ∀ write ∈ writes, write.key ≠ importer.reportKey .mapping object.label
  nothing_else : ∀ write ∈ writes, write.key = importer.reportKey .emission object.label ∨
    write.key = importer.reportKey .mapping object.label

/-- The error of the first write that failed. -/
def FirstError (writes : List Write) : Option String → Prop
  | none => ∀ write ∈ writes, write.result = .ok ()
  | some reason => ∃ before write after, writes = before ++ write :: after ∧
      write.result = .error reason ∧ ∀ earlier ∈ before, earlier.result = .ok ()

/-- What the world does on a visit: from the state in which it finds it to that in which it leaves
it, it answers everything that is asked of it. -/
inductive Visit.Made {σ : Type} (importer : Importer) (world : World σ) :
    σ → Visit → σ → Prop where
  | unread {state next : σ} {object : ObjectRef} {reason : String}
      (hread : world.read object state = (.error reason, next)) :
      Made importer world state (.unread object reason) next
  | dispatched {state opened emitted next : σ} {object : ObjectRef} {body : List UInt8}
      {calls : List Call} {summary : DispatchSummary} {writes : List Write}
      (hread : world.read object state = (.ok body, opened))
      (hdispatch : Dispatch.file importer.mapper importer.emitter world.bus.recorded
        importer.schedule body (opened, []) = (summary, (emitted, calls)))
      (hwrites : Leads world.Writes emitted writes next) :
      Made importer world state (.dispatched object body calls summary writes) next

/-- How a visit is summed up. -/
inductive Visit.SumsUp (importer : Importer) : Visit → SourceSummary → Prop where
  | unread (object : ObjectRef) (reason : String) :
      SumsUp importer (.unread object reason) ⟨object, 0, 0, 0, some reason⟩
  | dispatched (object : ObjectRef) (body : List UInt8) (calls : List Call)
      {summary : DispatchSummary} {writes : List Write} {error : Option String}
      (hreported : Reported importer object summary writes) (herror : FirstError writes error) :
      SumsUp importer (.dispatched object body calls summary writes)
        { object
          total := summary.total
          unmapped := summary.mappingFailures.length
          undelivered := summary.emission.failedRecords.length
          error }

namespace Importer

variable (importer : Importer) (object : ObjectRef) (summary : DispatchSummary)

theorem reportKey_ne (label : String) :
    importer.reportKey .emission label ≠ importer.reportKey .mapping label := by
  intro heq
  cases ReportKey.kind_injective heq

theorem key_emissionReport : ∀ report ∈ importer.emissionReport object summary,
    report.key = importer.reportKey .emission object.label := by
  unfold emissionReport
  split <;> simp

theorem key_mappingReport : ∀ report ∈ importer.mappingReport object summary,
    report.key = importer.reportKey .mapping object.label := by
  unfold mappingReport
  split <;> simp

/-- The reports of one kind are told from the others by their key. -/
theorem filter_reportsFor :
    (importer.reportsFor object summary).filter
        (fun report => report.key = importer.reportKey .emission object.label) =
      importer.emissionReport object summary ∧
    (importer.reportsFor object summary).filter
        (fun report => report.key = importer.reportKey .mapping object.label) =
      importer.mappingReport object summary := by
  have hkinds := importer.reportKey_ne object.label
  have hemission := importer.key_emissionReport object summary
  have hmapping := importer.key_mappingReport object summary
  rw [reportsFor, List.filter_append, List.filter_append]
  constructor
  · rw [List.filter_eq_self.2, List.filter_eq_nil_iff.2, List.append_nil]
    · intro report hreport
      simpa [hmapping report hreport] using hkinds.symm
    · intro report hreport
      simpa using hemission report hreport
  · rw [List.filter_eq_nil_iff.2, List.filter_eq_self.2, List.nil_append]
    · intro report hreport
      simpa using hmapping report hreport
    · intro report hreport
      simpa [hemission report hreport] using hkinds

end Importer

section Writes

variable {importer : Importer} {object : ObjectRef} {summary : DispatchSummary}
  {writes : List Write}

/-- The writes with a key are the reports with that key. -/
theorem filter_writes {reports : List Report}
    (hwrites : writes.map (fun write => (write.key, write.body)) =
      reports.map fun report => (report.key, Text.bytes report.body.render)) (key : String) :
    (writes.filter fun write => write.key = key).map (fun write => (write.key, write.body)) =
      (reports.filter fun report => report.key = key).map
        fun report => (report.key, Text.bytes report.body.render) := by
  have hfiltered := congrArg (List.filter fun pair => pair.1 = key) hwrites
  rw [List.filter_map, List.filter_map] at hfiltered
  exact hfiltered

/-- A write of a report is known up to what came of it. -/
theorem eq_singleton_of_map {key : String} {body : List UInt8}
    (hwrites : writes.map (fun write => (write.key, write.body)) = [(key, body)]) :
    ∃ result, writes = [⟨key, body, result⟩] := by
  obtain ⟨write, hwrite, heq⟩ := List.map_eq_singleton_iff.1 hwrites
  obtain ⟨rfl, rfl⟩ := Prod.mk.inj heq
  exact ⟨write.result, hwrite⟩

theorem key_ne_of_map {key : String}
    (hwrites : (writes.filter fun write => write.key = key).map
      (fun write => (write.key, write.body)) = []) : ∀ write ∈ writes, write.key ≠ key := by
  intro write hwrite
  simpa using List.filter_eq_nil_iff.1 (List.map_eq_nil_iff.1 hwrites) write hwrite

theorem reported_of_writes
    (hwrites : writes.map (fun write => (write.key, write.body)) =
      (importer.reportsFor object summary).map
        fun report => (report.key, Text.bytes report.body.render)) :
    Reported importer object summary writes := by
  obtain ⟨hemission, hmapping⟩ := importer.filter_reportsFor object summary
  have hemissions := filter_writes hwrites (importer.reportKey .emission object.label)
  have hmappings := filter_writes hwrites (importer.reportKey .mapping object.label)
  rw [hemission] at hemissions
  rw [hmapping] at hmappings
  constructor
  case emission_once =>
    intro hfailed
    rw [importer.emissionReport_eq object hfailed] at hemissions
    exact eq_singleton_of_map hemissions
  case emission_none =>
    intro hnone
    rw [Importer.emissionReport, if_pos (by simpa using hnone)] at hemissions
    exact key_ne_of_map hemissions
  case mapping_once =>
    intro hfailures
    rw [importer.mappingReport_eq object hfailures] at hmappings
    exact eq_singleton_of_map hmappings
  case mapping_none =>
    intro hnone
    rw [Importer.mappingReport, if_pos (by simpa using hnone)] at hmappings
    exact key_ne_of_map hmappings
  case nothing_else =>
    intro write hwrite
    have hmem := List.mem_map_of_mem (f := fun write : Write => (write.key, write.body)) hwrite
    rw [hwrites] at hmem
    obtain ⟨report, hreport, heq⟩ := List.mem_map.1 hmem
    obtain ⟨hkey, -⟩ := Prod.mk.inj heq
    rw [← hkey]
    rcases List.mem_append.1 hreport with hreport | hreport
    · exact .inl (importer.key_emissionReport object summary report hreport)
    · exact .inr (importer.key_mappingReport object summary report hreport)

theorem firstError_outcomes (writes : List Write) :
    FirstError writes (Importer.firstError? (writes.map Write.outcome)) := by
  induction writes with
  | nil => exact List.forall_mem_nil _
  | cons write writes ih =>
    obtain ⟨key, body, result⟩ := write
    cases result with
    | error reason => exact ⟨[], _, writes, rfl, rfl, List.forall_mem_nil _⟩
    | ok =>
      have hskip : Importer.firstError? ((⟨key, body, .ok ()⟩ :: writes).map Write.outcome) =
          Importer.firstError? (writes.map Write.outcome) := rfl
      rw [hskip]
      cases herror : Importer.firstError? (writes.map Write.outcome) with
      | none =>
        rw [herror] at ih
        exact List.forall_mem_cons.2 ⟨rfl, ih⟩
      | some reason =>
        rw [herror] at ih
        obtain ⟨before, failed, after, hsplit, hresult, hbefore⟩ := ih
        exact ⟨_ :: before, failed, after, by rw [hsplit]; rfl, hresult,
          List.forall_mem_cons.2 ⟨rfl, hbefore⟩⟩

end Writes

/-- The key of a report that was written. -/
def Write.key? (write : Write) : Option String :=
  match write.result with
  | .ok () => some write.key
  | .error _ => none

theorem writtenKeys_outcomes (writes : List Write) :
    Importer.writtenKeys (writes.map Write.outcome) = writes.filterMap Write.key? := by
  rw [Importer.writtenKeys, List.filterMap_map]
  apply List.filterMap_congr
  rintro ⟨key, body, result⟩ _
  cases result <;> rfl

section Run

variable {σ : Type} (importer : Importer) (world : World σ)

/-- An object is visited: the summary goes on with what the visit came to, and the log with what was
done. -/
theorem importObject_recorded (so : ImportSummary) (object : ObjectRef) (state : σ)
    (acts : List Act) :
    ∃ (visit : Visit) (source : SourceSummary) (later : ImportSummary) (next : σ),
      visit.object = object ∧ Visit.Made importer world state visit next ∧
      visit.SumsUp importer source ∧
      later.sources = so.sources ++ [source] ∧
      later.reports = so.reports ++ visit.writes.filterMap Write.key? ∧
      importer.importObject world so object state = (later, next) ∧
      importer.importObject world.recorded so object (state, acts) =
        (later, (next, acts ++ visit.acts)) := by
  cases hread : world.read object state with
  | mk result middle =>
    have hreadRecorded : world.recorded.read object (state, acts) =
        (result, (middle, acts ++ [.read object result])) := by
      simp only [World.recorded, logged, hread]
    cases result with
    | error reason =>
      let source : SourceSummary := ⟨object, 0, 0, 0, some reason⟩
      let later : ImportSummary :=
        { so with readFailures := so.readFailures + 1, sources := so.sources ++ [source] }
      refine ⟨.unread object reason, source, later, middle, rfl, .unread hread,
        .unread object reason, rfl, (List.append_nil _).symm, ?_, ?_⟩
      · simp only [Importer.importObject, bind, StateT.bind, hread]
        rfl
      · simp only [Importer.importObject, bind, StateT.bind, hreadRecorded]
        rfl
    | ok body =>
      obtain ⟨summary, calls, emitted, hdispatch, hfile, hfileRecorded⟩ :=
        file_recorded importer.mapper importer.emitter world importer.schedule body middle
          (acts ++ [.read object (.ok body)])
      obtain ⟨writes, next, hreports, hwrites, hrun, hrunRecorded⟩ :=
        mapM_writeReport_recorded world (importer.reportsFor object summary) emitted
          (acts ++ [.read object (.ok body)] ++ calls.map Act.called)
      have herror := firstError_outcomes writes
      let source : SourceSummary := ⟨object, summary.total, summary.unmapped, summary.unaccepted,
        Importer.firstError? (writes.map Write.outcome)⟩
      let later : ImportSummary :=
        { so with
          overall := so.overall.absorb summary
          sources := so.sources ++ [source]
          reports := so.reports ++ Importer.writtenKeys (writes.map Write.outcome) }
      refine ⟨.dispatched object body calls summary writes, source, later, next, rfl,
        .dispatched hread hdispatch hwrites,
        .dispatched object body calls (reported_of_writes hreports) herror, rfl, ?_, ?_, ?_⟩
      · simp only [later, writtenKeys_outcomes, Visit.writes]
      · simp only [Importer.importObject, bind, StateT.bind, hread, hfile, hrun]
        rfl
      · simp only [Importer.importObject, bind, StateT.bind, hreadRecorded, hfileRecorded,
          hrunRecorded]
        simp only [Visit.acts, List.append_assoc, List.cons_append, List.nil_append]
        rfl

/-- The objects are visited one after the other, whatever became of those before. -/
theorem foldlM_importObject_recorded (objects : List ObjectRef) (so : ImportSummary) (state : σ)
    (acts : List Act) :
    ∃ (visits : List Visit) (sources : List SourceSummary) (later : ImportSummary) (next : σ),
      visits.map Visit.object = objects ∧ Leads (Visit.Made importer world) state visits next ∧
      List.Forall₂ (Visit.SumsUp importer) visits sources ∧
      later.sources = so.sources ++ sources ∧
      later.reports = so.reports ++ (visits.flatMap Visit.writes).filterMap Write.key? ∧
      objects.foldlM (importer.importObject world) so state = (later, next) ∧
      objects.foldlM (importer.importObject world.recorded) so (state, acts) =
        (later, (next, acts ++ visits.flatMap Visit.acts)) := by
  induction objects generalizing so state acts with
  | nil =>
    refine ⟨[], [], so, state, rfl, .nil state, .nil, (List.append_nil _).symm,
      (List.append_nil _).symm, rfl, ?_⟩
    rw [List.flatMap_nil, List.append_nil]
    rfl
  | cons object objects ih =>
    obtain ⟨visit, source, middle, between, hobject, hmade, hsumsUp, hsource, hkeys, hrun,
      hrecorded⟩ := importObject_recorded importer world so object state acts
    obtain ⟨visits, sources, later, next, hobjects, hmadeRest, hsumsUpRest, hsources, hkeysRest,
      hrest, hrestRecorded⟩ := ih middle between (acts ++ visit.acts)
    refine ⟨visit :: visits, source :: sources, later, next, ?_, .cons hmade hmadeRest,
      .cons hsumsUp hsumsUpRest, ?_, ?_, ?_, ?_⟩
    · rw [List.map_cons, hobject, hobjects]
    · rw [hsources, hsource, List.append_assoc, List.singleton_append]
    · rw [hkeysRest, hkeys, List.flatMap_cons, List.filterMap_append, List.append_assoc]
    · simp only [List.foldlM_cons, bind, StateT.bind, hrun, hrest]
    · simp only [List.foldlM_cons, bind, StateT.bind, hrecorded, hrestRecorded,
        List.flatMap_cons, List.append_assoc]

end Run

/-- The objects that an accepted event asks for, with what is asked of the world to find them and
the state that it is in then. -/
inductive Asks {σ : Type} (world : World σ) (event : Json) (state : σ) :
    List ObjectRef → List Act → σ → Prop where
  | named {objects : List ObjectRef}
      (hevent : ImportSource.ofEvent event = .ok (.objects objects)) :
      Asks world event state objects [] state
  | listed {request : ImportRequest} {keys : List String} {start : σ}
      (hevent : ImportSource.ofEvent event = .ok (.listing request))
      (hlist : world.list request.bucket request.keyStart state = (.ok keys, start)) :
      Asks world event state (keys.map fun key => ⟨request.bucket, key⟩)
        [.listed request.bucket request.keyStart (.ok keys)] start

/-- An accepted event leads to the import of what it asks for. -/
theorem Asks.handle_eq {σ : Type} {world : World σ} {event : Json} {state start : σ}
    {objects : List ObjectRef} {before : List Act}
    (hasks : Asks world event state objects before start) (importer : Importer) :
    importer.handle world event state = importer.importObjects world objects start := by
  cases hasks with
  | named hevent => simp only [Importer.handle, hevent]
  | listed hevent hlist =>
    simp only [Importer.handle, hevent, bind, StateT.bind, hlist]

/-- How an import of some objects is done and what it answers. -/
structure Imported {σ : Type} (importer : Importer) (world : World σ) (event : Json) (state : σ)
    (objects : List ObjectRef) (before : List Act) (start : σ) (visits : List Visit)
    (summary : ImportSummary) (next : σ) : Prop where
  run_eq : importer.handle world event state = (.done summary, next)
  /-- Everything that is asked of the world is part of a visit, but for the listing. -/
  recorded_eq : importer.handle world.recorded event (state, []) =
    (.done summary, (next, before ++ visits.flatMap Visit.acts))
  objects_eq : visits.map Visit.object = objects
  visits_made : Leads (Visit.Made importer world) start visits next
  sources_eq : List.Forall₂ (Visit.SumsUp importer) visits summary.sources
  reports_eq : summary.reports = (visits.flatMap Visit.writes).filterMap Write.key?
  /-- The answer has the line of every object and the keys of the reports that were written. -/
  response_eq : (importer.handle world event state).1.response =
    importAnswer summary.isComplete summary.overall.describe summary.overall.total
      summary.overall.mappingFailures.length summary.overall.emission.failedRecords.length
      summary.sources ((visits.flatMap Visit.writes).filterMap Write.key?)

/-- Whatever the world answers, an import visits every object that was asked for, attempts a report
for each kind of failure of each of them, and says what became of it. -/
theorem import_reported {σ : Type} (importer : Importer) (world : World σ) {event : Json}
    {state start : σ} {objects : List ObjectRef} {before : List Act}
    (hasks : Asks world event state objects before start) :
    ∃ visits summary next,
      Imported importer world event state objects before start visits summary next := by
  obtain ⟨visits, sources, summary, next, hobjects, hmade, hsumsUp, hsources, hreports, hrun,
    hrecorded⟩ := foldlM_importObject_recorded importer world objects .empty start before
  rw [ImportSummary.empty, List.nil_append] at hsources hreports
  have hhandle : importer.handle world event state = (.done summary, next) := by
    rw [hasks.handle_eq importer]
    simp only [Importer.importObjects, bind, StateT.bind, hrun]
    rfl
  refine ⟨visits, summary, next, ?_⟩
  constructor
  case run_eq => exact hhandle
  case objects_eq => exact hobjects
  case visits_made => exact hmade
  case sources_eq => exact hsources ▸ hsumsUp
  case reports_eq => exact hreports
  case response_eq =>
    rw [hhandle, ImportOutcome.response_done, hreports]
    rfl
  case recorded_eq =>
    cases hasks with
    | named hevent =>
      simp only [Importer.handle, Importer.importObjects, hevent, bind, StateT.bind, hrecorded]
      rfl
    | @listed request keys _ hevent hlist =>
      have hlistRecorded : world.recorded.list request.bucket request.keyStart (state, []) =
          (.ok keys, (start, [.listed request.bucket request.keyStart (.ok keys)])) := by
        simp only [World.recorded, logged, hlist]
        rfl
      simp only [Importer.handle, Importer.importObjects, hevent, bind, StateT.bind,
        hlistRecorded, hrecorded]
      rfl

/-- A world with an object that is gone and one that holds no values, which takes no reports. -/
def worstWorld : World (List (List String)) where
  bus := .counting springDay fun _ _ => .ok ⟨0, []⟩
  list _ _ := pure (.ok ["gone", "broken"])
  read object := pure (if object.key = "gone" then .error "no such key" else .ok [0x78])
  write _ _ := pure (.error "no space")

def plainImporter : Importer :=
  ⟨Mapper.byEntry, singleEmitter, .inOrder, ⟨"reports", "2026-02-14", "1"⟩⟩

/-- Both objects of a bucket are visited in it. -/
theorem import_reported_worstWorld :
    let event : Json := .obj [("bucket", .str "in")]
    let objects : List ObjectRef := [⟨"in", "gone"⟩, ⟨"in", "broken"⟩]
    let before : List Act := [.listed "in" "" (.ok ["gone", "broken"])]
    Asks worstWorld event [] objects before [] ∧
      ∃ visits summary next,
        Imported plainImporter worstWorld event [] objects before [] visits summary next := by
  intro event objects before
  have hevent : ImportSource.ofEvent event = .ok (.listing ⟨"in", ""⟩) := by
    with_unfolding_all rfl
  have hlist : worstWorld.list "in" "" [] = (.ok ["gone", "broken"], []) := rfl
  have hasks : Asks worstWorld event [] objects before [] := .listed hevent hlist
  exact ⟨hasks, import_reported plainImporter worstWorld hasks⟩

end Intake
