import Intake.Import.Handler
import Intake.Proofs.Emission.Agreement
import Intake.Proofs.Emission.Trace

/-!
# What an import does

A recorded world keeps a log of what it is asked and what it answers, and otherwise does what the
world does.  An import visits its objects one after the other; a visit reads the object and, if that
succeeds, dispatches it and writes its reports.  The log of an import is made of the logs of its
visits.
-/

namespace Intake

/-- A report that was to be written, and what came of it. -/
structure Write where
  key : String
  body : List UInt8
  result : Except String Unit

/-- Something the world is asked, with its answer. -/
inductive Act where
  | listed (bucket keyStart : String) (result : Except String (List String))
  | read (object : ObjectRef) (result : Except String (List UInt8))
  | called (call : Call)
  | wrote (write : Write)

section Recorded

variable {σ : Type}

/-- Keeps a note of what a computation gives in the log. -/
def logged {α β : Type} (note : α → β) (m : StateM σ α) : StateM (σ × List β) α :=
  fun (state, notes) =>
    let (a, next) := m state
    (a, (next, notes ++ [note a]))

/-- A world that keeps a log. -/
def World.recorded (world : World σ) : World (σ × List Act) where
  bus :=
    { now := fun (state, acts) =>
        let (time, next) := world.bus.now state
        (time, (next, acts))
      put := fun entries => logged (fun reply => .called ⟨entries, reply⟩) (world.bus.put entries) }
  list bucket keyStart := logged (.listed bucket keyStart) (world.list bucket keyStart)
  read object := logged (.read object) (world.read object)
  write key body := logged (fun result => .wrote ⟨key, body, result⟩) (world.write key body)

/-- A recorded bus answers as the bus does. -/
theorem mimics_recorded (bus : Bus σ) :
    bus.Mimics (fun state recorded => state = recorded.1) bus.recorded := by
  constructor
  case now =>
    rintro state ⟨_, calls⟩ rfl
    exact ⟨rfl, rfl, trivial⟩
  case put =>
    rintro entries state ⟨_, calls⟩ rfl
    exact ⟨rfl, rfl, trivial⟩

/-- A recorded world keeps the calls to its bus as the recorded bus does. -/
theorem mimics_world (world : World σ) (before : List Act) :
    world.bus.recorded.Mimics
      (fun s t => s.1 = t.1 ∧ t.2 = before ++ s.2.map Act.called) world.recorded.bus := by
  constructor
  case now =>
    rintro ⟨state, calls⟩ ⟨_, _⟩ ⟨rfl, rfl⟩
    exact ⟨rfl, ⟨rfl, rfl⟩, trivial⟩
  case put =>
    rintro entries ⟨state, calls⟩ ⟨_, _⟩ ⟨rfl, rfl⟩
    refine ⟨rfl, ⟨rfl, ?_⟩, trivial⟩
    show before ++ calls.map Act.called ++ [_] = before ++ (calls ++ [_]).map Act.called
    rw [List.map_append, List.append_assoc]
    rfl

/-- The log of a dispatch is that of its calls. -/
theorem file_recorded (mapper : Mapper) (emitter : Emitter) (world : World σ) (schedule : Schedule)
    (body : List UInt8) (state : σ) (acts : List Act) :
    ∃ (summary : DispatchSummary) (calls : List Call) (next : σ),
      Dispatch.file mapper emitter world.bus.recorded schedule body (state, []) =
        (summary, (next, calls)) ∧
      Dispatch.file mapper emitter world.bus schedule body state = (summary, next) ∧
      Dispatch.file mapper emitter world.recorded.bus schedule body (state, acts) =
        (summary, (next, acts ++ calls.map Act.called)) := by
  obtain ⟨hplain, hplainState, -⟩ :=
    (mimics_recorded world.bus).file emitter mapper schedule body state (state, []) rfl
  obtain ⟨hworld, ⟨hworldState, hacts⟩, -⟩ :=
    (mimics_world world acts).file emitter mapper schedule body (state, []) (state, acts)
      ⟨rfl, (List.append_nil acts).symm⟩
  refine ⟨_, _, _, rfl, Prod.ext hplain hplainState, ?_⟩
  exact Prod.ext hworld.symm (Prod.ext hworldState.symm hacts)

/-- What came of a write, as the handler keeps it. -/
def Write.outcome (write : Write) : String × Except String Unit := (write.key, write.result)

/-- The world is asked for a write and gives its result. -/
def World.Writes (world : World σ) (state : σ) (write : Write) (next : σ) : Prop :=
  world.write write.key write.body state = (write.result, next)

theorem writeReport_recorded (world : World σ) (report : Report) (state : σ) (acts : List Act) :
    ∃ (write : Write) (next : σ),
      (write.key, write.body) = (report.key, Text.bytes report.body.render) ∧
      world.Writes state write next ∧
      Importer.writeReport world report state = (write.outcome, next) ∧
      Importer.writeReport world.recorded report (state, acts) =
        (write.outcome, (next, acts ++ [.wrote write])) := by
  have hbody : Text.bytes report.body.render = Text.Utf8.encode report.body.renderChars := by
    rw [Text.bytes, Json.render, String.toList_ofList]
  rw [hbody]
  cases hwrite : world.write report.key (Text.Utf8.encode report.body.renderChars) state with
  | mk result next =>
    refine ⟨⟨report.key, _, result⟩, next, rfl, hwrite, ?_, ?_⟩
    · simp only [Importer.writeReport, bind, StateT.bind, hwrite]
      rfl
    · simp only [Importer.writeReport, World.recorded, logged, bind, StateT.bind, hwrite]
      rfl

/-- Every report is written, and the next one whatever came of it. -/
theorem mapM_writeReport_recorded (world : World σ) (reports : List Report) (state : σ)
    (acts : List Act) :
    ∃ (writes : List Write) (next : σ),
      writes.map (fun write => (write.key, write.body)) =
        reports.map (fun report => (report.key, Text.bytes report.body.render)) ∧
      Leads world.Writes state writes next ∧
      reports.mapM (Importer.writeReport world) state = (writes.map Write.outcome, next) ∧
      reports.mapM (Importer.writeReport world.recorded) (state, acts) =
        (writes.map Write.outcome, (next, acts ++ writes.map Act.wrote)) :=
  mapM_recorded world.Writes _ _ Write.outcome Act.wrote (writeReport_recorded world) reports state
    acts

end Recorded

end Intake
