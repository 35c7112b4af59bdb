import Intake.Emission.Event
import Intake.Settings

/-!
# Emission

Records are submitted in batches, one call per batch.  Every batch that failed is submitted again,
whole, in the next round, until none is left or the bound on rounds is reached.  A run keeps the
trace of its rounds, and the report is read off that trace.

A round may submit its batches in any order; its outcomes are always listed in the order of the
batches.
-/

namespace Intake

/-- The message bus: a clock and a call whose reply may depend on everything that went before. -/
structure Bus (σ : Type) where
  now : StateM σ Timestamp
  put : List EventEntry → StateM σ (Except PublishError PublishResponse)

/-- Settings that validate, with the context of the events. -/
structure Emitter where
  settings : EmitterSettings
  context : Context
  validated : settings.validate = .ok ()

def Emitter.new (settings : EmitterSettings) (context : Context) : Except SettingsError Emitter :=
  match h : settings.validate with
  | .ok () => .ok ⟨settings, context, h⟩
  | .error e => .error e

/-- The order in which each round calls the bus for its batches. -/
structure Schedule where
  order : Nat → List Batch → List Batch
  perm : ∀ round batches, (order round batches).Perm batches

/-- Batches are submitted in their own order. -/
def Schedule.inOrder : Schedule := ⟨fun _ batches => batches, fun _ _ => List.Perm.refl _⟩

structure Submission where
  batch : Batch
  entries : List EventEntry
  outcome : Outcome
  deriving DecidableEq

/-- The submissions of one round in the order of their batches. -/
abbrev Round := List Submission

/-- The batches of a round that failed. -/
def Round.failing (round : Round) : List Batch :=
  (round.filter fun s => s.outcome.isFailure).map fun s => s.outcome.batch

/-- What one emission came to. -/
structure EmissionReport where
  totalRecords : Nat
  rounds : Nat
  submissions : Nat
  /-- The records of the batches that failed in the last round. -/
  failedRecords : List Record
  /-- The failures of the last round, entry by entry. -/
  lastFailures : List FailedEntry
  deriving DecidableEq, Inhabited

namespace EmissionReport

def empty : EmissionReport := ⟨0, 0, 0, [], []⟩

def isComplete (report : EmissionReport) : Bool := report.failedRecords.isEmpty

def summary (report : EmissionReport) : String :=
  if report.isComplete then "all " ++ toString report.totalRecords ++ " records were emitted"
  else
    toString report.failedRecords.length ++ " of " ++ toString report.totalRecords ++
      " records could not be emitted"

/-- The report of a run over so many records. -/
def ofRounds (totalRecords : Nat) (rounds : List Round) : EmissionReport :=
  let last := rounds.getLast?.getD []
  { totalRecords := totalRecords
    rounds := rounds.length
    submissions := rounds.flatten.length
    failedRecords := (Round.failing last).flatMap Batch.records
    lastFailures := last.flatMap fun s => s.outcome.failures }

def toJson (report : EmissionReport) : Json :=
  .obj [("total_records", .ofNat report.totalRecords), ("rounds", .ofNat report.rounds),
    ("submissions", .ofNat report.submissions),
    ("failed_records", .arr (report.failedRecords.map Record.toJson)),
    ("last_failures", .arr (report.lastFailures.map FailedEntry.toJson))]

def shape : Shape EmissionReport :=
  EmissionReport.mk <$> .required "total_records" (.count "usize")
    <*> .required "rounds" (.count "usize")
    <*> .required "submissions" (.count "usize")
    <*> .required "failed_records" (.list Record.decode)
    <*> .required "last_failures" (.list FailedEntry.decode)

def decode : Decoder EmissionReport := shape.decode "EmissionReport" .unnamed

end EmissionReport

namespace Emitter

variable {σ : Type}

/-- One call to the bus. -/
def submit (emitter : Emitter) (bus : Bus σ) (batch : Batch) : StateM σ Submission := do
  let time ← bus.now
  let entries := batch.entries emitter.context emitter.settings.busName time
  match ← bus.put entries with
  | .ok response => return ⟨batch, entries, .ofResponse batch response⟩
  | .error error => return ⟨batch, entries, .ofError batch error⟩

/-- Submits every batch once. -/
def submitRound (emitter : Emitter) (bus : Bus σ) (order : List Batch → List Batch)
    (batches : List Batch) : StateM σ Round := do
  let submissions ← (order batches).mapM (emitter.submit bus)
  return submissions.mergeSort fun a b => a.batch.index ≤ b.batch.index

/-- At most `left` more rounds, the first of them numbered `number`. -/
def runRounds (emitter : Emitter) (bus : Bus σ) (schedule : Schedule) :
    Nat → Nat → List Batch → StateM σ (List Round)
  | 0, _, _ => return []
  | _ + 1, _, [] => return []
  | left + 1, number, batch :: batches => do
    let round ← emitter.submitRound bus (schedule.order number) (batch :: batches)
    let rounds ← emitter.runRounds bus schedule left (number + 1) round.failing
    return round :: rounds

/-- The rounds of one emission. -/
def run (emitter : Emitter) (bus : Bus σ) (schedule : Schedule) (records : List Record) :
    StateM σ (List Round) :=
  let schedule := if emitter.settings.parallel then schedule else .inOrder
  emitter.runRounds bus schedule emitter.settings.maxRounds 1
    (Batch.partition emitter.settings.batchSize records)

/-- Submits the records and reports what became of them. -/
def emit (emitter : Emitter) (bus : Bus σ) (schedule : Schedule) (records : List Record) :
    StateM σ EmissionReport := do
  let rounds ← emitter.run bus schedule records
  return .ofRounds records.length rounds

end Emitter

end Intake
