import Intake.Json.Reader
import Intake.Json.Shape
import Intake.Text.Blank

/-!
# Settings

Settings come from a look-up of names such as a process environment.  A blank value counts as
absent and a present one is trimmed.  Emitter settings that do not validate are never handed out.
-/

namespace Intake

/-- The greatest number of entries one call to the bus may carry. -/
def maxBatchSize : Nat := 10

structure EmitterSettings where
  batchSize : Nat
  maxRounds : Nat
  busName : String
  region : String
  /-- Whether the batches of one round are submitted at the same time. -/
  parallel : Bool
  deriving DecidableEq, Inhabited

inductive SettingsError where
  | invalidBatchSize (size : Nat)
  | invalidMaxRounds
  | emptyBusName
  | unparseable (name expected text : String)
  deriving DecidableEq, Inhabited

def SettingsError.message : SettingsError → String
  | .invalidBatchSize size =>
    "batch_size must be between 1 and " ++ toString maxBatchSize ++ ", got " ++ toString size
  | .invalidMaxRounds => "max_rounds must be a positive integer"
  | .emptyBusName => "event_bus_name cannot be empty"
  | .unparseable name expected text =>
    name ++ " must be " ++ expected ++ ", got '" ++ text ++ "'"

namespace EmitterSettings

def default : EmitterSettings where
  batchSize := 10
  maxRounds := 10
  busName := "default"
  region := "eu-west-1"
  parallel := false

def validate (settings : EmitterSettings) : Except SettingsError Unit :=
  if settings.batchSize = 0 ∨ maxBatchSize < settings.batchSize then
    .error (.invalidBatchSize settings.batchSize)
  else if settings.maxRounds = 0 then .error .invalidMaxRounds
  else if Text.isBlankText settings.busName then .error .emptyBusName
  else .ok ()

end EmitterSettings

/-- A source of settings by name. -/
abbrev Lookup := String → Option String

namespace Lookup

/-- The trimmed value of a name, unless it is blank. -/
def read (lookup : Lookup) (name : String) : Option String :=
  match (lookup name).map Text.trim with
  | some text => if text = "" then none else some text
  | none => none

/-- The numbers a count may have are those of 64 bits. -/
def count? (text : String) : Option Nat :=
  let digits := match text.toList with
    | '+' :: rest => rest
    | cs => cs
  if digits.isEmpty || !digits.all Json.isDigit then none
  else
    let n := Json.digitsValue digits
    if n < UInt64.size then some n else none

def flag? (text : String) : Option Bool :=
  let lower := String.ofList (text.toList.map Char.toLower)
  if ["1", "true", "yes", "on"].contains lower then some true
  else if ["0", "false", "no", "off"].contains lower then some false
  else none

/-- The value of a name read by `parse`, or a default when the name is absent. -/
def readAs {α : Type} (lookup : Lookup) (name expected : String) (parse : String → Option α)
    (default : α) : Except SettingsError α :=
  match lookup.read name with
  | none => .ok default
  | some text =>
    match parse text with
    | some a => .ok a
    | none => .error (.unparseable name expected text)

end Lookup

namespace EmitterSettings

def ofLookup (lookup : Lookup) : Except SettingsError EmitterSettings := do
  let batchSize ← lookup.readAs "EMISSION_BATCH_SIZE" "a non-negative integer" Lookup.count?
    default.batchSize
  let maxRounds ← lookup.readAs "EMISSION_MAX_ROUNDS" "a non-negative integer" Lookup.count?
    default.maxRounds
  let parallel ← lookup.readAs "EMISSION_PARALLEL_SUBMISSIONS" "a boolean" Lookup.flag?
    default.parallel
  let settings : EmitterSettings := {
    batchSize := batchSize
    maxRounds := maxRounds
    busName := (lookup.read "EVENT_BUS_NAME").getD default.busName
    region := (lookup.read "AWS_REGION").getD default.region
    parallel := parallel }
  settings.validate
  return settings

def toJson (settings : EmitterSettings) : Json :=
  .obj [("batch_size", .ofNat settings.batchSize), ("max_rounds", .ofNat settings.maxRounds),
    ("event_bus_name", .str settings.busName), ("region", .str settings.region),
    ("parallel_submissions", .bool settings.parallel)]

def shape : Shape EmitterSettings :=
  EmitterSettings.mk <$> .required "batch_size" (.count "usize")
    <*> .required "max_rounds" (.count "usize")
    <*> .required "event_bus_name" .text
    <*> .required "region" .text
    <*> .defaulted "parallel_submissions" .flag false

def decode : Decoder EmitterSettings := shape.decode "EmitterConfig" .unnamed

end EmitterSettings

/-- Where events of an import come from, unless settings say otherwise. -/
def defaultEventSource : String := "publication-ingest.import"

def defaultDetailType : String := "PublicationService.DataImport.DataEntry"

/-- Everything the programs are configured by. -/
structure Settings where
  emitter : EmitterSettings
  tableName : String
  reportBucket : Option String
  reportFolder : String
  eventSource : String
  detailType : String
  deriving DecidableEq, Inhabited

def Settings.ofLookup (lookup : Lookup) : Except SettingsError Settings := do
  let emitter ← EmitterSettings.ofLookup lookup
  return {
    emitter := emitter
    tableName := (lookup.read "TABLE_NAME").getD "publications"
    reportBucket := lookup.read "FAILURE_REPORT_BUCKET"
    reportFolder := (lookup.read "FAILURE_REPORT_PREFIX").getD "publication-ingest/reports"
    eventSource := (lookup.read "EVENT_SOURCE").getD defaultEventSource
    detailType := (lookup.read "IMPORT_DETAIL_TYPE").getD defaultDetailType }

end Intake
