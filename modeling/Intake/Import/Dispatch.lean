import Intake.Emission.Emitter
import Intake.Import.Lines

/-!
# Dispatching values

All values of one source are mapped first; the records go to the emitter in one emission.  The
summary accounts for every value: it was not mapped, or it was handed to the emitter.
-/

namespace Intake

structure DispatchSummary where
  total : Nat
  mappingFailures : List MappingFailure
  emission : EmissionReport
  deriving DecidableEq, Inhabited

/-- Why summaries have no sum. -/
inductive CountError where
  | overflow
  deriving DecidableEq, Inhabited

def CountError.message : CountError → String
  | .overflow => "attempt to add with overflow"

namespace DispatchSummary

def empty : DispatchSummary := ⟨0, [], .empty⟩

def isComplete (summary : DispatchSummary) : Bool :=
  summary.mappingFailures.isEmpty && summary.emission.isComplete

def unmapped (summary : DispatchSummary) : Nat := summary.mappingFailures.length

/-- Records that were mapped and yet not accepted by the bus. -/
def unaccepted (summary : DispatchSummary) : Nat := summary.emission.failedRecords.length

/-- Values that did not reach the bus. -/
def undelivered (summary : DispatchSummary) : Nat := summary.unmapped + summary.unaccepted

def describe (summary : DispatchSummary) : String :=
  if summary.isComplete then "all " ++ toString summary.total ++ " records were emitted"
  else
    toString summary.undelivered ++ " of " ++ toString summary.total ++
      " records could not be emitted (" ++ toString summary.unmapped ++ " unmapped, " ++
      toString summary.unaccepted ++ " undelivered)"

/-- The summary of two sources together. -/
def absorb (summary other : DispatchSummary) : DispatchSummary where
  total := summary.total + other.total
  mappingFailures := summary.mappingFailures ++ other.mappingFailures
  emission :=
    { totalRecords := summary.emission.totalRecords + other.emission.totalRecords
      rounds := max summary.emission.rounds other.emission.rounds
      submissions := summary.emission.submissions + other.emission.submissions
      failedRecords := summary.emission.failedRecords ++ other.emission.failedRecords
      lastFailures := summary.emission.lastFailures ++ other.emission.lastFailures }

/-- One more than the greatest count that a summary can hold. -/
def countLimit : Nat := UInt64.size

def isCountable (summary : DispatchSummary) : Bool :=
  summary.total < countLimit && summary.emission.totalRecords < countLimit &&
    summary.emission.submissions < countLimit

/-- The summary of two sources together, if it can hold the counts. -/
def absorb? (summary other : DispatchSummary) : Except CountError DispatchSummary :=
  let sum := summary.absorb other
  if sum.isCountable then .ok sum else .error .overflow

def toJson (summary : DispatchSummary) : Json :=
  .obj [("total", .ofNat summary.total),
    ("mapping_failures", .arr (summary.mappingFailures.map MappingFailure.toJson)),
    ("emission", summary.emission.toJson)]

def shape : Shape DispatchSummary :=
  DispatchSummary.mk <$> .required "total" (.count "usize")
    <*> .required "mapping_failures" (.list MappingFailure.decode)
    <*> .required "emission" EmissionReport.decode

def decode : Decoder DispatchSummary := shape.decode "DispatchSummary" .unnamed

end DispatchSummary

namespace Dispatch

variable {σ : Type}

/-- The records of the values that a mapper accepts. -/
def records (mapper : Mapper) (values : List Lines.Numbered) : List Record :=
  values.filterMap fun (_, value) => (mapper value).toOption

/-- The values that a mapper refuses. -/
def refusals (mapper : Mapper) (values : List Lines.Numbered) : List MappingFailure :=
  values.filterMap fun (position, value) =>
    match mapper value with
    | .ok _ => none
    | .error error => some ⟨position, error.message, some value⟩

/-- Maps the values and emits the records. -/
def values (mapper : Mapper) (emitter : Emitter) (bus : Bus σ) (schedule : Schedule)
    (values : List Lines.Numbered) : StateM σ DispatchSummary := do
  let emission ← emitter.emit bus schedule (records mapper values)
  return ⟨values.length, refusals mapper values, emission⟩

/-- Dispatches the values of a file. -/
def file (mapper : Mapper) (emitter : Emitter) (bus : Bus σ) (schedule : Schedule)
    (body : List UInt8) : StateM σ DispatchSummary := do
  let (parsed, failures) := Lines.parse body
  let summary ← values mapper emitter bus schedule parsed
  return {
    total := summary.total + failures.length
    mappingFailures :=
      (summary.mappingFailures ++ failures).mergeSort fun a b => a.position ≤ b.position
    emission := summary.emission }

end Dispatch

end Intake
