import Intake.Json.Printer
import Intake.Json.Shape

/-!
# Records and batches

A record is one value ready for the bus, with the identifier it is known by.  Records are submitted
in batches: consecutive runs of the input, all of one size but the last.
-/

namespace Intake

structure Record where
  identifier : String
  payload : Json
  deriving DecidableEq, Inhabited

namespace Record

/-- The text of the payload that an event carries. -/
def detail (record : Record) : String := record.payload.render

def toJson (record : Record) : Json :=
  .obj [("identifier", .str record.identifier), ("payload", record.payload)]

def shape : Shape Record :=
  Record.mk <$> .required "identifier" .text <*> .required "payload" .document

def decode : Decoder Record := shape.decode "Record" .unnamed

end Record

structure Batch where
  index : Nat
  records : List Record
  deriving DecidableEq, Inhabited

inductive BatchError where
  | sizeNotPositive
  deriving DecidableEq, Inhabited

def BatchError.message : BatchError → String
  | .sizeNotPositive => "batch_size must be positive"

namespace Batch

/-- Fills groups one after another; `current` is the group being filled, last item first. -/
def fill {α : Type} (size : Nat) : List α → List α → List (List α)
  | current, [] => if current.isEmpty then [] else [current.reverse]
  | current, x :: rest =>
    if current.length + 1 = size then (x :: current).reverse :: fill size [] rest
    else fill size (x :: current) rest

/-- The batches of a list of records, numbered in order. -/
def partition (size : Nat) (records : List Record) : List Batch :=
  (fill size [] records).mapIdx fun index records => ⟨index, records⟩

/-- The batches of a list of records, for a size that may be zero. -/
def partition? (size : Nat) (records : List Record) : Except BatchError (List Batch) :=
  if size = 0 then .error .sizeNotPositive else .ok (partition size records)

end Batch

end Intake
