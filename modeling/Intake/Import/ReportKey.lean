import Intake.Text.Blank
import Intake.Text.Hex
import Intake.Text.Sha256
import Intake.Text.Utf8

/-!
# Keys of failure reports

The key of a report tells its kind, the day of the import and the source the failures belong to.
Source and part are cut down to characters that are safe in a path; a digest of the source as it
was keeps sources apart that look alike afterwards.
-/

namespace Intake

inductive ReportKind where
  | emission
  | mapping
  deriving DecidableEq, Repr, Inhabited

def ReportKind.name : ReportKind → String
  | .emission => "emission_failures"
  | .mapping => "mapping_failures"

namespace ReportKey

def isSafe (c : Char) : Bool :=
  ('a' ≤ c && c ≤ 'z') || ('A' ≤ c && c ≤ 'Z') || ('0' ≤ c && c ≤ '9') ||
    c == '-' || c == '_' || c == '.'

/-- A text as one segment of a path. -/
def segment (text : String) : String :=
  let cs := (Text.trimChars text.toList).map fun c => if isSafe c then c else '_'
  if cs.isEmpty then "unknown" else String.ofList cs

/-- A text without the slashes at its ends. -/
def withoutSlashes (text : String) : String :=
  let start := text.toList.dropWhile (· == '/')
  String.ofList (start.reverse.dropWhile (· == '/')).reverse

/-- How many digits of the digest stand in a key. -/
def digestSize : Nat := 12

def sourceDigest (source : String) : String :=
  String.ofList ((Text.Hex.encode (Text.Sha256.digest (Text.bytes source))).take digestSize)

/-- The folder of the reports of one kind about one source. -/
def folder (base : String) (kind : ReportKind) (date source : String) : String :=
  withoutSlashes base ++ "/dataset=" ++ kind.name ++ "/import_date=" ++ date ++ "/source=" ++
    segment source

/-- The key of one report. -/
def make (base : String) (kind : ReportKind) (date source part : String) : String :=
  folder base kind date source ++ "/part-" ++ segment part ++ "-" ++ sourceDigest source ++ ".json"

end ReportKey

end Intake
