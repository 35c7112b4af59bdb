import Intake.Import.Source

/-!
# Objects in buckets

Imported files are objects in buckets, and reports are written to a bucket of their own.  A
listing asks for page after page until one says it is the last.  Keys that end with a slash name
folders and are left out.
-/

namespace Intake

namespace BucketClient

/-- One page of a listing. -/
structure Page where
  /-- Listed objects may lack a key. -/
  keys : List (Option String)
  truncated : Option Bool
  nextToken : Option String
  deriving DecidableEq, Inhabited

/-- The service that holds the objects.  Its answers may depend on everything that went before, and
a request that fails for any reason comes back with what is said of it. -/
structure Service (σ : Type) where
  /-- The page of a bucket's keys with a given start that a token leads to. -/
  list : String → String → Option String → StateM σ (Except String Page)
  /-- An object, whose body may still get lost on its way. -/
  get : String → String → StateM σ (Except String (Except String (List UInt8)))
  put : String → String → List UInt8 → StateM σ (Except String Unit)

inductive BucketError where
  | list (bucket keyStart reason : String)
  | read (object : ObjectRef) (reason : String)
  /-- The object was there, but its body could not be received. -/
  | body (object : ObjectRef) (reason : String)
  | write (reason : String)
  | noReportBucket
  /-- A listing went on beyond the number of pages that may be asked for. -/
  | endlessListing
  deriving DecidableEq, Inhabited

def BucketError.message : BucketError → String
  | .list bucket keyStart reason =>
    "failed to list s3://" ++ bucket ++ "/" ++ keyStart ++ ": " ++ reason
  | .read object reason => "failed to read s3://" ++ object.label ++ ": " ++ reason
  | .body object reason => "failed to read body of s3://" ++ object.label ++ ": " ++ reason
  | .write reason => "failed to write object to s3: " ++ reason
  | .noReportBucket => "FAILURE_REPORT_BUCKET must be configured"
  | .endlessListing => "listing has too many pages"

def isFolder (key : String) : Bool := key.toList.getLast? == some '/'

/-- The keys of a page that name objects. -/
def Page.objectKeys (page : Page) : List String :=
  (page.keys.filterMap id).filter fun key => !isFolder key

/-- The token of the page after this one. -/
def Page.next? (page : Page) : Option String :=
  if page.truncated.getD false then page.nextToken else none

variable {σ : Type}

/-- The keys on the pages from a token on, of which at most so many are asked for. -/
def listPages (service : Service σ) (bucket keyStart : String) :
    Nat → Option String → StateM σ (Except BucketError (List String))
  | 0, _ => return .error .endlessListing
  | pages + 1, token => do
    match ← service.list bucket keyStart token with
    | .error reason => return .error (.list bucket keyStart reason)
    | .ok page =>
      match page.next? with
      | none => return .ok page.objectKeys
      | some next =>
        let rest ← listPages service bucket keyStart pages (some next)
        return rest.map (page.objectKeys ++ ·)

/-- The keys in a bucket that start in a given way. -/
def list (service : Service σ) (pageLimit : Nat) (bucket keyStart : String) :
    StateM σ (Except BucketError (List String)) :=
  listPages service bucket keyStart pageLimit none

def read (service : Service σ) (object : ObjectRef) :
    StateM σ (Except BucketError (List UInt8)) := do
  match ← service.get object.bucket object.key with
  | .error reason => return .error (.read object reason)
  | .ok received => return received.mapError (.body object)

def write (service : Service σ) (reportBucket : Option String) (key : String)
    (body : List UInt8) : StateM σ (Except BucketError Unit) := do
  match reportBucket with
  | none => return .error .noReportBucket
  | some bucket => return (← service.put bucket key body).mapError .write

end BucketClient

end Intake
