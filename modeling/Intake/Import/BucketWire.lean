import Intake.Import.BucketClient
import Intake.Markup.Root

/-!
# Replies about buckets as they are received

Replies are markup documents.  A page with a character that no document may hold cannot be read, and
what a write is answered with may be a document that reports an error.  The body of an object is
what was asked for, whatever it holds.
-/

namespace Intake.BucketClient

/-- Whether a document can hold everything on a page. -/
def Page.isReadable (page : Page) : Bool :=
  (page.keys.filterMap id ++ page.nextToken.toList).all fun text =>
    text.toList.all Markup.isChar

/-- The root of a document that reports an error. -/
def errorRoot : String := "Error"

/-- Whether a body is a document that reports an error. -/
def isErrorReport (body : List UInt8) : Bool :=
  match Text.Utf8.decode body with
  | .ok document => Markup.rootName? document == some errorRoot
  | .error _ => false

end Intake.BucketClient
