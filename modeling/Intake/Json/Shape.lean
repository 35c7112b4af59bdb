import Intake.Except
import Intake.Json.Printer
import Intake.Text.Quoted

/-!
# Reading records out of JSON

A `Shape` lists the fields of a record and builds the record from them.  The record may be written
as an object or as the list of its fields.  The members of an object are checked in the order in
which they are written, so the first bad one is the error; fields that are missing are reported
after that, in the order of the shape.
-/

namespace Intake

/-- Why a document does not have the shape of a record. -/
inductive ShapeError where
  | wrongKind (got : Json) (want : String)
  | negative (n : Int) (want : String)
  | notOneMember
  | tooShort (count : Nat) (record : String) (size : Nat)
  | tooLong (count : Nat) (limit : String)
  | missingField (name : String)
  | duplicateField (name : String)
  | unknownVariant (name : String) (variants : List String)
  /-- A value of the right kind that its own reader refuses, in the words of that reader. -/
  | refused (reason : String)
  deriving DecidableEq, Inhabited

namespace ShapeError

/-- A document named by its kind, and by its content where that is short. -/
def describe : Json → String
  | .null => "null"
  | .bool true => "boolean `true`"
  | .bool false => "boolean `false`"
  | .num (.int n) => "integer `" ++ (Number.int n).render ++ "`"
  | .num (.float x) => "floating point `" ++ (Number.float x).render ++ "`"
  | .str s => "string " ++ Text.quoted s
  | .arr _ => "sequence"
  | .obj _ => "map"

def message : ShapeError → String
  | .wrongKind got want => "invalid type: " ++ describe got ++ ", expected " ++ want
  | .negative n want =>
    "invalid value: integer `" ++ (Number.int n).render ++ "`, expected " ++ want
  | .notOneMember => "invalid value: map, expected map with a single key"
  | .tooShort count record size =>
    "invalid length " ++ toString count ++ ", expected struct " ++ record ++ " with " ++
      toString size ++ " elements"
  | .tooLong count limit => "invalid length " ++ toString count ++ ", expected " ++ limit
  | .missingField name => "missing field `" ++ name ++ "`"
  | .duplicateField name => "duplicate field `" ++ name ++ "`"
  | .unknownVariant name variants =>
    "unknown variant `" ++ name ++ "`, expected one of " ++
      String.intercalate ", " (variants.map fun v => "`" ++ v ++ "`")
  | .refused reason => reason

end ShapeError

/-- Reads a value of a type out of a document. -/
abbrev Decoder (α : Type) := Json → Except ShapeError α

namespace Decoder

def text : Decoder String
  | .str s => .ok s
  | other => .error (.wrongKind other "a string")

def flag : Decoder Bool
  | .bool b => .ok b
  | other => .error (.wrongKind other "a boolean")

/-- A whole number that is not negative; `want` is what the error calls it. -/
def count (want : String) : Decoder Nat
  | .num (.int n) => if 0 ≤ n then .ok n.toNat else .error (.negative n want)
  | other => .error (.wrongKind other want)

def list (item : Decoder α) : Decoder (List α)
  | .arr xs => xs.mapM item
  | other => .error (.wrongKind other "a sequence")

/-- Null stands for nothing. -/
def nullable (item : Decoder α) : Decoder (Option α)
  | .null => .ok none
  | other => (item other).map some

def document : Decoder Json := .ok

/-- A string that has to satisfy a reader of its own. -/
def parsed {ε : Type} (read : String → Except ε α) (message : ε → String) (want : String) :
    Decoder α
  | .str s => (read s).mapError fun e => .refused (message e)
  | other => .error (.wrongKind other want)

end Decoder

/-- One field of a record, as far as checking a document needs it. -/
structure Field where
  name : String
  check : Json → Except ShapeError Unit
  /-- Whether the list form of the record may end before this field. -/
  mayEnd : Bool

/-- The fields of a record and the way to build it from their documents. -/
structure Shape (α : Type) where
  fields : List Field
  build : (String → Option Json) → Except ShapeError α
  /-- A record is built only from documents that pass the checks of their fields. -/
  checked : ∀ look a, build look = .ok a →
    ∀ field ∈ fields, ∀ document, look field.name = some document → field.check document = .ok ()

namespace Shape

instance : Functor Shape where
  map f shape :=
    { fields := shape.fields
      build := fun look => f <$> shape.build look
      checked := by
        intro look b hbuild
        obtain ⟨a, ha, -⟩ := map_eq_ok_iff.1 hbuild
        exact shape.checked look a ha }

instance : Seq Shape where
  seq shape next :=
    { fields := shape.fields ++ (next ()).fields
      build := fun look => do
        let f ← shape.build look
        let a ← (next ()).build look
        return f a
      checked := by
        intro look b hbuild field hfield
        obtain ⟨f, hf, hrest⟩ := bind_eq_ok_iff.1 hbuild
        obtain ⟨a, ha, -⟩ := bind_eq_ok_iff.1 hrest
        rcases List.mem_append.1 hfield with hfield | hfield
        · exact shape.checked look f hf field hfield
        · exact (next ()).checked look a ha field hfield }

def ofField (name : String) (mayEnd : Bool) (decode : Decoder α)
    (missing : Except ShapeError α) : Shape α where
  fields := [⟨name, fun document => (decode document).map fun _ => (), mayEnd⟩]
  build look :=
    match look name with
    | some document => decode document
    | none => missing
  checked := by
    intro look a hbuild field hfield document hlook
    cases List.mem_singleton.1 hfield
    have hdecode : decode document = .ok a := by simpa only [hlook] using hbuild
    show (decode document).map _ = _
    rw [hdecode]
    rfl

def required (name : String) (decode : Decoder α) : Shape α :=
  ofField name false decode (.error (.missingField name))

/-- A field that may be missing or null. -/
def optional (name : String) (decode : Decoder α) : Shape (Option α) :=
  ofField name true decode.nullable (.ok none)

/-- A field that may be null, and missing in an object but not in a list. -/
def nullable (name : String) (decode : Decoder α) : Shape (Option α) :=
  ofField name false decode.nullable (.ok none)

/-- A field with a value of its own when it is missing. -/
def defaulted (name : String) (decode : Decoder α) (value : α) : Shape α :=
  ofField name true decode (.ok value)

section Build

variable {look : String → Option Json} {name : String} {decode : Decoder α}

@[simp]
theorem build_map (f : α → β) (shape : Shape α) : (f <$> shape).build look = f <$> shape.build look :=
  rfl

@[simp]
theorem build_seq (shape : Shape (α → β)) (next : Shape α) :
    (shape <*> next).build look = (do
      let f ← shape.build look
      let a ← next.build look
      return f a) := rfl

theorem build_required {document : Json} {a : α} (hlook : look name = some document)
    (hdecode : decode document = .ok a) : (required name decode).build look = .ok a := by
  simp only [required, ofField, hlook, hdecode]

/-- A field that may be missing is read back from what is written for it, if that is not null. -/
theorem build_optional {value : Option α} {write : α → Json} (hlook : look name = value.map write)
    (hdecode : ∀ a ∈ value, decode (write a) = .ok a) (hnull : ∀ a ∈ value, write a ≠ .null) :
    (optional name decode).build look = .ok value := by
  cases value with
  | none => simp only [optional, ofField, hlook, Option.map_none]
  | some a =>
    have hnullable : decode.nullable (write a) = .ok (some a) := by
      rw [Decoder.nullable]
      · rw [hdecode a rfl]
        rfl
      · exact hnull a rfl
    simp only [optional, ofField, hlook, Option.map_some, hnullable]

theorem list_map {items : List α} {write : α → Json}
    (hdecode : ∀ a ∈ items, decode (write a) = .ok a) :
    decode.list (.arr (items.map write)) = .ok items :=
  mapM_map_eq_ok hdecode

/-- A list that is left out when it is empty is read back. -/
theorem build_defaulted_list {items : List α} {write : α → Json}
    (hlook : look name = if items.isEmpty then none else some (.arr (items.map write)))
    (hdecode : ∀ a ∈ items, decode (write a) = .ok a) :
    (defaulted name decode.list []).build look = .ok items := by
  cases items with
  | nil => simp [defaulted, ofField, hlook]
  | cons a items =>
    have hlist := list_map hdecode
    simpa [defaulted, ofField, hlook] using hlist

end Build

/-- Checks the members that are fields, in order. -/
def checkMembers (fields : List Field) : List String → List Json.Member → Except ShapeError Unit
  | _, [] => .ok ()
  | seen, (name, document) :: rest =>
    match fields.find? fun field => field.name == name with
    | none => checkMembers fields seen rest
    | some field =>
      if name ∈ seen then .error (.duplicateField name)
      else do
        field.check document
        checkMembers fields (name :: seen) rest

/-- The record in the members of an object. -/
def ofMembers (shape : Shape α) (members : List Json.Member) : Except ShapeError α := do
  checkMembers shape.fields [] members
  shape.build fun name => members.lookup name

theorem checkMembers_eq_ok {fields : List Field} {seen : List String} {members : List Json.Member}
    (hnames : (members.map Prod.fst).Nodup) (hseen : ∀ name ∈ seen, name ∉ members.map Prod.fst)
    (hcheck : ∀ m ∈ members, ∀ field ∈ fields, field.name = m.1 → field.check m.2 = .ok ()) :
    checkMembers fields seen members = .ok () := by
  induction members generalizing seen with
  | nil => rfl
  | cons m members ih =>
    obtain ⟨name, document⟩ := m
    obtain ⟨hname, hrest⟩ := List.nodup_cons.1 hnames
    have hcheckRest := fun m hm => hcheck m (List.mem_cons_of_mem _ hm)
    rw [checkMembers]
    split
    next =>
      exact ih hrest (fun n hn hmem => hseen n hn (List.mem_cons_of_mem _ hmem)) hcheckRest
    next field hfind =>
      have hfield : field.name = name := by simpa using List.find?_some hfind
      have hok := hcheck _ List.mem_cons_self field (List.mem_of_find?_eq_some hfind) hfield
      rw [if_neg fun hmem => hseen name hmem List.mem_cons_self, hok, ok_bind]
      refine ih hrest ?_ hcheckRest
      intro n hn
      rcases List.mem_cons.1 hn with rfl | hn
      · exact hname
      · exact fun hmem => hseen n hn (List.mem_cons_of_mem _ hmem)

theorem lookup_of_mem {name : String} {document : Json} {members : List Json.Member}
    (hnames : (members.map Prod.fst).Nodup) (hmem : (name, document) ∈ members) :
    members.lookup name = some document := by
  induction members with
  | nil => cases hmem
  | cons m members ih =>
    obtain ⟨n, d⟩ := m
    obtain ⟨hname, hrest⟩ := List.nodup_cons.1 hnames
    rcases List.mem_cons.1 hmem with heq | hlater
    · cases heq
      exact List.lookup_cons_self
    · have hne : name ≠ n := by
        rintro rfl
        exact hname (List.mem_map.2 ⟨_, hlater, rfl⟩)
      rw [List.lookup_cons, beq_eq_false_iff_ne.2 hne]
      exact ih hrest hlater

/-- Members with different names hold a record when the record is built from them. -/
theorem ofMembers_of_build {shape : Shape α} {members : List Json.Member} {a : α}
    (hnames : (members.map Prod.fst).Nodup)
    (hbuild : (shape.build fun name => members.lookup name) = .ok a) :
    shape.ofMembers members = .ok a := by
  have hcheck : checkMembers shape.fields [] members = .ok () := by
    refine checkMembers_eq_ok hnames (fun _ hn => absurd hn List.not_mem_nil) ?_
    rintro ⟨name, document⟩ hm field hfield hname
    exact shape.checked _ a hbuild field hfield document (hname ▸ lookup_of_mem hnames hm)
  rw [ofMembers, hcheck, ok_bind, hbuild]

/-- What the error calls the greatest length of the list form. -/
inductive LengthLimit where
  | unnamed
  | counted

def LengthLimit.describe (size : Nat) : LengthLimit → String
  | .unnamed => "fewer elements in array"
  | .counted => toString size ++ " elements in sequence"

/-- The record in the list of its fields. -/
def ofItems (shape : Shape α) (record : String) (limit : LengthLimit) (items : List Json) :
    Except ShapeError α := do
  let members := (shape.fields.map (·.name)).zip items
  checkMembers shape.fields [] members
  match (shape.fields.drop items.length).findIdx? fun field => !field.mayEnd with
  | some index => .error (.tooShort (items.length + index) record shape.fields.length)
  | none =>
    if shape.fields.length < items.length then
      .error (.tooLong items.length (limit.describe shape.fields.length))
    else shape.build fun name => members.lookup name

/-- The record in an object. -/
def decodeObject (shape : Shape α) (record : String) : Decoder α
  | .obj members => shape.ofMembers members
  | other => .error (.wrongKind other ("struct " ++ record))

/-- The record in a document, written in either form. -/
def decode (shape : Shape α) (record : String) (limit : LengthLimit) : Decoder α
  | .obj members => shape.ofMembers members
  | .arr items => shape.ofItems record limit items
  | other => .error (.wrongKind other ("struct " ++ record))

end Shape

end Intake
