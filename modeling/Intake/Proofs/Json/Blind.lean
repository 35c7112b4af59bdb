import Intake.Json.Shape
import Intake.Proofs.Json.Layout

/-!
# Readers that are blind to floating-point numbers

A reader of records is blind when other floating-point numbers in its document make no difference to
whether it succeeds and to what it gives; only its error may be another one.  Texts and whole numbers
are read by blind readers, and whatever is put together of blind readers is blind.
-/

namespace Intake

/-! ## Computations that succeed alike -/

/-- Two computations that give the same value or both fail, whatever their errors are. -/
def Alike {ε α : Type} (x y : Except ε α) : Prop := ∀ a, x = .ok a ↔ y = .ok a

namespace Alike

variable {ε α β γ : Type}

@[simp]
theorem refl (x : Except ε α) : Alike x x := fun _ => Iff.rfl

@[simp]
theorem errors (e e' : ε) : Alike (.error e : Except ε α) (.error e') := by
  intro a
  constructor <;> intro hok <;> cases hok

theorem bind {x y : Except ε α} {f g : α → Except ε β} (hfirst : Alike x y)
    (hthen : ∀ a, Alike (f a) (g a)) : Alike (x >>= f) (y >>= g) := by
  intro b
  rw [bind_eq_ok_iff, bind_eq_ok_iff]
  exact exists_congr fun a => and_congr (hfirst a) (hthen a b)

theorem map {x y : Except ε α} (hsame : Alike x y) (f : α → β) : Alike (f <$> x) (f <$> y) := by
  intro b
  rw [map_eq_ok_iff, map_eq_ok_iff]
  exact exists_congr fun a => and_congr_left' (hsame a)

theorem mapM {f : α → Except ε γ} {g : β → Except ε γ} {h : α → β} (hitem : ∀ a, Alike (g (h a)) (f a))
    (items : List α) : Alike ((items.map h).mapM g) (items.mapM f) := by
  induction items with
  | nil => exact refl _
  | cons a items ih =>
    rw [List.map_cons, List.mapM_cons, List.mapM_cons]
    exact (hitem a).bind fun _ => ih.bind fun _ => refl _

end Alike

/-! ## Decoders -/

section Blind

variable {replace : Binary64 → Binary64} {α β : Type}

/-- Other floating-point numbers in the document make no difference to what is read. -/
def Decoder.Blind (replace : Binary64 → Binary64) (decode : Decoder α) : Prop :=
  ∀ document, Alike (decode (document.mapFloats replace)) (decode document)

namespace Decoder

theorem blind_text : Decoder.Blind replace text := by
  rintro (_ | _ | (_ | _) | _ | _ | _) <;> simp [text, Json.mapFloats]

theorem blind_parsed {ε : Type} (read : String → Except ε α) (message : ε → String)
    (want : String) : Decoder.Blind replace (parsed read message want) := by
  rintro (_ | _ | (_ | _) | _ | _ | _) <;> simp [parsed, Json.mapFloats]

theorem blind_count (want : String) : Decoder.Blind replace (count want) := by
  rintro (_ | _ | (_ | _) | _ | _ | _) <;> simp [count, Json.mapFloats]

variable {decode : Decoder α}

theorem Blind.map (hdecode : decode.Blind replace) (f : α → β) :
    Decoder.Blind replace fun document => f <$> decode document :=
  fun document => (hdecode document).map f

theorem Blind.list (hdecode : decode.Blind replace) : decode.list.Blind replace := by
  intro document
  cases document with
  | arr items =>
    rw [Json.mapFloats, Json.mapItems_eq]
    exact Alike.mapM hdecode items
  | num n => cases n <;> exact Alike.errors _ _
  | null => exact Alike.refl _
  | bool b => exact Alike.refl _
  | str text => exact Alike.refl _
  | obj members => exact Alike.errors _ _

theorem Blind.nullable (hdecode : decode.Blind replace) : decode.nullable.Blind replace := by
  intro document
  cases document with
  | null => exact Alike.refl _
  | num n => cases n <;> exact (hdecode (.num _)).map some
  | bool b => exact Alike.refl _
  | str text => exact Alike.refl _
  | arr items => exact (hdecode (.arr items)).map some
  | obj members => exact (hdecode (.obj members)).map some

end Decoder

/-! ## Shapes -/

/-- The checks of a shape and what it builds do not see floating-point numbers. -/
structure Shape.Blind (replace : Binary64 → Binary64) (shape : Shape α) : Prop where
  check : ∀ field ∈ shape.fields, Decoder.Blind replace field.check
  build : ∀ look : String → Option Json,
    Alike (shape.build fun name => (look name).map (Json.mapFloats replace)) (shape.build look)

namespace Shape

theorem Blind.map {shape : Shape α} (hshape : shape.Blind replace) (f : α → β) :
    (f <$> shape).Blind replace where
  check := hshape.check
  build look := (hshape.build look).map f

theorem Blind.seq {shape : Shape (α → β)} {next : Shape α} (hshape : shape.Blind replace)
    (hnext : next.Blind replace) : (shape <*> next).Blind replace where
  check field hfield := by
    rcases List.mem_append.1 hfield with hfield | hfield
    · exact hshape.check field hfield
    · exact hnext.check field hfield
  build look := (hshape.build look).bind fun _ => (hnext.build look).bind fun _ => Alike.refl _

theorem blind_ofField {decode : Decoder α} (hdecode : decode.Blind replace) (name : String)
    (mayEnd : Bool) (missing : Except ShapeError α) :
    (ofField name mayEnd decode missing).Blind replace where
  check field hfield := by
    cases List.mem_singleton.1 hfield
    exact hdecode.map fun _ => ()
  build look := by
    dsimp only [ofField]
    cases look name with
    | none => exact Alike.refl _
    | some document => exact hdecode document

theorem blind_required {decode : Decoder α} (hdecode : decode.Blind replace) (name : String) :
    (required name decode).Blind replace :=
  blind_ofField hdecode name false _

theorem blind_optional {decode : Decoder α} (hdecode : decode.Blind replace) (name : String) :
    (optional name decode).Blind replace :=
  blind_ofField hdecode.nullable name true _

theorem blind_defaulted {decode : Decoder α} (hdecode : decode.Blind replace) (name : String)
    (value : α) : (defaulted name decode value).Blind replace :=
  blind_ofField hdecode name true _

variable {shape : Shape α}

theorem alike_checkMembers {fields : List Field}
    (hfields : ∀ field ∈ fields, Decoder.Blind replace field.check) (seen : List String)
    (members : List Json.Member) :
    Alike (checkMembers fields seen (Json.mapMembers replace members))
      (checkMembers fields seen members) := by
  induction members generalizing seen with
  | nil => exact Alike.refl _
  | cons m members ih =>
    obtain ⟨name, document⟩ := m
    rw [Json.mapMembers, checkMembers, checkMembers]
    split
    next => exact ih seen
    next field hfind =>
      split
      next => exact Alike.refl _
      next =>
        have hcheck := hfields field (List.mem_of_find?_eq_some hfind)
        exact (hcheck document).bind fun _ => ih (name :: seen)

theorem Blind.build_members (hshape : shape.Blind replace) (members : List Json.Member) :
    Alike (shape.build fun name => (Json.mapMembers replace members).lookup name)
      (shape.build fun name => members.lookup name) := by
  have hlook : (fun name => (Json.mapMembers replace members).lookup name) =
      fun name => (members.lookup name).map (Json.mapFloats replace) := by
    funext name
    rw [Json.mapMembers_eq, Json.lookup_map]
  rw [hlook]
  exact hshape.build _

theorem Blind.ofMembers (hshape : shape.Blind replace) (members : List Json.Member) :
    Alike (shape.ofMembers (Json.mapMembers replace members)) (shape.ofMembers members) :=
  (alike_checkMembers hshape.check [] members).bind fun _ => hshape.build_members members

theorem Blind.ofItems (hshape : shape.Blind replace) (record : String) (limit : LengthLimit)
    (items : List Json) :
    Alike (shape.ofItems record limit (Json.mapItems replace items))
      (shape.ofItems record limit items) := by
  have hzip : (shape.fields.map (·.name)).zip (Json.mapItems replace items) =
      Json.mapMembers replace ((shape.fields.map (·.name)).zip items) := by
    rw [Json.mapItems_eq, Json.mapMembers_eq, List.zip_map_right]
    rfl
  have hlength : (Json.mapItems replace items).length = items.length := by
    rw [Json.mapItems_eq, List.length_map]
  unfold Shape.ofItems
  rw [hzip, hlength]
  refine (alike_checkMembers hshape.check [] _).bind fun _ => ?_
  split
  next => exact Alike.refl _
  next =>
    split
    next => exact Alike.refl _
    next => exact hshape.build_members _

/-- A record whose fields are read by blind decoders is read by a blind decoder. -/
theorem Blind.decode (hshape : shape.Blind replace) (record : String) (limit : LengthLimit) :
    (shape.decode record limit).Blind replace := by
  intro document
  cases document with
  | obj members => exact hshape.ofMembers members
  | arr items => exact hshape.ofItems record limit items
  | num n => cases n <;> exact Alike.errors _ _
  | null => exact Alike.refl _
  | bool b => exact Alike.refl _
  | str text => exact Alike.refl _

end Shape

end Blind

end Intake
