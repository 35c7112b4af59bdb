import Intake.Entry.Decode
import Intake.Proofs.Json.Blind

/-!
# Entries hold no floating-point numbers

No field of an entry is a floating-point number, and members that belong to no field are ignored.  So
other floating-point numbers in a document make no difference to the entry in it.
-/

namespace Intake

open Decoder (blind_text blind_parsed blind_count)
open Shape (blind_required blind_optional blind_defaulted)

variable {replace : Binary64 → Binary64}

theorem Identifier.blind_decode : Identifier.decode.Blind replace := blind_parsed _ _ _

theorem Timestamp.blind_decode : Timestamp.decode.Blind replace := blind_parsed _ _ _

theorem Uuid.blind_decode : Uuid.decode.Blind replace := blind_parsed _ _ _

theorem Status.blind_decode {σ : Type} [Status σ] :
    (Status.decode : Decoder σ).Blind replace := blind_parsed _ _ _

theorem RowVersion.blind_decode : RowVersion.decode.Blind replace := blind_text.map RowVersion.mk

theorem blind_decodeSize : decodeSize.Blind replace := (blind_count "u64").map UInt64.ofNat

theorem Contributor.blind_decode : Contributor.decode.Blind replace :=
  Shape.Blind.decode (((blind_required blind_text _).map _).seq (blind_optional blind_text _)) _ _

theorem Description.blind_decode : Description.decode.Blind replace := by
  apply Shape.Blind.decode
  exact (((((blind_optional blind_text _).map _).seq (blind_optional blind_text _)).seq
    (blind_optional blind_text _)).seq (blind_optional blind_text _)).seq
    (blind_defaulted Contributor.blind_decode.list _ _)

theorem AssociatedFile.blind_decode : AssociatedFile.decode.Blind replace := by
  apply Shape.Blind.decode
  exact (((((blind_required Uuid.blind_decode _).map _).seq (blind_required blind_text _)).seq
    (blind_optional blind_text _)).seq (blind_optional blind_decodeSize _)).seq
    (blind_optional blind_text _)

theorem Metadata.blind_shape : Metadata.shape.Blind replace :=
  ((((((blind_required Identifier.blind_decode _).map _).seq (blind_optional blind_text _)).seq
    (blind_optional blind_text _)).seq (blind_required Timestamp.blind_decode _)).seq
    (blind_required Timestamp.blind_decode _)).seq (blind_required RowVersion.blind_decode _)

theorem Resource.blind_shape : Resource.shape.Blind replace :=
  (((blind_required Status.blind_decode _).map _).seq
    (blind_optional Description.blind_decode _)).seq
    (blind_defaulted AssociatedFile.blind_decode.list _ _)

theorem Ticket.blind_shape : Ticket.shape.Blind replace :=
  ((blind_required Status.blind_decode _).map _).seq (blind_required Identifier.blind_decode _)

theorem Message.blind_shape : Message.shape.Blind replace :=
  (((((blind_required Status.blind_decode _).map _).seq
    (blind_required Identifier.blind_decode _)).seq (blind_optional Identifier.blind_decode _)).seq
    (blind_optional blind_text _)).seq (blind_required blind_text _)

theorem Content.blind_shape (t : EntryType) : (Content.shape t).Blind replace := by
  cases t with
  | resource => exact Resource.blind_shape.map _
  | doiRequest => exact (Ticket.blind_shape.map _).seq (blind_optional blind_text _)
  | publishingRequest =>
    exact (Ticket.blind_shape.map _).seq (blind_defaulted Uuid.blind_decode.list _ _)
  | approvalRequest => exact (Ticket.blind_shape.map _).seq (blind_optional blind_text _)
  | message => exact Message.blind_shape.map _

theorem EntryType.blind_decodeTag : EntryType.decodeTag.Blind replace := by
  rintro (_ | _ | (_ | _) | _ | _ | _) <;> simp [EntryType.decodeTag, Json.mapFloats]

namespace Entry

theorem filter_mapMembers (keep : String → Bool) (members : List Json.Member) :
    ((Json.mapMembers replace members).filter fun m => keep m.1) =
      Json.mapMembers replace (members.filter fun m => keep m.1) := by
  rw [Json.mapMembers_eq, Json.mapMembers_eq, List.filter_map]
  rfl

theorem alike_tagOf (members : List Json.Member) :
    Alike (tagOf (Json.mapMembers replace members)) (tagOf members) := by
  unfold tagOf
  rw [filter_mapMembers fun name => name == "type"]
  cases members.filter fun m => m.1 == "type" with
  | nil => exact Alike.refl _
  | cons m more =>
    have hmore : (Json.mapMembers replace more).isEmpty = more.isEmpty := by
      rw [Json.mapMembers_eq, List.isEmpty_map]
    show Alike (EntryType.decodeTag (m.2.mapFloats replace) >>= fun t =>
      if (Json.mapMembers replace more).isEmpty then return t else throw _) _
    rw [hmore]
    exact (EntryType.blind_decodeTag m.2).bind fun _ => Alike.refl _

theorem alike_ofMembers (t : EntryType) (members : List Json.Member) :
    Alike (ofMembers t (Json.mapMembers replace members)) (ofMembers t members) := by
  unfold ofMembers
  rw [filter_mapMembers fun name => name != "type"]
  exact ((Content.blind_shape t).ofMembers _).bind fun _ =>
    (Metadata.blind_shape.ofMembers _).bind fun _ => Alike.refl _

/-- A document holds the same entry whatever its floating-point numbers are. -/
theorem blind_decode : Entry.decode.Blind replace := by
  intro document
  cases document with
  | obj members =>
    exact (alike_tagOf members).bind fun t => alike_ofMembers t members
  | arr items =>
    cases items with
    | nil => exact Alike.refl _
    | cons tag rest =>
      exact (EntryType.blind_decodeTag tag).bind fun _ => Alike.errors _ _
  | num n => cases n <;> exact Alike.errors _ _
  | null => exact Alike.refl _
  | bool b => exact Alike.refl _
  | str text => exact Alike.refl _

end Entry

end Intake
