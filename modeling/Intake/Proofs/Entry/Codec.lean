import Intake.Entry.Reader
import Intake.Entry.Encode
import Intake.Proofs.Json.Layout
import Intake.Proofs.Timestamp.Text
import Intake.Proofs.Uuid.Text

/-!
# Entries round trip through their documents

Every part of an entry is read back from what is written for it, in any layout of the document.  A
record is built from look-ups alone, so each of its fields needs one fact: what the look-up of its
name gives.  The names of the metadata, of the content and of the type are different, so neither
record sees the members of the other.
-/

namespace Intake

open Json (Layout lookup_optionalMember lookup_listMember)

theorem Identifier.ext_text {a b : Identifier} (htext : a.text = b.text) : a = b := by
  cases a
  cases b
  cases htext
  rfl

theorem Identifier.parse_text (identifier : Identifier) :
    Identifier.parse identifier.text = .ok identifier := by
  have htrim := identifier.trimmed
  have hempty : ¬Text.trim identifier.text = "" := by
    rw [htrim]
    exact identifier.text_ne
  have hdelimiter : ¬holdsDelimiter (Text.trim identifier.text) = true := by
    rw [htrim, identifier.no_delimiter]
    decide
  rw [Identifier.parse, dif_neg hempty, dif_neg hdelimiter]
  exact congrArg Except.ok (Identifier.ext_text htrim)

theorem ResourceStatus.parse_name (s : ResourceStatus) :
    Status.parse (Status.name s) = .ok s := by
  cases s <;> rfl

theorem TicketStatus.parse_name (s : TicketStatus) : Status.parse (Status.name s) = .ok s := by
  cases s <;> rfl

theorem MessageStatus.parse_name (s : MessageStatus) : Status.parse (Status.name s) = .ok s := by
  cases s <;> rfl

theorem EntryType.ofName?_name (t : EntryType) : EntryType.ofName? t.name = some t := by
  cases t <;> rfl

section Parts

variable (L : Layout)

theorem Identifier.decode_toJson (identifier : Identifier) :
    Identifier.decode (L.apply identifier.toJson) = .ok identifier := by
  rw [Identifier.toJson, L.str, Identifier.decode, Decoder.parsed, Identifier.parse_text,
    mapError_ok]

theorem RowVersion.decode_toJson (version : RowVersion) :
    RowVersion.decode (L.apply version.toJson) = .ok version := by
  rw [RowVersion.toJson, L.str]
  rfl

theorem Timestamp.decode_toJson (t : Timestamp) :
    Timestamp.decode (L.apply t.toJson) = .ok t := by
  rw [Timestamp.toJson, L.str, Timestamp.decode, Decoder.parsed, Timestamp.parse_toString,
    mapError_ok]

theorem Uuid.decode_toJson (uuid : Uuid) : Uuid.decode (L.apply uuid.toJson) = .ok uuid := by
  rw [Uuid.toJson, L.str, Uuid.decode, Decoder.parsed, Uuid.parse_toString, mapError_ok]

theorem Status.decode_toJson {σ : Type} [Status σ] {s : σ}
    (hparse : Status.parse (Status.name s) = .ok s) :
    Status.decode (L.apply (Status.toJson s)) = .ok s := by
  rw [Status.toJson, L.str, Status.decode, Decoder.parsed, hparse, mapError_ok]

theorem decode_text (text : String) : Decoder.text (L.apply (.str text)) = .ok text := by
  rw [L.str, Decoder.text]

theorem decodeSize_sizeToJson (size : UInt64) :
    decodeSize (L.apply (sizeToJson size)) = .ok size := by
  have hcount : Decoder.count "u64" (sizeToJson size) = .ok size.toNat := by
    rw [sizeToJson, Json.ofNat, Decoder.count, if_pos (Int.natCast_nonneg _), Int.toNat_natCast]
  have hnum : L.apply (sizeToJson size) = sizeToJson size := L.num _
  rw [hnum, decodeSize, hcount]
  exact congrArg Except.ok UInt64.ofNat_toNat

theorem EntryType.decodeTag_name (t : EntryType) :
    EntryType.decodeTag (L.apply (.str t.name)) = .ok t := by
  rw [L.str, EntryType.decodeTag, EntryType.decodeName, EntryType.ofName?_name]

end Parts

/-- The names of the fields of a record. -/
def Shape.names {α : Type} (shape : Shape α) : List String := shape.fields.map Field.name

section Fields

variable {α : Type} {L : Layout} {look : String → Option Json} {name : String}

theorem Shape.build_optional_text {value : Option String}
    (hlook : look name = (value.map Json.str).map L.apply) :
    (Shape.optional name .text).build look = .ok value := by
  rw [Option.map_map] at hlook
  apply Shape.build_optional hlook
  · exact fun text _ => decode_text L text
  · intro text _
    rw [Function.comp, L.str]
    exact Json.noConfusion

theorem Shape.build_list {items : List α} {write : α → Json} {decode : Decoder α}
    (hlook : look name =
      (if items.isEmpty then none else some (Json.arr (items.map write))).map L.apply)
    (hdecode : ∀ a, decode (L.apply (write a)) = .ok a) :
    (Shape.defaulted name decode.list []).build look = .ok items := by
  have hwritten : look name =
      if items.isEmpty then none else some (.arr (items.map fun a => L.apply (write a))) := by
    rw [hlook]
    split
    · rfl
    · rw [Option.map_some, L.arr, List.map_map]
      rfl
  exact Shape.build_defaulted_list hwritten fun a _ => hdecode a

/-- A record is read back from an object in any layout when it can be built from its members. -/
theorem Shape.decode_obj {shape : Shape α} {record : String} {limit : LengthLimit}
    {members : List Json.Member} {a : α} (hnames : (members.map Prod.fst).Nodup)
    (hbuild : ∀ look : String → Option Json,
      (∀ name, look name = (members.lookup name).map L.apply) → shape.build look = .ok a) :
    shape.decode record limit (L.apply (.obj members)) = .ok a := by
  obtain ⟨others, hothers, hnodup, hlook⟩ := L.obj members hnames
  rw [hothers, Shape.decode]
  exact Shape.ofMembers_of_build hnodup (hbuild _ hlook)

end Fields

attribute [local simp] Json.lookup_cons_if List.lookup_append lookup_optionalMember
  lookup_listMember

section Records

variable (L : Layout)

theorem Contributor.decode_toJson (c : Contributor) :
    Contributor.decode (L.apply c.toJson) = .ok c := by
  apply Shape.decode_obj
  · have hsub := (Json.names_optionalMember "affiliation" .str c.affiliation).cons_cons "name"
    exact hsub.nodup (by decide)
  · intro look hlook
    have hname : look "name" = some (L.apply (.str c.name)) := by simp [hlook]
    have haffiliation : look "affiliation" = (c.affiliation.map Json.str).map L.apply := by
      simp [hlook]
    simp only [Contributor.shape, Shape.build_seq, Shape.build_map,
      Shape.build_required hname (decode_text L _), Shape.build_optional_text haffiliation, map_ok,
      ok_bind, pure_eq_ok]

theorem Description.decode_toJson (d : Description) :
    Description.decode (L.apply d.toJson) = .ok d := by
  apply Shape.decode_obj
  · have hsub := ((((Json.names_optionalMember "mainTitle" .str d.mainTitle).append
      (Json.names_optionalMember "abstract" .str d.abstractText)).append
      (Json.names_optionalMember "publicationYear" .str d.publicationYear)).append
      (Json.names_optionalMember "referenceDoi" .str d.referenceDoi)).append
      (Json.names_listMember "contributors" Contributor.toJson d.contributors)
    simp only [← List.map_append] at hsub
    exact hsub.nodup (by decide)
  · intro look hlook
    have htitle : look "mainTitle" = (d.mainTitle.map Json.str).map L.apply := by simp [hlook]
    have habstract : look "abstract" = (d.abstractText.map Json.str).map L.apply := by
      simp [hlook]
    have hyear : look "publicationYear" = (d.publicationYear.map Json.str).map L.apply := by
      simp [hlook]
    have hdoi : look "referenceDoi" = (d.referenceDoi.map Json.str).map L.apply := by simp [hlook]
    have hcontributors : look "contributors" = (if d.contributors.isEmpty then none
        else some (Json.arr (d.contributors.map Contributor.toJson))).map L.apply := by
      simp [hlook]
    simp only [Description.shape, Shape.build_seq, Shape.build_map,
      Shape.build_optional_text htitle, Shape.build_optional_text habstract,
      Shape.build_optional_text hyear, Shape.build_optional_text hdoi,
      Shape.build_list hcontributors (Contributor.decode_toJson L), map_ok, ok_bind, pure_eq_ok]

theorem AssociatedFile.decode_toJson (f : AssociatedFile) :
    AssociatedFile.decode (L.apply f.toJson) = .ok f := by
  apply Shape.decode_obj
  · have hsub := (((List.Sublist.refl ["identifier", "name"]).append
      (Json.names_optionalMember "mimeType" .str f.mimeType)).append
      (Json.names_optionalMember "size" sizeToJson f.size)).append
      (Json.names_optionalMember "license" .str f.license)
    simp only [List.map_append]
    exact hsub.nodup (by decide)
  · intro look hlook
    have hidentifier : look "identifier" = some (L.apply f.identifier.toJson) := by simp [hlook]
    have hname : look "name" = some (L.apply (.str f.name)) := by simp [hlook]
    have hmime : look "mimeType" = (f.mimeType.map Json.str).map L.apply := by simp [hlook]
    have hsize : look "size" = f.size.map fun size => L.apply (sizeToJson size) := by
      simp [hlook, Function.comp_def]
    have hlicense : look "license" = (f.license.map Json.str).map L.apply := by simp [hlook]
    have hsizeNull : ∀ size ∈ f.size, L.apply (sizeToJson size) ≠ .null := by
      intro size _ hnull
      rw [sizeToJson, Json.ofNat, L.num] at hnull
      cases hnull
    simp only [AssociatedFile.shape, Shape.build_seq, Shape.build_map,
      Shape.build_required hidentifier (Uuid.decode_toJson L _),
      Shape.build_required hname (decode_text L _), Shape.build_optional_text hmime,
      Shape.build_optional hsize (fun size _ => decodeSize_sizeToJson L size) hsizeNull,
      Shape.build_optional_text hlicense, map_ok, ok_bind, pure_eq_ok]

/-- The metadata are built from any members that agree with those written for them. -/
theorem Metadata.build_members {look : String → Option Json} (m : Metadata)
    (hlook : ∀ name ∈ Metadata.shape.names, look name = (m.members.lookup name).map L.apply) :
    Metadata.shape.build look = .ok m := by
  have hidentifier : look "identifier" = some (L.apply m.identifier.toJson) := by
    rw [hlook _ (by decide), Metadata.members]
    simp
  have howner : look "owner" = (m.owner.map Json.str).map L.apply := by
    rw [hlook _ (by decide), Metadata.members]
    simp
  have hcustomer : look "customerId" = (m.customerId.map Json.str).map L.apply := by
    rw [hlook _ (by decide), Metadata.members]
    simp
  have hcreated : look "createdDate" = some (L.apply m.createdDate.toJson) := by
    rw [hlook _ (by decide), Metadata.members]
    simp
  have hmodified : look "modifiedDate" = some (L.apply m.modifiedDate.toJson) := by
    rw [hlook _ (by decide), Metadata.members]
    simp
  have hversion : look "rowVersion" = some (L.apply m.rowVersion.toJson) := by
    rw [hlook _ (by decide), Metadata.members]
    simp
  simp only [Metadata.shape, Shape.build_seq, Shape.build_map,
    Shape.build_required hidentifier (Identifier.decode_toJson L _),
    Shape.build_optional_text howner, Shape.build_optional_text hcustomer,
    Shape.build_required hcreated (Timestamp.decode_toJson L _),
    Shape.build_required hmodified (Timestamp.decode_toJson L _),
    Shape.build_required hversion (RowVersion.decode_toJson L _), map_ok, ok_bind, pure_eq_ok]

theorem Resource.build_members {look : String → Option Json} (r : Resource)
    (hlook : ∀ name ∈ Resource.shape.names,
      look name = ((Content.resource r).members.lookup name).map L.apply) :
    Resource.shape.build look = .ok r := by
  have hstatus : look "status" = some (L.apply (Status.toJson r.status)) := by
    rw [hlook _ (by decide), Content.members]
    simp
  have hdescription : look "entityDescription" =
      r.description.map fun d => L.apply d.toJson := by
    rw [hlook _ (by decide), Content.members]
    simp [Function.comp_def]
  have hnull : ∀ d ∈ r.description, L.apply d.toJson ≠ .null := by
    intro d _ hnull
    have hread := Description.decode_toJson L d
    rw [hnull] at hread
    cases hread
  have hfiles : look "associatedFiles" = (if r.files.isEmpty then none
      else some (Json.arr (r.files.map AssociatedFile.toJson))).map L.apply := by
    rw [hlook _ (by decide), Content.members]
    simp
  simp only [Resource.shape, Shape.build_seq, Shape.build_map,
    Shape.build_required hstatus (Status.decode_toJson L r.status.parse_name),
    Shape.build_optional hdescription (fun d _ => Description.decode_toJson L d) hnull,
    Shape.build_list hfiles (AssociatedFile.decode_toJson L), map_ok, ok_bind, pure_eq_ok]

/-- The fields of a ticket come first, so other members do not matter. -/
theorem Ticket.build_members {look : String → Option Json} (t : Ticket)
    (others : List Json.Member)
    (hlook : ∀ name ∈ Ticket.shape.names,
      look name = ((t.members ++ others).lookup name).map L.apply) :
    Ticket.shape.build look = .ok t := by
  have hstatus : look "status" = some (L.apply (Status.toJson t.status)) := by
    rw [hlook _ (by decide), Ticket.members]
    simp
  have hresource : look "resourceIdentifier" = some (L.apply t.resource.toJson) := by
    rw [hlook _ (by decide), Ticket.members]
    simp
  simp only [Ticket.shape, Shape.build_seq, Shape.build_map,
    Shape.build_required hstatus (Status.decode_toJson L t.status.parse_name),
    Shape.build_required hresource (Identifier.decode_toJson L _), map_ok, ok_bind, pure_eq_ok]

theorem Message.build_members {look : String → Option Json} (m : Message)
    (hlook : ∀ name ∈ Message.shape.names,
      look name = ((Content.message m).members.lookup name).map L.apply) :
    Message.shape.build look = .ok m := by
  have hstatus : look "status" = some (L.apply (Status.toJson m.status)) := by
    rw [hlook _ (by decide), Content.members]
    simp
  have hresource : look "resourceIdentifier" = some (L.apply m.resource.toJson) := by
    rw [hlook _ (by decide), Content.members]
    simp
  have hticket : look "ticketIdentifier" = m.ticket.map fun id => L.apply id.toJson := by
    rw [hlook _ (by decide), Content.members]
    simp [Function.comp_def]
  have hnull : ∀ id ∈ m.ticket, L.apply id.toJson ≠ .null := by
    intro id _ hnull
    rw [Identifier.toJson, L.str] at hnull
    cases hnull
  have hsender : look "sender" = (m.sender.map Json.str).map L.apply := by
    rw [hlook _ (by decide), Content.members]
    simp
  have htext : look "text" = some (L.apply (.str m.text)) := by
    rw [hlook _ (by decide), Content.members]
    simp
  simp only [Message.shape, Shape.build_seq, Shape.build_map,
    Shape.build_required hstatus (Status.decode_toJson L m.status.parse_name),
    Shape.build_required hresource (Identifier.decode_toJson L _),
    Shape.build_optional hticket (fun id _ => Identifier.decode_toJson L id) hnull,
    Shape.build_optional_text hsender, Shape.build_required htext (decode_text L _), map_ok,
    ok_bind, pure_eq_ok]

/-- The content is built from any members that agree with those written for it. -/
theorem Content.build_members {look : String → Option Json} (content : Content)
    (hlook : ∀ name ∈ (Content.shape content.entryType).names,
      look name = (content.members.lookup name).map L.apply) :
    (Content.shape content.entryType).build look = .ok content := by
  cases content with
  | resource r =>
    have hbuild := Resource.build_members L r hlook
    simp only [Content.entryType, Content.shape, Shape.build_map, hbuild, map_ok]
  | doiRequest t doi =>
    have hbuild := Ticket.build_members L t _ fun name hname =>
      hlook name (List.mem_append_left _ hname)
    have hname : "doi" ∈ (Content.shape .doiRequest).names := by decide
    have hdoi : look "doi" = (doi.map Json.str).map L.apply := by
      rw [hlook "doi" hname, Content.members, Ticket.members]
      simp
    simp only [Content.entryType, Content.shape, Shape.build_seq, Shape.build_map, hbuild,
      Shape.build_optional_text hdoi, map_ok, ok_bind, pure_eq_ok]
  | publishingRequest t files =>
    have hbuild := Ticket.build_members L t _ fun name hname =>
      hlook name (List.mem_append_left _ hname)
    have hname : "approvedFiles" ∈ (Content.shape .publishingRequest).names := by decide
    have hfiles : look "approvedFiles" = (if files.isEmpty then none
        else some (Json.arr (files.map Uuid.toJson))).map L.apply := by
      rw [hlook "approvedFiles" hname, Content.members, Ticket.members]
      simp
    simp only [Content.entryType, Content.shape, Shape.build_seq, Shape.build_map, hbuild,
      Shape.build_list hfiles (Uuid.decode_toJson L), map_ok, ok_bind, pure_eq_ok]
  | approvalRequest t approver =>
    have hbuild := Ticket.build_members L t _ fun name hname =>
      hlook name (List.mem_append_left _ hname)
    have hname : "approver" ∈ (Content.shape .approvalRequest).names := by decide
    have happrover : look "approver" = (approver.map Json.str).map L.apply := by
      rw [hlook "approver" hname, Content.members, Ticket.members]
      simp
    simp only [Content.entryType, Content.shape, Shape.build_seq, Shape.build_map, hbuild,
      Shape.build_optional_text happrover, map_ok, ok_bind, pure_eq_ok]
  | message m =>
    have hbuild := Message.build_members L m hlook
    simp only [Content.entryType, Content.shape, Shape.build_map, hbuild, map_ok]

end Records

section Entry

/-! ## Whole entries -/

theorem Metadata.names_members (m : Metadata) :
    (m.members.map Prod.fst).Sublist Metadata.shape.names := by
  have hsub := (((List.Sublist.refl ["identifier"]).append
    (Json.names_optionalMember "owner" .str m.owner)).append
    (Json.names_optionalMember "customerId" .str m.customerId)).append
    (List.Sublist.refl ["createdDate", "modifiedDate", "rowVersion"])
  simp only [Metadata.members, List.map_append]
  exact hsub

theorem Content.names_members (content : Content) :
    (content.members.map Prod.fst).Sublist (Content.shape content.entryType).names := by
  cases content with
  | resource r =>
    have hsub := ((List.Sublist.refl ["status"]).append
      (Json.names_optionalMember "entityDescription" Description.toJson r.description)).append
      (Json.names_listMember "associatedFiles" AssociatedFile.toJson r.files)
    simp only [Content.members, List.map_append]
    exact hsub
  | doiRequest t doi =>
    exact (Json.names_optionalMember "doi" .str doi).append_left ["status", "resourceIdentifier"]
  | publishingRequest t files =>
    exact (Json.names_listMember "approvedFiles" Uuid.toJson files).append_left
      ["status", "resourceIdentifier"]
  | approvalRequest t approver =>
    exact (Json.names_optionalMember "approver" .str approver).append_left
      ["status", "resourceIdentifier"]
  | message m =>
    have hsub := (((List.Sublist.refl ["status", "resourceIdentifier"]).append
      (Json.names_optionalMember "ticketIdentifier" Identifier.toJson m.ticket)).append
      (Json.names_optionalMember "sender" .str m.sender)).append (List.Sublist.refl ["text"])
    simp only [Content.members, List.map_append]
    exact hsub

/-- The fields of the metadata, those of any content and the type have different names. -/
theorem EntryType.nodup_names (t : EntryType) :
    ("type" :: (Metadata.shape.names ++ (Content.shape t).names)).Nodup := by
  cases t <;> decide

namespace Entry

theorem nodup_members (entry : Entry) : (entry.members.map Prod.fst).Nodup := by
  have hsub := (entry.metadata.names_members.append entry.content.names_members).cons_cons "type"
  rw [← List.map_append] at hsub
  exact hsub.nodup (EntryType.nodup_names entry.entryType)

theorem lookup_metadata (entry : Entry) {name : String} (hname : name ∈ Metadata.shape.names) :
    entry.members.lookup name = entry.metadata.members.lookup name := by
  have hnodup := List.nodup_cons.1 (EntryType.nodup_names entry.entryType)
  have htype : name ≠ "type" := fun heq => hnodup.1 (heq ▸ List.mem_append_left _ hname)
  have hcontent : name ∉ entry.content.members.map Prod.fst := fun hmem =>
    (List.nodup_append.1 hnodup.2).2.2 name hname name
      (entry.content.names_members.subset hmem) rfl
  have hnone : entry.content.members.lookup name = none := by
    rw [Json.lookup_eq_get?]
    exact Entries.not_mem_names_iff.1 hcontent
  rw [members, Json.lookup_cons_if, if_neg htype, List.lookup_append, hnone, Option.or_none]

theorem lookup_content (entry : Entry) {name : String}
    (hname : name ∈ (Content.shape entry.entryType).names) :
    entry.members.lookup name = entry.content.members.lookup name := by
  have hnodup := List.nodup_cons.1 (EntryType.nodup_names entry.entryType)
  have htype : name ≠ "type" := fun heq => hnodup.1 (heq ▸ List.mem_append_right _ hname)
  have hmetadata : name ∉ entry.metadata.members.map Prod.fst := fun hmem =>
    (List.nodup_append.1 hnodup.2).2.2 name (entry.metadata.names_members.subset hmem) name
      hname rfl
  have hnone : entry.metadata.members.lookup name = none := by
    rw [Json.lookup_eq_get?]
    exact Entries.not_mem_names_iff.1 hmetadata
  rw [members, Json.lookup_cons_if, if_neg htype, List.lookup_append, hnone, Option.none_or]

/-- An entry is read back from its document in any layout. -/
theorem decode_apply (L : Layout) (entry : Entry) :
    decode (L.apply entry.toDocument) = .ok entry := by
  obtain ⟨members, hmembers, hnames, hlook⟩ := L.obj entry.members entry.nodup_members
  have htag : tagOf members = .ok entry.entryType := by
    have htype : members.lookup "type" = some (L.apply (.str entry.entryType.name)) := by
      rw [hlook, Entry.members, Json.lookup_cons_if, if_pos rfl, Option.map_some]
    rw [tagOf, Json.filter_name_eq hnames htype]
    simp only [EntryType.decodeTag_name, ok_bind, List.isEmpty_nil, if_true, pure_eq_ok]
  have hothers : ((members.filter fun m => m.1 != "type").map Prod.fst).Nodup :=
    hnames.sublist (List.filter_sublist.map Prod.fst)
  have hnodup := List.nodup_cons.1 (EntryType.nodup_names entry.entryType)
  have hcontent : (Content.shape entry.entryType).ofMembers
      (members.filter fun m => m.1 != "type") = .ok entry.content := by
    apply Shape.ofMembers_of_build hothers
    apply Content.build_members L entry.content
    intro name hname
    have htype : name ≠ "type" := fun heq => hnodup.1 (heq ▸ List.mem_append_right _ hname)
    rw [Json.lookup_filter_ne, if_neg htype, hlook, lookup_content entry hname]
  have hmetadata : Metadata.shape.ofMembers (members.filter fun m => m.1 != "type") =
      .ok entry.metadata := by
    apply Shape.ofMembers_of_build hothers
    apply Metadata.build_members L entry.metadata
    intro name hname
    have htype : name ≠ "type" := fun heq => hnodup.1 (heq ▸ List.mem_append_left _ hname)
    rw [Json.lookup_filter_ne, if_neg htype, hlook, lookup_metadata entry hname]
  rw [toDocument, hmembers, decode, htag, ok_bind, ofMembers, hcontent, ok_bind, hmetadata, ok_bind,
    pure_eq_ok]

theorem decode_toDocument (entry : Entry) : decode entry.toDocument = .ok entry :=
  decode_apply .written entry

theorem decode_toValue (entry : Entry) : decode entry.toValue = .ok entry :=
  decode_apply .sorted entry

/-- Reading the value of a value changes nothing either. -/
theorem decode_canonical_toValue (entry : Entry) : decode entry.toValue.canonical = .ok entry :=
  decode_apply (Layout.sorted.after .sorted) entry

end Entry

end Entry

end Intake
