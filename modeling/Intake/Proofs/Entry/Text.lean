import Intake.Proofs.Entry.Codec

/-!
# Entries round trip through their texts

The documents of entries are shallow and hold whole numbers only, so their compact texts are read
back, and so are the texts of their values.
-/

namespace Intake

open Json (Fits)

section Fits

variable {bound : Nat}

theorem Contributor.fits_toJson (c : Contributor) : Fits 1 c.toJson := by
  apply Json.fits_obj_iff.2
  rw [List.forall_mem_cons]
  exact ⟨Json.fits_str _, Json.fits_optionalMember Json.fits_str⟩

theorem Description.fits_toJson (d : Description) : Fits 3 d.toJson := by
  apply Json.fits_obj_iff.2
  simp only [List.forall_mem_append]
  refine ⟨⟨⟨⟨?_, ?_⟩, ?_⟩, ?_⟩, Json.fits_listMember Contributor.fits_toJson⟩
  all_goals exact Json.fits_optionalMember Json.fits_str

theorem fits_sizeToJson (size : UInt64) : Fits bound (sizeToJson size) := by
  have hlt := size.toNat_lt
  have hrange : Json.InRange (size.toNat : Int) := by
    constructor
    · omega
    · exact Int.ofNat_lt.2 hlt
  exact ⟨hrange, Nat.zero_le _⟩

theorem AssociatedFile.fits_toJson (f : AssociatedFile) : Fits 1 f.toJson := by
  apply Json.fits_obj_iff.2
  simp only [List.forall_mem_append, List.forall_mem_cons]
  refine ⟨⟨⟨⟨Json.fits_str _, Json.fits_str _, List.forall_mem_nil _⟩, ?_⟩, ?_⟩, ?_⟩
  · exact Json.fits_optionalMember Json.fits_str
  · exact Json.fits_optionalMember fits_sizeToJson
  · exact Json.fits_optionalMember Json.fits_str

theorem Metadata.fits_members (m : Metadata) : ∀ member ∈ m.members, Fits bound member.2 := by
  simp only [Metadata.members, List.forall_mem_append, List.forall_mem_cons]
  refine ⟨⟨⟨⟨Json.fits_str _, List.forall_mem_nil _⟩, ?_⟩, ?_⟩, Json.fits_str _, Json.fits_str _,
    Json.fits_str _, List.forall_mem_nil _⟩
  all_goals exact Json.fits_optionalMember Json.fits_str

theorem Ticket.fits_members (t : Ticket) : ∀ member ∈ t.members, Fits bound member.2 := by
  simp only [Ticket.members, List.forall_mem_cons]
  exact ⟨Json.fits_str _, Json.fits_str _, List.forall_mem_nil _⟩

theorem Content.fits_members (content : Content) : ∀ member ∈ content.members, Fits 3 member.2 := by
  cases content with
  | resource r =>
    simp only [Content.members, List.forall_mem_append, List.forall_mem_cons]
    refine ⟨⟨⟨Json.fits_str _, List.forall_mem_nil _⟩, ?_⟩, ?_⟩
    · exact Json.fits_optionalMember Description.fits_toJson
    · exact Json.fits_listMember fun f => (AssociatedFile.fits_toJson f).mono (by decide)
  | doiRequest t doi =>
    simp only [Content.members, List.forall_mem_append]
    exact ⟨t.fits_members, Json.fits_optionalMember Json.fits_str⟩
  | publishingRequest t files =>
    simp only [Content.members, List.forall_mem_append]
    exact ⟨t.fits_members, Json.fits_listMember fun _ => Json.fits_str _⟩
  | approvalRequest t approver =>
    simp only [Content.members, List.forall_mem_append]
    exact ⟨t.fits_members, Json.fits_optionalMember Json.fits_str⟩
  | message m =>
    simp only [Content.members, List.forall_mem_append, List.forall_mem_cons]
    refine ⟨⟨⟨⟨Json.fits_str _, Json.fits_str _, List.forall_mem_nil _⟩, ?_⟩, ?_⟩, Json.fits_str _,
      List.forall_mem_nil _⟩
    · exact Json.fits_optionalMember fun _ => Json.fits_str _
    · exact Json.fits_optionalMember Json.fits_str

end Fits

namespace Entry

/-- The document of an entry is shallow and has whole numbers only. -/
theorem fits_toDocument (entry : Entry) : Fits 4 entry.toDocument := by
  apply Json.fits_obj_iff.2
  rw [members, List.forall_mem_cons, List.forall_mem_append]
  exact ⟨Json.fits_str _, entry.metadata.fits_members, entry.content.fits_members⟩

theorem fits_toValue (entry : Entry) : Fits 4 entry.toValue :=
  Json.fits_canonical 4 _ entry.fits_toDocument

theorem read_render_toValue (entry : Entry) : Json.read entry.toValue.render = .ok entry.toValue :=
  Json.read_render entry.fits_toValue.1 (Nat.le_trans entry.fits_toValue.2 (by decide))

/-- The value that an event carries as text gives the entry back. -/
theorem parse_render_toValue (entry : Entry) : parse entry.toValue.render = .ok entry := by
  rw [parse, read_render_toValue]
  simp only [decode_toValue]

theorem parse_render (entry : Entry) : parse entry.render = .ok entry := by
  have hfits := entry.fits_toDocument
  rw [parse, render, Json.read_render hfits.1 (Nat.le_trans hfits.2 (by decide))]
  simp only [decode_toDocument]

/-- Whatever an entry holds, its value, its compact text and the compact text of its value all give
that entry back. -/
theorem read_written (entry : Entry) :
    decode entry.toValue = .ok entry ∧ parse entry.render = .ok entry ∧
      parse entry.toValue.render = .ok entry :=
  ⟨decode_toValue entry, parse_render entry, parse_render_toValue entry⟩

end Entry

end Intake
