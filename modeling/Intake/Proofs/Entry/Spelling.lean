import Intake.Proofs.Entry.Codec
import Intake.Text.Upper
import Mathlib.Data.List.Nodup

/-!
# Spellings of a status

A text is read as a status whatever the case of its ASCII letters and the blanks around it.  All
texts that are read as one status have one upper-case form, and different statuses have different
ones, so the upper-case form stands for the status wherever it is part of a key.
-/

namespace Intake

namespace Text

theorem Upper.ofChar_toLower (c : Char) : ofChar c.toLower = ofChar c := by
  have hletters : ∀ n < 26,
      ofChar (Char.ofNat (n + 65)).toLower = ofChar (Char.ofNat (n + 65)) := by
    decide +kernel
  by_cases hcapital : 65 ≤ c.toNat ∧ c.toNat ≤ 90
  · have hletter := hletters (c.toNat - 65) (by omega)
    rw [Nat.sub_add_cancel hcapital.1, Char.ofNat_toNat] at hletter
    exact hletter
  · have hsame : c.toLower = c := by
      unfold Char.toLower
      rw [dif_neg]
      rintro ⟨hleast, hgreatest⟩
      exact hcapital ⟨UInt32.le_iff_toNat_le.1 hleast, UInt32.le_iff_toNat_le.1 hgreatest⟩
    rw [hsame]

/-- Texts that differ in the case of ASCII letters only have one upper-case form. -/
theorem upper_of_sameLetters {a b : String} (hsame : sameLetters a b = true) :
    upper a = upper b := by
  have hlower : ∀ cs : List Char, (cs.map Char.toLower).flatMap Upper.ofChar =
      cs.flatMap Upper.ofChar := by
    intro cs
    rw [List.flatMap_map]
    exact List.flatMap_congr fun c _ => Upper.ofChar_toLower c
  rw [upper, upper, ← hlower a.toList, beq_iff_eq.1 hsame, hlower]

end Text

namespace Status

variable {σ : Type} [Status σ]

theorem upper_of_parse {text : String} {status : σ} (hparse : parse text = .ok status) :
    Text.upper (Text.trim text) = Text.upper (name status) := by
  unfold parse at hparse
  split at hparse
  next found hfind =>
    cases hparse
    have hsame : sameLetters (Text.trim text) (name status) = true :=
      List.find?_some (p := fun s => sameLetters (Text.trim text) (name s)) hfind
    exact Text.upper_of_sameLetters hsame
  next => cases hparse

end Status

/-- A status from any of the lists. -/
inductive EntryStatus where
  | resource (status : ResourceStatus)
  | ticket (status : TicketStatus)
  | message (status : MessageStatus)
  deriving DecidableEq

namespace EntryStatus

def name : EntryStatus → String
  | .resource status => Status.name status
  | .ticket status => Status.name status
  | .message status => Status.name status

def all : List EntryStatus :=
  (Status.all : List ResourceStatus).map .resource ++
    (Status.all : List TicketStatus).map .ticket ++
    (Status.all : List MessageStatus).map .message

theorem mem_all (status : EntryStatus) : status ∈ all := by
  rcases status with s | s | s <;> cases s <;> decide

theorem map_upper_all : all.map (fun status => Text.upper status.name) =
    ["DRAFT", "PUBLISHED", "PUBLISHEDMETADATA", "UNPUBLISHED", "DELETED",
      "NEW", "PENDING", "COMPLETED", "CLOSED", "NOTAPPLICABLE", "UNREAD", "READ"] := by
  decide +kernel

/-- Different statuses have different names, also in upper case and in different lists. -/
theorem upper_injective {a b : EntryStatus} (hupper : Text.upper a.name = Text.upper b.name) :
    a = b := by
  have hnodup : (all.map fun status => Text.upper status.name).Nodup := by
    rw [map_upper_all]
    decide
  exact List.inj_on_of_nodup_map hnodup (mem_all a) (mem_all b) hupper

theorem holdsDelimiter_upper (status : EntryStatus) :
    holdsDelimiter (Text.upper status.name) = false := by
  have hmem : Text.upper status.name ∈ all.map fun status => Text.upper status.name :=
    List.mem_map_of_mem (mem_all status)
  have hfree : ∀ text ∈ all.map (fun status => Text.upper status.name),
      holdsDelimiter text = false := by
    rw [map_upper_all]
    decide
  exact hfree _ hmem

end EntryStatus

/-- The status that a text spells for entries of a type. -/
def EntryType.parseStatus : EntryType → String → Except UnknownStatus EntryStatus
  | .resource, text => .resource <$> Status.parse text
  | .doiRequest, text | .publishingRequest, text | .approvalRequest, text =>
    .ticket <$> Status.parse text
  | .message, text => .message <$> Status.parse text

theorem EntryType.upper_of_parseStatus {t : EntryType} {text : String} {status : EntryStatus}
    (hparse : t.parseStatus text = .ok status) :
    Text.upper (Text.trim text) = Text.upper status.name := by
  cases t
  all_goals
    obtain ⟨s, hs, rfl⟩ := map_eq_ok_iff.1 hparse
    exact Status.upper_of_parse hs

namespace Content

def status : Content → EntryStatus
  | .resource r => .resource r.status
  | .doiRequest t _ => .ticket t.status
  | .publishingRequest t _ => .ticket t.status
  | .approvalRequest t _ => .ticket t.status
  | .message m => .message m.status

theorem statusName_eq (content : Content) : content.statusName = content.status.name := by
  cases content <;> rfl

end Content

/-- The current status of an entry. -/
def Entry.status (entry : Entry) : EntryStatus := entry.content.status

theorem Entry.statusName_eq (entry : Entry) : entry.statusName = entry.status.name :=
  entry.content.statusName_eq

end Intake
