import Intake.Proofs.Json.Layout
import Intake.Table.AttributeValue

/-!
# Attribute values give documents back

The attribute value of a document of whole numbers reads as the value of that document, and it can
always be sent.  Look-ups by name go through both ways.
-/

namespace Intake.AttributeValue

open Json (IsWhole AreWhole MembersWhole)

theorem numberOf_render {n : Int} (hn : Json.InRange n) :
    numberOf (Number.int n).render = .num (.int n) := by
  have hwhole : (Json.num (.int n)).IsWhole := by
    rw [IsWhole]
    exact hn
  have hdepth : (Json.num (.int n)).depth ≤ Json.maxDepth := by
    rw [Json.depth]
    exact Nat.zero_le _
  have hparse := Json.parse_render hwhole hdepth
  rw [Json.render, Json.renderChars, ← Number.render, Json.canonical] at hparse
  rw [numberOf, hparse]

theorem ofMembers_eq (members : List Json.Member) :
    ofMembers members = members.map fun m => (m.1, ofJson m.2) := by
  induction members with
  | nil => rfl
  | cons m members ih => rw [ofMembers, ih, List.map_cons]

theorem membersToJson_eq (members : List (String × AttributeValue)) :
    membersToJson members = members.map fun m => (m.1, toJson m.2) := by
  induction members with
  | nil => rfl
  | cons m members ih => rw [membersToJson, ih, List.map_cons]

mutual

theorem toJson_ofJson : ∀ document : Json, document.IsWhole →
    toJson (ofJson document) = document.canonical
  | .null, _ => rfl
  | .bool _, _ => rfl
  | .num (.int _), hwhole => numberOf_render hwhole
  | .num (.float _), hwhole => hwhole.elim
  | .str _, _ => rfl
  | .arr xs, hwhole => by
    rw [ofJson, toJson, itemsToJson_ofItems xs hwhole, Json.canonical]
  | .obj ms, hwhole => by
    rw [ofJson, toJson, membersToJson_ofMembers ms hwhole, Json.canonical]

theorem itemsToJson_ofItems : ∀ xs : List Json, AreWhole xs →
    itemsToJson (ofItems xs) = Json.canonicalItems xs
  | [], _ => rfl
  | x :: xs, hwhole => by
    rw [ofItems, itemsToJson, toJson_ofJson x hwhole.1, itemsToJson_ofItems xs hwhole.2,
      Json.canonicalItems]

theorem membersToJson_ofMembers : ∀ ms : List (String × Json), MembersWhole ms →
    membersToJson (ofMembers ms) = Json.canonicalMembers ms
  | [], _ => rfl
  | (name, x) :: ms, hwhole => by
    rw [ofMembers, membersToJson, toJson_ofJson x hwhole.1, membersToJson_ofMembers ms hwhole.2,
      Json.canonicalMembers]

end

end Intake.AttributeValue
