import Intake.Import.Source
import Intake.Proofs.Entry.Blind

/-!
# Bodies of requests

A gateway hands on the body of a request embedded in the event or as its text.  An object is read
alike in both forms, and so is everything that holds no request; but the list form of a request is
refused when it is embedded and read when it comes as text.
-/

namespace Intake

/-! ## Values of texts -/

namespace Entries

variable {κ α β : Type} [Ord κ]

theorem insert_map (f : α → β) (key : κ) (value : α) (entries : List (κ × α)) :
    insert key (f value) (entries.map fun entry => (entry.1, f entry.2)) =
      (insert key value entries).map fun entry => (entry.1, f entry.2) := by
  induction entries with
  | nil => rfl
  | cons first rest ih =>
    rw [List.map_cons, insert, insert]
    split
    next => rfl
    next => rfl
    next => rw [ih, List.map_cons]

theorem ofList_map (f : α → β) (entries : List (κ × α)) :
    ofList (entries.map fun entry => (entry.1, f entry.2)) =
      (ofList entries).map fun entry => (entry.1, f entry.2) := by
  have hfold : ∀ map : List (κ × α),
      (entries.map fun entry => (entry.1, f entry.2)).foldl
          (fun map entry => insert entry.1 entry.2 map)
          (map.map fun entry => (entry.1, f entry.2)) =
        (entries.foldl (fun map entry => insert entry.1 entry.2 map) map).map
          fun entry => (entry.1, f entry.2) := by
    induction entries with
    | nil => exact fun _ => rfl
    | cons first rest ih =>
      intro map
      rw [List.map_cons, List.foldl_cons, List.foldl_cons]
      dsimp only
      rw [insert_map]
      exact ih (insert first.1 first.2 map)
  exact hfold []

end Entries

namespace Json

mutual

/-- Other floating-point numbers leave a document in the order that it has. -/
theorem canonical_mapFloats (f : Binary64 → Binary64) : ∀ document : Json,
    (document.mapFloats f).canonical = document.canonical.mapFloats f
  | .null => rfl
  | .bool _ => rfl
  | .num (.int _) => rfl
  | .num (.float _) => rfl
  | .str _ => rfl
  | .arr items => by
    rw [mapFloats, canonical, canonical, mapFloats, canonicalItems_mapItems f items]
  | .obj members => by
    rw [mapFloats, canonical, canonical, mapFloats, canonicalMembers_mapMembers f members,
      mapMembers_eq, mapMembers_eq, Entries.ofList_map]

theorem canonicalItems_mapItems (f : Binary64 → Binary64) : ∀ items : List Json,
    canonicalItems (mapItems f items) = mapItems f (canonicalItems items)
  | [] => rfl
  | document :: items => by
    rw [mapItems, canonicalItems, canonicalItems, mapItems, canonical_mapFloats f document,
      canonicalItems_mapItems f items]

theorem canonicalMembers_mapMembers (f : Binary64 → Binary64) :
    ∀ members : List (String × Json),
      canonicalMembers (mapMembers f members) = mapMembers f (canonicalMembers members)
  | [] => rfl
  | (name, document) :: members => by
    rw [mapMembers, canonicalMembers, canonicalMembers, mapMembers,
      canonical_mapFloats f document, canonicalMembers_mapMembers f members]

end

end Json

/-! ## Requests -/

namespace ImportRequest

/-- An event with nothing but a body. -/
def bodyEvent (body : Json) : Json := .obj [("body", body)]

theorem blind_decode {replace : Binary64 → Binary64} : decode.Blind replace := by
  apply Shape.Blind.decode
  exact ((Shape.blind_required Decoder.blind_text _).map _).seq
    (Shape.blind_defaulted Decoder.blind_text _ _)

/-- The list of the fields of a request, of which the last may be left out. -/
inductive IsPositional : Json → ImportRequest → Prop where
  | bucket (bucket : String) : IsPositional (.arr [.str bucket]) ⟨bucket, ""⟩
  | both (bucket keyStart : String) :
      IsPositional (.arr [.str bucket, .str keyStart]) ⟨bucket, keyStart⟩

theorem decode_arr_eq_ok_iff {items : List Json} {request : ImportRequest} :
    decode (.arr items) = .ok request ↔ IsPositional (.arr items) request := by
  constructor
  · intro hok
    match items with
    | [] => cases hok
    | [first] =>
      cases first with
      | str bucket =>
        cases hok
        exact .bucket bucket
      | _ => cases hok
    | [first, second] =>
      cases first with
      | str bucket =>
        cases second with
        | str keyStart =>
          cases hok
          exact .both bucket keyStart
        | _ => cases hok
      | _ => cases hok
    | first :: second :: third :: rest =>
      obtain ⟨-, -, hok⟩ := bind_eq_ok_iff.1 hok
      have hlong : shape.fields.length < (first :: second :: third :: rest).length :=
        Nat.succ_lt_succ (Nat.succ_lt_succ (Nat.succ_pos rest.length))
      have hnone : (shape.fields.drop (first :: second :: third :: rest).length).findIdx?
          (fun field => !field.mayEnd) = none := by
        rw [List.drop_of_length_le (Nat.le_of_lt hlong)]
        rfl
      rw [hnone] at hok
      dsimp only at hok
      rw [if_pos hlong] at hok
      cases hok
  · rintro (_ | _)
    · rfl
    · rfl

section Body

variable {body : Json} {request : ImportRequest}

theorem ofEvent_text (hcanonical : body.canonical = body) (hfit : body.IntsFit)
    (hdepth : body.depth ≤ Json.maxDepth) :
    ofEvent (bodyEvent (.str body.render)) = .ok request ↔ decode body = .ok request := by
  have hparse : Json.parse body.render = .ok (body.mapFloats Json.reread) := by
    rw [Json.parse, Json.read_render_mapFloats hfit hdepth]
    show Except.ok _ = _
    rw [Json.canonical_mapFloats, hcanonical]
  have hpayload : payloadOf (bodyEvent (.str body.render)) = .ok (body.mapFloats Json.reread) := by
    show (Json.parse body.render).mapError _ = _
    rw [hparse, mapError_ok]
  rw [ofEvent, hpayload, ok_bind, mapError_eq_ok_iff]
  exact blind_decode body request

theorem ofEvent_embedded (hraw : ∀ text, body ≠ .str text) :
    ofEvent (bodyEvent body) = .ok request ↔
      (∃ members, body = .obj members) ∧ decode body = .ok request := by
  cases body with
  | str text => exact absurd rfl (hraw text)
  | obj members =>
    have hpayload : payloadOf (bodyEvent (.obj members)) = .ok (.obj members) := rfl
    rw [ofEvent, hpayload, ok_bind, mapError_eq_ok_iff]
    exact (and_iff_right ⟨members, rfl⟩).symm
  | _ =>
    constructor
    · intro hok
      cases hok
    · rintro ⟨⟨members, hmembers⟩, -⟩
      cases hmembers

theorem obj_or_positional_of_decode (hok : decode body = .ok request) :
    (∃ members, body = .obj members) ∨ IsPositional body request := by
  cases body with
  | obj members => exact .inl ⟨members, rfl⟩
  | arr items => exact .inr (decode_arr_eq_ok_iff.1 hok)
  | _ => cases hok

theorem IsPositional.decode_eq (hpositional : IsPositional body request) :
    decode body = .ok request := by
  cases hpositional <;> rfl

theorem IsPositional.not_obj (hpositional : IsPositional body request) :
    ¬∃ members, body = .obj members := by
  rintro ⟨members, rfl⟩
  cases hpositional

/-- The text of a body is read as the body itself is, but for the list form of a request, which is
read from a text alone.  So the forms are treated alike exactly when the body is no such list. -/
theorem body_alike_iff (hcanonical : body.canonical = body) (hfit : body.IntsFit)
    (hdepth : body.depth ≤ Json.maxDepth) (hraw : ∀ text, body ≠ .str text) :
    (∀ request, ofEvent (bodyEvent (.str body.render)) = .ok request ↔
      ofEvent (bodyEvent body) = .ok request ∨ IsPositional body request) ∧
    (∀ request, ofEvent (bodyEvent body) = .ok request → ∃ members, body = .obj members) ∧
    (Alike (ofEvent (bodyEvent body)) (ofEvent (bodyEvent (.str body.render))) ↔
      ∀ request, ¬IsPositional body request) := by
  have htext : ∀ request, ofEvent (bodyEvent (.str body.render)) = .ok request ↔
      ofEvent (bodyEvent body) = .ok request ∨ IsPositional body request := by
    intro request
    rw [ofEvent_text hcanonical hfit hdepth, ofEvent_embedded hraw]
    constructor
    · intro hok
      exact (obj_or_positional_of_decode hok).imp_left fun hobject => ⟨hobject, hok⟩
    · rintro (⟨-, hok⟩ | hpositional)
      · exact hok
      · exact hpositional.decode_eq
  refine ⟨htext, fun request hok => ((ofEvent_embedded hraw).1 hok).1, ?_⟩
  constructor
  · intro halike request hpositional
    have hembedded := (halike request).2 ((htext request).2 (.inr hpositional))
    exact hpositional.not_obj ((ofEvent_embedded hraw).1 hembedded).1
  · intro hnone request
    rw [htext request, or_iff_left (hnone request)]

end Body

/-- An object with a number that belongs to no field holds the same request in both forms. -/
theorem body_alike_iff_weighed :
    let body : Json := .obj [("bucket", .str "legacy"), ("weight", .num (.float
      ⟨false, 6755399441055744, -52, by decide, by decide, by decide, by decide⟩))]
    (body.canonical = body ∧ body.IntsFit ∧ body.depth ≤ Json.maxDepth ∧
      ∀ text, body ≠ .str text) ∧
    Alike (ofEvent (bodyEvent body)) (ofEvent (bodyEvent (.str body.render))) ∧
      ofEvent (bodyEvent (.str body.render)) = .ok ⟨"legacy", ""⟩ := by
  intro body
  have hcanonical : body.canonical = body := by decide +kernel
  have hfit : body.IntsFit := ⟨trivial, trivial, trivial⟩
  have hdepth : body.depth ≤ Json.maxDepth := by decide
  have hraw : ∀ text, body ≠ .str text := fun _ => Json.noConfusion
  have hnone : ∀ request, ¬IsPositional body request := fun _ hpositional =>
    hpositional.not_obj ⟨_, rfl⟩
  have halike := (body_alike_iff hcanonical hfit hdepth hraw).2.2.2 hnone
  have hembedded : ofEvent (bodyEvent body) = .ok ⟨"legacy", ""⟩ := by rfl
  exact ⟨⟨hcanonical, hfit, hdepth, hraw⟩, halike, (halike _).1 hembedded⟩

/-- The list form of a request is refused as a body and accepted as the text of one. -/
theorem positional_body_accepted :
    let body : Json := .arr [.str "legacy", .str "other/"]
    (body.canonical = body ∧ body.IntsFit ∧ body.depth ≤ Json.maxDepth ∧
      ∀ text, body ≠ .str text) ∧
    ofEvent (bodyEvent body) = .error .bodyNotObject ∧
      ofEvent (bodyEvent (.str body.render)) = .ok ⟨"legacy", "other/"⟩ := by
  intro body
  have htext : ofEvent (bodyEvent (.str body.render)) = .ok ⟨"legacy", "other/"⟩ := by
    decide +kernel
  exact ⟨⟨rfl, ⟨trivial, trivial, trivial⟩, by decide, fun _ => Json.noConfusion⟩, rfl, htext⟩

end ImportRequest

end Intake
