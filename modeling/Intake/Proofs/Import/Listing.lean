import Intake.Import.BucketClient
import Intake.Proofs.Import.Trace
import Intake.Proofs.Paging
import Mathlib.Data.List.ReduceOption

/-!
# Listings that come in pages

A listing goes on as long as the replies are truncated pages with a token, and asks for the next
page with exactly that token.  However a listing is cut, its keys are those of all its pages, in
their order and without the folders; a request that fails leaves no listing at all.
-/

namespace Intake

namespace BucketClient

/-- Something that a service is asked, with its answer. -/
inductive Answered where
  | list (bucket keyStart : String) (token : Option String) (reply : Except String Page)
  | get (bucket key : String) (reply : Except String (Except String (List UInt8)))
  | put (bucket key : String) (body : List UInt8) (reply : Except String Unit)

/-- The reply is a page that is cut off, with the token of the next page. -/
def LeadsTo (reply : Except String Page) (token : String) : Prop :=
  ∃ page, reply = .ok page ∧ page.truncated = some true ∧ page.nextToken = some token

section Service

variable {σ : Type} (service : Service σ) (bucket keyStart : String)

/-- A service that keeps a log of what it is asked and what it answers. -/
def recorded : Service (σ × List Answered) where
  list bucket keyStart token :=
    logged (.list bucket keyStart token) (service.list bucket keyStart token)
  get bucket key := logged (.get bucket key) (service.get bucket key)
  put bucket key body := logged (.put bucket key body) (service.put bucket key body)

/-- A turn of a listing as the log of the service has it. -/
def answeredList (turn : Paging.Turn String (Except String Page)) : Answered :=
  .list bucket keyStart turn.start turn.reply

/-- The service cuts a listing into pages: asked with the token of the page before, it gives the
next one, and all but the last are cut off and have a token. -/
inductive Serves : Option String → σ → List Page → σ → Prop where
  | last {token : Option String} {state next : σ} {page : Page}
      (hreply : service.list bucket keyStart token state = (.ok page, next))
      (hlast : page.truncated ≠ some true ∨ page.nextToken = none) :
      Serves token state [page] next
  | more {token : Option String} {state middle next : σ} {page : Page} {key : String}
      {pages : List Page}
      (hreply : service.list bucket keyStart token state = (.ok page, middle))
      (htruncated : page.truncated = some true) (htoken : page.nextToken = some key)
      (hrest : Serves (some key) middle pages next) : Serves token state (page :: pages) next

/-- The pages of a listing. -/
def paging : Paging σ String (Except String Page) String BucketError where
  ask := service.list bucket keyStart
  read
    | .error reason => .error (.list bucket keyStart reason)
    | .ok page => .ok (page.objectKeys, page.next?)

theorem next?_eq_some_iff {page : Page} {token : String} :
    page.next? = some token ↔ page.truncated = some true ∧ page.nextToken = some token := by
  rw [Page.next?]
  rcases page.truncated with _ | _ | _ <;> simp

theorem leadsTo_paging_iff {reply : Except String Page} {token : String} :
    (paging service bucket keyStart).LeadsTo reply token ↔ LeadsTo reply token := by
  cases reply with
  | error reason => simp [Paging.LeadsTo, paging, LeadsTo]
  | ok page => simp [Paging.LeadsTo, paging, LeadsTo, next?_eq_some_iff]

theorem listPages_eq (pages : Nat) (token : Option String) :
    listPages service bucket keyStart pages token =
      (paging service bucket keyStart).collect .endlessListing pages token := by
  induction pages generalizing token with
  | zero => rfl
  | succ pages ih =>
    funext state
    rcases hreply : service.list bucket keyStart token state with ⟨reply, next⟩
    simp only [listPages, Paging.collect, paging, bind, StateT.bind, hreply]
    cases reply with
    | error reason => rfl
    | ok page =>
      dsimp only
      cases page.next? with
      | none => rfl
      | some key =>
        simp only [ih]
        rfl

theorem collects_list :
    (paging service bucket keyStart).Collects .endlessListing id
      fun pageLimit => list service pageLimit bucket keyStart := by
  intro pageLimit state
  simp only [list, listPages_eq, Prod.map_id, id]

theorem collects_recorded :
    ((paging service bucket keyStart).recorded (answeredList bucket keyStart)).Collects
      .endlessListing id fun pageLimit => list (recorded service) pageLimit bucket keyStart :=
  collects_list (recorded service) bucket keyStart

end Service

/-- A listing that ends: its turns, its result, and the state of the service after it. -/
structure Listed {σ : Type} (service : Service σ) (bucket keyStart : String) (state : σ)
    (turns : List (Paging.Turn String (Except String Page)))
    (result : Except BucketError (List String)) (next : σ) : Prop where
  ended : Paging.Ended LeadsTo (answeredList bucket keyStart)
    (fun pageLimit => list service pageLimit bucket keyStart)
    (fun pageLimit => list (recorded service) pageLimit bucket keyStart) state turns result next
  failed : ∀ turn ∈ turns, ∀ reason, turn.reply = .error reason →
    result = .error (.list bucket keyStart reason)
  listed : ∀ pages : List Page, turns.map Paging.Turn.reply = pages.map .ok →
    result = .ok ((pages.flatMap Page.keys).reduceOption.filter fun key =>
      key.toList.getLast? ≠ some '/')

section Run

variable {σ : Type} {service : Service σ} {bucket keyStart : String} {token : Option String}
  {state next : σ} {turns : List (Paging.Turn String (Except String Page))} {pages : List Page}

/-- The keys of some pages that name objects are those of all their keys that do. -/
theorem flatMap_objectKeys (pages : List Page) :
    pages.flatMap Page.objectKeys =
      (pages.flatMap Page.keys).reduceOption.filter fun key => key.toList.getLast? ≠ some '/' := by
  have hfolder : (fun key => !isFolder key) = fun key => decide (key.toList.getLast? ≠ some '/') := by
    funext key
    rw [isFolder, decide_not, beq_eq_decide]
  induction pages with
  | nil => rfl
  | cons page pages ih =>
    rw [List.flatMap_cons, List.flatMap_cons, ih, List.reduceOption_append, List.filter_append,
      Page.objectKeys, hfolder]
    rfl

theorem outcome_of_pages (hpages : turns.map Paging.Turn.reply = pages.map .ok) :
    (paging service bucket keyStart).outcome turns = .ok (pages.flatMap Page.objectKeys) := by
  induction turns generalizing pages with
  | nil =>
    obtain rfl : pages = [] := List.map_eq_nil_iff.1 hpages.symm
    rfl
  | cons turn turns ih =>
    obtain ⟨page, rest, rfl, hpage, hrest⟩ := List.map_eq_cons_iff.1 hpages.symm
    rw [Paging.outcome, ← hpage, ih hrest.symm]
    rfl

theorem listed_of_ended (hends : (paging service bucket keyStart).Ends none state turns next)
    (hended : Paging.Ended LeadsTo (answeredList bucket keyStart)
      (fun pageLimit => list service pageLimit bucket keyStart)
      (fun pageLimit => list (recorded service) pageLimit bucket keyStart) state turns
      ((paging service bucket keyStart).outcome turns) next) :
    Listed service bucket keyStart state turns ((paging service bucket keyStart).outcome turns)
      next := by
  constructor
  case ended => exact hended
  case failed =>
    intro turn hmem reason hreply
    apply hends.outcome_eq_error hmem
    rw [hreply]
    rfl
  case listed =>
    intro pages hpages
    rw [outcome_of_pages hpages, flatMap_objectKeys]

/-- A service that cuts a listing into pages gives all of them, one for each request. -/
theorem ends_of_serves (hserves : Serves service bucket keyStart token state pages next) :
    ∃ turns, (paging service bucket keyStart).Ends token state turns next ∧
      turns.map Paging.Turn.reply = pages.map .ok := by
  induction hserves with
  | @last token state next page hreply hlast =>
    refine ⟨[⟨token, .ok page⟩], .last hreply fun key hleads => ?_, rfl⟩
    obtain ⟨_, ⟨⟩, htruncated, htoken⟩ :=
      (leadsTo_paging_iff service bucket keyStart).1 hleads
    rcases hlast with hwhole | hnone
    · exact hwhole htruncated
    · cases hnone.symm.trans htoken
  | @more token state middle next page key pages hreply htruncated htoken hrest ih =>
    obtain ⟨turns, hends, hreplies⟩ := ih
    have hleads : (paging service bucket keyStart).LeadsTo (.ok page) key :=
      (leadsTo_paging_iff service bucket keyStart).2 ⟨page, rfl, htruncated, htoken⟩
    refine ⟨_, .turn hreply hleads hends, ?_⟩
    rw [List.map_cons, List.map_cons, hreplies]

end Run

/-- What becomes of a listing. -/
structure Lists {σ : Type} (service : Service σ) (bucket keyStart : String) (state : σ) : Prop where
  /-- However a listing is cut, there is one request for each page, and all keys come back but those
  of folders. -/
  complete : ∀ listing pages next, pages.flatMap Page.keys = listing →
    Serves service bucket keyStart none state pages next →
      ∃ turns, turns.map Paging.Turn.reply = pages.map .ok ∧
        Listed service bucket keyStart state turns
          (.ok (listing.reduceOption.filter fun key => key.toList.getLast? ≠ some '/')) next
  /-- Whatever is replied, the listing ends at the first reply that does not go on. -/
  reached : (∃ turns result next, Listed service bucket keyStart state turns result next) ∨
    Paging.Endless LeadsTo (answeredList bucket keyStart)
      (fun pageLimit => list service pageLimit bucket keyStart)
      (fun pageLimit => list (recorded service) pageLimit bucket keyStart)
      (.error .endlessListing) state

/-- A listing is complete however it is cut into pages, and it is an error if any request for a page
fails. -/
theorem list_paged {σ : Type} (service : Service σ) (bucket keyStart : String) (state : σ) :
    Lists service bucket keyStart state := by
  constructor
  case complete =>
    rintro _ pages next rfl hserves
    obtain ⟨turns, hends, hreplies⟩ := ends_of_serves hserves
    have hended := Paging.ended_of_ends (leadsTo_paging_iff service bucket keyStart)
      (collects_list service bucket keyStart) (collects_recorded service bucket keyStart) hends
    have hlisted := listed_of_ended hends hended
    rw [hlisted.listed pages hreplies] at hlisted
    exact ⟨turns, hreplies, hlisted⟩
  case reached =>
    rcases Paging.ended_or_endless (leadsTo_paging_iff service bucket keyStart)
      (collects_list service bucket keyStart) (collects_recorded service bucket keyStart)
      state with ⟨turns, next, hends, hended⟩ | hendless
    · exact .inl ⟨turns, _, next, listed_of_ended hends hended⟩
    · exact .inr hendless

/-- A page without objects is not the last one, but one that is not cut off is, token or not. -/
example :
    let service : Service (List Page) :=
      ⟨fun _ _ _ pages => (pages.head?.elim (.error "dispatch failure") .ok, pages.tail),
        fun _ _ => pure (.error "dispatch failure"), fun _ _ _ => pure (.ok ())⟩
    let pages : List Page :=
      [⟨[some "legacy/", some "legacy/a"], some true, some "1"⟩, ⟨[], some true, some "2"⟩,
        ⟨[some "legacy/b"], none, some "3"⟩, ⟨[some "legacy/c"], none, none⟩]
    list service 5 "publications" "legacy/" pages =
      (.ok ["legacy/a", "legacy/b"], [⟨[some "legacy/c"], none, none⟩]) := by
  rfl

end BucketClient

end Intake
