import Intake.Except
import Mathlib.Data.List.Chain

/-!
# Asking for page after page

A listing comes in pages.  A reply is read as the items of one page together with the place where
the next page starts, if there is one, or as an error.  Pages are asked for until a reply leads
nowhere, and so either the turns of the conversation end, with a reply that does not go on, or every
reply of as many turns as one likes leads to another one.  A bound on the number of pages changes
nothing for a conversation that ends within it.
-/

namespace Intake

/-- How the page from a start on, or the first one, is asked for, and how replies are read. -/
structure Paging (σ τ ρ α ε : Type) where
  ask : Option τ → StateM σ ρ
  read : ρ → Except ε (List α × Option τ)

namespace Paging

/-- A reply, with the start of the page that was asked for. -/
structure Turn (τ ρ : Type) where
  start : Option τ
  reply : ρ

/-- The first turn is about the page from a start on, and every later one about the page that the
reply before it leads to. -/
structure InTurn {τ ρ : Type} (Leads : ρ → τ → Prop) (start : Option τ) (turns : List (Turn τ ρ)) :
    Prop where
  first : ∀ turn ∈ turns.head?, turn.start = start
  later : turns.IsChain fun before turn => ∃ key, Leads before.reply key ∧ turn.start = some key

namespace InTurn

variable {τ ρ : Type} {Leads Others : ρ → τ → Prop} {start : Option τ} {turns : List (Turn τ ρ)}

theorem nil (start : Option τ) : InTurn Leads start [] := ⟨nofun, .nil⟩

theorem singleton (start : Option τ) (reply : ρ) : InTurn Leads start [⟨start, reply⟩] := by
  refine ⟨fun turn hturn => ?_, .singleton _⟩
  cases hturn
  rfl

theorem cons {reply : ρ} {key : τ} (hleads : Leads reply key)
    (hrest : InTurn Leads (some key) turns) (start : Option τ) :
    InTurn Leads start (⟨start, reply⟩ :: turns) := by
  refine ⟨fun turn hturn => ?_, List.isChain_cons.2 ⟨fun turn hturn => ?_, hrest.later⟩⟩
  · cases hturn
    rfl
  · exact ⟨key, hleads, hrest.first turn hturn⟩

theorem imp (himp : ∀ reply key, Leads reply key → Others reply key)
    (hturns : InTurn Leads start turns) : InTurn Others start turns where
  first := hturns.first
  later := hturns.later.imp fun before _ ⟨key, hleads, hstart⟩ =>
    ⟨key, himp before.reply key hleads, hstart⟩

end InTurn

section Conversation

variable {σ τ ρ α ε : Type} (paging : Paging σ τ ρ α ε)

/-- The reply names the start of the next page. -/
def LeadsTo (reply : ρ) (key : τ) : Prop := ∃ items, paging.read reply = .ok (items, some key)

/-- The items on the pages from a start on, of which at most so many are asked for. -/
def collect (endless : ε) : Nat → Option τ → StateM σ (Except ε (List α))
  | 0, _ => return .error endless
  | pages + 1, start => do
    match paging.read (← paging.ask start) with
    | .error error => return .error error
    | .ok (items, none) => return .ok items
    | .ok (items, some next) => do
      let rest ← collect endless pages (some next)
      return rest.map (items ++ ·)

/-- The items in the replies, or the first error. -/
def outcome : List (Turn τ ρ) → Except ε (List α)
  | [] => .ok []
  | turn :: turns => do
    let page ← paging.read turn.reply
    let rest ← outcome turns
    return page.1 ++ rest

/-- The turns from a start and a state on, none of which is the last one. -/
inductive Passes : Option τ → σ → List (Turn τ ρ) → Option τ → σ → Prop where
  | refl (start : Option τ) (state : σ) : Passes start state [] start state
  | turn {start last : Option τ} {state middle next : σ} {reply : ρ} {key : τ}
      {turns : List (Turn τ ρ)} (hreply : paging.ask start state = (reply, middle))
      (hleads : paging.LeadsTo reply key) (hrest : Passes (some key) middle turns last next) :
      Passes start state (⟨start, reply⟩ :: turns) last next

/-- The turns from a start and a state on, up to the last one. -/
inductive Ends : Option τ → σ → List (Turn τ ρ) → σ → Prop where
  | last {start : Option τ} {state next : σ} {reply : ρ}
      (hreply : paging.ask start state = (reply, next)) (hlast : ∀ key, ¬paging.LeadsTo reply key) :
      Ends start state [⟨start, reply⟩] next
  | turn {start : Option τ} {state middle next : σ} {reply : ρ} {key : τ}
      {turns : List (Turn τ ρ)} (hreply : paging.ask start state = (reply, middle))
      (hleads : paging.LeadsTo reply key) (hrest : Ends (some key) middle turns next) :
      Ends start state (⟨start, reply⟩ :: turns) next

variable {paging} {start last : Option τ} {state next : σ} {turns : List (Turn τ ρ)}

/-- From any start a conversation ends, or it takes as many turns as one likes. -/
theorem ends_or_passes (paging : Paging σ τ ρ α ε) (start : Option τ) (state : σ) :
    (∃ turns next, paging.Ends start state turns next) ∨
      ∀ count, ∃ turns last next, turns.length = count ∧
        paging.Passes start state turns last next := by
  have hcount : ∀ count start state, (∃ turns next, paging.Ends start state turns next) ∨
      ∃ turns last next, turns.length = count ∧ paging.Passes start state turns last next := by
    intro count
    induction count with
    | zero => exact fun start state => .inr ⟨[], start, state, rfl, .refl start state⟩
    | succ count ih =>
      intro start state
      rcases hreply : paging.ask start state with ⟨reply, middle⟩
      by_cases hleads : ∃ key, paging.LeadsTo reply key
      · obtain ⟨key, hleads⟩ := hleads
        rcases ih (some key) middle with ⟨turns, next, hends⟩ | ⟨turns, last, next, rfl, hpasses⟩
        · exact .inl ⟨_, next, .turn hreply hleads hends⟩
        · exact .inr ⟨_, last, next, rfl, .turn hreply hleads hpasses⟩
      · exact .inl ⟨_, middle, .last hreply (not_exists.1 hleads)⟩
  by_cases hends : ∃ turns next, paging.Ends start state turns next
  · exact .inl hends
  · exact .inr fun count => (hcount count start state).resolve_left hends

/-! ## What is collected -/

section Collect

variable (endless : ε)

theorem collect_of_last {reply : ρ} (pages : Nat) (hreply : paging.ask start state = (reply, next))
    (hlast : ∀ key, ¬paging.LeadsTo reply key) :
    paging.collect endless (pages + 1) start state = (Prod.fst <$> paging.read reply, next) := by
  simp only [collect, bind, StateT.bind, hreply]
  cases hread : paging.read reply with
  | error e => rfl
  | ok page =>
    obtain ⟨items, key⟩ := page
    cases key with
    | none => rfl
    | some key => exact absurd ⟨items, hread⟩ (hlast key)

theorem collect_of_next {reply : ρ} {items : List α} {key : τ} {middle : σ} (pages : Nat)
    (hreply : paging.ask start state = (reply, middle))
    (hread : paging.read reply = .ok (items, some key)) :
    paging.collect endless (pages + 1) start state =
      (((paging.collect endless pages (some key) middle).1).map (items ++ ·),
        (paging.collect endless pages (some key) middle).2) := by
  simp only [collect, bind, StateT.bind, hreply, hread]
  rfl

/-- The last reply decides, if there are pages enough. -/
theorem Ends.collect_eq (hends : paging.Ends start state turns next) (pages : Nat)
    (hpages : turns.length ≤ pages) :
    paging.collect endless pages start state = (paging.outcome turns, next) := by
  induction hends generalizing pages with
  | @last start state next reply hreply hlast =>
    obtain ⟨pages, rfl⟩ := Nat.exists_eq_succ_of_ne_zero (Nat.ne_zero_of_lt hpages)
    rw [Nat.succ_eq_add_one, collect_of_last endless pages hreply hlast, outcome]
    cases hread : paging.read reply with
    | error e => rfl
    | ok page => simp [outcome]
  | @turn start state middle next reply key turns hreply hleads hrest ih =>
    obtain ⟨pages, rfl⟩ := Nat.exists_eq_succ_of_ne_zero (Nat.ne_zero_of_lt hpages)
    obtain ⟨items, hread⟩ := hleads
    rw [Nat.succ_eq_add_one, collect_of_next endless pages hreply hread,
      ih pages (Nat.le_of_succ_le_succ hpages), outcome]
    simp only [hread, ok_bind]
    cases paging.outcome turns <;> rfl

/-- As long as every reply leads on, the bound is reached. -/
theorem Passes.collect_eq (hpasses : paging.Passes start state turns last next) :
    paging.collect endless turns.length start state = (.error endless, next) := by
  induction hpasses with
  | refl start state => rfl
  | turn hreply hleads hrest ih =>
    obtain ⟨items, hread⟩ := hleads
    rw [List.length_cons, collect_of_next endless _ hreply hread, ih]
    rfl

end Collect

/-- The result of a conversation without errors is all items. -/
theorem outcome_eq_ok {items : Turn τ ρ → List α}
    (hread : ∀ turn ∈ turns, Prod.fst <$> paging.read turn.reply = .ok (items turn)) :
    paging.outcome turns = .ok (turns.flatMap items) := by
  induction turns with
  | nil => rfl
  | cons turn turns ih =>
    obtain ⟨hturn, hturns⟩ := List.forall_mem_cons.1 hread
    obtain ⟨page, hpage, hitems⟩ := map_eq_ok_iff.1 hturn
    rw [outcome, hpage, ok_bind, ih hturns, ok_bind, hitems, List.flatMap_cons]
    rfl

/-- An error is the result, wherever it occurs: a reply that is read as one leads nowhere. -/
theorem Ends.outcome_eq_error (hends : paging.Ends start state turns next) {turn : Turn τ ρ}
    (hmem : turn ∈ turns) {error : ε} (herror : paging.read turn.reply = .error error) :
    paging.outcome turns = .error error := by
  induction hends with
  | last hreply hlast =>
    rw [List.mem_singleton.1 hmem] at herror
    rw [outcome, herror]
    rfl
  | turn hreply hleads hrest ih =>
    obtain ⟨items, hread⟩ := hleads
    rcases List.mem_cons.1 hmem with rfl | hmem
    · cases hread.symm.trans herror
    · rw [outcome, hread, ok_bind, ih hmem]
      rfl

/-! ## The order of the turns -/

theorem Passes.leads (hpasses : paging.Passes start state turns last next) :
    ∀ turn ∈ turns, ∃ key, paging.LeadsTo turn.reply key := by
  induction hpasses with
  | refl start state => exact List.forall_mem_nil _
  | turn hreply hleads hrest ih => exact List.forall_mem_cons.2 ⟨⟨_, hleads⟩, ih⟩

theorem Passes.inTurn (hpasses : paging.Passes start state turns last next) :
    InTurn paging.LeadsTo start turns := by
  induction hpasses with
  | refl start state => exact .nil start
  | turn hreply hleads hrest ih => exact .cons hleads ih _

theorem Ends.inTurn (hends : paging.Ends start state turns next) :
    InTurn paging.LeadsTo start turns := by
  induction hends with
  | last hreply hlast => exact .singleton _ _
  | turn hreply hleads hrest ih => exact .cons hleads ih _

theorem Ends.exists_last (hends : paging.Ends start state turns next) :
    ∃ turn, turns.getLast? = some turn ∧ ∀ key, ¬paging.LeadsTo turn.reply key := by
  induction hends with
  | last hreply hlast => exact ⟨_, rfl, hlast⟩
  | turn hreply hleads hrest ih =>
    obtain ⟨turn, hturn, hlast⟩ := ih
    refine ⟨turn, ?_, hlast⟩
    rw [List.getLast?_cons, hturn]
    rfl

end Conversation

/-! ## Logs -/

section Recorded

variable {σ τ ρ α ε β : Type} (paging : Paging σ τ ρ α ε) (note : Turn τ ρ → β)

/-- Keeps a note of every turn. -/
def recorded : Paging (σ × List β) τ ρ α ε where
  ask start := fun (state, notes) =>
    let (reply, next) := paging.ask start state
    (reply, (next, notes ++ [note ⟨start, reply⟩]))
  read := paging.read

variable {paging} {start last : Option τ} {state next : σ} {turns : List (Turn τ ρ)}

theorem ask_recorded {reply : ρ} (hreply : paging.ask start state = (reply, next))
    (notes : List β) :
    (paging.recorded note).ask start (state, notes) =
      (reply, (next, notes ++ [note ⟨start, reply⟩])) := by
  simp only [recorded, hreply]

theorem Passes.recorded (hpasses : paging.Passes start state turns last next) (notes : List β) :
    (paging.recorded note).Passes start (state, notes) turns last
      (next, notes ++ turns.map note) := by
  induction hpasses generalizing notes with
  | refl start state =>
    rw [List.map_nil, List.append_nil]
    exact .refl start _
  | turn hreply hleads hrest ih =>
    rw [List.map_cons, List.append_cons]
    exact .turn (ask_recorded note hreply notes) hleads (ih _)

theorem Ends.recorded (hends : paging.Ends start state turns next) (notes : List β) :
    (paging.recorded note).Ends start (state, notes) turns (next, notes ++ turns.map note) := by
  induction hends generalizing notes with
  | last hreply hlast => exact .last (ask_recorded note hreply notes) hlast
  | turn hreply hleads hrest ih =>
    rw [List.map_cons, List.append_cons]
    exact .turn (ask_recorded note hreply notes) hleads (ih _)

theorem outcome_recorded (paging : Paging σ τ ρ α ε) (turns : List (Turn τ ρ)) :
    (paging.recorded note).outcome turns = paging.outcome turns := by
  induction turns with
  | nil => rfl
  | cons turn turns ih =>
    rw [outcome, outcome, ih]
    rfl

theorem Ends.collect_recorded (endless : ε) (hends : paging.Ends start state turns next)
    (pages : Nat) (hpages : turns.length ≤ pages) :
    (paging.recorded note).collect endless pages start (state, []) =
      (paging.outcome turns, (next, turns.map note)) := by
  rw [(hends.recorded note []).collect_eq endless pages hpages, outcome_recorded, List.nil_append]

theorem Passes.collect_recorded (endless : ε)
    (hpasses : paging.Passes start state turns last next) :
    (paging.recorded note).collect endless turns.length start (state, []) =
      (.error endless, (next, turns.map note)) := by
  rw [(hpasses.recorded note []).collect_eq, List.nil_append]

end Recorded

/-! ## Runs with a bound on the number of pages -/

section Runs

variable {σ τ ρ α ε β R : Type}

/-- The run collects pages from the first one on and makes its result of what it collected. -/
def Collects (paging : Paging σ τ ρ α ε) (endless : ε) (after : Except ε (List α) → R)
    (run : Nat → StateM σ R) : Prop :=
  ∀ bound state, run bound state = Prod.map after id (paging.collect endless bound none state)

section Outcome

variable (Leads : ρ → τ → Prop) (note : Turn τ ρ → β) (run : Nat → StateM σ R)
  (logged : Nat → StateM (σ × List β) R)

/-- The run ends with these turns, this result and this state, whatever bound it is given that is
not below the number of turns.  The logged run takes the same turns and no others. -/
structure Ended (state : σ) (turns : List (Turn τ ρ)) (result : R) (next : σ) : Prop where
  asked : InTurn Leads none turns
  ends : ∃ last, turns.getLast? = some last ∧ ∀ key, ¬Leads last.reply key
  run_eq : ∀ bound, turns.length ≤ bound → run bound state = (result, next)
  logged_eq : ∀ bound, turns.length ≤ bound →
    logged bound (state, []) = (result, (next, turns.map note))

/-- The run reaches every bound, since every reply leads on. -/
def Endless (exhausted : R) (state : σ) : Prop :=
  ∀ bound, ∃ turns next, turns.length = bound ∧ InTurn Leads none turns ∧
    (∀ turn ∈ turns, ∃ key, Leads turn.reply key) ∧
    run bound state = (exhausted, next) ∧
    logged bound (state, []) = (exhausted, (next, turns.map note))

end Outcome

variable {paging : Paging σ τ ρ α ε} {endless : ε} {after : Except ε (List α) → R}
  {Leads : ρ → τ → Prop} {note : Turn τ ρ → β} {run : Nat → StateM σ R}
  {logged : Nat → StateM (σ × List β) R} {state : σ}

theorem ended_of_ends (hleads : ∀ {reply key}, paging.LeadsTo reply key ↔ Leads reply key)
    (hrun : paging.Collects endless after run)
    (hlogged : (paging.recorded note).Collects endless after logged)
    {turns : List (Turn τ ρ)} {next : σ} (hends : paging.Ends none state turns next) :
    Ended Leads note run logged state turns (after (paging.outcome turns)) next where
  asked := hends.inTurn.imp fun _ _ => hleads.1
  ends := by
    obtain ⟨last, hlast, hnowhere⟩ := hends.exists_last
    exact ⟨last, hlast, fun key hkey => hnowhere key (hleads.2 hkey)⟩
  run_eq bound hbound := by
    rw [hrun, hends.collect_eq endless bound hbound]
    rfl
  logged_eq bound hbound := by
    rw [hlogged, hends.collect_recorded note endless bound hbound]
    rfl

theorem endless_of_passes (hleads : ∀ {reply key}, paging.LeadsTo reply key ↔ Leads reply key)
    (hrun : paging.Collects endless after run)
    (hlogged : (paging.recorded note).Collects endless after logged)
    (hpasses : ∀ count, ∃ turns last next, turns.length = count ∧
      paging.Passes none state turns last next) :
    Endless Leads note run logged (after (.error endless)) state := by
  intro bound
  obtain ⟨turns, last, next, rfl, hturns⟩ := hpasses bound
  refine ⟨turns, next, rfl, hturns.inTurn.imp fun _ _ => hleads.1, ?_, ?_, ?_⟩
  · intro turn hmem
    obtain ⟨key, hkey⟩ := hturns.leads turn hmem
    exact ⟨key, hleads.1 hkey⟩
  · rw [hrun, hturns.collect_eq endless]
    rfl
  · rw [hlogged, hturns.collect_recorded note endless]
    rfl

/-- A run that collects pages ends or is endless. -/
theorem ended_or_endless (hleads : ∀ {reply key}, paging.LeadsTo reply key ↔ Leads reply key)
    (hrun : paging.Collects endless after run)
    (hlogged : (paging.recorded note).Collects endless after logged) (state : σ) :
    (∃ turns next, paging.Ends none state turns next ∧
      Ended Leads note run logged state turns (after (paging.outcome turns)) next) ∨
      Endless Leads note run logged (after (.error endless)) state := by
  rcases ends_or_passes paging none state with ⟨turns, next, hends⟩ | hpasses
  · exact .inl ⟨turns, next, hends, ended_of_ends hleads hrun hlogged hends⟩
  · exact .inr (endless_of_passes hleads hrun hlogged hpasses)

end Runs

end Paging

end Intake
