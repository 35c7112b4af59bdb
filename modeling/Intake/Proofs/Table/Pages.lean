import Intake.Proofs.Table.Rows

/-!
# Pages put together

Wherever a listing is cut, the rows on its pages are the rows of the listing, each once and in their
order: a page begins behind the last row of the pages before it.
-/

namespace Intake

namespace Table

section Places

variable {index : StoreIndex} {row : AttributeMap}

theorem textAt?_cursorOf {name : String}
    (hname : name ∈ [Attribute.partitionKey, Attribute.sortKey, partitionAttribute index,
      sortAttribute index]) :
    Test.textAt? (cursorOf index row) name = Test.textAt? row name := by
  rw [Test.textAt?, Test.textAt?, cursorOf, Json.lookup_filter, if_pos (by simpa using hname)]

/-- The cursor made from a row leads back to its place. -/
theorem place_cursorOf (index : StoreIndex) (row : AttributeMap) :
    Place.of? index (cursorOf index row) = Place.of? index row := by
  rw [Place.of?, Place.of?, keyIn?, keyIn?, textAt?_cursorOf (by simp), textAt?_cursorOf (by simp),
    textAt?_cursorOf (by simp)]

theorem place_firstCursor (index : StoreIndex) (partition : String) :
    Place.of? index (firstCursor index partition) = none := by
  cases index <;> rfl

theorem place_nil (index : StoreIndex) : Place.of? index [] = none := rfl

theorem placed?_eq_some {partition : String} {entry : Place × AttributeMap} :
    placed? index partition row = some entry ↔
      entry.2 = row ∧ Test.textAt? row (partitionAttribute index) = some partition ∧
        Place.of? index row = some entry.1 := by
  obtain ⟨place, other⟩ := entry
  rw [placed?, holds?_keyCondition]
  split
  next hholds =>
    have htext : Test.textAt? row (partitionAttribute index) = some partition := by
      simpa using hholds
    rw [Option.map_eq_some_iff]
    constructor
    · rintro ⟨found, hplace, heq⟩
      cases heq
      exact ⟨rfl, htext, hplace⟩
    · rintro ⟨rfl, -, hplace⟩
      exact ⟨place, hplace, rfl⟩
  next hholds =>
    constructor
    · exact nofun
    · rintro ⟨-, htext, -⟩
      refine absurd ?_ hholds
      rw [Option.bind_some, htext, beq_self_eq_true]

theorem place_of_mem_listing {rows : Rows} {partition : String} {entry : Place × AttributeMap}
    (hmem : entry ∈ (listing rows index partition).toList) :
    Place.of? index entry.2 = some entry.1 ∧ entry.2 ∈ rows.values := by
  obtain ⟨row, hrow, hplaced⟩ := List.mem_filterMap.1 (Entries.mem_ofList hmem)
  obtain ⟨heq, -, hplace⟩ := placed?_eq_some.1 hplaced
  rw [heq]
  exact ⟨hplace, hrow⟩

end Places

/-- A start behind the rows of a listing that were passed. -/
structure Marks (index : StoreIndex) (start : Option AttributeMap)
    (passed : List (Place × AttributeMap)) : Prop where
  place : start.bind (Place.of? index) = passed.getLast?.map Prod.fst
  filled : start ≠ some []

section Pages

variable {index : StoreIndex} {partition : String} {start : Option AttributeMap}
variable {passed left : List (Place × AttributeMap)}

theorem Marks.origin : Marks index none [] := ⟨rfl, nofun⟩

theorem remaining_of_marks {found : SortedMap Place AttributeMap} (hmarks : Marks index start passed)
    (hfound : found.toList = passed ++ left) :
    remaining index start found = left.map Prod.snd := by
  have hsorted := found.sorted
  rw [hfound] at hsorted
  rw [remaining, hmarks.place, hfound]
  congr 1
  rcases List.eq_nil_or_concat passed with rfl | ⟨before, last, rfl⟩
  · simp
  · rw [List.concat_eq_append] at hsorted ⊢
    obtain ⟨hpassed, -, hlater⟩ := List.pairwise_append.1 hsorted
    obtain ⟨-, -, hbefore⟩ := List.pairwise_append.1 hpassed
    have hirreflexive : ¬compare last.1 last.1 = .lt := by
      have hself : compare last.1 last.1 = .eq := Std.ReflCmp.compare_self
      rw [hself]
      exact Ordering.noConfusion
    rw [List.getLast?_concat, Option.map_some, List.filter_append, List.filter_eq_nil_iff.2,
      List.filter_eq_self.2, List.nil_append]
    · intro entry hentry
      simpa using hlater last (List.mem_append_right _ List.mem_cons_self) entry hentry
    · intro entry hentry hbehind
      have hlt : compare last.1 entry.1 = .lt := by simpa using hbehind
      rcases List.mem_append.1 hentry with hentry | hentry
      · exact hirreflexive (Std.TransCmp.lt_trans hlt (hbefore entry hentry last List.mem_cons_self))
      · rw [List.mem_singleton.1 hentry] at hlt
        exact hirreflexive hlt

/-- The start of the next page is behind the rows of this one. -/
theorem Marks.next {rows : Rows} (hmarks : Marks index start passed)
    (hfound : (listing rows index partition).toList = passed ++ left) (size : Nat) :
    Marks index (some (cursorAfter index partition start ((left.map Prod.snd).take size)))
      (passed ++ left.take size) := by
  rw [cursorAfter, ← List.map_take, List.getLast?_map]
  cases hlast : (left.take size).getLast? with
  | none =>
    rw [List.getLast?_eq_none_iff.1 hlast, List.append_nil]
    cases start with
    | none =>
      refine ⟨?_, nofun⟩
      rw [← hmarks.place]
      exact place_firstCursor index partition
    | some start => exact hmarks
  | some entry =>
    have hmem : entry ∈ (listing rows index partition).toList := by
      rw [hfound]
      exact List.mem_append_right _ (List.mem_of_mem_take (List.mem_of_getLast? hlast))
    obtain ⟨hplace, -⟩ := place_of_mem_listing hmem
    have hcursor : Place.of? index (cursorOf index entry.2) = some entry.1 := by
      rw [place_cursorOf, hplace]
    rw [Option.map_some]
    refine ⟨?_, ?_⟩
    · rw [List.getLast?_append, hlast]
      exact hcursor
    · intro hnil
      have hempty : cursorOf index entry.2 = [] := Option.some.inj hnil
      rw [hempty, place_nil] at hcursor
      cases hcursor

/-- However a listing is cut, asking for page after page gives its rows, if the pages are not more
than are asked for. -/
theorem queryPages_listing (sizes : List Nat) (limit : Nat) (hlimit : sizes.length < limit)
    (service : Service) (hsizes : service.sizes start = sizes) (hmarks : Marks index start passed)
    (hfound : (listing service.rows index partition).toList = passed ++ left) :
    queryPages Service.answer index partition limit start service =
      (.ok (left.map Prod.snd), service.turned start []) := by
  -- On the sizes of the pages to come: the marks say which rows the start of a page has behind it.
  induction sizes generalizing limit service start passed left with
  | nil =>
    obtain ⟨pages, rfl⟩ := Nat.exists_eq_succ_of_ne_zero (Nat.ne_zero_of_lt hlimit)
    have hanswer : Service.answer (.query index partition start) service =
        (.done ⟨none, left.map Prod.snd, none⟩, service.turned start []) := by
      simp only [Service.answer, Service.page, hsizes, remaining_of_marks hmarks hfound]
    simp only [queryPages, bind, StateT.bind, hanswer, nextStart]
    rfl
  | cons size sizes ih =>
    obtain ⟨pages, rfl⟩ := Nat.exists_eq_succ_of_ne_zero (Nat.ne_zero_of_lt hlimit)
    have hanswer : Service.answer (.query index partition start) service =
        (.done ⟨none, (left.map Prod.snd).take size,
          some (cursorAfter index partition start ((left.map Prod.snd).take size))⟩,
          service.turned start sizes) := by
      simp only [Service.answer, Service.page, hsizes, remaining_of_marks hmarks hfound]
    have hnext := hmarks.next hfound size
    have hfoundNext : (listing (service.turned start sizes).rows index partition).toList =
        (passed ++ left.take size) ++ left.drop size := by
      rw [List.append_assoc, List.take_append_drop]
      exact hfound
    have hrest := ih pages (Nat.lt_of_succ_lt_succ hlimit) (service.turned start sizes) rfl hnext
      hfoundNext
    have hstart : nextStart ⟨none, (left.map Prod.snd).take size,
          some (cursorAfter index partition start ((left.map Prod.snd).take size))⟩ =
        some (cursorAfter index partition start ((left.map Prod.snd).take size)) := by
      have hfilled := hnext.filled
      cases hcursor : cursorAfter index partition start ((left.map Prod.snd).take size) with
      | nil => exact absurd (congrArg some hcursor) hfilled
      | cons first others => rw [nextStart]
    have htogether : (left.map Prod.snd).take size ++ (left.drop size).map Prod.snd =
        left.map Prod.snd := by
      rw [← List.map_take, ← List.map_append, List.take_append_drop]
    simp only [queryPages, bind, StateT.bind, hanswer, hstart, hrest]
    exact congrArg (fun rows => (Except.ok rows, service.turned start [])) htogether

end Pages

end Table

end Intake
