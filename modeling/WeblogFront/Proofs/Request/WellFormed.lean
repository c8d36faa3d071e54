import WeblogFront.Proofs.Request.Classified

/-! The descriptors that classifying can give. Templates and cache keys rely on it that each view carries
the selectors that are its own and none of the others, whatever the address and its parameters look
like. -/
namespace WeblogFront.Request

section Selectors

/-- An anchor out of a query is not empty, and a date or a category come from there only where neither an
anchor nor a tag list is chosen. -/
structure FallsBack (descriptor : Descriptor) : Prop where
  anchored : descriptor.anchor ≠ some ""
  undecided : descriptor.date.isSome = true ∨ descriptor.category.isSome = true →
    descriptor.anchor = none ∧ descriptor.tags = none

def Selected (tagLimit : Nat) (query : Query) (descriptor : Descriptor) : Prop :=
  match descriptor.context with
  | .entry =>
    descriptor.anchor.isSome = true ∧ descriptor.date = none ∧ descriptor.category = none ∧
      descriptor.tags = none
  | .date =>
    descriptor.date.isSome = true ∧ descriptor.anchor = none ∧ descriptor.category = none ∧
      descriptor.tags = none
  | .category =>
    descriptor.category.isSome = true ∧ descriptor.anchor = none ∧ descriptor.date = none ∧
      descriptor.tags = none
  | .tags =>
    descriptor.anchor = none ∧ descriptor.date = none ∧ descriptor.category = none ∧
      ∀ tags ∈ descriptor.tags, tags.length ≤ tagLimit
  | .page => (descriptor.tags.isSome = true ↔ query.contains "tags" = true) ∧ FallsBack descriptor
  | .home => descriptor.tags = none ∧ FallsBack descriptor

structure ViewFormed (tagLimit : Nat) (query : Query) (descriptor : Descriptor) : Prop where
  home : descriptor.homepageHit = true ↔ descriptor.context = .home
  counted : ¬ (descriptor.homepageHit = true ∧ descriptor.contentHit = true)
  page : descriptor.customPage.isSome = true ↔ descriptor.context = .page
  selected : Selected tagLimit query descriptor
  dated : ∀ date ∈ descriptor.date, DateText date.toList

structure WellFormed (tagLimit : Nat) (query : Query) (descriptor : Descriptor) : Prop where
  view : ViewFormed tagLimit query descriptor
  located : ∀ locale ∈ descriptor.locale, LocaleText locale.toList
  parameters : ∀ name values, (name, values) ∈ descriptor.parameters.entries ↔
    (name, values) ∈ query.entries ∧ name ∉ Query.reserved

end Selectors

section Views

variable {tagLimit : Nat} {query : Query} {url : String} {start placed descriptor : Descriptor}

/-- Nothing is chosen but, for a page of the weblog's own, its tags. -/
structure Undecided (placed : Descriptor) : Prop where
  anchor : placed.anchor = none
  date : placed.date = none
  category : placed.category = none

theorem place_query_moves (accepted : placeQuery placed query url = .ok descriptor) :
    ∃ anchor date category,
      descriptor = { placed with anchor := anchor, date := date, category := category } := by
  rcases place_query_cases accepted with ⟨_, _, rfl⟩ | ⟨_, _, rfl⟩ | ⟨_, _, _, _, rfl⟩
  · exact ⟨_, _, _, rfl⟩
  · exact ⟨_, _, _, rfl⟩
  · exact ⟨_, _, _, rfl⟩

theorem place_query_falls_back (undecided : Undecided placed)
    (accepted : placeQuery placed query url = .ok descriptor) : FallsBack descriptor := by
  have bare : ¬ (placed.date.isSome = true ∨ placed.category.isSome = true) := by
    rw [undecided.date, undecided.category]
    decide
  rcases place_query_cases accepted with
    ⟨anchor, selected, rfl⟩ | ⟨_, _, rfl⟩ | ⟨_, anchorless, untagged, _, rfl⟩
  · refine ⟨fun empty => ?_, fun chosen => absurd chosen bare⟩
    exact (query_anchor_eq_some_iff.mp selected).1 (Option.some.inj empty)
  · refine ⟨fun empty => ?_, fun chosen => absurd chosen bare⟩
    cases undecided.anchor.symm.trans empty
  · refine ⟨fun empty => ?_, fun _ => ⟨anchorless, untagged⟩⟩
    cases undecided.anchor.symm.trans empty

theorem place_query_dated (undecided : Undecided placed)
    (accepted : placeQuery placed query url = .ok descriptor) :
    ∀ date ∈ descriptor.date, DateText date.toList := by
  intro date chosen
  rcases place_query_cases accepted with ⟨_, _, rfl⟩ | ⟨_, _, rfl⟩ | ⟨_, _, _, dated, rfl⟩
  · cases undecided.date.symm.trans chosen
  · cases undecided.date.symm.trans chosen
  · rw [undecided.date, Option.or_none] at chosen
    exact is_date_iff.mp (dated date chosen)

theorem home_formed (unplaced : outline start = start)
    (accepted : placeQuery { start with homepageHit := true } query url = .ok descriptor) :
    ViewFormed tagLimit query descriptor := by
  rw [← unplaced] at accepted
  have undecided : Undecided { outline start with homepageHit := true } := ⟨rfl, rfl, rfl⟩
  have fallsBack := place_query_falls_back undecided accepted
  have dated := place_query_dated undecided accepted
  obtain ⟨anchor, date, category, rfl⟩ := place_query_moves accepted
  exact ⟨by simp [outline], by simp [outline], by simp [outline], ⟨rfl, fallsBack⟩, dated⟩

theorem page_formed {link : String} (unplaced : outline start = start)
    (accepted : placeQuery (place start query (.page link)) query url = .ok descriptor) :
    ViewFormed tagLimit query descriptor := by
  rw [← unplaced] at accepted
  have undecided : Undecided (place (outline start) query (.page link)) := ⟨rfl, rfl, rfl⟩
  have fallsBack := place_query_falls_back undecided accepted
  have dated := place_query_dated undecided accepted
  obtain ⟨anchor, date, category, rfl⟩ := place_query_moves accepted
  refine ⟨by simp [place, outline], by simp [place, outline], by simp [place], ⟨?_, fallsBack⟩, dated⟩
  rw [contains_eq_first, place, Option.isSome_map]

theorem place_elsewhere (unplaced : outline start = start) {selection : Selection}
    (other : ∀ link, selection ≠ .page link) :
    (place start query selection).context ≠ .home ∧ (place start query selection).context ≠ .page ∧
      (place start query selection).homepageHit = false ∧
      (place start query selection).customPage = none := by
  rw [← unplaced]
  cases selection with
  | page link => exact absurd rfl (other link)
  | _ => exact ⟨PageContext.noConfusion, PageContext.noConfusion, rfl, rfl⟩

theorem place_selected {path : List Char} {selection : Selection} (unplaced : outline start = start)
    (selects : Selects tagLimit path selection) (other : ∀ link, selection ≠ .page link) :
    Selected tagLimit query (place start query selection) := by
  rw [← unplaced]
  cases selects with
  | tagIndex => exact ⟨rfl, rfl, rfl, fun _ listed => nomatch listed⟩
  | entry selector => exact ⟨rfl, rfl, rfl, rfl⟩
  | category selector => exact ⟨rfl, rfl, rfl, rfl⟩
  | page link => exact absurd rfl (other (String.ofList link))
  | date dated => exact ⟨rfl, rfl, rfl, rfl⟩
  | tags few =>
    refine ⟨rfl, rfl, rfl, fun tags listed => ?_⟩
    cases listed
    exact few

theorem place_dated {path : List Char} {selection : Selection} (unplaced : outline start = start)
    (selects : Selects tagLimit path selection) :
    ∀ date ∈ (place start query selection).date, DateText date.toList := by
  rw [← unplaced]
  intro date chosen
  cases selects with
  | date dated =>
    cases chosen
    rwa [String.toList_ofList]
  | _ => cases chosen

theorem view_formed {path : List Char} {selection : Selection} (unplaced : outline start = start)
    (selects : Selects tagLimit path selection) (other : ∀ link, selection ≠ .page link) :
    ViewFormed tagLimit query (place start query selection) := by
  obtain ⟨away, linkless, unvisited, unlinked⟩ := place_elsewhere unplaced other
  refine ⟨?_, ?_, ?_, place_selected unplaced selects other, place_dated unplaced selects⟩
  · rw [unvisited]
    exact iff_of_false Bool.false_ne_true away
  · rw [unvisited]
    exact fun both => Bool.false_ne_true both.1
  · rw [unlinked]
    exact iff_of_false Bool.false_ne_true linkless

theorem reads_formed (unplaced : outline start = start)
    (reads : Reads tagLimit query url start descriptor) : ViewFormed tagLimit query descriptor := by
  cases reads with
  | home placed => exact home_formed unplaced placed
  | page placed => exact page_formed unplaced placed
  | view selects other placed =>
    rw [← placed]
    exact view_formed unplaced selects other

end Views

section Requests

variable {classifier : Classifier} {raw : RawRequest} {descriptor : Descriptor}

theorem leaves_located {below locale rest : Option (List Char)} (leaves : Leaves below locale rest) :
    ∀ text ∈ locale, LocaleText text := by
  intro text present
  cases leaves with
  | nothing => cases present
  | locale opens named =>
    cases present
    exact named
  | path => cases present

theorem mem_custom (query : Query) (name : String) (values : List String) :
    (name, values) ∈ query.custom.entries ↔ (name, values) ∈ query.entries ∧ name ∉ Query.reserved := by
  simp [Query.custom, Query.keep]

/-- Every descriptor that is read from a request has the selectors of its context and no others; its
homepage, its own page, its dates, locale and parameters are what they should be. -/
theorem classified_well_formed (accepted : classifier.classify raw = .ok descriptor) :
    WellFormed classifier.tagLimit raw.query descriptor := by
  obtain ⟨handle, below, locale, rest, _, leaves, reads⟩ := classify_cases accepted
  have framed := reads_outline reads
  refine ⟨reads_formed rfl reads, ?_, ?_⟩
  · intro text present
    have kept : descriptor.locale = locale.map String.ofList := congrArg Descriptor.locale framed
    rw [kept] at present
    obtain ⟨written, located, rfl⟩ := Option.map_eq_some_iff.mp present
    rw [String.toList_ofList]
    exact leaves_located leaves written located
  · have kept : descriptor.parameters = raw.query.custom := congrArg Descriptor.parameters framed
    rw [kept]
    exact mem_custom raw.query

-- A page of the weblog's own, in a locale: its tag list keeps the date from being looked at.
theorem tagged_page_well_formed :
    let raw : RawRequest := ⟨"/roller-ui/rendering/page", some "/blog/de/page/archive/",
      .parse "tags=rust&date=soon&sort=new", some "alice"⟩
    ∃ descriptor, (Classifier.page 3).classify raw = .ok descriptor ∧
      descriptor.context = .page ∧ descriptor.tags = some ["rust"] ∧
      WellFormed 3 raw.query descriptor := by
  intro raw
  obtain ⟨descriptor, accepted, context, tags⟩ : ∃ descriptor,
      (Classifier.page 3).classify raw = .ok descriptor ∧ descriptor.context = .page ∧
        descriptor.tags = some ["rust"] :=
    ⟨{ Descriptor.home "blog" true with
        locale := some "de"
        principal := some "alice"
        context := .page
        customPage := some "archive"
        tags := some ["rust"]
        contentHit := true
        parameters := .parse "sort=new" }, by decide +kernel, rfl, rfl⟩
  exact ⟨descriptor, accepted, context, tags, classified_well_formed accepted⟩

end Requests

end WeblogFront.Request
