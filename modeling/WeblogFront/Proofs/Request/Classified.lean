import WeblogFront.Proofs.Request.Grammar

/-! What a descriptor holds once its request is classified. It is read in one of three ways: as the
homepage, as a page of the weblog's own, or as a view that its path alone selects. A preview comes with
the mount point and with nothing else, and only the views that are about tags have a list of them. -/
namespace WeblogFront.Request

section Placed

variable {start placed descriptor : Descriptor} {query : Query} {url : String}

def outline (descriptor : Descriptor) : Descriptor :=
  { descriptor with
    context := .home
    anchor := none
    date := none
    category := none
    customPage := none
    tags := none
    homepageHit := false
    contentHit := false }

theorem place_query_cases (accepted : placeQuery placed query url = .ok descriptor) :
    (∃ anchor, queryAnchor query = some anchor ∧
      descriptor = { placed with anchor := some anchor }) ∨
    (queryAnchor query = none ∧ (placed.anchor.isSome = true ∨ placed.tags.isSome = true) ∧
      descriptor = placed) ∨
    (queryAnchor query = none ∧ placed.anchor = none ∧ placed.tags = none ∧
      (∀ date ∈ query.first? "date", isDate date = true) ∧
      descriptor = { placed with
        category := (query.first? "cat").map Text.decode
        date := (query.first? "date").or placed.date }) := by
  unfold placeQuery at accepted
  split at accepted
  case h_1 anchor selected =>
    cases accepted
    exact .inl ⟨anchor, selected, rfl⟩
  case h_2 unselected =>
    refine .inr ?_
    split at accepted
    case isTrue decided =>
      cases accepted
      exact .inl ⟨unselected, Bool.or_eq_true_iff.mp decided, rfl⟩
    case isFalse undecided =>
      refine .inr ⟨unselected, ?_⟩
      obtain ⟨anchorless, untagged⟩ : placed.anchor = none ∧ placed.tags = none := by
        simpa using undecided
      refine ⟨anchorless, untagged, ?_⟩
      dsimp only at accepted
      split at accepted
      case h_1 date written =>
        split at accepted
        case isTrue dated =>
          cases accepted
          exact ⟨fun other same => by cases written.symm.trans same; exact dated, by rw [written]; rfl⟩
        case isFalse => cases accepted
      case h_2 absent =>
        cases accepted
        exact ⟨fun other same => (nomatch absent.symm.trans same), by rw [absent]; rfl⟩

theorem place_query_keeps (accepted : placeQuery placed query url = .ok descriptor) :
    descriptor.context = placed.context ∧ descriptor.tags = placed.tags ∧
      outline descriptor = outline placed := by
  rcases place_query_cases accepted with ⟨_, _, rfl⟩ | ⟨_, _, rfl⟩ | ⟨_, _, _, _, rfl⟩
  · exact ⟨rfl, rfl, rfl⟩
  · exact ⟨rfl, rfl, rfl⟩
  · exact ⟨rfl, rfl, rfl⟩

theorem place_outline (selection : Selection) :
    outline (place start query selection) = outline start := by
  cases selection <;> rfl

theorem place_tags (untagged : start.tags = none) (selection : Selection) :
    (place start query selection).tags = none ∨ (place start query selection).context = .page ∨
      (place start query selection).context = .tags := by
  cases selection with
  | entry anchor => exact .inl untagged
  | date date => exact .inl untagged
  | category name => exact .inl untagged
  | page link => exact .inr (.inl rfl)
  | tagIndex => exact .inl untagged
  | tags tags => exact .inr (.inr rfl)

end Placed

section Accepted

variable {classifier : Classifier} {raw : RawRequest} {descriptor : Descriptor}

/-- How a descriptor comes about that starts out from a frame: the parameters have their say on the
homepage and on a page of the weblog's own, and in no other view. -/
inductive Reads (tagLimit : Nat) (query : Query) (url : String) (start descriptor : Descriptor) : Prop where
  | home (placed : placeQuery { start with homepageHit := true } query url = .ok descriptor)
  | page {link : String} (placed : placeQuery (place start query (.page link)) query url = .ok descriptor)
  | view {path : List Char} {selection : Selection} (selects : Selects tagLimit path selection)
      (other : ∀ link, selection ≠ .page link) (placed : place start query selection = descriptor)

theorem classify_cases (accepted : classifier.classify raw = .ok descriptor) :
    ∃ handle below locale rest, NamesWeblog raw.path handle below ∧ Leaves below locale rest ∧
      Reads classifier.tagLimit raw.query raw.url (classifier.frame (.ofParts handle locale rest) raw)
        descriptor := by
  rcases grammatical_or_refuses classifier raw with fits | ⟨rejection, refuses⟩
  case inr => cases accepted.symm.trans (refuses_rejected refuses)
  obtain ⟨arrives, handle, below, locale, rest, named, leaves, view, _⟩ := fits
  refine ⟨handle, below, locale, rest, named, leaves, ?_⟩
  rcases view with home | ⟨path, selection, rfl, selects⟩
  · rw [classify_home arrives named leaves home] at accepted
    exact .home accepted
  · rw [classify_view arrives named leaves (selects_asked selects), selects_accepted selects] at accepted
    dsimp only [Except.bind] at accepted
    split at accepted
    case h_1 link => exact .page accepted
    case h_2 other => exact .view selects other (Except.ok.inj accepted)

theorem reads_outline {tagLimit : Nat} {query : Query} {url : String} {start : Descriptor}
    (reads : Reads tagLimit query url start descriptor) : outline descriptor = outline start := by
  cases reads with
  | home placed => exact (place_query_keeps placed).2.2
  | page placed => exact (place_query_keeps placed).2.2.trans (place_outline _)
  | view _ _ placed =>
    rw [← placed]
    exact place_outline _

theorem classified_outline (accepted : classifier.classify raw = .ok descriptor) :
    ∃ handle below locale rest, NamesWeblog raw.path handle below ∧ Leaves below locale rest ∧
      outline descriptor = classifier.frame (.ofParts handle locale rest) raw := by
  obtain ⟨handle, below, locale, rest, named, leaves, reads⟩ := classify_cases accepted
  exact ⟨handle, below, locale, rest, named, leaves, reads_outline reads⟩

theorem classified_preview (accepted : classifier.classify raw = .ok descriptor) :
    descriptor.preview =
      if classifier.profile.previews then some (.ofQuery raw.query) else none := by
  obtain ⟨_, _, _, _, _, _, framed⟩ := classified_outline accepted
  exact congrArg Descriptor.preview framed

theorem classified_tags (accepted : classifier.classify raw = .ok descriptor) :
    descriptor.tags = none ∨ descriptor.context = .page ∨ descriptor.context = .tags := by
  obtain ⟨_, _, _, _, _, _, reads⟩ := classify_cases accepted
  cases reads with
  | home placed => exact .inl (place_query_keeps placed).2.1
  | page placed => exact .inr (.inl (place_query_keeps placed).1)
  | view _ _ placed =>
    rw [← placed]
    exact place_tags rfl _

end Accepted

end WeblogFront.Request
