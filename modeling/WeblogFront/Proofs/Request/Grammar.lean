import WeblogFront.Proofs.Request.Envelope
import WeblogFront.Request.Classifier

/-! The grammar of page requests. It stands beside the classifier and uses none of the functions that cut
an address up: it says what an address, a view and the parameters of a view look like, and for
everything that looks different the rejection it earns. A request fits the grammar or earns a
rejection; fitting requests are accepted and the other ones are answered with what they earn, so both
are exact. -/
namespace WeblogFront.Request

def DateText (text : List Char) : Prop :=
  (text.length = 6 ∨ text.length = 8) ∧ ∀ c ∈ text, '0' ≤ c ∧ c ≤ '9'

theorem is_date_iff {text : String} : isDate text = true ↔ DateText text.toList := by
  simp [isDate, DateText, Text.isDigit]

inductive Selects (tagLimit : Nat) : List Char → Selection → Prop where
  | tagIndex : Selects tagLimit "tags".toList .tagIndex
  | entry (selector : List Char) :
      Selects tagLimit ("entry".toList ++ '/' :: selector)
        (.entry (Text.decode (String.ofList selector)))
  | category (selector : List Char) :
      Selects tagLimit ("category".toList ++ '/' :: selector)
        (.category (Text.decode (String.ofList selector)))
  | page (link : List Char) :
      Selects tagLimit ("page".toList ++ '/' :: link) (.page (String.ofList link))
  | date {selector : List Char} (dated : DateText selector) :
      Selects tagLimit ("date".toList ++ '/' :: selector) (.date (String.ofList selector))
  | tags {selector : List Char}
      (few : (splitTags (Text.decode (String.ofList selector))).length ≤ tagLimit) :
      Selects tagLimit ("tags".toList ++ '/' :: selector)
        (.tags (splitTags (Text.decode (String.ofList selector))))

def viewKinds : List String :=
  ["entry", "date", "category", "page", "tags"]

inductive Misselects (tagLimit : Nat) (url : String) : List Char → Rejection → Prop where
  | bare {kind : List Char} (clean : '/' ∉ kind) (other : kind ≠ "tags".toList) :
      Misselects tagLimit url kind (.bareContext (String.ofList kind) url)
  | unknown {kind selector : List Char} (clean : '/' ∉ kind)
      (other : String.ofList kind ∉ viewKinds) :
      Misselects tagLimit url (kind ++ '/' :: selector)
        (.unsupportedContext (String.ofList kind) url)
  | date {selector : List Char} (undated : ¬ DateText selector) :
      Misselects tagLimit url ("date".toList ++ '/' :: selector)
        (.invalidDate (String.ofList selector) url)
  | tags {selector : List Char}
      (many : tagLimit < (splitTags (Text.decode (String.ofList selector))).length) :
      Misselects tagLimit url ("tags".toList ++ '/' :: selector) (.tooManyTags tagLimit url)

section Paths

variable {tagLimit : Nat} {url : String} {path : List Char}

theorem known_kind {kind : String} (known : kind ∈ viewKinds) (tagLimit : Nat) (url : String)
    (selector : List Char) :
    (∃ selection, Selects tagLimit (kind.toList ++ '/' :: selector) selection) ∨
      ∃ rejection, Misselects tagLimit url (kind.toList ++ '/' :: selector) rejection := by
  simp only [viewKinds, List.mem_cons, List.not_mem_nil, or_false] at known
  rcases known with rfl | rfl | rfl | rfl | rfl
  · exact .inl ⟨_, .entry selector⟩
  · by_cases dated : DateText selector
    · exact .inl ⟨_, .date dated⟩
    · exact .inr ⟨_, .date dated⟩
  · exact .inl ⟨_, .category selector⟩
  · exact .inl ⟨_, .page selector⟩
  · by_cases few : (splitTags (Text.decode (String.ofList selector))).length ≤ tagLimit
    · exact .inl ⟨_, .tags few⟩
    · exact .inr ⟨_, .tags (Nat.lt_of_not_le few)⟩

theorem selects_or_misselects (tagLimit : Nat) (url : String) (path : List Char) :
    (∃ selection, Selects tagLimit path selection) ∨
      ∃ rejection, Misselects tagLimit url path rejection := by
  cases cut : Text.cutOnce '/' path with | mk kind behind =>
  obtain ⟨clean, written⟩ := Text.cut_eq_iff.mp cut
  cases behind with
  | none =>
    subst written
    by_cases index : path = "tags".toList
    · subst index
      exact .inl ⟨.tagIndex, .tagIndex⟩
    · exact .inr ⟨_, .bare clean index⟩
  | some selector =>
    subst written
    by_cases known : String.ofList kind ∈ viewKinds
    · have outcome := known_kind known tagLimit url selector
      rwa [String.toList_ofList] at outcome
    · exact .inr ⟨_, .unknown clean known⟩

theorem selects_accepted {selection : Selection} (selects : Selects tagLimit path selection) :
    select tagLimit url (String.ofList path) = .ok selection := by
  rw [select, String.toList_ofList]
  cases selects with
  | tagIndex => rfl
  | entry selector => rw [Text.cut_at (by decide)]; rfl
  | category selector => rw [Text.cut_at (by decide)]; rfl
  | page link => rw [Text.cut_at (by decide)]; rfl
  | date dated =>
    rw [Text.cut_at (by decide)]
    exact if_pos (is_date_iff.mpr (by rwa [String.toList_ofList]))
  | tags few =>
    rw [Text.cut_at (by decide)]
    exact if_pos few

theorem misselects_refused {rejection : Rejection}
    (misselects : Misselects tagLimit url path rejection) :
    select tagLimit url (String.ofList path) = .error rejection := by
  rw [select, String.toList_ofList]
  cases misselects with
  | bare clean other =>
    rw [Text.cut_clean clean]
    refine if_neg fun same => other ?_
    rw [← same, String.toList_ofList]
  | unknown clean other =>
    rw [Text.cut_at clean]
    dsimp only
    split
    case h_6 => rfl
    all_goals
      rename_i named
      rw [named] at other
      exact absurd (by decide) other
  | date undated =>
    rw [Text.cut_at (by decide)]
    refine if_neg fun dated => undated ?_
    rwa [is_date_iff, String.toList_ofList] at dated
  | tags many =>
    rw [Text.cut_at (by decide)]
    exact if_neg (Nat.not_le.mpr many)

end Paths

/-- The first `entry` value, or the first `anchor` value where no `entry` stands, when it is not empty. -/
def SelectsAnchor (query : Query) : Prop :=
  ∃ anchor, anchor ≠ "" ∧
    (query.first? "entry" = some anchor ∨
      query.contains "entry" = false ∧ query.first? "anchor" = some anchor)

/-- Nothing is left for the view to be read from, or blanks only. -/
def AsksHome (rest : Option (List Char)) : Prop :=
  ∀ path ∈ rest, ∀ c ∈ path, Text.isBlank c = true

def AsksPage (rest : Option (List Char)) : Prop :=
  ∃ link, rest = some ("page".toList ++ '/' :: link)

def ViewFits (tagLimit : Nat) (rest : Option (List Char)) : Prop :=
  AsksHome rest ∨ ∃ path selection, rest = some path ∧ Selects tagLimit path selection

/-- Only the homepage and a page of the weblog's own look at a date parameter, and only where neither
an anchor nor, for the page, a tag list is chosen. -/
def QueryFits (query : Query) (rest : Option (List Char)) : Prop :=
  AsksHome rest ∨ AsksPage rest →
    SelectsAnchor query ∨ AsksPage rest ∧ query.contains "tags" = true ∨
      query.contains "date" = false ∨
        ∃ date, query.first? "date" = some date ∧ DateText date.toList

/-- The requests of a mount point, as they have to be written. -/
def Grammatical (classifier : Classifier) (raw : RawRequest) : Prop :=
  raw.mount = classifier.profile.mount ∧
    ∃ handle below locale rest, NamesWeblog raw.path handle below ∧ Leaves below locale rest ∧
      ViewFits classifier.tagLimit rest ∧ QueryFits raw.query rest

/-- The rejections, each behind the conditions that come before its own. -/
inductive Refuses (classifier : Classifier) (raw : RawRequest) : Rejection → Prop where
  | destination (elsewhere : raw.mount ≠ classifier.profile.mount) :
      Refuses classifier raw (.destination raw.mount raw.url)
  | weblog (arrives : raw.mount = classifier.profile.mount)
      (nameless : ∀ handle below, ¬ NamesWeblog raw.path handle below) :
      Refuses classifier raw (.missingWeblog raw.url)
  | view {handle path : List Char} {below locale : Option (List Char)} {rejection : Rejection}
      (arrives : raw.mount = classifier.profile.mount)
      (named : NamesWeblog raw.path handle below) (leaves : Leaves below locale (some path))
      (asked : ¬ AsksHome (some path))
      (misselects : Misselects classifier.tagLimit raw.url path rejection) :
      Refuses classifier raw rejection
  | date {handle : List Char} {below locale rest : Option (List Char)} {date : String}
      (arrives : raw.mount = classifier.profile.mount)
      (named : NamesWeblog raw.path handle below) (leaves : Leaves below locale rest)
      (consulted : AsksHome rest ∨ AsksPage rest) (anchorless : ¬ SelectsAnchor raw.query)
      (untagged : AsksPage rest → raw.query.contains "tags" = false)
      (written : raw.query.first? "date" = some date) (undated : ¬ DateText date.toList) :
      Refuses classifier raw (.invalidDate date raw.url)

section Parameters

variable {query : Query} {placed : Descriptor} {url : String}

theorem contains_eq_first (query : Query) (name : String) :
    query.contains name = (query.first? name).isSome := by
  unfold Query.contains Query.first? Query.all Query.find?
  cases found : query.entries.find? fun entry => entry.1 == name with
  | none => rfl
  | some entry =>
    have filled := query.filled entry (List.mem_of_find?_eq_some found)
    obtain ⟨value, others, valued⟩ := List.exists_cons_of_ne_nil filled
    simp [valued]

theorem contains_eq_false_iff {name : String} :
    query.contains name = false ↔ query.first? name = none := by
  rw [contains_eq_first, Option.isSome_eq_false_iff, Option.isNone_iff_eq_none]

theorem query_anchor_eq_some_iff {anchor : String} :
    queryAnchor query = some anchor ↔ anchor ≠ "" ∧
      (query.first? "entry" = some anchor ∨
        query.contains "entry" = false ∧ query.first? "anchor" = some anchor) := by
  rw [queryAnchor, Option.filter_eq_some_iff, Option.or_eq_some_iff, contains_eq_first, and_comm]
  simp

theorem query_anchor_isSome : (queryAnchor query).isSome = true ↔ SelectsAnchor query := by
  simp only [Option.isSome_iff_exists, query_anchor_eq_some_iff, SelectsAnchor]

theorem place_query_accepted
    (fits : SelectsAnchor query ∨ placed.tags.isSome = true ∨ query.contains "date" = false ∨
      ∃ date, query.first? "date" = some date ∧ DateText date.toList) :
    ∃ descriptor, placeQuery placed query url = .ok descriptor := by
  unfold placeQuery
  split
  case h_1 anchor selected => exact ⟨_, rfl⟩
  case h_2 unselected =>
    have anchorless : ¬ SelectsAnchor query := by
      rw [← query_anchor_isSome, unselected]
      exact Bool.false_ne_true
    split
    case isTrue => exact ⟨placed, rfl⟩
    case isFalse undecided =>
      rcases fits with selects | tagged | undated | ⟨date, written, dated⟩
      · exact absurd selects anchorless
      · exact absurd (Bool.or_eq_true_iff.mpr (.inr tagged)) undecided
      · rw [contains_eq_false_iff.mp undated]
        exact ⟨_, rfl⟩
      · rw [written]
        exact ⟨_, if_pos (is_date_iff.mpr dated)⟩

theorem place_query_refused {date : String} (unplaced : placed.anchor = none)
    (untagged : placed.tags = none) (anchorless : ¬ SelectsAnchor query)
    (written : query.first? "date" = some date) (undated : ¬ DateText date.toList) :
    placeQuery placed query url = .error (.invalidDate date url) := by
  have unselected : queryAnchor query = none := by
    rw [← Option.not_isSome_iff_eq_none, query_anchor_isSome]
    exact anchorless
  have unchosen : ¬ (placed.anchor.isSome || placed.tags.isSome) = true := by
    rw [unplaced, untagged]
    exact Bool.false_ne_true
  rw [placeQuery, unselected]
  dsimp only
  rw [if_neg unchosen, written]
  exact if_neg (mt is_date_iff.mp undated)

end Parameters

section Addresses

variable {classifier : Classifier} {raw : RawRequest} {handle : List Char}
  {below locale rest : Option (List Char)}

theorem named_or_nameless (path : Option String) :
    (∃ handle below locale rest, NamesWeblog path handle below ∧ Leaves below locale rest) ∨
      ∀ handle below, ¬ NamesWeblog path handle below := by
  refine or_iff_not_imp_right.mpr fun named => ?_
  push Not at named
  obtain ⟨handle, below, named⟩ := named
  cases below with
  | none => exact ⟨handle, none, none, none, named, .nothing⟩
  | some below =>
    obtain ⟨locale, rest, leaves⟩ := leaves_some below
    exact ⟨handle, some below, locale, rest, named, leaves⟩

theorem read_named (named : NamesWeblog raw.path handle below) (leaves : Leaves below locale rest) :
    Envelope.read raw = .ok (.ofParts handle locale rest) := by
  rw [Envelope.read, named_split named leaves]

theorem read_nameless (nameless : ∀ handle below, ¬ NamesWeblog raw.path handle below) :
    Envelope.read raw = .error (.missingWeblog raw.url) := by
  unfold Envelope.read
  split
  case h_1 envelope split =>
    obtain ⟨handle, below, _, _, named, _⟩ := split_named split
    exact absurd named (nameless handle below)
  case h_2 => rfl

theorem view_path_eq_none_iff :
    viewPath (.ofParts handle locale rest) = none ↔ AsksHome rest := by
  rw [viewPath, Envelope.ofParts, AsksHome]
  cases rest <;> simp [Text.isAllBlank]

theorem view_path_of_asked {path : List Char} (asked : ¬ AsksHome (some path)) :
    viewPath (.ofParts handle locale (some path)) = some (String.ofList path) := by
  cases viewed : viewPath (.ofParts handle locale (some path)) with
  | none => exact absurd (view_path_eq_none_iff.mp viewed) asked
  | some view =>
    cases (Option.filter_eq_some_iff.mp viewed).1
    rfl

theorem classify_home (arrives : raw.mount = classifier.profile.mount)
    (named : NamesWeblog raw.path handle below) (leaves : Leaves below locale rest)
    (home : AsksHome rest) :
    classifier.classify raw =
      placeQuery { classifier.frame (.ofParts handle locale rest) raw with homepageHit := true }
        raw.query raw.url := by
  rw [Classifier.classify, if_neg (not_not.mpr arrives), read_named named leaves]
  dsimp only [bind, Except.bind]
  rw [view_path_eq_none_iff.mpr home]

theorem classify_view {path : List Char} (arrives : raw.mount = classifier.profile.mount)
    (named : NamesWeblog raw.path handle below) (leaves : Leaves below locale (some path))
    (asked : ¬ AsksHome (some path)) :
    classifier.classify raw =
      (select classifier.tagLimit raw.url (String.ofList path)).bind fun selection =>
        let placed := place (classifier.frame (.ofParts handle locale (some path)) raw) raw.query
          selection
        match selection with
        | .page _ => placeQuery placed raw.query raw.url
        | _ => .ok placed := by
  rw [Classifier.classify, if_neg (not_not.mpr arrives), read_named named leaves]
  dsimp only [bind, Except.bind]
  rewrite [view_path_of_asked asked]
  rfl

-- The first character of a view is no blank.
theorem selects_asked {path : List Char} {selection : Selection} {tagLimit : Nat}
    (selects : Selects tagLimit path selection) : ¬ AsksHome (some path) := by
  intro home
  have blank := home path rfl
  cases selects with
  | tagIndex => exact absurd (blank 't' (by decide)) (by decide)
  | entry selector => exact absurd (blank 'e' List.mem_cons_self) (by decide)
  | category selector => exact absurd (blank 'c' List.mem_cons_self) (by decide)
  | page link => exact absurd (blank 'p' List.mem_cons_self) (by decide)
  | date dated => exact absurd (blank 'd' List.mem_cons_self) (by decide)
  | tags few => exact absurd (blank 't' List.mem_cons_self) (by decide)

theorem classify_selected {path : List Char} {selection : Selection}
    (arrives : raw.mount = classifier.profile.mount) (named : NamesWeblog raw.path handle below)
    (leaves : Leaves below locale (some path)) (selects : Selects classifier.tagLimit path selection)
    (other : ∀ link, selection ≠ .page link) :
    classifier.classify raw =
      .ok (place (classifier.frame (.ofParts handle locale (some path)) raw) raw.query selection) := by
  rw [classify_view arrives named leaves (selects_asked selects), selects_accepted selects]
  cases selection with
  | page link => exact absurd rfl (other link)
  | _ => rfl

theorem page_asked (page : AsksPage rest) : ¬ AsksHome rest := by
  obtain ⟨link, rfl⟩ := page
  exact selects_asked (Selects.page link : Selects 0 _ _)

theorem misfit_misselects {tagLimit : Nat} (misfit : ¬ ViewFits tagLimit rest) (url : String) :
    ∃ path, rest = some path ∧ ∃ rejection, ¬ AsksHome rest ∧
      Misselects tagLimit url path rejection := by
  obtain ⟨asked, unselected⟩ := not_or.mp misfit
  cases rest with
  | none =>
    refine absurd ?_ asked
    rintro path ⟨⟩
  | some path =>
    rcases selects_or_misselects tagLimit url path with ⟨selection, selects⟩ | ⟨rejection, misselects⟩
    · exact absurd ⟨path, selection, rfl, selects⟩ unselected
    · exact ⟨path, rfl, rejection, asked, misselects⟩

theorem grammatical_accepted (fits : Grammatical classifier raw) :
    ∃ descriptor, classifier.classify raw = .ok descriptor := by
  obtain ⟨arrives, handle, below, locale, rest, named, leaves, view, query⟩ := fits
  rcases view with home | ⟨path, selection, rfl, selects⟩
  · rw [classify_home arrives named leaves home]
    apply place_query_accepted
    rcases query (.inl home) with anchored | ⟨page, _⟩ | free
    · exact .inl anchored
    · exact absurd home (page_asked page)
    · exact .inr (.inr free)
  · rw [classify_view arrives named leaves (selects_asked selects), selects_accepted selects]
    cases selects with
    | page link =>
      apply place_query_accepted
      rcases query (.inr ⟨link, rfl⟩) with anchored | ⟨_, tagged⟩ | free
      · exact .inl anchored
      · rw [contains_eq_first] at tagged
        exact .inr (.inl (by simpa [place] using tagged))
      · exact .inr (.inr free)
    | tagIndex => exact ⟨_, rfl⟩
    | entry selector => exact ⟨_, rfl⟩
    | category selector => exact ⟨_, rfl⟩
    | date dated => exact ⟨_, rfl⟩
    | tags few => exact ⟨_, rfl⟩

theorem refuses_rejected {rejection : Rejection} (refuses : Refuses classifier raw rejection) :
    classifier.classify raw = .error rejection := by
  cases refuses with
  | destination elsewhere => exact if_pos elsewhere
  | weblog arrives nameless =>
    rw [Classifier.classify, if_neg (not_not.mpr arrives), read_nameless nameless]
    rfl
  | view arrives named leaves asked misselects =>
    rw [classify_view arrives named leaves asked, misselects_refused misselects]
    rfl
  | date arrives named leaves consulted anchorless untagged written undated =>
    rcases consulted with home | page
    · rw [classify_home arrives named leaves home]
      exact place_query_refused rfl rfl anchorless written undated
    · have asked := page_asked page
      have tagless := contains_eq_false_iff.mp (untagged page)
      obtain ⟨link, rfl⟩ := page
      rw [classify_view arrives named leaves asked, selects_accepted (.page link)]
      refine place_query_refused rfl ?_ anchorless written undated
      rw [place, tagless]
      rfl

theorem grammatical_or_refuses (classifier : Classifier) (raw : RawRequest) :
    Grammatical classifier raw ∨ ∃ rejection, Refuses classifier raw rejection := by
  by_cases arrives : raw.mount = classifier.profile.mount
  case neg => exact .inr ⟨_, .destination arrives⟩
  rcases named_or_nameless raw.path with ⟨handle, below, locale, rest, named, leaves⟩ | nameless
  case inr => exact .inr ⟨_, .weblog arrives nameless⟩
  by_cases view : ViewFits classifier.tagLimit rest
  case neg =>
    obtain ⟨path, rfl, rejection, asked, misselects⟩ := misfit_misselects view raw.url
    exact .inr ⟨rejection, .view arrives named leaves asked misselects⟩
  by_cases query : QueryFits raw.query rest
  case neg =>
    obtain ⟨consulted, misfit⟩ := Classical.not_imp.mp query
    simp only [not_or, not_and, Bool.not_eq_false, Bool.not_eq_true] at misfit
    obtain ⟨anchorless, untagged, dated, undated⟩ := misfit
    rw [contains_eq_first, Option.isSome_iff_exists] at dated
    obtain ⟨date, written⟩ := dated
    exact .inr ⟨_, .date arrives named leaves consulted anchorless untagged written
      fun dated => undated ⟨date, written, dated⟩⟩
  exact .inl ⟨arrives, handle, below, locale, rest, named, leaves, view, query⟩

/-- A request is accepted exactly when it fits the grammar, and every other request is answered with
what the first condition that fails earns. -/
theorem classify_grammar (classifier : Classifier) (raw : RawRequest) :
    ((∃ descriptor, classifier.classify raw = .ok descriptor) ↔ Grammatical classifier raw) ∧
      ∀ rejection, classifier.classify raw = .error rejection ↔ Refuses classifier raw rejection := by
  rcases grammatical_or_refuses classifier raw with fits | ⟨earned, refuses⟩
  · obtain ⟨descriptor, accepted⟩ := grammatical_accepted fits
    refine ⟨⟨fun _ => fits, fun _ => ⟨descriptor, accepted⟩⟩, fun rejection => ⟨?_, refuses_rejected⟩⟩
    intro rejected
    cases accepted.symm.trans rejected
  · have rejected := refuses_rejected refuses
    refine ⟨⟨?_, grammatical_accepted⟩, fun rejection => ⟨?_, refuses_rejected⟩⟩
    · rintro ⟨descriptor, accepted⟩
      cases accepted.symm.trans rejected
    · intro same
      cases rejected.symm.trans same
      exact refuses

-- An empty `entry` hides the anchor, and so it is the date that decides.
example : (Classifier.page 3).classify
    ⟨"/roller-ui/rendering/page", some "/blog/", .parse "entry=&anchor=post&date=soon", none⟩ =
      .error (.invalidDate "soon" "/roller-ui/rendering/page/blog/") := by
  decide +kernel

end Addresses

end WeblogFront.Request
