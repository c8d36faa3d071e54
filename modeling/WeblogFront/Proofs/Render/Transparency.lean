import WeblogFront.Proofs.Render.Outcome
import WeblogFront.Proofs.Request.Classified

/-! Runs of page requests on a service with a page cache, beside the same runs without one. A build reads
only what the view shows, and the key of a page has all of that but the order of its tags: there a
visitor is shown the list of whoever asked first, and everything else as it was asked for. -/
namespace WeblogFront.Render

section Shown

/-- What a page shows of a descriptor: the visits that it counts for are dropped, and a sender counts
as the user only. -/
def shown (asked : Descriptor) : Descriptor :=
  { asked with
    principal := asked.user
    showsIdentity := true
    homepageHit := false
    contentHit := false }

theorem build_shown (lookups : Site.Lookups) (asked : Descriptor) :
    (build lookups (.fresh (shown asked))).result = (build lookups (.fresh asked)).result := by
  unfold build
  dsimp only [PageRequest.fresh, shown]
  split
  · rfl
  · rfl
  · refine (within_result (PageRequest.fresh_honest lookups (shown asked))).trans ?_
    exact (within_result (PageRequest.fresh_honest lookups asked)).symm

theorem shown_of_same_page {origin asked : Descriptor} (same : Cache.SamePage origin asked)
    (published : origin.preview = none) (alsoPublished : asked.preview = none)
    (parameters : origin.parameters = asked.parameters) :
    shown origin = shown { asked with tags := origin.tags } := by
  have anchor := same.entry_anchor
  rw [entry_anchor_published (by rw [Descriptor.isPreview, published]; rfl),
    entry_anchor_published (by rw [Descriptor.isPreview, alsoPublished]; rfl)] at anchor
  unfold shown
  rw [Descriptor.mk.injEq]
  exact ⟨same.handle, same.locale, same.visible_user, rfl, same.context, anchor, same.date, same.category,
    same.customPage, rfl, same.pageNumber, parameters, rfl, rfl, published.trans alsoPublished.symm⟩

end Shown

section Disabled

variable {store : Cache.Store Document}

theorem page_enabled (lookups : Site.Lookups) (now : Nat) (store : Cache.Store Document)
    (request : PageRequest) :
    (page lookups now store request).state.store.isEnabled = store.isEnabled := by
  have looked : (store.get now (Cache.pageKey request.descriptor)).state.isEnabled = store.isEnabled :=
    Cache.Store.enabled_locked _ _ _ _
  rcases page_cases lookups now store request rfl rfl rfl with
    ⟨_, outcome⟩ | ⟨_, document, _, outcome⟩ | ⟨_, _, failure, _, outcome⟩ | ⟨_, _, document, _, outcome⟩
  · rw [outcome]
  · rw [outcome]
    exact looked
  · rw [outcome]
    exact looked
  · rw [outcome]
    exact (Cache.Store.enabled_locked _ _ _ _).trans looked

theorem after_enabled (settings : CacheSettings) (calls : List Call) :
    (after settings calls).pages.isEnabled = settings.pages.enabled := by
  induction calls using List.reverseRecOn with
  | nil =>
    cases enabled : settings.pages.enabled <;>
      simp [after, Caches.new, Cache.Store.new, Cache.Store.isEnabled, enabled]
  | append_singleton past call ih =>
    rw [after_append, ← ih]
    cases call with
    | page lookups now request => exact page_enabled lookups now _ request
    | planet clock request => rfl
    | planetUpdated clock moment => rfl
    | removePage key => exact Cache.Store.enabled_locked _ _ _ _
    | removePlanet key => rfl
    | clearPages => exact Cache.Store.enabled_locked _ _ _ _
    | clearPlanet => rfl

theorem get_disabled (disabled : store.isEnabled = false) (now : Nat) (key : String) :
    (store.get now key).result = none := by
  have shelfless : store.shelf = none := by
    rw [← Option.not_isSome_iff_eq_none, ← Cache.Store.isEnabled, disabled]
    exact Bool.false_ne_true
  rw [Cache.Store.get, Cache.Store.locked, shelfless]

theorem page_disabled (disabled : store.isEnabled = false) (lookups : Site.Lookups) (now : Nat)
    (request : PageRequest) :
    (page lookups now store request).result.map (·.document) = (build lookups request).result := by
  rcases page_cases lookups now store request rfl rfl rfl with
    ⟨_, outcome⟩ | ⟨_, document, hit, _⟩ | ⟨_, _, failure, failed, outcome⟩ |
    ⟨_, _, document, built, outcome⟩
  · rw [outcome]
    cases (build lookups request).result <;> rfl
  · cases (get_disabled disabled now _).symm.trans hit
  · rw [outcome, failed]
    rfl
  · rw [outcome, built]
    rfl

end Disabled

section Runs

structure PageVisit where
  now : Nat
  request : PageRequest

variable {settings : CacheSettings} {site : Site.Contents} {past : List PageVisit} {visit : PageVisit}

def PageVisit.asked (visit : PageVisit) : Descriptor :=
  visit.request.descriptor

def PageVisit.call (site : Site.Contents) (visit : PageVisit) : Call :=
  .page site.lookups visit.now visit.request

def PageVisit.retagged (visit : PageVisit) (tags : Option (List String)) : PageVisit :=
  ⟨visit.now, visit.request.setTags tags⟩

/-- What a visit is answered, byte for byte, on a service that has seen the others. -/
def pageAnswer (settings : CacheSettings) (site : Site.Contents) (past : List PageVisit)
    (visit : PageVisit) : Except Failure Document :=
  (page site.lookups visit.now (after settings (past.map (PageVisit.call site))).pages
    visit.request).result.map (·.document)

def withoutPages (settings : CacheSettings) : CacheSettings :=
  { settings with pages := settings.pages.disabled }

/-- The request was read from an address of the page mount point, and what it has kept from earlier
visits, if anything, are answers of the site. -/
structure PageVisit.Classified (site : Site.Contents) (visit : PageVisit) : Prop where
  accepted : ∃ tagLimit raw, (Request.Classifier.page tagLimit).classify raw = .ok visit.asked
  honest : visit.request.Honest site.lookups

theorem PageVisit.Classified.published (classified : visit.Classified site) :
    visit.asked.preview = none := by
  obtain ⟨_, _, accepted⟩ := classified.accepted
  exact Request.classified_preview accepted

def DigestsApart (visits : List PageVisit) : Prop :=
  ∀ left ∈ visits, ∀ right ∈ visits,
    left.asked.parameters.digest = right.asked.parameters.digest →
      left.asked.parameters = right.asked.parameters

theorem same_parameters_eq {left right : Query} (same : Cache.SameParameters left right)
    (apart : left.digest = right.digest → left = right) : left = right := by
  rcases same with ⟨leftEmpty, rightEmpty⟩ | ⟨_, _, digests⟩
  · obtain ⟨leftEntries, _, _⟩ := left
    obtain ⟨rightEntries, _, _⟩ := right
    cases List.isEmpty_iff.mp leftEmpty
    cases List.isEmpty_iff.mp rightEmpty
    rfl
  · exact apart digests

theorem uncached_answer (settings : CacheSettings) (site : Site.Contents) (past : List PageVisit)
    (visit : PageVisit) :
    pageAnswer (withoutPages settings) site past visit = (build site.lookups visit.request).result :=
  page_disabled (after_enabled (withoutPages settings) _) site.lookups visit.now visit.request

theorem retagged_honest {request : PageRequest} {lookups : Site.Lookups}
    (honest : request.Honest lookups) (tags : Option (List String)) :
    (request.setTags tags).Honest lookups :=
  ⟨honest.entry, honest.category, honest.template, honest.theme⟩

-- The answer is built for this visit or, when the cache had it, was built for one with its key.
theorem answer_of_same_page (classified : ∀ seen ∈ past ++ [visit], seen.Classified site) :
    ∃ origin ∈ past ++ [visit], Cache.SamePage origin.asked visit.asked ∧
      pageAnswer settings site past visit = (build site.lookups (.fresh origin.asked)).result := by
  have now : visit ∈ past ++ [visit] := List.mem_append_right past List.mem_cons_self
  have own : Cache.SamePage visit.asked visit.asked := Cache.identity_eq_iff.mp rfl
  have onSite : ∀ call ∈ past.map (PageVisit.call site), call.Over site := by
    intro call member
    obtain ⟨seen, earlier, rfl⟩ := List.mem_map.mp member
    exact ⟨rfl, (classified seen (List.mem_append_left [visit] earlier)).honest⟩
  have fresh := build_result (classified visit now).honest
  unfold pageAnswer
  rcases page_cases site.lookups visit.now (after settings (past.map (PageVisit.call site))).pages
    visit.request rfl rfl rfl with
    ⟨_, outcome⟩ | ⟨_, document, hit, outcome⟩ | ⟨_, _, failure, failed, outcome⟩ |
    ⟨_, _, document, built, outcome⟩
  · refine ⟨visit, now, own, ?_⟩
    rw [outcome, PageVisit.asked, ← fresh]
    cases (build site.lookups visit.request).result <;> rfl
  · obtain ⟨_, origin, called, _, keyed, built⟩ :=
      stored_origin onSite ((stored_pages_built settings _).hit hit)
    obtain ⟨seen, earlier, same⟩ := List.mem_map.mp called
    cases same
    refine ⟨seen, List.mem_append_left [visit] earlier,
      Cache.identity_eq_iff.mp (Cache.identity_of_page_key keyed), ?_⟩
    rw [outcome]
    exact built.symm
  · refine ⟨visit, now, own, ?_⟩
    rw [outcome, PageVisit.asked, ← fresh, failed]
    rfl
  · refine ⟨visit, now, own, ?_⟩
    rw [outcome, PageVisit.asked, ← fresh, built]
    rfl

/-- Each answer is byte for byte what a service without page cache returns, up to the order in which the
tags are listed and to how often each of them is: the list may be that of another visit of the run that
asked for the same page. Only the views that are about tags have one. -/
theorem page_answer_up_to_tag_order (settings : CacheSettings) (site : Site.Contents)
    (past : List PageVisit) (visit : PageVisit)
    (classified : ∀ seen ∈ past ++ [visit], seen.Classified site)
    (apart : DigestsApart (past ++ [visit])) :
    ∃ origin ∈ past ++ [visit],
      pageAnswer settings site past visit =
        pageAnswer (withoutPages settings) site past (visit.retagged origin.asked.tags) ∧
      Cache.SamePage origin.asked visit.asked ∧
      (origin.asked.tags = visit.asked.tags ∨ visit.asked.context = .tags ∨
        visit.asked.context = .page) := by
  have now : visit ∈ past ++ [visit] := List.mem_append_right past List.mem_cons_self
  obtain ⟨origin, member, same, answered⟩ := answer_of_same_page classified
  refine ⟨origin, member, ?_, same, ?_⟩
  · have parameters := same_parameters_eq same.parameters (apart origin member visit now)
    have alike := shown_of_same_page same (classified origin member).published
      (classified visit now).published parameters
    have honest := retagged_honest (classified visit now).honest origin.asked.tags
    rw [uncached_answer, answered, ← build_shown, alike, build_shown]
    exact (build_result honest).symm
  · obtain ⟨_, _, originAccepted⟩ := (classified origin member).accepted
    obtain ⟨_, _, accepted⟩ := (classified visit now).accepted
    rcases Request.classified_tags accepted with untagged | page | tags
    · rcases Request.classified_tags originAccepted with alsoUntagged | page | tags
      · exact .inl (alsoUntagged.trans untagged.symm)
      · exact .inr (.inr (same.context.symm.trans page))
      · exact .inr (.inl (same.context.symm.trans tags))
    · exact .inr (.inr page)
    · exact .inr (.inl tags)

-- The page of two tags is visited twice, and the second visit lists them the other way round.
theorem reordered_tags_answer :
    let site : Site.Contents := ⟨[], [⟨"blog", "Blog", none, "basic", [], [], []⟩]⟩
    let settings : CacheSettings := ⟨.pages, .planet, .salts⟩
    let view : Descriptor := { Descriptor.home "blog" true with context := .tags, contentHit := true }
    let first : PageVisit := ⟨0, .fresh { view with tags := some ["rust", "java"] }⟩
    let second : PageVisit := ⟨0, .fresh { view with tags := some ["java", "rust"] }⟩
    ∃ origin ∈ [first, second],
      pageAnswer settings site [first] second =
        pageAnswer (withoutPages settings) site [first] (second.retagged origin.asked.tags) ∧
      Cache.SamePage origin.asked second.asked ∧
      (origin.asked.tags = second.asked.tags ∨ second.asked.context = .tags ∨
        second.asked.context = .page) := by
  intro site settings view first second
  have firstClassified : first.Classified site :=
    ⟨⟨3, ⟨"/roller-ui/rendering/page", some "/blog/tags/rust+java", .empty, none⟩, by decide +kernel⟩,
      PageRequest.fresh_honest _ _⟩
  have secondClassified : second.Classified site :=
    ⟨⟨3, ⟨"/roller-ui/rendering/page", some "/blog/tags/java+rust", .empty, none⟩, by decide +kernel⟩,
      PageRequest.fresh_honest _ _⟩
  have classified : ∀ seen ∈ [first] ++ [second], seen.Classified site := by
    simpa using And.intro firstClassified secondClassified
  have apart : DigestsApart ([first] ++ [second]) := by
    intro left leftSeen right rightSeen _
    have plain : ∀ seen ∈ [first] ++ [second], seen.asked.parameters = .empty := by
      simpa using ⟨rfl, rfl⟩
    rw [plain left leftSeen, plain right rightSeen]
  exact page_answer_up_to_tag_order settings site [first] second classified apart

theorem second_answer {first second : PageVisit} {document : Document}
    (enabled : settings.pages.enabled = true) (soon : second.now - first.now < settings.pages.timeout)
    (published : first.asked.isPreview = false) (alsoPublished : second.asked.isPreview = false)
    (keyed : Cache.pageKey second.asked = Cache.pageKey first.asked)
    (built : (build site.lookups first.request).result = .ok document) :
    pageAnswer settings site [first] second = .ok document := by
  have opened : (Caches.new settings).pages.isEnabled = true := (after_enabled settings []).trans enabled
  have missed (key : String) : ((Caches.new settings).pages.get first.now key).result = none := by
    simp [Caches.new, Cache.Store.new, enabled, Cache.Store.get, Cache.Store.locked, Cache.Shelf.find?]
  have remembered := page_remembered site.lookups site.lookups published alsoPublished keyed opened soon
    (missed _) built
  exact congrArg (Except.map (·.document)) remembered

theorem tags_of_document {left right : PageView}
    (same : Document.ofJson left.toJson = .ofJson right.toJson) :
    Json.ofTexts? left.descriptor.tags = Json.ofTexts? right.descriptor.tags := by
  have members := Json.record.inj (document_of_json_inj same)
  exact Option.some.inj (congrArg (List.lookup "tags") members)

/-- The order of the tags is not part of the key: here the second visitor is sent the view that lists them as
the first one did, and not the view of its own that a service without page cache sends. -/
theorem tags_listed_as_first_asked :
    let weblog : Site.Weblog := ⟨"blog", "Blog", none, "basic", [], [], []⟩
    let site : Site.Contents := ⟨[], [weblog]⟩
    let settings : CacheSettings := ⟨.pages, .planet, .salts⟩
    let raw (path : String) : RawRequest := ⟨"/roller-ui/rendering/page", some path, .empty, none⟩
    ∃ first second : Descriptor,
      (Request.Classifier.page 3).classify (raw "/blog/tags/rust+java") = .ok first ∧
      (Request.Classifier.page 3).classify (raw "/blog/tags/java+rust") = .ok second ∧
      first.parameters = second.parameters ∧
      pageAnswer settings site [⟨0, .fresh first⟩] ⟨0, .fresh second⟩ =
        pageAnswer (withoutPages settings) site [] ⟨0, .fresh first⟩ ∧
      pageAnswer settings site [⟨0, .fresh first⟩] ⟨0, .fresh second⟩ ≠
        pageAnswer (withoutPages settings) site [⟨0, .fresh first⟩] ⟨0, .fresh second⟩ := by
  intro weblog site settings raw
  let view : Descriptor := { Descriptor.home "blog" true with context := .tags, contentHit := true }
  let first : Descriptor := { view with tags := some ["rust", "java"] }
  let second : Descriptor := { view with tags := some ["java", "rust"] }
  have shows (tags : List String) :
      (build site.lookups (.fresh { view with tags := some tags })).result =
        .ok (.ofJson (viewOf weblog site.lookups { view with tags := some tags }).toJson) := rfl
  have keyed : Cache.pageKey second = Cache.pageKey first := by decide +kernel
  have remembered : pageAnswer settings site [⟨0, .fresh first⟩] ⟨0, .fresh second⟩ =
      .ok (.ofJson (viewOf weblog site.lookups first).toJson) :=
    second_answer rfl (by decide) rfl rfl keyed (shows ["rust", "java"])
  refine ⟨first, second, by decide +kernel, by decide +kernel, rfl, ?_, ?_⟩
  · rw [remembered, uncached_answer, shows]
  · rw [remembered, uncached_answer, shows]
    intro same
    have lists := tags_of_document (Except.ok.inj same)
    simp [viewOf, first, Json.ofTexts?, Json.ofTexts] at lists

end Runs

end WeblogFront.Render
