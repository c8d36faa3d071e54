import WeblogFront.Proofs.Cache.PageKey
import WeblogFront.Proofs.Cache.Store
import WeblogFront.Proofs.Render.Page
import WeblogFront.Render.Caches
import WeblogFront.Render.Planet
import WeblogFront.Site.Contents
import Mathlib.Data.List.Induction

/-! Runs of one service. Renders, removals and clears come in any order, each render with lookups and a
clock of its own, so that a site may change or be out of reach from one call to the next. Every page
that is stored was built by a call of the run, for a request with the key it is stored under; keys tell
requests apart, and so a visitor is served what was built for the same request. -/
namespace WeblogFront.Render

inductive Call where
  | page (lookups : Site.Lookups) (now : Nat) (request : PageRequest)
  | planet (clock : Clock) (request : PlanetRequest)
  | planetUpdated (clock : Clock) (moment : Moment)
  | removePage (key : String)
  | removePlanet (key : String)
  | clearPages
  | clearPlanet

def Call.run (caches : Caches) : Call → Caches
  | .page lookups now request =>
    { caches with pages := (Render.page lookups now caches.pages request).state.store }
  | .planet clock request =>
    { caches with planet := (Render.planet clock caches.planet request).state }
  | .planetUpdated clock moment => { caches with planet := caches.planet.markUpdated clock moment }
  | .removePage key => { caches with pages := (caches.pages.remove key).state }
  | .removePlanet key => { caches with planet := (caches.planet.remove key).state }
  | .clearPages => { caches with pages := caches.pages.clear.state }
  | .clearPlanet => { caches with planet := caches.planet.clear.state }

def after (settings : CacheSettings) (calls : List Call) : Caches :=
  calls.foldl Call.run (.new settings)

theorem after_append (settings : CacheSettings) (past : List Call) (call : Call) :
    after settings (past ++ [call]) = call.run (after settings past) := by
  rw [after, List.foldl_append]
  rfl

section Provenance

/-- One of the calls built the document, for a page request with this key that was not a preview. -/
def BuiltUnder (calls : List Call) (key : String) (document : Document) : Prop :=
  ∃ lookups now request, Call.page lookups now request ∈ calls ∧
    request.descriptor.isPreview = false ∧ Cache.pageKey request.descriptor = key ∧
    (build lookups request).result = .ok document

theorem BuiltUnder.later {past : List Call} {key : String} {document : Document}
    (built : BuiltUnder past key document) (call : Call) :
    BuiltUnder (past ++ [call]) key document := by
  obtain ⟨lookups, now, request, called, rest⟩ := built
  exact ⟨lookups, now, request, List.mem_append_left [call] called, rest⟩

-- Only a page that was built in this very call enters the store.
theorem page_keeps_origin {past : List Call} {lookups : Site.Lookups} {now : Nat}
    {store : Cache.Store Document} {request : PageRequest} (keeps : store.Keeps (BuiltUnder past)) :
    (page lookups now store request).state.store.Keeps
      (BuiltUnder (past ++ [.page lookups now request])) := by
  have older := keeps.mono fun _ _ built => built.later (.page lookups now request)
  rcases page_cases lookups now store request rfl rfl rfl with
    ⟨_, outcome⟩ | ⟨_, document, _, outcome⟩ | ⟨_, _, failure, _, outcome⟩ |
    ⟨shared, _, document, built, outcome⟩
  · rw [outcome]
    exact older
  · rw [outcome]
    exact older.get now _
  · rw [outcome]
    exact older.get now _
  · rw [outcome]
    have called : Call.page lookups now request ∈ past ++ [.page lookups now request] :=
      List.mem_append_right past List.mem_cons_self
    exact (older.get now _).put ⟨lookups, now, request, called, shared, rfl, built⟩

theorem call_keeps_origin {past : List Call} {caches : Caches}
    (keeps : caches.pages.Keeps (BuiltUnder past)) (call : Call) :
    (call.run caches).pages.Keeps (BuiltUnder (past ++ [call])) := by
  have older := keeps.mono fun _ _ built => built.later call
  cases call with
  | page lookups now request => exact page_keeps_origin keeps
  | planet clock request => exact older
  | planetUpdated clock moment => exact older
  | removePage key => exact older.remove key
  | removePlanet key => exact older
  | clearPages => exact older.clear
  | clearPlanet => exact older

theorem stored_pages_built (settings : CacheSettings) (calls : List Call) :
    (after settings calls).pages.Keeps (BuiltUnder calls) := by
  induction calls using List.reverseRecOn with
  | nil => exact Cache.Store.keeps_new _ _ _
  | append_singleton past call ih =>
    rw [after_append]
    exact call_keeps_origin ih call

end Provenance

section Isolation

-- The key holds the anchor that a preview would put first; without preview it is the one of the path.
theorem entry_anchor_published {asked : Descriptor} (published : asked.isPreview = false) :
    asked.entryAnchor = asked.anchor := by
  have absent : asked.preview = none := by simpa [Descriptor.isPreview] using published
  simp [Descriptor.entryAnchor, absent]

theorem preview_theme_published {asked : Descriptor} (published : asked.isPreview = false) :
    asked.previewTheme = none := by
  have absent : asked.preview = none := by simpa [Descriptor.isPreview] using published
  simp [Descriptor.previewTheme, absent]

theorem ShowsRequest.transfer {members : List (String × Json)} {origin asked : Descriptor}
    (shows : ShowsRequest members origin) (same : Cache.SamePage origin asked)
    (published : origin.isPreview = false) (alsoPublished : asked.isPreview = false) :
    ShowsRequest members asked where
  context := same.context ▸ shows.context
  locale := same.locale ▸ shows.locale
  anchor := by
    have anchors := same.entry_anchor
    rw [entry_anchor_published published, entry_anchor_published alsoPublished] at anchors
    exact anchors ▸ shows.anchor
  date := same.date ▸ shows.date
  category := same.category ▸ shows.category
  customPage := same.customPage ▸ shows.customPage
  pageNumber := same.pageNumber ▸ shows.pageNumber
  user := same.visible_user ▸ shows.user

-- A page that is answered was built for this request or, when the cache had it, for one with its key.
theorem answer_built {settings : CacheSettings} {past : List Call} {lookups : Site.Lookups} {now : Nat}
    {request : PageRequest} {rendered : Rendered}
    (answered : (page lookups now (after settings past).pages request).result = .ok rendered) :
    ∃ builtLookups builtNow origin,
      Call.page builtLookups builtNow origin ∈ past ++ [.page lookups now request] ∧
      (build builtLookups origin).result = .ok rendered.document ∧
      (origin = request ∨ origin.descriptor.isPreview = false ∧ request.descriptor.isPreview = false ∧
        Cache.SamePage origin.descriptor request.descriptor) := by
  have called : Call.page lookups now request ∈ past ++ [.page lookups now request] :=
    List.mem_append_right past List.mem_cons_self
  rcases page_cases lookups now (after settings past).pages request rfl rfl rfl with
    ⟨_, outcome⟩ | ⟨published, document, hit, outcome⟩ | ⟨_, _, failure, _, outcome⟩ |
    ⟨_, _, document, built, outcome⟩
  · rw [outcome] at answered
    cases built : (build lookups request).result with
    | error failure => simp [built, Except.map] at answered
    | ok document =>
      rw [built] at answered
      cases answered
      exact ⟨lookups, now, request, called, built, .inl rfl⟩
  · rw [outcome] at answered
    cases answered
    obtain ⟨builtLookups, builtNow, origin, earlier, shared, keyed, built⟩ :=
      (stored_pages_built settings past).hit hit
    have same := Cache.identity_eq_iff.mp (Cache.identity_of_page_key keyed)
    exact ⟨builtLookups, builtNow, origin, List.mem_append_left _ earlier, built,
      .inr ⟨shared, published, same⟩⟩
  · rw [outcome] at answered
    cases answered
  · rw [outcome] at answered
    cases answered
    exact ⟨lookups, now, request, called, built, .inl rfl⟩

/-- Whatever happened before, a page that is returned shows the request that it answers; and the call
that built it, this one or one before, was made for the same weblog and the same user. -/
theorem page_shows_own_request (settings : CacheSettings) (past : List Call) (lookups : Site.Lookups)
    (now : Nat) (request : PageRequest) (rendered : Rendered)
    (answered : (page lookups now (after settings past).pages request).result = .ok rendered) :
    (∃ members, Spells rendered.document members ∧ ShowsRequest members request.descriptor) ∧
    ∃ builtLookups builtNow origin,
      Call.page builtLookups builtNow origin ∈ past ++ [.page lookups now request] ∧
      (build builtLookups origin).result = .ok rendered.document ∧
      origin.descriptor.handle = request.descriptor.handle ∧
      origin.descriptor.user = request.descriptor.user := by
  obtain ⟨builtLookups, builtNow, origin, called, built, own | ⟨shared, published, same⟩⟩ :=
    answer_built answered
  · subst own
    exact ⟨built_shows_request built, builtLookups, builtNow, origin, called, built, rfl, rfl⟩
  · obtain ⟨members, spells, shows⟩ := built_shows_request built
    exact ⟨⟨members, spells, shows.transfer same shared published⟩, builtLookups, builtNow, origin,
      called, built, same.handle, same.user⟩

-- The second visit is answered from the cache, for by then the weblog is gone.
theorem cached_page_shows_own_request :
    let site : Site.Contents := ⟨[], [⟨"blog", "Blog", none, "basic", [], [], []⟩]⟩
    let visit : PageRequest := .fresh { Descriptor.home "blog" true with principal := some "alice" }
    let settings : CacheSettings := ⟨.pages, .planet, .salts⟩
    ∃ rendered,
      (page Site.Contents.empty.lookups 5 (after settings [.page site.lookups 0 visit]).pages
        visit).result = .ok rendered ∧
      rendered.hit = true ∧
      ∃ members, Spells rendered.document members ∧
        members.lookup "user" = some (.text "alice") := by
  intro site visit settings
  obtain ⟨document, built⟩ : ∃ document, (build site.lookups visit).result = .ok document := ⟨_, rfl⟩
  have answered : (page Site.Contents.empty.lookups 5
      (after settings [.page site.lookups 0 visit]).pages visit).result =
        .ok ⟨document, some (Cache.pageKey visit.descriptor), true⟩ :=
    page_remembered site.lookups Site.Contents.empty.lookups rfl rfl rfl rfl (by decide) rfl built
  obtain ⟨⟨members, spells, shows⟩, _⟩ := page_shows_own_request settings
    [.page site.lookups 0 visit] Site.Contents.empty.lookups 5 visit _ answered
  exact ⟨_, answered, rfl, members, spells, shows.user⟩

end Isolation

end WeblogFront.Render
