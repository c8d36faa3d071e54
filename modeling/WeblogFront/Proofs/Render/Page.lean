import WeblogFront.Proofs.Cache.Store
import WeblogFront.Proofs.Text.Json
import WeblogFront.Render.Page

/-! What rendering a page can come to, and what a page that was built shows. -/
namespace WeblogFront.Render

theorem page_cases (lookups : Site.Lookups) (now : Nat) (store : Cache.Store Document)
    (request : PageRequest) {key : String} {found : Step (Cache.Store Document) (Option Document)}
    {built : Step PageRequest (Except Failure Document)}
    (keyed : Cache.pageKey request.descriptor = key) (looked : store.get now key = found)
    (rendered : build lookups request = built) :
    (request.descriptor.isPreview = true ∧
      page lookups now store request =
        ⟨⟨store, built.state⟩, built.result.map fun document => ⟨document, none, false⟩,
          visits request.descriptor ++ built.signals⟩) ∨
    (request.descriptor.isPreview = false ∧ ∃ document, found.result = some document ∧
      page lookups now store request =
        ⟨⟨found.state, request⟩, .ok ⟨document, some key, true⟩,
          visits request.descriptor ++ found.signals⟩) ∨
    (request.descriptor.isPreview = false ∧ found.result = none ∧ ∃ failure,
      built.result = .error failure ∧
      page lookups now store request =
        ⟨⟨found.state, built.state⟩, .error failure,
          visits request.descriptor ++ found.signals ++ built.signals⟩) ∨
    (request.descriptor.isPreview = false ∧ found.result = none ∧ ∃ document,
      built.result = .ok document ∧
      page lookups now store request =
        ⟨⟨(found.state.put now key document).state, built.state⟩, .ok ⟨document, some key, false⟩,
          visits request.descriptor ++ found.signals ++ built.signals ++
            (found.state.put now key document).signals⟩) := by
  subst keyed looked rendered
  unfold page
  cases previewed : request.descriptor.isPreview with
  | true => exact .inl ⟨rfl, rfl⟩
  | false =>
    refine .inr ?_
    cases found : (store.get now (Cache.pageKey request.descriptor)).result with
    | some document => exact .inl ⟨rfl, document, rfl, by simp [found]⟩
    | none =>
      refine .inr ?_
      cases built : (build lookups request).result with
      | error failure => exact .inl ⟨rfl, rfl, failure, rfl, by simp [found, built]⟩
      | ok document => exact .inr ⟨rfl, rfl, document, rfl, by simp [found, built]⟩

theorem page_request (lookups : Site.Lookups) (now : Nat) (store : Cache.Store Document)
    (request : PageRequest) :
    (page lookups now store request).state.request = request ∨
      (page lookups now store request).state.request = (build lookups request).state := by
  rcases page_cases lookups now store request rfl rfl rfl with
    ⟨_, outcome⟩ | ⟨_, _, _, outcome⟩ | ⟨_, _, _, _, outcome⟩ | ⟨_, _, _, _, outcome⟩
  · exact .inr (by rw [outcome])
  · exact .inl (by rw [outcome])
  · exact .inr (by rw [outcome])
  · exact .inr (by rw [outcome])

theorem preview_passes_cache (lookups : Site.Lookups) (now : Nat) (store : Cache.Store Document)
    (request : PageRequest) (previewed : request.descriptor.isPreview = true) :
    (page lookups now store request).state.store = store := by
  rcases page_cases lookups now store request rfl rfl rfl with
    ⟨_, outcome⟩ | ⟨published, _⟩ | ⟨published, _⟩ | ⟨published, _⟩
  · rw [outcome]
  · cases previewed.symm.trans published
  · cases previewed.symm.trans published
  · cases previewed.symm.trans published

theorem preview_built (lookups : Site.Lookups) (now : Nat) (store : Cache.Store Document)
    (request : PageRequest) (previewed : request.descriptor.isPreview = true) :
    (page lookups now store request).result =
      (build lookups request).result.map fun document => ⟨document, none, false⟩ := by
  unfold page
  simp only [previewed, if_true]

theorem page_remembered (lookups changed : Site.Lookups) {now later : Nat}
    {store : Cache.Store Document} {request again : PageRequest} {document : Document}
    (published : request.descriptor.isPreview = false) (alsoPublished : again.descriptor.isPreview = false)
    (keyed : Cache.pageKey again.descriptor = Cache.pageKey request.descriptor)
    (enabled : store.isEnabled = true) (alive : later - now < store.timeout)
    (missed : (store.get now (Cache.pageKey request.descriptor)).result = none)
    (built : (build lookups request).result = .ok document) :
    (page changed later (page lookups now store request).state.store again).result =
      .ok ⟨document, some (Cache.pageKey request.descriptor), true⟩ := by
  let looked := store.get now (Cache.pageKey request.descriptor)
  have stored : (page lookups now store request).state.store =
      (looked.state.put now (Cache.pageKey request.descriptor) document).state := by
    simp [page, published, missed, built, looked]
  have hit : ((looked.state.put now (Cache.pageKey request.descriptor) document).state.get later
      (Cache.pageKey request.descriptor)).result = some document := by
    apply Cache.Store.get_put
    · exact (Cache.Store.enabled_locked _ _ _ _).trans enabled
    · rw [show looked.state.timeout = store.timeout from Cache.Store.timeout_locked _ _ _ _]
      exact alive
  rw [stored]
  simp [page, alsoPublished, keyed, hit]

theorem built_within_view {weblog : Site.Weblog} {lookups : Site.Lookups} {request : PageRequest}
    {document : Document} (built : (buildWithin weblog lookups request).result = .ok document) :
    ∃ view : PageView, document = .ofJson view.toJson ∧ view.descriptor = request.descriptor ∧
      view.weblog = weblog := by
  unfold buildWithin at built
  dsimp only at built
  split at built
  · cases built
  · split at built
    · cases built
    · cases built
      exact ⟨_, rfl, rfl, rfl⟩

theorem built_within {lookups : Site.Lookups} {request : PageRequest} {document : Document}
    (built : (build lookups request).result = .ok document) :
    ∃ weblog, lookups.weblog request.descriptor.handle = .ok (some weblog) ∧
      (buildWithin weblog lookups request).result = .ok document ∧
      (build lookups request).state = (buildWithin weblog lookups request).state ∧
      (build lookups request).signals = .asked (.weblog request.descriptor.handle) ::
        (buildWithin weblog lookups request).signals := by
  unfold build at built ⊢
  cases answer : lookups.weblog request.descriptor.handle with
  | error failure => simp [answer] at built
  | ok weblog =>
    cases weblog with
    | none => simp [answer] at built
    | some weblog =>
      simp only [answer] at built ⊢
      exact ⟨weblog, rfl, built, rfl, rfl⟩

theorem built_view {lookups : Site.Lookups} {request : PageRequest} {document : Document}
    (built : (build lookups request).result = .ok document) :
    ∃ view : PageView, document = .ofJson view.toJson ∧ view.descriptor = request.descriptor ∧
      lookups.weblog request.descriptor.handle = .ok (some view.weblog) := by
  obtain ⟨weblog, found, within, _, _⟩ := built_within built
  obtain ⟨view, shown, asked, rfl⟩ := built_within_view within
  exact ⟨view, shown, asked, found⟩

theorem document_of_json_inj {left right : Json} (same : Document.ofJson left = .ofJson right) :
    left = right :=
  Json.compact_injective (congrArg Document.body same)

/-- The document is the text of a record with these members, and of nothing else. -/
def Spells (document : Document) (members : List (String × Json)) : Prop :=
  ∀ json, document = .ofJson json ↔ json = .record members

theorem record_spells (members : List (String × Json)) :
    Spells (.ofJson (.record members)) members := by
  intro json
  constructor
  · intro same
    exact (document_of_json_inj same).symm
  · rintro rfl
    rfl

structure ShowsRequest (members : List (String × Json)) (asked : Descriptor) : Prop where
  context : members.lookup "context" = some (.text asked.context.name)
  locale : members.lookup "locale" = some (.ofText? asked.locale)
  anchor : members.lookup "anchor" = some (.ofText? asked.anchor)
  date : members.lookup "date" = some (.ofText? asked.date)
  category : members.lookup "category_name" = some (.ofText? asked.category)
  customPage : members.lookup "page_name" = some (.ofText? asked.customPage)
  pageNumber : members.lookup "page_number" = some (.number asked.pageNumber)
  user : members.lookup "user" = some (.ofText? asked.user)

theorem view_shows_request (view : PageView) :
    ∃ members, view.toJson = .record members ∧ ShowsRequest members view.descriptor :=
  ⟨_, rfl, by constructor <;> rfl⟩

theorem built_shows_request {lookups : Site.Lookups} {request : PageRequest} {document : Document}
    (built : (build lookups request).result = .ok document) :
    ∃ members, Spells document members ∧ ShowsRequest members request.descriptor := by
  obtain ⟨view, rfl, asked, _⟩ := built_view built
  obtain ⟨members, record, shows⟩ := view_shows_request view
  rw [record]
  exact ⟨members, record_spells members, asked ▸ shows⟩

end WeblogFront.Render
