import WeblogFront.Proofs.Render.Build
import WeblogFront.Proofs.Render.History

/-! Sites that are out of reach now and then. A lookup that fails reads as absent. What a view must have is
missed, and nothing is stored; what it can do without, the category and mostly the entry, is left out,
and the page is stored as if the site had no such record. So a failure of a moment is shown to everybody
who asks for the page until it is gone from the cache; but nothing else is ever lost that way. -/
namespace WeblogFront

section Faltering

/-- The answer that the site would give, or the news that it cannot be reached. -/
def Site.Falters {α : Type} (settled given : Site.Answer α) : Prop :=
  given = settled ∨ ∃ failure, given = .error failure

structure Site.Lookups.Falter (site lookups : Site.Lookups) : Prop where
  weblog : ∀ handle, Site.Falters (site.weblog handle) (lookups.weblog handle)
  entry : ∀ handle anchor, Site.Falters (site.entry handle anchor) (lookups.entry handle anchor)
  category : ∀ handle name, Site.Falters (site.category handle name) (lookups.category handle name)
  template : ∀ handle link, Site.Falters (site.template handle link) (lookups.template handle link)
  theme : ∀ name, Site.Falters (site.theme name) (lookups.theme name)

theorem Site.Lookups.falter_none (site : Site.Lookups) : site.Falter site where
  weblog _ := .inl rfl
  entry _ _ := .inl rfl
  category _ _ := .inl rfl
  template _ _ := .inl rfl
  theme _ := .inl rfl

end Faltering

namespace Memo

section Cells

variable {α : Type} {site lookups : String → Site.Answer α} {name : Option String} {cell : Memo α}

/-- Empty, or with what came of the question for the name: the answer of the site or a failure. -/
def Tried (site : String → Site.Answer α) (name : Option String) (cell : Memo α) : Prop :=
  cell = .unresolved ∨
    ∃ given, name = some given ∧ (cell = .ofAnswer (site given) ∨ ∃ failure, cell = .failed failure)

theorem Tried.named (tried : cell.Tried site name) {value : α} (kept : cell = .found value) :
    ∃ given, name = some given := by
  rcases tried with empty | ⟨given, named, _⟩
  · cases kept.symm.trans empty
  · exact ⟨given, named⟩

theorem Tried.ask_state (tried : cell.Tried site name)
    (falters : ∀ given, Site.Falters (site given) (lookups given)) (what : String)
    (question : String → Site.Question) : (cell.ask what question lookups name).state.Tried site name := by
  rcases ask_cases what question lookups name cell with ⟨same, _⟩ | ⟨_, given, named, filled, _⟩
  · rw [same]
    exact tried
  · rw [filled]
    refine .inr ⟨given, named, ?_⟩
    rcases falters given with settled | ⟨failure, failed⟩
    · exact .inl (congrArg ofAnswer settled)
    · exact .inr ⟨failure, congrArg ofAnswer failed⟩

theorem Tried.ask_result (tried : cell.Tried site name)
    (falters : ∀ given, Site.Falters (site given) (lookups given)) (what : String)
    (question : String → Site.Question) :
    let step := cell.ask what question lookups name
    step.result = record site name ∨ step.result = none ∧ step.state.failure? ≠ none := by
  cases name with
  | none => exact .inl rfl
  | some given =>
    rcases tried with rfl | ⟨_, same, answered | ⟨failure, rfl⟩⟩
    · change (ofAnswer (lookups given)).value? = _ ∨ (ofAnswer (lookups given)).value? = none ∧
        (ofAnswer (lookups given)).failure? ≠ none
      rcases falters given with settled | ⟨failure, failed⟩
      · rw [settled]
        exact .inl rfl
      · rw [failed]
        exact .inr ⟨rfl, Option.some_ne_none failure⟩
    · cases same
      rw [answered]
      exact .inl (congrArg Step.result (resolve_answered what given _ (site given) (lookups given)))
    · exact .inr ⟨rfl, Option.some_ne_none failure⟩

theorem ask_reports {what label key : String} {question : String → Site.Question}
    {failure : Site.LookupFailure}
    (reported : .lookupFailed label key failure ∈ (cell.ask what question lookups name).signals) :
    label = what ∧ name ≠ none ∧ (cell.ask what question lookups name).result = none := by
  cases name with
  | none => cases reported
  | some given =>
    cases cell with
    | unresolved =>
      change _ ∈ .asked (question given) :: report what given (lookups given) at reported
      change _ ∧ _ ∧ (ofAnswer (lookups given)).value? = none
      cases answer : lookups given with
      | ok found =>
        rw [answer] at reported
        cases List.mem_singleton.mp reported
      | error other =>
        rw [answer] at reported
        rcases List.mem_cons.mp reported with asked | told
        · cases asked
        · cases List.mem_singleton.mp told
          exact ⟨rfl, Option.some_ne_none _, rfl⟩
    | found value => cases reported
    | missing => cases reported
    | failed other => cases reported

end Cells

end Memo

namespace PageRequest

structure Tried (site : Site.Lookups) (request : PageRequest) : Prop where
  entry : request.entryCell.Tried (site.entry request.descriptor.handle) request.descriptor.entryAnchor
  category : request.categoryCell.Tried (site.category request.descriptor.handle)
    request.descriptor.category
  template : request.templateCell.Tried (site.template request.descriptor.handle)
    request.descriptor.customPage
  theme : request.themeCell.Tried site.theme request.descriptor.previewTheme

theorem fresh_tried (site : Site.Lookups) (descriptor : Descriptor) : (fresh descriptor).Tried site :=
  ⟨.inl rfl, .inl rfl, .inl rfl, .inl rfl⟩

section Getters

variable {site lookups : Site.Lookups} {request : PageRequest}

theorem Tried.entry_ask (tried : request.Tried site) :
    request.entry lookups =
      let step := request.entryCell.ask "entry" (.entry request.descriptor.handle)
        (lookups.entry request.descriptor.handle) request.descriptor.entryAnchor
      ⟨{ request with entryCell := step.state }, step.result, step.signals⟩ :=
  entry_ask_named fun _ kept => tried.entry.named kept

theorem Tried.entry_state (tried : request.Tried site) (falter : site.Falter lookups) :
    (request.entry lookups).state.Tried site := by
  rw [tried.entry_ask]
  exact { tried with entry := tried.entry.ask_state (falter.entry _) _ _ }

theorem Tried.category_state (tried : request.Tried site) (falter : site.Falter lookups) :
    (request.category lookups).state.Tried site := by
  rw [category_ask]
  exact { tried with category := tried.category.ask_state (falter.category _) _ _ }

theorem Tried.template_state (tried : request.Tried site) (falter : site.Falter lookups) :
    (request.template lookups).state.Tried site := by
  rw [template_ask]
  exact { tried with template := tried.template.ask_state (falter.template _) _ _ }

theorem Tried.theme_state (tried : request.Tried site) (falter : site.Falter lookups) :
    (request.theme lookups).state.Tried site := by
  rw [theme_ask]
  exact { tried with theme := tried.theme.ask_state falter.theme _ _ }

end Getters

end PageRequest

namespace Render

section Builds

variable {site lookups : Site.Lookups} {request : PageRequest} {weblog : Site.Weblog} {document : Document}

/-- The records of the site for a request, save for the two that a view can do without: the entry, where it
is not what the view is about, and the category. They may be lost on the way. -/
structure ShowsRecords (site : Site.Lookups) (asked : Descriptor) (entryLost categoryLost : Prop)
    (view : PageView) : Prop where
  weblog : site.weblog asked.handle = .ok (some view.weblog)
  entry : view.entry = Memo.record (site.entry asked.handle) asked.entryAnchor ∨
    view.entry = none ∧ asked.context ≠ .entry ∧ entryLost
  category : view.category = Memo.record (site.category asked.handle) asked.category ∨
    view.category = none ∧ categoryLost
  template : view.template = Memo.record (site.template asked.handle) asked.customPage
  theme : view.theme = Memo.record site.theme asked.previewTheme

/-- The failures that a page can be stored in spite of. -/
def Dispensable (asked : Descriptor) (what : String) : Prop :=
  what = "category" ∨ what = "entry" ∧ asked.context ≠ .entry

theorem within_tried (tried : request.Tried site) (falter : site.Falter lookups) :
    (buildWithin weblog lookups request).state.Tried site := by
  have throughEntry := tried.entry_state falter
  have throughTemplate := throughEntry.template_state falter
  rcases within_cases weblog lookups request rfl rfl rfl rfl with
    ⟨_, outcome⟩ | ⟨_, outcome⟩ | ⟨_, outcome⟩
  · rw [outcome]
    exact throughEntry
  · rw [outcome]
    exact throughTemplate
  · rw [outcome]
    exact (throughTemplate.category_state falter).theme_state falter

theorem build_tried (tried : request.Tried site) (falter : site.Falter lookups) :
    (build lookups request).state.Tried site := by
  unfold build
  dsimp only
  split
  · exact tried
  · exact tried
  · exact within_tried tried falter

theorem page_tried (tried : request.Tried site) (falter : site.Falter lookups) (now : Nat)
    (store : Cache.Store Document) : (page lookups now store request).state.request.Tried site := by
  rcases page_request lookups now store request with kept | built
  · rw [kept]
    exact tried
  · rw [built]
    exact build_tried tried falter

theorem within_goes (tried : request.Tried site)
    (built : (buildWithin weblog lookups request).result = .ok document) :
    let asked := request.descriptor
    let entry := request.entryCell.ask "entry" (.entry asked.handle) (lookups.entry asked.handle)
      asked.entryAnchor
    let template := request.templateCell.ask "template" (.template asked.handle)
      (lookups.template asked.handle) asked.customPage
    let category := request.categoryCell.ask "category" (.category asked.handle)
      (lookups.category asked.handle) asked.category
    let theme := request.themeCell.ask "theme" .theme lookups.theme asked.previewTheme
    let view : PageView :=
      ⟨weblog, asked, entry.result, category.result, template.result, theme.result⟩
    stop? view = none ∧ buildWithin weblog lookups request =
      ⟨⟨asked, entry.state, category.state, template.state, theme.state⟩, .ok (.ofJson view.toJson),
        entry.signals ++ template.signals ++ category.signals ++ theme.signals ++ [.rendered]⟩ := by
  have outcomes := within_cases weblog lookups request rfl rfl rfl rfl
  simp only [tried.entry_ask, PageRequest.template_ask, PageRequest.category_ask,
    PageRequest.theme_ask] at outcomes
  rcases outcomes with ⟨_, outcome⟩ | ⟨_, outcome⟩ | ⟨goes, outcome⟩
  · rw [outcome] at built
    cases built
  · rw [outcome] at built
    cases built
  · exact ⟨goes, outcome⟩

theorem stop_none {view : PageView} (goes : stop? view = none) :
    (view.descriptor.context = .entry → view.entry ≠ none) ∧
      (view.descriptor.customPage ≠ none → view.template ≠ none) := by
  unfold stop? at goes
  split at goes
  case isTrue => cases goes
  case isFalse entered =>
    split at goes
    case isTrue => cases goes
    case isFalse templated =>
      exact ⟨fun is lacks => entered ⟨is, lacks⟩, fun named lacks => templated ⟨named, lacks⟩⟩

theorem built_records (tried : request.Tried site) (falter : site.Falter lookups)
    (published : request.descriptor.isPreview = false)
    (built : (build lookups request).result = .ok document) :
    let kept := (build lookups request).state
    ∃ view : PageView, document = .ofJson view.toJson ∧
      ShowsRecords site request.descriptor (kept.entryCell.failure? ≠ none)
        (kept.categoryCell.failure? ≠ none) view := by
  intro kept
  obtain ⟨weblog, found, built, state, _⟩ := built_within built
  obtain ⟨goes, outcome⟩ := within_goes tried built
  obtain ⟨entered, templated⟩ := stop_none goes
  rw [outcome] at built
  rw [show kept = _ from state, outcome]
  refine ⟨_, (Except.ok.inj built).symm, ?_, ?_, ?_, ?_, ?_⟩
  · rcases falter.weblog request.descriptor.handle with settled | ⟨failure, failed⟩
    · exact settled.symm.trans found
    · cases failed.symm.trans found
  · rcases tried.entry.ask_result (falter.entry _) "entry" (.entry _) with shown | ⟨lost, failed⟩
    · exact .inl shown
    · exact .inr ⟨lost, fun is => entered is lost, failed⟩
  · exact tried.category.ask_result (falter.category _) "category" (.category _)
  · rcases tried.template.ask_result (falter.template _) "template" (.template _) with shown | ⟨lost, _⟩
    · exact shown
    · have unnamed : request.descriptor.customPage = none := by
        by_contra named
        exact templated named lost
      dsimp only
      rw [unnamed]
      rfl
  · dsimp only
    rw [preview_theme_published published]
    rfl

theorem built_failures (tried : request.Tried site) (published : request.descriptor.isPreview = false)
    (built : (build lookups request).result = .ok document) {what key : String}
    {failure : Site.LookupFailure}
    (reported : .lookupFailed what key failure ∈ (build lookups request).signals) :
    Dispensable request.descriptor what := by
  obtain ⟨weblog, found, built, _, signals⟩ := built_within built
  obtain ⟨goes, outcome⟩ := within_goes tried built
  obtain ⟨entered, templated⟩ := stop_none goes
  rw [signals, outcome] at reported
  simp only [List.mem_cons, List.mem_append, List.not_mem_nil, or_false, reduceCtorEq, false_or] at reported
  rcases reported with ((ofEntry | ofTemplate) | ofCategory) | ofTheme
  · obtain ⟨rfl, _, lost⟩ := Memo.ask_reports ofEntry
    exact .inr ⟨rfl, fun is => entered is lost⟩
  · obtain ⟨_, named, lost⟩ := Memo.ask_reports ofTemplate
    exact absurd lost (templated named)
  · exact .inl (Memo.ask_reports ofCategory).1
  · exact absurd (preview_theme_published published) (Memo.ask_reports ofTheme).2.1

theorem fresh_records {asked : Descriptor} (built : (build site (.fresh asked)).result = .ok document) :
    ∃ view : PageView, document = .ofJson view.toJson ∧ ShowsRecords site asked False False view := by
  obtain ⟨weblog, found, built, _, _⟩ := built_within built
  rw [within_result (PageRequest.fresh_honest site asked)] at built
  dsimp only at built
  split at built
  · cases built
  · exact ⟨_, (Except.ok.inj built).symm, found, .inl rfl, .inl rfl, rfl, rfl⟩

theorem ShowsRecords.mono {asked : Descriptor} {entryLost categoryLost entryGone categoryGone : Prop}
    {view : PageView} (shows : ShowsRecords site asked entryLost categoryLost view)
    (entry : entryLost → entryGone) (category : categoryLost → categoryGone) :
    ShowsRecords site asked entryGone categoryGone view :=
  { shows with
    entry := shows.entry.imp_right fun ⟨absent, elsewhere, lost⟩ => ⟨absent, elsewhere, entry lost⟩
    category := shows.category.imp_right fun ⟨absent, lost⟩ => ⟨absent, category lost⟩ }

-- The names that are looked up are all in the key.
theorem ShowsRecords.transfer {origin asked : Descriptor} {entryLost categoryLost : Prop} {view : PageView}
    (shows : ShowsRecords site origin entryLost categoryLost view) (same : Cache.SamePage origin asked)
    (published : origin.isPreview = false) (alsoPublished : asked.isPreview = false) :
    ShowsRecords site asked entryLost categoryLost view where
  weblog := same.handle ▸ shows.weblog
  entry := by
    rw [← same.handle, ← same.entry_anchor, ← same.context]
    exact shows.entry
  category := by
    rw [← same.handle, ← same.category]
    exact shows.category
  template := by
    rw [← same.handle, ← same.customPage]
    exact shows.template
  theme := by
    rw [shows.theme, preview_theme_published published, preview_theme_published alsoPublished]

end Builds

section Runs

variable {site : Site.Lookups} {settings : CacheSettings} {past : List Call} {asked : Descriptor}

/-- The call is made over a site that may be out of reach; a page request asks nobody else, and all that it
kept from earlier calls is answers and failures of the site. -/
def Call.Falters (site : Site.Lookups) : Call → Prop
  | .page lookups _ request => site.Falter lookups ∧ request.Tried site
  | _ => True

/-- A page of a run, built for its key in spite of failures, and missing no more than what failed. -/
def StoredDespite (site : Site.Lookups) (past : List Call) (key : String) (document : Document) : Prop :=
  ∃ lookups now origin, Call.page lookups now origin ∈ past ∧ origin.descriptor.isPreview = false ∧
    Cache.pageKey origin.descriptor = key ∧
    let step := build lookups origin
    step.result = .ok document ∧
    (∀ what name failure, .lookupFailed what name failure ∈ step.signals →
      Dispensable origin.descriptor what) ∧
    ∃ view : PageView, document = .ofJson view.toJson ∧
      ShowsRecords site origin.descriptor (step.state.entryCell.failure? ≠ none)
        (step.state.categoryCell.failure? ≠ none) view

/-- The page is out of the cache, and the call that built it was made for the same page by a request that
kept a failure. -/
def LostEarlier (past : List Call) (asked : Descriptor) (rendered : Rendered)
    (kept : PageRequest → Option Site.LookupFailure) : Prop :=
  rendered.hit = true ∧ ∃ lookups now origin, Call.page lookups now origin ∈ past ∧
    Cache.SamePage origin.descriptor asked ∧ (build lookups origin).result = .ok rendered.document ∧
    kept (build lookups origin).state ≠ none

theorem stored_despite (onSite : ∀ call ∈ past, call.Falters site) :
    (after settings past).pages.Keeps (StoredDespite site past) := by
  refine (stored_pages_built settings past).mono ?_
  rintro key document ⟨lookups, now, origin, called, published, keyed, built⟩
  obtain ⟨falter, tried⟩ := onSite _ called
  exact ⟨lookups, now, origin, called, published, keyed, built,
    fun _ _ _ reported => built_failures tried published built reported,
    built_records tried falter published built⟩

theorem fresh_shown (onSite : ∀ call ∈ past, call.Falters site) {now : Nat} {rendered : Rendered}
    (answered : (page site now (after settings past).pages (.fresh asked)).result = .ok rendered) :
    ∃ view : PageView, rendered.document = .ofJson view.toJson ∧
      ShowsRecords site asked
        (LostEarlier past asked rendered fun request => request.entryCell.failure?)
        (LostEarlier past asked rendered fun request => request.categoryCell.failure?) view := by
  rcases page_cases site now (after settings past).pages (.fresh asked) rfl rfl rfl with
    ⟨_, outcome⟩ | ⟨published, document, hit, outcome⟩ | ⟨_, _, failure, _, outcome⟩ |
    ⟨_, _, document, built, outcome⟩
  · rw [outcome] at answered
    cases built : (build site (.fresh asked)).result with
    | error failure => simp [built, Except.map] at answered
    | ok document =>
      rw [built] at answered
      cases answered
      obtain ⟨view, shown, records⟩ := fresh_records built
      exact ⟨view, shown, records.mono False.elim False.elim⟩
  · rw [outcome] at answered
    cases answered
    obtain ⟨lookups, builtNow, origin, called, shared, keyed, built, _, view, shown, records⟩ :=
      (stored_despite onSite).hit hit
    have same := Cache.identity_eq_iff.mp (Cache.identity_of_page_key keyed)
    refine ⟨view, shown, (records.transfer same shared published).mono ?_ ?_⟩
    · exact fun failed => ⟨rfl, lookups, builtNow, origin, called, same, built, failed⟩
    · exact fun failed => ⟨rfl, lookups, builtNow, origin, called, same, built, failed⟩
  · rw [outcome] at answered
    cases answered
  · rw [outcome] at answered
    cases answered
    obtain ⟨view, shown, records⟩ := fresh_records built
    exact ⟨view, shown, records.mono False.elim False.elim⟩

/-- Whichever lookups fail while a service runs, a page is stored only if nothing but its category, or an
entry that it is not about, was out of reach. When the site answers again, a fresh request is shown
what the site has, except for such a record that was lost when its page was stored. -/
theorem failures_outlast (settings : CacheSettings) (site : Site.Lookups) (past : List Call)
    (onSite : ∀ call ∈ past, call.Falters site) :
    (after settings past).pages.Keeps (StoredDespite site past) ∧
    ∀ now asked rendered,
      (page site now (after settings past).pages (.fresh asked)).result = .ok rendered →
      ∃ view : PageView, rendered.document = .ofJson view.toJson ∧
        ShowsRecords site asked
          (LostEarlier past asked rendered fun request => request.entryCell.failure?)
          (LostEarlier past asked rendered fun request => request.categoryCell.failure?) view :=
  ⟨stored_despite onSite, fun _ _ _ answered => fresh_shown onSite answered⟩

theorem shown_category {view other : PageView} (same : Document.ofJson view.toJson = .ofJson other.toJson) :
    Json.ofRecord? Site.Category.toJson view.category = .ofRecord? Site.Category.toJson other.category :=
  have members := Json.record.inj (document_of_json_inj same)
  Option.some.inj (congrArg (List.lookup "category") members)

-- The weblog could not be reached, so nothing was stored; at the second try it was the category, and from
-- then on the category is missing for everybody, though the site has it.
theorem lost_category_remembered :
    let blog : Site.Weblog := ⟨"blog", "Blog", none, "basic", [], [⟨"java", none⟩], []⟩
    let site := (Site.Contents.mk [] [blog]).lookups
    let away : Site.Lookups := { site with weblog := fun _ => .error (.backend "down") }
    let patchy : Site.Lookups := { site with category := fun _ _ => .error (.backend "down") }
    let settings : CacheSettings := ⟨.pages, .planet, .salts⟩
    let java := { Descriptor.home "blog" true with context := .category, category := some "java" }
    let first := page away 0 (Caches.new settings).pages (.fresh java)
    let past : List Call := [.page away 0 (.fresh java), .page patchy 1 first.state.request]
    let shown : PageView := ⟨blog, java, none, none, none, none⟩
    let rendered : Rendered := ⟨.ofJson shown.toJson, some (Cache.pageKey java), true⟩
    (∀ call ∈ past, call.Falters site) ∧
    Memo.record (site.category "blog") (some "java") = some ⟨"java", none⟩ ∧
    (page site 5 (after settings past).pages (.fresh java)).result = .ok rendered ∧
    LostEarlier past java rendered fun request => request.categoryCell.failure? := by
  intro blog site away patchy settings java first past shown rendered
  have awayFalters : site.Falter away := { site.falter_none with weblog := fun _ => .inr ⟨_, rfl⟩ }
  have patchyFalters : site.Falter patchy := { site.falter_none with category := fun _ _ => .inr ⟨_, rfl⟩ }
  have tried := PageRequest.fresh_tried site java
  have onSite : ∀ call ∈ past, call.Falters site := by
    simp only [past, List.forall_mem_cons, List.not_mem_nil, false_implies, implies_true, and_true]
    exact ⟨⟨awayFalters, tried⟩, ⟨patchyFalters, page_tried tried awayFalters 0 _⟩⟩
  have there : Memo.record (site.category "blog") (some "java") = some ⟨"java", none⟩ := rfl
  have answered : (page site 5 (after settings past).pages (.fresh java)).result = .ok rendered :=
    page_remembered patchy site rfl rfl rfl rfl (by decide) rfl rfl
  obtain ⟨view, spelled, records⟩ := (failures_outlast settings site past onSite).2 5 java rendered answered
  refine ⟨onSite, there, answered, ?_⟩
  rcases records.category with found | ⟨_, lost⟩
  · have same := shown_category spelled
    rw [found.trans there] at same
    cases same
  · exact lost

end Runs

end Render

end WeblogFront
