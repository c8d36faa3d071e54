import WeblogFront.Proofs.Request.Lookups
import WeblogFront.Render.Page
import WeblogFront.Site.Contents
import Mathlib.Data.List.Nodup

/-! What a build comes to over a site in memory. Cells that are honest make no difference to it, so it is
settled by the descriptor: either the page is shown, or there is one place at which the build stops, and
the lookups that were made are those up to this place. -/
namespace WeblogFront

namespace Site.Contents

variable {site : Contents} {handle : String} {weblog : Weblog}

/-- The weblog that a handle means: of those that bear it, the last. -/
def Means (site : Contents) (handle : String) (weblog : Weblog) : Prop :=
  weblog.handle = handle ∧
    ∃ before after, site.weblogs = before ++ weblog :: after ∧ ∀ later ∈ after, later.handle ≠ handle

theorem weblog_eq_some_iff : site.weblog? handle = some weblog ↔ site.Means handle weblog := by
  unfold weblog? Means
  rw [List.findRev?_eq_find?_reverse, List.find?_eq_some_iff_append]
  simp only [beq_iff_eq, List.reverse_eq_append_iff, List.reverse_cons, List.append_assoc,
    List.singleton_append, Bool.not_eq_true', beq_eq_false_iff_ne]
  refine and_congr_right fun _ => ⟨?_, ?_⟩
  · rintro ⟨after, before, whole, others⟩
    exact ⟨before.reverse, after.reverse, whole, fun later member => others later (List.mem_reverse.mp member)⟩
  · rintro ⟨before, after, whole, others⟩
    refine ⟨after.reverse, before.reverse, ?_, fun later member => others later (List.mem_reverse.mp member)⟩
    rw [List.reverse_reverse, List.reverse_reverse]
    exact whole

theorem Means.unique {other : Weblog} (means : site.Means handle weblog)
    (also : site.Means handle other) : weblog = other :=
  Option.some.inj ((weblog_eq_some_iff.mpr means).symm.trans (weblog_eq_some_iff.mpr also))

theorem Means.borne (means : site.Means handle weblog) : weblog ∈ site.weblogs := by
  obtain ⟨_, before, after, whole, _⟩ := means
  rw [whole]
  exact List.mem_append_right before List.mem_cons_self

theorem Means.within {α : Type} (means : site.Means handle weblog) (part : Weblog → Option α) :
    site.within handle part = .ok (part weblog) := by
  unfold Contents.within
  rw [weblog_eq_some_iff.mpr means]

end Site.Contents

namespace Render

inductive Stop where
  | weblog
  | entry
  | page
  deriving DecidableEq

def Stop.failure (asked : Descriptor) : Stop → Failure
  | .weblog => .notFound "weblog" asked.handle
  | .entry => .notFound "entry" (asked.entryAnchor.getD "")
  | .page => .notFound "page" (asked.customPage.getD "")

/-- The lookups of a build, in their order: those for the names that are given, up to the place where it
stops. -/
def asks (asked : Descriptor) (stop : Option Stop) : List Site.Question :=
  let weblog := [.weblog asked.handle]
  let entry := (asked.entryAnchor.map (Site.Question.entry asked.handle)).toList
  let template := (asked.customPage.map (Site.Question.template asked.handle)).toList
  let category := (asked.category.map (Site.Question.category asked.handle)).toList
  let theme := (asked.previewTheme.map Site.Question.theme).toList
  match stop with
  | some .weblog => weblog
  | some .entry => weblog ++ entry
  | some .page => weblog ++ entry ++ template
  | none => weblog ++ entry ++ template ++ category ++ theme

section Within

variable {weblog : Site.Weblog} {lookups : Site.Lookups} {request : PageRequest}

def viewOf (weblog : Site.Weblog) (lookups : Site.Lookups) (asked : Descriptor) : PageView where
  weblog := weblog
  descriptor := asked
  entry := Memo.record (lookups.entry asked.handle) asked.entryAnchor
  category := Memo.record (lookups.category asked.handle) asked.category
  template := Memo.record (lookups.template asked.handle) asked.customPage
  theme := Memo.record lookups.theme asked.previewTheme

def stop? (view : PageView) : Option Stop :=
  if view.descriptor.context = .entry ∧ view.entry = none then some .entry
  else if view.descriptor.customPage ≠ none ∧ view.template = none then some .page
  else none

theorem within_cases (weblog : Site.Weblog) (lookups : Site.Lookups) (request : PageRequest)
    {entry : Step PageRequest (Option Site.Entry)} {template : Step PageRequest (Option Site.Template)}
    {category : Step PageRequest (Option Site.Category)} {theme : Step PageRequest (Option Site.Theme)}
    (entryRead : request.entry lookups = entry) (templateRead : entry.state.template lookups = template)
    (categoryRead : template.state.category lookups = category)
    (themeRead : category.state.theme lookups = theme) :
    let view : PageView :=
      ⟨weblog, request.descriptor, entry.result, category.result, template.result, theme.result⟩
    (stop? view = some .entry ∧ buildWithin weblog lookups request =
      ⟨entry.state, .error (Stop.entry.failure request.descriptor), entry.signals⟩) ∨
    (stop? view = some .page ∧ buildWithin weblog lookups request =
      ⟨template.state, .error (Stop.page.failure request.descriptor),
        entry.signals ++ template.signals⟩) ∨
    (stop? view = none ∧ buildWithin weblog lookups request =
      ⟨theme.state, .ok (.ofJson view.toJson),
        entry.signals ++ template.signals ++ category.signals ++ theme.signals ++ [.rendered]⟩) := by
  subst entryRead templateRead categoryRead themeRead
  unfold buildWithin stop?
  dsimp only
  by_cases lacks : request.descriptor.context = .entry ∧ (request.entry lookups).result = none
  · exact .inl ⟨if_pos lacks, if_pos lacks⟩
  · rw [if_neg lacks, if_neg lacks]
    cases named : request.descriptor.customPage with
    | none => exact .inr (.inr ⟨rfl, rfl⟩)
    | some link =>
      cases found : ((request.entry lookups).state.template lookups).result with
      | none => exact .inr (.inl ⟨rfl, by simp [Stop.failure, named]⟩)
      | some template => exact .inr (.inr ⟨rfl, rfl⟩)

theorem view_read (honest : request.Honest lookups) :
    let entry := request.entry lookups
    let template := entry.state.template lookups
    let category := template.state.category lookups
    (⟨weblog, request.descriptor, entry.result, category.result, template.result,
      (category.state.theme lookups).result⟩ : PageView) = viewOf weblog lookups request.descriptor := by
  unfold viewOf
  simp only [PageRequest.entry_ask honest, PageRequest.template_ask, PageRequest.category_ask,
    PageRequest.theme_ask, honest.entry.ask_result, honest.template.ask_result,
    honest.category.ask_result, honest.theme.ask_result]

theorem within_result (honest : request.Honest lookups) :
    (buildWithin weblog lookups request).result =
      let view := viewOf weblog lookups request.descriptor
      match stop? view with
      | some stop => .error (stop.failure request.descriptor)
      | none => .ok (.ofJson view.toJson) := by
  rw [← view_read honest]
  rcases within_cases weblog lookups request rfl rfl rfl rfl with
    ⟨stops, outcome⟩ | ⟨stops, outcome⟩ | ⟨goes, outcome⟩
  · simp only [outcome, stops]
  · simp only [outcome, stops]
  · simp only [outcome, goes]

theorem build_result (honest : request.Honest lookups) :
    (build lookups request).result = (build lookups (.fresh request.descriptor)).result := by
  unfold build
  dsimp only [PageRequest.fresh]
  split
  · rfl
  · rfl
  · exact (within_result honest).trans
      (within_result (PageRequest.fresh_honest lookups request.descriptor)).symm

end Within

section Sites

variable {site : Site.Contents} {weblog : Site.Weblog} {asked : Descriptor}

def LacksEntry (weblog : Site.Weblog) (asked : Descriptor) : Prop :=
  asked.context = .entry ∧ ∀ entry ∈ weblog.entries, some entry.anchor ≠ asked.entryAnchor

def LacksPage (weblog : Site.Weblog) (asked : Descriptor) : Prop :=
  ∃ link, asked.customPage = some link ∧ ∀ template ∈ weblog.templates, template.link ≠ link

/-- Where a build over a site stops: for want of the weblog, else of the entry, else of the template. -/
inductive StopsAt (site : Site.Contents) (asked : Descriptor) : Stop → Prop where
  | weblog (unborne : ∀ weblog ∈ site.weblogs, weblog.handle ≠ asked.handle) : StopsAt site asked .weblog
  | entry {weblog : Site.Weblog} (means : site.Means asked.handle weblog)
      (lacks : LacksEntry weblog asked) : StopsAt site asked .entry
  | page {weblog : Site.Weblog} (means : site.Means asked.handle weblog)
      (has : ¬ LacksEntry weblog asked) (lacks : LacksPage weblog asked) : StopsAt site asked .page

theorem StopsAt.unique {stop other : Stop} (stops : StopsAt site asked stop)
    (also : StopsAt site asked other) : stop = other := by
  cases stops with
  | weblog unborne =>
    cases also with
    | weblog => rfl
    | entry means => exact absurd means.1 (unborne _ means.borne)
    | page means => exact absurd means.1 (unborne _ means.borne)
  | entry means lacks =>
    cases also with
    | weblog unborne => exact absurd means.1 (unborne _ means.borne)
    | entry => rfl
    | page other has => exact absurd (means.unique other ▸ lacks) has
  | page means has =>
    cases also with
    | weblog unborne => exact absurd means.1 (unborne _ means.borne)
    | entry other lacks => exact absurd (other.unique means ▸ lacks) has
    | page => rfl

theorem StopsAt.transfer {origin : Descriptor} {stop : Stop} (stops : StopsAt site origin stop)
    (handle : origin.handle = asked.handle) (context : origin.context = asked.context)
    (entry : origin.entryAnchor = asked.entryAnchor) (page : origin.customPage = asked.customPage) :
    StopsAt site asked stop := by
  cases stops with
  | weblog unborne => exact .weblog (handle ▸ unborne)
  | entry means lacks => exact .entry (handle ▸ means) (by simpa [LacksEntry, context, entry] using lacks)
  | page means has lacks =>
    exact .page (handle ▸ means) (by simpa [LacksEntry, context, entry] using has)
      (by simpa [LacksPage, page] using lacks)

def failure? : Except Failure α → Option Failure
  | .error failure => some failure
  | .ok _ => none

end Sites

end Render

end WeblogFront
