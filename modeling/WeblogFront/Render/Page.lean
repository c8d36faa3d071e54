import WeblogFront.Cache.PageKey
import WeblogFront.Failure
import WeblogFront.Render.View
import WeblogFront.Request.Page

/-! Rendering pages. A page that is not a preview is looked for in the cache first and stored there
afterwards; a preview passes the cache by on both ways. A page is built from what its lookups answer:
the weblog must exist, an entry view must have its entry, and a page of the weblog's own its template. -/
namespace WeblogFront.Render

/-- A document, with the key under which the cache keeps it unless it was made outside the cache. -/
structure Rendered where
  document : Document
  key : Option String
  hit : Bool
  deriving DecidableEq

def visits (descriptor : Descriptor) : List Signal :=
  if descriptor.homepageHit then [.visited .homepage]
  else if descriptor.contentHit then [.visited .content]
  else []

/-- The part of a page that is left once its weblog is known: entry and template, which may be
required, and then category and theme, which never are. -/
def buildWithin (weblog : Site.Weblog) (lookups : Site.Lookups) (request : PageRequest) :
    Step PageRequest (Except Failure Document) :=
  let entry := request.entry lookups
  if request.descriptor.context = .entry ∧ entry.result = none then
    ⟨entry.state, .error (.notFound "entry" (request.descriptor.entryAnchor.getD "")),
      entry.signals⟩
  else
    let template := entry.state.template lookups
    match request.descriptor.customPage, template.result with
    | some link, none =>
      ⟨template.state, .error (.notFound "page" link), entry.signals ++ template.signals⟩
    | _, _ =>
      let category := template.state.category lookups
      let theme := category.state.theme lookups
      ⟨theme.state,
        .ok (.ofJson (PageView.toJson
          ⟨weblog, request.descriptor, entry.result, category.result, template.result,
            theme.result⟩)),
        entry.signals ++ template.signals ++ category.signals ++ theme.signals ++ [.rendered]⟩

def build (lookups : Site.Lookups) (request : PageRequest) :
    Step PageRequest (Except Failure Document) :=
  let handle := request.descriptor.handle
  match lookups.weblog handle with
  | .error failure => ⟨request, .error (.lookup failure), [.asked (.weblog handle)]⟩
  | .ok none => ⟨request, .error (.notFound "weblog" handle), [.asked (.weblog handle)]⟩
  | .ok (some weblog) =>
    let step := buildWithin weblog lookups request
    ⟨step.state, step.result, .asked (.weblog handle) :: step.signals⟩

structure Pages where
  store : Cache.Store Document
  request : PageRequest

/-- A failed build leaves the cache as the look-up left it. -/
def page (lookups : Site.Lookups) (now : Nat) (store : Cache.Store Document)
    (request : PageRequest) : Step Pages (Except Failure Rendered) :=
  let visited := visits request.descriptor
  if request.descriptor.isPreview then
    let built := build lookups request
    ⟨⟨store, built.state⟩, built.result.map fun document => ⟨document, none, false⟩,
      visited ++ built.signals⟩
  else
    let key := Cache.pageKey request.descriptor
    let found := store.get now key
    match found.result with
    | some document =>
      ⟨⟨found.state, request⟩, .ok ⟨document, some key, true⟩, visited ++ found.signals⟩
    | none =>
      let built := build lookups request
      match built.result with
      | .error failure =>
        ⟨⟨found.state, built.state⟩, .error failure, visited ++ found.signals ++ built.signals⟩
      | .ok document =>
        let stored := found.state.put now key document
        ⟨⟨stored.state, built.state⟩, .ok ⟨document, some key, false⟩,
          visited ++ found.signals ++ built.signals ++ stored.signals⟩

end WeblogFront.Render
