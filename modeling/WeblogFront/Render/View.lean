import WeblogFront.Cache.Document
import WeblogFront.Request.Descriptor
import WeblogFront.Request.Planet
import WeblogFront.Site.Record

/-! Views: the documents that a template is handed. A page view shows the request as it was understood
and the records it resolved to, a planet view shows the request and the moment of the last update. -/
namespace WeblogFront

def viewType : String := "application/json"

def Document.ofJson (view : Json) : Document :=
  ⟨viewType, view.compact⟩

structure PageView where
  weblog : Site.Weblog
  descriptor : Descriptor
  entry : Option Site.Entry
  category : Option Site.Category
  template : Option Site.Template
  theme : Option Site.Theme
  deriving DecidableEq

def Json.ofRecord? (write : α → Json) : Option α → Json
  | some value => write value
  | none => .null

def PageView.toJson (view : PageView) : Json :=
  let asked := view.descriptor
  Json.record [
    ("weblog", .record [
      ("handle", .text view.weblog.handle),
      ("name", .text view.weblog.name),
      ("theme", .text view.weblog.theme)]),
    ("context", .text asked.context.name),
    ("locale", .ofText? asked.locale),
    ("anchor", .ofText? asked.anchor),
    ("date", .ofText? asked.date),
    ("category_name", .ofText? asked.category),
    ("page_name", .ofText? asked.customPage),
    ("tags", .ofTexts? asked.tags),
    ("page_number", .number asked.pageNumber),
    ("user", .ofText? asked.user),
    ("parameters", asked.parameters.toJson),
    ("preview", .ofRecord? Preview.toJson asked.preview),
    ("entry", .ofRecord? Site.Entry.toJson view.entry),
    ("category", .ofRecord? Site.Category.toJson view.category),
    ("template", .ofRecord? Site.Template.toJson view.template),
    ("theme", .ofRecord? Site.Theme.toJson view.theme)]

def PlanetRequest.view (request : PlanetRequest) (lastModified : String) : Json :=
  .record [
    ("context", .text request.context),
    ("type", .text request.kind),
    ("flavor", .ofText? request.flavor),
    ("language", .text request.language),
    ("excerpts", .flag request.excerpts),
    ("authentic_user", .ofText? request.user),
    ("group", .ofText? request.group),
    ("last_modified", .text lastModified)]

end WeblogFront
