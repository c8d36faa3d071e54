import WeblogFront.Text.Json

/-! What a site holds: themes, and weblogs with their entries, categories and templates. -/
namespace WeblogFront.Site

structure Entry where
  anchor : String
  title : String
  category : Option String
  tags : List String
  deriving DecidableEq

structure Category where
  name : String
  description : Option String
  deriving DecidableEq

structure Template where
  link : String
  name : String
  contentType : Option String
  deriving DecidableEq

structure Theme where
  name : String
  description : Option String
  deriving DecidableEq

structure Weblog where
  handle : String
  name : String
  locale : Option String
  theme : String
  entries : List Entry
  categories : List Category
  templates : List Template
  deriving DecidableEq

def Entry.toJson (entry : Entry) : Json :=
  .record [
    ("anchor", .text entry.anchor),
    ("title", .text entry.title),
    ("category", .ofText? entry.category),
    ("tags", .ofTexts entry.tags)]

def Category.toJson (category : Category) : Json :=
  .record [("name", .text category.name), ("description", .ofText? category.description)]

def Template.toJson (template : Template) : Json :=
  .record [
    ("link", .text template.link),
    ("name", .text template.name),
    ("content_type", .ofText? template.contentType)]

def Theme.toJson (theme : Theme) : Json :=
  .record [("name", .text theme.name), ("description", .ofText? theme.description)]

def Weblog.toJson (weblog : Weblog) : Json :=
  .record [
    ("handle", .text weblog.handle),
    ("name", .text weblog.name),
    ("locale", .ofText? weblog.locale),
    ("theme", .text weblog.theme),
    ("entries", .list (weblog.entries.map Entry.toJson)),
    ("categories", .list (weblog.categories.map Category.toJson)),
    ("templates", .list (weblog.templates.map Template.toJson))]

end WeblogFront.Site
