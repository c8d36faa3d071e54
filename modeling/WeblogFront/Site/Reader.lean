import WeblogFront.Site.Contents
import WeblogFront.Value

/-! Reading a site from a value. A record is a table with named members, of which unknown ones are
ignored, or a list that gives the members in their order. A member that may be left out may not be
given in another type. -/
namespace WeblogFront.Site

open Value (Surplus)

def members? (surplus : Surplus) (names : List String) (value : Value) :
    Option (List (Option Value)) :=
  value.fields? surplus (names.map fun name => [name])

def text? : Value → Option String
  | .text value => some value
  | _ => none

def requiredText? (member : Option Value) : Option String :=
  member.bind text?

/-- Absent and null both mean that there is no text. -/
def optionalText? : Option Value → Option (Option String)
  | none => some none
  | some .null => some none
  | some value => (text? value).map some

def listOf? (read : Value → Option α) : Option Value → Option (List α)
  | none => some []
  | some (.list items) => items.mapM read
  | some _ => none

def entryFrom? (surplus : Surplus) (value : Value) : Option Entry := do
  match ← members? surplus ["anchor", "title", "category", "tags"] value with
  | [anchor, title, category, tags] =>
    let anchor ← requiredText? anchor
    let title ← requiredText? title
    let category ← optionalText? category
    let tags ← listOf? text? tags
    some ⟨anchor, title, category, tags⟩
  | _ => none

def categoryFrom? (surplus : Surplus) (value : Value) : Option Category := do
  match ← members? surplus ["name", "description"] value with
  | [name, description] =>
    let name ← requiredText? name
    let description ← optionalText? description
    some ⟨name, description⟩
  | _ => none

def templateFrom? (surplus : Surplus) (value : Value) : Option Template := do
  match ← members? surplus ["link", "name", "content_type"] value with
  | [link, name, contentType] =>
    let link ← requiredText? link
    let name ← requiredText? name
    let contentType ← optionalText? contentType
    some ⟨link, name, contentType⟩
  | _ => none

def themeFrom? (surplus : Surplus) (value : Value) : Option Theme := do
  match ← members? surplus ["name", "description"] value with
  | [name, description] =>
    let name ← requiredText? name
    let description ← optionalText? description
    some ⟨name, description⟩
  | _ => none

def weblogMembers : List String :=
  ["handle", "name", "locale", "theme", "entries", "categories", "templates"]

def weblogFrom? (surplus : Surplus) (value : Value) : Option Weblog := do
  match ← members? surplus weblogMembers value with
  | [handle, name, locale, theme, entries, categories, templates] =>
    let handle ← requiredText? handle
    let name ← requiredText? name
    let locale ← optionalText? locale
    let theme ← requiredText? theme
    let entries ← listOf? (entryFrom? surplus) entries
    let categories ← listOf? (categoryFrom? surplus) categories
    let templates ← listOf? (templateFrom? surplus) templates
    some ⟨handle, name, locale, theme, entries, categories, templates⟩
  | _ => none

def Contents.ofValue? (surplus : Surplus) (value : Value) : Option Contents := do
  match ← members? surplus ["themes", "weblogs"] value with
  | [themes, weblogs] =>
    let themes ← listOf? (themeFrom? surplus) themes
    let weblogs ← listOf? (weblogFrom? surplus) weblogs
    some ⟨themes, weblogs⟩
  | _ => none

end WeblogFront.Site
