import WeblogFront.Memo
import WeblogFront.Request.Descriptor

/-! A page request at work: the descriptor, and beside it what the site has answered for the entry, the
category, the template and the theme that it names. Changing a name forgets the answer that was
given for it. -/
namespace WeblogFront

structure PageRequest where
  descriptor : Descriptor
  entryCell : Memo Site.Entry
  categoryCell : Memo Site.Category
  templateCell : Memo Site.Template
  themeCell : Memo Site.Theme
  deriving DecidableEq

namespace PageRequest

def fresh (descriptor : Descriptor) : PageRequest :=
  ⟨descriptor, .unresolved, .unresolved, .unresolved, .unresolved⟩

/-- A copy keeps the names and asks for itself. -/
def copy (request : PageRequest) : PageRequest :=
  fresh request.descriptor

def setAnchor (request : PageRequest) (anchor : Option String) : PageRequest :=
  { request with
    descriptor := { request.descriptor with anchor := anchor }
    entryCell := .unresolved }

def setDate (request : PageRequest) (date : Option String) : PageRequest :=
  { request with descriptor := { request.descriptor with date := date } }

def setCategory (request : PageRequest) (name : Option String) : PageRequest :=
  { request with
    descriptor := { request.descriptor with category := name }
    categoryCell := .unresolved }

def setCustomPage (request : PageRequest) (link : Option String) : PageRequest :=
  { request with
    descriptor := { request.descriptor with customPage := link }
    templateCell := .unresolved }

def setTags (request : PageRequest) (tags : Option (List String)) : PageRequest :=
  { request with descriptor := { request.descriptor with tags := tags } }

def setPageNumber (request : PageRequest) (number : Nat) : PageRequest :=
  { request with descriptor := { request.descriptor with pageNumber := number } }

def setParameters (request : PageRequest) (parameters : Query) : PageRequest :=
  { request with descriptor := { request.descriptor with parameters := parameters } }

/-- The entry is given outright; no question will be put for it. -/
def setEntry (request : PageRequest) (entry : Site.Entry) : PageRequest :=
  { request with entryCell := .found entry }

def entry (lookups : Site.Lookups) (request : PageRequest) :
    Step PageRequest (Option Site.Entry) :=
  match request.entryCell with
  | .found value => ⟨request, some value, []⟩
  | cell =>
    match request.descriptor.entryAnchor with
    | none => ⟨request, none, []⟩
    | some anchor =>
      let handle := request.descriptor.handle
      let step := cell.resolve "entry" anchor [.asked (.entry handle anchor)]
        (lookups.entry handle anchor)
      ⟨{ request with entryCell := step.state }, step.result, step.signals⟩

def category (lookups : Site.Lookups) (request : PageRequest) :
    Step PageRequest (Option Site.Category) :=
  match request.descriptor.category with
  | none => ⟨request, none, []⟩
  | some name =>
    let handle := request.descriptor.handle
    let step := request.categoryCell.resolve "category" name [.asked (.category handle name)]
      (lookups.category handle name)
    ⟨{ request with categoryCell := step.state }, step.result, step.signals⟩

def template (lookups : Site.Lookups) (request : PageRequest) :
    Step PageRequest (Option Site.Template) :=
  match request.descriptor.customPage with
  | none => ⟨request, none, []⟩
  | some link =>
    let handle := request.descriptor.handle
    let step := request.templateCell.resolve "template" link [.asked (.template handle link)]
      (lookups.template handle link)
    ⟨{ request with templateCell := step.state }, step.result, step.signals⟩

/-- Only a preview names a theme. -/
def theme (lookups : Site.Lookups) (request : PageRequest) :
    Step PageRequest (Option Site.Theme) :=
  match request.descriptor.previewTheme with
  | none => ⟨request, none, []⟩
  | some name =>
    let step := request.themeCell.resolve "theme" name [.asked (.theme name)] (lookups.theme name)
    ⟨{ request with themeCell := step.state }, step.result, step.signals⟩

end PageRequest

end WeblogFront
