import WeblogFront.Request.Descriptor
import WeblogFront.Request.Envelope

/-! From a raw request to a descriptor. The path selects a view first; the parameters `entry`,
`anchor`, `date` and `cat` select only where the path left the choice open, on the homepage and on a
page of the weblog's own. Path and query selectors therefore never mix. -/
namespace WeblogFront.Request

structure Profile where
  mount : String
  showsIdentity : Bool
  previews : Bool
  deriving DecidableEq

namespace Profile

def page : Profile := ⟨"/roller-ui/rendering/page", true, false⟩

def preview : Profile := ⟨"/roller-ui/authoring/preview", false, true⟩

end Profile

def defaultTagLimit : Nat := 3

structure Classifier where
  profile : Profile
  tagLimit : Nat
  deriving DecidableEq

inductive Selection where
  | entry (anchor : String)
  | date (date : String)
  | category (name : String)
  | page (link : String)
  | tagIndex
  | tags (tags : List String)
  deriving DecidableEq

/-- A view is named by the text before the first slash; only the tag view can do without the rest. -/
def select (tagLimit : Nat) (url path : String) : Except Rejection Selection :=
  match Text.cutOnce '/' path.toList with
  | (context, none) =>
    if String.ofList context = "tags" then .ok .tagIndex
    else .error (.bareContext (String.ofList context) url)
  | (context, some rest) =>
    let selector := String.ofList rest
    match String.ofList context with
    | "entry" => .ok (.entry (Text.decode selector))
    | "date" => if isDate selector then .ok (.date selector) else .error (.invalidDate selector url)
    | "category" => .ok (.category (Text.decode selector))
    | "page" => .ok (.page selector)
    | "tags" =>
      let tags := splitTags (Text.decode selector)
      if tags.length ≤ tagLimit then .ok (.tags tags) else .error (.tooManyTags tagLimit url)
    | other => .error (.unsupportedContext other url)

/-- A link with a dot is an asset of the theme, and fetching it is no visit. -/
def isAsset (link : String) : Bool :=
  link.toList.contains '.'

def place (start : Descriptor) (query : Query) : Selection → Descriptor
  | .entry anchor => { start with context := .entry, anchor := some anchor, contentHit := true }
  | .date date => { start with context := .date, date := some date, contentHit := true }
  | .category name => { start with context := .category, category := some name, contentHit := true }
  | .page link =>
    { start with
      context := .page
      customPage := some link
      tags := (query.first? "tags").map fun tags => splitTags (Text.decode tags)
      contentHit := !isAsset link }
  | .tagIndex => { start with context := .tags }
  | .tags tags => { start with context := .tags, tags := some tags, contentHit := true }

/-- An `entry` parameter hides `anchor` even when it is empty, and an empty one selects nothing. -/
def queryAnchor (query : Query) : Option String :=
  ((query.first? "entry").or (query.first? "anchor")).filter fun anchor => !anchor.isEmpty

/-- Once an anchor or a tag list is chosen, `date` and `cat` are not looked at. -/
def placeQuery (placed : Descriptor) (query : Query) (url : String) : Except Rejection Descriptor :=
  match queryAnchor query with
  | some anchor => .ok { placed with anchor := some anchor }
  | none =>
    if placed.anchor.isSome || placed.tags.isSome then .ok placed
    else
      let chosen := { placed with category := (query.first? "cat").map Text.decode }
      match query.first? "date" with
      | some date =>
        if isDate date then .ok { chosen with date := some date } else .error (.invalidDate date url)
      | none => .ok chosen

/-- The path left for the view; a blank one asks for the homepage. -/
def viewPath (envelope : Envelope) : Option String :=
  envelope.rest.filter fun path => !Text.isAllBlank path.toList

def pageNumber (query : Query) : Nat :=
  ((query.first? "page").bind fun text => Text.bounded? Text.maxWord32 text.toList).getD 0

namespace Classifier

def page (tagLimit : Nat) : Classifier := ⟨.page, tagLimit⟩

def preview (tagLimit : Nat) : Classifier := ⟨.preview, tagLimit⟩

def frame (classifier : Classifier) (envelope : Envelope) (raw : RawRequest) : Descriptor :=
  { Descriptor.home envelope.handle classifier.profile.showsIdentity with
    locale := envelope.locale
    principal := if classifier.profile.showsIdentity then raw.principal else none
    pageNumber := pageNumber raw.query
    parameters := raw.query.custom
    preview := if classifier.profile.previews then some (.ofQuery raw.query) else none }

def classify (classifier : Classifier) (raw : RawRequest) : Except Rejection Descriptor :=
  if raw.mount ≠ classifier.profile.mount then .error (.destination raw.mount raw.url)
  else do
    let envelope ← Envelope.read raw
    let start := classifier.frame envelope raw
    match viewPath envelope with
    | none => placeQuery { start with homepageHit := true } raw.query raw.url
    | some path =>
      let selection ← select classifier.tagLimit raw.url path
      let placed := place start raw.query selection
      match selection with
      | .page _ => placeQuery placed raw.query raw.url
      | _ => .ok placed

end Classifier

end WeblogFront.Request
