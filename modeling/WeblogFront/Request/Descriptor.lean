import WeblogFront.Request.Preview

/-! What a page request asks for, once it is understood. A descriptor is plain data: it holds the names
that select a view, and nothing that a site answers for those names. -/
namespace WeblogFront

inductive PageContext where
  | entry
  | date
  | category
  | page
  | tags
  | home
  deriving DecidableEq

def PageContext.name : PageContext → String
  | .entry => "entry"
  | .date => "date"
  | .category => "category"
  | .page => "page"
  | .tags => "tags"
  | .home => "none"

structure Descriptor where
  handle : String
  locale : Option String
  principal : Option String
  showsIdentity : Bool
  context : PageContext
  anchor : Option String
  date : Option String
  category : Option String
  customPage : Option String
  tags : Option (List String)
  pageNumber : Nat
  parameters : Query
  homepageHit : Bool
  contentHit : Bool
  preview : Option Preview
  deriving DecidableEq

namespace Descriptor

def home (handle : String) (showsIdentity : Bool) : Descriptor where
  handle := handle
  locale := none
  principal := none
  showsIdentity := showsIdentity
  context := .home
  anchor := none
  date := none
  category := none
  customPage := none
  tags := none
  pageNumber := 0
  parameters := .empty
  homepageHit := false
  contentHit := false
  preview := none

/-- A request that hides identity has no user, whoever sent it. -/
def user (descriptor : Descriptor) : Option String :=
  if descriptor.showsIdentity then descriptor.principal else none

def isLoggedIn (descriptor : Descriptor) : Bool :=
  descriptor.user.isSome

def isPreview (descriptor : Descriptor) : Bool :=
  descriptor.preview.isSome

/-- A previewed entry stands in for the one in the path. -/
def entryAnchor (descriptor : Descriptor) : Option String :=
  match descriptor.preview.bind (·.entry) with
  | some anchor => some anchor
  | none => descriptor.anchor

theorem entry_anchor_eq (descriptor : Descriptor) :
    descriptor.entryAnchor = (descriptor.preview.bind (·.entry)).or descriptor.anchor := by
  unfold entryAnchor
  cases descriptor.preview.bind (·.entry) <;> rfl

def previewTheme (descriptor : Descriptor) : Option String :=
  descriptor.preview.bind (·.theme)

end Descriptor

end WeblogFront
