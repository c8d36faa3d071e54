import WeblogFront.Digest.Sha256
import WeblogFront.Request.Descriptor
import WeblogFront.Request.Selector
import WeblogFront.Text.Percent

/-! The key under which a rendered page is stored. A page is identified by what selects it; the key
spells that identity out, a label before each part, every value escaped so that it can pass neither
for a separator nor for a label. Custom parameters enter as a digest. -/
namespace WeblogFront

namespace Query

/-- Every value with its name, all escaped: the text that stands for the parameters. -/
def canonicalText (query : Query) : List Char :=
  query.entries.flatMap fun entry =>
    entry.2.flatMap fun value =>
      Text.segment entry.1.toList ++ '=' :: Text.segment value.toList ++ ['&']

def digest (query : Query) : List Char :=
  (Sha256.hex (Text.octets query.canonicalText)).take 16

end Query

namespace Cache

structure PageIdentity where
  handle : String
  context : PageContext
  customPage : Option String
  entry : Option String
  date : Option String
  category : Option String
  tags : List String
  locale : Option String
  user : Option String
  pageNumber : Nat
  preview : Option (String × String)
  parameters : Option (List Char)
  deriving DecidableEq

namespace PageIdentity

/-- Tags count as a set, and no theme counts as the theme without a name. -/
def of (descriptor : Descriptor) : PageIdentity where
  handle := descriptor.handle
  context := descriptor.context
  customPage := descriptor.customPage
  entry := descriptor.entryAnchor
  date := descriptor.date
  category := descriptor.category
  tags := Request.canonicalTags (descriptor.tags.getD [])
  locale := descriptor.locale
  user := descriptor.user
  pageNumber := descriptor.pageNumber
  preview := descriptor.preview.map fun preview => (preview.theme.getD "", preview.kind)
  parameters := if descriptor.parameters.isEmpty then none else some descriptor.parameters.digest

def segment (text : String) : List Char :=
  Text.segment text.toList

def labelled (label : String) : Option String → List Char
  | none => []
  | some value => label.toList ++ segment value

def joinTags : List String → List Char
  | [] => []
  | [tag] => segment tag
  | tag :: rest => segment tag ++ '+' :: joinTags rest

def tagText : List String → List Char
  | [] => []
  | tags => "/tags/".toList ++ joinTags tags

def numberText (number : Nat) : List Char :=
  if number = 0 then [] else "/page=".toList ++ Text.decimal number

def previewText : Option (String × String) → List Char
  | none => []
  | some (theme, kind) => "/preview=".toList ++ segment theme ++ '/' :: segment kind

def parametersText : Option (List Char) → List Char
  | none => []
  | some digest => "/params=".toList ++ digest

def text (page : PageIdentity) : List Char :=
  "cache.weblogpage:".toList ++ segment page.handle
    ++ "/ctx=".toList ++ page.context.name.toList
    ++ labelled "/page/" page.customPage
    ++ labelled "/entry/" page.entry
    ++ labelled "/date/" page.date
    ++ labelled "/category/" page.category
    ++ tagText page.tags
    ++ labelled "/locale=" page.locale
    ++ labelled "/user=" page.user
    ++ numberText page.pageNumber
    ++ previewText page.preview
    ++ parametersText page.parameters

end PageIdentity

def pageKey (descriptor : Descriptor) : String :=
  String.ofList (PageIdentity.of descriptor).text

def pagesId : String := "cache.weblogpage"

end Cache

end WeblogFront
