import WeblogFront.Query

/-! What an author may ask of a preview: another theme, a kind of page, an entry that need not be
published. -/
namespace WeblogFront

structure Preview where
  theme : Option String
  kind : String
  entry : Option String
  deriving DecidableEq

namespace Preview

def defaultKind : String := "standard"

/-- The entry is decoded once more than the other two. -/
def ofQuery (query : Query) : Preview where
  theme := query.first? "theme"
  kind := (query.first? "type").getD defaultKind
  entry := (query.first? "previewEntry").map Text.decode

def toJson (preview : Preview) : Json :=
  .record [
    ("theme_name", .ofText? preview.theme),
    ("type", .text preview.kind),
    ("preview_entry", .ofText? preview.entry)]

end Preview

end WeblogFront
