import WeblogFront.Failure
import WeblogFront.Files
import WeblogFront.Site.Reader
import WeblogFront.Toml.Reader

/-! Site files: TOML documents that hold a site. -/
namespace WeblogFront.Site

def Contents.parse? (text : String) : Option Contents :=
  (Toml.document? text).bind fun members => Contents.ofValue? .ignored (.table members)

def loadFile (files : Files) (path : String) : Except Failure Contents :=
  match files.readText path with
  | .error trouble => .error (.file trouble.message)
  | .ok text =>
    match Contents.parse? text with
    | some site => .ok site
    | none => .error (.site path "the document describes no site")

end WeblogFront.Site
