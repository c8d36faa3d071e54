import WeblogFront.Site.Lookup

/-! A site in memory. A handle or a theme name that is given twice means its last record; inside a
weblog the first record with a name is the one that answers. -/
namespace WeblogFront.Site

structure Contents where
  themes : List Theme
  weblogs : List Weblog
  deriving DecidableEq

namespace Contents

def empty : Contents := ⟨[], []⟩

def weblog? (site : Contents) (handle : String) : Option Weblog :=
  site.weblogs.findRev? fun weblog => weblog.handle == handle

def theme? (site : Contents) (name : String) : Option Theme :=
  site.themes.findRev? fun theme => theme.name == name

/-- A question about a part of a weblog presupposes the weblog. -/
def within (site : Contents) (handle : String) (part : Weblog → Option α) : Answer α :=
  match site.weblog? handle with
  | some weblog => .ok (part weblog)
  | none => .error (.unknownWeblog handle)

def lookups (site : Contents) : Lookups where
  weblog handle := .ok (site.weblog? handle)
  entry handle anchor :=
    site.within handle fun weblog => weblog.entries.find? fun entry => entry.anchor == anchor
  category handle name :=
    site.within handle fun weblog => weblog.categories.find? fun category => category.name == name
  template handle link :=
    site.within handle fun weblog => weblog.templates.find? fun template => template.link == link
  theme name := .ok (site.theme? name)

def weblogCount (site : Contents) : Nat :=
  (site.weblogs.map (·.handle)).eraseDups.length

end Contents

end WeblogFront.Site
