import WeblogFront.Query
import WeblogFront.Text.Case

/-! Requests for the planet, the view that gathers all weblogs: a kind of view, a flavor when it is a
feed, and the language, group, excerpt and user choices. -/
namespace WeblogFront

structure PlanetRequest where
  context : String
  kind : String
  flavor : Option String
  language : String
  excerpts : Bool
  user : Option String
  group : Option String
  deriving DecidableEq

namespace PlanetRequest

def contextName : String := "planet"

def defaultLanguage : String := "en"

def new (kind language : String) : PlanetRequest :=
  ⟨contextName, kind, none, language, false, none, none⟩

/-- A path is `kind` or `kind/flavor` between any number of slashes, with neither part empty. -/
def splitPath? (path : String) : Option (String × Option String) :=
  match Text.cutOnce '/' (Text.trimEnds (· == '/') path.toList) with
  | ([], _) => none
  | (kind, none) => some (String.ofList kind, none)
  | (kind, some flavor) =>
    if flavor.isEmpty || flavor.contains '/' then none
    else some (String.ofList kind, some (String.ofList flavor))

def nonempty? (text : Option String) : Option String :=
  text.filter fun value => !value.isEmpty

def ofParts? (path : String) (query : Query) (principal : Option String) : Option PlanetRequest :=
  (splitPath? path).map fun parts =>
    { context := contextName
      kind := parts.1
      flavor := parts.2
      language := (nonempty? (query.first? "lang")).getD defaultLanguage
      excerpts := ((query.first? "excerpts").map (Text.isOneOf ["true"])).getD false
      user := principal
      group := nonempty? (query.first? "group") }

end PlanetRequest

end WeblogFront
