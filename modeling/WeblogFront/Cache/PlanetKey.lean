import WeblogFront.Request.Planet

/-! The key under which a planet view is stored. A feed is the same for all readers and may carry
excerpts; any other view may differ from user to user and never has excerpts. -/
namespace WeblogFront.Cache

def planetId : String := "cache.planet"

def planetKey (request : PlanetRequest) : String :=
  let head := planetId ++ ":" ++ request.context ++ "/" ++ request.kind
  let middle := match request.flavor with
    | some flavor =>
      "/" ++ flavor ++ "/" ++ request.language ++ (if request.excerpts then "/excerpts" else "")
    | none =>
      "/" ++ request.language ++ (match request.user with
        | some user => "/user=" ++ user
        | none => "")
  let group := match request.group with
    | some group => "/group=" ++ group
    | none => ""
  head ++ middle ++ group

end WeblogFront.Cache
