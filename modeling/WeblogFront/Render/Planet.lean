import WeblogFront.Cache.Planet
import WeblogFront.Render.Page

/-! Rendering the planet. The view needs the moment of the last update in writing; a moment that cannot
be written fails the view, and nothing is stored. -/
namespace WeblogFront.Render

def planet (clock : Clock) (cache : Cache.Planet) (request : PlanetRequest) :
    Step Cache.Planet (Except Failure Rendered) :=
  let key := Cache.planetKey request
  let found := cache.get clock key
  match found.result with
  | some document => ⟨found.state, .ok ⟨document, some key, true⟩, found.signals⟩
  | none =>
    let updated := found.state.lastModified clock
    match updated.result.rfc3339 with
    | .error component =>
      ⟨updated.state, .error (.unexpected ("failed to format timestamp: " ++ component.message)),
        found.signals ++ updated.signals⟩
    | .ok written =>
      let document := Document.ofJson (request.view written)
      let stored := updated.state.put clock key document
      ⟨stored.state, .ok ⟨document, some key, false⟩,
        found.signals ++ updated.signals ++ stored.signals⟩

end WeblogFront.Render
