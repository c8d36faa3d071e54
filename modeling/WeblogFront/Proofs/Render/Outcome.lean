import WeblogFront.Proofs.Render.Build
import WeblogFront.Proofs.Render.History

/-! Whether a page is shown, and why not, is a matter between the request and the site: what a service
rendered, removed or cleared before has no part in it. A page that the cache has was built once for a
request with the same names, and these names are all that could have stopped the build. The lookups
of a render are those of its build, and a page out of the cache needs none. -/
namespace WeblogFront

section Silence

end Silence

namespace Render

section Service

variable {site : Site.Contents} {request : PageRequest}

/-- The call is made on a service over the site: a page request asks nobody else, and whatever answers it
has kept from earlier calls are those of the site. -/
def Call.Over (site : Site.Contents) : Call → Prop
  | .page lookups _ request => lookups = site.lookups ∧ request.Honest site.lookups
  | _ => True

theorem stored_origin {past : List Call} {key : String} {document : Document}
    (onSite : ∀ call ∈ past, call.Over site) (built : BuiltUnder past key document) :
    ∃ now origin, Call.page site.lookups now origin ∈ past ∧ origin.descriptor.isPreview = false ∧
      Cache.pageKey origin.descriptor = key ∧
      (build site.lookups (.fresh origin.descriptor)).result = .ok document := by
  obtain ⟨lookups, now, origin, called, published, keyed, built⟩ := built
  obtain ⟨rfl, honest⟩ := onSite _ called
  exact ⟨now, origin, called, published, keyed, (build_result honest).symm.trans built⟩

end Service

section Outcome

variable {site : Site.Contents} {asked : Descriptor}

def isHit : Except Failure Rendered → Bool
  | .ok rendered => rendered.hit
  | .error _ => false

end Outcome

end Render

end WeblogFront
